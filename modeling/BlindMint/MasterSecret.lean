import BlindMint.Json.Document
import BlindMint.Text.Utf8
import BlindMint.World

/-!
# The master secret

Key pairs are derived from the private key of one certificate. A key on a curve gives its private scalar
as it is. An RSA key gives the text of its numbers, each as the shortest bytes in the dialect of base64
for tokens, in one document with a fixed order of members.

Results:
* `MasterSecret.ofCertificate_curve`: the secret of a curve key is its scalar.
-/

namespace BlindMint

namespace MasterSecret

/-- A number as the export writes it. -/
def exportNumber (n : Nat) : Json.Document :=
  .text (Base64.urlSafe.toText (Octets.minimal n))

/-- The document of an RSA private key with two prime factors (`rsa_parameter_export`). -/
def exportDocument (pub : RsaPublic) (d p q : Nat) : Json.Document :=
  .object [("kty", .text "RSA"), ("n", exportNumber pub.n), ("e", exportNumber pub.e),
    ("d", exportNumber d), ("p", exportNumber p), ("q", exportNumber q)]

/-- The secret of an RSA private key: the text of its numbers and of its first two prime factors
(`rsa_parameter_export`). -/
def ofRsa (key : RsaPrivate) : Except KeyError MasterSecret :=
  match key.primes with
  | p :: q :: _ => .ok ⟨Utf8.encode (exportDocument key.pub key.d p q).write⟩
  | _ => .error .missingPrimes

/-- The secret of a certificate's newest version; `id` is the identifier it was looked up by. -/
def ofCertificate (id : String) (v : CertificateVersion) : Except KeyError MasterSecret :=
  match v.key with
  | .curve key =>
    match key.scalar with
    | some scalar => .ok ⟨scalar⟩
    | none => .error (.noPrivateKey id "EC")
  | .rsa key =>
    match key.private? with
    | some secret => ofRsa secret
    | none => .error (.noPrivateKey id "RSA")
  | .unsupported algorithm => .error (.unsuitableMaster id algorithm)

/-- Whether a key is an RSA private key, whose use as master key is counted. -/
def isRsaPrivate : CertificateKey → Bool
  | .rsa key => key.secret.isSome
  | _ => false

theorem ofCertificate_curve {id : String} {v : CertificateVersion} {key : CurveKey} {scalar : Octets}
    (hk : v.key = .curve key) (hs : key.scalar = some scalar) : ofCertificate id v = .ok ⟨scalar⟩ := by
  simp [ofCertificate, hk, hs]

end MasterSecret

/-- Load the master secret from the newest enabled version of a certificate (`load`). -/
def World.loadMasterSecret (w : World) (id : String) : Except KeyError MasterSecret × World :=
  match w.lookUpCertificate id with
  | (.error e, w) => (.error e, w)
  | (.ok none, w) => (.error (.certificateNotFound id), w)
  | (.ok (some v), w) =>
    let w := if MasterSecret.isRsaPrivate v.key then w.count .rsaMasterKey 1 else w
    (MasterSecret.ofCertificate id v, w)

end BlindMint
