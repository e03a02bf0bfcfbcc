import BlindMint.Curve.Point
import BlindMint.KeyError
import BlindMint.Rsa

/-!
# Keys of certificates

A certificate carries an elliptic-curve key, an RSA key, or a key of a kind that is not supported and
known by its algorithm's name alone. The private half may be absent. The thumbprint is a digest of the
public half, so a key and its public half alone have the same one.

Results:
* `CertificateKey.wellSized_ofScalar`: the point of a private scalar has coordinates of the key size.
-/

namespace BlindMint

/-- A key on a curve (`EcKeyMaterial`). -/
structure CurveKey where
  curve : Curve
  /-- The private scalar. -/
  scalar : Option Octets
  /-- The public point. -/
  point : Point
  deriving DecidableEq, Repr

/-- The private half of an RSA key. -/
structure RsaSecret where
  d : Nat
  primes : List Nat
  deriving DecidableEq, Repr

/-- An RSA key (`RsaKeyMaterial`). -/
structure RsaKey where
  pub : RsaPublic
  secret : Option RsaSecret
  deriving DecidableEq, Repr

/-- The private key of an RSA key that has its private half. -/
def RsaKey.private? (key : RsaKey) : Option RsaPrivate :=
  key.secret.map fun secret => ⟨key.pub, secret.d, secret.primes⟩

/-- The key that a certificate carries. -/
inductive CertificateKey where
  | curve (key : CurveKey)
  | rsa (key : RsaKey)
  | unsupported (algorithm : String)
  deriving DecidableEq, Repr

namespace CertificateKey

/-- The key of a private scalar (`from_private_scalar`). -/
def ofScalar (curve : Curve) (scalar : Octets) : Except KeyError CertificateKey :=
  match curve.publicPoint? scalar with
  | some point => .ok (.curve ⟨curve, some scalar, point⟩)
  | none => .error (.scalarOutOfRange curve)

/-- The key of a public point alone (`from_public_point`). -/
def ofPoint (curve : Curve) (point : Point) : CertificateKey :=
  .curve ⟨curve, none, point⟩

/-- Whether the private half is there (`has_private_key`). -/
def hasPrivate : CertificateKey → Bool
  | .curve key => key.scalar.isSome
  | .rsa key => key.secret.isSome
  | .unsupported _ => false

/-- The key without its private half. -/
def withoutPrivate : CertificateKey → CertificateKey
  | .curve key => .curve { key with scalar := none }
  | .rsa key => .rsa { key with secret := none }
  | .unsupported algorithm => .unsupported algorithm

/-- The bytes of the public half: an uncompressed point, or a modulus and an exponent one after the
other. -/
def publicBytes? : CertificateKey → Option Octets
  | .curve key => some key.point.uncompressed
  | .rsa key => some (Octets.minimal key.pub.n ++ Octets.minimal key.pub.e)
  | .unsupported _ => none

/-- The digest of the public half in hexadecimal. -/
def thumbprint : CertificateKey → Except KeyError String
  | .curve key => .ok (Sha2.sha256 key.point.uncompressed).toHex
  | .rsa key => .ok (Sha2.sha256 (Octets.minimal key.pub.n ++ Octets.minimal key.pub.e)).toHex
  | .unsupported algorithm => .error (.unsupportedKeyFormat algorithm)

/-- Whether the coordinates of a point are written with the key size of its curve. -/
def WellSized : CertificateKey → Prop
  | .curve key => key.point.x.length = key.curve.keySize ∧ key.point.y.length = key.curve.keySize
  | .rsa _ => True
  | .unsupported _ => True

theorem wellSized_ofScalar {curve : Curve} {scalar : Octets} {key : CertificateKey}
    (h : ofScalar curve scalar = .ok key) : key.WellSized := by
  unfold ofScalar at h
  split at h
  · next hpoint =>
    obtain rfl := Except.ok.inj h
    exact Curve.length_of_publicPoint? hpoint
  · cases h

end CertificateKey

end BlindMint
