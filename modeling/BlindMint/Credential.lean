import BlindMint.Certificate.Version
import BlindMint.KeySet
import BlindMint.Signature.Scheme

/-!
# Credentials that sign and check session tokens

The versions of one certificate sign session tokens. The active version is the newest one with a private
key that is older than the rollover time, so that a new version is published before it signs; while
all are younger, the newest one signs. Tokens are checked with the keys of every enabled version of that
certificate and of further ones that only check. A key is known by its thumbprint.

Results:
* `collectKeys_nodup`: no two published keys have the same identifier.
* `select_mem`: the active version is one of those given and has a private key.
-/

namespace BlindMint

/-- Which certificates sign and check, and for how long what was read of them is kept (`SigningCredentialConfig`). -/
structure CredentialSettings where
  /-- The certificate whose versions sign. -/
  certificateId : String := "signing"
  /-- The certificates that only check. -/
  additionalIds : List String := []
  /-- The age beyond which a version may sign. -/
  keyRollover : Duration := 172800
  cacheTtl : Duration := 86400
  deriving DecidableEq, Repr

/-- The private key that signs (`SigningCredential`). -/
structure Credential where
  certificateId : String
  version : String
  kid : String
  key : SigningKey
  deriving DecidableEq, Repr

/-- The public key of one version (`CredentialValidationKey`). -/
structure CredentialKey where
  certificateId : String
  version : String
  kid : String
  key : PublicKey
  deriving DecidableEq, Repr

/-- The credential that signs and the keys that check, as read at one time (`CredentialSnapshot`). -/
structure Snapshot where
  active : Credential
  keys : List CredentialKey
  deriving DecidableEq, Repr

/-- The algorithm of a credential. -/
def Credential.algorithm (c : Credential) : Algorithm := c.key.algorithm

/-- The algorithm of a public key. -/
def CredentialKey.algorithm (k : CredentialKey) : Algorithm := k.key.algorithm

/-- The published record of a key; its numbers are in the dialect of base64 for tokens (`to_jwk`). -/
def CredentialKey.toJwk (k : CredentialKey) : Jwk :=
  let record : Jwk :=
    match k.key with
    | .curve curve point => .ofPoint Base64.urlSafe k.kid curve point
    | .rsa key => .ofRsa Base64.urlSafe k.kid (Octets.minimal key.n) (Octets.minimal key.e)
  record.forSignatures k.algorithm.name

theorem CredentialKey.toJwk_kid (k : CredentialKey) : k.toJwk.kid = k.kid := by
  unfold toJwk
  cases k.key <;> rfl

/-! ## The active version -/

/-- The versions by time of creation, newest first; those created together keep their order. -/
def newestFirst (versions : List CertificateVersion) : List CertificateVersion :=
  versions.mergeSort fun a b => b.createdAt ≤ a.createdAt

/-- Whether a version is older than the rollover time. -/
def CertificateVersion.isSettled (v : CertificateVersion) (now : Instant) (rollover : Duration) : Bool :=
  rollover.capped < now.earlier v.createdAt

/-- The active one of versions that are ordered newest first (`select_active`). -/
def select (versions : List CertificateVersion) (now : Instant) (rollover : Duration) :
    Option CertificateVersion :=
  let signable := versions.filter (·.key.hasPrivate)
  signable.find? (·.isSettled now rollover) <|> signable.head?

theorem select_mem {versions : List CertificateVersion} {now : Instant} {rollover : Duration}
    {v : CertificateVersion} (h : select versions now rollover = some v) :
    v ∈ versions ∧ v.key.hasPrivate = true := by
  rw [← List.mem_filter (p := fun v : CertificateVersion => v.key.hasPrivate)]
  simp only [select, Option.orElse_eq_orElse, Option.orElse_eq_or, Option.or_eq_some_iff] at h
  rcases h with h | ⟨-, h⟩
  · exact List.mem_of_find?_eq_some h
  · exact List.mem_of_head? h

/-- The signing key in a version's key, encoded for signing: the scalar of a curve must be one of its private scalars
(`ec_pkcs8_der`), and two primes of an RSA key must have no common factor. -/
def signingKey (v : CertificateVersion) : Except KeyError SigningKey :=
  match v.key with
  | .curve key =>
    match key.scalar with
    | some bytes =>
      match key.curve.paddedScalar? bytes with
      | some scalar => .ok (.curve key.curve scalar)
      | none => .error (.invalidKeyMaterial ("encode " ++ key.curve.name ++ " key: crypto error"))
    | none => .error (.noPrivateKeyInVersion v.id v.version)
  | .rsa key =>
    match key.private? with
    | some secret =>
      match secret.primes with
      | [p, q] =>
        if Nat.gcd p q = 1 then .ok (.rsa secret)
        else .error (.invalidKeyMaterial "encode RSA key: PKCS#8 cryptographic key data malformed")
      | _ => .ok (.rsa secret)
    | none => .error (.noPrivateKeyInVersion v.id v.version)
  | .unsupported algorithm => .error (.unsupportedKeyFormat algorithm)

/-- The credential of a version (`signing_credential`). -/
def Credential.ofVersion (v : CertificateVersion) : Except KeyError Credential :=
  match signingKey v with
  | .error e => .error e
  | .ok key =>
    match v.key.thumbprint with
    | .error e => .error e
    | .ok kid => .ok ⟨v.id, v.version, kid, key⟩

/-- The credential that signs, of the enabled versions of a certificate. -/
def Credential.active (id : String) (versions : List CertificateVersion) (now : Instant)
    (rollover : Duration) : Except KeyError Credential :=
  if versions.isEmpty then .error (.certificateNotFound id)
  else
    match select (newestFirst versions) now rollover with
    | none => .error (.noSigningVersion id)
    | some v => Credential.ofVersion v

/-! ## The keys that check -/

/-- The public key in a version's key, unless its kind is not supported. -/
def publicKey? (key : CertificateKey) : Option PublicKey :=
  match key with
  | .curve key => some (.curve key.curve key.point)
  | .rsa key => some (.rsa key.pub)
  | .unsupported _ => none

/-- The checking key of a version, unless its kind is not supported. -/
def CredentialKey.ofVersion? (v : CertificateVersion) : Option CredentialKey :=
  match publicKey? v.key, v.key.thumbprint with
  | some key, .ok kid => some ⟨v.id, v.version, kid, key⟩
  | _, _ => none

/-- Add the key of a version, unless one with its identifier is there. -/
def addKey (keys : List CredentialKey) (v : CertificateVersion) : List CredentialKey :=
  match CredentialKey.ofVersion? v with
  | some key => if keys.any (·.kid == key.kid) then keys else keys ++ [key]
  | none => keys

/-- The keys of versions, in order, the first one for each identifier (`collect_validation_keys`). -/
def collectKeys (versions : List CertificateVersion) : List CredentialKey :=
  versions.foldl addKey []

theorem addKey_nodup {keys : List CredentialKey} (h : (keys.map CredentialKey.kid).Nodup)
    (v : CertificateVersion) : ((addKey keys v).map CredentialKey.kid).Nodup := by
  unfold addKey
  split
  · next key _ =>
    split
    · exact h
    · next hk =>
      rw [List.map_append, List.nodup_append]
      refine ⟨h, by simp, ?_⟩
      intro kid hkid other hother heq
      simp only [List.map_cons, List.map_nil, List.mem_singleton] at hother
      obtain ⟨k, hmem, rfl⟩ := List.mem_map.1 hkid
      exact hk (List.any_eq_true.2 ⟨k, hmem, by simp [heq, hother]⟩)
  · exact h

theorem collectKeys_nodup (versions : List CertificateVersion) :
    ((collectKeys versions).map CredentialKey.kid).Nodup := by
  have key : ∀ (vs : List CertificateVersion) (keys : List CredentialKey),
      (keys.map CredentialKey.kid).Nodup → ((vs.foldl addKey keys).map CredentialKey.kid).Nodup := by
    intro vs
    induction vs with
    | nil => intro keys h; exact h
    | cons v vs ih => intro keys h; exact ih _ (addKey_nodup h v)
  exact key versions [] (by simp)

end BlindMint
