import BlindMint.Certificate.Key
import BlindMint.Signature.Algorithm
import BlindMint.Signature.Ecdsa

/-!
# Signing and checking

What token signing needs of its keys: a scheme signs with a private key and checks with a public one. The
service takes a scheme as a parameter; `Scheme.standard` is the one in use.

`Scheme.Accepts` says that a scheme accepts under a public key whatever was signed with a private key.
-/

namespace BlindMint

/-- A private key that signs tokens. -/
inductive SigningKey where
  | curve (curve : Curve) (scalar : Octets)
  | rsa (key : RsaPrivate)
  deriving DecidableEq, Repr

/-- A public key that checks tokens (`CredentialPublicKey`). -/
inductive PublicKey where
  | curve (curve : Curve) (point : Point)
  | rsa (key : RsaPublic)
  deriving DecidableEq, Repr

/-- The algorithm of a signing key. -/
def SigningKey.algorithm : SigningKey → Algorithm
  | .curve c _ => .ofCurve c
  | .rsa _ => .rs256

/-- The algorithm of a public key. -/
def PublicKey.algorithm : PublicKey → Algorithm
  | .curve c _ => .ofCurve c
  | .rsa _ => .rs256

/-- Signing with private keys and checking with public ones. -/
structure Scheme where
  sign : SigningKey → (message : Octets) → Except TokenFault Octets
  checks : PublicKey → (message signature : Octets) → Bool

namespace Scheme

/-- A scheme accepts under `pub` every signature that it makes with `key`. -/
def Accepts (scheme : Scheme) (key : SigningKey) (pub : PublicKey) : Prop :=
  ∀ message signature, scheme.sign key message = .ok signature →
    scheme.checks pub message signature = true

/-- The scheme in use. -/
def standard : Scheme where
  sign key message :=
    match key with
    | .curve curve scalar =>
      match Ecdsa.sign? curve scalar message with
      | some signature => .ok signature
      | none => .error .signing
    | .rsa key => if key.isFitForSigning then .ok (key.sign message) else .error .unfitRsaKey
  checks key message signature :=
    match key with
    | .curve curve point => Ecdsa.checks curve point message signature
    | .rsa key => key.checks message signature

end Scheme

end BlindMint
