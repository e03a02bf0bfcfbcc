import BlindMint.Curve.Point
import BlindMint.Hash.Hkdf

/-!
# Signatures on a curve

A signature is a pair of numbers below the group order, each written with the key size. The message is
hashed to as many bits as the order has. Both the greater and the smaller of the two signatures that
differ in the sign of their second number are right.

The secret number of each signature is derived from the key and the message, so that signing is a
function and no number serves two messages.
-/

namespace BlindMint.Ecdsa

/-- The digest of a message, as many bits as the order of the curve. -/
def digest : Curve → Octets → Octets
  | .p256, message => Sha2.sha256 message
  | .p384, message => Sha2.sha384 message

/-- The public point in two coordinates of the key size, if the bytes of both together are such a point. -/
def publicKey? (curve : Curve) (point : Point) : Option (Nat × Nat) :=
  let bytes := point.x ++ point.y
  let x := Octets.toNat (bytes.take curve.keySize)
  let y := Octets.toNat (bytes.drop curve.keySize)
  if bytes.length = 2 * curve.keySize ∧ curve.onCurve x y then some (x, y) else none

/-- Whether two numbers are a signature over a digest. -/
def checksNumbers (curve : Curve) (key : Nat × Nat) (digest r s : Nat) : Bool :=
  let p := curve.prime
  let n := curve.order
  let w := Modular.inverse s n
  let a := Curve.Jacobian.multiple p (digest * w % n) (.ofAffine curve.generator)
  let b := Curve.Jacobian.multiple p (r * w % n) (.ofAffine key)
  let sum := Curve.Jacobian.add p a b
  1 ≤ r && r < n && 1 ≤ s && s < n && sum.z != 0 && (sum.toAffine p).1 % n == r

/-- Whether a signature over a message is right. -/
def checks (curve : Curve) (point : Point) (message signature : Octets) : Bool :=
  let size := curve.keySize
  match publicKey? curve point with
  | none => false
  | some key =>
    signature.length == 2 * size &&
      checksNumbers curve key (digest curve message).toNat (Octets.toNat (signature.take size))
        (Octets.toNat (signature.drop size))

/-- The secret number of the attempt with the given index, between one and the order less one. -/
def secretNumber (curve : Curve) (scalar digest : Octets) (index : Nat) : Nat :=
  let bytes := Hkdf.derive scalar (digest ++ Octets.ofNat 4 index) (curve.keySize + 8)
  bytes.toNat % (curve.order - 1) + 1

/-- The signature of attempts from `index` on; an attempt fails if one of its numbers is zero. -/
def attempt (curve : Curve) (scalar digest : Octets) : (remaining index : Nat) → Option Octets
  | 0, _ => none
  | remaining + 1, index =>
    let n := curve.order
    let k := secretNumber curve scalar digest index
    let r := (curve.generatorMultiple k).1 % n
    let s := Modular.inverse k n * ((digest.toNat + r * scalar.toNat) % n) % n
    if r = 0 ∨ s = 0 then attempt curve scalar digest remaining (index + 1)
    else some (Octets.ofNat curve.keySize r ++ Octets.ofNat curve.keySize s)

/-- A signature over a message with a private scalar. -/
def sign? (curve : Curve) (scalar message : Octets) : Option Octets :=
  attempt curve scalar (digest curve message) 16 0

end BlindMint.Ecdsa
