import BlindMint.Octets
import BlindMint.Text.Blank

/-!
# The two elliptic curves

Keys live on one of two prime-order curves `y ^ 2 = x ^ 3 - 3 x + b` over a prime field. A curve is
known by its published name and by a few aliases, which are read without regard to ASCII case or to
blanks around them. Scalars and coordinates are written with `Curve.keySize` bytes.
-/

namespace BlindMint

/-- A supported curve (`CurveName`). -/
inductive Curve where
  /-- The curve with an order of 256 bits. -/
  | p256
  /-- The curve with an order of 384 bits. -/
  | p384
  deriving DecidableEq, Repr, Inhabited

namespace Curve

/-- The published name (`as_str`). -/
def name : Curve → String
  | .p256 => "P-256"
  | .p384 => "P-384"

/-- The names by which a curve is known, in lower case. -/
def aliases : Curve → List String
  | .p256 => ["p-256", "p256", "nistp256", "secp256r1", "prime256v1"]
  | .p384 => ["p-384", "p384", "nistp384", "secp384r1"]

/-- A name as it is compared: without blanks around it and in lower case. -/
def normalName (text : String) : String :=
  Text.lowerAscii (Text.trim text)

/-- The curve that is known by a name (`from_str`). -/
def ofName? (text : String) : Option Curve :=
  [p256, p384].find? fun curve => curve.aliases.contains (normalName text)

/-- Bits of the group order (`order_bits`). -/
def orderBits : Curve → Nat
  | .p256 => 256
  | .p384 => 384

/-- Bytes of a scalar and of a coordinate (`key_byte_size`). -/
def keySize (curve : Curve) : Nat :=
  (curve.orderBits + 7) / 8

/-- The order of the group. -/
def order : Curve → Nat
  | .p256 => 0xffffffff00000000ffffffffffffffffbce6faada7179e84f3b9cac2fc632551
  | .p384 => 0xffffffffffffffffffffffffffffffffffffffffffffffffc7634d81f4372ddf581a0db248b0a77aecec196accc52973

/-- The order of the field. -/
def prime : Curve → Nat
  | .p256 => 0xffffffff00000001000000000000000000000000ffffffffffffffffffffffff
  | .p384 => 0xfffffffffffffffffffffffffffffffffffffffffffffffffffffffffffffffeffffffff0000000000000000ffffffff

/-- The constant term of the curve's equation. -/
def constant : Curve → Nat
  | .p256 => 0x5ac635d8aa3a93e7b3ebbd55769886bc651d06b0cc53b0f63bce3c3e27d2604b
  | .p384 => 0xb3312fa7e23ee7e4988e056be3f82d19181d9c6efe8141120314088f5013875ac656398d8a2ed19d2a85c8edd3ec2aef

/-- The coordinates of the point that generates the group. -/
def generator : Curve → Nat × Nat
  | .p256 => (0x6b17d1f2e12c4247f8bce6e563a440f277037d812deb33a0f4a13945d898c296,
      0x4fe342e2fe1a7f9b8ee7eb4a7c0f9e162bce33576b315ececbb6406837bf51f5)
  | .p384 =>
    (0xaa87ca22be8b05378eb1c71ef320ad746e1d3b628ba79b9859f741e082542a385502f25dbf55296c3a545e3872760ab7,
      0x3617de4a96262c6f5d9e98bf9292dc29f8f41dbd289a147ce9da3113b5f0b8c00a60b1ce1d7e819d7a431d7c90ea0e5f)

end Curve

end BlindMint
