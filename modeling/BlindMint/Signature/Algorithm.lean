import BlindMint.Curve

/-!
# Signature algorithms of tokens

The algorithms that a token's header can name. A key on a curve signs with its curve's algorithm, and an
RSA key with `rs256`; the others are known by name only.
-/

namespace BlindMint

/-- An algorithm that a token's header can name. -/
inductive Algorithm where
  | hs256 | hs384 | hs512
  | es256 | es384
  | rs256 | rs384 | rs512
  | ps256 | ps384 | ps512
  | edDsa
  deriving DecidableEq, Repr

namespace Algorithm

/-- The algorithms by name. -/
def names : List (String × Algorithm) := [
  ("HS256", hs256), ("HS384", hs384), ("HS512", hs512), ("ES256", es256), ("ES384", es384),
  ("RS256", rs256), ("RS384", rs384), ("RS512", rs512), ("PS256", ps256), ("PS384", ps384),
  ("PS512", ps512), ("EdDSA", edDsa)]

/-- The name of an algorithm. -/
def name : Algorithm → String
  | hs256 => "HS256"
  | hs384 => "HS384"
  | hs512 => "HS512"
  | es256 => "ES256"
  | es384 => "ES384"
  | rs256 => "RS256"
  | rs384 => "RS384"
  | rs512 => "RS512"
  | ps256 => "PS256"
  | ps384 => "PS384"
  | ps512 => "PS512"
  | edDsa => "EdDSA"

/-- The algorithm of keys on a curve (`jwt_algorithm`). -/
def ofCurve : Curve → Algorithm
  | .p256 => es256
  | .p384 => es384

theorem lookup_name (a : Algorithm) : names.lookup a.name = some a := by
  cases a <;> decide +kernel

end Algorithm

end BlindMint
