import BlindMint.Curve
import BlindMint.Modular

/-!
# The group of a curve

Points in Jacobian coordinates: `(x, y, z)` stands for the affine point `(x / z ^ 2, y / z ^ 3)`, and
`z = 0` for the neutral element. Multiples are computed by doubling and adding over the bits of the
factor.
-/

namespace BlindMint.Curve

/-- A point in Jacobian coordinates. -/
structure Jacobian where
  x : Nat
  y : Nat
  z : Nat
  deriving DecidableEq, Repr

namespace Jacobian

/-- The neutral element. -/
def neutral : Jacobian := ⟨1, 1, 0⟩

/-- The affine point `(x, y)`. -/
def ofAffine (point : Nat × Nat) : Jacobian := ⟨point.1, point.2, 1⟩

/-- Twice a point. -/
def double (p : Nat) (a : Jacobian) : Jacobian :=
  if a.z = 0 ∨ a.y = 0 then neutral
  else
    let delta := a.z * a.z % p
    let gamma := a.y * a.y % p
    let beta := a.x * gamma % p
    let alpha := 3 * (Modular.sub a.x delta p * (a.x + delta)) % p
    let x := Modular.sub (alpha * alpha) (8 * beta) p
    let z := 2 * (a.y * a.z) % p
    let y := Modular.sub (alpha * Modular.sub (4 * beta) x p) (8 * (gamma * gamma)) p
    ⟨x, y, z⟩

/-- The sum of two points. -/
def add (p : Nat) (a b : Jacobian) : Jacobian :=
  if a.z = 0 then b
  else if b.z = 0 then a
  else
    let za := a.z * a.z % p
    let zb := b.z * b.z % p
    let ua := a.x * zb % p
    let ub := b.x * za % p
    let sa := a.y * b.z % p * zb % p
    let sb := b.y * a.z % p * za % p
    if ua = ub then
      if sa = sb then double p a else neutral
    else
      let h := Modular.sub ub ua p
      let r := Modular.sub sb sa p
      let hh := h * h % p
      let hhh := h * hh % p
      let v := ua * hh % p
      let x := Modular.sub (r * r) (hhh + 2 * v) p
      let y := Modular.sub (r * Modular.sub v x p) (sa * hhh) p
      ⟨x, y, h * a.z % p * b.z % p⟩

/-- A multiple of a point. -/
def multiple (p factor : Nat) (a : Jacobian) : Jacobian :=
  (Modular.bits factor).foldl
    (fun acc bit => let twice := double p acc; if bit then add p twice a else twice) neutral

/-- The affine coordinates of a point other than the neutral element. -/
def toAffine (p : Nat) (a : Jacobian) : Nat × Nat :=
  let inverse := Modular.inverse a.z p
  let square := inverse * inverse % p
  (a.x * square % p, a.y * (square * inverse % p) % p)

end Jacobian

/-- Whether reduced coordinates satisfy the curve's equation. -/
def onCurve (curve : Curve) (x y : Nat) : Bool :=
  let p := curve.prime
  x < p && y < p && y * y % p == Modular.sub (x * x % p * x + curve.constant) (3 * x) p

/-- The two square roots that have the curve's right-hand side at `x` as their square, the even one
first, if there are any. -/
def ordinates? (curve : Curve) (x : Nat) : Option (Nat × Nat) :=
  let p := curve.prime
  let square := Modular.sub (x * x % p * x + curve.constant) (3 * x) p
  let root := Modular.pow square ((p + 1) / 4) p
  if root * root % p = square then
    let other := Modular.sub 0 root p
    if root % 2 = 0 then some (root, other) else some (other, root)
  else none

/-- The affine coordinates of a multiple of the generator. -/
def generatorMultiple (curve : Curve) (factor : Nat) : Nat × Nat :=
  (Jacobian.multiple curve.prime factor (.ofAffine curve.generator)).toAffine curve.prime

end BlindMint.Curve
