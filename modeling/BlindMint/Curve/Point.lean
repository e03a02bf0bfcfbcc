import BlindMint.Curve.Group

/-!
# Public points and private scalars

A public point holds its two coordinates as bytes. A private scalar is a byte string of the curve's key
size whose value is at least one and below the group order; `Curve.publicPoint?` maps it to its public
point and refuses every other byte string.

Results:
* `Curve.publicPoint?_isSome_iff`: a byte string has a public point iff it is a private scalar.
* `Curve.length_of_publicPoint?`, `Curve.length_of_decodePoint?`: both coordinates have the curve's key size.
-/

namespace BlindMint

/-- A public point: its coordinates, most significant byte first (`EcPoint`). -/
structure Point where
  x : Octets
  y : Octets
  deriving DecidableEq, Repr, Inhabited

namespace Point

/-- The uncompressed encoding: the byte 4 and both coordinates (`to_sec1_uncompressed`). -/
def uncompressed (point : Point) : Octets :=
  4 :: (point.x ++ point.y)

end Point

namespace Curve

/-- Whether a byte string is a private scalar: of the key size, not zero and below the order. -/
def isScalar (curve : Curve) (scalar : Octets) : Bool :=
  scalar.length == curve.keySize && scalar.toNat != 0 && scalar.toNat < curve.order

/-- The private scalar of some bytes (`from_slice`): of the key size, or shorter but of 24 bytes at least
and then filled up with zeros in front. -/
def paddedScalar? (curve : Curve) (bytes : Octets) : Option Octets :=
  let scalar := List.replicate (curve.keySize - bytes.length) 0 ++ bytes
  if 24 ≤ bytes.length ∧ curve.isScalar scalar then some scalar else none

theorem isScalar_of_paddedScalar? {curve : Curve} {bytes scalar : Octets}
    (h : curve.paddedScalar? bytes = some scalar) : curve.isScalar scalar = true := by
  obtain ⟨hscalar, h⟩ := Option.ite_none_right_eq_some.mp h
  obtain rfl := Option.some.inj h
  exact hscalar.2

/-- The point with the given coordinates, written with the key size. -/
def point (curve : Curve) (coordinates : Nat × Nat) : Point :=
  ⟨Octets.ofNat curve.keySize coordinates.1, Octets.ofNat curve.keySize coordinates.2⟩

/-- The public point of a private scalar (`public_point`). -/
def publicPoint? (curve : Curve) (scalar : Octets) : Option Point :=
  if curve.isScalar scalar then some (curve.point (curve.generatorMultiple scalar.toNat)) else none

theorem publicPoint?_isSome_iff (curve : Curve) (scalar : Octets) :
    (curve.publicPoint? scalar).isSome = true ↔
      scalar.length = curve.keySize ∧ 1 ≤ scalar.toNat ∧ scalar.toNat < curve.order := by
  unfold publicPoint? isScalar
  split <;> simp_all <;> omega

theorem length_of_publicPoint? {curve : Curve} {scalar : Octets} {p : Point}
    (h : curve.publicPoint? scalar = some p) :
    p.x.length = curve.keySize ∧ p.y.length = curve.keySize := by
  unfold publicPoint? at h
  split at h
  · obtain rfl := Option.some.inj h
    exact ⟨Octets.length_ofNat _ _, Octets.length_ofNat _ _⟩
  · cases h

/-! ## Encoded points -/

/-- The forms in which a point is encoded. -/
inductive PointForm where
  /-- Both coordinates. -/
  | uncompressed
  /-- The abscissa and the parity of the ordinate. -/
  | compressed
  /-- The abscissa alone; the smaller ordinate is meant. -/
  | compact
  deriving DecidableEq, Repr

/-- Read an encoded point; the neutral element and coordinates off the curve are refused. -/
def decodePoint? (curve : Curve) (encoded : Octets) : Option (PointForm × Point) :=
  let size := curve.keySize
  match encoded with
  | [] => none
  | tag :: body =>
    let x := Octets.toNat (body.take size)
    if tag = 4 then
      let y := Octets.toNat (body.drop size)
      if body.length = 2 * size ∧ curve.onCurve x y then some (.uncompressed, curve.point (x, y)) else none
    else if body.length = size ∧ x < curve.prime then
      match curve.ordinates? x with
      | none => none
      | some (even, odd) =>
        if tag = 2 then some (.compressed, curve.point (x, even))
        else if tag = 3 then some (.compressed, curve.point (x, odd))
        else if tag = 5 then some (.compact, curve.point (x, min even odd))
        else none
    else none

theorem length_of_decodePoint? {curve : Curve} {encoded : Octets} {form : PointForm} {p : Point}
    (h : curve.decodePoint? encoded = some (form, p)) : p.x.length = curve.keySize ∧ p.y.length = curve.keySize := by
  have hpoint : ∃ coordinates, p = curve.point coordinates := by
    unfold decodePoint? at h
    split at h
    · cases h
    · dsimp only at h
      split at h
      · obtain ⟨-, h⟩ := Option.ite_none_right_eq_some.mp h
        exact ⟨_, (Prod.mk.inj (Option.some.inj h)).2.symm⟩
      · obtain ⟨-, h⟩ := Option.ite_none_right_eq_some.mp h
        split at h
        · cases h
        · split at h
          · exact ⟨_, (Prod.mk.inj (Option.some.inj h)).2.symm⟩
          · split at h
            · exact ⟨_, (Prod.mk.inj (Option.some.inj h)).2.symm⟩
            · obtain ⟨-, h⟩ := Option.ite_none_right_eq_some.mp h
              exact ⟨_, (Prod.mk.inj (Option.some.inj h)).2.symm⟩
  obtain ⟨coordinates, rfl⟩ := hpoint
  exact ⟨Octets.length_ofNat _ _, Octets.length_ofNat _ _⟩

end Curve

end BlindMint
