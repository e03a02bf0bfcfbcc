/-!
# Octets: strings of bytes

A byte string is a list of bytes. It is read as a number with the most significant byte first
(`Octets.toNat`), and a number is written with a given width (`Octets.ofNat`) or with as few bytes
as it needs (`Octets.minimal`). Hexadecimal text has two lowercase digits for a byte.

Results:
* `Octets.length_ofNat`, `Octets.toNat_ofNat`: a number below `capacity size` is written with
  `size` bytes and reads back.
* `Octets.toNat_minimal`, `Octets.minimal_inj`: the shortest byte string reads back.
* `Octets.toHex_inj`: hexadecimal text is that of one byte string.
-/

namespace BlindMint

/-- A string of bytes. -/
abbrev Octets := List UInt8

namespace Octets

/-- The number a byte string writes, most significant byte first. -/
def toNat (bytes : Octets) : Nat :=
  bytes.foldl (fun n b => n * 256 + b.toNat) 0

/-- The `size` low bytes of a number, most significant byte first. -/
def ofNat : (size n : Nat) → Octets
  | 0, _ => []
  | size + 1, n => ofNat size (n / 256) ++ [UInt8.ofNat n]

/-- How many numbers can be written with `size` bytes. -/
def capacity : (size : Nat) → Nat
  | 0 => 1
  | size + 1 => capacity size * 256

/-- The shortest byte string that writes the number; zero takes one byte. -/
def minimal (n : Nat) : Octets :=
  ofNat (n.log2 / 8 + 1) n

theorem toNat_append_singleton (bytes : Octets) (b : UInt8) :
    toNat (bytes ++ [b]) = toNat bytes * 256 + b.toNat := by
  simp [toNat]

@[simp] theorem length_ofNat (size n : Nat) : (ofNat size n).length = size := by
  induction size generalizing n with
  | zero => rfl
  | succ size ih => simp [ofNat, ih]

theorem toNat_ofNat {size n : Nat} (h : n < capacity size) : toNat (ofNat size n) = n := by
  induction size generalizing n with
  | zero =>
    have : n = 0 := by simpa [capacity] using h
    simp [ofNat, toNat, this]
  | succ size ih =>
    have hq : n / 256 < capacity size := by
      rw [Nat.div_lt_iff_lt_mul (by decide)]
      simpa [capacity] using h
    rw [ofNat, toNat_append_singleton, ih hq]
    simp only [UInt8.toNat_ofNat']
    omega

theorem capacity_eq (size : Nat) : capacity size = Nat.pow 2 (8 * size) := by
  induction size with
  | zero => rfl
  | succ size ih =>
    rw [capacity, ih]
    exact (Nat.pow_add 2 (8 * size) 8).symm

theorem toNat_minimal (n : Nat) : toNat (minimal n) = n := by
  refine toNat_ofNat ?_
  rw [capacity_eq]
  calc n < 2 ^ (n.log2 + 1) := Nat.lt_log2_self
    _ ≤ 2 ^ (8 * (n.log2 / 8 + 1)) := Nat.pow_le_pow_right (by decide) (by omega)

theorem minimal_inj {m n : Nat} (h : minimal m = minimal n) : m = n := by
  rw [← toNat_minimal m, h, toNat_minimal]

/-! ## Hexadecimal text -/

/-- The hexadecimal digit of a number below sixteen. -/
def hexDigit (n : Nat) : Char :=
  if n < 10 then Char.ofNat (48 + n) else Char.ofNat (87 + n)

/-- Two lowercase hexadecimal digits for each byte. -/
def hexDigits (bytes : Octets) : List Char :=
  bytes.flatMap fun b => [hexDigit (b.toNat / 16), hexDigit (b.toNat % 16)]

/-- The hexadecimal text of a byte string. -/
def toHex (bytes : Octets) : String :=
  String.ofList (hexDigits bytes)

theorem hexDigit_inj : ∀ m < 16, ∀ n < 16, hexDigit m = hexDigit n → m = n := by decide

theorem hexDigits_inj {a b : Octets} (h : hexDigits a = hexDigits b) : a = b := by
  induction a generalizing b with
  | nil =>
    cases b with
    | nil => rfl
    | cons d rest => simp [hexDigits] at h
  | cons c bytes ih =>
    cases b with
    | nil => simp [hexDigits] at h
    | cons d rest =>
      have hc := c.toNat_lt
      have hd := d.toNat_lt
      simp only [hexDigits, List.flatMap_cons, List.cons_append, List.nil_append, List.cons.injEq] at h
      have hhigh := hexDigit_inj _ (by omega) _ (by omega) h.1
      have hlow := hexDigit_inj _ (by omega) _ (by omega) h.2.1
      rw [ih h.2.2, UInt8.toNat_inj.1 (by omega : c.toNat = d.toNat)]

theorem toHex_inj {a b : Octets} (h : a.toHex = b.toHex) : a = b :=
  hexDigits_inj (String.ofList_injective h)

end Octets

end BlindMint
