import BlindMint.Octets

/-!
# Tagged binary encoding

Key documents are trees of items; an item has a tag, a length and a content. Reading is strict: known
tags in their low form, definite lengths in their shortest form, and nothing left over. The readers of
this module take one content apart: into its items, into an unsigned integer, into a bit string.

Results:
* `Der.readItem_length`: reading an item takes at least one byte.
-/

namespace BlindMint.Der

/-- A tagged content. -/
structure Item where
  tag : UInt8
  content : Octets
  deriving DecidableEq, Repr

/-! ## Tags -/

/-- The tag of an integer. -/
def integerTag : UInt8 := 0x02

/-- The tag of a bit string. -/
def bitStringTag : UInt8 := 0x03

/-- The tag of an octet string. -/
def octetStringTag : UInt8 := 0x04

/-- The tag of a null. -/
def nullTag : UInt8 := 0x05

/-- The tag of an object identifier. -/
def identifierTag : UInt8 := 0x06

/-- The tag of a sequence. -/
def sequenceTag : UInt8 := 0x30

/-- The tags of the universal class that are known. -/
def universalTags : List UInt8 :=
  [0x01, 0x02, 0x03, 0x04, 0x05, 0x06, 0x09, 0x0A, 0x0C, 0x12, 0x13, 0x14, 0x15, 0x16, 0x17, 0x18, 0x1A,
    0x1E, 0x30, 0x31]

/-- Whether a tag is known: of the universal class, or of another class with a number below 31. -/
def isTag (tag : UInt8) : Bool :=
  if tag < 0x40 then universalTags.contains tag else tag &&& 0x1F != 0x1F

/-! ## Items -/

/-- The least length whose shortest form has `count` bytes after the first one. -/
def leastLength (count : Nat) : Nat :=
  if count = 1 then 0x80 else Octets.capacity (count - 1)

/-- Read a length that is written in `count` bytes, and the bytes after it. -/
def readLongLength (count : Nat) (bytes : Octets) : Option (Nat × Octets) :=
  let digits := bytes.take count
  let size := Octets.toNat digits
  if 1 ≤ count ∧ count ≤ 4 ∧ digits.length = count ∧ leastLength count ≤ size then
    some (size, bytes.drop count)
  else none

/-- Read a length in its shortest form, of at most four bytes, and the bytes after it. -/
def readLength : Octets → Option (Nat × Octets)
  | [] => none
  | b :: rest => if b < 0x80 then some (b.toNat, rest) else readLongLength (b.toNat - 0x80) rest

/-- Read an item and the bytes after it. -/
def readItem : Octets → Option (Item × Octets)
  | [] => none
  | tag :: rest =>
    if isTag tag then
      match readLength rest with
      | some (size, body) =>
        if size ≤ body.length then some (⟨tag, body.take size⟩, body.drop size) else none
      | none => none
    else none

theorem readLongLength_length {count size : Nat} {bytes rest : Octets}
    (h : readLongLength count bytes = some (size, rest)) : rest.length ≤ bytes.length := by
  unfold readLongLength at h
  dsimp only at h
  split at h
  · simp only [Option.some.injEq, Prod.mk.injEq] at h
    simp [← h.2]
  · cases h

theorem readLength_length {bytes rest : Octets} {size : Nat} (h : readLength bytes = some (size, rest)) :
    rest.length < bytes.length := by
  cases bytes with
  | nil => simp [readLength] at h
  | cons b bytes =>
    rw [readLength] at h
    split at h
    · simp only [Option.some.injEq, Prod.mk.injEq] at h
      simp [h.2]
    · exact Nat.lt_succ_of_le (readLongLength_length h)

theorem readItem_length {bytes rest : Octets} {item : Item} (h : readItem bytes = some (item, rest)) :
    rest.length < bytes.length := by
  cases bytes with
  | nil => simp [readItem] at h
  | cons tag bytes =>
    simp only [readItem] at h
    split at h
    · split at h
      · next size body hl =>
        split at h
        · simp only [Option.some.injEq, Prod.mk.injEq] at h
          obtain ⟨-, rfl⟩ := h
          have := readLength_length hl
          simp
          omega
        · cases h
      · cases h
    · cases h

/-- All items of a content, with nothing left over. -/
def readItems (bytes : Octets) : Option (List Item) :=
  if bytes = [] then some []
  else
    match _h : readItem bytes with
    | none => none
    | some (item, rest) => (readItems rest).map (item :: ·)
  termination_by bytes.length
  decreasing_by exact readItem_length _h

/-- The only item of a content. -/
def readOnly (bytes : Octets) : Option Item :=
  match readItem bytes with
  | some (item, []) => some item
  | _ => none

/-- The content of an item with the given tag. -/
def Item.expect (item : Item) (tag : UInt8) : Option Octets :=
  if item.tag = tag then some item.content else none

/-- The items of a sequence. -/
def Item.sequence (item : Item) : Option (List Item) :=
  match item.expect sequenceTag with
  | some content => readItems content
  | none => none

/-! ## Contents -/

/-- The number of an integer item that is not negative and in its shortest form. -/
def Item.unsigned (item : Item) : Option Nat :=
  match item.expect integerTag with
  | none => none
  | some [] => none
  | some [b] => if b < 0x80 then some b.toNat else none
  | some (0 :: c :: rest) => if 0x80 ≤ c then some (Octets.toNat (c :: rest)) else none
  | some (b :: rest) => if b < 0x80 then some (Octets.toNat (b :: rest)) else none

/-- The bytes of a bit string content that is a whole number of bytes. -/
def wholeBytes : Octets → Option Octets
  | 0 :: bytes => some bytes
  | _ => none

/-- The bytes of a bit string item that is a whole number of bytes. -/
def Item.bits (item : Item) : Option Octets :=
  match item.expect bitStringTag with
  | some content => wholeBytes content
  | none => none

/-- Whether the components of an object identifier after the first two are well formed: `taken` bytes of
the current one have been read, and a component's fifth byte may not go beyond 32 bits. -/
def areComponents : (taken : Nat) → Octets → Bool
  | taken, [] => taken == 0
  | taken, b :: rest =>
    if 4 ≤ taken ∧ 0x10 ≤ b then false
    else areComponents (if b < 0x80 then 0 else taken + 1) rest

/-- Whether bytes are the content of an object identifier. -/
def isIdentifier (bytes : Octets) : Bool :=
  match bytes with
  | [] => false
  | first :: rest => 3 ≤ bytes.length && bytes.length ≤ 39 && first < 120 && areComponents 0 rest

end BlindMint.Der
