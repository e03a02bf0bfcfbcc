import BlindMint.Hash.Sha2

/-!
# Keyed hashing and key expansion

The keyed hash over the 256-bit digest, and the extract-and-expand derivation built from it with empty
context information. One derivation yields at most 255 digests, 8160 bytes; `Hkdf.derive?` refuses more.
`length_derive` says that an answer has exactly the length asked for.
-/

namespace BlindMint

/-- The keyed hash: a key longer than a block is hashed first. -/
def hmacSha256 (key message : Octets) : Octets :=
  let short := if key.length ≤ 64 then key else Sha2.sha256 key
  let full := short ++ List.replicate (64 - short.length) 0
  let inner := Sha2.sha256 (full.map (· ^^^ 0x36) ++ message)
  Sha2.sha256 (full.map (· ^^^ 0x5c) ++ inner)

@[simp] theorem length_hmacSha256 (key message : Octets) : (hmacSha256 key message).length = 32 :=
  Sha2.length_sha256 _

namespace Hkdf

/-- The greatest number of bytes that one derivation yields. -/
def maxLength : Nat := 255 * 32

/-- `count` further digests after `previous`, the first one numbered `index`. -/
def expandBlocks (key : Octets) : (count index : Nat) → (previous : Octets) → Octets
  | 0, _, _ => []
  | count + 1, index, previous =>
    let block := hmacSha256 key (previous ++ [UInt8.ofNat index])
    block ++ expandBlocks key count (index + 1) block

/-- The first `size` bytes derived from a secret and a salt; the size is not checked. -/
def derive (ikm salt : Octets) (size : Nat) : Octets :=
  (expandBlocks (hmacSha256 salt ikm) ((size + 31) / 32) 1 []).take size

/-- The first `size` bytes derived from a secret and a salt, if one derivation yields that many. -/
def derive? (ikm salt : Octets) (size : Nat) : Option Octets :=
  if size ≤ maxLength then some (derive ikm salt size) else none

theorem length_expandBlocks (key : Octets) (count index : Nat) (previous : Octets) :
    (expandBlocks key count index previous).length = 32 * count := by
  induction count generalizing index previous with
  | zero => rfl
  | succ count ih =>
    simp only [expandBlocks, List.length_append, length_hmacSha256, ih]
    omega

theorem length_derive (ikm salt : Octets) (size : Nat) : (derive ikm salt size).length = size := by
  simp only [derive, List.length_take, length_expandBlocks]
  omega

end Hkdf

end BlindMint
