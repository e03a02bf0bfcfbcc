import BlindMint.Octets

/-!
# The SHA-2 hash functions

The two members of the family in use, with 256 and 384 bits of digest. They share one construction:
the message is filled up to whole blocks and ends with its length in bits, each block is spread over a
schedule of words, and every round of a block mixes one word of the schedule and one constant into
eight working words. `Sha2.Variant` holds what differs; `sha256` and `sha384` are its two values.

Results:
* `Sha2.length_sha256`: a digest of 256 bits has 32 bytes.
-/

namespace BlindMint.Sha2

/-- The eight working words. -/
structure Words (W : Type) where
  a : W
  b : W
  c : W
  d : W
  e : W
  f : W
  g : W
  h : W

/-- What tells the members of the family apart. -/
structure Variant (W : Type) where
  /-- Bytes in a word; a block has sixteen words. -/
  wordSize : Nat
  /-- Bytes of the digest. -/
  digestSize : Nat
  /-- The word of a number, its high bits dropped. -/
  ofNat : Nat → W
  /-- The number of a word. -/
  toNat : W → Nat
  /-- Rotation to the right. -/
  rotate : W → Nat → W
  /-- Shift to the right. -/
  shift : W → Nat → W
  /-- The two rotations and the shift that spread the word after the oldest. -/
  spreadEarly : Nat × Nat × Nat
  /-- The two rotations and the shift that spread the word before the newest. -/
  spreadLate : Nat × Nat × Nat
  /-- The rotations that mix the first working word. -/
  mixFirst : Nat × Nat × Nat
  /-- The rotations that mix the fifth working word. -/
  mixFifth : Nat × Nat × Nat
  /-- One constant for each round. -/
  constants : List W
  /-- The working words before the first block. -/
  initial : Words W

section

variable {W : Type} [Add W] [XorOp W] [AndOp W] [Complement W] (v : Variant W)

/-- Three rotations of a word, combined. -/
def rotations (r : Nat × Nat × Nat) (w : W) : W :=
  v.rotate w r.1 ^^^ v.rotate w r.2.1 ^^^ v.rotate w r.2.2

/-- Two rotations and a shift of a word, combined. -/
def spread (r : Nat × Nat × Nat) (w : W) : W :=
  v.rotate w r.1 ^^^ v.rotate w r.2.1 ^^^ v.shift w r.2.2

/-- One round: the working words and the next sixteen words of the schedule. -/
def round (state : Words W × List W) (constant : W) : Words W × List W :=
  let (s, window) := state
  let word (i : Nat) : W := window.getD i (v.ofNat 0)
  let choice := (s.e &&& s.f) ^^^ (~~~s.e &&& s.g)
  let majority := (s.a &&& s.b) ^^^ (s.a &&& s.c) ^^^ (s.b &&& s.c)
  let t1 := s.h + rotations v v.mixFifth s.e + choice + constant + word 0
  let t2 := rotations v v.mixFirst s.a + majority
  let next := spread v v.spreadLate (word 14) + word 9 + spread v v.spreadEarly (word 1) + word 0
  (⟨t1 + t2, s.a, s.b, s.c, s.d + t1, s.e, s.f, s.g⟩, window.drop 1 ++ [next])

/-- The working words after a block. -/
def compress (s : Words W) (block : List W) : Words W :=
  let (t, _) := v.constants.foldl (round v) (s, block)
  ⟨s.a + t.a, s.b + t.b, s.c + t.c, s.d + t.d, s.e + t.e, s.f + t.f, s.g + t.g, s.h + t.h⟩

/-- Bytes in a block. -/
def Variant.blockSize : Nat := 16 * v.wordSize

/-- The message with a one bit, as many zeros as fill a block, and its length in bits. -/
def padded (message : Octets) : Octets :=
  let used := message.length + 1 + 2 * v.wordSize
  let zeros := (v.blockSize - used % v.blockSize) % v.blockSize
  message ++ [0x80] ++ List.replicate zeros 0 ++ Octets.ofNat (2 * v.wordSize) (8 * message.length)

/-- Consecutive pieces of `size` elements, `count` of them. -/
def pieces {α : Type} (size : Nat) : (count : Nat) → List α → List (List α)
  | 0, _ => []
  | count + 1, xs => xs.take size :: pieces size count (xs.drop size)

/-- The words of a block. -/
def blockWords (block : Octets) : List W :=
  (pieces v.wordSize 16 block).map fun bytes => v.ofNat (Octets.toNat bytes)

/-- The digest of a message. -/
def digest (message : Octets) : Octets :=
  let bytes := padded v message
  let blocks := pieces v.blockSize (bytes.length / v.blockSize) bytes
  let s := blocks.foldl (fun s block => compress v s (blockWords v block)) v.initial
  let words := [s.a, s.b, s.c, s.d, s.e, s.f, s.g, s.h]
  (words.flatMap fun w => Octets.ofNat v.wordSize (v.toNat w)).take v.digestSize

end

/-! ## The two members in use -/

/-- The round constants on 32-bit words. -/
def constants32 : List UInt32 := [
  0x428a2f98, 0x71374491, 0xb5c0fbcf, 0xe9b5dba5, 0x3956c25b, 0x59f111f1, 0x923f82a4,
  0xab1c5ed5, 0xd807aa98, 0x12835b01, 0x243185be, 0x550c7dc3, 0x72be5d74, 0x80deb1fe,
  0x9bdc06a7, 0xc19bf174, 0xe49b69c1, 0xefbe4786, 0x0fc19dc6, 0x240ca1cc, 0x2de92c6f,
  0x4a7484aa, 0x5cb0a9dc, 0x76f988da, 0x983e5152, 0xa831c66d, 0xb00327c8, 0xbf597fc7,
  0xc6e00bf3, 0xd5a79147, 0x06ca6351, 0x14292967, 0x27b70a85, 0x2e1b2138, 0x4d2c6dfc,
  0x53380d13, 0x650a7354, 0x766a0abb, 0x81c2c92e, 0x92722c85, 0xa2bfe8a1, 0xa81a664b,
  0xc24b8b70, 0xc76c51a3, 0xd192e819, 0xd6990624, 0xf40e3585, 0x106aa070, 0x19a4c116,
  0x1e376c08, 0x2748774c, 0x34b0bcb5, 0x391c0cb3, 0x4ed8aa4a, 0x5b9cca4f, 0x682e6ff3,
  0x748f82ee, 0x78a5636f, 0x84c87814, 0x8cc70208, 0x90befffa, 0xa4506ceb, 0xbef9a3f7,
  0xc67178f2]

/-- The round constants on 64-bit words. -/
def constants64 : List UInt64 := [
  0x428a2f98d728ae22, 0x7137449123ef65cd, 0xb5c0fbcfec4d3b2f, 0xe9b5dba58189dbbc,
  0x3956c25bf348b538, 0x59f111f1b605d019, 0x923f82a4af194f9b, 0xab1c5ed5da6d8118,
  0xd807aa98a3030242, 0x12835b0145706fbe, 0x243185be4ee4b28c, 0x550c7dc3d5ffb4e2,
  0x72be5d74f27b896f, 0x80deb1fe3b1696b1, 0x9bdc06a725c71235, 0xc19bf174cf692694,
  0xe49b69c19ef14ad2, 0xefbe4786384f25e3, 0x0fc19dc68b8cd5b5, 0x240ca1cc77ac9c65,
  0x2de92c6f592b0275, 0x4a7484aa6ea6e483, 0x5cb0a9dcbd41fbd4, 0x76f988da831153b5,
  0x983e5152ee66dfab, 0xa831c66d2db43210, 0xb00327c898fb213f, 0xbf597fc7beef0ee4,
  0xc6e00bf33da88fc2, 0xd5a79147930aa725, 0x06ca6351e003826f, 0x142929670a0e6e70,
  0x27b70a8546d22ffc, 0x2e1b21385c26c926, 0x4d2c6dfc5ac42aed, 0x53380d139d95b3df,
  0x650a73548baf63de, 0x766a0abb3c77b2a8, 0x81c2c92e47edaee6, 0x92722c851482353b,
  0xa2bfe8a14cf10364, 0xa81a664bbc423001, 0xc24b8b70d0f89791, 0xc76c51a30654be30,
  0xd192e819d6ef5218, 0xd69906245565a910, 0xf40e35855771202a, 0x106aa07032bbd1b8,
  0x19a4c116b8d2d0c8, 0x1e376c085141ab53, 0x2748774cdf8eeb99, 0x34b0bcb5e19b48a8,
  0x391c0cb3c5c95a63, 0x4ed8aa4ae3418acb, 0x5b9cca4f7763e373, 0x682e6ff3d6b2b8a3,
  0x748f82ee5defb2fc, 0x78a5636f43172f60, 0x84c87814a1f0ab72, 0x8cc702081a6439ec,
  0x90befffa23631e28, 0xa4506cebde82bde9, 0xbef9a3f7b2c67915, 0xc67178f2e372532b,
  0xca273eceea26619c, 0xd186b8c721c0c207, 0xeada7dd6cde0eb1e, 0xf57d4f7fee6ed178,
  0x06f067aa72176fba, 0x0a637dc5a2c898a6, 0x113f9804bef90dae, 0x1b710b35131c471b,
  0x28db77f523047d84, 0x32caab7b40c72493, 0x3c9ebe0a15c9bebc, 0x431d67c49c100d4c,
  0x4cc5d4becb3e42b6, 0x597f299cfc657e2a, 0x5fcb6fab3ad6faec, 0x6c44198c4a475817]

/-- The member with a digest of 256 bits. -/
def variant256 : Variant UInt32 where
  wordSize := 4
  digestSize := 32
  ofNat := UInt32.ofNat
  toNat := UInt32.toNat
  rotate w n := (w >>> UInt32.ofNat n) ||| (w <<< UInt32.ofNat (32 - n))
  shift w n := w >>> UInt32.ofNat n
  spreadEarly := (7, 18, 3)
  spreadLate := (17, 19, 10)
  mixFirst := (2, 13, 22)
  mixFifth := (6, 11, 25)
  constants := constants32
  initial := ⟨0x6a09e667, 0xbb67ae85, 0x3c6ef372, 0xa54ff53a,
  0x510e527f, 0x9b05688c, 0x1f83d9ab, 0x5be0cd19⟩

/-- The member with a digest of 384 bits. -/
def variant384 : Variant UInt64 where
  wordSize := 8
  digestSize := 48
  ofNat := UInt64.ofNat
  toNat := UInt64.toNat
  rotate w n := (w >>> UInt64.ofNat n) ||| (w <<< UInt64.ofNat (64 - n))
  shift w n := w >>> UInt64.ofNat n
  spreadEarly := (1, 8, 7)
  spreadLate := (19, 61, 6)
  mixFirst := (28, 34, 39)
  mixFifth := (14, 18, 41)
  constants := constants64
  initial := ⟨0xcbbb9d5dc1059ed8, 0x629a292a367cd507, 0x9159015a3070dd17, 0x152fecd8f70e5939,
  0x67332667ffc00b31, 0x8eb44a8768581511, 0xdb0c2e0d64f98fa7, 0x47b5481dbefa4fa4⟩

/-- The 256-bit digest of a message. -/
def sha256 (message : Octets) : Octets := digest variant256 message

/-- The 384-bit digest of a message. -/
def sha384 (message : Octets) : Octets := digest variant384 message

theorem length_sha256 (message : Octets) : (sha256 message).length = 32 := by
  simp [sha256, digest, variant256]

end BlindMint.Sha2
