import BlindMint.Octets

/-!
# Base64 text

Three bytes are written as four characters of six bits each. A dialect fixes the characters of the
values 62 and 63 and whether a short last group is filled up with equals signs. Reading is strict: the
filling is required or refused as the dialect says, the unused low bits of a short last group are
zero, and any other character is refused. `standard` and `urlSafe` are the two dialects in use.
-/

namespace BlindMint.Base64

/-- The choices that tell the dialects of the encoding apart. -/
structure Dialect where
  /-- The character of the value 62. -/
  char62 : Char
  /-- The character of the value 63. -/
  char63 : Char
  /-- Whether a short last group is filled up with equals signs. -/
  padded : Bool
  deriving DecidableEq, Repr

/-- The dialect with `+` and `/`, filled up. -/
def standard : Dialect := ⟨'+', '/', true⟩

/-- The dialect for names and tokens, with `-` and `_` and no filling. -/
def urlSafe : Dialect := ⟨'-', '_', false⟩

namespace Dialect

/-- The character of a six-bit value. -/
def symbol (d : Dialect) (v : Nat) : Char :=
  if v < 26 then Char.ofNat (65 + v)
  else if v < 52 then Char.ofNat (71 + v)
  else if v < 62 then Char.ofNat (v - 4)
  else if v = 62 then d.char62
  else d.char63

/-- The six-bit value of a character. -/
def value? (d : Dialect) (c : Char) : Option Nat :=
  if 'A' ≤ c ∧ c ≤ 'Z' then some (c.toNat - 65)
  else if 'a' ≤ c ∧ c ≤ 'z' then some (c.toNat - 71)
  else if '0' ≤ c ∧ c ≤ '9' then some (c.toNat + 4)
  else if c = d.char62 then some 62
  else if c = d.char63 then some 63
  else none

/-- The filling of a last group that is `n` characters short. -/
def filling (d : Dialect) (n : Nat) : List Char :=
  if d.padded then List.replicate n '=' else []

/-- The characters of a byte string. -/
def encode (d : Dialect) : Octets → List Char
  | [] => []
  | [a] =>
    let n := a.toNat * 16
    [d.symbol (n / 64), d.symbol (n % 64)] ++ d.filling 2
  | [a, b] =>
    let n := (a.toNat * 256 + b.toNat) * 4
    [d.symbol (n / 4096), d.symbol (n / 64 % 64), d.symbol (n % 64)] ++ d.filling 1
  | a :: b :: c :: rest =>
    let n := (a.toNat * 256 + b.toNat) * 256 + c.toNat
    d.symbol (n / 262144) :: d.symbol (n / 4096 % 64) :: d.symbol (n / 64 % 64) ::
      d.symbol (n % 64) :: encode d rest

/-- The byte that two last characters write. -/
def lastByte? (d : Dialect) (a b : Char) : Option Octets := do
  let n := (← d.value? a) * 64 + (← d.value? b)
  if n % 16 = 0 then some [UInt8.ofNat (n / 16)] else none

/-- The two bytes that three last characters write. -/
def lastTwoBytes? (d : Dialect) (a b c : Char) : Option Octets := do
  let n := ((← d.value? a) * 64 + (← d.value? b)) * 64 + (← d.value? c)
  if n % 4 = 0 then some [UInt8.ofNat (n / 1024), UInt8.ofNat (n / 4)] else none

/-- The three bytes that four characters write. -/
def threeBytes? (d : Dialect) (a b c e : Char) : Option Octets := do
  let n := (((← d.value? a) * 64 + (← d.value? b)) * 64 + (← d.value? c)) * 64 + (← d.value? e)
  some [UInt8.ofNat (n / 65536), UInt8.ofNat (n / 256), UInt8.ofNat n]

/-- The bytes that characters write, if they are the strict encoding of some. -/
def decode? (d : Dialect) : List Char → Option Octets
  | [] => some []
  | [_] => none
  | [a, b] => if d.padded then none else d.lastByte? a b
  | [a, b, c] => if d.padded then none else d.lastTwoBytes? a b c
  | a :: b :: c :: e :: rest =>
    if d.padded ∧ e = '=' ∧ rest = [] then
      if c = '=' then d.lastByte? a b else d.lastTwoBytes? a b c
    else do
      let group ← d.threeBytes? a b c e
      let more ← decode? d rest
      some (group ++ more)

/-- The text of a byte string. -/
def toText (d : Dialect) (bytes : Octets) : String :=
  String.ofList (d.encode bytes)

end Dialect

end BlindMint.Base64
