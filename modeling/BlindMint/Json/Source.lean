/-!
# Reading JSON text

A reader takes the text that is left and yields a value and the text after it. The text is a list of
characters in which `none` stands for a byte that belongs to no character, so that text from
ill-formed bytes can be read as far as it goes. Reading fails in one of three ways, and failures are
met in reading order: text that is not JSON, a value of another shape than the one asked for, and text
that ends too early.

This module holds the basic steps: blanks, literal words, characters of strings, numbers.

Results:
* `readChars_plain`: a character that needs no escape is read as itself.
-/

namespace BlindMint.Json

/-- Text to be read; `none` is a byte that belongs to no character. -/
abbrev Source := List (Option Char)

/-- The way in which reading fails. -/
inductive Fault where
  /-- The text is not JSON. -/
  | malformed
  /-- The text is JSON so far, but a value does not have the expected shape. -/
  | mismatch
  /-- The text ends within a value. -/
  | truncated
  deriving DecidableEq, Repr

/-- What a reading step yields: a value and the text after it. -/
abbrev Step (α : Type) := Except Fault (α × Source)

/-- A reading step. -/
abbrev Reader (α : Type) := Source → Step α

/-- The source of a text. -/
def Source.ofString (text : String) : Source :=
  text.toList.map some

/-- Whether a character may stand between the parts of a value. -/
def isBlank (c : Option Char) : Bool :=
  c == some ' ' || c == some '\n' || c == some '\t' || c == some '\r'

/-- The text after its leading blanks. -/
def skipBlanks (source : Source) : Source :=
  source.dropWhile isBlank

/-- Read the rest of a literal word. -/
def readWord : List Char → Source → Except Fault Source
  | [], source => .ok source
  | _ :: _, [] => .error .truncated
  | c :: word, d :: rest => if d = some c then readWord word rest else .error .malformed

/-! ## Characters of strings -/

/-- The value of a hexadecimal digit. -/
def hexDigit? (c : Char) : Option Nat :=
  if '0' ≤ c ∧ c ≤ '9' then some (c.toNat - 48)
  else if 'a' ≤ c ∧ c ≤ 'f' then some (c.toNat - 87)
  else if 'A' ≤ c ∧ c ≤ 'F' then some (c.toNat - 55)
  else none

/-- The character of an escape that is one letter long. -/
def shortEscape? (c : Char) : Option Char :=
  if c = '"' ∨ c = '\\' ∨ c = '/' then some c
  else if c = 'b' then some '\x08'
  else if c = 'f' then some '\x0c'
  else if c = 'n' then some '\n'
  else if c = 'r' then some '\r'
  else if c = 't' then some '\t'
  else none

/-- Bytes that a piece of the text takes. -/
def byteSize (source : Source) : Nat :=
  source.foldl (fun size c => size + (c.map Char.utf8Size).getD 1) 0

/-- Whether four bytes are left, as many as the digits of a numeric escape. -/
def hasFourBytes (source : Source) : Bool :=
  4 ≤ byteSize (source.take 4)

/-- Where the reader stands within a string. -/
inductive StringState where
  /-- Between two characters. -/
  | plain
  /-- After a backslash. -/
  | escape
  /-- Before the last `left + 1` digits of a numeric escape; `value` is what the digits before them
  write, and `high` the first half of a surrogate pair, if one came before. -/
  | digits (left value : Nat) (high : Option Nat)
  /-- After the first half of a surrogate pair. -/
  | pairBackslash (high : Nat)
  /-- After the first half of a surrogate pair and a backslash. -/
  | pairLetter (high : Nat)
  deriving DecidableEq, Repr

/-- What a complete numeric escape of value `n` means: a character, or the first half of a pair. In
strict reading a second half alone is malformed; in lenient reading every value passes. -/
def escapeMeaning (strict : Bool) (high : Option Nat) (n : Nat) :
    Except Fault (Option Char × StringState) :=
  if !strict then .ok (none, .plain)
  else
    match high with
    | some h =>
      if 0xDC00 ≤ n ∧ n ≤ 0xDFFF then
        .ok (some (Char.ofNat (0x10000 + (h - 0xD800) * 0x400 + (n - 0xDC00))), .plain)
      else .error .malformed
    | none =>
      if 0xDC00 ≤ n ∧ n ≤ 0xDFFF then .error .malformed
      else if 0xD800 ≤ n ∧ n ≤ 0xDBFF then .ok (none, .pairBackslash n)
      else .ok (some (Char.ofNat n), .plain)

/-- Read the characters of a string up to its closing quote; `read` holds those before, the last one
first. Strict reading asks for whole characters, lenient reading only for an intact frame of quotes
and escapes. -/
def readChars (strict : Bool) : StringState → (read : List Char) → Reader (List Char)
  | _, _, [] => .error .truncated
  | .plain, read, none :: rest =>
    if strict then .error .malformed else readChars strict .plain read rest
  | .plain, read, some c :: rest =>
    if c = '"' then .ok (read.reverse, rest)
    else if c = '\\' then readChars strict .escape read rest
    else if c.toNat < 0x20 then .error .malformed
    else readChars strict .plain (c :: read) rest
  | .escape, _, none :: _ => .error .malformed
  | .escape, read, some c :: rest =>
    if c = 'u' then
      if hasFourBytes rest then readChars strict (.digits 3 0 none) read rest else .error .truncated
    else
      match shortEscape? c with
      | some d => readChars strict .plain (d :: read) rest
      | none => .error .malformed
  | .digits _ _ _, _, none :: _ => .error .malformed
  | .digits left value high, read, some c :: rest =>
    match hexDigit? c with
    | none => .error .malformed
    | some d =>
      let next := value * 16 + d
      match left with
      | left + 1 => readChars strict (.digits left next high) read rest
      | 0 =>
        match escapeMeaning strict high next with
        | .error fault => .error fault
        | .ok (some c, state) => readChars strict state (c :: read) rest
        | .ok (none, state) => readChars strict state read rest
  | .pairBackslash high, read, c :: rest =>
    if c = some '\\' then readChars strict (.pairLetter high) read rest else .error .malformed
  | .pairLetter high, read, c :: rest =>
    if c = some 'u' then
      if hasFourBytes rest then readChars strict (.digits 3 0 (some high)) read rest
      else .error .truncated
    else .error .malformed

/-- Read a string after its opening quote. -/
def readString : Reader String := fun source =>
  match readChars true .plain [] source with
  | .error fault => .error fault
  | .ok (chars, rest) => .ok (String.ofList chars, rest)

/-- Pass over a string after its opening quote. -/
def skipString (source : Source) : Except Fault Source :=
  match readChars false .plain [] source with
  | .error fault => .error fault
  | .ok (_, rest) => .ok rest

theorem readChars_plain (strict : Bool) (read : List Char) (c : Char) (rest : Source)
    (hq : c ≠ '"') (hb : c ≠ '\\') (hc : 0x20 ≤ c.toNat) :
    readChars strict .plain read (some c :: rest) = readChars strict .plain (c :: read) rest := by
  have : ¬ c.toNat < 0x20 := by omega
  rw [readChars]
  simp [hq, hb, this]

/-! ## Numbers -/

/-- A number as readers see it. -/
inductive Number where
  /-- An integer that fits a signed or an unsigned 64-bit word. -/
  | integer (n : Int)
  /-- Any other number: with a fraction or an exponent, beyond 64 bits, or minus zero. -/
  | inexact
  deriving DecidableEq, Repr

/-- The value of a decimal digit. -/
def digit? (c : Option Char) : Option Nat :=
  match c with
  | some c => if '0' ≤ c ∧ c ≤ '9' then some (c.toNat - 48) else none
  | none => none

/-- The decimal digits at the head of the text, and the text after them. -/
def spanDigits : Source → List Nat × Source
  | [] => ([], [])
  | c :: rest =>
    match digit? c with
    | some d =>
      let (ds, after) := spanDigits rest
      (d :: ds, after)
    | none => ([], c :: rest)

/-- The number that decimal digits write. -/
def ofDigits (ds : List Nat) : Nat :=
  ds.foldl (fun n d => n * 10 + d) 0

/-- Whether `n * 10 ^ exponent` is so large that no binary number of double precision is near it. -/
def exceedsDouble (n : Nat) (exponent : Int) : Bool :=
  let magnitude : Int := (Nat.toDigits 10 n).length + exponent
  if n = 0 ∨ magnitude < 308 then false
  else if magnitude > 310 then true
  else
    let limit := (1 <<< 1024) - (1 <<< 970)
    n * Nat.pow 10 exponent.toNat ≥ limit * Nat.pow 10 (-exponent).toNat

/-- Read digits of which there must be one. -/
def readDigits : Reader (List Nat) := fun source =>
  match spanDigits source with
  | ([], []) => .error .truncated
  | ([], _ :: _) => .error .malformed
  | (ds, rest) => .ok (ds, rest)

/-- Read the fraction of a number, if there is one. -/
def readFraction : Reader (Option (List Nat)) := fun source =>
  match source with
  | some '.' :: rest =>
    match readDigits rest with
    | .error fault => .error fault
    | .ok (ds, rest) => .ok (some ds, rest)
  | _ => .ok (none, source)

/-- Read the exponent of a number, if there is one. -/
def readExponent : Reader (Option Int) := fun source =>
  match source with
  | some c :: rest =>
    if c = 'e' ∨ c = 'E' then
      let (sign, rest) : Int × Source := match rest with
        | some '-' :: rest => (-1, rest)
        | some '+' :: rest => (1, rest)
        | _ => (1, rest)
      match readDigits rest with
      | .error fault => .error fault
      | .ok (ds, rest) => .ok (some (sign * ofDigits ds), rest)
    else .ok (none, source)
  | _ => .ok (none, source)

/-- The number with the given sign, digits, fraction and exponent. -/
def assemble (negative : Bool) (whole : List Nat) (fraction : Option (List Nat))
    (exponent : Option Int) : Except Fault Number :=
  let all := ofDigits (whole ++ fraction.getD [])
  let power := exponent.getD 0 - (fraction.getD []).length
  if exceedsDouble all power then .error .malformed
  else if fraction.isSome || exponent.isSome then .ok .inexact
  else if negative then
    if all = 0 ∨ UInt64.size / 2 < all then .ok .inexact else .ok (.integer (-all))
  else if all < UInt64.size then .ok (.integer all)
  else .ok .inexact

/-- Read the digits of a number after its sign. -/
def readUnsigned (negative : Bool) : Reader Number := fun source =>
  match readDigits source with
  | .error fault => .error fault
  | .ok (0 :: _ :: _, _) => .error .malformed
  | .ok (whole, rest) =>
    match readFraction rest with
    | .error fault => .error fault
    | .ok (fraction, rest) =>
      match readExponent rest with
      | .error fault => .error fault
      | .ok (exponent, rest) =>
        match assemble negative whole fraction exponent with
        | .error fault => .error fault
        | .ok number => .ok (number, rest)

/-- Read a number. -/
def readNumber : Reader Number := fun source =>
  match source with
  | some '-' :: rest => readUnsigned true rest
  | _ => readUnsigned false source

/-- Pass over a number; its size does not matter and its end is never too early. -/
def skipNumber (source : Source) : Except Fault Source :=
  let unsigned := match source with
    | some '-' :: rest => rest
    | _ => source
  match readDigits unsigned with
  | .error _ => .error .malformed
  | .ok (0 :: _ :: _, _) => .error .malformed
  | .ok (_, rest) =>
    match readFraction rest with
    | .error _ => .error .malformed
    | .ok (_, rest) =>
      match readExponent rest with
      | .error _ => .error .malformed
      | .ok (_, rest) => .ok rest

end BlindMint.Json
