import BlindMint.Text.Utf8
import BlindMint.Yaml.Scalar

/-!
# Anchors, tags and directives

A node may carry a name by which it can be repeated, and a tag. A tag is a handle and the rest of an
identifier; what a handle stands for is said by directives before the document. Percent signs in a tag
escape bytes.
-/

namespace BlindMint.Yaml

/-- A tag as it is written. -/
structure Tag where
  /-- The handle; empty if the rest is the whole identifier. -/
  handle : List Char
  rest : List Char
  deriving DecidableEq, Repr

/-- A directive before a document. -/
inductive Directive where
  /-- The version of the language. -/
  | version (major minor : Nat)
  /-- What a handle stands for. -/
  | handle (handle expansion : List Char)
  deriving DecidableEq, Repr

/-- Read the name of an anchor after its mark. -/
def readAnchor (c : Cursor) : Option (List Char × Cursor) :=
  let (name, after) := c.skip.readWhile isNameChar
  if name.isEmpty then none
  else if after.gapAt 0 || after.hasAny 0 ['?', ':', ',', ']', '}', '%', '@', '\x60'] then some (name, after)
  else none

/-! ## Tags -/

/-- Whether a character may stand in a tag; between angle brackets a few more may. -/
def isTagChar (bracketed : Bool) (c : Char) : Bool :=
  isNameChar c || [';', '/', '?', ':', '@', '&', '=', '+', '$', '.', '%', '!', '~', '*', '\'', '(',
    ')'].contains c || (bracketed && [',', '[', ']'].contains c)

/-- The number of bytes of the character that a byte starts. -/
def leadSize? (b : Nat) : Option Nat :=
  if b < 0x80 then some 1
  else if b / 0x20 = 6 then some 2
  else if b / 0x10 = 14 then some 3
  else if b / 0x08 = 30 then some 4
  else none

/-- The byte of the escape at a place. -/
def escapedByte? (c : Cursor) : Option Nat := do
  if c.has 0 '%' then
    let high ← (c.peek? 1).bind hexDigit?
    let low ← (c.peek? 2).bind hexDigit?
    some (high * 16 + low)
  else none

/-- Read the escapes of the bytes that follow a character's first one. -/
def readEscapedBytes : (count : Nat) → Cursor → Option (List UInt8 × Cursor)
  | 0, c => some ([], c)
  | count + 1, c => do
    let b ← escapedByte? c
    if b / 0x40 ≠ 2 then none
    else do
      let (bytes, after) ← readEscapedBytes count (c.skipMany 3)
      some (UInt8.ofNat b :: bytes, after)

/-- Read the escapes of one character. -/
def readEscapedChar (c : Cursor) : Option (List Char × Cursor) := do
  let b ← escapedByte? c
  let size ← leadSize? b
  let (bytes, after) ← readEscapedBytes (size - 1) (c.skipMany 3)
  some ((Utf8.scan (UInt8.ofNat b :: bytes)).map fun char => char.getD '\ufffd', after)

/-- Read the characters of a tag from a place on. -/
def readTagChars (bracketed : Bool) : (fuel : Nat) → Cursor → Option (List Char × Cursor)
  | 0, c => some ([], c)
  | fuel + 1, c =>
    match c.peek? 0 with
    | none => some ([], c)
    | some char =>
      if !isTagChar bracketed char then some ([], c)
      else do
        let (read, after) ← if char = '%' then readEscapedChar c else some ([char], c.skip)
        let (more, after) ← readTagChars bracketed fuel after
        some (read ++ more, after)

/-- Read a tag's identifier that starts with what was already read as its handle. -/
def readTagRest (bracketed : Bool) (head : List Char) (c : Cursor) : Option (List Char × Cursor) := do
  let (chars, after) ← readTagChars bracketed (c.rest.length + 1) c
  if head.isEmpty && chars.isEmpty then none else some (head.drop 1 ++ chars, after)

/-- Read a handle. In a directive a handle is a mark alone or a name between two marks. -/
def readHandle (directive : Bool) (c : Cursor) : Option (List Char × Cursor) :=
  if !c.has 0 '!' then none
  else
    let (name, after) := c.skip.readWhile isNameChar
    if after.has 0 '!' then some ('!' :: name ++ ['!'], after.skip)
    else if directive && !name.isEmpty then none
    else some ('!' :: name, after)

/-- Read a tag that may not be followed by just anything. -/
def readTag (flow : Bool) (c : Cursor) : Option (Tag × Cursor) := do
  let (tag, after) : Tag × Cursor ←
    if c.has 1 '<' then do
      let (rest, after) ← readTagRest true [] (c.skipMany 2)
      if after.has 0 '>' then some (⟨[], rest⟩, after.skip) else none
    else do
      let (handle, after) ← readHandle false c
      if handle.length ≥ 2 && handle.getLast? = some '!' then do
        let (rest, after) ← readTagRest false [] after
        some (⟨handle, rest⟩, after)
      else do
        let (rest, after) ← readTagRest false handle after
        if rest.isEmpty then some (⟨[], ['!']⟩, after) else some (⟨['!'], rest⟩, after)
  if after.gapAt 0 || (flow && after.has 0 ',') then some (tag, after) else none

/-! ## Directives -/

/-- The most digits that a version's number may have. -/
def maxVersionDigits : Nat := 9

/-- Read a number of a version. -/
def readVersionNumber (c : Cursor) : Option (Nat × Cursor) :=
  let (digits, after) := c.readWhile Char.isDigit
  if digits.isEmpty || maxVersionDigits < digits.length then none
  else some (digits.foldl (fun n d => n * 10 + (d.toNat - 48)) 0, after)

/-- Read what a directive says, after its name. -/
def readDirectiveValue (name : List Char) (c : Cursor) : Option (Directive × Cursor) :=
  if name = "YAML".toList then do
    let (major, c) ← readVersionNumber c.skipBlanks
    if c.has 0 '.' then do
      let (minor, c) ← readVersionNumber c.skip
      some (.version major minor, c)
    else none
  else if name = "TAG".toList then do
    let (handle, c) ← readHandle true c.skipBlanks
    if !c.blankAt 0 then none
    else do
      let (expansion, c) ← readTagRest true [] c.skipBlanks
      if c.gapAt 0 then some (.handle handle expansion, c) else none
  else none

/-- Read a directive up to the end of its line. -/
def readDirective (c : Cursor) : Option (Directive × Cursor) := do
  let (name, c) := c.skip.readWhile isNameChar
  if name.isEmpty || !c.gapAt 0 then none
  else do
    let (directive, c) ← readDirectiveValue name c
    let c := c.skipBlanks.skipComment
    if c.lineEndsAt 0 then some (directive, c.readBreak.2) else none

end BlindMint.Yaml
