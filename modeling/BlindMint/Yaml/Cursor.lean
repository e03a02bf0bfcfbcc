/-!
# A place in YAML text

Text is read from a place in it that knows its line, its column and how many characters came before it,
since the layout of YAML text carries its structure. A line ends at a line feed, a carriage return, both
together, or one of three rarer separators.
-/

namespace BlindMint.Yaml

/-- Whether a character may stand in YAML text at all. -/
def isAllowed (c : Char) : Bool :=
  let n := c.toNat
  n = 0x09 || n = 0x0A || n = 0x0D || (0x20 ≤ n && n ≤ 0x7E) || n = 0x85 || (0xA0 ≤ n && n ≤ 0xD7FF) ||
    (0xE000 ≤ n && n ≤ 0xFFFD) || 0x10000 ≤ n

/-- Whether a character is a space or a tab. -/
def isBlank (c : Char) : Bool :=
  c = ' ' || c = '\t'

/-- Whether a character ends a line. -/
def isBreak (c : Char) : Bool :=
  c = '\n' || c = '\r' || c = '\x85' || c = '\u2028' || c = '\u2029'

/-- Whether a character may stand in the name of an anchor or a directive. -/
def isNameChar (c : Char) : Bool :=
  c.isAlphanum || c = '_' || c = '-'

/-- A place in text. -/
structure Cursor where
  /-- The text from this place on. -/
  rest : List Char
  line : Nat := 0
  column : Nat := 0
  /-- The number of characters before this place. -/
  index : Nat := 0
  deriving DecidableEq, Repr

namespace Cursor

/-- The character `n` places further. -/
def peek? (c : Cursor) (n : Nat) : Option Char :=
  c.rest[n]?

/-- Whether a character stands `n` places further. -/
def has (c : Cursor) (n : Nat) (char : Char) : Bool :=
  c.peek? n == some char

/-- Whether one of some characters stands `n` places further. -/
def hasAny (c : Cursor) (n : Nat) (chars : List Char) : Bool :=
  (c.peek? n).any chars.contains

/-- Whether the text ends `n` places further. -/
def endsAt (c : Cursor) (n : Nat) : Bool :=
  (c.peek? n).isNone

/-- Whether a space or a tab stands `n` places further. -/
def blankAt (c : Cursor) (n : Nat) : Bool :=
  (c.peek? n).any isBlank

/-- Whether the end of a line or of the text is `n` places further. -/
def lineEndsAt (c : Cursor) (n : Nat) : Bool :=
  (c.peek? n).all isBreak

/-- Whether a blank, the end of a line or the end of the text is `n` places further. -/
def gapAt (c : Cursor) (n : Nat) : Bool :=
  (c.peek? n).all fun char => isBlank char || isBreak char

/-- The place after one character, which does not end a line. -/
def skip (c : Cursor) : Cursor :=
  match c.rest with
  | [] => c
  | _ :: rest => { c with rest, column := c.column + 1, index := c.index + 1 }

/-- The place after `n` characters, none of which ends a line. -/
def skipMany (c : Cursor) (n : Nat) : Cursor :=
  { c with rest := c.rest.drop n, column := c.column + n, index := c.index + n }

/-- The end of the line at this place as text keeps it, and the start of the next line. -/
def readBreak (c : Cursor) : List Char × Cursor :=
  match c.rest with
  | '\r' :: '\n' :: rest => (['\n'], ⟨rest, c.line + 1, 0, c.index + 2⟩)
  | char :: rest =>
    let kept := if char = '\u2028' ∨ char = '\u2029' then char else '\n'
    if isBreak char then ([kept], ⟨rest, c.line + 1, 0, c.index + 1⟩) else ([], c)
  | [] => ([], c)

/-- The characters from this place on that satisfy a test, none of which ends a line, and the place
after them. -/
def readWhile (c : Cursor) (p : Char → Bool) : List Char × Cursor :=
  let taken := c.rest.takeWhile p
  (taken, c.skipMany taken.length)

/-- The place where text begins, after the mark of the order of bytes that may open it. -/
def start (text : List Char) : Cursor :=
  let c : Cursor := ⟨text, 0, 0, 0⟩
  if c.has 0 '\ufeff' then c.skip else c

/-- The place after the blanks at this place. -/
def skipBlanks (c : Cursor) : Cursor :=
  (c.readWhile isBlank).2

/-- The place at the end of the comment that starts here, if one does. -/
def skipComment (c : Cursor) : Cursor :=
  if c.has 0 '#' then (c.readWhile fun char => !isBreak char).2 else c

/-- Whether three equal characters, which mark the start or the end of a document, open the line here. -/
def isMarker (c : Cursor) (char : Char) : Bool :=
  c.column = 0 && c.has 0 char && c.has 1 char && c.has 2 char && c.gapAt 3

/-- Whether a document starts or ends here. -/
def isDocumentMarker (c : Cursor) : Bool :=
  c.isMarker '-' || c.isMarker '.'

end Cursor

end BlindMint.Yaml
