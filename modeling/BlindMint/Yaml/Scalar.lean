import BlindMint.Yaml.Cursor

/-!
# Scalars as text

A scalar is written plain, between quotes, or as an indented block. Lines of a plain or a quoted scalar are
folded: one line end becomes a space, and each further one is kept. In a block the layout is kept or folded
as its header says, and the header also says what becomes of the line ends after the last line.

The readers take a place at the start of a scalar and yield its text and the place after it, or nothing if
the text is ill-formed. Each takes fuel of one more than the characters left.
-/

namespace BlindMint.Yaml

/-- What stands between two words of a scalar. -/
inductive Gap where
  | blanks (text : List Char)
  /-- One line end and those after it. -/
  | lines (leading trailing : List Char)
  deriving DecidableEq, Repr

namespace Gap

/-- Whether a gap holds a line end. -/
def isLines : Gap → Bool
  | .blanks _ => false
  | .lines _ _ => true

/-- What a gap becomes when it is folded. -/
def fold : Gap → List Char
  | .blanks text => text
  | .lines leading trailing =>
    if leading.head? = some '\n' then if trailing.isEmpty then [' '] else trailing
    else leading ++ trailing

end Gap

/-- Read a gap. Before the column `tabLimit`, a tab after a line end is ill-formed. -/
def readGap (tabLimit : Nat) : (fuel : Nat) → Gap → Cursor → Option (Gap × Cursor)
  | 0, gap, c => some (gap, c)
  | fuel + 1, gap, c =>
    match c.peek? 0 with
    | none => some (gap, c)
    | some char =>
      if isBlank char then
        match gap with
        | .blanks text => readGap tabLimit fuel (.blanks (text ++ [char])) c.skip
        | .lines _ _ =>
          if c.column < tabLimit ∧ char = '\t' then none else readGap tabLimit fuel gap c.skip
      else if isBreak char then
        let (kept, after) := c.readBreak
        match gap with
        | .blanks _ => readGap tabLimit fuel (.lines kept []) after
        | .lines leading trailing => readGap tabLimit fuel (.lines leading (trailing ++ kept)) after
      else some (gap, c)

/-! ## Plain scalars -/

/-- Read the characters of a plain word; in a flow collection its brackets and commas end it. -/
def plainWord (flow : Bool) : List Char → Option (List Char)
  | [] => some []
  | char :: rest =>
    if isBlank char || isBreak char then some []
    else if flow && char = ':' && rest.head?.any [',', '?', '[', ']', '{', '}'].contains then none
    else if char = ':' && rest.head?.all fun next => isBlank next || isBreak next then some []
    else if flow && [',', '[', ']', '{', '}'].contains char then some []
    else (plainWord flow rest).map (char :: ·)

/-- Read the rest of a plain scalar, of which `text` has been read and `gap` follows. The result also says
whether the scalar ends after a line end. -/
def readPlainFrom (flow : Bool) (indent : Int) :
    (fuel : Nat) → (text : List Char) → Gap → Cursor → Option (List Char × Bool × Cursor)
  | 0, text, gap, c => some (text, gap.isLines, c)
  | fuel + 1, text, gap, c =>
    if c.isDocumentMarker || c.has 0 '#' then some (text, gap.isLines, c)
    else
      match plainWord flow c.rest with
      | none => none
      | some word =>
        let after := c.skipMany word.length
        let (text, gap) : List Char × Gap :=
          if word.isEmpty then (text, gap) else (text ++ gap.fold ++ word, .blanks [])
        if after.endsAt 0 || !after.gapAt 0 then some (text, gap.isLines, after)
        else
          match readGap (indent + 1).toNat (after.rest.length + 1) gap after with
          | none => none
          | some (gap, next) =>
            if !flow && (next.column : Int) < indent + 1 then some (text, gap.isLines, next)
            else readPlainFrom flow indent fuel text gap next

/-- Read a plain scalar. -/
def readPlain (flow : Bool) (indent : Int) (c : Cursor) : Option (List Char × Bool × Cursor) :=
  readPlainFrom flow indent (c.rest.length + 1) [] (.blanks []) c

/-! ## Quoted scalars -/

/-- The character of an escape that is one letter long. -/
def shortEscape? (c : Char) : Option Char :=
  match c with
  | '0' => some '\x00'
  | 'a' => some '\x07'
  | 'b' => some '\x08'
  | 't' => some '\t'
  | '\t' => some '\t'
  | 'n' => some '\n'
  | 'v' => some '\x0b'
  | 'f' => some '\x0c'
  | 'r' => some '\r'
  | 'e' => some '\x1b'
  | ' ' => some ' '
  | '"' => some '"'
  | '/' => some '/'
  | '\\' => some '\\'
  | 'N' => some '\x85'
  | '_' => some '\xa0'
  | 'L' => some '\u2028'
  | 'P' => some '\u2029'
  | _ => none

/-- The number of digits of a numeric escape. -/
def escapeDigits? (c : Char) : Option Nat :=
  match c with
  | 'x' => some 2
  | 'u' => some 4
  | 'U' => some 8
  | _ => none

/-- The value of a hexadecimal digit. -/
def hexDigit? (c : Char) : Option Nat :=
  if '0' ≤ c ∧ c ≤ '9' then some (c.toNat - 48)
  else if 'a' ≤ c ∧ c ≤ 'f' then some (c.toNat - 87)
  else if 'A' ≤ c ∧ c ≤ 'F' then some (c.toNat - 55)
  else none

/-- The number that hexadecimal digits write. -/
def ofHexDigits? (digits : List Char) : Option Nat :=
  digits.foldlM (fun n c => (hexDigit? c).map (n * 16 + ·)) 0

/-- The character of the escape whose backslash is at this place, and the place after it. -/
def readEscape (c : Cursor) : Option (Char × Cursor) := do
  let letter ← c.peek? 1
  match escapeDigits? letter with
  | none => do
    let char ← shortEscape? letter
    some (char, c.skipMany 2)
  | some count => do
    let digits := (c.rest.drop 2).take count
    if digits.length < count then none
    else do
      let n ← ofHexDigits? digits
      if h : n.isValidChar then some (Char.ofNatAux n h, c.skipMany (2 + count)) else none

/-- Read the characters of a quoted word. The result also says whether an escaped line end follows it, and
then the place is that of the next line. -/
def readQuotedWord (single : Bool) :
    (fuel : Nat) → (word : List Char) → Cursor → Option (List Char × Bool × Cursor)
  | 0, word, c => some (word, false, c)
  | fuel + 1, word, c =>
    match c.peek? 0 with
    | none => some (word, false, c)
    | some char =>
      if isBlank char || isBreak char then some (word, false, c)
      else if single then
        if char = '\'' then
          if c.has 1 '\'' then readQuotedWord single fuel (word ++ ['\'']) (c.skipMany 2)
          else some (word, false, c)
        else readQuotedWord single fuel (word ++ [char]) c.skip
      else if char = '"' then some (word, false, c)
      else if char = '\\' then
        if (c.peek? 1).any isBreak then some (word, true, (c.skip.readBreak).2)
        else
          match readEscape c with
          | none => none
          | some (escaped, after) => readQuotedWord single fuel (word ++ [escaped]) after
      else readQuotedWord single fuel (word ++ [char]) c.skip

/-- Read the rest of a quoted scalar, of which `text` has been read. -/
def readQuotedFrom (single : Bool) :
    (fuel : Nat) → (text : List Char) → Cursor → Option (List Char × Cursor)
  | 0, _, _ => none
  | fuel + 1, text, c =>
    if c.isDocumentMarker || c.endsAt 0 then none
    else
      match readQuotedWord single (c.rest.length + 1) [] c with
      | none => none
      | some (word, escapedBreak, after) =>
        let text := text ++ word
        if after.has 0 (if single then '\'' else '"') then some (text, after.skip)
        else
          let gap : Gap := if escapedBreak then .lines [] [] else .blanks []
          match readGap 0 (after.rest.length + 1) gap after with
          | none => none
          | some (gap, next) => readQuotedFrom single fuel (text ++ gap.fold) next

/-- Read a quoted scalar. -/
def readQuoted (single : Bool) (c : Cursor) : Option (List Char × Cursor) :=
  readQuotedFrom single (c.rest.length + 1) [] c.skip

/-! ## Block scalars -/

/-- What becomes of the line ends after the last line of a block. -/
inductive Chomping where
  /-- They are dropped. -/
  | strip
  /-- The first one is kept. -/
  | clip
  /-- All are kept. -/
  | keep
  deriving DecidableEq, Repr

/-- The chomping that a character asks for. -/
def chomping? (c : Char) : Option Chomping :=
  if c = '+' then some .keep else if c = '-' then some .strip else none

/-- The chomping at a place, if there is one, and the place after it. -/
def readChomping (c : Cursor) : Option Chomping × Cursor :=
  match (c.peek? 0).bind chomping? with
  | some chomping => (some chomping, c.skip)
  | none => (none, c)

/-- The indentation at a place, if there is one, and the place after it; zero is ill-formed. -/
def readIncrement (c : Cursor) : Option (Option Nat × Cursor) :=
  match c.peek? 0 with
  | some char =>
    if '0' ≤ char ∧ char ≤ '9' then
      if char = '0' then none else some (some (char.toNat - 48), c.skip)
    else some (none, c)
  | none => some (none, c)

/-- Read the header of a block: its chomping and its indentation, in either order, up to the end of the
line. -/
def readBlockHeader (c : Cursor) : Option (Chomping × Option Nat × Cursor) := do
  let (first, c) := readChomping c
  let (increment, c) ← readIncrement c
  let (second, c) := if first.isSome || increment.isNone then (none, c) else readChomping c
  let c := c.skipBlanks.skipComment
  if c.lineEndsAt 0 then
    some ((first <|> second).getD .clip, increment, c.readBreak.2)
  else none

/-- Read the line ends before the next line of a block, and the indentation of its first line. With
`indent` none the widest indentation met is taken. -/
def readBlockBreaks (indent : Option Nat) : (fuel : Nat) → (breaks : List Char) → (widest : Nat) →
    Cursor → Option (List Char × Nat × Cursor)
  | 0, breaks, widest, c => some (breaks, widest, c)
  | fuel + 1, breaks, widest, c =>
    let spaces := (c.rest.takeWhile (· = ' ')).length
    let wanted := match indent with
      | some n => min spaces (n - c.column)
      | none => spaces
    let c := c.skipMany wanted
    let widest := max widest c.column
    if (indent.all fun n => c.column < n) && c.has 0 '\t' then none
    else if (c.peek? 0).any isBreak then
      let (kept, next) := c.readBreak
      readBlockBreaks indent fuel (breaks ++ kept) widest next
    else some (breaks, widest, c)

/-- Read the lines of a block: `text` has been read, `leading` is the last line's end and `trailing` are
the line ends after it; `afterBlank` says whether that line started with a blank. -/
def readBlockLines (literal : Bool) (indent : Nat) : (fuel : Nat) →
    (text leading trailing : List Char) → (afterBlank : Bool) → Cursor →
    Option (List Char × List Char × List Char × Cursor)
  | 0, text, leading, trailing, _, c => some (text, leading, trailing, c)
  | fuel + 1, text, leading, trailing, afterBlank, c =>
    if c.column ≠ indent || c.endsAt 0 then some (text, leading, trailing, c)
    else
      let blank := c.blankAt 0
      let folds := !literal && leading.head? = some '\n' && !afterBlank && !blank
      let joint := if folds then if trailing.isEmpty then [' '] else [] else leading
      let (line, c) := c.readWhile fun char => !isBreak char
      let (kept, c) := c.readBreak
      match readBlockBreaks (some indent) (c.rest.length + 1) [] 0 c with
      | none => none
      | some (breaks, _, c) =>
        readBlockLines literal indent fuel (text ++ joint ++ trailing ++ line) kept breaks blank c

/-- Read a block scalar inside a collection with the given indentation. -/
def readBlock (literal : Bool) (parent : Int) (c : Cursor) : Option (List Char × Cursor) := do
  let (chomping, increment, c) ← readBlockHeader c.skip
  let fixed := increment.map fun n => if 0 ≤ parent then parent.toNat + n else n
  let (breaks, widest, c) ← readBlockBreaks fixed (c.rest.length + 1) [] 0 c
  let indent := fixed.getD (max widest (max (parent + 1).toNat 1))
  let (text, leading, trailing, c) ←
    readBlockLines literal indent (c.rest.length + 1) [] [] breaks false c
  let ending := match chomping with
    | .strip => []
    | .clip => leading
    | .keep => leading ++ trailing
  some (text ++ ending, c)

end BlindMint.Yaml
