import BlindMint.Yaml.Property

/-!
# Tokens of YAML text

Tokens are the marks, the scalars, and the starts and ends of block collections, which the text only shows by
its columns. A scalar turns out to be the key of a block mapping only when a colon follows on its line. So
each token that could begin a key leaves a place before it; the colon fills the place with the start
of the mapping, if one starts there, and the mark of a key, and a place that is never filled stays
empty.
-/

namespace BlindMint.Yaml

/-- A token. -/
inductive Token where
  | directive (d : Directive)
  | documentStart
  | documentEnd
  | blockListStart
  | blockMappingStart
  | blockEnd
  | flowListStart
  | flowListEnd
  | flowMappingStart
  | flowMappingEnd
  | blockEntry
  | flowEntry
  | key
  | value
  | alias (name : List Char)
  | anchor (name : List Char)
  | tag (t : Tag)
  | scalar (text : List Char) (plain : Bool)
  deriving DecidableEq, Repr

/-- A token, or a place that a key may fill. -/
inductive Item where
  | token (t : Token)
  | place (n : Nat)
  deriving DecidableEq, Repr

/-- A token that may turn out to begin a key. -/
structure PendingKey where
  place : Nat
  /-- Whether the text is ill-formed unless it is a key. -/
  required : Bool
  line : Nat
  column : Nat
  index : Nat
  deriving DecidableEq, Repr

/-- The most characters between the beginning of a key and its colon. -/
def maxKeyLength : Nat := 1024

/-- Whether a colon here still makes a key of it. -/
def PendingKey.isAlive (k : PendingKey) (c : Cursor) : Bool :=
  c.line ≤ k.line && c.index ≤ k.index + maxKeyLength

/-- Tokens that are being read. -/
structure Scanner where
  cursor : Cursor
  /-- What has been read, the last item first. -/
  items : List Item := []
  /-- The places that have been filled. -/
  filled : List (Nat × List Token) := []
  /-- The number of places so far. -/
  places : Nat := 0
  /-- The column of the innermost block collection. -/
  indent : Int := -1
  /-- The columns of the block collections around it. -/
  outer : List Int := []
  /-- Whether a key may begin here. -/
  keyAllowed : Bool := true
  /-- The pending key of the block context. -/
  blockKey : Option PendingKey := none
  /-- The pending keys of the open flow collections, innermost first. -/
  flowKeys : List (Option PendingKey) := []
  deriving DecidableEq, Repr

namespace Scanner

/-- Whether a flow collection is open. -/
def inFlow (s : Scanner) : Bool :=
  !s.flowKeys.isEmpty

/-- Append a token. -/
def push (s : Scanner) (t : Token) : Scanner :=
  { s with items := .token t :: s.items }

/-- Append a token and go to a place after it. -/
def pushTo (s : Scanner) (t : Token) (after : Cursor) : Scanner :=
  { s.push t with cursor := after }

/-- The pending key of the innermost context. -/
def pending (s : Scanner) : Option PendingKey :=
  match s.flowKeys with
  | key :: _ => key
  | [] => s.blockKey

/-- Replace the pending key of the innermost context. -/
def setPending (s : Scanner) (key : Option PendingKey) : Scanner :=
  match s.flowKeys with
  | _ :: outer => { s with flowKeys := key :: outer }
  | [] => { s with blockKey := key }

/-- Give up the pending key of the innermost context, unless it is required. -/
def dropKey (s : Scanner) : Option Scanner :=
  if s.pending.any (·.required) then none else some (s.setPending none)

/-- Note that a key may begin here. -/
def saveKey (s : Scanner) : Option Scanner :=
  if s.keyAllowed then do
    let s ← s.dropKey
    let c := s.cursor
    let required := !s.inFlow && s.indent = (c.column : Int)
    let s := { s with items := .place s.places :: s.items, places := s.places + 1 }
    some (s.setPending (some ⟨s.places - 1, required, c.line, c.column, c.index⟩))
  else some s

/-- Give up the keys that are too far back; the text is ill-formed if one of them is required. -/
def dropStaleKeys (s : Scanner) : Option Scanner :=
  let keep (key : Option PendingKey) : Option PendingKey := key.filter (·.isAlive s.cursor)
  if s.blockKey.any fun key => key.required && !key.isAlive s.cursor then none
  else some { s with blockKey := keep s.blockKey, flowKeys := s.flowKeys.map keep }

/-- Open a block collection at a column, unless one is open there; the result says whether it was
opened. -/
def openBlock (s : Scanner) (column : Nat) : Bool × Scanner :=
  if !s.inFlow && s.indent < (column : Int) then
    (true, { s with indent := column, outer := s.indent :: s.outer })
  else (false, s)

/-- Append the start of a block collection, unless one is open here. -/
def roll (s : Scanner) (t : Token) : Scanner :=
  match s.openBlock s.cursor.column with
  | (true, s) => s.push t
  | (false, s) => s

/-- Close the block collections beyond a column, given how many are open. -/
def closeBlocks (column : Int) : (outer : List Int) → Scanner → Scanner
  | [], s => s
  | next :: outer, s =>
    if column < s.indent then closeBlocks column outer { s.push .blockEnd with indent := next, outer }
    else s

/-- Close the block collections beyond a column. -/
def unroll (s : Scanner) (column : Int) : Scanner :=
  if s.inFlow then s else closeBlocks column s.outer s

/-! ## Between tokens -/

/-- Go to the next token, past blanks, comments and line ends. A tab is a blank only where it cannot be taken
for indentation. -/
def skipGap : (fuel : Nat) → Scanner → Scanner
  | 0, s => s
  | fuel + 1, s =>
    let tabs := s.inFlow || !s.keyAllowed
    let (_, c) := s.cursor.readWhile fun char => char = ' ' || (tabs && char = '\t')
    let c := c.skipComment
    if (c.peek? 0).any isBreak then
      skipGap fuel { s with cursor := c.readBreak.2, keyAllowed := s.keyAllowed || !s.inFlow }
    else { s with cursor := c }

/-! ## Reading one token -/

/-- Read a mark that begins or ends a document. -/
def readDocumentMarker (s : Scanner) (t : Token) : Option Scanner := do
  let s ← (s.unroll (-1)).dropKey
  some ({ s with keyAllowed := false }.pushTo t (s.cursor.skipMany 3))

/-- Read a directive. -/
def readDirective (s : Scanner) : Option Scanner := do
  let s ← (s.unroll (-1)).dropKey
  let (directive, after) ← Yaml.readDirective s.cursor
  some ({ s with keyAllowed := false }.pushTo (.directive directive) after)

/-- Read the start of a flow collection. -/
def readFlowStart (s : Scanner) (t : Token) : Option Scanner := do
  let s ← s.saveKey
  some ({ s with keyAllowed := true, flowKeys := none :: s.flowKeys }.pushTo t s.cursor.skip)

/-- Read the end of a flow collection. -/
def readFlowEnd (s : Scanner) (t : Token) : Option Scanner := do
  let s ← s.dropKey
  some ({ s with keyAllowed := false, flowKeys := s.flowKeys.drop 1 }.pushTo t s.cursor.skip)

/-- Read the mark between two entries of a flow collection. -/
def readFlowEntry (s : Scanner) : Option Scanner := do
  let s ← s.dropKey
  some ({ s with keyAllowed := true }.pushTo .flowEntry s.cursor.skip)

/-- Read the mark of an entry of a block list. -/
def readBlockEntry (s : Scanner) : Option Scanner :=
  if !s.inFlow && !s.keyAllowed then none
  else do
    let s ← (s.roll .blockListStart).dropKey
    some ({ s with keyAllowed := true }.pushTo .blockEntry s.cursor.skip)

/-- Read the mark of an explicit key. -/
def readKey (s : Scanner) : Option Scanner :=
  if !s.inFlow && !s.keyAllowed then none
  else do
    let s ← (s.roll .blockMappingStart).dropKey
    some ({ s with keyAllowed := !s.inFlow }.pushTo .key s.cursor.skip)

/-- Read the mark of a value; it makes a key of the pending one, if there is one. -/
def readValue (s : Scanner) : Option Scanner :=
  match s.pending with
  | some key =>
    let (opened, s) := s.openBlock key.column
    let tokens : List Token := if opened then [.blockMappingStart, .key] else [.key]
    let s := { s.setPending none with filled := (key.place, tokens) :: s.filled, keyAllowed := false }
    some (s.pushTo .value s.cursor.skip)
  | none =>
    if !s.inFlow && !s.keyAllowed then none
    else
      let s := s.roll .blockMappingStart
      some ({ s with keyAllowed := !s.inFlow }.pushTo .value s.cursor.skip)

/-- Read a token that may begin a key. -/
def readContent (s : Scanner) (read : Cursor → Option (Token × Cursor)) : Option Scanner := do
  let s ← s.saveKey
  let (t, after) ← read s.cursor
  some ({ s with keyAllowed := false }.pushTo t after)

/-- Read a block scalar. -/
def readBlockScalar (s : Scanner) (literal : Bool) : Option Scanner := do
  let s ← s.dropKey
  let (text, after) ← readBlock literal s.indent s.cursor
  some ({ s with keyAllowed := true }.pushTo (.scalar text false) after)

/-- Read a plain scalar. -/
def readPlainScalar (s : Scanner) : Option Scanner := do
  let s ← s.saveKey
  let (text, afterBreak, after) ← readPlain s.inFlow s.indent s.cursor
  some ({ s with keyAllowed := afterBreak }.pushTo (.scalar text true) after)

/-- The characters that begin something else than a plain scalar. -/
def indicators : List Char :=
  ['-', '?', ':', ',', '[', ']', '{', '}', '#', '&', '*', '!', '|', '>', '\'', '"', '%', '@', '\x60']

/-- Whether a plain scalar begins here. -/
def beginsPlain (s : Scanner) (char : Char) : Bool :=
  let c := s.cursor
  !(c.gapAt 0 || indicators.contains char) || (char = '-' && !c.blankAt 1) ||
    (!s.inFlow && (char = '?' || char = ':') && !c.gapAt 1)

/-- Read the token that begins with a character. -/
def readToken (s : Scanner) (char : Char) : Option Scanner :=
  let c := s.cursor
  let marks := s.inFlow || c.gapAt 1
  if c.column = 0 && char = '%' then s.readDirective
  else if c.isMarker '-' then s.readDocumentMarker .documentStart
  else if c.isMarker '.' then s.readDocumentMarker .documentEnd
  else if char = '[' then s.readFlowStart .flowListStart
  else if char = '{' then s.readFlowStart .flowMappingStart
  else if char = ']' then s.readFlowEnd .flowListEnd
  else if char = '}' then s.readFlowEnd .flowMappingEnd
  else if char = ',' then s.readFlowEntry
  else if char = '-' && c.gapAt 1 then s.readBlockEntry
  else if char = '?' && marks then s.readKey
  else if char = ':' && marks then s.readValue
  else if char = '*' then s.readContent fun c => (readAnchor c).map fun (name, c) => (.alias name, c)
  else if char = '&' then s.readContent fun c => (readAnchor c).map fun (name, c) => (.anchor name, c)
  else if char = '!' then s.readContent fun c => (readTag s.inFlow c).map fun (tag, c) => (.tag tag, c)
  else if char = '|' && !s.inFlow then s.readBlockScalar true
  else if char = '>' && !s.inFlow then s.readBlockScalar false
  else if char = '\'' then
    s.readContent fun c => (readQuoted true c).map fun (text, c) => (.scalar text false, c)
  else if char = '"' then
    s.readContent fun c => (readQuoted false c).map fun (text, c) => (.scalar text false, c)
  else if s.beginsPlain char then s.readPlainScalar
  else none

/-- Read the tokens from here on. -/
def readTokens : (fuel : Nat) → Scanner → Option Scanner
  | 0, _ => none
  | fuel + 1, s => do
    let s ← (skipGap (s.cursor.rest.length + 1) s).dropStaleKeys
    let s := s.unroll s.cursor.column
    match s.cursor.peek? 0 with
    | none => (s.unroll (-1)).dropKey
    | some char => do
      let s ← s.readToken char
      readTokens fuel s

end Scanner

/-- The tokens of items, with the places filled. -/
def layOut (filled : List (Nat × List Token)) (items : List Item) : List Token :=
  items.flatMap fun item => match item with
    | .token t => [t]
    | .place n => (filled.lookup n).getD []

/-- The tokens of a text, if it is made of some. -/
def Token.scan (text : List Char) : Option (List Token) :=
  if text.all isAllowed then do
    let s ← Scanner.readTokens (text.length + 1) { cursor := .start text }
    some (layOut s.filled s.items.reverse)
  else none

end BlindMint.Yaml
