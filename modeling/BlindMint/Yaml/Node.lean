import BlindMint.Yaml.Token

/-!
# Documents of YAML text

Tokens form a tree of scalars, lists and mappings. A node may be an alias of an earlier one. Anchors are
numbered by how many different names came before; an alias means the last node that bears its number,
and one whose name was not given before is ill-formed.

A text holds one document. Nothing at all is a document without a root.
-/

namespace BlindMint.Yaml

/-- A node of a document; `anchor` is the number by which it can be repeated. -/
inductive Node where
  | alias (id : Nat)
  | scalar (anchor : Option Nat) (tag : Option (List Char)) (plain : Bool) (text : List Char)
  | list (anchor : Option Nat) (items : List Node)
  | mapping (anchor : Option Nat) (entries : List (Node × Node))

/-- What a handle of tags stands for. -/
abbrev Handles := List (List Char × List Char)

/-- The handles that need no directive. -/
def standardHandles : Handles :=
  [("!".toList, "!".toList), ("!!".toList, "tag:yaml.org,2002:".toList)]

/-- Tokens that are being read, with the numbers of the anchors met so far. -/
structure Stream where
  tokens : List Token
  anchors : List (List Char × Nat) := []
  deriving DecidableEq, Repr

namespace Stream

/-- The stream after its first token. -/
def skip (s : Stream) : Stream :=
  { s with tokens := s.tokens.drop 1 }

/-- Number an anchor. -/
def register (s : Stream) (name : Option (List Char)) : Option Nat × Stream :=
  match name with
  | none => (none, s)
  | some name =>
    let id := s.anchors.length
    (some id, { s with anchors := (name, id) :: s.anchors.filter (·.1 ≠ name) })

end Stream

/-- What precedes the content of a node. -/
structure Properties where
  anchor : Option (List Char) := none
  tag : Option Tag := none
  deriving DecidableEq, Repr

/-- Read an anchor and a tag, in either order, each at most once. -/
def readProperties (s : Stream) : Properties × Stream :=
  match s.tokens with
  | .anchor name :: .tag t :: rest => (⟨some name, some t⟩, { s with tokens := rest })
  | .tag t :: .anchor name :: rest => (⟨some name, some t⟩, { s with tokens := rest })
  | .anchor name :: rest => (⟨some name, none⟩, { s with tokens := rest })
  | .tag t :: rest => (⟨none, some t⟩, { s with tokens := rest })
  | _ => ({}, s)

/-- The identifier that a tag stands for; none if its handle is unknown. -/
def resolveTag (handles : Handles) (tag : Option Tag) : Option (Option (List Char)) :=
  match tag with
  | none => some none
  | some t =>
    if t.handle.isEmpty then some (some t.rest)
    else (handles.lookup t.handle).map fun expansion => some (expansion ++ t.rest)

/-- A scalar that is not written. -/
def Node.empty : Node :=
  .scalar none none true []

mutual

/-- Read a node. Block collections may start only if `block`, and a list without indentation only if
`indentless`. -/
def readNode (handles : Handles) (block indentless : Bool) :
    (fuel : Nat) → Stream → Option (Node × Stream)
  | 0, _ => none
  | fuel + 1, s =>
    match s.tokens with
    | .alias name :: _ => (s.anchors.lookup name).map fun id => (.alias id, s.skip)
    | _ => do
      let (properties, s) := readProperties s
      let tag ← resolveTag handles properties.tag
      let (anchor, s) := s.register properties.anchor
      match s.tokens with
      | .scalar text plain :: _ =>
        some (.scalar anchor (if tag = some ['!'] then none else tag) plain text, s.skip)
      | .flowListStart :: _ => do
        let (items, s) ← readFlowItems handles true fuel s.skip
        some (.list anchor items, s)
      | .flowMappingStart :: _ => do
        let (entries, s) ← readFlowEntries handles true fuel s.skip
        some (.mapping anchor entries, s)
      | token :: _ =>
        if token = .blockEntry ∧ indentless = true then do
          let (items, s) ← readIndentlessItems handles fuel s
          some (.list anchor items, s)
        else if token = .blockListStart ∧ block = true then do
          let (items, s) ← readBlockItems handles fuel s.skip
          some (.list anchor items, s)
        else if token = .blockMappingStart ∧ block = true then do
          let (entries, s) ← readBlockEntries handles fuel s.skip
          some (.mapping anchor entries, s)
        else if properties = {} then none
        else some (.scalar anchor tag true [], s)
      | [] => if properties = {} then none else some (.scalar anchor tag true [], s)

/-- Read a node unless one of some tokens comes next; then nothing is written there. -/
def readNodeUnless (handles : Handles) (block indentless : Bool) (stops : List Token) :
    (fuel : Nat) → Stream → Option (Node × Stream)
  | 0, _ => none
  | fuel + 1, s =>
    match s.tokens.head? with
    | some token =>
      if stops.contains token then some (.empty, s) else readNode handles block indentless fuel s
    | none => readNode handles block indentless fuel s

/-- Read the value of an entry, which need not be written, between blocks or between brackets. -/
def readEntryValue (handles : Handles) (block : Bool) (stops : List Token) :
    (fuel : Nat) → Stream → Option (Node × Stream)
  | 0, _ => none
  | fuel + 1, s =>
    match s.tokens with
    | .value :: _ => readNodeUnless handles block block stops fuel s.skip
    | _ => some (.empty, s)

/-- Read the items of a block list up to its end. -/
def readBlockItems (handles : Handles) : (fuel : Nat) → Stream → Option (List Node × Stream)
  | 0, _ => none
  | fuel + 1, s =>
    match s.tokens with
    | .blockEntry :: _ => do
      let (item, s) ← readNodeUnless handles true false [.blockEntry, .blockEnd] fuel s.skip
      let (items, s) ← readBlockItems handles fuel s
      some (item :: items, s)
    | .blockEnd :: _ => some ([], s.skip)
    | _ => none

/-- Read the items of a list without indentation. -/
def readIndentlessItems (handles : Handles) : (fuel : Nat) → Stream → Option (List Node × Stream)
  | 0, _ => none
  | fuel + 1, s =>
    match s.tokens with
    | .blockEntry :: _ => do
      let (item, s) ←
        readNodeUnless handles true false [.blockEntry, .key, .value, .blockEnd] fuel s.skip
      let (items, s) ← readIndentlessItems handles fuel s
      some (item :: items, s)
    | _ => some ([], s)

/-- Read the entries of a block mapping up to its end. -/
def readBlockEntries (handles : Handles) : (fuel : Nat) → Stream → Option (List (Node × Node) × Stream)
  | 0, _ => none
  | fuel + 1, s =>
    match s.tokens with
    | .key :: _ => do
      let (key, s) ← readNodeUnless handles true true [.key, .value, .blockEnd] fuel s.skip
      let (value, s) ← readEntryValue handles true [.key, .value, .blockEnd] fuel s
      let (entries, s) ← readBlockEntries handles fuel s
      some ((key, value) :: entries, s)
    | .blockEnd :: _ => some ([], s.skip)
    | _ => none

/-- Read an item of a flow list. An entry there is a mapping of its own. -/
def readFlowItem (handles : Handles) : (fuel : Nat) → Stream → Option (Node × Stream)
  | 0, _ => none
  | fuel + 1, s =>
    match s.tokens with
    | .key :: rest =>
      if rest.head?.any [Token.value, .flowEntry, .flowListEnd].contains then do
        let (value, s) ← readEntryValue handles false [.flowEntry, .flowListEnd] fuel s.skip.skip
        some (.mapping none [(.empty, value)], s)
      else do
        let (key, s) ← readNode handles false false fuel s.skip
        let (value, s) ← readEntryValue handles false [.flowEntry, .flowListEnd] fuel s
        some (.mapping none [(key, value)], s)
    | _ => readNode handles false false fuel s

/-- Read the items of a flow list up to its end. -/
def readFlowItems (handles : Handles) (first : Bool) :
    (fuel : Nat) → Stream → Option (List Node × Stream)
  | 0, _ => none
  | fuel + 1, s =>
    match s.tokens with
    | .flowListEnd :: _ => some ([], s.skip)
    | .flowEntry :: rest =>
      if first then none
      else if rest.head? = some .flowListEnd then some ([], s.skip.skip)
      else do
        let (item, s) ← readFlowItem handles fuel s.skip
        let (items, s) ← readFlowItems handles false fuel s
        some (item :: items, s)
    | _ =>
      if first then do
        let (item, s) ← readFlowItem handles fuel s
        let (items, s) ← readFlowItems handles false fuel s
        some (item :: items, s)
      else none

/-- Read an entry of a flow mapping. -/
def readFlowEntry (handles : Handles) : (fuel : Nat) → Stream → Option ((Node × Node) × Stream)
  | 0, _ => none
  | fuel + 1, s =>
    match s.tokens with
    | .key :: _ => do
      let (key, s) ←
        readNodeUnless handles false false [.value, .flowEntry, .flowMappingEnd] fuel s.skip
      let (value, s) ← readEntryValue handles false [.flowEntry, .flowMappingEnd] fuel s
      some ((key, value), s)
    | _ => do
      let (key, s) ← readNode handles false false fuel s
      some ((key, .empty), s)

/-- Read the entries of a flow mapping up to its end. -/
def readFlowEntries (handles : Handles) (first : Bool) :
    (fuel : Nat) → Stream → Option (List (Node × Node) × Stream)
  | 0, _ => none
  | fuel + 1, s =>
    match s.tokens with
    | .flowMappingEnd :: _ => some ([], s.skip)
    | .flowEntry :: rest =>
      if first then none
      else if rest.head? = some .flowMappingEnd then some ([], s.skip.skip)
      else do
        let (entry, s) ← readFlowEntry handles fuel s.skip
        let (entries, s) ← readFlowEntries handles false fuel s
        some (entry :: entries, s)
    | _ =>
      if first then do
        let (entry, s) ← readFlowEntry handles fuel s
        let (entries, s) ← readFlowEntries handles false fuel s
        some (entry :: entries, s)
      else none

end

/-! ## Documents -/

mutual

/-- The nodes below a node, itself included, that can be repeated, in the order of the text. -/
def Node.anchored : Node → List (Nat × Node)
  | .alias _ => []
  | .scalar anchor tag plain text =>
    anchor.toList.map fun id => (id, .scalar anchor tag plain text)
  | .list anchor items => (anchor.toList.map fun id => (id, .list anchor items)) ++ anchoredItems items
  | .mapping anchor entries =>
    (anchor.toList.map fun id => (id, .mapping anchor entries)) ++ anchoredEntries entries

/-- The nodes of a list's items that can be repeated. -/
def anchoredItems : List Node → List (Nat × Node)
  | [] => []
  | item :: items => item.anchored ++ anchoredItems items

/-- The nodes of a mapping's entries that can be repeated. -/
def anchoredEntries : List (Node × Node) → List (Nat × Node)
  | [] => []
  | (key, value) :: entries => key.anchored ++ value.anchored ++ anchoredEntries entries

end

/-- A document: its root, if it has one. -/
structure Document where
  root : Option Node

namespace Document

/-- The node that a number means: the last one of the document that bears it. -/
def find? (d : Document) (id : Nat) : Option Node :=
  match d.root with
  | some root => (root.anchored.reverse).lookup id
  | none => none

/-- The node that a node means. -/
def resolve (d : Document) (n : Node) : Node :=
  match n with
  | .alias id => (d.find? id).getD .empty
  | n => n

/-- The handles that directives before a document define, with the standard ones. There may be one
directive for the version, which must be a known one, and one for each handle. -/
def readDirectives (versions : Nat) (handles : Handles) : List Directive → Option Handles
  | [] => some (handles ++ standardHandles.filter fun h => (handles.lookup h.1).isNone)
  | .version major minor :: rest =>
    if versions = 0 ∧ major = 1 ∧ (minor = 1 ∨ minor = 2) then readDirectives 1 handles rest else none
  | .handle handle expansion :: rest =>
    if (handles.lookup handle).isNone then readDirectives versions ((handle, expansion) :: handles) rest
    else none

/-- The directive that a token is. -/
def directive? : Token → Option Directive
  | .directive d => some d
  | _ => none

/-- Whether a token ends a document or begins another one. -/
def isBoundary : Token → Bool
  | .directive _ | .documentStart | .documentEnd => true
  | _ => false

/-- Read the root of a document, and the tokens after it. -/
def readRoot (handles : Handles) (tokens : List Token) : Option (Node × List Token) := do
  let (root, s) ← readNode handles true false (4 * tokens.length + 4) { tokens }
  some (root, s.tokens)

/-- Read a document from its tokens, and the tokens after it. -/
def readOne (tokens : List Token) : Option (Document × List Token) :=
  match tokens with
  | [] => some (⟨none⟩, [])
  | first :: _ =>
    if first = .documentStart ∨ (directive? first).isSome then do
      let directives := tokens.takeWhile fun t => (directive? t).isSome
      let handles ← readDirectives 0 [] (directives.filterMap directive?)
      match tokens.drop directives.length with
      | .documentStart :: content =>
        if content.head?.all isBoundary then some (⟨some .empty⟩, content)
        else do
          let (root, rest) ← readRoot handles content
          some (⟨some root⟩, rest)
      | _ => none
    else do
      let (root, rest) ← readRoot standardHandles tokens
      some (⟨some root⟩, rest)

/-- The only document of a text. -/
def ofText? (text : String) : Option Document := do
  let tokens ← Token.scan text.toList
  let (document, rest) ← readOne tokens
  if rest.all (· = .documentEnd) then some document else none

end Document

end BlindMint.Yaml
