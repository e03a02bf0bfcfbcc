import BlindMint.Json.Reader

/-!
# Values of any shape

Where a document's shape is decided only after it has been read, it is read into a `Value` first. Unlike a
value that is passed over, such a value is checked in full: its strings hold whole characters, its numbers
are within the range of double precision, and its brackets are nested no deeper than a limit.
-/

namespace BlindMint.Json

/-- A value of any shape; a repeated member of an object is kept. -/
inductive Value where
  | null
  | bool (b : Bool)
  | number (n : Number)
  | text (s : String)
  | list (items : List Value)
  | object (members : List (String × Value))

/-- Read a literal word for a value. -/
def readLiteral (word : List Char) (value : Value) : Reader Value := fun source =>
  match readWord word source with
  | .error fault => .error fault
  | .ok rest => .ok (value, rest)

/-- Read the members of an object up to its closing bracket. -/
def readEntries {α : Type} (reader : Reader α) : (fuel : Nat) → (first : Bool) →
    Reader (List (String × α))
  | 0, _, _ => .error .truncated
  | fuel + 1, first, source =>
    match nextName first source with
    | .error fault => .error fault
    | .ok (false, rest) => .ok ([], rest)
    | .ok (true, rest) =>
      match readString rest with
      | .error fault => .error fault
      | .ok (name, rest) =>
        match readColon rest with
        | .error fault => .error fault
        | .ok rest =>
          match reader rest with
          | .error fault => .error fault
          | .ok (value, rest) =>
            match readEntries reader fuel false rest with
            | .error fault => .error fault
            | .ok (entries, rest) => .ok ((name, value) :: entries, rest)

/-- Read a number, a string or a literal word. -/
def readScalar : Reader Value := fun source =>
  match source with
  | [] => .error .truncated
  | none :: _ => .error .malformed
  | some c :: rest =>
    if c = '"' then
      match readString rest with
      | .error fault => .error fault
      | .ok (text, rest) => .ok (.text text, rest)
    else if c = 'n' then readLiteral ['u', 'l', 'l'] .null rest
    else if c = 't' then readLiteral ['r', 'u', 'e'] (.bool true) rest
    else if c = 'f' then readLiteral ['a', 'l', 's', 'e'] (.bool false) rest
    else if c = '-' ∨ (digit? (some c)).isSome then
      match readNumber source with
      | .error fault => .error fault
      | .ok (number, rest) => .ok (.number number, rest)
    else .error .malformed

/-- Read a value whose brackets are nested at most `depth` deep. -/
def readValue : (depth : Nat) → Reader Value
  | 0, source =>
    match skipBlanks source with
    | some '[' :: _ => .error .malformed
    | some '{' :: _ => .error .malformed
    | trimmed => readScalar trimmed
  | depth + 1, source =>
    match skipBlanks source with
    | some '[' :: rest =>
      match readElements (readValue depth) (rest.length + 1) true rest with
      | .error fault => .error fault
      | .ok (items, rest) => .ok (.list items, rest)
    | some '{' :: rest =>
      match readEntries (readValue depth) (rest.length + 1) true rest with
      | .error fault => .error fault
      | .ok (entries, rest) => .ok (.object entries, rest)
    | trimmed => readScalar trimmed

namespace Value

/-- Whether a value is text. -/
def isText : Value → Bool
  | .text _ => true
  | _ => false

/-- Whether a value is a list of texts. -/
def isTextList : Value → Bool
  | .list items => items.all isText
  | _ => false

/-- Whether a value stands for nothing. -/
def isEmpty : Value → Bool
  | .null => true
  | .object [] => true
  | _ => false

/-- Whether a value is one of some names: as text, or as the only member of an object, with nothing as
its value. -/
def isChoice (names : List String) : Value → Bool
  | .text s => names.contains s
  | .object [(name, value)] => names.contains name && value.isEmpty
  | _ => false

end Value

end BlindMint.Json
