import BlindMint.Text.Decimal

/-!
# Writing JSON text

A document is written without blanks, the members of an object in the order given. In text the quote, the
backslash and the control characters are escaped, the controls with a short escape where one exists;
every other character stands for itself.

Results:
* `Document.writeItems_eq_map`, `Document.writeMembers_eq_map`: the parts are written one by one.
-/

namespace BlindMint.Json

/-- A value to be written. -/
inductive Document where
  | null
  | integer (n : Int)
  | text (s : String)
  | list (items : List Document)
  | object (members : List (String × Document))

/-- A character as a string holds it. -/
def escapeChar (c : Char) : List Char :=
  if c = '"' then ['\\', '"']
  else if c = '\\' then ['\\', '\\']
  else if c = '\x08' then ['\\', 'b']
  else if c = '\t' then ['\\', 't']
  else if c = '\n' then ['\\', 'n']
  else if c = '\x0c' then ['\\', 'f']
  else if c = '\r' then ['\\', 'r']
  else if c.toNat < 0x20 then
    ['\\', 'u', '0', '0', Nat.digitChar (c.toNat / 16), Nat.digitChar (c.toNat % 16)]
  else [c]

/-- Text between quotes. -/
def writeText (s : String) : List Char :=
  '"' :: s.toList.flatMap escapeChar ++ ['"']

/-- The parts of a list or an object, with commas between them. -/
def commaSeparated : List (List Char) → List Char
  | [] => []
  | [part] => part
  | part :: parts => part ++ ',' :: commaSeparated parts

namespace Document

mutual

/-- The characters of a document. -/
def write : Document → List Char
  | null => ['n', 'u', 'l', 'l']
  | integer n => Decimal.ofIntDigits n
  | text s => writeText s
  | list items => '[' :: commaSeparated (writeItems items) ++ [']']
  | object members => '\x7b' :: commaSeparated (writeMembers members) ++ ['\x7d']

/-- The characters of each item of a list. -/
def writeItems : List Document → List (List Char)
  | [] => []
  | item :: items => write item :: writeItems items

/-- The characters of each member of an object. -/
def writeMembers : List (String × Document) → List (List Char)
  | [] => []
  | (name, value) :: members => (writeText name ++ ':' :: write value) :: writeMembers members

end

/-- A member of an object as it is written. -/
def writeMember (member : String × Document) : List Char :=
  writeText member.1 ++ ':' :: member.2.write

theorem writeItems_eq_map (items : List Document) : writeItems items = items.map write := by
  induction items with
  | nil => rfl
  | cons item items ih => rw [writeItems, ih, List.map_cons]

theorem writeMembers_eq_map (members : List (String × Document)) :
    writeMembers members = members.map writeMember := by
  induction members with
  | nil => rfl
  | cons member members ih => rw [writeMembers, ih, List.map_cons, writeMember]

/-- The text of a document. -/
def render (d : Document) : String :=
  String.ofList d.write

end Document

/-- The member of an object that holds text, if the text is there. -/
def textMember? (name : String) (value : Option String) : List (String × Document) :=
  match value with
  | some s => [(name, .text s)]
  | none => []

end BlindMint.Json
