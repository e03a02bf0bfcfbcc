import BlindMint.Json.Skip

/-!
# Readers of values

Readers for text, integers, optional values, names from a fixed list, lists and records. A scalar of the
wrong kind is read to its end before it is refused, so a fault inside it comes first; a list or a
record in the place of a scalar is refused at its opening bracket.

A record is described by its members. It is written as an object, where members may come in any
order, unknown ones are passed over and a repeated known one is a mismatch, or as a list of its
members' values in the order of declaration.
-/

namespace BlindMint.Json

/-- The fault of a value that is no value of the expected kind. -/
def unexpected (source : Source) : Fault :=
  let after {α : Type} : Except Fault α → Fault
    | .error fault => fault
    | .ok _ => .mismatch
  match source with
  | [] => .truncated
  | none :: _ => .malformed
  | some c :: rest =>
    if c = '"' then after (readString rest)
    else if c = 'n' then after (readWord ['u', 'l', 'l'] rest)
    else if c = 't' then after (readWord ['r', 'u', 'e'] rest)
    else if c = 'f' then after (readWord ['a', 'l', 's', 'e'] rest)
    else if c = '-' ∨ (digit? (some c)).isSome then after (readNumber source)
    else if c = '[' ∨ c = '\x7b' then .mismatch
    else .malformed

/-- Read text. -/
def readText : Reader String := fun source =>
  match skipBlanks source with
  | some '"' :: rest => readString rest
  | trimmed => .error (unexpected trimmed)

/-- Read an integer between two bounds. -/
def readInteger (low high : Int) : Reader Int := fun source =>
  let trimmed := skipBlanks source
  match trimmed with
  | some c :: _ =>
    if c = '-' ∨ (digit? (some c)).isSome then
      match readNumber trimmed with
      | .error fault => .error fault
      | .ok (.inexact, _) => .error .mismatch
      | .ok (.integer n, rest) => if low ≤ n ∧ n ≤ high then .ok (n, rest) else .error .mismatch
    else .error (unexpected trimmed)
  | _ => .error (unexpected trimmed)

/-- Read a null. -/
def readNull : Reader Unit := fun source =>
  match skipBlanks source with
  | some 'n' :: rest =>
    match readWord ['u', 'l', 'l'] rest with
    | .error fault => .error fault
    | .ok rest => .ok ((), rest)
  | trimmed => .error (unexpected trimmed)

/-- Read a value that may be null. -/
def readOptional {α : Type} (reader : Reader α) : Reader (Option α) := fun source =>
  match skipBlanks source with
  | some 'n' :: rest =>
    match readWord ['u', 'l', 'l'] rest with
    | .error fault => .error fault
    | .ok rest => .ok (none, rest)
  | trimmed =>
    match reader trimmed with
    | .error fault => .error fault
    | .ok (value, rest) => .ok (some value, rest)

/-- The value that a name stands for. -/
def lookupName {α : Type} (choices : List (String × α)) (name : String) : Except Fault α :=
  match choices.lookup name with
  | some value => .ok value
  | none => .error .mismatch

/-- Read one of a fixed list of names: as text, or as the only member of an object, with a null value. -/
def readChoice {α : Type} (choices : List (String × α)) : Reader α := fun source =>
  match skipBlanks source with
  | [] => .error .truncated
  | some '"' :: rest =>
    match readString rest with
    | .error fault => .error fault
    | .ok (name, rest) =>
      match lookupName choices name with
      | .error fault => .error fault
      | .ok value => .ok (value, rest)
  | some '{' :: rest =>
    match readText rest with
    | .error fault => .error fault
    | .ok (name, rest) =>
      match lookupName choices name with
      | .error fault => .error fault
      | .ok value =>
        match skipBlanks rest with
        | [] => .error .truncated
        | some ':' :: rest =>
          match readNull rest with
          | .error fault => .error fault
          | .ok (_, rest) =>
            match skipBlanks rest with
            | [] => .error .truncated
            | some '}' :: rest => .ok (value, rest)
            | _ => .error .malformed
        | _ => .error .malformed
  | _ => .error .malformed

/-! ## Lists -/

/-- Whether a further element follows in a list, and the text where it starts or where the list ends. -/
def nextElement (first : Bool) (source : Source) : Except Fault (Bool × Source) :=
  match skipBlanks source with
  | [] => .error .truncated
  | c :: rest =>
    if c = some ']' then .ok (false, c :: rest)
    else if first then .ok (true, c :: rest)
    else if c = some ',' then
      match skipBlanks rest with
      | [] => .error .truncated
      | some ']' :: _ => .error .malformed
      | trimmed => .ok (true, trimmed)
    else .error .malformed

/-- Read the end of a list. -/
def closeList (source : Source) : Except Fault Source :=
  match skipBlanks source with
  | [] => .error .truncated
  | some ']' :: rest => .ok rest
  | _ => .error .malformed

/-- Read the elements of a list up to its closing bracket. -/
def readElements {α : Type} (reader : Reader α) : (fuel : Nat) → (first : Bool) → Reader (List α)
  | 0, _, _ => .error .truncated
  | fuel + 1, first, source =>
    match nextElement first source with
    | .error fault => .error fault
    | .ok (false, rest) =>
      match closeList rest with
      | .error fault => .error fault
      | .ok rest => .ok ([], rest)
    | .ok (true, rest) =>
      match reader rest with
      | .error fault => .error fault
      | .ok (value, rest) =>
        match readElements reader fuel false rest with
        | .error fault => .error fault
        | .ok (values, rest) => .ok (value :: values, rest)

/-- Read a list of values. -/
def readList {α : Type} (reader : Reader α) : Reader (List α) := fun source =>
  match skipBlanks source with
  | some '[' :: rest => readElements reader (rest.length + 1) true rest
  | trimmed => .error (unexpected trimmed)

/-! ## Records -/

/-- A member of a record that is read into drafts of type `ρ`. -/
structure Member (ρ : Type) where
  /-- The name in an object. -/
  name : String
  /-- Whether a list that stands for the record may end before this member. -/
  omissible : Bool
  /-- Whether a draft has the member already. -/
  isSet : ρ → Bool
  /-- Read the member's value into a draft. -/
  read : ρ → Reader ρ

/-- A member whose draft is an optional value. -/
def Member.of {ρ α : Type} (name : String) (omissible : Bool) (reader : Reader α)
    (get : ρ → Option α) (set : ρ → α → ρ) : Member ρ where
  name := name
  omissible := omissible
  isSet draft := (get draft).isSome
  read draft source :=
    match reader source with
    | .error fault => .error fault
    | .ok (value, rest) => .ok (set draft value, rest)

/-- Read the colon between the name and the value of a member. -/
def readColon (source : Source) : Except Fault Source :=
  match skipBlanks source with
  | [] => .error .truncated
  | some ':' :: rest => .ok rest
  | _ => .error .malformed

/-- The text where the next member's name starts, after its opening quote; or, in the first component,
that the object ends, and the text after its bracket. -/
def nextName (first : Bool) (source : Source) : Except Fault (Bool × Source) :=
  let quote (source : Source) : Except Fault (Bool × Source) :=
    match source with
    | [] => .error .truncated
    | some '"' :: rest => .ok (true, rest)
    | _ => .error .malformed
  match skipBlanks source with
  | [] => .error .truncated
  | some '}' :: rest => .ok (false, rest)
  | some ',' :: rest => if first then .error .malformed else quote (skipBlanks rest)
  | trimmed => if first then quote trimmed else .error .malformed

/-- Read the members of an object up to its closing bracket into a draft. -/
def readMembers {ρ : Type} (members : List (Member ρ)) :
    (fuel : Nat) → (first : Bool) → ρ → Reader ρ
  | 0, _, _, _ => .error .truncated
  | fuel + 1, first, draft, source =>
    match nextName first source with
    | .error fault => .error fault
    | .ok (false, rest) => .ok (draft, rest)
    | .ok (true, rest) =>
      match readString rest with
      | .error fault => .error fault
      | .ok (name, rest) =>
        match members.find? (·.name == name) with
        | some member =>
          if member.isSet draft then .error .mismatch
          else
            match readColon rest with
            | .error fault => .error fault
            | .ok rest =>
              match member.read draft rest with
              | .error fault => .error fault
              | .ok (draft, rest) => readMembers members fuel false draft rest
        | none =>
          match readColon rest with
          | .error fault => .error fault
          | .ok rest =>
            match skipValue rest with
            | .error fault => .error fault
            | .ok rest => readMembers members fuel false draft rest

/-- Read the values of a list into a draft, one for each member in order. -/
def readPositions {ρ : Type} : List (Member ρ) → (first : Bool) → ρ → Reader ρ
  | [], _, draft, source => .ok (draft, source)
  | member :: members, first, draft, source =>
    match nextElement first source with
    | .error fault => .error fault
    | .ok (false, rest) =>
      if member.omissible then readPositions members first draft rest else .error .mismatch
    | .ok (true, rest) =>
      match member.read draft rest with
      | .error fault => .error fault
      | .ok (draft, rest) => readPositions members false draft rest

/-- A record: its members, the draft without any, and the value of a complete draft. -/
structure Record (ρ α : Type) where
  members : List (Member ρ)
  empty : ρ
  finish : ρ → Option α

/-- Read a record. -/
def readRecord {ρ α : Type} (record : Record ρ α) : Reader α := fun source =>
  let complete (draft : ρ) (rest : Source) : Step α :=
    match record.finish draft with
    | some value => .ok (value, rest)
    | none => .error .mismatch
  match skipBlanks source with
  | some '{' :: rest =>
    match readMembers record.members (rest.length + 1) true record.empty rest with
    | .error fault => .error fault
    | .ok (draft, rest) => complete draft rest
  | some '[' :: rest =>
    match readPositions record.members true record.empty rest with
    | .error fault => .error fault
    | .ok (draft, rest) =>
      match closeList rest with
      | .error fault => .error fault
      | .ok rest => complete draft rest
  | trimmed => .error (unexpected trimmed)

/-- Read a value that takes the whole text but for blanks. -/
def readWhole {α : Type} (reader : Reader α) (source : Source) : Except Fault α :=
  match reader source with
  | .error fault => .error fault
  | .ok (value, rest) => if skipBlanks rest = [] then .ok value else .error .malformed

end BlindMint.Json
