import BlindMint.Text.Decimal
import BlindMint.Yaml.Node

/-!
# Readers of YAML nodes

What a node means depends on what is asked for. Any scalar will do for text. A number or a truth value must
be a plain scalar without a tag. A plain scalar that is empty or a word for null stands for an absent
value. A record is a mapping whose keys are text; its known keys may stand there once.
-/

namespace BlindMint.Yaml

/-- A reader of nodes of a document. -/
abbrev Reader (α : Type) := Document → Node → Option α

/-- The words for null. -/
def nullWords : List (List Char) :=
  ["null".toList, "Null".toList, "NULL".toList, "~".toList]

/-- The tag of null. -/
def nullTag : List Char := "tag:yaml.org,2002:null".toList

/-- Whether a node stands for an absent value; the tag of null on any other text is ill-formed. -/
def isAbsent? (n : Node) : Option Bool :=
  match n with
  | .scalar _ none true text => some (text.isEmpty || nullWords.contains text)
  | .scalar _ (some tag) true text =>
    if tag = nullTag then if nullWords.contains text then some true else none else some false
  | _ => some false

/-- Read a value that may be absent. -/
def readOptional {α : Type} (reader : Reader α) : Reader (Option α) := fun d n => do
  let n := d.resolve n
  if ← isAbsent? n then some none else (reader d n).map some

/-- Read text. -/
def readText : Reader String := fun d n =>
  match d.resolve n with
  | .scalar _ _ _ text => some (String.ofList text)
  | _ => none

/-- The text of a plain scalar without a tag. -/
def plainText? (d : Document) (n : Node) : Option (List Char) :=
  match d.resolve n with
  | .scalar _ none true text => some text
  | _ => none

/-- The truth value that a word means. -/
def truth? (text : List Char) : Option Bool :=
  if ["true".toList, "True".toList, "TRUE".toList].contains text then some true
  else if ["false".toList, "False".toList, "FALSE".toList].contains text then some false
  else none

/-- Read a truth value. -/
def readBool : Reader Bool := fun d n => (plainText? d n).bind truth?

/-- The number that digits of a base write. -/
def ofDigits? (base : Nat) (digits : List Char) : Option Nat :=
  if digits.isEmpty then none
  else digits.foldlM (fun n c => (hexDigit? c).bind fun v => if v < base then some (n * base + v) else none) 0

/-- The number that a word writes: an optional plus sign, and decimal digits without leading zeros, or
digits of another base after its mark. -/
def natural? (text : List Char) : Option Nat :=
  let unsigned := match text with
    | '+' :: rest => rest
    | _ => text
  match unsigned with
  | ['0'] => some 0
  | '0' :: 'x' :: digits => ofDigits? 16 digits
  | '0' :: 'o' :: digits => ofDigits? 8 digits
  | '0' :: 'b' :: digits => ofDigits? 2 digits
  | '0' :: _ => none
  | digits => ofDigits? 10 digits

/-- Read a number that is at most `limit`. -/
def readNatural (limit : Nat) : Reader Nat := fun d n =>
  ((plainText? d n).bind natural?).filter (· ≤ limit)

/-- Read one of some names: as a scalar, or as a tag on a scalar that says nothing. -/
def readChoice {α : Type} (choices : List (String × α)) : Reader α := fun d n =>
  match d.resolve n with
  | .scalar _ (some ('!' :: c :: name)) plain text =>
    if plain && (text.isEmpty || nullWords.contains text) then choices.lookup (String.ofList (c :: name))
    else none
  | .scalar _ _ _ text => choices.lookup (String.ofList text)
  | _ => none

/-- Read a list; a plain scalar without text is an empty one. -/
def readList {α : Type} (reader : Reader α) : Reader (List α) := fun d n =>
  match d.resolve n with
  | .list _ items => items.mapM (reader d)
  | .scalar _ _ true [] => some []
  | _ => none

/-! ## Records -/

/-- The members of a record by name. -/
abbrev Members := List (String × Node)

/-- The members of a mapping. No known name may repeat; if `strict`, every name must be known. -/
def readMembers (strict : Bool) (known : List String) : Reader Members := fun d n =>
  match d.resolve n with
  | .mapping _ entries => do
    let members ← entries.mapM fun (key, value) => (readText d key).map fun name => (name, value)
    let names := members.map (·.1)
    let allowed := known.all (fun name => names.count name ≤ 1) && (!strict || names.all known.contains)
    if allowed then some members else none
  | .scalar _ _ true [] => some []
  | _ => none

namespace Members

/-- The value of a member that may be missing or absent. -/
def optional {α : Type} (m : Members) (d : Document) (name : String) (reader : Reader α) :
    Option (Option α) :=
  match m.lookup name with
  | none => some none
  | some n => readOptional reader d n

/-- The value of a member that must be there. -/
def required {α : Type} (m : Members) (d : Document) (name : String) (reader : Reader α) : Option α :=
  (m.lookup name).bind (reader d)

/-- The value of a member, or a default if the member is missing. -/
def orDefault {α : Type} (m : Members) (d : Document) (name : String) (reader : Reader α) (fallback : α) :
    Option α :=
  match m.lookup name with
  | none => some fallback
  | some n => reader d n

end Members

end BlindMint.Yaml
