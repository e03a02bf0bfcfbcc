/-!
# Media types

A media type is written as a type and a subtype of token characters, with parameters after semicolons. The
part of the subtype after its last plus sign is its suffix. Only what decides whether a body is a JSON
document is kept: the type, the subtype before the suffix, and the suffix. Names are compared without
regard to ASCII case.
-/

namespace BlindMint.Http

/-- A media type without its parameters, in lower case. -/
structure MediaType where
  kind : List Char
  subkind : List Char
  suffix : Option (List Char)
  deriving DecidableEq, Repr

/-- Whether a character may stand in a token: a letter, a digit or one of a few marks. -/
def isTokenChar (c : Char) : Bool :=
  c.isAlphanum || "!#$%&'*+-.^_|~\x60".toList.contains c

/-- Whether a character may stand between the quotes of a parameter's value. -/
def isQuotable (c : Char) : Bool :=
  32 ≤ c.toNat && c.toNat ≠ 127

/-- Where a reader stands among the parameters of a media type. -/
inductive ParameterState where
  /-- Before the first character of a name. -/
  | start
  | name
  /-- Before the first character of a value. -/
  | equals
  | value
  /-- Before the first character of a quoted value, which may be any that is quotable. -/
  | opened
  | quoted
  /-- After the closing quote. -/
  | closed
  deriving DecidableEq, Repr

/-- The state after a character, if the character may stand there. -/
def ParameterState.next (s : ParameterState) (c : Char) : Option ParameterState :=
  match s with
  | .start => if c = ' ' then some .start else if isTokenChar c then some .name else none
  | .name => if c = '=' then some .equals else if isTokenChar c then some .name else none
  | .equals => if c = '"' then some .opened else if isTokenChar c then some .value else none
  | .value => if c = ';' then some .start else if isTokenChar c then some .value else none
  | .opened => if isQuotable c then some .quoted else none
  | .quoted => if c = '"' then some .closed else if isQuotable c then some .quoted else none
  | .closed => if c = ';' then some .start else if c = ' ' then some .closed else none

/-- Whether text may end in a state. -/
def ParameterState.isFinal : ParameterState → Bool
  | .start | .equals | .value | .closed => true
  | .name | .opened | .quoted => false

/-- Whether the text after a media type's first semicolon is a list of parameters. -/
def areParameters (text : List Char) : Bool :=
  match text.foldlM ParameterState.next .start with
  | some state => state.isFinal
  | none => false

/-- The text before the last plus sign that does not begin it, and the text after that sign. -/
def splitSuffix : List Char → List Char × Option (List Char)
  | [] => ([], none)
  | c :: rest =>
    match splitSuffix rest with
    | (before, some after) => (c :: before, some after)
    | (_, none) =>
      match rest with
      | '+' :: after => ([c], some after)
      | _ => (c :: rest, none)

namespace MediaType

/-- The media type that a text writes. -/
def ofText? (text : List Char) : Option MediaType :=
  let (kind, rest) := text.span isTokenChar
  match rest with
  | '/' :: rest =>
    let (subkind, rest) := rest.span isTokenChar
    let parametersOk := match rest with
      | [] => true
      | ';' :: parameters => !subkind.isEmpty && areParameters parameters
      | _ => false
    if kind.isEmpty || !parametersOk then none
    else
      let (subkind, suffix) := splitSuffix (subkind.map Char.toLower)
      some ⟨kind.map Char.toLower, subkind, suffix⟩
  | _ => none

/-- Whether documents of the type are written in JSON. -/
def isJson (m : MediaType) : Bool :=
  m.kind == "application".toList &&
    (m.subkind == "json".toList || m.suffix == some "json".toList)

end MediaType

end BlindMint.Http
