import BlindMint.Json.Source

/-!
# Passing over values

A record may hold members that its reader does not know; their values are passed over at any depth.
`skipValue` keeps the brackets that are open on a stack, so that its recursion follows the text alone.
-/

namespace BlindMint.Json

/-- An open bracket. -/
inductive Bracket where
  | list
  | object
  deriving DecidableEq, Repr

/-- The character that closes a bracket. -/
def Bracket.closing : Bracket → Char
  | .list => ']'
  | .object => '}'

/-- Pass over a number, a string or a literal word. -/
def skipScalar (source : Source) : Except Fault Source :=
  match source with
  | some c :: rest =>
    if c = '"' then skipString rest
    else if c = 'n' then readWord ['u', 'l', 'l'] rest
    else if c = 't' then readWord ['r', 'u', 'e'] rest
    else if c = 'f' then readWord ['a', 'l', 's', 'e'] rest
    else if c = '-' ∨ (digit? (some c)).isSome then skipNumber source
    else .error .malformed
  | none :: _ => .error .malformed
  | [] => .error .truncated

/-- Pass over the name of a member and the colon after it. -/
def skipName (source : Source) : Except Fault Source :=
  match skipBlanks source with
  | some '"' :: rest =>
    match skipString rest with
    | .error fault => .error fault
    | .ok rest =>
      match skipBlanks rest with
      | some ':' :: rest => .ok rest
      | [] => .error .truncated
      | _ => .error .malformed
  | [] => .error .truncated
  | _ => .error .malformed

/-- What comes next in passing over a value. -/
inductive SkipState where
  /-- A value. -/
  | value
  /-- The first element or member of the innermost open bracket, or its end. -/
  | first
  /-- A comma or the end of the innermost open bracket. -/
  | after
  deriving DecidableEq, Repr

/-- Pass over the rest of a value inside the open brackets, innermost first; each step takes at least one
character, so `fuel` is the length of the text and one more. -/
def skipSteps : (fuel : Nat) → SkipState → List Bracket → Source → Except Fault Source
  | 0, _, _, _ => .error .truncated
  | _ + 1, .after, [], source => .ok source
  | _ + 1, .first, [], source => .ok source
  | fuel + 1, .value, stack, source =>
    match skipBlanks source with
    | some '[' :: rest => skipSteps fuel .first (.list :: stack) rest
    | some '{' :: rest => skipSteps fuel .first (.object :: stack) rest
    | trimmed =>
      match skipScalar trimmed with
      | .error fault => .error fault
      | .ok rest => skipSteps fuel .after stack rest
  | fuel + 1, .first, bracket :: stack, source =>
    match skipBlanks source with
    | [] => .error .truncated
    | c :: rest =>
      if c = some bracket.closing then skipSteps fuel .after stack rest
      else
        match bracket with
        | .list => skipSteps fuel .value (bracket :: stack) (c :: rest)
        | .object =>
          match skipName (c :: rest) with
          | .error fault => .error fault
          | .ok rest => skipSteps fuel .value (bracket :: stack) rest
  | fuel + 1, .after, bracket :: stack, source =>
    match skipBlanks source with
    | [] => .error .truncated
    | c :: rest =>
      if c = some bracket.closing then skipSteps fuel .after stack rest
      else if c = some ',' then
        match bracket with
        | .list => skipSteps fuel .value (bracket :: stack) rest
        | .object =>
          match skipName rest with
          | .error fault => .error fault
          | .ok rest => skipSteps fuel .value (bracket :: stack) rest
      else .error .malformed

/-- Pass over a value. -/
def skipValue (source : Source) : Except Fault Source :=
  skipSteps (2 * source.length + 2) .value [] source

end BlindMint.Json
