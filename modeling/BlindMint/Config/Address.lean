import BlindMint.Text.Decimal

/-!
# Socket addresses

An address is a host with a port. A host of version 4 is four numbers with dots between them; one of version
6 is eight groups of hexadecimal digits with colons between them, in brackets, where one run of zero
groups may be left out, the last two groups may be written as a version 4 host, and a scope may follow. An
address is shown in canonical form: lower case, and the longest run of at least two zero groups, the first
of several, left out.
-/

namespace BlindMint

/-- A host. -/
inductive Host where
  /-- Four bytes. -/
  | v4 (octets : List Nat)
  /-- Eight groups of sixteen bits, and the scope. -/
  | v6 (groups : List Nat) (scope : Nat)
  deriving DecidableEq, Repr

/-- A host with a port. -/
structure SocketAddress where
  host : Host
  port : Nat
  deriving DecidableEq, Repr

namespace SocketAddress

/-- Read a character. -/
def readChar (c : Char) : List Char → Option (List Char)
  | d :: rest => if d = c then some rest else none
  | [] => none

/-- The value of a digit in a base. -/
def digit? (base : Nat) (c : Char) : Option Nat :=
  let value : Option Nat :=
    if '0' ≤ c ∧ c ≤ '9' then some (c.toNat - 48)
    else if 'a' ≤ c ∧ c ≤ 'f' then some (c.toNat - 87)
    else if 'A' ≤ c ∧ c ≤ 'F' then some (c.toNat - 55)
    else none
  value.filter (· < base)

/-- The form of a number in an address. -/
structure NumberForm where
  base : Nat := 10
  /-- The greatest value. -/
  limit : Nat
  /-- The most digits, if there is a bound on them. -/
  maxDigits : Option Nat := none
  /-- Whether further digits may follow a zero at the start. -/
  leadingZeros : Bool := true

/-- Read a number: all the digits at the head of the text. -/
def readNumber (form : NumberForm) (text : List Char) : Option (Nat × List Char) :=
  let digits := text.takeWhile fun c => (digit? form.base c).isSome
  let value := digits.foldl (fun n c => n * form.base + (digit? form.base c).getD 0) 0
  let tooLong := form.maxDigits.any (· < digits.length)
  let padded := !form.leadingZeros && 1 < digits.length && digits.head? = some '0'
  if digits.isEmpty || tooLong || padded || form.limit < value then none
  else some (value, text.drop digits.length)

/-- Read one of the numbers of a version 4 host. -/
def readOctet : List Char → Option (Nat × List Char) :=
  readNumber { limit := 255, maxDigits := some 3, leadingZeros := false }

/-- Read a version 4 host. -/
def readV4 (text : List Char) : Option (List Nat × List Char) := do
  let (a, text) ← readOctet text
  let (b, text) ← readOctet (← readChar '.' text)
  let (c, text) ← readOctet (← readChar '.' text)
  let (d, text) ← readOctet (← readChar '.' text)
  some ([a, b, c, d], text)

/-- The two groups that a version 4 host makes. -/
def groupsOfV4 : List Nat → List Nat
  | [a, b, c, d] => [a * 256 + b, c * 256 + d]
  | _ => []

/-- The text after the colon that comes before every group but the first. -/
def afterColon (first : Bool) (text : List Char) : Option (List Char) :=
  if first then some text else readChar ':' text

/-- Read at most `room` groups. The result also says whether they end with a version 4 host. -/
def readGroups : (room : Nat) → (first : Bool) → List Char → List Nat × Bool × List Char
  | 0, _, text => ([], false, text)
  | room + 1, first, text =>
    let embedded := if room = 0 then none else (afterColon first text).bind readV4
    match embedded with
    | some (octets, rest) => (groupsOfV4 octets, true, rest)
    | none =>
      match (afterColon first text).bind (readNumber { base := 16, limit := 65535, maxDigits := some 4 }) with
      | none => ([], false, text)
      | some (group, rest) =>
        let (groups, embedded, rest) := readGroups room false rest
        (group :: groups, embedded, rest)

/-- Read a version 6 host without its scope. -/
def readV6 (text : List Char) : Option (List Nat × List Char) :=
  let (head, embedded, rest) := readGroups 8 true text
  if head.length = 8 then some (head, rest)
  else if embedded then none
  else do
    let rest ← readChar ':' (← readChar ':' rest)
    let (tail, _, rest) := readGroups (7 - head.length) true rest
    some (head ++ List.replicate (8 - head.length - tail.length) 0 ++ tail, rest)

/-- Read a port after its colon. -/
def readPort (text : List Char) : Option (Nat × List Char) := do
  readNumber { limit := 65535 } (← readChar ':' text)

/-- Read an address with a version 4 host. -/
def readWithV4 (text : List Char) : Option (SocketAddress × List Char) := do
  let (octets, text) ← readV4 text
  let (port, text) ← readPort text
  some (⟨.v4 octets, port⟩, text)

/-- Read the scope of a host; it is zero where none is written. -/
def readScope (text : List Char) : Nat × List Char :=
  ((readChar '%' text).bind (readNumber { limit := UInt32.size - 1 })).getD (0, text)

/-- Read an address with a version 6 host. -/
def readWithV6 (text : List Char) : Option (SocketAddress × List Char) := do
  let (groups, text) ← readV6 (← readChar '[' text)
  let (scope, text) := readScope text
  let (port, text) ← readPort (← readChar ']' text)
  some (⟨.v6 groups scope, port⟩, text)

/-- The address that a text writes. -/
def parse (text : String) : Option SocketAddress :=
  match readWithV4 text.toList <|> readWithV6 text.toList with
  | some (address, []) => some address
  | _ => none

/-- Why a text is no address. -/
def malformed : String := "invalid socket address syntax"

/-! ## Canonical text -/

/-- The text of a version 4 host. -/
def renderV4 (octets : List Nat) : String :=
  ".".intercalate (octets.map Decimal.ofNat)

/-- The text of groups. -/
def renderGroups (groups : List Nat) : String :=
  ":".intercalate (groups.map fun g => String.ofList (Nat.toDigits 16 g))

/-- A run of zero groups: where it starts and how long it is. -/
structure ZeroRun where
  start : Nat := 0
  length : Nat := 0
  deriving DecidableEq, Repr

/-- The longest run of zeros among groups, the first one of several; `index` groups came before,
`current` is the run that ends there, and `longest` the longest so far. -/
def longestZeros : (index : Nat) → (current longest : ZeroRun) → List Nat → ZeroRun
  | _, _, longest, [] => longest
  | index, current, longest, g :: rest =>
    if g = 0 then
      let current := ⟨if current.length = 0 then index else current.start, current.length + 1⟩
      longestZeros (index + 1) current (if longest.length < current.length then current else longest) rest
    else longestZeros (index + 1) {} longest rest

/-- The text of a version 6 host without its scope. -/
def renderV6 (groups : List Nat) : String :=
  match groups with
  | [0, 0, 0, 0, 0, 0xffff, a, b] => "::ffff:" ++ renderV4 [a / 256, a % 256, b / 256, b % 256]
  | _ =>
    let run := longestZeros 0 {} {} groups
    if 1 < run.length then
      renderGroups (groups.take run.start) ++ "::" ++ renderGroups (groups.drop (run.start + run.length))
    else renderGroups groups

/-- The canonical text of an address. -/
def render (a : SocketAddress) : String :=
  match a.host with
  | .v4 octets => renderV4 octets ++ ":" ++ Decimal.ofNat a.port
  | .v6 groups scope =>
    let scopeText := if scope = 0 then "" else "%" ++ Decimal.ofNat scope
    "[" ++ renderV6 groups ++ scopeText ++ "]:" ++ Decimal.ofNat a.port

end SocketAddress

end BlindMint
