import BlindMint.Base64

/-!
# Armoured documents

A binary document travels as base64 text between two boundary lines that carry its label. Text may
stand before the first boundary, and one line break after the last. Every line of base64 but the last
has 64 characters; a line ends with a line feed, a carriage return, or both.

`Pem.decode?` reads the document of an expected label; `Pem.label?` names the label of the first
boundary line, whatever follows it.
-/

namespace BlindMint.Pem

/-- The start of an opening boundary. -/
def opening : List Char := "-----BEGIN ".toList

/-- The start of a closing boundary. -/
def closing : List Char := "-----END ".toList

/-- The end of a boundary. -/
def dashes : List Char := "-----".toList

/-- The text after an expected beginning. -/
def after? (start text : List Char) : Option (List Char) :=
  if start.isPrefixOf text then some (text.drop start.length) else none

/-- The text before an expected ending. -/
def before? (ending text : List Char) : Option (List Char) :=
  if ending.isSuffixOf text then some (text.take (text.length - ending.length)) else none

/-- The text after a line break. -/
def afterBreak? : List Char → Option (List Char)
  | '\n' :: rest => some rest
  | '\r' :: '\n' :: rest => some rest
  | '\r' :: rest => some rest
  | _ => none

/-- The text before a final line break. -/
def beforeBreak? (text : List Char) : Option (List Char) :=
  match text.reverse with
  | '\n' :: '\r' :: rest => some rest.reverse
  | '\n' :: rest => some rest.reverse
  | '\r' :: rest => some rest.reverse
  | _ => none

/-- The text from the first opening boundary on, after its start; the boundary stands at the start of the
text or after a line feed, and no null character comes before it. -/
def skipPreamble (text : List Char) : Option (List Char) :=
  match after? opening text with
  | some rest => some rest
  | none => search text
where
  /-- The text after the first opening boundary that follows a line feed. -/
  search : List Char → Option (List Char)
    | [] => none
    | c :: rest =>
      if c = '\x00' then none
      else if c = '\n' then
        match after? opening rest with
        | some body => some body
        | none => search rest
      else search rest

/-- The base64 characters of a body whose lines, but for the last, have 64 characters. -/
def joinLines (body : List Char) : Option (List Char) :=
  go (body.length + 1) body
where
  /-- Join lines; each takes at least one character, so `fuel` is the length and one more. -/
  go : (fuel : Nat) → List Char → Option (List Char)
    | 0, _ => none
    | fuel + 1, body =>
      let line := body.take 64
      match body.drop 64 with
      | [] => some line
      | rest =>
        match afterBreak? rest with
        | none => none
        | some [] => some line
        | some rest => (go fuel rest).map (line ++ ·)

/-- The armoured text between the boundary lines of an expected label. -/
def body? (label text : List Char) : Option (List Char) := do
  let rest ← skipPreamble text
  let rest ← after? (label ++ dashes) rest
  let rest ← afterBreak? rest
  let rest := (beforeBreak? rest).getD rest
  let rest ← before? (closing ++ label ++ dashes) rest
  beforeBreak? rest

/-- The document of an armoured text with an expected label. -/
def decode? (label text : String) : Option Octets := do
  let body ← body? label.toList text.toList
  let chars ← joinLines body
  if chars = [] then none else Base64.standard.decode? chars

/-- A line without the carriage return at its end. -/
def withoutReturn (line : List Char) : List Char :=
  (before? ['\r'] line).getD line

/-- The lines of a text: they end with a line feed, or with a carriage return and a line feed. What
follows the last line feed is a line as it stands. -/
def lines (text : List Char) : List (List Char) :=
  let parts := text.splitOn '\n'
  parts.dropLast.map withoutReturn ++ parts.getLast?.toList

/-- The label of the first line that starts as an opening boundary, if that line ends as one. -/
def label? (text : String) : Option String := do
  let line ← (lines text.toList).findSome? (after? opening)
  let label ← before? dashes line
  some (String.ofList label)

end BlindMint.Pem
