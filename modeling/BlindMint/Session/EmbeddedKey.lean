import BlindMint.Json.Value

/-!
# Keys inside a token's header

The header of a token may carry a public key. Such a key is never used, but a header with a value there
that is no key is no header. `isEmbeddedKey` holds of the members of a key: those that all kinds of keys
share, each at most once, and those of one of the four kinds.
-/

namespace BlindMint.Session

/-- A form that the value of a member must have. -/
abbrev Form := Json.Value → Bool

/-- Whether a member is absent or present once in the given form. -/
def atMostOnce (members : List (String × Json.Value)) (name : String) (form : Form) : Bool :=
  match members.filter (·.1 == name) with
  | [] => true
  | [member] => form member.2
  | _ => false

/-- Whether a member is present once in the given form. -/
def exactlyOnce (members : List (String × Json.Value)) (name : String) (form : Form) : Bool :=
  match members.filter (·.1 == name) with
  | [member] => form member.2
  | _ => false

/-- The form of a value that may also be null. -/
def orNull (form : Form) : Form
  | .null => true
  | value => form value

/-- The algorithms that a key can be for. -/
def keyAlgorithms : List String := [
  "HS256", "HS384", "HS512", "ES256", "ES384", "RS256", "RS384", "RS512", "PS256", "PS384", "PS512",
  "EdDSA", "RSA1_5", "RSA-OAEP", "RSA-OAEP-256"]

/-- The curves that a key can be on. -/
def keyCurves : List String := ["P-256", "P-384", "P-521", "Ed25519"]

/-- The members that all kinds of keys share. -/
def sharedForms : List (String × Form) := [
  ("use", Json.Value.isText), ("key_ops", Json.Value.isTextList),
  ("alg", Json.Value.isChoice keyAlgorithms), ("kid", Json.Value.isText), ("x5u", Json.Value.isText),
  ("x5c", Json.Value.isTextList), ("x5t", Json.Value.isText), ("x5t#S256", Json.Value.isText)]

/-- The members of each kind of key. -/
def kindForms : List (List (String × Form)) := [
  [("kty", Json.Value.isChoice ["EC"]), ("crv", Json.Value.isChoice keyCurves),
    ("x", Json.Value.isText), ("y", Json.Value.isText)],
  [("kty", Json.Value.isChoice ["RSA"]), ("n", Json.Value.isText), ("e", Json.Value.isText)],
  [("kty", Json.Value.isChoice ["oct"]), ("k", Json.Value.isText)],
  [("kty", Json.Value.isChoice ["OKP"]), ("crv", Json.Value.isChoice keyCurves),
    ("x", Json.Value.isText)]]

/-- Whether the members of an object form a key. -/
def isEmbeddedKey (members : List (String × Json.Value)) : Bool :=
  sharedForms.all (fun (name, form) => atMostOnce members name (orNull form)) &&
    kindForms.any fun forms => forms.all fun (name, form) => exactlyOnce members name form

/-- How deep brackets can be nested inside the object of a key in a header. -/
def keyDepth : Nat := 125

/-- Read a key. -/
def readEmbeddedKey : Json.Reader Unit := fun source =>
  match Json.skipBlanks source with
  | some '{' :: rest =>
    match Json.readEntries (Json.readValue keyDepth) (rest.length + 1) true rest with
    | .error fault => .error fault
    | .ok (members, rest) => if isEmbeddedKey members then .ok ((), rest) else .error .mismatch
  | trimmed => .error (Json.unexpected trimmed)

end BlindMint.Session
