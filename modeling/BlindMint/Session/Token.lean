import BlindMint.Credential
import BlindMint.Session.Claims
import BlindMint.Session.Header
import BlindMint.Text.Quoted
import BlindMint.Text.Utf8

/-!
# Session tokens

A token is three parts in base64 with dots between them: a header, the claims and a signature over the
text of the first two. A token is split at its last two dots, and a part is decoded only when it is its
turn, so that of several faults the first one in this order is reported: the frame, the header, the choice
of keys, and for each key the algorithm, the signature, the claims, the issuer and the audience.

A token that names a key is tried with that key only, and one that names none with every key of its
algorithm. The last key's fault is reported when all refuse it. `acceptedClaims` is the whole decision.

Results:
* `Parts.ofText?_text`: a token splits into the parts it was made of.
* `firstAccepted_eq_ok`: claims come from a key that was tried.
-/

namespace BlindMint.Session

/-- The parts of a token, each in base64. -/
structure Parts where
  header : List Char
  payload : List Char
  signature : List Char
  deriving DecidableEq, Repr

/-- The text before and the text after the last dot. -/
def splitLastDot : List Char → Option (List Char × List Char)
  | [] => none
  | c :: rest =>
    match splitLastDot rest with
    | some (before, after) => some (c :: before, after)
    | none => if c = '.' then some ([], rest) else none

namespace Parts

/-- The parts of a token's text. -/
def ofText? (text : List Char) : Option Parts :=
  match splitLastDot text with
  | none => none
  | some (message, signature) =>
    match splitLastDot message with
    | none => none
    | some (header, payload) => some ⟨header, payload, signature⟩

/-- The text that is signed. -/
def message (p : Parts) : List Char :=
  p.header ++ '.' :: p.payload

/-- The text of a token. -/
def text (p : Parts) : List Char :=
  p.message ++ '.' :: p.signature

end Parts

theorem splitLastDot_eq_none {text : List Char} (h : '.' ∉ text) : splitLastDot text = none := by
  induction text with
  | nil => rfl
  | cons c rest ih =>
    simp only [List.mem_cons, not_or] at h
    simp [splitLastDot, ih h.2, Ne.symm h.1]

theorem splitLastDot_append (before : List Char) {after : List Char} (h : '.' ∉ after) :
    splitLastDot (before ++ '.' :: after) = some (before, after) := by
  induction before with
  | nil => simp [splitLastDot, splitLastDot_eq_none h]
  | cons c rest ih => simp [splitLastDot, ih]

theorem Parts.ofText?_text (p : Parts) (hp : '.' ∉ p.payload) (hs : '.' ∉ p.signature) :
    Parts.ofText? p.text = some p := by
  unfold Parts.ofText? Parts.text
  rw [splitLastDot_append p.message hs]
  simp [Parts.message, splitLastDot_append p.header hp]

/-! ## Reading the parts -/

/-- The document in a part, read as far as its bytes are text. -/
def readPart {α : Type} (reader : Json.Reader α) (part : List Char) : Except TokenFault α :=
  match Base64.urlSafe.decode? part with
  | none => .error .encoding
  | some bytes =>
    match Json.readWhole reader (Utf8.scan bytes) with
    | .error _ => .error .document
    | .ok value => .ok value

/-- The header of a token. -/
def readHeader (text : String) : Except TokenFault Header :=
  match Parts.ofText? text.toList with
  | none => .error .malformedToken
  | some parts => readPart Header.read parts.header

/-- Pass over an instant before which a token is not in use. Any scalar will do, and an empty list or
object. -/
def skipNotBefore : Json.Reader Unit := fun source =>
  let rest : Except Json.Fault Json.Source :=
    match Json.skipBlanks source with
    | some '[' :: rest => Json.closeList rest
    | some '{' :: rest =>
      match Json.skipBlanks rest with
      | some '}' :: rest => .ok rest
      | _ => .error .malformed
    | some '"' :: rest =>
      match Json.readString rest with
      | .error fault => .error fault
      | .ok (_, rest) => .ok rest
    | trimmed => Json.skipValue trimmed
  match rest with
  | .error fault => .error fault
  | .ok rest => .ok ((), rest)

/-- Read the claims that every token may have: an object in which the instant of first use, if it is
there, is there once. -/
def readRegistered : Json.Reader Unit := fun source =>
  match Json.skipBlanks source with
  | some '{' :: _ =>
    Json.readRecord ⟨[.of "nbf" true skipNotBefore id fun _ _ => some ()], none, fun _ => some ()⟩ source
  | trimmed => .error (Json.unexpected trimmed)

/-- The claims of a payload. -/
def readPayload (part : List Char) : Except TokenFault SessionClaims :=
  match readPart SessionClaims.read part with
  | .error fault => .error fault
  | .ok claims =>
    match readPart readRegistered part with
    | .error fault => .error fault
    | .ok () => .ok claims

/-! ## Checking a token -/

/-- Whose tokens are accepted, for whom, and for how long after their expiry. -/
structure Expectation where
  issuer : String := "anontoken"
  audience : String := "anontoken-clients"
  leeway : Duration := 60
  deriving DecidableEq, Repr

/-- Check the claims themselves: the expiry must not be before the epoch, and issuer and audience must be
the expected ones. -/
def checkClaims (expected : Expectation) (claims : SessionClaims) : Except TokenFault SessionClaims :=
  if claims.exp < 0 then .error (.missingClaim "exp")
  else if claims.iss ≠ expected.issuer then .error .wrongIssuer
  else if claims.aud ≠ expected.audience then .error .wrongAudience
  else .ok claims

/-- The claims of a token that a key accepts. -/
def decode (scheme : Scheme) (expected : Expectation) (text : String) (key : CredentialKey) :
    Except TokenFault SessionClaims :=
  match Parts.ofText? text.toList with
  | none => .error .malformedToken
  | some parts =>
    match readPart Header.read parts.header with
    | .error fault => .error fault
    | .ok header =>
      if header.algorithm ≠ key.algorithm then .error .wrongAlgorithm
      else
        match Base64.urlSafe.decode? parts.signature with
        | none => .error .encoding
        | some signature =>
          if scheme.checks key.key (Utf8.encode parts.message) signature then
            match readPayload parts.payload with
            | .error fault => .error fault
            | .ok claims => checkClaims expected claims
          else .error .wrongSignature

/-- The keys that a token is tried with. -/
def candidates (header : Header) (keys : List CredentialKey) : List CredentialKey :=
  match header.kid with
  | some kid => keys.filter (·.kid == kid)
  | none => keys.filter (·.algorithm == header.algorithm)

/-- The claims that the first accepting key yields; if there is none, the last key's fault (`verify`). -/
def firstAccepted (decode : CredentialKey → Except TokenFault SessionClaims) :
    (fault : KeyError) → List CredentialKey → Except KeyError SessionClaims
  | fault, [] => .error fault
  | _, key :: keys =>
    match decode key with
    | .ok claims => .ok claims
    | .error fault => firstAccepted decode (.token fault) keys

/-- The refusal of a token that no key is there for. -/
def noKeyFor (kid : Option String) : KeyError :=
  let name := match kid with
    | some kid => "Some(" ++ Text.quoted kid ++ ")"
    | none => "None"
  .tokenRejected ("no validation key for kid " ++ name)

/-- Whether claims are expired at an instant. -/
def isExpired (claims : SessionClaims) (leeway : Duration) (now : Instant) : Bool :=
  claims.exp.later leeway.wrapped < now

/-- The claims of a token with the given header, at an instant, by the published keys. -/
def acceptedClaims (scheme : Scheme) (expected : Expectation) (text : String) (header : Header)
    (keys : List CredentialKey) (now : Instant) : Except KeyError SessionClaims :=
  match firstAccepted (decode scheme expected text) (noKeyFor header.kid) (candidates header keys) with
  | .error e => .error e
  | .ok claims =>
    if isExpired claims expected.leeway now then .error (.tokenRejected "session token expired")
    else .ok claims

theorem firstAccepted_eq_ok {decode : CredentialKey → Except TokenFault SessionClaims} {fault : KeyError}
    {keys : List CredentialKey} {claims : SessionClaims}
    (h : firstAccepted decode fault keys = .ok claims) : ∃ key ∈ keys, decode key = .ok claims := by
  induction keys generalizing fault with
  | nil => simp [firstAccepted] at h
  | cons key keys ih =>
    unfold firstAccepted at h
    split at h
    · next c hd =>
      obtain rfl := Except.ok.inj h
      exact ⟨key, by simp, hd⟩
    · obtain ⟨k, hk, hd⟩ := ih h
      exact ⟨k, List.mem_cons_of_mem _ hk, hd⟩

/-! ## Making a token -/

/-- A part for a document. -/
def writePart (document : Json.Document) : List Char :=
  Base64.urlSafe.encode (Utf8.encode document.write)

/-- The token that a credential signs for claims. -/
def sign (scheme : Scheme) (credential : Credential) (claims : SessionClaims) : Except TokenFault String :=
  let header : Header := ⟨credential.algorithm, some credential.kid⟩
  let unsigned : Parts := ⟨writePart header.document, writePart claims.document, []⟩
  match scheme.sign credential.key (Utf8.encode unsigned.message) with
  | .error fault => .error fault
  | .ok signature =>
    .ok (String.ofList { unsigned with signature := Base64.urlSafe.encode signature }.text)

end BlindMint.Session
