import BlindMint.Http.MediaType
import BlindMint.Http.Problem
import BlindMint.Json.Reader

/-!
# Requests and responses

A request as it reaches an endpoint and a response as it leaves one. Header names are compared without
regard to ASCII case, and of several headers of one name the first counts. A header whose value holds
anything but visible ASCII characters, blanks and tabs counts as having no text.

A body is read before its endpoint sees it. Its media type must be that of JSON documents; then its text
must start with a document, and the document must have the shape that the endpoint asks for. What follows
the document is not looked at.
-/

namespace BlindMint.Http

/-- A request. -/
structure Request where
  method : String := "GET"
  /-- The target: a path with an optional query, or an absolute one with scheme and host. -/
  target : String
  headers : List (String × String) := []
  body : String := ""
  deriving DecidableEq, Repr

/-- A response; the body is kept if it is a JSON document. -/
structure Response where
  status : Nat
  contentType : Option String := none
  allow : Option String := none
  body : Option String := none
  deriving DecidableEq, Repr

namespace Response

/-- A response that holds a document. -/
def json (status : Nat) (document : Json.Document) : Response :=
  { status, contentType := some "application/json", body := some document.render }

/-- A response that says in plain words why the request cannot be read. -/
def unreadable (status : Nat) : Response :=
  { status, contentType := some "text/plain; charset=utf-8" }

/-- The response to a problem. -/
def ofProblem (p : Problem) : Response :=
  json p.status p.document

/-- The response with its body left out. -/
def headOnly (r : Response) : Response :=
  { r with body := r.body.map fun _ => "" }

end Response

namespace Request

/-- Whether a character may stand in the text of a header. -/
def isHeaderChar (c : Char) : Bool :=
  c = '\t' || (32 ≤ c.toNat && c.toNat < 127)

/-- The text of the first header of a name. -/
def headerText? (r : Request) (name : String) : Option (List Char) :=
  match r.headers.find? fun header => header.1.toList.map Char.toLower == name.toList with
  | some header => if header.2.toList.all isHeaderChar then some header.2.toList else none
  | none => none

/-- The path of a target: without query, fragment, scheme and host. -/
def pathOf (target : List Char) : List Char :=
  let bare := target.takeWhile fun c => c ≠ '?' && c ≠ '#'
  match bare with
  | '/' :: _ => bare
  | _ =>
    match (bare.dropWhile (· ≠ ':')).drop 3 with
    | [] => bare
    | rest =>
      match rest.dropWhile (· ≠ '/') with
      | [] => ['/']
      | path => path

/-- The path of the request. -/
def path (r : Request) : String :=
  String.ofList (pathOf r.target.toList)

/-- The token that the client presents (`extract_bearer`). -/
def bearer? (r : Request) : Option String := do
  let text ← r.headerText? "authorization"
  let scheme := "Bearer ".toList
  if scheme.isPrefixOf text then some (String.ofList (text.drop scheme.length)) else none

/-- Whether the body is said to be a JSON document. -/
def hasJsonBody (r : Request) : Bool :=
  match r.headerText? "content-type" with
  | some text =>
    match MediaType.ofText? text with
    | some media => media.isJson
    | none => false
  | none => false

/-- The document in the body, or the response to one that cannot be read. -/
def readBody {α : Type} (r : Request) (reader : Json.Reader α) : Except Response α :=
  if r.hasJsonBody then
    match reader (.ofString r.body) with
    | .ok (value, _) => .ok value
    | .error .mismatch => .error (.unreadable 422)
    | .error _ => .error (.unreadable 400)
  else .error (.unreadable 415)

end Request

end BlindMint.Http
