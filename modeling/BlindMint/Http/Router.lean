import BlindMint.Http.Endpoint

/-!
# Routing

A path leads to at most one endpoint and matches letter for letter. Each endpoint has one method; one that
is read with `GET` also answers `HEAD`, without a body. An unknown path is not found, and another method
on a known path is refused with the methods that are allowed.

Results:
* `respond_of_unknown`: a request for an unknown path touches nothing.
-/

namespace BlindMint.Http

/-- An endpoint. -/
inductive Endpoint where
  | health
  | sessionKeys
  | anonymousKeys
  | tokens
  | verifications
  deriving DecidableEq, Repr

namespace Endpoint

/-- The endpoints by path. -/
def paths : List (String × Endpoint) := [
  ("/v1/health", health), ("/.well-known/jwks.json", sessionKeys),
  ("/v1/anonymous-tokens/keys", anonymousKeys), ("/v1/anonymous-tokens", tokens),
  ("/v1/verifications", verifications)]

/-- Whether an endpoint is only read. -/
def isRead : Endpoint → Bool
  | health | sessionKeys | anonymousKeys => true
  | tokens | verifications => false

/-- The methods that an endpoint allows. -/
def methods (e : Endpoint) : List String :=
  if e.isRead then ["GET", "HEAD"] else ["POST"]

end Endpoint

/-- The response to a reply; none if there is no reply. -/
def Response.ofReply : Reply → Option Response
  | .error .overflow => none
  | .error (.failed p) => some (.ofProblem p)
  | .ok document => some (.json 200 document)

namespace Service

/-- Answer a request at an endpoint. -/
def answer (s : Service) (e : Endpoint) (r : Request) (w : World) : Option Response × World :=
  let finish (reply : Reply × World) : Option Response × World := (Response.ofReply reply.1, reply.2)
  match e with
  | .health => finish (health w, w)
  | .sessionKeys => finish (s.sessionKeys w)
  | .anonymousKeys => finish (s.anonymousKeys w)
  | .tokens =>
    match r.readBody readTokenRequest with
    | .error response => (some response, w)
    | .ok maskedPoint => finish (s.tokens r.bearer? maskedPoint w)
  | .verifications =>
    match r.readBody readVerificationRequest with
    | .error response => (some response, w)
    | .ok pseudonym => finish (s.verifications pseudonym w)

/-- Respond to a request; there is no response if a cached value's deadline overflows (`build_router`). -/
def respond (s : Service) (r : Request) (w : World) : Option Response × World :=
  match Endpoint.paths.lookup r.path with
  | none => (some { status := 404 }, w)
  | some e =>
    if e.methods.contains r.method then
      let (response, w) := s.answer e r w
      (if r.method = "HEAD" then response.map Response.headOnly else response, w)
    else (some { status := 405, allow := some (",".intercalate e.methods) }, w)

theorem respond_of_unknown {s : Service} {r : Request} {w : World}
    (h : Endpoint.paths.lookup r.path = none) : s.respond r w = (some { status := 404 }, w) := by
  simp [respond, h]

end Service

end BlindMint.Http
