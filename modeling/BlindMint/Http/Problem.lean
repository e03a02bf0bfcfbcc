import BlindMint.Json.Document
import BlindMint.KeyError
import BlindMint.Store

/-!
# Problems reported to clients

Every refusal of an endpoint has a status, a code and a message, in one document shape. Failures of the
store and of key material are reported as internal: the client learns which stage failed and nothing of
the failure itself.
-/

namespace BlindMint.Http

/-- A refusal as a client sees it (`ApiError`). -/
structure Problem where
  status : Nat
  code : String
  message : String
  deriving DecidableEq, Repr

namespace Problem

/-- The feature is not part of this deployment (`api_not_enabled`). -/
def notEnabled (message : String) : Problem := ⟨404, "not_enabled", message⟩

/-- The request conflicts with what was done before (`api_conflict`). -/
def conflict (code message : String) : Problem := ⟨409, code, message⟩

/-- The client made too many requests (`api_too_many_requests`). -/
def tooManyRequests (code message : String) : Problem := ⟨429, code, message⟩

/-- The client did not prove who it is (`api_unauthorized`). -/
def unauthorized (message : String) : Problem := ⟨401, "unauthorized", message⟩

/-- A value in the request is not acceptable (`api_validation_error`). -/
def invalid (message : String) : Problem := ⟨400, "validation_error", message⟩

/-- A failure inside the service (`api_internal_message`). -/
def internal (message : String) : Problem := ⟨500, "internal", message⟩

/-- A failure of the store, which the client does not see (`api_internal`). -/
def ofStoreError (message : String) (_ : StoreError) : Problem := internal message

/-- A failure of key material, which the client does not see (`api_key_error`). -/
def ofKeyError (message : String) (_ : KeyError) : Problem := internal message

/-- The document of a problem. -/
def document (p : Problem) : Json.Document :=
  .object [("code", .text p.code), ("message", .text p.message), ("request_id", .null)]

/-- The text of a problem. -/
def render (p : Problem) : String :=
  p.document.render

end Problem

end BlindMint.Http
