import BlindMint.Http.Message
import BlindMint.Issuance
import BlindMint.Session
import BlindMint.Text.Blank
import BlindMint.Verification

/-!
# The endpoints of the service

Five endpoints: the health of the record store, the published keys of session tokens and of anonymous
tokens, issuance and verification. The last two may be left out of a deployment; they then answer that
they are not enabled.

Each endpoint yields a document or a problem. A call that would give a cached value a deadline beyond the
range of the timer yields neither (`Failure.overflow`).
-/

namespace BlindMint.Http

/-- What the endpoints depend on beside the world (`AppState`). -/
structure Service where
  keys : KeyStore := {}
  credentials : CredentialSettings := {}
  expectation : Session.Expectation := {}
  scheme : Scheme := .standard
  /-- Issuance, if it is enabled. -/
  issuance : Option Issuance := none
  /-- Verification, if it is enabled. -/
  verification : Option Verification := none

/-- What an endpoint yields. -/
abbrev Reply := Except (Failure Problem) Json.Document

/-- Refuse with a problem. -/
def refuse (p : Problem) : Reply := .error (.failed p)

/-- The name of the storage backend that is in use (`backend_name`). -/
def backendName : String := "memory"

namespace Service

/-- The health of the record store. -/
def health (w : World) : Reply :=
  match w.checkHealth with
  | .error e => refuse (.ofStoreError "storage unavailable" e)
  | .ok () => .ok (.object [("status", .text "ok"), ("backend", .text backendName)])

/-- A published key set, with the message for keys that cannot be read. -/
def publish (unavailable : String) (keys : Except (Failure KeyError) KeySet × World) : Reply × World :=
  match keys with
  | (.error .overflow, w) => (.error .overflow, w)
  | (.error (.failed e), w) => (refuse (.ofKeyError unavailable e), w)
  | (.ok set, w) => (.ok set.document, w)

/-- The keys that check session tokens (`session_jwks`). -/
def sessionKeys (s : Service) (w : World) : Reply × World :=
  publish "signing credentials unavailable" (CredentialStore.keySet s.credentials w)

/-- The keys that check anonymous tokens (`anonymous_token_keys`). -/
def anonymousKeys (s : Service) (w : World) : Reply × World :=
  publish "anonymous-token keys unavailable" (s.keys.keySet w)

/-! ## Issuance -/

/-- Read a request for a token: the masked point as text (`IssueTokenRequest`). -/
def readTokenRequest : Json.Reader String :=
  Json.readRecord ⟨[.of "masked_point" false Json.readText id fun _ v => some v], none, id⟩

/-- The document of an issued token. -/
def tokenDocument (token : IssuedToken) : Json.Document :=
  .object [("kid", .text token.kid),
    ("signed_point", .text (Base64.standard.toText token.signature.signedPoint)),
    ("proof_challenge", .text (Base64.standard.toText token.signature.proofChallenge)),
    ("proof_response", .text (Base64.standard.toText token.signature.proofResponse))]

/-- The problem of a session token that is not accepted. -/
def sessionProblem (e : KeyError) : Problem :=
  match e with
  | .token _ => .unauthorized "invalid session token"
  | .tokenRejected _ => .unauthorized "invalid session token"
  | e => .ofKeyError "signing credentials unavailable" e

/-- The problem of a failed issuance. -/
def issuanceProblem (e : IssuanceError) : Problem :=
  match e with
  | .primitive (.invalidMaskedPoint reason) => .invalid ("invalid masked_point: " ++ reason)
  | .primitive (.failed _) => .internal "token issuance failed"
  | .keys e => .ofKeyError "signing keys unavailable" e
  | .store e => .ofStoreError "issuance ledger unavailable" e

/-- The reply to an issuance. -/
def issuanceReply (outcome : Except (Failure IssuanceError) IssuanceOutcome) : Reply :=
  match outcome with
  | .error .overflow => .error .overflow
  | .error (.failed e) => refuse (issuanceProblem e)
  | .ok .duplicate =>
    refuse (.conflict "duplicate_issuance" "an anonymous token was already issued for this session")
  | .ok (.issued token) => .ok (tokenDocument token)

/-- A request for a token whose session token has been accepted and whose masked point has been read. -/
structure Admission where
  /-- Who issues. -/
  issuance : Issuance
  claims : SessionClaims
  point : Octets

/-- Admit a request for a token: issuance must be enabled, the bearer's session token accepted and the
masked point readable, and they are looked at in this order. -/
def admission (s : Service) (bearer : Option String) (maskedPoint : String) (w : World) :
    Except (Failure Problem) Admission × World :=
  match s.issuance with
  | none => (.error (.failed (.notEnabled "anonymous token issuance not enabled")), w)
  | some issuance =>
    match bearer with
    | none => (.error (.failed (.unauthorized "missing bearer token")), w)
    | some token =>
      match Session.verify s.scheme s.credentials s.expectation token w with
      | (.error .overflow, w) => (.error .overflow, w)
      | (.error (.failed e), w) => (.error (.failed (sessionProblem e)), w)
      | (.ok claims, w) =>
        match Base64.standard.decode? maskedPoint.toList with
        | none => (.error (.failed (.invalid "masked_point must be base64")), w)
        | some point => (.ok ⟨issuance, claims, point⟩, w)

/-- Issue a token on a masked point to the bearer of a session token (`issue_token`). -/
def tokens (s : Service) (bearer : Option String) (maskedPoint : String) (w : World) : Reply × World :=
  match s.admission bearer maskedPoint w with
  | (.error e, w) => (.error e, w)
  | (.ok a, w) =>
    let (outcome, w) := a.issuance.issue s.keys a.claims a.point w
    (issuanceReply outcome, w)

/-! ## Verification -/

/-- Read a request for a verification: the pseudonym (`VerifyRequest`). -/
def readVerificationRequest : Json.Reader String :=
  Json.readRecord ⟨[.of "pseudonym" false Json.readText id fun _ v => some v], none, id⟩

/-- The problem of a failed verification. -/
def verificationProblem (e : VerificationError) : Problem :=
  match e with
  | .store e => .ofStoreError "verification records unavailable" e
  | .identityCheck _ => .internal "identity check unavailable"

/-- The reply to a verification. -/
def verificationReply (outcome : Except VerificationError VerificationOutcome) : Reply :=
  match outcome with
  | .error e => refuse (verificationProblem e)
  | .ok .limitReached =>
    refuse (.tooManyRequests "verification_limit_reached" "verification limit reached; try again later")
  | .ok outcome => .ok (.object [("outcome", .text outcome.name)])

/-- Verify a pseudonym (`verify`). -/
def verifications (s : Service) (pseudonym : String) (w : World) : Reply × World :=
  match s.verification with
  | none => (refuse (.notEnabled "verification not enabled"), w)
  | some verification =>
    if (Text.trim pseudonym).isEmpty then (refuse (.invalid "pseudonym must not be empty"), w)
    else
      let (outcome, w) := verification.verify pseudonym w
      (verificationReply outcome, w)

end Service

end BlindMint.Http
