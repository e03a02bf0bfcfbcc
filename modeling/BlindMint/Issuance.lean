import BlindMint.Issuance.Ledger
import BlindMint.KeyStore
import BlindMint.Session.Claims

/-!
# Issuing tokens

A verified session obtains one blind signature on the point that its client has masked. The ledger is asked
before any key is touched; then the key pair of the present interval is fetched and handed to the signing
primitive, which belongs to the outside and is a parameter here.

A session's record outlives the session token: it may be deleted from the first second on at which the
token is no longer accepted.

Results:
* `Issuance.issue_of_duplicate`: a duplicate reaches neither keys nor primitive.
-/

namespace BlindMint

/-- What the signing primitive is given (`PrimitiveRequest`). -/
structure BlindRequest where
  curve : Curve
  scalar : Octets
  point : Point
  maskedPoint : Octets
  deriving DecidableEq, Repr

/-- A blind signature with the proof that it was made with the published key (`PrimitiveResponse`). -/
structure BlindSignature where
  signedPoint : Octets
  proofChallenge : Octets
  proofResponse : Octets
  deriving DecidableEq, Repr

/-- Why the signing primitive yields nothing. -/
inductive PrimitiveError where
  /-- The masked point is not acceptable. -/
  | invalidMaskedPoint (reason : String)
  | failed (reason : String)
  deriving DecidableEq, Repr

/-- The wording of a failure. -/
def PrimitiveError.message : PrimitiveError → String
  | .invalidMaskedPoint reason => "masked point rejected: " ++ reason
  | .failed reason => "token primitive failed: " ++ reason

/-- The signing primitive (`TokenIssuancePrimitive`). -/
abbrev Primitive := BlindRequest → Except PrimitiveError BlindSignature

/-- A token as it is handed out. -/
structure IssuedToken where
  kid : String
  signature : BlindSignature
  deriving DecidableEq, Repr

/-- What becomes of a session's request (`IssuanceResult`). -/
inductive IssuanceOutcome where
  | issued (token : IssuedToken)
  | duplicate
  deriving DecidableEq, Repr

/-- Why a request fails. -/
inductive IssuanceError where
  | store (e : StoreError)
  | keys (e : KeyError)
  | primitive (e : PrimitiveError)
  deriving DecidableEq, Repr

/-- What issuance depends on beside the world (`AnonymousTokenService`). -/
structure Issuance where
  primitive : Primitive
  /-- How long after its expiry a session token is accepted at most. -/
  sessionLeeway : Duration := 60

namespace Issuance

/-- The instant from which a session's record may be deleted (`record_expiry`). -/
def recordExpiry (s : Issuance) (claims : SessionClaims) : Instant :=
  (claims.exp.later s.sessionLeeway.capped).later 1

/-- Enter a session into the ledger, and count the decision. -/
def enter (s : Issuance) (claims : SessionClaims) (w : World) :
    Except StoreError LedgerDecision × World :=
  match w.tryIssue ⟨claims.jti, s.recordExpiry claims⟩ with
  | (.error e, w) => (.error e, w)
  | (.ok decision, w) => (.ok decision, w.count (.issuance decision.name) 1)

/-- Ask the signing primitive. -/
def ask (s : Issuance) (request : BlindRequest) (w : World) : Except PrimitiveError BlindSignature × World :=
  (s.primitive request, { w with activity.primitiveCalls := w.activity.primitiveCalls + 1 })

/-- Sign a masked point with the key pair of the present interval. -/
def sign (s : Issuance) (keys : KeyStore) (maskedPoint : Octets) (w : World) :
    Except (Failure IssuanceError) IssuedToken × World :=
  match keys.activeKeyPair w with
  | (.error .overflow, w) => (.error .overflow, w)
  | (.error (.failed e), w) => (.error (.failed (.keys e)), w)
  | (.ok pair, w) =>
    match s.ask ⟨pair.curve, pair.scalar, pair.point, maskedPoint⟩ w with
    | (.error e, w) => (.error (.failed (.primitive e)), w)
    | (.ok signature, w) => (.ok ⟨pair.kid, signature⟩, w)

/-- Issue a token for a session. -/
def issue (s : Issuance) (keys : KeyStore) (claims : SessionClaims) (maskedPoint : Octets) (w : World) :
    Except (Failure IssuanceError) IssuanceOutcome × World :=
  match s.enter claims w with
  | (.error e, w) => (.error (.failed (.store e)), w)
  | (.ok .duplicate, w) => (.ok .duplicate, w)
  | (.ok .accepted, w) =>
    match s.sign keys maskedPoint w with
    | (.error e, w) => (.error e, w)
    | (.ok token, w) => (.ok (.issued token), w)

theorem issue_of_duplicate {s : Issuance} {keys : KeyStore} {claims : SessionClaims}
    {maskedPoint : Octets} {w v : World} (h : s.enter claims w = (.ok .duplicate, v)) :
    s.issue keys claims maskedPoint w = (.ok .duplicate, v) := by
  simp [issue, h]

end Issuance

end BlindMint
