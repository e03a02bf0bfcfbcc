import BlindMint.Verification.Limit

/-!
# Verifying identities

A pseudonym is verified in three steps in a fixed order: the limit, the identity check, the record. An
attempt that passes the limit is recorded whatever the identity check says, so that failures use the
same budget as successes; only a check that cannot be made leaves no record.

The identity check belongs to the outside and is a parameter here.

Results:
* `Verification.verify_of_limitReached`: a refused attempt neither asks nor records.
-/

namespace BlindMint

/-- The identity check: whether a pseudonym is the one it claims to be, or why that cannot be told. -/
abbrev IdentityCheck := String → Except String Bool

/-- What becomes of an attempt. -/
inductive VerificationOutcome where
  | verified
  | notVerified
  | limitReached
  deriving DecidableEq, Repr

/-- The name of an outcome. -/
def VerificationOutcome.name : VerificationOutcome → String
  | .verified => "verified"
  | .notVerified => "not_verified"
  | .limitReached => "limit_reached"

/-- Why an attempt fails. -/
inductive VerificationError where
  | store (e : StoreError)
  | identityCheck (reason : String)
  deriving DecidableEq, Repr

/-- The wording of a failure. -/
def VerificationError.message : VerificationError → String
  | .store e => e.message
  | .identityCheck reason => "identity check failed: " ++ reason

/-- What verification depends on beside the world (`VerificationService`). -/
structure Verification where
  limit : VerificationLimit := {}
  check : IdentityCheck

namespace Verification

/-- Ask the identity check about a pseudonym. -/
def ask (s : Verification) (pseudonym : String) (w : World) : Except String Bool × World :=
  (s.check pseudonym, { w with activity.identityChecks := w.activity.identityChecks + 1 })

/-- Ask about a pseudonym that is within the limit, and record the attempt. -/
def attempt (s : Verification) (pseudonym : String) (w : World) :
    Except VerificationError VerificationOutcome × World :=
  match s.ask pseudonym w with
  | (.error reason, w) => (.error (.identityCheck reason), w)
  | (.ok verified, w) =>
    match w.recordAttempt pseudonym with
    | (.error e, w) => (.error (.store e), w)
    | (.ok (), w) => (.ok (if verified then .verified else .notVerified), w)

/-- Verify a pseudonym (`verify_inner`). -/
def judge (s : Verification) (pseudonym : String) (w : World) :
    Except VerificationError VerificationOutcome × World :=
  match w.reachesLimit s.limit pseudonym with
  | .error e => (.error (.store e), w)
  | .ok true => (.ok .limitReached, w)
  | .ok false => s.attempt pseudonym w

/-- Verify a pseudonym, and count the outcome (`verify`). -/
def verify (s : Verification) (pseudonym : String) (w : World) :
    Except VerificationError VerificationOutcome × World :=
  match s.judge pseudonym w with
  | (.error e, w) => (.error e, w)
  | (.ok outcome, w) => (.ok outcome, w.count (.verifications outcome.name) 1)

theorem verify_of_limitReached {s : Verification} {pseudonym : String} {w : World}
    (h : w.reachesLimit s.limit pseudonym = .ok true) :
    s.verify pseudonym w = (.ok .limitReached, w.count (.verifications "limit_reached") 1) := by
  simp [verify, judge, h, VerificationOutcome.name]

end Verification

end BlindMint
