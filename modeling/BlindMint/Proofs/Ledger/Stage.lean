import BlindMint.Proofs.Ledger.Request

/-!
# A request step by step

A request for a token waits at several points: its session token is verified, the ledger looks the session
up, the ledger saves a record, the masked point is signed. Between two of these steps anything else may
happen. `Stage` says how far a request has come and `Stage.next` is one step of it.

## Results

* **`tokens_eq_stages`**: the steps without interruption are the endpoint.
* `next_entered`, `next_keeps`: saving the record is the only step that changes the ledger.
* `entered_of_isIssued`: only a request whose record was saved is answered with a token.
-/

namespace BlindMint.Http

/-- How far a request for a token has come. -/
inductive Stage where
  /-- The session token has been verified. -/
  | verified (a : Service.Admission)
  /-- The ledger has found no record of the session. -/
  | unseen (a : Service.Admission)
  /-- The ledger has saved a record of the session. -/
  | entered (a : Service.Admission)
  | answered (reply : Reply)

namespace Stage

/-- The first step: verify the session token. -/
def start (s : Service) (bearer : Option String) (maskedPoint : String) (w : World) : Stage × World :=
  match s.admission bearer maskedPoint w with
  | (.error e, w) => (.answered (.error e), w)
  | (.ok a, w) => (.verified a, w)

/-- Look the session up. -/
def lookUp (a : Service.Admission) (w : World) : Stage × World :=
  match w.lookUpSession a.claims.jti with
  | .error e => (.answered (Service.issuanceReply (.error (.failed (.store e)))), w)
  | .ok true =>
    (.answered (Service.issuanceReply (.ok .duplicate)),
      w.count (.issuance LedgerDecision.duplicate.name) 1)
  | .ok false => (.unseen a, w)

/-- Save a record of the session. -/
def save (a : Service.Admission) (w : World) : Stage × World :=
  match w.recordSession (a.issuance.record a.claims) with
  | (.error e, w) => (.answered (Service.issuanceReply (.error (.failed (.store e)))), w)
  | (.ok .duplicate, w) =>
    (.answered (Service.issuanceReply (.ok .duplicate)),
      w.count (.issuance LedgerDecision.duplicate.name) 1)
  | (.ok .accepted, w) => (.entered a, w.count (.issuance LedgerDecision.accepted.name) 1)

/-- Sign the masked point. -/
def sign (s : Service) (a : Service.Admission) (w : World) : Stage × World :=
  let (outcome, w) := a.issuance.sign s.keys a.point w
  (.answered (Service.issuanceReply (outcome.map .issued)), w)

/-- The next step of a request; none is left once it is answered. -/
def next (s : Service) (w : World) : Stage → Stage × World
  | .verified a => lookUp a w
  | .unseen a => save a w
  | .entered a => sign s a w
  | .answered reply => (.answered reply, w)

/-- All steps of a request without interruption. -/
def finish (s : Service) (w : World) (stage : Stage) : Stage × World :=
  let (stage, w) := stage.next s w
  let (stage, w) := stage.next s w
  stage.next s w

/-- **The steps without interruption are the endpoint.** -/
theorem tokens_eq_stages (s : Service) (bearer : Option String) (maskedPoint : String) (w : World) :
    (start s bearer maskedPoint w).1.finish s (start s bearer maskedPoint w).2 =
      (.answered (s.tokens bearer maskedPoint w).1, (s.tokens bearer maskedPoint w).2) := by
  unfold start Service.tokens
  cases s.admission bearer maskedPoint w with
  | mk outcome w =>
    cases outcome with
    | error e => rfl
    | ok a =>
      have htry : w.tryIssue ⟨a.claims.jti, a.issuance.recordExpiry a.claims⟩ =
          match w.lookUpSession a.claims.jti with
          | .error e => (.error e, w)
          | .ok true => (.ok .duplicate, w)
          | .ok false => w.recordSession (a.issuance.record a.claims) := rfl
      dsimp only [finish, next, lookUp, Issuance.issue, Issuance.enter]
      rw [htry]
      cases w.lookUpSession a.claims.jti with
      | error e => rfl
      | ok found =>
        cases found with
        | true => rfl
        | false =>
          dsimp only [next, save]
          cases w.recordSession (a.issuance.record a.claims) with
          | mk decision w =>
            rcases decision with e | (_ | _)
            · rfl
            · dsimp only [next, sign]
              cases a.issuance.sign s.keys a.point (w.count (.issuance LedgerDecision.accepted.name) 1) with
              | mk outcome w => cases outcome <;> rfl
            · rfl

/-- What a request in flight is about; none once it is answered. -/
def admitted? : Stage → Option Service.Admission
  | .verified a => some a
  | .unseen a => some a
  | .entered a => some a
  | .answered _ => none

/-- Whether a request has been answered with a token. -/
def isIssued : Stage → Bool
  | .answered (.ok _) => true
  | _ => false

variable {s : Service} {a : Service.Admission} {w v : World} {stage after : Stage}

/-! ## One step of one request -/

/-- A request is entered by saving a record where there was none. -/
theorem next_entered (h : stage.next s w = (.entered a, v)) :
    stage = .unseen a ∧ a.issuance.Entered a.claims w v := by
  cases stage with
  | verified b =>
    simp only [next, lookUp] at h
    split at h <;> cases h
  | unseen b =>
    simp only [next, save] at h
    split at h
    · cases h
    · cases h
    · next u heq =>
      obtain ⟨hstage, rfl⟩ := Prod.mk.inj h
      obtain rfl := Stage.entered.inj hstage
      exact ⟨rfl, (Issuance.recordSession_accepted heq).count _ _⟩
  | entered b => cases h
  | answered reply => cases h

/-- Any other step keeps the clock and the issue records. -/
theorem next_keeps (h : stage.next s w = (after, v)) (ha : ∀ a, after ≠ .entered a) :
    v.now = w.now ∧ v.issues = w.issues := by
  cases stage with
  | verified b =>
    simp only [next, lookUp] at h
    split at h <;> (obtain ⟨-, rfl⟩ := Prod.mk.inj h; exact ⟨rfl, rfl⟩)
  | unseen b =>
    simp only [next, save] at h
    split at h
    · next heq =>
      obtain ⟨-, rfl⟩ := Prod.mk.inj h
      rw [World.record_eq_of_not_accepted heq (by simp)]
      exact ⟨rfl, rfl⟩
    · next u heq =>
      obtain ⟨-, rfl⟩ := Prod.mk.inj h
      obtain rfl := World.record_eq_of_not_accepted heq (by simp)
      exact ⟨rfl, rfl⟩
    · exact absurd (Prod.mk.inj h).1.symm (ha b)
  | entered b =>
    have hsigns := Issuance.sign_signs b.issuance s.keys b.point w
    obtain ⟨-, rfl⟩ := Prod.mk.inj h
    exact ⟨hsigns.now, hsigns.issues⟩
  | answered reply =>
    obtain ⟨-, rfl⟩ := Prod.mk.inj h
    exact ⟨rfl, rfl⟩

/-- A step does not change what a request is about. -/
theorem admitted?_next (h : stage.next s w = (after, v)) (ha : after.admitted? = some a) :
    stage.admitted? = some a := by
  cases stage with
  | verified b =>
    simp only [next, lookUp] at h
    split at h <;> (obtain ⟨rfl, -⟩ := Prod.mk.inj h; first | exact ha | cases ha)
  | unseen b =>
    simp only [next, save] at h
    split at h <;> (obtain ⟨rfl, -⟩ := Prod.mk.inj h; first | exact ha | cases ha)
  | entered b =>
    obtain ⟨rfl, -⟩ := Prod.mk.inj h
    cases ha
  | answered reply =>
    obtain ⟨rfl, -⟩ := Prod.mk.inj h
    cases ha

/-- Only an entered request is answered with a token. -/
theorem entered_of_isIssued (h : stage.next s w = (after, v)) (ha : after.isIssued = true) :
    (∃ a, stage = .entered a) ∨ stage.isIssued = true := by
  cases stage with
  | verified b =>
    simp only [next, lookUp] at h
    split at h <;> (obtain ⟨rfl, -⟩ := Prod.mk.inj h; cases ha)
  | unseen b =>
    simp only [next, save] at h
    split at h <;> (obtain ⟨rfl, -⟩ := Prod.mk.inj h; cases ha)
  | entered b => exact .inl ⟨b, rfl⟩
  | answered reply =>
    obtain ⟨rfl, -⟩ := Prod.mk.inj h
    exact .inr ha

end Stage

end BlindMint.Http
