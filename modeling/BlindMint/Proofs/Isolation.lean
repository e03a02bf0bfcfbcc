import BlindMint.Proofs.Sweep.Reach

/-!
# Identities do not interfere

Verifications of all pseudonyms and decisions on all sessions share two tables, one clock and one sweeper. Yet what
becomes of the verifications of one pseudonym is what would become of them if no other pseudonym were ever verified and
no session ever entered, and likewise for a session. Erasing the others' calls from a run leaves a second run, and the
two are compared event by event. An event that is erased must not be seen and must not matter later; any other event
must show the same in both runs and keep them alike (`Unwinds`).

Alike are two worlds with the same clock, the same faults and the same records of the one pseudonym or the one session.
What the sweeper does to these records does not depend on the others.

## Results

* `verify_fst`, `verify_verifications`: a verification looks at the records of its own pseudonym, and adds to them only.
* `tryIssue_fst`, `tryIssue_snd`: so does a decision, with the records of its session.
* `Unwinds.seen_filter`: what an observer sees does not change if what it may not see is erased.
* `unwinds_verdicts`, `unwinds_decisions`: one pseudonym, or one session, is such an observer.
* **`outcomes_isolated`**: the outcomes of one pseudonym and of one session are those of the run without the others.
-/

namespace BlindMint

/-! ## A verification and its own records -/

namespace Verification

/-- What a verification says, by what the limit says and by whether attempts can be recorded. -/
def verdict (s : Verification) (pseudonym : String) (reached : Except StoreError Bool)
    (fault : Option StoreError) : Except VerificationError VerificationOutcome :=
  match reached with
  | .error e => .error (.store e)
  | .ok true => .ok .limitReached
  | .ok false =>
    match s.check pseudonym, fault with
    | .error reason, _ => .error (.identityCheck reason)
    | .ok _, some e => .error (.store e)
    | .ok verified, none => .ok (if verified then .verified else .notVerified)

/-- Whether an attempt with an outcome was recorded. -/
def isRecorded : Except VerificationError VerificationOutcome → Bool
  | .ok .verified | .ok .notVerified => true
  | .ok .limitReached | .error _ => false

variable (s : Verification) (pseudonym : String) (w : World)

/-- **A verification looks at nothing but the limit of its pseudonym.** -/
theorem verify_fst : (s.verify pseudonym w).1 =
    s.verdict pseudonym (w.reachesLimit s.limit pseudonym) w.faults.verificationSave := by
  unfold verify judge verdict
  rcases w.reachesLimit s.limit pseudonym with e | (_ | _)
  · rfl
  · unfold attempt ask World.recordAttempt World.saveVerification
    cases s.check pseudonym with
    | error reason => rfl
    | ok verified => cases hsave : w.faults.verificationSave <;> simp [hsave]
  · rfl

/-- **A verification changes nothing but the records of its pseudonym.** -/
theorem verify_verifications : (s.verify pseudonym w).2.verifications =
    if isRecorded (s.verify pseudonym w).1 then w.verifications.save ⟨pseudonym, w.now⟩
    else w.verifications := by
  unfold verify judge
  rcases w.reachesLimit s.limit pseudonym with e | (_ | _)
  · rfl
  · unfold attempt ask World.recordAttempt World.saveVerification
    cases s.check pseudonym with
    | error reason => rfl
    | ok verified =>
      cases hsave : w.faults.verificationSave <;> cases verified <;> simp [hsave, isRecorded, World.count]
  · rfl

end Verification

/-! ## A decision and the records of its session -/

namespace World

/-- Whether a session was entered by a decision. -/
def isEntered : Except StoreError LedgerDecision → Bool
  | .ok .accepted => true
  | .ok .duplicate | .error _ => false

variable (w : World) (record : IssueRecord)

theorem tryIssue_fst :
    (w.tryIssue record).1 = w.faults.decision (w.issues.find record.session).isEmpty := by
  rw [tryIssue_eq]
  rcases w.faults.decision (w.issues.find record.session).isEmpty with e | (_ | _) <;> rfl

/-- **A decision changes nothing but the records of its session.** -/
theorem tryIssue_snd : (w.tryIssue record).2 =
    if isEntered (w.tryIssue record).1 then { w with issues := w.issues.add record } else w := by
  rw [tryIssue_eq]
  rcases w.faults.decision (w.issues.find record.session).isEmpty with e | (_ | _) <;> rfl

theorem find_tryIssue (session : String) : (w.tryIssue record).2.issues.find session =
    if isEntered (w.tryIssue record).1 ∧ session = record.session then [record] else w.issues.find session := by
  rw [tryIssue_snd]
  cases isEntered (w.tryIssue record).1 with
  | false => simp
  | true => simp [IssueTable.find_add]

end World

namespace Isolation

/-! ## Runs -/

/-- What happens in a run: a verification, a decision of the ledger, or a change beside them. -/
inductive Event where
  | verify (pseudonym : String)
  | issue (record : IssueRecord)
  | change (c : Change)
  deriving DecidableEq, Repr

namespace Event

/-- The world after an event. -/
def next (s : Verification) (limit : VerificationLimit) (w : World) : Event → World
  | verify pseudonym => (s.verify pseudonym w).2
  | issue record => (w.tryIssue record).2
  | change c => w.change limit c

/-- Whether an event is a verification of a pseudonym, or a change. -/
def spares (pseudonym : String) : Event → Bool
  | verify other => other == pseudonym
  | issue _ => false
  | change _ => true

/-- Whether an event is a decision on a session, or a change. -/
def sparesSession (session : String) : Event → Bool
  | verify _ => false
  | issue record => record.session == session
  | change _ => true

/-- The outcome of a verification of a pseudonym. -/
def verdict? (s : Verification) (pseudonym : String) (w : World) :
    Event → Option (Except VerificationError VerificationOutcome)
  | verify other => if other = pseudonym then some (s.verify other w).1 else none
  | issue _ | change _ => none

/-- The decision on a session. -/
def decision? (session : String) (w : World) : Event → Option (Except StoreError LedgerDecision)
  | issue record => if record.session = session then some (w.tryIssue record).1 else none
  | verify _ | change _ => none

end Event

variable {s : Verification} {limit : VerificationLimit} {α : Type}

/-- What an observer sees of a run, in order. -/
def seen (s : Verification) (limit : VerificationLimit) (view : World → Event → Option α) :
    List Event → World → List α
  | [], _ => []
  | e :: events, w => (view w e).toList ++ seen s limit view events (e.next s limit w)

/-! ## Erasing events -/

/-- A relation of worlds that lets the events be erased that are not kept: such an event is not seen and leaves the
worlds related, and an event that is kept shows the same in both and leaves them related. -/
structure Unwinds (s : Verification) (limit : VerificationLimit) (keep : Event → Bool)
    (view : World → Event → Option α) (R : World → World → Prop) : Prop where
  erased : ∀ {e w v}, keep e = false → R w v → view w e = none ∧ R (e.next s limit w) v
  kept : ∀ {e w v}, keep e = true → R w v →
    view v e = view w e ∧ R (e.next s limit w) (e.next s limit v)

/-- **Erasing events does not change what is seen.** -/
theorem Unwinds.seen_filter {keep : Event → Bool} {view : World → Event → Option α}
    {R : World → World → Prop} (h : Unwinds s limit keep view R) (events : List Event) {w v : World}
    (hR : R w v) : seen s limit view events w = seen s limit view (events.filter keep) v := by
  induction events generalizing w v with
  | nil => rfl
  | cons e events ih =>
    by_cases hkeep : keep e = true
    · obtain ⟨hview, hnext⟩ := h.kept hkeep hR
      rw [List.filter_cons_of_pos hkeep, seen, seen, hview, ih hnext]
    · obtain ⟨hview, hnext⟩ := h.erased (by simpa using hkeep) hR
      rw [List.filter_cons_of_neg hkeep, seen, hview, ih hnext]
      rfl

/-! ## Two worlds -/

/-- Two worlds with the same clock and the same faults. -/
structure SameSetting (w v : World) : Prop where
  now : v.now = w.now
  faults : v.faults = w.faults

/-- Two such worlds with the same records of a pseudonym. -/
structure SameVerifications (pseudonym : String) (w v : World) : Prop extends SameSetting w v where
  found : ∀ since, v.verifications.find pseudonym since = w.verifications.find pseudonym since

/-- Two such worlds with the same records of a session. -/
structure SameSession (session : String) (w v : World) : Prop extends SameSetting w v where
  found : v.issues.find session = w.issues.find session

variable {w v : World} {pseudonym session : String}

/-- Neither a verification nor a decision moves the clock or mends a fault. -/
theorem next_sameSetting (s : Verification) (limit : VerificationLimit) (w : World) {e : Event}
    (he : ∀ c, e ≠ .change c) : SameSetting w (e.next s limit w) := by
  cases e with
  | verify pseudonym =>
    have h := s.verification_sameLedger pseudonym w
    exact ⟨h.now, h.faults⟩
  | issue record =>
    simp only [Event.next, World.tryIssue_snd]
    split <;> exact ⟨rfl, rfl⟩
  | change c => exact absurd rfl (he c)

theorem SameSetting.change (h : SameSetting w v) (c : Change) :
    SameSetting (w.change limit c) (v.change limit c) := by
  cases c with
  | sweep =>
    refine ⟨?_, ?_⟩
    · exact (sweep_now v).trans (h.now.trans (sweep_now w).symm)
    · exact (sweep_faults v).trans (h.faults.trans (sweep_faults w).symm)
  | clock now => exact ⟨rfl, h.faults⟩
  | timer | certificates => exact ⟨h.now, h.faults⟩
  | faults faults => exact ⟨h.now, rfl⟩

theorem SameSetting.congr {u t : World} (h : SameSetting w v) (hu : SameSetting w u)
    (ht : SameSetting v t) : SameSetting u t :=
  ⟨ht.now.trans (h.now.trans hu.now.symm), ht.faults.trans (h.faults.trans hu.faults.symm)⟩

/-! ## One pseudonym -/

theorem SameVerifications.reachesLimit (h : SameVerifications pseudonym w v) (limit : VerificationLimit) :
    v.reachesLimit limit pseudonym = w.reachesLimit limit pseudonym := by
  unfold World.reachesLimit World.findVerifications
  rw [h.faults, h.now, h.found]

/-- **A verification of the pseudonym has the same outcome in both worlds.** -/
theorem SameVerifications.outcome (h : SameVerifications pseudonym w v) (s : Verification) :
    (s.verify pseudonym v).1 = (s.verify pseudonym w).1 := by
  rw [s.verify_fst, s.verify_fst, h.reachesLimit, h.faults]

/-- It leaves the same records of the pseudonym. -/
theorem SameVerifications.verify (h : SameVerifications pseudonym w v) (s : Verification)
    (limit : VerificationLimit) :
    SameVerifications pseudonym ((Event.verify pseudonym).next s limit w)
      ((Event.verify pseudonym).next s limit v) where
  toSameSetting := h.toSameSetting.congr (next_sameSetting s limit w (by simp))
    (next_sameSetting s limit v (by simp))
  found since := by
    simp only [Event.next, s.verify_verifications, h.outcome s]
    split
    · rw [VerificationTable.find_save, VerificationTable.find_save, h.found, h.now]
    · exact h.found since

/-- **A verification of another pseudonym leaves the records of this one as they are.** -/
theorem SameVerifications.verify_other (h : SameVerifications pseudonym w v) (s : Verification)
    (limit : VerificationLimit) {other : String} (hother : other ≠ pseudonym) :
    SameVerifications pseudonym ((Event.verify other).next s limit w) v where
  toSameSetting := h.toSameSetting.congr (next_sameSetting s limit w (by simp)) ⟨rfl, rfl⟩
  found since := by
    simp only [Event.next, s.verify_verifications]
    split
    · rw [VerificationTable.find_save, if_neg (fun hrow => hother hrow.1), List.append_nil]
      exact h.found since
    · exact h.found since

theorem SameVerifications.issue (h : SameVerifications pseudonym w v) (s : Verification)
    (limit : VerificationLimit) (record : IssueRecord) :
    SameVerifications pseudonym ((Event.issue record).next s limit w) v where
  toSameSetting := h.toSameSetting.congr (next_sameSetting s limit w (by simp)) ⟨rfl, rfl⟩
  found since := by
    simp only [Event.next, World.tryIssue_snd]
    split <;> exact h.found since

/-- A sweep takes the same records of the pseudonym in both worlds. -/
theorem SameVerifications.change (h : SameVerifications pseudonym w v) (c : Change) :
    SameVerifications pseudonym (w.change limit c) (v.change limit c) where
  toSameSetting := h.toSameSetting.change c
  found since := by
    cases c with
    | sweep =>
      simp only [World.change, sweep_verifications, h.faults, h.now]
      split
      · rw [VerificationTable.find_deleteExpired, VerificationTable.find_deleteExpired, h.found]
      · exact h.found since
    | clock | timer | certificates | faults => exact h.found since

/-- **One pseudonym is an observer of its own verifications.** -/
theorem unwinds_verdicts (s : Verification) (limit : VerificationLimit) (pseudonym : String) :
    Unwinds s limit (Event.spares pseudonym) (Event.verdict? s pseudonym)
      (SameVerifications pseudonym) where
  erased {e w v} he h := by
    cases e with
    | verify other =>
      have hother : other ≠ pseudonym := by simpa [Event.spares] using he
      exact ⟨if_neg hother, h.verify_other s limit hother⟩
    | issue record => exact ⟨rfl, h.issue s limit record⟩
    | change c => simp [Event.spares] at he
  kept {e w v} he h := by
    cases e with
    | verify other =>
      obtain rfl : other = pseudonym := by simpa [Event.spares] using he
      exact ⟨by simp [Event.verdict?, h.outcome s], h.verify s limit⟩
    | issue record => simp [Event.spares] at he
    | change c => exact ⟨rfl, h.change c⟩

/-! ## One session -/

/-- **A decision on the session is the same in both worlds.** -/
theorem SameSession.decision (h : SameSession session w v) {record : IssueRecord}
    (hrecord : record.session = session) : (v.tryIssue record).1 = (w.tryIssue record).1 := by
  rw [World.tryIssue_fst, World.tryIssue_fst, hrecord, h.found, h.faults]

/-- It leaves the same records of the session. -/
theorem SameSession.issue (h : SameSession session w v) (s : Verification) (limit : VerificationLimit)
    {record : IssueRecord} (hrecord : record.session = session) :
    SameSession session ((Event.issue record).next s limit w) ((Event.issue record).next s limit v) where
  toSameSetting := h.toSameSetting.congr (next_sameSetting s limit w (by simp))
    (next_sameSetting s limit v (by simp))
  found := by
    simp only [Event.next, World.find_tryIssue, h.decision hrecord, h.found]

/-- **A decision on another session leaves the records of this one as they are.** -/
theorem SameSession.issue_other (h : SameSession session w v) (s : Verification)
    (limit : VerificationLimit) {record : IssueRecord} (hrecord : record.session ≠ session) :
    SameSession session ((Event.issue record).next s limit w) v where
  toSameSetting := h.toSameSetting.congr (next_sameSetting s limit w (by simp)) ⟨rfl, rfl⟩
  found := by
    rw [Event.next, World.find_tryIssue, if_neg fun hrow => hrecord hrow.2.symm]
    exact h.found

theorem SameSession.verify (h : SameSession session w v) (s : Verification)
    (limit : VerificationLimit) (pseudonym : String) :
    SameSession session ((Event.verify pseudonym).next s limit w) v where
  toSameSetting := h.toSameSetting.congr (next_sameSetting s limit w (by simp)) ⟨rfl, rfl⟩
  found := by
    rw [Event.next, (s.verification_sameLedger pseudonym w).issues]
    exact h.found

/-- A sweep takes the same records of the session in both worlds. -/
theorem SameSession.change (h : SameSession session w v) (c : Change) :
    SameSession session (w.change limit c) (v.change limit c) where
  toSameSetting := h.toSameSetting.change c
  found := by
    cases c with
    | sweep =>
      simp only [World.change, sweep_issues, h.faults, h.now]
      split
      · rw [IssueTable.find_deleteExpired, IssueTable.find_deleteExpired, h.found]
      · exact h.found
    | clock | timer | certificates | faults => exact h.found

/-- **One session is an observer of its own decisions.** -/
theorem unwinds_decisions (s : Verification) (limit : VerificationLimit) (session : String) :
    Unwinds s limit (Event.sparesSession session) (Event.decision? session)
      (SameSession session) where
  erased {e w v} he h := by
    cases e with
    | verify pseudonym => exact ⟨rfl, h.verify s limit pseudonym⟩
    | issue record =>
      have hrecord : record.session ≠ session := by simpa [Event.sparesSession] using he
      exact ⟨if_neg hrecord, h.issue_other s limit hrecord⟩
    | change c => simp [Event.sparesSession] at he
  kept {e w v} he h := by
    cases e with
    | verify pseudonym => simp [Event.sparesSession] at he
    | issue record =>
      have hrecord : record.session = session := by simpa [Event.sparesSession] using he
      exact ⟨by simp [Event.decision?, hrecord, h.decision hrecord], h.issue s limit hrecord⟩
    | change c => exact ⟨rfl, h.change c⟩

/-! ## All of them -/

/-- **Identities do not interfere.** In every run, from every world and under any faults, the outcomes of the
verifications of a pseudonym are those of the run in which no other pseudonym is verified and no session entered, and
the decisions on a session are those of the run in which no other session is entered and no pseudonym verified. The
clock, the sweeps and the faults are the same in both runs. -/
theorem outcomes_isolated (s : Verification) (limit : VerificationLimit) (events : List Event) (w : World) :
    (∀ pseudonym, seen s limit (Event.verdict? s pseudonym) events w =
      seen s limit (Event.verdict? s pseudonym) (events.filter (Event.spares pseudonym)) w) ∧
    ∀ session, seen s limit (Event.decision? session) events w =
      seen s limit (Event.decision? session) (events.filter (Event.sparesSession session)) w := by
  refine ⟨fun pseudonym => ?_, fun session => ?_⟩
  · exact (unwinds_verdicts s limit pseudonym).seen_filter events ⟨⟨rfl, rfl⟩, fun _ => rfl⟩
  · exact (unwinds_decisions s limit session).seen_filter events ⟨⟨rfl, rfl⟩, rfl⟩

namespace Sample

/-- One verification in a window of a hundred seconds, and every pseudonym passes the check. -/
def strict : Verification where
  limit := { max := 1, window := 100 }
  check := fun _ => .ok true

/-- A world without records. -/
def world : World where
  now := 0
  locator := .shelf {}

/-- Two pseudonyms and two sessions, with a sweep in between. -/
def events : List Event := [
  .verify "a", .issue ⟨"s", 50⟩, .verify "b", .verify "a", .issue ⟨"t", 500⟩, .issue ⟨"s", 50⟩,
  .change (.clock 200), .change .sweep, .verify "a", .issue ⟨"t", 500⟩, .issue ⟨"s", 50⟩]

end Sample

/-- The limit of one pseudonym is used up and free again after the window, and one session is open again after the
sweep; of the other identities nothing is seen. -/
example :
    seen Sample.strict Sample.strict.limit (Event.verdict? Sample.strict "a") Sample.events Sample.world =
        [.ok .verified, .ok .limitReached, .ok .verified] ∧
      seen Sample.strict Sample.strict.limit (Event.decision? "s") Sample.events Sample.world =
        [.ok .accepted, .ok .duplicate, .ok .accepted] :=
  ⟨rfl, rfl⟩

end Isolation

end BlindMint
