import BlindMint.Proofs.Change
import BlindMint.Verification

/-!
# A verification step by step

A verification waits at several points: the limit is looked at, the identity is checked, the attempt is
recorded. Each step reads the clock for itself. `Phase` says how far a verification has come and
`Phase.next` is one step of it. From the moment it has passed the limit until it has recorded its attempt or
failed, a verification is pending: it will add to the records, and no other one can see that yet.

## Results

* **`verify_eq_phases`**: the steps without interruption are the verification.
* `reachesLimit_eq_false_iff`: a verification passes the limit iff the window holds fewer records than the
  limit allows.
* `next_cases`: what one step does to the records.
-/

namespace BlindMint

/-! ## The limit -/

section

variable {l : VerificationLimit} {w : World} {pseudonym : String}

/-- A time lies in the present window or after it iff it is no more than the window's length ago. -/
theorem cutoff_le_iff (l : VerificationLimit) (now time : Instant) :
    l.cutoff now ≤ time ↔ now.toInt ≤ time.toInt + l.window.capped.toInt := by
  have hmin : Instant.minSeconds ≤ time.toInt := Int64.le_toInt time
  have hmax : now.toInt ≤ Instant.maxSeconds := Int64.toInt_le now
  have hspan := Duration.toInt_capped l.window
  unfold VerificationLimit.cutoff
  rw [Int64.le_iff_toInt_le, Instant.toInt_earlier]
  unfold Instant.minSeconds Instant.maxSeconds at *
  omega

theorem cutoff_le_self (l : VerificationLimit) (now : Instant) : l.cutoff now ≤ now := by
  have hspan := Duration.toInt_capped l.window
  rw [cutoff_le_iff]
  unfold Instant.maxSeconds at hspan
  omega

/-- The window does not move back while the clock does not. -/
theorem cutoff_mono (l : VerificationLimit) {now later : Instant} (h : now ≤ later) :
    l.cutoff now ≤ l.cutoff later := by
  have hself := (cutoff_le_iff l later (l.cutoff later)).mp (Int64.le_refl _)
  have hle := Int64.le_iff_toInt_le.mp h
  rw [cutoff_le_iff]
  omega

/-- **What passing the limit means**: the window holds fewer records than the limit allows. -/
theorem reachesLimit_eq_false_iff (hf : w.faults.verificationFind = none) :
    w.reachesLimit l pseudonym = .ok false ↔
      (w.verifications.find pseudonym (l.cutoff w.now)).length < l.max.toNat := by
  have hall : (w.verifications.find pseudonym (l.cutoff w.now)).countP
      (fun row => decide (l.cutoff w.now ≤ row.verifiedAt)) =
      (w.verifications.find pseudonym (l.cutoff w.now)).length := by
    rw [List.countP_eq_length]
    intro row hrow
    simpa using (VerificationTable.of_mem_find hrow).2
  have hreached := VerificationLimit.isReached_iff l w.now
    ((w.verifications.find pseudonym (l.cutoff w.now)).map (·.verifiedAt) ++ [w.now])
  rw [List.countP_append, List.countP_map, List.countP_singleton] at hreached
  simp only [Function.comp_def, hall, decide_eq_true_eq, cutoff_le_self, if_true] at hreached
  unfold World.reachesLimit World.findVerifications
  simp only [hf, Except.ok.injEq]
  rw [← Bool.not_eq_true, hreached]
  omega

theorem length_of_reachesLimit (h : w.reachesLimit l pseudonym = .ok false) :
    (w.verifications.find pseudonym (l.cutoff w.now)).length < l.max.toNat := by
  cases hf : w.faults.verificationFind with
  | some e => simp [World.reachesLimit, World.findVerifications, hf] at h
  | none => exact (reachesLimit_eq_false_iff hf).mp h

end

namespace Verification

/-! ## The steps -/

/-- How far a verification has come. -/
inductive Phase where
  | started
  /-- It has passed the limit. -/
  | allowed
  /-- The identity check has answered. -/
  | checked (verified : Bool)
  | finished (outcome : Except VerificationError VerificationOutcome)

namespace Phase

/-- Whether it has passed the limit, and has neither recorded nor failed yet. -/
def isPending : Phase → Bool
  | started => false
  | allowed => true
  | checked _ => true
  | finished _ => false

/-- Finish with an outcome, and count it. -/
def conclude (outcome : VerificationOutcome) (w : World) : Phase × World :=
  (finished (.ok outcome), w.count (.verifications outcome.name) 1)

/-- The next step; none is left once it is finished. -/
def next (s : Verification) (pseudonym : String) (w : World) : Phase → Phase × World
  | started =>
    match w.reachesLimit s.limit pseudonym with
    | .error e => (finished (.error (.store e)), w)
    | .ok true => conclude .limitReached w
    | .ok false => (allowed, w)
  | allowed =>
    match s.ask pseudonym w with
    | (.error reason, w) => (finished (.error (.identityCheck reason)), w)
    | (.ok verified, w) => (checked verified, w)
  | checked verified =>
    match w.recordAttempt pseudonym with
    | (.error e, w) => (finished (.error (.store e)), w)
    | (.ok (), w) => conclude (if verified then .verified else .notVerified) w
  | finished outcome => (finished outcome, w)

/-- All steps without interruption. -/
def finish (s : Verification) (pseudonym : String) (w : World) (phase : Phase) : Phase × World :=
  let (phase, w) := phase.next s pseudonym w
  let (phase, w) := phase.next s pseudonym w
  phase.next s pseudonym w

end Phase

variable {s : Verification} {pseudonym : String} {w v : World} {phase after : Phase}

/-- **The steps without interruption are the verification.** -/
theorem verify_eq_phases (s : Verification) (pseudonym : String) (w : World) :
    Phase.started.finish s pseudonym w =
      (.finished (s.verify pseudonym w).1, (s.verify pseudonym w).2) := by
  unfold verify judge
  dsimp only [Phase.finish, Phase.next]
  cases w.reachesLimit s.limit pseudonym with
  | error e => rfl
  | ok reached =>
    cases reached with
    | true => rfl
    | false =>
      dsimp only [Phase.next, attempt]
      cases s.ask pseudonym w with
      | mk answer w =>
        cases answer with
        | error reason => rfl
        | ok verified =>
          dsimp only [Phase.next]
          cases w.recordAttempt pseudonym with
          | mk outcome w => cases outcome <;> rfl

theorem recordAttempt_ok (h : w.recordAttempt pseudonym = (.ok (), v)) :
    v = { w with verifications := w.verifications.save ⟨pseudonym, w.now⟩ } := by
  unfold World.recordAttempt World.saveVerification at h
  split at h
  · cases h
  · exact (Prod.mk.inj h).2.symm

theorem recordAttempt_error {e : StoreError} (h : w.recordAttempt pseudonym = (.error e, v)) : v = w :=
  World.saveVerification_error h

/-- A step keeps the clock. -/
theorem next_now (s : Verification) (pseudonym : String) (w : World) (phase : Phase) :
    (phase.next s pseudonym w).2.now = w.now := by
  cases phase with
  | started =>
    simp only [Phase.next]
    split <;> rfl
  | allowed =>
    simp only [Phase.next, ask]
    cases s.check pseudonym <;> rfl
  | checked verified =>
    have h := (recordAttempt_sameLedger w pseudonym).now
    simp only [Phase.next]
    split
    · next heq => rwa [heq] at h
    · next heq => rwa [heq] at h
  | finished outcome => rfl

/-- **What a step does to the records**: it passes the limit, or it records the attempt and is pending no
more, or it leaves the records alone and becomes no pending one. -/
theorem next_cases (h : phase.next s pseudonym w = (after, v)) :
    (phase.isPending = false ∧ after.isPending = true ∧ v = w ∧
      w.reachesLimit s.limit pseudonym = .ok false) ∨
    (phase.isPending = true ∧ after.isPending = false ∧
      v.verifications = w.verifications.save ⟨pseudonym, w.now⟩) ∨
    ((after.isPending = true → phase.isPending = true) ∧ v.verifications = w.verifications) := by
  cases phase with
  | started =>
    simp only [Phase.next] at h
    split at h
    · obtain ⟨rfl, rfl⟩ := Prod.mk.inj h
      exact .inr (.inr ⟨fun ha => (by cases ha), rfl⟩)
    · obtain ⟨rfl, rfl⟩ := Prod.mk.inj h
      exact .inr (.inr ⟨fun ha => (by cases ha), rfl⟩)
    · next hfree =>
      obtain ⟨rfl, rfl⟩ := Prod.mk.inj h
      exact .inl ⟨rfl, rfl, rfl, hfree⟩
  | allowed =>
    simp only [Phase.next, ask] at h
    split at h
    · next heq =>
      obtain ⟨-, rfl⟩ := Prod.mk.inj heq
      obtain ⟨rfl, rfl⟩ := Prod.mk.inj h
      exact .inr (.inr ⟨fun _ => rfl, rfl⟩)
    · next heq =>
      obtain ⟨-, rfl⟩ := Prod.mk.inj heq
      obtain ⟨rfl, rfl⟩ := Prod.mk.inj h
      exact .inr (.inr ⟨fun _ => rfl, rfl⟩)
  | checked verified =>
    simp only [Phase.next] at h
    split at h
    · next heq =>
      obtain ⟨rfl, rfl⟩ := Prod.mk.inj h
      rw [recordAttempt_error heq]
      exact .inr (.inr ⟨fun _ => rfl, rfl⟩)
    · next heq =>
      obtain ⟨rfl, rfl⟩ := Prod.mk.inj h
      rw [recordAttempt_ok heq]
      exact .inr (.inl ⟨rfl, rfl, rfl⟩)
  | finished outcome =>
    obtain ⟨rfl, rfl⟩ := Prod.mk.inj h
    exact .inr (.inr ⟨id, rfl⟩)

end Verification

end BlindMint
