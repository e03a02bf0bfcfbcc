import BlindMint.Proofs.Frame
import BlindMint.Proofs.Rows
import BlindMint.Sweep

/-!
# What happens beside the requests

Between two requests, and between the steps of one, the world may change by itself: the sweeper makes a
pass, the clock and the timer move, certificates come and go, and the outside starts or stops failing. A
`Change` is one such event. A change is free in all of this; where a statement needs a clock that does not
go back, it asks for `w.now ≤ (w.change limit c).now`.

## Results

* `mem_issues_change`: an issue record whose expiry is not reached survives every change.
* `find_verifications_change`: the verification records from the present cutoff on survive every change.
-/

namespace BlindMint

/-- An event beside the requests. -/
inductive Change where
  /-- A pass of the sweeper. -/
  | sweep
  | clock (now : Instant)
  | timer (milliseconds : Nat)
  | certificates (source : Locator)
  | faults (faults : Faults)
  deriving DecidableEq, Repr

/-- The world after a change; a pass of the sweeper spares what a limit's window holds. -/
def World.change (limit : VerificationLimit) (w : World) : Change → World
  | .sweep => (w.sweep limit).2
  | .clock now => { w with now }
  | .timer milliseconds => { w with timer := milliseconds }
  | .certificates source => { w with locator := source }
  | .faults faults => { w with faults }

variable {limit : VerificationLimit} {w : World}

/-! ## A pass of the sweeper -/

theorem sweepIssues_now (w : World) : w.sweepIssues.2.now = w.now := by
  unfold World.sweepIssues World.purgeIssues
  cases w.faults.issueDelete <;> rfl

theorem sweepIssues_verifications (w : World) : w.sweepIssues.2.verifications = w.verifications := by
  unfold World.sweepIssues World.purgeIssues
  cases w.faults.issueDelete <;> rfl

theorem sweepIssues_issues (w : World) :
    w.sweepIssues.2.issues =
      if w.faults.issueDelete = none then (w.issues.deleteExpired w.now).2 else w.issues := by
  unfold World.sweepIssues World.purgeIssues
  cases w.faults.issueDelete <;> rfl

theorem sweepIssues_faults (w : World) : w.sweepIssues.2.faults = w.faults := by
  unfold World.sweepIssues World.purgeIssues
  cases w.faults.issueDelete <;> rfl

theorem sweepVerifications_now (w : World) : (w.sweepVerifications limit).2.now = w.now := by
  unfold World.sweepVerifications World.purgeVerifications World.purgeVerificationsBefore
  cases w.faults.verificationDelete <;> rfl

theorem sweepVerifications_issues (w : World) :
    (w.sweepVerifications limit).2.issues = w.issues := by
  unfold World.sweepVerifications World.purgeVerifications World.purgeVerificationsBefore
  cases w.faults.verificationDelete <;> rfl

theorem sweepVerifications_verifications (w : World) :
    (w.sweepVerifications limit).2.verifications =
      if w.faults.verificationDelete = none then
        (w.verifications.deleteExpired (limit.cutoff w.now)).2
      else w.verifications := by
  unfold World.sweepVerifications World.purgeVerifications World.purgeVerificationsBefore
  cases w.faults.verificationDelete <;> rfl

theorem sweep_now (w : World) : (w.sweep limit).2.now = w.now := by
  have h : (w.sweepIssues.2.sweepVerifications limit).2.now = w.now := by
    rw [sweepVerifications_now, sweepIssues_now]
  exact h

theorem sweep_faults (w : World) : (w.sweep limit).2.faults = w.faults := by
  have h : (w.sweepIssues.2.sweepVerifications limit).2.faults = w.sweepIssues.2.faults := by
    unfold World.sweepVerifications World.purgeVerifications World.purgeVerificationsBefore
    cases w.sweepIssues.2.faults.verificationDelete <;> rfl
  exact h.trans (sweepIssues_faults w)

theorem sweep_issues (w : World) :
    (w.sweep limit).2.issues =
      if w.faults.issueDelete = none then (w.issues.deleteExpired w.now).2 else w.issues := by
  have h : (w.sweepIssues.2.sweepVerifications limit).2.issues = w.sweepIssues.2.issues :=
    sweepVerifications_issues _
  rw [sweepIssues_issues] at h
  exact h

theorem sweep_verifications (w : World) :
    (w.sweep limit).2.verifications =
      if w.faults.verificationDelete = none then
        (w.verifications.deleteExpired (limit.cutoff w.now)).2
      else w.verifications := by
  have h : (w.sweepIssues.2.sweepVerifications limit).2.verifications = _ :=
    sweepVerifications_verifications w.sweepIssues.2
  rw [sweepIssues_verifications, sweepIssues_faults, sweepIssues_now] at h
  exact h

/-- Nothing beside the requests asks the outside collaborators. -/
theorem change_activity (w : World) (c : Change) : (w.change limit c).activity = w.activity := by
  cases c with
  | sweep =>
    have hissues : w.sweepIssues.2.activity = w.activity := by
      unfold World.sweepIssues World.purgeIssues
      cases w.faults.issueDelete <;> rfl
    have h : (w.sweepIssues.2.sweepVerifications limit).2.activity = w.sweepIssues.2.activity := by
      unfold World.sweepVerifications World.purgeVerifications World.purgeVerificationsBefore
      cases w.sweepIssues.2.faults.verificationDelete <;> rfl
    exact h.trans hissues
  | clock | timer | certificates | faults => rfl

/-- After a clock move and a sweep the clock is where it was moved. -/
theorem sweep_at_now (w : World) (now : Instant) :
    ((w.change limit (.clock now)).change limit .sweep).now = now :=
  sweep_now (w.change limit (.clock now))

/-! ## Records that survive -/

/-- A record whose expiry is not reached survives every change. -/
theorem mem_issues_change {row : IssueRecord} (hrow : row ∈ w.issues.rows)
    (hlive : w.now < row.expiresAt) (c : Change) : row ∈ (w.change limit c).issues.rows := by
  cases c with
  | sweep =>
    show row ∈ (w.sweep limit).2.issues.rows
    rw [sweep_issues]
    split
    · rw [IssueTable.rows_deleteExpired]
      exact List.mem_filter.mpr ⟨hrow, by simpa using hlive⟩
    · exact hrow
  | clock | timer | certificates | faults => exact hrow

/-- The records of a pseudonym from a time on survive every change if no later window misses that time. -/
theorem find_verifications_change {since : Instant} (hs : limit.cutoff w.now ≤ since)
    (pseudonym : String) (c : Change) :
    (w.change limit c).verifications.find pseudonym since = w.verifications.find pseudonym since := by
  cases c with
  | sweep =>
    show (w.sweep limit).2.verifications.find pseudonym since = _
    rw [sweep_verifications]
    split
    · rw [VerificationTable.find_deleteExpired]
      refine List.filter_eq_self.mpr fun row hrow => ?_
      simpa using Int64.le_trans hs (VerificationTable.of_mem_find hrow).2
    · rfl
  | clock | timer | certificates | faults => rfl

end BlindMint
