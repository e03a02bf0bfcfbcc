import BlindMint.World

/-!
# The issuance ledger

At most one token is issued for a session. The ledger decides by looking the session up and, if nothing
is found, by saving a record. Between these two steps another request may save its record; the table then
refuses the second one, and that refusal is a duplicate like any other.

Results:
* `World.record_accepted`: an accepted decision is one whose session had no record, and now has this one.
* `World.record_eq_of_not_accepted`: any other outcome leaves the world as it was.
-/

namespace BlindMint

/-- What the ledger decides about a session (`IssuanceOutcome`). -/
inductive LedgerDecision where
  | accepted
  | duplicate
  deriving DecidableEq, Repr

/-- The name of a decision in counters. -/
def LedgerDecision.name : LedgerDecision → String
  | .accepted => "accepted"
  | .duplicate => "duplicate"

namespace World

/-- Whether the ledger's lookup finds the session. -/
def lookUpSession (w : World) (session : String) : Except StoreError Bool :=
  match w.findIssues session with
  | .error e => .error e
  | .ok records => .ok (!records.isEmpty)

/-- Save a record for a session that was not found. -/
def recordSession (w : World) (record : IssueRecord) : Except StoreError LedgerDecision × World :=
  match w.saveIssue record with
  | (.ok (), w) => (.ok .accepted, w)
  | (.error (.conflict _), w) => (.ok .duplicate, w)
  | (.error e, w) => (.error e, w)

/-- Decide about a session: look it up, and save a record if it is new (`try_issue`). -/
def tryIssue (w : World) (record : IssueRecord) : Except StoreError LedgerDecision × World :=
  match w.lookUpSession record.session with
  | .error e => (.error e, w)
  | .ok true => (.ok .duplicate, w)
  | .ok false => w.recordSession record

theorem record_accepted {w v : World} {record : IssueRecord}
    (h : w.recordSession record = (.ok .accepted, v)) :
    w.issues.find record.session = [] ∧ v = { w with issues := w.issues.add record } := by
  unfold recordSession saveIssue at h
  cases hf : w.faults.issueSave with
  | some e =>
    simp only [hf] at h
    cases e <;> simp at h
  | none =>
    simp only [hf] at h
    cases hs : w.issues.save record with
    | error e =>
      simp only [hs] at h
      cases e <;> simp at h
    | ok table =>
      simp only [hs] at h
      obtain ⟨hvacant, rfl⟩ := IssueTable.save_eq_ok_iff.mp hs
      exact ⟨hvacant, (Prod.mk.inj h).2.symm⟩

theorem record_eq_of_not_accepted {w v : World} {record : IssueRecord}
    {outcome : Except StoreError LedgerDecision} (h : w.recordSession record = (outcome, v))
    (ho : outcome ≠ .ok .accepted) : v = w := by
  unfold recordSession at h
  split at h
  · exact absurd (Prod.mk.inj h).1.symm ho
  · next heq =>
    rw [← (Prod.mk.inj h).2]
    exact saveIssue_error heq
  · next heq =>
    rw [← (Prod.mk.inj h).2]
    exact saveIssue_error heq

end World

end BlindMint
