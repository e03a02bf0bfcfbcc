import BlindMint.Store.Keyed
import BlindMint.Time

/-!
# Records of issuance and verification

Two tables (`InMemoryStore`), both of them maps. Issue records: under a session identifier there is at most one.
Verification records: under a pseudonym there are its times, in the order in which they were saved; a pseudonym of
which no time is left is not in the map. `StoreError` is what an operation can fail with. The two deletions differ
at the boundary: an issue record goes when its expiry is reached, a verification record only when it is older than
the cutoff.

Results:
* `IssueTable.save_eq_ok_iff`, `IssueTable.find_add`, `IssueTable.find_deleteExpired`: when a record is saved, and
  what is found after a save and a sweep.
* `VerificationTable.find_save`, `VerificationTable.find_deleteExpired`: the same for verifications.
-/

namespace BlindMint

/-- A failure of the record store. -/
inductive StoreError where
  /-- A row that should be there is missing. -/
  | notFound (detail : String)
  /-- A row would repeat a unique value. -/
  | conflict (detail : String)
  /-- Any other failure. -/
  | unexpected (text : String)
  deriving DecidableEq, Repr

/-- The wording of a failure. -/
def StoreError.message : StoreError → String
  | .notFound detail => "not found: " ++ detail
  | .conflict detail => "conflict: " ++ detail
  | .unexpected text => text

/-- That a session obtained a token (`AnonymousTokenIssueRecord`). -/
structure IssueRecord where
  /-- The identifier of the session. -/
  session : String
  /-- The instant from which the record may be deleted. -/
  expiresAt : Instant
  deriving DecidableEq, Repr

/-- That a pseudonym was verified. -/
structure VerificationRecord where
  pseudonym : String
  verifiedAt : Instant
  deriving DecidableEq, Repr

/-! ## Issue records -/

/-- Without entries every record is under its own session. -/
theorem keyed_nil : ∀ entry ∈ ([] : List (String × IssueRecord)), entry.2.session = entry.1 :=
  List.forall_mem_nil _

/-- The table of issue records: under each session identifier the record of that session. -/
structure IssueTable where
  records : Keyed IssueRecord := {}
  keyed : ∀ entry ∈ records.entries, entry.2.session = entry.1 := by exact keyed_nil
  deriving DecidableEq, Repr

namespace IssueTable

/-- The record of a session, if there is one (`find_by_session_token_id`). -/
def find (t : IssueTable) (session : String) : List IssueRecord :=
  (t.records.get? session).toList

/-- The table with a record under its session. -/
def add (t : IssueTable) (record : IssueRecord) : IssueTable where
  records := t.records.put record.session record
  keyed := by
    rintro ⟨session, other⟩ hentry
    rw [Keyed.mem_entries_iff, Keyed.get?_put] at hentry
    split at hentry
    · next hsession =>
      obtain rfl := Option.some.inj hentry
      exact hsession.symm
    · exact t.keyed _ (Keyed.mem_entries_iff.mpr hentry)

/-- Save a record; a second one for a session is a conflict. -/
def save (t : IssueTable) (record : IssueRecord) : Except StoreError IssueTable :=
  match t.records.get? record.session with
  | some _ => .error (.conflict "issue record exists for session token")
  | none => .ok (t.add record)

/-- Delete the records whose expiry is reached, and count them (`delete_expired`). -/
def deleteExpired (t : IssueTable) (now : Instant) : Nat × IssueTable :=
  let kept := t.records.retain (Option.guard fun record => now < record.expiresAt)
  (t.records.size - kept.size,
    { records := kept
      keyed := by
        rintro ⟨session, record⟩ hentry
        obtain ⟨old, hold, hkept⟩ := Keyed.mem_entries_retain.mp hentry
        obtain ⟨rfl, -⟩ := Option.guard_eq_some_iff.mp hkept
        exact t.keyed _ hold })

/-- A session that has a record is a conflict, whatever the new record says. -/
theorem save_eq (t : IssueTable) (record : IssueRecord) :
    t.save record =
      if (t.find record.session).isEmpty then .ok (t.add record)
      else .error (.conflict "issue record exists for session token") := by
  unfold save find
  cases t.records.get? record.session <;> simp

theorem save_eq_ok_iff {t u : IssueTable} {record : IssueRecord} :
    t.save record = .ok u ↔ t.find record.session = [] ∧ u = t.add record := by
  rw [save_eq]
  split
  · next hvacant => simp [List.isEmpty_iff.mp hvacant, eq_comm]
  · next hfound => simp [show t.find record.session ≠ [] by simpa using hfound]

theorem find_add (t : IssueTable) (record : IssueRecord) (session : String) :
    (t.add record).find session = if session = record.session then [record] else t.find session := by
  unfold find add
  rw [Keyed.get?_put]
  split <;> rfl

theorem find_deleteExpired (t : IssueTable) (now : Instant) (session : String) :
    (t.deleteExpired now).2.find session = (t.find session).filter fun row => now < row.expiresAt := by
  unfold find deleteExpired
  rw [Keyed.get?_retain]
  cases t.records.get? session with
  | none => rfl
  | some record => by_cases hlive : now < record.expiresAt <;> simp [hlive]

end IssueTable

/-! ## Verification records -/

/-- Without entries no pseudonym lacks a time. -/
theorem inhabited_nil : ∀ entry ∈ ([] : List (String × List Instant)), entry.2 ≠ [] :=
  List.forall_mem_nil _

/-- The table of verification records: under each pseudonym the times at which it was verified. -/
structure VerificationTable where
  times : Keyed (List Instant) := {}
  inhabited : ∀ entry ∈ times.entries, entry.2 ≠ [] := by exact inhabited_nil
  deriving DecidableEq, Repr

namespace VerificationTable

/-- The times of a pseudonym, in the order in which they were saved. -/
def timesOf (t : VerificationTable) (pseudonym : String) : List Instant :=
  (t.times.get? pseudonym).getD []

/-- The records of a pseudonym from a cutoff on (`find_for_identity`). -/
def find (t : VerificationTable) (pseudonym : String) (cutoff : Instant) : List VerificationRecord :=
  ((t.timesOf pseudonym).filter (cutoff ≤ ·)).map (⟨pseudonym, ·⟩)

/-- Save a record: its time comes last among those of its pseudonym. -/
def save (t : VerificationTable) (record : VerificationRecord) : VerificationTable where
  times := t.times.put record.pseudonym (t.timesOf record.pseudonym ++ [record.verifiedAt])
  inhabited := by
    rintro ⟨pseudonym, times⟩ hentry
    rw [Keyed.mem_entries_iff, Keyed.get?_put] at hentry
    split at hentry
    · obtain rfl := Option.some.inj hentry
      simp
    · exact t.inhabited _ (Keyed.mem_entries_iff.mpr hentry)

/-- The times from a cutoff on, if there are any. -/
def recent? (cutoff : Instant) (times : List Instant) : Option (List Instant) :=
  let kept := times.filter (cutoff ≤ ·)
  if kept.isEmpty then none else some kept

/-- Delete the records older than a cutoff, and count them (`delete_expired`). -/
def deleteExpired (t : VerificationTable) (cutoff : Instant) : Nat × VerificationTable :=
  (t.times.entries.foldl (fun deleted entry => deleted + (entry.2.length - (entry.2.filter (cutoff ≤ ·)).length)) 0,
    { times := t.times.retain (recent? cutoff)
      inhabited := by
        rintro ⟨pseudonym, times⟩ hentry
        obtain ⟨old, -, hkept⟩ := Keyed.mem_entries_retain.mp hentry
        unfold recent? at hkept
        obtain ⟨hsome, hkept⟩ := Option.ite_none_left_eq_some.mp hkept
        obtain rfl := Option.some.inj hkept
        exact mt List.isEmpty_iff.mpr hsome })

theorem timesOf_save (t : VerificationTable) (record : VerificationRecord) (pseudonym : String) :
    (t.save record).timesOf pseudonym =
      t.timesOf pseudonym ++ if record.pseudonym = pseudonym then [record.verifiedAt] else [] := by
  unfold timesOf save
  rw [Keyed.get?_put]
  by_cases hp : record.pseudonym = pseudonym
  · simp [hp, timesOf]
  · simp [hp, Ne.symm hp]

theorem timesOf_deleteExpired (t : VerificationTable) (cutoff : Instant) (pseudonym : String) :
    (t.deleteExpired cutoff).2.timesOf pseudonym = (t.timesOf pseudonym).filter (cutoff ≤ ·) := by
  unfold timesOf deleteExpired
  rw [Keyed.get?_retain]
  cases t.times.get? pseudonym with
  | none => rfl
  | some times =>
    simp only [Option.bind_some, recent?, Option.getD_some]
    split
    · next hnone => exact (List.isEmpty_iff.mp hnone).symm
    · rfl

theorem find_save (t : VerificationTable) (record : VerificationRecord) (pseudonym : String)
    (cutoff : Instant) :
    (t.save record).find pseudonym cutoff =
      t.find pseudonym cutoff ++
        if record.pseudonym = pseudonym ∧ cutoff ≤ record.verifiedAt then [record] else [] := by
  unfold find
  rw [timesOf_save, List.filter_append, List.map_append]
  congr 1
  obtain ⟨saved, time⟩ := record
  by_cases hp : saved = pseudonym <;> by_cases hc : cutoff ≤ time <;> simp [hp, hc]

theorem find_deleteExpired (t : VerificationTable) (cutoff : Instant) (pseudonym : String)
    (since : Instant) :
    (t.deleteExpired cutoff).2.find pseudonym since =
      (t.find pseudonym since).filter fun row => cutoff ≤ row.verifiedAt := by
  unfold find
  rw [timesOf_deleteExpired, List.filter_map, List.filter_filter, List.filter_filter]
  simp only [Function.comp_def, Bool.and_comm]

/-- What is found of a pseudonym from a cutoff on is of that pseudonym, and not older. -/
theorem of_mem_find {t : VerificationTable} {pseudonym : String} {cutoff : Instant} {row : VerificationRecord}
    (h : row ∈ t.find pseudonym cutoff) : row.pseudonym = pseudonym ∧ cutoff ≤ row.verifiedAt := by
  obtain ⟨time, htime, rfl⟩ := List.mem_map.mp h
  exact ⟨rfl, by simpa using (List.mem_filter.mp htime).2⟩

end VerificationTable

end BlindMint
