import BlindMint.Store
import Mathlib.Data.List.Count
import Mathlib.Data.List.Perm.Basic

/-!
# The rows of the tables

Both tables are maps. Their rows are all their records in one list: of the issue records the values, of the
verification records one for each time under each pseudonym. An operation on a map is an operation on the list. A
deletion keeps of the list what it does not delete. An issue record is added at the end. A verification record goes
to the times of its pseudonym, wherever they stand, so that the list is known up to its order; of one pseudonym it
has the records in the order in which they were saved.

## Results

* `IssueTable.find_eq_filter`, `VerificationTable.find_eq_filter`: a lookup is a selection of rows.
* `IssueTable.rows_add`, `IssueTable.rows_deleteExpired`: the issue records after each operation.
* `VerificationTable.rows_save`, `VerificationTable.rows_deleteExpired`: the verification records after each operation.
* `IssueTable.deleteExpired_fst`, `VerificationTable.deleteExpired_fst`: a deletion answers how many rows are gone.
* `IssueTable.nodup_sessions`: no two issue records have one session.
-/

namespace BlindMint

/-! ## Issue records -/

namespace IssueTable

/-- All issue records. -/
def rows (t : IssueTable) : List IssueRecord :=
  t.records.entries.map Prod.snd

variable {t : IssueTable} {row record : IssueRecord} {session : String}

theorem mem_rows_iff : row ∈ t.rows ↔ t.records.get? row.session = some row := by
  rw [← Keyed.mem_entries_iff]
  unfold rows
  rw [List.mem_map]
  constructor
  · rintro ⟨entry, hentry, rfl⟩
    rwa [t.keyed entry hentry]
  · exact fun hentry => ⟨_, hentry, rfl⟩

theorem find_eq_filter (t : IssueTable) (session : String) :
    t.find session = t.rows.filter (·.session == session) := by
  unfold find rows Keyed.get?
  have hkeyed := t.keyed
  have hdistinct := t.records.distinct
  revert hkeyed hdistinct
  generalize t.records.entries = entries
  intro hkeyed hdistinct
  induction entries with
  | nil => rfl
  | cons entry entries ih =>
    obtain ⟨key, row⟩ := entry
    obtain rfl : row.session = key := hkeyed _ List.mem_cons_self
    rw [List.map_cons, List.nodup_cons] at hdistinct
    have hrest := ih (fun entry hentry => hkeyed entry (List.mem_cons_of_mem _ hentry)) hdistinct.2
    rw [List.map_cons, List.filter_cons, ← hrest, List.lookup_cons]
    by_cases hsession : session = row.session
    · subst hsession
      simp [lookup_eq_none_iff.mpr hdistinct.1]
    · have hbeq : (session == row.session) = false := by simpa using hsession
      simp [hbeq, Ne.symm hsession]

theorem mem_find_iff : row ∈ t.find session ↔ row ∈ t.rows ∧ row.session = session := by
  rw [find_eq_filter, List.mem_filter, beq_iff_eq]

/-- No two rows have one session. -/
theorem nodup_sessions (t : IssueTable) : (t.rows.map IssueRecord.session).Nodup := by
  have hkeys : t.rows.map IssueRecord.session = t.records.entries.map Prod.fst := by
    unfold rows
    rw [List.map_map]
    exact List.map_congr_left t.keyed
  rw [hkeys]
  exact t.records.distinct

theorem mem_rows_add (t : IssueTable) (record row : IssueRecord) :
    row ∈ (t.add record).rows ↔ row = record ∨ row ∈ t.rows ∧ row.session ≠ record.session := by
  rw [mem_rows_iff, mem_rows_iff]
  unfold add
  rw [Keyed.get?_put]
  by_cases hsession : row.session = record.session
  · simp [hsession, eq_comm]
  · have hne : row ≠ record := fun h => hsession (congrArg IssueRecord.session h)
    simp [hsession, hne]

/-- A record of a new session comes last. -/
theorem rows_add (h : t.find record.session = []) : (t.add record).rows = t.rows ++ [record] := by
  have hvacant : t.records.get? record.session = none := by simpa [find] using h
  unfold rows add
  rw [Keyed.entries_put_of_none hvacant, List.map_append]
  rfl

theorem rows_deleteExpired (t : IssueTable) (now : Instant) :
    (t.deleteExpired now).2.rows = t.rows.filter fun row => now < row.expiresAt := by
  unfold rows deleteExpired Keyed.retain
  rw [List.map_filterMap, List.filter_map, ← List.filterMap_eq_filter, List.map_filterMap]
  refine List.filterMap_congr fun entry _ => ?_
  by_cases hlive : now < entry.2.expiresAt <;> simp [Option.guard, hlive]

theorem deleteExpired_fst (t : IssueTable) (now : Instant) :
    (t.deleteExpired now).1 = t.rows.length - (t.deleteExpired now).2.rows.length := by
  simp [deleteExpired, rows, Keyed.size]

end IssueTable

/-! ## Verification records -/

namespace VerificationTable

/-- All verification records. -/
def rows (t : VerificationTable) : List VerificationRecord :=
  t.times.entries.flatMap fun entry => entry.2.map (⟨entry.1, ·⟩)

variable {t : VerificationTable} {pseudonym : String}

/-- The rows of a pseudonym, in the order in which they were saved. -/
theorem filter_rows (t : VerificationTable) (pseudonym : String) :
    t.rows.filter (·.pseudonym == pseudonym) = (t.timesOf pseudonym).map (⟨pseudonym, ·⟩) := by
  unfold rows timesOf Keyed.get?
  have hdistinct := t.times.distinct
  revert hdistinct
  generalize t.times.entries = entries
  intro hdistinct
  induction entries with
  | nil => rfl
  | cons entry entries ih =>
    obtain ⟨other, times⟩ := entry
    rw [List.map_cons, List.nodup_cons] at hdistinct
    rw [List.flatMap_cons, List.filter_append, ih hdistinct.2, List.lookup_cons]
    by_cases hp : pseudonym = other
    · subst hp
      simp [lookup_eq_none_iff.mpr hdistinct.1, List.filter_map, Function.comp_def]
    · have hbeq : (pseudonym == other) = false := by simpa using hp
      simp [List.filter_map, Function.comp_def, hbeq, Ne.symm hp]

theorem find_eq_filter (t : VerificationTable) (pseudonym : String) (cutoff : Instant) :
    t.find pseudonym cutoff = (t.rows.filter (·.pseudonym == pseudonym)).filter (cutoff ≤ ·.verifiedAt) := by
  rw [filter_rows, List.filter_map]
  rfl

/-- A pseudonym is in the map as long as a time of it is left. -/
theorem get?_times (t : VerificationTable) (pseudonym : String) :
    t.times.get? pseudonym = if t.timesOf pseudonym = [] then none else some (t.timesOf pseudonym) := by
  unfold timesOf
  cases h : t.times.get? pseudonym with
  | none => rfl
  | some times => simp [t.inhabited _ (Keyed.mem_entries_iff.mpr h)]

/-- Records are known, up to their order, from those of each pseudonym. -/
theorem perm_of_filter {rows others : List VerificationRecord}
    (h : ∀ pseudonym, rows.filter (·.pseudonym == pseudonym) = others.filter (·.pseudonym == pseudonym)) :
    rows.Perm others := by
  refine List.perm_iff_count.mpr fun row => ?_
  have hown : ∀ list : List VerificationRecord,
      (list.filter (·.pseudonym == row.pseudonym)).count row = list.count row := fun list =>
    List.count_filter (by simp)
  rw [← hown rows, ← hown others, h]

/-- A saved record comes last among the rows of its pseudonym. -/
theorem filter_rows_save (t : VerificationTable) (record : VerificationRecord) (pseudonym : String) :
    (t.save record).rows.filter (·.pseudonym == pseudonym) =
      (t.rows ++ [record]).filter (·.pseudonym == pseudonym) := by
  rw [filter_rows, timesOf_save, List.filter_append, filter_rows, List.map_append]
  congr 1
  obtain ⟨saved, time⟩ := record
  by_cases hp : saved = pseudonym <;> simp [hp]

theorem rows_save (t : VerificationTable) (record : VerificationRecord) :
    (t.save record).rows.Perm (t.rows ++ [record]) :=
  perm_of_filter (filter_rows_save t record)

theorem rows_deleteExpired (t : VerificationTable) (cutoff : Instant) :
    (t.deleteExpired cutoff).2.rows = t.rows.filter fun row => cutoff ≤ row.verifiedAt := by
  unfold rows deleteExpired Keyed.retain
  dsimp only
  rw [List.filter_flatMap]
  generalize t.times.entries = entries
  induction entries with
  | nil => rfl
  | cons entry entries ih =>
    rw [List.flatMap_cons, ← ih, List.filterMap_cons, List.filter_map]
    simp only [Function.comp_def, recent?]
    by_cases hnone : entry.2.filter (cutoff ≤ ·) = []
    · simp [hnone]
    · simp [hnone]

theorem deleteExpired_fst (t : VerificationTable) (cutoff : Instant) :
    (t.deleteExpired cutoff).1 = t.rows.length - (t.deleteExpired cutoff).2.rows.length := by
  rw [rows_deleteExpired]
  unfold deleteExpired rows
  generalize t.times.entries = entries
  dsimp only
  suffices hcount : ∀ deleted, entries.foldl (fun deleted entry =>
      deleted + (entry.2.length - (entry.2.filter (cutoff ≤ ·)).length)) deleted = deleted + (_ - _) by
    rw [hcount, Nat.zero_add]
  induction entries with
  | nil => exact fun _ => rfl
  | cons entry entries ih =>
    intro deleted
    have hfirst := List.length_filter_le (fun time : Instant => decide (cutoff ≤ time)) entry.2
    have hrest := List.length_filter_le (fun row : VerificationRecord => decide (cutoff ≤ row.verifiedAt))
      (entries.flatMap fun entry => entry.2.map (⟨entry.1, ·⟩))
    rw [List.foldl_cons, ih, List.flatMap_cons, List.filter_append, List.length_append,
      List.length_append, List.filter_map, List.length_map, List.length_map]
    simp only [Function.comp_def]
    omega

/-! ## Records in a list -/

/-- Of a list of records those of a pseudonym from a time on. -/
def recordsFrom (pseudonym : String) (since : Instant) (log : List VerificationRecord) : List VerificationRecord :=
  log.filter fun row => row.pseudonym == pseudonym && since ≤ row.verifiedAt

theorem recordsFrom_append (pseudonym : String) (since : Instant) (log later : List VerificationRecord) :
    recordsFrom pseudonym since (log ++ later) =
      recordsFrom pseudonym since log ++ recordsFrom pseudonym since later :=
  List.filter_append ..

/-- What a saved record adds to what is found it adds to a list. -/
theorem find_save_eq_append (t : VerificationTable) (record : VerificationRecord) (pseudonym : String)
    (since : Instant) :
    (t.save record).find pseudonym since = t.find pseudonym since ++ recordsFrom pseudonym since [record] := by
  rw [find_save]
  congr 1
  by_cases hown : record.pseudonym = pseudonym ∧ since ≤ record.verifiedAt <;> simp [recordsFrom, hown]

/-! ## What a step has added -/

/-- The records by which a table is ahead of another one. -/
def added (before after : VerificationTable) : List VerificationRecord :=
  after.rows.diff before.rows

theorem added_self (t : VerificationTable) : t.added t = [] := by
  refine List.perm_nil.mp (List.perm_iff_count.mpr fun row => ?_)
  unfold added
  rw [List.count_diff, Nat.sub_self, List.count_nil]

theorem added_save (t : VerificationTable) (record : VerificationRecord) : t.added (t.save record) = [record] := by
  refine List.perm_singleton.mp (List.perm_iff_count.mpr fun row => ?_)
  unfold added
  rw [List.count_diff, (rows_save t record).count_eq, List.count_append, Nat.add_sub_cancel_left]

end VerificationTable

end BlindMint
