import BlindMint.Proofs.Rows
import BlindMint.World
import Mathlib.Data.List.Basic
import Mathlib.Data.List.Induction

/-!
# The tables as a log with expiry

A journal holds every operation that was ever made on the two tables of records, with its answer. What the tables hold
after any operations is read off the journal: the records that were saved, in the order in which they were saved, less
those that a later purge takes (`surviving`). The two tables differ in what a purge takes. An issue record goes when
the purge has reached its expiry, a verification record only when it is older than the cutoff.

Both sides change in the same way with one more operation, which takes records, adds one at the end, or does neither.
The tables are maps, so that this is said of their rows. The verification records stand under their pseudonyms, and the
end is the one of the pseudonym's own records: of each pseudonym the map holds what the journal says in its order, and
nothing where the journal has no record left.

## Results

* `surviving_concat`, `perform_does`: what one more operation does to the journal's records and to the tables.
* `Holds.run`: along every run, both tables hold the surviving records.
* **`journal_exact`**: what the maps hold, and what lookups, saves and purges answer, after any operations.
-/

namespace BlindMint.Journal

/-! ## Operations and answers -/

/-- An operation on the records. -/
inductive Op where
  | saveIssue (record : IssueRecord)
  | findIssues (session : String)
  | purgeIssues (now : Instant)
  | saveVerification (record : VerificationRecord)
  | findVerifications (pseudonym : String) (cutoff : Instant)
  | purgeVerifications (cutoff : Instant)

/-- The answer to an operation. -/
inductive Answer where
  | saved (outcome : Except StoreError Unit)
  | issues (found : Except StoreError (List IssueRecord))
  | verifications (found : Except StoreError (List VerificationRecord))
  | purged (deleted : Except StoreError Nat)

namespace Op

/-- Make an operation. -/
def perform (w : World) : Op → Answer × World
  | saveIssue record => let (outcome, w) := w.saveIssue record; (.saved outcome, w)
  | findIssues session => (.issues (w.findIssues session), w)
  | purgeIssues now => let (deleted, w) := w.purgeIssues now; (.purged deleted, w)
  | saveVerification record => let (outcome, w) := w.saveVerification record; (.saved outcome, w)
  | findVerifications pseudonym cutoff => (.verifications (w.findVerifications pseudonym cutoff), w)
  | purgeVerifications cutoff => let (deleted, w) := w.purgeVerificationsBefore cutoff; (.purged deleted, w)

/-- Whether an operation is on the issue records. -/
def isOnIssues : Op → Bool
  | saveIssue _ | findIssues _ | purgeIssues _ => true
  | saveVerification _ | findVerifications _ _ | purgeVerifications _ => false

/-- Whether an operation can change what is found of a session: a save for it, or a purge. -/
def touchesSession (session : String) : Op → Bool
  | saveIssue record => record.session == session
  | purgeIssues _ => true
  | _ => false

/-- Whether an operation can change what is found of a pseudonym: a save for it, or a purge. -/
def touchesPseudonym (pseudonym : String) : Op → Bool
  | saveVerification record => record.pseudonym == pseudonym
  | purgeVerifications _ => true
  | _ => false

end Op

/-- An operation that has been made. -/
structure Entry where
  op : Op
  answer : Answer

namespace Entry

/-- The issue record that an entry has saved: a save that was refused has saved none. -/
def issue? : Entry → Option IssueRecord
  | ⟨.saveIssue record, .saved (.ok ())⟩ => some record
  | _ => none

/-- Whether an entry takes an issue record: a purge that has reached its expiry. -/
def takesIssue (e : Entry) (record : IssueRecord) : Bool :=
  match e.op with
  | .purgeIssues now => record.expiresAt ≤ now
  | _ => false

/-- The verification record that an entry has saved. -/
def verification? : Entry → Option VerificationRecord
  | ⟨.saveVerification record, _⟩ => some record
  | _ => none

/-- Whether an entry takes a verification record: a purge with a later cutoff. -/
def takesVerification (e : Entry) (record : VerificationRecord) : Bool :=
  match e.op with
  | .purgeVerifications cutoff => record.verifiedAt < cutoff
  | _ => false

end Entry

/-- The entry that an operation makes. -/
def Op.entry (w : World) (op : Op) : Entry :=
  ⟨op, (op.perform w).1⟩

/-- A run of operations so far: the world that it has led to, and its entries, the oldest one first. -/
structure Run where
  world : World
  entries : List Entry := []

/-- One more operation. -/
def Run.next (r : Run) (op : Op) : Run :=
  ⟨(op.perform r.world).2, r.entries ++ [op.entry r.world]⟩

/-- A run of operations, the first one first. -/
def run (w : World) (ops : List Op) : Run :=
  ops.foldl Run.next { world := w }

/-! ## What a journal says -/

/-- The records that entries save and that no later entry takes, in the order in which they were saved. -/
def surviving {α : Type} (saved? : Entry → Option α) (takes : Entry → α → Bool) : List Entry → List α
  | [] => []
  | e :: later =>
    match saved? e with
    | none => surviving saved? takes later
    | some record =>
      if later.any (takes · record) then surviving saved? takes later
      else record :: surviving saved? takes later

/-- The times of a pseudonym that entries save and that no later entry takes. -/
def survivingTimes (entries : List Entry) (pseudonym : String) : List Instant :=
  ((surviving Entry.verification? Entry.takesVerification entries).filter (·.pseudonym == pseudonym)).map
    (·.verifiedAt)

/-- A record is the last one saved for a session, and `later` are the entries since then. -/
structure LastSaved (session : String) (entries : List Entry) (record : IssueRecord)
    (later : List Entry) : Prop where
  saved : ∃ before e, entries = before ++ e :: later ∧ e.issue? = some record
  forSession : record.session = session
  last : ∀ e ∈ later, ∀ other, e.issue? = some other → other.session ≠ session

variable {w : World} {op : Op} {e : Entry} {entries later : List Entry} {session : String}
  {record : IssueRecord}

/-- **One more entry** takes records, and adds one at the end if it saves one. -/
theorem surviving_concat {α : Type} (saved? : Entry → Option α) (takes : Entry → α → Bool)
    (entries : List Entry) (e : Entry) :
    surviving saved? takes (entries ++ [e]) =
      (surviving saved? takes entries).filter (fun record => !takes e record) ++ (saved? e).toList := by
  induction entries with
  | nil => cases h : saved? e <;> simp [surviving, h]
  | cons first entries ih =>
    cases hfirst : saved? first with
    | none => simp [surviving, hfirst, ih]
    | some record =>
      by_cases hlater : entries.any (takes · record) = true
      · simp [surviving, hfirst, hlater, ih]
      · by_cases he : takes e record = true <;> simp [surviving, hfirst, hlater, he, ih]

theorem LastSaved.of_concat (h : LastSaved session (entries ++ [e]) record later) :
    (later = [] ∧ e.issue? = some record) ∨
      ∃ earlier, later = earlier ++ [e] ∧ LastSaved session entries record earlier := by
  obtain ⟨⟨before, saving, hentries, hsaved⟩, hsession, hlast⟩ := h
  rcases List.eq_nil_or_concat' later with rfl | ⟨earlier, newest, rfl⟩
  · obtain ⟨-, he⟩ := List.append_inj' hentries rfl
    obtain rfl : e = saving := by simpa using he
    exact .inl ⟨rfl, hsaved⟩
  · have hsplit : entries ++ [e] = (before ++ saving :: earlier) ++ [newest] := by
      simp [hentries]
    obtain ⟨rfl, he⟩ := List.append_inj' hsplit rfl
    obtain rfl : e = newest := by simpa using he
    exact .inr ⟨earlier, rfl, ⟨before, saving, rfl, hsaved⟩, hsession,
      fun e he => hlast e (List.mem_append_left _ he)⟩

/-! ## One operation -/

theorem saveIssue_cases (hw : w.faults = {}) (record : IssueRecord) :
    (w.issues.find record.session = [] ∧
      w.saveIssue record = (.ok (), { w with issues := w.issues.add record })) ∨
    (w.issues.find record.session ≠ [] ∧
      w.saveIssue record = (.error (.conflict "issue record exists for session token"), w)) := by
  unfold World.saveIssue
  rw [hw, IssueTable.save_eq]
  by_cases hvacant : w.issues.find record.session = []
  · exact .inl ⟨hvacant, by simp [hvacant]⟩
  · exact .inr ⟨hvacant, by simp [hvacant]⟩

/-- What is taken from a list and what is kept of it make up the list. -/
theorem length_eq_kept_add_taken {α : Type} (takes : α → Bool) (rows : List α) :
    rows.length = (rows.filter fun row => !takes row).length + rows.countP takes := by
  rw [← List.countP_eq_length_filter, Nat.add_comm]
  simpa using List.length_eq_countP_add_countP takes (l := rows)

theorem rows_purgeIssues (t : IssueTable) (now : Instant) :
    (t.deleteExpired now).2.rows = t.rows.filter fun row => !decide (row.expiresAt ≤ now) := by
  rw [IssueTable.rows_deleteExpired]
  refine List.filter_congr fun row _ => ?_
  simp [← Int64.not_le]

theorem purgeIssues_eq (hw : w.faults = {}) (now : Instant) :
    w.purgeIssues now =
      (.ok (w.issues.rows.countP fun row => row.expiresAt ≤ now),
        { w with issues := (w.issues.deleteExpired now).2 }) := by
  have hlength := length_eq_kept_add_taken (fun row : IssueRecord => row.expiresAt ≤ now) w.issues.rows
  have hdeleted := IssueTable.deleteExpired_fst w.issues now
  rw [rows_purgeIssues] at hdeleted
  simp only [World.purgeIssues, hw]
  congr 2
  omega

theorem saveVerification_eq (hw : w.faults = {}) (record : VerificationRecord) :
    w.saveVerification record = (.ok (), { w with verifications := w.verifications.save record }) := by
  unfold World.saveVerification
  rw [hw]

theorem rows_purgeVerifications (t : VerificationTable) (cutoff : Instant) :
    (t.deleteExpired cutoff).2.rows = t.rows.filter fun row => !decide (row.verifiedAt < cutoff) := by
  rw [VerificationTable.rows_deleteExpired]
  refine List.filter_congr fun row _ => ?_
  simp [← Int64.not_lt]

theorem purgeVerifications_eq (hw : w.faults = {}) (cutoff : Instant) :
    w.purgeVerificationsBefore cutoff =
      (.ok (w.verifications.rows.countP fun row => row.verifiedAt < cutoff),
        { w with verifications := (w.verifications.deleteExpired cutoff).2 }) := by
  have hlength := length_eq_kept_add_taken (fun row : VerificationRecord => row.verifiedAt < cutoff)
    w.verifications.rows
  have hdeleted := VerificationTable.deleteExpired_fst w.verifications cutoff
  rw [rows_purgeVerifications] at hdeleted
  simp only [World.purgeVerificationsBefore, hw]
  congr 2
  omega

/-- A purge answers how many records it takes, and none when it is made again. -/
def Purges {α : Type} (purge : World → Except StoreError Nat × World) (rows : World → List α)
    (takes : α → Bool) (w : World) : Prop :=
  ∃ deleted after, purge w = (.ok deleted, after) ∧ deleted = (rows w).countP takes ∧
    (rows w).length = (rows after).length + deleted ∧ (purge after).1 = .ok 0

theorem purges_issues (hw : w.faults = {}) (now : Instant) :
    Purges (·.purgeIssues now) (·.issues.rows) (fun record => record.expiresAt ≤ now) w := by
  refine ⟨_, _, purgeIssues_eq hw now, rfl, ?_, ?_⟩
  · dsimp only
    rw [rows_purgeIssues]
    exact length_eq_kept_add_taken ..
  · dsimp only
    rw [purgeIssues_eq (by exact hw), rows_purgeIssues]
    simp [List.countP_filter]

theorem purges_verifications (hw : w.faults = {}) (cutoff : Instant) :
    Purges (·.purgeVerificationsBefore cutoff) (·.verifications.rows)
      (fun record => record.verifiedAt < cutoff) w := by
  refine ⟨_, _, purgeVerifications_eq hw cutoff, rfl, ?_, ?_⟩
  · dsimp only
    rw [rows_purgeVerifications]
    exact length_eq_kept_add_taken ..
  · dsimp only
    rw [purgeVerifications_eq (by exact hw), rows_purgeVerifications]
    simp [List.countP_filter]

/-- What an entry does: in each table it takes records, and adds one at the end if it saves one there. The
verification records are those of one pseudonym. -/
structure Does (e : Entry) (w v : World) : Prop where
  faults : v.faults = w.faults
  issues : v.issues.rows = w.issues.rows.filter (fun record => !e.takesIssue record) ++ e.issue?.toList
  verifications : ∀ pseudonym, v.verifications.rows.filter (·.pseudonym == pseudonym) =
    (w.verifications.rows.filter (fun record => !e.takesVerification record) ++
      e.verification?.toList).filter (·.pseudonym == pseudonym)

/-- **What an operation does**, by the entry that it makes. -/
theorem perform_does (hw : w.faults = {}) (op : Op) : Does (op.entry w) w (op.perform w).2 := by
  cases op with
  | saveIssue record =>
    rcases saveIssue_cases hw record with ⟨hvacant, h⟩ | ⟨-, h⟩
    · refine ⟨by simp [Op.perform, h], ?_, fun pseudonym => ?_⟩
      · simp [Op.entry, Op.perform, h, Entry.takesIssue, Entry.issue?, IssueTable.rows_add hvacant]
      · simp [Op.entry, Op.perform, h, Entry.takesVerification, Entry.verification?]
    · refine ⟨by simp [Op.perform, h], ?_, fun pseudonym => ?_⟩
      · simp [Op.entry, Op.perform, h, Entry.takesIssue, Entry.issue?]
      · simp [Op.entry, Op.perform, h, Entry.takesVerification, Entry.verification?]
  | purgeIssues now =>
    refine ⟨by simp [Op.perform, purgeIssues_eq hw], ?_, fun pseudonym => ?_⟩
    · simp [Op.entry, Op.perform, purgeIssues_eq hw, Entry.takesIssue, Entry.issue?, rows_purgeIssues]
    · simp [Op.entry, Op.perform, purgeIssues_eq hw, Entry.takesVerification, Entry.verification?]
  | saveVerification record =>
    refine ⟨by simp [Op.perform, saveVerification_eq hw], ?_, fun pseudonym => ?_⟩
    · simp [Op.entry, Op.perform, saveVerification_eq hw, Entry.takesIssue, Entry.issue?]
    · have hsaved := VerificationTable.filter_rows_save w.verifications record pseudonym
      simpa [Op.entry, Op.perform, saveVerification_eq hw, Entry.takesVerification, Entry.verification?]
        using hsaved
  | purgeVerifications cutoff =>
    refine ⟨by simp [Op.perform, purgeVerifications_eq hw], ?_, fun pseudonym => ?_⟩
    · simp [Op.entry, Op.perform, purgeVerifications_eq hw, Entry.takesIssue, Entry.issue?]
    · simp [Op.entry, Op.perform, purgeVerifications_eq hw, Entry.takesVerification, Entry.verification?,
        rows_purgeVerifications]
  | findIssues | findVerifications =>
    refine ⟨rfl, ?_, fun pseudonym => ?_⟩
    · simp [Op.entry, Op.perform, Entry.takesIssue, Entry.issue?]
    · simp [Op.entry, Op.perform, Entry.takesVerification, Entry.verification?]

theorem faults_perform (hw : w.faults = {}) (op : Op) : (op.perform w).2.faults = {} :=
  (perform_does hw op).faults.trans hw

/-- An issue record is saved only for a session that has none. -/
theorem find_of_issue? (hw : w.faults = {}) (h : (op.entry w).issue? = some record) :
    w.issues.find record.session = [] := by
  cases op with
  | saveIssue saved =>
    rcases saveIssue_cases hw saved with ⟨hvacant, heq⟩ | ⟨-, heq⟩
    · obtain rfl : saved = record := by simpa [Op.entry, Op.perform, heq, Entry.issue?] using h
      exact hvacant
    · simp [Op.entry, Op.perform, heq, Entry.issue?] at h
  | findIssues | purgeIssues | saveVerification | findVerifications | purgeVerifications =>
    simp [Op.entry, Entry.issue?] at h

/-- What is found of a session after one more operation. -/
theorem find_perform (hw : w.faults = {}) (op : Op) (session : String) :
    (op.perform w).2.issues.find session =
      (w.issues.find session).filter (fun record => !(op.entry w).takesIssue record) ++
        (op.entry w).issue?.toList.filter (·.session == session) := by
  rw [IssueTable.find_eq_filter, IssueTable.find_eq_filter, (perform_does hw op).issues, List.filter_append,
    List.filter_filter, List.filter_filter]
  simp only [Bool.and_comm]

/-! ## Any operations -/

/-- What the tables hold along a run. -/
structure Holds (r : Run) : Prop where
  faults : r.world.faults = {}
  issues : r.world.issues.rows = surviving Entry.issue? Entry.takesIssue r.entries
  verifications : ∀ pseudonym, r.world.verifications.rows.filter (·.pseudonym == pseudonym) =
    (surviving Entry.verification? Entry.takesVerification r.entries).filter (·.pseudonym == pseudonym)
  /-- Of a session nothing is found but the last record that was saved for it. -/
  last : ∀ session record later, LastSaved session r.entries record later →
    r.world.issues.find session = if later.any (·.takesIssue record) then [] else [record]

theorem Holds.next {r : Run} (h : Holds r) (op : Op) : Holds (r.next op) where
  faults := faults_perform h.faults op
  issues := by
    show (op.perform r.world).2.issues.rows = _
    rw [(perform_does h.faults op).issues, h.issues]
    exact (surviving_concat ..).symm
  verifications pseudonym := by
    show (op.perform r.world).2.verifications.rows.filter _ = _
    have hkept := congrArg (List.filter fun record => !(op.entry r.world).takesVerification record)
      (h.verifications pseudonym)
    rw [List.filter_filter, List.filter_filter] at hkept
    simp only [Bool.and_comm] at hkept
    rw [(perform_does h.faults op).verifications, Run.next, surviving_concat, List.filter_append,
      List.filter_append, List.filter_filter, List.filter_filter, hkept]
  last session record later hlast := by
    show (op.perform r.world).2.issues.find session = _
    rw [find_perform h.faults]
    have hsession := hlast.forSession
    rcases hlast.of_concat with ⟨rfl, hsaved⟩ | ⟨earlier, rfl, hearlier⟩
    · -- The operation has saved the record, so that the session had none before.
      rw [← hsession, find_of_issue? h.faults hsaved, hsaved]
      simp
    · have hnone : (op.entry r.world).issue?.toList.filter (·.session == session) = [] := by
        cases hother : (op.entry r.world).issue? with
        | none => rfl
        | some other =>
          have hne := hlast.last _ (List.mem_append_right _ (List.mem_singleton_self _)) other hother
          simp [hne]
      rw [h.last session record earlier hearlier, hnone]
      by_cases htaken : earlier.any (·.takesIssue record) = true
      · simp [htaken]
      · by_cases htakes : (op.entry r.world).takesIssue record = true <;> simp [htaken, htakes]

theorem run_concat (w : World) (ops : List Op) (op : Op) :
    run w (ops ++ [op]) = (run w ops).next op := by
  simp [run]

/-- **Along every run both tables hold the surviving records.** -/
theorem Holds.run (hfaults : w.faults = {}) (hissues : w.issues = {}) (hverifications : w.verifications = {})
    (ops : List Op) : Holds (run w ops) := by
  induction ops using List.reverseRecOn with
  | nil =>
    refine ⟨hfaults, by simp [Journal.run, hissues, surviving, IssueTable.rows],
      by simp [Journal.run, hverifications, surviving, VerificationTable.rows], ?_⟩
    rintro session record later ⟨⟨before, e, hentries, -⟩, -, -⟩
    simp [Journal.run] at hentries
  | append_singleton ops op ih =>
    rw [run_concat]
    exact ih.next op

/-! ## What is answered -/

theorem exists_of_mem_surviving {α : Type} {saved? : Entry → Option α} {takes : Entry → α → Bool}
    {record : α} (h : record ∈ surviving saved? takes entries) : ∃ e ∈ entries, saved? e = some record := by
  induction entries with
  | nil => simp [surviving] at h
  | cons first entries ih =>
    have hrest : record ∈ surviving saved? takes entries → ∃ e ∈ first :: entries, saved? e = some record := by
      intro hrecord
      obtain ⟨e, he, hsaved⟩ := ih hrecord
      exact ⟨e, List.mem_cons_of_mem _ he, hsaved⟩
    cases hfirst : saved? first with
    | none => exact hrest (by simpa [surviving, hfirst] using h)
    | some other =>
      by_cases hlater : entries.any (takes · other) = true
      · exact hrest (by simpa [surviving, hfirst, hlater] using h)
      · simp only [surviving, hfirst, hlater, Bool.false_eq_true, if_false, List.mem_cons] at h
        rcases h with rfl | h
        · exact ⟨first, List.mem_cons_self, hfirst⟩
        · exact hrest h

theorem findIssues_eq (hw : w.faults = {}) (session : String) :
    w.findIssues session = .ok (w.issues.find session) := by
  simp [World.findIssues, hw]

theorem findVerifications_eq (hw : w.faults = {}) (pseudonym : String) (cutoff : Instant) :
    w.findVerifications pseudonym cutoff = .ok (w.verifications.find pseudonym cutoff) := by
  simp [World.findVerifications, hw]

/-- An operation on the one table leaves the other one as it is. -/
theorem perform_apart (hw : w.faults = {}) (op : Op) :
    if op.isOnIssues then (op.perform w).2.verifications = w.verifications
    else (op.perform w).2.issues = w.issues := by
  cases op with
  | saveIssue record => rcases saveIssue_cases hw record with ⟨-, h⟩ | ⟨-, h⟩ <;> simp [Op.isOnIssues, Op.perform, h]
  | purgeIssues now => simp [Op.isOnIssues, Op.perform, purgeIssues_eq hw]
  | saveVerification record => simp [Op.isOnIssues, Op.perform, saveVerification_eq hw]
  | purgeVerifications cutoff => simp [Op.isOnIssues, Op.perform, purgeVerifications_eq hw]
  | findIssues | findVerifications => rfl

/-- A save for another session and a lookup leave what is found of a session. -/
theorem findIssues_perform (hw : w.faults = {}) (h : op.touchesSession session = false) :
    (op.perform w).2.findIssues session = w.findIssues session := by
  rw [findIssues_eq hw, findIssues_eq (faults_perform hw op), find_perform hw]
  congr 1
  cases op with
  | saveIssue record =>
    have hne : record.session ≠ session := by simpa [Op.touchesSession] using h
    rcases saveIssue_cases hw record with ⟨-, heq⟩ | ⟨-, heq⟩ <;>
      simp [Op.entry, Op.perform, heq, Entry.takesIssue, Entry.issue?, hne]
  | purgeIssues now => simp [Op.touchesSession] at h
  | findIssues | saveVerification | findVerifications | purgeVerifications =>
    simp [Op.entry, Entry.takesIssue, Entry.issue?]

/-- A save for another pseudonym and a lookup leave what is found of a pseudonym. -/
theorem findVerifications_perform (hw : w.faults = {}) {pseudonym : String}
    (h : op.touchesPseudonym pseudonym = false) (cutoff : Instant) :
    (op.perform w).2.findVerifications pseudonym cutoff = w.findVerifications pseudonym cutoff := by
  rw [findVerifications_eq hw, findVerifications_eq (faults_perform hw op)]
  congr 1
  rw [VerificationTable.find_eq_filter, VerificationTable.find_eq_filter,
    (perform_does hw op).verifications]
  cases op with
  | saveVerification record =>
    have hne : record.pseudonym ≠ pseudonym := by simpa [Op.touchesPseudonym] using h
    simp [Op.entry, Entry.takesVerification, Entry.verification?, hne]
  | purgeVerifications cutoff => simp [Op.touchesPseudonym] at h
  | saveIssue | findIssues | purgeIssues | findVerifications =>
    simp [Op.entry, Entry.takesVerification, Entry.verification?]

/-- What the operations on records answer after a run, by its entries, and what they leave alone. -/
structure Answers (r : Run) : Prop where
  /-- The tables hold the records that no purge has taken since they were saved, as often as they were saved. -/
  rows : r.world.issues.rows = surviving Entry.issue? Entry.takesIssue r.entries ∧
    r.world.verifications.rows.Perm (surviving Entry.verification? Entry.takesVerification r.entries)
  /-- Under a session stands the one record of it that no purge has taken, or nothing. -/
  records : ∀ session,
    (r.world.issues.records.get? session).toList =
      (surviving Entry.issue? Entry.takesIssue r.entries).filter (·.session == session)
  /-- Under a pseudonym stand the times that no purge has taken, in the order in which they were saved. A pseudonym
  without such a time is not in the map. -/
  times : ∀ pseudonym, r.world.verifications.times.get? pseudonym =
    if survivingTimes r.entries pseudonym = [] then none else some (survivingTimes r.entries pseudonym)
  /-- Found of a pseudonym are its records from the cutoff on that no purge has taken since they were saved, in the
  order in which they were saved and as often as they were saved. -/
  verifications : ∀ pseudonym cutoff, r.world.findVerifications pseudonym cutoff =
    .ok ((surviving Entry.verification? Entry.takesVerification r.entries).filter fun record =>
      record.pseudonym == pseudonym && cutoff ≤ record.verifiedAt)
  /-- Found of a session is the last record that was saved for it, if no purge has reached its expiry since. -/
  last : ∀ session record later, LastSaved session r.entries record later →
    r.world.findIssues session = .ok (if later.any (·.takesIssue record) then [] else [record])
  /-- Nothing is found of a session for which no record was saved. -/
  never : ∀ session, (∀ e ∈ r.entries, ∀ record, e.issue? = some record → record.session ≠ session) →
    r.world.findIssues session = .ok []
  /-- A record is saved if none is found of its session, and is a conflict otherwise. -/
  conflict : ∀ record,
    ((r.world.saveIssue record).1 = .ok () ↔ r.world.findIssues record.session = .ok []) ∧
    ((∃ detail, (r.world.saveIssue record).1 = .error (.conflict detail)) ↔
      r.world.findIssues record.session ≠ .ok [])
  /-- A save that fails changes nothing. -/
  refused : ∀ record e, (r.world.saveIssue record).1 = .error e → (r.world.saveIssue record).2 = r.world
  purgedIssues : ∀ now,
    Purges (·.purgeIssues now) (·.issues.rows) (fun record => record.expiresAt ≤ now) r.world
  purgedVerifications : ∀ cutoff,
    Purges (·.purgeVerificationsBefore cutoff) (·.verifications.rows)
      (fun record => record.verifiedAt < cutoff) r.world
  /-- An operation on the one table leaves the other one as it is. -/
  apart : ∀ op : Op, if op.isOnIssues then (op.perform r.world).2.verifications = r.world.verifications
    else (op.perform r.world).2.issues = r.world.issues
  /-- Saves for other sessions and lookups leave what is found of a session. -/
  otherSessions : ∀ (op : Op) session, op.touchesSession session = false →
    (op.perform r.world).2.findIssues session = r.world.findIssues session
  /-- Saves for other pseudonyms and lookups leave what is found of a pseudonym. -/
  otherPseudonyms : ∀ (op : Op) pseudonym cutoff, op.touchesPseudonym pseudonym = false →
    (op.perform r.world).2.findVerifications pseudonym cutoff =
      r.world.findVerifications pseudonym cutoff

/-- **The tables are a log with expiry**: after any operations on empty tables, lookups, saves and purges answer what
the journal of these operations says. -/
theorem journal_exact (hfaults : w.faults = {}) (hissues : w.issues = {})
    (hverifications : w.verifications = {}) (ops : List Op) : Answers (run w ops) := by
  have h := Holds.run hfaults hissues hverifications ops
  refine ⟨⟨h.issues, VerificationTable.perm_of_filter h.verifications⟩, fun session => ?_, fun pseudonym => ?_,
    fun pseudonym cutoff => ?_, fun session record later hlast => ?_, fun session hnever => ?_,
    fun record => ?_, fun record e he => ?_, purges_issues h.faults, purges_verifications h.faults,
    perform_apart h.faults, fun op session => findIssues_perform h.faults,
    fun op pseudonym cutoff hother => findVerifications_perform h.faults hother cutoff⟩
  · rw [← h.issues]
    exact IssueTable.find_eq_filter ..
  · have htimes : (run w ops).world.verifications.timesOf pseudonym =
        survivingTimes (run w ops).entries pseudonym := by
      rw [survivingTimes, ← h.verifications, VerificationTable.filter_rows, List.map_map]
      exact (List.map_id _).symm
    rw [VerificationTable.get?_times, htimes]
  · rw [findVerifications_eq h.faults, VerificationTable.find_eq_filter, h.verifications, List.filter_filter]
    simp only [Bool.and_comm]
  · rw [findIssues_eq h.faults, h.last session record later hlast]
  · rw [findIssues_eq h.faults, IssueTable.find_eq_filter, h.issues, Except.ok.injEq, List.filter_eq_nil_iff]
    intro record hrecord
    obtain ⟨e, he, hsaved⟩ := exists_of_mem_surviving hrecord
    simpa using hnever e he record hsaved
  · rw [findIssues_eq h.faults]
    rcases saveIssue_cases h.faults record with ⟨hvacant, heq⟩ | ⟨hvacant, heq⟩ <;> simp [heq, hvacant]
  · rcases saveIssue_cases h.faults record with ⟨-, heq⟩ | ⟨-, heq⟩
    · simp [heq] at he
    · rw [heq]

namespace Sample

/-- Faultless, and with empty tables. -/
def world : World := { now := 0, locator := .shelf {} }

/-- Of three times of a pseudonym the first one is taken by a purge at the second, and an earlier time that is saved
after that purge stays. A second record for a session is refused until a purge reaches the expiry of the first. -/
def ops : List Op := [
  .saveVerification ⟨"p", 5⟩,
  .saveVerification ⟨"q", 7⟩,
  .saveVerification ⟨"p", 10⟩,
  .saveVerification ⟨"p", 10⟩,
  .purgeVerifications 10,
  .saveVerification ⟨"p", 3⟩,
  .saveIssue ⟨"s", 30⟩,
  .saveIssue ⟨"t", 90⟩,
  .saveIssue ⟨"s", 50⟩,
  .purgeIssues 30,
  .saveIssue ⟨"s", 60⟩,
  .purgeIssues 59]

end Sample

/-- After these operations a lookup finds a time twice, and one that is older than an earlier purge; the second record
that was saved for the session stands. -/
theorem journal_exact_sample :
    (Sample.world.faults = {} ∧ Sample.world.issues = {} ∧ Sample.world.verifications = {}) ∧
    (run Sample.world Sample.ops).world.findVerifications "p" 3 = .ok [⟨"p", 10⟩, ⟨"p", 10⟩, ⟨"p", 3⟩] ∧
    (run Sample.world Sample.ops).world.findIssues "s" = .ok [⟨"s", 60⟩] ∧
    ∃ detail, ((run Sample.world Sample.ops).world.saveIssue ⟨"s", 70⟩).1 = .error (.conflict detail) := by
  have hanswers := journal_exact (w := Sample.world) rfl rfl rfl Sample.ops
  have hlast : LastSaved "s" (run Sample.world Sample.ops).entries ⟨"s", 60⟩
      [⟨.purgeIssues 59, .purged (.ok 0)⟩] := by
    refine ⟨⟨(run Sample.world Sample.ops).entries.take 10, _, rfl, rfl⟩, rfl, ?_⟩
    simp [Entry.issue?]
  have hfound : (run Sample.world Sample.ops).world.findIssues "s" = .ok [⟨"s", 60⟩] :=
    hanswers.last "s" ⟨"s", 60⟩ _ hlast
  refine ⟨⟨rfl, rfl, rfl⟩, hanswers.verifications "p" 3, hfound, ?_⟩
  refine ((hanswers.conflict ⟨"s", 70⟩).2).mpr ?_
  rw [hfound]
  simp

end BlindMint.Journal
