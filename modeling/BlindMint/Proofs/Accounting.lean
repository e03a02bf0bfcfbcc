import BlindMint.Proofs.Ledger.Stage
import BlindMint.Proofs.Sweep.Unseen
import Mathlib.Logic.Relation

/-!
# The books balance

Each table of records has a book: its rows, how many records the counters say were saved, and how many they say
were deleted. A book changes by two kinds of entry only. A record is saved and counted, or the rows that a sweep
does not keep are deleted and counted. No request that fails half way and no sweep that fails in one table leaves
a row that is not counted or counts a row that is not there.

A run is made of whole requests, of single steps of requests in any order, of passes over one table and of changes
beside them. Nothing is assumed of the clock and of the faults. Steps that could not follow one another are
allowed, as the books balance in their presence too.

## Results

* `Upkeep.audited`, `Stage.next_audited`, `Phase.next_audited`: what keys and requests enter in the books.
* `Service.respond_audited`: a whole request enters no more than its steps do.
* `sweep_issueBook`, `sweep_verificationBook`: what a pass enters in one book does not depend on the other table.
* **`books_balance`**: along every run the records saved, less those deleted, are those that are there.
-/

namespace BlindMint

/-! ## Books -/

/-- A table with the counts of its saved and its deleted records. -/
structure Book (α : Type) where
  rows : List α
  saved : Nat
  deleted : Nat
  deriving DecidableEq, Repr

namespace Book

variable {α : Type} {b c : Book α}

/-- Delete the records that are not kept, and count them. -/
def purge (b : Book α) (keep : α → Bool) : Book α :=
  ⟨b.rows.filter keep, b.saved, b.deleted + (b.rows.length - (b.rows.filter keep).length)⟩

/-- An entry in a book: a record is saved and counted, or records are deleted and counted. -/
inductive Entry : Book α → Book α → Prop
  | save (b : Book α) (row : α) {rows : List α} (h : rows.Perm (b.rows ++ [row])) :
      Entry b ⟨rows, b.saved + 1, b.deleted⟩
  | purge (b : Book α) (keep : α → Bool) : Entry b (b.purge keep)

/-- The records saved are those deleted and those that are there. -/
def Balanced (b : Book α) : Prop :=
  b.saved = b.deleted + b.rows.length

theorem Balanced.entry (h : b.Balanced) (he : Entry b c) : c.Balanced := by
  unfold Balanced at *
  cases he with
  | save row hrows =>
    have hlength := hrows.length_eq
    rw [List.length_append, List.length_singleton] at hlength
    dsimp only
    omega
  | purge keep =>
    have hle := List.length_filter_le keep b.rows
    simp only [purge]
    omega

theorem Balanced.entries (h : b.Balanced) (he : Relation.ReflTransGen Entry b c) : c.Balanced := by
  induction he with
  | refl => exact h
  | tail _ hentry ih => exact ih.entry hentry

end Book

/-- The book of the issue records. -/
def World.issueBook (w : World) : Book IssueRecord where
  rows := w.issues.rows
  saved := w.counters.get (.issuance LedgerDecision.accepted.name)
  deleted := w.counters.get (.swept "issue_records")

/-- The book of the verification records. -/
def World.verificationBook (w : World) : Book VerificationRecord where
  rows := w.verifications.rows
  saved := w.counters.get (.verifications VerificationOutcome.verified.name) +
    w.counters.get (.verifications VerificationOutcome.notVerified.name)
  deleted := w.counters.get (.swept "verification_records")

/-- Between two worlds entries have been made in both books. -/
structure Audited (w v : World) : Prop where
  issues : Relation.ReflTransGen Book.Entry w.issueBook v.issueBook
  verifications : Relation.ReflTransGen Book.Entry w.verificationBook v.verificationBook

namespace Audited

variable {u v w : World}

/-- The same books. -/
theorem of_books_eq (hi : v.issueBook = w.issueBook) (hv : v.verificationBook = w.verificationBook) :
    Audited w v where
  issues := hi ▸ .refl
  verifications := hv ▸ .refl

theorem refl (w : World) : Audited w w := of_books_eq rfl rfl

theorem trans (h : Audited u v) (h' : Audited v w) : Audited u w :=
  ⟨h.issues.trans h'.issues, h.verifications.trans h'.verifications⟩

/-- Nothing is entered by counting what is neither saved nor deleted. -/
theorem count (w : World) {counter : Counter} (amount : Nat)
    (hc : counter = .issuance LedgerDecision.duplicate.name ∨
      counter = .verifications VerificationOutcome.limitReached.name) :
    Audited w (w.count counter amount) := by
  rcases hc with rfl | rfl <;>
    refine of_books_eq ?_ ?_ <;>
    simp [World.issueBook, World.verificationBook, World.count, Counters.get_add_of_ne,
      LedgerDecision.name, VerificationOutcome.name]

/-- An issue record is saved and counted. -/
theorem save_issue {record : IssueRecord} (h : w.issues.find record.session = []) :
    Audited w (({ w with issues := w.issues.add record } : World).count
      (.issuance LedgerDecision.accepted.name) 1) where
  issues := by
    have hbook : (({ w with issues := w.issues.add record } : World).count
        (.issuance LedgerDecision.accepted.name) 1).issueBook =
          ⟨w.issueBook.rows ++ [record], w.issueBook.saved + 1, w.issueBook.deleted⟩ := by
      simp [World.issueBook, World.count, Counters.get_add_self, Counters.get_add_of_ne, IssueTable.rows_add h]
    rw [hbook]
    exact .single (.save _ record (.refl _))
  verifications := by
    have hbook : (({ w with issues := w.issues.add record } : World).count
        (.issuance LedgerDecision.accepted.name) 1).verificationBook = w.verificationBook := by
      simp [World.verificationBook, World.count, Counters.get_add_of_ne]
    rw [hbook]

/-- A verification record is saved and counted, whether the pseudonym was verified or not. -/
theorem save_verification (w : World) (record : VerificationRecord) (verified : Bool) :
    Audited w (({ w with verifications := w.verifications.save record } : World).count
      (.verifications (if verified then VerificationOutcome.verified
        else .notVerified).name) 1) where
  issues := by
    have hbook : (({ w with verifications := w.verifications.save record } : World).count
        (.verifications (if verified then VerificationOutcome.verified
          else .notVerified).name) 1).issueBook = w.issueBook := by
      simp [World.issueBook, World.count, Counters.get_add_of_ne]
    rw [hbook]
  verifications := by
    have hbook : (({ w with verifications := w.verifications.save record } : World).count
        (.verifications (if verified then VerificationOutcome.verified
          else .notVerified).name) 1).verificationBook =
          ⟨(w.verifications.save record).rows, w.verificationBook.saved + 1, w.verificationBook.deleted⟩ := by
      cases verified <;>
        simp [World.verificationBook, World.count, Counters.get_add_self, Counters.get_add_of_ne,
          VerificationOutcome.name] <;>
        omega
    rw [hbook]
    exact .single (.save _ record (VerificationTable.rows_save ..))

end Audited

/-- Finding keys and credentials enters nothing. -/
theorem Upkeep.audited {w v : World} (h : Upkeep w v) : Audited w v := by
  refine .of_books_eq ?_ ?_
  · simp only [World.issueBook, h.issues, h.counters _ (rfl : Counter.isOfRecords (.issuance _) = true),
      h.counters _ (rfl : Counter.isOfRecords (.swept _) = true)]
  · simp only [World.verificationBook, h.verifications,
      h.counters _ (rfl : Counter.isOfRecords (.verifications _) = true),
      h.counters _ (rfl : Counter.isOfRecords (.swept _) = true)]

/-! ## Sweeps -/

section

variable {limit : VerificationLimit} (w : World)

theorem sweepIssues_issueBook :
    w.sweepIssues.2.issueBook =
      if w.faults.issueDelete = none then w.issueBook.purge fun row => w.now < row.expiresAt
      else w.issueBook := by
  unfold World.sweepIssues World.purgeIssues
  cases w.faults.issueDelete with
  | some e => rfl
  | none =>
    simp [World.issueBook, World.count, Counters.get_add_self, Counters.get_add_of_ne, Book.purge,
      IssueTable.deleteExpired_fst, IssueTable.rows_deleteExpired]

theorem sweepIssues_verificationBook : w.sweepIssues.2.verificationBook = w.verificationBook := by
  unfold World.sweepIssues World.purgeIssues
  cases w.faults.issueDelete with
  | some e => rfl
  | none => simp [World.verificationBook, World.count, Counters.get_add_of_ne]

theorem sweepVerifications_verificationBook :
    (w.sweepVerifications limit).2.verificationBook =
      if w.faults.verificationDelete = none then
        w.verificationBook.purge fun row => limit.cutoff w.now ≤ row.verifiedAt
      else w.verificationBook := by
  unfold World.sweepVerifications World.purgeVerifications World.purgeVerificationsBefore
  cases w.faults.verificationDelete with
  | some e => rfl
  | none =>
    simp [World.verificationBook, World.count, Counters.get_add_self, Counters.get_add_of_ne, Book.purge,
      VerificationTable.deleteExpired_fst, VerificationTable.rows_deleteExpired]

theorem sweepVerifications_issueBook :
    (w.sweepVerifications limit).2.issueBook = w.issueBook := by
  unfold World.sweepVerifications World.purgeVerifications World.purgeVerificationsBefore
  cases w.faults.verificationDelete with
  | some e => rfl
  | none => simp [World.issueBook, World.count, Counters.get_add_of_ne]

/-- What a pass enters for the issue records does not depend on the verification records. -/
theorem sweep_issueBook :
    (w.sweep limit).2.issueBook =
      if w.faults.issueDelete = none then w.issueBook.purge fun row => w.now < row.expiresAt
      else w.issueBook :=
  (sweepVerifications_issueBook w.sweepIssues.2).trans (sweepIssues_issueBook w)

/-- What a pass enters for the verification records does not depend on the issue records. -/
theorem sweep_verificationBook :
    (w.sweep limit).2.verificationBook =
      if w.faults.verificationDelete = none then
        w.verificationBook.purge fun row => limit.cutoff w.now ≤ row.verifiedAt
      else w.verificationBook := by
  show (w.sweepIssues.2.sweepVerifications limit).2.verificationBook = _
  rw [sweepVerifications_verificationBook, sweepIssues_verificationBook, sweepIssues_faults,
    sweepIssues_now]

end

namespace Audited

variable {limit : VerificationLimit}

theorem sweepIssues (w : World) : Audited w w.sweepIssues.2 where
  issues := by
    rw [sweepIssues_issueBook]
    split
    · exact .single (.purge ..)
    · exact .refl
  verifications := by
    rw [sweepIssues_verificationBook]

theorem sweepVerifications (limit : VerificationLimit) (w : World) :
    Audited w (w.sweepVerifications limit).2 where
  issues := by
    rw [sweepVerifications_issueBook]
  verifications := by
    rw [sweepVerifications_verificationBook]
    split
    · exact .single (.purge ..)
    · exact .refl

theorem change (limit : VerificationLimit) (w : World) (c : Change) :
    Audited w (w.change limit c) := by
  cases c with
  | sweep => exact (sweepIssues w).trans (sweepVerifications limit w.sweepIssues.2)
  | clock | timer | certificates | faults => exact .of_books_eq rfl rfl

end Audited

/-! ## Requests -/

theorem Issuance.sign_audited (s : Issuance) (keys : KeyStore) (maskedPoint : Octets) (w : World) :
    Audited w (s.sign keys maskedPoint w).2 := by
  have h := (KeyStore.activeKeyPair_upkeep keys w).audited
  unfold sign
  split
  · next heq => rwa [heq] at h
  · next heq => rwa [heq] at h
  · next pair u heq =>
    rw [heq] at h
    have hasked := h.trans (.of_books_eq rfl rfl :
      Audited u (s.ask ⟨pair.curve, pair.scalar, pair.point, maskedPoint⟩ u).2)
    split
    · next heq' => rwa [heq'] at hasked
    · next heq' => rwa [heq'] at hasked

namespace Verification

/-- One step of a verification: the attempt is recorded and counted at once, or nothing is entered. -/
theorem Phase.next_audited (s : Verification) (pseudonym : String) (w : World) (phase : Phase) :
    Audited w (phase.next s pseudonym w).2 := by
  cases phase with
  | started =>
    simp only [next]
    split
    · exact .refl w
    · exact .count w 1 (.inr rfl)
    · exact .refl w
  | allowed =>
    simp only [next, ask]
    cases s.check pseudonym <;> exact .of_books_eq rfl rfl
  | checked verified =>
    simp only [next]
    split
    · next heq =>
      rw [recordAttempt_error heq]
      exact .refl w
    · next heq =>
      rw [recordAttempt_ok heq]
      exact .save_verification w _ verified
  | finished outcome => exact .refl w

theorem verify_audited (s : Verification) (pseudonym : String) (w : World) :
    Audited w (s.verify pseudonym w).2 := by
  have hsteps : Audited w (Phase.started.finish s pseudonym w).2 :=
    ((Phase.next_audited s pseudonym w .started).trans (Phase.next_audited ..)).trans
      (Phase.next_audited ..)
  rwa [verify_eq_phases] at hsteps

end Verification

namespace Http

/-- One step of a request for a token: the record is saved and counted at once, or nothing is entered. -/
theorem Stage.next_audited (s : Service) (w : World) (stage : Stage) :
    Audited w (stage.next s w).2 := by
  cases stage with
  | verified a =>
    simp only [next, lookUp]
    split
    · exact .refl w
    · exact .count w 1 (.inl rfl)
    · exact .refl w
  | unseen a =>
    simp only [next, save]
    split
    · next heq =>
      rw [World.record_eq_of_not_accepted heq (by simp)]
      exact .refl w
    · next heq =>
      rw [World.record_eq_of_not_accepted heq (by simp)]
      exact .count w 1 (.inl rfl)
    · next heq =>
      obtain ⟨hvacant, rfl⟩ := World.record_accepted heq
      exact .save_issue hvacant
  | entered a => exact Issuance.sign_audited a.issuance s.keys a.point w
  | answered reply => exact .refl w

theorem Stage.start_audited (s : Service) (bearer : Option String) (maskedPoint : String) (w : World) :
    Audited w (start s bearer maskedPoint w).2 := by
  have h := (Service.admission_upkeep s bearer maskedPoint w).audited
  unfold start
  split
  · next heq => rwa [heq] at h
  · next heq => rwa [heq] at h

namespace Service

theorem tokens_audited (s : Service) (bearer : Option String) (maskedPoint : String) (w : World) :
    Audited w (s.tokens bearer maskedPoint w).2 := by
  have hsteps : Audited w
      ((Stage.start s bearer maskedPoint w).1.finish s (Stage.start s bearer maskedPoint w).2).2 :=
    (((Stage.start_audited s bearer maskedPoint w).trans (Stage.next_audited ..)).trans
      (Stage.next_audited ..)).trans (Stage.next_audited ..)
  rwa [Stage.tokens_eq_stages] at hsteps

theorem verifications_audited (s : Service) (pseudonym : String) (w : World) :
    Audited w (s.verifications pseudonym w).2 := by
  unfold verifications
  split
  · exact .refl w
  · next verification _ =>
    split
    · exact .refl w
    · exact verification.verify_audited pseudonym w

/-- **What a request enters in the books**, whatever it asks for and however it is answered. -/
theorem respond_audited (s : Service) (r : Request) (w : World) : Audited w (s.respond r w).2 := by
  have hanswer : ∀ e, Audited w (s.answer e r w).2 := by
    intro e
    cases e with
    | health => exact .refl w
    | sessionKeys =>
      show Audited w (publish _ (CredentialStore.keySet s.credentials w)).2
      rw [publish_snd]
      exact (CredentialStore.keySet_upkeep s.credentials w).audited
    | anonymousKeys =>
      show Audited w (publish _ (s.keys.keySet w)).2
      rw [publish_snd]
      exact (KeyStore.keySet_upkeep s.keys w).audited
    | tokens =>
      unfold answer
      cases r.readBody readTokenRequest with
      | error response => exact .refl w
      | ok maskedPoint => exact s.tokens_audited r.bearer? maskedPoint w
    | verifications =>
      unfold answer
      cases r.readBody readVerificationRequest with
      | error response => exact .refl w
      | ok pseudonym => exact s.verifications_audited pseudonym w
  unfold respond
  split
  · exact .refl w
  · next e _ =>
    split
    · exact hanswer e
    · exact .refl w

end Service

/-! ## Runs -/

/-- What happens next in a run: a whole request, one step of a request that others may interrupt, a pass over
one table, or a change beside the requests. -/
inductive Turn (s : Service) (limit : VerificationLimit) : World → World → Prop
  | request (w : World) (r : Request) (o : Outside) : Turn s limit w ((s.facing o).respond r w).2
  | start (w : World) (bearer : Option String) (maskedPoint : String) :
      Turn s limit w (Stage.start s bearer maskedPoint w).2
  | token (w : World) (stage : Stage) : Turn s limit w (stage.next s w).2
  | verification (w : World) (verification : Verification) (pseudonym : String)
      (phase : Verification.Phase) : Turn s limit w (phase.next verification pseudonym w).2
  | sweepIssues (w : World) : Turn s limit w w.sweepIssues.2
  | sweepVerifications (w : World) : Turn s limit w (w.sweepVerifications limit).2
  | change (w : World) (c : Change) : Turn s limit w (w.change limit c)

variable {s : Service} {limit : VerificationLimit} {w v : World}

theorem Turn.audited (h : Turn s limit w v) : Audited w v := by
  cases h with
  | request r o => exact (s.facing o).respond_audited r w
  | start bearer maskedPoint => exact Stage.start_audited s bearer maskedPoint w
  | token stage => exact stage.next_audited s w
  | verification verification pseudonym phase => exact phase.next_audited verification pseudonym w
  | sweepIssues => exact .sweepIssues w
  | sweepVerifications => exact .sweepVerifications limit w
  | change c => exact .change limit w c

theorem audited_run (hrun : Relation.ReflTransGen (Turn s limit) w v) : Audited w v := by
  induction hrun with
  | refl => exact .refl w
  | tail _ hturn ih => exact ih.trans hturn.audited

/-- **The books balance.** In every run from empty tables and counters at zero the records counted as saved, less
those counted as deleted, are as many as the table holds, for both tables and whatever fails. No session has two
issue records. A pass over both tables takes and counts what is due in either one unless that table's own deletion
fails. -/
theorem books_balance (hissues : w.issues = {}) (hverifications : w.verifications = {})
    (hcounters : ∀ counter, w.counters.get counter = 0)
    (hrun : Relation.ReflTransGen (Turn s limit) w v) :
    (v.counters.get (.issuance "accepted") : Int) - v.counters.get (.swept "issue_records") =
        v.issues.rows.length ∧
      (v.counters.get (.verifications "verified") : Int) + v.counters.get (.verifications "not_verified") -
        v.counters.get (.swept "verification_records") = v.verifications.rows.length ∧
      (v.issues.rows.map IssueRecord.session).Nodup ∧
      ((v.sweep limit).2.issueBook =
        if v.faults.issueDelete = none then v.issueBook.purge fun row => v.now < row.expiresAt
        else v.issueBook) ∧
      ((v.sweep limit).2.verificationBook =
        if v.faults.verificationDelete = none then
          v.verificationBook.purge fun row => limit.cutoff v.now ≤ row.verifiedAt
        else v.verificationBook) := by
  have haudited := audited_run hrun
  have hstart : w.issueBook.Balanced ∧ w.verificationBook.Balanced := by
    simp [World.issueBook, World.verificationBook, Book.Balanced, hcounters, hissues, hverifications,
      IssueTable.rows, VerificationTable.rows]
  have hbook := hstart.1.entries haudited.issues
  have hbook' := hstart.2.entries haudited.verifications
  simp only [Book.Balanced, World.issueBook, World.verificationBook, LedgerDecision.name,
    VerificationOutcome.name] at hbook hbook'
  exact ⟨by omega, by omega, v.issues.nodup_sessions, sweep_issueBook v, sweep_verificationBook v⟩

/-- The world after one event. -/
def Event.apply (s : Service) (limit : VerificationLimit) (w : World) : Event → World
  | .request r o => ((s.facing o).respond r w).2
  | .change c => w.change limit c

/-- Whole requests and changes, one after the other, are a run. -/
theorem run_events (s : Service) (limit : VerificationLimit) (events : List Event) (w : World) :
    Relation.ReflTransGen (Turn s limit) w (events.foldl (Event.apply s limit) w) := by
  induction events generalizing w with
  | nil => exact .refl
  | cons e events ih =>
    cases e with
    | request r o => exact .head (.request w r o) (ih _)
    | change c => exact .head (.change w c) (ih _)

namespace Sample

/-- An outside that verifies pseudonyms as it is told. -/
def saying (identity : Except String Bool) : Outside := ⟨primitive, fun _ => identity⟩

/-- A session obtains a token. One pseudonym is verified, one is not, one cannot be checked, and the first is
refused when it comes back. When all records are due a pass fails in the issue records, and the second pseudonym
comes back. -/
def shift : List Event :=
  [.request (request "AQ==") outside, .request (verification "p") (saying (.ok true)),
    .request (verification "q") (saying (.ok false)), .request (verification "r") (saying (.error "unknown")),
    .request (verification "p") (saying (.ok true)),
    .change (.faults { issueDelete := some (.unexpected "down") }), .change (.clock 70),
    .change .sweep, .request (verification "q") (saying (.ok true))]

/-- The world after it. -/
def evening : World := shift.foldl (Event.apply full tight) world

set_option maxRecDepth 100000 in
theorem evening_books :
    evening.issueBook = ⟨[⟨"j", 70⟩], 1, 0⟩ ∧ evening.verificationBook = ⟨[⟨"q", 70⟩], 3, 2⟩ := by
  decide +kernel

end Sample

/-- The books after a run with a refusal, failures and a pass over one of the tables. -/
theorem books_balance_evening :
    Sample.world.issues = {} ∧ Sample.world.verifications = {} ∧
      (∀ counter, Sample.world.counters.get counter = 0) ∧
      Relation.ReflTransGen (Turn Sample.full Sample.tight) Sample.world Sample.evening ∧
      Sample.evening.issueBook = ⟨[⟨"j", 70⟩], 1, 0⟩ ∧
      Sample.evening.verificationBook = ⟨[⟨"q", 70⟩], 3, 2⟩ ∧
      (Sample.evening.counters.get (.verifications "verified") : Int) +
        Sample.evening.counters.get (.verifications "not_verified") -
        Sample.evening.counters.get (.swept "verification_records") =
          Sample.evening.verifications.rows.length := by
  have hcounters : ∀ counter, Sample.world.counters.get counter = 0 := fun _ => rfl
  have hrun : Relation.ReflTransGen (Turn Sample.full Sample.tight) Sample.world Sample.evening :=
    run_events Sample.full Sample.tight Sample.shift Sample.world
  have hbalance := books_balance rfl rfl hcounters hrun
  exact ⟨rfl, rfl, hcounters, hrun, Sample.evening_books.1, Sample.evening_books.2, hbalance.2.1⟩

end Http

end BlindMint
