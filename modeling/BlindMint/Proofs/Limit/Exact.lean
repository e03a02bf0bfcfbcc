import BlindMint.Proofs.Limit.Phase
import Mathlib.Logic.Relation

/-!
# The limit without concurrency

Verifications come one after the other, with sweeps, clock moves and other changes between them; the clock
does not go back and the store works. Then the limit is exact: a verification is refused if and only if the
window that ends with it holds as many recorded attempts as the limit allows, and recorded are exactly the
attempts of which the identity check has said something.

This is a statement about the history of the run. The table holds less: the sweeps take records, and the limit
looks at what is left. But they take only what no later window holds, so the table and the history agree on
every window that ends now or later.

What the identity check says may be another thing each time.

## Results

* `verify_cases`: what a verification does.
* `Exact.run`: along a run, the table holds what can still count, and every verification was admitted as the
  history demands.
* **`admission_exact`**: which verifications are refused, which ask the identity check and which are recorded.
-/

namespace BlindMint.Verification

variable {limit : VerificationLimit} {s : Verification} {pseudonym : String} {w : World}

/-! ## One verification -/

/-- The store works: neither lookups nor saves of verification records fail. -/
structure Works (w : World) : Prop where
  find : w.faults.verificationFind = none
  save : w.faults.verificationSave = none

theorem reachesLimit_eq (hw : Works w) (limit : VerificationLimit) (pseudonym : String) :
    w.reachesLimit limit pseudonym =
      .ok (decide (limit.max.toNat ≤ (w.verifications.find pseudonym (limit.cutoff w.now)).length)) := by
  have hfree : w.reachesLimit limit pseudonym = .ok false ↔ _ := reachesLimit_eq_false_iff hw.find
  by_cases hfull : limit.max.toNat ≤ (w.verifications.find pseudonym (limit.cutoff w.now)).length
  · rw [decide_eq_true hfull]
    have hnot : w.reachesLimit limit pseudonym ≠ .ok false := fun h =>
      Nat.not_lt.mpr hfull (hfree.mp h)
    unfold World.reachesLimit World.findVerifications at hnot ⊢
    rw [hw.find] at hnot ⊢
    simpa using hnot
  · rw [decide_eq_false hfull]
    exact hfree.mpr (Nat.not_le.mp hfull)

/-- The world after an attempt that was recorded. -/
def recorded (s : Verification) (pseudonym : String) (w : World) : World :=
  { (s.ask pseudonym w).2 with verifications := w.verifications.save ⟨pseudonym, w.now⟩ }

/-- **What a verification does**: it is refused, or the identity check fails, or it answers and the attempt is
recorded. -/
theorem verify_cases (hw : Works w) (s : Verification) (pseudonym : String) :
    let held := (w.verifications.find pseudonym (s.limit.cutoff w.now)).length
    (s.limit.max.toNat ≤ held ∧
      s.verify pseudonym w = (.ok .limitReached, w.count (.verifications "limit_reached") 1)) ∨
    (held < s.limit.max.toNat ∧ ∃ reason, s.check pseudonym = .error reason ∧
      s.verify pseudonym w = (.error (.identityCheck reason), (s.ask pseudonym w).2)) ∨
    (held < s.limit.max.toNat ∧ ∃ verified, s.check pseudonym = .ok verified ∧
      ∃ counter, s.verify pseudonym w =
        (.ok (if verified then .verified else .notVerified),
          (s.recorded pseudonym w).count counter 1)) := by
  intro held
  have hreach := reachesLimit_eq hw s.limit pseudonym
  by_cases hfull : s.limit.max.toNat ≤ held
  · rw [decide_eq_true hfull] at hreach
    exact .inl ⟨hfull, verify_of_limitReached hreach⟩
  · rw [decide_eq_false hfull] at hreach
    have hfree := Nat.not_le.mp hfull
    cases hcheck : s.check pseudonym with
    | error reason =>
      refine .inr (.inl ⟨hfree, reason, rfl, ?_⟩)
      simp only [verify, judge, hreach, attempt, ask, hcheck]
    | ok verified =>
      let outcome : VerificationOutcome := if verified then .verified else .notVerified
      refine .inr (.inr ⟨hfree, verified, rfl, .verifications outcome.name, ?_⟩)
      simp only [verify, judge, hreach, attempt, ask, hcheck, World.recordAttempt,
        World.saveVerification, hw.save, recorded]
      rfl

/-! ## Many verifications -/

/-- A verification that has been made. -/
structure Answered where
  pseudonym : String
  time : Instant
  /-- What the identity check says if it is asked. -/
  identity : Except String Bool
  outcome : Except VerificationError VerificationOutcome
  /-- How often the identity check was asked. -/
  asked : Nat
  /-- The records that were added to the table. -/
  saved : List VerificationRecord

/-- Whether the identity check was asked and has answered. -/
def Answered.isCounted (a : Answered) : Bool :=
  a.asked != 0 && a.identity.isOk

/-- A run so far: the world that it has led to, and the verifications in their order. -/
structure History where
  world : World
  answered : List Answered := []

namespace History

/-- The run after one more verification, of which the identity check says `identity` if it is asked. -/
def verify (limit : VerificationLimit) (pseudonym : String) (identity : Except String Bool)
    (h : History) : History :=
  let (outcome, world) := Verification.verify ⟨limit, fun _ => identity⟩ pseudonym h.world
  { world,
    answered := h.answered ++ [{
      pseudonym, time := h.world.now, identity, outcome,
      asked := world.activity.identityChecks - h.world.activity.identityChecks,
      saved := h.world.verifications.added world.verifications }] }

/-- One step of a run; the sweeper uses the limit's window. -/
inductive Step (limit : VerificationLimit) : History → History → Prop
  | verify (h : History) (pseudonym : String) (identity : Except String Bool) :
      Step limit h (h.verify limit pseudonym identity)
  | change (h : History) (c : Change) (hf : h.world.now ≤ (h.world.change limit c).now)
      (hw : Works (h.world.change limit c)) :
      Step limit h { h with world := h.world.change limit c }

/-- All records that were added to the table during the run, swept or not. -/
def log (h : History) : List VerificationRecord :=
  h.answered.flatMap (·.saved)

end History

/-- How a verification is admitted after earlier ones. -/
structure Admits (limit : VerificationLimit) (earlier : List Answered) (a : Answered) : Prop where
  /-- It is refused iff the window holds as many recorded attempts as the limit allows. -/
  refused_iff : a.outcome = .ok .limitReached ↔
    limit.max.toNat ≤ earlier.countP fun b =>
      b.isCounted && (b.pseudonym == a.pseudonym && a.time.earlier limit.window.capped ≤ b.time)
  /-- A refused one does not ask the identity check. -/
  refused : a.outcome = .ok .limitReached → a.asked = 0
  /-- Any other one asks once, and the identity check decides. -/
  answer : a.outcome ≠ .ok .limitReached → a.asked = 1 ∧ a.outcome =
    match a.identity with
    | .error reason => .error (.identityCheck reason)
    | .ok true => .ok .verified
    | .ok false => .ok .notVerified
  /-- An attempt is recorded iff the identity check was asked and has answered. -/
  saved : a.saved = if a.isCounted then [⟨a.pseudonym, a.time⟩] else []

/-- What holds along a run. -/
structure Exact (limit : VerificationLimit) (h : History) : Prop where
  works : Works h.world
  /-- The table holds what can still count. -/
  kept : ∀ p since, limit.cutoff h.world.now ≤ since →
    h.world.verifications.find p since = VerificationTable.recordsFrom p since h.log
  admits : ∀ (n : Nat) (a : Answered), h.answered[n]? = some a →
    Admits limit (h.answered.take n) a

variable {h : History}

/-! ## One step -/

/-- The records of a pseudonym from a time on are the attempts that were counted. -/
theorem length_recordsFrom_log (hsaved : ∀ a ∈ h.answered,
    a.saved = if a.isCounted then [⟨a.pseudonym, a.time⟩] else []) (p : String) (since : Instant) :
    (VerificationTable.recordsFrom p since h.log).length =
      h.answered.countP fun a => a.isCounted && (a.pseudonym == p && since ≤ a.time) := by
  obtain ⟨world, answered⟩ := h
  unfold History.log VerificationTable.recordsFrom
  rw [← List.countP_eq_length_filter]
  dsimp only at hsaved ⊢
  clear world
  induction answered with
  | nil => rfl
  | cons a answered ih =>
    have hfirst := hsaved a List.mem_cons_self
    have hrest := ih fun b hb => hsaved b (List.mem_cons_of_mem a hb)
    rw [List.flatMap_cons, List.countP_append, hrest, List.countP_cons, hfirst, Nat.add_comm]
    congr 1
    cases a.isCounted <;> simp

theorem Exact.saved (hi : Exact limit h) : ∀ a ∈ h.answered,
    a.saved = if a.isCounted then [⟨a.pseudonym, a.time⟩] else [] := by
  intro a ha
  obtain ⟨n, hn⟩ := List.mem_iff_getElem?.mp ha
  exact (hi.admits n a hn).saved

/-- How many records of a pseudonym the table holds in the present window. -/
theorem Exact.length_find (hi : Exact limit h) (p : String) :
    (h.world.verifications.find p (limit.cutoff h.world.now)).length =
      h.answered.countP fun a =>
        a.isCounted && (a.pseudonym == p && h.world.now.earlier limit.window.capped ≤ a.time) := by
  rw [hi.kept p _ (Int64.le_refl _), length_recordsFrom_log hi.saved]
  rfl

/-- A verification that is admitted as the history demands may be added to it. -/
theorem Exact.extend (hi : Exact limit h) {world : World} {a : Answered} (hw : Works world)
    (hnow : world.now = h.world.now)
    (hfind : ∀ p since, world.verifications.find p since =
      h.world.verifications.find p since ++ VerificationTable.recordsFrom p since a.saved)
    (ha : Admits limit h.answered a) :
    Exact limit { world, answered := h.answered ++ [a] } where
  works := hw
  kept p since hsince := by
    rw [hnow] at hsince
    rw [hfind, hi.kept p since hsince, ← VerificationTable.recordsFrom_append]
    simp [History.log]
  admits n b hb := by
    rcases Nat.lt_trichotomy n h.answered.length with hlt | rfl | hgt
    · rw [List.getElem?_append_left hlt] at hb
      rw [List.take_append_of_le_length (Nat.le_of_lt hlt)]
      exact hi.admits n b hb
    · rw [List.getElem?_append_right (Nat.le_refl _)] at hb
      obtain rfl : a = b := by simpa using hb
      rw [List.take_left]
      exact ha
    · rw [List.getElem?_eq_none (by simp; omega)] at hb
      cases hb

/-- **A verification keeps what holds along a run.** -/
theorem Exact.verify (hi : Exact limit h) (pseudonym : String) (identity : Except String Bool) :
    Exact limit (h.verify limit pseudonym identity) := by
  have hheld := hi.length_find pseudonym
  unfold History.verify
  rcases verify_cases hi.works ⟨limit, fun _ => identity⟩ pseudonym with
    ⟨hfull, hverify⟩ | ⟨hfree, reason, hcheck, hverify⟩ | ⟨hfree, verified, hcheck, counter, hverify⟩
  · rw [hheld] at hfull
    rw [hverify]
    refine hi.extend ⟨hi.works.find, hi.works.save⟩ rfl (fun p since => ?_) ⟨?_, ?_, ?_, ?_⟩
    · simp [World.count, VerificationTable.added_self, VerificationTable.recordsFrom]
    · exact iff_of_true rfl hfull
    · exact fun _ => Nat.sub_self _
    · exact fun hne => absurd rfl hne
    · simp [World.count, Answered.isCounted, VerificationTable.added_self]
  · rw [hheld] at hfree
    obtain rfl : identity = .error reason := hcheck
    rw [hverify]
    refine hi.extend ⟨hi.works.find, hi.works.save⟩ rfl (fun p since => ?_) ⟨?_, ?_, ?_, ?_⟩
    · simp [ask, VerificationTable.added_self, VerificationTable.recordsFrom]
    · exact iff_of_false (by simp) (Nat.not_le.mpr hfree)
    · intro hrefused
      cases hrefused
    · exact fun _ => ⟨Nat.add_sub_cancel_left _ _, rfl⟩
    · simp [ask, Answered.isCounted, Except.isOk, Except.toBool, VerificationTable.added_self]
  · rw [hheld] at hfree
    obtain rfl : identity = .ok verified := hcheck
    rw [hverify]
    refine hi.extend ⟨hi.works.find, hi.works.save⟩ rfl (fun p since => ?_) ⟨?_, ?_, ?_, ?_⟩
    · simp only [recorded, World.count, VerificationTable.added_save]
      exact VerificationTable.find_save_eq_append ..
    · exact iff_of_false (by cases verified <;> simp) (Nat.not_le.mpr hfree)
    · intro hrefused
      cases verified <;> cases hrefused
    · intro _
      refine ⟨Nat.add_sub_cancel_left _ _, ?_⟩
      cases verified <;> rfl
    · simp [recorded, World.count, ask, Answered.isCounted, Except.isOk, Except.toBool,
        VerificationTable.added_save]

theorem Exact.change (hi : Exact limit h) {c : Change}
    (hf : h.world.now ≤ (h.world.change limit c).now) (hw : Works (h.world.change limit c)) :
    Exact limit { h with world := h.world.change limit c } where
  works := hw
  kept p since hsince := by
    have hearlier := Int64.le_trans (cutoff_mono limit hf) hsince
    exact (find_verifications_change hearlier p c).trans (hi.kept p since hearlier)
  admits := hi.admits

/-! ## Whole runs -/

theorem Exact.run (hw : Works w) (hempty : w.verifications = {})
    (hrun : Relation.ReflTransGen (History.Step limit) { world := w } h) : Exact limit h := by
  induction hrun with
  | refl =>
    refine ⟨hw, fun p since _ => ?_, fun n a ha => (by cases ha)⟩
    show w.verifications.find p since = _
    rw [hempty]
    rfl
  | tail _ hstep ih =>
    cases hstep with
    | verify pseudonym identity => exact ih.verify pseudonym identity
    | change c hf hw => exact ih.change hf hw

/-- **Exact admission.** A verification is refused exactly when the window that ends with it holds as many
recorded attempts of its pseudonym as the limit allows. Recorded are exactly the attempts of which the
identity check said yes or no: not those that were refused, which do not ask it, and not those of which it
could say nothing. -/
theorem admission_exact (hw : Works w) (hempty : w.verifications = {})
    (hrun : Relation.ReflTransGen (History.Step limit) { world := w } h)
    (n : Nat) (a : Answered) (ha : h.answered[n]? = some a) :
    (a.outcome = .ok .limitReached ↔
      limit.max.toNat ≤ (h.answered.take n).countP fun b =>
        b.isCounted && (b.pseudonym == a.pseudonym && a.time.earlier limit.window.capped ≤ b.time)) ∧
    (a.outcome = .ok .limitReached → a.asked = 0) ∧
    (a.outcome ≠ .ok .limitReached → a.asked = 1 ∧ a.outcome =
      match a.identity with
      | .error reason => .error (.identityCheck reason)
      | .ok true => .ok .verified
      | .ok false => .ok .notVerified) ∧
    a.saved = if a.asked ≠ 0 ∧ a.identity.isOk then [⟨a.pseudonym, a.time⟩] else [] := by
  have hadmits := (Exact.run hw hempty hrun).admits n a ha
  refine ⟨hadmits.refused_iff, hadmits.refused, hadmits.answer, ?_⟩
  simpa [Answered.isCounted] using hadmits.saved

namespace Sample

/-- One attempt within a minute. -/
def strict : VerificationLimit := { max := 1, window := 60 }

def world : World := { now := 0, locator := .shelf {} }

/-- A verification at instant zero is recorded, and two more are refused, the second of them a minute later and
after a sweep. One second later still the sweeper takes the record; the identity check fails, and then it
answers. -/
def course : History :=
  let first := (({ world } : History).verify strict "p" (.ok false)).verify strict "p" (.ok true)
  let late := { first with world := first.world.change strict (.clock 60) }
  let second := { late with world := late.world.change strict .sweep }.verify strict "p" (.ok true)
  let later := { second with world := second.world.change strict (.clock 61) }
  let free := { later with world := later.world.change strict .sweep }
  (free.verify strict "p" (.error "offline")).verify strict "p" (.ok true)

theorem course_answered :
    course.answered.map (fun a => (a.time, a.outcome, a.asked, a.saved)) =
      [(0, .ok .notVerified, 1, [⟨"p", 0⟩]), (0, .ok .limitReached, 0, []),
        (60, .ok .limitReached, 0, []), (61, .error (.identityCheck "offline"), 1, []),
        (61, .ok .verified, 1, [⟨"p", 61⟩])] := by
  rfl

theorem course_run : Relation.ReflTransGen (History.Step strict) { world } course := by
  have hfirst : Relation.ReflTransGen (History.Step strict) { world }
      ((({ world } : History).verify strict "p" (.ok false)).verify strict "p" (.ok true)) :=
    .tail (.single (.verify _ _ _)) (.verify _ _ _)
  have hsecond := ((hfirst.tail (.change _ (.clock 60) (by decide) ⟨rfl, rfl⟩)).tail
    (.change _ .sweep (by decide) ⟨rfl, rfl⟩)).tail (.verify _ "p" (.ok true))
  have hfree := (hsecond.tail (.change _ (.clock 61) (by decide) ⟨rfl, rfl⟩)).tail
    (.change _ .sweep (by decide) ⟨rfl, rfl⟩)
  exact (hfree.tail (.verify _ "p" (.error "offline"))).tail (.verify _ "p" (.ok true))

end Sample

/-- The run, in which the third verification is refused because of the first one, a minute before, and does not
ask the identity check. -/
theorem admission_exact_boundary :
    Works Sample.world ∧ Sample.world.verifications = {} ∧
      Relation.ReflTransGen (History.Step Sample.strict) { world := Sample.world } Sample.course ∧
      Sample.course.answered.map (fun a => (a.time, a.outcome, a.asked, a.saved)) =
        [(0, .ok .notVerified, 1, [⟨"p", 0⟩]), (0, .ok .limitReached, 0, []),
          (60, .ok .limitReached, 0, []), (61, .error (.identityCheck "offline"), 1, []),
          (61, .ok .verified, 1, [⟨"p", 61⟩])] ∧
      ∃ a, Sample.course.answered[2]? = some a ∧ a.outcome = .ok .limitReached ∧
        Sample.strict.max.toNat ≤ (Sample.course.answered.take 2).countP (fun b =>
          b.isCounted && (b.pseudonym == a.pseudonym &&
            a.time.earlier Sample.strict.window.capped ≤ b.time)) ∧
        a.asked = 0 := by
  have hw : Works Sample.world := ⟨rfl, rfl⟩
  have ha : ∃ a, Sample.course.answered[2]? = some a ∧ a.outcome = .ok .limitReached := ⟨_, rfl, rfl⟩
  obtain ⟨a, ha, hrefused⟩ := ha
  have hexact := admission_exact hw rfl Sample.course_run 2 a ha
  exact ⟨hw, rfl, Sample.course_run, Sample.course_answered, a, ha, hrefused, hexact.1.mp hrefused,
    hexact.2.1 hrefused⟩

end BlindMint.Verification
