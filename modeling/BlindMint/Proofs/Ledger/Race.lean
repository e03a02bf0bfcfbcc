import BlindMint.Issuance.Ledger
import Mathlib.Data.List.Basic
import Mathlib.Logic.Relation

/-!
# Calls of the ledger at once

A call of the ledger looks the session up and then saves a record, and between the two any other call may
take its steps. So any number of calls may find nothing before the first of them saves. The table decides:
it takes one record for a session and refuses the others, and a refusal is a duplicate. A lookup that misses
a record that is there changes nothing in this, as it only sends its call on to the table.

A run is made of calls that start and take their steps in any order. Beside them the world may change in
everything but the issue records, which are not swept here, and the store works.

## Results

* **`tryIssue_eq_phases`**: the steps without interruption are the ledger's decision.
* `next_cases`: what one step finds and does.
* `Holds.run`: how things stand with a session, along every run.
* **`one_winner`**: of the calls for a session without a record that have been decided exactly one is
  accepted, and its record is the one that is stored; a session that had a record keeps it.
-/

namespace BlindMint.Ledger

/-! ## One call -/

/-- How far a call has come. -/
inductive Phase where
  | started
  /-- The lookup has found nothing. -/
  | unseen
  | decided (outcome : Except StoreError LedgerDecision)

namespace Phase

/-- The next step; none is left once the ledger has decided. -/
def next (record : IssueRecord) (w : World) : Phase → Phase × World
  | started =>
    match w.lookUpSession record.session with
    | .error e => (decided (.error e), w)
    | .ok true => (decided (.ok .duplicate), w)
    | .ok false => (unseen, w)
  | unseen =>
    let (outcome, w) := w.recordSession record
    (decided outcome, w)
  | decided outcome => (decided outcome, w)

/-- All steps without interruption. -/
def finish (record : IssueRecord) (w : World) (phase : Phase) : Phase × World :=
  let (phase, w) := phase.next record w
  phase.next record w

end Phase

/-- The store works: neither lookups nor saves fail, though lookups may miss records. -/
structure Works (w : World) : Prop where
  find : w.faults.issueFind = none
  save : w.faults.issueSave = none

variable {record : IssueRecord} {w v : World} {phase after : Phase}

/-- **The steps without interruption are the ledger's decision.** -/
theorem tryIssue_eq_phases (record : IssueRecord) (w : World) :
    Phase.started.finish record w = (.decided (w.tryIssue record).1, (w.tryIssue record).2) := by
  unfold World.tryIssue
  dsimp only [Phase.finish, Phase.next]
  cases w.lookUpSession record.session with
  | error e => rfl
  | ok found => cases found <;> rfl

theorem lookUpSession_cases (hw : Works w) (session : String) :
    w.lookUpSession session = .ok false ∨
      (w.lookUpSession session = .ok true ∧ w.issues.find session ≠ []) := by
  unfold World.lookUpSession World.findIssues
  rw [hw.find]
  cases w.faults.issueBlind with
  | true => exact .inl rfl
  | false =>
    cases hrows : w.issues.find session with
    | nil => exact .inl (by simp)
    | cons row rows => exact .inr ⟨by simp, by simp⟩

theorem recordSession_cases (hw : Works w) (record : IssueRecord) :
    (w.recordSession record = (.ok .duplicate, w) ∧ w.issues.find record.session ≠ []) ∨
      (w.recordSession record = (.ok .accepted, { w with issues := w.issues.add record }) ∧
        w.issues.find record.session = []) := by
  unfold World.recordSession World.saveIssue
  rw [hw.save, IssueTable.save_eq]
  cases hrows : w.issues.find record.session with
  | nil => exact .inr ⟨by simp, rfl⟩
  | cons row rows => exact .inl ⟨by simp, by simp⟩

/-- **What one step finds and does**: it finds nothing, or a record, or it saves its own where there was
none; a call that has been decided stays as it is. -/
theorem next_cases (hw : Works w) (h : phase.next record w = (after, v)) :
    (phase = .started ∧ after = .unseen ∧ v = w) ∨
    ((∀ outcome, phase ≠ .decided outcome) ∧ after = .decided (.ok .duplicate) ∧ v = w ∧
      w.issues.find record.session ≠ []) ∨
    (phase = .unseen ∧ after = .decided (.ok .accepted) ∧ w.issues.find record.session = [] ∧
      v = { w with issues := w.issues.add record }) ∨
    (after = phase ∧ v = w) := by
  cases phase with
  | started =>
    rcases lookUpSession_cases hw record.session with hmiss | ⟨hfound, hrows⟩
    · simp only [Phase.next, hmiss] at h
      obtain ⟨rfl, rfl⟩ := Prod.mk.inj h
      exact .inl ⟨rfl, rfl, rfl⟩
    · simp only [Phase.next, hfound] at h
      obtain ⟨rfl, rfl⟩ := Prod.mk.inj h
      exact .inr (.inl ⟨nofun, rfl, rfl, hrows⟩)
  | unseen =>
    rcases recordSession_cases hw record with ⟨hrefused, hrows⟩ | ⟨hsaved, hfree⟩
    · simp only [Phase.next, hrefused] at h
      obtain ⟨rfl, rfl⟩ := Prod.mk.inj h
      exact .inr (.inl ⟨nofun, rfl, rfl, hrows⟩)
    · simp only [Phase.next, hsaved] at h
      obtain ⟨rfl, rfl⟩ := Prod.mk.inj h
      exact .inr (.inr (.inl ⟨rfl, rfl, hfree, rfl⟩))
  | decided outcome =>
    obtain ⟨rfl, rfl⟩ := Prod.mk.inj h
    exact .inr (.inr (.inr ⟨rfl, rfl⟩))

/-! ## Any number of calls -/

/-- A call under way, with the record that it would save. -/
structure Call where
  record : IssueRecord
  phase : Phase

/-- The world and the calls that have been started. -/
structure Race where
  world : World
  calls : List Call := []

namespace Race

/-- A call is started. -/
def start (record : IssueRecord) (t : Race) : Race :=
  { t with calls := t.calls ++ [⟨record, .started⟩] }

/-- One call takes its next step. -/
def advance (i : Nat) (t : Race) : Race :=
  match t.calls[i]? with
  | none => t
  | some c =>
    let (phase, world) := c.phase.next c.record t.world
    { world, calls := t.calls.set i { c with phase } }

/-- One step of an interleaved run. -/
inductive Step : Race → Race → Prop
  | start (t : Race) (record : IssueRecord) : Step t (t.start record)
  | advance (t : Race) (i : Nat) : Step t (t.advance i)
  /-- Anything happens to the rest of the world; lookups may begin or cease to miss records. -/
  | beside (t : Race) {v : World} (hissues : v.issues = t.world.issues) (hv : Works v) :
      Step t { t with world := v }

/-- The call of a number is one for a session, and has been decided. -/
def Decides (t : Race) (session : String) (i : Nat) (record : IssueRecord)
    (outcome : Except StoreError LedgerDecision) : Prop :=
  t.calls[i]? = some ⟨record, .decided outcome⟩ ∧ record.session = session

end Race

/-- How things stand with a session of which the table held `rows` at the start. -/
inductive Holds (session : String) (rows : List IssueRecord) (t : Race) : Prop
  /-- It has no record, and no call for it has been decided. -/
  | free (hrows : rows = []) (hfind : t.world.issues.find session = [])
      (hnone : ∀ i record outcome, ¬ t.Decides session i record outcome)
  /-- It had a record before, and every call for it is a duplicate. -/
  | taken (hrows : rows ≠ []) (hfind : t.world.issues.find session = rows)
      (hall : ∀ i record outcome, t.Decides session i record outcome → outcome = .ok .duplicate)
  /-- One call was accepted, and every other one is a duplicate. -/
  | won (hrows : rows = []) (i : Nat) (record : IssueRecord)
      (haccepted : t.Decides session i record (.ok .accepted))
      (hfind : t.world.issues.find session = [record])
      (hothers : ∀ j other outcome, j ≠ i → t.Decides session j other outcome →
        outcome = .ok .duplicate)

variable {session : String} {rows : List IssueRecord} {t : Race}

/-! ## One step -/

/-- A step that keeps the records of a session and the decisions about it keeps how things stand. -/
theorem Holds.of_same (h : Holds session rows t) {u : Race}
    (hfind : u.world.issues.find session = t.world.issues.find session)
    (hcalls : ∀ i record outcome,
      u.Decides session i record outcome ↔ t.Decides session i record outcome) :
    Holds session rows u := by
  cases h with
  | free hrows hfree hnone =>
    exact .free hrows (hfind.trans hfree) fun i record outcome hd =>
      hnone i record outcome ((hcalls i record outcome).mp hd)
  | taken hrows hkept hall =>
    exact .taken hrows (hfind.trans hkept) fun i record outcome hd =>
      hall i record outcome ((hcalls i record outcome).mp hd)
  | won hrows i record haccepted hstored hothers =>
    exact .won hrows i record ((hcalls i record _).mpr haccepted) (hfind.trans hstored)
      fun j other outcome hj hd => hothers j other outcome hj ((hcalls j other outcome).mp hd)

theorem decides_start (t : Race) (record other : IssueRecord) (i : Nat)
    (outcome : Except StoreError LedgerDecision) :
    (t.start record).Decides session i other outcome ↔ t.Decides session i other outcome := by
  unfold Race.Decides Race.start
  refine and_congr_left fun _ => ?_
  rcases Nat.lt_trichotomy i t.calls.length with hlt | rfl | hgt
  · rw [List.getElem?_append_left hlt]
  · simp
  · rw [List.getElem?_eq_none (by simp; omega), List.getElem?_eq_none (by omega)]

/-- After a step of one call, the decisions are those of the other calls and its own. -/
theorem decides_set {i : Nat} {c : Call} (hi : t.calls[i]? = some c) (world : World) (phase : Phase)
    (session : String) (j : Nat) (record : IssueRecord) (outcome : Except StoreError LedgerDecision) :
    Race.Decides { world, calls := t.calls.set i { c with phase } } session j record outcome ↔
      (j = i ∧ c.record = record ∧ record.session = session ∧ phase = .decided outcome) ∨
        (j ≠ i ∧ t.Decides session j record outcome) := by
  have hlt := (List.getElem?_eq_some_iff.mp hi).1
  unfold Race.Decides
  by_cases hji : j = i
  · subst hji
    simp only [List.getElem?_set_self hlt, Option.some.injEq, Call.mk.injEq, ne_eq, not_true_eq_false,
      false_and, or_false, true_and]
    constructor
    · rintro ⟨⟨hrecord, hphase⟩, hsession⟩
      exact ⟨hrecord, hsession, hphase⟩
    · rintro ⟨hrecord, hsession, hphase⟩
      exact ⟨⟨hrecord, hphase⟩, hsession⟩
  · simp [List.getElem?_set_ne (Ne.symm hji), hji]

/-- **A duplicate keeps how things stand**: the table holds a record of its session. -/
theorem Holds.refuse (h : Holds session rows t) {i : Nat} {c : Call} (hi : t.calls[i]? = some c)
    (hphase : ∀ outcome, c.phase ≠ .decided outcome)
    (htaken : t.world.issues.find c.record.session ≠ []) :
    Holds session rows
      { t with calls := t.calls.set i { c with phase := .decided (.ok .duplicate) } } := by
  have hdecides := decides_set hi t.world (.decided (.ok .duplicate)) session
  cases h with
  | free hrows hfree hnone =>
    refine .free hrows hfree fun j record outcome hd => ?_
    rcases (hdecides j record outcome).mp hd with ⟨-, rfl, rfl, -⟩ | ⟨-, hold⟩
    · exact htaken hfree
    · exact hnone j record outcome hold
  | taken hrows hkept hall =>
    refine .taken hrows hkept fun j record outcome hd => ?_
    rcases (hdecides j record outcome).mp hd with ⟨-, -, -, hnew⟩ | ⟨-, hold⟩
    · exact (Phase.decided.inj hnew).symm
    · exact hall j record outcome hold
  | won hrows k record haccepted hstored hothers =>
    have hki : k ≠ i := by
      rintro rfl
      obtain rfl := Option.some.inj (hi.symm.trans haccepted.1)
      exact hphase _ rfl
    refine .won hrows k record ((hdecides k record _).mpr (.inr ⟨hki, haccepted⟩)) hstored
      fun j other outcome hj hd => ?_
    rcases (hdecides j other outcome).mp hd with ⟨-, -, -, hnew⟩ | ⟨-, hold⟩
    · exact (Phase.decided.inj hnew).symm
    · exact hothers j other outcome hj hold

/-- **An acceptance settles its session**: nothing had been decided about it before. -/
theorem Holds.accept (h : Holds session rows t) {i : Nat} {c : Call} (hi : t.calls[i]? = some c)
    (hfree : t.world.issues.find c.record.session = []) :
    Holds session rows
      { world := { t.world with issues := t.world.issues.add c.record },
        calls := t.calls.set i { c with phase := .decided (.ok .accepted) } } := by
  have hdecides := decides_set hi { t.world with issues := t.world.issues.add c.record }
    (.decided (.ok .accepted)) session
  have hfind := IssueTable.find_add t.world.issues c.record session
  by_cases hsession : c.record.session = session
  · subst hsession
    cases h with
    | free hrows _ hnone =>
      refine .won hrows i c.record ((hdecides i c.record _).mpr (.inl ⟨rfl, rfl, rfl, rfl⟩))
        (by simpa using hfind) fun j other outcome hj hd => ?_
      rcases (hdecides j other outcome).mp hd with ⟨hsame, -⟩ | ⟨-, hold⟩
      · exact absurd hsame hj
      · exact absurd hold (hnone j other outcome)
    | taken hrows hkept _ => exact absurd (hkept.symm.trans hfree) hrows
    | won _ _ _ _ hstored _ => cases hstored.symm.trans hfree
  · rw [if_neg (Ne.symm hsession)] at hfind
    refine h.of_same hfind fun j record outcome => ?_
    rw [hdecides j record outcome]
    constructor
    · rintro (⟨-, rfl, hs, -⟩ | ⟨-, hold⟩)
      · exact absurd hs hsession
      · exact hold
    · intro hold
      refine .inr ⟨?_, hold⟩
      rintro rfl
      obtain rfl := Option.some.inj (hi.symm.trans hold.1)
      exact hsession hold.2

/-- **A step of a call keeps how things stand.** -/
theorem Holds.advance (h : Holds session rows t) (hw : Works t.world) (i : Nat) :
    Holds session rows (t.advance i) ∧ Works (t.advance i).world := by
  unfold Race.advance
  cases hi : t.calls[i]? with
  | none => exact ⟨h, hw⟩
  | some c =>
    dsimp only
    cases hnext : c.phase.next c.record t.world with
    | mk phase v =>
      rcases next_cases hw hnext with ⟨hbefore, rfl, rfl⟩ | ⟨hbefore, rfl, rfl, htaken⟩ |
        ⟨-, rfl, hfree, rfl⟩ | ⟨rfl, rfl⟩
      · refine ⟨h.of_same rfl fun j record outcome => ?_, hw⟩
        rw [decides_set hi]
        constructor
        · rintro (⟨-, -, -, hnew⟩ | ⟨-, hold⟩)
          · cases hnew
          · exact hold
        · intro hold
          refine .inr ⟨?_, hold⟩
          rintro rfl
          obtain rfl := Option.some.inj (hi.symm.trans hold.1)
          cases hbefore
      · exact ⟨h.refuse hi hbefore htaken, hw⟩
      · exact ⟨h.accept hi hfree, ⟨hw.find, hw.save⟩⟩
      · have hlt := (List.getElem?_eq_some_iff.mp hi).1
        have hsame : t.calls.set i c = t.calls := by
          rw [← (List.getElem?_eq_some_iff.mp hi).2]
          exact List.set_getElem_self hlt
        exact ⟨h.of_same rfl fun j record outcome => by rw [hsame], hw⟩

/-! ## Whole runs -/

/-- **How things stand with a session, along every run.** -/
theorem Holds.run (hw : Works w) (hrun : Relation.ReflTransGen Race.Step { world := w } t)
    (session : String) : Holds session (w.issues.find session) t ∧ Works t.world := by
  induction hrun with
  | refl =>
    refine ⟨?_, hw⟩
    have hnone : ∀ i record outcome,
        ¬ Race.Decides { world := w } session i record outcome := fun i record outcome hd => by
      cases hd.1
    by_cases hrows : w.issues.find session = []
    · exact .free hrows hrows hnone
    · exact .taken hrows rfl fun i record outcome hd => absurd hd (hnone i record outcome)
  | tail _ hstep ih =>
    obtain ⟨hholds, hworks⟩ := ih
    cases hstep with
    | start record =>
      exact ⟨hholds.of_same rfl fun i other outcome => decides_start _ record other i outcome, hworks⟩
    | advance i => exact hholds.advance hworks i
    | beside hissues hv =>
      exact ⟨hholds.of_same (by rw [hissues]) fun _ _ _ => Iff.rfl, hv⟩

/-- **Exactly one winner.** If a session had no record at the start and some call for it has been decided, then
one call for it is accepted, the table holds that call's record, and every other call for it that has been
decided is a duplicate. A session that had a record keeps it, and every call for it is a duplicate. -/
theorem one_winner (hw : Works w) (hrun : Relation.ReflTransGen Race.Step { world := w } t)
    (session : String) :
    (w.issues.find session = [] →
      (∃ c ∈ t.calls, c.record.session = session ∧ ∃ outcome, c.phase = .decided outcome) →
      ∃ (i : Nat) (c : Call), t.calls[i]? = some c ∧ c.record.session = session ∧
        c.phase = .decided (.ok .accepted) ∧
        t.world.issues.find session = [c.record] ∧
        ∀ (j : Nat) (d : Call) (outcome : Except StoreError LedgerDecision), j ≠ i →
          t.calls[j]? = some d → d.record.session = session → d.phase = .decided outcome →
          outcome = .ok .duplicate) ∧
    (w.issues.find session ≠ [] →
      t.world.issues.find session = w.issues.find session ∧
        ∀ c ∈ t.calls, c.record.session = session → ∀ outcome, c.phase = .decided outcome →
          outcome = .ok .duplicate) := by
  have hdecides : ∀ {i : Nat} {c : Call} {outcome : Except StoreError LedgerDecision},
      t.calls[i]? = some c → c.record.session = session → c.phase = .decided outcome →
      t.Decides session i c.record outcome := fun hi hsession hphase => ⟨hphase ▸ hi, hsession⟩
  cases (Holds.run hw hrun session).1 with
  | free hrows hfree hnone =>
    refine ⟨fun _ hsome => ?_, fun htaken => absurd hrows htaken⟩
    obtain ⟨c, hc, hsession, outcome, hphase⟩ := hsome
    obtain ⟨i, hi⟩ := List.mem_iff_getElem?.mp hc
    exact absurd (hdecides hi hsession hphase) (hnone i c.record outcome)
  | taken hrows hkept hall =>
    refine ⟨fun hfree => absurd hfree hrows, fun _ => ⟨hkept, fun c hc hsession outcome hphase => ?_⟩⟩
    obtain ⟨i, hi⟩ := List.mem_iff_getElem?.mp hc
    exact hall i c.record outcome (hdecides hi hsession hphase)
  | won hrows i record haccepted hstored hothers =>
    refine ⟨fun _ _ => ⟨i, ⟨record, .decided (.ok .accepted)⟩, haccepted.1, haccepted.2, rfl, hstored, ?_⟩,
      fun htaken => absurd hrows htaken⟩
    intro j d outcome hj hd hsession hphase
    exact hothers j d.record outcome hj (hdecides hd hsession hphase)

namespace Sample

/-- A world in which the session "old" has a record. -/
def world : World := { now := 0, locator := .shelf {}, issues := IssueTable.add {} ⟨"old", 5⟩ }

/-- Two calls for the session "new" find nothing, and a third one, for "old", misses the record that is there.
Then the second one saves its record, and the other two are refused by the table. -/
def contest : Race :=
  let started := ((({ world } : Race).start ⟨"new", 10⟩).start ⟨"new", 20⟩).start ⟨"old", 30⟩
  let looked := (started.advance 0).advance 1
  let blind := { looked with world := { looked.world with faults := { issueBlind := true } } }
  (((blind.advance 2).advance 1).advance 0).advance 2

theorem contest_calls : contest.calls =
    [⟨⟨"new", 10⟩, .decided (.ok .duplicate)⟩, ⟨⟨"new", 20⟩, .decided (.ok .accepted)⟩,
      ⟨⟨"old", 30⟩, .decided (.ok .duplicate)⟩] := by
  rfl

theorem contest_run : Relation.ReflTransGen Race.Step { world } contest := by
  let started := ((({ world } : Race).start ⟨"new", 10⟩).start ⟨"new", 20⟩).start ⟨"old", 30⟩
  have hlooked : Relation.ReflTransGen Race.Step { world } ((started.advance 0).advance 1) :=
    .tail (.tail (.tail (.tail (.single (.start _ _)) (.start _ _)) (.start _ _)) (.advance _ 0))
      (.advance _ 1)
  have hblind := hlooked.tail (.beside _ (v := { ((started.advance 0).advance 1).world with
    faults := { issueBlind := true } }) rfl ⟨rfl, rfl⟩)
  exact .tail (.tail (.tail (.tail hblind (.advance _ 2)) (.advance _ 1)) (.advance _ 0)) (.advance _ 2)

end Sample

/-- Of the two calls for "new" one is accepted, though both found nothing; the record of "old" stays. -/
theorem one_winner_contest :
    Works Sample.world ∧ Relation.ReflTransGen Race.Step { world := Sample.world } Sample.contest ∧
      (∃ (i : Nat) (c : Call), Sample.contest.calls[i]? = some c ∧ c.record.session = "new" ∧
        c.phase = .decided (.ok .accepted) ∧
        Sample.contest.world.issues.find "new" = [c.record]) ∧
      Sample.contest.world.issues.find "old" = [⟨"old", 5⟩] := by
  have hw : Works Sample.world := ⟨rfl, rfl⟩
  have hnew := (one_winner hw Sample.contest_run "new").1 (by decide)
    ⟨⟨⟨"new", 20⟩, .decided (.ok .accepted)⟩, by rw [Sample.contest_calls]; simp, rfl, _, rfl⟩
  have hold := (one_winner hw Sample.contest_run "old").2 (by decide)
  obtain ⟨i, c, hi, hsession, hphase, hstored, -⟩ := hnew
  exact ⟨hw, Sample.contest_run, ⟨i, c, hi, hsession, hphase, hstored⟩, hold.1⟩

end BlindMint.Ledger
