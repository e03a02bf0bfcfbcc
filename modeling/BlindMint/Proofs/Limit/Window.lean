import BlindMint.Proofs.Limit.Phase
import Mathlib.Logic.Relation

/-!
# The limit under concurrency

Any number of verifications, sweeps, clock moves and other changes take their steps in any order; the clock
does not go back. Looking at the limit and recording the attempt are different steps, so several
verifications of one pseudonym may pass the limit before any of them records. What the identity check says may be
another thing at every step.

A window of the limit's length then holds at most one attempt less than the limit allows, and one for each
verification that was pending at once. The argument looks at windows that are still open: such a window
holds what was recorded in it so far, and what is pending may still be added. A verification that passes the
limit sees everything recorded in any open window, because no sweep has taken it.

## Results

* `Bounded.run`: recorded and pending attempts of every open window stay within the bound.
* **`window_bound`**: with at most `k` pending at once, a window holds at most `max + k - 1` attempts, and
  some run attains this.
-/

namespace BlindMint.Verification

/-- A verification under way. -/
structure Call where
  pseudonym : String
  phase : Phase

/-- The world, the verifications that have been started, and all attempts recorded since, swept or not. -/
structure Crowd where
  world : World
  calls : List Call := []
  log : List VerificationRecord := []

namespace Crowd

/-- A verification is started. -/
def start (pseudonym : String) (t : Crowd) : Crowd :=
  { t with calls := t.calls ++ [⟨pseudonym, .started⟩] }

/-- One verification takes its next step, of which the identity check says `identity` if it is asked. What the step
adds to the records is logged. -/
def advance (limit : VerificationLimit) (i : Nat) (identity : Except String Bool) (t : Crowd) : Crowd :=
  match t.calls[i]? with
  | none => t
  | some c =>
    let (phase, world) := c.phase.next ⟨limit, fun _ => identity⟩ c.pseudonym t.world
    { world,
      calls := t.calls.set i { c with phase },
      log := t.log ++ t.world.verifications.added world.verifications }

/-- One step of an interleaved run; the sweeper uses the limit's window. -/
inductive Step (limit : VerificationLimit) : Crowd → Crowd → Prop
  | start (t : Crowd) (pseudonym : String) : Step limit t (t.start pseudonym)
  | advance (t : Crowd) (i : Nat) (identity : Except String Bool) :
      Step limit t (t.advance limit i identity)
  | change (t : Crowd) (c : Change) (hf : t.world.now ≤ (t.world.change limit c).now) :
      Step limit t { t with world := t.world.change limit c }

/-- How many verifications of a pseudonym are pending. -/
def pending (p : String) (t : Crowd) : Nat :=
  t.calls.countP fun c => c.pseudonym == p && c.phase.isPending

/-- How many attempts of a pseudonym were recorded in the window that starts at `a`. -/
def inWindow (l : VerificationLimit) (p : String) (a : Int) (t : Crowd) : Nat :=
  t.log.countP fun row => row.pseudonym == p &&
    (decide (a ≤ row.verifiedAt.toInt) && decide (row.verifiedAt.toInt ≤ a + l.window.capped.toInt))

end Crowd

/-- What holds along a run in which at most `k` verifications of a pseudonym are pending at once. -/
structure Bounded (limit : VerificationLimit) (p : String) (k : Nat) (t : Crowd) : Prop where
  /-- What was recorded in the present window or after its start is still there. -/
  kept : ∀ since, limit.cutoff t.world.now ≤ since →
    (VerificationTable.recordsFrom p since t.log).Sublist (t.world.verifications.find p since)
  /-- An open window has room for what is pending. -/
  opened : ∀ a, t.world.now.toInt ≤ a + limit.window.capped.toInt →
    t.inWindow limit p a + t.pending p ≤ limit.max.toNat + k - 1
  closed : ∀ a, t.inWindow limit p a ≤ limit.max.toNat + k - 1

variable {limit : VerificationLimit} {p : String} {k : Nat} {t : Crowd}

/-! ## Counting -/

/-- A window that is still open holds no more than the present window does. -/
theorem inWindow_le_length {a : Int}
    (ha : t.world.now.toInt ≤ a + limit.window.capped.toInt) :
    t.inWindow limit p a ≤ (VerificationTable.recordsFrom p (limit.cutoff t.world.now) t.log).length := by
  unfold Crowd.inWindow VerificationTable.recordsFrom
  rw [← List.countP_eq_length_filter]
  refine List.countP_mono_left fun row hrow hin => ?_
  simp only [Bool.and_eq_true, decide_eq_true_eq] at hin ⊢
  obtain ⟨hp, hafter, -⟩ := hin
  refine ⟨hp, (cutoff_le_iff _ _ _).mpr ?_⟩
  omega

theorem inWindow_congr (l : VerificationLimit) (p : String) {t u : Crowd} (h : u.log = t.log) (a : Int) :
    u.inWindow l p a = t.inWindow l p a := by
  unfold Crowd.inWindow
  rw [h]

theorem inWindow_append (l : VerificationLimit) (p : String) (a : Int) {t u : Crowd}
    {row : VerificationRecord} (h : u.log = t.log ++ [row]) :
    u.inWindow l p a = t.inWindow l p a +
      if row.pseudonym = p ∧ a ≤ row.verifiedAt.toInt ∧
        row.verifiedAt.toInt ≤ a + l.window.capped.toInt then 1 else 0 := by
  unfold Crowd.inWindow
  rw [h, List.countP_append, List.countP_singleton]
  simp only [Bool.and_eq_true, decide_eq_true_eq, beq_iff_eq]

theorem pending_set {i : Nat} {c : Call} (hi : t.calls[i]? = some c) (phase : Phase) (world : World)
    (log : List VerificationRecord) :
    Crowd.pending p { world, calls := t.calls.set i { c with phase }, log } +
        (if c.pseudonym = p ∧ c.phase.isPending = true then 1 else 0) =
      t.pending p + if c.pseudonym = p ∧ phase.isPending = true then 1 else 0 := by
  obtain ⟨hlt, hc⟩ := List.getElem?_eq_some_iff.mp hi
  have hpos : (if c.pseudonym = p ∧ c.phase.isPending = true then 1 else 0) ≤ t.pending p := by
    split
    · next hp =>
      refine List.one_le_countP_iff.mpr ⟨c, List.mem_of_getElem? hi, ?_⟩
      simpa using hp
    · exact Nat.zero_le _
  unfold Crowd.pending at hpos ⊢
  rw [List.countP_set hlt, hc]
  simp only [Bool.and_eq_true, beq_iff_eq]
  omega

/-! ## One step -/

theorem Bounded.start (h : Bounded limit p k t) (pseudonym : String) :
    Bounded limit p k (t.start pseudonym) := by
  have hpending : (t.start pseudonym).pending p = t.pending p := by
    simp [Crowd.pending, Crowd.start, Phase.isPending]
  refine ⟨h.kept, fun a ha => ?_, h.closed⟩
  rw [hpending]
  exact h.opened a ha

theorem Bounded.change (h : Bounded limit p k t) {c : Change}
    (hf : t.world.now ≤ (t.world.change limit c).now) :
    Bounded limit p k { t with world := t.world.change limit c } where
  kept since hsince := by
    have hearlier := Int64.le_trans (cutoff_mono limit hf) hsince
    rw [find_verifications_change hearlier]
    exact h.kept since hearlier
  opened a ha := h.opened a (Int.le_trans (Int64.le_iff_toInt_le.mp hf) ha)
  closed := h.closed

/-- Passing the limit adds a pending verification to windows that hold less than the limit allows. -/
theorem Bounded.pass (h : Bounded limit p k t) {u : Crowd} {pseudonym : String}
    (hfree : t.world.reachesLimit limit pseudonym = .ok false) (hworld : u.world = t.world)
    (hlog : u.log = t.log) (hk : u.pending p ≤ k)
    (hpending : u.pending p = t.pending p + if pseudonym = p then 1 else 0) : Bounded limit p k u := by
  have hin := inWindow_congr limit p hlog
  refine ⟨fun since hsince => ?_, fun a ha => ?_, fun a => ?_⟩
  · rw [hworld] at hsince ⊢
    rw [hlog]
    exact h.kept since hsince
  · rw [hworld] at ha
    rw [hin]
    by_cases hp : pseudonym = p
    · subst hp
      have hseen := (h.kept _ (Int64.le_refl _)).length_le
      have hroom := length_of_reachesLimit hfree
      have hwindow := inWindow_le_length (p := pseudonym) ha
      omega
    · rw [hpending, if_neg hp]
      exact h.opened a ha
  · rw [hin]
    exact h.closed a

/-- Recording an attempt turns a pending verification into a recorded one. -/
theorem Bounded.record (h : Bounded limit p k t) {u : Crowd} {pseudonym : String}
    (hnow : u.world.now = t.world.now)
    (htable : u.world.verifications = t.world.verifications.save ⟨pseudonym, t.world.now⟩)
    (hlog : u.log = t.log ++ [⟨pseudonym, t.world.now⟩])
    (hpending : u.pending p + (if pseudonym = p then 1 else 0) = t.pending p) : Bounded limit p k u := by
  have hin := fun a => inWindow_append limit p a hlog
  refine ⟨fun since hsince => ?_, fun a ha => ?_, fun a => ?_⟩
  · rw [hnow] at hsince
    rw [hlog, htable, VerificationTable.find_save_eq_append, VerificationTable.recordsFrom_append]
    exact (h.kept since hsince).append (List.Sublist.refl _)
  · rw [hnow] at ha
    have hopened := h.opened a ha
    rw [hin a]
    by_cases hp : pseudonym = p
    · rw [if_pos hp] at hpending
      split <;> omega
    · rw [if_neg hp] at hpending
      rw [if_neg fun hrow => hp hrow.1]
      omega
  · rw [hin a]
    split
    · next hrow =>
      have hopened := h.opened a hrow.2.2
      rw [if_pos hrow.1] at hpending
      omega
    · exact h.closed a

/-- A step that leaves the records alone and adds no pending verification keeps the bound. -/
theorem Bounded.idle (h : Bounded limit p k t) {u : Crowd} (hnow : u.world.now = t.world.now)
    (htable : u.world.verifications = t.world.verifications) (hlog : u.log = t.log)
    (hpending : u.pending p ≤ t.pending p) : Bounded limit p k u := by
  have hin := inWindow_congr limit p hlog
  refine ⟨fun since hsince => ?_, fun a ha => ?_, fun a => ?_⟩
  · rw [hnow] at hsince
    rw [hlog, htable]
    exact h.kept since hsince
  · rw [hnow] at ha
    have hopened := h.opened a ha
    rw [hin]
    omega
  · rw [hin]
    exact h.closed a

/-- **A step of a verification keeps the bound**, whatever the identity check says. -/
theorem Bounded.advance (h : Bounded limit p k t) (i : Nat) (identity : Except String Bool)
    (hk : (t.advance limit i identity).pending p ≤ k) : Bounded limit p k (t.advance limit i identity) := by
  unfold Crowd.advance at hk ⊢
  cases hi : t.calls[i]? with
  | none => exact h
  | some c =>
    rw [hi] at hk
    dsimp only at hk ⊢
    have hnow := next_now ⟨limit, fun _ => identity⟩ c.pseudonym t.world c.phase
    cases hnext : c.phase.next ⟨limit, fun _ => identity⟩ c.pseudonym t.world with
    | mk phase v =>
      rw [hnext] at hk hnow
      have hpending := pending_set (p := p) hi phase v
        (t.log ++ t.world.verifications.added v.verifications)
      rcases next_cases hnext with ⟨hbefore, hafter, rfl, hfree⟩ | ⟨hbefore, hafter, htable⟩ | ⟨hquiet, htable⟩
      · refine h.pass hfree rfl (by simp [VerificationTable.added_self]) hk ?_
        simpa [hbefore, hafter] using hpending
      · refine h.record hnow htable ?_ ?_
        · rw [htable, VerificationTable.added_save]
        · simpa [hbefore, hafter] using hpending
      · refine h.idle hnow htable (by simp [htable, VerificationTable.added_self]) ?_
        have : (if c.pseudonym = p ∧ phase.isPending = true then 1 else 0) ≤
            if c.pseudonym = p ∧ c.phase.isPending = true then 1 else 0 := by
          split
          · next hp => exact Nat.le_of_eq (if_pos ⟨hp.1, hquiet hp.2⟩).symm
          · exact Nat.zero_le _
        dsimp only at hpending ⊢
        omega

/-! ## Whole runs -/

/-- A run in which at most `k` verifications of a pseudonym are pending at once. -/
def Crowd.Run (limit : VerificationLimit) (p : String) (k : Nat) : Crowd → Crowd → Prop :=
  Relation.ReflTransGen fun t u => Crowd.Step limit t u ∧ u.pending p ≤ k

theorem Bounded.run {w : World} (hrun : Crowd.Run limit p k { world := w } t) : Bounded limit p k t := by
  induction hrun with
  | refl => exact ⟨fun since _ => List.nil_sublist _, fun a _ => Nat.zero_le _, fun a => Nat.zero_le _⟩
  | tail _ hstep ih =>
    obtain ⟨hstep, hk⟩ := hstep
    cases hstep with
    | start pseudonym => exact ih.start pseudonym
    | advance i identity => exact ih.advance i identity hk
    | change c hf => exact ih.change hf

/-! ## A run that attains the bound -/

/-- At one instant, `n` attempts of a pseudonym are recorded and `m` more have passed the limit and the
identity check. -/
structure Gathered (p : String) (now : Instant) (n m : Nat) (t : Crowd) : Prop where
  clock : t.world.now = now
  faults : t.world.faults = {}
  table : ∀ since, (t.world.verifications.find p since).length ≤ n
  log : t.log = List.replicate n ⟨p, now⟩
  pending : t.pending p = m
  ready : ∀ c ∈ t.calls, c.pseudonym = p → c.phase.isPending = true → ∃ verified, c.phase = .checked verified

variable {verified : Bool} {now : Instant} {n m : Nat}

theorem advance_last {calls : List Call} {c : Call} (h : t.calls = calls ++ [c])
    (identity : Except String Bool) :
    let next := c.phase.next ⟨limit, fun _ => identity⟩ c.pseudonym t.world
    t.advance limit calls.length identity =
      { world := next.2,
        calls := calls ++ [{ c with phase := next.1 }],
        log := t.log ++ t.world.verifications.added next.2.verifications } := by
  have hlast : t.calls[calls.length]? = some c := by
    rw [h, List.getElem?_append_right (Nat.le_refl _)]
    simp
  unfold Crowd.advance
  rw [hlast, h]
  simp [List.set_append_right]

theorem pending_append (p : String) (phase : Phase) (world : World) (t : Crowd) :
    Crowd.pending p { t with world, calls := t.calls ++ [⟨p, phase⟩] } =
      t.pending p + if phase.isPending = true then 1 else 0 := by
  unfold Crowd.pending
  rw [List.countP_append, List.countP_singleton]
  simp

/-- A verification that has just been started passes the limit if it is free. -/
theorem advance_start (hfree : t.world.reachesLimit limit p = .ok false) (identity : Except String Bool) :
    (t.start p).advance limit t.calls.length identity = { t with calls := t.calls ++ [⟨p, .allowed⟩] } := by
  have hnext : Phase.started.next ⟨limit, fun _ => identity⟩ p t.world = (.allowed, t.world) := by
    simp [Phase.next, hfree]
  rw [advance_last (t := t.start p) (c := ⟨p, .started⟩) rfl]
  dsimp only [Crowd.start]
  rw [hnext]
  simp [VerificationTable.added_self]

/-- One that has passed the limit passes the identity check if it answers. -/
theorem advance_allowed (limit : VerificationLimit) (p : String) (t : Crowd) (verified : Bool) :
    Crowd.advance limit t.calls.length (.ok verified) { t with calls := t.calls ++ [⟨p, .allowed⟩] } =
      { t with world := (ask ⟨limit, fun _ => .ok verified⟩ p t.world).2,
               calls := t.calls ++ [⟨p, .checked verified⟩] } := by
  have hnext : Phase.allowed.next ⟨limit, fun _ => .ok verified⟩ p t.world =
      (.checked verified, (ask ⟨limit, fun _ => .ok verified⟩ p t.world).2) := rfl
  rw [advance_last (t := { t with calls := t.calls ++ [⟨p, .allowed⟩] }) (c := ⟨p, .allowed⟩) rfl]
  dsimp only
  rw [hnext]
  simp [ask, VerificationTable.added_self]

/-- While the table is short of the limit, one more verification passes it and the identity check. -/
theorem Gathered.pass (h : Gathered p now n m t) (hn : n < limit.max.toNat) (hm : m < k) :
    ∃ u, Crowd.Run limit p k t u ∧ Gathered p now n (m + 1) u := by
  have hfree : t.world.reachesLimit limit p = .ok false :=
    (reachesLimit_eq_false_iff (by rw [h.faults])).mpr (Nat.lt_of_le_of_lt (h.table _) hn)
  let asked : World := (ask ⟨limit, fun _ => .ok true⟩ p t.world).2
  have hstarted : (t.start p).pending p = m :=
    (pending_append p .started t.world t).trans (by rw [h.pending]; rfl)
  have hallowed : Crowd.pending p { t with calls := t.calls ++ [⟨p, .allowed⟩] } = m + 1 :=
    (pending_append p .allowed t.world t).trans (by rw [h.pending]; rfl)
  have hchecked : Crowd.pending p { t with world := asked, calls := t.calls ++ [⟨p, .checked true⟩] } = m + 1 :=
    (pending_append p (.checked true) _ t).trans (by rw [h.pending]; rfl)
  have hrun : Crowd.Run limit p k t { t with world := asked, calls := t.calls ++ [⟨p, .checked true⟩] } := by
    refine .tail (.tail (.single (b := t.start p) ⟨.start t p, ?_⟩)
      (c := { t with calls := t.calls ++ [⟨p, .allowed⟩] }) ⟨?_, ?_⟩) ⟨?_, ?_⟩
    · exact Nat.le_trans (Nat.le_of_eq hstarted) (Nat.le_of_lt hm)
    · rw [← advance_start hfree (.ok true)]
      exact .advance _ _ _
    · exact Nat.le_trans (Nat.le_of_eq hallowed) hm
    · rw [← advance_allowed]
      exact .advance _ _ _
    · exact Nat.le_trans (Nat.le_of_eq hchecked) hm
  refine ⟨_, hrun, h.clock, h.faults, h.table, h.log, hchecked, fun c hc hp hpend => ?_⟩
  rcases List.mem_append.mp hc with hold | hnew
  · exact h.ready c hold hp hpend
  · obtain rfl := List.mem_singleton.mp hnew
    exact ⟨true, rfl⟩

/-- One that has passed the identity check records its attempt if the store works. -/
theorem advance_checked {i : Nat} {c : Call} (limit : VerificationLimit) (identity : Except String Bool)
    (hi : t.calls[i]? = some c) (hready : c.phase = .checked verified) (hfaults : t.world.faults = {}) :
    ∃ outcome world, t.advance limit i identity =
        { world,
          calls := t.calls.set i { c with phase := .finished outcome },
          log := t.log ++ [⟨c.pseudonym, t.world.now⟩] } ∧
      world.now = t.world.now ∧ world.faults = {} ∧
      world.verifications = t.world.verifications.save ⟨c.pseudonym, t.world.now⟩ := by
  let outcome : VerificationOutcome := if verified then .verified else .notVerified
  let saved : World :=
    { t.world with verifications := t.world.verifications.save ⟨c.pseudonym, t.world.now⟩ }
  have hnext : c.phase.next ⟨limit, fun _ => identity⟩ c.pseudonym t.world = Phase.conclude outcome saved := by
    rw [hready]
    simp [Phase.next, World.recordAttempt, World.saveVerification, hfaults, saved, outcome]
  refine ⟨.ok outcome, (Phase.conclude outcome saved).2, ?_, rfl, hfaults, rfl⟩
  unfold Crowd.advance
  rw [hi]
  dsimp only
  rw [hnext]
  simp [Phase.conclude, saved, World.count, VerificationTable.added_save]

/-- One of those that are ready records its attempt. -/
theorem Gathered.record (h : Gathered p now n (m + 1) t) (hm : m < k) :
    ∃ u, Crowd.Run limit p k t u ∧ Gathered p now (n + 1) m u := by
  have hsome : 1 ≤ t.pending p := by
    rw [h.pending]
    omega
  obtain ⟨c, hc, hpend⟩ := List.one_le_countP_iff.mp hsome
  simp only [Bool.and_eq_true, beq_iff_eq] at hpend
  obtain ⟨rfl, hpend⟩ := hpend
  obtain ⟨i, hi⟩ := List.mem_iff_getElem?.mp hc
  obtain ⟨verified, hchecked⟩ := h.ready c hc rfl hpend
  obtain ⟨outcome, world, hadvance, hclock, hfaults, htable⟩ :=
    advance_checked limit (.ok true) hi hchecked h.faults
  have hpending := pending_set (p := c.pseudonym) hi (.finished outcome) world
    (t.log ++ [⟨c.pseudonym, t.world.now⟩])
  rw [← hadvance, h.pending, if_pos ⟨rfl, hpend⟩, if_neg (by simp [Phase.isPending])] at hpending
  have hleft : (t.advance limit i (.ok true)).pending c.pseudonym = m := Nat.succ_inj.mp hpending
  refine ⟨t.advance limit i (.ok true),
    .single ⟨.advance t i _, Nat.le_trans (Nat.le_of_eq hleft) (Nat.le_of_lt hm)⟩, ?_⟩
  rw [hadvance] at hleft ⊢
  refine ⟨hclock.trans h.clock, hfaults, fun since => ?_, ?_, hleft, ?_⟩
  · have hfound := h.table since
    rw [htable, VerificationTable.find_save, List.length_append]
    split <;> simp <;> omega
  · rw [h.log, h.clock, List.replicate_succ']
  · intro d hd hp hdpend
    rcases List.mem_or_eq_of_mem_set hd with hold | rfl
    · exact h.ready d hold hp hdpend
    · cases hdpend

/-- One after the other, as many attempts are recorded as the limit allows. -/
theorem Gathered.alone (h : Gathered p now 0 0 t) (hk : 1 ≤ k) (hn : n ≤ limit.max.toNat) :
    ∃ u, Crowd.Run limit p k t u ∧ Gathered p now n 0 u := by
  induction n with
  | zero => exact ⟨t, .refl, h⟩
  | succ n ih =>
    obtain ⟨u, hu, hgathered⟩ := ih (Nat.le_of_succ_le hn)
    obtain ⟨v, hv, hpassed⟩ := hgathered.pass hn hk
    obtain ⟨x, hx, hrecorded⟩ := hpassed.record hk
    exact ⟨x, (hu.trans hv).trans hx, hrecorded⟩

/-- All at once, as many verifications pass the limit as may be pending. -/
theorem Gathered.together (h : Gathered p now n 0 t) (hn : n < limit.max.toNat) (hm : m ≤ k) :
    ∃ u, Crowd.Run limit p k t u ∧ Gathered p now n m u := by
  induction m with
  | zero => exact ⟨t, .refl, h⟩
  | succ m ih =>
    obtain ⟨u, hu, hgathered⟩ := ih (Nat.le_of_succ_le hm)
    obtain ⟨v, hv, hpassed⟩ := hgathered.pass hn hm
    exact ⟨v, hu.trans hv, hpassed⟩

/-- All that are ready record their attempts. -/
theorem Gathered.drain (h : Gathered p now n m t) (hm : m ≤ k) :
    ∃ u, Crowd.Run limit p k t u ∧ Gathered p now (n + m) 0 u := by
  induction m generalizing n t with
  | zero => exact ⟨t, .refl, h⟩
  | succ m ih =>
    obtain ⟨u, hu, hrecorded⟩ := h.record hm
    obtain ⟨v, hv, hdrained⟩ := ih hrecorded (Nat.le_of_succ_le hm)
    rw [Nat.add_assoc, Nat.add_comm 1 m] at hdrained
    exact ⟨v, hu.trans hv, hdrained⟩

theorem Gathered.inWindow (h : Gathered p now n m t) (l : VerificationLimit) :
    t.inWindow l p now.toInt = n := by
  have hspan := Duration.toInt_capped l.window
  unfold Instant.maxSeconds at hspan
  unfold Crowd.inWindow
  rw [h.log, List.countP_replicate]
  have : now.toInt ≤ now.toInt + l.window.capped.toInt := by omega
  simp [this]

/-- **The exact bound.** With at most `k` verifications of a pseudonym pending at once, no window of the
limit's length holds more than `max + k - 1` attempts recorded during the run, whatever the identity check says at
each step; and some run attains this. -/
theorem window_bound (hM : 1 ≤ limit.max.toNat) :
    (∀ (k : Nat) (p : String) (w : World) (t : Crowd), 1 ≤ k → Crowd.Run limit p k { world := w } t →
      ∀ a : Int, t.inWindow limit p a ≤ limit.max.toNat + k - 1) ∧
    ∀ (k : Nat) (p : String) (w : World), 1 ≤ k → w.faults = {} → w.verifications = {} →
      ∃ t, Crowd.Run limit p k { world := w } t ∧
        t.inWindow limit p w.now.toInt = limit.max.toNat + k - 1 := by
  refine ⟨fun k p w t _ hrun a => (Bounded.run hrun).closed a, ?_⟩
  intro k p w hk hfaults htable
  have hstart : Gathered p w.now 0 0 { world := w } := by
    refine ⟨rfl, hfaults, fun since => ?_, rfl, rfl, fun c hc => (by cases hc)⟩
    rw [htable]
    exact Nat.le_refl _
  obtain ⟨t, ht, halone⟩ := hstart.alone hk (Nat.sub_le limit.max.toNat 1)
  have hroom : limit.max.toNat - 1 < limit.max.toNat := by omega
  obtain ⟨u, hu, htogether⟩ := halone.together hroom (Nat.le_refl k)
  obtain ⟨v, hv, hdrained⟩ : ∃ v, Crowd.Run limit p k u v ∧ _ := htogether.drain (Nat.le_refl k)
  refine ⟨v, (ht.trans hu).trans hv, ?_⟩
  rw [hdrained.inWindow]
  omega

/-- Two verifications pending at once exceed a limit of two by one, and never by more. -/
theorem window_bound_two :
    let limit : VerificationLimit := { max := 2, window := 60 }
    let w : World := { now := 0, locator := .shelf {} }
    1 ≤ limit.max.toNat ∧
      (∀ t, Crowd.Run limit "p" 2 { world := w } t → ∀ a : Int, t.inWindow limit "p" a ≤ 3) ∧
      ∃ t, Crowd.Run limit "p" 2 { world := w } t ∧ t.inWindow limit "p" 0 = 3 := by
  intro limit w
  have hM : 1 ≤ limit.max.toNat := by decide
  have hbound := window_bound hM
  exact ⟨hM, fun t => hbound.1 2 "p" w t (by decide), hbound.2 2 "p" w (by decide) rfl rfl⟩

end BlindMint.Verification
