import BlindMint.Proofs.Cache.Queue
import Mathlib.Data.List.Nodup

/-!
# What a cache serves, by its history

The history of a cache says what it must do next. A caller that obtains the lock finds the value of the last
successful computation of its key if that computation ended less than `ttl` ago, and otherwise starts a
computation of its own and is answered with its result. `Meets` says of a history that every event in it is
the one that the events before call for; it knows nothing of entries and deadlines.

As the timer never goes back, it is enough to ask that the present time plus `ttl` is within its range.

## Results

* `Sound.step`, `Sound.run`: how the entries are related to the history, along every interleaved run.
* `Meets.fills_apart`, `Meets.fills_in_window`: what follows from the specification alone.
* **`history_meets`**: every run meets the specification, starts one computation for each caller that finds
  nothing, keeps the successful ones of a key `ttl` apart, counts them, and leaves no entry for a failed one.
-/

namespace BlindMint.Cache

variable {ε α : Type}

/-! ## Histories -/

/-- A successful computation. -/
structure Fill (α : Type) where
  key : String
  value : α
  /-- When it was started. -/
  since : Nat
  /-- When it ended. -/
  ended : Nat

/-- Whether a computation is of a key and was started between two times. -/
def Fill.startedIn (key : String) (a b : Nat) (fill : Fill α) : Bool :=
  fill.key == key && decide (a ≤ fill.since) && decide (fill.since ≤ b)

/-- The successful computation that an event ends. -/
def Event.fill? : Event ε α → Option (Fill α)
  | .ended caller since time (.ok value) _ => some ⟨caller.key, value, since, time⟩
  | _ => none

/-- The successful computations of a history, the last one first. -/
def fills (events : List (Event ε α)) : List (Fill α) :=
  events.filterMap Event.fill?

/-- The last successful computation of a key. -/
def lastFill? (key : String) (events : List (Event ε α)) : Option (Fill α) :=
  (fills events).find? (·.key == key)

/-- The value in use for a key at a time: that of its last successful computation if this ended less than
`ttl` ago. -/
def fresh? (ttl : Nat) (key : String) (time : Nat) (events : List (Event ε α)) : Option α :=
  match lastFill? key events with
  | some fill => if time < fill.ended + ttl then some fill.value else none
  | none => none

/-- Whether an event starts a computation. -/
def Event.isStart : Event ε α → Bool
  | .served _ _ none => true
  | _ => false

/-- What an event must be, by the events before it. A caller is served once, and with the value in use. A
computation is one that its caller has started, it ends once, and its caller is answered with its result. -/
def Event.Meets (ttl : Nat) (past : List (Event ε α)) : Event ε α → Prop
  | .served caller time found =>
    found = fresh? ttl caller.key time past ∧ ∀ time found, .served caller time found ∉ past
  | .ended caller since time result answer =>
    answer = result.mapError .failed ∧ since ≤ time ∧ .served caller since none ∈ past ∧
      fresh? ttl caller.key since past = none ∧
      ∀ since time result answer, .ended caller since time result answer ∉ past
  | .left _ => True

/-- Every event of a history is the one that the events before it call for. -/
def Meets (ttl : Nat) : List (Event ε α) → Prop
  | [] => True
  | event :: past => event.Meets ttl past ∧ Meets ttl past

variable {ttl : Nat} {e : Event ε α} {events : List (Event ε α)}

theorem fills_cons_of_none (h : e.fill? = none) (events : List (Event ε α)) :
    fills (e :: events) = fills events := by
  simp [fills, h]

theorem fills_cons_of_some {fill : Fill α} (h : e.fill? = some fill)
    (events : List (Event ε α)) : fills (e :: events) = fill :: fills events := by
  simp [fills, h]

theorem fresh?_eq_none_iff {key : String} {time : Nat} :
    fresh? ttl key time events = none ↔
      ∀ fill, lastFill? key events = some fill → fill.ended + ttl ≤ time := by
  unfold fresh?
  cases lastFill? key events with
  | none => simp
  | some fill => simp

/-- If those of a key are in order, the last one of a key is behind all others of it. -/
theorem ended_le_of_find? {key : String} {fills : List (Fill α)} {last : Fill α}
    (h : fills.find? (·.key == key) = some last)
    (hsorted : fills.Pairwise fun later earlier => later.key = earlier.key → earlier.ended ≤ later.ended) :
    ∀ fill ∈ fills, fill.key = key → fill.ended ≤ last.ended := by
  induction fills with
  | nil => cases h
  | cons first rest ih =>
    obtain ⟨hfirst, hrest⟩ := List.pairwise_cons.mp hsorted
    by_cases hk : first.key = key
    · obtain rfl : first = last := by simpa [hk] using h
      intro fill hfill hkey
      rcases List.mem_cons.mp hfill with rfl | hmem
      · exact Nat.le_refl _
      · exact hfirst fill hmem (hk.trans hkey.symm)
    · have hlast : rest.find? (·.key == key) = some last := by simpa [hk] using h
      intro fill hfill hkey
      rcases List.mem_cons.mp hfill with rfl | hmem
      · exact absurd hkey hk
      · exact ih hlast hrest fill hmem hkey

theorem Meets.served_of_ended (h : Meets ttl events) {c : Caller} {since time : Nat}
    {result : Except ε α} {answer : Except (Failure ε) α}
    (hmem : .ended c since time result answer ∈ events) : .served c since none ∈ events := by
  induction events with
  | nil => cases hmem
  | cons e past ih =>
    obtain ⟨he, hpast⟩ := h
    rcases List.mem_cons.mp hmem with rfl | hmem
    · obtain ⟨-, -, hserved, -⟩ := he
      exact List.mem_cons_of_mem _ hserved
    · exact List.mem_cons_of_mem _ (ih hpast hmem)

/-- What a history that meets the specification says of a successful computation. -/
theorem Meets.of_fill (h : Meets ttl (e :: events)) {fill : Fill α} (hfill : e.fill? = some fill) :
    fill.since ≤ fill.ended ∧
      ∀ last, lastFill? fill.key events = some last → last.ended + ttl ≤ fill.since := by
  obtain ⟨he, -⟩ := h
  match e with
  | .ended caller since time (.ok value) answer =>
    obtain rfl := Option.some.inj hfill
    obtain ⟨-, htime, -, hstale, -⟩ := he
    exact ⟨htime, fresh?_eq_none_iff.mp hstale⟩

theorem Meets.since_le (h : Meets ttl events) : ∀ fill ∈ fills events, fill.since ≤ fill.ended := by
  induction events with
  | nil => intro fill hfill; cases hfill
  | cons e past ih =>
    intro fill hfill
    cases hend : e.fill? with
    | none =>
      rw [fills_cons_of_none hend] at hfill
      exact ih h.2 fill hfill
    | some last =>
      rw [fills_cons_of_some hend] at hfill
      rcases List.mem_cons.mp hfill with rfl | hmem
      · exact (h.of_fill hend).1
      · exact ih h.2 fill hmem

/-- **Successful computations of a key are apart**: the later one is started when the value of the earlier
one is no longer in use. -/
theorem Meets.fills_apart (h : Meets ttl events) :
    (fills events).Pairwise fun later earlier =>
      later.key = earlier.key → earlier.ended + ttl ≤ later.since := by
  induction events with
  | nil => exact .nil
  | cons e past ih =>
    have hapart := ih h.2
    cases hend : e.fill? with
    | none => rwa [fills_cons_of_none hend]
    | some fill =>
      rw [fills_cons_of_some hend]
      refine List.pairwise_cons.mpr ⟨fun earlier hmem hkey => ?_, hapart⟩
      have hsorted : (fills past).Pairwise fun later earlier =>
          later.key = earlier.key → earlier.ended ≤ later.ended := by
        refine hapart.imp_of_mem fun hlater _ hlt hkey => ?_
        have hstart := h.2.since_le _ hlater
        have := hlt hkey
        omega
      cases hlast : lastFill? fill.key past with
      | none =>
        have hother := List.find?_eq_none.mp hlast earlier hmem
        exact absurd hkey.symm (by simpa using hother)
      | some last =>
        have hbefore := (h.of_fill hend).2 last hlast
        have hle := ended_le_of_find? hlast hsorted earlier hmem hkey.symm
        omega

/-- Of the computations of a key that are started within less than `ttl` at most one is successful. -/
theorem Meets.fills_in_window (h : Meets ttl events) (key : String) (a : Nat) {span : Nat}
    (hspan : span < ttl) : (fills events).countP (·.startedIn key a (a + span)) ≤ 1 := by
  rw [List.countP_eq_length_filter]
  have hapart := h.fills_apart.filter (·.startedIn key a (a + span))
  have hin : ∀ fill ∈ (fills events).filter (·.startedIn key a (a + span)),
      fill ∈ fills events ∧ fill.key = key ∧ a ≤ fill.since ∧ fill.since ≤ a + span := by
    intro fill hfill
    obtain ⟨hmem, hwindow⟩ := List.mem_filter.mp hfill
    exact ⟨hmem, by simpa [Fill.startedIn, and_assoc] using hwindow⟩
  match hfound : (fills events).filter (·.startedIn key a (a + span)) with
  | [] => simp [hfound]
  | [fill] => simp [hfound]
  | later :: earlier :: rest =>
    rw [hfound] at hapart hin
    obtain ⟨-, hlaterKey, -, hlater⟩ := hin later (by simp)
    obtain ⟨hmem, hearlierKey, hearlier, -⟩ := hin earlier (by simp)
    have hstart := h.since_le earlier hmem
    have hlt := (List.pairwise_cons.mp hapart).1 earlier (by simp) (hlaterKey.trans hearlierKey.symm)
    omega

/-! ## The entries and the history -/

/-- How a queue is related to its history. -/
structure Queue.Sound (ttl : Nat) (q : Queue ε α) : Prop where
  /-- An entry holds the value of the last successful computation of its key. -/
  entry : ∀ key entry, q.run.cache.find? key = some entry →
    ∃ fill, lastFill? key q.events = some fill ∧ entry = ⟨fill.value, fill.ended + ttl⟩
  /-- A value in use has its entry. -/
  kept : ∀ key fill, lastFill? key q.events = some fill → q.run.now < fill.ended + ttl →
    q.run.cache.find? key = some ⟨fill.value, fill.ended + ttl⟩
  /-- A computation under way was called for, has not ended, and only its key has been touched. -/
  filling : ∀ f, q.filling = some f →
    f.since ≤ q.run.now ∧ .served f.caller f.since none ∈ q.events ∧
      (∀ since time result answer, .ended f.caller since time result answer ∉ q.events) ∧
      fresh? ttl f.caller.key f.since q.events = none ∧
      q.run.cache.find? f.caller.key = none ∧
      ∀ other, other ≠ f.caller.key → q.run.cache.find? other = f.before.find? other
  /-- Who waits has not been served, and nobody waits twice. -/
  waiting : ∀ c ∈ q.waiting, c.number < q.calls ∧ ∀ time found, .served c time found ∉ q.events
  distinct : q.waiting.Nodup
  served : ∀ c time found, .served c time found ∈ q.events → c.number < q.calls
  meets : Meets ttl q.events
  started : q.run.started = q.events.countP Event.isStart
  stored : q.run.stored = (fills q.events).length

namespace Queue

variable {q q' : Queue ε α} {c : Caller} {f : Filling α}

theorem Sound.start : Sound ttl ({} : Queue ε α) where
  entry key entry h := by cases h
  kept key fill h := by cases h
  filling f h := by cases h
  waiting c h := by cases h
  distinct := .nil
  served c time found h := by cases h
  meets := trivial
  started := rfl
  stored := rfl

/-- The value that a caller finds is the value in use. -/
theorem Sound.begin_eq (hi : Sound ttl q) (key : String) :
    (q.run.cache.begin key q.run.now).1 = fresh? ttl key q.run.now q.events := by
  unfold fresh?
  cases hlast : lastFill? key q.events with
  | none =>
    rw [begin_eq_none_iff]
    intro entry hentry
    obtain ⟨fill, hfill, -⟩ := hi.entry key entry hentry
    rw [hlast] at hfill
    cases hfill
  | some fill =>
    by_cases hlive : q.run.now < fill.ended + ttl
    · have hentry := hi.kept key fill hlast hlive
      simp [begin, hentry, hlive]
    · dsimp only
      rw [if_neg hlive, begin_eq_none_iff]
      intro entry hentry
      obtain ⟨fill', hfill', rfl⟩ := hi.entry key entry hentry
      rw [hlast] at hfill'
      obtain rfl := Option.some.inj hfill'
      exact Nat.not_lt.mp hlive

/-- Callers that come, wait or go away are no part of what the history says of the entries. -/
theorem Sound.call (hi : Sound ttl q) (key : String) : Sound ttl (q.call key) where
  entry := hi.entry
  kept := hi.kept
  filling := hi.filling
  waiting c hc := by
    rcases List.mem_append.mp hc with hold | hnew
    · obtain ⟨hnumber, hserved⟩ := hi.waiting c hold
      exact ⟨Nat.lt_succ_of_lt hnumber, hserved⟩
    · obtain rfl := List.mem_singleton.mp hnew
      exact ⟨Nat.lt_succ_self _, fun time found h => Nat.lt_irrefl _ (hi.served _ time found h)⟩
  distinct := by
    refine List.nodup_append.mpr ⟨hi.distinct, List.nodup_singleton _, fun c hc d hd heq => ?_⟩
    obtain rfl := List.mem_singleton.mp hd
    have hnumber := (hi.waiting c hc).1
    rw [heq] at hnumber
    exact Nat.lt_irrefl _ hnumber
  served c time found h := Nat.lt_succ_of_lt (hi.served c time found h)
  meets := hi.meets
  started := hi.started
  stored := hi.stored

theorem Sound.advance (hi : Sound ttl q) (span : Nat) : Sound ttl (q.advance span) where
  entry := hi.entry
  kept key fill hlast hlive :=
    hi.kept key fill hlast (Nat.lt_of_le_of_lt (Nat.le_add_right ..) hlive)
  filling f hf := by
    obtain ⟨hsince, hrest⟩ := hi.filling f hf
    exact ⟨Nat.le_trans hsince (Nat.le_add_right ..), hrest⟩
  waiting := hi.waiting
  distinct := hi.distinct
  served := hi.served
  meets := hi.meets
  started := hi.started
  stored := hi.stored

/-- The queue after an event that stores nothing and starts nothing. -/
theorem Sound.left (hi : Sound ttl q) (c : Caller) {waiting : List Caller}
    (hwaiting : waiting.Sublist q.waiting) {filling : Option (Filling α)}
    (hfilling : filling = none ∨ filling = q.filling) :
    Sound ttl { q with waiting, filling, events := .left c :: q.events } where
  entry := hi.entry
  kept := hi.kept
  filling f hf := by
    have hf : q.filling = some f := by
      rcases hfilling with rfl | rfl
      · cases hf
      · exact hf
    obtain ⟨hsince, hserved, hended, hrest⟩ := hi.filling f hf
    exact ⟨hsince, List.mem_cons_of_mem _ hserved, by simpa using hended, hrest⟩
  waiting d hd := by
    obtain ⟨hnumber, hserved⟩ := hi.waiting d (hwaiting.subset hd)
    exact ⟨hnumber, by simpa using hserved⟩
  distinct := hi.distinct.sublist hwaiting
  served d time found h := hi.served d time found (by simpa using h)
  meets := ⟨trivial, hi.meets⟩
  started := hi.started
  stored := hi.stored

/-- A caller that obtains the lock finds the value in use, or its key's entry is gone. -/
theorem Sound.serve (hi : Sound ttl q) (hfree : q.filling = none) (hc : c ∈ q.waiting) :
    Sound ttl (q.serve c) := by
  obtain ⟨hnumber, hfresh⟩ := hi.waiting c hc
  have hvalue := hi.begin_eq c.key
  -- what holds whether a value is found or not
  have hserved : ∀ d time found, .served d time found ∈ (q.serve c).events → d.number < q.calls := by
    intro d time found h
    rw [serve_events, List.mem_cons] at h
    rcases h with h | h
    · cases h
      exact hnumber
    · exact hi.served d time found h
  have hwaiting : ∀ d ∈ (q.serve c).waiting,
      d.number < q.calls ∧ ∀ time found, .served d time found ∉ (q.serve c).events := by
    intro d hd
    rw [serve_waiting] at hd
    obtain ⟨hne, hd⟩ := (hi.distinct.mem_erase_iff).mp hd
    refine ⟨(hi.waiting d hd).1, fun time found h => ?_⟩
    rw [serve_events, List.mem_cons] at h
    rcases h with h | h
    · cases h
      exact hne rfl
    · exact (hi.waiting d hd).2 time found h
  have hdistinct : (q.serve c).waiting.Nodup := by
    rw [serve_waiting]
    exact hi.distinct.erase c
  have hmeets : Meets ttl (q.serve c).events := by
    rw [serve_events]
    exact ⟨⟨hvalue, hfresh⟩, hi.meets⟩
  cases hbegin : q.run.cache.begin c.key q.run.now with
  | mk found cache =>
    rw [hbegin] at hvalue
    cases found with
    | some value =>
      obtain ⟨rfl, -⟩ := begin_of_some hbegin
      rw [serve_of_some hbegin] at hserved hwaiting hdistinct hmeets ⊢
      exact {
        entry := hi.entry
        kept := hi.kept
        filling := fun f hf => absurd (hfree.symm.trans hf) (by simp)
        waiting := hwaiting
        distinct := hdistinct
        served := hserved
        meets := hmeets
        started := hi.started
        stored := hi.stored }
    | none =>
      obtain rfl := begin_of_none hbegin
      have hended : ∀ since time result answer,
          .ended c since time result answer ∉ q.events :=
        fun since time result answer h => hfresh _ _ (hi.meets.served_of_ended h)
      rw [serve_of_none hbegin] at hserved hwaiting hdistinct hmeets ⊢
      refine {
        entry := fun key entry h => ?_
        kept := fun key fill hlast hlive => ?_
        filling := fun f hf => ?_
        waiting := hwaiting
        distinct := hdistinct
        served := hserved
        meets := hmeets
        started := ?_
        stored := hi.stored }
      · by_cases hkey : key = c.key
        · subst hkey
          simp [Run.start] at h
        · exact hi.entry key entry ((find?_erase_of_ne _ hkey).symm.trans h)
      · by_cases hkey : key = c.key
        · subst hkey
          have hstale := fresh?_eq_none_iff.mp hvalue.symm fill hlast
          exact absurd hlive (Nat.not_lt.mpr hstale)
        · exact (find?_erase_of_ne _ hkey).trans (hi.kept key fill hlast hlive)
      · obtain rfl := Option.some.inj hf
        exact ⟨Nat.le_refl _, List.mem_cons_self, by simpa using hended, hvalue.symm,
          find?_erase_self _ _, fun other hother => find?_erase_of_ne _ hother⟩
      · show q.run.started + 1 = _
        rw [hi.started, List.countP_cons_of_pos rfl]

/-- A computation that fails stores nothing. -/
theorem Sound.finish_error (hi : Sound ttl q) (hf : q.filling = some f) (e : ε) :
    Sound ttl (q.finish ttl f (.error e)) := by
  obtain ⟨hsince, hserved, hended, hstale, -⟩ := hi.filling f hf
  rw [Queue.finish_error]
  exact {
    entry := hi.entry
    kept := hi.kept
    filling := fun f hf => by cases hf
    waiting := fun c hc => by simpa using hi.waiting c hc
    distinct := hi.distinct
    served := fun c time found h => hi.served c time found (by simpa using h)
    meets := ⟨⟨rfl, hsince, hserved, hstale, hended⟩, hi.meets⟩
    started := hi.started
    stored := hi.stored }

/-- A computation that yields a value leaves it as its key's entry. -/
theorem Sound.finish_ok (hi : Sound ttl q) (hf : q.filling = some f) (value : α)
    (hb : q.run.now + ttl < horizon) : Sound ttl (q.finish ttl f (.ok value)) := by
  obtain ⟨hsince, hserved, hended, hstale, -⟩ := hi.filling f hf
  obtain ⟨cache, hcache, hfinish⟩ := Queue.finish_ok q f value hb
  have hself := find?_finish_self hcache
  have hother : ∀ key, key ≠ f.caller.key → cache.find? key = q.run.cache.find? key :=
    fun key hkey => find?_finish_of_ne hcache hkey
  have hlast : ∀ key, lastFill? key (q.finish ttl f (.ok value)).events =
      if f.caller.key = key then some ⟨f.caller.key, value, f.since, q.run.now⟩
      else lastFill? key q.events := by
    intro key
    rw [hfinish, lastFill?, fills_cons_of_some rfl, List.find?_cons]
    by_cases hkey : f.caller.key = key
    · simp [hkey]
    · have hne : (f.caller.key == key) = false := by simpa using hkey
      simp [hkey, hne, lastFill?]
  rw [hfinish] at hlast ⊢
  refine {
    entry := fun key entry h => ?_
    kept := fun key fill hfill hlive => ?_
    filling := fun f hf => by cases hf
    waiting := fun c hc => by simpa using hi.waiting c hc
    distinct := hi.distinct
    served := fun c time found h => hi.served c time found (by simpa using h)
    meets := ⟨⟨rfl, hsince, hserved, hstale, hended⟩, hi.meets⟩
    started := hi.started
    stored := ?_ }
  · rw [hlast]
    by_cases hkey : f.caller.key = key
    · subst hkey
      rw [if_pos rfl]
      exact ⟨_, rfl, Option.some.inj (h.symm.trans hself)⟩
    · rw [if_neg hkey]
      exact hi.entry key entry ((hother key (Ne.symm hkey)).symm.trans h)
  · rw [hlast] at hfill
    by_cases hkey : f.caller.key = key
    · subst hkey
      rw [if_pos rfl] at hfill
      obtain rfl := Option.some.inj hfill
      exact hself
    · rw [if_neg hkey] at hfill
      exact (hother key (Ne.symm hkey)).trans (hi.kept key fill hfill hlive)
  · show q.run.stored + 1 = _
    rw [hi.stored, fills_cons_of_some rfl, List.length_cons]

theorem Sound.step (hi : Sound ttl q) (hstep : Step ttl q q') (hb : q.run.now + ttl < horizon) :
    Sound ttl q' := by
  cases hstep with
  | call key => exact hi.call key
  | serve c hfree hc => exact hi.serve hfree hc
  | finish f hf result =>
    cases result with
    | error e => exact hi.finish_error hf e
    | ok value => exact hi.finish_ok hf value hb
  | abandon f hf => exact hi.left f.caller (List.Sublist.refl _) (.inl rfl)
  | leave c hc => exact hi.left c List.erase_sublist (.inr rfl)
  | advance span => exact hi.advance span

theorem Sound.run (hrun : Relation.ReflTransGen (Step ttl) {} q) (hb : q.run.now + ttl < horizon) :
    Sound ttl q := by
  induction hrun with
  | refl => exact .start
  | tail _ hstep ih =>
    have hbefore := Nat.lt_of_le_of_lt (Nat.add_le_add_right hstep.now_le ttl) hb
    exact (ih hbefore).step hstep hbefore

end Queue

/-- **A cache meets the specification by histories.** Along every run of callers that come, are served one at a
time in any order, compute for any time with any result, and may go away at any point:

* every caller that is served finds the value of the last successful computation of its key if that ended
  less than `ttl` ago, and else starts one computation, whose result is its answer;
* a successful computation of a key is started, and so ends, at least `ttl` after the one before has ended,
  and of those started within less than `ttl` at most one is successful;
* a computation that fails or is given up leaves no entry for its key and all other entries as they were;
* the counts of the run are those of the history. -/
theorem history_meets {q : Queue ε α} (hrun : Relation.ReflTransGen (Queue.Step ttl) {} q)
    (hb : q.run.now + ttl < horizon) :
    Meets ttl q.events ∧
    (fills q.events).Pairwise (fun later earlier => later.key = earlier.key →
      earlier.ended + ttl ≤ later.since ∧ earlier.ended + ttl ≤ later.ended) ∧
    (∀ key a span, span < ttl → (fills q.events).countP (·.startedIn key a (a + span)) ≤ 1) ∧
    (∀ f, q.filling = some f →
      ∀ after, after = q.abandon f ∨ (∃ e, after = q.finish ttl f (.error e)) →
        after.run.cache.find? f.caller.key = none ∧
        ∀ other, other ≠ f.caller.key → after.run.cache.find? other = f.before.find? other) ∧
    q.run.started = q.events.countP Event.isStart ∧
    q.run.stored = (fills q.events).length := by
  have hi := Queue.Sound.run hrun hb
  have hapart : (fills q.events).Pairwise fun later earlier => later.key = earlier.key →
      earlier.ended + ttl ≤ later.since ∧ earlier.ended + ttl ≤ later.ended := by
    refine hi.meets.fills_apart.imp_of_mem fun hlater _ hstart hkey => ?_
    exact ⟨hstart hkey, Nat.le_trans (hstart hkey) (hi.meets.since_le _ hlater)⟩
  refine ⟨hi.meets, hapart, fun key a span => hi.meets.fills_in_window key a, ?_, hi.started, hi.stored⟩
  intro f hf after hafter
  obtain ⟨-, -, -, -, hgone, hother⟩ := hi.filling f hf
  rcases hafter with rfl | ⟨e, rfl⟩
  · exact ⟨hgone, hother⟩
  · exact ⟨hgone, hother⟩

namespace Sample

/-- Two callers queue for one key; the first one's computation fails and takes three milliseconds, and the
second one's yields a value four milliseconds later. -/
def filled : Queue String String :=
  let asked := (({} : Queue String String).call "k").call "k"
  let failed := ((asked.serve ⟨0, "k"⟩).advance 3).finish 10 ⟨⟨0, "k"⟩, 0, {}⟩ (.error "offline")
  ((failed.serve ⟨1, "k"⟩).advance 4).finish 10 ⟨⟨1, "k"⟩, 3, {}⟩ (.ok "v")

/-- A third caller is served just before the value's time is over, and a fourth one when it is over. -/
def renewing : Queue String String :=
  let last := ((filled.call "k").advance 9).serve ⟨2, "k"⟩
  ((last.call "k").advance 1).serve ⟨3, "k"⟩

theorem filled_run : Relation.ReflTransGen (Queue.Step 10) {} filled := by
  have hfirst : Relation.ReflTransGen (Queue.Step 10) ({} : Queue String String)
      ((({} : Queue String String).call "k").call "k") := .tail (.single (.call _ _)) (.call _ _)
  refine .tail (.tail (.tail (.tail (.tail (.tail hfirst (.serve _ ⟨0, "k"⟩ rfl ?_))
    (.advance _ 3)) (.finish _ ⟨⟨0, "k"⟩, 0, {}⟩ rfl (.error "offline"))) (.serve _ ⟨1, "k"⟩ rfl ?_))
    (.advance _ 4)) (.finish _ ⟨⟨1, "k"⟩, 3, {}⟩ rfl (.ok "v"))
  · decide
  · decide

theorem renewing_run : Relation.ReflTransGen (Queue.Step 10) {} renewing := by
  refine .tail (.tail (.tail (.tail (.tail (.tail filled_run (.call _ "k")) (.advance _ 9))
    (.serve _ ⟨2, "k"⟩ rfl ?_)) (.call _ "k")) (.advance _ 1)) (.serve _ ⟨3, "k"⟩ rfl ?_)
  · decide
  · decide

end Sample

/-- A run in which a failure is followed by a value, the value is served until its time is over, and the next
caller starts anew. -/
theorem history_meets_renewing :
    Relation.ReflTransGen (Queue.Step 10) {} Sample.renewing ∧
      Sample.renewing.run.now + 10 < horizon ∧
      Sample.renewing.events.head? = some (.served ⟨3, "k"⟩ 17 none) ∧
      Meets 10 Sample.renewing.events ∧
      Sample.renewing.run.started = 3 ∧
      Sample.renewing.run.stored = (fills Sample.renewing.events).length := by
  have hb : Sample.renewing.run.now + 10 < horizon := by decide
  obtain ⟨hmeets, -, -, -, hstarted, hstored⟩ := history_meets Sample.renewing_run hb
  exact ⟨Sample.renewing_run, hb, rfl, hmeets, hstarted, hstored⟩

end BlindMint.Cache
