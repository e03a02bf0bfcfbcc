import BlindMint.Cache.Run
import Mathlib.Logic.Relation

/-!
# Callers of a cache

Any number of callers ask a cache for keys. One lock guards it: callers wait for the lock and obtain it in any
order, and the caller that holds it looks the key up and, if nothing is served, computes a value and stores it
before it lets go. A computation takes any time, during which others may come and queue; a caller may go away
while it waits and while it computes. The timer runs on all along.

The steps are those of a single call taken apart: looking up is `Cache.begin`, and ending a computation is
`Run.complete`.

## Results

* `Queue.exists_run_get`, `Queue.exists_run_getWithin`: a call that is answered, or given up after a time,
  as a whole is a run of these steps.
-/

namespace BlindMint.Cache

variable {ε α : Type}

/-- Somebody who asks for a key. -/
structure Caller where
  number : Nat
  key : String
  deriving DecidableEq, Repr

/-- A computation under way; its caller holds the lock. -/
structure Filling (α : Type) where
  caller : Caller
  /-- When the caller obtained the lock. -/
  since : Nat
  /-- What the cache held then. -/
  before : Cache α

/-- What happens to callers. -/
inductive Event (ε α : Type) where
  /-- A caller obtains the lock, and either finds a value or starts a computation. -/
  | served (caller : Caller) (time : Nat) (found : Option α)
  /-- A computation that was started at the time `since` ends, and its caller is answered. -/
  | ended (caller : Caller) (since time : Nat) (result : Except ε α)
      (answer : Except (Failure ε) α)
  /-- A caller goes away without an answer. -/
  | left (caller : Caller)

/-- A cache with its callers, and what has happened so far, the last event first. -/
structure Queue (ε α : Type) where
  run : Run α := {}
  /-- Calls made so far. -/
  calls : Nat := 0
  waiting : List Caller := []
  filling : Option (Filling α) := none
  events : List (Event ε α) := []

namespace Queue

/-- A new caller queues. -/
def call (q : Queue ε α) (key : String) : Queue ε α :=
  { q with calls := q.calls + 1, waiting := q.waiting ++ [⟨q.calls, key⟩] }

/-- A caller that waits obtains the lock. -/
def serve (q : Queue ε α) (c : Caller) : Queue ε α :=
  match q.run.cache.begin c.key q.run.now with
  | (some value, cache) =>
    { q with
      run := { q.run with cache }, waiting := q.waiting.erase c,
      events := .served c q.run.now (some value) :: q.events }
  | (none, cache) =>
    { q with
      run := q.run.start cache, waiting := q.waiting.erase c,
      filling := some ⟨c, q.run.now, q.run.cache⟩,
      events := .served c q.run.now none :: q.events }

/-- The computation under way ends with a result. -/
def finish (q : Queue ε α) (ttl : Nat) (f : Filling α) (result : Except ε α) : Queue ε α :=
  let (answer, run) := q.run.complete ttl f.caller.key result
  { q with
    run, filling := none,
    events := .ended f.caller f.since q.run.now result answer :: q.events }

/-- The caller of the computation under way goes away. -/
def abandon (q : Queue ε α) (f : Filling α) : Queue ε α :=
  { q with filling := none, events := .left f.caller :: q.events }

/-- A caller that waits goes away. -/
def leave (q : Queue ε α) (c : Caller) : Queue ε α :=
  { q with waiting := q.waiting.erase c, events := .left c :: q.events }

/-- Time passes. -/
def advance (q : Queue ε α) (span : Nat) : Queue ε α :=
  { q with run := q.run.advance span }

/-- One step of the callers of a cache that keeps values for `ttl`. -/
inductive Step (ttl : Nat) : Queue ε α → Queue ε α → Prop
  | call (q : Queue ε α) (key : String) : Step ttl q (q.call key)
  | serve (q : Queue ε α) (c : Caller) (hfree : q.filling = none) (hc : c ∈ q.waiting) :
      Step ttl q (q.serve c)
  | finish (q : Queue ε α) (f : Filling α) (hf : q.filling = some f) (result : Except ε α) :
      Step ttl q (q.finish ttl f result)
  | abandon (q : Queue ε α) (f : Filling α) (hf : q.filling = some f) : Step ttl q (q.abandon f)
  | leave (q : Queue ε α) (c : Caller) (hc : c ∈ q.waiting) : Step ttl q (q.leave c)
  | advance (q : Queue ε α) (span : Nat) : Step ttl q (q.advance span)

variable {q : Queue ε α} {c : Caller} {f : Filling α} {ttl : Nat}

/-! ## One step -/

theorem serve_of_some {value : α} {cache : Cache α}
    (h : q.run.cache.begin c.key q.run.now = (some value, cache)) :
    q.serve c = { q with
      run := { q.run with cache }, waiting := q.waiting.erase c,
      events := .served c q.run.now (some value) :: q.events } := by
  unfold serve
  rw [h]

theorem serve_of_none {cache : Cache α}
    (h : q.run.cache.begin c.key q.run.now = (none, cache)) :
    q.serve c = { q with
      run := q.run.start cache, waiting := q.waiting.erase c,
      filling := some ⟨c, q.run.now, q.run.cache⟩,
      events := .served c q.run.now none :: q.events } := by
  unfold serve
  rw [h]

theorem serve_waiting (q : Queue ε α) (c : Caller) : (q.serve c).waiting = q.waiting.erase c := by
  unfold serve
  split <;> rfl

theorem serve_now (q : Queue ε α) (c : Caller) : (q.serve c).run.now = q.run.now := by
  unfold serve
  split <;> rfl

theorem serve_events (q : Queue ε α) (c : Caller) :
    (q.serve c).events =
      .served c q.run.now (q.run.cache.begin c.key q.run.now).1 :: q.events := by
  unfold serve
  split <;> rename_i heq <;> rw [heq]

theorem finish_error (q : Queue ε α) (ttl : Nat) (f : Filling α) (e : ε) :
    q.finish ttl f (.error e) = { q with
      filling := none,
      events := .ended f.caller f.since q.run.now (.error e) (.error (.failed e)) :: q.events } :=
  rfl

/-- A computation that yields a value stores it, as long as its deadline is in range. -/
theorem finish_ok (q : Queue ε α) (f : Filling α) (value : α) (hb : q.run.now + ttl < horizon) :
    ∃ cache, q.run.cache.finish f.caller.key value q.run.now ttl = some cache ∧
      q.finish ttl f (.ok value) = { q with
        run := { q.run with cache, stored := q.run.stored + 1 }, filling := none,
        events := .ended f.caller f.since q.run.now (.ok value) (.ok value) :: q.events } := by
  have hsome : ∃ cache, q.run.cache.finish f.caller.key value q.run.now ttl = some cache := by
    simp [Cache.finish, deadline?, hb]
  obtain ⟨cache, hcache⟩ := hsome
  refine ⟨cache, hcache, ?_⟩
  simp [finish, Run.complete, hcache]

theorem finish_now (q : Queue ε α) (ttl : Nat) (f : Filling α) (result : Except ε α) :
    (q.finish ttl f result).run.now = q.run.now := by
  cases result with
  | error e => rfl
  | ok value =>
    unfold finish Run.complete
    dsimp only
    split <;> rfl

/-- The timer does not go back. -/
theorem Step.now_le {q' : Queue ε α} (h : Step ttl q q') : q.run.now ≤ q'.run.now := by
  cases h with
  | call | abandon | leave => exact Nat.le_refl _
  | serve c => exact Nat.le_of_eq (serve_now q c).symm
  | finish f _ result => exact Nat.le_of_eq (finish_now q ttl f result).symm
  | advance span => exact Nat.le_add_right ..

/-! ## Whole calls -/

/-- A caller that finds the lock free and the queue empty is served at once. -/
theorem call_serve (ttl : Nat) (q : Queue ε α) (key : String) (hfree : q.filling = none) :
    Relation.ReflTransGen (Step ttl) q ((q.call key).serve ⟨q.calls, key⟩) :=
  .tail (.single (.call q key)) (.serve _ _ hfree (by simp [call]))

/-- **A call as a whole is a run of these steps**: the cache, the timer and the counts end up the same, and
the caller gets the same answer. -/
theorem exists_run_get (q : Queue ε α) (ttl : Nat) (call : Call ε α) (hfree : q.filling = none) :
    ∃ q', Relation.ReflTransGen (Step ttl) q q' ∧ q'.run = (q.run.get ttl call).2 ∧
      q'.filling = none ∧
      ((∃ value, (q.run.get ttl call).1 = .ok value ∧
          q'.events.head? = some (.served ⟨q.calls, call.key⟩ q.run.now (some value))) ∨
        q'.events.head? = some (.ended ⟨q.calls, call.key⟩ q.run.now (q.run.now + call.span)
          call.result (q.run.get ttl call).1)) := by
  have hstart := call_serve ttl q call.key hfree
  cases hbegin : q.run.cache.begin call.key q.run.now with
  | mk found cache =>
    cases found with
    | some value =>
      have hserve := serve_of_some (q := q.call call.key) (c := ⟨q.calls, call.key⟩) hbegin
      rw [hserve] at hstart
      refine ⟨_, hstart, ?_, hfree, .inl ⟨value, ?_, rfl⟩⟩
      · simp [Run.get, hbegin, Queue.call]
      · simp [Run.get, hbegin]
    | none =>
      have hserve := serve_of_none (q := q.call call.key) (c := ⟨q.calls, call.key⟩) hbegin
      rw [hserve] at hstart
      refine ⟨_, .tail (.tail hstart (.advance _ call.span)) (.finish _ _ rfl call.result), ?_, ?_, ?_⟩
      · simp [Run.get, hbegin, finish, advance, Queue.call]
      · rfl
      · refine .inr ?_
        simp [Run.get, hbegin, finish, advance, Queue.call, Run.advance, Run.start]

/-- **A call that is given up after a time is a run of these steps.** -/
theorem exists_run_getWithin (q : Queue ε α) (ttl : Nat) (call : Call ε α) (patience : Nat)
    (hfree : q.filling = none) :
    ∃ q', Relation.ReflTransGen (Step ttl) q q' ∧
      q'.run = (q.run.getWithin ttl call patience).2 ∧ q'.filling = none := by
  by_cases hanswered : (q.run.cache.begin call.key q.run.now).1 = none ∧ patience < call.span
  · obtain ⟨hnone, hlate⟩ := hanswered
    have hstart := call_serve ttl q call.key hfree
    cases hbegin : q.run.cache.begin call.key q.run.now with
    | mk found cache =>
      rw [hbegin] at hnone
      obtain rfl : found = none := hnone
      have hserve := serve_of_none (q := q.call call.key) (c := ⟨q.calls, call.key⟩) hbegin
      rw [hserve] at hstart
      refine ⟨_, .tail (.tail hstart (.advance _ patience)) (.abandon _ _ rfl), ?_, rfl⟩
      simp [Run.getWithin, hbegin, Nat.not_le.mpr hlate, abandon, advance, Queue.call]
  · obtain ⟨q', hrun, hq', hlock, -⟩ := exists_run_get q ttl call hfree
    refine ⟨q', hrun, ?_, hlock⟩
    rw [hq']
    cases hbegin : q.run.cache.begin call.key q.run.now with
    | mk found cache =>
      cases found with
      | some value => simp [Run.get, Run.getWithin, hbegin]
      | none =>
        have hspan : call.span ≤ patience :=
          Nat.not_lt.mp fun hlate => hanswered ⟨by rw [hbegin], hlate⟩
        simp [Run.get, Run.getWithin, hbegin, hspan]

end Queue

end BlindMint.Cache
