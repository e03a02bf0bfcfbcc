import BlindMint.Cache

/-!
# A cache in use

Calls for keys come one after the other while a timer runs. A call that is not served starts a computation,
which takes time and ends with a value or a failure; the caller may give the call up before that. A run
keeps the cache, the timer, and how many computations were started and how many values were stored.
-/

namespace BlindMint.Cache

/-- A call: the key, and what its computation would take and yield. -/
structure Call (ε α : Type) where
  key : String
  result : Except ε α
  /-- The time that the computation takes. -/
  span : Nat := 0

/-- A cache in use. -/
structure Run (α : Type) where
  cache : Cache α := {}
  /-- The timer. -/
  now : Nat := 0
  /-- Computations started so far. -/
  started : Nat := 0
  /-- Values stored so far. -/
  stored : Nat := 0

namespace Run

variable {ε α : Type}

/-- Let time pass. -/
def advance (r : Run α) (span : Nat) : Run α :=
  { r with now := r.now + span }

/-- Start a computation: the cache as it was left by `begin`, and one more computation. -/
def start (r : Run α) (cache : Cache α) : Run α :=
  { r with cache, started := r.started + 1 }

/-- End a computation: store the value it yields. -/
def complete (r : Run α) (ttl : Nat) (key : String) (result : Except ε α) :
    Except (Failure ε) α × Run α :=
  match result with
  | .error e => (.error (.failed e), r)
  | .ok value =>
    match r.cache.finish key value r.now ttl with
    | none => (.error .overflow, r)
    | some cache => (.ok value, { r with cache, stored := r.stored + 1 })

/-- Answer a call. -/
def get (r : Run α) (ttl : Nat) (call : Call ε α) : Except (Failure ε) α × Run α :=
  match r.cache.begin call.key r.now with
  | (some value, cache) => (.ok value, { r with cache })
  | (none, cache) => ((r.start cache).advance call.span).complete ttl call.key call.result

/-- Answer a call that is given up after a time, unless it has been answered by then. -/
def getWithin (r : Run α) (ttl : Nat) (call : Call ε α) (patience : Nat) :
    Option (Except (Failure ε) α) × Run α :=
  match r.cache.begin call.key r.now with
  | (some value, cache) => (some (.ok value), { r with cache })
  | (none, cache) =>
    if call.span ≤ patience then
      let (answer, r) := ((r.start cache).advance call.span).complete ttl call.key call.result
      (some answer, r)
    else (none, (r.start cache).advance patience)

/-- Answer calls in order. -/
def getAll (ttl : Nat) : List (Call ε α) → Run α → List (Except (Failure ε) α) × Run α
  | [], r => ([], r)
  | call :: calls, r =>
    let (answer, r) := r.get ttl call
    let (answers, r) := getAll ttl calls r
    (answer :: answers, r)

end Run

end BlindMint.Cache
