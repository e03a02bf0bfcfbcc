/-!
# Values kept for a time

A cache keeps computed values by key until a deadline on the timer. Times on the timer are numbers of
milliseconds. Reading a key at a time before its deadline serves the value; otherwise the entry is
dropped before a new value is computed, so a computation that fails or is given up leaves none. A new
value's deadline is counted from the end of its computation, and a deadline beyond the range of the
timer is an overflow.

Results:
* `Cache.find?_finish_of_ne`: a new value leaves other keys as they are.
* `Cache.begin_eq_none_iff`: a key is computed anew iff it has no entry with a later deadline.
* `Cache.begin_of_some`, `Cache.begin_of_none`: what a call finds the cache like after it has begun.
-/

namespace BlindMint

/-- How a call that may store a value in a cache can fail. -/
inductive Failure (ε : Type) where
  /-- The computation fails. -/
  | failed (e : ε)
  /-- The deadline of the new value is beyond the range of the timer. -/
  | overflow
  deriving DecidableEq, Repr

namespace Cache

/-- A value with the time from which it is no longer served (`CacheEntry`). -/
structure Entry (α : Type) where
  value : α
  deadline : Nat
  deriving DecidableEq, Repr

/-- The first time that the timer cannot show. -/
def horizon : Nat := (UInt64.size / 2 - 1) * 1000

/-- The deadline of a value that is kept for `ttl` from `now` on. -/
def deadline? (now ttl : Nat) : Option Nat :=
  if now + ttl < horizon then some (now + ttl) else none

end Cache

/-- Values by key, each with its deadline (`CredentialCache`). -/
structure Cache (α : Type) where
  entries : List (String × Cache.Entry α) := []
  deriving DecidableEq, Repr

namespace Cache

variable {α : Type}

/-- The entry of a key. -/
def find? (c : Cache α) (key : String) : Option (Entry α) :=
  c.entries.lookup key

/-- The number of entries, expired ones included (`len`). -/
def size (c : Cache α) : Nat :=
  c.entries.length

/-- The cache without a key. -/
def erase (c : Cache α) (key : String) : Cache α :=
  ⟨c.entries.filter fun entry => entry.1 != key⟩

/-- Begin a call for a key: the value served, or none after the key's entry has been dropped (`get_or_compute`). -/
def begin (c : Cache α) (key : String) (now : Nat) : Option α × Cache α :=
  match c.find? key with
  | some entry => if now < entry.deadline then (some entry.value, c) else (none, c.erase key)
  | none => (none, c.erase key)

/-- Store a value computed for a key at the time `now`; none if its deadline overflows (`get_or_compute`). -/
def finish (c : Cache α) (key : String) (value : α) (now ttl : Nat) : Option (Cache α) :=
  match deadline? now ttl with
  | some deadline => some ⟨(key, ⟨value, deadline⟩) :: (c.erase key).entries⟩
  | none => none

theorem lookup_filter_ne {β : Type} (entries : List (String × β)) {key other : String} (h : other ≠ key) :
    (entries.filter fun entry => entry.1 != key).lookup other = entries.lookup other := by
  induction entries with
  | nil => rfl
  | cons entry entries ih =>
    obtain ⟨k, v⟩ := entry
    by_cases hk : k = key
    · have ho : (other == k) = false := by simpa [hk] using h
      simp [hk, List.lookup_cons, show (other == key) = false by simpa using h, ih]
    · by_cases ho : other = k
      · simp [hk, ho]
      · have ho' : (other == k) = false := by simpa using ho
        simp [hk, List.lookup_cons, ho', ih]

theorem lookup_filter_self {β : Type} (entries : List (String × β)) (key : String) :
    (entries.filter fun entry => entry.1 != key).lookup key = none := by
  induction entries with
  | nil => rfl
  | cons entry entries ih =>
    obtain ⟨k, v⟩ := entry
    by_cases hk : k = key
    · simp [hk, ih]
    · have ho : (key == k) = false := by simpa using fun e => hk e.symm
      simp [hk, List.lookup_cons, ho, ih]

@[simp] theorem find?_erase_self (c : Cache α) (key : String) : (c.erase key).find? key = none :=
  lookup_filter_self c.entries key

theorem find?_erase_of_ne (c : Cache α) {key other : String} (h : other ≠ key) :
    (c.erase key).find? other = c.find? other :=
  lookup_filter_ne c.entries h

theorem begin_eq_none_iff (c : Cache α) (key : String) (now : Nat) :
    (c.begin key now).1 = none ↔ ∀ entry, c.find? key = some entry → entry.deadline ≤ now := by
  unfold begin
  cases h : c.find? key with
  | none => simp
  | some entry =>
    by_cases hd : now < entry.deadline
    · simp [hd]
    · simp [hd]
      omega

/-- A value that is served is one whose deadline is ahead, and serving it changes nothing. -/
theorem begin_of_some {c d : Cache α} {key : String} {now : Nat} {value : α}
    (h : c.begin key now = (some value, d)) :
    d = c ∧ ∃ deadline, c.find? key = some ⟨value, deadline⟩ ∧ now < deadline := by
  unfold begin at h
  split at h
  · next entry hentry =>
    split at h
    · next hlive =>
      obtain ⟨hvalue, rfl⟩ := Prod.mk.inj h
      obtain rfl := Option.some.inj hvalue
      exact ⟨rfl, entry.deadline, hentry, hlive⟩
    · cases h
  · cases h

/-- A key that is computed anew has lost its entry. -/
theorem begin_of_none {c d : Cache α} {key : String} {now : Nat}
    (h : c.begin key now = (none, d)) : d = c.erase key := by
  unfold begin at h
  split at h
  · split at h
    · cases h
    · exact (Prod.mk.inj h).2.symm
  · exact (Prod.mk.inj h).2.symm

theorem find?_finish_self {c d : Cache α} {key : String} {value : α} {now ttl : Nat}
    (h : c.finish key value now ttl = some d) : d.find? key = some ⟨value, now + ttl⟩ := by
  unfold finish deadline? at h
  by_cases hh : now + ttl < horizon
  · simp only [hh, if_true, Option.some.injEq] at h
    simp [← h, find?]
  · simp [hh] at h

theorem find?_finish_of_ne {c d : Cache α} {key other : String} {value : α} {now ttl : Nat}
    (h : c.finish key value now ttl = some d) (ho : other ≠ key) : d.find? other = c.find? other := by
  unfold finish at h
  split at h
  · simp only [Option.some.injEq] at h
    have hne : (other == key) = false := by simpa using ho
    rw [← h, ← find?_erase_of_ne c ho]
    simp [find?, List.lookup_cons, hne]
  · cases h

end Cache

end BlindMint
