/-!
# Counters

What the service counts while it runs. A counter has a name under which it is exposed; it is listed from
the moment it is first touched, even by zero.

Results:
* `Counters.get_add_self`, `Counters.get_add_of_ne`: adding changes the counter named and no other.
-/

namespace BlindMint

/-- What is counted. -/
inductive Counter where
  /-- Values computed for a cache. -/
  | cacheFills (cache : String)
  /-- Ledger decisions by outcome. -/
  | issuance (outcome : String)
  /-- Verifications by outcome. -/
  | verifications (outcome : String)
  /-- Records deleted by sweeps, by table. -/
  | swept (table : String)
  /-- Uses of an RSA master key. -/
  | rsaMasterKey
  deriving DecidableEq, Repr

/-- A name with one label. -/
def Counter.labelled (name label value : String) : String :=
  name ++ "\x7b" ++ label ++ "=\"" ++ value ++ "\"\x7d"

/-- The name under which a counter is exposed. -/
def Counter.name : Counter → String
  | .cacheFills cache => labelled "anontoken_cache_fills_total" "kind" cache
  | .issuance outcome => labelled "anontoken_issuance_total" "outcome" outcome
  | .verifications outcome => labelled "anontoken_verifications_total" "outcome" outcome
  | .swept table => labelled "anontoken_sweep_deleted_total" "table" table
  | .rsaMasterKey => "anontoken_legacy_rsa_master_key_total"

/-- The counters touched so far, with their values. -/
structure Counters where
  touched : List (Counter × Nat) := []
  deriving DecidableEq, Repr

namespace Counters

/-- The value of a counter; zero if it was never touched. -/
def get (c : Counters) (counter : Counter) : Nat :=
  (c.touched.lookup counter).getD 0

/-- Add to a counter in a list. -/
def addTo (counter : Counter) (amount : Nat) : List (Counter × Nat) → List (Counter × Nat)
  | [] => [(counter, amount)]
  | (k, v) :: rest => if k = counter then (k, v + amount) :: rest else (k, v) :: addTo counter amount rest

/-- Add to a counter. -/
def add (c : Counters) (counter : Counter) (amount : Nat) : Counters :=
  ⟨addTo counter amount c.touched⟩

theorem lookup_addTo_self (counter : Counter) (amount : Nat) (rows : List (Counter × Nat)) :
    (addTo counter amount rows).lookup counter = some ((rows.lookup counter).getD 0 + amount) := by
  induction rows with
  | nil => simp [addTo]
  | cons row rows ih =>
    obtain ⟨k, v⟩ := row
    by_cases h : k = counter
    · simp [addTo, h]
    · have h' : (counter == k) = false := by simpa using fun e => h e.symm
      simp [addTo, h, List.lookup_cons, h', ih]

theorem lookup_addTo_of_ne {counter other : Counter} (h : other ≠ counter) (amount : Nat)
    (rows : List (Counter × Nat)) : (addTo counter amount rows).lookup other = rows.lookup other := by
  induction rows with
  | nil =>
    have h' : (other == counter) = false := by simpa using h
    simp [addTo, List.lookup_cons, h']
  | cons row rows ih =>
    obtain ⟨k, v⟩ := row
    by_cases hk : k = counter
    · have h' : (other == k) = false := by simpa [hk] using h
      simp [addTo, hk, List.lookup_cons, show (other == counter) = false by simpa using h]
    · by_cases ho : other = k
      · simp [addTo, hk, ho]
      · have h' : (other == k) = false := by simpa using ho
        simp [addTo, hk, List.lookup_cons, h', ih]

theorem get_add_self (c : Counters) (counter : Counter) (amount : Nat) :
    (c.add counter amount).get counter = c.get counter + amount := by
  simp [get, add, lookup_addTo_self]

theorem get_add_of_ne (c : Counters) {counter other : Counter} (h : other ≠ counter) (amount : Nat) :
    (c.add counter amount).get other = c.get other := by
  simp [get, add, lookup_addTo_of_ne h]

end Counters

end BlindMint
