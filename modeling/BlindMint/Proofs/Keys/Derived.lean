import BlindMint.KeyStore
import BlindMint.Proofs.Source
import Mathlib.Data.List.Forall2
import Mathlib.Logic.Relation

/-!
# The kept key pairs are the derived ones

A key pair is a function of the master secret and of its interval, as long as the expander answers the same
however often it has been asked. The cache adds nothing to that: if the master secret does not change, then
every key pair that is in the cache, and so every key pair that is ever returned, is the one derived for its
interval. A run may look pairs up and keep new ones in any order and at any times, which includes calls
that overlap, fail or are given up, and between two steps anything else in the world may change.

## Results

* `Expander.IsPure.derive_eq`: a pure expander derives the same key whatever it was asked before.
* `KeyStore.cacheKey_inj`: different intervals are kept under different keys.
* `KeyStore.Kept.move`: what is in the cache is what was given to it.
* **`KeyStore.Reachable.activeKeyPair_ok`**, **`KeyStore.Reachable.validationKeys_ok`**: what signs and what is
  accepted, in terms of the master secret alone.
* `KeyStore.activeKeyPair_run`, `KeyStore.validationKeys_run`: both calls are runs of these steps.
-/

namespace BlindMint

/-! ## Derivation -/

/-- An expander whose answers do not depend on how often it was asked. -/
def Expander.IsPure (expander : Expander) : Prop :=
  ∀ calls ikm salt buffer, expander.expand calls ikm salt buffer = expander.expand 0 ikm salt buffer

theorem Expander.hkdf_isPure : Expander.hkdf.IsPure := fun _ _ _ _ => rfl

theorem Expander.IsPure.attempt_eq {expander : Expander} (h : expander.IsPure) (calls : Nat)
    (secret : MasterSecret) (interval : UInt64) (curve : Curve) (remaining counter : Nat)
    (buffer : Octets) :
    Derivation.attempt expander calls secret interval curve remaining counter buffer =
      Derivation.attempt expander 0 secret interval curve remaining counter buffer := by
  induction remaining generalizing counter buffer with
  | zero => rfl
  | succ remaining ih =>
    rw [Derivation.attempt, Derivation.attempt, h (calls + counter), h (0 + counter)]
    split
    · rfl
    · split
      · rfl
      · rw [ih]

theorem Expander.IsPure.derive_eq {expander : Expander} (h : expander.IsPure) (calls : Nat)
    (secret : MasterSecret) (interval : UInt64) (curve : Curve) :
    derive expander calls secret interval curve = derive expander 0 secret interval curve :=
  h.attempt_eq calls secret interval curve _ _ _

/-! ## Names of intervals -/

theorem Decimal.ofNat_inj {m n : Nat} : Decimal.ofNat m = Decimal.ofNat n ↔ m = n := by
  refine ⟨fun h => ?_, fun h => h ▸ rfl⟩
  have hdigits : Nat.toDigits 10 m = Nat.toDigits 10 n := by
    simpa only [Decimal.ofNat, Decimal.digits, String.toList_ofList] using congrArg String.toList h
  calc m = Nat.ofDigitChars 10 (Nat.toDigits 10 m) 0 := Nat.ofDigitChars_ten_toDigits.symm
    _ = Nat.ofDigitChars 10 (Nat.toDigits 10 n) 0 := by rw [hdigits]
    _ = n := Nat.ofDigitChars_ten_toDigits

namespace KeyStore

theorem cacheKey_inj {i j : UInt64} : cacheKey i = cacheKey j ↔ i = j := by
  unfold cacheKey
  rw [String.append_right_inj, Decimal.ofNat_inj, UInt64.toNat_inj]

/-- The key pair of an interval as a function of the master secret. -/
def derivedPair (k : KeyStore) (secret : MasterSecret) (interval : UInt64) : Except KeyError KeyPair :=
  (derive k.expander 0 secret interval k.settings.curve).1.map
    (.ofDerived interval k.settings.curve)

/-- Every load of the master secret that succeeds yields the given one. -/
def Unchanged (k : KeyStore) (secret : MasterSecret) (w : World) : Prop :=
  ∀ other, (w.loadMasterSecret k.settings.masterId).1 = .ok other → other = secret

/-- The master secret can be loaded, and the deadline of a pair kept now is in the timer's range. -/
structure Ready (k : KeyStore) (secret : MasterSecret) (w : World) : Prop where
  secret : (w.loadMasterSecret k.settings.masterId).1 = .ok secret
  timer : w.timer + k.settings.cacheTtl.toNat * 1000 < Cache.horizon

variable {k : KeyStore} {secret : MasterSecret} {interval : UInt64} {w v : World} {pair : KeyPair}

theorem Ready.unchanged (h : k.Ready secret w) : k.Unchanged secret w := by
  intro other hother
  exact (Except.ok.inj (h.secret.symm.trans hother)).symm

theorem Unchanged.source (h : k.Unchanged secret w) (hs : SameSource w v) : k.Unchanged secret v := by
  intro other hother
  rw [hs.loadMasterSecret_fst] at hother
  exact h other hother

theorem Ready.source (h : k.Ready secret w) (hs : SameSource w v) : k.Ready secret v := by
  refine ⟨(hs.loadMasterSecret_fst _).trans h.secret, ?_⟩
  rw [hs.timer]
  exact h.timer

/-! ## One call -/

theorem begin_source (interval : UInt64) (w : World) : SameSource w (begin interval w).2 :=
  ⟨rfl, rfl, rfl, rfl⟩

theorem begin_some (h : begin interval w = (some pair, v)) :
    v = w ∧ ∃ deadline, w.keyPairs.find? (cacheKey interval) = some ⟨pair, deadline⟩ := by
  unfold begin at h
  cases hbegin : w.keyPairs.begin (cacheKey interval) w.timer with
  | mk served cache =>
    rw [hbegin] at h
    obtain ⟨rfl, rfl⟩ := Prod.mk.inj h
    obtain ⟨rfl, deadline, hentry, -⟩ := Cache.begin_of_some hbegin
    exact ⟨rfl, deadline, hentry⟩

theorem begin_none (h : begin interval w = (none, v)) :
    v.keyPairs = w.keyPairs.erase (cacheKey interval) := by
  unfold begin at h
  cases hbegin : w.keyPairs.begin (cacheKey interval) w.timer with
  | mk served cache =>
    rw [hbegin] at h
    obtain ⟨rfl, rfl⟩ := Prod.mk.inj h
    exact Cache.begin_of_none hbegin

/-- Deriving a pair counts, and does nothing else to a key store. -/
theorem compute_sameCaches (k : KeyStore) (interval : UInt64) (w : World) :
    SameCaches w (k.compute interval w).2 := by
  have h := loadMasterSecret_sameCaches w k.settings.masterId
  unfold compute
  split
  · next heq => rwa [heq] at h
  · next heq =>
    rw [heq] at h
    dsimp only
    split <;> exact h.trans ⟨⟨rfl, rfl, rfl, rfl⟩, rfl, rfl⟩

/-- With a pure expander a pair is derived from the master secret alone. -/
theorem compute_fst (hpure : k.expander.IsPure) (interval : UInt64) (w : World) :
    (k.compute interval w).1 =
      (w.loadMasterSecret k.settings.masterId).1.bind fun secret => k.derivedPair secret interval := by
  unfold compute derivedPair
  split
  · next heq => rw [heq]; rfl
  · next secret _ heq =>
    rw [heq]
    dsimp only
    rw [hpure.derive_eq]
    cases h : (derive k.expander 0 secret interval k.settings.curve).1 <;> simp [Except.bind, h] <;> rfl

theorem compute_ok (hpure : k.expander.IsPure) (hw : k.Unchanged secret w)
    (h : (k.compute interval w).1 = .ok pair) : k.derivedPair secret interval = .ok pair := by
  rw [compute_fst hpure] at h
  obtain ⟨other, hload, hderived⟩ := exists_ok_of_bind h
  obtain rfl := hw other hload
  exact hderived

/-- Keeping a pair yields it, unless the deadline overflows. -/
theorem keep_cases (k : KeyStore) (interval : UInt64) (pair : KeyPair) (w : World) :
    k.keep interval pair w = (.error .overflow, w) ∨
    ∃ v, k.keep interval pair w = (.ok pair, v) ∧ SameSource w v ∧
      w.keyPairs.finish (cacheKey interval) pair w.timer (k.settings.cacheTtl.toNat * 1000) =
        some v.keyPairs := by
  unfold keep
  split
  · exact .inl rfl
  · next cache heq => exact .inr ⟨_, rfl, ⟨rfl, rfl, rfl, rfl⟩, heq⟩

theorem Ready.keep_fst (h : k.Ready secret w) (interval : UInt64) (pair : KeyPair) :
    (k.keep interval pair w).1 = .ok pair := by
  unfold KeyStore.keep Cache.finish Cache.deadline?
  rw [if_pos h.timer]

theorem keep_source (k : KeyStore) (interval : UInt64) (pair : KeyPair) (w : World) :
    SameSource w (k.keep interval pair w).2 := by
  rcases k.keep_cases interval pair w with hkeep | ⟨v, hkeep, hv, -⟩
  · rw [hkeep]
    exact .refl w
  · rw [hkeep]
    exact hv

/-- A call for the pair of an interval is served from the cache; or it looks in vain, and then fails to derive the
pair, or derives it and keeps it. -/
theorem keyPair_cases (k : KeyStore) (interval : UInt64) (w : World) :
    (∃ pair, begin interval w = (some pair, w) ∧ k.keyPair interval w = (.ok pair, w)) ∨
    (begin interval w).1 = none ∧
    ∃ v, SameSource w v ∧ v.keyPairs = (begin interval w).2.keyPairs ∧
      ((∃ e, (k.compute interval (begin interval w).2).1 = .error e ∧
        k.keyPair interval w = (.error (.failed e), v)) ∨
      ∃ pair, (k.compute interval (begin interval w).2).1 = .ok pair ∧
        k.keyPair interval w = k.keep interval pair v) := by
  have hsource := begin_source interval w
  unfold keyPair fill
  cases hbegin : begin interval w with
  | mk served u =>
    cases served with
    | some pair =>
      obtain ⟨rfl, -⟩ := begin_some hbegin
      exact .inl ⟨pair, rfl, rfl⟩
    | none =>
      rw [hbegin] at hsource
      have hsame := k.compute_sameCaches interval u
      dsimp only
      cases hcompute : k.compute interval u with
      | mk result v =>
        rw [hcompute] at hsame
        refine .inr ⟨rfl, v, hsource.trans hsame.toSameSource, hsame.keyPairs, ?_⟩
        cases result with
        | error e => exact .inl ⟨e, rfl, rfl⟩
        | ok pair => exact .inr ⟨pair, rfl, rfl⟩

theorem keyPair_source (k : KeyStore) (interval : UInt64) (w : World) :
    SameSource w (k.keyPair interval w).2 := by
  rcases k.keyPair_cases interval w with ⟨_, -, h⟩ | ⟨-, v, hv, -, ⟨e, -, h⟩ | ⟨pair, -, h⟩⟩
  · rw [h]
    exact .refl w
  · rw [h]
    exact hv
  · rw [h]
    exact hv.trans (k.keep_source interval pair v)

theorem publicKeys_source (k : KeyStore) (intervals : List UInt64) (w : World) :
    SameSource w (k.publicKeys intervals w).2 := by
  induction intervals generalizing w with
  | nil => exact .refl w
  | cons interval intervals ih =>
    have hfirst := k.keyPair_source interval w
    unfold publicKeys
    split
    · next heq => rwa [heq] at hfirst
    · next v heq =>
      rw [heq] at hfirst
      have hrest := hfirst.trans (ih v)
      split <;> next hkeys => rwa [hkeys] at hrest

/-- A pair that can be derived is returned. -/
theorem Ready.exists_keyPair (hw : k.Ready secret w) (hpure : k.expander.IsPure)
    (hderived : k.derivedPair secret interval = .ok pair) :
    ∃ returned, (k.keyPair interval w).1 = .ok returned := by
  rcases k.keyPair_cases interval w with
    ⟨kept, -, h⟩ | ⟨-, v, hv, -, ⟨e, he, -⟩ | ⟨computed, -, h⟩⟩
  · exact ⟨kept, by rw [h]⟩
  · rw [compute_fst hpure, (hw.source (begin_source interval w)).secret] at he
    cases hderived.symm.trans he
  · rw [h]
    exact ⟨computed, (hw.source hv).keep_fst interval computed⟩

/-! ## Runs -/

/-- One step of a run in which every pair that is kept meets a condition. -/
inductive Move (k : KeyStore) (given : UInt64 → KeyPair → Prop) : World → World → Prop
  /-- A call looks up the pair of an interval. -/
  | look (interval : UInt64) (w : World) : Move k given w (begin interval w).2
  /-- A call keeps a pair. -/
  | keep (interval : UInt64) (pair : KeyPair) (hpair : given interval pair) (w : World) :
      Move k given w (k.keep interval pair w).2
  /-- Anything happens to the rest of the world. -/
  | beside {w v : World} (h : v.keyPairs = w.keyPairs) : Move k given w v

/-- Every pair in the cache meets a condition. -/
def Kept (holds : UInt64 → KeyPair → Prop) (w : World) : Prop :=
  ∀ interval entry, w.keyPairs.find? (cacheKey interval) = some entry → holds interval entry.value

section

variable {given holds : UInt64 → KeyPair → Prop}

theorem Kept.of_empty (h : w.keyPairs = {}) : Kept holds w := by
  intro interval entry hentry
  rw [h] at hentry
  cases hentry

/-- What is in the cache is what was given to it. -/
theorem Kept.move (h : Kept holds w) (hgiven : ∀ interval pair, given interval pair → holds interval pair)
    (hmove : k.Move given w v) : Kept holds v := by
  cases hmove with
  | look interval =>
    cases hbegin : begin interval w with
    | mk served u =>
      cases served with
      | some pair =>
        obtain ⟨rfl, -⟩ := begin_some hbegin
        exact h
      | none =>
        intro other entry hentry
        rw [begin_none hbegin] at hentry
        by_cases hkey : cacheKey other = cacheKey interval
        · rw [hkey, Cache.find?_erase_self] at hentry
          cases hentry
        · exact h other entry ((Cache.find?_erase_of_ne _ hkey).symm.trans hentry)
  | keep interval pair hpair =>
    rcases k.keep_cases interval pair w with hkeep | ⟨v, hkeep, -, hfinish⟩
    · rwa [hkeep]
    · rw [hkeep]
      intro other entry hentry
      by_cases hkey : cacheKey other = cacheKey interval
      · obtain rfl := cacheKey_inj.mp hkey
        obtain rfl := Option.some.inj (hentry.symm.trans (Cache.find?_finish_self hfinish))
        exact hgiven other pair hpair
      · exact h other entry ((Cache.find?_finish_of_ne hfinish hkey).symm.trans hentry)
  | beside hsame =>
    intro other entry hentry
    exact h other entry (hsame ▸ hentry)

/-- A call for the pair of an interval is a run. -/
theorem keyPair_moves (hgiven : ∀ u, SameSource w u → ∀ interval pair,
    (k.compute interval u).1 = .ok pair → given interval pair) (interval : UInt64) :
    Relation.ReflTransGen (k.Move given) w (k.keyPair interval w).2 := by
  have hlook : k.Move given w (begin interval w).2 := .look interval w
  rcases k.keyPair_cases interval w with
    ⟨_, -, h⟩ | ⟨-, v, -, hkept, ⟨e, -, h⟩ | ⟨pair, hpair, h⟩⟩
  · rw [h]
  · rw [h]
    exact .tail (.single hlook) (.beside hkept)
  · rw [h]
    have hpair := hgiven _ (begin_source interval w) interval pair hpair
    exact .tail (.tail (.single hlook) (.beside hkept)) (.keep interval pair hpair v)

/-- A call for the keys of intervals is a run. -/
theorem publicKeys_moves (hgiven : ∀ u, SameSource w u → ∀ interval pair,
    (k.compute interval u).1 = .ok pair → given interval pair) (intervals : List UInt64) :
    Relation.ReflTransGen (k.Move given) w (k.publicKeys intervals w).2 := by
  induction intervals generalizing w with
  | nil => exact .refl
  | cons interval intervals ih =>
    have hfirst := keyPair_moves hgiven interval
    have hsource := k.keyPair_source interval w
    unfold publicKeys
    split
    · next heq => rwa [heq] at hfirst
    · next v heq =>
      rw [heq] at hfirst hsource
      have hrest := ih fun u hu => hgiven u (hsource.trans hu)
      split <;> next hkeys =>
        rw [hkeys] at hrest
        exact hfirst.trans hrest

end

/-- One step of a run in which the master secret does not change. -/
inductive Step (k : KeyStore) (secret : MasterSecret) : World → World → Prop
  /-- A call looks up the pair of an interval. -/
  | look (interval : UInt64) (w : World) : Step k secret w (begin interval w).2
  /-- A call keeps the pair that it has derived, perhaps some time ago. -/
  | keep (interval : UInt64) (pair : KeyPair) {u : World} (hu : k.Unchanged secret u)
      (hpair : (k.compute interval u).1 = .ok pair) (w : World) :
      Step k secret w (k.keep interval pair w).2
  /-- Anything happens to the rest of the world. -/
  | beside {w v : World} (h : v.keyPairs = w.keyPairs) : Step k secret w v

/-- A world that a run from an empty cache leads to. -/
def Reachable (k : KeyStore) (secret : MasterSecret) (w : World) : Prop :=
  ∃ start : World, start.keyPairs = {} ∧ Relation.ReflTransGen (k.Step secret) start w

/-- Every pair in the cache is the one derived for its interval. -/
def Faithful (k : KeyStore) (secret : MasterSecret) (w : World) : Prop :=
  ∀ interval entry, w.keyPairs.find? (cacheKey interval) = some entry →
    k.derivedPair secret interval = .ok entry.value

theorem Reachable.run (h : k.Reachable secret w)
    (hrun : Relation.ReflTransGen (k.Step secret) w v) : k.Reachable secret v := by
  obtain ⟨start, hempty, hstart⟩ := h
  exact ⟨start, hempty, hstart.trans hrun⟩

/-- A call derives the pair while the master secret is the given one. -/
def ComputedFrom (k : KeyStore) (secret : MasterSecret) (interval : UInt64) (pair : KeyPair) : Prop :=
  ∃ u, k.Unchanged secret u ∧ (k.compute interval u).1 = .ok pair

theorem step_iff_move : k.Step secret w v ↔ k.Move (k.ComputedFrom secret) w v := by
  constructor
  · rintro (⟨interval⟩ | ⟨interval, pair, hu, hpair⟩ | h)
    · exact .look interval w
    · exact .keep interval pair ⟨_, hu, hpair⟩ w
    · exact .beside h
  · rintro (⟨interval⟩ | ⟨interval, pair, ⟨u, hu, hpair⟩⟩ | h)
    · exact .look interval w
    · exact .keep interval pair hu hpair w
    · exact .beside h

theorem Faithful.step (hpure : k.expander.IsPure) (h : k.Faithful secret w)
    (hstep : k.Step secret w v) : k.Faithful secret v := by
  have hkept : Kept (fun interval pair => k.derivedPair secret interval = .ok pair) w := h
  exact hkept.move (fun _ _ ⟨_, hu, hpair⟩ => compute_ok hpure hu hpair) (step_iff_move.mp hstep)

theorem Reachable.faithful (hpure : k.expander.IsPure) (h : k.Reachable secret w) :
    k.Faithful secret w := by
  obtain ⟨start, hempty, hrun⟩ := h
  induction hrun with
  | refl =>
    have hkept : Kept (fun interval pair => k.derivedPair secret interval = .ok pair) start :=
      .of_empty hempty
    exact hkept
  | tail _ hstep ih => exact ih.step hpure hstep

theorem keyPair_run (hw : k.Unchanged secret w) (interval : UInt64) :
    Relation.ReflTransGen (k.Step secret) w (k.keyPair interval w).2 :=
  (keyPair_moves (fun u hu _ _ hpair => ⟨u, hw.source hu, hpair⟩) interval).lift id
    fun _ _ => step_iff_move.mpr

theorem publicKeys_run (hw : k.Unchanged secret w) (intervals : List UInt64) :
    Relation.ReflTransGen (k.Step secret) w (k.publicKeys intervals w).2 :=
  (publicKeys_moves (fun u hu _ _ hpair => ⟨u, hw.source hu, hpair⟩) intervals).lift id
    fun _ _ => step_iff_move.mpr

/-- A call for the pair that signs is a run. -/
theorem activeKeyPair_run (hw : k.Unchanged secret w) :
    Relation.ReflTransGen (k.Step secret) w (k.activeKeyPair w).2 :=
  keyPair_run hw _

/-- A call for the keys that are accepted is a run. -/
theorem validationKeys_run (hw : k.Unchanged secret w) :
    Relation.ReflTransGen (k.Step secret) w (k.validationKeys w).2 :=
  publicKeys_run hw _

/-! ## What is returned -/

theorem Reachable.keyPair_ok (hreach : k.Reachable secret w) (hpure : k.expander.IsPure)
    (hw : k.Unchanged secret w) (hpair : (k.keyPair interval w).1 = .ok pair) :
    k.derivedPair secret interval = .ok pair := by
  rcases k.keyPair_cases interval w with
    ⟨kept, hserved, h⟩ | ⟨-, v, -, -, ⟨e, -, h⟩ | ⟨computed, hcomputed, h⟩⟩
  · rw [h] at hpair
    obtain rfl := Except.ok.inj hpair
    obtain ⟨-, deadline, hentry⟩ := begin_some hserved
    exact hreach.faithful hpure interval _ hentry
  · rw [h] at hpair
    cases hpair
  · rw [h] at hpair
    rcases k.keep_cases interval computed v with hkeep | ⟨_, hkeep, -⟩
    · rw [hkeep] at hpair
      cases hpair
    · rw [hkeep] at hpair
      obtain rfl := Except.ok.inj hpair
      exact compute_ok hpure (hw.source (begin_source interval w)) hcomputed

/-- **What signs is the pair derived for the present interval.** -/
theorem Reachable.activeKeyPair_ok (hreach : k.Reachable secret w) (hpure : k.expander.IsPure)
    (hw : k.Unchanged secret w) (h : (k.activeKeyPair w).1 = .ok pair) :
    k.derivedPair secret (k.settings.intervalAt w.now) = .ok pair :=
  hreach.keyPair_ok hpure hw h

theorem Reachable.publicKeys_ok {intervals : List UInt64} {keys : List ValidationKey}
    (hreach : k.Reachable secret w) (hpure : k.expander.IsPure) (hw : k.Unchanged secret w)
    (h : (k.publicKeys intervals w).1 = .ok keys) :
    List.Forall₂ (fun interval key =>
      (k.derivedPair secret interval).map KeyPair.validationKey = .ok key) intervals keys := by
  induction intervals generalizing w keys with
  | nil =>
    obtain rfl := Except.ok.inj h
    exact .nil
  | cons interval intervals ih =>
    have hafter := hreach.run (keyPair_run hw interval)
    have hunchanged := hw.source (k.keyPair_source interval w)
    unfold publicKeys at h
    split at h
    · cases h
    · next pair after heq =>
      have hpair : (k.keyPair interval w).1 = .ok pair := by rw [heq]
      rw [heq] at hafter hunchanged
      split at h
      · cases h
      · next rest _ hrest =>
        obtain rfl := Except.ok.inj h
        have hkeys : (k.publicKeys intervals after).1 = .ok rest := by rw [hrest]
        refine .cons ?_ (ih hafter hunchanged hkeys)
        rw [hreach.keyPair_ok hpure hw hpair]
        rfl

/-- **What is accepted are the public halves of the pairs derived for the intervals around the present.** -/
theorem Reachable.validationKeys_ok {keys : List ValidationKey} (hreach : k.Reachable secret w)
    (hpure : k.expander.IsPure) (hw : k.Unchanged secret w) (h : (k.validationKeys w).1 = .ok keys) :
    List.Forall₂ (fun interval key =>
      (k.derivedPair secret interval).map KeyPair.validationKey = .ok key)
      (k.settings.validationIntervals w.now) keys :=
  hreach.publicKeys_ok hpure hw h

/-- Keys of intervals whose pairs can be derived are returned. -/
theorem Ready.exists_publicKeys {intervals : List UInt64} (hw : k.Ready secret w)
    (hpure : k.expander.IsPure)
    (hderived : ∀ interval ∈ intervals, ∃ pair, k.derivedPair secret interval = .ok pair) :
    ∃ keys, (k.publicKeys intervals w).1 = .ok keys := by
  induction intervals generalizing w with
  | nil => exact ⟨[], rfl⟩
  | cons interval intervals ih =>
    obtain ⟨pair, hpair⟩ := hderived interval List.mem_cons_self
    obtain ⟨returned, hreturned⟩ := hw.exists_keyPair hpure hpair
    have hafter := hw.source (k.keyPair_source interval w)
    unfold publicKeys
    split
    · next heq =>
      rw [heq] at hreturned
      cases hreturned
    · next u heq =>
      rw [heq] at hafter
      obtain ⟨keys, hkeys⟩ := ih hafter fun other hother => hderived other (.tail _ hother)
      split
      · next hrest =>
        rw [hrest] at hkeys
        cases hkeys
      · exact ⟨_, rfl⟩

end KeyStore

end BlindMint
