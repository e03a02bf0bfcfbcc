import BlindMint.Proofs.Keys.Derived
import BlindMint.Proofs.Ledger.Request
import Mathlib.Algebra.Group.Nat.Defs

/-!
# Which instants the accepted keys cover

The keys that are accepted at an instant are those of three intervals: those of the instant itself, of the
instant one tolerance earlier and of the instant one tolerance later. They are meant for everything that is
signed within the tolerance. If the tolerance is no longer than an interval, then no interval fits between
two of the three instants, and every instant within the tolerance falls into one of the three. If it is
longer, then there are instants, such as the start of interval two, at which the keys of the interval just
before are not accepted, although pairs that were used a second ago are of that interval.

## Results

* `KeySettings.intervalAt_mem`: the three intervals are all that an instant within the tolerance can be in, if
  the tolerance is no longer than an interval.
* **`KeyStore.accepts_within_tolerance`**: then whatever signs within the tolerance is accepted, in every two
  worlds that runs with one master secret lead to.
* `KeyStore.misses_previous_interval`: with every longer tolerance something is missed, and
  `KeyStore.misses_previous_interval_sample` is an instance with three and four days.
-/

namespace BlindMint

/-! ## Intervals -/

theorem Instant.sinceEpoch_lt (t : Instant) : t.sinceEpoch < 2 ^ 63 := by
  have := t.toInt_lt
  unfold sinceEpoch
  omega

/-- Of three instants that are no further apart than an interval is long, the one in the middle is in the
interval of the first or of the last. -/
theorem div_eq_of_between {a b c p : Nat} (hp : 0 < p) (hab : a ≤ b) (hbc : b ≤ c) (hca : c ≤ a + p) :
    b / p = a / p ∨ b / p = c / p := by
  have hlow : a / p ≤ b / p := Nat.div_le_div_right hab
  have hhigh : b / p ≤ c / p := Nat.div_le_div_right hbc
  have hspan : c / p ≤ a / p + 1 := by
    calc c / p ≤ (a + p) / p := Nat.div_le_div_right hca
      _ = a / p + 1 := Nat.add_div_right a hp
  omega

namespace KeySettings

/-- How long an interval lasts. -/
def period (s : KeySettings) : Nat := max s.rotationInterval.toNat 1

variable {s : KeySettings} {now t : Instant}

theorem period_pos (s : KeySettings) : 0 < s.period := by
  unfold period
  omega

theorem toNat_intervalAt (h : s.rotationEnabled = true) (t : Instant) :
    (s.intervalAt t).toNat = t.sinceEpoch / s.period := by
  have hsmall : t.sinceEpoch / s.period < 2 ^ 64 :=
    Nat.lt_of_le_of_lt (Nat.div_le_self ..) (Nat.lt_trans t.sinceEpoch_lt (by decide))
  unfold intervalAt
  rw [if_pos h, UInt64.toNat_ofNat']
  exact Nat.mod_eq_of_lt hsmall

theorem intervalAt_eq_iff (h : s.rotationEnabled = true) {t u : Instant} :
    s.intervalAt t = s.intervalAt u ↔ t.sinceEpoch / s.period = u.sinceEpoch / s.period := by
  rw [← UInt64.toNat_inj, toNat_intervalAt h, toNat_intervalAt h]

theorem mem_validationIntervals_iff (h : s.rotationEnabled = true) {i : UInt64} :
    i ∈ s.validationIntervals now ↔
      i = s.intervalAt (now.earlier s.rollover.capped) ∨ i = s.intervalAt now ∨
        i = s.intervalAt (now.later s.rollover.capped) := by
  simp [validationIntervals, h, mem_insertInterval]

/-- **The intervals around an instant cover the tolerance**, if this is no longer than an interval. -/
theorem intervalAt_mem (h : s.rotationEnabled = true) (hshort : s.rollover.toNat ≤ s.period)
    (hnear : (t.toInt - now.toInt).natAbs ≤ s.rollover.toNat) :
    s.intervalAt t ∈ s.validationIntervals now := by
  have hpos := s.period_pos
  rw [mem_validationIntervals_iff h, intervalAt_eq_iff h, intervalAt_eq_iff h, intervalAt_eq_iff h]
  by_cases hcap : s.rollover.toNat < 2 ^ 63
  · have htolerance := Duration.toInt_capped s.rollover
    have hearlier := Instant.toInt_earlier now s.rollover.capped
    have hlater := Instant.toInt_later now s.rollover.capped
    have hlow := Int64.le_toInt t
    have hhigh := Int64.toInt_lt t
    unfold Instant.maxSeconds at htolerance hearlier hlater
    unfold Instant.minSeconds at hearlier hlater
    unfold Instant.sinceEpoch
    by_cases hpast : t.toInt ≤ now.toInt
    · have hbetween := div_eq_of_between (a := (now.earlier s.rollover.capped).toInt.toNat)
        (b := t.toInt.toNat) (c := now.toInt.toNat) hpos (by omega) (by omega) (by omega)
      exact hbetween.elim .inl fun hc => .inr (.inl hc)
    · have hbetween := div_eq_of_between (a := now.toInt.toNat)
        (b := t.toInt.toNat) (c := (now.later s.rollover.capped).toInt.toNat) hpos
        (by omega) (by omega) (by omega)
      exact .inr hbetween
  · -- The tolerance is capped, but interval zero lasts until the end of time.
    have hall : ∀ u : Instant, u.sinceEpoch / s.period = 0 := by
      intro u
      have hu := u.sinceEpoch_lt
      exact Nat.div_eq_of_lt (by omega)
    exact .inr (.inl ((hall t).trans (hall now).symm))

/-- **With a longer tolerance an interval is left out**: at the start of interval two, interval one is not
among the three. -/
theorem one_not_mem (h : s.rotationEnabled = true) (hlong : s.period < s.rollover.toNat)
    (hnow : now.toInt = 2 * s.period) : (1 : UInt64) ∉ s.validationIntervals now := by
  have hpos := s.period_pos
  have htolerance := Duration.toInt_capped s.rollover
  have hearlier := Instant.toInt_earlier now s.rollover.capped
  have hlater := Instant.toInt_later now s.rollover.capped
  have hrange := Int64.toInt_lt now
  unfold Instant.maxSeconds at htolerance hearlier hlater
  unfold Instant.minSeconds at hearlier hlater
  have hfirst : (now.earlier s.rollover.capped).sinceEpoch / s.period = 0 := by
    refine Nat.div_eq_of_lt ?_
    unfold Instant.sinceEpoch
    omega
  have hcurrent : 2 ≤ now.sinceEpoch / s.period := by
    rw [Nat.le_div_iff_mul_le hpos]
    unfold Instant.sinceEpoch
    omega
  have hlast : 2 ≤ (now.later s.rollover.capped).sinceEpoch / s.period := by
    rw [Nat.le_div_iff_mul_le hpos]
    unfold Instant.sinceEpoch
    omega
  rw [mem_validationIntervals_iff h, ← UInt64.toNat_inj, ← UInt64.toNat_inj, ← UInt64.toNat_inj,
    toNat_intervalAt h, toNat_intervalAt h, toNat_intervalAt h]
  show ¬ (1 = _ ∨ 1 = _ ∨ 1 = _)
  omega

end KeySettings

/-! ## Keys -/

namespace KeyStore

variable {k : KeyStore} {secret : MasterSecret} {u v : World} {pair : KeyPair} {keys : List ValidationKey}

/-- A derived pair is known by its interval. -/
theorem kid_of_derivedPair {interval : UInt64} (h : k.derivedPair secret interval = .ok pair) :
    pair.validationKey.kid = Decimal.ofNat interval.toNat := by
  obtain ⟨key, -, rfl⟩ := exists_ok_of_map h
  rfl

/-- Public halves of pairs that are known by their intervals. -/
theorem kids_of_pairs {pairOf : UInt64 → Except KeyError KeyPair} {intervals : List UInt64}
    (hkid : ∀ interval pair, pairOf interval = .ok pair →
      pair.validationKey.kid = Decimal.ofNat interval.toNat)
    (h : List.Forall₂ (fun interval key => (pairOf interval).map KeyPair.validationKey = .ok key)
      intervals keys) :
    keys.map ValidationKey.kid = intervals.map fun interval => Decimal.ofNat interval.toNat := by
  induction h with
  | nil => rfl
  | @cons interval key intervals keys hkey _ ih =>
    obtain ⟨pair, hpair, rfl⟩ := exists_ok_of_map hkey
    rw [List.map_cons, List.map_cons, hkid interval pair hpair, ih]

/-- The public half of the pair of any of the intervals is among the keys. -/
theorem exists_pair_of_mem {pairOf : UInt64 → Except KeyError KeyPair} {interval : UInt64}
    {intervals : List UInt64}
    (h : List.Forall₂ (fun interval key => (pairOf interval).map KeyPair.validationKey = .ok key)
      intervals keys) (hmem : interval ∈ intervals) :
    ∃ pair, pairOf interval = .ok pair ∧ pair.validationKey ∈ keys := by
  induction h with
  | nil => cases hmem
  | cons hkey _ ih =>
    obtain ⟨pair, hpair, rfl⟩ := exists_ok_of_map hkey
    rcases List.mem_cons.mp hmem with rfl | hmem
    · exact ⟨pair, hpair, List.mem_cons_self⟩
    · obtain ⟨other, hother, hkey⟩ := ih hmem
      exact ⟨other, hother, List.mem_cons_of_mem _ hkey⟩

/-- The intervals around an instant have different names. -/
theorem nodup_names (s : KeySettings) (now : Instant) :
    ((s.validationIntervals now).map fun interval => Decimal.ofNat interval.toNat).Nodup := by
  refine ((validationIntervals_sorted s now).imp UInt64.ne_of_lt).map _ fun i j hne hname => hne ?_
  exact UInt64.toNat_inj.mp (Decimal.ofNat_inj.mp hname)

/-- Keys are known by the intervals of the pairs that they are the public halves of. -/
theorem kids_of_derived {intervals : List UInt64}
    (h : List.Forall₂ (fun interval key =>
      (k.derivedPair secret interval).map KeyPair.validationKey = .ok key) intervals keys) :
    keys.map ValidationKey.kid = intervals.map fun interval => Decimal.ofNat interval.toNat :=
  kids_of_pairs (fun _ _ => kid_of_derivedPair) h

/-- The public half of an interval's pair is among the keys of some intervals iff the interval is. -/
theorem mem_derived_iff {interval : UInt64} {intervals : List UInt64}
    (h : List.Forall₂ (fun interval key =>
      (k.derivedPair secret interval).map KeyPair.validationKey = .ok key) intervals keys)
    (hpair : k.derivedPair secret interval = .ok pair) :
    pair.validationKey ∈ keys ↔ interval ∈ intervals := by
  constructor
  · intro hmem
    have hkid := List.mem_map_of_mem (f := ValidationKey.kid) hmem
    rw [kids_of_derived h, kid_of_derivedPair hpair] at hkid
    obtain ⟨other, hother, hname⟩ := List.mem_map.mp hkid
    obtain rfl := UInt64.toNat_inj.mp (Decimal.ofNat_inj.mp hname)
    exact hother
  · intro hmem
    obtain ⟨other, hother, hkey⟩ := exists_pair_of_mem h hmem
    obtain rfl := Except.ok.inj (hpair.symm.trans hother)
    exact hkey

/-- The keys that are accepted are known by the intervals around the present. -/
theorem kids_of_validationKeys (hpure : k.expander.IsPure) (hv : k.Reachable secret v)
    (hvsecret : k.Unchanged secret v) (hkeys : (k.validationKeys v).1 = .ok keys) :
    keys.map ValidationKey.kid =
      (k.settings.validationIntervals v.now).map fun interval => Decimal.ofNat interval.toNat :=
  kids_of_derived (hv.validationKeys_ok hpure hvsecret hkeys)

/-- A pair that signs in one world is accepted in another one iff the other one's accepted intervals include
the interval of the first one's clock. -/
theorem mem_validationKeys_iff (hpure : k.expander.IsPure) (hu : k.Reachable secret u)
    (husecret : k.Unchanged secret u) (hv : k.Reachable secret v) (hvsecret : k.Unchanged secret v)
    (hpair : (k.activeKeyPair u).1 = .ok pair) (hkeys : (k.validationKeys v).1 = .ok keys) :
    pair.validationKey ∈ keys ↔
      k.settings.intervalAt u.now ∈ k.settings.validationIntervals v.now :=
  mem_derived_iff (hv.validationKeys_ok hpure hvsecret hkeys) (hu.activeKeyPair_ok hpure husecret hpair)

/-- **Whatever signs within the tolerance is accepted**, before and after the present, if the tolerance is no
longer than an interval: in every two worlds that runs with the same unchanged master secret lead to, and
whose clocks are no further apart than the tolerance, the public half of the pair that signs in the first one
is among the keys that are accepted in the second one. Both are returned if the secret can be loaded, the
timer is in range and the derivations succeed. -/
theorem accepts_within_tolerance (hrotation : k.settings.rotationEnabled = true)
    (hpure : k.expander.IsPure) (hshort : k.settings.rollover.toNat ≤ k.settings.period)
    (hu : k.Reachable secret u) (husecret : k.Unchanged secret u)
    (hv : k.Reachable secret v) (hvsecret : k.Unchanged secret v)
    (hnear : (u.now.toInt - v.now.toInt).natAbs ≤ k.settings.rollover.toNat) :
    (∀ pair keys, (k.activeKeyPair u).1 = .ok pair → (k.validationKeys v).1 = .ok keys →
      pair.validationKey ∈ keys) ∧
    (k.Ready secret u → (∃ pair, k.derivedPair secret (k.settings.intervalAt u.now) = .ok pair) →
      ∃ pair, (k.activeKeyPair u).1 = .ok pair) ∧
    (k.Ready secret v →
      (∀ interval ∈ k.settings.validationIntervals v.now,
        ∃ pair, k.derivedPair secret interval = .ok pair) →
      ∃ keys, (k.validationKeys v).1 = .ok keys) := by
  refine ⟨fun pair keys hpair hkeys => ?_, fun hready hderived => ?_, fun hready hderived => ?_⟩
  · rw [mem_validationKeys_iff hpure hu husecret hv hvsecret hpair hkeys]
    exact KeySettings.intervalAt_mem hrotation hshort hnear
  · obtain ⟨_, hpair⟩ := hderived
    exact hready.exists_keyPair hpure hpair
  · exact hready.exists_publicKeys hpure hderived

/-- **With every longer tolerance something is missed**: what signs in the last second of interval one is not
accepted in the next second, when interval two starts. -/
theorem misses_previous_interval (hrotation : k.settings.rotationEnabled = true)
    (hpure : k.expander.IsPure) (hlong : k.settings.period < k.settings.rollover.toNat)
    (hu : k.Reachable secret u) (husecret : k.Unchanged secret u)
    (hv : k.Reachable secret v) (hvsecret : k.Unchanged secret v)
    (hsigned : u.now.toInt = 2 * k.settings.period - 1) (hnow : v.now.toInt = 2 * k.settings.period)
    (hpair : (k.activeKeyPair u).1 = .ok pair) (hkeys : (k.validationKeys v).1 = .ok keys) :
    pair.validationKey ∉ keys := by
  have hpos := k.settings.period_pos
  have hone : k.settings.intervalAt u.now = 1 := by
    have hsince : u.now.sinceEpoch = 2 * k.settings.period - 1 := by
      unfold Instant.sinceEpoch
      omega
    rw [← UInt64.toNat_inj, KeySettings.toNat_intervalAt hrotation, hsince]
    show (2 * k.settings.period - 1) / k.settings.period = 1
    exact Nat.div_eq_of_lt_le (by omega) (by omega)
  rw [mem_validationKeys_iff hpure hu husecret hv hvsecret hpair hkeys, hone]
  exact KeySettings.one_not_mem hrotation hlong hnow

namespace Sample

/-- A store with intervals of three days and a tolerance of one day. -/
def store : KeyStore := {}

/-- A store with intervals of three days and a tolerance of four days. -/
def tolerant : KeyStore := { settings := { rollover := 345600 } }

/-- The secret of the master certificate. -/
def masterSecret : MasterSecret := ⟨Http.Sample.scalar⟩

/-- The certificates that a service needs, at an instant. -/
def world (now : Instant) : World := { Http.Sample.world with now }

theorem reachable (k : KeyStore) (now : Instant) : k.Reachable masterSecret (world now) :=
  ⟨world now, rfl, .refl⟩

theorem store_ready (now : Instant) : store.Ready masterSecret (world now) := by
  refine ⟨?_, ?_⟩
  · show ((world 0).loadMasterSecret "master").1 = _
    decide
  · show 0 + store.settings.cacheTtl.toNat * 1000 < Cache.horizon
    decide

theorem tolerant_ready (now : Instant) : tolerant.Ready masterSecret (world now) :=
  ⟨(store_ready now).secret, (store_ready now).timer⟩

/-- The pairs of the first four intervals can be derived. -/
theorem exists_derivedPair {interval : UInt64} (h : interval ∈ [0, 1, 2, 3]) :
    ∃ pair, store.derivedPair masterSecret interval = .ok pair := by
  have hall : [(0 : UInt64), 1, 2, 3].all fun interval =>
      (store.derivedPair masterSecret interval).isOk := by
    decide +kernel
  have hok := List.all_eq_true.mp hall interval h
  cases hpair : store.derivedPair masterSecret interval with
  | error e =>
    rw [hpair] at hok
    cases hok
  | ok pair => exact ⟨pair, rfl⟩

end Sample

/-- One second before the end of interval zero, and at the start of interval one. -/
theorem accepts_within_tolerance_sample :
    Sample.store.settings.rollover.toNat ≤ Sample.store.settings.period ∧
    ∃ pair keys, (Sample.store.activeKeyPair (Sample.world 259199)).1 = .ok pair ∧
      (Sample.store.validationKeys (Sample.world 259200)).1 = .ok keys ∧
      pair.validationKey ∈ keys := by
  have hready := Sample.store_ready
  have hreach := Sample.reachable Sample.store
  have hshort : Sample.store.settings.rollover.toNat ≤ Sample.store.settings.period := by decide
  obtain ⟨hmem, hpair, hkeys⟩ := accepts_within_tolerance (u := Sample.world 259199)
    (v := Sample.world 259200) rfl Expander.hkdf_isPure hshort
    (hreach _) (hready _).unchanged (hreach _) (hready _).unchanged (by decide)
  have hintervals : Sample.store.settings.validationIntervals 259200 ⊆ [0, 1, 2, 3] := by decide
  obtain ⟨pair, hpair⟩ := hpair (hready _) (Sample.exists_derivedPair (by decide))
  obtain ⟨keys, hkeys⟩ := hkeys (hready _) fun _ h => Sample.exists_derivedPair (hintervals h)
  exact ⟨hshort, pair, keys, hpair, hkeys, hmem pair keys hpair hkeys⟩

/-- With a tolerance of four days, the pair that signs half a day into interval one is not accepted a day
later, in interval two: only the keys of intervals zero, two and three are. -/
theorem misses_previous_interval_sample :
    Sample.tolerant.settings.rotationEnabled = true ∧ Sample.tolerant.expander.IsPure ∧
    (∀ now, Sample.tolerant.Reachable Sample.masterSecret (Sample.world now) ∧
      Sample.tolerant.Ready Sample.masterSecret (Sample.world now)) ∧
    ((Sample.world 475200).now.toInt - (Sample.world 561600).now.toInt).natAbs ≤
      Sample.tolerant.settings.rollover.toNat ∧
    ∃ pair keys, (Sample.tolerant.activeKeyPair (Sample.world 475200)).1 = .ok pair ∧
      (Sample.tolerant.validationKeys (Sample.world 561600)).1 = .ok keys ∧
      keys.map ValidationKey.kid = ["0", "2", "3"] ∧ pair.validationKey ∉ keys := by
  have hready := Sample.tolerant_ready
  have hreach := Sample.reachable Sample.tolerant
  have hpure : Sample.tolerant.expander.IsPure := Expander.hkdf_isPure
  have hintervals : Sample.tolerant.settings.validationIntervals 561600 ⊆ [0, 1, 2, 3] := by decide
  obtain ⟨derived, hsigner⟩ := Sample.exists_derivedPair (show (1 : UInt64) ∈ _ by decide)
  obtain ⟨pair, hpair⟩ := (hready 475200).exists_keyPair hpure hsigner
  obtain ⟨keys, hkeys⟩ := (hready 561600).exists_publicKeys hpure
    fun _ h => Sample.exists_derivedPair (hintervals h)
  have hkids := kids_of_validationKeys hpure (hreach _) (hready 561600).unchanged hkeys
  refine ⟨rfl, hpure, fun now => ⟨hreach now, hready now⟩, by decide, pair, keys, hpair, hkeys, ?_, ?_⟩
  · exact hkids
  · rw [mem_validationKeys_iff hpure (hreach _) (hready 475200).unchanged (hreach _)
      (hready 561600).unchanged hpair hkeys]
    decide

end KeyStore

end BlindMint
