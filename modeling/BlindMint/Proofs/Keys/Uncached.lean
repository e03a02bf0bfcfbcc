import BlindMint.Proofs.Keys.Coverage
import BlindMint.Proofs.Keys.Fetch

/-!
# The cache is not seen

A key store that keeps nothing and derives every pair anew gives the same answers as one that keeps them for a
time: the cache saves work and nothing else. This holds of every run in which the master secret does not change,
whatever the clocks do, which calls overlap or are given up, and whenever certificates cannot be read for a
while. It is stated twice. An answer is that of the store without a cache; and it is what its description says,
in terms of the master secret, the settings and the instant at which the call started (`Obtains`).

## Results

* `KeySettings.mem_validationIntervals`: the accepted intervals, with and without rotation.
* `derivePublicKeys_ok_iff`, `askUncached_ok_iff`: what a store without a cache answers.
* `signs_iff`, `Accepts.of_publishes`: the descriptions of the pair that signs and of the accepted keys.
* **`cache_transparent`**: every answer is the one of a store without a cache, and is as described.
-/

namespace BlindMint

/-! ## Intervals -/

namespace KeySettings

/-- The number of the interval of an instant. -/
def number (s : KeySettings) (t : Instant) : Nat :=
  if s.rotationEnabled then t.sinceEpoch / s.period else 1

/-- The numbers of the intervals of an instant and of the instants one tolerance earlier and later. -/
def window (s : KeySettings) (now : Instant) : List Nat :=
  [s.number (now.earlier s.rollover.capped), s.number now, s.number (now.later s.rollover.capped)]

variable {s : KeySettings} {now t : Instant}

theorem toNat_intervalAt_eq (s : KeySettings) (t : Instant) : (s.intervalAt t).toNat = s.number t := by
  cases h : s.rotationEnabled with
  | true => rw [toNat_intervalAt h, number, if_pos h]
  | false =>
    unfold intervalAt number
    rw [h]
    rfl

theorem number_static (h : s.rotationEnabled = false) (t : Instant) : s.number t = 1 := by
  simp [number, h]

/-- **The accepted intervals** are those of the window. -/
theorem mem_validationIntervals (s : KeySettings) (now : Instant) (i : UInt64) :
    i ∈ s.validationIntervals now ↔ i.toNat ∈ s.window now := by
  unfold window
  rw [List.mem_cons, List.mem_cons, List.mem_singleton]
  cases h : s.rotationEnabled with
  | true =>
    rw [mem_validationIntervals_iff h, ← toNat_intervalAt_eq, ← toNat_intervalAt_eq,
      ← toNat_intervalAt_eq, UInt64.toNat_inj, UInt64.toNat_inj, UInt64.toNat_inj]
  | false =>
    rw [number_static h, number_static h, number_static h]
    unfold validationIntervals
    rw [h, if_neg Bool.false_ne_true, List.mem_singleton, ← UInt64.toNat_inj]
    show i.toNat = 1 ↔ _
    tauto

theorem mem_window_self (s : KeySettings) (now : Instant) : s.number now ∈ s.window now :=
  List.mem_cons_of_mem _ List.mem_cons_self

/-- The window covers the tolerance, if this is no longer than an interval. -/
theorem number_mem_window (hshort : s.rollover.toNat ≤ s.rotationInterval.toNat)
    (hnear : (t.toInt - now.toInt).natAbs ≤ s.rollover.toNat) : s.number t ∈ s.window now := by
  cases h : s.rotationEnabled with
  | true =>
    rw [← toNat_intervalAt_eq, ← mem_validationIntervals]
    exact intervalAt_mem h (Nat.le_trans hshort (Nat.le_max_left ..)) hnear
  | false =>
    rw [number_static h, ← number_static h now]
    exact s.mem_window_self now

theorem length_insertInterval (i : UInt64) (js : List UInt64) :
    (insertInterval i js).length ≤ js.length + 1 := by
  induction js with
  | nil => exact Nat.le_refl _
  | cons j js ih =>
    unfold insertInterval
    split
    · exact Nat.le_refl _
    · split
      · exact Nat.le_succ _
      · exact Nat.succ_le_succ ih

theorem length_foldr_insertInterval (f : Instant → UInt64) (ts : List Instant) :
    (ts.foldr (fun t intervals => insertInterval (f t) intervals) []).length ≤ ts.length := by
  induction ts with
  | nil => exact Nat.le_refl _
  | cons t ts ih =>
    calc (insertInterval (f t) (ts.foldr (fun t intervals => insertInterval (f t) intervals) [])).length
        ≤ (ts.foldr (fun t intervals => insertInterval (f t) intervals) []).length + 1 :=
          length_insertInterval ..
      _ ≤ ts.length + 1 := Nat.succ_le_succ ih

theorem length_validationIntervals (s : KeySettings) (now : Instant) :
    (s.validationIntervals now).length ≤ 3 := by
  unfold validationIntervals
  split
  · exact length_foldr_insertInterval s.intervalAt [_, now, _]
  · decide

end KeySettings

namespace KeyStore

variable {k : KeyStore} {secret : MasterSecret} {w v : World} {t : Traffic}

/-! ## A store without a cache -/

/-- The public keys of intervals, each from a pair that is derived anew. -/
def derivePublicKeys (k : KeyStore) :
    List UInt64 → World → Except KeyError (List ValidationKey) × World
  | [], w => (.ok [], w)
  | interval :: intervals, w =>
    match k.compute interval w with
    | (.error e, w) => (.error e, w)
    | (.ok pair, w) =>
      match k.derivePublicKeys intervals w with
      | (.error e, w) => (.error e, w)
      | (.ok keys, w) => (.ok (pair.validationKey :: keys), w)

/-- Ask a store that keeps nothing. -/
def askUncached (k : KeyStore) (w : World) : Query → Except KeyError Answer × World
  | .signer =>
    let (pair, w) := k.compute (k.settings.intervalAt w.now) w
    (pair.map .signer, w)
  | .accepted =>
    let (keys, w) := k.derivePublicKeys (k.settings.validationIntervals w.now) w
    (keys.map .accepted, w)
  | .published =>
    let (keys, w) := k.derivePublicKeys (k.settings.validationIntervals w.now) w
    (keys.map .publish, w)

/-- Keys are the public halves of the pairs of intervals. -/
def Publishes (k : KeyStore) (secret : MasterSecret) (intervals : List UInt64)
    (keys : List ValidationKey) : Prop :=
  List.Forall₂ (fun interval key =>
    (k.derivedPair secret interval).map KeyPair.validationKey = .ok key) intervals keys

theorem publishes_cons_iff {interval : UInt64} {intervals : List UInt64} {keys : List ValidationKey} :
    k.Publishes secret (interval :: intervals) keys ↔
      ∃ pair rest, k.derivedPair secret interval = .ok pair ∧ k.Publishes secret intervals rest ∧
        keys = pair.validationKey :: rest := by
  constructor
  · rintro (_ | ⟨hderived, hrest⟩)
    obtain ⟨pair, hpair, rfl⟩ := exists_ok_of_map hderived
    exact ⟨pair, _, hpair, hrest, rfl⟩
  · rintro ⟨pair, rest, hpair, hrest, rfl⟩
    exact .cons (by rw [hpair]; rfl) hrest

/-- **What a store without a cache derives.** -/
theorem derivePublicKeys_ok_iff (hpure : k.expander.IsPure) {intervals : List UInt64}
    {keys : List ValidationKey} (hw : (w.loadMasterSecret k.settings.masterId).1 = .ok secret) :
    (k.derivePublicKeys intervals w).1 = .ok keys ↔ k.Publishes secret intervals keys := by
  induction intervals generalizing w keys with
  | nil =>
    constructor
    · intro h
      obtain rfl := Except.ok.inj h
      exact .nil
    · rintro ⟨⟩
      rfl
  | cons interval intervals ih =>
    have hfirst : (k.compute interval w).1 = k.derivedPair secret interval := by
      rw [compute_fst hpure, hw]
      rfl
    have hsame := (k.compute_sameCaches interval w).toSameSource.loadMasterSecret_fst k.settings.masterId
    rw [publishes_cons_iff, ← hfirst]
    unfold derivePublicKeys
    cases hcompute : k.compute interval w with
    | mk first u =>
      rw [hcompute, hw] at hsame
      cases first with
      | error e => simp
      | ok pair =>
        simp only [Except.ok.injEq, exists_and_left, exists_eq_left', ← ih hsame]
        cases k.derivePublicKeys intervals u with
        | mk rest u => cases rest <;> simp [eq_comm]

theorem value_keys_ok_iff {intervals : List UInt64} {answer : List ValidationKey → Answer} {a : Answer} :
    (Fetch.keys intervals answer).value k secret = .ok a ↔
      ∃ keys, k.Publishes secret intervals keys ∧ answer keys = a := by
  induction intervals generalizing answer with
  | nil =>
    constructor
    · intro h
      exact ⟨[], .nil, Except.ok.inj h⟩
    · rintro ⟨_, ⟨⟩, rfl⟩
      rfl
  | cons interval intervals ih =>
    simp only [Fetch.keys, Fetch.value, publishes_cons_iff]
    cases hpair : k.derivedPair secret interval with
    | error e => simp
    | ok pair =>
      dsimp only
      rw [ih]
      constructor
      · rintro ⟨keys, hkeys, rfl⟩
        exact ⟨_, ⟨pair, keys, rfl, hkeys, rfl⟩, rfl⟩
      · rintro ⟨_, ⟨_, keys, ⟨⟩, hkeys, rfl⟩, rfl⟩
        exact ⟨keys, hkeys, rfl⟩

/-- **What a store without a cache answers** is what a call will yield. -/
theorem askUncached_ok_iff (hpure : k.expander.IsPure) (q : Query) {a : Answer}
    (hw : (w.loadMasterSecret k.settings.masterId).1 = .ok secret) :
    (k.askUncached w q).1 = .ok a ↔ (q.fetch k.settings w.now).value k secret = .ok a := by
  have hkeys : ∀ answer : List ValidationKey → Answer,
      (k.derivePublicKeys (k.settings.validationIntervals w.now) w).1.map answer = .ok a ↔
        (Fetch.keys (k.settings.validationIntervals w.now) answer).value k secret = .ok a := by
    intro answer
    rw [value_keys_ok_iff]
    constructor
    · intro h
      obtain ⟨keys, hderived, rfl⟩ := exists_ok_of_map h
      exact ⟨keys, (derivePublicKeys_ok_iff hpure hw).mp hderived, rfl⟩
    · rintro ⟨keys, hpublished, rfl⟩
      rw [(derivePublicKeys_ok_iff hpure hw).mpr hpublished]
      rfl
  cases q with
  | signer =>
    show (k.compute (k.settings.intervalAt w.now) w).1.map Answer.signer = .ok a ↔ _
    rw [compute_fst hpure, hw]
    simp only [Query.fetch, Fetch.value, Except.bind]
    cases k.derivedPair secret (k.settings.intervalAt w.now) <;> simp [Except.map]
  | accepted => exact hkeys _
  | published => exact hkeys _

/-! ## What the answers are -/

/-- A pair is the one that signs at an instant: it is derived for the instant's interval and known by the
interval's number. -/
structure Signs (k : KeyStore) (secret : MasterSecret) (t : Instant) (pair : KeyPair) : Prop where
  derived : ∃ interval key, interval.toNat = k.settings.number t ∧
    (derive k.expander 0 secret interval k.settings.curve).1 = .ok key ∧
    pair = .ofDerived interval k.settings.curve key
  kid : pair.kid = Decimal.ofNat (k.settings.number t)

/-- Keys are the ones that are accepted at an instant. -/
structure Accepts (k : KeyStore) (secret : MasterSecret) (now : Instant) (keys : List ValidationKey) :
    Prop where
  /-- They are those of the intervals of the window, each once and in increasing order. -/
  intervals : ∃ intervals : List UInt64, intervals.Pairwise (· < ·) ∧
    (∀ i : UInt64, i ∈ intervals ↔ i.toNat ∈ k.settings.window now) ∧ k.Publishes secret intervals keys
  nonempty : 1 ≤ keys.length
  atMostThree : keys.length ≤ 3
  kids : (keys.map ValidationKey.kid).Nodup
  /-- The pair that signs at some instant is accepted iff the window holds its interval. -/
  mem_iff : ∀ t pair, k.Signs secret t pair →
    (pair.validationKey ∈ keys ↔ k.settings.number t ∈ k.settings.window now)
  /-- The pair that signs now is accepted. -/
  signer : ∃ pair, k.Signs secret now pair ∧ pair.validationKey ∈ keys
  /-- The pair that signs within the tolerance is accepted, if this is no longer than an interval. -/
  tolerance : k.settings.rollover.toNat ≤ k.settings.rotationInterval.toNat →
    ∀ t : Instant, (t.toInt - now.toInt).natAbs ≤ k.settings.rollover.toNat →
      ∃ pair, k.Signs secret t pair ∧ pair.validationKey ∈ keys
  /-- Without rotation the pair of interval one is the only one. -/
  static : k.settings.rotationEnabled = false →
    ∃ pair, k.derivedPair secret 1 = .ok pair ∧ keys = [pair.validationKey]

/-- What a caller obtains at an instant. -/
def Obtains (k : KeyStore) (secret : MasterSecret) (now : Instant) (a : Answer) : Query → Prop
  | .signer => ∃ pair, a = .signer pair ∧ k.Signs secret now pair
  | .accepted => ∃ keys, a = .accepted keys ∧ k.Accepts secret now keys
  | .published => ∃ keys, a = .publish keys ∧ k.Accepts secret now keys

theorem signs_iff {now : Instant} {pair : KeyPair} :
    k.Signs secret now pair ↔ k.derivedPair secret (k.settings.intervalAt now) = .ok pair := by
  have hnumber := k.settings.toNat_intervalAt_eq now
  constructor
  · rintro ⟨⟨interval, key, hinterval, hkey, rfl⟩, -⟩
    obtain rfl : interval = k.settings.intervalAt now := by
      rw [← UInt64.toNat_inj, hinterval, hnumber]
    unfold derivedPair
    rw [hkey]
    rfl
  · intro h
    obtain ⟨key, hkey, rfl⟩ := exists_ok_of_map h
    refine ⟨⟨_, key, hnumber, hkey, rfl⟩, ?_⟩
    rw [← hnumber]
    rfl

theorem Publishes.exists_signs {now t : Instant} {keys : List ValidationKey}
    (h : k.Publishes secret (k.settings.validationIntervals now) keys)
    (ht : k.settings.number t ∈ k.settings.window now) :
    ∃ pair, k.Signs secret t pair ∧ pair.validationKey ∈ keys := by
  rw [← KeySettings.toNat_intervalAt_eq, ← KeySettings.mem_validationIntervals] at ht
  obtain ⟨pair, hpair, hkey⟩ := exists_pair_of_mem h ht
  exact ⟨pair, signs_iff.mpr hpair, hkey⟩

/-- **The description of the accepted keys.** -/
theorem Accepts.of_publishes {now : Instant} {keys : List ValidationKey}
    (h : k.Publishes secret (k.settings.validationIntervals now) keys) : k.Accepts secret now keys where
  intervals := ⟨_, validationIntervals_sorted .., k.settings.mem_validationIntervals now, h⟩
  nonempty := by
    rw [← h.length_eq]
    exact List.length_pos_of_mem (mem_validationIntervals_current ..)
  atMostThree := by
    rw [← h.length_eq]
    exact k.settings.length_validationIntervals now
  kids := by
    rw [kids_of_derived h]
    exact nodup_names k.settings now
  mem_iff t pair hsigns := by
    rw [mem_derived_iff h (signs_iff.mp hsigns), KeySettings.mem_validationIntervals,
      KeySettings.toNat_intervalAt_eq]
  signer := h.exists_signs (k.settings.mem_window_self now)
  tolerance hshort t hnear := h.exists_signs (KeySettings.number_mem_window hshort hnear)
  static hstatic := by
    have hone : k.settings.validationIntervals now = [1] := by
      unfold KeySettings.validationIntervals
      rw [hstatic]
      rfl
    rw [hone, publishes_cons_iff] at h
    obtain ⟨pair, _, hpair, ⟨⟩, rfl⟩ := h
    exact ⟨pair, hpair, rfl⟩

theorem obtains_of_value {now : Instant} {q : Query} {a : Answer}
    (h : (q.fetch k.settings now).value k secret = .ok a) : k.Obtains secret now a q := by
  cases q with
  | signer =>
    simp only [Query.fetch, Fetch.value] at h
    split at h
    · cases h
    · next pair hpair =>
      obtain rfl := Except.ok.inj h
      exact ⟨pair, rfl, signs_iff.mpr hpair⟩
  | accepted =>
    obtain ⟨keys, hkeys, rfl⟩ := value_keys_ok_iff.mp h
    exact ⟨keys, rfl, .of_publishes hkeys⟩
  | published =>
    obtain ⟨keys, hkeys, rfl⟩ := value_keys_ok_iff.mp h
    exact ⟨keys, rfl, .of_publishes hkeys⟩

/-! ## The cache is not seen -/

/-- A call that is done has yielded what the master secret yields for the instant at which it started. -/
theorem Traffic.Sound.value_of_done (h : t.Sound k secret) {c : Call} (hc : c ∈ t.calls) {a : Answer}
    (hdone : c.fetch = .done (.ok a)) : (c.query.fetch k.settings c.time).value k secret = .ok a := by
  rcases h.value c hc with hvalue | ⟨e, he⟩
  · rw [hdone] at hvalue
    exact hvalue.symm
  · rw [hdone] at he
    cases he

/-- A store that is ready answers whatever can be derived. -/
theorem Ready.exists_ask (hw : k.Ready secret w) (hpure : k.expander.IsPure) {q : Query} {a : Answer}
    (h : (q.fetch k.settings w.now).value k secret = .ok a) : ∃ answer, (k.ask w q).1 = .ok answer := by
  have hkeys : ∀ {answer : List ValidationKey → Answer},
      (Fetch.keys (k.settings.validationIntervals w.now) answer).value k secret = .ok a →
        ∃ keys, (k.validationKeys w).1 = .ok keys := by
    intro answer h
    obtain ⟨keys, hpublished, -⟩ := value_keys_ok_iff.mp h
    refine hw.exists_publicKeys hpure fun interval hmem => ?_
    obtain ⟨pair, hpair, -⟩ := exists_pair_of_mem hpublished hmem
    exact ⟨pair, hpair⟩
  cases q with
  | signer =>
    simp only [Query.fetch, Fetch.value] at h
    split at h
    · cases h
    · next pair hpair =>
      obtain ⟨returned, hreturned⟩ := hw.exists_keyPair hpure hpair
      exact ⟨.signer returned, by simp only [ask, activeKeyPair, hreturned, Except.map]⟩
  | accepted =>
    obtain ⟨keys, hreturned⟩ := hkeys h
    exact ⟨.accepted keys, by simp only [ask, hreturned, Except.map]⟩
  | published =>
    obtain ⟨keys, hreturned⟩ := hkeys h
    refine ⟨.publish keys, ?_⟩
    simp only [ask, keySet]
    cases hresult : k.validationKeys w with
    | mk result v =>
      rw [hresult] at hreturned
      obtain rfl : result = .ok keys := hreturned
      rfl

/-- **The cache is not seen.** In every run from an empty cache in which the master secret does not change,
every answer is the one that a store without a cache gives at the instant at which the call started, and it is
as described by `Obtains`. If the secret can be loaded and the timer is in range, then a call has an answer
whenever a store without a cache has one, and both are the same. -/
theorem cache_transparent (hpure : k.expander.IsPure) (hsecret : k.Unchanged secret w)
    (hempty : w.keyPairs = {}) (hrun : Relation.ReflTransGen (Traffic.Step k secret) { world := w } t) :
    (∀ c ∈ t.calls, ∀ a, c.fetch = .done (.ok a) →
      (∀ u : World, u.now = c.time → (u.loadMasterSecret k.settings.masterId).1 = .ok secret →
        (k.askUncached u c.query).1 = .ok a) ∧
      k.Obtains secret c.time a c.query) ∧
    ∀ q a, k.Ready secret t.world → ((k.ask t.world q).1 = .ok a ↔ (k.askUncached t.world q).1 = .ok a) := by
  have hsound := Traffic.Sound.run hpure hsecret hempty hrun
  have hanswer : ∀ q a, (k.ask t.world q).1 = .ok a →
      (q.fetch k.settings t.world.now).value k secret = .ok a := by
    intro q a h
    refine (Traffic.Sound.run hpure hsecret hempty (hrun.trans (Traffic.run_ask t q))).value_of_done
      (List.mem_append_right _ List.mem_cons_self) ?_
    rw [h]
  refine ⟨fun c hc a hdone => ?_, fun q a hready => ?_⟩
  · have hvalue := hsound.value_of_done hc hdone
    refine ⟨fun u hnow hload => ?_, obtains_of_value hvalue⟩
    rw [askUncached_ok_iff hpure c.query hload, hnow]
    exact hvalue
  · rw [askUncached_ok_iff hpure q hready.secret]
    refine ⟨hanswer q a, fun hvalue => ?_⟩
    obtain ⟨answer, hreturned⟩ := hready.exists_ask hpure hvalue
    rw [hreturned, ← hanswer q answer hreturned, hvalue]

namespace Sample

/-- A call for the pair that signs and one for the accepted keys find nothing, and the second one derives and
keeps its first pair. -/
def opening (t : Traffic) : Traffic :=
  let first := (t.start store .signer).advance store 0
  (((first.start store .accepted).advance store 1).advance store 1).advance store 1

/-- Why certificates cannot be read. -/
def unreadable : KeyError := .certificateStore "offline"

/-- The clock jumps, the timer passes the deadline of what is kept, and certificates cannot be read, so that a
call for the published keys fails. -/
def outage (t : Traffic) : Traffic :=
  let world := { t.world with now := 700000, timer := 90000000, faults := { locator := some unreadable } }
  ((({ t with world } : Traffic).start store .published).advance store 2).advance store 2

/-- Certificates can be read again. One more call is given up, and the first two come to their ends. -/
def ending (t : Traffic) : Traffic :=
  let mended : Traffic := { t with world := { t.world with faults := {} } }
  let given := ((mended.start store .signer).advance store 3).abandon 3
  let signed := (given.advance store 0).advance store 0
  ((signed.advance store 1).advance store 1).advance store 1

/-- In the last second of interval zero. -/
def opened : Traffic := opening { world := world 259199 }

def rush : Traffic := ending (outage opened)

theorem opening_run (t : Traffic) :
    Relation.ReflTransGen (Traffic.Step store masterSecret) t (opening t) := by
  have hsigner : Traffic.Step store masterSecret t (t.start store .signer) := .start t .signer
  have hfirst := (Relation.ReflTransGen.single hsigner).tail (.advance _ 0)
  exact (((hfirst.tail (.start _ .accepted)).tail (.advance _ 1)).tail (.advance _ 1)).tail (.advance _ 1)

theorem outage_run (t : Traffic) :
    Relation.ReflTransGen (Traffic.Step store masterSecret) t (outage t) := by
  have hbroken : Traffic.Step store masterSecret t _ := .beside t
    (v := { t.world with
      now := 700000, timer := 90000000, faults := { locator := some unreadable } }) rfl
    (unchanged_of_failing rfl)
  exact (((Relation.ReflTransGen.single hbroken).tail (.start _ .published)).tail (.advance _ 2)).tail (.advance _ 2)

theorem ending_run (t : Traffic) (h : t.world.locator = (world 0).locator) :
    Relation.ReflTransGen (Traffic.Step store masterSecret) t (ending t) := by
  have hmended := Relation.ReflTransGen.single (Traffic.Step.beside t
    (v := { t.world with faults := {} }) rfl ((store_ready 0).unchanged.of_certificates h rfl))
  have hgiven := ((hmended.tail (.start _ .signer)).tail (.advance _ 3)).tail (.abandon _ 3)
  have hsigned := (hgiven.tail (.advance _ 0)).tail (.advance _ 0)
  exact ((hsigned.tail (.advance _ 1)).tail (.advance _ 1)).tail (.advance _ 1)

/-- Whether a call is done and has an answer. -/
def isAnswered (c : Call) : Bool :=
  match c.fetch with
  | .done (.ok _) => true
  | _ => false

set_option maxRecDepth 100000 in
theorem rush_calls :
    (outage opened).world.locator = (world 0).locator ∧
      rush.calls.map (fun c => (c.query, c.time, isAnswered c)) =
        [(.signer, 259199, true), (.accepted, 259199, true), (.published, 700000, false)] := by
  decide +kernel

theorem rush_run :
    Relation.ReflTransGen (Traffic.Step store masterSecret) { world := world 259199 } rush :=
  (opening_run _).trans ((outage_run opened).trans (ending_run _ rush_calls.1))

end Sample

/-- Both calls that are answered are answered as they would be without a cache, though they went on side by side,
and one of them long after its interval had passed. -/
theorem cache_transparent_rush :
    Sample.store.expander.IsPure ∧ Sample.store.Unchanged Sample.masterSecret (Sample.world 259199) ∧
      (Sample.world 259199).keyPairs = {} ∧
      Relation.ReflTransGen (Traffic.Step Sample.store Sample.masterSecret)
        { world := Sample.world 259199 } Sample.rush ∧
      Sample.rush.calls.map (fun c => (c.query, c.time, Sample.isAnswered c)) =
        [(.signer, 259199, true), (.accepted, 259199, true), (.published, 700000, false)] ∧
      ∀ c ∈ Sample.rush.calls, Sample.isAnswered c = true → ∃ a, c.fetch = .done (.ok a) ∧
        (Sample.store.askUncached (Sample.world c.time) c.query).1 = .ok a ∧
        Sample.store.Obtains Sample.masterSecret c.time a c.query := by
  have hready := Sample.store_ready
  refine ⟨Expander.hkdf_isPure, (hready _).unchanged, rfl, Sample.rush_run, Sample.rush_calls.2,
    fun c hc hanswered => ?_⟩
  unfold Sample.isAnswered at hanswered
  split at hanswered
  · next a hdone =>
    obtain ⟨huncached, hobtains⟩ := (cache_transparent Expander.hkdf_isPure (hready _).unchanged rfl
      Sample.rush_run).1 c hc a hdone
    exact ⟨a, hdone, huncached (Sample.world c.time) rfl (hready c.time).secret, hobtains⟩
  · cases hanswered

end KeyStore

end BlindMint
