import BlindMint.Proofs.Change
import BlindMint.Proofs.Keys.Coverage
import BlindMint.Proofs.Keys.Fetch

/-!
# What signs is published, and its halves match

The master certificate may be replaced or disabled at any time, and pairs that were derived from the old secret
stay in the cache until their deadlines. Pairs of different intervals may then come from different secrets, and
one interval's pair may change from one call to the next. Two things hold nevertheless. Every pair in the cache is
named after its interval, is of the store's curve, and its point belongs to its scalar. And of two calls with
nothing between them the one publishes what the other one signs with, in either order, also if the pair is not kept
at all or expires at this instant: `current` is what a call for an interval yields at present, and no call changes
it for any interval.

## Results

* `Computed.matches`: the halves of a derived pair match, whatever it was derived from.
* `Attainable.ask`, `Attainable.change`: calls and changes are steps of a run.
* `current_keyPair`: a call changes nothing about what the next one yields.
* **`signer_published`**: what signs is published under its name, and nothing else is.
-/

namespace BlindMint

/-- Whether a value is served depends on the entry of its key. -/
theorem Cache.begin_fst_eq {α : Type} {c d : Cache α} {key : String} (h : d.find? key = c.find? key)
    (now : Nat) : (d.begin key now).1 = (c.begin key now).1 := by
  unfold begin
  rw [h]
  cases c.find? key with
  | none => rfl
  | some entry =>
    dsimp only
    split <;> rfl

namespace KeyStore

variable {k : KeyStore} {interval other : UInt64} {pair : KeyPair} {keys : List ValidationKey}
variable {w v : World}

/-! ## Pairs whose halves match -/

/-- A pair is named after an interval, its scalar is a private one of the store's curve, and its point is the
public point of the scalar. -/
structure Matches (k : KeyStore) (interval : UInt64) (pair : KeyPair) : Prop where
  kid : pair.kid = Decimal.ofNat interval.toNat
  interval : pair.interval = interval
  curve : pair.curve = k.settings.curve
  size : pair.scalar.length = k.settings.curve.keySize
  positive : 1 ≤ pair.scalar.toNat
  belowOrder : pair.scalar.toNat < k.settings.curve.order
  point : k.settings.curve.publicPoint? pair.scalar = some pair.point

/-- A call derives the pair for the interval, from whatever master secret there is. -/
def Computed (k : KeyStore) (interval : UInt64) (pair : KeyPair) : Prop :=
  ∃ u, (k.compute interval u).1 = .ok pair

theorem matches_ofDerived {key : DerivedKey}
    (h : k.settings.curve.publicPoint? key.scalar = some key.point) :
    k.Matches interval (.ofDerived interval k.settings.curve key) := by
  have hscalar := (k.settings.curve.publicPoint?_isSome_iff key.scalar).mp (by rw [h]; rfl)
  exact ⟨rfl, rfl, rfl, hscalar.1, hscalar.2.1, hscalar.2.2, h⟩

theorem Computed.matches (h : k.Computed interval pair) : k.Matches interval pair := by
  obtain ⟨u, h⟩ := h
  unfold compute at h
  split at h
  · cases h
  · next secret _ _ =>
    dsimp only at h
    split at h
    · cases h
    · next key hderive =>
      obtain rfl := Except.ok.inj h
      exact matches_ofDerived (derive_ok_isScalar (Prod.ext hderive rfl))

theorem matches_of_derivedPair {secret : MasterSecret} (h : k.derivedPair secret interval = .ok pair) :
    k.Matches interval pair := by
  obtain ⟨key, hderive, rfl⟩ := exists_ok_of_map h
  exact matches_ofDerived (derive_ok_isScalar (Prod.ext hderive rfl))

/-! ## Runs -/

/-- A world that a run from an empty cache leads to. Calls look pairs up and keep what they have derived, at any
later time or never, and whatever is not in the cache changes freely: the master certificate, the clocks and the
faults. -/
def Attainable (k : KeyStore) (w : World) : Prop :=
  ∃ start : World, start.keyPairs = {} ∧ Relation.ReflTransGen (k.Move k.Computed) start w

theorem Attainable.run (h : k.Attainable w) (hrun : Relation.ReflTransGen (k.Move k.Computed) w v) :
    k.Attainable v := by
  obtain ⟨start, hempty, hstart⟩ := h
  exact ⟨start, hempty, hstart.trans hrun⟩

/-- The halves of every pair in the cache match. -/
theorem Attainable.matches (h : k.Attainable w) : Kept k.Matches w := by
  obtain ⟨start, hempty, hrun⟩ := h
  induction hrun with
  | refl => exact .of_empty hempty
  | tail _ hmove ih => exact ih.move (fun _ _ => Computed.matches) hmove

/-- A call is a run. -/
theorem Attainable.ask (h : k.Attainable w) (q : Query) : k.Attainable (k.ask w q).2 := by
  have hcomputed : ∀ u, SameSource w u → ∀ interval pair,
      (k.compute interval u).1 = .ok pair → k.Computed interval pair :=
    fun u _ _ _ hpair => ⟨u, hpair⟩
  cases q with
  | signer => exact h.run (keyPair_moves hcomputed _)
  | accepted => exact h.run (publicKeys_moves hcomputed _)
  | published =>
    have hkeys := h.run (publicKeys_moves hcomputed (k.settings.validationIntervals w.now))
    show k.Attainable (k.keySet w).2
    unfold keySet validationKeys
    split <;> next heq => rwa [heq] at hkeys

theorem change_keyPairs (limit : VerificationLimit) (w : World) (c : Change) :
    (w.change limit c).keyPairs = w.keyPairs := by
  cases c with
  | sweep =>
    have hissues : w.sweepIssues.2.keyPairs = w.keyPairs := by
      unfold World.sweepIssues World.purgeIssues
      cases w.faults.issueDelete <;> rfl
    have h : (w.sweepIssues.2.sweepVerifications limit).2.keyPairs = w.sweepIssues.2.keyPairs := by
      unfold World.sweepVerifications World.purgeVerifications World.purgeVerificationsBefore
      cases w.sweepIssues.2.faults.verificationDelete <;> rfl
    exact h.trans hissues
  | clock | timer | certificates | faults => rfl

/-- A change beside the calls is a step. -/
theorem Attainable.change (h : k.Attainable w) (limit : VerificationLimit) (c : Change) :
    k.Attainable (w.change limit c) :=
  h.run (.single (.beside (change_keyPairs limit w c)))

/-! ## What a call yields at present -/

/-- The pair that a call for an interval yields at present, provided that it can be kept: the one that is served
from the cache, or the one derived from the present master secret. -/
def current (k : KeyStore) (interval : UInt64) (w : World) : Except KeyError KeyPair :=
  match (begin interval w).1 with
  | some pair => .ok pair
  | none => (w.loadMasterSecret k.settings.masterId).1.bind fun secret => k.derivedPair secret interval

theorem current_of_none (h : (begin interval w).1 = none) :
    k.current interval w =
      (w.loadMasterSecret k.settings.masterId).1.bind fun secret => k.derivedPair secret interval := by
  unfold current
  rw [h]

/-- What is current for an interval depends on its entry, on the timer and on the certificates. -/
theorem current_of_find? (hs : SameSource w v)
    (hf : v.keyPairs.find? (cacheKey interval) = w.keyPairs.find? (cacheKey interval)) :
    k.current interval v = k.current interval w := by
  have hserved : (begin interval v).1 = (begin interval w).1 := by
    show (v.keyPairs.begin (cacheKey interval) v.timer).1 =
      (w.keyPairs.begin (cacheKey interval) w.timer).1
    rw [hs.timer, Cache.begin_fst_eq hf]
  unfold current
  rw [hserved, hs.loadMasterSecret_fst]

/-- What was current without an entry stays current while every new entry holds it. -/
theorem current_of_refilled (hs : SameSource w v) (hnone : (begin interval w).1 = none)
    (hentry : ∀ entry, v.keyPairs.find? (cacheKey interval) = some entry →
      k.current interval w = .ok entry.value) : k.current interval v = k.current interval w := by
  cases hbegin : begin interval v with
  | mk served u =>
    cases served with
    | some kept =>
      obtain ⟨-, deadline, hkept⟩ := begin_some hbegin
      rw [hentry _ hkept]
      unfold current
      rw [hbegin]
    | none => rw [current_of_none (by rw [hbegin]), hs.loadMasterSecret_fst, ← current_of_none hnone]

/-- What a call returns is current. -/
theorem current_of_keyPair (hpure : k.expander.IsPure) (h : (k.keyPair interval w).1 = .ok pair) :
    k.current interval w = .ok pair := by
  have hsource := begin_source interval w
  unfold keyPair fill at h
  cases hbegin : begin interval w with
  | mk served u =>
    rw [hbegin] at h hsource
    cases served with
    | some kept =>
      unfold current
      rw [hbegin]
      exact congrArg Except.ok (Except.ok.inj h)
    | none =>
      rw [current_of_none (by rw [hbegin]), ← hsource.loadMasterSecret_fst, ← compute_fst hpure]
      dsimp only at h
      cases hcompute : k.compute interval u with
      | mk result v =>
        rw [hcompute] at h
        cases result with
        | error e => cases h
        | ok computed =>
          rcases k.keep_cases interval computed v with hkeep | ⟨_, hkeep, -⟩
          · simp only [hkeep] at h
            cases h
          · simp only [hkeep] at h
            exact congrArg Except.ok (Except.ok.inj h)

theorem begin_keyPairs_of_none (h : (begin interval w).1 = none) :
    (begin interval w).2.keyPairs = w.keyPairs.erase (cacheKey interval) :=
  begin_none (Prod.ext h rfl)

/-- A call leaves the entries of other intervals as they are. -/
theorem find?_keyPair_of_ne (h : interval ≠ other) (w : World) :
    (k.keyPair other w).2.keyPairs.find? (cacheKey interval) =
      w.keyPairs.find? (cacheKey interval) := by
  have hkey : cacheKey interval ≠ cacheKey other := mt cacheKey_inj.mp h
  rcases k.keyPair_cases other w with
    ⟨_, -, hcall⟩ | ⟨hnone, v, -, hkept, ⟨e, -, hcall⟩ | ⟨pair, -, hcall⟩⟩
  · rw [hcall]
  · rw [hcall, hkept, begin_keyPairs_of_none hnone, Cache.find?_erase_of_ne _ hkey]
  · rw [begin_keyPairs_of_none hnone] at hkept
    rw [hcall, ← Cache.find?_erase_of_ne w.keyPairs hkey, ← hkept]
    rcases k.keep_cases other pair v with hkeep | ⟨u, hkeep, -, hfinish⟩
    · rw [hkeep]
    · rw [hkeep, Cache.find?_finish_of_ne hfinish hkey]

/-- A call that is not served leaves no entry or the pair that was current. -/
theorem value_of_keyPair (hpure : k.expander.IsPure) (hnone : (begin interval w).1 = none)
    {entry : Cache.Entry KeyPair}
    (h : (k.keyPair interval w).2.keyPairs.find? (cacheKey interval) = some entry) :
    k.current interval w = .ok entry.value := by
  rcases k.keyPair_cases interval w with
    ⟨_, hserved, -⟩ | ⟨-, v, -, hkept, ⟨e, -, hcall⟩ | ⟨pair, hpair, hcall⟩⟩
  · rw [hserved] at hnone
    cases hnone
  · rw [hcall, hkept, begin_keyPairs_of_none hnone, Cache.find?_erase_self] at h
    cases h
  · rw [hcall] at h
    rcases k.keep_cases interval pair v with hkeep | ⟨u, hkeep, -, hfinish⟩
    · rw [hkeep, hkept, begin_keyPairs_of_none hnone, Cache.find?_erase_self] at h
      cases h
    · rw [hkeep, Cache.find?_finish_self hfinish] at h
      obtain rfl := Option.some.inj h
      rw [current_of_none hnone, ← (begin_source interval w).loadMasterSecret_fst, ← compute_fst hpure]
      exact hpair

/-- **A call changes nothing about what the next one yields**, for its own interval and for all others. -/
theorem current_keyPair (hpure : k.expander.IsPure) (interval other : UInt64) (w : World) :
    k.current interval (k.keyPair other w).2 = k.current interval w := by
  have hsource := k.keyPair_source other w
  by_cases hother : interval = other
  · subst hother
    cases hbegin : begin interval w with
    | mk served u =>
      cases served with
      | some pair =>
        obtain ⟨rfl, -⟩ := begin_some hbegin
        rw [k.keyPair_of_begin hbegin]
      | none =>
        have hnone : (begin interval w).1 = none := by rw [hbegin]
        exact current_of_refilled hsource hnone fun _ => value_of_keyPair hpure hnone
  · exact current_of_find? hsource (find?_keyPair_of_ne hother w)

/-- Neither does a call for several intervals. -/
theorem current_publicKeys (hpure : k.expander.IsPure) (interval : UInt64) (intervals : List UInt64)
    (w : World) : k.current interval (k.publicKeys intervals w).2 = k.current interval w := by
  induction intervals generalizing w with
  | nil => rfl
  | cons other intervals ih =>
    have hfirst := k.current_keyPair hpure interval other w
    unfold publicKeys
    split
    · next heq => rwa [heq] at hfirst
    · next pair v heq =>
      rw [heq] at hfirst
      have hrest := (ih v).trans hfirst
      split <;> next hkeys => rwa [hkeys] at hrest

/-- The keys of intervals are the public halves of what is current. -/
theorem current_of_publicKeys (hpure : k.expander.IsPure) {intervals : List UInt64}
    (h : (k.publicKeys intervals w).1 = .ok keys) :
    List.Forall₂ (fun interval key => (k.current interval w).map KeyPair.validationKey = .ok key)
      intervals keys := by
  induction intervals generalizing w keys with
  | nil =>
    obtain rfl := Except.ok.inj h
    exact .nil
  | cons interval intervals ih =>
    unfold publicKeys at h
    split at h
    · cases h
    · next pair v heq =>
      have hpair : k.current interval w = .ok pair := current_of_keyPair hpure (by rw [heq])
      have hsame : ∀ other, k.current other v = k.current other w := by
        intro other
        rw [← k.current_keyPair hpure other interval w, heq]
      split at h
      · cases h
      · next rest _ hrest =>
        obtain rfl := Except.ok.inj h
        have hreturned : (k.publicKeys intervals v).1 = .ok rest := by rw [hrest]
        have hkeys := ih hreturned
        simp only [hsame] at hkeys
        exact .cons (by rw [hpair]; rfl) hkeys

/-! ## The signing key among the published ones -/

theorem Attainable.current_matches (h : k.Attainable w) (hpair : k.current interval w = .ok pair) :
    k.Matches interval pair := by
  unfold current at hpair
  split at hpair
  · next kept hserved =>
    obtain rfl := Except.ok.inj hpair
    obtain ⟨-, deadline, hentry⟩ := begin_some (Prod.ext hserved rfl)
    exact h.matches interval _ hentry
  · obtain ⟨secret, -, hderived⟩ := exists_ok_of_bind hpair
    exact matches_of_derivedPair hderived

/-- What is current for one of the accepted intervals is published under its name, and nothing else is. -/
theorem Attainable.filter_kid (h : k.Attainable w) (hpure : k.expander.IsPure) {now : Instant}
    (hkeys : (k.publicKeys (k.settings.validationIntervals now) w).1 = .ok keys)
    (hpair : k.current interval w = .ok pair) (hmem : interval ∈ k.settings.validationIntervals now) :
    keys.filter (·.kid == pair.kid) = [pair.validationKey] := by
  have hcurrent := current_of_publicKeys hpure hkeys
  have hkids := kids_of_pairs (fun _ _ hp => (h.current_matches hp).kid) hcurrent
  obtain ⟨published, hpublished, hkey⟩ := exists_pair_of_mem hcurrent hmem
  obtain rfl := Except.ok.inj (hpair.symm.trans hpublished)
  exact filter_eq_singleton (hkids ▸ nodup_names k.settings now) hkey

/-- **What signs is always published, with halves that match**, whatever happens to the master certificate. In
every world that a run from an empty cache leads to, each pair in the cache is named after its interval, is of the
store's curve, and has a private scalar of the curve whose public point is its own. Of two calls with nothing
between them, one for the pair that signs and one for the accepted keys, in either order, the keys hold the public
half of the pair, and no other key of that name. -/
theorem signer_published (hpure : k.expander.IsPure) (h : k.Attainable w) :
    (∀ interval entry, w.keyPairs.find? (cacheKey interval) = some entry →
      k.Matches interval entry.value) ∧
    (∀ pair keys, (k.activeKeyPair w).1 = .ok pair →
      (k.validationKeys (k.activeKeyPair w).2).1 = .ok keys →
      k.Matches (k.settings.intervalAt w.now) pair ∧
        keys.filter (·.kid == pair.kid) = [pair.validationKey]) ∧
    ∀ keys pair, (k.validationKeys w).1 = .ok keys →
      (k.activeKeyPair (k.validationKeys w).2).1 = .ok pair →
      k.Matches (k.settings.intervalAt w.now) pair ∧
        keys.filter (·.kid == pair.kid) = [pair.validationKey] := by
  have hmem := mem_validationIntervals_current k.settings w.now
  refine ⟨h.matches, fun pair keys hsigner hkeys => ?_, fun keys pair hkeys hsigner => ?_⟩
  · have hpair : k.current (k.settings.intervalAt w.now) w = .ok pair :=
      current_of_keyPair hpure hsigner
    have hsame : k.current (k.settings.intervalAt w.now) (k.activeKeyPair w).2 = .ok pair :=
      (current_keyPair hpure ..).trans hpair
    have hnow : (k.activeKeyPair w).2.now = w.now := (k.keyPair_source _ w).now
    unfold validationKeys at hkeys
    rw [hnow] at hkeys
    exact ⟨h.current_matches hpair, (h.ask .signer).filter_kid hpure hkeys hsame hmem⟩
  · have hnow : (k.validationKeys w).2.now = w.now := (k.publicKeys_source _ w).now
    have hafter := current_of_keyPair hpure hsigner
    rw [hnow] at hafter
    have hpair : k.current (k.settings.intervalAt w.now) w = .ok pair :=
      (current_publicKeys hpure ..).symm.trans hafter
    exact ⟨h.current_matches hpair, h.filter_kid hpure hkeys hpair hmem⟩

namespace Sample

/-- Another key pair for the master certificate. -/
def replacement : CertificateVersion :=
  let scalar : Octets := List.replicate 32 5
  ⟨"master", "v2", 0, .curve ⟨.p256, some scalar, Curve.p256.point (Curve.p256.generatorMultiple scalar.toNat)⟩⟩

/-- The certificates after the replacement. -/
def replaced : Locator :=
  let shelf : Shelf := {}
  .shelf ((shelf.insert (Http.Sample.certificate "signing") true).insert replacement true)

/-- The pair of interval one is derived, and the master certificate is replaced. -/
def renewed : World := (store.ask (world 475200) .signer).2.change {} (.certificates replaced)

theorem renewed_attainable : store.Attainable renewed :=
  .change (.ask ⟨world 475200, rfl, .refl⟩ .signer) {} (.certificates replaced)

set_option maxRecDepth 100000 in
/-- What signs is still the pair of the old secret, and the next interval's key is published with it. -/
theorem renewed_answers :
    (renewed.loadMasterSecret "master").1 = .ok ⟨List.replicate 32 5⟩ ∧
      (store.activeKeyPair renewed).1.toOption.map
        (fun pair => decide (store.derivedPair masterSecret 1 = .ok pair)) = some true ∧
      (store.validationKeys (store.activeKeyPair renewed).2).1.toOption.map
        (·.map ValidationKey.kid) = some ["1", "2"] := by
  decide +kernel

end Sample

/-- After the master certificate has been replaced, keys from both secrets are published side by side, and the
signing one is among them. -/
theorem signer_published_renewed :
    Sample.store.expander.IsPure ∧ Sample.store.Attainable Sample.renewed ∧
      (Sample.renewed.loadMasterSecret "master").1 = .ok ⟨List.replicate 32 5⟩ ∧
      ∃ pair keys, (Sample.store.activeKeyPair Sample.renewed).1 = .ok pair ∧
        (Sample.store.validationKeys (Sample.store.activeKeyPair Sample.renewed).2).1 = .ok keys ∧
        Sample.store.derivedPair Sample.masterSecret 1 = .ok pair ∧
        keys.map ValidationKey.kid = ["1", "2"] ∧
        keys.filter (·.kid == pair.kid) = [pair.validationKey] := by
  obtain ⟨hsecret, hold, hkids⟩ := Sample.renewed_answers
  obtain ⟨pair, hpair, hderived⟩ := exists_ok_of_toOption hold
  obtain ⟨keys, hkeys, hkids⟩ := exists_ok_of_toOption hkids
  have hpublished := (signer_published Expander.hkdf_isPure Sample.renewed_attainable).2.1 pair keys
    hpair hkeys
  exact ⟨Expander.hkdf_isPure, Sample.renewed_attainable, hsecret, pair, keys, hpair, hkeys,
    of_decide_eq_true hderived, hkids, hpublished.2⟩

end KeyStore

end BlindMint
