import BlindMint.Proofs.Keys.Derived

/-!
# Calls of a key store step by step

A call of a key store needs the pairs of one interval or of a few, one after the other, and for each of them it
looks into the cache, derives the pair if it is not there, and keeps it. Between two of these steps other calls
go on, the clocks are moved, certificates fail for a while, and a call may be given up. `Fetch` says what is
left of a call, `Fetch.next` is its next step, and `Traffic` is a store with its calls under way.

Other callers wait while a pair is derived. The steps here are not kept apart in that way, so that whatever the
store lets happen is among the runs.

## Results

* `Fetch.finish_fetch`, `Fetch.ends`: the steps without interruption are the call.
* `Fetch.next_cases`: what a step does to the store, and to what the call will yield.
* `Traffic.run_ask`: a call without interruption is a run.
* **`Traffic.Sound.run`**: whatever else happens, a call that has not failed is on the way to what the master
  secret yields for the instant at which it started.
-/

namespace BlindMint.KeyStore

/-! ## Queries -/

/-- What a caller wants of a key store. -/
inductive Query where
  /-- The pair that signs. -/
  | signer
  /-- The keys that are accepted. -/
  | accepted
  /-- The document in which the accepted keys are published. -/
  | published
  deriving DecidableEq, Repr

/-- What a caller obtains. -/
inductive Answer where
  | signer (pair : KeyPair)
  | accepted (keys : List ValidationKey)
  | published (set : KeySet)
  deriving DecidableEq

/-- The answer that publishes keys. -/
def Answer.publish (keys : List ValidationKey) : Answer :=
  .published ⟨keys.map ValidationKey.toJwk⟩

/-- Ask a store. -/
def ask (k : KeyStore) (w : World) : Query → Except (Failure KeyError) Answer × World
  | .signer => ((k.activeKeyPair w).1.map .signer, (k.activeKeyPair w).2)
  | .accepted => ((k.validationKeys w).1.map .accepted, (k.validationKeys w).2)
  | .published => ((k.keySet w).1.map .published, (k.keySet w).2)

/-! ## Steps -/

/-- What is left of a call. -/
inductive Fetch where
  | done (result : Except (Failure KeyError) Answer)
  /-- The pair of an interval is to be looked up. -/
  | look (interval : UInt64) (rest : KeyPair → Fetch)
  /-- The pair was not in the cache and is to be derived. -/
  | derive (interval : UInt64) (rest : KeyPair → Fetch)
  /-- The pair has been derived and is to be kept. -/
  | keep (interval : UInt64) (pair : KeyPair) (rest : KeyPair → Fetch)

namespace Fetch

/-- Fetch the public keys of intervals, and answer with them. -/
def keys : List UInt64 → (List ValidationKey → Answer) → Fetch
  | [], answer => done (.ok (answer []))
  | interval :: intervals, answer =>
    look interval fun pair => keys intervals fun rest => answer (pair.validationKey :: rest)

/-- The next step; none is left when the call is done. -/
def next (k : KeyStore) (w : World) : Fetch → Fetch × World
  | done result => (done result, w)
  | look interval rest =>
    match begin interval w with
    | (some pair, w) => (rest pair, w)
    | (none, w) => (derive interval rest, w)
  | derive interval rest =>
    match k.compute interval w with
    | (.error e, w) => (done (.error (.failed e)), w)
    | (.ok pair, w) => (keep interval pair rest, w)
  | keep interval pair rest =>
    match k.keep interval pair w with
    | (.error e, w) => (done (.error e), w)
    | (.ok pair, w) => (rest pair, w)

/-- All steps without interruption. -/
def finish (k : KeyStore) : Fetch → World → Except (Failure KeyError) Answer × World
  | done result, w => (result, w)
  | look interval rest, w =>
    match k.keyPair interval w with
    | (.error e, w) => (.error e, w)
    | (.ok pair, w) => (rest pair).finish k w
  | derive interval rest, w =>
    match k.fill interval w with
    | (.error e, w) => (.error e, w)
    | (.ok pair, w) => (rest pair).finish k w
  | keep interval pair rest, w =>
    match k.keep interval pair w with
    | (.error e, w) => (.error e, w)
    | (.ok pair, w) => (rest pair).finish k w

end Fetch

/-- The call for a query that starts at an instant. -/
def Query.fetch (s : KeySettings) (now : Instant) : Query → Fetch
  | signer => .look (s.intervalAt now) fun pair => .done (.ok (.signer pair))
  | accepted => .keys (s.validationIntervals now) .accepted
  | published => .keys (s.validationIntervals now) .publish

variable {k : KeyStore} {secret : MasterSecret} {w v : World} {fetch after : Fetch}

namespace Fetch

theorem finish_keys (intervals : List UInt64) (answer : List ValidationKey → Answer) (w : World) :
    (keys intervals answer).finish k w =
      ((k.publicKeys intervals w).1.map answer, (k.publicKeys intervals w).2) := by
  induction intervals generalizing answer w with
  | nil => rfl
  | cons interval intervals ih =>
    unfold keys finish publicKeys
    cases k.keyPair interval w with
    | mk result v =>
      cases result with
      | error e => rfl
      | ok pair =>
        dsimp only
        rw [ih]
        cases k.publicKeys intervals v with
        | mk result u => cases result <;> rfl

/-- **The steps without interruption are the call.** -/
theorem finish_fetch (k : KeyStore) (q : Query) (w : World) :
    (q.fetch k.settings w.now).finish k w = k.ask w q := by
  cases q with
  | signer =>
    unfold Query.fetch finish ask activeKeyPair
    cases k.keyPair (k.settings.intervalAt w.now) w with
    | mk result v => cases result <;> rfl
  | accepted => exact finish_keys ..
  | published =>
    unfold Query.fetch ask keySet
    rw [finish_keys]
    unfold validationKeys
    cases k.publicKeys (k.settings.validationIntervals w.now) w with
    | mk result v => cases result <;> rfl

/-- One step of a call that goes on alone. -/
inductive Alone (k : KeyStore) : Fetch × World → Fetch × World → Prop
  | step (fetch : Fetch) (w : World) : Alone k (fetch, w) (fetch.next k w)

/-- A call that goes on alone comes to its end. -/
def Ends (k : KeyStore) (fetch : Fetch) (w : World) : Prop :=
  Relation.ReflTransGen (Alone k) (fetch, w) (done (fetch.finish k w).1, (fetch.finish k w).2)

variable {rest : KeyPair → Fetch}

theorem ends_keep (hrest : ∀ pair w, Ends k (rest pair) w) (interval : UInt64) (pair : KeyPair)
    (w : World) : Ends k (keep interval pair rest) w := by
  refine .head (.step _ w) ?_
  simp only [next, finish]
  cases k.keep interval pair w with
  | mk result v =>
    cases result with
    | error e => exact .refl
    | ok pair => exact hrest pair v

theorem ends_derive (hrest : ∀ pair w, Ends k (rest pair) w) (interval : UInt64) (w : World) :
    Ends k (derive interval rest) w := by
  refine .head (.step _ w) ?_
  simp only [next, finish, fill]
  cases k.compute interval w with
  | mk result v =>
    cases result with
    | error e => exact .refl
    | ok pair => simpa only [Ends, finish] using ends_keep hrest interval pair v

theorem ends_look (hrest : ∀ pair w, Ends k (rest pair) w) (interval : UInt64) (w : World) :
    Ends k (look interval rest) w := by
  refine .head (.step _ w) ?_
  simp only [next, finish, keyPair]
  cases begin interval w with
  | mk served v =>
    cases served with
    | some pair => exact hrest pair v
    | none => simpa only [Ends, finish] using ends_derive hrest interval v

/-- **Every call comes to its end** if it goes on alone. -/
theorem ends (fetch : Fetch) (w : World) : Ends k fetch w := by
  induction fetch generalizing w with
  | done result => exact .refl
  | look interval rest ih => exact ends_look ih interval w
  | derive interval rest ih => exact ends_derive ih interval w
  | keep interval pair rest ih => exact ends_keep ih interval pair w

/-! ## What a call will yield -/

/-- What a call yields if every pair is the one derived from the master secret, and nothing fails. -/
def value (k : KeyStore) (secret : MasterSecret) : Fetch → Except (Failure KeyError) Answer
  | done result => result
  | look interval rest =>
    match k.derivedPair secret interval with
    | .error e => .error (.failed e)
    | .ok pair => (rest pair).value k secret
  | derive interval rest =>
    match k.derivedPair secret interval with
    | .error e => .error (.failed e)
    | .ok pair => (rest pair).value k secret
  | keep _ pair rest => (rest pair).value k secret

/-- Whatever pair is to be kept has been derived from the master secret. -/
def Derived (k : KeyStore) (secret : MasterSecret) : Fetch → Prop
  | done _ => True
  | look _ rest => ∀ pair, (rest pair).Derived k secret
  | derive _ rest => ∀ pair, (rest pair).Derived k secret
  | keep interval pair rest =>
    (∃ u, k.Unchanged secret u ∧ (k.compute interval u).1 = .ok pair) ∧
      ∀ pair, (rest pair).Derived k secret

theorem derived_keys (intervals : List UInt64) (answer : List ValidationKey → Answer) :
    (keys intervals answer).Derived k secret := by
  induction intervals generalizing answer with
  | nil => exact trivial
  | cons interval intervals ih => exact fun pair => ih _

theorem derived_fetch (s : KeySettings) (now : Instant) (q : Query) :
    (q.fetch s now).Derived k secret := by
  cases q with
  | signer => exact fun pair => trivial
  | accepted => exact derived_keys ..
  | published => exact derived_keys ..

/-- **What a step does**: the store reads from the same as before, its cache changes as in a run, and what the
call will yield stays the same, unless it fails. -/
theorem next_cases (hpure : k.expander.IsPure) (hreach : k.Reachable secret w)
    (hw : k.Unchanged secret w) (hf : fetch.Derived k secret) (h : fetch.next k w = (after, v)) :
    SameSource w v ∧ Relation.ReflTransGen (k.Step secret) w v ∧ after.Derived k secret ∧
      (after.value k secret = fetch.value k secret ∨ ∃ e, after = done (.error e)) := by
  cases fetch with
  | done result =>
    obtain ⟨rfl, rfl⟩ := Prod.mk.inj h
    exact ⟨.refl w, .refl, trivial, .inl rfl⟩
  | look interval rest =>
    have hsource := begin_source interval w
    have hstep : k.Step secret w (begin interval w).2 := .look interval w
    simp only [next] at h
    split at h
    · next pair u heq =>
      obtain ⟨rfl, rfl⟩ := Prod.mk.inj h
      obtain ⟨rfl, deadline, hentry⟩ := begin_some heq
      have hpair : k.derivedPair secret interval = .ok pair := hreach.faithful hpure interval _ hentry
      exact ⟨.refl u, .refl, hf pair, .inl (by simp only [value, hpair])⟩
    · next u heq =>
      obtain ⟨rfl, rfl⟩ := Prod.mk.inj h
      rw [heq] at hsource hstep
      exact ⟨hsource, .single hstep, hf, .inl (by simp only [value])⟩
  | derive interval rest =>
    have hsame := k.compute_sameCaches interval w
    simp only [next] at h
    split at h
    · next e u heq =>
      obtain ⟨rfl, rfl⟩ := Prod.mk.inj h
      rw [heq] at hsame
      exact ⟨hsame.toSameSource, .single (.beside hsame.keyPairs), trivial, .inr ⟨_, rfl⟩⟩
    · next pair u heq =>
      obtain ⟨rfl, rfl⟩ := Prod.mk.inj h
      rw [heq] at hsame
      have hcomputed : (k.compute interval w).1 = .ok pair := by rw [heq]
      refine ⟨hsame.toSameSource, .single (.beside hsame.keyPairs), ⟨⟨w, hw, hcomputed⟩, hf⟩, .inl ?_⟩
      simp only [value, compute_ok hpure hw hcomputed]
  | keep interval pair rest =>
    obtain ⟨⟨u, hu, hcomputed⟩, hrest⟩ := hf
    have hsource := k.keep_source interval pair w
    have hstep : k.Step secret w (k.keep interval pair w).2 := .keep interval pair hu hcomputed w
    rcases k.keep_cases interval pair w with hkeep | ⟨kept, hkeep, -⟩
    · simp only [next, hkeep] at h
      obtain ⟨rfl, rfl⟩ := Prod.mk.inj h
      exact ⟨.refl w, .refl, trivial, .inr ⟨_, rfl⟩⟩
    · rw [hkeep] at hsource hstep
      simp only [next, hkeep] at h
      obtain ⟨rfl, rfl⟩ := Prod.mk.inj h
      exact ⟨hsource, .single hstep, hrest pair, .inl rfl⟩

end Fetch

/-! ## What leaves the master secret as it is -/

/-- Moving the clocks does, and so does everything else but the certificates and the faults. -/
theorem Unchanged.of_certificates (h : k.Unchanged secret w) (hlocator : v.locator = w.locator)
    (hfaults : v.faults = w.faults) : k.Unchanged secret v := by
  intro other hother
  rw [loadMasterSecret_fst_eq hlocator hfaults] at hother
  exact h other hother

/-- Certificates that cannot be read yield no other secret. -/
theorem unchanged_of_failing {e : KeyError} (h : w.faults.locator = some e) : k.Unchanged secret w := by
  intro other hother
  simp [World.loadMasterSecret, World.lookUpCertificate, h] at hother

/-! ## Any number of calls -/

/-- A call under way. -/
structure Call where
  query : Query
  /-- The instant at which it started. -/
  time : Instant
  fetch : Fetch

/-- The world and the calls under way, those that are done included. -/
structure Traffic where
  world : World
  calls : List Call := []

namespace Traffic

/-- A call is started. -/
def start (k : KeyStore) (q : Query) (t : Traffic) : Traffic :=
  { t with calls := t.calls ++ [⟨q, t.world.now, q.fetch k.settings t.world.now⟩] }

/-- One call takes its next step. -/
def advance (k : KeyStore) (i : Nat) (t : Traffic) : Traffic :=
  match t.calls[i]? with
  | none => t
  | some c =>
    let (fetch, world) := c.fetch.next k t.world
    { world, calls := t.calls.set i { c with fetch } }

/-- A call is given up. -/
def abandon (i : Nat) (t : Traffic) : Traffic :=
  { t with calls := t.calls.eraseIdx i }

/-- One step of a run in which the master secret does not change. -/
inductive Step (k : KeyStore) (secret : MasterSecret) : Traffic → Traffic → Prop
  | start (t : Traffic) (q : Query) : Step k secret t (t.start k q)
  | advance (t : Traffic) (i : Nat) : Step k secret t (t.advance k i)
  | abandon (t : Traffic) (i : Nat) : Step k secret t (t.abandon i)
  /-- The clocks are moved, the certificates or the faults change, or anything else happens outside the cache. -/
  | beside (t : Traffic) {v : World} (hkept : v.keyPairs = t.world.keyPairs)
      (hsecret : k.Unchanged secret v) : Step k secret t { t with world := v }

/-- A run leads to the world, and every call that has not failed will yield what the master secret yields for
the instant at which the call started. -/
structure Sound (k : KeyStore) (secret : MasterSecret) (t : Traffic) : Prop where
  reachable : k.Reachable secret t.world
  unchanged : k.Unchanged secret t.world
  derived : ∀ c ∈ t.calls, c.fetch.Derived k secret
  value : ∀ c ∈ t.calls, (c.fetch.value k secret = (c.query.fetch k.settings c.time).value k secret) ∨
    ∃ e, c.fetch = .done (.error e)

variable {t : Traffic}

theorem Sound.start (h : Sound k secret t) (q : Query) : Sound k secret (t.start k q) where
  reachable := h.reachable
  unchanged := h.unchanged
  derived c hc := by
    rcases List.mem_append.mp hc with hold | hnew
    · exact h.derived c hold
    · obtain rfl := List.mem_singleton.mp hnew
      exact Fetch.derived_fetch ..
  value c hc := by
    rcases List.mem_append.mp hc with hold | hnew
    · exact h.value c hold
    · obtain rfl := List.mem_singleton.mp hnew
      exact .inl rfl

/-- **A step of a call keeps what every call will yield.** -/
theorem Sound.advance (hpure : k.expander.IsPure) (h : Sound k secret t) (i : Nat) :
    Sound k secret (t.advance k i) := by
  unfold Traffic.advance
  cases hi : t.calls[i]? with
  | none => exact h
  | some c =>
    have hmem := List.mem_of_getElem? hi
    dsimp only
    cases hnext : c.fetch.next k t.world with
    | mk fetch v =>
      -- What the other calls will yield does not depend on the cache, so the one that moves decides.
      obtain ⟨hsource, hrun, hderived, hvalue⟩ :=
        Fetch.next_cases hpure h.reachable h.unchanged (h.derived c hmem) hnext
      refine ⟨h.reachable.run hrun, h.unchanged.source hsource, fun d hd => ?_, fun d hd => ?_⟩
      · rcases List.mem_or_eq_of_mem_set hd with hold | rfl
        · exact h.derived d hold
        · exact hderived
      · rcases List.mem_or_eq_of_mem_set hd with hold | rfl
        · exact h.value d hold
        · rcases hvalue with hsame | hfailed
          · rcases h.value c hmem with hc | ⟨e, he⟩
            · exact .inl (hsame.trans hc)
            · rw [he] at hnext
              exact .inr ⟨e, (Prod.mk.inj hnext).1.symm⟩
          · exact .inr hfailed

theorem Sound.abandon (h : Sound k secret t) (i : Nat) : Sound k secret (t.abandon i) where
  reachable := h.reachable
  unchanged := h.unchanged
  derived c hc := h.derived c (List.mem_of_mem_eraseIdx hc)
  value c hc := h.value c (List.mem_of_mem_eraseIdx hc)

/-- **What every call will yield, along every run** from an empty cache. -/
theorem Sound.run (hpure : k.expander.IsPure) (hsecret : k.Unchanged secret w)
    (hempty : w.keyPairs = {}) (hrun : Relation.ReflTransGen (Step k secret) { world := w } t) :
    Sound k secret t := by
  induction hrun with
  | refl => exact ⟨⟨w, hempty, .refl⟩, hsecret, nofun, nofun⟩
  | tail _ hstep ih =>
    cases hstep with
    | start q => exact ih.start q
    | advance i => exact ih.advance hpure i
    | abandon i => exact ih.abandon i
    | beside hkept hsecret =>
      exact ⟨ih.reachable.run (.single (.beside hkept)), hsecret, ih.derived, ih.value⟩

/-- A call that goes on alone after it has started is a run. -/
theorem run_alone {calls : List Call} {q : Query} {time : Instant} {x y : Fetch × World}
    (h : Relation.ReflTransGen (Fetch.Alone k) x y) :
    Relation.ReflTransGen (Step k secret) ⟨x.2, calls ++ [⟨q, time, x.1⟩]⟩
      ⟨y.2, calls ++ [⟨q, time, y.1⟩]⟩ := by
  induction h with
  | refl => exact .refl
  | tail _ hstep ih =>
    cases hstep with
    | step fetch u =>
      refine ih.tail ?_
      have hadvance : Step k secret _ _ := .advance ⟨u, calls ++ [⟨q, time, fetch⟩]⟩ calls.length
      simpa [Traffic.advance] using hadvance

/-- **A call without interruption is a run**, and ends with what the store answers. -/
theorem run_ask (t : Traffic) (q : Query) :
    Relation.ReflTransGen (Step k secret) t
      ⟨(k.ask t.world q).2, t.calls ++ [⟨q, t.world.now, .done (k.ask t.world q).1⟩]⟩ := by
  have halone := (q.fetch k.settings t.world.now).ends (k := k) t.world
  unfold Fetch.Ends at halone
  rw [Fetch.finish_fetch] at halone
  exact .head (.start t q) (run_alone halone)

end Traffic

end BlindMint.KeyStore
