import BlindMint.Proofs.Frame
import BlindMint.Proofs.Source

/-!
# What is kept from clients

Two runs of the service may differ in failures of which clients must not learn: what a store operation fails with,
why the identity check cannot be made, why the signing primitive fails, and which failure of key material loading or
deriving ends in. Failures that differ in this alone are `Veiled`, and so are collaborators and worlds whose failures
are. Where one of them fails the other one fails too.

Two kinds of failure are not kept back. A conflict that saving an issue record ends in says that the session has been
there, and a failure that is about a session token is the token's. They are the same on both sides.

An operation `Veils` if in veiled worlds it yields the same value, or veiled failures, and leaves the worlds veiled.
That is a relation between two operations, for the two runs have collaborators of their own.

## Results

* `Veils.run`: what two such operations do.
* `World.Veiled.step`: worlds stay veiled while neither the clock nor the outside changes.
* `World.Veiled.of_faults`: worlds are veiled if their faults are and nothing else differs.
-/

namespace BlindMint

variable {α β ε ε' : Type}

/-! ## Failures -/

/-- Two results that are the same value, or failures that are related. -/
inductive Blurred (R : ε → ε → Prop) : Except ε α → Except ε α → Prop
  | ok (value : α) : Blurred R (.ok value) (.ok value)
  | error {e e' : ε} (h : R e e') : Blurred R (.error e) (.error e')

/-- Failures of key material that are not about a session token. -/
def KeyError.IsInternal : KeyError → Prop
  | .token _ => False
  | .tokenRejected _ => False
  | _ => True

/-- Two failures of key material that a client cannot tell apart. -/
inductive KeyError.Veiled : KeyError → KeyError → Prop
  | same (e : KeyError) : Veiled e e
  | internal {e e' : KeyError} (h : e.IsInternal) (h' : e'.IsInternal) : Veiled e e'

/-- Whether a row was there. -/
def StoreError.IsConflict : StoreError → Prop
  | .conflict _ => True
  | _ => False

/-- Two failures of saving an issue record that a client cannot tell apart. -/
inductive StoreError.Veiled : StoreError → StoreError → Prop
  | same (e : StoreError) : Veiled e e
  | other {e e' : StoreError} (h : ¬e.IsConflict) (h' : ¬e'.IsConflict) : Veiled e e'

/-- Two failures of the signing primitive that a client cannot tell apart. -/
inductive PrimitiveError.Veiled : PrimitiveError → PrimitiveError → Prop
  | same (e : PrimitiveError) : Veiled e e
  | failed (reason reason' : String) : Veiled (.failed reason) (.failed reason')

/-- Two failures of an issuance that a client cannot tell apart: they are of one stage. -/
inductive IssuanceError.Veiled : IssuanceError → IssuanceError → Prop
  | store (e e' : StoreError) : Veiled (.store e) (.store e')
  | keys {e e' : KeyError} (h : e.Veiled e') : Veiled (.keys e) (.keys e')
  | primitive {e e' : PrimitiveError} (h : e.Veiled e') : Veiled (.primitive e) (.primitive e')

/-- Two failures of a verification that a client cannot tell apart. -/
inductive VerificationError.Veiled : VerificationError → VerificationError → Prop
  | store (e e' : StoreError) : Veiled (.store e) (.store e')
  | identityCheck (reason reason' : String) : Veiled (.identityCheck reason) (.identityCheck reason')

/-- Failures of a call that may store a value: only those of the computation may differ. -/
inductive Failure.Veiled (R : ε → ε → Prop) : Failure ε → Failure ε → Prop
  | failed {e e' : ε} (h : R e e') : Veiled R (.failed e) (.failed e')
  | overflow : Veiled R .overflow .overflow

/-- Whatever the failures are, there are failures. -/
def Any : ε → ε → Prop := fun _ _ => True

theorem Blurred.refl {R : ε → ε → Prop} (hR : ∀ e, R e e) (result : Except ε α) :
    Blurred R result result := by
  cases result with
  | error e => exact .error (hR e)
  | ok value => exact .ok value

/-! ## Collaborators -/

/-- Two expanders that fail at the same calls and otherwise yield the same. -/
def Expander.Veiled (expander expander' : Expander) : Prop :=
  ∀ calls ikm salt buffer, Blurred KeyError.Veiled (expander.expand calls ikm salt buffer)
    (expander'.expand calls ikm salt buffer)

/-- Two key stores with the same settings whose expanders differ in failures alone. -/
structure KeyStore.Veiled (k k' : KeyStore) : Prop where
  settings : k'.settings = k.settings
  expander : k.expander.Veiled k'.expander

/-- Two issuances whose signing primitives differ in failures alone. -/
structure Issuance.Veiled (i i' : Issuance) : Prop where
  sessionLeeway : i'.sessionLeeway = i.sessionLeeway
  primitive : ∀ request, Blurred PrimitiveError.Veiled (i.primitive request) (i'.primitive request)

/-- Two verifications whose identity checks differ in failures alone. -/
structure Verification.Veiled (s s' : Verification) : Prop where
  limit : s'.limit = s.limit
  check : ∀ pseudonym, Blurred Any (s.check pseudonym) (s'.check pseudonym)

/-! ## Worlds -/

/-- Two states of the outside with faults in the same places. -/
structure Faults.Veiled (f g : Faults) : Prop where
  issueSave : Option.Rel StoreError.Veiled f.issueSave g.issueSave
  issueFind : Option.Rel Any f.issueFind g.issueFind
  issueDelete : Option.Rel Any f.issueDelete g.issueDelete
  verificationSave : Option.Rel Any f.verificationSave g.verificationSave
  verificationFind : Option.Rel Any f.verificationFind g.verificationFind
  verificationDelete : Option.Rel Any f.verificationDelete g.verificationDelete
  health : Option.Rel Any f.health g.health
  issueBlind : g.issueBlind = f.issueBlind

/-- Two worlds that differ in failures which are kept from clients, and in what is counted. The certificates need not
be the same as long as what is loaded from them is. -/
structure World.Veiled (masterId : String) (c : CredentialSettings) (w v : World) : Prop where
  now : v.now = w.now
  timer : v.timer = w.timer
  issues : v.issues = w.issues
  verifications : v.verifications = w.verifications
  keyPairs : v.keyPairs = w.keyPairs
  snapshots : v.snapshots = w.snapshots
  expansions : v.activity.expansions = w.activity.expansions
  faults : w.faults.Veiled v.faults
  secret : Blurred KeyError.Veiled (w.loadMasterSecret masterId).1 (v.loadMasterSecret masterId).1
  snapshot : ∀ now, Blurred KeyError.Veiled
    (({ w with now } : World).readSnapshot c) (({ v with now } : World).readSnapshot c)

/-- Two operations that in veiled worlds yield the same value or related failures, and leave the worlds veiled. -/
def Veils (masterId : String) (c : CredentialSettings) (R : ε → ε → Prop)
    (op op' : World → Except ε α × World) : Prop :=
  ∀ ⦃w v : World⦄, w.Veiled masterId c v →
    Blurred R (op w).1 (op' v).1 ∧ (op w).2.Veiled masterId c (op' v).2

variable {masterId : String} {c : CredentialSettings} {R : ε → ε → Prop} {w v w' v' : World}

/-- What two such operations do. -/
theorem Veils.run {op op' : World → Except ε α × World} (h : Veils masterId c R op op')
    (hworlds : w.Veiled masterId c v) :
    ∃ result result' w' v', op w = (result, w') ∧ op' v = (result', v') ∧ Blurred R result result' ∧
      w'.Veiled masterId c v' :=
  ⟨(op w).1, (op' v).1, (op w).2, (op' v).2, rfl, rfl, (h hworlds).1, (h hworlds).2⟩

/-- The same is read at every instant. -/
theorem SameSource.readSnapshot_at (h : SameSource w w') (now : Instant) :
    ({ w' with now } : World).readSnapshot c = ({ w with now } : World).readSnapshot c :=
  SameSource.readSnapshot_eq (w := { w with now }) (v := { w' with now }) ⟨rfl, h.timer, h.locator, h.faults⟩ c

namespace World.Veiled

/-- Worlds stay veiled while neither the clock nor the outside changes and the rest changes alike. -/
theorem step (h : w.Veiled masterId c v) (hw : SameSource w w') (hv : SameSource v v')
    (hissues : v'.issues = w'.issues) (hverifications : v'.verifications = w'.verifications)
    (hkeyPairs : v'.keyPairs = w'.keyPairs) (hsnapshots : v'.snapshots = w'.snapshots)
    (hexpansions : v'.activity.expansions = w'.activity.expansions) : w'.Veiled masterId c v' := by
  refine ⟨?_, ?_, hissues, hverifications, hkeyPairs, hsnapshots, hexpansions, ?_, ?_, fun now => ?_⟩
  · rw [hv.now, hw.now, h.now]
  · rw [hv.timer, hw.timer, h.timer]
  · rw [hv.faults, hw.faults]
    exact h.faults
  · rw [hv.loadMasterSecret_fst, hw.loadMasterSecret_fst]
    exact h.secret
  · rw [hv.readSnapshot_at, hw.readSnapshot_at]
    exact h.snapshot now

/-- They stay veiled while nothing happens but upkeep that stores nothing in a cache and expands nothing. -/
theorem upkeep (h : w.Veiled masterId c v) (hw : SameCaches w w') (hv : SameCaches v v') (huw : Upkeep w w')
    (huv : Upkeep v v') (hew : w'.activity.expansions = w.activity.expansions)
    (hev : v'.activity.expansions = v.activity.expansions) : w'.Veiled masterId c v' := by
  refine h.step hw.toSameSource hv.toSameSource ?_ ?_ ?_ ?_ ?_
  · rw [huv.issues, huw.issues, h.issues]
  · rw [huv.verifications, huw.verifications, h.verifications]
  · rw [hv.keyPairs, hw.keyPairs, h.keyPairs]
  · rw [hv.snapshots, hw.snapshots, h.snapshots]
  · rw [hev, hew, h.expansions]

theorem count (h : w.Veiled masterId c v) (counter : Counter) (amount : Nat) :
    (w.count counter amount).Veiled masterId c (v.count counter amount) :=
  h.step (count_sameCaches ..).toSameSource (count_sameCaches ..).toSameSource h.issues h.verifications
    h.keyPairs h.snapshots h.expansions

theorem withSnapshots (h : w.Veiled masterId c v) (snapshots : Cache Snapshot) :
    ({ w with snapshots } : World).Veiled masterId c { v with snapshots } :=
  h.step ⟨rfl, rfl, rfl, rfl⟩ ⟨rfl, rfl, rfl, rfl⟩ h.issues h.verifications h.keyPairs rfl h.expansions

theorem withKeyPairs (h : w.Veiled masterId c v) (keyPairs : Cache KeyPair) :
    ({ w with keyPairs } : World).Veiled masterId c { v with keyPairs } :=
  h.step ⟨rfl, rfl, rfl, rfl⟩ ⟨rfl, rfl, rfl, rfl⟩ h.issues h.verifications rfl h.snapshots h.expansions

theorem withIssues (h : w.Veiled masterId c v) (issues : IssueTable) :
    ({ w with issues } : World).Veiled masterId c { v with issues } :=
  h.step ⟨rfl, rfl, rfl, rfl⟩ ⟨rfl, rfl, rfl, rfl⟩ rfl h.verifications h.keyPairs h.snapshots h.expansions

theorem withVerifications (h : w.Veiled masterId c v) (verifications : VerificationTable) :
    ({ w with verifications } : World).Veiled masterId c { v with verifications } :=
  h.step ⟨rfl, rfl, rfl, rfl⟩ ⟨rfl, rfl, rfl, rfl⟩ h.issues rfl h.keyPairs h.snapshots h.expansions

theorem withActivity (h : w.Veiled masterId c v) {a b : Activity} (hexpansions : b.expansions = a.expansions) :
    ({ w with activity := a } : World).Veiled masterId c { v with activity := b } :=
  h.step ⟨rfl, rfl, rfl, rfl⟩ ⟨rfl, rfl, rfl, rfl⟩ h.issues h.verifications h.keyPairs h.snapshots hexpansions

theorem snapshot_now (h : w.Veiled masterId c v) : Blurred KeyError.Veiled (w.readSnapshot c) (v.readSnapshot c) := by
  have hnow := h.snapshot w.now
  rwa [show ({ v with now := w.now } : World) = v from by rw [← h.now]] at hnow

theorem secret_of_faults {f g : Faults} (h : Option.Rel KeyError.Veiled f.locator g.locator) (w : World)
    (masterId : String) :
    Blurred KeyError.Veiled (({ w with faults := f } : World).loadMasterSecret masterId).1
      (({ w with faults := g } : World).loadMasterSecret masterId).1 := by
  dsimp only [World.loadMasterSecret, World.lookUpCertificate]
  generalize f.locator = fault at h ⊢
  generalize g.locator = fault' at h ⊢
  cases h with
  | some he => exact .error he
  | none =>
    dsimp only
    cases w.locator.newest masterId with
    | error e => exact .error (.same e)
    | ok found =>
      cases found with
      | none => exact .error (.same _)
      | some v => exact Blurred.refl KeyError.Veiled.same _

theorem snapshot_of_faults {f g : Faults} (h : Option.Rel KeyError.Veiled f.locator g.locator) (w : World)
    (c : CredentialSettings) :
    Blurred KeyError.Veiled (({ w with faults := f } : World).readSnapshot c)
      (({ w with faults := g } : World).readSnapshot c) := by
  unfold World.readSnapshot World.versions
  dsimp only
  generalize f.locator = fault at h ⊢
  generalize g.locator = fault' at h ⊢
  cases h with
  | some he => exact .error he
  | none => exact Blurred.refl KeyError.Veiled.same _

/-- **Worlds are veiled** if their faults are, the failures of the certificates' source included, and nothing else
differs. -/
theorem of_faults (w : World) {f g : Faults} (h : f.Veiled g)
    (hlocator : Option.Rel KeyError.Veiled f.locator g.locator) :
    ({ w with faults := f } : World).Veiled masterId c { w with faults := g } where
  now := rfl
  timer := rfl
  issues := rfl
  verifications := rfl
  keyPairs := rfl
  snapshots := rfl
  expansions := rfl
  faults := h
  secret := secret_of_faults hlocator w masterId
  snapshot now := snapshot_of_faults hlocator { w with now } c

end World.Veiled

end BlindMint
