import BlindMint.Proofs.Frame
import BlindMint.Proofs.Source

/-!
# What does not depend on records

Keys, credentials and session tokens are found in the certificates, the caches and the clocks. Nothing of that
depends on the two tables of records or on the counters: in two worlds that differ in these alone (`Alike`), an
operation on keys or credentials yields the same, and the worlds after it again differ in these alone. Such an
operation is called record-free (`RecordFree`), and this file shows of each operation that it is.

Results:
* `RecordFree.run`: what such an operation does in two worlds that are alike.
* `KeyStore.keySet_recordFree`, `CredentialStore.keySet_recordFree`: so are both published documents.
* `Session.verify_recordFree`, `Issuance.sign_recordFree`: so are accepting a session token and signing.
-/

namespace BlindMint

/-- Two worlds that differ in their records and counters alone. -/
structure Alike (w v : World) : Prop extends SameCaches w v where
  activity : v.activity = w.activity

/-- An operation that yields the same in two worlds that are alike, and leaves them alike. -/
def RecordFree {α : Type} (op : World → α × World) : Prop :=
  ∀ ⦃w v : World⦄, Alike w v → (op v).1 = (op w).1 ∧ Alike (op w).2 (op v).2

variable {α β ε : Type} {w v : World}

namespace Alike

theorem refl (w : World) : Alike w w := ⟨.refl w, rfl⟩

theorem trans {u : World} (h : Alike u v) (h' : Alike v w) : Alike u w :=
  ⟨h.toSameCaches.trans h'.toSameCaches, h'.activity.trans h.activity⟩

theorem of_records (w : World) (issues : IssueTable) (verifications : VerificationTable)
    (counters : Counters) : Alike w { w with issues, verifications, counters } :=
  ⟨⟨⟨rfl, rfl, rfl, rfl⟩, rfl, rfl⟩, rfl⟩

theorem exists_eq (h : Alike w v) :
    ∃ issues verifications counters, v = { w with issues, verifications, counters } := by
  obtain ⟨⟨⟨hnow, htimer, hlocator, hfaults⟩, hpairs, hsnapshots⟩, hactivity⟩ := h
  obtain ⟨⟩ := v
  dsimp only at *
  subst hnow htimer hlocator hfaults hpairs hsnapshots hactivity
  exact ⟨_, _, _, rfl⟩

theorem count (h : Alike w v) (counter other : Counter) (amount more : Nat) :
    Alike (w.count counter amount) (v.count other more) :=
  ⟨⟨⟨h.now, h.timer, h.locator, h.faults⟩, h.keyPairs, h.snapshots⟩, h.activity⟩

end Alike

/-! ## Steps -/

namespace RecordFree

theorem pure (value : α) : RecordFree fun w => (value, w) := fun _ _ h => ⟨rfl, h⟩

/-- What a record-free operation does in two worlds that are alike. -/
theorem run {op : World → α × World} (hop : RecordFree op) (h : Alike w v) :
    ∃ value w' v', op w = (value, w') ∧ op v = (value, v') ∧ Alike w' v' :=
  ⟨(op w).1, (op w).2, (op v).2, rfl, Prod.ext (hop h).1 rfl, (hop h).2⟩

end RecordFree

/-! ## Certificates -/

theorem lookUpCertificate_recordFree (id : String) : RecordFree (·.lookUpCertificate id) := by
  intro w v h
  obtain ⟨issues, verifications, counters, rfl⟩ := h.exists_eq
  dsimp only [World.lookUpCertificate]
  cases w.faults.locator <;> exact ⟨rfl, .of_records ..⟩

theorem listVersions_recordFree (id : String) : RecordFree (·.listVersions id) := by
  intro w v h
  obtain ⟨issues, verifications, counters, rfl⟩ := h.exists_eq
  dsimp only [World.listVersions]
  cases w.faults.locator <;> exact ⟨rfl, .of_records ..⟩

theorem loadMasterSecret_recordFree (id : String) : RecordFree (·.loadMasterSecret id) := by
  intro w v h
  obtain ⟨found, w', v', hw, hv, hsame⟩ := (lookUpCertificate_recordFree id).run h
  dsimp only [World.loadMasterSecret]
  rw [hw, hv]
  rcases found with e | _ | version
  · exact ⟨rfl, hsame⟩
  · exact ⟨rfl, hsame⟩
  · refine ⟨rfl, ?_⟩
    dsimp only
    split
    · exact hsame.count ..
    · exact hsame

/-! ## Key pairs -/

namespace KeyStore

theorem begin_recordFree (interval : UInt64) : RecordFree (begin interval) := by
  intro w v h
  obtain ⟨issues, verifications, counters, rfl⟩ := h.exists_eq
  exact ⟨rfl, .of_records ..⟩

theorem compute_recordFree (k : KeyStore) (interval : UInt64) : RecordFree (k.compute interval) := by
  intro w v h
  obtain ⟨loaded, w', v', hw, hv, hsame⟩ := (loadMasterSecret_recordFree k.settings.masterId).run h
  unfold compute
  rw [hw, hv]
  cases loaded with
  | error e => exact ⟨rfl, hsame⟩
  | ok secret =>
    obtain ⟨issues, verifications, counters, rfl⟩ := hsame.exists_eq
    dsimp only
    cases (derive k.expander w'.activity.expansions secret interval k.settings.curve).1 <;>
      exact ⟨rfl, .of_records ..⟩

theorem keep_recordFree (k : KeyStore) (interval : UInt64) (pair : KeyPair) :
    RecordFree (k.keep interval pair) := by
  intro w v h
  obtain ⟨issues, verifications, counters, rfl⟩ := h.exists_eq
  dsimp only [keep]
  cases w.keyPairs.finish (cacheKey interval) pair w.timer (k.settings.cacheTtl.toNat * 1000) <;>
    exact ⟨rfl, .of_records ..⟩

theorem fill_recordFree (k : KeyStore) (interval : UInt64) : RecordFree (k.fill interval) := by
  intro w v h
  obtain ⟨computed, w', v', hw, hv, hsame⟩ := (compute_recordFree k interval).run h
  unfold fill
  rw [hw, hv]
  cases computed with
  | error e => exact ⟨rfl, hsame⟩
  | ok pair => exact keep_recordFree k interval pair hsame

theorem keyPair_recordFree (k : KeyStore) (interval : UInt64) : RecordFree (k.keyPair interval) := by
  intro w v h
  obtain ⟨served, w', v', hw, hv, hsame⟩ := (begin_recordFree interval).run h
  unfold keyPair
  rw [hw, hv]
  cases served with
  | some pair => exact ⟨rfl, hsame⟩
  | none => exact fill_recordFree k interval hsame

theorem activeKeyPair_recordFree (k : KeyStore) : RecordFree k.activeKeyPair := by
  intro w v h
  unfold activeKeyPair
  rw [h.now]
  exact keyPair_recordFree k _ h

theorem publicKeys_recordFree (k : KeyStore) (intervals : List UInt64) :
    RecordFree (k.publicKeys intervals) := by
  induction intervals with
  | nil => exact .pure _
  | cons interval intervals ih =>
    intro w v h
    obtain ⟨first, w', v', hw, hv, hsame⟩ := (keyPair_recordFree k interval).run h
    unfold publicKeys
    rw [hw, hv]
    cases first with
    | error e => exact ⟨rfl, hsame⟩
    | ok pair =>
      obtain ⟨rest, w'', v'', hw', hv', hsame'⟩ := ih.run hsame
      dsimp only
      rw [hw', hv']
      cases rest <;> exact ⟨rfl, hsame'⟩

theorem validationKeys_recordFree (k : KeyStore) : RecordFree k.validationKeys := by
  intro w v h
  unfold validationKeys
  rw [h.now]
  exact publicKeys_recordFree k _ h

theorem keySet_recordFree (k : KeyStore) : RecordFree k.keySet := by
  intro w v h
  obtain ⟨keys, w', v', hw, hv, hsame⟩ := (validationKeys_recordFree k).run h
  unfold keySet
  rw [hw, hv]
  cases keys <;> exact ⟨rfl, hsame⟩

end KeyStore

/-! ## Credentials -/

namespace CredentialStore

theorem listAll_recordFree (ids : List String) : RecordFree (listAll ids) := by
  induction ids with
  | nil => exact .pure _
  | cons id ids ih =>
    intro w v h
    obtain ⟨first, w', v', hw, hv, hsame⟩ := (listVersions_recordFree id).run h
    unfold listAll
    rw [hw, hv]
    cases first with
    | error e => exact ⟨rfl, hsame⟩
    | ok versions =>
      obtain ⟨rest, w'', v'', hw', hv', hsame'⟩ := ih.run hsame
      dsimp only
      rw [hw', hv']
      cases rest <;> exact ⟨rfl, hsame'⟩

theorem load_recordFree (s : CredentialSettings) : RecordFree (load s) := by
  intro w v h
  obtain ⟨primary, w', v', hw, hv, hsame⟩ := (listVersions_recordFree s.certificateId).run h
  unfold load
  rw [hw, hv]
  cases primary with
  | error e => exact ⟨rfl, hsame⟩
  | ok primary =>
    dsimp only
    rw [hsame.now]
    cases Credential.active s.certificateId primary w'.now s.keyRollover with
    | error e => exact ⟨rfl, hsame⟩
    | ok active =>
      obtain ⟨rest, w'', v'', hw', hv', hsame'⟩ := (listAll_recordFree s.additionalIds).run hsame
      dsimp only
      rw [hw', hv']
      cases rest <;> exact ⟨rfl, hsame'⟩

theorem begin_recordFree (s : CredentialSettings) : RecordFree (begin s) := by
  intro w v h
  obtain ⟨issues, verifications, counters, rfl⟩ := h.exists_eq
  exact ⟨rfl, .of_records ..⟩

theorem keep_recordFree (s : CredentialSettings) (snapshot : Snapshot) :
    RecordFree (keep s snapshot) := by
  intro w v h
  obtain ⟨issues, verifications, counters, rfl⟩ := h.exists_eq
  dsimp only [keep]
  cases w.snapshots.finish (cacheKey s) snapshot w.timer (s.cacheTtl.toNat * 1000) <;>
    exact ⟨rfl, .of_records ..⟩

theorem fill_recordFree (s : CredentialSettings) : RecordFree (fill s) := by
  intro w v h
  obtain ⟨loaded, w', v', hw, hv, hsame⟩ := (load_recordFree s).run h
  unfold fill
  rw [hw, hv]
  cases loaded with
  | error e => exact ⟨rfl, hsame⟩
  | ok snapshot => exact keep_recordFree s snapshot hsame

theorem snapshot_recordFree (s : CredentialSettings) : RecordFree (snapshot s) := by
  intro w v h
  obtain ⟨served, w', v', hw, hv, hsame⟩ := (begin_recordFree s).run h
  unfold snapshot
  rw [hw, hv]
  cases served with
  | some snapshot => exact ⟨rfl, hsame⟩
  | none => exact fill_recordFree s hsame

theorem validationKeys_recordFree (s : CredentialSettings) : RecordFree (validationKeys s) := by
  intro w v h
  obtain ⟨snapshot, w', v', hw, hv, hsame⟩ := (snapshot_recordFree s).run h
  unfold validationKeys
  rw [hw, hv]
  cases snapshot <;> exact ⟨rfl, hsame⟩

theorem keySet_recordFree (s : CredentialSettings) : RecordFree (keySet s) := by
  intro w v h
  obtain ⟨keys, w', v', hw, hv, hsame⟩ := (validationKeys_recordFree s).run h
  unfold keySet
  rw [hw, hv]
  cases keys <;> exact ⟨rfl, hsame⟩

end CredentialStore

/-- Whether a session token is accepted does not depend on records. -/
theorem Session.verify_recordFree (scheme : Scheme) (credentials : CredentialSettings)
    (expected : Session.Expectation) (text : String) :
    RecordFree (Session.verify scheme credentials expected text) := by
  unfold Session.verify
  cases readHeader text with
  | error fault => exact .pure _
  | ok header =>
    intro w v h
    obtain ⟨keys, w', v', hw, hv, hsame⟩ :=
      (CredentialStore.validationKeys_recordFree credentials).run h
    dsimp only
    rw [hw, hv]
    cases keys with
    | error e => exact ⟨rfl, hsame⟩
    | ok keys =>
      dsimp only
      rw [hsame.now]
      cases acceptedClaims scheme expected text header keys w'.now <;> exact ⟨rfl, hsame⟩

theorem Issuance.ask_recordFree (s : Issuance) (request : BlindRequest) :
    RecordFree (s.ask request) := by
  intro w v h
  obtain ⟨issues, verifications, counters, rfl⟩ := h.exists_eq
  exact ⟨rfl, .of_records ..⟩

/-- What is signed does not depend on records. -/
theorem Issuance.sign_recordFree (s : Issuance) (keys : KeyStore) (maskedPoint : Octets) :
    RecordFree (s.sign keys maskedPoint) := by
  intro w v h
  obtain ⟨outcome, w', v', hw, hv, hsame⟩ := (KeyStore.activeKeyPair_recordFree keys).run h
  unfold sign
  rw [hw, hv]
  rcases outcome with (e | _) | pair
  · exact ⟨rfl, hsame⟩
  · exact ⟨rfl, hsame⟩
  · obtain ⟨signature, w'', v'', hw', hv', hsame'⟩ :=
      (s.ask_recordFree ⟨pair.curve, pair.scalar, pair.point, maskedPoint⟩).run hsame
    dsimp only
    rw [hw', hv']
    cases signature <;> exact ⟨rfl, hsame'⟩

end BlindMint
