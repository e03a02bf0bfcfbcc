import BlindMint.Http.Router

/-!
# What keys and credentials leave alone

Finding keys and credentials reads certificates, fills caches and counts. It does not move the clock and
touches neither table of records: `SameRecords` says so of the worlds before and after. Nor does it count
anything that is about records, which is `Upkeep`; this file has it for every operation on keys, credentials
and session tokens. `SameLedger` is the weaker relation that the operations on verifications keep as well.

Results:
* `verify_upkeep`, `activeKeyPair_upkeep`: verifying a session token and fetching the key pair that signs keep
  the clock, the faults, both tables and the counters that are about them.
* `verification_sameLedger`: a verification keeps the issue records.
-/

namespace BlindMint

/-- Two worlds with the same clock, the same faults and the same records, between which the signing
primitive was not asked. -/
structure SameRecords (w v : World) : Prop where
  now : v.now = w.now
  faults : v.faults = w.faults
  issues : v.issues = w.issues
  verifications : v.verifications = w.verifications
  primitiveCalls : v.activity.primitiveCalls = w.activity.primitiveCalls

/-- Two worlds with the same clock, the same faults and the same issue records, between which the signing
primitive was not asked. -/
structure SameLedger (w v : World) : Prop where
  now : v.now = w.now
  faults : v.faults = w.faults
  issues : v.issues = w.issues
  primitiveCalls : v.activity.primitiveCalls = w.activity.primitiveCalls

namespace SameRecords

theorem refl (w : World) : SameRecords w w := ⟨rfl, rfl, rfl, rfl, rfl⟩

theorem trans {u v w : World} (h : SameRecords u v) (h' : SameRecords v w) : SameRecords u w :=
  ⟨h'.now.trans h.now, h'.faults.trans h.faults, h'.issues.trans h.issues,
    h'.verifications.trans h.verifications, h'.primitiveCalls.trans h.primitiveCalls⟩

theorem sameLedger {w v : World} (h : SameRecords w v) : SameLedger w v :=
  ⟨h.now, h.faults, h.issues, h.primitiveCalls⟩

end SameRecords

namespace SameLedger

theorem refl (w : World) : SameLedger w w := ⟨rfl, rfl, rfl, rfl⟩

theorem trans {u v w : World} (h : SameLedger u v) (h' : SameLedger v w) : SameLedger u w :=
  ⟨h'.now.trans h.now, h'.faults.trans h.faults, h'.issues.trans h.issues,
    h'.primitiveCalls.trans h.primitiveCalls⟩

end SameLedger

/-- Whether a counter is about records, those saved and those deleted. -/
def Counter.isOfRecords : Counter → Bool
  | .issuance _ | .verifications _ | .swept _ => true
  | .cacheFills _ | .rsaMasterKey => false

/-- Two worlds with the same records between which nothing has been counted that is about records. -/
structure Upkeep (w v : World) : Prop extends SameRecords w v where
  counters : ∀ counter : Counter, counter.isOfRecords = true →
    v.counters.get counter = w.counters.get counter

namespace Upkeep

theorem of_counters_eq {w v : World} (h : SameRecords w v) (hc : v.counters = w.counters) :
    Upkeep w v :=
  ⟨h, fun counter _ => by rw [hc]⟩

theorem refl (w : World) : Upkeep w w := .of_counters_eq (.refl w) rfl

theorem trans {u v w : World} (h : Upkeep u v) (h' : Upkeep v w) : Upkeep u w :=
  ⟨h.toSameRecords.trans h'.toSameRecords,
    fun counter hc => (h'.counters counter hc).trans (h.counters counter hc)⟩

end Upkeep

theorem count_sameRecords (w : World) (counter : Counter) (amount : Nat) :
    SameRecords w (w.count counter amount) := ⟨rfl, rfl, rfl, rfl, rfl⟩

theorem count_upkeep (w : World) {counter : Counter} (amount : Nat) (hc : counter.isOfRecords = false) :
    Upkeep w (w.count counter amount) where
  toSameRecords := count_sameRecords w counter amount
  counters other hother := Counters.get_add_of_ne _ (by rintro rfl; simp [hc] at hother) _

/-! ## Certificates -/

theorem lookUpCertificate_upkeep (w : World) (id : String) : Upkeep w (w.lookUpCertificate id).2 := by
  unfold World.lookUpCertificate
  split <;> exact .of_counters_eq ⟨rfl, rfl, rfl, rfl, rfl⟩ rfl

theorem listVersions_upkeep (w : World) (id : String) : Upkeep w (w.listVersions id).2 := by
  unfold World.listVersions
  split <;> exact .of_counters_eq ⟨rfl, rfl, rfl, rfl, rfl⟩ rfl

theorem loadMasterSecret_upkeep (w : World) (id : String) : Upkeep w (w.loadMasterSecret id).2 := by
  have h := lookUpCertificate_upkeep w id
  unfold World.loadMasterSecret
  split
  · next heq => rwa [heq] at h
  · next heq => rwa [heq] at h
  · next heq =>
    rw [heq] at h
    dsimp only
    split
    · exact h.trans (count_upkeep _ 1 rfl)
    · exact h

/-! ## Key pairs -/

namespace KeyStore

theorem begin_upkeep (interval : UInt64) (w : World) : Upkeep w (begin interval w).2 :=
  .of_counters_eq ⟨rfl, rfl, rfl, rfl, rfl⟩ rfl

theorem compute_upkeep (k : KeyStore) (interval : UInt64) (w : World) :
    Upkeep w (k.compute interval w).2 := by
  have h := loadMasterSecret_upkeep w k.settings.masterId
  unfold compute
  split
  · next heq => rwa [heq] at h
  · next heq =>
    rw [heq] at h
    dsimp only
    split <;> exact h.trans (.of_counters_eq ⟨rfl, rfl, rfl, rfl, rfl⟩ rfl)

theorem keep_upkeep (k : KeyStore) (interval : UInt64) (pair : KeyPair) (w : World) :
    Upkeep w (k.keep interval pair w).2 := by
  unfold keep
  split
  · exact .refl w
  · next cache _ =>
    have hcache : Upkeep w { w with keyPairs := cache } :=
      .of_counters_eq ⟨rfl, rfl, rfl, rfl, rfl⟩ rfl
    exact hcache.trans (count_upkeep _ 1 rfl)

theorem fill_upkeep (k : KeyStore) (interval : UInt64) (w : World) :
    Upkeep w (k.fill interval w).2 := by
  have h := compute_upkeep k interval w
  unfold fill
  split
  · next heq => rwa [heq] at h
  · next heq =>
    rw [heq] at h
    exact h.trans (keep_upkeep ..)

theorem keyPair_upkeep (k : KeyStore) (interval : UInt64) (w : World) :
    Upkeep w (k.keyPair interval w).2 := by
  have h := begin_upkeep interval w
  unfold keyPair
  split
  · next heq => rwa [heq] at h
  · next heq =>
    rw [heq] at h
    exact h.trans (fill_upkeep ..)

theorem activeKeyPair_upkeep (k : KeyStore) (w : World) : Upkeep w (k.activeKeyPair w).2 :=
  keyPair_upkeep ..

theorem publicKeys_upkeep (k : KeyStore) (intervals : List UInt64) (w : World) :
    Upkeep w (k.publicKeys intervals w).2 := by
  induction intervals generalizing w with
  | nil => exact .refl w
  | cons interval intervals ih =>
    have h := keyPair_upkeep k interval w
    unfold publicKeys
    split
    · next heq => rwa [heq] at h
    · next v heq =>
      rw [heq] at h
      have hv := h.trans (ih v)
      split
      · next heq' => rwa [heq'] at hv
      · next heq' => rwa [heq'] at hv

theorem keySet_upkeep (k : KeyStore) (w : World) : Upkeep w (k.keySet w).2 := by
  have h := publicKeys_upkeep k (k.settings.validationIntervals w.now) w
  unfold keySet validationKeys
  split
  · next heq => rwa [heq] at h
  · next heq => rwa [heq] at h

end KeyStore

/-! ## Credentials -/

namespace CredentialStore

theorem listAll_upkeep (ids : List String) (w : World) : Upkeep w (listAll ids w).2 := by
  induction ids generalizing w with
  | nil => exact .refl w
  | cons id ids ih =>
    have h := listVersions_upkeep w id
    unfold listAll
    split
    · next heq => rwa [heq] at h
    · next v heq =>
      rw [heq] at h
      have hv := h.trans (ih v)
      split
      · next heq' => rwa [heq'] at hv
      · next heq' => rwa [heq'] at hv

theorem load_upkeep (s : CredentialSettings) (w : World) : Upkeep w (load s w).2 := by
  have h := listVersions_upkeep w s.certificateId
  unfold load
  split
  · next heq => rwa [heq] at h
  · next v heq =>
    rw [heq] at h
    split
    · exact h
    · have hv := h.trans (listAll_upkeep s.additionalIds v)
      split
      · next heq' => rwa [heq'] at hv
      · next heq' => rwa [heq'] at hv

theorem keep_upkeep (s : CredentialSettings) (snapshot : Snapshot) (w : World) :
    Upkeep w (keep s snapshot w).2 := by
  unfold keep
  split
  · exact .refl w
  · next cache _ =>
    have hcache : Upkeep w { w with snapshots := cache } :=
      .of_counters_eq ⟨rfl, rfl, rfl, rfl, rfl⟩ rfl
    exact hcache.trans (count_upkeep _ 1 rfl)

theorem fill_upkeep (s : CredentialSettings) (w : World) : Upkeep w (fill s w).2 := by
  have h := load_upkeep s w
  unfold fill
  split
  · next heq => rwa [heq] at h
  · next heq =>
    rw [heq] at h
    exact h.trans (keep_upkeep ..)

theorem snapshot_upkeep (s : CredentialSettings) (w : World) : Upkeep w (snapshot s w).2 := by
  have h : Upkeep w (begin s w).2 :=
    .of_counters_eq ⟨rfl, rfl, rfl, rfl, rfl⟩ rfl
  unfold snapshot
  split
  · next heq => rwa [heq] at h
  · next heq =>
    rw [heq] at h
    exact h.trans (fill_upkeep ..)

theorem validationKeys_upkeep (s : CredentialSettings) (w : World) :
    Upkeep w (validationKeys s w).2 := by
  have h := snapshot_upkeep s w
  unfold validationKeys
  split
  · next heq => rwa [heq] at h
  · next heq => rwa [heq] at h

theorem keySet_upkeep (s : CredentialSettings) (w : World) : Upkeep w (keySet s w).2 := by
  have h := validationKeys_upkeep s w
  unfold keySet
  split
  · next heq => rwa [heq] at h
  · next heq => rwa [heq] at h

end CredentialStore

/-- Verifying a session token keeps the clock, the faults and both tables. -/
theorem Session.verify_upkeep (scheme : Scheme) (credentials : CredentialSettings)
    (expected : Session.Expectation) (text : String) (w : World) :
    Upkeep w (Session.verify scheme credentials expected text w).2 := by
  have h := CredentialStore.validationKeys_upkeep credentials w
  unfold Session.verify
  split
  · exact .refl w
  · split
    · next heq => rwa [heq] at h
    · next heq =>
      rw [heq] at h
      split <;> exact h

/-! ## Verifications -/

theorem recordAttempt_sameLedger (w : World) (pseudonym : String) :
    SameLedger w (w.recordAttempt pseudonym).2 := by
  unfold World.recordAttempt World.saveVerification
  split <;> exact ⟨rfl, rfl, rfl, rfl⟩

/-- A verification keeps the issue records. -/
theorem Verification.verification_sameLedger (s : Verification) (pseudonym : String) (w : World) :
    SameLedger w (s.verify pseudonym w).2 := by
  have hasked : SameLedger w (s.ask pseudonym w).2 := ⟨rfl, rfl, rfl, rfl⟩
  have hjudge : SameLedger w (s.judge pseudonym w).2 := by
    unfold judge attempt
    split
    · exact .refl w
    · exact .refl w
    · split
      · next heq => rwa [heq] at hasked
      · next v heq =>
        rw [heq] at hasked
        have h := hasked.trans (recordAttempt_sameLedger v pseudonym)
        split
        · next heq' => rwa [heq'] at h
        · next heq' => rwa [heq'] at h
  unfold verify
  split
  · next heq => rwa [heq] at hjudge
  · next heq =>
    rw [heq] at hjudge
    exact hjudge.trans (count_sameRecords ..).sameLedger

end BlindMint
