import BlindMint.Proofs.Discretion.Veil

/-!
# Operations that keep failures from clients

Each operation behind a request is shown to keep what `Veil` says, in the order in which they are built: what is read
from certificates, the credentials in use, the key pairs in use, issuance and verification. Where an operation looks
at a failure only to pass it on there is nothing to see in it. The one that looks closer is saving an issue record, of
which a conflict is no failure (`recordSession_veils`).

## Results

* `derive_veiled`: expanders whose failures are veiled are asked as often, and derive the same key.
* `CredentialStore.keySet_veils`, `KeyStore.keySet_veils`: both published documents.
* `Session.verify_veils`, `Issuance.issue_veils`, `Verification.verify_veils`: the operations behind a request.
-/

namespace BlindMint

variable {masterId : String} {c : CredentialSettings} {w v w' v' : World}

/-! ## Certificates -/

theorem lookUpCertificate_expansions (w : World) (id : String) :
    (w.lookUpCertificate id).2.activity.expansions = w.activity.expansions := by
  unfold World.lookUpCertificate
  split <;> rfl

theorem listVersions_expansions (w : World) (id : String) :
    (w.listVersions id).2.activity.expansions = w.activity.expansions := by
  unfold World.listVersions
  split <;> rfl

theorem loadMasterSecret_expansions (w : World) (id : String) :
    (w.loadMasterSecret id).2.activity.expansions = w.activity.expansions := by
  have h := lookUpCertificate_expansions w id
  unfold World.loadMasterSecret
  split
  · next heq => rwa [heq] at h
  · next heq => rwa [heq] at h
  · next heq =>
    rw [heq] at h
    dsimp only
    split <;> exact h

theorem loadMasterSecret_veils (c : CredentialSettings) :
    Veils masterId c KeyError.Veiled (·.loadMasterSecret masterId) (·.loadMasterSecret masterId) := by
  intro w v h
  refine ⟨h.secret, h.upkeep ?_ ?_ ?_ ?_ ?_ ?_⟩
  · exact loadMasterSecret_sameCaches w masterId
  · exact loadMasterSecret_sameCaches v masterId
  · exact loadMasterSecret_upkeep w masterId
  · exact loadMasterSecret_upkeep v masterId
  · exact loadMasterSecret_expansions w masterId
  · exact loadMasterSecret_expansions v masterId

namespace CredentialStore

theorem listAll_expansions (ids : List String) (w : World) :
    (listAll ids w).2.activity.expansions = w.activity.expansions := by
  induction ids generalizing w with
  | nil => rfl
  | cons id ids ih =>
    have h := listVersions_expansions w id
    unfold listAll
    split
    · next heq => rwa [heq] at h
    · next v heq =>
      rw [heq] at h
      have hv := (ih v).trans h
      split
      · next heq' => rwa [heq'] at hv
      · next heq' => rwa [heq'] at hv

theorem load_expansions (s : CredentialSettings) (w : World) :
    (load s w).2.activity.expansions = w.activity.expansions := by
  have h := listVersions_expansions w s.certificateId
  unfold load
  split
  · next heq => rwa [heq] at h
  · next v heq =>
    rw [heq] at h
    split
    · exact h
    · have hv := (listAll_expansions s.additionalIds v).trans h
      split
      · next heq' => rwa [heq'] at hv
      · next heq' => rwa [heq'] at hv

theorem load_veils (masterId : String) (c : CredentialSettings) :
    Veils masterId c KeyError.Veiled (load c) (load c) := by
  intro w v h
  refine ⟨?_, h.upkeep ?_ ?_ ?_ ?_ ?_ ?_⟩
  · rw [load_fst, load_fst]
    exact h.snapshot_now
  · exact load_sameCaches c w
  · exact load_sameCaches c v
  · exact load_upkeep c w
  · exact load_upkeep c v
  · exact load_expansions c w
  · exact load_expansions c v

/-! ## Credentials -/

theorem begin_veiled (h : w.Veiled masterId c v) :
    ∃ served w' v', begin c w = (served, w') ∧ begin c v = (served, v') ∧ w'.Veiled masterId c v' := by
  have hcall : v.snapshots.begin (cacheKey c) v.timer = w.snapshots.begin (cacheKey c) w.timer := by
    rw [h.snapshots, h.timer]
  unfold begin
  rw [hcall]
  exact ⟨_, _, _, rfl, rfl, h.withSnapshots _⟩

theorem keep_veils (masterId : String) (c : CredentialSettings) (snapshot : Snapshot) :
    Veils masterId c (Failure.Veiled KeyError.Veiled) (keep c snapshot) (keep c snapshot) := by
  intro w v h
  have hcall : v.snapshots.finish (cacheKey c) snapshot v.timer (c.cacheTtl.toNat * 1000) =
      w.snapshots.finish (cacheKey c) snapshot w.timer (c.cacheTtl.toNat * 1000) := by rw [h.snapshots, h.timer]
  unfold keep
  rw [hcall]
  cases w.snapshots.finish (cacheKey c) snapshot w.timer (c.cacheTtl.toNat * 1000) with
  | none => exact ⟨.error .overflow, h⟩
  | some cache => exact ⟨.ok snapshot, (h.withSnapshots cache).count _ _⟩

theorem fill_veils (masterId : String) (c : CredentialSettings) :
    Veils masterId c (Failure.Veiled KeyError.Veiled) (fill c) (fill c) := by
  intro w v h
  obtain ⟨loaded, loaded', w', v', hw, hv, hloaded, hveiled⟩ := (load_veils masterId c).run h
  unfold fill
  rw [hw, hv]
  cases hloaded with
  | error he => exact ⟨.error (.failed he), hveiled⟩
  | ok snapshot => exact keep_veils masterId c snapshot hveiled

theorem snapshot_veils (masterId : String) (c : CredentialSettings) :
    Veils masterId c (Failure.Veiled KeyError.Veiled) (snapshot c) (snapshot c) := by
  intro w v h
  obtain ⟨served, w', v', hw, hv, hveiled⟩ := begin_veiled h
  unfold snapshot
  rw [hw, hv]
  cases served with
  | some snapshot => exact ⟨.ok snapshot, hveiled⟩
  | none => exact fill_veils masterId c hveiled

theorem validationKeys_veils (masterId : String) (c : CredentialSettings) :
    Veils masterId c (Failure.Veiled KeyError.Veiled) (validationKeys c) (validationKeys c) := by
  intro w v h
  obtain ⟨read, read', w', v', hw, hv, hread, hveiled⟩ := (snapshot_veils masterId c).run h
  unfold validationKeys
  rw [hw, hv]
  cases hread with
  | error he => exact ⟨.error he, hveiled⟩
  | ok snapshot => exact ⟨.ok _, hveiled⟩

theorem keySet_veils (masterId : String) (c : CredentialSettings) :
    Veils masterId c (Failure.Veiled KeyError.Veiled) (keySet c) (keySet c) := by
  intro w v h
  obtain ⟨keys, keys', w', v', hw, hv, hkeys, hveiled⟩ := (validationKeys_veils masterId c).run h
  unfold keySet
  rw [hw, hv]
  cases hkeys with
  | error he => exact ⟨.error he, hveiled⟩
  | ok keys => exact ⟨.ok _, hveiled⟩

end CredentialStore

/-- Whether a session token is accepted depends on no failure that is kept from its bearer. -/
theorem Session.verify_veils (masterId : String) (scheme : Scheme) (expected : Session.Expectation) (text : String) :
    Veils masterId c (Failure.Veiled KeyError.Veiled) (Session.verify scheme c expected text)
      (Session.verify scheme c expected text) := by
  intro w v h
  unfold Session.verify
  cases readHeader text with
  | error fault => exact ⟨.error (.failed (.same _)), h⟩
  | ok header =>
    obtain ⟨keys, keys', w', v', hw, hv, hkeys, hveiled⟩ := (CredentialStore.validationKeys_veils masterId c).run h
    dsimp only
    rw [hw, hv]
    cases hkeys with
    | error he => exact ⟨.error he, hveiled⟩
    | ok keys =>
      dsimp only
      rw [hveiled.now]
      cases acceptedClaims scheme expected text header keys w'.now with
      | error e => exact ⟨.error (.failed (.same e)), hveiled⟩
      | ok claims => exact ⟨.ok claims, hveiled⟩

/-! ## Key pairs -/

theorem Derivation.attempt_veiled {expander expander' : Expander} (h : expander.Veiled expander') (calls : Nat)
    (secret : MasterSecret) (interval : UInt64) (curve : Curve) (remaining counter : Nat) (buffer : Octets) :
    Blurred KeyError.Veiled (attempt expander calls secret interval curve remaining counter buffer).1
        (attempt expander' calls secret interval curve remaining counter buffer).1 ∧
      (attempt expander' calls secret interval curve remaining counter buffer).2 =
        (attempt expander calls secret interval curve remaining counter buffer).2 := by
  induction remaining generalizing counter buffer with
  | zero => exact ⟨.error (.same _), rfl⟩
  | succ remaining ih =>
    have hcall := h (calls + counter) secret.bytes (salt interval counter) buffer
    unfold attempt
    dsimp only
    generalize expander.expand (calls + counter) secret.bytes (salt interval counter) buffer = expanded at hcall ⊢
    generalize expander'.expand (calls + counter) secret.bytes (salt interval counter) buffer = expanded' at hcall ⊢
    cases hcall with
    | error he => exact ⟨.error he, rfl⟩
    | ok candidate =>
      dsimp only
      cases curve.publicPoint? candidate with
      | some point => exact ⟨.ok _, rfl⟩
      | none =>
        obtain ⟨hresult, hlog⟩ := ih (counter + 1) candidate
        exact ⟨hresult, congrArg (_ :: ·) hlog⟩

theorem derive_veiled {expander expander' : Expander} (h : expander.Veiled expander') (calls : Nat)
    (secret : MasterSecret) (interval : UInt64) (curve : Curve) :
    Blurred KeyError.Veiled (derive expander calls secret interval curve).1
        (derive expander' calls secret interval curve).1 ∧
      (derive expander' calls secret interval curve).2 = (derive expander calls secret interval curve).2 :=
  Derivation.attempt_veiled h ..

namespace KeyStore

variable {k k' : KeyStore}

theorem begin_veiled (h : w.Veiled masterId c v) (interval : UInt64) :
    ∃ served w' v', begin interval w = (served, w') ∧ begin interval v = (served, v') ∧
      w'.Veiled masterId c v' := by
  have hcall : v.keyPairs.begin (cacheKey interval) v.timer = w.keyPairs.begin (cacheKey interval) w.timer := by
    rw [h.keyPairs, h.timer]
  unfold begin
  rw [hcall]
  exact ⟨_, _, _, rfl, rfl, h.withKeyPairs _⟩

theorem compute_veils (hk : k.Veiled k') (c : CredentialSettings) (interval : UInt64) :
    Veils k.settings.masterId c KeyError.Veiled (k.compute interval) (k'.compute interval) := by
  intro w v h
  obtain ⟨loaded, loaded', w', v', hw, hv, hloaded, hveiled⟩ := (loadMasterSecret_veils c).run h
  unfold compute
  rw [hk.settings, hw, hv]
  cases hloaded with
  | error he => exact ⟨.error he, hveiled⟩
  | ok secret =>
    obtain ⟨hderived, hlog⟩ :=
      derive_veiled hk.expander w'.activity.expansions secret interval k.settings.curve
    dsimp only
    rw [hveiled.expansions]
    generalize derive k.expander w'.activity.expansions secret interval k.settings.curve = found at hderived hlog ⊢
    generalize derive k'.expander w'.activity.expansions secret interval k.settings.curve = found'
      at hderived hlog ⊢
    obtain ⟨derived, log⟩ := found
    obtain ⟨derived', log'⟩ := found'
    obtain rfl : log' = log := hlog
    cases hderived with
    | error he => exact ⟨.error he, hveiled.withActivity rfl⟩
    | ok key => exact ⟨.ok _, hveiled.withActivity rfl⟩

theorem keep_veils (hk : k.Veiled k') (masterId : String) (c : CredentialSettings) (interval : UInt64)
    (pair : KeyPair) :
    Veils masterId c (Failure.Veiled KeyError.Veiled) (k.keep interval pair) (k'.keep interval pair) := by
  intro w v h
  have hcall : v.keyPairs.finish (cacheKey interval) pair v.timer (k'.settings.cacheTtl.toNat * 1000) =
      w.keyPairs.finish (cacheKey interval) pair w.timer (k.settings.cacheTtl.toNat * 1000) := by
    rw [h.keyPairs, h.timer, hk.settings]
  unfold keep
  rw [hcall]
  cases w.keyPairs.finish (cacheKey interval) pair w.timer (k.settings.cacheTtl.toNat * 1000) with
  | none => exact ⟨.error .overflow, h⟩
  | some cache => exact ⟨.ok pair, (h.withKeyPairs cache).count _ _⟩

theorem fill_veils (hk : k.Veiled k') (c : CredentialSettings) (interval : UInt64) :
    Veils k.settings.masterId c (Failure.Veiled KeyError.Veiled) (k.fill interval) (k'.fill interval) := by
  intro w v h
  obtain ⟨computed, computed', w', v', hw, hv, hcomputed, hveiled⟩ := (compute_veils hk c interval).run h
  unfold fill
  rw [hw, hv]
  cases hcomputed with
  | error he => exact ⟨.error (.failed he), hveiled⟩
  | ok pair => exact keep_veils hk _ c interval pair hveiled

theorem keyPair_veils (hk : k.Veiled k') (c : CredentialSettings) (interval : UInt64) :
    Veils k.settings.masterId c (Failure.Veiled KeyError.Veiled) (k.keyPair interval) (k'.keyPair interval) := by
  intro w v h
  obtain ⟨served, w', v', hw, hv, hveiled⟩ := begin_veiled h interval
  unfold keyPair
  rw [hw, hv]
  cases served with
  | some pair => exact ⟨.ok pair, hveiled⟩
  | none => exact fill_veils hk c interval hveiled

theorem activeKeyPair_veils (hk : k.Veiled k') (c : CredentialSettings) :
    Veils k.settings.masterId c (Failure.Veiled KeyError.Veiled) k.activeKeyPair k'.activeKeyPair := by
  intro w v h
  unfold activeKeyPair
  rw [h.now, hk.settings]
  exact keyPair_veils hk c _ h

theorem publicKeys_veils (hk : k.Veiled k') (c : CredentialSettings) (intervals : List UInt64) :
    Veils k.settings.masterId c (Failure.Veiled KeyError.Veiled) (k.publicKeys intervals)
      (k'.publicKeys intervals) := by
  induction intervals with
  | nil => exact fun w v h => ⟨.ok [], h⟩
  | cons interval intervals ih =>
    intro w v h
    obtain ⟨first, first', w', v', hw, hv, hfirst, hveiled⟩ := (keyPair_veils hk c interval).run h
    unfold publicKeys
    rw [hw, hv]
    cases hfirst with
    | error he => exact ⟨.error he, hveiled⟩
    | ok pair =>
      obtain ⟨rest, rest', w'', v'', hw', hv', hrest, hveiled'⟩ := ih.run hveiled
      dsimp only
      rw [hw', hv']
      cases hrest with
      | error he => exact ⟨.error he, hveiled'⟩
      | ok keys => exact ⟨.ok _, hveiled'⟩

theorem keySet_veils (hk : k.Veiled k') (c : CredentialSettings) :
    Veils k.settings.masterId c (Failure.Veiled KeyError.Veiled) k.keySet k'.keySet := by
  intro w v h
  obtain ⟨keys, keys', w', v', hw, hv, hkeys, hveiled⟩ :=
    (publicKeys_veils hk c (k.settings.validationIntervals w.now)).run h
  unfold keySet validationKeys
  rw [h.now, hk.settings, hw, hv]
  cases hkeys with
  | error he => exact ⟨.error he, hveiled⟩
  | ok keys => exact ⟨.ok _, hveiled⟩

end KeyStore

/-! ## Issuance -/

/-- A conflict that saving a record ends in is a duplicate, and no failure. -/
theorem recordSession_of_conflict {record : IssueRecord} {e : StoreError} (he : e.IsConflict)
    (h : w.saveIssue record = (.error e, w')) : w.recordSession record = (.ok .duplicate, w') := by
  unfold World.recordSession
  rw [h]
  cases e with
  | conflict detail => rfl
  | notFound detail => exact absurd he id
  | unexpected text => exact absurd he id

theorem recordSession_of_error {record : IssueRecord} {e : StoreError} (he : ¬e.IsConflict)
    (h : w.saveIssue record = (.error e, w')) : w.recordSession record = (.error e, w') := by
  unfold World.recordSession
  rw [h]
  cases e with
  | conflict detail => exact absurd trivial he
  | notFound detail => rfl
  | unexpected text => rfl

theorem lookUpSession_veiled (h : w.Veiled masterId c v) (session : String) :
    Blurred Any (w.lookUpSession session) (v.lookUpSession session) := by
  have hfault := h.faults.issueFind
  unfold World.lookUpSession World.findIssues
  rw [h.issues, h.faults.issueBlind]
  generalize w.faults.issueFind = fault at hfault ⊢
  generalize v.faults.issueFind = fault' at hfault ⊢
  cases hfault with
  | some he => exact .error trivial
  | none => exact .ok _

theorem saveIssue_veils (masterId : String) (c : CredentialSettings) (record : IssueRecord) :
    Veils masterId c StoreError.Veiled (·.saveIssue record) (·.saveIssue record) := by
  intro w v h
  have hfault := h.faults.issueSave
  dsimp only [World.saveIssue]
  rw [h.issues]
  generalize w.faults.issueSave = fault at hfault ⊢
  generalize v.faults.issueSave = fault' at hfault ⊢
  cases hfault with
  | some he => exact ⟨.error he, h⟩
  | none =>
    cases w.issues.save record with
    | error e => exact ⟨.error (.same e), h⟩
    | ok table => exact ⟨.ok (), h.withIssues table⟩

/-- Saving a record ends in a conflict in both worlds or in none. -/
theorem recordSession_veils (masterId : String) (c : CredentialSettings) (record : IssueRecord) :
    Veils masterId c Any (·.recordSession record) (·.recordSession record) := by
  intro w v h
  obtain ⟨saved, saved', w', v', hw, hv, hsaved, hveiled⟩ := (saveIssue_veils masterId c record).run h
  cases hsaved with
  | ok =>
    dsimp only [World.recordSession] at hw hv ⊢
    rw [hw, hv]
    exact ⟨.ok _, hveiled⟩
  | @error e e' he =>
    by_cases hconflict : e.IsConflict
    · have hconflict' : e'.IsConflict := by
        cases he with
        | same => exact hconflict
        | other h _ => exact absurd hconflict h
      dsimp only
      rw [recordSession_of_conflict hconflict hw, recordSession_of_conflict hconflict' hv]
      exact ⟨.ok _, hveiled⟩
    · have hconflict' : ¬e'.IsConflict := by
        cases he with
        | same => exact hconflict
        | other _ h => exact h
      dsimp only
      rw [recordSession_of_error hconflict hw, recordSession_of_error hconflict' hv]
      exact ⟨.error trivial, hveiled⟩

theorem tryIssue_veils (masterId : String) (c : CredentialSettings) (record : IssueRecord) :
    Veils masterId c Any (·.tryIssue record) (·.tryIssue record) := by
  intro w v h
  have hfound := lookUpSession_veiled h record.session
  dsimp only [World.tryIssue]
  generalize w.lookUpSession record.session = found at hfound ⊢
  generalize v.lookUpSession record.session = found' at hfound ⊢
  cases hfound with
  | error he => exact ⟨.error trivial, h⟩
  | ok found =>
    cases found with
    | true => exact ⟨.ok _, h⟩
    | false => exact recordSession_veils masterId c record h

namespace Issuance

variable {i i' : Issuance} {k k' : KeyStore}

theorem enter_veils (hi : i.Veiled i') (masterId : String) (c : CredentialSettings) (claims : SessionClaims) :
    Veils masterId c Any (i.enter claims) (i'.enter claims) := by
  intro w v h
  obtain ⟨decision, decision', w', v', hw, hv, hdecision, hveiled⟩ :=
    (tryIssue_veils masterId c ⟨claims.jti, i.recordExpiry claims⟩).run h
  unfold enter
  rw [show i'.recordExpiry claims = i.recordExpiry claims by rw [recordExpiry, recordExpiry, hi.sessionLeeway]]
  rw [hw, hv]
  cases hdecision with
  | error he => exact ⟨.error trivial, hveiled⟩
  | ok decision => exact ⟨.ok decision, hveiled.count _ _⟩

theorem sign_veils (hi : i.Veiled i') (hk : k.Veiled k') (c : CredentialSettings) (maskedPoint : Octets) :
    Veils k.settings.masterId c (Failure.Veiled IssuanceError.Veiled) (i.sign k maskedPoint)
      (i'.sign k' maskedPoint) := by
  intro w v h
  obtain ⟨fetched, fetched', w', v', hw, hv, hfetched, hveiled⟩ := (KeyStore.activeKeyPair_veils hk c).run h
  unfold sign
  rw [hw, hv]
  cases hfetched with
  | error he =>
    cases he with
    | failed he => exact ⟨.error (.failed (.keys he)), hveiled⟩
    | overflow => exact ⟨.error .overflow, hveiled⟩
  | ok pair =>
    have hcall := hi.primitive ⟨pair.curve, pair.scalar, pair.point, maskedPoint⟩
    dsimp only [ask]
    generalize i.primitive ⟨pair.curve, pair.scalar, pair.point, maskedPoint⟩ = answer at hcall ⊢
    generalize i'.primitive ⟨pair.curve, pair.scalar, pair.point, maskedPoint⟩ = answer' at hcall ⊢
    cases hcall with
    | error he => exact ⟨.error (.failed (.primitive he)), hveiled.withActivity hveiled.expansions⟩
    | ok signature => exact ⟨.ok _, hveiled.withActivity hveiled.expansions⟩

/-- Whether a token is issued depends on no failure that is kept from its client. -/
theorem issue_veils (hi : i.Veiled i') (hk : k.Veiled k') (c : CredentialSettings) (claims : SessionClaims)
    (maskedPoint : Octets) :
    Veils k.settings.masterId c (Failure.Veiled IssuanceError.Veiled) (i.issue k claims maskedPoint)
      (i'.issue k' claims maskedPoint) := by
  intro w v h
  obtain ⟨decision, decision', w', v', hw, hv, hdecision, hveiled⟩ := (enter_veils hi _ c claims).run h
  unfold issue
  rw [hw, hv]
  cases hdecision with
  | error he => exact ⟨.error (.failed (.store _ _)), hveiled⟩
  | ok decision =>
    cases decision with
    | duplicate => exact ⟨.ok _, hveiled⟩
    | accepted =>
      obtain ⟨signed, signed', w'', v'', hw', hv', hsigned, hveiled'⟩ :=
        (sign_veils hi hk c maskedPoint).run hveiled
      dsimp only
      rw [hw', hv']
      cases hsigned with
      | error he => exact ⟨.error he, hveiled'⟩
      | ok token => exact ⟨.ok _, hveiled'⟩

end Issuance

/-! ## Verifications -/

theorem reachesLimit_veiled (h : w.Veiled masterId c v) (limit : VerificationLimit) (pseudonym : String) :
    Blurred Any (w.reachesLimit limit pseudonym) (v.reachesLimit limit pseudonym) := by
  have hfault := h.faults.verificationFind
  unfold World.reachesLimit World.findVerifications
  rw [h.now, h.verifications]
  generalize w.faults.verificationFind = fault at hfault ⊢
  generalize v.faults.verificationFind = fault' at hfault ⊢
  cases hfault with
  | some he => exact .error trivial
  | none => exact .ok _

theorem recordAttempt_veils (masterId : String) (c : CredentialSettings) (pseudonym : String) :
    Veils masterId c Any (·.recordAttempt pseudonym) (·.recordAttempt pseudonym) := by
  intro w v h
  have hfault := h.faults.verificationSave
  have htable : v.verifications.save ⟨pseudonym, v.now⟩ = w.verifications.save ⟨pseudonym, w.now⟩ := by
    rw [h.verifications, h.now]
  dsimp only [World.recordAttempt, World.saveVerification]
  rw [htable]
  generalize w.faults.verificationSave = fault at hfault ⊢
  generalize v.faults.verificationSave = fault' at hfault ⊢
  cases hfault with
  | some he => exact ⟨.error trivial, h⟩
  | none => exact ⟨.ok (), h.withVerifications _⟩

namespace Verification

variable {s s' : Verification}

theorem attempt_veils (hs : s.Veiled s') (masterId : String) (c : CredentialSettings) (pseudonym : String) :
    Veils masterId c VerificationError.Veiled (s.attempt pseudonym) (s'.attempt pseudonym) := by
  intro w v h
  have hcall := hs.check pseudonym
  have hasked : (s.ask pseudonym w).2.Veiled masterId c (s'.ask pseudonym v).2 := h.withActivity h.expansions
  dsimp only [attempt, ask] at hasked ⊢
  generalize s.check pseudonym = answer at hcall ⊢
  generalize s'.check pseudonym = answer' at hcall ⊢
  cases hcall with
  | error he => exact ⟨.error (.identityCheck _ _), hasked⟩
  | ok verified =>
    obtain ⟨recorded, recorded', w', v', hw, hv, hrecorded, hveiled⟩ :=
      (recordAttempt_veils masterId c pseudonym).run hasked
    dsimp only at hw hv ⊢
    rw [hw, hv]
    cases hrecorded with
    | error he => exact ⟨.error (.store _ _), hveiled⟩
    | ok => exact ⟨.ok _, hveiled⟩

theorem judge_veils (hs : s.Veiled s') (masterId : String) (c : CredentialSettings) (pseudonym : String) :
    Veils masterId c VerificationError.Veiled (s.judge pseudonym) (s'.judge pseudonym) := by
  intro w v h
  have hreached := reachesLimit_veiled h s.limit pseudonym
  unfold judge
  rw [hs.limit]
  generalize w.reachesLimit s.limit pseudonym = reached at hreached ⊢
  generalize v.reachesLimit s.limit pseudonym = reached' at hreached ⊢
  cases hreached with
  | error he => exact ⟨.error (.store _ _), h⟩
  | ok reached =>
    cases reached with
    | true => exact ⟨.ok _, h⟩
    | false => exact attempt_veils hs masterId c pseudonym h

/-- Whether a pseudonym is verified depends on no failure that is kept from its client. -/
theorem verify_veils (hs : s.Veiled s') (masterId : String) (c : CredentialSettings) (pseudonym : String) :
    Veils masterId c VerificationError.Veiled (s.verify pseudonym) (s'.verify pseudonym) := by
  intro w v h
  obtain ⟨outcome, outcome', w', v', hw, hv, houtcome, hveiled⟩ := (judge_veils hs masterId c pseudonym).run h
  unfold verify
  rw [hw, hv]
  cases houtcome with
  | error he => exact ⟨.error he, hveiled⟩
  | ok outcome => exact ⟨.ok outcome, hveiled.count _ _⟩

end Verification

end BlindMint
