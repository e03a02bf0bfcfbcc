import BlindMint.Config.Settings
import BlindMint.Proofs.Credentials.Snapshot
import BlindMint.Proofs.Keys.Coverage
import BlindMint.Proofs.Ledger.Standing
import BlindMint.Sweep

/-!
# Accepted settings and the ends of the clocks

Settings are full words, and what is computed with them must not leave the range of a word. On the business
clock it never does: the number of an interval is an exact quotient, and every sum and difference stops at
the ends of the range (`Settings.Clamped`). On the timer it may: the deadline of a value that is kept is a
plain sum, and settings are accepted whatever their caches' times are. A call that would keep a value with a
deadline beyond the range of the timer yields nothing at all.

`Settings.Call` are the calls of everything that is built from settings. They are all answered exactly
if both caches' deadlines fit (`Settings.DeadlinesFit`).

## Results

* `KeyStore.lost_keyPair_iff`, `CredentialStore.lost_snapshot_iff`: when one call yields nothing.
* `Settings.Call.deadline_of_overflows`: a call that yields nothing would have kept a value too long.
* `Settings.exists_overflow_keys`, `Settings.exists_overflow_credentials`: a time that does not fit leaves
  some call without an answer.
* **`Settings.answered_iff_deadlines_fit`**: accepted settings, and `Settings.forever_overflows`: some of them
  leave a call without an answer.
-/

namespace BlindMint

/-- An exact number of seconds, stopped at the ends of the range of instants. -/
def Instant.clamp (seconds : Int) : Int :=
  max minSeconds (min maxSeconds seconds)

/-! ## Results that are none -/

/-- A result that is none. -/
def Lost {ε α : Type} (result : Except (Failure ε) α) : Prop := result = .error .overflow

theorem lost_map_iff {ε α β : Type} {f : α → β} {result : Except (Failure ε) α} :
    Lost (result.map f) ↔ Lost result := by
  cases result <;> simp [Lost, Except.map]

theorem lost_bind {ε α β : Type} {result : Except (Failure ε) α} {next : α → Except (Failure ε) β}
    (hnext : ∀ value, ¬ Lost (next value)) (h : Lost (result.bind next)) : Lost result := by
  cases result with
  | ok value => exact absurd h (hnext value)
  | error e => exact congrArg Except.error (Except.error.inj h)

/-- What fails in another way is not lost. -/
theorem not_lost_mapError {ε α : Type} (result : Except ε α) : ¬ Lost (result.mapError Failure.failed) := by
  cases result <;> simp [Lost, Except.mapError]

/-! ## One deadline -/

namespace Cache

theorem deadline?_eq_none_iff {now ttl : Nat} : deadline? now ttl = none ↔ horizon ≤ now + ttl := by
  unfold deadline?
  split <;> simp <;> omega

theorem finish_eq_none_iff {α : Type} {c : Cache α} {key : String} {value : α} {now ttl : Nat} :
    c.finish key value now ttl = none ↔ horizon ≤ now + ttl := by
  rw [← deadline?_eq_none_iff]
  unfold finish
  split <;> simp [*]

end Cache

namespace KeyStore

variable {k : KeyStore} {interval : UInt64} {w v : World}

theorem lost_keep_iff {pair : KeyPair} :
    Lost (k.keep interval pair w).1 ↔
      Cache.horizon ≤ w.timer + k.settings.cacheTtl.toNat * 1000 := by
  have hfinish : w.keyPairs.finish (cacheKey interval) pair w.timer (k.settings.cacheTtl.toNat * 1000) =
      none ↔ _ := Cache.finish_eq_none_iff
  rw [← hfinish]
  unfold keep Lost
  split <;> simp [*]

/-- **A call for a key pair yields nothing** iff it is not served, the pair is derived, and the deadline does not
fit. -/
theorem lost_keyPair_iff :
    Lost (k.keyPair interval w).1 ↔
      (begin interval w).1 = none ∧ (∃ pair, (k.compute interval (begin interval w).2).1 = .ok pair) ∧
        Cache.horizon ≤ w.timer + k.settings.cacheTtl.toNat * 1000 := by
  rcases k.keyPair_cases interval w with
    ⟨pair, hbegin, h⟩ | ⟨hnone, v, hv, -, ⟨e, he, h⟩ | ⟨pair, hpair, h⟩⟩
  · simp [h, hbegin, Lost]
  · simp [h, he, Lost]
  · rw [h, lost_keep_iff, hv.timer]
    exact ⟨fun hlarge => ⟨hnone, ⟨pair, hpair⟩, hlarge⟩, fun hall => hall.2.2⟩

theorem deadline_of_lost_publicKeys {intervals : List UInt64} (h : Lost (k.publicKeys intervals w).1) :
    Cache.horizon ≤ w.timer + k.settings.cacheTtl.toNat * 1000 := by
  induction intervals generalizing w with
  | nil => cases h
  | cons interval intervals ih =>
    have hsource := k.keyPair_source interval w
    unfold publicKeys at h
    split at h
    · next e v heq =>
      obtain rfl := Except.error.inj h
      exact (lost_keyPair_iff.mp (congrArg Prod.fst heq)).2.2
    · next pair v heq =>
      rw [heq] at hsource
      split at h
      · next e u heq' =>
        obtain rfl := Except.error.inj h
        rw [← hsource.timer]
        exact ih (congrArg Prod.fst heq')
      · cases h

end KeyStore

/-- **A call for the snapshot yields nothing** iff none is served, one is read, and the deadline does not fit. -/
theorem CredentialStore.lost_snapshot_iff {s : CredentialSettings} {w : World} :
    Lost (snapshot s w).1 ↔
      Expired s w ∧ (∃ snap, w.readSnapshot s = .ok snap) ∧
        Cache.horizon ≤ w.timer + s.cacheTtl.toNat * 1000 := by
  rw [← snapshotIn_zero]
  rcases snapshotIn_cases s 0 w with ⟨snap, deadline, hentry, hlive, h⟩ | ⟨hexpired, v, e, he, h, -⟩ |
    ⟨hexpired, v, snap, hsnap, hlarge, h, -⟩ | ⟨hexpired, v, snap, hsnap, h, -, hfinish⟩
  · have hlive : ¬ Expired s w := fun hexpired => Nat.not_lt.mpr (hexpired _ hentry) hlive
    simp [h, hlive, Lost]
  · simp [h, he, Lost]
  · rw [h]
    exact ⟨fun _ => ⟨hexpired, ⟨snap, hsnap⟩, hlarge⟩, fun _ => rfl⟩
  · have hfits : ¬ Cache.horizon ≤ w.timer + s.cacheTtl.toNat * 1000 := by
      intro hlarge
      rw [Cache.finish_eq_none_iff.mpr (by exact hlarge)] at hfinish
      cases hfinish
    simp [h, hfits, Lost]

/-! ## The calls -/

theorem KeyStore.lost_keySet_iff {k : KeyStore} {w : World} :
    Lost (k.keySet w).1 ↔ Lost (k.validationKeys w).1 := by
  unfold keySet
  split <;> simp [Lost, *]

theorem CredentialStore.validationKeys_fst (s : CredentialSettings) (w : World) :
    (validationKeys s w).1 = (snapshot s w).1.map Snapshot.keys := by
  unfold validationKeys
  rcases snapshot s w with ⟨_ | _, _⟩ <;> rfl

/-- A decision of the ledger leaves the timer alone. -/
theorem Issuance.enter_timer {issuance : Issuance} {claims : SessionClaims} {w v : World}
    (h : issuance.enter claims w = (.ok .accepted, v)) : v.timer = w.timer := by
  unfold enter at h
  split at h
  · cases h
  · next decision u heq =>
    obtain ⟨hd, rfl⟩ := Prod.mk.inj h
    obtain rfl := Except.ok.inj hd
    unfold World.tryIssue at heq
    split at heq
    · cases heq
    · cases heq
    · obtain ⟨-, rfl⟩ := World.record_accepted heq
      rfl

theorem Issuance.activeKeyPair_of_lost_sign {issuance : Issuance} {k : KeyStore} {maskedPoint : Octets}
    {w : World} (h : Lost (issuance.sign k maskedPoint w).1) : Lost (k.activeKeyPair w).1 := by
  unfold sign at h
  split at h
  · next heq => exact congrArg Prod.fst heq
  · cases h
  · split at h <;> cases h

/-- An issuance is lost only if the key pair that signs is. -/
theorem Issuance.activeKeyPair_of_lost {issuance : Issuance} {k : KeyStore} {claims : SessionClaims}
    {maskedPoint : Octets} {w : World} (h : Lost (issuance.issue k claims maskedPoint w).1) :
    ∃ v, v.timer = w.timer ∧ Lost (k.activeKeyPair v).1 := by
  unfold issue at h
  split at h
  · cases h
  · cases h
  · next v heq =>
    refine ⟨v, enter_timer heq, ?_⟩
    split at h
    · next e u hsign =>
      have hlost : Lost (issuance.sign k maskedPoint v).1 := by
        rw [hsign]
        exact congrArg Except.error (Except.error.inj h)
      exact activeKeyPair_of_lost_sign hlost
    · cases h

namespace Settings

/-- A call of what is built from settings; what they do not settle comes with the call. -/
inductive Call where
  /-- The key pair that signs anonymous tokens. -/
  | signingPair (expander : Expander)
  /-- The keys that check anonymous tokens, and the document in which they are published. -/
  | acceptedKeys (expander : Expander)
  | publishedKeys (expander : Expander)
  /-- The credential that signs session tokens. -/
  | credential
  /-- The keys that check session tokens, and the document in which they are published. -/
  | checkingKeys
  | publishedCredentials
  | mint (scheme : Scheme) (minting : Session.Minting) (subject jti : String)
  | verify (scheme : Scheme) (expected : Session.Expectation) (token : String)
  | issue (issuance : Issuance) (expander : Expander) (claims : SessionClaims) (maskedPoint : Octets)
  /-- A decision of the ledger alone. -/
  | enter (issuance : Issuance) (claims : SessionClaims)
  /-- An attempt under the limit on verifications. -/
  | attempt (check : IdentityCheck) (pseudonym : String)
  | sweep

namespace Call

/-- A call yields nothing, since a value that it would keep has a deadline beyond the range of the timer. -/
def Overflows (s : Settings) (w : World) : Call → Prop
  | signingPair expander => Lost (KeyStore.activeKeyPair ⟨s.keys, expander⟩ w).1
  | acceptedKeys expander => Lost (KeyStore.validationKeys ⟨s.keys, expander⟩ w).1
  | publishedKeys expander => Lost (KeyStore.keySet ⟨s.keys, expander⟩ w).1
  | credential => Lost (CredentialStore.activeCredential s.credentials w).1
  | checkingKeys => Lost (CredentialStore.validationKeys s.credentials w).1
  | publishedCredentials => Lost (CredentialStore.keySet s.credentials w).1
  | mint scheme minting subject jti => Lost (Session.mint scheme s.credentials minting subject jti w).1
  | verify scheme expected token => Lost (Session.verify scheme s.credentials expected token w).1
  | issue issuance expander claims maskedPoint =>
    Lost (issuance.issue ⟨s.keys, expander⟩ claims maskedPoint w).1
  -- The others keep nothing, and their failures are those of the store and of the identity check.
  | enter issuance claims => Lost ((issuance.enter claims w).1.mapError Failure.failed)
  | attempt check pseudonym =>
    Lost (((Verification.mk s.limit check).verify pseudonym w).1.mapError Failure.failed)
  | sweep => Lost (Except.ok (w.sweep s.limit).1 : Except (Failure StoreError) SweepReport)

/-- How long a value is kept that a call may keep; none if it keeps nothing. -/
def kept? (s : Settings) : Call → Option Duration
  | signingPair _ | acceptedKeys _ | publishedKeys _ | issue .. => some s.keys.cacheTtl
  | credential | checkingKeys | publishedCredentials | mint .. | verify .. => some s.credentials.cacheTtl
  | enter .. | attempt .. | sweep => none

end Call

variable {s : Settings} {w : World}

theorem Call.deadline_of_credentials (h : Lost (CredentialStore.snapshot s.credentials w).1) :
    Cache.horizon ≤ w.timer + s.credentials.cacheTtl.toNat * 1000 :=
  (CredentialStore.lost_snapshot_iff.mp h).2.2

/-- A call that yields nothing would have kept a value too long. -/
theorem Call.deadline_of_overflows {call : Call} (h : call.Overflows s w) :
    ∃ ttl, call.kept? s = some ttl ∧ Cache.horizon ≤ w.timer + ttl.toNat * 1000 := by
  cases call with
  | signingPair expander => exact ⟨_, rfl, (KeyStore.lost_keyPair_iff.mp h).2.2⟩
  | acceptedKeys expander =>
    have hdeadline := KeyStore.deadline_of_lost_publicKeys h
    exact ⟨_, rfl, hdeadline⟩
  | publishedKeys expander =>
    have hdeadline := KeyStore.deadline_of_lost_publicKeys (KeyStore.lost_keySet_iff.mp h)
    exact ⟨_, rfl, hdeadline⟩
  | credential =>
    refine ⟨_, rfl, deadline_of_credentials ?_⟩
    rwa [Overflows, CredentialStore.activeCredential_fst, lost_map_iff] at h
  | checkingKeys =>
    refine ⟨_, rfl, deadline_of_credentials ?_⟩
    rwa [Overflows, CredentialStore.validationKeys_fst, lost_map_iff] at h
  | publishedCredentials =>
    refine ⟨_, rfl, deadline_of_credentials ?_⟩
    rwa [Overflows, CredentialStore.keySet_fst, lost_map_iff] at h
  | mint scheme minting subject jti =>
    refine ⟨_, rfl, deadline_of_credentials ?_⟩
    rw [Overflows, Session.mint_fst] at h
    refine lost_bind (fun snap => ?_) h
    split <;> simp [Lost]
  | verify scheme expected token =>
    refine ⟨_, rfl, deadline_of_credentials ?_⟩
    cases hheader : Session.readHeader token with
    | error fault => simp [Overflows, Session.verify, hheader, Lost] at h
    | ok header =>
      rw [Overflows, Session.verify_fst hheader] at h
      exact lost_bind (fun snap => not_lost_mapError _) h
  | issue issuance expander claims maskedPoint =>
    obtain ⟨v, hv, hpair⟩ := Issuance.activeKeyPair_of_lost h
    rw [← hv]
    exact ⟨_, rfl, (KeyStore.lost_keyPair_iff.mp hpair).2.2⟩
  | enter issuance claims =>
    rw [Overflows] at h
    exact absurd h (not_lost_mapError _)
  | attempt check pseudonym =>
    rw [Overflows] at h
    exact absurd h (not_lost_mapError _)
  | sweep => cases h

end Settings

/-! ## A deadline that does not fit -/

namespace World

/-- A world at the epoch with one certificate, at a time on the timer. -/
def holding (v : CertificateVersion) (timer : Nat) : World :=
  { now := 0, timer, locator := .shelf ⟨[⟨v, true⟩]⟩ }

variable {v : CertificateVersion} {timer : Nat}

theorem enabledVersions_holding (v : CertificateVersion) :
    Shelf.enabledVersions ⟨[⟨v, true⟩]⟩ v.id = [v] := by
  simp [Shelf.enabledVersions]

theorem loadMasterSecret_holding {key : CurveKey} {scalar : Octets} (hkey : v.key = .curve key)
    (hscalar : key.scalar = some scalar) :
    ((holding v timer).loadMasterSecret v.id).1 = .ok ⟨scalar⟩ := by
  have hnewest : (holding v timer).locator.newest v.id = .ok (some v) := by
    simp [holding, Locator.newest, Locator.versions, enabledVersions_holding, CertificateVersion.newest?]
  have hfaults : (holding v timer).faults.locator = none := rfl
  unfold loadMasterSecret lookUpCertificate
  simp only [hfaults, hnewest]
  exact MasterSecret.ofCertificate_curve hkey hscalar

theorem readSnapshot_holding {s : CredentialSettings} {credential : Credential}
    (hid : v.id = s.certificateId) (hprivate : v.key.hasPrivate = true)
    (hv : Credential.ofVersion v = .ok credential) :
    ∃ snap, (holding v timer).readSnapshot s = .ok snap := by
  have hselect : select (newestFirst [v]) 0 s.keyRollover = some v := by
    cases hsettled : v.isSettled 0 s.keyRollover <;>
      simp [select, newestFirst, hprivate, hsettled]
  have hactive : Credential.active v.id [v] 0 s.keyRollover = .ok credential := by
    simp [Credential.active, hselect, hv]
  have hread : (holding v timer).readSnapshot s = Shelf.snapshot ⟨[⟨v, true⟩]⟩ s 0 :=
    readSnapshot_of_shelf s rfl
  rw [hread, Shelf.snapshot, ← hid, enabledVersions_holding, hactive]
  exact ⟨_, rfl⟩

end World

namespace Settings

open Http.Sample (certificate scalar)

/-- The pairs of the first two intervals can be derived from a scalar, for either curve. -/
theorem derive_ok (curve : Curve) {interval : UInt64} (h : interval = 0 ∨ interval = 1) :
    ∃ key, (derive .hkdf 0 ⟨scalar⟩ interval curve).1 = .ok key := by
  have hall : [Curve.p256, .p384].all fun curve => [(0 : UInt64), 1].all fun interval =>
      (derive .hkdf 0 ⟨scalar⟩ interval curve).1.isOk := by
    decide +kernel
  have hcurve : curve ∈ [Curve.p256, .p384] := by cases curve <;> simp
  have hok := List.all_eq_true.mp (List.all_eq_true.mp hall curve hcurve) interval (by simpa using h)
  cases hderive : (derive .hkdf 0 ⟨scalar⟩ interval curve).1 with
  | error e =>
    rw [hderive] at hok
    cases hok
  | ok key => exact ⟨key, rfl⟩

/-- A time of the key pairs that does not fit leaves the key pair that signs without an answer. -/
theorem exists_overflow_keys {s : Settings} {timer : Nat}
    (h : Cache.horizon ≤ timer + s.keys.cacheTtl.toNat * 1000) :
    ∃ call w, w.timer = timer ∧ Call.Overflows s w call := by
  let k : KeyStore := ⟨s.keys, .hkdf⟩
  let w := World.holding (certificate s.keys.masterId) timer
  have hinterval : s.keys.intervalAt 0 = 0 ∨ s.keys.intervalAt 0 = 1 := by
    unfold KeySettings.intervalAt
    split
    · exact .inl (by simp [Instant.sinceEpoch])
    · exact .inr rfl
  obtain ⟨key, hderive⟩ := derive_ok s.keys.curve hinterval
  have hpair : ∃ pair, (k.compute (s.keys.intervalAt 0) (KeyStore.begin (s.keys.intervalAt 0) w).2).1 =
      .ok pair := by
    have hsecret : (w.loadMasterSecret s.keys.masterId).1 = .ok ⟨scalar⟩ :=
      World.loadMasterSecret_holding rfl rfl
    rw [KeyStore.compute_fst Expander.hkdf_isPure, (KeyStore.begin_source _ w).loadMasterSecret_fst, hsecret]
    exact ⟨_, congrArg (Except.map _) hderive⟩
  exact ⟨.signingPair .hkdf, w, rfl, KeyStore.lost_keyPair_iff.mpr ⟨rfl, hpair, h⟩⟩

/-- A time of the snapshots that does not fit leaves the credential that signs without an answer. -/
theorem exists_overflow_credentials {s : Settings} {timer : Nat}
    (h : Cache.horizon ≤ timer + s.credentials.cacheTtl.toNat * 1000) :
    ∃ call w, w.timer = timer ∧ Call.Overflows s w call := by
  let w := World.holding (certificate s.credentials.certificateId) timer
  refine ⟨.credential, w, rfl, ?_⟩
  rw [Call.Overflows, CredentialStore.activeCredential_fst, lost_map_iff]
  refine CredentialStore.lost_snapshot_iff.mpr ⟨fun entry hentry => ?_, ?_, h⟩
  · cases hentry
  · exact World.readSnapshot_holding rfl rfl rfl

/-! ## Accepted settings -/

/-- What is computed with settings and instants stays in the range of instants or stops at its ends. -/
structure Clamped (s : Settings) : Prop where
  /-- The number of an interval is the whole quotient by a length that is not zero. -/
  interval : s.keys.rotationEnabled = true → 0 < s.keys.rotationInterval.toNat ∧
    ∀ now, (s.keys.intervalAt now).toNat = now.sinceEpoch / s.keys.rotationInterval.toNat
  /-- The accepted intervals are those of the instant and of the ends of the tolerance around it. -/
  tolerance : s.keys.rotationEnabled = true → ∀ now i, i ∈ s.keys.validationIntervals now ↔
    ∃ t : Instant, i = s.keys.intervalAt t ∧
      (t = now ∨ t.toInt = Instant.clamp (now.toInt - min Instant.maxSeconds s.keys.rollover.toNat) ∨
        t.toInt = Instant.clamp (now.toInt + min Instant.maxSeconds s.keys.rollover.toNat))
  /-- A version may sign if its age exceeds the rollover time. -/
  age : ∀ (v : CertificateVersion) (now : Instant), v.isSettled now s.credentials.keyRollover = true ↔
    min Instant.maxSeconds s.credentials.keyRollover.toNat <
      Instant.clamp (now.toInt - v.createdAt.toInt)
  /-- The start of the window of verifications, for the limit and for the sweep. -/
  window : ∀ now, (s.limit.cutoff now).toInt =
    Instant.clamp (now.toInt - min Instant.maxSeconds s.limit.window.toNat)
  /-- The expiry of a session token that is minted; its time of life enters as a signed word. -/
  minted : ∀ (minting : Session.Minting) (subject jti : String) (now : Instant),
    (minting.claims subject jti now).exp.toInt =
      Instant.clamp (now.toInt + (minting.ttl.toNat : Int).bmod UInt64.size)
  /-- The end of a session token that is verified; the leeway enters as a signed word. -/
  expired : ∀ (claims : SessionClaims) (leeway : Duration) (now : Instant),
    Session.isExpired claims leeway now = true ↔
      Instant.clamp (claims.exp.toInt + (leeway.toNat : Int).bmod UInt64.size) < now.toInt
  /-- The expiry of an issue record. -/
  record : ∀ (issuance : Issuance) (claims : SessionClaims), (issuance.recordExpiry claims).toInt =
    min Instant.maxSeconds
      (claims.exp.toInt + min Instant.maxSeconds issuance.sessionLeeway.toNat + 1)
  /-- The sweeper has a period. -/
  sweeper : ∃ sweeper, Sweeper.every s.sweepInterval.toNat = some sweeper

/-- Accepted settings have a length of intervals and a time between sweeps that are not zero. -/
theorem pos_of_check {s : Settings} (h : s.check = none) :
    0 < s.keys.rotationInterval.toNat ∧ 0 < s.sweepInterval.toNat := by
  have hconditions := (s.check_eq_none_iff).mp h
  have hinterval := hconditions (s.keys.rotationInterval = 0, _) (by simp only [conditions]; exact .head _)
  have hsweep := hconditions (s.sweepInterval = 0, _)
    (by simp only [conditions]; exact .tail _ (.tail _ (.tail _ (.tail _ (.head _)))))
  have hpos : ∀ d : Duration, decide (d = 0) = false → 0 < d.toNat := by
    intro d hd
    refine Nat.pos_of_ne_zero fun hzero => of_decide_eq_false hd ?_
    exact UInt64.toNat_inj.mp hzero
  exact ⟨hpos _ hinterval, hpos _ hsweep⟩

/-- The instants one capped duration away. -/
theorem eq_earlier_iff {t now : Instant} {d : Duration} :
    t = now.earlier d.capped ↔ t.toInt = Instant.clamp (now.toInt - min Instant.maxSeconds d.toNat) := by
  rw [← Int64.toInt_inj, Instant.toInt_earlier, Duration.toInt_capped]
  rfl

theorem eq_later_iff {t now : Instant} {d : Duration} :
    t = now.later d.capped ↔ t.toInt = Instant.clamp (now.toInt + min Instant.maxSeconds d.toNat) := by
  rw [← Int64.toInt_inj, Instant.toInt_later, Duration.toInt_capped]
  rfl

/-- On the business clock nothing leaves the range of instants. -/
theorem clamped_of_check {s : Settings} (h : s.check = none) : s.Clamped where
  interval hrotation := by
    have hpos := (pos_of_check h).1
    refine ⟨hpos, fun now => ?_⟩
    rw [KeySettings.toNat_intervalAt hrotation, KeySettings.period, Nat.max_eq_left hpos]
  tolerance hrotation now i := by
    simp only [KeySettings.mem_validationIntervals_iff hrotation, ← eq_earlier_iff, ← eq_later_iff]
    constructor
    · rintro (rfl | rfl | rfl)
      · exact ⟨_, rfl, .inr (.inl rfl)⟩
      · exact ⟨_, rfl, .inl rfl⟩
      · exact ⟨_, rfl, .inr (.inr rfl)⟩
    · rintro ⟨t, rfl, rfl | rfl | rfl⟩
      · exact .inr (.inl rfl)
      · exact .inl rfl
      · exact .inr (.inr rfl)
  age v now := by
    unfold CertificateVersion.isSettled
    rw [decide_eq_true_iff, Int64.lt_iff_toInt_lt, Duration.toInt_capped, Instant.toInt_earlier]
    rfl
  window now := eq_earlier_iff.mp rfl
  minted minting subject jti now := by
    unfold Session.Minting.claims
    rw [Instant.toInt_later, Duration.toInt_wrapped]
    rfl
  expired claims leeway now := by
    unfold Session.isExpired
    rw [decide_eq_true_iff, Int64.lt_iff_toInt_lt, Instant.toInt_later, Duration.toInt_wrapped]
    rfl
  record issuance claims := by
    rw [Issuance.toInt_recordExpiry, Issuance.lastUse, Duration.toInt_capped]
  sweeper := ⟨_, if_neg (Nat.ne_of_gt (pos_of_check h).2)⟩

/-- At a time on the timer, whatever is kept has a deadline in the timer's range. -/
structure DeadlinesFit (s : Settings) (timer : Nat) : Prop where
  keys : timer + s.keys.cacheTtl.toNat * 1000 < Cache.horizon
  credentials : timer + s.credentials.cacheTtl.toNat * 1000 < Cache.horizon

theorem DeadlinesFit.fits {s : Settings} {timer : Nat} {call : Call} {ttl : Duration}
    (h : s.DeadlinesFit timer) (hkept : call.kept? s = some ttl) :
    timer + ttl.toNat * 1000 < Cache.horizon := by
  cases call with
  | signingPair | acceptedKeys | publishedKeys | issue =>
    obtain rfl := Option.some.inj hkept
    exact h.keys
  | credential | checkingKeys | publishedCredentials | mint | verify =>
    obtain rfl := Option.some.inj hkept
    exact h.credentials
  | enter | attempt | sweep => cases hkept

/-- **Accepted settings leave no call without an answer if and only if the deadlines fit.** On the business clock
nothing leaves the range of instants. A call without an answer would have kept a value beyond the range of the
timer, so that the ledger, the limit on verifications and the sweep always have one; and all calls have
one, in every world at a time on the timer, exactly if both caches' times fit at that time. -/
theorem answered_iff_deadlines_fit {s : Settings} (h : s.check = none) :
    s.Clamped ∧
    (∀ (call : Call) (w : World), call.Overflows s w →
      ∃ ttl, call.kept? s = some ttl ∧ Cache.horizon ≤ w.timer + ttl.toNat * 1000) ∧
    ∀ timer, (∀ (call : Call) (w : World), w.timer = timer → ¬ call.Overflows s w) ↔
      s.DeadlinesFit timer := by
  refine ⟨clamped_of_check h, fun call w => Call.deadline_of_overflows, fun timer => ⟨fun hall => ?_, ?_⟩⟩
  · refine ⟨Nat.not_le.mp fun hlarge => ?_, Nat.not_le.mp fun hlarge => ?_⟩
    · obtain ⟨call, w, hw, hoverflow⟩ := exists_overflow_keys hlarge
      exact hall call w hw hoverflow
    · obtain ⟨call, w, hw, hoverflow⟩ := exists_overflow_credentials hlarge
      exact hall call w hw hoverflow
  · rintro hfit call w rfl hoverflow
    obtain ⟨ttl, hkept, hlarge⟩ := Call.deadline_of_overflows hoverflow
    exact Nat.not_lt.mpr hlarge (hfit.fits hkept)

/-- The default settings leave no call without an answer while the timer shows less than a million years. -/
theorem answered_iff_deadlines_fit_default :
    check {} = none ∧ ∀ (call : Call) (w : World), w.timer = 365242500 * 86400000 →
      ¬ call.Overflows {} w := by
  have hfit : DeadlinesFit {} (365242500 * 86400000) := by
    constructor <;> decide
  exact ⟨check_default, ((answered_iff_deadlines_fit check_default).2.2 _).mpr hfit⟩

namespace Sample

/-- Settings under which key pairs are kept for the longest time that can be set. -/
def forever : Settings := { keys := { cacheTtl := 18446744073709551615 } }

end Sample

set_option maxRecDepth 100000 in
/-- Settings are accepted under which there is no key pair that signs, although the master certificate is there and
the timer has just been started. -/
theorem forever_overflows :
    Sample.forever.check = none ∧
      Call.Overflows Sample.forever (KeyStore.Sample.world 475200) (.signingPair .hkdf) := by
  refine ⟨by decide, ?_⟩
  unfold Call.Overflows Lost
  decide +kernel

end Settings

end BlindMint
