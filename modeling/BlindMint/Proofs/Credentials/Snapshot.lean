import BlindMint.Proofs.Source
import BlindMint.Session

/-!
# What a snapshot of the credentials holds

With certificates in memory a snapshot is a function of the shelf and of the clock: the credential of the
version that is selected among the enabled ones, and one key for each thumbprint among the enabled versions
of all configured certificates. A call for the snapshot serves the kept one or reads one and keeps it;
`snapshotIn` is such a call whose reading takes a time.

## Results

* `World.readSnapshot_of_shelf`: what is read of a shelf.
* `CredentialStore.snapshotIn_cases`: a call serves, fails, or reads and keeps.
* `ofVersion_of_active`, `exists_of_mem_collectKeys`: what signs and what checks is of an enabled version.
* `exists_mem_collectKeys`: every enabled version with a thumbprint has its key among those that check.
-/

namespace BlindMint

/-! ## Selecting and collecting -/

theorem mem_newestFirst {v : CertificateVersion} {versions : List CertificateVersion} :
    v ∈ newestFirst versions ↔ v ∈ versions := by
  unfold newestFirst
  exact List.mem_mergeSort

/-- What signs is the credential of one of the versions. -/
theorem ofVersion_of_active {id : String} {versions : List CertificateVersion} {now : Instant}
    {rollover : Duration} {c : Credential} (h : Credential.active id versions now rollover = .ok c) :
    ∃ v ∈ versions, Credential.ofVersion v = .ok c := by
  unfold Credential.active at h
  split at h
  · cases h
  · split at h
    · cases h
    · next v hselect => exact ⟨v, mem_newestFirst.mp (select_mem hselect).1, h⟩

theorem thumbprint_of_ofVersion {v : CertificateVersion} {c : Credential}
    (h : Credential.ofVersion v = .ok c) : v.key.thumbprint = .ok c.kid := by
  unfold Credential.ofVersion at h
  split at h
  · cases h
  · split at h
    · cases h
    · next hkid =>
      obtain rfl := Except.ok.inj h
      exact hkid

theorem CredentialKey.of_ofVersion? {v : CertificateVersion} {k : CredentialKey}
    (h : CredentialKey.ofVersion? v = some k) :
    v.key.thumbprint = .ok k.kid ∧ publicKey? v.key = some k.key := by
  unfold CredentialKey.ofVersion? at h
  split at h
  · next hkey hkid =>
    obtain rfl := Option.some.inj h
    exact ⟨hkid, hkey⟩
  · cases h

/-- A version with a thumbprint has a checking key. -/
theorem CredentialKey.exists_ofVersion? {v : CertificateVersion} {kid : String}
    (h : v.key.thumbprint = .ok kid) :
    ∃ k, CredentialKey.ofVersion? v = some k ∧ k.kid = kid := by
  unfold CredentialKey.ofVersion?
  rw [h]
  cases hkey : v.key with
  | curve key => exact ⟨_, rfl, rfl⟩
  | rsa key => exact ⟨_, rfl, rfl⟩
  | unsupported algorithm =>
    rw [hkey] at h
    cases h

theorem mem_addKey {keys : List CredentialKey} {v : CertificateVersion} {k : CredentialKey}
    (h : k ∈ addKey keys v) : k ∈ keys ∨ CredentialKey.ofVersion? v = some k := by
  unfold addKey at h
  split at h
  · next key hkey =>
    split at h
    · exact .inl h
    · rcases List.mem_append.mp h with h | h
      · exact .inl h
      · exact .inr (List.mem_singleton.mp h ▸ hkey)
  · exact .inl h

theorem subset_addKey (keys : List CredentialKey) (v : CertificateVersion) : keys ⊆ addKey keys v := by
  unfold addKey
  split
  · split
    · exact List.Subset.refl keys
    · exact List.subset_append_left keys _
  · exact List.Subset.refl keys

theorem exists_mem_addKey (keys : List CredentialKey) {v : CertificateVersion} {key : CredentialKey}
    (h : CredentialKey.ofVersion? v = some key) : ∃ k ∈ addKey keys v, k.kid = key.kid := by
  unfold addKey
  rw [h]
  dsimp only
  split
  · next hany =>
    obtain ⟨k, hk, hkid⟩ := List.any_eq_true.mp hany
    exact ⟨k, hk, by simpa using hkid⟩
  · exact ⟨key, by simp, rfl⟩

/-- What checks is the key of one of the versions. -/
theorem exists_of_mem_collectKeys {versions : List CertificateVersion} {k : CredentialKey}
    (h : k ∈ collectKeys versions) : ∃ v ∈ versions, CredentialKey.ofVersion? v = some k := by
  have hfold : ∀ (vs : List CertificateVersion) (keys : List CredentialKey),
      k ∈ vs.foldl addKey keys → k ∈ keys ∨ ∃ v ∈ vs, CredentialKey.ofVersion? v = some k := by
    intro vs
    induction vs with
    | nil => exact fun keys h => .inl h
    | cons v vs ih =>
      intro keys h
      rcases ih _ h with h | ⟨u, hu, hk⟩
      · rcases mem_addKey h with h | h
        · exact .inl h
        · exact .inr ⟨v, List.mem_cons_self, h⟩
      · exact .inr ⟨u, List.mem_cons_of_mem _ hu, hk⟩
  exact (hfold versions [] h).resolve_left (List.not_mem_nil)

/-- Every version with a thumbprint is checked with a key of that thumbprint. -/
theorem exists_mem_collectKeys {versions : List CertificateVersion} {v : CertificateVersion}
    {kid : String} (hv : v ∈ versions) (hkid : v.key.thumbprint = .ok kid) :
    ∃ k ∈ collectKeys versions, k.kid = kid := by
  obtain ⟨key, hkey, hkeykid⟩ := CredentialKey.exists_ofVersion? hkid
  have hgrow : ∀ (vs : List CertificateVersion) (keys : List CredentialKey),
      keys ⊆ vs.foldl addKey keys := by
    intro vs
    induction vs with
    | nil => exact fun keys => List.Subset.refl keys
    | cons v vs ih => exact fun keys => List.Subset.trans (subset_addKey keys v) (ih _)
  have hfold : ∀ (vs : List CertificateVersion) (keys : List CredentialKey), v ∈ vs →
      ∃ k ∈ vs.foldl addKey keys, k.kid = kid := by
    intro vs
    induction vs with
    | nil => exact fun keys h => absurd h List.not_mem_nil
    | cons u vs ih =>
      intro keys h
      rcases List.mem_cons.mp h with rfl | h
      · obtain ⟨k, hk, hkk⟩ := exists_mem_addKey keys hkey
        exact ⟨k, hgrow vs _ hk, hkk.trans hkeykid⟩
      · exact ih _ h
  exact hfold versions [] hv

/-! ## Reading a shelf -/

/-- The versions whose keys check: the enabled ones of the signing certificate, newest first, and those of the
certificates that only check. -/
def Shelf.published (shelf : Shelf) (s : CredentialSettings) : List CertificateVersion :=
  newestFirst (shelf.enabledVersions s.certificateId) ++ s.additionalIds.flatMap shelf.enabledVersions

/-- The snapshot that is read from a shelf. -/
def Shelf.snapshot (shelf : Shelf) (s : CredentialSettings) (now : Instant) :
    Except KeyError Snapshot :=
  (Credential.active s.certificateId (shelf.enabledVersions s.certificateId) now s.keyRollover).map
    fun active => ⟨active, collectKeys (shelf.published s)⟩

theorem Shelf.mem_published {shelf : Shelf} {s : CredentialSettings} {v : CertificateVersion} :
    v ∈ shelf.published s ↔
      ∃ id ∈ s.certificateId :: s.additionalIds, v ∈ shelf.enabledVersions id := by
  simp [published, mem_newestFirst]

variable {s : CredentialSettings} {w v : World} {shelf : Shelf} {snap : Snapshot}

/-- A snapshot's credential is of an enabled version of the signing certificate, and its keys are those of the
published versions. -/
theorem Shelf.snapshot_ok {now : Instant} (h : shelf.snapshot s now = .ok snap) :
    (∃ v ∈ shelf.enabledVersions s.certificateId, Credential.ofVersion v = .ok snap.active) ∧
      snap.keys = collectKeys (shelf.published s) := by
  obtain ⟨active, hactive, rfl⟩ := exists_ok_of_map h
  exact ⟨ofVersion_of_active hactive, rfl⟩

/-- **With certificates in memory the shelf's snapshot is read**, unless the certificates cannot be reached. -/
theorem World.readSnapshot_of_shelf (s : CredentialSettings) (hw : w.locator = .shelf shelf) :
    w.readSnapshot s = match w.faults.locator with
      | some e => .error e
      | none => shelf.snapshot s w.now := by
  cases hf : w.faults.locator with
  | some e => simp [readSnapshot, versions, hf, Except.bind]
  | none =>
    have hversions : w.versions = fun id => .ok (shelf.enabledVersions id) := by
      funext id
      simp [versions, hf, hw, Locator.versions]
    have hadditional : s.additionalIds.mapM w.versions =
        .ok (s.additionalIds.map shelf.enabledVersions) := by
      rw [hversions]
      exact List.mapM_pure
    unfold readSnapshot Shelf.snapshot Shelf.published
    rw [hadditional, hversions, List.flatMap_def]
    rfl

/-! ## One call -/

/-- The world after a time on the timer. -/
def World.pass (w : World) (span : Nat) : World := { w with timer := w.timer + span }

namespace CredentialStore

/-- The cached credentials have no snapshot whose deadline is ahead. -/
def Expired (s : CredentialSettings) (w : World) : Prop :=
  ∀ entry, w.snapshots.find? (cacheKey s) = some entry → entry.deadline ≤ w.timer

/-- How long a snapshot is kept, in milliseconds. -/
def keptFor (s : CredentialSettings) : Nat := s.cacheTtl.toNat * 1000

/-- Read a snapshot, which takes a time, and keep it. -/
def fillIn (s : CredentialSettings) (span : Nat) (w : World) : Except (Failure KeyError) Snapshot × World :=
  match load s w with
  | (.error e, w) => (.error (.failed e), w.pass span)
  | (.ok snapshot, w) => keep s snapshot (w.pass span)

/-- The snapshot in use, from the cache or read anew, which takes a time. -/
def snapshotIn (s : CredentialSettings) (span : Nat) (w : World) :
    Except (Failure KeyError) Snapshot × World :=
  match begin s w with
  | (some snapshot, w) => (.ok snapshot, w)
  | (none, w) => fillIn s span w

theorem snapshotIn_zero (s : CredentialSettings) (w : World) : snapshotIn s 0 w = snapshot s w := rfl

theorem begin_sameSource (s : CredentialSettings) (w : World) : SameSource w (begin s w).2 :=
  ⟨rfl, rfl, rfl, rfl⟩

theorem begin_some (h : begin s w = (some snap, v)) :
    v = w ∧ ∃ deadline, w.snapshots.find? (cacheKey s) = some ⟨snap, deadline⟩ ∧ w.timer < deadline := by
  unfold begin at h
  cases hbegin : w.snapshots.begin (cacheKey s) w.timer with
  | mk served cache =>
    rw [hbegin] at h
    obtain ⟨rfl, rfl⟩ := Prod.mk.inj h
    obtain ⟨rfl, hentry⟩ := Cache.begin_of_some hbegin
    exact ⟨rfl, hentry⟩

theorem begin_none (h : begin s w = (none, v)) : v.snapshots = w.snapshots.erase (cacheKey s) := by
  unfold begin at h
  cases hbegin : w.snapshots.begin (cacheKey s) w.timer with
  | mk served cache =>
    rw [hbegin] at h
    obtain ⟨rfl, rfl⟩ := Prod.mk.inj h
    exact Cache.begin_of_none hbegin

theorem begin_fst_eq_none_iff : (begin s w).1 = none ↔ Expired s w :=
  Cache.begin_eq_none_iff w.snapshots (cacheKey s) w.timer

/-- Keeping a snapshot yields it, unless the deadline overflows. -/
theorem keep_cases (s : CredentialSettings) (snap : Snapshot) (w : World) :
    (Cache.horizon ≤ w.timer + keptFor s ∧ keep s snap w = (.error .overflow, w)) ∨
    ∃ v, keep s snap w = (.ok snap, v) ∧ SameSource w v ∧
      w.snapshots.finish (cacheKey s) snap w.timer (keptFor s) = some v.snapshots := by
  unfold keep keptFor
  split
  · next hfinish =>
    refine .inl ⟨Nat.not_lt.mp fun hsmall => ?_, rfl⟩
    rw [Cache.finish, Cache.deadline?, if_pos hsmall] at hfinish
    cases hfinish
  · next cache hfinish => exact .inr ⟨_, rfl, ⟨rfl, rfl, rfl, rfl⟩, hfinish⟩

/-- A call for the snapshot serves the kept one; or it fails to read one; or what it reads cannot be kept; or it
reads one and keeps it, counting its time from the end of the reading. -/
theorem snapshotIn_cases (s : CredentialSettings) (span : Nat) (w : World) :
    (∃ snap deadline, w.snapshots.find? (cacheKey s) = some ⟨snap, deadline⟩ ∧ w.timer < deadline ∧
      snapshotIn s span w = (.ok snap, w)) ∨
    (Expired s w ∧ ∃ v e, w.readSnapshot s = .error e ∧ snapshotIn s span w = (.error (.failed e), v) ∧
      SameSource (w.pass span) v ∧ v.snapshots = w.snapshots.erase (cacheKey s)) ∨
    (Expired s w ∧ ∃ v snap, w.readSnapshot s = .ok snap ∧
      Cache.horizon ≤ w.timer + span + keptFor s ∧ snapshotIn s span w = (.error .overflow, v) ∧
      SameSource (w.pass span) v ∧ v.snapshots = w.snapshots.erase (cacheKey s)) ∨
    (Expired s w ∧ ∃ v snap, w.readSnapshot s = .ok snap ∧ snapshotIn s span w = (.ok snap, v) ∧
      SameSource (w.pass span) v ∧
      (w.snapshots.erase (cacheKey s)).finish (cacheKey s) snap (w.timer + span) (keptFor s) =
        some v.snapshots) := by
  have hsource := begin_sameSource s w
  unfold snapshotIn
  cases hbegin : begin s w with
  | mk served u =>
    cases served with
    | some snap =>
      obtain ⟨rfl, deadline, hentry, hlive⟩ := begin_some hbegin
      exact .inl ⟨snap, deadline, hentry, hlive, rfl⟩
    | none =>
      right
      have hexpired : Expired s w := begin_fst_eq_none_iff.mp (by rw [hbegin])
      have hdropped := begin_none hbegin
      rw [hbegin] at hsource
      have hload := load_fst s u
      have hread := load_sameCaches s u
      rw [hsource.readSnapshot_eq] at hload
      dsimp only
      unfold fillIn
      cases hresult : load s u with
      | mk result r =>
        rw [hresult] at hload hread
        have hafter : SameSource (w.pass span) (r.pass span) :=
          have h := hsource.trans hread.toSameSource
          ⟨h.now, congrArg (· + span) h.timer, h.locator, h.faults⟩
        have hcache : (r.pass span).snapshots = w.snapshots.erase (cacheKey s) :=
          hread.snapshots.trans hdropped
        cases result with
        | error e => exact .inl ⟨hexpired, _, e, hload.symm, rfl, hafter, hcache⟩
        | ok snap =>
          right
          rcases keep_cases s snap (r.pass span) with ⟨hlarge, hkeep⟩ | ⟨v, hkeep, hv, hfinish⟩
          · rw [hafter.timer] at hlarge
            exact .inl ⟨hexpired, _, snap, hload.symm, hlarge, hkeep, hafter, hcache⟩
          · rw [hafter.timer, hcache] at hfinish
            exact .inr ⟨hexpired, v, snap, hload.symm, hkeep, hafter.trans hv, hfinish⟩

/-- A call for the snapshot takes some time, and leaves the certificates as they are. -/
theorem snapshotIn_sameSource (s : CredentialSettings) (span : Nat) (w : World) :
    ∃ passed ≤ span, SameSource (w.pass passed) (snapshotIn s span w).2 := by
  rcases snapshotIn_cases s span w with ⟨_, _, -, -, h⟩ | ⟨-, v, _, -, h, hv, -⟩ |
    ⟨-, v, _, -, -, h, hv, -⟩ | ⟨-, v, _, -, h, hv, -⟩
  · exact ⟨0, Nat.zero_le _, by rw [h]; exact .refl w⟩
  all_goals exact ⟨span, Nat.le_refl _, by rw [h]; exact hv⟩

theorem snapshot_sameSource (s : CredentialSettings) (w : World) : SameSource w (snapshot s w).2 := by
  obtain ⟨passed, hpassed, h⟩ := snapshotIn_sameSource s 0 w
  obtain rfl := Nat.le_zero.mp hpassed
  exact h

end CredentialStore

/-! ## The calls that use it -/

theorem CredentialStore.keySet_snd (s : CredentialSettings) (w : World) :
    (keySet s w).2 = (snapshot s w).2 := by
  unfold keySet validationKeys
  rcases snapshot s w with ⟨_ | _, _⟩ <;> rfl

theorem Session.mint_snd (scheme : Scheme) (s : CredentialSettings) (minting : Minting)
    (subject jti : String) (w : World) :
    (mint scheme s minting subject jti w).2 = (CredentialStore.snapshot s w).2 := by
  unfold mint CredentialStore.activeCredential
  rcases CredentialStore.snapshot s w with ⟨_ | snap, _⟩
  · rfl
  · dsimp only
    split <;> rfl

/-- Verifying a text that is no token does not ask for the snapshot. -/
theorem Session.verify_snd (scheme : Scheme) (s : CredentialSettings) (expected : Expectation)
    (text : String) (w : World) :
    (verify scheme s expected text w).2 = w ∨
      (verify scheme s expected text w).2 = (CredentialStore.snapshot s w).2 := by
  unfold verify CredentialStore.validationKeys
  split
  · exact .inl rfl
  · right
    rcases CredentialStore.snapshot s w with ⟨_ | snap, _⟩
    · rfl
    · dsimp only
      split <;> rfl

theorem CredentialStore.activeCredential_fst (s : CredentialSettings) (w : World) :
    (activeCredential s w).1 = (snapshot s w).1.map Snapshot.active := by
  unfold activeCredential
  rcases snapshot s w with ⟨_ | _, _⟩ <;> rfl

theorem CredentialStore.keySet_fst (s : CredentialSettings) (w : World) :
    (keySet s w).1 = (snapshot s w).1.map fun snap => ⟨snap.keys.map CredentialKey.toJwk⟩ := by
  unfold keySet validationKeys
  rcases snapshot s w with ⟨_ | _, _⟩ <;> rfl

theorem Session.mint_fst (scheme : Scheme) (s : CredentialSettings) (minting : Minting)
    (subject jti : String) (w : World) :
    (mint scheme s minting subject jti w).1 = (CredentialStore.snapshot s w).1.bind fun snap =>
      match sign scheme snap.active (minting.claims subject jti w.now) with
      | .error fault => .error (.failed (.token fault))
      | .ok token => .ok ⟨token, jti, (minting.claims subject jti w.now).exp⟩ := by
  unfold mint CredentialStore.activeCredential
  rcases CredentialStore.snapshot s w with ⟨_ | snap, _⟩
  · rfl
  · dsimp only [Except.bind]
    cases sign scheme snap.active (minting.claims subject jti w.now) <;> rfl

/-- A token that is minted is signed by the credential of the snapshot that is served. -/
theorem Session.mint_ok {scheme : Scheme} {minting : Minting} {subject jti : String} {minted : Minted}
    (h : (mint scheme s minting subject jti w).1 = .ok minted) :
    ∃ snap, (CredentialStore.snapshot s w).1 = .ok snap ∧
      sign scheme snap.active (minting.claims subject jti w.now) = .ok minted.token := by
  rw [mint_fst] at h
  obtain ⟨snap, hsnap, h⟩ := exists_ok_of_bind h
  refine ⟨snap, hsnap, ?_⟩
  cases hsign : sign scheme snap.active (minting.claims subject jti w.now) with
  | error fault =>
    rw [hsign] at h
    cases h
  | ok token =>
    rw [hsign] at h
    obtain rfl := Except.ok.inj h
    rfl

theorem Session.verify_fst {text : String} {header : Header} (h : readHeader text = .ok header)
    (scheme : Scheme) (s : CredentialSettings) (expected : Expectation) (w : World) :
    (verify scheme s expected text w).1 = (CredentialStore.snapshot s w).1.bind fun snap =>
      (acceptedClaims scheme expected text header snap.keys w.now).mapError .failed := by
  have hsame := CredentialStore.snapshot_sameSource s w
  unfold verify CredentialStore.validationKeys
  rw [h]
  revert hsame
  rcases CredentialStore.snapshot s w with ⟨_ | snap, v⟩
  · exact fun _ => rfl
  · intro hsame
    have hnow : v.now = w.now := hsame.now
    dsimp only [Except.bind]
    rw [hnow]
    cases acceptedClaims scheme expected text header snap.keys w.now <;> rfl

end BlindMint
