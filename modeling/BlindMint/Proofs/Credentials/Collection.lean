import BlindMint.Proofs.Credentials.Selection
import Mathlib.Data.List.Forall2

/-!
# Which keys check

A snapshot's keys are collected from the enabled versions of the signing certificate, newest first, and of the
certificates that only check, in the order in which these are configured and listed. A certificate may be
configured more than once, and one key may be that of several versions; then the first version counts.
`Locator.Enabled` says which versions are enabled without the listing: on a shelf those that stand there
enabled, and in a folder those whose files have the right ending.

## Results

* `Locator.mem_versions_iff`: a listing that succeeds has exactly the enabled versions.
* `find?_of_mem_collectKeys`, `collectKeys_sublist`: a key is that of the first version with its thumbprint.
* **`load_published`**: what the keys of a loaded snapshot are, and that a listing that fails leaves none.
-/

namespace BlindMint

variable {versions : List CertificateVersion} {v : CertificateVersion} {id : String}

/-! ## Listings -/

/-- Results that succeed together succeed one by one. -/
theorem forall₂_of_mapM_ok {ε α β : Type} {f : α → Except ε β} {xs : List α} {ys : List β}
    (h : xs.mapM f = .ok ys) : List.Forall₂ (fun x y => f x = .ok y) xs ys := by
  induction xs generalizing ys with
  | nil =>
    obtain rfl := Except.ok.inj h
    exact .nil
  | cons x xs ih =>
    rw [List.mapM_cons] at h
    obtain ⟨y, hy, h⟩ := exists_ok_of_bind h
    obtain ⟨rest, hrest, h⟩ := exists_ok_of_bind h
    obtain rfl := Except.ok.inj h
    exact .cons hy (ih hrest)

theorem mem_iff_of_forall₂ {ε α β : Type} {f : α → Except ε β} {xs : List α} {ys : List β}
    (h : List.Forall₂ (fun x y => f x = .ok y) xs ys) (y : β) : y ∈ ys ↔ ∃ x ∈ xs, f x = .ok y := by
  induction h with
  | nil => simp
  | cons hxy _ ih => simp [ih, hxy, eq_comm]

theorem exists_of_forall₂ {α β : Type} {R : α → β → Prop} {xs : List α} {ys : List β}
    (h : List.Forall₂ R xs ys) {x : α} (hx : x ∈ xs) : ∃ y, R x y := by
  induction h with
  | nil => cases hx
  | cons hxy _ ih =>
    rcases List.mem_cons.mp hx with rfl | hx
    · exact ⟨_, hxy⟩
    · exact ih hx

/-- A version that stands on a shelf and is enabled. -/
def Shelf.Enabled (shelf : Shelf) (id : String) (v : CertificateVersion) : Prop :=
  ⟨v, true⟩ ∈ shelf.slots ∧ v.id = id

/-- A version that is read from a file with the ending of enabled versions in a certificate's directory. -/
def Folder.Enabled (folder : Folder) (id : String) (v : CertificateVersion) : Prop :=
  folder.node? [Utf8.ofString id] = some .directory ∧
    ∃ name node, (name, node) ∈ folder.entries [Utf8.ofString id] ∧
      Folder.version? name = some v.version ∧ Folder.readVersion id v.version node = .ok v

/-- A version of a certificate that is enabled where certificates are found. -/
def Locator.Enabled (l : Locator) (id : String) (v : CertificateVersion) : Prop :=
  match l with
  | .shelf s => s.Enabled id v
  | .folder f => f.Enabled id v

theorem Shelf.mem_enabledVersions_iff (shelf : Shelf) :
    v ∈ shelf.enabledVersions id ↔ shelf.Enabled id v := by
  simp only [enabledVersions, Enabled, List.mem_map, List.mem_filter, Bool.and_eq_true, beq_iff_eq]
  constructor
  · rintro ⟨⟨content, enabled⟩, ⟨hslot, henabled, hid⟩, hv⟩
    obtain rfl : enabled = true := henabled
    obtain rfl : content = v := hv
    exact ⟨hslot, hid⟩
  · rintro ⟨hslot, hid⟩
    exact ⟨_, ⟨hslot, rfl, hid⟩, rfl⟩

theorem Folder.version_of_readVersion {version : String} {node : FileNode}
    (h : readVersion id version node = .ok v) : v.version = version := by
  unfold readVersion at h
  split at h
  · cases h
  · split at h
    · cases h
    · split at h
      · cases h
      · obtain rfl := Except.ok.inj h
        rfl

theorem Folder.mem_readVersions_iff {entries : List (FileName × FileNode)}
    (h : readVersions id entries = .ok versions) :
    v ∈ versions ↔ ∃ name node, (name, node) ∈ entries ∧ version? name = some v.version ∧
      readVersion id v.version node = .ok v := by
  unfold readVersions at h
  rw [mem_iff_of_forall₂ (forall₂_of_mapM_ok h)]
  simp only [versionEntries, List.mem_filterMap, Option.map_eq_some_iff, Prod.exists, Prod.mk.injEq]
  constructor
  · rintro ⟨version, node, ⟨name, node', hentry, version', hversion, rfl, rfl⟩, hread⟩
    obtain rfl := version_of_readVersion hread
    exact ⟨name, node', hentry, hversion, hread⟩
  · rintro ⟨name, node, hentry, hversion, hread⟩
    exact ⟨v.version, node, ⟨name, node, hentry, v.version, hversion, rfl, rfl⟩, hread⟩

theorem Folder.mem_versions_iff {folder : Folder} (h : folder.versions id = .ok versions) :
    v ∈ versions ↔ folder.Enabled id v := by
  simp only [Folder.versions] at h
  split at h
  · cases h
  · split at h
    · cases h
    · split at h
      · cases h
      · unfold Enabled
        cases hnode : folder.node? [Utf8.ofString id] with
        | none =>
          rw [hnode] at h
          obtain rfl := Except.ok.inj h
          simp
        | some node =>
          rw [hnode] at h
          cases node with
          | file content changedAt => cases h
          | directory => simp [mem_readVersions_iff h]

/-- **A listing that succeeds has exactly the enabled versions.** -/
theorem Locator.mem_versions_iff {l : Locator} (h : l.versions id = .ok versions) :
    v ∈ versions ↔ l.Enabled id v := by
  cases l with
  | shelf s =>
    obtain rfl := Except.ok.inj h
    exact s.mem_enabledVersions_iff
  | folder f => exact Folder.mem_versions_iff h

theorem World.mem_versions_iff {w : World} (h : w.versions id = .ok versions) :
    v ∈ versions ↔ w.locator.Enabled id v := by
  unfold World.versions at h
  split at h
  · cases h
  · exact Locator.mem_versions_iff h

/-! ## Collecting -/

/-- A key that is added is that of the version, and no earlier one has its identifier. -/
theorem mem_addKey_iff {keys : List CredentialKey} {key : CredentialKey} :
    key ∈ addKey keys v ↔
      key ∈ keys ∨ CredentialKey.ofVersion? v = some key ∧ ∀ k ∈ keys, k.kid ≠ key.kid := by
  unfold addKey
  cases hof : CredentialKey.ofVersion? v with
  | none => simp
  | some added =>
    by_cases hany : keys.any (·.kid == added.kid) = true
    · obtain ⟨k, hk, hkid⟩ := List.any_eq_true.mp hany
      simp only [hany, if_true, Option.some.injEq]
      constructor
      · exact fun h => .inl h
      · rintro (h | ⟨rfl, hnew⟩)
        · exact h
        · exact absurd (by simpa using hkid) (hnew k hk)
    · have hnew : ∀ k ∈ keys, k.kid ≠ added.kid := by simpa using hany
      simp only [hany, Bool.false_eq_true, if_false, List.mem_append, List.mem_singleton, Option.some.injEq]
      constructor
      · rintro (h | rfl)
        · exact .inl h
        · exact .inr ⟨rfl, hnew⟩
      · rintro (h | ⟨rfl, -⟩)
        · exact .inl h
        · exact .inr rfl

/-- **A key is that of the first version with its thumbprint.** -/
theorem find?_of_mem_collectKeys {key : CredentialKey} (h : key ∈ collectKeys versions) :
    ∃ v, versions.find? (fun v => v.key.thumbprint = .ok key.kid) = some v ∧
      CredentialKey.ofVersion? v = some key := by
  have hfold : ∀ (vs : List CertificateVersion) (keys : List CredentialKey), key ∈ vs.foldl addKey keys →
      key ∈ keys ∨ (∀ k ∈ keys, k.kid ≠ key.kid) ∧
        ∃ v, vs.find? (fun v => v.key.thumbprint = .ok key.kid) = some v ∧
          CredentialKey.ofVersion? v = some key := by
    intro vs
    induction vs with
    | nil => exact fun keys h => .inl h
    | cons v vs ih =>
      intro keys h
      rcases ih _ h with h | ⟨hnew, u, hfind, hu⟩
      · rcases mem_addKey_iff.mp h with h | ⟨hv, hnew⟩
        · exact .inl h
        · exact .inr ⟨hnew, v, by simp [(CredentialKey.of_ofVersion? hv).1], hv⟩
      · -- `v` does not have the thumbprint, for otherwise it would have left a key with it.
        have hother : v.key.thumbprint ≠ .ok key.kid := by
          intro hkid
          obtain ⟨k, hk, hkk⟩ := CredentialKey.exists_ofVersion? hkid
          obtain ⟨k', hk', hkk'⟩ := exists_mem_addKey keys hk
          exact hnew k' hk' (hkk'.trans hkk)
        exact .inr ⟨fun k hk => hnew k (subset_addKey keys v hk), u, by simp [hother, hfind], hu⟩
  exact ((hfold versions [] h).resolve_left List.not_mem_nil).2

theorem addKey_sublist (keys : List CredentialKey) (v : CertificateVersion) :
    (addKey keys v).Sublist (keys ++ [v].filterMap CredentialKey.ofVersion?) := by
  unfold addKey
  cases hof : CredentialKey.ofVersion? v with
  | none => simp [hof]
  | some key => by_cases hany : keys.any (·.kid == key.kid) = true <;> simp [hof, hany]

/-- Keys are in the order of the versions that they are taken from. -/
theorem collectKeys_sublist (versions : List CertificateVersion) :
    (collectKeys versions).Sublist (versions.filterMap CredentialKey.ofVersion?) := by
  have hfold : ∀ (vs : List CertificateVersion) (keys : List CredentialKey),
      (vs.foldl addKey keys).Sublist (keys ++ vs.filterMap CredentialKey.ofVersion?) := by
    intro vs
    induction vs with
    | nil => simp
    | cons v vs ih =>
      intro keys
      have hrest := (addKey_sublist keys v).append_right (vs.filterMap CredentialKey.ofVersion?)
      rw [List.append_assoc, ← List.filterMap_append] at hrest
      exact (ih (addKey keys v)).trans hrest
  simpa [collectKeys] using hfold versions []

/-! ## Loading -/

/-- A key of a kind that is supported. -/
def CertificateKey.IsSupported (key : CertificateKey) : Prop :=
  ∀ algorithm, key ≠ .unsupported algorithm

theorem CertificateKey.isSupported_of_thumbprint {key : CertificateKey} {kid : String}
    (h : key.thumbprint = .ok kid) : key.IsSupported := by
  rintro algorithm rfl
  cases h

namespace CredentialStore

variable {s : CredentialSettings} {w : World} {snap : Snapshot}

/-- What the keys of a snapshot are that is loaded from the certificates. -/
structure Collects (s : CredentialSettings) (w : World) (snap : Snapshot) : Prop where
  /-- No two keys have the same identifier. -/
  nodup : (snap.keys.map CredentialKey.kid).Nodup
  /-- The identifiers are the thumbprints of the enabled versions, with a private key or without one, whose
  keys are supported. -/
  kids : ∀ kid, kid ∈ snap.keys.map CredentialKey.kid ↔
    ∃ id ∈ s.certificateId :: s.additionalIds, ∃ v, w.locator.Enabled id v ∧ v.key.IsSupported ∧
      v.key.thumbprint = .ok kid
  /-- The key that signs can be checked. -/
  active : snap.active.kid ∈ snap.keys.map CredentialKey.kid
  /-- Each key is taken from the first version with its thumbprint, and they stand in the order of these: the
  signing certificate's versions come first, newest first, and then those of the further ones as listed. -/
  first : ∃ primary sorted additional, w.versions s.certificateId = .ok primary ∧ Ordered primary sorted ∧
    List.Forall₂ (fun id listed => w.versions id = .ok listed) s.additionalIds additional ∧
    (∀ key ∈ snap.keys, ∃ v,
      (sorted ++ additional.flatten).find? (fun v => v.key.thumbprint = .ok key.kid) = some v ∧
      key.certificateId = v.id ∧ key.version = v.version ∧ publicKey? v.key = some key.key) ∧
    snap.keys.Sublist ((sorted ++ additional.flatten).filterMap CredentialKey.ofVersion?)

theorem exists_of_load (h : (load s w).1 = .ok snap) :
    ∃ primary additional, w.versions s.certificateId = .ok primary ∧
      Credential.active s.certificateId primary w.now s.keyRollover = .ok snap.active ∧
      List.Forall₂ (fun id listed => w.versions id = .ok listed) s.additionalIds additional ∧
      snap.keys = collectKeys (newestFirst primary ++ additional.flatten) := by
  rw [load_fst] at h
  obtain ⟨primary, hprimary, h⟩ := exists_ok_of_bind h
  obtain ⟨active, hactive, h⟩ := exists_ok_of_bind h
  obtain ⟨additional, hadditional, rfl⟩ := exists_ok_of_map h
  exact ⟨primary, additional, hprimary, hactive, forall₂_of_mapM_ok hadditional, rfl⟩

/-- A snapshot is collected from the enabled versions of all configured certificates. -/
theorem mem_collected_iff {primary : List CertificateVersion} {additional : List (List CertificateVersion)}
    (hprimary : w.versions s.certificateId = .ok primary)
    (hadditional : List.Forall₂ (fun id listed => w.versions id = .ok listed) s.additionalIds additional)
    (v : CertificateVersion) :
    v ∈ newestFirst primary ++ additional.flatten ↔
      ∃ id ∈ s.certificateId :: s.additionalIds, w.locator.Enabled id v := by
  have hlisted : ∀ {ids : List String} {lists : List (List CertificateVersion)},
      List.Forall₂ (fun id listed => w.versions id = .ok listed) ids lists →
      (v ∈ lists.flatten ↔ ∃ id ∈ ids, w.locator.Enabled id v) := by
    intro ids lists h
    induction h with
    | nil => simp
    | cons hid _ ih => simp [World.mem_versions_iff hid, ih]
  simp [mem_newestFirst, World.mem_versions_iff hprimary, hlisted hadditional]

theorem collects_of_load (h : (load s w).1 = .ok snap) : Collects s w snap := by
  obtain ⟨primary, additional, hprimary, hactive, hadditional, hkeys⟩ := exists_of_load h
  have hmem := mem_collected_iff hprimary hadditional
  have hkids : ∀ v ∈ newestFirst primary ++ additional.flatten, ∀ kid, v.key.thumbprint = .ok kid →
      kid ∈ snap.keys.map CredentialKey.kid := by
    intro v hv kid hkid
    obtain ⟨key, hkey, rfl⟩ := exists_mem_collectKeys hv hkid
    exact List.mem_map.mpr ⟨key, hkeys ▸ hkey, rfl⟩
  refine ⟨hkeys ▸ collectKeys_nodup _, fun kid => ⟨fun hkid => ?_, ?_⟩, ?_,
    primary, newestFirst primary, additional, hprimary, newestFirst_ordered primary, hadditional,
    fun key hkey => ?_, hkeys ▸ collectKeys_sublist _⟩
  · obtain ⟨key, hkey, rfl⟩ := List.mem_map.mp hkid
    obtain ⟨v, hv, hof⟩ := exists_of_mem_collectKeys (hkeys ▸ hkey)
    obtain ⟨id, hid, henabled⟩ := (hmem v).mp hv
    have hthumbprint := (CredentialKey.of_ofVersion? hof).1
    exact ⟨id, hid, v, henabled, CertificateKey.isSupported_of_thumbprint hthumbprint, hthumbprint⟩
  · rintro ⟨id, hid, v, henabled, -, hthumbprint⟩
    exact hkids v ((hmem v).mpr ⟨id, hid, henabled⟩) kid hthumbprint
  · obtain ⟨v, hv, hof⟩ := ofVersion_of_active hactive
    have hv : v ∈ newestFirst primary ++ additional.flatten :=
      List.mem_append_left _ (mem_newestFirst.mpr hv)
    exact hkids v hv _ (thumbprint_of_ofVersion hof)
  · obtain ⟨v, hfind, hof⟩ := find?_of_mem_collectKeys (hkeys ▸ hkey)
    refine ⟨v, hfind, ?_⟩
    unfold CredentialKey.ofVersion? at hof
    split at hof
    · next hpublic _ =>
      obtain rfl := Option.some.inj hof
      exact ⟨rfl, rfl, hpublic⟩
    · cases hof

/-- If a configured certificate cannot be listed then no snapshot is loaded. -/
theorem load_error_of_versions (hid : id ∈ s.certificateId :: s.additionalIds) {e : KeyError}
    (h : w.versions id = .error e) : ∃ e', (load s w).1 = .error e' := by
  cases hload : (load s w).1 with
  | error e' => exact ⟨e', rfl⟩
  | ok snap =>
    obtain ⟨primary, additional, hprimary, -, hadditional, -⟩ := exists_of_load hload
    have hlisted : ∃ listed, w.versions id = .ok listed := by
      rcases List.mem_cons.mp hid with rfl | hid
      · exact ⟨primary, hprimary⟩
      · exact exists_of_forall₂ hadditional hid
    obtain ⟨listed, hlisted⟩ := hlisted
    rw [h] at hlisted
    cases hlisted

/-- **What the keys of a snapshot are.** Whatever certificates there are and whichever are configured, repeated
ones included, a snapshot that is loaded has the keys that `Collects` describes.

If a configured certificate cannot be listed, be it the last one, then none is loaded. And when a call finds no
live snapshot in the cache, it fails as well, and leaves none there and everything else in it as it is. -/
theorem load_published (s : CredentialSettings) (w : World) :
    (∀ snap, (load s w).1 = .ok snap → Collects s w snap) ∧
    ∀ id ∈ s.certificateId :: s.additionalIds, ∀ e, w.versions id = .error e →
      (∃ e', (load s w).1 = .error e') ∧
      (Expired s w → ∃ e', (snapshot s w).1 = .error (.failed e') ∧
        (snapshot s w).2.snapshots.find? (cacheKey s) = none ∧
        ∀ key ≠ cacheKey s, (snapshot s w).2.snapshots.find? key = w.snapshots.find? key) := by
  refine ⟨fun snap h => collects_of_load h, fun id hid e he => ?_⟩
  have hload := load_error_of_versions hid he
  refine ⟨hload, fun hexpired => ?_⟩
  obtain ⟨e', hread⟩ := hload
  rw [load_fst] at hread
  rw [← snapshotIn_zero]
  rcases snapshotIn_cases s 0 w with ⟨snap, deadline, hentry, hlive, -⟩ | ⟨-, v, e', -, hcall, -, hcache⟩ |
    ⟨-, v, snap, hok, -⟩ | ⟨-, v, snap, hok, -⟩
  · exact absurd hlive (Nat.not_lt.mpr (hexpired _ hentry))
  · rw [hcall]
    refine ⟨e', rfl, ?_, fun key hkey => ?_⟩
    · simp [hcache]
    · simp only [hcache]
      exact Cache.find?_erase_of_ne _ hkey
  all_goals
    rw [hread] at hok
    cases hok

namespace Sample

/-- A signing certificate and one that only checks, which is configured twice and shares a key with the first. -/
def sharing : CredentialSettings := { additionalIds := ["retiring", "signing", "retiring"] }

def unsupported : CertificateVersion := ⟨"signing", "v3", 9, .unsupported "DSA"⟩

def checking : CertificateVersion := ⟨"signing", "v2", 5, next.key.withoutPrivate⟩

/-- Of the signing certificate one version is disabled, one is not supported and one has no private key. -/
def stock : Shelf where
  slots := [
    ⟨old, true⟩,
    ⟨⟨"signing", "v0", 3, .ofPoint .p256 ⟨[1], [2]⟩⟩, false⟩,
    ⟨unsupported, true⟩,
    ⟨⟨"retiring", "r1", 0, old.key⟩, true⟩,
    ⟨⟨"retiring", "r2", 0, .ofPoint .p384 ⟨[3], [4]⟩⟩, true⟩,
    ⟨checking, true⟩]

def scattered : World := { now := 1000000, locator := .shelf stock }

/-- The same when the certificates cannot be reached. -/
def unreachable : World := { scattered with faults.locator := some (.certificateStore "offline") }

end Sample

/-- Three keys check: those of two versions of the signing certificate, newest first, and one of the other
certificate. When the certificates cannot be reached there is no snapshot. -/
theorem load_published_scattered :
    (∃ snap, (load Sample.sharing Sample.scattered).1 = .ok snap ∧
      snap.keys.map (fun key => (key.certificateId, key.version)) =
        [("signing", "v2"), ("signing", "v1"), ("retiring", "r2")] ∧
      Collects Sample.sharing Sample.scattered snap) ∧
    ∃ e, (snapshot Sample.sharing Sample.unreachable).1 = .error (.failed e) ∧
      (snapshot Sample.sharing Sample.unreachable).2.snapshots.find? (cacheKey Sample.sharing) = none := by
  have hloaded : (load Sample.sharing Sample.scattered).1.toOption.map
      (fun snap => snap.keys.map fun key => (key.certificateId, key.version)) =
        some [("signing", "v2"), ("signing", "v1"), ("retiring", "r2")] := by
    have hsorted : newestFirst (Sample.stock.enabledVersions Sample.sharing.certificateId) =
        [Sample.unsupported, Sample.checking, Sample.old] := by
      have henabled : Sample.stock.enabledVersions Sample.sharing.certificateId =
          [Sample.old, Sample.unsupported, Sample.checking] := by
        decide +kernel
      rw [henabled]
      simp [newestFirst, List.mergeSort, Sample.old, Sample.unsupported, Sample.checking, Http.Sample.certificate]
    have hread : (load Sample.sharing Sample.scattered).1 = Sample.stock.snapshot Sample.sharing 1000000 :=
      (load_fst ..).trans (World.readSnapshot_of_shelf Sample.sharing rfl)
    rw [hread]
    unfold Shelf.snapshot Shelf.published Credential.active
    rw [hsorted]
    decide +kernel
  obtain ⟨snap, hsnap, hkeys⟩ := exists_ok_of_toOption hloaded
  have hcollects := (load_published Sample.sharing Sample.scattered).1 snap hsnap
  obtain ⟨-, hfails⟩ := (load_published Sample.sharing Sample.unreachable).2 "retiring" (by decide) _ rfl
  obtain ⟨e, hsnapshot, hnone, -⟩ := hfails (fun entry hentry => by cases hentry)
  exact ⟨⟨snap, hsnap, hkeys, hcollects⟩, e, hsnapshot, hnone⟩

end CredentialStore

end BlindMint
