import BlindMint.CredentialStore
import BlindMint.MasterSecret

/-!
# What keys and credentials are read from

Whatever is read from certificates depends on the clock, the certificates and the faults alone, and reading
is counted and changes nothing else. `SameSource` says of two worlds that the same is read in both, and that
the timer is the same, by which caches decide what they keep; `SameCaches` says that the caches are the same
as well.

Results:
* `loadMasterSecret_sameCaches`, `CredentialStore.load_sameCaches`: reading changes neither.
* `CredentialStore.load_fst`: a snapshot is read as a function of the certificates and the clock.
* `SameSource.loadMasterSecret_fst`, `SameSource.readSnapshot_eq`: the same is read in both worlds.
-/

namespace BlindMint

/-- Two worlds with the same clocks, the same certificates and the same faults. -/
structure SameSource (w v : World) : Prop where
  now : v.now = w.now
  timer : v.timer = w.timer
  locator : v.locator = w.locator
  faults : v.faults = w.faults

/-- Two such worlds with the same caches. -/
structure SameCaches (w v : World) : Prop extends SameSource w v where
  keyPairs : v.keyPairs = w.keyPairs
  snapshots : v.snapshots = w.snapshots

variable {u v w : World}

theorem SameSource.refl (w : World) : SameSource w w := ⟨rfl, rfl, rfl, rfl⟩

theorem SameSource.trans (h : SameSource u v) (h' : SameSource v w) : SameSource u w :=
  ⟨h'.now.trans h.now, h'.timer.trans h.timer, h'.locator.trans h.locator, h'.faults.trans h.faults⟩

theorem SameCaches.refl (w : World) : SameCaches w w := ⟨.refl w, rfl, rfl⟩

theorem SameCaches.trans (h : SameCaches u v) (h' : SameCaches v w) : SameCaches u w :=
  ⟨h.toSameSource.trans h'.toSameSource, h'.keyPairs.trans h.keyPairs, h'.snapshots.trans h.snapshots⟩

/-! ## Reading is counted -/

theorem count_sameCaches (w : World) (counter : Counter) (amount : Nat) :
    SameCaches w (w.count counter amount) := ⟨⟨rfl, rfl, rfl, rfl⟩, rfl, rfl⟩

theorem lookUpCertificate_sameCaches (w : World) (id : String) :
    SameCaches w (w.lookUpCertificate id).2 := by
  unfold World.lookUpCertificate
  split <;> exact ⟨⟨rfl, rfl, rfl, rfl⟩, rfl, rfl⟩

theorem listVersions_sameCaches (w : World) (id : String) : SameCaches w (w.listVersions id).2 := by
  unfold World.listVersions
  split <;> exact ⟨⟨rfl, rfl, rfl, rfl⟩, rfl, rfl⟩

theorem loadMasterSecret_sameCaches (w : World) (id : String) :
    SameCaches w (w.loadMasterSecret id).2 := by
  have h := lookUpCertificate_sameCaches w id
  unfold World.loadMasterSecret
  split
  · next heq => rwa [heq] at h
  · next heq => rwa [heq] at h
  · next heq =>
    rw [heq] at h
    dsimp only
    split
    · exact h.trans (count_sameCaches ..)
    · exact h

theorem CredentialStore.listAll_sameCaches (ids : List String) (w : World) :
    SameCaches w (listAll ids w).2 := by
  induction ids generalizing w with
  | nil => exact .refl w
  | cons id ids ih =>
    have h := listVersions_sameCaches w id
    unfold listAll
    split
    · next heq => rwa [heq] at h
    · next v heq =>
      rw [heq] at h
      have hv := h.trans (ih v)
      split
      · next heq' => rwa [heq'] at hv
      · next heq' => rwa [heq'] at hv

theorem CredentialStore.load_sameCaches (s : CredentialSettings) (w : World) :
    SameCaches w (load s w).2 := by
  have h := listVersions_sameCaches w s.certificateId
  unfold load
  split
  · next heq => rwa [heq] at h
  · next v heq =>
    rw [heq] at h
    split
    · exact h
    · have hv := h.trans (listAll_sameCaches s.additionalIds v)
      split
      · next heq' => rwa [heq'] at hv
      · next heq' => rwa [heq'] at hv

/-! ## What is read -/

/-- A result that shows something when it is looked at is a success. -/
theorem exists_ok_of_toOption {ε α β : Type} {result : Except ε α} {look : α → β} {seen : β}
    (h : result.toOption.map look = some seen) : ∃ value, result = .ok value ∧ look value = seen := by
  cases result with
  | error e => cases h
  | ok value => exact ⟨value, rfl, Option.some.inj h⟩

/-- A success after a first step is the second step's, of what the first one yields. -/
theorem exists_ok_of_bind {ε α β : Type} {first : Except ε α} {second : α → Except ε β} {result : β}
    (h : first.bind second = .ok result) : ∃ value, first = .ok value ∧ second value = .ok result := by
  cases first with
  | error e => cases h
  | ok value => exact ⟨value, rfl, h⟩

theorem exists_ok_of_map {ε α β : Type} {first : Except ε α} {f : α → β} {result : β}
    (h : first.map f = .ok result) : ∃ value, first = .ok value ∧ f value = result := by
  cases first with
  | error e => cases h
  | ok value => exact ⟨value, rfl, Except.ok.inj h⟩

/-- What has a name of its own among some values is all that is found under it. -/
theorem filter_eq_singleton {α β : Type} [BEq β] [LawfulBEq β] {name : α → β} {values : List α}
    (h : (values.map name).Nodup) {value : α} (hvalue : value ∈ values) :
    values.filter (name · == name value) = [value] := by
  induction values with
  | nil => cases hvalue
  | cons other values ih =>
    rw [List.map_cons, List.nodup_cons] at h
    rcases List.mem_cons.mp hvalue with rfl | hvalue
    · have hnone : values.filter (name · == name value) = [] := by
        rw [List.filter_eq_nil_iff]
        intro a ha heq
        exact h.1 (List.mem_map.mpr ⟨a, ha, by simpa using heq⟩)
      simp [hnone]
    · have hne : (name other == name value) = false := by
        simpa using fun heq => h.1 (List.mem_map.mpr ⟨value, hvalue, Eq.symm heq⟩)
      rw [List.filter_cons, hne]
      exact ih h.2 hvalue

/-- Which master secret is loaded depends on the certificates and on the faults. -/
theorem loadMasterSecret_fst_eq (hlocator : v.locator = w.locator) (hfaults : v.faults = w.faults)
    (id : String) : (v.loadMasterSecret id).1 = (w.loadMasterSecret id).1 := by
  unfold World.loadMasterSecret World.lookUpCertificate
  rw [hlocator, hfaults]
  cases w.faults.locator with
  | some e => rfl
  | none =>
    cases w.locator.newest id with
    | error e => rfl
    | ok found => cases found <;> rfl

theorem SameSource.loadMasterSecret_fst (h : SameSource w v) (id : String) :
    (v.loadMasterSecret id).1 = (w.loadMasterSecret id).1 :=
  loadMasterSecret_fst_eq h.locator h.faults id

/-- What is listed of a certificate. -/
def World.versions (w : World) (id : String) : Except KeyError (List CertificateVersion) :=
  match w.faults.locator with
  | some e => .error e
  | none => w.locator.versions id

/-- The snapshot that is read from the certificates. -/
def World.readSnapshot (w : World) (s : CredentialSettings) : Except KeyError Snapshot :=
  (w.versions s.certificateId).bind fun primary =>
    (Credential.active s.certificateId primary w.now s.keyRollover).bind fun active =>
      (s.additionalIds.mapM w.versions).map fun additional =>
        ⟨active, collectKeys (newestFirst primary ++ additional.flatten)⟩

theorem SameSource.versions_eq (h : SameSource w v) : v.versions = w.versions := by
  unfold World.versions
  rw [h.faults, h.locator]

theorem SameSource.readSnapshot_eq (h : SameSource w v) (s : CredentialSettings) :
    v.readSnapshot s = w.readSnapshot s := by
  unfold World.readSnapshot
  rw [h.versions_eq, h.now]

theorem listVersions_fst (w : World) (id : String) : (w.listVersions id).1 = w.versions id := by
  unfold World.listVersions World.versions
  cases w.faults.locator <;> rfl

namespace CredentialStore

theorem listAll_fst (ids : List String) (w : World) :
    (listAll ids w).1 = (ids.mapM w.versions).map List.flatten := by
  induction ids generalizing w with
  | nil => rfl
  | cons id ids ih =>
    have hlist := listVersions_fst w id
    have hsame := (listVersions_sameCaches w id).versions_eq
    unfold listAll
    rw [List.mapM_cons, ← hlist]
    split
    · next heq =>
      rw [heq]
      rfl
    · next versions u heq =>
      rw [heq] at hsame ⊢
      have hmore : (listAll ids u).1 = (ids.mapM w.versions).map List.flatten := hsame ▸ ih u
      refine Eq.trans (b := (listAll ids u).1.map (versions ++ ·)) ?_ ?_
      · rcases listAll ids u with ⟨_ | _, _⟩ <;> rfl
      · rw [hmore]
        cases ids.mapM w.versions <;> rfl

/-- What is read depends on the clock, the certificates and the faults. -/
theorem load_fst (s : CredentialSettings) (w : World) : (load s w).1 = w.readSnapshot s := by
  have hlist := listVersions_fst w s.certificateId
  have hsame := listVersions_sameCaches w s.certificateId
  unfold load World.readSnapshot
  rw [← hlist]
  split
  · next heq =>
    rw [heq]
    rfl
  · next primary u heq =>
    rw [heq] at hsame ⊢
    dsimp only [Except.bind]
    have hmore : (listAll s.additionalIds u).1 =
        (s.additionalIds.mapM w.versions).map List.flatten :=
      hsame.versions_eq ▸ listAll_fst s.additionalIds u
    rw [hsame.now]
    split
    · next hactive =>
      rw [hactive]
    · next active hactive =>
      rw [hactive]
      refine Eq.trans (b := (listAll s.additionalIds u).1.map fun additional =>
        ⟨active, collectKeys (newestFirst primary ++ additional)⟩) ?_ ?_
      · rcases listAll s.additionalIds u with ⟨_ | _, _⟩ <;> rfl
      · rw [hmore]
        cases s.additionalIds.mapM w.versions <;> rfl

end CredentialStore

end BlindMint
