import BlindMint.Proofs.Credentials.Run

/-!
# How long a disabled version lives on

A version that has been disabled may be in the snapshot that is kept, and that snapshot is served until its
deadline. This is at most `keptFor` after the version was disabled: snapshots that are read later do not hold
it, and those that were read before have their deadlines by then. The deadline itself is out: a snapshot is
served only before it. And since a call drops an old snapshot before it reads a new one, a failure to read
does not bring the old one back.

## Results

* `Retired.lacks`: what is read while no enabled version has a thumbprint does not hold it.
* **`retired_not_served`**: from `keptFor` after a thumbprint was retired on, no snapshot and no published
  document holds it, nothing is signed with its key, no token that names it is verified, and the calls fail
  if there is no enabled version of the signing certificate.
-/

namespace BlindMint.CredentialStore

open Session

/-- No enabled version of a configured certificate has the thumbprint. -/
def Retired (s : CredentialSettings) (kid : String) (w : World) : Prop :=
  ∃ shelf, w.locator = .shelf shelf ∧ ∀ v ∈ shelf.published s, v.key.thumbprint ≠ .ok kid

/-- No version of the signing certificate is enabled. -/
def Bare (s : CredentialSettings) (w : World) : Prop :=
  ∃ shelf, w.locator = .shelf shelf ∧ shelf.enabledVersions s.certificateId = []

/-- A snapshot neither signs nor checks with a key of the thumbprint. -/
structure Lacks (kid : String) (snap : Snapshot) : Prop where
  active : snap.active.kid ≠ kid
  keys : ∀ key ∈ snap.keys, key.kid ≠ kid

variable {s : CredentialSettings} {kid : String} {w w' : World} {snap : Snapshot}

/-! ## What is read -/

/-- What is read while a thumbprint is retired does not hold it. -/
theorem Retired.lacks (h : Retired s kid w) (hread : w.readSnapshot s = .ok snap) : Lacks kid snap := by
  obtain ⟨shelf, hshelf, hnone⟩ := h
  rw [World.readSnapshot_of_shelf s hshelf] at hread
  split at hread
  · cases hread
  · obtain ⟨⟨v, hv, hactive⟩, hkeys⟩ := Shelf.snapshot_ok hread
    refine ⟨fun hkid => ?_, fun key hkey hkid => ?_⟩
    · have hpublished : v ∈ shelf.published s :=
        Shelf.mem_published.mpr ⟨s.certificateId, List.mem_cons_self, hv⟩
      exact hnone v hpublished (hkid ▸ thumbprint_of_ofVersion hactive)
    · rw [hkeys] at hkey
      obtain ⟨u, hu, hkey⟩ := exists_of_mem_collectKeys hkey
      exact hnone u hu (hkid ▸ (CredentialKey.of_ofVersion? hkey).1)

/-- How a bare signing certificate is reported. -/
def bareFault (s : CredentialSettings) (w : World) : KeyError :=
  w.faults.locator.getD (.certificateNotFound s.certificateId)

theorem Bare.readSnapshot (h : Bare s w) : w.readSnapshot s = .error (bareFault s w) := by
  obtain ⟨shelf, hshelf, hnone⟩ := h
  rw [World.readSnapshot_of_shelf s hshelf]
  unfold bareFault
  cases w.faults.locator with
  | some e => rfl
  | none =>
    show shelf.snapshot s w.now = _
    unfold Shelf.snapshot Credential.active
    rw [hnone]
    rfl

/-- A snapshot has no key for a token that names a thumbprint which it lacks. -/
theorem Lacks.candidates_eq_nil (h : Lacks kid snap) {header : Header} (hkid : header.kid = some kid) :
    candidates header snap.keys = [] := by
  unfold candidates
  rw [hkid]
  simpa using h.keys

/-! ## What is served -/

/-- What is served when all earlier snapshots are over was read while the condition held. -/
theorem served_of_run {start : World} {P : World → Prop} {C : Snapshot → Prop}
    (hread : ∀ u snap, P u → u.readSnapshot s = .ok snap → C snap) (hstart : start.snapshots = {})
    (hbefore : Relation.ReflTransGen (Step s) start w) (hw : P w)
    (hafter : Relation.ReflTransGen (StepWithin s P) w w') (hlate : w.timer + keptFor s ≤ w'.timer)
    {span : Nat} (h : (snapshotIn s span w').1 = .ok snap) : C snap := by
  have hempty : Prompt s start := by
    intro entry hentry
    rw [hstart] at hentry
    cases hentry
  have hprompt := hempty.run hbefore
  have hbounded : Bounded s (w.timer + keptFor s) C w :=
    fun entry hentry => .inl ((hprompt entry hentry).resolve_right id)
  obtain ⟨hbounded, hw', -⟩ := hbounded.run hw hread hafter
  exact hbounded.served (hread w' · hw') hlate h

theorem Bare.snapshotIn {start : World} (hstart : start.snapshots = {})
    (hbefore : Relation.ReflTransGen (Step s) start w) (hw : Bare s w)
    (hafter : Relation.ReflTransGen (StepWithin s (Bare s)) w w')
    (hlate : w.timer + keptFor s ≤ w'.timer) (span : Nat) :
    (snapshotIn s span w').1 = .error (.failed (bareFault s w')) := by
  have hbare : Bare s w' := by
    cases hafter with
    | refl => exact hw
    | tail _ hstep => exact hstep.2
  have hnothing : ∀ snap, (CredentialStore.snapshotIn s span w').1 ≠ .ok snap := fun snap h =>
    served_of_run (C := fun _ => False)
      (fun u snap hu hread => by rw [Bare.readSnapshot hu] at hread; cases hread)
      hstart hbefore hw hafter hlate h
  rcases snapshotIn_cases s span w' with ⟨_, _, -, -, hcall⟩ | ⟨-, v, e, hread, hcall, -⟩ |
    ⟨-, v, _, hread, -⟩ | ⟨-, v, _, hread, -⟩
  · exact absurd (by rw [hcall]) (hnothing _)
  · rw [hbare.readSnapshot] at hread
    obtain rfl := Except.error.inj hread
    rw [hcall]
  all_goals
    rw [hbare.readSnapshot] at hread
    cases hread

/-- **A retired thumbprint is out after the time for which snapshots are kept.** Let versions with the
thumbprint of `v` be enabled in no configured certificate from the world `w` on, such as from the one in which
the last of them has just been disabled. Then, at whatever time on the timer that is at least `keptFor` later,
and whatever calls, failures, given up calls, insertions and clock moves there have been before and since:

* no call for the snapshot, however long it takes to read, is served one that signs or checks with that key,
  and no published document holds it;
* a token that is minted is signed by a credential with another thumbprint, which is not that of `v`;
* no token that names the thumbprint is verified;
* if no version of the signing certificate has been enabled since `w`, all these calls fail. -/
theorem retired_not_served {start : World} {v : CertificateVersion}
    (hv : v.key.thumbprint = .ok kid) (hstart : start.snapshots = {})
    (hbefore : Relation.ReflTransGen (Step s) start w) (hw : Retired s kid w)
    (hafter : Relation.ReflTransGen (StepWithin s (Retired s kid)) w w')
    (hlate : w.timer + keptFor s ≤ w'.timer) :
    (∀ span snap, (snapshotIn s span w').1 = .ok snap → Lacks kid snap) ∧
    (∀ set, (keySet s w').1 = .ok set → ∀ record ∈ set.keys, record.kid ≠ kid) ∧
    (∀ scheme minting subject jti minted, (mint scheme s minting subject jti w').1 = .ok minted →
      ∃ c, (activeCredential s w').1 = .ok c ∧
        sign scheme c (minting.claims subject jti w'.now) = .ok minted.token ∧
        c.kid ≠ kid ∧ Credential.ofVersion v ≠ .ok c) ∧
    (∀ scheme expected text header, readHeader text = .ok header → header.kid = some kid →
      ∀ claims, (verify scheme s expected text w').1 ≠ .ok claims) ∧
    (Bare s w → Relation.ReflTransGen (StepWithin s (Bare s)) w w' →
      let failure : Failure KeyError := .failed (bareFault s w')
      (∀ span, (snapshotIn s span w').1 = .error failure) ∧ (keySet s w').1 = .error failure ∧
      (∀ scheme minting subject jti, (mint scheme s minting subject jti w').1 = .error failure) ∧
      ∀ scheme expected text header, readHeader text = .ok header →
        (verify scheme s expected text w').1 = .error failure) := by
  have hserved : ∀ span snap, (snapshotIn s span w').1 = .ok snap → Lacks kid snap :=
    fun span snap h => served_of_run (fun u snap hu => hu.lacks) hstart hbefore hw hafter hlate h
  have hnow : ∀ snap, (snapshot s w').1 = .ok snap → Lacks kid snap := hserved 0
  refine ⟨hserved, fun set hset record hrecord => ?_, fun scheme minting subject jti minted hminted => ?_,
    fun scheme expected text header hheader hkid claims hclaims => ?_, fun hbare hrun => ?_⟩
  · rw [keySet_fst] at hset
    obtain ⟨snap, hsnap, rfl⟩ := exists_ok_of_map hset
    obtain ⟨key, hkey, rfl⟩ := List.mem_map.mp hrecord
    rw [CredentialKey.toJwk_kid]
    exact (hnow snap hsnap).keys key hkey
  · obtain ⟨snap, hsnap, hsign⟩ := mint_ok hminted
    have hactive : (activeCredential s w').1 = .ok snap.active := by
      rw [activeCredential_fst, hsnap]
      rfl
    have hother := (hnow snap hsnap).active
    refine ⟨snap.active, hactive, hsign, hother, fun hof => hother ?_⟩
    exact Except.ok.inj ((thumbprint_of_ofVersion hof).symm.trans hv)
  · rw [verify_fst hheader] at hclaims
    obtain ⟨snap, hsnap, hclaims⟩ := exists_ok_of_bind hclaims
    unfold acceptedClaims at hclaims
    rw [(hnow snap hsnap).candidates_eq_nil hkid] at hclaims
    cases hclaims
  · have hfails := fun span => Bare.snapshotIn hstart hbefore hbare hrun hlate span
    have hfailsNow : (snapshot s w').1 = .error (.failed (bareFault s w')) := hfails 0
    refine ⟨hfails, ?_, fun scheme minting subject jti => ?_, fun scheme expected text header h => ?_⟩
    · rw [keySet_fst, hfailsNow]
      rfl
    · rw [mint_fst, hfailsNow]
      rfl
    · rw [verify_fst h, hfailsNow]
      rfl

namespace Sample

/-- A snapshot is read with the old version only. -/
def read : World := (snapshot settings { now := 0, locator := .shelf shelf }).2

/-- Five milliseconds later the new version is there and the old one is disabled. -/
def replaced : World :=
  { read.pass 5 with locator := .shelf ((shelf.insert next true).disable "signing" "v1") }

/-- One day later. -/
def later : World := replaced.pass 86400000

theorem replaced_run :
    Relation.ReflTransGen (Step settings) { now := 0, locator := .shelf shelf } replaced := by
  have hlocator : (read.pass 5).locator = .shelf shelf := by decide +kernel
  have hread : Step settings { now := 0, locator := .shelf shelf } read := .snapshot 0 _
  have hpass : Step settings read (read.pass 5) := .beside rfl rfl (Nat.le_add_right _ 5)
  exact .tail (.tail (.tail (.single hread) hpass) (.insert hlocator next true))
    (.disable rfl "signing" "v1")

theorem replaced_retired (w : World) (h : w.locator = replaced.locator) : Retired settings oldKid w := by
  refine ⟨_, h, fun v hv => ?_⟩
  have hpublished : ((shelf.insert next true).disable "signing" "v1").published settings = [next] := by
    decide +kernel
  rw [hpublished, List.mem_singleton] at hv
  subst hv
  rw [next_thumbprint]
  exact fun h => absurd (Except.ok.inj h) (by decide)

end Sample

/-- The old snapshot is served until one day after the old version was disabled, and then the new version
signs. -/
theorem retired_not_served_replaced :
    (snapshot Sample.settings (Sample.replaced.pass 86399994)).1.toOption.map (·.active.version) =
      some "v1" ∧
    ∃ snap, (snapshot Sample.settings Sample.later).1 = .ok snap ∧ snap.active.version = "v2" ∧
      Lacks Sample.oldKid snap := by
  have hafter : StepWithin Sample.settings (Retired Sample.settings Sample.oldKid)
      Sample.replaced Sample.later :=
    ⟨.beside rfl rfl (Nat.le_add_right ..), Sample.replaced_retired _ rfl⟩
  have hserved := (retired_not_served Sample.old_thumbprint rfl Sample.replaced_run
    (Sample.replaced_retired _ rfl) (.single hafter) (Nat.le_refl _)).1 0
  have hnew : (snapshot Sample.settings Sample.later).1.toOption.map (·.active.version) = some "v2" := by
    decide +kernel
  obtain ⟨snap, hsnap, hversion⟩ := exists_ok_of_toOption hnew
  exact ⟨by decide +kernel, snap, hsnap, hversion, hserved snap hsnap⟩

end BlindMint.CredentialStore
