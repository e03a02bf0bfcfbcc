import BlindMint.Proofs.Credentials.Snapshot
import BlindMint.Proofs.Ledger.Request
import Mathlib.Logic.Relation

/-!
# Runs over certificates in memory

A run makes calls that use the snapshot, complete or given up, and between them versions are inserted and
disabled and anything else may happen, but that the timer goes back. Reading a snapshot is one step with
respect to the certificates; it may take time.

Along a run a snapshot is served only until its deadline, and a deadline is at most `keptFor` after the end of
the reading. So if from some time on everything that is read has a property, then everything that is
served has it as soon as the deadlines of older snapshots are over.

## Results

* `Bounded.step`, `Bounded.run`: the invariant, by which an old snapshot has an early deadline.
* **`Bounded.served`**: what is served after that deadline has the property.
-/

namespace BlindMint.CredentialStore

/-- One step of a run over certificates in memory. -/
inductive Step (s : CredentialSettings) : World → World → Prop
  /-- A call for the snapshot itself, which may take a time to read it. -/
  | snapshot (span : Nat) (w : World) : Step s w (snapshotIn s span w).2
  | keySet (w : World) : Step s w (keySet s w).2
  | mint (scheme : Scheme) (minting : Session.Minting) (subject jti : String) (w : World) :
      Step s w (Session.mint scheme s minting subject jti w).2
  | verify (scheme : Scheme) (expected : Session.Expectation) (text : String) (w : World) :
      Step s w (Session.verify scheme s expected text w).2
  /-- A call that is given up after a time, before it has kept a snapshot. -/
  | abandoned (span : Nat) (w : World) : Step s w ((begin s w).2.pass span)
  | insert {w : World} {shelf : Shelf} (h : w.locator = .shelf shelf) (version : CertificateVersion)
      (enabled : Bool) : Step s w { w with locator := .shelf (shelf.insert version enabled) }
  | disable {w : World} {shelf : Shelf} (h : w.locator = .shelf shelf) (id version : String) :
      Step s w { w with locator := .shelf (shelf.disable id version) }
  /-- Clocks move, faults come and go, and whatever else the snapshots are not concerned with. -/
  | beside {w v : World} (hsnapshots : v.snapshots = w.snapshots) (hlocator : v.locator = w.locator)
      (htimer : w.timer ≤ v.timer) : Step s w v

/-- A step into a world that satisfies a condition. -/
def StepWithin (s : CredentialSettings) (P : World → Prop) (w v : World) : Prop :=
  Step s w v ∧ P v

/-- Every kept snapshot has the property `C`, or its deadline is no later than `limit`. -/
def Bounded (s : CredentialSettings) (limit : Nat) (C : Snapshot → Prop) (w : World) : Prop :=
  ∀ entry, w.snapshots.find? (cacheKey s) = some entry → entry.deadline ≤ limit ∨ C entry.value

variable {s : CredentialSettings} {w v : World} {limit : Nat} {C : Snapshot → Prop} {P : World → Prop}

/-! ## One step -/

/-- After a call for the snapshot the cache has what it had, or what was read and has its deadline a fixed time
after the call. -/
theorem find?_snapshotIn {span : Nat} {entry : Cache.Entry Snapshot}
    (h : (snapshotIn s span w).2.snapshots.find? (cacheKey s) = some entry) :
    w.snapshots.find? (cacheKey s) = some entry ∨
      w.readSnapshot s = .ok entry.value ∧
        entry.deadline = (snapshotIn s span w).2.timer + keptFor s := by
  rcases snapshotIn_cases s span w with ⟨_, _, -, -, hcall⟩ | ⟨-, v, _, -, hcall, -, hcache⟩ |
    ⟨-, v, _, -, -, hcall, -, hcache⟩ | ⟨-, v, snap, hread, hcall, hv, hfinish⟩
  · rw [hcall] at h
    exact .inl h
  · rw [hcall] at h
    dsimp only at h
    rw [hcache, Cache.find?_erase_self] at h
    cases h
  · rw [hcall] at h
    dsimp only at h
    rw [hcache, Cache.find?_erase_self] at h
    cases h
  · rw [hcall] at h ⊢
    obtain rfl := Option.some.inj (h.symm.trans (Cache.find?_finish_self hfinish))
    have htimer : v.timer = w.timer + span := hv.timer
    exact .inr ⟨hread, by rw [htimer]⟩

theorem find?_begin {entry : Cache.Entry Snapshot}
    (h : (begin s w).2.snapshots.find? (cacheKey s) = some entry) :
    w.snapshots.find? (cacheKey s) = some entry := by
  cases hbegin : begin s w with
  | mk served u =>
    rw [hbegin] at h
    cases served with
    | some snap => exact (begin_some hbegin).1 ▸ h
    | none =>
      dsimp only at h
      rw [begin_none hbegin, Cache.find?_erase_self] at h
      cases h

theorem snapshotIn_timer_le (s : CredentialSettings) (span : Nat) (w : World) :
    w.timer ≤ (snapshotIn s span w).2.timer := by
  obtain ⟨passed, -, h⟩ := snapshotIn_sameSource s span w
  rw [h.timer]
  exact Nat.le_add_right ..

/-- A step is a call for the snapshot, as far as snapshots and timer are concerned, or it keeps the snapshots
that it keeps as they are. -/
theorem Step.cases_snapshot (h : Step s w v) :
    (∃ span, v.snapshots = (snapshotIn s span w).2.snapshots ∧ v.timer = (snapshotIn s span w).2.timer) ∨
    (w.timer ≤ v.timer ∧ ∀ entry, v.snapshots.find? (cacheKey s) = some entry →
      w.snapshots.find? (cacheKey s) = some entry) := by
  cases h with
  | snapshot span => exact .inl ⟨span, rfl, rfl⟩
  | keySet =>
    rw [keySet_snd]
    exact .inl ⟨0, rfl, rfl⟩
  | mint scheme minting subject jti =>
    rw [Session.mint_snd]
    exact .inl ⟨0, rfl, rfl⟩
  | verify scheme expected text =>
    rcases Session.verify_snd scheme s expected text w with h | h
    · rw [h]
      exact .inr ⟨Nat.le_refl _, fun _ hentry => hentry⟩
    · rw [h]
      exact .inl ⟨0, rfl, rfl⟩
  | abandoned span => exact .inr ⟨Nat.le_add_right .., fun _ hentry => find?_begin hentry⟩
  | insert | disable => exact .inr ⟨Nat.le_refl _, fun _ hentry => hentry⟩
  | beside hsnapshots _ htimer => exact .inr ⟨htimer, fun _ hentry => hsnapshots ▸ hentry⟩

theorem Step.timer_le (h : Step s w v) : w.timer ≤ v.timer := by
  rcases h.cases_snapshot with ⟨span, -, htimer⟩ | ⟨htimer, -⟩
  · rw [htimer]
    exact snapshotIn_timer_le s span w
  · exact htimer

/-- A deadline is at most `keptFor` ahead. -/
def Prompt (s : CredentialSettings) (w : World) : Prop :=
  Bounded s (w.timer + keptFor s) (fun _ => False) w

theorem Prompt.step (hi : Prompt s w) (h : Step s w v) : Prompt s v := by
  intro entry hentry
  have hold : ∀ entry, w.snapshots.find? (cacheKey s) = some entry →
      entry.deadline ≤ w.timer + keptFor s := fun entry h => (hi entry h).resolve_right id
  have hle := h.timer_le
  left
  rcases h.cases_snapshot with ⟨span, hsnapshots, htimer⟩ | ⟨htimer, hsame⟩
  · rw [hsnapshots] at hentry
    rcases find?_snapshotIn hentry with h | ⟨-, hdeadline⟩
    · have := hold entry h
      omega
    · omega
  · have := hold entry (hsame entry hentry)
    omega

theorem Prompt.run (hi : Prompt s w) (h : Relation.ReflTransGen (Step s) w v) : Prompt s v := by
  induction h with
  | refl => exact hi
  | tail _ hstep ih => exact ih.step hstep

/-- If whatever can be read has the property, then what is kept anew has it. -/
theorem Bounded.step (hi : Bounded s limit C w) (hread : ∀ snap, w.readSnapshot s = .ok snap → C snap)
    (h : Step s w v) : Bounded s limit C v := by
  intro entry hentry
  rcases h.cases_snapshot with ⟨span, hsnapshots, -⟩ | ⟨-, hsame⟩
  · rw [hsnapshots] at hentry
    rcases find?_snapshotIn hentry with h | ⟨h, -⟩
    · exact hi entry h
    · exact .inr (hread _ h)
  · exact hi entry (hsame entry hentry)

theorem Bounded.run (hi : Bounded s limit C w) (hw : P w)
    (hread : ∀ u snap, P u → u.readSnapshot s = .ok snap → C snap)
    (h : Relation.ReflTransGen (StepWithin s P) w v) : Bounded s limit C v ∧ P v ∧ w.timer ≤ v.timer := by
  induction h with
  | refl => exact ⟨hi, hw, Nat.le_refl _⟩
  | tail _ hstep ih =>
    obtain ⟨hu, hPu, hle⟩ := ih
    exact ⟨hu.step (hread _ · hPu) hstep.1, hstep.2, Nat.le_trans hle hstep.1.timer_le⟩

/-! ## What is served -/

/-- **What is served after the limit has the property**, if whatever can be read has it. -/
theorem Bounded.served (hi : Bounded s limit C w) (hread : ∀ snap, w.readSnapshot s = .ok snap → C snap)
    (hlate : limit ≤ w.timer) {span : Nat} {snap : Snapshot}
    (h : (snapshotIn s span w).1 = .ok snap) : C snap := by
  rcases snapshotIn_cases s span w with ⟨_, deadline, hentry, hlive, hcall⟩ | ⟨-, v, _, -, hcall, -⟩ |
    ⟨-, v, _, -, -, hcall, -⟩ | ⟨-, v, _, hsnap, hcall, -⟩
  · rw [hcall] at h
    obtain rfl := Except.ok.inj h
    refine (hi _ hentry).resolve_left fun hdeadline => ?_
    exact absurd hlive (Nat.not_lt.mpr (Nat.le_trans hdeadline hlate))
  · rw [hcall] at h
    cases h
  · rw [hcall] at h
    cases h
  · rw [hcall] at h
    obtain rfl := Except.ok.inj h
    exact hread _ hsnap

/-! ## A certificate with two versions -/

namespace Sample

/-- The signing certificate and how long snapshots are kept, one day. -/
def settings : CredentialSettings := {}

/-- The only version at first. -/
def old : CertificateVersion := Http.Sample.certificate "signing"

/-- Its successor. -/
def next : CertificateVersion :=
  ⟨"signing", "v2", 0, .curve ⟨.p256, some (List.replicate 32 4),
    ⟨[115, 16, 62, 195, 11, 60, 207, 87, 218, 174, 8, 233, 53, 52, 174, 241,
      68, 163, 89, 64, 207, 107, 187, 161, 42, 12, 247, 203, 213, 214, 90, 100],
     [216, 44, 140, 153, 233, 211, 196, 95, 146, 69, 186, 155, 39, 152, 44, 154,
      234, 142, 193, 219, 148, 177, 156, 68, 121, 89, 66, 192, 235, 34, 170, 50]⟩⟩⟩

/-- The old version alone. -/
def shelf : Shelf := ⟨[⟨old, true⟩]⟩

/-- The thumbprint of the old version. -/
def oldKid : String := "d02c9e7062d4d70c142007e115a13cf40ebe70a48eb7134ddae48d1d8a9deccf"

theorem old_thumbprint : old.key.thumbprint = .ok oldKid :=
  congrArg Except.ok
    (show (Sha2.sha256 Http.Sample.point.uncompressed).toHex = oldKid by decide +kernel)

/-- The thumbprint of its successor. -/
def nextKid : String := "e6f39369127579d20d5eacd45990055fcb9d88698929399eb01824fd178d2c97"

theorem next_thumbprint : next.key.thumbprint = .ok nextKid :=
  congrArg Except.ok
    (show (Sha2.sha256 (next.key.publicBytes?.getD [])).toHex = nextKid by decide +kernel)

end Sample

end BlindMint.CredentialStore
