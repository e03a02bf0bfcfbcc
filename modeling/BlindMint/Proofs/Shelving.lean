import BlindMint.Certificate.Locator
import BlindMint.Proofs.Credentials.Collection
import Mathlib.Data.List.Induction

/-!
# What stands on a shelf

Versions are inserted, enabled or disabled, and disabled later, in any order and for any number of certificates.
What a shelf lists after that is read off the edits themselves (`listing`): an insertion counts if it was an
enabled one and no later edit is about the same version, and what counts is listed in the order of the insertions.

Both sides change in the same way with one more edit: the versions that it is about go, and an enabled insertion
comes last. So the induction is over the edits from the last one back.

## Results

* `listing_append`: what one more edit does to the listing.
* **`enabledVersions_shelve`**: a shelf lists what the edits say.
* `newest?_eq_some_iff`: the newest version is the last listed of those created last.
* **`shelf_refines_edits`**: names, listings, answers and the newest version after any edits.
-/

namespace BlindMint

/-! ## The last of the newest -/

variable {versions : List CertificateVersion} {u v w : CertificateVersion}

/-- The newest version of a list, the last one of several. -/
def LastNewest (versions : List CertificateVersion) (v : CertificateVersion) : Prop :=
  ∃ before after, versions = before ++ v :: after ∧
    (∀ u ∈ before, u.createdAt ≤ v.createdAt) ∧ ∀ u ∈ after, u.createdAt < v.createdAt

/-- The last of the newest is the first one from behind. -/
theorem LastNewest.reverse (h : LastNewest versions v) : FirstNewest versions.reverse v := by
  obtain ⟨before, after, rfl, hbefore, hafter⟩ := h
  refine ⟨after.reverse, before.reverse, by simp, ?_, ?_⟩
  · simpa using hafter
  · simpa using hbefore

theorem LastNewest.unique (hu : LastNewest versions u) (hv : LastNewest versions v) : u = v :=
  hu.reverse.unique hv.reverse

/-- One more version is the newest one if none before it was created later. -/
theorem LastNewest.concat (h : LastNewest versions u) (w : CertificateVersion) :
    LastNewest (versions ++ [w]) (CertificateVersion.later u w) := by
  have hle : ∀ x ∈ versions, x.createdAt ≤ u.createdAt := fun x hx =>
    h.reverse.le (List.mem_reverse.mpr hx)
  obtain ⟨before, after, rfl, hbefore, hafter⟩ := h
  unfold CertificateVersion.later
  by_cases hw : u.createdAt ≤ w.createdAt
  · rw [if_pos hw]
    refine ⟨before ++ u :: after, [], rfl, fun x hx => Int64.le_trans (hle x hx) hw, ?_⟩
    simp
  · rw [if_neg hw]
    refine ⟨before, after ++ [w], by simp, hbefore, fun x hx => ?_⟩
    rcases List.mem_append.mp hx with hx | hx
    · exact hafter x hx
    · obtain rfl := List.mem_singleton.mp hx
      exact Int64.not_le.mp hw

theorem lastNewest_of_newest? (h : CertificateVersion.newest? versions = some v) :
    LastNewest versions v := by
  induction versions using List.reverseRecOn generalizing v with
  | nil => simp [CertificateVersion.newest?] at h
  | append_singleton versions w ih =>
    cases versions with
    | nil =>
      obtain rfl : w = v := by simpa [CertificateVersion.newest?] using h
      exact ⟨[], [], rfl, by simp, by simp⟩
    | cons first versions =>
      obtain rfl : CertificateVersion.later (versions.foldl .later first) w = v := by
        simpa [CertificateVersion.newest?] using h
      exact (ih rfl).concat w

/-- **The newest version** of a list is the last listed of those created last. -/
theorem newest?_eq_some_iff : CertificateVersion.newest? versions = some v ↔ LastNewest versions v := by
  constructor
  · exact lastNewest_of_newest?
  · intro h
    cases hnewest : CertificateVersion.newest? versions with
    | none =>
      obtain rfl := (CertificateVersion.newest?_eq_none_iff versions).mp hnewest
      obtain ⟨before, after, heq, -⟩ := h
      simp at heq
    | some u => rw [(lastNewest_of_newest? hnewest).unique h]

namespace Shelf

/-! ## Edits -/

/-- An edit of a shelf. -/
inductive Edit where
  | insert (v : CertificateVersion) (enabled : Bool)
  | disable (id version : String)
  deriving DecidableEq, Repr

namespace Edit

/-- The certificate that an edit is about. -/
def id : Edit → String
  | insert v _ => v.id
  | disable id _ => id

/-- The version of it that an edit is about. -/
def version : Edit → String
  | insert v _ => v.version
  | disable _ version => version

/-- Whether an edit inserts a version. -/
def inserts (id version : String) : Edit → Bool
  | insert v _ => v.isNamed id version
  | disable _ _ => false

end Edit

/-- Make an edit. Disabling answers whether the version was there, enabled or not. -/
def make (s : Shelf) : Edit → Option Bool × Shelf
  | .insert v enabled => (none, s.insert v enabled)
  | .disable id version => (some (s.contains id version), s.disable id version)

/-- The shelf after edits, the oldest one first, from an empty one. -/
def shelve (edits : List Edit) : Shelf :=
  edits.foldl (fun s e => (s.make e).2) {}

/-- The versions of a certificate that edits leave enabled, the oldest edit first: those of the enabled insertions
after which no edit is about the same version. -/
def listing (id : String) : List Edit → List CertificateVersion
  | [] => []
  | .insert v enabled :: later =>
    if v.id = id ∧ enabled ∧ ∀ e ∈ later, ¬ v.isNamed e.id e.version then v :: listing id later
    else listing id later
  | .disable _ _ :: later => listing id later

/-- The identifier and the name of the version in a slot. -/
def Slot.name (slot : Slot) : String × String :=
  (slot.content.id, slot.content.version)

variable {id version : String} {e : Edit}

theorem shelve_concat (edits : List Edit) (e : Edit) :
    shelve (edits ++ [e]) = ((shelve edits).make e).2 := by
  simp [shelve]

/-! ## Listings -/

theorem listing_append (id : String) (edits : List Edit) (e : Edit) :
    listing id (edits ++ [e]) =
      (listing id edits).filter (fun v => !v.isNamed e.id e.version) ++ listing id [e] := by
  induction edits with
  | nil => rfl
  | cons first edits ih =>
    cases first with
    | disable => exact ih
    | insert v enabled =>
      have hlisted : (v.id = id ∧ enabled ∧ ∀ e' ∈ edits ++ [e], ¬ v.isNamed e'.id e'.version) ↔
          (v.id = id ∧ enabled ∧ ∀ e' ∈ edits, ¬ v.isNamed e'.id e'.version) ∧
            ¬ v.isNamed e.id e.version := by
        simp [or_imp, forall_and, and_assoc]
      simp only [List.cons_append, listing, hlisted, ih]
      by_cases hbefore : v.id = id ∧ enabled ∧ ∀ e' ∈ edits, ¬ v.isNamed e'.id e'.version
      · by_cases hv : v.isNamed e.id e.version = true
        · rw [if_neg (fun h => h.2 hv), if_pos hbefore]
          simp [hv]
        · rw [if_pos ⟨hbefore, hv⟩, if_pos hbefore]
          simp [hv]
      · rw [if_neg (fun h => hbefore h.1), if_neg hbefore]

theorem enabledVersions_make (s : Shelf) (e : Edit) (id : String) :
    (s.make e).2.enabledVersions id =
      (s.enabledVersions id).filter (fun v => !v.isNamed e.id e.version) ++ listing id [e] := by
  cases e with
  | insert v enabled =>
    have hlast : listing id [.insert v enabled] = if enabled ∧ v.id = id then [v] else [] := by
      simp [listing, and_comm]
    rw [hlast]
    exact enabledVersions_insert s v enabled id
  | disable other version =>
    simp only [listing, List.append_nil]
    exact enabledVersions_disable s other version id

/-- **A shelf lists what the edits say.** -/
theorem enabledVersions_shelve (edits : List Edit) (id : String) :
    (shelve edits).enabledVersions id = listing id edits := by
  induction edits using List.reverseRecOn with
  | nil => rfl
  | append_singleton edits e ih =>
    rw [shelve_concat, enabledVersions_make, ih, listing_append]

/-! ## Names -/

theorem isNamed_iff : v.isNamed id version = true ↔ (v.id, v.version) = (id, version) := by
  simp [CertificateVersion.isNamed]

/-- A version is there if it has a slot of its name. -/
theorem contains_iff (s : Shelf) : s.contains id version = true ↔ (id, version) ∈ s.slots.map Slot.name := by
  unfold contains
  rw [List.any_eq_true, List.mem_map]
  simp only [isNamed_iff, Slot.name]

theorem names_insert (s : Shelf) (v : CertificateVersion) (enabled : Bool) :
    (s.insert v enabled).slots.map Slot.name =
      (s.slots.map Slot.name).filter (· ≠ (v.id, v.version)) ++ [(v.id, v.version)] := by
  unfold insert
  rw [List.map_append, List.filter_map]
  congr 2
  refine List.filter_congr fun slot _ => ?_
  by_cases h : slot.content.isNamed v.id v.version = true
  · simpa [h, Slot.name] using isNamed_iff.mp h
  · simpa [h, Slot.name, imp_iff_not_or] using mt isNamed_iff.mpr h

theorem Slot.name_disable (slot : Slot) (id version : String) :
    (slot.disable id version).name = slot.name := by
  unfold Slot.disable
  split <;> rfl

theorem names_disable (s : Shelf) (id version : String) :
    (s.disable id version).slots.map Slot.name = s.slots.map Slot.name := by
  simp only [disable, List.map_map]
  exact List.map_congr_left fun slot _ => slot.name_disable id version

/-- **No two slots have the same name.** -/
theorem nodup_names (edits : List Edit) : ((shelve edits).slots.map Slot.name).Nodup := by
  induction edits using List.reverseRecOn with
  | nil => simp [shelve]
  | append_singleton edits e ih =>
    rw [shelve_concat]
    cases e with
    | insert v enabled =>
      simp only [make, names_insert]
      refine List.nodup_append.mpr ⟨ih.filter _, by simp, ?_⟩
      -- The slots that are kept have other names.
      intro name hkept other hother
      obtain rfl := List.mem_singleton.mp hother
      simpa using (List.mem_filter.mp hkept).2
    | disable id version =>
      simp only [make]
      rwa [names_disable]

theorem contains_make (s : Shelf) (e : Edit) (id version : String) :
    (s.make e).2.contains id version = (s.contains id version || e.inserts id version) := by
  rw [Bool.eq_iff_iff, Bool.or_eq_true, contains_iff, contains_iff]
  cases e with
  | insert v enabled =>
    simp only [make, names_insert, Edit.inserts, isNamed_iff, List.mem_append, List.mem_filter,
      List.mem_singleton]
    by_cases hv : (v.id, v.version) = (id, version)
    · simp [hv]
    · simp [hv, Ne.symm hv]
  | disable other name => simp [make, names_disable, Edit.inserts]

/-- A version is there if it was ever inserted: nothing takes it away. -/
theorem contains_shelve (edits : List Edit) (id version : String) :
    (shelve edits).contains id version = true ↔ ∃ e ∈ edits, e.inserts id version = true := by
  induction edits using List.reverseRecOn with
  | nil => simp [shelve, contains]
  | append_singleton edits e ih =>
    rw [shelve_concat, contains_make, Bool.or_eq_true, ih]
    simp [or_and_right, exists_or]

/-- **An edit leaves the slots of other certificates as they are.** -/
theorem slots_make_of_ne (s : Shelf) (h : e.id ≠ id) :
    (s.make e).2.slots.filter (·.content.id == id) = s.slots.filter (·.content.id == id) := by
  cases e with
  | insert v enabled =>
    have hv : v.id ≠ id := h
    simp only [make, insert, List.filter_append, List.filter_filter]
    have hlast : [(⟨v, enabled⟩ : Slot)].filter (·.content.id == id) = [] := by simp [hv]
    rw [hlast, List.append_nil]
    refine List.filter_congr fun slot _ => ?_
    by_cases hslot : slot.content.id = id
    · simp [CertificateVersion.isNamed, hslot, hv.symm]
    · simp [hslot]
  | disable other version =>
    have hother : other ≠ id := h
    have hslot : ∀ slot : Slot, slot.content.id = id → slot.disable other version = slot := by
      intro slot hid
      simp [Slot.disable, CertificateVersion.isNamed, hid, hother.symm]
    have hid : ∀ slot : Slot, (slot.disable other version).content.id = slot.content.id := fun slot =>
      congrArg Prod.fst (slot.name_disable other version)
    simp only [make, disable, List.filter_map]
    have hsame : (s.slots.filter ((·.content.id == id) ∘ Slot.disable other version)) =
        s.slots.filter (·.content.id == id) := by
      refine List.filter_congr fun slot _ => ?_
      simp [hid]
    rw [hsame]
    refine (List.map_congr_left fun slot hmem => hslot slot ?_).trans (List.map_id _)
    simpa using (List.mem_filter.mp hmem).2

/-! ## After any edits -/

/-- What a shelf shows of the edits that have led to it, the oldest one first. -/
structure Shows (edits : List Edit) (s : Shelf) : Prop where
  /-- No version of a certificate stands there twice. -/
  names : (s.slots.map Slot.name).Nodup
  /-- Listed are the versions whose last insertion was enabled and has not been disabled since, as they were inserted
  then and in the order of these insertions. -/
  versions : ∀ id, (Locator.shelf s).versions id = .ok (listing id edits)
  /-- Disabling answers whether the version was ever inserted, enabled or not. -/
  answer : ∀ id version, (s.make (.disable id version)).1 = some true ↔
    ∃ e ∈ edits, e.inserts id version = true
  /-- A version that is inserted again is enabled again, in its new form and in the last place. -/
  again : ∀ v, (Locator.shelf (s.insert v true)).versions v.id =
    .ok ((listing v.id edits).filter (fun u => u.version ≠ v.version) ++ [v])
  /-- An edit leaves what stands there of other certificates as it is. -/
  others : ∀ e id, e.id ≠ id →
    (s.make e).2.slots.filter (·.content.id == id) = s.slots.filter (·.content.id == id)
  /-- The certificate is the version listed that was created last, the last one of several. -/
  newest : ∀ id v, (Locator.shelf s).newest id = .ok (some v) ↔ LastNewest (listing id edits) v
  /-- There is none iff no version is listed. -/
  none : ∀ id, (Locator.shelf s).newest id = .ok none ↔ listing id edits = []

/-- **A shelf is an ordered map of versions**: after any edits of any certificates it shows what they say. -/
theorem shelf_refines_edits (edits : List Edit) : Shows edits (shelve edits) := by
  have hversions : ∀ id, (Locator.shelf (shelve edits)).versions id = .ok (listing id edits) := by
    intro id
    rw [Locator.versions, enabledVersions_shelve]
  have hnewest : ∀ id, (Locator.shelf (shelve edits)).newest id =
      .ok (CertificateVersion.newest? (listing id edits)) := by
    intro id
    rw [Locator.newest, hversions]
  refine ⟨nodup_names edits, hversions, fun id version => ?_, fun v => ?_, fun e id hid =>
    slots_make_of_ne _ hid, fun id v => ?_, fun id => ?_⟩
  · simp only [make, Option.some.injEq]
    exact contains_shelve edits id version
  · rw [Locator.versions, enabledVersions_insert, enabledVersions_shelve]
    have hsame : (listing v.id edits).filter (fun u => !u.isNamed v.id v.version) =
        (listing v.id edits).filter fun u => u.version ≠ v.version := by
      refine List.filter_congr fun u hu => ?_
      rw [← enabledVersions_shelve] at hu
      have hid : u.id = v.id := ((mem_enabledVersions_iff _).mp hu).2
      simp [CertificateVersion.isNamed, hid, Bool.beq_eq_decide_eq]
    simp [hsame]
  · rw [hnewest, Except.ok.injEq, newest?_eq_some_iff]
  · rw [hnewest, Except.ok.injEq, CertificateVersion.newest?_eq_none_iff]

namespace Sample

/-- A version with a key that cannot be used. -/
def item (id version : String) (createdAt : Instant) : CertificateVersion :=
  ⟨id, version, createdAt, .unsupported "none"⟩

/-- The second version is disabled and inserted again, later than the third one, which was created with it. The first
one stays disabled, and the fourth one, which would be the newest, has never been enabled. -/
def edits : List Edit := [
  .insert (item "a" "1" 100) true,
  .insert (item "a" "2" 200) true,
  .insert (item "b" "2" 900) true,
  .disable "a" "1",
  .disable "a" "2",
  .insert (item "a" "3" 300) true,
  .insert (item "a" "4" 400) false,
  .insert (item "a" "2" 300) true]

end Sample

/-- After these edits two versions are listed, and the one inserted last is the certificate; a version that is not
enabled is there all the same. -/
theorem shelf_refines_edits_reinserted :
    (Locator.shelf (shelve Sample.edits)).versions "a" =
      .ok [Sample.item "a" "3" 300, Sample.item "a" "2" 300] ∧
    (Locator.shelf (shelve Sample.edits)).newest "a" = .ok (some (Sample.item "a" "2" 300)) ∧
    ((shelve Sample.edits).make (.disable "a" "4")).1 = some true ∧
    ("a" ≠ "b" ∧ ((shelve Sample.edits).make (.disable "a" "2")).2.slots.filter (·.content.id == "b") =
      (shelve Sample.edits).slots.filter (·.content.id == "b")) := by
  have hshows := shelf_refines_edits Sample.edits
  have hlisting : listing "a" Sample.edits =
      [Sample.item "a" "3" 300, Sample.item "a" "2" 300] := by
    decide +kernel
  refine ⟨hlisting ▸ hshows.versions "a", (hshows.newest "a" _).mpr ?_, (hshows.answer "a" "4").mpr ?_,
    by decide, hshows.others (.disable "a" "2") "b" (by decide)⟩
  · rw [hlisting]
    exact ⟨[Sample.item "a" "3" 300], [], rfl, by decide, by simp⟩
  · exact ⟨.insert (Sample.item "a" "4" 400) false, by decide +kernel, by decide +kernel⟩

end Shelf

end BlindMint
