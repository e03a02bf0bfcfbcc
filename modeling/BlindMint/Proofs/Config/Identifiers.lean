import BlindMint.Proofs.Config.Precedence
import BlindMint.Proofs.Filing

/-!
# Identifiers of certificates in a configuration

A configuration names certificates: that of the master secret, the one that signs, and further ones whose keys check.
The first two are never empty, for that is a condition on settings. Of the others empty ones are left out where a
variable lists them; but where the overlay does, its list is taken as it is. An empty identifier is refused by a
folder, so the snapshot cannot be loaded then.

## Results

* `Folder.versions_eq_refusal_iff`: a folder refuses as empty the empty identifier alone.
* `Settings.merged_of_load`: what is loaded is what variables and one overlay give together.
* **`Settings.emptyId_iff_overlaid`**: which settings have an empty identifier, and what follows.
* `Settings.emptyId_loaded`: settings that are loaded and have one.
-/

namespace BlindMint

/-! ## Refusals -/

theorem Text.eq_empty_of_quoted {text : String} (h : Text.quoted text = Text.quoted "") : text = "" := by
  have hchar : ∀ c, Text.quoteChar c ≠ [] := by
    intro c
    unfold Text.quoteChar
    repeat' split
    all_goals simp
  have hlist : text.toList.flatMap Text.quoteChar = [] := by
    have hinner := (List.cons.inj (String.ofList_injective h)).2
    simpa using hinner
  cases hchars : text.toList with
  | nil => exact String.toList_injective hchars
  | cons c rest =>
    rw [hchars, List.flatMap_cons] at hlist
    exact absurd (List.append_eq_nil_iff.mp hlist).1 (hchar c)

namespace Folder

/-- How the empty identifier is refused. -/
def refusal : KeyError :=
  .certificateStore ("invalid certificate id " ++ Text.quoted "")

theorem refusal_ne {c : Char} {rest : List Char} {reason : String} (hreason : reason.toList = c :: rest)
    (hc : c ≠ 'i') : KeyError.certificateStore reason ≠ refusal := by
  intro h
  have hlist := congrArg String.toList (KeyError.certificateStore.inj h)
  rw [hreason, String.toList_append] at hlist
  exact hc (List.cons.inj hlist).1

/-- Where an identifier leads nowhere else, a failure names what could not be read. -/
theorem ne_refusal_of_error {f : Folder} {id : String} {e : KeyError} (hwayward : ¬Wayward id)
    (h : f.versions id = .error e) : e ≠ refusal := by
  by_cases hname : Nameable id
  · rw [versions_of_nameable f hwayward hname] at h
    split at h
    · cases h
    · obtain rfl := Except.error.inj h
      exact refusal_ne (by simp only [String.toList_append]; rfl) (by decide)
    · obtain ⟨_, _, _, -, -, hread⟩ := exists_of_mapM_error h
      obtain ⟨-, reason, rfl⟩ := of_readVersion_error hread
      exact refusal_ne (by simp only [String.toList_append]; rfl) (by decide)
  · obtain ⟨reason, herror⟩ := exists_versions_of_unnameable hwayward hname
    obtain rfl := Except.error.inj (h.symm.trans (herror f))
    exact refusal_ne (by simp only [String.toList_append]; rfl) (by decide)

/-- **A folder refuses as empty** the empty identifier, and no other one. -/
theorem versions_eq_refusal_iff (f : Folder) (id : String) : f.versions id = .error refusal ↔ id = "" := by
  constructor
  · intro h
    by_cases hwayward : Wayward id
    · rw [versions_of_wayward f hwayward] at h
      have hreason := KeyError.certificateStore.inj (Except.error.inj h)
      exact Text.eq_empty_of_quoted (String.append_right_inj _ |>.mp hreason)
    · exact absurd rfl (ne_refusal_of_error hwayward h)
  · rintro rfl
    exact versions_of_wayward f (.inl rfl)

end Folder

/-! ## Settings -/

namespace Settings

/-- The identifiers of certificates that settings have. -/
def certificateIds (c : Settings) : List String :=
  c.keys.masterId :: c.credentials.certificateId :: c.credentials.additionalIds

/-- The overlay that variables name, if it can be read. -/
def overlay? (v : Variables) (files : Files) : Option Overlay :=
  (v "ANONTOKEN_CONFIG").bind fun path => (files path).toOption.bind Overlay.ofText?

/-- The further identifiers that the overlay lists. -/
def overlaidIds (v : Variables) (files : Files) : List String :=
  ((overlay? v files).bind fun o => o.credentials.additionalIds).getD []

variable {v : Variables} {files : Files} {c : Settings}

/-- What is loaded is what variables and one overlay give together, the empty one if none is named. -/
theorem merged_of_load (h : load v files = .ok c) :
    c = merged v ((overlay? v files).getD {}) ∧ c.Acceptable := by
  unfold overlay?
  cases hpath : v "ANONTOKEN_CONFIG" with
  | none =>
    rw [load_of_no_overlay hpath] at h
    exact (loadVariables_ok_iff.mp h).2
  | some path =>
    cases hfile : files path with
    | error reason =>
      unfold load at h
      simp only [overlayFile, hpath, hfile] at h
      split at h <;> cases h
    | ok text =>
      cases htext : Overlay.ofText? text with
      | none =>
        unfold load at h
        simp only [overlayFile, hpath, hfile, overlayFrom, htext] at h
        split at h <;> cases h
      | some o =>
        obtain ⟨-, -, hc⟩ := (load_ok_iff hpath hfile htext).mp h
        simpa [hfile, htext, Except.toOption] using hc

/-- A variable never lists an empty identifier. -/
theorem empty_not_mem_given {name : String} {ids : List String} (h : v.given name .identifiers = some (.ok ids)) :
    "" ∉ ids := by
  obtain ⟨text, -, htext⟩ := Option.map_eq_some_iff.mp h
  obtain rfl := Except.ok.inj htext
  simp

/-- **Empty identifiers come from the overlay alone.** -/
theorem empty_mem_merged_iff (v : Variables) (o : Overlay) :
    "" ∈ (merged v o).credentials.additionalIds ↔ "" ∈ o.credentials.additionalIds.getD [] := by
  simp only [merged]
  cases o.credentials.additionalIds with
  | some ids => rfl
  | none =>
    refine iff_of_false ?_ (by simp)
    cases hgiven : v.given "ADDITIONAL_VALIDATION_CERTIFICATE_IDS" .identifiers with
    | none => simp [Given.prevailing]
    | some value =>
      cases value with
      | error reason => simp [Given.prevailing]
      | ok ids => simpa [Given.prevailing] using empty_not_mem_given hgiven

/-- Where empty identifiers of certificates are kept out of settings, and where not. -/
structure Guarded (v : Variables) (files : Files) (c : Settings) : Prop where
  masterId : c.keys.masterId ≠ ""
  certificateId : c.credentials.certificateId ≠ ""
  /-- Of the further identifiers one is empty just if the overlay lists it. -/
  additionalIds : "" ∈ c.credentials.additionalIds ↔ "" ∈ overlaidIds v files
  /-- So that is when a folder refuses one of the identifiers as empty. -/
  refused : ∀ f : Folder, (∃ id ∈ c.certificateIds, f.versions id = .error Folder.refusal) ↔
    "" ∈ overlaidIds v files
  /-- Then no snapshot is ever loaded from a folder. -/
  unloadable : "" ∈ overlaidIds v files → ∀ (w : World) (f : Folder), w.locator = .folder f →
    ∃ e, (CredentialStore.load c.credentials w).1 = .error e

theorem load_error_of_empty {s : CredentialSettings} (hempty : "" ∈ s.additionalIds) {w : World} {f : Folder}
    (hfolder : w.locator = .folder f) : ∃ e, (CredentialStore.load s w).1 = .error e := by
  have hversions : ∃ e, w.versions "" = .error e := by
    unfold World.versions
    cases w.faults.locator with
    | some e => exact ⟨e, rfl⟩
    | none => exact ⟨_, by simpa [hfolder, Locator.versions] using (f.versions_eq_refusal_iff "").mpr rfl⟩
  obtain ⟨e, he⟩ := hversions
  exact CredentialStore.load_error_of_versions (List.mem_cons_of_mem _ hempty) he

/-- **Which identifiers of loaded settings are empty**: the overlay's, and no others. -/
theorem emptyId_iff_overlaid (h : load v files = .ok c) : Guarded v files c := by
  obtain ⟨hmerged, hacceptable⟩ := merged_of_load h
  have hadditional : "" ∈ c.credentials.additionalIds ↔ "" ∈ overlaidIds v files := by
    rw [hmerged, empty_mem_merged_iff, overlaidIds]
    cases overlay? v files <;> simp
  refine ⟨hacceptable.masterId, hacceptable.certificateId, hadditional, fun f => ?_, fun hempty w f hfolder => ?_⟩
  · simp only [Folder.versions_eq_refusal_iff, exists_eq_right, certificateIds, List.mem_cons, ← hadditional]
    constructor
    · rintro (h | h | h)
      · exact absurd h.symm hacceptable.masterId
      · exact absurd h.symm hacceptable.certificateId
      · exact h
    · exact fun h => .inr (.inr h)
  · exact load_error_of_empty (hadditional.mpr hempty) hfolder

namespace Sample

/-- Variables that name an overlay. -/
def overlaid : Variables := fun name =>
  [("ANONTOKEN_CONFIG", "overlay.yaml")].lookup name

/-- An overlay whose list has an empty identifier. -/
def listing : String :=
  "signing:\n  additional_validation_certificate_ids: ['']\n"

theorem overlaid_readable : overlaid.Readable := by
  have hurl : overlaid "ANONTOKEN_POSTGRES_URL" = none := by decide +kernel
  refine ⟨?_, ?_, ?_, fun h => absurd hurl h, ?_, ?_, ?_, ?_, ?_, ?_, ?_, ?_, ?_, ?_⟩ <;> decide +kernel

/-- What the text writes. -/
def listed : Overlay where
  credentials := { additionalIds := some [""] }

theorem ofText?_listing : Overlay.ofText? listing = some listed := by
  decide +kernel

theorem load_listing : load overlaid (fun _ => .ok listing) = .ok (merged overlaid listed) := by
  have hpath : overlaid "ANONTOKEN_CONFIG" = some "overlay.yaml" := by decide +kernel
  have hlisted : listed.Readable := by constructor <;> decide +kernel
  have hacceptable : (merged overlaid listed).Acceptable := by constructor <;> decide +kernel
  have hload := @load_ok_iff overlaid listed (merged overlaid listed) (fun _ => .ok listing) "overlay.yaml" listing
    hpath rfl ofText?_listing
  exact hload.mpr ⟨overlaid_readable, hlisted, rfl, hacceptable⟩

theorem empty_mem_listed : "" ∈ (merged overlaid listed).credentials.additionalIds :=
  (empty_mem_merged_iff overlaid listed).mpr (by decide)

end Sample

/-- The sample is loaded, and then there is no snapshot in any folder. -/
theorem emptyId_unloadable :
    load Sample.overlaid (fun _ => .ok Sample.listing) = .ok (merged Sample.overlaid Sample.listed) ∧
      ∀ (w : World) (f : Folder), w.locator = .folder f →
        ∃ e, (CredentialStore.load (merged Sample.overlaid Sample.listed).credentials w).1 = .error e := by
  have hguarded := emptyId_iff_overlaid Sample.load_listing
  exact ⟨Sample.load_listing, hguarded.unloadable (hguarded.additionalIds.mp Sample.empty_mem_listed)⟩

/-- **Settings are loaded with an empty identifier.** -/
theorem emptyId_loaded :
    ¬∀ (v : Variables) (files : Files) (c : Settings), load v files = .ok c →
      ∀ id ∈ c.certificateIds, id ≠ "" :=
  fun h => h _ _ _ Sample.load_listing "" (by simp [certificateIds, Sample.empty_mem_listed]) rfl

end Settings

end BlindMint
