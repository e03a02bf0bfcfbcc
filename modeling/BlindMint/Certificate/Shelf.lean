import BlindMint.Certificate.Version

/-!
# Certificates in memory

A shelf holds versions in the order of their last insertion, each of them enabled or disabled. Inserting
a version takes the place of an earlier one with the same identifier and version, and disabling keeps
the version where it is.

Results:
* `Shelf.enabledVersions_insert`: what is listed after an insertion.
* `Shelf.enabledVersions_disable`: what is listed after disabling a version.
-/

namespace BlindMint

/-- A version with its state. -/
structure Shelf.Slot where
  content : CertificateVersion
  enabled : Bool
  deriving DecidableEq, Repr

/-- Certificates in memory, the last insertion last (`InMemoryCertificateLocator`). -/
structure Shelf where
  slots : List Shelf.Slot := []
  deriving DecidableEq, Repr

namespace Shelf

/-- Insert a version, enabled or disabled, in the place of one with the same name (`insert_with_state`). -/
def insert (s : Shelf) (version : CertificateVersion) (enabled : Bool) : Shelf :=
  ⟨(s.slots.filter fun slot => !slot.content.isNamed version.id version.version) ++ [⟨version, enabled⟩]⟩

/-- Whether a version is there, enabled or not. -/
def contains (s : Shelf) (id version : String) : Bool :=
  s.slots.any fun slot => slot.content.isNamed id version

/-- A slot after a version has been disabled. -/
def Slot.disable (id version : String) (slot : Slot) : Slot :=
  if slot.content.isNamed id version then { slot with enabled := false } else slot

/-- Disable a version where it is. -/
def disable (s : Shelf) (id version : String) : Shelf :=
  ⟨s.slots.map (Slot.disable id version)⟩

/-- The enabled versions of a certificate, in the order of their last insertion (`get_all_enabled_versions`). -/
def enabledVersions (s : Shelf) (id : String) : List CertificateVersion :=
  (s.slots.filter fun slot => slot.enabled && slot.content.id == id).map Slot.content

theorem enabledVersions_insert (s : Shelf) (v : CertificateVersion) (enabled : Bool) (id : String) :
    (s.insert v enabled).enabledVersions id =
      ((s.enabledVersions id).filter fun w => !w.isNamed v.id v.version) ++
        if enabled ∧ v.id = id then [v] else [] := by
  unfold insert enabledVersions
  rw [List.filter_append, List.map_append]
  congr 1
  · rw [List.filter_map, List.filter_filter, List.filter_filter]
    congr 2
    funext slot
    simp [Function.comp, Bool.and_comm]
  · by_cases he : enabled = true <;> by_cases hi : v.id = id <;> simp [he, hi]

theorem enabledVersions_disable (s : Shelf) (id version other : String) :
    (s.disable id version).enabledVersions other =
      (s.enabledVersions other).filter fun w => !w.isNamed id version := by
  obtain ⟨slots⟩ := s
  unfold disable enabledVersions
  dsimp only
  induction slots with
  | nil => rfl
  | cons slot slots ih =>
    rw [List.map_cons, List.filter_cons, List.filter_cons]
    by_cases hh : slot.content.isNamed id version = true <;>
      by_cases he : (slot.enabled && slot.content.id == other) = true <;>
        simp [Slot.disable, hh, he, ih]

end Shelf

end BlindMint
