import BlindMint.Certificate.Key
import BlindMint.Time

/-!
# Versions of certificates

A certificate has an identifier and any number of versions, each with its own key and an instant of
creation. The newest version of a list is the one created last, and the last of those created at the
same instant.

Results:
* `newest?_eq_none_iff`: only an empty list has no newest version.
-/

namespace BlindMint

/-- One version of a certificate. -/
structure CertificateVersion where
  /-- The certificate's identifier. -/
  id : String
  version : String
  createdAt : Instant
  key : CertificateKey
  deriving DecidableEq, Repr

namespace CertificateVersion

/-- Whether a version has the given identifier and name. -/
def isNamed (v : CertificateVersion) (id version : String) : Bool :=
  v.id == id && v.version == version

/-- Of two versions the one created later, the second one if they were created together. -/
def later (a b : CertificateVersion) : CertificateVersion :=
  if a.createdAt ≤ b.createdAt then b else a

/-- The newest version of a list. -/
def newest? : List CertificateVersion → Option CertificateVersion
  | [] => none
  | v :: vs => some (vs.foldl later v)

theorem newest?_eq_none_iff (versions : List CertificateVersion) :
    newest? versions = none ↔ versions = [] := by
  cases versions <;> simp [newest?]

theorem foldl_later_mem (v : CertificateVersion) (vs : List CertificateVersion) :
    vs.foldl later v ∈ v :: vs := by
  induction vs generalizing v with
  | nil => simp
  | cons w vs ih =>
    have h := ih (later v w)
    rw [List.foldl_cons]
    simp only [List.mem_cons] at h ⊢
    rcases h with h | h
    · rw [h]
      unfold later
      split
      · exact .inr (.inl rfl)
      · exact .inl rfl
    · exact .inr (.inr h)

theorem mem_of_newest? {versions : List CertificateVersion} {v : CertificateVersion}
    (h : newest? versions = some v) : v ∈ versions := by
  cases versions with
  | nil => simp [newest?] at h
  | cons w vs =>
    simp only [newest?, Option.some.injEq] at h
    exact h ▸ foldl_later_mem w vs

end CertificateVersion

end BlindMint
