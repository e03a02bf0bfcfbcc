/-!
# Values under keys

A finite map from texts to values, as a list of entries of which no two have one key. A value is put under its key,
in the place of the one that is there, and all values are gone through at once, where each may change or go. The
order of the entries decides nothing: every operation is known by what it does to the value under each key.

Results:
* `Keyed.get?_put`, `Keyed.get?_retain`: what is under a key after an operation.
* `Keyed.mem_entries_iff`: the entries are the values under their keys.
-/

namespace BlindMint

/-- A key leads to the value that it stands with, if no key stands twice. -/
theorem lookup_eq_some_iff {κ α : Type} [BEq κ] [LawfulBEq κ] {entries : List (κ × α)} {key : κ} {value : α}
    (h : (entries.map Prod.fst).Nodup) : entries.lookup key = some value ↔ (key, value) ∈ entries := by
  induction entries with
  | nil => simp
  | cons first entries ih =>
    obtain ⟨other, found⟩ := first
    rw [List.map_cons, List.nodup_cons] at h
    rw [List.lookup_cons, List.mem_cons, Prod.mk.injEq]
    by_cases hkey : key = other
    · subst hkey
      have hnone : (key, value) ∉ entries := fun hmem => h.1 (List.mem_map.mpr ⟨_, hmem, rfl⟩)
      simp [hnone, eq_comm]
    · simp [show (key == other) = false by simpa using hkey, hkey, ih h.2]

theorem lookup_eq_none_iff {κ α : Type} [BEq κ] [LawfulBEq κ] {entries : List (κ × α)} {key : κ} :
    entries.lookup key = none ↔ key ∉ entries.map Prod.fst := by
  rw [List.lookup_eq_none_iff, List.mem_map]
  constructor
  · rintro h ⟨entry, hentry, rfl⟩
    simpa using h entry hentry
  · intro h entry hentry
    exact bne_iff_ne.mpr fun heq => h ⟨entry, hentry, heq.symm⟩

/-- Values under keys, of which no two are the same. -/
structure Keyed (α : Type) where
  entries : List (String × α) := []
  distinct : (entries.map Prod.fst).Nodup := by exact List.nodup_nil
  deriving DecidableEq, Repr

namespace Keyed

variable {α : Type} {t : Keyed α} {key : String} {value : α}

/-- The value under a key. -/
def get? (t : Keyed α) (key : String) : Option α :=
  t.entries.lookup key

/-- How many values there are. -/
def size (t : Keyed α) : Nat :=
  t.entries.length

theorem mem_entries_iff : (key, value) ∈ t.entries ↔ t.get? key = some value :=
  (lookup_eq_some_iff t.distinct).symm

/-! ## Putting a value -/

/-- An entry after a value has been put under a key. -/
def replace (key : String) (value : α) (entry : String × α) : String × α :=
  if entry.1 = key then (key, value) else entry

theorem replace_fst (key : String) (value : α) (entry : String × α) : (replace key value entry).1 = entry.1 := by
  unfold replace
  split
  · next h => exact h.symm
  · rfl

theorem map_fst_replace (key : String) (value : α) (entries : List (String × α)) :
    (entries.map (replace key value)).map Prod.fst = entries.map Prod.fst := by
  simp [Function.comp_def, replace_fst]

theorem nodup_append_of_none (h : t.get? key = none) (value : α) :
    ((t.entries ++ [(key, value)]).map Prod.fst).Nodup := by
  have hnew := lookup_eq_none_iff.mp h
  rw [List.map_append, List.nodup_append]
  refine ⟨t.distinct, List.pairwise_singleton .., fun a ha b hb heq => hnew ?_⟩
  obtain rfl : b = key := List.mem_singleton.mp hb
  exact heq ▸ ha

/-- Put a value under a key, in the place of the one that is there. -/
def put (t : Keyed α) (key : String) (value : α) : Keyed α :=
  match h : t.get? key with
  | some _ =>
    { entries := t.entries.map (replace key value)
      distinct := by
        rw [map_fst_replace]
        exact t.distinct }
  | none =>
    { entries := t.entries ++ [(key, value)]
      distinct := nodup_append_of_none h value }

theorem entries_put_of_none (h : t.get? key = none) (value : α) :
    (t.put key value).entries = t.entries ++ [(key, value)] := by
  unfold put
  split
  · next heq => simp [h] at heq
  · rfl

theorem entries_put_of_some {old : α} (h : t.get? key = some old) (value : α) :
    (t.put key value).entries = t.entries.map (replace key value) := by
  unfold put
  split
  · rfl
  · next heq => simp [h] at heq

theorem get?_put (t : Keyed α) (key : String) (value : α) (other : String) :
    (t.put key value).get? other = if other = key then some value else t.get? other := by
  refine Option.ext fun found => ?_
  rw [← mem_entries_iff]
  cases h : t.get? key with
  | none =>
    rw [entries_put_of_none h, List.mem_append, mem_entries_iff]
    by_cases hkey : other = key
    · subst hkey
      simp [h, eq_comm]
    · simp [hkey]
  | some old =>
    rw [entries_put_of_some h, List.mem_map]
    constructor
    · rintro ⟨⟨a, b⟩, hentry, heq⟩
      have hother : a = other := (replace_fst key value (a, b)).symm.trans (congrArg Prod.fst heq)
      subst hother
      by_cases hkey : a = key
      · simpa [replace, hkey] using heq
      · obtain rfl : b = found := by simpa [replace, hkey] using heq
        simpa [hkey] using mem_entries_iff.mp hentry
    · intro hfound
      by_cases hkey : other = key
      · subst hkey
        obtain rfl : value = found := by simpa using hfound
        exact ⟨_, mem_entries_iff.mpr h, by simp [replace]⟩
      · rw [if_neg hkey] at hfound
        exact ⟨_, mem_entries_iff.mpr hfound, by simp [replace, hkey]⟩

/-! ## Going through all values -/

/-- Keys go with their values. -/
theorem map_fst_filterMap_sublist (keep : α → Option α) (entries : List (String × α)) :
    ((entries.filterMap fun entry => (keep entry.2).map (entry.1, ·)).map Prod.fst).Sublist
      (entries.map Prod.fst) := by
  induction entries with
  | nil => exact List.Sublist.refl _
  | cons entry entries ih =>
    rw [List.filterMap_cons]
    cases hkeep : keep entry.2 with
    | none => exact ih.cons _
    | some value => exact ih.cons_cons _

/-- Keep of each value what `keep` makes of it; drop those of which it makes nothing. -/
def retain (t : Keyed α) (keep : α → Option α) : Keyed α where
  entries := t.entries.filterMap fun entry => (keep entry.2).map (entry.1, ·)
  distinct := (map_fst_filterMap_sublist keep t.entries).nodup t.distinct

theorem mem_entries_retain {keep : α → Option α} :
    (key, value) ∈ (t.retain keep).entries ↔ ∃ old, (key, old) ∈ t.entries ∧ keep old = some value := by
  unfold retain
  rw [List.mem_filterMap]
  constructor
  · rintro ⟨⟨other, old⟩, hentry, h⟩
    obtain ⟨kept, hkept, heq⟩ := Option.map_eq_some_iff.mp h
    obtain ⟨rfl, rfl⟩ := Prod.mk.inj heq
    exact ⟨old, hentry, hkept⟩
  · rintro ⟨old, hentry, hkept⟩
    exact ⟨_, hentry, by simp [hkept]⟩

theorem get?_retain (t : Keyed α) (keep : α → Option α) (key : String) :
    (t.retain keep).get? key = (t.get? key).bind keep := by
  refine Option.ext fun value => ?_
  rw [← mem_entries_iff, mem_entries_retain, Option.bind_eq_some_iff]
  simp only [mem_entries_iff]

end Keyed

end BlindMint
