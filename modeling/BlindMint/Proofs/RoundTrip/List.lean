import BlindMint.Proofs.RoundTrip.Record
import Mathlib.Data.List.Forall2

/-!
# Lists are read as they were written

A document that is a list is read element by element. No document starts with a blank or with the bracket that
ends a list, so that after the opening bracket and after every comma the reader finds an element where one was
written. The elements must be read to their ends whatever follows them, as records are.

## Results

* `write_starts`: how a document starts.
* **`readList_write`**: a list is read back from the text that was written for it.
-/

namespace BlindMint.Json

variable {α : Type} {reader : Reader α}

/-- A reader reads the value that a document writes, up to its end, whatever follows. -/
def ReadsWhole (reader : Reader α) (document : Document) (value : α) : Prop :=
  ∀ tail, reader (document.write.map some ++ tail) = .ok (value, tail)

theorem ReadsWhole.reads {document : Document} {value : α} (h : ReadsWhole reader document value) :
    Reads reader document value :=
  fun tail _ => h tail

/-- A document starts with a character that is no blank and ends no list. -/
theorem write_starts (document : Document) :
    ∃ c cs, document.write = c :: cs ∧ isBlank (some c) = false ∧ c ≠ ']' := by
  cases document with
  | null => exact ⟨'n', _, by rw [Document.write], by decide, by decide⟩
  | integer n =>
    obtain ⟨c, cs, hcons, hc⟩ := startsNumber_ofIntDigits n
    exact ⟨c, cs, by rw [Document.write, hcons], hc.not_blank, hc.ne (by decide)⟩
  | text s => exact ⟨'"', _, by rw [Document.write, writeText]; rfl, by decide, by decide⟩
  | list items => exact ⟨'[', _, by rw [Document.write]; rfl, by decide, by decide⟩
  | object members => exact ⟨'\x7b', _, by rw [Document.write]; rfl, by decide, by decide⟩

/-! ## One element -/

theorem nextElement_first (document : Document) (tail : Source) :
    nextElement true (document.write.map some ++ tail) =
      .ok (true, document.write.map some ++ tail) := by
  obtain ⟨c, cs, hwrite, hblank, hend⟩ := write_starts document
  rw [hwrite, List.map_cons, List.cons_append]
  unfold nextElement
  rw [skipBlanks_some hblank]
  simp [hend]

theorem nextElement_comma (document : Document) (tail : Source) :
    nextElement false (some ',' :: (document.write.map some ++ tail)) =
      .ok (true, document.write.map some ++ tail) := by
  obtain ⟨c, cs, hwrite, hblank, hend⟩ := write_starts document
  rw [hwrite, List.map_cons, List.cons_append]
  unfold nextElement
  rw [skipBlanks_some (by decide)]
  dsimp only
  rw [if_neg (by decide), if_neg (by decide), if_pos rfl, skipBlanks_some hblank]
  split
  · next heq => cases heq
  · next heq => exact absurd (Option.some.inj (List.cons.inj heq).1) hend
  · rfl

theorem nextElement_end (first : Bool) (rest : Source) :
    nextElement first (some ']' :: rest) = .ok (false, some ']' :: rest) := by
  unfold nextElement
  rw [skipBlanks_some (by decide)]
  rfl

theorem closeList_end (rest : Source) : closeList (some ']' :: rest) = .ok rest := by
  unfold closeList
  rw [skipBlanks_some (by decide)]
  rfl

/-! ## All elements -/

/-- The elements of a list but the first, each with the comma before it, and what follows the list. -/
def restItems (items : List Document) (rest : Source) : Source :=
  ((Document.writeItems items).flatMap (',' :: ·)).map some ++ some ']' :: rest

theorem restItems_cons (document : Document) (items : List Document) (rest : Source) :
    restItems (document :: items) rest =
      some ',' :: (document.write.map some ++ restItems items rest) := by
  simp [restItems, Document.writeItems]

theorem readElements_end (reader : Reader α) (first : Bool) (fuel : Nat) (rest : Source) :
    readElements reader (fuel + 1) first (some ']' :: rest) = .ok ([], rest) := by
  rw [readElements, nextElement_end]
  dsimp only
  rw [closeList_end]

theorem readElements_restItems {items : List Document} {values : List α}
    (h : List.Forall₂ (ReadsWhole reader) items values) {fuel : Nat} (hfuel : items.length < fuel)
    (rest : Source) : readElements reader fuel false (restItems items rest) = .ok (values, rest) := by
  induction h generalizing fuel with
  | nil =>
    obtain ⟨fuel, rfl⟩ := Nat.exists_eq_add_of_lt hfuel
    exact readElements_end reader false _ rest
  | @cons document value items values hread _ ih =>
    obtain ⟨fuel, rfl⟩ := Nat.exists_eq_add_of_lt hfuel
    have hless : items.length < (document :: items).length + fuel := by
      simp only [List.length_cons]
      omega
    rw [restItems_cons, readElements, nextElement_comma]
    dsimp only
    rw [hread]
    dsimp only
    rw [ih hless]

theorem readElements_write {items : List Document} {values : List α}
    (h : List.Forall₂ (ReadsWhole reader) items values) {fuel : Nat} (hfuel : items.length < fuel)
    (rest : Source) :
    readElements reader fuel true
      ((commaSeparated (Document.writeItems items)).map some ++ some ']' :: rest) =
      .ok (values, rest) := by
  obtain ⟨fuel, rfl⟩ := Nat.exists_eq_add_of_lt hfuel
  cases h with
  | nil => exact readElements_end reader true _ rest
  | @cons document value items values hread hrest =>
    have htext : (commaSeparated (Document.writeItems (document :: items))).map some ++
        some ']' :: rest = document.write.map some ++ restItems items rest := by
      rw [Document.writeItems, commaSeparated_cons]
      simp [restItems]
    have hless : items.length < (document :: items).length + fuel := by
      simp only [List.length_cons]
      omega
    rw [htext, readElements, nextElement_first]
    dsimp only
    rw [hread]
    dsimp only
    rw [readElements_restItems hrest hless]

theorem length_writeItems (items : List Document) :
    (Document.writeItems items).length = items.length := by
  rw [Document.writeItems_eq_map, List.length_map]

/-- A list has no fewer characters than elements. -/
theorem length_writeItems_le (items : List Document) :
    items.length ≤ (commaSeparated (Document.writeItems items)).length := by
  rw [← length_writeItems items]
  cases items with
  | nil => exact Nat.zero_le _
  | cons document items =>
    obtain ⟨c, cs, hwrite, -⟩ := write_starts document
    exact length_le_commaSeparated (by rw [hwrite]; exact List.cons_ne_nil c cs) _

/-- **A list is read back from the text that was written for it**, if its elements are. -/
theorem readList_write {items : List Document} {values : List α}
    (h : List.Forall₂ (ReadsWhole reader) items values) :
    ReadsWhole (readList reader) (.list items) values := by
  intro rest
  have hwrite : (Document.list items).write.map some ++ rest = some '[' ::
      ((commaSeparated (Document.writeItems items)).map some ++ some ']' :: rest) := by
    simp [Document.write]
  have hfuel := length_writeItems_le items
  have hlength : items.length <
      ((commaSeparated (Document.writeItems items)).map some ++ some ']' :: rest).length + 1 := by
    simp only [List.length_append, List.length_map]
    omega
  unfold readList
  rw [hwrite, skipBlanks_some (by decide)]
  exact readElements_write h hlength rest

end BlindMint.Json
