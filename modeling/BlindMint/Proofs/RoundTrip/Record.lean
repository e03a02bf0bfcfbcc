import BlindMint.Proofs.RoundTrip.Scalar

/-!
# Records are read as they were written

A document that is an object is read into a record member by member: a member that the record knows is read
into the draft, and one that it does not know is passed over. `ReadsMembers` says of the members of a document
from which draft to which one they lead; then reading the whole text of the object leads there too, and
to its end.

## Results

* `readMembers_write`: reading the text of an object follows its members.
* **`readRecord_write`**: a record is read back from the text that was written for it.
-/

namespace BlindMint.Json

variable {ρ α : Type} {members : List (Member ρ)} {draft last : ρ}

/-- The members of an object lead from one draft to another. -/
inductive ReadsMembers (members : List (Member ρ)) : ρ → List (String × Document) → ρ → Prop
  | nil (draft : ρ) : ReadsMembers members draft [] draft
  /-- A known member that the draft does not have yet is read into it. -/
  | known {draft next last : ρ} {name : String} {document : Document}
      {entries : List (String × Document)} (member : Member ρ)
      (hfind : members.find? (·.name == name) = some member) (hnew : member.isSet draft = false)
      (hread : Reads (member.read draft) document next) (hrest : ReadsMembers members next entries last) :
      ReadsMembers members draft ((name, document) :: entries) last
  /-- An unknown member is passed over. -/
  | unknown {draft last : ρ} {name : String} {document : Document}
      {entries : List (String × Document)} (hfind : members.find? (·.name == name) = none)
      (hskip : ∀ tail, Delimited tail → skipValue (document.write.map some ++ tail) = .ok tail)
      (hrest : ReadsMembers members draft entries last) :
      ReadsMembers members draft ((name, document) :: entries) last

/-- A member whose draft is an optional value reads what its reader reads. -/
theorem reads_member {name : String} {omissible : Bool} {reader : Reader α} {get : ρ → Option α}
    {set : ρ → α → ρ} {document : Document} {value : α} (h : Reads reader document value) (draft : ρ) :
    Reads ((Member.of name omissible reader get set).read draft) document (set draft value) := by
  intro tail htail
  unfold Member.of
  dsimp only
  rw [h tail htail]

/-! ## One member -/

theorem nextName_first (rest : Source) : nextName true (some '"' :: rest) = .ok (true, rest) := by
  unfold nextName
  rw [skipBlanks_some (by decide)]
  rfl

theorem nextName_comma (rest : Source) :
    nextName false (some ',' :: some '"' :: rest) = .ok (true, rest) := by
  have hquote := skipBlanks_some (c := '"') (by decide) rest
  unfold nextName
  rw [skipBlanks_some (by decide)]
  simp [hquote]

theorem nextName_end (first : Bool) (rest : Source) :
    nextName first (some '\x7d' :: rest) = .ok (false, rest) := by
  unfold nextName
  rw [skipBlanks_some (by decide)]
  rfl

theorem readColon_colon (rest : Source) : readColon (some ':' :: rest) = .ok rest := by
  unfold readColon
  rw [skipBlanks_some (by decide)]
  rfl

/-- The text of a member after its first quote. -/
def memberText (name : String) (document : Document) (tail : Source) : Source :=
  (name.toList.flatMap escapeChar).map some ++
    some '"' :: some ':' :: (document.write.map some ++ tail)

theorem writeMember_append (name : String) (document : Document) (tail : Source) :
    (writeText name ++ ':' :: document.write).map some ++ tail =
      some '"' :: memberText name document tail := by
  rw [List.map_append, List.append_assoc, writeText_append]
  simp [memberText]

/-- Reading one member of an object leads to the next draft. -/
theorem ReadsMembers.step {name : String} {document : Document} {entries : List (String × Document)}
    (h : ReadsMembers members draft ((name, document) :: entries) last) :
    ∃ next, ReadsMembers members next entries last ∧
      ∀ first fuel source tail, Delimited tail →
        nextName first source = .ok (true, memberText name document tail) →
        readMembers members (fuel + 1) first draft source = readMembers members fuel false next tail := by
  cases h with
  | known member hfind hnew hread hrest =>
    refine ⟨_, hrest, fun first fuel source tail htail hname => ?_⟩
    rw [readMembers, hname]
    unfold memberText
    simp only [readString_write, hfind, hnew, readColon_colon, hread tail htail]
    rfl
  | unknown hfind hskip hrest =>
    refine ⟨_, hrest, fun first fuel source tail htail hname => ?_⟩
    rw [readMembers, hname]
    unfold memberText
    simp only [readString_write, hfind, readColon_colon, hskip tail htail]

/-! ## All members -/

theorem commaSeparated_cons (part : List Char) (parts : List (List Char)) :
    commaSeparated (part :: parts) = part ++ parts.flatMap (',' :: ·) := by
  induction parts generalizing part with
  | nil => simp [commaSeparated]
  | cons next parts ih => simp [commaSeparated, ih]

/-- The members of an object but the first, each with the comma before it, and what follows the object. -/
def restText (entries : List (String × Document)) (rest : Source) : Source :=
  ((Document.writeMembers entries).flatMap (',' :: ·)).map some ++ some '\x7d' :: rest

theorem restText_cons (name : String) (document : Document) (entries : List (String × Document))
    (rest : Source) :
    restText ((name, document) :: entries) rest =
      some ',' :: some '"' :: memberText name document (restText entries rest) := by
  rw [← writeMember_append]
  simp [restText, Document.writeMembers]

theorem delimited_restText (entries : List (String × Document)) (rest : Source) :
    Delimited (restText entries rest) := by
  cases entries with
  | nil => exact ⟨_, .inr rfl⟩
  | cons entry entries => exact ⟨_, .inl (restText_cons entry.1 entry.2 entries rest)⟩

theorem readMembers_restText {entries : List (String × Document)}
    (h : ReadsMembers members draft entries last) {fuel : Nat} (hfuel : entries.length < fuel)
    (rest : Source) :
    readMembers members fuel false draft (restText entries rest) = .ok (last, rest) := by
  induction entries generalizing draft fuel with
  | nil =>
    obtain ⟨fuel, rfl⟩ := Nat.exists_eq_add_of_lt hfuel
    cases h
    show readMembers members (0 + fuel + 1) false last (some '\x7d' :: rest) = _
    rw [readMembers, nextName_end]
  | cons entry entries ih =>
    obtain ⟨fuel, rfl⟩ := Nat.exists_eq_add_of_lt hfuel
    obtain ⟨next, hrest, hstep⟩ := h.step
    rw [restText_cons, hstep false _ _ _ (delimited_restText entries rest) (nextName_comma _)]
    exact ih hrest (by simp only [List.length_cons]; omega)

/-- Reading the text of an object follows its members. -/
theorem readMembers_write {entries : List (String × Document)}
    (h : ReadsMembers members draft entries last) {fuel : Nat} (hfuel : entries.length < fuel)
    (rest : Source) :
    readMembers members fuel true draft
      ((commaSeparated (Document.writeMembers entries)).map some ++ some '\x7d' :: rest) =
      .ok (last, rest) := by
  obtain ⟨fuel, rfl⟩ := Nat.exists_eq_add_of_lt hfuel
  cases entries with
  | nil =>
    cases h
    show readMembers members (0 + fuel + 1) true draft (some '\x7d' :: rest) = _
    rw [readMembers, nextName_end]
  | cons entry entries =>
    obtain ⟨next, hrest, hstep⟩ := h.step
    have htext : (commaSeparated (Document.writeMembers (entry :: entries))).map some ++
        some '\x7d' :: rest = some '"' :: memberText entry.1 entry.2 (restText entries rest) := by
      rw [← writeMember_append, Document.writeMembers, commaSeparated_cons]
      simp [restText]
    rw [htext, hstep true _ _ _ (delimited_restText entries rest) (nextName_first _)]
    exact readMembers_restText hrest (by simp only [List.length_cons]; omega) rest

/-- What is separated by commas has no fewer characters than parts, if the first part is not empty. -/
theorem length_le_commaSeparated {part : List Char} (h : part ≠ []) (parts : List (List Char)) :
    (part :: parts).length ≤ (commaSeparated (part :: parts)).length := by
  have hrest : parts.length ≤ (parts.flatMap (',' :: ·)).length := by
    induction parts with
    | nil => exact Nat.le_refl _
    | cons next parts ih =>
      simp only [List.flatMap_cons, List.length_append, List.length_cons]
      omega
  have hpart := List.length_pos_iff.mpr h
  rw [commaSeparated_cons, List.length_append, List.length_cons]
  omega

theorem length_writeMembers (entries : List (String × Document)) :
    (Document.writeMembers entries).length = entries.length := by
  rw [Document.writeMembers_eq_map, List.length_map]

/-- An object has no fewer characters than members. -/
theorem length_writeMembers_le (entries : List (String × Document)) :
    entries.length ≤ (commaSeparated (Document.writeMembers entries)).length := by
  rw [← length_writeMembers entries]
  cases entries with
  | nil => exact Nat.zero_le _
  | cons entry entries => exact length_le_commaSeparated (List.cons_ne_nil _ _) _

/-- **A record is read back from the text that was written for it.** -/
theorem readRecord_write {record : Record ρ α} {entries : List (String × Document)} {value : α}
    (h : ReadsMembers record.members record.empty entries last) (hfinish : record.finish last = some value)
    (rest : Source) :
    readRecord record ((Document.object entries).write.map some ++ rest) = .ok (value, rest) := by
  have hwrite : (Document.object entries).write.map some ++ rest = some '\x7b' ::
      ((commaSeparated (Document.writeMembers entries)).map some ++ some '\x7d' :: rest) := by
    simp [Document.write]
  have hfuel := length_writeMembers_le entries
  have hlength : entries.length <
      ((commaSeparated (Document.writeMembers entries)).map some ++ some '\x7d' :: rest).length + 1 := by
    simp only [List.length_append, List.length_map]
    omega
  have hread := readMembers_write h hlength rest
  unfold readRecord
  rw [hwrite, skipBlanks_some (by decide)]
  simp only [hread, hfinish]

/-- A record that takes the whole text is read back. -/
theorem readWhole_write {record : Record ρ α} {entries : List (String × Document)} {value : α}
    (h : ReadsMembers record.members record.empty entries last)
    (hfinish : record.finish last = some value) :
    readWhole (readRecord record) ((Document.object entries).write.map some) = .ok value := by
  have hread := readRecord_write h hfinish []
  rw [List.append_nil] at hread
  unfold readWhole
  rw [hread]
  rfl

end BlindMint.Json
