import BlindMint.Proofs.RoundTrip.List

/-!
# A document is the only one with its text

Where a document ends can be told from its text, whatever follows it in a list or an object: a text ends at its
closing quote, a number where its digits end, and a list or an object at the bracket that is not one of a part. So
no other document is written with the same characters, and in a list or an object no part can take characters
from the next one.

## Results

* `writeText_append_inj`, `ofIntDigits_append_inj`: texts and integers are known from what they are written as.
* `commaSeparated_append_inj`: so are parts with commas between them, if each of them is.
* **`Document.write_inj`**: two documents with one text are the same.
-/

namespace BlindMint.Json

/-- What follows a value: nothing, a comma, or a closing bracket. -/
def Closes (tail : List Char) : Prop :=
  ∀ c ∈ tail.head?, c = ',' ∨ c = ']' ∨ c = '}'

/-- A value is written as no other is, and what follows it does not change that. -/
def Unambiguous {α : Type} (write : α → List Char) (value : α) : Prop :=
  ∀ other tail tail', Closes tail → Closes tail' → write value ++ tail = write other ++ tail' →
    value = other ∧ tail = tail'

/-! ## Texts and integers -/

/-- A text ends at its closing quote, whatever follows. -/
theorem writeText_append_inj {s s' : String} {tail tail' : List Char}
    (h : writeText s ++ tail = writeText s' ++ tail') : s = s' ∧ tail = tail' := by
  have hsource := congrArg (List.map some) h
  rw [List.map_append, List.map_append, writeText_append, writeText_append] at hsource
  have hread := congrArg readString (List.cons.inj hsource).2
  rw [readString_write, readString_write] at hread
  obtain ⟨htext, htail⟩ := Prod.mk.inj (Except.ok.inj hread)
  exact ⟨htext, (List.map_inj_right fun _ _ => Option.some.inj).mp htail⟩

theorem Closes.endsNumber {tail : List Char} (h : Closes tail) : EndsNumber (tail.map some) := by
  cases tail with
  | nil => exact ⟨rfl, by simp, by simp, by simp⟩
  | cons c rest =>
    obtain rfl | rfl | rfl := h c rfl <;>
      exact ⟨by simp only [List.map_cons, List.head?_cons, Option.getD_some]; decide, by simp, by simp, by simp⟩

theorem digits_append_inj {m n : Nat} {tail tail' : List Char} (ht : Closes tail) (ht' : Closes tail')
    (h : Decimal.digits m ++ tail = Decimal.digits n ++ tail') : m = n ∧ tail = tail' := by
  have hspan := congrArg (fun chars => spanDigits (chars.map some)) h
  simp only [List.map_append] at hspan
  rw [spanDigits_append (fun c hc => digit?_of_mem_digits hc) ht.endsNumber,
    spanDigits_append (fun c hc => digit?_of_mem_digits hc) ht'.endsNumber] at hspan
  obtain ⟨hdigits, htail⟩ := Prod.mk.inj hspan
  refine ⟨?_, (List.map_inj_right fun _ _ => Option.some.inj).mp htail⟩
  calc m = ofDigits (digitValues m) := (ofDigits_digitValues m).symm
    _ = ofDigits (digitValues n) := congrArg ofDigits hdigits
    _ = n := ofDigits_digitValues n

/-- No digits begin with a minus sign. -/
theorem digits_append_ne_minus (n : Nat) (tail rest : List Char) : Decimal.digits n ++ tail ≠ '-' :: rest := by
  obtain ⟨c, cs, hcons, hdigit⟩ := startsNumber_digits n
  rw [hcons]
  intro h
  obtain rfl := (List.cons.inj h).1
  exact absurd hdigit (by decide)

/-- An integer ends where its digits end. -/
theorem ofIntDigits_append_inj {m n : Int} {tail tail' : List Char} (ht : Closes tail) (ht' : Closes tail')
    (h : Decimal.ofIntDigits m ++ tail = Decimal.ofIntDigits n ++ tail') : m = n ∧ tail = tail' := by
  cases m with
  | ofNat m =>
    cases n with
    | ofNat n =>
      obtain ⟨hmn, htail⟩ := digits_append_inj ht ht' h
      exact ⟨congrArg Int.ofNat hmn, htail⟩
    | negSucc n => exact absurd h (digits_append_ne_minus m _ _)
  | negSucc m =>
    cases n with
    | ofNat n => exact absurd h.symm (digits_append_ne_minus n _ _)
    | negSucc n =>
      obtain ⟨hmn, htail⟩ := digits_append_inj ht ht' (List.cons.inj h).2
      exact ⟨congrArg Int.negSucc (Nat.succ.inj hmn), htail⟩

/-! ## Parts -/

section Parts

variable {α : Type} {write : α → List Char} {values others : List α} {close : Char} {tail tail' : List Char}

theorem closes_parts (hclose : close = ']' ∨ close = '}') (values : List α) (tail : List Char) :
    Closes ((values.map write).flatMap (',' :: ·) ++ close :: tail) := by
  intro c hc
  cases values with
  | nil =>
    obtain rfl : close = c := Option.some.inj hc
    exact .inr hclose
  | cons value values => exact .inl (Option.some.inj hc).symm

/-- The parts but the first, each with the comma before it. -/
theorem parts_append_inj (hclose : close = ']' ∨ close = '}')
    (hvalues : ∀ value ∈ values, Unambiguous write value)
    (h : (values.map write).flatMap (',' :: ·) ++ close :: tail =
      (others.map write).flatMap (',' :: ·) ++ close :: tail') : values = others ∧ tail = tail' := by
  have hcomma : close ≠ ',' := by
    rintro rfl
    exact absurd hclose (by decide)
  induction values generalizing others with
  | nil =>
    cases others with
    | nil => exact ⟨rfl, (List.cons.inj h).2⟩
    | cons other others => exact absurd (List.cons.inj h).1 hcomma
  | cons value values ih =>
    cases others with
    | nil => exact absurd (List.cons.inj h).1.symm hcomma
    | cons other others =>
      simp only [List.map_cons, List.flatMap_cons, List.cons_append, List.append_assoc, List.cons.injEq,
        true_and] at h
      obtain ⟨hvalue, hrest⟩ := hvalues value List.mem_cons_self other _ _ (closes_parts hclose values tail)
        (closes_parts hclose others tail') h
      obtain ⟨hmore, htail⟩ := ih (fun v hv => hvalues v (List.mem_cons_of_mem _ hv)) hrest
      exact ⟨by rw [hvalue, hmore], htail⟩

/-- **Parts with commas between them**, up to the closing bracket, are known from what they are written as. -/
theorem commaSeparated_append_inj (hclose : close = ']' ∨ close = '}')
    (hstart : ∀ value, ∃ c cs, write value = c :: cs ∧ c ≠ close)
    (hvalues : ∀ value ∈ values, Unambiguous write value)
    (h : commaSeparated (values.map write) ++ close :: tail =
      commaSeparated (others.map write) ++ close :: tail') : values = others ∧ tail = tail' := by
  -- One list is empty just if the bracket comes first, and no part starts with it.
  have hfirst : ∀ (value : α) (rest rest' : List Char), write value ++ rest ≠ close :: rest' := by
    intro value rest rest' heq
    obtain ⟨c, cs, hwrite, hc⟩ := hstart value
    rw [hwrite] at heq
    exact hc (List.cons.inj heq).1
  cases values with
  | nil =>
    cases others with
    | nil => exact ⟨rfl, (List.cons.inj h).2⟩
    | cons other others =>
      rw [List.map_cons, commaSeparated_cons, List.append_assoc] at h
      exact absurd h.symm (hfirst other _ _)
  | cons value values =>
    cases others with
    | nil =>
      rw [List.map_cons, commaSeparated_cons, List.append_assoc] at h
      exact absurd h (hfirst value _ _)
    | cons other others =>
      rw [List.map_cons, List.map_cons, commaSeparated_cons, commaSeparated_cons, List.append_assoc,
        List.append_assoc] at h
      obtain ⟨hvalue, hrest⟩ := hvalues value List.mem_cons_self other _ _ (closes_parts hclose values tail)
        (closes_parts hclose others tail') h
      obtain ⟨hmore, htail⟩ := parts_append_inj hclose (fun v hv => hvalues v (List.mem_cons_of_mem _ hv)) hrest
      exact ⟨by rw [hvalue, hmore], htail⟩

end Parts

/-! ## Documents -/

namespace Document

/-- The kinds of values. -/
inductive Kind where
  | null
  | integer
  | text
  | list
  | object
  deriving DecidableEq

/-- The kind of a document. -/
def kind : Document → Kind
  | null => .null
  | integer _ => .integer
  | text _ => .text
  | list _ => .list
  | object _ => .object

/-- The kind of value that a character starts. -/
def kindOf (c : Char) : Kind :=
  if c = 'n' then .null
  else if c = '"' then .text
  else if c = '[' then .list
  else if c = '\x7b' then .object
  else .integer

/-- The first character tells of which kind a document is. -/
theorem write_kind (document : Document) : ∃ c cs, document.write = c :: cs ∧ kindOf c = document.kind := by
  cases document with
  | null => exact ⟨'n', _, by rw [write], rfl⟩
  | integer n =>
    obtain ⟨c, cs, hcons, hc⟩ := startsNumber_ofIntDigits n
    refine ⟨c, cs, by rw [write, hcons], ?_⟩
    unfold kindOf
    rw [if_neg (hc.ne (by decide)), if_neg (hc.ne (by decide)), if_neg (hc.ne (by decide)),
      if_neg (hc.ne (by decide)), kind]
  | text s => exact ⟨'"', _, by rw [write, writeText]; rfl, rfl⟩
  | list items => exact ⟨'[', _, by rw [write]; rfl, rfl⟩
  | object members => exact ⟨'\x7b', _, by rw [write]; rfl, rfl⟩

theorem kind_eq_of_write {document other : Document} {tail tail' : List Char}
    (h : document.write ++ tail = other.write ++ tail') : document.kind = other.kind := by
  obtain ⟨c, cs, hwrite, hkind⟩ := write_kind document
  obtain ⟨c', cs', hwrite', hkind'⟩ := write_kind other
  rw [hwrite, hwrite'] at h
  rw [← hkind, ← hkind', (List.cons.inj h).1]

theorem unambiguous_writeMember {member : String × Document} (h : Unambiguous write member.2) :
    Unambiguous writeMember member := by
  intro other tail tail' ht ht' heq
  simp only [writeMember, List.append_assoc, List.cons_append] at heq
  obtain ⟨hname, hrest⟩ := writeText_append_inj heq
  obtain ⟨hvalue, htail⟩ := h other.2 tail tail' ht ht' (List.cons.inj hrest).2
  exact ⟨Prod.ext hname hvalue, htail⟩

theorem unambiguous_null : Unambiguous write null := by
  intro other tail tail' _ _ h
  have hkind := kind_eq_of_write h
  cases other with
  | null =>
    simp only [write, List.cons_append, List.nil_append, List.cons.injEq, true_and] at h
    exact ⟨rfl, h⟩
  | _ => cases hkind

theorem unambiguous_integer (n : Int) : Unambiguous write (integer n) := by
  intro other tail tail' ht ht' h
  have hkind := kind_eq_of_write h
  cases other with
  | integer m =>
    rw [write, write] at h
    obtain ⟨hn, htail⟩ := ofIntDigits_append_inj ht ht' h
    exact ⟨congrArg integer hn, htail⟩
  | _ => cases hkind

theorem unambiguous_text (s : String) : Unambiguous write (text s) := by
  intro other tail tail' _ _ h
  have hkind := kind_eq_of_write h
  cases other with
  | text s' =>
    rw [write, write] at h
    obtain ⟨hs, htail⟩ := writeText_append_inj h
    exact ⟨congrArg text hs, htail⟩
  | _ => cases hkind

theorem unambiguous_list {items : List Document} (hitems : ∀ item ∈ items, Unambiguous write item) :
    Unambiguous write (list items) := by
  intro other tail tail' _ _ h
  have hkind := kind_eq_of_write h
  cases other with
  | list others =>
    simp only [write, writeItems_eq_map, List.cons_append, List.append_assoc, List.nil_append, List.cons.injEq,
      true_and] at h
    have hstart : ∀ item : Document, ∃ c cs, item.write = c :: cs ∧ c ≠ ']' := by
      intro item
      obtain ⟨c, cs, hwrite, -, hc⟩ := write_starts item
      exact ⟨c, cs, hwrite, hc⟩
    obtain ⟨hsame, htail⟩ := commaSeparated_append_inj (.inl rfl) hstart hitems h
    exact ⟨congrArg list hsame, htail⟩
  | _ => cases hkind

theorem unambiguous_object {members : List (String × Document)}
    (hmembers : ∀ member ∈ members, Unambiguous write member.2) : Unambiguous write (object members) := by
  intro other tail tail' _ _ h
  have hkind := kind_eq_of_write h
  cases other with
  | object others =>
    simp only [write, writeMembers_eq_map, List.cons_append, List.append_assoc, List.nil_append, List.cons.injEq,
      true_and] at h
    have hstart : ∀ member, ∃ c cs, writeMember member = c :: cs ∧ c ≠ '\x7d' :=
      fun member => ⟨'"', _, rfl, by decide⟩
    obtain ⟨hsame, htail⟩ := commaSeparated_append_inj (.inr rfl) hstart
      (fun member hmember => unambiguous_writeMember (hmembers member hmember)) h
    exact ⟨congrArg object hsame, htail⟩
  | _ => cases hkind

/-- **A document is known from its text** and from what may follow it. -/
theorem unambiguous_write : (document : Document) → Unambiguous write document
  | null => unambiguous_null
  | integer n => unambiguous_integer n
  | text s => unambiguous_text s
  | list items => unambiguous_list fun item _ => unambiguous_write item
  | object members => unambiguous_object fun member _ => unambiguous_write member.2
  termination_by document => sizeOf document
  decreasing_by
    · have hless := List.sizeOf_lt_of_mem ‹item ∈ items›
      simp only [list.sizeOf_spec]
      omega
    · have hless := List.sizeOf_lt_of_mem ‹member ∈ members›
      have hpair : sizeOf member = 1 + sizeOf member.1 + sizeOf member.2 := rfl
      simp only [object.sizeOf_spec]
      omega

/-- **Two documents with one text are the same.** -/
theorem write_inj {document other : Document} (h : document.write = other.write) : document = other := by
  refine (unambiguous_write document other [] [] ?_ ?_ (by rw [List.append_nil, List.append_nil, h])).1
  · exact fun c hc => nomatch hc
  · exact fun c hc => nomatch hc

end Document

end BlindMint.Json
