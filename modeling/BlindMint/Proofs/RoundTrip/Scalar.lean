import BlindMint.Json.Document
import BlindMint.Json.Reader
import Mathlib.Algebra.Group.Int.Defs
import Mathlib.Algebra.Group.Nat.Defs

/-!
# Scalars are read as they were written

Text and integers that a document writes are read back by the readers of text and of integers, and are passed
over by readers that do not know them. What follows a value in an object is a comma or a bracket; `Delimited`
says so, and a number needs it to end where it was written to end.

## Results

* `readString_write`: every text comes back, whatever characters it is made of.
* `readNumber_write`: every integer of a signed 64-bit word comes back.
* `skipValue_text`, `skipValue_integer`: both are passed over to their ends.
-/

namespace BlindMint.Json

/-- The text after a member of an object. -/
def Delimited (tail : Source) : Prop :=
  ∃ rest, tail = some ',' :: rest ∨ tail = some '}' :: rest

/-- A reader reads a value that a document writes, up to its end. -/
def Reads {α : Type} (reader : Reader α) (document : Document) (value : α) : Prop :=
  ∀ tail, Delimited tail → reader (document.write.map some ++ tail) = .ok (value, tail)

theorem skipBlanks_some {c : Char} (h : isBlank (some c) = false) (rest : Source) :
    skipBlanks (some c :: rest) = some c :: rest := by
  unfold skipBlanks
  rw [List.dropWhile_cons, h]
  rfl

/-- A text with its quotes, before what follows. -/
theorem writeText_append (s : String) (tail : Source) :
    (writeText s).map some ++ tail =
      some '"' :: ((s.toList.flatMap escapeChar).map some ++ some '"' :: tail) := by
  simp [writeText]

/-! ## Characters -/

theorem hexDigit?_digitChar : ∀ d < 16, hexDigit? (Nat.digitChar d) = some d := by decide

theorem utf8Size_digitChar : ∀ d < 16, (Nat.digitChar d).utf8Size = 1 := by decide

/-- A character is written as a short escape, as the four digits of its number, or as itself. -/
theorem escapeChar_cases (c : Char) :
    (∃ e, e ≠ 'u' ∧ shortEscape? e = some c ∧ escapeChar c = ['\\', e]) ∨
    (c.toNat < 0x20 ∧ escapeChar c =
      ['\\', 'u', '0', '0', Nat.digitChar (c.toNat / 16), Nat.digitChar (c.toNat % 16)]) ∨
    (c ≠ '"' ∧ c ≠ '\\' ∧ 0x20 ≤ c.toNat ∧ escapeChar c = [c]) := by
  by_cases hquote : c = '"'
  · exact .inl ⟨'"', by decide, by rw [hquote]; decide, by rw [hquote]; decide⟩
  by_cases hbackslash : c = '\\'
  · exact .inl ⟨'\\', by decide, by rw [hbackslash]; decide, by rw [hbackslash]; decide⟩
  by_cases hb : c = '\x08'
  · exact .inl ⟨'b', by decide, by rw [hb]; decide, by rw [hb]; decide⟩
  by_cases ht : c = '\t'
  · exact .inl ⟨'t', by decide, by rw [ht]; decide, by rw [ht]; decide⟩
  by_cases hn : c = '\n'
  · exact .inl ⟨'n', by decide, by rw [hn]; decide, by rw [hn]; decide⟩
  by_cases hf : c = '\x0c'
  · exact .inl ⟨'f', by decide, by rw [hf]; decide, by rw [hf]; decide⟩
  by_cases hr : c = '\r'
  · exact .inl ⟨'r', by decide, by rw [hr]; decide, by rw [hr]; decide⟩
  right
  unfold escapeChar
  rw [if_neg hquote, if_neg hbackslash, if_neg hb, if_neg ht, if_neg hn, if_neg hf, if_neg hr]
  by_cases hcontrol : c.toNat < 0x20
  · exact .inl ⟨hcontrol, if_pos hcontrol⟩
  · exact .inr ⟨hquote, hbackslash, Nat.not_lt.mp hcontrol, if_neg hcontrol⟩

theorem escapeMeaning_control (strict : Bool) {n : Nat} (hn : n < 0x20) :
    escapeMeaning strict none n =
      .ok (if strict then some (Char.ofNat n) else none, .plain) := by
  unfold escapeMeaning
  cases strict with
  | false => rfl
  | true =>
    rw [if_neg (by decide)]
    dsimp only
    rw [if_neg (by omega), if_neg (by omega)]
    rfl

theorem hasFourBytes_digits {a b : Nat} (ha : a < 16) (hb : b < 16) (rest : Source) :
    hasFourBytes (some '0' :: some '0' :: some (Nat.digitChar a) :: some (Nat.digitChar b) :: rest) =
      true := by
  simp [hasFourBytes, byteSize, utf8Size_digitChar a ha, utf8Size_digitChar b hb]
  decide

/-- What was written for a character is read to its end, and strictly it is read as that character. -/
theorem readChars_escapeChar (strict : Bool) (read : List Char) (c : Char) (rest : Source) :
    ∃ after, (strict = true → after = c :: read) ∧
      readChars strict .plain read ((escapeChar c).map some ++ rest) =
        readChars strict .plain after rest := by
  rcases escapeChar_cases c with ⟨e, hu, he, hwrite⟩ | ⟨hcontrol, hwrite⟩ | ⟨hq, hb, hc, hwrite⟩
  · refine ⟨c :: read, fun _ => rfl, ?_⟩
    simp [hwrite, readChars, hu, he]
  · have hhigh := hexDigit?_digitChar (c.toNat / 16) (by omega)
    have hlow := hexDigit?_digitChar (c.toNat % 16) (by omega)
    have hzero : hexDigit? '0' = some 0 := by decide
    have hvalue : c.toNat / 16 * 16 + c.toNat % 16 = c.toNat := by omega
    have hsize := hasFourBytes_digits (a := c.toNat / 16) (b := c.toNat % 16) (by omega) (by omega) rest
    have hmeaning := escapeMeaning_control strict hcontrol
    refine ⟨if strict then c :: read else read, fun h => if_pos h, ?_⟩
    cases strict <;> simp [hwrite, readChars, hsize, hzero, hhigh, hlow, hvalue, hmeaning]
  · exact ⟨c :: read, fun _ => rfl, by rw [hwrite]; exact readChars_plain strict read c rest hq hb hc⟩

/-- What was written for a text is read to its closing quote, and strictly it is read as that text. -/
theorem readChars_write (strict : Bool) (text read : List Char) (rest : Source) :
    ∃ result, (strict = true → result = read.reverse ++ text) ∧
      readChars strict .plain read ((text.flatMap escapeChar).map some ++ some '"' :: rest) =
        .ok (result, rest) := by
  induction text generalizing read with
  | nil => exact ⟨read.reverse, fun _ => by simp, by simp [readChars]⟩
  | cons c text ih =>
    obtain ⟨after, hafter, hstep⟩ := readChars_escapeChar strict read c
      ((text.flatMap escapeChar).map some ++ some '"' :: rest)
    obtain ⟨result, hresult, hrest⟩ := ih after
    refine ⟨result, fun h => ?_, ?_⟩
    · rw [hresult h, hafter h]
      simp
    · rw [List.flatMap_cons, List.map_append, List.append_assoc, hstep, hrest]

/-- **Every text is read back.** -/
theorem readString_write (s : String) (rest : Source) :
    readString ((s.toList.flatMap escapeChar).map some ++ some '"' :: rest) = .ok (s, rest) := by
  obtain ⟨result, hresult, hread⟩ := readChars_write true s.toList [] rest
  unfold readString
  rw [hread, hresult rfl]
  simp

theorem skipString_write (s : String) (rest : Source) :
    skipString ((s.toList.flatMap escapeChar).map some ++ some '"' :: rest) = .ok rest := by
  obtain ⟨result, -, hread⟩ := readChars_write false s.toList [] rest
  unfold skipString
  rw [hread]

/-! ## Numbers -/

/-- What follows a number does not go on with it. -/
def EndsNumber (tail : Source) : Prop :=
  digit? (tail.head?.getD none) = none ∧
    tail.head? ≠ some (some '.') ∧ tail.head? ≠ some (some 'e') ∧ tail.head? ≠ some (some 'E')

theorem Delimited.endsNumber {tail : Source} (h : Delimited tail) : EndsNumber tail := by
  obtain ⟨rest, rfl | rfl⟩ := h <;>
    exact ⟨by simp only [List.head?_cons, Option.getD_some]; decide, by simp, by simp, by simp⟩

/-- The values of the decimal digits of a number. -/
def digitValues (n : Nat) : List Nat :=
  (Decimal.digits n).map fun c => c.toNat - 48

theorem digit?_of_mem_digits {n : Nat} {c : Char} (h : c ∈ Decimal.digits n) :
    digit? (some c) = some (c.toNat - 48) := by
  have hdigit := Nat.isDigit_of_mem_toDigits (by decide) (by decide) h
  unfold Char.isDigit at hdigit
  simp only [ge_iff_le, Bool.and_eq_true, decide_eq_true_eq] at hdigit
  unfold digit?
  exact if_pos hdigit

theorem ofDigits_digitValues (n : Nat) : ofDigits (digitValues n) = n := by
  calc ofDigits (digitValues n) = Nat.ofDigitChars 10 (Nat.toDigits 10 n) 0 := by
        unfold ofDigits digitValues Decimal.digits Nat.ofDigitChars
        rw [List.foldl_map]
        congr
        funext m c
        rw [Nat.mul_comm]
        rfl
    _ = n := Nat.ofDigitChars_ten_toDigits

theorem digitValues_ne_nil (n : Nat) : digitValues n ≠ [] := by
  unfold digitValues Decimal.digits
  simp [Nat.toDigits_ne_nil]

/-- Digits do not start with a zero, but for zero itself. -/
theorem digitValues_head (n : Nat) (hn : 0 < n) : (digitValues n).head? ≠ some 0 := by
  induction n using Nat.strongRecOn with
  | _ n ih =>
    by_cases hsmall : n < 10
    · have hdigits : digitValues n = [n] := by
        unfold digitValues Decimal.digits
        rw [Nat.toDigits_of_lt_base hsmall]
        simp [Nat.toNat_digitChar_sub_48_of_lt_ten hsmall]
      simp [hdigits]
      omega
    · have hdigits : digitValues n = digitValues (n / 10) ++ [n % 10] := by
        unfold digitValues Decimal.digits
        rw [Nat.toDigits_of_base_le (by decide) (Nat.not_lt.mp hsmall)]
        simp [Nat.toNat_digitChar_sub_48_of_lt_ten (Nat.mod_lt n (by decide))]
      have hhead := ih (n / 10) (by omega) (by omega)
      obtain ⟨d, ds, hcons⟩ := List.exists_cons_of_ne_nil (digitValues_ne_nil (n / 10))
      rw [hdigits, hcons]
      rwa [hcons] at hhead

theorem digitValues_no_leading_zero (n d : Nat) (ds : List Nat) : digitValues n ≠ 0 :: d :: ds := by
  intro h
  by_cases hn : n = 0
  · subst hn
    exact absurd h (by simp [digitValues, Decimal.digits])
  · exact digitValues_head n (Nat.pos_of_ne_zero hn) (by rw [h]; rfl)

theorem spanDigits_append {ds : List Char} (hds : ∀ c ∈ ds, digit? (some c) = some (c.toNat - 48))
    {tail : Source} (h : EndsNumber tail) :
    spanDigits (ds.map some ++ tail) = (ds.map fun c => c.toNat - 48, tail) := by
  induction ds with
  | nil =>
    cases tail with
    | nil => rfl
    | cons c tail =>
      have hc : digit? c = none := h.1
      simp [spanDigits, hc]
  | cons c ds ih =>
    have hc := hds c List.mem_cons_self
    have hrest := ih fun d hd => hds d (List.mem_cons_of_mem _ hd)
    simp [spanDigits, hc, hrest]

theorem readDigits_write (n : Nat) {tail : Source} (h : EndsNumber tail) :
    readDigits ((Decimal.digits n).map some ++ tail) = .ok (digitValues n, tail) := by
  unfold readDigits
  rw [spanDigits_append (fun c hc => digit?_of_mem_digits hc) h]
  have hne := digitValues_ne_nil n
  unfold digitValues at hne ⊢
  split
  · next heq => exact absurd (Prod.mk.inj heq).1 hne
  · next heq => exact absurd (Prod.mk.inj heq).1 hne
  · next heq =>
    obtain ⟨rfl, rfl⟩ := Prod.mk.inj heq
    rfl

theorem EndsNumber.readFraction {tail : Source} (h : EndsNumber tail) :
    readFraction tail = .ok (none, tail) := by
  unfold Json.readFraction
  split
  · exact absurd rfl h.2.1
  · rfl

theorem EndsNumber.readExponent {tail : Source} (h : EndsNumber tail) :
    readExponent tail = .ok (none, tail) := by
  unfold Json.readExponent
  split
  · next c rest =>
    refine if_neg fun hc => ?_
    rcases hc with rfl | rfl
    · exact h.2.2.1 rfl
    · exact h.2.2.2 rfl
  · rfl

/-- A number of sixty-four bits is far from the limit of double precision. -/
theorem exceedsDouble_zero {n : Nat} (h : n < 2 ^ 64) : exceedsDouble n 0 = false := by
  have hlength : (Nat.toDigits 10 n).length ≤ 20 :=
    (Nat.length_toDigits_le_iff (by decide) (by decide)).mpr (Nat.lt_trans h (by decide))
  unfold exceedsDouble
  exact if_pos (.inr (by omega))

theorem readUnsigned_write (negative : Bool) {n : Nat} (hn : n < 2 ^ 64) {tail : Source}
    (h : EndsNumber tail) :
    readUnsigned negative ((Decimal.digits n).map some ++ tail) =
      .ok (if negative then if n = 0 ∨ 2 ^ 63 < n then .inexact else .integer (-n) else .integer n,
        tail) := by
  have hassemble : assemble negative (digitValues n) none none =
      .ok (if negative then if n = 0 ∨ 2 ^ 63 < n then .inexact else .integer (-n)
        else .integer n) := by
    unfold assemble
    simp only [Option.getD_none, List.append_nil, ofDigits_digitValues, List.length_nil]
    rw [show ((0 : Int) - (0 : Nat)) = 0 from rfl, exceedsDouble_zero hn]
    cases negative with
    | false => exact if_pos hn
    | true => exact (apply_ite Except.ok (n = 0 ∨ 2 ^ 63 < n) Number.inexact (Number.integer (-n))).symm
  unfold readUnsigned
  rw [readDigits_write n h]
  split
  · next heq => cases heq
  · next heq => exact absurd (congrArg Prod.fst (Except.ok.inj heq)) (digitValues_no_leading_zero n _ _)
  · next heq =>
    obtain ⟨rfl, rfl⟩ := Prod.mk.inj (Except.ok.inj heq)
    simp only [h.readFraction, h.readExponent, hassemble]

/-- How a number starts. -/
def StartsNumber (c : Char) : Prop :=
  c = '-' ∨ (digit? (some c)).isSome = true

theorem startsNumber_digits (n : Nat) :
    ∃ c ds, Decimal.digits n = c :: ds ∧ (digit? (some c)).isSome = true := by
  obtain ⟨c, ds, hcons⟩ := List.exists_cons_of_ne_nil (show Decimal.digits n ≠ [] from Nat.toDigits_ne_nil)
  have hdigit := digit?_of_mem_digits (n := n) (c := c) (by rw [hcons]; exact List.mem_cons_self)
  exact ⟨c, ds, hcons, by rw [hdigit]; rfl⟩

theorem startsNumber_ofIntDigits (n : Int) :
    ∃ c ds, Decimal.ofIntDigits n = c :: ds ∧ StartsNumber c := by
  cases n with
  | ofNat k =>
    obtain ⟨c, ds, hcons, hdigit⟩ := startsNumber_digits k
    exact ⟨c, ds, hcons, .inr hdigit⟩
  | negSucc k => exact ⟨'-', _, rfl, .inl rfl⟩

/-- A character that does not start a number. -/
theorem StartsNumber.ne {c d : Char} (h : StartsNumber c) (hd : d ≠ '-' ∧ digit? (some d) = none) :
    c ≠ d := by
  rintro rfl
  rcases h with h | h
  · exact hd.1 h
  · rw [hd.2] at h
    cases h

theorem StartsNumber.not_blank {c : Char} (h : StartsNumber c) : isBlank (some c) = false := by
  have hspace := h.ne (d := ' ') (by decide)
  have hline := h.ne (d := '\n') (by decide)
  have htab := h.ne (d := '\t') (by decide)
  have hreturn := h.ne (d := '\r') (by decide)
  simp [isBlank, hspace, hline, htab, hreturn]

/-- **Every integer of a signed word is read back.** -/
theorem readNumber_write {n : Int} (hword : -2 ^ 63 ≤ n ∧ n < 2 ^ 63) {tail : Source}
    (h : EndsNumber tail) :
    readNumber ((Decimal.ofIntDigits n).map some ++ tail) = .ok (.integer n, tail) := by
  obtain ⟨hlow, hhigh⟩ := hword
  cases n with
  | ofNat k =>
    have hk : (k : Int) < 2 ^ 63 := hhigh
    obtain ⟨c, ds, hcons, hdigit⟩ := startsNumber_digits k
    have hread := readUnsigned_write false (n := k) (by omega) h
    have hdigits : Decimal.ofIntDigits (.ofNat k) = c :: ds := hcons
    rw [hcons] at hread
    rw [hdigits]
    unfold readNumber
    split
    · next heq =>
      obtain rfl := Option.some.inj (List.cons.inj heq).1
      exact absurd hdigit (by decide)
    · exact hread
  | negSucc k =>
    have hread := readUnsigned_write true (n := k + 1) (by omega) h
    rw [if_pos rfl, if_neg (by omega)] at hread
    exact hread

/-- Integers between two bounds are read back by readers with these bounds. -/
theorem reads_integer {low high n : Int} (hword : -2 ^ 63 ≤ n ∧ n < 2 ^ 63) (h : low ≤ n ∧ n ≤ high) :
    Reads (readInteger low high) (.integer n) n := by
  intro tail htail
  have hread := readNumber_write hword htail.endsNumber
  obtain ⟨c, ds, hcons, hc⟩ := startsNumber_ofIntDigits n
  unfold readInteger Document.write
  rw [hcons] at hread ⊢
  rw [List.map_cons, List.cons_append] at hread ⊢
  rw [skipBlanks_some hc.not_blank]
  simp only [hread]
  exact (if_pos hc).trans (if_pos h)

/-! ## Passing over -/

theorem readUnsigned_ok {negative : Bool} {source rest : Source} {number : Number}
    (h : readUnsigned negative source = .ok (number, rest)) :
    ∃ whole r fraction r' exponent, readDigits source = .ok (whole, r) ∧
      (∀ d ds, whole ≠ 0 :: d :: ds) ∧ readFraction r = .ok (fraction, r') ∧
      readExponent r' = .ok (exponent, rest) := by
  unfold readUnsigned at h
  split at h
  · cases h
  · cases h
  · next whole r hshape hdigits =>
    split at h
    · cases h
    · next fraction r' hfraction =>
      split at h
      · cases h
      · next exponent r'' hexponent =>
        split at h
        · cases h
        · obtain ⟨-, rfl⟩ := Prod.mk.inj (Except.ok.inj h)
          exact ⟨whole, r, fraction, r', exponent, hdigits, hshape, hfraction, hexponent⟩

/-- A number that can be read is passed over to the same end. -/
theorem skipNumber_of_readNumber {source rest : Source} {number : Number}
    (h : readNumber source = .ok (number, rest)) : skipNumber source = .ok rest := by
  unfold readNumber at h
  unfold skipNumber
  -- With a sign and without one, the digits after it are passed over as they are read.
  split at h
  all_goals
    obtain ⟨whole, r, fraction, r', exponent, hdigits, hshape, hfraction, hexponent⟩ :=
      readUnsigned_ok h
    dsimp only
    rw [hdigits]
    split
    · next heq => cases heq
    · next heq => exact absurd (congrArg Prod.fst (Except.ok.inj heq)) (hshape _ _)
    · next heq =>
      obtain ⟨rfl, rfl⟩ := Prod.mk.inj (Except.ok.inj heq)
      simp only [hfraction, hexponent]

theorem skipValue_of_scalar {c : Char} {rest tail : Source} (hblank : isBlank (some c) = false)
    (hlist : c ≠ '[') (hobject : c ≠ '\x7b') (h : skipScalar (some c :: rest) = .ok tail) :
    skipValue (some c :: rest) = .ok tail := by
  unfold skipValue
  rw [skipSteps, skipBlanks_some hblank]
  split
  · next heq => exact absurd (Option.some.inj (List.cons.inj heq).1) hlist
  · next heq => exact absurd (Option.some.inj (List.cons.inj heq).1) hobject
  · rw [h]
    rfl

/-- **An integer is passed over.** -/
theorem skipValue_integer {n : Int} (hword : -2 ^ 63 ≤ n ∧ n < 2 ^ 63) {tail : Source}
    (h : EndsNumber tail) : skipValue ((Decimal.ofIntDigits n).map some ++ tail) = .ok tail := by
  have hskip := skipNumber_of_readNumber (readNumber_write hword h)
  obtain ⟨c, ds, hcons, hc⟩ := startsNumber_ofIntDigits n
  rw [hcons, List.map_cons, List.cons_append] at hskip ⊢
  refine skipValue_of_scalar hc.not_blank (hc.ne (by decide)) (hc.ne (by decide)) ?_
  unfold skipScalar
  dsimp only
  rw [if_neg (hc.ne (by decide)), if_neg (hc.ne (by decide)), if_neg (hc.ne (by decide)),
    if_neg (hc.ne (by decide))]
  exact (if_pos hc).trans hskip

/-- **A text is passed over.** -/
theorem skipValue_text (s : String) (tail : Source) :
    skipValue ((writeText s).map some ++ tail) = .ok tail := by
  rw [writeText_append]
  exact skipValue_of_scalar (by decide) (by decide) (by decide) (skipString_write s tail)

/-! ## Text for readers -/

/-- Text is read back by a reader of text. -/
theorem reads_text (s : String) : Reads readText (.text s) s := by
  intro tail _
  unfold readText Document.write
  rw [writeText_append, skipBlanks_some (by decide)]
  exact readString_write s tail

/-- A name is read back by a reader that knows it. -/
theorem reads_choice {α : Type} {choices : List (String × α)} {name : String} {value : α}
    (h : choices.lookup name = some value) : Reads (readChoice choices) (.text name) value := by
  intro tail _
  unfold readChoice Document.write
  rw [writeText_append, skipBlanks_some (by decide)]
  simp only [readString_write, lookupName, h]

/-- What is written as a text is read back by a reader that may find null in its place. -/
theorem reads_optional {α : Type} {reader : Reader α} {s : String} {value : α}
    (h : Reads reader (.text s) value) : Reads (readOptional reader) (.text s) (some value) := by
  intro tail htail
  have hread := h tail htail
  unfold Document.write at hread ⊢
  unfold readOptional
  rw [writeText_append] at hread ⊢
  rw [skipBlanks_some (by decide)]
  split
  · next heq => exact absurd (Option.some.inj (List.cons.inj heq).1) (by decide)
  · rw [hread]

/-- A text is read back by a reader of text that may be null. -/
theorem reads_optional_text (s : String) : Reads (readOptional readText) (.text s) (some s) :=
  reads_optional (reads_text s)

end BlindMint.Json
