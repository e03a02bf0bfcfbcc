import BlindMint.Octets

/-!
# UTF-8

Text as bytes. `Utf8.scan` reads any byte string: it yields the characters in order and `none` for each
byte that is not part of a well-formed character. `Utf8.decode?` refuses such bytes.

Results:
* `Utf8.scan_encode`: scanning encoded text gives the characters back, each one well formed.
* `Utf8.decode?_encode`: reading encoded text gives the text back.
* `Utf8.decode?_eq_some_iff`: nothing else is read.
-/

namespace BlindMint.Utf8

/-- The bytes of a list of characters. -/
def encode (cs : List Char) : Octets :=
  cs.flatMap String.utf8EncodeChar

/-- The bytes of a string. -/
def ofString (text : String) : Octets :=
  encode text.toList

/-- The well-formed character at the head of a byte string. -/
def head? (bytes : Octets) : Option Char :=
  (bytes.take 4).toByteArray.utf8DecodeChar? 0

/-- The characters of a byte string in order, and `none` for each byte that belongs to none. -/
def scan : Octets → List (Option Char)
  | [] => []
  | b :: rest =>
    match head? (b :: rest) with
    | some c => some c :: scan (rest.drop (c.utf8Size - 1))
    | none => none :: scan rest
  termination_by bytes => bytes.length

/-- The characters of a byte string that is well formed as a whole. -/
def decode? (bytes : Octets) : Option (List Char) :=
  (scan bytes).mapM id

theorem utf8Size_pos (c : Char) : 0 < c.utf8Size :=
  c.utf8Size_pos

/-- No character takes less than a byte. -/
theorem length_le_encode (cs : List Char) : cs.length ≤ (encode cs).length := by
  induction cs with
  | nil => exact Nat.le_refl _
  | cons c cs ih =>
    have hpos := utf8Size_pos c
    have hsize : (String.utf8EncodeChar c).length = c.utf8Size := String.length_utf8EncodeChar c
    have hcons : encode (c :: cs) = String.utf8EncodeChar c ++ encode cs := rfl
    rw [hcons, List.length_append, List.length_cons]
    omega

theorem head?_encodeChar_append (c : Char) (rest : Octets) :
    head? (String.utf8EncodeChar c ++ rest) = some c := by
  have hlen : (String.utf8EncodeChar c).length ≤ 4 := by
    rw [String.length_utf8EncodeChar]
    exact c.utf8Size_le_four
  unfold head?
  rw [List.take_append, List.take_of_length_le hlen, List.toByteArray_append]
  exact ByteArray.utf8DecodeChar?_utf8EncodeChar_append

theorem scan_encodeChar_append (c : Char) (rest : Octets) :
    scan (String.utf8EncodeChar c ++ rest) = some c :: scan rest := by
  have hlen : (String.utf8EncodeChar c).length = c.utf8Size := String.length_utf8EncodeChar c
  have hpos := utf8Size_pos c
  match henc : String.utf8EncodeChar c with
  | [] => simp [henc] at hlen; omega
  | b :: more =>
    have hhead := head?_encodeChar_append c rest
    rw [henc] at hhead hlen
    have hmore : more.length = c.utf8Size - 1 := by simp at hlen; omega
    rw [List.cons_append] at hhead ⊢
    rw [scan, hhead]
    simp [← hmore]

theorem scan_encode (cs : List Char) : scan (encode cs) = cs.map some := by
  induction cs with
  | nil => simp [encode, scan]
  | cons c cs ih =>
    show scan (String.utf8EncodeChar c ++ encode cs) = _
    rw [scan_encodeChar_append, ih]
    rfl

theorem decode?_encode (cs : List Char) : decode? (encode cs) = some cs := by
  unfold decode?
  rw [scan_encode]
  induction cs with
  | nil => rfl
  | cons c cs ih => simp [ih]

theorem exists_of_head? {bytes : Octets} {c : Char} (h : head? bytes = some c) :
    ∃ rest, bytes = String.utf8EncodeChar c ++ rest := by
  obtain ⟨more, hmore⟩ := ByteArray.exists_of_utf8DecodeChar?_eq_some h
  have htake : bytes.take 4 = String.utf8EncodeChar c ++ more.data.toList := by
    have hdata := congrArg (fun array : ByteArray => array.data.toList) hmore
    simpa using hdata
  refine ⟨more.data.toList ++ bytes.drop 4, ?_⟩
  rw [← List.append_assoc, ← htake, List.take_append_drop]

theorem encode_of_scan {bytes : Octets} {cs : List Char} (h : scan bytes = cs.map some) :
    encode cs = bytes := by
  induction cs generalizing bytes with
  | nil =>
    cases bytes with
    | nil => rfl
    | cons b rest =>
      rw [scan] at h
      split at h <;> cases h
  | cons c cs ih =>
    cases bytes with
    | nil => simp [scan] at h
    | cons b rest =>
      have hhead : head? (b :: rest) = some c := by
        rw [scan] at h
        split at h
        · next c' hc' => rw [hc', (List.cons.inj h).1]
        · cases (List.cons.inj h).1
      obtain ⟨more, hmore⟩ := exists_of_head? hhead
      rw [hmore, scan_encodeChar_append] at h
      rw [hmore, ← ih (List.cons.inj h).2]
      rfl

/-- A byte string is read as a text iff it is the text's encoding. -/
theorem decode?_eq_some_iff {bytes : Octets} {cs : List Char} :
    decode? bytes = some cs ↔ bytes = encode cs := by
  constructor
  · intro h
    refine (encode_of_scan ?_).symm
    unfold decode? at h
    generalize scan bytes = read at h ⊢
    induction read generalizing cs with
    | nil =>
      obtain rfl := Option.some.inj h
      rfl
    | cons c read ih =>
      rw [List.mapM_cons] at h
      obtain ⟨first, hfirst, hmore⟩ := Option.bind_eq_some_iff.mp h
      obtain ⟨others, hothers, hcons⟩ := Option.bind_eq_some_iff.mp hmore
      obtain rfl := Option.some.inj hcons
      rw [ih hothers, show c = some first from hfirst, List.map_cons]
  · rintro rfl
    exact decode?_encode cs

end BlindMint.Utf8
