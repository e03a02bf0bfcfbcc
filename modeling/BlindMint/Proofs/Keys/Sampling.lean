import BlindMint.Derivation
import Mathlib.Data.Nat.Find

/-!
# Derivation by rejection

The key of an interval is the first candidate that is a private scalar. The candidates are what the expander
writes for the salts of the attempts' numbers, all into one buffer, so that an expander that fills the whole
buffer answers as if it were given a new one each time. A derivation ends in one of three ways: with the first
candidate in range, with the expander's first failure, or after `maxAttempts` candidates out of range; it has
made as many calls as attempts, in order, and no two salts are the same.

## Results

* `Expander.hkdf_overwrites`: the standard expander fills the whole buffer.
* `Derivation.attempt_of_failed`, `Derivation.attempt_of_accepted`, `Derivation.attempt_of_rejected`: one attempt.
* `Derivation.derive_of_rejected`: where a derivation stands after some rejected candidates.
* **`Derivation.derive_eq_iff`**: what a derivation returns and which calls it makes.
* `Derivation.exists_derived_iff`, `Derivation.derive_exhausted_iff`: when there is a key, and when there is none.
* `Derivation.salt_inj`, `Derivation.eq_of_getElem?_eq`: no two attempts have the same input.
* **`Derivation.derive_sampled`**: all of this for an expander that fills the whole buffer.
-/

namespace BlindMint

/-! ## Candidates -/

/-- An expander that fills the whole buffer: neither what it writes nor whether it fails depends on what the
buffer held. Its answers may depend on how often it was asked. -/
structure Expander.Overwrites (expander : Expander) : Prop where
  length {calls : Nat} {ikm salt buffer bytes : Octets} :
    expander.expand calls ikm salt buffer = .ok bytes → bytes.length = buffer.length
  same {calls : Nat} {ikm salt buffer buffer' : Octets} : buffer.length = buffer'.length →
    expander.expand calls ikm salt buffer = expander.expand calls ikm salt buffer'

theorem Expander.hkdf_overwrites : Expander.hkdf.Overwrites := by
  constructor
  · intro calls ikm salt buffer bytes h
    by_cases hsize : buffer.length ≤ Hkdf.maxLength
    · obtain rfl : Hkdf.derive ikm salt buffer.length = bytes := by
        simpa [hkdf, Expander.bytes, Hkdf.derive?, hsize] using h
      exact Hkdf.length_derive ..
    · simp [hkdf, Expander.bytes, Hkdf.derive?, hsize] at h
  · intro calls ikm salt buffer buffer' h
    simp [hkdf, h]

/-- A candidate writes the number of a private scalar. -/
def Curve.InRange (curve : Curve) (candidate : Octets) : Prop :=
  1 ≤ candidate.toNat ∧ candidate.toNat ≤ curve.order - 1

instance (curve : Curve) (candidate : Octets) : Decidable (curve.InRange candidate) :=
  inferInstanceAs (Decidable (_ ∧ _))

theorem Curve.publicPoint?_of_inRange {curve : Curve} {candidate : Octets}
    (hlength : candidate.length = curve.keySize) (h : curve.InRange candidate) :
    curve.publicPoint? candidate = some (curve.point (curve.generatorMultiple candidate.toNat)) := by
  obtain ⟨hpos, hle⟩ := h
  have hscalar : curve.isScalar candidate = true := by
    simp [isScalar, hlength]
    omega
  simp [publicPoint?, hscalar]

theorem Curve.publicPoint?_of_not_inRange {curve : Curve} {candidate : Octets} (h : ¬curve.InRange candidate) :
    curve.publicPoint? candidate = none := by
  rw [← Option.not_isSome_iff_eq_none, publicPoint?_isSome_iff]
  rintro ⟨-, hpos, hlt⟩
  exact h ⟨hpos, by omega⟩

theorem Octets.ofNat_inj {size m n : Nat} (hm : m < Octets.capacity size) (hn : n < Octets.capacity size)
    (h : Octets.ofNat size m = Octets.ofNat size n) : m = n := by
  rw [← Octets.toNat_ofNat hm, h, Octets.toNat_ofNat hn]

namespace Derivation

variable (expander : Expander) (calls : Nat) (secret : MasterSecret) (interval : UInt64) (curve : Curve)

/-- What the expander answers to the attempt of a number with a buffer of the key size. -/
def answer (c : Nat) : Except KeyError Octets :=
  expander.expand (calls + c) secret.bytes (salt interval c) (List.replicate curve.keySize 0)

/-- The candidate of a number is out of range. -/
def Rejected (c : Nat) : Prop :=
  ∃ candidate, answer expander calls secret interval curve c = .ok candidate ∧ ¬curve.InRange candidate

/-- The calls of the first attempts. -/
def expansions (n : Nat) : List Expansion :=
  (List.range n).map fun c => ⟨secret.bytes, salt interval c⟩

/-- How a derivation ends: with what, and after how many attempts. -/
inductive Ends : Except KeyError DerivedKey → Nat → Prop
  /-- The candidate is in range. -/
  | accepted {c : Nat} {candidate : Octets} (hc : c < maxAttempts)
      (hearlier : ∀ j < c, Rejected expander calls secret interval curve j)
      (hanswer : answer expander calls secret interval curve c = .ok candidate)
      (hrange : curve.InRange candidate) :
      Ends (.ok ⟨candidate, curve.point (curve.generatorMultiple candidate.toNat)⟩) (c + 1)
  /-- The expander fails. -/
  | failed {c : Nat} {e : KeyError} (hc : c < maxAttempts)
      (hearlier : ∀ j < c, Rejected expander calls secret interval curve j)
      (hanswer : answer expander calls secret interval curve c = .error e) :
      Ends (.error e) (c + 1)
  /-- No candidate is in range. -/
  | exhausted (hall : ∀ j < maxAttempts, Rejected expander calls secret interval curve j) :
      Ends (.error (.keyGenerationExhausted interval maxAttempts)) maxAttempts

variable {expander calls secret interval curve} {remaining counter : Nat} {buffer candidate : Octets} {e : KeyError}
  {result : Except KeyError DerivedKey} {log : List Expansion}

theorem expansions_succ (n : Nat) :
    expansions secret interval (n + 1) = expansions secret interval n ++ [⟨secret.bytes, salt interval n⟩] := by
  simp [expansions, List.range_succ]

/-! ## One attempt -/

section Attempt

variable (h : expander.Overwrites) (hbuffer : buffer.length = curve.keySize)
include h hbuffer

/-- Whatever the buffer holds, the answer is the same. -/
theorem expand_eq_answer :
    expander.expand (calls + counter) secret.bytes (salt interval counter) buffer =
      answer expander calls secret interval curve counter :=
  h.same (by simp [hbuffer])

theorem attempt_of_failed (hanswer : answer expander calls secret interval curve counter = .error e) :
    attempt expander calls secret interval curve (remaining + 1) counter buffer =
      (.error e, [⟨secret.bytes, salt interval counter⟩]) := by
  have hexpand := (expand_eq_answer h hbuffer).trans hanswer
  simp [attempt, hexpand]

theorem attempt_of_accepted (hanswer : answer expander calls secret interval curve counter = .ok candidate)
    (hrange : curve.InRange candidate) :
    attempt expander calls secret interval curve (remaining + 1) counter buffer =
      (.ok ⟨candidate, curve.point (curve.generatorMultiple candidate.toNat)⟩,
        [⟨secret.bytes, salt interval counter⟩]) := by
  have hexpand := (expand_eq_answer h hbuffer).trans hanswer
  have hlength : candidate.length = curve.keySize := (h.length hexpand).trans hbuffer
  simp [attempt, hexpand, Curve.publicPoint?_of_inRange hlength hrange]

/-- After a rejected candidate the next attempt is made with the buffer that holds it. -/
theorem attempt_of_rejected (remaining : Nat)
    (hrejected : Rejected expander calls secret interval curve counter) :
    ∃ next : Octets, next.length = curve.keySize ∧
      attempt expander calls secret interval curve (remaining + 1) counter buffer =
        ((attempt expander calls secret interval curve remaining (counter + 1) next).1,
          ⟨secret.bytes, salt interval counter⟩ ::
            (attempt expander calls secret interval curve remaining (counter + 1) next).2) := by
  obtain ⟨candidate, hanswer, hrange⟩ := hrejected
  have hexpand := (expand_eq_answer h hbuffer).trans hanswer
  refine ⟨candidate, (h.length hexpand).trans hbuffer, ?_⟩
  simp [attempt, hexpand, Curve.publicPoint?_of_not_inRange hrange]

end Attempt

/-! ## A whole derivation -/

/-- Where a derivation stands after some rejected candidates: their calls have been made, and the rest is
attempted with a buffer of the same size. -/
theorem derive_of_rejected (h : expander.Overwrites) {n : Nat} (hn : n ≤ maxAttempts)
    (hrejected : ∀ j < n, Rejected expander calls secret interval curve j) :
    ∃ buffer : Octets, buffer.length = curve.keySize ∧
      derive expander calls secret interval curve =
        ((attempt expander calls secret interval curve (maxAttempts - n) n buffer).1,
          expansions secret interval n ++
            (attempt expander calls secret interval curve (maxAttempts - n) n buffer).2) := by
  induction n with
  | zero => exact ⟨List.replicate curve.keySize 0, by simp, rfl⟩
  | succ n ih =>
    obtain ⟨buffer, hbuffer, hderive⟩ := ih (by omega) fun j hj => hrejected j (by omega)
    obtain ⟨next, hnext, hattempt⟩ :=
      attempt_of_rejected h hbuffer (maxAttempts - (n + 1)) (hrejected n (by omega))
    have hremaining : maxAttempts - n = maxAttempts - (n + 1) + 1 := by omega
    refine ⟨next, hnext, ?_⟩
    rw [hderive, hremaining, hattempt, expansions_succ]
    simp

theorem derive_of_ends (h : expander.Overwrites) {n : Nat}
    (hends : Ends expander calls secret interval curve result n) :
    derive expander calls secret interval curve = (result, expansions secret interval n) := by
  cases hends with
  | accepted hc hearlier hanswer hrange =>
    obtain ⟨buffer, hbuffer, hderive⟩ := derive_of_rejected h (Nat.le_of_lt hc) hearlier
    rw [hderive, ← Nat.sub_add_cancel (Nat.sub_pos_of_lt hc), attempt_of_accepted h hbuffer hanswer hrange,
      expansions_succ]
  | failed hc hearlier hanswer =>
    obtain ⟨buffer, hbuffer, hderive⟩ := derive_of_rejected h (Nat.le_of_lt hc) hearlier
    rw [hderive, ← Nat.sub_add_cancel (Nat.sub_pos_of_lt hc), attempt_of_failed h hbuffer hanswer,
      expansions_succ]
  | exhausted hall =>
    obtain ⟨buffer, -, hderive⟩ := derive_of_rejected h le_rfl hall
    rw [hderive]
    simp [attempt]

theorem ends_of_not_rejected {c : Nat} (hc : c < maxAttempts)
    (hearlier : ∀ j < c, Rejected expander calls secret interval curve j)
    (hnot : ¬Rejected expander calls secret interval curve c) :
    ∃ result, Ends expander calls secret interval curve result (c + 1) := by
  cases hanswer : answer expander calls secret interval curve c with
  | error e => exact ⟨_, .failed hc hearlier hanswer⟩
  | ok candidate =>
    by_cases hrange : curve.InRange candidate
    · exact ⟨_, .accepted hc hearlier hanswer hrange⟩
    · exact absurd ⟨candidate, hanswer, hrange⟩ hnot

/-- Every derivation ends: at the first number whose candidate is not out of range, if there is one. -/
theorem exists_ends (expander : Expander) (calls : Nat) (secret : MasterSecret) (interval : UInt64)
    (curve : Curve) : ∃ result n, Ends expander calls secret interval curve result n := by
  by_cases hall : ∀ j < maxAttempts, Rejected expander calls secret interval curve j
  · exact ⟨_, _, .exhausted hall⟩
  · classical
    have hsome : ∃ c, c < maxAttempts ∧ ¬Rejected expander calls secret interval curve c := by
      simpa using hall
    obtain ⟨hc, hnot⟩ := Nat.find_spec hsome
    have hearlier : ∀ j < Nat.find hsome, Rejected expander calls secret interval curve j := by
      intro j hj
      have hmin := Nat.find_min hsome hj
      have hlt : j < maxAttempts := Nat.lt_trans hj hc
      simpa [hlt] using hmin
    obtain ⟨result, hends⟩ := ends_of_not_rejected hc hearlier hnot
    exact ⟨result, _, hends⟩

/-- **What a derivation returns and which calls it makes.** -/
theorem derive_eq_iff (h : expander.Overwrites) :
    derive expander calls secret interval curve = (result, log) ↔
      ∃ n, Ends expander calls secret interval curve result n ∧ log = expansions secret interval n := by
  constructor
  · intro hderive
    obtain ⟨result', n, hends⟩ := exists_ends expander calls secret interval curve
    obtain ⟨rfl, rfl⟩ := Prod.mk.inj ((derive_of_ends h hends).symm.trans hderive)
    exact ⟨n, hends, rfl⟩
  · rintro ⟨n, hends, rfl⟩
    exact derive_of_ends h hends

theorem derive_eq_ok_iff (h : expander.Overwrites) {key : DerivedKey} :
    derive expander calls secret interval curve = (.ok key, log) ↔
      ∃ c < maxAttempts, answer expander calls secret interval curve c = .ok key.scalar ∧
        curve.InRange key.scalar ∧ (∀ j < c, Rejected expander calls secret interval curve j) ∧
        key.point = curve.point (curve.generatorMultiple key.scalar.toNat) ∧
        log = expansions secret interval (c + 1) := by
  rw [derive_eq_iff h]
  constructor
  · rintro ⟨_, ⟨hc, hearlier, hanswer, hrange⟩ | _ | _, rfl⟩
    exact ⟨_, hc, hanswer, hrange, hearlier, rfl, rfl⟩
  · obtain ⟨scalar, point⟩ := key
    rintro ⟨c, hc, hanswer, hrange, hearlier, hpoint, rfl⟩
    dsimp only at hpoint hanswer hrange
    subst hpoint
    exact ⟨c + 1, .accepted hc hearlier hanswer hrange, rfl⟩

theorem derive_eq_error_iff (h : expander.Overwrites) :
    derive expander calls secret interval curve = (.error e, log) ↔
      (∃ c < maxAttempts, answer expander calls secret interval curve c = .error e ∧
        (∀ j < c, Rejected expander calls secret interval curve j) ∧ log = expansions secret interval (c + 1)) ∨
      (∀ j < maxAttempts, Rejected expander calls secret interval curve j) ∧
        e = .keyGenerationExhausted interval maxAttempts ∧ log = expansions secret interval maxAttempts := by
  rw [derive_eq_iff h]
  constructor
  · rintro ⟨_, _ | ⟨hc, hearlier, hanswer⟩ | ⟨hall⟩, hlog⟩
    · exact .inl ⟨_, hc, hanswer, hearlier, hlog⟩
    · exact .inr ⟨hall, rfl, hlog⟩
  · rintro (⟨c, hc, hanswer, hearlier, hlog⟩ | ⟨hall, rfl, hlog⟩)
    · exact ⟨c + 1, .failed hc hearlier hanswer, hlog⟩
    · exact ⟨maxAttempts, .exhausted hall, hlog⟩

/-- The calls that go with a result. -/
theorem exists_derive_eq (h : (derive expander calls secret interval curve).1 = result) :
    ∃ log, derive expander calls secret interval curve = (result, log) := by
  subst h
  exact ⟨_, rfl⟩

/-- A key is derived just if some candidate is in range and all earlier ones are out of range. -/
theorem exists_derived_iff (h : expander.Overwrites) :
    (∃ key, (derive expander calls secret interval curve).1 = .ok key) ↔
      ∃ c < maxAttempts,
        (∃ candidate, answer expander calls secret interval curve c = .ok candidate ∧ curve.InRange candidate) ∧
        ∀ j < c, Rejected expander calls secret interval curve j := by
  constructor
  · rintro ⟨key, hkey⟩
    obtain ⟨log, hderive⟩ := exists_derive_eq hkey
    obtain ⟨c, hc, hanswer, hrange, hearlier, -⟩ := (derive_eq_ok_iff h).mp hderive
    exact ⟨c, hc, ⟨key.scalar, hanswer, hrange⟩, hearlier⟩
  · rintro ⟨c, hc, ⟨candidate, hanswer, hrange⟩, hearlier⟩
    exact ⟨_, congrArg Prod.fst (derive_of_ends h (.accepted hc hearlier hanswer hrange))⟩

/-- If the expander never fails with that very error, then a derivation gives up just if all candidates are out of
range. -/
theorem derive_exhausted_iff (h : expander.Overwrites)
    (hother : ∀ c, answer expander calls secret interval curve c ≠
      .error (.keyGenerationExhausted interval maxAttempts)) :
    (derive expander calls secret interval curve).1 = .error (.keyGenerationExhausted interval maxAttempts) ↔
      ∀ j < maxAttempts, Rejected expander calls secret interval curve j := by
  constructor
  · intro he
    obtain ⟨log, hderive⟩ := exists_derive_eq he
    rcases (derive_eq_error_iff h).mp hderive with ⟨c, -, hanswer, -⟩ | ⟨hall, -⟩
    · exact absurd hanswer (hother c)
    · exact hall
  · intro hall
    exact congrArg Prod.fst (derive_of_ends h (.exhausted hall))

/-- Whatever the expander does, a derived key has the sizes of its curve. -/
theorem length_of_derive {key : DerivedKey} (h : (derive expander calls secret interval curve).1 = .ok key) :
    key.scalar.length = curve.keySize ∧ key.point.x.length = curve.keySize ∧
      key.point.y.length = curve.keySize := by
  obtain ⟨log, hderive⟩ := exists_derive_eq h
  have hpoint := derive_ok_isScalar hderive
  have hscalar := (curve.publicPoint?_isSome_iff key.scalar).mp (by simp [hpoint])
  exact ⟨hscalar.1, Curve.length_of_publicPoint? hpoint⟩

/-! ## The inputs of the calls -/

/-- A salt tells the interval and the attempt's number. -/
theorem salt_inj {i i' : UInt64} {c c' : Nat} (hc : c < UInt32.size) (hc' : c' < UInt32.size) :
    salt i c = salt i' c' ↔ i = i' ∧ c = c' := by
  constructor
  · intro h
    obtain ⟨hinterval, hcounter⟩ := List.append_inj h (by simp)
    constructor
    · exact UInt64.toNat_inj.mp (@Octets.ofNat_inj 8 _ _ i.toNat_lt i'.toNat_lt hinterval)
    · exact @Octets.ofNat_inj 4 _ _ hc hc' hcounter
  · rintro ⟨rfl, rfl⟩
    rfl

/-- Whatever the expander does, the calls from a number on have the salts of consecutive numbers. -/
theorem attempt_snd (expander : Expander) (calls : Nat) (secret : MasterSecret) (interval : UInt64)
    (curve : Curve) (remaining counter : Nat) (buffer : Octets) :
    ∃ n ≤ remaining, (attempt expander calls secret interval curve remaining counter buffer).2 =
      (List.range' counter n).map fun c => ⟨secret.bytes, salt interval c⟩ := by
  induction remaining generalizing counter buffer with
  | zero => exact ⟨0, le_rfl, rfl⟩
  | succ remaining ih =>
    cases hexpand : expander.expand (calls + counter) secret.bytes (salt interval counter) buffer with
    | error e => exact ⟨1, by omega, by simp [attempt, hexpand]⟩
    | ok candidate =>
      cases hpoint : curve.publicPoint? candidate with
      | some point => exact ⟨1, by omega, by simp [attempt, hexpand, hpoint]⟩
      | none =>
        obtain ⟨n, hn, hlog⟩ := ih (counter + 1) candidate
        exact ⟨n + 1, by omega, by simp [attempt, hexpand, hpoint, hlog, List.range'_succ]⟩

theorem derive_snd (expander : Expander) (calls : Nat) (secret : MasterSecret) (interval : UInt64)
    (curve : Curve) :
    ∃ n ≤ maxAttempts, (derive expander calls secret interval curve).2 = expansions secret interval n := by
  obtain ⟨n, hn, hlog⟩ := attempt_snd expander calls secret interval curve maxAttempts 0
    (List.replicate curve.keySize 0)
  exact ⟨n, hn, by rw [derive, hlog, expansions, List.range_eq_range']⟩

/-- The call at a place of a derivation has the salt of that number, which is below the bound. -/
theorem salt_of_getElem? {c : Nat} {expansion : Expansion}
    (h : (derive expander calls secret interval curve).2[c]? = some expansion) :
    c < maxAttempts ∧ expansion.salt = salt interval c := by
  obtain ⟨n, hn, hlog⟩ := derive_snd expander calls secret interval curve
  rw [hlog, expansions, List.getElem?_map, Option.map_eq_some_iff] at h
  obtain ⟨j, hj, rfl⟩ := h
  obtain ⟨hlt, rfl⟩ : c < n ∧ c = j := by simpa [List.getElem?_eq_some_iff] using hj
  exact ⟨Nat.lt_of_lt_of_le hlt hn, rfl⟩

/-- **No two attempts have the same input**, of whatever derivations they are. -/
theorem eq_of_getElem?_eq {expander' : Expander} {calls' : Nat} {secret' : MasterSecret} {interval' : UInt64}
    {curve' : Curve} {c c' : Nat} {expansion : Expansion}
    (h : (derive expander calls secret interval curve).2[c]? = some expansion)
    (h' : (derive expander' calls' secret' interval' curve').2[c']? = some expansion) :
    interval = interval' ∧ c = c' := by
  obtain ⟨hc, hsalt⟩ := salt_of_getElem? h
  obtain ⟨hc', hsalt'⟩ := salt_of_getElem? h'
  have hmax : maxAttempts < UInt32.size := by decide
  exact (salt_inj (by omega) (by omega)).mp (hsalt.symm.trans hsalt')

/-! ## The whole statement -/

/-- What is known of a derivation by an expander that fills the whole buffer. -/
structure Sampled (expander : Expander) (calls : Nat) (secret : MasterSecret) (interval : UInt64) (curve : Curve) :
    Prop where
  /-- A key is derived just if some candidate is in range and all earlier ones are out of range. -/
  derives : (∃ key, (derive expander calls secret interval curve).1 = .ok key) ↔
    ∃ c < maxAttempts,
      (∃ candidate, answer expander calls secret interval curve c = .ok candidate ∧ curve.InRange candidate) ∧
      ∀ j < c, Rejected expander calls secret interval curve j
  /-- The scalar is that candidate and the point its public point, and the calls up to it have been made. -/
  derived : ∀ key log, derive expander calls secret interval curve = (.ok key, log) ↔
    ∃ c < maxAttempts, answer expander calls secret interval curve c = .ok key.scalar ∧
      curve.InRange key.scalar ∧ (∀ j < c, Rejected expander calls secret interval curve j) ∧
      key.point = curve.point (curve.generatorMultiple key.scalar.toNat) ∧
      log = expansions secret interval (c + 1)
  /-- The scalar and both coordinates have the key size. -/
  sizes : ∀ key, (derive expander calls secret interval curve).1 = .ok key →
    key.scalar.length = curve.keySize ∧ key.point.x.length = curve.keySize ∧ key.point.y.length = curve.keySize
  /-- An error is the expander's first failure, with no further call, or that no candidate is in range. -/
  failed : ∀ e log, derive expander calls secret interval curve = (.error e, log) ↔
    (∃ c < maxAttempts, answer expander calls secret interval curve c = .error e ∧
      (∀ j < c, Rejected expander calls secret interval curve j) ∧ log = expansions secret interval (c + 1)) ∨
    (∀ j < maxAttempts, Rejected expander calls secret interval curve j) ∧
      e = .keyGenerationExhausted interval maxAttempts ∧ log = expansions secret interval maxAttempts
  /-- The derivation gives up just if all candidates are out of range, unless the expander itself fails with
  that very error, which is then returned like any other failure of the expander. -/
  exhausted : (∀ c, answer expander calls secret interval curve c ≠
      .error (.keyGenerationExhausted interval maxAttempts)) →
    ((derive expander calls secret interval curve).1 = .error (.keyGenerationExhausted interval maxAttempts) ↔
      ∀ j < maxAttempts, Rejected expander calls secret interval curve j)
  /-- No attempt has the input of another one, whatever expander, secret and curve that one is for. -/
  inputs : ∀ (expander' : Expander) (calls' : Nat) (secret' : MasterSecret) (interval' : UInt64) (curve' : Curve)
      (c c' : Nat) (expansion : Expansion),
    (derive expander calls secret interval curve).2[c]? = some expansion →
      (derive expander' calls' secret' interval' curve').2[c']? = some expansion →
        interval = interval' ∧ c = c'

/-- **Derivation by rejection**, for an expander that fills the whole buffer. -/
theorem derive_sampled (h : expander.Overwrites) (calls : Nat) (secret : MasterSecret) (interval : UInt64)
    (curve : Curve) :
    Sampled expander calls secret interval curve ∧
      ∀ (i i' : UInt64) (c c' : Nat), c < UInt32.size → c' < UInt32.size →
        (salt i c = salt i' c' ↔ i = i' ∧ c = c') := by
  refine ⟨?_, fun i i' c c' hc hc' => salt_inj hc hc'⟩
  constructor
  case derives => exact exists_derived_iff h
  case derived => exact fun key log => derive_eq_ok_iff h
  case sizes => exact fun key hkey => length_of_derive hkey
  case failed => exact fun e log => derive_eq_error_iff h
  case exhausted => exact fun hother => derive_exhausted_iff h hother
  case inputs =>
    intro expander' calls' secret' interval' curve' c c' expansion hcall hcall'
    exact eq_of_getElem?_eq hcall hcall'

namespace Sample

def master : MasterSecret := ⟨[7]⟩

/-- An expander that fills the buffer with one byte for each call, or fails. -/
def scripted (script : Nat → Except KeyError UInt8) : Expander where
  expand calls _ _ buffer := (script calls).map (List.replicate buffer.length)

theorem scripted_overwrites (script : Nat → Except KeyError UInt8) : (scripted script).Overwrites := by
  constructor
  · intro calls ikm salt buffer bytes h
    cases hbyte : script calls with
    | error e => simp [scripted, hbyte, Except.map] at h
    | ok byte =>
      obtain rfl : List.replicate buffer.length byte = bytes := by simpa [scripted, hbyte, Except.map] using h
      simp
  · intro calls ikm salt buffer buffer' h
    simp [scripted, h]

/-- Zero and the greatest number are out of range, and the third candidate is not. -/
def third (c : Nat) : Except KeyError UInt8 := .ok ([0x00, 0xff].getD c 0x11)

/-- The same with a failure in place of the third candidate. -/
def failing (c : Nat) : Except KeyError UInt8 := if c = 2 then .error (.derivationTooLong 0) else third c

/-- Only zeros. -/
def zeros (_ : Nat) : Except KeyError UInt8 := .ok 0

theorem answer_scripted (script : Nat → Except KeyError UInt8) (c : Nat) :
    answer (scripted script) 0 master 9 .p256 c = (script c).map (List.replicate 32) := by
  simp [answer, scripted, Curve.keySize, Curve.orderBits]

theorem rejected_of_script {script : Nat → Except KeyError UInt8} {c : Nat} {byte : UInt8}
    (h : script c = .ok byte) (hrange : ¬Curve.p256.InRange (List.replicate 32 byte)) :
    Rejected (scripted script) 0 master 9 .p256 c :=
  ⟨List.replicate 32 byte, by rw [answer_scripted, h]; rfl, hrange⟩

end Sample

/-- Three derivations: with a third candidate in range, with a failure in its place, and without an end. -/
theorem derive_sampled_scripted :
    (∃ point, derive (Sample.scripted Sample.third) 0 Sample.master 9 .p256 =
      (.ok ⟨List.replicate 32 0x11, point⟩, expansions Sample.master 9 3)) ∧
    derive (Sample.scripted Sample.failing) 0 Sample.master 9 .p256 =
      (.error (.derivationTooLong 0), expansions Sample.master 9 3) ∧
    (derive (Sample.scripted Sample.zeros) 0 Sample.master 9 .p256).1 = .error (.keyGenerationExhausted 9 1000) := by
  have hlow : ¬Curve.p256.InRange (List.replicate 32 0x00) := by decide +kernel
  have hin : Curve.p256.InRange (List.replicate 32 0x11) := by decide +kernel
  have hhigh : ¬Curve.p256.InRange (List.replicate 32 0xff) := by decide +kernel
  obtain ⟨hthird, -⟩ :=
    derive_sampled (Sample.scripted_overwrites Sample.third) 0 Sample.master 9 .p256
  obtain ⟨hfailing, -⟩ :=
    derive_sampled (Sample.scripted_overwrites Sample.failing) 0 Sample.master 9 .p256
  obtain ⟨hzeros, -⟩ :=
    derive_sampled (Sample.scripted_overwrites Sample.zeros) 0 Sample.master 9 .p256
  refine ⟨⟨Curve.p256.point (Curve.p256.generatorMultiple (Octets.toNat (List.replicate 32 0x11))),
      (hthird.derived _ _).mpr ⟨2, by decide, ?_, hin, fun j hj => ?_, rfl, rfl⟩⟩,
    (hfailing.failed _ _).mpr (.inl ⟨2, by decide, ?_, fun j hj => ?_, rfl⟩), (hzeros.exhausted ?_).mpr ?_⟩
  · rw [Sample.answer_scripted]
    rfl
  · match j with
    | 0 => exact Sample.rejected_of_script rfl hlow
    | 1 => exact Sample.rejected_of_script rfl hhigh
  · rw [Sample.answer_scripted]
    rfl
  · match j with
    | 0 => exact Sample.rejected_of_script rfl hlow
    | 1 => exact Sample.rejected_of_script rfl hhigh
  · intro c
    rw [Sample.answer_scripted]
    simp [Sample.zeros, Except.map]
  · exact fun j _ => Sample.rejected_of_script rfl hlow

end Derivation

end BlindMint
