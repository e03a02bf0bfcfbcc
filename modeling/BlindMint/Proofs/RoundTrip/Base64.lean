import BlindMint.Base64

/-!
# Base64 gives the bytes back

Reading what was written in base64 gives the bytes back, in every dialect whose sixty-four characters are
read as the values that they were written for and do not include the filling.

## Results

* `Dialect.decode?_encode`: reading undoes writing.
* `Dialect.mem_encode`, `Dialect.dot_not_mem_encode`: which characters are written, and that no dot is in the
  dialect of tokens.
-/

namespace BlindMint.Base64.Dialect

/-- Every character is read as the value that it was written for, and the filling is none of them. -/
structure Invertible (d : Dialect) : Prop where
  value_symbol : ∀ v < 64, d.value? (d.symbol v) = some v
  value_filling : d.value? '=' = none

theorem urlSafe_invertible : urlSafe.Invertible := ⟨by decide, by decide⟩

theorem standard_invertible : standard.Invertible := ⟨by decide, by decide⟩

variable {d : Dialect}

theorem Invertible.symbol_ne_filling (h : d.Invertible) {v : Nat} (hv : v < 64) : d.symbol v ≠ '=' := by
  intro heq
  have hvalue := h.value_symbol v hv
  rw [heq, h.value_filling] at hvalue
  cases hvalue

/-! ## One group -/

theorem lastByte?_symbols (h : d.Invertible) (a : UInt8) :
    d.lastByte? (d.symbol (a.toNat * 16 / 64)) (d.symbol (a.toNat * 16 % 64)) = some [a] := by
  have ha := a.toNat_lt
  unfold lastByte?
  rw [h.value_symbol _ (by omega), h.value_symbol _ (by omega)]
  have hn : a.toNat * 16 / 64 * 64 + a.toNat * 16 % 64 = a.toNat * 16 := by omega
  simp [hn]

theorem lastTwoBytes?_symbols (h : d.Invertible) (a b : UInt8) :
    let n := (a.toNat * 256 + b.toNat) * 4
    d.lastTwoBytes? (d.symbol (n / 4096)) (d.symbol (n / 64 % 64)) (d.symbol (n % 64)) =
      some [a, b] := by
  intro n
  have ha := a.toNat_lt
  have hb := b.toNat_lt
  unfold lastTwoBytes?
  rw [h.value_symbol _ (by omega), h.value_symbol _ (by omega), h.value_symbol _ (by omega)]
  have hn : (n / 4096 * 64 + n / 64 % 64) * 64 + n % 64 = n := by omega
  have hfirst : UInt8.ofNat (n / 1024) = a := by
    rw [← UInt8.toNat_inj, UInt8.toNat_ofNat']
    omega
  have hsecond : UInt8.ofNat (n / 4) = b := by
    rw [← UInt8.toNat_inj, UInt8.toNat_ofNat']
    omega
  have hrest : n % 4 = 0 := by omega
  simp [hn, hrest, hfirst, hsecond]

theorem threeBytes?_symbols (h : d.Invertible) (a b c : UInt8) :
    let n := (a.toNat * 256 + b.toNat) * 256 + c.toNat
    d.threeBytes? (d.symbol (n / 262144)) (d.symbol (n / 4096 % 64)) (d.symbol (n / 64 % 64))
      (d.symbol (n % 64)) = some [a, b, c] := by
  intro n
  have ha := a.toNat_lt
  have hb := b.toNat_lt
  have hc := c.toNat_lt
  unfold threeBytes?
  rw [h.value_symbol _ (by omega), h.value_symbol _ (by omega), h.value_symbol _ (by omega),
    h.value_symbol _ (by omega)]
  have hn : ((n / 262144 * 64 + n / 4096 % 64) * 64 + n / 64 % 64) * 64 + n % 64 = n := by omega
  have hfirst : UInt8.ofNat (n / 65536) = a := by
    rw [← UInt8.toNat_inj, UInt8.toNat_ofNat']
    omega
  have hsecond : UInt8.ofNat (n / 256) = b := by
    rw [← UInt8.toNat_inj, UInt8.toNat_ofNat']
    omega
  have hthird : UInt8.ofNat n = c := by
    rw [← UInt8.toNat_inj, UInt8.toNat_ofNat']
    omega
  simp only [Option.bind_eq_bind, Option.bind_some, hn, hfirst, hsecond, hthird]

/-! ## All groups -/

/-- **Reading undoes writing.** -/
theorem decode?_encode (h : d.Invertible) (bytes : Octets) : d.decode? (d.encode bytes) = some bytes := by
  induction bytes using encode.induct with
  | case1 => rfl
  | case2 a =>
    have hgroup := lastByte?_symbols h a
    cases hpad : d.padded <;> simp [encode, filling, decode?, hpad, hgroup]
  | case3 a b =>
    have hgroup := lastTwoBytes?_symbols h a b
    have hlast := h.symbol_ne_filling (Nat.mod_lt ((a.toNat * 256 + b.toNat) * 4) (by decide : 0 < 64))
    cases hpad : d.padded <;> simp [encode, filling, decode?, hpad, hgroup, hlast]
  | case4 a b c rest ih =>
    have hgroup := threeBytes?_symbols h a b c
    have hlast := h.symbol_ne_filling
      (Nat.mod_lt ((a.toNat * 256 + b.toNat) * 256 + c.toNat) (by decide : 0 < 64))
    simp only [encode, decode?, hlast]
    simp [hgroup, ih]

/-- What is written are characters of values below sixty-four, and the filling in a dialect that has it. -/
theorem mem_encode {bytes : Octets} {c : Char} (hc : c ∈ d.encode bytes) :
    (∃ v < 64, c = d.symbol v) ∨ d.padded = true ∧ c = '=' := by
  have hfilling : ∀ n, c ∈ d.filling n → d.padded = true ∧ c = '=' := by
    intro n hn
    unfold filling at hn
    split at hn
    · next hpad => exact ⟨hpad, List.eq_of_mem_replicate hn⟩
    · cases hn
  induction bytes using encode.induct with
  | case1 => cases hc
  | case2 a =>
    have ha := a.toNat_lt
    simp only [encode, List.mem_append, List.mem_cons, List.not_mem_nil, or_false] at hc
    rcases hc with (rfl | rfl) | hc
    · exact .inl ⟨_, by omega, rfl⟩
    · exact .inl ⟨_, by omega, rfl⟩
    · exact .inr (hfilling 2 hc)
  | case3 a b =>
    have ha := a.toNat_lt
    have hb := b.toNat_lt
    simp only [encode, List.mem_append, List.mem_cons, List.not_mem_nil, or_false] at hc
    rcases hc with (rfl | rfl | rfl) | hc
    · exact .inl ⟨_, by omega, rfl⟩
    · exact .inl ⟨_, by omega, rfl⟩
    · exact .inl ⟨_, by omega, rfl⟩
    · exact .inr (hfilling 1 hc)
  | case4 a b c rest ih =>
    have ha := a.toNat_lt
    have hb := b.toNat_lt
    have hc' := c.toNat_lt
    simp only [encode, List.mem_cons] at hc
    rcases hc with rfl | rfl | rfl | rfl | hc
    · exact .inl ⟨_, by omega, rfl⟩
    · exact .inl ⟨_, by omega, rfl⟩
    · exact .inl ⟨_, by omega, rfl⟩
    · exact .inl ⟨_, by omega, rfl⟩
    · exact ih hc

/-- Text for names and tokens has no dots. -/
theorem dot_not_mem_encode (bytes : Octets) : '.' ∉ urlSafe.encode bytes := by
  intro hdot
  rcases mem_encode hdot with ⟨v, hv, heq⟩ | ⟨hpad, -⟩
  · have hall : ∀ v < 64, urlSafe.symbol v ≠ '.' := by decide
    exact hall v hv heq.symm
  · cases hpad

end BlindMint.Base64.Dialect
