import BlindMint.Proofs.Credentials.Collection
import Mathlib.Data.List.Nodup

/-!
# What a thumbprint identifies

A key is known by the digest of its public half: of its point, or of its modulus and its exponent written one after
the other. A point begins with a byte of its own and has one length for each curve, so of two curve keys the bytes
tell which is which. Between modulus and exponent there is nothing, and no mark says which kind of key the bytes are
of, so other keys can have the same bytes: a key whose exponent has given its first bytes to the modulus, and a short
modulus that begins as a point does. These are all (`CertificateKey.Confusable`).

Of keys that are collected from certificates one is left out only for an earlier one with its thumbprint; so that one
is of the same public half, can be confused with it, or the two are a collision of the digest.

## Results

* `CertificateKey.publicBytes?_eq_iff`: which keys have the same bytes.
* `CertificateKey.Confusable.not_of_framed`: long moduli with exponents of one length are never confused.
* `Folder.wellSized_of_versions`: points that are read from files have the length of their curve.
* **`collectKeys_identified`**: which keys are left out for another one's sake.
* `CertificateKey.not_identified`: keys with the same bytes that are not the same.
-/

namespace BlindMint

open Octets (minimal)

/-! ## Bytes -/

theorem Curve.keySize_inj {a b : Curve} (h : a.keySize = b.keySize) : a = b := by
  cases a <;> cases b <;> first | rfl | exact absurd h (by decide)

theorem Curve.keySize_le (curve : Curve) : curve.keySize ≤ 48 := by
  cases curve <;> decide

namespace CertificateKey

/-- Two keys of different public halves that are written with the same bytes. -/
inductive Confusable : CertificateKey → CertificateKey → Prop
  /-- The first bytes of one exponent stand at the end of the other modulus. -/
  | shifted {a b : RsaKey} {moved : Octets} (hmoved : moved ≠ [])
      (hmodulus : minimal b.pub.n = minimal a.pub.n ++ moved)
      (hexponent : minimal a.pub.e = moved ++ minimal b.pub.e) : Confusable (.rsa a) (.rsa b)
  /-- A modulus and an exponent look like a point. -/
  | posing {a : CurveKey} {b : RsaKey} (hpoint : a.point.uncompressed = minimal b.pub.n ++ minimal b.pub.e) :
      Confusable (.curve a) (.rsa b)

/-- Two keys whose public halves are written with different bytes of one digest. -/
def Collide (a b : CertificateKey) : Prop :=
  ∃ bytes bytes', a.publicBytes? = some bytes ∧ b.publicBytes? = some bytes' ∧ bytes ≠ bytes' ∧
    Sha2.sha256 bytes = Sha2.sha256 bytes'

/-- Curve keys, and RSA keys with a modulus that no point is as long as and an exponent of a given length. -/
def Framed (size : Nat) : CertificateKey → Prop
  | .rsa key => 96 < key.pub.size ∧ (minimal key.pub.e).length = size
  | .curve _ => True
  | .unsupported _ => True

variable {a b : CertificateKey} {bytes : Octets}

theorem thumbprint_of_publicBytes? (h : a.publicBytes? = some bytes) :
    a.thumbprint = .ok (Sha2.sha256 bytes).toHex := by
  cases a with
  | curve key => exact Option.some.inj h ▸ rfl
  | rsa key => exact Option.some.inj h ▸ rfl
  | unsupported algorithm => cases h

theorem exists_publicBytes? (h : a.IsSupported) : ∃ bytes, a.publicBytes? = some bytes := by
  cases a with
  | curve key => exact ⟨_, rfl⟩
  | rsa key => exact ⟨_, rfl⟩
  | unsupported algorithm => exact absurd rfl (h algorithm)

theorem isSupported_of_publicKey? {key : PublicKey} (h : publicKey? a = some key) : a.IsSupported := by
  rintro algorithm rfl
  cases h

theorem publicBytes?_congr (h : publicKey? a = publicKey? b) : a.publicBytes? = b.publicBytes? := by
  cases a <;> cases b <;> simp_all [publicKey?, publicBytes?]

theorem Confusable.publicBytes?_eq (h : Confusable a b) : a.publicBytes? = b.publicBytes? := by
  cases h with
  | shifted hmoved hmodulus hexponent =>
    rw [publicBytes?, publicBytes?, hmodulus, hexponent, List.append_assoc]
  | posing hpoint => exact congrArg some hpoint

theorem Confusable.publicKey?_ne (h : Confusable a b) : publicKey? a ≠ publicKey? b := by
  cases h with
  | shifted hmoved hmodulus hexponent =>
    intro heq
    rw [PublicKey.rsa.inj (Option.some.inj heq)] at hmodulus
    exact hmoved (List.self_eq_append_right.mp hmodulus)
  | posing hpoint => simp [publicKey?]

theorem length_uncompressed {key : CurveKey} (h : (curve key).WellSized) :
    key.point.uncompressed.length = 2 * key.curve.keySize + 1 := by
  simp only [Point.uncompressed, List.length_cons, List.length_append, h.1, h.2]
  omega

/-- Points of the right size are told apart by their bytes, and so are their curves. -/
theorem curve_eq_of_uncompressed {a b : CurveKey} (ha : (curve a).WellSized) (hb : (curve b).WellSized)
    (h : a.point.uncompressed = b.point.uncompressed) : publicKey? (curve a) = publicKey? (curve b) := by
  have hsize : a.curve.keySize = b.curve.keySize := by
    have hlength := congrArg List.length h
    rw [length_uncompressed ha, length_uncompressed hb] at hlength
    omega
  obtain ⟨hx, hy⟩ := List.append_inj (List.cons.inj h).2 (by rw [ha.1, hb.1, hsize])
  have hpoint : a.point = b.point := by
    cases hap : a.point
    cases hbp : b.point
    simp_all
  simp only [publicKey?, Curve.keySize_inj hsize, hpoint]

theorem eq_or_confusable_of_moved {a b : RsaKey} {moved : Octets}
    (hmodulus : minimal b.pub.n = minimal a.pub.n ++ moved)
    (hexponent : minimal a.pub.e = moved ++ minimal b.pub.e) :
    publicKey? (rsa a) = publicKey? (rsa b) ∨ Confusable (rsa a) (rsa b) := by
  by_cases hmoved : moved = []
  · subst hmoved
    rw [List.append_nil] at hmodulus
    have hn : a.pub.n = b.pub.n := Octets.minimal_inj hmodulus.symm
    have he : a.pub.e = b.pub.e := Octets.minimal_inj hexponent
    have hpub : a.pub = b.pub := by
      rw [show a.pub = ⟨a.pub.n, a.pub.e⟩ from rfl, hn, he]
    exact .inl (congrArg (fun pub => some (PublicKey.rsa pub)) hpub)
  · exact .inr (.shifted hmoved hmodulus hexponent)

/-- **The bytes tell keys apart** except for those that can be confused. -/
theorem publicBytes?_eq_iff (ha : a.WellSized) (hb : b.WellSized) (has : a.IsSupported) (hbs : b.IsSupported) :
    a.publicBytes? = b.publicBytes? ↔ publicKey? a = publicKey? b ∨ Confusable a b ∨ Confusable b a := by
  constructor
  · intro h
    cases a with
    | unsupported algorithm => exact absurd rfl (has algorithm)
    | curve a =>
      cases b with
      | unsupported algorithm => exact absurd rfl (hbs algorithm)
      | curve b => exact .inl (curve_eq_of_uncompressed ha hb (Option.some.inj h))
      | rsa b => exact .inr (.inl (.posing (Option.some.inj h)))
    | rsa a =>
      cases b with
      | unsupported algorithm => exact absurd rfl (hbs algorithm)
      | curve b => exact .inr (.inr (.posing (Option.some.inj h).symm))
      | rsa b =>
        -- Both are a modulus and an exponent, so one modulus begins with the other.
        obtain ⟨moved, hmodulus, hexponent⟩ | ⟨moved, hmodulus, hexponent⟩ :=
          List.append_eq_append_iff.mp (Option.some.inj h)
        · exact (eq_or_confusable_of_moved hmodulus hexponent).imp_right .inl
        · exact (eq_or_confusable_of_moved hmodulus hexponent).imp Eq.symm .inr
  · rintro (h | h | h)
    · exact publicBytes?_congr h
    · exact h.publicBytes?_eq
    · exact h.publicBytes?_eq.symm

/-- **Long moduli with exponents of one length** are not confused, with one another or with points. -/
theorem Confusable.not_of_framed {size : Nat} (ha : a.WellSized) (hfa : a.Framed size) (hfb : b.Framed size) :
    ¬Confusable a b := by
  intro h
  cases h with
  | shifted hmoved hmodulus hexponent =>
    have hlength := congrArg List.length hexponent
    rw [List.length_append, hfa.2, hfb.2] at hlength
    have hpos := List.length_pos_of_ne_nil hmoved
    omega
  | @posing key rsa hpoint =>
    have hlength := congrArg List.length hpoint
    rw [length_uncompressed ha, List.length_append] at hlength
    have hlong : 96 < (minimal rsa.pub.n).length := hfb.1
    have hexponent : 0 < (minimal rsa.pub.e).length := by simp [minimal]
    have hsize := key.curve.keySize_le
    omega

/-- One thumbprint is one key, or two that are confused, or a collision. -/
theorem eq_or_confusable_or_collide (ha : a.WellSized) (hb : b.WellSized) (has : a.IsSupported)
    (hbs : b.IsSupported) (h : a.thumbprint = b.thumbprint) :
    publicKey? a = publicKey? b ∨ Confusable a b ∨ Confusable b a ∨ Collide a b := by
  obtain ⟨bytes, hbytes⟩ := exists_publicBytes? has
  obtain ⟨bytes', hbytes'⟩ := exists_publicBytes? hbs
  by_cases heq : bytes = bytes'
  · have hsame : a.publicBytes? = b.publicBytes? := by rw [hbytes, hbytes', heq]
    obtain h | h | h := (publicBytes?_eq_iff ha hb has hbs).mp hsame
    · exact .inl h
    · exact .inr (.inl h)
    · exact .inr (.inr (.inl h))
  · rw [thumbprint_of_publicBytes? hbytes, thumbprint_of_publicBytes? hbytes', Except.ok.injEq] at h
    exact .inr (.inr (.inr ⟨bytes, bytes', hbytes, hbytes', heq, Octets.toHex_inj h⟩))

end CertificateKey

/-- The keys of a folder's versions are read from texts. -/
theorem Folder.exists_ofPem_of_versions {folder : Folder} {id : String} {versions : List CertificateVersion}
    (h : folder.versions id = .ok versions) : ∀ v ∈ versions, ∃ text, CertificateKey.ofPem text = .ok v.key := by
  intro v hv
  obtain ⟨-, name, node, -, -, hread⟩ := (Folder.mem_versions_iff h).mp hv
  unfold readVersion at hread
  split at hread
  · cases hread
  · split at hread
    · cases hread
    · next chars _ =>
      obtain ⟨key, hkey, -⟩ := CertificateKey.exists_ofPem (String.ofList chars)
      rw [hkey] at hread
      have hsame : key = v.key := congrArg CertificateVersion.key (Except.ok.inj hread)
      exact ⟨String.ofList chars, hsame ▸ hkey⟩

/-- The points of keys that are read from files have the length of their curve. -/
theorem Folder.wellSized_of_versions {folder : Folder} {id : String} {versions : List CertificateVersion}
    (h : folder.versions id = .ok versions) : ∀ v ∈ versions, v.key.WellSized := by
  intro v hv
  obtain ⟨text, htext⟩ := Folder.exists_ofPem_of_versions h v hv
  obtain ⟨key, hkey, hsized⟩ := CertificateKey.exists_ofPem text
  obtain rfl : v.key = key := Except.ok.inj (htext.symm.trans hkey)
  exact hsized

/-! ## Collecting -/

open CertificateKey (Confusable Collide Framed)

/-- What the thumbprints of versions identify. -/
structure Identified (versions : List CertificateVersion) : Prop where
  /-- The bytes of two keys are the same just if the public halves are, or can be confused. -/
  bytes : ∀ u ∈ versions, ∀ v ∈ versions, u.key.IsSupported → v.key.IsSupported →
    (u.key.publicBytes? = v.key.publicBytes? ↔
      publicKey? u.key = publicKey? v.key ∨ Confusable u.key v.key ∨ Confusable v.key u.key)
  /-- A version's key is collected, under its thumbprint, unless the first version with this thumbprint has another
  one. Then the two can be confused, or are a collision. -/
  kept : ∀ v ∈ versions, ∀ key, publicKey? v.key = some key →
    (∃ k ∈ collectKeys versions, k.key = key ∧ v.key.thumbprint = .ok k.kid) ∨
      ∃ u, versions.find? (fun u => u.key.thumbprint = v.key.thumbprint) = some u ∧
        (Confusable u.key v.key ∨ Confusable v.key u.key ∨ Collide u.key v.key)
  /-- Of two versions whose keys can be confused one key is not collected. -/
  dropped : ∀ u ∈ versions, ∀ v ∈ versions, Confusable u.key v.key →
    ¬((∃ k ∈ collectKeys versions, publicKey? u.key = some k.key) ∧
      ∃ k ∈ collectKeys versions, publicKey? v.key = some k.key)
  /-- Where moduli are long and exponents of one length no keys can be confused. -/
  framed : ∀ size, (∀ v ∈ versions, v.key.Framed size) →
    ∀ u ∈ versions, ∀ v ∈ versions, ¬Confusable u.key v.key

variable {versions : List CertificateVersion} {v : CertificateVersion}

theorem thumbprint_of_mem_collectKeys {k : CredentialKey} (hk : k ∈ collectKeys versions) {key : CertificateKey}
    (h : publicKey? key = some k.key) : key.thumbprint = .ok k.kid := by
  obtain ⟨v, -, hv⟩ := exists_of_mem_collectKeys hk
  obtain ⟨hkid, hpublic⟩ := CredentialKey.of_ofVersion? hv
  obtain ⟨bytes, hbytes⟩ := CertificateKey.exists_publicBytes? (CertificateKey.isSupported_of_publicKey? h)
  have hsame : v.key.publicBytes? = some bytes := by
    rw [CertificateKey.publicBytes?_congr (hpublic.trans h.symm), hbytes]
  rw [CertificateKey.thumbprint_of_publicBytes? hbytes, ← CertificateKey.thumbprint_of_publicBytes? hsame, hkid]

theorem kept_or_confused (hsized : ∀ v ∈ versions, v.key.WellSized) (hv : v ∈ versions) {key : PublicKey}
    (hkey : publicKey? v.key = some key) :
    (∃ k ∈ collectKeys versions, k.key = key ∧ v.key.thumbprint = .ok k.kid) ∨
      ∃ u, versions.find? (fun u => u.key.thumbprint = v.key.thumbprint) = some u ∧
        (Confusable u.key v.key ∨ Confusable v.key u.key ∨ Collide u.key v.key) := by
  have hsupported := CertificateKey.isSupported_of_publicKey? hkey
  obtain ⟨bytes, hbytes⟩ := CertificateKey.exists_publicBytes? hsupported
  obtain ⟨k, hk, hkid⟩ := exists_mem_collectKeys hv (CertificateKey.thumbprint_of_publicBytes? hbytes)
  have hthumbprint : v.key.thumbprint = .ok k.kid := by
    rw [hkid, CertificateKey.thumbprint_of_publicBytes? hbytes]
  obtain ⟨u, hfind, hu⟩ := find?_of_mem_collectKeys hk
  obtain ⟨hukid, hukey⟩ := CredentialKey.of_ofVersion? hu
  rw [← hthumbprint] at hfind hukid
  obtain hsame | hconfused := CertificateKey.eq_or_confusable_or_collide
    (hsized u (List.mem_of_find?_eq_some hfind)) (hsized v hv) (CertificateKey.isSupported_of_publicKey? hukey)
    hsupported hukid
  · rw [hukey, hkey] at hsame
    exact .inl ⟨k, hk, Option.some.inj hsame, hthumbprint⟩
  · exact .inr ⟨u, hfind, hconfused⟩

theorem not_both_collected {u v : CertificateVersion} (h : Confusable u.key v.key) :
    ¬((∃ k ∈ collectKeys versions, publicKey? u.key = some k.key) ∧
      ∃ k ∈ collectKeys versions, publicKey? v.key = some k.key) := by
  rintro ⟨⟨k, hk, hu⟩, k', hk', hv⟩
  obtain ⟨bytes, hbytes⟩ := CertificateKey.exists_publicBytes? (CertificateKey.isSupported_of_publicKey? hu)
  have hbytes' : v.key.publicBytes? = some bytes := h.publicBytes?_eq ▸ hbytes
  have hsame : u.key.thumbprint = v.key.thumbprint := by
    rw [CertificateKey.thumbprint_of_publicBytes? hbytes, CertificateKey.thumbprint_of_publicBytes? hbytes']
  rw [thumbprint_of_mem_collectKeys hk hu, thumbprint_of_mem_collectKeys hk' hv] at hsame
  have hkid : k.kid = k'.kid := Except.ok.inj hsame
  obtain rfl := List.inj_on_of_nodup_map (collectKeys_nodup versions) hk hk' hkid
  exact h.publicKey?_ne (hu.trans hv.symm)

/-- **Which keys are collected**, of any versions whose points have the length of their curve: the key of each of
them, except for those that the bytes or their digest confuse with an earlier one. -/
theorem collectKeys_identified (versions : List CertificateVersion) (hsized : ∀ v ∈ versions, v.key.WellSized) :
    Identified versions where
  bytes u hu v hv := CertificateKey.publicBytes?_eq_iff (hsized u hu) (hsized v hv)
  kept _ hv _ hkey := kept_or_confused hsized hv hkey
  dropped _ _ _ _ h := not_both_collected h
  framed _ hframed u hu v hv :=
    CertificateKey.Confusable.not_of_framed (hsized u hu) (hframed u hu) (hframed v hv)

namespace CertificateKey

namespace Sample

/-- A key whose exponent has three bytes. -/
def long : CertificateKey :=
  .rsa ⟨⟨0xc1c3c5c7, 0x010101⟩, none⟩

/-- A key with the same bytes, the first one of that exponent in its modulus. -/
def short : CertificateKey :=
  .rsa ⟨⟨0xc1c3c5c701, 0x0101⟩, none⟩

/-- A point with coordinates of bytes 1. -/
def point : CertificateKey :=
  .curve ⟨.p256, none, List.replicate 32 1, List.replicate 32 1⟩

/-- A key with the bytes of that point. -/
def posing : CertificateKey :=
  .rsa ⟨⟨Octets.toNat (4 :: List.replicate 61 1), 0x010101⟩, none⟩

/-- A version of the signing certificate. -/
def version (name : String) (key : CertificateKey) : CertificateVersion :=
  ⟨"signing", name, 0, key⟩

/-- Versions with these keys. -/
def confused : List CertificateVersion :=
  [version "v1" long, version "v2" short, version "v3" point, version "v4" posing]

theorem long_short : Confusable long short :=
  .shifted (show ([1] : Octets) ≠ [] by decide) (by decide +kernel) (by decide +kernel)

theorem point_posing : Confusable point posing :=
  .posing (by decide +kernel)

end Sample

/-- Of the sample's four versions no more than two keys are collected: one of each pair. -/
theorem confused_dropped :
    (∀ v ∈ Sample.confused, v.key.WellSized) ∧
      ¬((∃ k ∈ collectKeys Sample.confused, publicKey? Sample.long = some k.key) ∧
        ∃ k ∈ collectKeys Sample.confused, publicKey? Sample.short = some k.key) ∧
      ¬((∃ k ∈ collectKeys Sample.confused, publicKey? Sample.point = some k.key) ∧
        ∃ k ∈ collectKeys Sample.confused, publicKey? Sample.posing = some k.key) := by
  have hsized : ∀ v ∈ Sample.confused, v.key.WellSized := by
    simp only [Sample.confused, List.forall_mem_cons]
    exact ⟨trivial, trivial, ⟨by decide, by decide⟩, trivial, by simp⟩
  have hdropped := (collectKeys_identified Sample.confused hsized).dropped
  refine ⟨hsized, ?_, ?_⟩
  · exact hdropped (Sample.version "v1" Sample.long) (by simp [Sample.confused])
      (Sample.version "v2" Sample.short) (by simp [Sample.confused]) Sample.long_short
  · exact hdropped (Sample.version "v3" Sample.point) (by simp [Sample.confused])
      (Sample.version "v4" Sample.posing) (by simp [Sample.confused]) Sample.point_posing

/-- **Bytes do not identify a key**: two RSA keys have the same ones. -/
theorem not_identified :
    ¬∀ a b : CertificateKey, a.WellSized → b.WellSized → a.IsSupported → b.IsSupported →
      a.publicBytes? = b.publicBytes? → publicKey? a = publicKey? b := by
  intro h
  exact Sample.long_short.publicKey?_ne
    (h Sample.long Sample.short trivial trivial (fun _ h => nomatch h) (fun _ h => nomatch h)
      Sample.long_short.publicBytes?_eq)

end CertificateKey

end BlindMint
