import BlindMint.MasterSecret
import BlindMint.Proofs.Credentials.Thumbprint
import BlindMint.Proofs.RoundTrip.KeySet
import BlindMint.Proofs.RoundTrip.Unambiguous

/-!
# What a master secret is made of

The master secret of a curve key is its private scalar; that of an RSA key is a text of five of its numbers. Each
number can be told from the text, and the text is longer than the scalars of either curve. So a secret is made of one
origin only: of one scalar of one curve, or of one choice of five numbers.

## Results

* `MasterSecret.ofCertificate_eq_ok_iff`: which certificates have a secret, and what it is made of.
* `MasterSecret.Origin.secret_inj`: two origins with one secret are the same.
* `Folder.origin_proper`: scalars that are read from files are private scalars of their curve.
* **`World.secrets_tell`**: what two loaded secrets tell about the keys they were made of.
-/

namespace BlindMint

/-! ## Lengths -/

/-- The text of a byte string that is not empty has at least two characters. -/
theorem Base64.Dialect.two_le_length_encode (d : Base64.Dialect) {bytes : Octets} (h : bytes ≠ []) :
    2 ≤ (d.encode bytes).length := by
  match bytes with
  | [] => exact absurd rfl h
  | [a] => simp [encode]
  | [a, b] => simp [encode]
  | a :: b :: c :: rest => simp [encode]

/-- A text has no fewer characters with its quotes and escapes than without. -/
theorem Json.length_le_writeText (s : String) : s.toList.length + 2 ≤ (writeText s).length := by
  have hescape : ∀ c, 1 ≤ (escapeChar c).length := by
    intro c
    obtain ⟨e, -, -, h⟩ | ⟨-, h⟩ | ⟨-, -, -, h⟩ := escapeChar_cases c <;> simp [h]
  have hchars : s.toList.length ≤ (s.toList.flatMap escapeChar).length := by
    induction s.toList with
    | nil => exact Nat.le_refl _
    | cons c cs ih =>
      have hc := hescape c
      rw [List.flatMap_cons, List.length_append, List.length_cons]
      omega
  simp only [writeText, List.cons_append, List.length_cons, List.length_append, List.length_nil]
  omega

namespace MasterSecret

/-- What a master secret is made of. -/
inductive Origin where
  /-- A private scalar of a curve. -/
  | scalar (curve : Curve) (bytes : Octets)
  /-- Numbers of an RSA private key: the modulus, both exponents and the first two prime factors. -/
  | numbers (n e d p q : Nat)

namespace Origin

/-- The secret that is made of an origin. -/
def secret : Origin → MasterSecret
  | scalar _ bytes => ⟨bytes⟩
  | numbers n e d p q => ⟨Utf8.encode (exportDocument ⟨n, e⟩ d p q).write⟩

/-- Whether bytes that are taken for a scalar are a private scalar of the curve. -/
def IsProper : Origin → Prop
  | scalar curve bytes => curve.isScalar bytes = true
  | numbers _ _ _ _ _ => True

/-- The origin that a key holds; public keys hold none, nor do RSA keys with fewer than two prime factors. -/
def ofKey? : CertificateKey → Option Origin
  | .curve key => key.scalar.map (scalar key.curve)
  | .rsa ⟨pub, some ⟨d, p :: q :: _⟩⟩ => some (numbers pub.n pub.e d p q)
  | .rsa _ => none
  | .unsupported _ => none

end Origin

/-- A certificate has a secret just if its key holds an origin, and the secret is made of that. -/
theorem ofCertificate_eq_ok_iff {id : String} {v : CertificateVersion} {secret : MasterSecret} :
    ofCertificate id v = .ok secret ↔ ∃ origin, Origin.ofKey? v.key = some origin ∧ origin.secret = secret := by
  unfold ofCertificate
  match v.key with
  | .curve key => cases hscalar : key.scalar <;> simp [Origin.ofKey?, Origin.secret, hscalar]
  | .rsa ⟨pub, none⟩ => simp [Origin.ofKey?, RsaKey.private?]
  | .rsa ⟨pub, some ⟨d, []⟩⟩ => simp [Origin.ofKey?, RsaKey.private?, ofRsa]
  | .rsa ⟨pub, some ⟨d, [p]⟩⟩ => simp [Origin.ofKey?, RsaKey.private?, ofRsa]
  | .rsa ⟨pub, some ⟨d, p :: q :: more⟩⟩ => simp [Origin.ofKey?, Origin.secret, RsaKey.private?, ofRsa]
  | .unsupported algorithm => simp [Origin.ofKey?]

/-- Both of the first two prime factors are needed. -/
theorem ofCertificate_of_few_primes {id : String} {v : CertificateVersion} {key : RsaPrivate}
    (hkey : v.key = CertificateKey.ofRsaPrivate key) (h : key.primes.length < 2) :
    ofCertificate id v = .error (.invalidKeyMaterial "RSA key is missing prime factors") := by
  obtain ⟨pub, d, primes⟩ := key
  rw [ofCertificate, hkey]
  cases primes with
  | nil => rfl
  | cons p more =>
    cases more with
    | nil => rfl
    | cons q more =>
      simp only [List.length_cons] at h
      omega

/-! ## The text of an RSA key -/

theorem exportNumber_inj {m n : Nat} (h : exportNumber m = exportNumber n) : m = n := by
  have hnumber := congrArg Base64.urlSafe.number? (Json.Document.text.inj h)
  rw [Base64.Dialect.number?_minimal Base64.Dialect.urlSafe_invertible,
    Base64.Dialect.number?_minimal Base64.Dialect.urlSafe_invertible] at hnumber
  exact Option.some.inj hnumber

/-- The document of a key has each of its numbers. -/
theorem exportDocument_inj {n n' e e' d d' p p' q q' : Nat}
    (h : exportDocument ⟨n, e⟩ d p q = exportDocument ⟨n', e'⟩ d' p' q') :
    n = n' ∧ e = e' ∧ d = d' ∧ p = p' ∧ q = q' := by
  simp only [exportDocument, Json.Document.object.injEq, List.cons.injEq, Prod.mk.injEq, true_and, and_true] at h
  obtain ⟨hn, he, hd, hp, hq⟩ := h
  exact ⟨exportNumber_inj hn, exportNumber_inj he, exportNumber_inj hd, exportNumber_inj hp, exportNumber_inj hq⟩

/-- A number is written with two characters at least, and two quotes. -/
theorem four_le_length_exportNumber (n : Nat) : 4 ≤ (exportNumber n).write.length := by
  have hbytes : Octets.minimal n ≠ [] := List.ne_nil_of_length_pos (by simp [Octets.minimal])
  have hencode := Base64.urlSafe.two_le_length_encode hbytes
  have hwrite := Json.length_le_writeText (Base64.urlSafe.toText (Octets.minimal n))
  rw [Base64.Dialect.toText, String.toList_ofList] at hwrite
  rw [exportNumber, Json.Document.write, Base64.Dialect.toText]
  omega

/-- The text of a key is longer than every scalar. -/
theorem length_exportDocument (pub : RsaPublic) (d p q : Nat) : 58 ≤ (exportDocument pub d p q).write.length := by
  have hkty : (Json.writeText "kty").length = 5 ∧ (Json.writeText "RSA").length = 5 := by decide
  have hnames : ∀ name ∈ ["n", "e", "d", "p", "q"], (Json.writeText name).length = 3 := by decide
  simp only [List.forall_mem_cons, List.not_mem_nil, false_implies, implies_true, and_true] at hnames
  have hn := four_le_length_exportNumber pub.n
  have he := four_le_length_exportNumber pub.e
  have hd := four_le_length_exportNumber d
  have hp := four_le_length_exportNumber p
  have hq := four_le_length_exportNumber q
  simp only [exportDocument, Json.Document.write, Json.Document.writeMembers, Json.commaSeparated, List.length_cons,
    List.length_append, List.length_nil]
  omega

/-! ## One secret, one origin -/

namespace Origin

variable {curve : Curve} {bytes : Octets}

theorem proper_numbers (n e d p q : Nat) : (numbers n e d p q).IsProper := trivial

theorem IsProper.length (h : (scalar curve bytes).IsProper) : bytes.length = curve.keySize := by
  have hscalar : curve.isScalar bytes = true := h
  simp only [Curve.isScalar, Bool.and_eq_true, beq_iff_eq] at hscalar
  exact hscalar.1.1

/-- No text of numbers is a scalar. -/
theorem secret_numbers_ne (h : (scalar curve bytes).IsProper) (n e d p q : Nat) :
    (numbers n e d p q).secret.bytes ≠ bytes := by
  intro heq
  have hshort : bytes.length ≤ 48 := h.length ▸ curve.keySize_le
  have hlong := length_exportDocument ⟨n, e⟩ d p q
  have hencode := Utf8.length_le_encode (exportDocument ⟨n, e⟩ d p q).write
  have hbytes : Utf8.encode (exportDocument ⟨n, e⟩ d p q).write = bytes := heq
  rw [hbytes] at hencode
  omega

theorem secret_numbers_inj {n n' e e' d d' p p' q q' : Nat}
    (h : (numbers n e d p q).secret.bytes = (numbers n' e' d' p' q').secret.bytes) :
    n = n' ∧ e = e' ∧ d = d' ∧ p = p' ∧ q = q' := by
  have htext := congrArg Utf8.decode? h
  simp only [secret, Utf8.decode?_encode, Option.some.injEq] at htext
  exact exportDocument_inj (Json.Document.write_inj htext)

/-- **Two origins with one secret are the same**, if scalars are those of their curve. -/
theorem secret_inj {a b : Origin} (ha : a.IsProper) (hb : b.IsProper) (h : a.secret.bytes = b.secret.bytes) :
    a = b := by
  -- Scalars of the two curves differ in length, and the text of numbers is longer than both.
  cases a with
  | scalar curve bytes =>
    cases b with
    | scalar curve' bytes' =>
      obtain rfl : bytes = bytes' := h
      rw [Curve.keySize_inj (ha.length.symm.trans hb.length)]
    | numbers n e d p q => exact absurd h.symm (secret_numbers_ne ha n e d p q)
  | numbers n e d p q =>
    cases b with
    | scalar curve bytes => exact absurd h (secret_numbers_ne hb n e d p q)
    | numbers n' e' d' p' q' =>
      obtain ⟨rfl, rfl, rfl, rfl, rfl⟩ := secret_numbers_inj h
      rfl

end Origin

end MasterSecret

/-! ## Where scalars come from -/

open MasterSecret (Origin)

theorem CertificateKey.origin_proper_of_scalar {curve : Curve} {scalar : Octets} {key : CertificateKey}
    (h : ofScalar curve scalar = .ok key) : ∀ origin, Origin.ofKey? key = some origin → origin.IsProper := by
  intro origin horigin
  unfold ofScalar Curve.publicPoint? at h
  split at h
  · next point hpoint =>
    obtain rfl := Except.ok.inj h
    obtain rfl := Option.some.inj horigin
    exact (Option.ite_none_right_eq_some.mp hpoint).1
  · cases h

theorem CertificateKey.origin_proper_of_pem {text : String} {key : CertificateKey} (h : ofPem text = .ok key) :
    ∀ origin, Origin.ofKey? key = some origin → origin.IsProper := by
  have hrsa : ∀ (key : RsaKey) origin, Origin.ofKey? (.rsa key) = some origin → origin.IsProper := by
    intro key origin horigin
    match key with
    | ⟨pub, some ⟨d, p :: q :: more⟩⟩ =>
      obtain rfl := Option.some.inj horigin
      exact trivial
  obtain ⟨read, hread, hproper⟩ := exists_ofPem_of (fun _ _ _ => origin_proper_of_scalar)
    (fun _ _ _ _ horigin => nomatch horigin) hrsa (fun _ _ horigin => nomatch horigin) text
  obtain rfl : key = read := Except.ok.inj (h.symm.trans hread)
  exact hproper

/-- Scalars that are read from files are private scalars of their curve. -/
theorem Folder.origin_proper {folder : Folder} {id : String} {versions : List CertificateVersion}
    (h : folder.versions id = .ok versions) :
    ∀ v ∈ versions, ∀ origin, Origin.ofKey? v.key = some origin → origin.IsProper := by
  intro v hv
  obtain ⟨text, htext⟩ := Folder.exists_ofPem_of_versions h v hv
  exact CertificateKey.origin_proper_of_pem htext

/-! ## Loaded secrets -/

namespace World

open CertificateKey (ofRsaPrivate)

variable {w w' : World} {id id' : String} {v v' : CertificateVersion}

/-- What is loaded is the secret of the version that is found. -/
theorem loadMasterSecret_of_lookUp (h : (w.lookUpCertificate id).1 = .ok (some v)) :
    (w.loadMasterSecret id).1 = MasterSecret.ofCertificate id v := by
  unfold loadMasterSecret
  generalize w.lookUpCertificate id = found at h
  obtain ⟨result, after⟩ := found
  obtain rfl : result = .ok (some v) := h
  rfl

theorem loadMasterSecret_of_origin (h : (w.lookUpCertificate id).1 = .ok (some v)) {origin : Origin}
    (horigin : Origin.ofKey? v.key = some origin) : (w.loadMasterSecret id).1 = .ok origin.secret :=
  (loadMasterSecret_of_lookUp h).trans (MasterSecret.ofCertificate_eq_ok_iff.mpr ⟨origin, horigin, rfl⟩)

/-- A version that is found in a folder is one of those that are listed. -/
theorem exists_versions_of_lookUp {folder : Folder} (hfolder : w.locator = .folder folder)
    (h : (w.lookUpCertificate id).1 = .ok (some v)) :
    ∃ versions, folder.versions id = .ok versions ∧ v ∈ versions := by
  unfold lookUpCertificate at h
  split at h
  · cases h
  · simp only [hfolder, Locator.newest, Locator.versions] at h
    split at h
    · cases h
    · next versions hversions =>
      exact ⟨versions, hversions, CertificateVersion.mem_of_newest? (Except.ok.inj h)⟩

/-- What the master secrets of two certificates tell about their keys. The certificates are looked up in two worlds,
which find the versions `v` and `v'` of them. -/
structure SecretsTell (w : World) (id : String) (v : CertificateVersion) (w' : World) (id' : String)
    (v' : CertificateVersion) : Prop where
  /-- Two RSA private keys with two prime factors or more have secrets. These are the same bytes exactly if the two
  moduli are the same, and both exponents, and the first two prime factors in their order. -/
  numbers : ∀ key key' : RsaPrivate, v.key = ofRsaPrivate key → v'.key = ofRsaPrivate key' →
    2 ≤ key.primes.length → 2 ≤ key'.primes.length →
    ∃ secret secret', (w.loadMasterSecret id).1 = .ok secret ∧ (w'.loadMasterSecret id').1 = .ok secret' ∧
      (secret.bytes = secret'.bytes ↔
        key.pub.n = key'.pub.n ∧ key.pub.e = key'.pub.e ∧ key.d = key'.d ∧
          key.primes.take 2 = key'.primes.take 2)
  /-- The secret of such an RSA key is not that of a private key on either curve. Its scalar is in the range that
  `CertificateKey.ofScalar` requires of every private key it makes. -/
  kinds : ∀ (key : RsaPrivate) (key' : CurveKey) (scalar : Octets), v.key = ofRsaPrivate key →
    2 ≤ key.primes.length → v'.key = .curve key' → key'.scalar = some scalar →
    key'.curve.isScalar scalar = true →
    ∃ secret, (w.loadMasterSecret id).1 = .ok secret ∧ (w'.loadMasterSecret id').1 = .ok ⟨scalar⟩ ∧
      secret.bytes ≠ scalar
  /-- Every scalar that is read from a file is a private scalar of its curve. -/
  scalars : ∀ (folder : Folder) (key' : CurveKey) (scalar : Octets), w'.locator = .folder folder →
    v'.key = .curve key' → key'.scalar = some scalar → key'.curve.isScalar scalar = true
  /-- An RSA private key with fewer prime factors has no secret. -/
  missing : ∀ key : RsaPrivate, v.key = ofRsaPrivate key → key.primes.length < 2 →
    (w.loadMasterSecret id).1 = .error (.invalidKeyMaterial "RSA key is missing prime factors")

theorem exists_origin_of_rsa {key : RsaPrivate} (h : 2 ≤ key.primes.length) :
    ∃ p q more, key.primes = p :: q :: more ∧
      Origin.ofKey? (ofRsaPrivate key) = some (.numbers key.pub.n key.pub.e key.d p q) := by
  obtain ⟨pub, d, primes⟩ := key
  match primes, h with
  | p :: q :: more, _ => exact ⟨p, q, more, rfl, rfl⟩

/-- **What two secrets tell about the keys they were made of.** -/
theorem secrets_tell (hv : (w.lookUpCertificate id).1 = .ok (some v))
    (hv' : (w'.lookUpCertificate id').1 = .ok (some v')) : SecretsTell w id v w' id' v' where
  numbers key key' hkey hkey' hprimes hprimes' := by
    obtain ⟨p, q, more, hlist, horigin⟩ := exists_origin_of_rsa hprimes
    obtain ⟨p', q', more', hlist', horigin'⟩ := exists_origin_of_rsa hprimes'
    have hload := loadMasterSecret_of_origin hv (hkey ▸ horigin)
    have hload' := loadMasterSecret_of_origin hv' (hkey' ▸ horigin')
    refine ⟨_, _, hload, hload', ?_⟩
    constructor
    · intro hsame
      have horigins := Origin.secret_inj (Origin.proper_numbers ..) (Origin.proper_numbers ..) hsame
      obtain ⟨hn, he, hd, hp, hq⟩ := Origin.numbers.inj horigins
      exact ⟨hn, he, hd, by rw [hlist, hlist', hp, hq]; rfl⟩
    · rintro ⟨hn, he, hd, htwo⟩
      rw [hlist, hlist'] at htwo
      obtain ⟨rfl, rfl⟩ : p = p' ∧ q = q' := by simpa using htwo
      rw [hn, he, hd]
  kinds key key' scalar hkey hprimes hkey' hscalar hproper := by
    obtain ⟨p, q, more, -, horigin⟩ := exists_origin_of_rsa hprimes
    have horigin' : Origin.ofKey? v'.key = some (.scalar key'.curve scalar) := by
      rw [hkey', Origin.ofKey?, hscalar]
      rfl
    refine ⟨_, loadMasterSecret_of_origin hv (hkey ▸ horigin), loadMasterSecret_of_origin hv' horigin', ?_⟩
    intro hsame
    have hproper' : (Origin.scalar key'.curve scalar).IsProper := hproper
    cases Origin.secret_inj (Origin.proper_numbers ..) hproper' hsame
  scalars folder key' scalar hfolder hkey' hscalar := by
    obtain ⟨versions, hversions, hmem⟩ := exists_versions_of_lookUp hfolder hv'
    refine folder.origin_proper hversions v' hmem (.scalar key'.curve scalar) ?_
    rw [hkey', Origin.ofKey?, hscalar]
    rfl
  missing key hkey hprimes := by
    rw [loadMasterSecret_of_lookUp hv]
    exact MasterSecret.ofCertificate_of_few_primes hkey hprimes

namespace Sample

/-- An RSA key of the modulus 61 · 53, with the given prime factors. -/
def rsaKey (primes : List Nat) : RsaPrivate :=
  ⟨⟨3233, 17⟩, 2753, primes⟩

/-- The private scalar of bytes 3. -/
def scalar : Octets := List.replicate 32 3

/-- The key of that scalar. -/
def curveKey : CurveKey :=
  ⟨.p256, some scalar, Curve.p256.point (Curve.p256.generatorMultiple scalar.toNat)⟩

/-- The master certificate with a key. -/
def master (key : CertificateKey) : CertificateVersion :=
  ⟨"master", "v1", 0, key⟩

/-- A world with this certificate. -/
def keeping (key : CertificateKey) : World :=
  { now := 0, locator := .shelf ⟨[⟨master key, true⟩]⟩ }

theorem lookUp_keeping (key : CertificateKey) :
    ((keeping key).lookUpCertificate "master").1 = .ok (some (master key)) := by
  rfl

end Sample

open Sample in
/-- The order of the prime factors is told from the secret, and a third factor is not; a scalar is not taken for a
text, and one factor is too few. -/
theorem secrets_tell_ordered :
    (∀ key, ((keeping key).lookUpCertificate "master").1 = .ok (some (master key))) ∧
      (∃ secret secret',
        ((keeping (ofRsaPrivate (rsaKey [61, 53]))).loadMasterSecret "master").1 = .ok secret ∧
        ((keeping (ofRsaPrivate (rsaKey [53, 61]))).loadMasterSecret "master").1 = .ok secret' ∧
        secret.bytes ≠ secret'.bytes) ∧
      (∃ secret secret',
        ((keeping (ofRsaPrivate (rsaKey [61, 53]))).loadMasterSecret "master").1 = .ok secret ∧
        ((keeping (ofRsaPrivate (rsaKey [61, 53, 2]))).loadMasterSecret "master").1 = .ok secret' ∧
        secret.bytes = secret'.bytes) ∧
      (∃ secret, ((keeping (ofRsaPrivate (rsaKey [61, 53]))).loadMasterSecret "master").1 = .ok secret ∧
        ((keeping (.curve curveKey)).loadMasterSecret "master").1 = .ok ⟨scalar⟩ ∧ secret.bytes ≠ scalar) ∧
      ((keeping (ofRsaPrivate (rsaKey [61]))).loadMasterSecret "master").1 =
        .error (.invalidKeyMaterial "RSA key is missing prime factors") := by
  have hsecrets := fun key key' => secrets_tell (lookUp_keeping key) (lookUp_keeping key')
  refine ⟨lookUp_keeping, ?_, ?_, ?_, ?_⟩
  · obtain ⟨secret, secret', hsecret, hsecret', hiff⟩ := (hsecrets _ _).numbers (rsaKey [61, 53]) (rsaKey [53, 61])
      rfl rfl (by decide) (by decide)
    exact ⟨secret, secret', hsecret, hsecret', fun hsame => absurd (hiff.mp hsame).2.2.2 (by decide)⟩
  · obtain ⟨secret, secret', hsecret, hsecret', hiff⟩ := (hsecrets _ _).numbers (rsaKey [61, 53])
      (rsaKey [61, 53, 2]) rfl rfl (by decide) (by decide)
    exact ⟨secret, secret', hsecret, hsecret', hiff.mpr ⟨rfl, rfl, rfl, rfl⟩⟩
  · exact (hsecrets _ _).kinds (rsaKey [61, 53]) curveKey scalar rfl (by decide) rfl rfl (by decide +kernel)
  · exact (hsecrets _ (.unsupported "")).missing (rsaKey [61]) rfl (by decide)

end World

end BlindMint
