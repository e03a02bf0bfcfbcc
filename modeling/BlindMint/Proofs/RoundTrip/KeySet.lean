import BlindMint.KeySet
import BlindMint.Proofs.RoundTrip.Base64
import BlindMint.Proofs.RoundTrip.List
import BlindMint.Rsa
import BlindMint.Signature.Scheme

/-!
# Key sets are read as they were written

A record of a key set is written with those of its members that are there. Reading it back follows them from
draft to draft, whichever they are, and the texts in them may be any. `Jwk.publicKey?` is what a client makes of
a record: the public key of the record's type, with the numbers in a dialect of base64.

## Results

* `reads_textMember?`: a member that may be left out, left out or not.
* **`Jwk.read_document`**, **`KeySet.parse_render`**: records and key sets are read back.
* `Jwk.publicKey?_ofPoint`, `Jwk.publicKey?_ofRsa`: the records of keys hold these keys.
-/

namespace BlindMint

open Json

/-! ## Optional members -/

namespace Json

variable {ρ α : Type} {members : List (Member ρ)} {draft mid last : ρ}

theorem ReadsMembers.append {first second : List (String × Document)}
    (h : ReadsMembers members draft first mid) (h' : ReadsMembers members mid second last) :
    ReadsMembers members draft (first ++ second) last := by
  induction h with
  | nil => exact h'
  | known member hfind hnew hread _ ih => exact .known member hfind hnew hread (ih h')
  | unknown hfind hskip _ ih => exact .unknown hfind hskip (ih h')

/-- A member that is written only if there is a value is read into a draft that lacks it; `next` is the draft
with what the member has been read as. -/
theorem reads_textMember? {name : String} {reader : Reader α} {get : ρ → Option (Option α)}
    {set : ρ → Option α → ρ} (next : Option (Option α) → ρ) (value : Option α) (text : α → String)
    (hfind : members.find? (·.name == name) = some (.of name true (readOptional reader) get set))
    (hnew : (get (next none)).isSome = false)
    (hset : ∀ v, set (next none) (some v) = next (some (some v)))
    (hreads : ∀ v, Reads reader (.text (text v)) v) :
    ReadsMembers members (next none) (textMember? name (value.map text)) (next (value.map some)) := by
  cases value with
  | none => exact .nil _
  | some v =>
    have hread : Reads ((Member.of name true (readOptional reader) get set).read (next none))
        (.text (text v)) (next (some (some v))) := by
      rw [← hset v]
      exact reads_member (reads_optional (hreads v)) _
    exact .known _ hfind hnew hread (.nil _)

/-- An optional text is read into a draft that lacks it. -/
theorem reads_optionalText {name : String} {get : ρ → Option (Option String)}
    {set : ρ → Option String → ρ} (next : Option (Option String) → ρ) (value : Option String)
    (hfind : members.find? (·.name == name) = some (.of name true (readOptional readText) get set))
    (hnew : (get (next none)).isSome = false)
    (hset : ∀ v, set (next none) (some v) = next (some (some v))) :
    ReadsMembers members (next none) (textMember? name value) (next (value.map some)) := by
  have h := reads_textMember? next value id hfind hnew hset reads_text
  rwa [Option.map_id_fun, id_eq] at h

end Json

/-! ## One record -/

namespace Jwk

/-- The draft of a record. -/
def draft (key : Jwk) : Draft :=
  { kid := some key.kid, kty := some key.kty, alg := key.alg.map some, use := key.use.map some,
    crv := key.crv.map some, x := key.x.map some, y := key.y.map some, n := key.n.map some,
    e := key.e.map some }

theorem ofDraft_draft (key : Jwk) : ofDraft key.draft = some key := by
  obtain ⟨kid, kty, alg, use, crv, x, y, n, e⟩ := key
  have hjoin : ∀ {α : Type} (value : Option α), (value.map some).join = value := by
    intro α value
    cases value <;> rfl
  unfold ofDraft draft
  simp [hjoin]

theorem reads_use (use : KeyUse) : Reads (readChoice [("sig", KeyUse.signature)]) (.text use.name) use := by
  cases use
  exact reads_choice rfl

/-- **A record is read back** from what was written for it. -/
theorem read_document (key : Jwk) : ReadsWhole Jwk.read key.document key := by
  -- The draft after each member, in the order in which they are written.
  let named : Draft := { kid := some key.kid, kty := some key.kty }
  let withAlg : Draft := { named with alg := key.alg.map some }
  let withUse : Draft := { withAlg with use := key.use.map some }
  let withCrv : Draft := { withUse with crv := key.crv.map some }
  let withX : Draft := { withCrv with x := key.x.map some }
  let withY : Draft := { withX with y := key.y.map some }
  let withN : Draft := { withY with n := key.n.map some }
  have hnames : ReadsMembers members {} [("kid", .text key.kid), ("kty", .text key.kty)] named :=
    .known _ rfl rfl (reads_member (reads_text key.kid) _)
      (.known _ rfl rfl (reads_member (reads_text key.kty) _) (.nil _))
  have halg : ReadsMembers members named (textMember? "alg" key.alg) withAlg :=
    reads_optionalText (fun v => { named with alg := v }) key.alg rfl rfl fun _ => rfl
  have huse : ReadsMembers members withAlg (textMember? "use" (key.use.map KeyUse.name)) withUse :=
    reads_textMember? (fun v => { withAlg with use := v }) key.use KeyUse.name rfl rfl (fun _ => rfl)
      reads_use
  have hcrv : ReadsMembers members withUse (textMember? "crv" key.crv) withCrv :=
    reads_optionalText (fun v => { withUse with crv := v }) key.crv rfl rfl fun _ => rfl
  have hx : ReadsMembers members withCrv (textMember? "x" key.x) withX :=
    reads_optionalText (fun v => { withCrv with x := v }) key.x rfl rfl fun _ => rfl
  have hy : ReadsMembers members withX (textMember? "y" key.y) withY :=
    reads_optionalText (fun v => { withX with y := v }) key.y rfl rfl fun _ => rfl
  have hn : ReadsMembers members withY (textMember? "n" key.n) withN :=
    reads_optionalText (fun v => { withY with n := v }) key.n rfl rfl fun _ => rfl
  have he : ReadsMembers members withN (textMember? "e" key.e) key.draft :=
    reads_optionalText (fun v => { withN with e := v }) key.e rfl rfl fun _ => rfl
  exact readRecord_write
    (((((((hnames.append halg).append huse).append hcrv).append hx).append hy).append hn).append he)
    key.ofDraft_draft

end Jwk

/-! ## Whole sets -/

/-- **A key set is read back from its text.** -/
theorem KeySet.parse_render (set : KeySet) : KeySet.parse set.render = .ok set := by
  have hkeys : List.Forall₂ (ReadsWhole Jwk.read) (set.keys.map Jwk.document) set.keys := by
    rw [List.forall₂_map_left_iff, List.forall₂_same]
    exact fun key _ => key.read_document
  unfold KeySet.parse KeySet.render Document.render
  rw [Source.ofString, String.toList_ofList]
  exact readWhole_write (.known _ rfl rfl (reads_member (readList_write hkeys).reads none) (.nil _)) rfl

/-! ## The keys in records -/

/-- The curve of a published name. -/
def Curve.ofPublished? (name : String) : Option Curve :=
  [Curve.p256, .p384].find? (·.name == name)

theorem Curve.ofPublished?_name (curve : Curve) : Curve.ofPublished? curve.name = some curve := by
  cases curve <;> decide

/-- The number that text writes, if its bytes are the fewest that write it. -/
def Base64.Dialect.number? (d : Base64.Dialect) (text : String) : Option Nat := do
  let bytes ← d.decode? text.toList
  if Octets.minimal bytes.toNat = bytes then some bytes.toNat else none

namespace Base64.Dialect

variable {d : Dialect}

theorem decode?_toText (h : d.Invertible) (bytes : Octets) : d.decode? (d.toText bytes).toList = some bytes := by
  rw [toText, String.toList_ofList, decode?_encode h]

theorem number?_minimal (h : d.Invertible) (n : Nat) : d.number? (d.toText (Octets.minimal n)) = some n := by
  unfold number?
  rw [decode?_toText h, Option.bind_eq_bind, Option.bind_some, Octets.toNat_minimal, if_pos rfl]

end Base64.Dialect

namespace Jwk

/-- The curve and the point of a record. -/
def point? (d : Base64.Dialect) (key : Jwk) : Option PublicKey := do
  let curve ← Curve.ofPublished? (← key.crv)
  let x ← d.decode? (← key.x).toList
  let y ← d.decode? (← key.y).toList
  some (.curve curve ⟨x, y⟩)

/-- The modulus and the exponent of a record. -/
def rsa? (d : Base64.Dialect) (key : Jwk) : Option PublicKey := do
  let n ← d.number? (← key.n)
  let e ← d.number? (← key.e)
  some (.rsa ⟨n, e⟩)

/-- The public key of a record, by its type; its numbers are in a dialect of base64. -/
def publicKey? (d : Base64.Dialect) (key : Jwk) : Option PublicKey :=
  if key.kty = "EC" then key.point? d else if key.kty = "RSA" then key.rsa? d else none

/-- A record has no members that are for keys of the other type. -/
def OnlyOwn (key : Jwk) : Prop :=
  (key.kty = "EC" → key.n = none ∧ key.e = none) ∧
    (key.kty = "RSA" → key.crv = none ∧ key.x = none ∧ key.y = none)

variable {d : Base64.Dialect}

theorem publicKey?_ofPoint (h : d.Invertible) (kid : String) (curve : Curve) (point : Point) :
    (ofPoint d kid curve point).publicKey? d = some (.curve curve point) := by
  unfold publicKey? ofPoint point?
  simp [Curve.ofPublished?_name, Base64.Dialect.decode?_toText h]

theorem publicKey?_ofRsa (h : d.Invertible) (kid : String) (key : RsaPublic) :
    (ofRsa d kid (Octets.minimal key.n) (Octets.minimal key.e)).publicKey? d = some (.rsa key) := by
  unfold publicKey? ofRsa rsa?
  simp [Base64.Dialect.number?_minimal h]

theorem ofPoint_onlyOwn (kid : String) (curve : Curve) (point : Point) :
    (ofPoint d kid curve point).OnlyOwn :=
  ⟨fun _ => ⟨rfl, rfl⟩, fun hkty => absurd hkty (by simp [ofPoint])⟩

theorem ofRsa_onlyOwn (kid : String) (n e : Octets) : (ofRsa d kid n e).OnlyOwn :=
  ⟨fun hkty => absurd hkty (by simp [ofRsa]), fun _ => ⟨rfl, rfl, rfl⟩⟩

end Jwk

end BlindMint
