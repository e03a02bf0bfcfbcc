import BlindMint.Certificate.Key
import BlindMint.Der
import BlindMint.Pem

/-!
# Reading keys from armoured documents

Five documents are understood: a private key in its wrapper, on either curve or RSA; an RSA private key
on its own; and a public key on either curve or RSA. They are tried in that order, and the first that
fits is the key. Any other text yields an unsupported key that is named after the label of its first
boundary line.

Main definition: `CertificateKey.ofPem`.

Results:
* `CertificateKey.exists_ofPem_of`, `CertificateKey.exists_ofPem`: reading a key never fails, and a point that is read
  has the size of its curve.
-/

namespace BlindMint

namespace Der

/-! ## Object identifiers -/

/-- Keys on elliptic curves. -/
def curveKeyIdentifier : Octets := [0x2a, 0x86, 0x48, 0xce, 0x3d, 0x02, 0x01]

/-- RSA keys. -/
def rsaKeyIdentifier : Octets := [0x2a, 0x86, 0x48, 0x86, 0xf7, 0x0d, 0x01, 0x01, 0x01]

/-- A curve. -/
def curveIdentifier : Curve → Octets
  | .p256 => [0x2a, 0x86, 0x48, 0xce, 0x3d, 0x03, 0x01, 0x07]
  | .p384 => [0x2b, 0x81, 0x04, 0x00, 0x22]

/-! ## Algorithms -/

/-- Whether an item is the algorithm of keys on a curve: the two identifiers. -/
def isCurveAlgorithm (curve : Curve) (item : Item) : Bool :=
  match item.sequence with
  | some [algorithm, parameter] =>
    algorithm == ⟨identifierTag, curveKeyIdentifier⟩ && parameter == ⟨identifierTag, curveIdentifier curve⟩
  | _ => false

/-- Whether an item is the algorithm of RSA keys: the identifier and a null. -/
def isRsaAlgorithm (item : Item) : Bool :=
  match item.sequence with
  | some [algorithm, parameter] =>
    algorithm == ⟨identifierTag, rsaKeyIdentifier⟩ && parameter == ⟨nullTag, []⟩
  | _ => false

/-! ## Fields by number -/

/-- The number of a context-specific tag. -/
def contextNumber? (tag : UInt8) : Option Nat :=
  if tag &&& 0xC0 = 0x80 then some (tag &&& 0x1F).toNat else none

/-- The field of a given number at the head of the items, and the items after it. Fields of lower numbers
are passed over; at any other item the field is absent. -/
def takeField (number : Nat) : List Item → Option Item × List Item
  | [] => (none, [])
  | item :: items =>
    match contextNumber? item.tag with
    | none => (none, item :: items)
    | some n =>
      if n = number then (some item, items)
      else if n < number then takeField number items
      else (none, item :: items)

/-- The item inside a field that wraps it. -/
def unwrapField (number : Nat) (item : Item) : Option Item :=
  match item.expect (0xA0 + UInt8.ofNat number) with
  | some content => readOnly content
  | none => none

/-! ## Private keys in their wrapper -/

/-- A private key in its wrapper: the algorithm and the bytes of the key. -/
structure Wrapped where
  algorithm : Item
  key : Octets

/-- Whether the items after the key are right for a version: version one has the public key as a bit
string in field one, version zero has not, and every item after it wraps one other item. -/
def isWrappedTail (version : Nat) (items : List Item) : Bool :=
  let (field, others) := takeField 1 items
  let publicKey :=
    match field with
    | none => version == 0
    | some item => version == 1 && ((item.expect 0x81).bind wholeBytes).isSome
  publicKey && others.all fun item => item.tag &&& 0xE0 == 0xA0 && (readOnly item.content).isSome

/-- Read a private key in its wrapper. -/
def readWrapped (document : Octets) : Option Wrapped :=
  match (readOnly document).bind Item.sequence with
  | some (version :: algorithm :: key :: others) =>
    match version.unsigned, key.expect octetStringTag with
    | some v, some bytes => if v ≤ 1 ∧ isWrappedTail v others then some ⟨algorithm, bytes⟩ else none
    | _, _ => none
  | _ => none

/-- Whether an encoded public point is that of a private scalar. -/
def isPointOf (curve : Curve) (scalar encoded : Octets) : Bool :=
  match curve.decodePoint? encoded, curve.publicPoint? scalar with
  | some (.uncompressed, point), some own => point == own
  | some (.compressed, point), some own => point == own
  | _, _ => false

/-- Read the private scalar of a key document on a curve: version one, the scalar, and optionally an
identifier of the curve in field zero and the public point in field one. -/
def readScalar (curve : Curve) (document : Octets) : Option Octets :=
  match (readOnly document).bind Item.sequence with
  | some (version :: key :: others) =>
    let (parameters, others) := takeField 0 others
    let (publicKey, others) := takeField 1 others
    let parametersRight :=
      match parameters with
      | none => true
      | some item =>
        match (unwrapField 0 item).bind (·.expect identifierTag) with
        | some content => isIdentifier content
        | none => false
    match version.unsigned, (key.expect octetStringTag).bind curve.paddedScalar? with
    | some 1, some scalar =>
      let publicRight :=
        match publicKey with
        | none => true
        | some item =>
          match (unwrapField 1 item).bind Item.bits with
          | some encoded => isPointOf curve scalar encoded
          | none => false
      if parametersRight && publicRight && others.isEmpty then some scalar else none
    | _, _ => none
  | _ => none

theorem isScalar_of_readScalar {curve : Curve} {document scalar : Octets}
    (h : readScalar curve document = some scalar) : curve.isScalar scalar = true := by
  unfold readScalar at h
  split at h
  · dsimp only at h
    generalize hpadded : (Item.expect _ octetStringTag).bind curve.paddedScalar? = padded at h
    split at h
    · obtain ⟨bytes, -, hbytes⟩ := Option.bind_eq_some_iff.mp hpadded
      obtain ⟨-, h⟩ := Option.ite_none_right_eq_some.mp h
      obtain rfl := Option.some.inj h
      exact Curve.isScalar_of_paddedScalar? hbytes
    · cases h
  · cases h

/-- Read an RSA private key: version zero and eight numbers, of which the last three are not used. -/
def readRsaPrivate (document : Octets) : Option RsaPrivate :=
  match (readOnly document).bind Item.sequence with
  | some items =>
    match items.mapM Item.unsigned with
    | some [0, n, e, d, p, q, _, _, _] =>
      let key : RsaPrivate := ⟨⟨n, e⟩, d, [p, q]⟩
      if key.isSound then some key else none
    | _ => none
  | none => none

/-! ## Public keys in their wrapper -/

/-- Read a public key in its wrapper: the algorithm and the bytes of the key. -/
def readPublic (document : Octets) : Option Wrapped :=
  match (readOnly document).bind Item.sequence with
  | some [algorithm, key] => key.bits.map fun bytes => ⟨algorithm, bytes⟩
  | _ => none

/-- Read an RSA public key: the modulus and the exponent. -/
def readRsaPublic (document : Octets) : Option RsaPublic :=
  match (readOnly document).bind Item.sequence with
  | some items =>
    match items.mapM Item.unsigned with
    | some [n, e] =>
      let key : RsaPublic := ⟨n, e⟩
      if key.isSound then some key else none
    | _ => none
  | none => none

end Der

namespace CertificateKey

open Der

/-- The RSA key with its private half. -/
def ofRsaPrivate (key : RsaPrivate) : CertificateKey :=
  .rsa ⟨key.pub, some ⟨key.d, key.primes⟩⟩

/-- A private key on a curve. -/
def wrappedScalar? (curve : Curve) (wrapped : Option Wrapped) : Option (Except KeyError CertificateKey) :=
  match wrapped with
  | some ⟨algorithm, key⟩ =>
    if isCurveAlgorithm curve algorithm then (readScalar curve key).map (ofScalar curve) else none
  | none => none

/-- An RSA private key in its wrapper. -/
def wrappedRsa? (wrapped : Option Wrapped) : Option (Except KeyError CertificateKey) :=
  match wrapped with
  | some ⟨algorithm, key⟩ =>
    if isRsaAlgorithm algorithm then (readRsaPrivate key).map fun key => .ok (ofRsaPrivate key) else none
  | none => none

/-- A public key on a curve. -/
def publicPoint? (curve : Curve) (wrapped : Option Wrapped) : Option (Except KeyError CertificateKey) :=
  match wrapped with
  | some ⟨algorithm, key⟩ =>
    if isCurveAlgorithm curve algorithm then
      (curve.decodePoint? key).map fun (_, point) => .ok (ofPoint curve point)
    else none
  | none => none

/-- An RSA public key. -/
def publicRsa? (wrapped : Option Wrapped) : Option (Except KeyError CertificateKey) :=
  match wrapped with
  | some ⟨algorithm, key⟩ =>
    if isRsaAlgorithm algorithm then (readRsaPublic key).map fun key => .ok (.rsa ⟨key, none⟩) else none
  | none => none

/-- The key of an armoured text (`parse_pem_key`). -/
def ofPem (text : String) : Except KeyError CertificateKey :=
  let wrapped := (Pem.decode? "PRIVATE KEY" text).bind readWrapped
  let plainRsa := (Pem.decode? "RSA PRIVATE KEY" text).bind readRsaPrivate
  let wrappedPublic := (Pem.decode? "PUBLIC KEY" text).bind readPublic
  let found :=
    wrappedScalar? .p256 wrapped <|> wrappedScalar? .p384 wrapped <|> wrappedRsa? wrapped <|>
      plainRsa.map (fun key => .ok (ofRsaPrivate key)) <|>
      publicPoint? .p256 wrappedPublic <|> publicPoint? .p384 wrappedPublic <|> publicRsa? wrappedPublic
  found.getD (.ok (.unsupported ((Pem.label? text).getD "unrecognized PEM")))

/-! ## Reading never fails -/

variable {holds : CertificateKey → Prop}

/-- Whatever is found is a key with a given property, and not a failure. -/
def FindsKey (holds : CertificateKey → Prop) (found : Option (Except KeyError CertificateKey)) : Prop :=
  ∀ result, found = some result → ∃ key, result = .ok key ∧ holds key

theorem findsKey_map {α : Type} {found : Option α} (make : α → CertificateKey)
    (h : ∀ value, found = some value → holds (make value)) :
    FindsKey holds (found.map fun value => .ok (make value)) := by
  intro result hresult
  obtain ⟨value, hvalue, rfl⟩ := Option.map_eq_some_iff.mp hresult
  exact ⟨make value, rfl, h value hvalue⟩

theorem FindsKey.orElse {first second : Option (Except KeyError CertificateKey)} (h : FindsKey holds first)
    (h' : FindsKey holds second) : FindsKey holds (first <|> second) := by
  cases first with
  | none => simpa using h'
  | some result => simpa using h

theorem findsKey_wrappedScalar? (hscalar : ∀ curve scalar key, ofScalar curve scalar = .ok key → holds key)
    (curve : Curve) (wrapped : Option Wrapped) : FindsKey holds (wrappedScalar? curve wrapped) := by
  intro result h
  unfold wrappedScalar? at h
  split at h
  · obtain ⟨-, h⟩ := Option.ite_none_right_eq_some.mp h
    obtain ⟨scalar, hread, rfl⟩ := Option.map_eq_some_iff.mp h
    have hok : ∃ key, ofScalar curve scalar = .ok key := by
      unfold ofScalar Curve.publicPoint?
      rw [if_pos (isScalar_of_readScalar hread)]
      exact ⟨_, rfl⟩
    obtain ⟨key, hkey⟩ := hok
    exact ⟨key, hkey, hscalar curve scalar key hkey⟩
  · cases h

theorem findsKey_wrappedRsa? (hrsa : ∀ key, holds (.rsa key)) (wrapped : Option Wrapped) :
    FindsKey holds (wrappedRsa? wrapped) := by
  intro result h
  unfold wrappedRsa? at h
  split at h
  · exact findsKey_map ofRsaPrivate (fun _ _ => hrsa _) result (Option.ite_none_right_eq_some.mp h).2
  · cases h

theorem findsKey_publicPoint?
    (hpoint : ∀ curve point, (ofPoint curve point).WellSized → holds (ofPoint curve point)) (curve : Curve)
    (wrapped : Option Wrapped) : FindsKey holds (publicPoint? curve wrapped) := by
  intro result h
  unfold publicPoint? at h
  split at h
  · refine findsKey_map (fun decoded : Curve.PointForm × Point => ofPoint curve decoded.2) ?_ result
      (Option.ite_none_right_eq_some.mp h).2
    exact fun decoded hdecoded => hpoint curve decoded.2 (Curve.length_of_decodePoint? hdecoded)
  · cases h

theorem findsKey_publicRsa? (hrsa : ∀ key, holds (.rsa key)) (wrapped : Option Wrapped) :
    FindsKey holds (publicRsa? wrapped) := by
  intro result h
  unfold publicRsa? at h
  split at h
  · exact findsKey_map (fun key => .rsa ⟨key, none⟩) (fun _ _ => hrsa _) result
      (Option.ite_none_right_eq_some.mp h).2
  · cases h

/-- **Every text yields a key**, if only one that is not supported. It has every property that keys of scalars, of
points of the right size and RSA keys have. -/
theorem exists_ofPem_of (hscalar : ∀ curve scalar key, ofScalar curve scalar = .ok key → holds key)
    (hpoint : ∀ curve point, (ofPoint curve point).WellSized → holds (ofPoint curve point))
    (hrsa : ∀ key, holds (.rsa key)) (hunsupported : ∀ algorithm, holds (.unsupported algorithm)) (text : String) :
    ∃ key, ofPem text = .ok key ∧ holds key := by
  unfold ofPem
  generalize (Pem.decode? "PRIVATE KEY" text).bind readWrapped = wrapped
  generalize (Pem.decode? "RSA PRIVATE KEY" text).bind readRsaPrivate = plainRsa
  generalize (Pem.decode? "PUBLIC KEY" text).bind readPublic = wrappedPublic
  dsimp only
  generalize hfound : (wrappedScalar? .p256 wrapped <|> _) = found
  have hkey : FindsKey holds found := by
    rw [← hfound]
    exact (findsKey_wrappedScalar? hscalar _ _).orElse <| (findsKey_wrappedScalar? hscalar _ _).orElse <|
      (findsKey_wrappedRsa? hrsa _).orElse <| (findsKey_map ofRsaPrivate fun _ _ => hrsa _).orElse <|
      (findsKey_publicPoint? hpoint _ _).orElse <| (findsKey_publicPoint? hpoint _ _).orElse <|
      findsKey_publicRsa? hrsa _
  cases found with
  | none => exact ⟨_, rfl, hunsupported _⟩
  | some result => exact hkey result rfl

/-- A point that is read has the size of its curve. -/
theorem exists_ofPem (text : String) : ∃ key, ofPem text = .ok key ∧ key.WellSized :=
  exists_ofPem_of (fun _ _ _ => wellSized_ofScalar) (fun _ _ h => h) (fun _ => trivial) (fun _ => trivial) text

end CertificateKey

end BlindMint
