import BlindMint.Proofs.Admission
import BlindMint.Proofs.Credentials.Continuity
import Mathlib.Control.Monad.Basic

/-!
# Which session tokens are accepted

A token is tried with the published keys that its header points to: the one that it names, or those of its
algorithm when it names none. The trial ends with the first key that accepts, and what is accepted may then be
refused as expired. None of these exits hides a key that would have accepted, for what a token says is a
function of its text, so that all keys that accept it agree on its claims. Hence the order of the keys does not
matter to what is accepted, although it decides which fault is reported when all of them refuse.

## Results

* `firstAccepted_eq_ok_iff`, `firstAccepted_of_refused`: a trial with any keys.
* `decode_eq_ok_iff`: what a key has checked when it accepts.
* `decode_congr`: the signature is checked only under keys of the header's algorithm.
* `acceptedClaims_eq_ok_iff`: what is accepted at an instant, by which keys.
* **`verify_characterised`**: when a token is verified, what it yields, and what is reported otherwise.
-/

namespace BlindMint.Session

variable {scheme : Scheme} {credentials : CredentialSettings} {expected : Expectation} {text : String}
  {header : Header} {keys : List CredentialKey} {key : CredentialKey} {claims : SessionClaims}
  {now : Instant} {w : World}

/-! ## A trial with several keys -/

section Trial

variable {decode : CredentialKey → Except TokenFault SessionClaims}

/-- If all keys that accept agree, then it is accepted what any of them accepts. -/
theorem firstAccepted_eq_ok_iff (fault : KeyError)
    (hagree : ∀ k ∈ keys, ∀ c, decode k = .ok c → c = claims) :
    firstAccepted decode fault keys = .ok claims ↔ ∃ key ∈ keys, decode key = .ok claims := by
  constructor
  · exact firstAccepted_eq_ok
  · rintro ⟨key, hkey, hdecode⟩
    induction keys generalizing fault with
    | nil => cases hkey
    | cons head keys ih =>
      unfold firstAccepted
      cases hhead : decode head with
      | ok c => simp [hagree head (by simp) c hhead]
      | error f =>
        rcases List.mem_cons.mp hkey with rfl | hkey
        · rw [hdecode] at hhead
          cases hhead
        · exact ih _ (fun k hk => hagree k (by simp [hk])) hkey

/-- If all keys refuse, then the fault of the last one is reported. -/
theorem firstAccepted_of_refused {last : CredentialKey} (fault : KeyError)
    (hlast : keys.getLast? = some last) (hrefused : ∀ k ∈ keys, ∃ f, decode k = .error f) :
    ∃ f, decode last = .error f ∧ firstAccepted decode fault keys = .error (.token f) := by
  induction keys generalizing fault with
  | nil => cases hlast
  | cons head keys ih =>
    obtain ⟨f, hhead⟩ := hrefused head (by simp)
    unfold firstAccepted
    rw [hhead]
    cases keys with
    | nil =>
      obtain rfl : head = last := by simpa using hlast
      exact ⟨f, hhead, rfl⟩
    | cons next keys =>
      rw [List.getLast?_cons_cons] at hlast
      exact ih (.token f) hlast fun k hk => hrefused k (by simp [hk])

/-- The outcome depends on the keys that are tried alone. -/
theorem firstAccepted_congr {decode' : CredentialKey → Except TokenFault SessionClaims} (fault : KeyError)
    (h : ∀ k ∈ keys, decode' k = decode k) :
    firstAccepted decode' fault keys = firstAccepted decode fault keys := by
  induction keys generalizing fault with
  | nil => rfl
  | cons head keys ih =>
    unfold firstAccepted
    rw [h head (by simp)]
    cases decode head with
    | ok c => rfl
    | error f => exact ih _ fun k hk => h k (by simp [hk])

end Trial

/-! ## The keys that a header points to -/

/-- Whether a header points to a key: by its identifier if it names one, and else by its algorithm. -/
def Header.PointsTo (header : Header) (key : CredentialKey) : Prop :=
  match header.kid with
  | some kid => key.kid = kid
  | none => key.algorithm = header.algorithm

instance (header : Header) (key : CredentialKey) : Decidable (header.PointsTo key) :=
  match header with
  | ⟨_, some kid⟩ => inferInstanceAs (Decidable (key.kid = kid))
  | ⟨algorithm, none⟩ => inferInstanceAs (Decidable (key.algorithm = algorithm))

theorem candidates_eq (header : Header) (keys : List CredentialKey) :
    candidates header keys = keys.filter fun key => header.PointsTo key := by
  obtain ⟨algorithm, kid⟩ := header
  cases kid with
  | none =>
    apply List.filter_congr
    intro key _
    rw [Bool.eq_iff_iff, beq_iff_eq, decide_eq_true_eq]
    rfl
  | some kid =>
    apply List.filter_congr
    intro key _
    rw [Bool.eq_iff_iff, beq_iff_eq, decide_eq_true_eq]
    rfl

theorem mem_candidates_iff : key ∈ candidates header keys ↔ key ∈ keys ∧ header.PointsTo key := by
  simp [candidates_eq]

/-! ## What a key checks -/

/-- A key vouches for a token and its claims: the algorithm is its own, the signature is right, and the payload
holds claims with an expiry, by the expected issuer and for the expected audience. -/
structure Vouches (scheme : Scheme) (expected : Expectation) (text : String) (header : Header)
    (key : CredentialKey) (claims : SessionClaims) : Prop where
  algorithm : key.algorithm = header.algorithm
  signature : ∃ parts signature, Parts.ofText? text.toList = some parts ∧
    Base64.urlSafe.decode? parts.signature = some signature ∧
    scheme.checks key.key (Utf8.encode parts.message) signature = true
  payload : claimsOf? text = some claims
  expiry : 0 ≤ claims.exp
  issuer : claims.iss = expected.issuer
  audience : claims.aud = expected.audience

theorem checkClaims_eq_ok_iff {checked : SessionClaims} :
    checkClaims expected claims = .ok checked ↔
      checked = claims ∧ 0 ≤ claims.exp ∧ claims.iss = expected.issuer ∧ claims.aud = expected.audience := by
  unfold checkClaims
  by_cases hexp : claims.exp < 0
  · simp [hexp, Int64.not_le.mpr hexp]
  · by_cases hiss : claims.iss = expected.issuer
    · by_cases haud : claims.aud = expected.audience
      · simp [hexp, hiss, haud, Int64.not_lt.mp hexp, eq_comm]
      · simp [hexp, hiss, haud]
    · simp [hexp, hiss]

/-- **A key accepts a token just if it vouches for it.** -/
theorem decode_eq_ok_iff (hheader : readHeader text = .ok header) :
    decode scheme expected text key = .ok claims ↔ Vouches scheme expected text header key claims := by
  unfold readHeader at hheader
  cases hparts : Parts.ofText? text.toList with
  | none => simp [hparts] at hheader
  | some parts =>
    have hread : readPart Header.read parts.header = .ok header := by simpa [hparts] using hheader
    constructor
    · intro h
      have hpayload := decode_ok h
      unfold decode at h
      simp only [hparts, hread] at h
      split at h
      · cases h
      · next halgorithm =>
        split at h
        · cases h
        · next signature hsignature =>
          split at h
          · next hchecks =>
            split at h
            · cases h
            · obtain ⟨rfl, hexp, hiss, haud⟩ := checkClaims_eq_ok_iff.mp h
              have hsigned : ∃ parts signature, Parts.ofText? text.toList = some parts ∧
                  Base64.urlSafe.decode? parts.signature = some signature ∧
                  scheme.checks key.key (Utf8.encode parts.message) signature = true :=
                ⟨parts, signature, hparts, hsignature, hchecks⟩
              exact ⟨(Decidable.not_not.mp halgorithm).symm, hsigned, hpayload, hexp, hiss, haud⟩
          · cases h
    · rintro ⟨halgorithm, ⟨parts', signature, hparts', hsignature, hchecks⟩, hpayload, hexp, hiss, haud⟩
      obtain rfl : parts = parts' := Option.some.inj (hparts.symm.trans hparts')
      have hclaims : readPayload parts.payload = .ok claims := by
        unfold claimsOf? at hpayload
        cases h : readPayload parts.payload with
        | error fault => simp [hparts, h, Except.toOption] at hpayload
        | ok read => simpa [hparts, h, Except.toOption] using hpayload
      simp [decode, hparts, hread, halgorithm, hsignature, hchecks, hclaims,
        checkClaims_eq_ok_iff.mpr ⟨rfl, hexp, hiss, haud⟩]

/-- The signature is checked only under a key of the header's algorithm. -/
theorem decode_congr {scheme' : Scheme} (hheader : readHeader text = .ok header)
    (h : key.algorithm = header.algorithm → scheme'.checks key.key = scheme.checks key.key) :
    decode scheme' expected text key = decode scheme expected text key := by
  unfold readHeader at hheader
  unfold decode
  cases hparts : Parts.ofText? text.toList with
  | none => rfl
  | some parts =>
    have hread : readPart Header.read parts.header = .ok header := by simpa [hparts] using hheader
    by_cases halgorithm : header.algorithm = key.algorithm
    · simp [hread, h halgorithm.symm]
    · simp [hread, halgorithm]

/-! ## The whole decision -/

/-- The trial yields what any key accepts to which the header points, for all such keys agree. -/
theorem firstAccepted_candidates_eq_ok_iff (fault : KeyError) :
    firstAccepted (decode scheme expected text) fault (candidates header keys) = .ok claims ↔
      ∃ key ∈ keys, header.PointsTo key ∧ decode scheme expected text key = .ok claims := by
  constructor
  · intro h
    obtain ⟨key, hkey, hdecode⟩ := firstAccepted_eq_ok h
    obtain ⟨hmem, hpoints⟩ := mem_candidates_iff.mp hkey
    exact ⟨key, hmem, hpoints, hdecode⟩
  · rintro ⟨key, hmem, hpoints, hdecode⟩
    refine (firstAccepted_eq_ok_iff fault fun k _ c hc => ?_).mpr
      ⟨key, mem_candidates_iff.mpr ⟨hmem, hpoints⟩, hdecode⟩
    exact Option.some.inj ((decode_ok hc).symm.trans (decode_ok hdecode))

/-- **What is accepted at an instant**: what a key accepts to which the header points, unless it is expired. -/
theorem acceptedClaims_eq_ok_iff :
    acceptedClaims scheme expected text header keys now = .ok claims ↔
      ∃ key ∈ keys, header.PointsTo key ∧ decode scheme expected text key = .ok claims ∧
        now ≤ claims.exp.later expected.leeway.wrapped := by
  have hfirst : ∀ c, firstAccepted (decode scheme expected text) (noKeyFor header.kid) (candidates header keys) =
      .ok c ↔ ∃ key ∈ keys, header.PointsTo key ∧ decode scheme expected text key = .ok c :=
    fun c => firstAccepted_candidates_eq_ok_iff _
  unfold acceptedClaims
  constructor
  · intro h
    cases hd : firstAccepted (decode scheme expected text) (noKeyFor header.kid) (candidates header keys) with
    | error e => simp [hd] at h
    | ok c =>
      by_cases hlate : isExpired c expected.leeway now
      · simp [hd, hlate] at h
      · obtain rfl : c = claims := by simpa [hd, hlate] using h
        obtain ⟨key, hmem, hpoints, hdecode⟩ := (hfirst c).mp hd
        exact ⟨key, hmem, hpoints, hdecode, by simpa [isExpired, Int64.not_lt] using hlate⟩
  · rintro ⟨key, hmem, hpoints, hdecode, hlive⟩
    have hlate : ¬isExpired claims expected.leeway now := by simpa [isExpired, Int64.not_lt] using hlive
    simp [(hfirst claims).mpr ⟨key, hmem, hpoints, hdecode⟩, hlate]

/-- Keys to which the header does not point do not matter, nor does what would be decoded under them. -/
theorem acceptedClaims_congr {scheme' : Scheme} {keys' : List CredentialKey}
    (hcandidates : candidates header keys' = candidates header keys)
    (hdecode : ∀ key ∈ keys, header.PointsTo key →
      decode scheme' expected text key = decode scheme expected text key) :
    acceptedClaims scheme' expected text header keys' now = acceptedClaims scheme expected text header keys now := by
  have hfirst : firstAccepted (decode scheme' expected text) (noKeyFor header.kid) (candidates header keys) =
      firstAccepted (decode scheme expected text) (noKeyFor header.kid) (candidates header keys) := by
    refine firstAccepted_congr _ fun key hkey => ?_
    obtain ⟨hmem, hpoints⟩ := mem_candidates_iff.mp hkey
    exact hdecode key hmem hpoints
  simp [acceptedClaims, hcandidates, hfirst]

theorem noKeyFor_eq (kid : Option String) :
    noKeyFor kid = .tokenRejected ("no validation key for kid " ++
      kid.elim "None" fun kid => "Some(" ++ Text.quoted kid ++ ")") := by
  cases kid <;> rfl

/-- The refusal when the header points to none of the keys. -/
theorem acceptedClaims_of_unknown (hnone : ∀ key ∈ keys, ¬header.PointsTo key) :
    acceptedClaims scheme expected text header keys now = .error (noKeyFor header.kid) := by
  have hcandidates : candidates header keys = [] := by
    rw [List.eq_nil_iff_forall_not_mem]
    intro key hkey
    obtain ⟨hmem, hpoints⟩ := mem_candidates_iff.mp hkey
    exact hnone key hmem hpoints
  simp [acceptedClaims, hcandidates, firstAccepted]

/-- The fault of the last key when all refuse to which the header points. -/
theorem acceptedClaims_of_refused {last : CredentialKey} (now : Instant)
    (hlast : (keys.filter fun key => header.PointsTo key).getLast? = some last)
    (hrefused : ∀ key ∈ keys, header.PointsTo key → ∃ fault, decode scheme expected text key = .error fault) :
    ∃ fault, decode scheme expected text last = .error fault ∧
      acceptedClaims scheme expected text header keys now = .error (.token fault) := by
  rw [← candidates_eq] at hlast
  obtain ⟨fault, hfault, hfirst⟩ := firstAccepted_of_refused (noKeyFor header.kid) hlast fun key hkey =>
    hrefused key (mem_candidates_iff.mp hkey).1 (mem_candidates_iff.mp hkey).2
  exact ⟨fault, hfault, by simp [acceptedClaims, hfirst]⟩

theorem acceptedClaims_of_expired (hkey : key ∈ keys) (hpoints : header.PointsTo key)
    (hdecode : decode scheme expected text key = .ok claims)
    (hlate : claims.exp.later expected.leeway.wrapped < now) :
    acceptedClaims scheme expected text header keys now = .error (.tokenRejected "session token expired") := by
  have hfirst := (firstAccepted_candidates_eq_ok_iff (noKeyFor header.kid)).mpr ⟨key, hkey, hpoints, hdecode⟩
  simp [acceptedClaims, hfirst, isExpired, hlate]

/-! ## Verification -/

/-- A token that can be read is decided upon by the published keys at the present instant. -/
theorem verify_of_keys (hheader : readHeader text = .ok header)
    (hkeys : (CredentialStore.validationKeys credentials w).1 = .ok keys) :
    verify scheme credentials expected text w =
      ((acceptedClaims scheme expected text header keys w.now).mapError .failed,
        (CredentialStore.validationKeys credentials w).2) := by
  have hnow := (CredentialStore.validationKeys_upkeep credentials w).now
  unfold verify
  rw [hheader]
  generalize CredentialStore.validationKeys credentials w = called at hnow hkeys
  obtain ⟨outcome, v⟩ := called
  obtain rfl : outcome = .ok keys := hkeys
  have hv : v.now = w.now := hnow
  simp only [hv]
  cases acceptedClaims scheme expected text header keys w.now <;> rfl

/-- What is known of the verification of a token with a readable header, in a world with published keys. -/
structure Verdict (scheme : Scheme) (credentials : CredentialSettings) (expected : Expectation) (text : String)
    (w : World) (header : Header) (keys : List CredentialKey) : Prop where
  /-- A key accepts the token just if it vouches for it. -/
  vouched : ∀ key claims, decode scheme expected text key = .ok claims ↔
    Vouches scheme expected text header key claims
  /-- The order of the keys does not matter to what is accepted. -/
  reordered : ∀ w' keys', (CredentialStore.validationKeys credentials w').1 = .ok keys' → keys'.Perm keys →
    w'.now = w.now → ∀ claims, (verify scheme credentials expected text w').1 = .ok claims ↔
      (verify scheme credentials expected text w).1 = .ok claims
  /-- The outcome is the same with other keys to which the header does not point. -/
  unpointed : ∀ w' keys', (CredentialStore.validationKeys credentials w').1 = .ok keys' →
    (keys'.filter fun key => header.PointsTo key) = (keys.filter fun key => header.PointsTo key) →
    w'.now = w.now →
      (verify scheme credentials expected text w').1 = (verify scheme credentials expected text w).1
  /-- No signature is checked under a key to which the header does not point or which is of another algorithm. -/
  untried : ∀ scheme' : Scheme, (∀ key ∈ keys, header.PointsTo key → key.algorithm = header.algorithm →
      scheme'.checks key.key = scheme.checks key.key) →
    verify scheme' credentials expected text w = verify scheme credentials expected text w
  /-- Without a key to which the header points, the refusal tells the identifier that the header names. -/
  unknown : (∀ key ∈ keys, ¬header.PointsTo key) →
    (verify scheme credentials expected text w).1 = .error (.failed (.tokenRejected ("no validation key for kid " ++
      header.kid.elim "None" fun kid => "Some(" ++ Text.quoted kid ++ ")")))
  /-- If all keys refuse to which the header points, then the last one's fault is reported. -/
  refused : ∀ last, (keys.filter fun key => header.PointsTo key).getLast? = some last →
    (∀ key ∈ keys, header.PointsTo key → ∃ fault, decode scheme expected text key = .error fault) →
      ∃ fault, decode scheme expected text last = .error fault ∧
        (verify scheme credentials expected text w).1 = .error (.failed (.token fault))
  /-- What a key accepts is refused once it is expired. -/
  expired : ∀ key ∈ keys, header.PointsTo key → ∀ claims, decode scheme expected text key = .ok claims →
    claims.exp.later expected.leeway.wrapped < w.now →
      (verify scheme credentials expected text w).1 = .error (.failed (.tokenRejected "session token expired"))

/-- A token is accepted only if it has a readable header and there are published keys. -/
theorem exists_keys_of_verify (h : (verify scheme credentials expected text w).1 = .ok claims) :
    ∃ header keys, readHeader text = .ok header ∧
      (CredentialStore.validationKeys credentials w).1 = .ok keys := by
  unfold verify at h
  split at h
  · cases h
  · next header hheader =>
    split at h
    · cases h
    · next keys _ hkeys => exact ⟨header, keys, hheader, by rw [hkeys]⟩

/-- What is accepted of a token with a readable header, in a world with published keys. -/
theorem verify_eq_ok_iff_of_keys (hheader : readHeader text = .ok header)
    (hkeys : (CredentialStore.validationKeys credentials w).1 = .ok keys) :
    (verify scheme credentials expected text w).1 = .ok claims ↔
      ∃ key ∈ keys, header.PointsTo key ∧ decode scheme expected text key = .ok claims ∧
        w.now ≤ claims.exp.later expected.leeway.wrapped := by
  rw [verify_of_keys hheader hkeys, ← acceptedClaims_eq_ok_iff]
  cases acceptedClaims scheme expected text header keys w.now <;> simp [Except.mapError]

theorem verdict_of_keys (hheader : readHeader text = .ok header)
    (hkeys : (CredentialStore.validationKeys credentials w).1 = .ok keys) :
    Verdict scheme credentials expected text w header keys := by
  have hverify : verify scheme credentials expected text w =
      ((acceptedClaims scheme expected text header keys w.now).mapError .failed,
        (CredentialStore.validationKeys credentials w).2) := verify_of_keys hheader hkeys
  constructor
  case vouched => exact fun key claims => decode_eq_ok_iff hheader
  case reordered =>
    intro w' keys' hkeys' hperm hnow claims
    rw [verify_eq_ok_iff_of_keys hheader hkeys', verify_eq_ok_iff_of_keys hheader hkeys, hnow]
    simp [hperm.mem_iff]
  case unpointed =>
    intro w' keys' hkeys' hfilter hnow
    rw [← candidates_eq, ← candidates_eq] at hfilter
    rw [hverify, verify_of_keys hheader hkeys', hnow, acceptedClaims_congr hfilter fun _ _ _ => rfl]
  case untried =>
    intro scheme' hagree
    rw [hverify, verify_of_keys hheader hkeys, acceptedClaims_congr rfl]
    exact fun key hmem hpoints => decode_congr hheader (hagree key hmem hpoints)
  case unknown =>
    intro hnone
    rw [hverify, acceptedClaims_of_unknown hnone, noKeyFor_eq]
    rfl
  case refused =>
    intro last hlast hrefused
    obtain ⟨fault, hfault, haccepted⟩ := acceptedClaims_of_refused w.now hlast hrefused
    exact ⟨fault, hfault, by rw [hverify, haccepted]; rfl⟩
  case expired =>
    intro key hkey hpoints claims hdecode hlate
    rw [hverify, acceptedClaims_of_expired hkey hpoints hdecode hlate]
    rfl

/-- **When a session token is accepted**, and what is reported otherwise. -/
theorem verify_characterised (scheme : Scheme) (credentials : CredentialSettings) (expected : Expectation)
    (text : String) (w : World) :
    (∀ claims, (verify scheme credentials expected text w).1 = .ok claims ↔
      ∃ header keys, readHeader text = .ok header ∧
        (CredentialStore.validationKeys credentials w).1 = .ok keys ∧
        ∃ key ∈ keys, header.PointsTo key ∧ decode scheme expected text key = .ok claims ∧
          w.now ≤ claims.exp.later expected.leeway.wrapped) ∧
    ∀ header keys, readHeader text = .ok header →
      (CredentialStore.validationKeys credentials w).1 = .ok keys →
        Verdict scheme credentials expected text w header keys := by
  refine ⟨fun claims => ?_, fun header keys hheader hkeys => verdict_of_keys hheader hkeys⟩
  constructor
  · intro h
    obtain ⟨header, keys, hheader, hkeys⟩ := exists_keys_of_verify h
    exact ⟨header, keys, hheader, hkeys, (verify_eq_ok_iff_of_keys hheader hkeys).mp h⟩
  · rintro ⟨header, keys, hheader, hkeys, haccepted⟩
    exact (verify_eq_ok_iff_of_keys hheader hkeys).mpr haccepted

namespace Sample

open CredentialStore.Sample (next oldKid nextKid)

/-- The key that signed the token. -/
def oldKey : CredentialKey := ⟨"signing", "v1", oldKid, .curve .p256 Http.Sample.point⟩

/-- Another one of the same algorithm. -/
def nextKey : CredentialKey :=
  ⟨"signing", "v2", nextKid, (publicKey? next.key).getD oldKey.key⟩

/-- A world in which the keys that check are kept. -/
def holding (keys : List CredentialKey) (now : Instant) : World :=
  let snapshot : Snapshot := ⟨CredentialStore.Sample.oldCredential, keys⟩
  { now, locator := .shelf {}, snapshots := ⟨[("credentials:signing", ⟨snapshot, 1⟩)]⟩ }

theorem validationKeys_holding (keys : List CredentialKey) (now : Instant) :
    (CredentialStore.validationKeys {} (holding keys now)).1 = .ok keys := by
  rfl

/-- What the issuer of the token expects. -/
def expectation : Expectation := { issuer := "i", audience := "a" }

/-- What another issuer expects. -/
def otherwise : Expectation := { expectation with issuer := "k" }

/-- The claims of the token. -/
def accepted : SessionClaims := ⟨"i", "a", "", 9, 0, "j"⟩

theorem readHeader_token : readHeader Http.Sample.token = .ok ⟨.es256, none⟩ := by
  decide +kernel

theorem decode_old : decode .standard expectation Http.Sample.token oldKey = .ok accepted := by
  decide +kernel

theorem decode_otherwise_next :
    decode .standard otherwise Http.Sample.token nextKey = .error .wrongSignature := by
  decide +kernel

/-- No key accepts the token for another issuer. -/
theorem decode_otherwise (key : CredentialKey) :
    ∃ fault, decode .standard otherwise Http.Sample.token key = .error fault := by
  cases h : decode .standard otherwise Http.Sample.token key with
  | error fault => exact ⟨fault, rfl⟩
  | ok claims =>
    have hvouches := (decode_eq_ok_iff readHeader_token).mp h
    have hclaims : accepted = claims := Option.some.inj ((decode_ok decode_old).symm.trans hvouches.payload)
    have hissuer : accepted.iss = otherwise.issuer := hclaims ▸ hvouches.issuer
    exact absurd hissuer (by decide)

end Sample

/-- A token that names no key is tried with two: it is accepted up to the end of the leeway, in either order of
the keys, and for another issuer it is refused with the last key's fault. -/
theorem verify_characterised_two_keys :
    (verify .standard {} Sample.expectation Http.Sample.token
        (Sample.holding [Sample.nextKey, Sample.oldKey] 69)).1 = .ok Sample.accepted ∧
      (verify .standard {} Sample.expectation Http.Sample.token
        (Sample.holding [Sample.oldKey, Sample.nextKey] 69)).1 = .ok Sample.accepted ∧
      (verify .standard {} Sample.expectation Http.Sample.token
        (Sample.holding [Sample.nextKey, Sample.oldKey] 70)).1 =
          .error (.failed (.tokenRejected "session token expired")) ∧
      (verify .standard {} Sample.otherwise Http.Sample.token
        (Sample.holding [Sample.oldKey, Sample.nextKey] 69)).1 = .error (.failed (.token .wrongSignature)) := by
  obtain ⟨haccepted, hverdict⟩ := verify_characterised .standard {} Sample.expectation Http.Sample.token
    (Sample.holding [Sample.nextKey, Sample.oldKey] 69)
  obtain ⟨-, hlate⟩ := verify_characterised .standard {} Sample.expectation Http.Sample.token
    (Sample.holding [Sample.nextKey, Sample.oldKey] 70)
  obtain ⟨-, hother⟩ := verify_characterised .standard {} Sample.otherwise Http.Sample.token
    (Sample.holding [Sample.oldKey, Sample.nextKey] 69)
  have hok := (haccepted Sample.accepted).mpr ⟨_, _, Sample.readHeader_token,
    Sample.validationKeys_holding _ _, Sample.oldKey, by simp, rfl, Sample.decode_old, by decide⟩
  refine ⟨hok, ?_, ?_, ?_⟩
  · exact ((hverdict _ _ Sample.readHeader_token (Sample.validationKeys_holding _ _)).reordered _ _
      (Sample.validationKeys_holding _ _) (.swap _ _ _) rfl _).mpr hok
  · exact (hlate _ _ Sample.readHeader_token (Sample.validationKeys_holding _ _)).expired Sample.oldKey (by simp)
      rfl _ Sample.decode_old (by decide)
  · obtain ⟨fault, hfault, hreported⟩ :=
      (hother _ _ Sample.readHeader_token (Sample.validationKeys_holding _ _)).refused Sample.nextKey rfl
        fun key _ _ => Sample.decode_otherwise key
    rw [Sample.decode_otherwise_next] at hfault
    obtain rfl := Except.error.inj hfault
    exact hreported

end BlindMint.Session
