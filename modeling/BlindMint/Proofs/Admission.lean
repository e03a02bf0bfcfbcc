import BlindMint.Proofs.Frame

/-!
# Which requests are admitted

A request for a token is admitted when issuance is enabled, the bearer's session token is accepted at the
present instant and the masked point can be read. What such a token says is a function of its text alone:
no key and no instant enters into it.

## Results

* `Session.verify_ok`: an accepted token yields the claims its text holds, and they are not expired.
* `Service.admission_ok`: what is known of an admitted request.
* `Service.respond_of_maskedPoint`, `Service.respond_sameLedger`: a request either is a request for a token
  or leaves the ledger alone.
-/

namespace BlindMint

/-! ## Session tokens -/

namespace Session

/-- The claims that the text of a token holds, whoever signed it. -/
def claimsOf? (text : String) : Option SessionClaims :=
  match Parts.ofText? text.toList with
  | none => none
  | some parts => (readPayload parts.payload).toOption

variable {scheme : Scheme} {expected : Expectation} {text : String} {claims : SessionClaims}

theorem checkClaims_ok {checked : SessionClaims} (h : checkClaims expected claims = .ok checked) :
    checked = claims := by
  unfold checkClaims at h
  split at h
  · cases h
  · split at h
    · cases h
    · split at h
      · cases h
      · exact (Except.ok.inj h).symm

theorem decode_ok {key : CredentialKey} (h : decode scheme expected text key = .ok claims) :
    claimsOf? text = some claims := by
  unfold decode at h
  split at h
  · cases h
  · next parts hparts =>
    split at h
    · cases h
    · split at h
      · cases h
      · split at h
        · cases h
        · split at h
          · split at h
            · cases h
            · next read hread =>
              obtain rfl := checkClaims_ok h
              simp [claimsOf?, hparts, hread, Except.toOption]
          · cases h

theorem acceptedClaims_ok {header : Header} {keys : List CredentialKey} {now : Instant}
    (h : acceptedClaims scheme expected text header keys now = .ok claims) :
    claimsOf? text = some claims ∧ isExpired claims expected.leeway now = false := by
  unfold acceptedClaims at h
  split at h
  · cases h
  · next decoded hd =>
    split at h
    · cases h
    · next hlive =>
      obtain rfl := Except.ok.inj h
      obtain ⟨key, -, hkey⟩ := firstAccepted_eq_ok hd
      exact ⟨decode_ok hkey, by simpa using hlive⟩

/-- **An accepted token yields the claims its text holds**, and they are not expired. -/
theorem verify_ok {credentials : CredentialSettings} {w v : World}
    (h : verify scheme credentials expected text w = (.ok claims, v)) :
    claimsOf? text = some claims ∧ isExpired claims expected.leeway w.now = false := by
  unfold verify at h
  split at h
  · cases h
  · have hkeys := CredentialStore.validationKeys_upkeep credentials w
    split at h
    · cases h
    · next u heq =>
      rw [heq] at hkeys
      split at h
      · cases h
      · next accepted haccepted =>
        obtain ⟨hclaims, -⟩ := Prod.mk.inj h
        obtain rfl := Except.ok.inj hclaims
        rw [← hkeys.now]
        exact acceptedClaims_ok haccepted

end Session

/-! ## Requests for a token -/

namespace Http

/-- The masked point of a request for a token; none if the request is for something else or unreadable. -/
def Request.maskedPoint? (r : Request) : Option String :=
  if Endpoint.paths.lookup r.path = some .tokens ∧ r.method = "POST" then
    (r.readBody Service.readTokenRequest).toOption
  else none

namespace Service

variable {s : Service} {bearer : Option String} {maskedPoint : String} {w v : World}

theorem admission_upkeep (s : Service) (bearer : Option String) (maskedPoint : String) (w : World) :
    Upkeep w (s.admission bearer maskedPoint w).2 := by
  unfold admission
  split
  · exact .refl w
  · split
    · exact .refl w
    · next token =>
      have h := Session.verify_upkeep s.scheme s.credentials s.expectation token w
      split
      · next heq => rwa [heq] at h
      · next heq => rwa [heq] at h
      · next heq =>
        rw [heq] at h
        split <;> exact h

/-- **What is known of an admitted request**: issuance is enabled, and the bearer's token holds the claims
and is not expired. -/
theorem admission_ok {a : Admission} (h : s.admission bearer maskedPoint w = (.ok a, v)) :
    s.issuance = some a.issuance ∧ ∃ token, bearer = some token ∧
      Session.claimsOf? token = some a.claims ∧
      Session.isExpired a.claims s.expectation.leeway w.now = false := by
  unfold admission at h
  split at h
  · cases h
  · next issuance hissuance =>
    split at h
    · cases h
    · next token =>
      split at h
      · cases h
      · cases h
      · next claims u hverify =>
        split at h
        · cases h
        · obtain ⟨ha, -⟩ := Prod.mk.inj h
          obtain rfl := Except.ok.inj ha
          obtain ⟨hclaims, hlive⟩ := Session.verify_ok hverify
          exact ⟨hissuance, token, rfl, hclaims, hlive⟩

theorem respond_of_maskedPoint {r : Request} (h : r.maskedPoint? = some maskedPoint) (w : World) :
    s.respond r w = (Response.ofReply (s.tokens r.bearer? maskedPoint w).1,
      (s.tokens r.bearer? maskedPoint w).2) := by
  unfold Request.maskedPoint? at h
  split at h
  · next hpost =>
    obtain ⟨hpath, hmethod⟩ := hpost
    cases hbody : r.readBody readTokenRequest with
    | error response => simp [hbody, Except.toOption] at h
    | ok text =>
      obtain rfl : text = maskedPoint := by simpa [hbody, Except.toOption] using h
      simp [respond, hpath, hmethod, answer, hbody, Endpoint.methods, Endpoint.isRead]
  · cases h

theorem publish_snd {text : String} {keys : Except (Failure KeyError) KeySet × World} :
    (publish text keys).2 = keys.2 := by
  obtain ⟨outcome, u⟩ := keys
  rcases outcome with (_ | e) | set <;> rfl

theorem verifications_sameLedger (s : Service) (pseudonym : String) (w : World) :
    SameLedger w (s.verifications pseudonym w).2 := by
  unfold verifications
  split
  · exact .refl w
  · next verification _ =>
    split
    · exact .refl w
    · exact Verification.verification_sameLedger verification pseudonym w

/-- A request that is not a request for a token leaves the ledger alone. -/
theorem respond_sameLedger {r : Request} (h : r.maskedPoint? = none) (w : World) :
    SameLedger w (s.respond r w).2 := by
  have hanswer : ∀ e, Endpoint.paths.lookup r.path = some e → e.methods.contains r.method = true →
      SameLedger w (s.answer e r w).2 := by
    intro e hpath hmethod
    cases e with
    | health => exact .refl w
    | sessionKeys =>
      show SameLedger w (publish _ (CredentialStore.keySet s.credentials w)).2
      rw [publish_snd]
      exact (CredentialStore.keySet_upkeep s.credentials w).sameLedger
    | anonymousKeys =>
      show SameLedger w (publish _ (s.keys.keySet w)).2
      rw [publish_snd]
      exact (KeyStore.keySet_upkeep s.keys w).sameLedger
    | tokens =>
      have hpost : r.method = "POST" := by
        simpa [Endpoint.methods, Endpoint.isRead] using hmethod
      have hbody : (r.readBody readTokenRequest).toOption = none := by
        simpa [Request.maskedPoint?, hpath, hpost] using h
      unfold answer
      cases hb : r.readBody readTokenRequest with
      | error response => exact .refl w
      | ok text => simp [hb, Except.toOption] at hbody
    | verifications =>
      unfold answer
      cases hb : r.readBody readVerificationRequest with
      | error response => exact .refl w
      | ok pseudonym => exact verifications_sameLedger s pseudonym w
  unfold respond
  split
  · exact .refl w
  · next e hpath =>
    split
    · next hmethod => exact hanswer e hpath hmethod
    · exact .refl w

end Service

end Http

end BlindMint
