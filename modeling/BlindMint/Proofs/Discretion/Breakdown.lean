import BlindMint.Proofs.Admission
import BlindMint.Proofs.Discretion.Operation

/-!
# Where a request breaks down

A request may fail for a reason that is the service's own: a store operation fails, keys cannot be loaded or derived,
the signing primitive fails, the identity check cannot be made. `Breakdown` names the places at which that happens, and
`BreaksAt` says of a request, by the operation that fails, that it breaks down there. It is then answered 500, with the
message of the place and nothing else; and no other request is.

A failure that is about a session token, a masked point that the primitive refuses, and a record that is there when it
is to be saved are no breakdowns: they have answers of their own. A conflict at any other place is one.

## Results

* `respond_of_breaksAt`: how a request is answered that breaks down.
* `exists_breaksAt_of_respond`: a request that is answered 500 breaks down.
-/

namespace BlindMint.Http

/-- A place at which a request breaks down for a reason that is kept from its client. -/
inductive Breakdown where
  | health
  | sessionKeys
  | anonymousKeys
  /-- Loading what checks session tokens. -/
  | credentials
  | ledgerLookup
  | ledgerSave
  /-- Loading or deriving the key pair that signs. -/
  | signingKeys
  | primitive
  | limitLookup
  | identityCheck
  | attemptSave
  deriving DecidableEq

namespace Breakdown

/-- What the client is told. -/
def message : Breakdown → String
  | health => "storage unavailable"
  | sessionKeys => "signing credentials unavailable"
  | anonymousKeys => "anonymous-token keys unavailable"
  | credentials => "signing credentials unavailable"
  | ledgerLookup => "issuance ledger unavailable"
  | ledgerSave => "issuance ledger unavailable"
  | signingKeys => "signing keys unavailable"
  | primitive => "token issuance failed"
  | limitLookup => "verification records unavailable"
  | identityCheck => "identity check unavailable"
  | attemptSave => "verification records unavailable"

/-- The answer to a request that breaks down: status 500, the code of internal failures and the message. -/
def response (b : Breakdown) (r : Request) : Response :=
  let answer := Response.ofProblem (.internal b.message)
  if r.method = "HEAD" then answer.headOnly else answer

theorem response_status (b : Breakdown) (r : Request) : (b.response r).status = 500 := by
  unfold response
  dsimp only
  split <;> rfl

end Breakdown

/-- A request that an endpoint answers. -/
structure Request.Reaches (r : Request) (e : Endpoint) : Prop where
  path : Endpoint.paths.lookup r.path = some e
  method : e.methods.contains r.method = true

/-- The pseudonym of a request for a verification; none if the request is for something else or unreadable. -/
def Request.pseudonym? (r : Request) : Option String :=
  if Endpoint.paths.lookup r.path = some .verifications ∧ r.method = "POST" then
    (r.readBody Service.readVerificationRequest).toOption
  else none

namespace Service

/-- A request for a token is admitted. -/
def Admits (s : Service) (r : Request) (w : World) (a : Admission) (u : World) : Prop :=
  ∃ maskedPoint, r.maskedPoint? = some maskedPoint ∧ s.admission r.bearer? maskedPoint w = (.ok a, u)

/-- A request for a verification is made, of a pseudonym that is not blank. -/
structure Verifies (s : Service) (r : Request) (verification : Verification) (pseudonym : String) : Prop where
  request : r.pseudonym? = some pseudonym
  enabled : s.verification = some verification
  pseudonym : (Text.trim pseudonym).isEmpty = false

end Service

/-- A request breaks down at a place: the operation fails that is performed there, and those before it do not. -/
inductive BreaksAt (s : Service) (r : Request) (w : World) : Breakdown → Prop
  | health {e : StoreError} (hr : r.Reaches .health) (h : w.checkHealth = .error e) : BreaksAt s r w .health
  | sessionKeys {e : KeyError} {v : World} (hr : r.Reaches .sessionKeys)
      (h : CredentialStore.keySet s.credentials w = (.error (.failed e), v)) : BreaksAt s r w .sessionKeys
  | anonymousKeys {e : KeyError} {v : World} (hr : r.Reaches .anonymousKeys)
      (h : s.keys.keySet w = (.error (.failed e), v)) : BreaksAt s r w .anonymousKeys
  | credentials {maskedPoint token : String} {e : KeyError} {v : World}
      (hr : r.maskedPoint? = some maskedPoint) (hs : s.issuance.isSome = true) (hb : r.bearer? = some token)
      (h : Session.verify s.scheme s.credentials s.expectation token w = (.error (.failed e), v))
      (he : e.IsInternal) : BreaksAt s r w .credentials
  | ledgerLookup {a : Service.Admission} {e : StoreError} {u : World} (ha : s.Admits r w a u)
      (h : u.lookUpSession a.claims.jti = .error e) : BreaksAt s r w .ledgerLookup
  | ledgerSave {a : Service.Admission} {e : StoreError} {u v : World} (ha : s.Admits r w a u)
      (hnew : u.lookUpSession a.claims.jti = .ok false)
      (h : u.saveIssue ⟨a.claims.jti, a.issuance.recordExpiry a.claims⟩ = (.error e, v)) (he : ¬e.IsConflict) :
      BreaksAt s r w .ledgerSave
  | signingKeys {a : Service.Admission} {e : KeyError} {u v t : World} (ha : s.Admits r w a u)
      (hentered : a.issuance.enter a.claims u = (.ok .accepted, v))
      (h : s.keys.activeKeyPair v = (.error (.failed e), t)) : BreaksAt s r w .signingKeys
  | primitive {a : Service.Admission} {pair : KeyPair} {reason : String} {u v t : World} (ha : s.Admits r w a u)
      (hentered : a.issuance.enter a.claims u = (.ok .accepted, v))
      (hpair : s.keys.activeKeyPair v = (.ok pair, t))
      (h : a.issuance.primitive ⟨pair.curve, pair.scalar, pair.point, a.point⟩ = .error (.failed reason)) :
      BreaksAt s r w .primitive
  | limitLookup {verification : Verification} {pseudonym : String} {e : StoreError}
      (hr : s.Verifies r verification pseudonym) (h : w.reachesLimit verification.limit pseudonym = .error e) :
      BreaksAt s r w .limitLookup
  | identityCheck {verification : Verification} {pseudonym reason : String}
      (hr : s.Verifies r verification pseudonym)
      (hwithin : w.reachesLimit verification.limit pseudonym = .ok false)
      (h : verification.check pseudonym = .error reason) : BreaksAt s r w .identityCheck
  | attemptSave {verification : Verification} {pseudonym : String} {verified : Bool} {e : StoreError} {v : World}
      (hr : s.Verifies r verification pseudonym)
      (hwithin : w.reachesLimit verification.limit pseudonym = .ok false)
      (hchecked : verification.check pseudonym = .ok verified)
      (h : (verification.ask pseudonym w).2.recordAttempt pseudonym = (.error e, v)) : BreaksAt s r w .attemptSave

variable {s : Service} {r : Request} {w u v : World} {e : Endpoint} {a : Service.Admission}

/-! ## How a request is answered that breaks down -/

theorem respond_of_reaches (h : r.Reaches e) (w : World) :
    s.respond r w = (if r.method = "HEAD" then (s.answer e r w).1.map Response.headOnly else (s.answer e r w).1,
      (s.answer e r w).2) := by
  unfold Service.respond
  simp only [h.path, h.method, if_true]

theorem response_of_answer {b : Breakdown} (h : r.Reaches e)
    (hanswer : (s.answer e r w).1 = some (.ofProblem (.internal b.message))) :
    (s.respond r w).1 = some (b.response r) := by
  rw [respond_of_reaches h, hanswer]
  unfold Breakdown.response
  split <;> rfl

theorem response_of_post {b : Breakdown} (h : r.method = "POST") :
    b.response r = .ofProblem (.internal b.message) := by
  simp [Breakdown.response, h]

theorem method_of_maskedPoint {maskedPoint : String} (h : r.maskedPoint? = some maskedPoint) :
    r.method = "POST" := by
  unfold Request.maskedPoint? at h
  exact (Option.ite_none_right_eq_some.mp h).1.2

theorem method_of_pseudonym {pseudonym : String} (h : r.pseudonym? = some pseudonym) : r.method = "POST" := by
  unfold Request.pseudonym? at h
  exact (Option.ite_none_right_eq_some.mp h).1.2

theorem respond_of_admits (h : s.Admits r w a u) :
    s.respond r w = (Response.ofReply (Service.issuanceReply (a.issuance.issue s.keys a.claims a.point u).1),
      (a.issuance.issue s.keys a.claims a.point u).2) := by
  obtain ⟨maskedPoint, hr, hadmission⟩ := h
  rw [Service.respond_of_maskedPoint hr]
  unfold Service.tokens
  rw [hadmission]

theorem respond_of_verifies {verification : Verification} {pseudonym : String}
    (h : s.Verifies r verification pseudonym) (w : World) :
    s.respond r w = (Response.ofReply (Service.verificationReply (verification.verify pseudonym w).1),
      (verification.verify pseudonym w).2) := by
  have hr := h.request
  unfold Request.pseudonym? at hr
  obtain ⟨⟨hpath, hmethod⟩, hbody⟩ := Option.ite_none_right_eq_some.mp hr
  cases hread : r.readBody Service.readVerificationRequest with
  | error response => simp [hread, Except.toOption] at hbody
  | ok text =>
    obtain rfl : text = pseudonym := by simpa [hread, Except.toOption] using hbody
    simp [Service.respond, hpath, hmethod, Service.answer, hread, Endpoint.methods, Endpoint.isRead,
      Service.verifications, h.enabled, h.pseudonym]

theorem issue_of_enter_error {i : Issuance} {keys : KeyStore} {claims : SessionClaims} {point : Octets}
    {e : StoreError} (h : i.enter claims u = (.error e, v)) :
    i.issue keys claims point u = (.error (.failed (.store e)), v) := by
  unfold Issuance.issue
  rw [h]

theorem issue_of_sign_error {i : Issuance} {keys : KeyStore} {claims : SessionClaims} {point : Octets}
    {e : Failure IssuanceError} {t : World} (hentered : i.enter claims u = (.ok .accepted, v))
    (h : i.sign keys point v = (.error e, t)) : i.issue keys claims point u = (.error e, t) := by
  unfold Issuance.issue
  rw [hentered]
  dsimp only
  rw [h]

theorem enter_of_lookUp_error {i : Issuance} {claims : SessionClaims} {e : StoreError}
    (h : u.lookUpSession claims.jti = .error e) : i.enter claims u = (.error e, u) := by
  simp [Issuance.enter, World.tryIssue, h]

theorem enter_of_save_error {i : Issuance} {claims : SessionClaims} {e : StoreError}
    (hnew : u.lookUpSession claims.jti = .ok false)
    (h : u.saveIssue ⟨claims.jti, i.recordExpiry claims⟩ = (.error e, v)) (he : ¬e.IsConflict) :
    i.enter claims u = (.error e, v) := by
  simp [Issuance.enter, World.tryIssue, hnew, recordSession_of_error he h]

/-- **A request that breaks down** is answered with the place's message, and with nothing of the failure. -/
theorem respond_of_breaksAt {b : Breakdown} (h : BreaksAt s r w b) : (s.respond r w).1 = some (b.response r) := by
  cases h with
  | health hr h =>
    refine response_of_answer hr ?_
    simp only [Service.answer, Service.health, h]
    rfl
  | sessionKeys hr h =>
    refine response_of_answer hr ?_
    simp only [Service.answer, Service.sessionKeys, Service.publish, h]
    rfl
  | anonymousKeys hr h =>
    refine response_of_answer hr ?_
    simp only [Service.answer, Service.anonymousKeys, Service.publish, h]
    rfl
  | @credentials maskedPoint token e v hr hs hb h he =>
    obtain ⟨issuance, hissuance⟩ := Option.isSome_iff_exists.mp hs
    rw [Service.respond_of_maskedPoint hr, response_of_post (method_of_maskedPoint hr)]
    simp only [Service.tokens, Service.admission, hissuance, hb, h]
    cases e <;> first | exact absurd he id | rfl
  | ledgerLookup ha h =>
    rw [respond_of_admits ha, issue_of_enter_error (enter_of_lookUp_error h),
      response_of_post (method_of_maskedPoint ha.choose_spec.1)]
    rfl
  | ledgerSave ha hnew h he =>
    rw [respond_of_admits ha, issue_of_enter_error (enter_of_save_error hnew h he),
      response_of_post (method_of_maskedPoint ha.choose_spec.1)]
    rfl
  | @signingKeys a e u v t ha hentered h =>
    have hsign : a.issuance.sign s.keys a.point v = (.error (.failed (.keys e)), t) := by
      simp only [Issuance.sign, h]
    rw [respond_of_admits ha, issue_of_sign_error hentered hsign,
      response_of_post (method_of_maskedPoint ha.choose_spec.1)]
    rfl
  | @primitive a pair reason u v t ha hentered hpair h =>
    have hsign : (a.issuance.sign s.keys a.point v).1 = .error (.failed (.primitive (.failed reason))) := by
      simp only [Issuance.sign, hpair, Issuance.ask, h]
    rw [respond_of_admits ha, issue_of_sign_error hentered (Prod.ext hsign rfl),
      response_of_post (method_of_maskedPoint ha.choose_spec.1)]
    rfl
  | limitLookup hr h =>
    rw [respond_of_verifies hr, response_of_post (method_of_pseudonym hr.request)]
    simp only [Verification.verify, Verification.judge, h]
    rfl
  | identityCheck hr hwithin h =>
    rw [respond_of_verifies hr, response_of_post (method_of_pseudonym hr.request)]
    simp only [Verification.verify, Verification.judge, hwithin, Verification.attempt, Verification.ask, h]
    rfl
  | attemptSave hr hwithin hchecked h =>
    rw [respond_of_verifies hr, response_of_post (method_of_pseudonym hr.request)]
    simp only [Verification.ask] at h
    simp only [Verification.verify, Verification.judge, hwithin, Verification.attempt, Verification.ask, hchecked, h]
    rfl

/-! ## Nothing else is answered so -/

theorem exists_of_ofReply {reply : Reply} {response : Response} (h : Response.ofReply reply = some response)
    (hstatus : response.status = 500) : ∃ p, reply = .error (.failed p) ∧ p.status = 500 := by
  rcases reply with (p | _) | document
  · obtain rfl := Option.some.inj h
    exact ⟨p, rfl, hstatus⟩
  · cases h
  · obtain rfl := Option.some.inj h
    cases hstatus

theorem status_of_readBody {β : Type} {reader : Json.Reader β} {response : Response}
    (h : r.readBody reader = .error response) : response.status ≠ 500 := by
  unfold Request.readBody at h
  split at h
  · split at h
    · cases h
    · obtain rfl := Except.error.inj h
      decide
    · obtain rfl := Except.error.inj h
      decide
  · obtain rfl := Except.error.inj h
    decide

theorem exists_of_publish {unavailable : String} {keys : Except (Failure KeyError) KeySet × World} {p : Problem}
    (h : (Service.publish unavailable keys).1 = .error (.failed p)) : ∃ e v, keys = (.error (.failed e), v) := by
  obtain ⟨(e | _) | set, v⟩ := keys
  · exact ⟨e, v, rfl⟩
  · cases h
  · cases h

/-- The ledger fails in its lookup, or in saving a record, of which a conflict is no failure. -/
theorem of_enter_error {i : Issuance} {claims : SessionClaims} {e : StoreError}
    (h : i.enter claims u = (.error e, v)) :
    u.lookUpSession claims.jti = .error e ∨ u.lookUpSession claims.jti = .ok false ∧
      u.saveIssue ⟨claims.jti, i.recordExpiry claims⟩ = (.error e, v) ∧ ¬e.IsConflict := by
  unfold Issuance.enter World.tryIssue at h
  cases hfound : u.lookUpSession claims.jti with
  | error e' =>
    rw [hfound] at h
    exact .inl (congrArg Except.error (Except.error.inj (Prod.mk.inj h).1))
  | ok found =>
    cases found with
    | true =>
      rw [hfound] at h
      cases h
    | false =>
      rw [hfound] at h
      dsimp only at h
      cases hsaved : u.saveIssue ⟨claims.jti, i.recordExpiry claims⟩ with
      | mk saved t =>
        cases saved with
        | ok =>
          simp only [World.recordSession, hsaved] at h
          cases h
        | error e' =>
          by_cases he : e'.IsConflict
          · rw [recordSession_of_conflict he hsaved] at h
            cases h
          · rw [recordSession_of_error he hsaved] at h
            obtain ⟨heq, rfl⟩ := Prod.mk.inj h
            obtain rfl := Except.error.inj heq
            exact .inr ⟨rfl, rfl, he⟩

theorem exists_of_admission {maskedPoint : String} {p : Problem} (hr : r.maskedPoint? = some maskedPoint)
    (h : s.admission r.bearer? maskedPoint w = (.error (.failed p), u)) (hp : p.status = 500) :
    ∃ b, BreaksAt s r w b := by
  unfold Service.admission at h
  split at h
  · obtain rfl := Failure.failed.inj (Except.error.inj (Prod.mk.inj h).1)
    cases hp
  · next issuance hissuance =>
    split at h
    · obtain rfl := Failure.failed.inj (Except.error.inj (Prod.mk.inj h).1)
      cases hp
    · next token hbearer =>
      split at h
      · cases h
      · next e v hverify =>
        obtain rfl := Failure.failed.inj (Except.error.inj (Prod.mk.inj h).1)
        refine ⟨_, .credentials hr (by rw [hissuance]; rfl) hbearer hverify ?_⟩
        cases e <;> first | exact trivial | cases hp
      · split at h
        · obtain rfl := Failure.failed.inj (Except.error.inj (Prod.mk.inj h).1)
          cases hp
        · cases h

theorem exists_of_sign {p : Problem} (ha : s.Admits r w a u)
    (hentered : a.issuance.enter a.claims u = (.ok .accepted, v))
    (h : Service.issuanceReply (a.issuance.issue s.keys a.claims a.point u).1 = .error (.failed p))
    (hp : p.status = 500) : ∃ b, BreaksAt s r w b := by
  simp only [Issuance.issue, hentered, Issuance.sign] at h
  rcases hpair : s.keys.activeKeyPair v with ⟨(e | _) | pair, t⟩
  · exact ⟨_, .signingKeys ha hentered hpair⟩
  · rw [hpair] at h
    cases h
  · rw [hpair] at h
    dsimp only [Issuance.ask] at h
    cases hcall : a.issuance.primitive ⟨pair.curve, pair.scalar, pair.point, a.point⟩ with
    | ok signature =>
      rw [hcall] at h
      cases h
    | error e =>
      cases e with
      | failed reason => exact ⟨_, .primitive ha hentered hpair hcall⟩
      | invalidMaskedPoint reason =>
        rw [hcall] at h
        obtain rfl := Failure.failed.inj (Except.error.inj h)
        cases hp

theorem exists_of_issue {p : Problem} (ha : s.Admits r w a u)
    (h : Service.issuanceReply (a.issuance.issue s.keys a.claims a.point u).1 = .error (.failed p))
    (hp : p.status = 500) : ∃ b, BreaksAt s r w b := by
  rcases hentered : a.issuance.enter a.claims u with ⟨e | decision, v⟩
  · obtain hfound | ⟨hnew, hsaved, he⟩ := of_enter_error hentered
    · exact ⟨_, .ledgerLookup ha hfound⟩
    · exact ⟨_, .ledgerSave ha hnew hsaved he⟩
  · cases decision with
    | accepted => exact exists_of_sign ha hentered h hp
    | duplicate =>
      rw [Issuance.issue_of_duplicate hentered] at h
      obtain rfl := Failure.failed.inj (Except.error.inj h)
      cases hp

theorem exists_of_verify {verification : Verification} {pseudonym : String} {p : Problem}
    (hr : s.Verifies r verification pseudonym)
    (h : Service.verificationReply (verification.verify pseudonym w).1 = .error (.failed p)) (hp : p.status = 500) :
    ∃ b, BreaksAt s r w b := by
  cases hreached : w.reachesLimit verification.limit pseudonym with
  | error e => exact ⟨_, .limitLookup hr hreached⟩
  | ok reached =>
    cases reached with
    | true =>
      rw [Verification.verify_of_limitReached hreached] at h
      obtain rfl := Failure.failed.inj (Except.error.inj h)
      cases hp
    | false =>
      cases hcheck : verification.check pseudonym with
      | error reason => exact ⟨_, .identityCheck hr hreached hcheck⟩
      | ok verified =>
        rcases hsaved : (verification.ask pseudonym w).2.recordAttempt pseudonym with ⟨e | _, v⟩
        · exact ⟨_, .attemptSave hr hreached hcheck hsaved⟩
        · simp only [Verification.ask] at hsaved
          simp only [Verification.verify, Verification.judge, hreached, Verification.attempt, Verification.ask, hcheck,
            hsaved] at h
          cases verified <;> cases h

theorem exists_of_answer {answer : Response} (hr : r.Reaches e) (h : (s.answer e r w).1 = some answer)
    (hstatus : answer.status = 500) : ∃ b, BreaksAt s r w b := by
  cases e with
  | health =>
    have hanswer : Response.ofReply (Service.health w) = some answer := h
    obtain ⟨p, hreply, -⟩ := exists_of_ofReply hanswer hstatus
    cases hcheck : w.checkHealth with
    | error e => exact ⟨_, .health hr hcheck⟩
    | ok =>
      simp only [Service.health, hcheck] at hreply
      cases hreply
  | sessionKeys =>
    have hanswer : Response.ofReply (s.sessionKeys w).1 = some answer := h
    obtain ⟨p, hreply, -⟩ := exists_of_ofReply hanswer hstatus
    obtain ⟨e, v, hkeys⟩ := exists_of_publish hreply
    exact ⟨_, .sessionKeys hr hkeys⟩
  | anonymousKeys =>
    have hanswer : Response.ofReply (s.anonymousKeys w).1 = some answer := h
    obtain ⟨p, hreply, -⟩ := exists_of_ofReply hanswer hstatus
    obtain ⟨e, v, hkeys⟩ := exists_of_publish hreply
    exact ⟨_, .anonymousKeys hr hkeys⟩
  | tokens =>
    have hpost : r.method = "POST" := by simpa [Endpoint.methods, Endpoint.isRead] using hr.method
    unfold Service.answer at h
    cases hread : r.readBody Service.readTokenRequest with
    | error response =>
      simp only [hread] at h
      obtain rfl := Option.some.inj h
      exact absurd hstatus (status_of_readBody hread)
    | ok maskedPoint =>
      simp only [hread] at h
      have hpoint : r.maskedPoint? = some maskedPoint := by
        simp [Request.maskedPoint?, hr.path, hpost, hread, Except.toOption]
      obtain ⟨p, hreply, hp⟩ := exists_of_ofReply h hstatus
      unfold Service.tokens at hreply
      rcases hadmission : s.admission r.bearer? maskedPoint w with ⟨outcome | a, u⟩
      · rw [hadmission] at hreply
        obtain rfl := Except.error.inj hreply
        exact exists_of_admission hpoint hadmission hp
      · rw [hadmission] at hreply
        exact exists_of_issue ⟨maskedPoint, hpoint, hadmission⟩ hreply hp
  | verifications =>
    have hpost : r.method = "POST" := by simpa [Endpoint.methods, Endpoint.isRead] using hr.method
    unfold Service.answer at h
    cases hread : r.readBody Service.readVerificationRequest with
    | error response =>
      simp only [hread] at h
      obtain rfl := Option.some.inj h
      exact absurd hstatus (status_of_readBody hread)
    | ok pseudonym =>
      simp only [hread] at h
      have hrequest : r.pseudonym? = some pseudonym := by
        simp [Request.pseudonym?, hr.path, hpost, hread, Except.toOption]
      obtain ⟨p, hreply, hp⟩ := exists_of_ofReply h hstatus
      unfold Service.verifications at hreply
      split at hreply
      · obtain rfl := Failure.failed.inj (Except.error.inj hreply)
        cases hp
      · next verification hverification =>
        split at hreply
        · obtain rfl := Failure.failed.inj (Except.error.inj hreply)
          cases hp
        · next hblank =>
          exact exists_of_verify ⟨hrequest, hverification, by simpa using hblank⟩ hreply hp

/-- **A request that is answered 500** breaks down. -/
theorem exists_breaksAt_of_respond {response : Response} (h : (s.respond r w).1 = some response)
    (hstatus : response.status = 500) : ∃ b, BreaksAt s r w b := by
  cases hpath : Endpoint.paths.lookup r.path with
  | none =>
    rw [Service.respond_of_unknown hpath] at h
    obtain rfl := Option.some.inj h
    cases hstatus
  | some e =>
    by_cases hmethod : e.methods.contains r.method = true
    · have hr : r.Reaches e := ⟨hpath, hmethod⟩
      rw [respond_of_reaches hr] at h
      dsimp only at h
      split at h
      · obtain ⟨answer, hanswer, rfl⟩ := Option.map_eq_some_iff.mp h
        exact exists_of_answer hr hanswer hstatus
      · exact exists_of_answer hr h hstatus
    · simp only [Service.respond, hpath, hmethod, Bool.false_eq_true, if_false] at h
      obtain rfl := Option.some.inj h
      cases hstatus

end BlindMint.Http
