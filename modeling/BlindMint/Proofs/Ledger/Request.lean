import BlindMint.Proofs.Ledger.Standing

/-!
# What a request does to the ledger

A request for a token is accepted when it is admitted and the ledger enters its session. Only then is a key
fetched and the primitive asked, and only after the record is saved. Nothing that goes wrong from there on
takes the record back: a session whose signature failed is as closed as one that obtained its token.

## Results

* `Service.accepts_of_accepts?`: what is known of an accepted request.
* `Service.tokens_of_accepts`: an accepted request enters its session and then signs, whatever comes of it.
* `Service.tokens_of_not_accepts`: any other request leaves the ledger alone.
* **`Service.failed_request_keeps_ledger_iff`**: a request that fails leaves the ledger as it was exactly if
  it was not accepted; if it was, its session answers as a duplicate for as long as the record stands.
-/

namespace BlindMint.Http

/-- An acceptance by the ledger: which token it was for, what the token says, and when. -/
structure Acceptance where
  token : String
  claims : SessionClaims
  time : Instant
  deriving DecidableEq, Repr

/-- What the outside says while one request is answered: the signing primitive and the identity check. -/
structure Outside where
  primitive : Primitive
  check : IdentityCheck

namespace Service

/-- A service to which the outside says this. -/
def facing (s : Service) (o : Outside) : Service :=
  { s with
    issuance := s.issuance.map ({ · with primitive := o.primitive })
    verification := s.verification.map ({ · with check := o.check }) }

theorem facing_issuance {s : Service} {issuance : Issuance} (hs : s.issuance = some issuance) (o : Outside) :
    (s.facing o).issuance = some { issuance with primitive := o.primitive } := by
  simp [facing, hs]

/-- The acceptance that a request for a token leads to; none if it is refused before. -/
def accepts? (s : Service) (bearer : Option String) (maskedPoint : String) (w : World) :
    Option Acceptance :=
  match bearer, s.admission bearer maskedPoint w with
  | some token, (.ok a, v) =>
    match a.issuance.enter a.claims v with
    | (.ok .accepted, _) => some ⟨token, a.claims, v.now⟩
    | _ => none
  | _, _ => none

/-- The acceptance that a request leads to. -/
def acceptance? (s : Service) (r : Request) (w : World) : Option Acceptance :=
  match r.maskedPoint? with
  | some maskedPoint => s.accepts? r.bearer? maskedPoint w
  | none => none

variable {s : Service} {issuance : Issuance} {bearer : Option String} {maskedPoint : String}
variable {a : Acceptance} {w : World}

/-! ## Accepted requests -/

theorem admission_of_accepts (h : s.accepts? bearer maskedPoint w = some a) :
    ∃ token admitted u v, bearer = some token ∧ s.admission bearer maskedPoint w = (.ok admitted, u) ∧
      admitted.issuance.enter admitted.claims u = (.ok .accepted, v) ∧
      a = ⟨token, admitted.claims, u.now⟩ := by
  unfold accepts? at h
  split at h
  · next token admitted u hadmission =>
    split at h
    · next v henter => exact ⟨token, admitted, u, v, rfl, hadmission, henter, (Option.some.inj h).symm⟩
    · cases h
  · cases h

/-- What is known of an accepted request: its token holds the claims and is not expired, the session has no
record, and the clock is that of the request. -/
structure Accepts (s : Service) (bearer : Option String) (a : Acceptance) (w : World) : Prop where
  bearer : bearer = some a.token
  claims : Session.claimsOf? a.token = some a.claims
  live : Session.isExpired a.claims s.expectation.leeway a.time = false
  time : a.time = w.now
  fresh : w.issues.find a.claims.jti = []

theorem accepts_of_accepts? (h : s.accepts? bearer maskedPoint w = some a) :
    s.Accepts bearer a w := by
  obtain ⟨token, admitted, u, v, rfl, hadmission, henter, rfl⟩ := admission_of_accepts h
  have hframe := admission_upkeep s (some token) maskedPoint w
  rw [hadmission] at hframe
  obtain ⟨-, presented, hpresented, hclaims, hlive⟩ := admission_ok hadmission
  obtain rfl := Option.some.inj hpresented
  have hfresh := (Issuance.enter_accepted henter).fresh
  rw [hframe.issues] at hfresh
  rw [← hframe.now] at hlive
  exact ⟨rfl, hclaims, hlive, hframe.now, hfresh⟩

/-- **An accepted request enters its session and then signs**, whatever comes of the signature. -/
theorem tokens_of_accepts (hs : s.issuance = some issuance)
    (h : s.accepts? bearer maskedPoint w = some a) :
    ∃ point v, issuance.Entered a.claims w v ∧
      s.tokens bearer maskedPoint w =
        (issuanceReply ((issuance.sign s.keys point v).1.map .issued),
          (issuance.sign s.keys point v).2) := by
  obtain ⟨token, admitted, u, v, -, hadmission, henter, rfl⟩ := admission_of_accepts h
  have hframe := admission_upkeep s bearer maskedPoint w
  rw [hadmission] at hframe
  obtain rfl : admitted.issuance = issuance :=
    Option.some.inj ((admission_ok hadmission).1.symm.trans hs)
  have hentered := Issuance.enter_accepted henter
  refine ⟨admitted.point, v, ⟨?_, ?_, ?_, ?_, ?_⟩, ?_⟩
  · exact hentered.now.trans hframe.now
  · exact hentered.faults.trans hframe.faults
  · rw [← hframe.issues]
    exact hentered.fresh
  · rw [hentered.issues, hframe.issues]
  · exact hentered.primitiveCalls.trans hframe.primitiveCalls
  · unfold tokens Issuance.issue
    rw [hadmission]
    dsimp only
    rw [henter]
    dsimp only
    cases hsign : admitted.issuance.sign s.keys admitted.point v with
    | mk outcome world => cases outcome <;> rfl

/-- A request that is not accepted leaves the ledger alone. -/
theorem tokens_of_not_accepts (h : s.accepts? bearer maskedPoint w = none) :
    SameLedger w (s.tokens bearer maskedPoint w).2 := by
  have hframe := (admission_upkeep s bearer maskedPoint w).sameLedger
  unfold tokens
  split
  · next heq => rwa [heq] at hframe
  · next admitted u heq =>
    rw [heq] at hframe
    obtain ⟨-, token, rfl, -, -⟩ := admission_ok heq
    have hrefused : (admitted.issuance.enter admitted.claims u).1 ≠ .ok .accepted := by
      intro haccepted
      have : s.accepts? (some token) maskedPoint w = some ⟨token, admitted.claims, u.now⟩ := by
        unfold accepts?
        rw [heq]
        dsimp only
        split
        · rfl
        · next hne =>
          exact (hne _ (Prod.ext haccepted rfl)).elim
      rw [h] at this
      cases this
    unfold Issuance.issue
    cases henter : admitted.issuance.enter admitted.claims u with
    | mk outcome v =>
      rw [henter] at hrefused
      have hledger := hframe.trans (Issuance.enter_sameLedger henter hrefused)
      match outcome, hrefused with
      | .error e, _ => exact hledger
      | .ok .duplicate, _ => exact hledger
      | .ok .accepted, hne => exact absurd rfl hne

/-! ## Requests as they arrive -/

variable {r : Request}

theorem accepts_of_acceptance? (h : s.acceptance? r w = some a) : s.Accepts r.bearer? a w := by
  unfold acceptance? at h
  split at h
  · exact accepts_of_accepts? h
  · cases h

theorem respond_of_acceptance (hs : s.issuance = some issuance) (h : s.acceptance? r w = some a) :
    ∃ point v, issuance.Entered a.claims w v ∧
      s.respond r w =
        (Response.ofReply (issuanceReply ((issuance.sign s.keys point v).1.map .issued)),
          (issuance.sign s.keys point v).2) := by
  unfold acceptance? at h
  split at h
  · next maskedPoint hpoint =>
    obtain ⟨point, v, hentered, htokens⟩ := tokens_of_accepts hs h
    refine ⟨point, v, hentered, ?_⟩
    rw [respond_of_maskedPoint hpoint, htokens]
  · cases h

theorem respond_of_no_acceptance (h : s.acceptance? r w = none) : SameLedger w (s.respond r w).2 := by
  unfold acceptance? at h
  split at h
  · next maskedPoint hpoint =>
    rw [respond_of_maskedPoint hpoint]
    exact tokens_of_not_accepts h
  · next hpoint => exact respond_sameLedger hpoint w

theorem respond_rows_of_acceptance (hs : s.issuance = some issuance) (h : s.acceptance? r w = some a) :
    (s.respond r w).2.issues.rows = w.issues.rows ++ [issuance.record a.claims] := by
  obtain ⟨point, v, hentered, hrespond⟩ := respond_of_acceptance hs h
  rw [hrespond, (Issuance.sign_signs issuance s.keys point v).issues, hentered.rows]

/-- A request takes no time. -/
theorem respond_now (hs : s.issuance = some issuance) (r : Request) (w : World) :
    (s.respond r w).2.now = w.now := by
  cases ha : s.acceptance? r w with
  | none => exact (respond_of_no_acceptance ha).now
  | some a =>
    obtain ⟨point, v, hentered, hrespond⟩ := respond_of_acceptance hs ha
    rw [hrespond, (Issuance.sign_signs issuance s.keys point v).now, hentered.now]

theorem respond_primitiveCalls (hs : s.issuance = some issuance) (r : Request) (w : World) :
    w.activity.primitiveCalls ≤ (s.respond r w).2.activity.primitiveCalls := by
  cases ha : s.acceptance? r w with
  | none => exact Nat.le_of_eq (respond_of_no_acceptance ha).primitiveCalls.symm
  | some a =>
    obtain ⟨point, v, hentered, hrespond⟩ := respond_of_acceptance hs ha
    rw [hrespond, ← hentered.primitiveCalls]
    exact (Issuance.sign_signs issuance s.keys point v).asked

/-! ## What failures leave behind -/

/-- A session whose record stands is a duplicate, provided that the store works. -/
theorem respond_of_standing {admitted : Admission} {row : IssueRecord}
    (hpoint : r.maskedPoint? = some maskedPoint)
    (hadmission : (s.admission r.bearer? maskedPoint w).1 = .ok admitted)
    (hrow : row ∈ w.issues.rows) (hsession : row.session = admitted.claims.jti)
    (hfind : w.faults.issueFind = none) (hsave : w.faults.issueSave = none) :
    (s.respond r w).1 = some (.ofProblem
      (.conflict "duplicate_issuance" "an anonymous token was already issued for this session")) := by
  have hframe := admission_upkeep s r.bearer? maskedPoint w
  cases heq : s.admission r.bearer? maskedPoint w with
  | mk outcome u =>
    rw [heq] at hadmission hframe
    obtain rfl : outcome = .ok admitted := hadmission
    have hmem : row ∈ u.issues.find admitted.claims.jti := by
      rw [hframe.issues]
      exact IssueTable.mem_find_iff.mpr ⟨hrow, hsession⟩
    have hfind' : u.faults.issueFind = none := by rw [hframe.faults, hfind]
    have hsave' : u.faults.issueSave = none := by rw [hframe.faults, hsave]
    have htaken : (u.issues.find admitted.claims.jti).isEmpty = false := by
      simpa using List.ne_nil_of_mem hmem
    -- a lookup that misses the record leads to a save, which the table refuses
    have htry : u.tryIssue (admitted.issuance.record admitted.claims) = (.ok .duplicate, u) := by
      unfold World.tryIssue World.lookUpSession World.findIssues World.recordSession World.saveIssue
        Issuance.record
      cases u.faults.issueBlind <;> simp [IssueTable.save_eq, hfind', hsave', htaken]
    have henter : admitted.issuance.enter admitted.claims u =
        (.ok .duplicate, u.count (.issuance LedgerDecision.duplicate.name) 1) := by
      unfold Issuance.enter
      rw [show (⟨admitted.claims.jti, _⟩ : IssueRecord) = admitted.issuance.record admitted.claims
        from rfl, htry]
    rw [respond_of_maskedPoint hpoint]
    unfold tokens
    rw [heq]
    dsimp only
    rw [Issuance.issue_of_duplicate henter]
    rfl

theorem status_of_sign_error {keys : KeyStore} {point : Octets} {e : Failure IssuanceError}
    (h : (issuance.sign keys point w).1 = .error e) {answer : Response}
    (hanswer : Response.ofReply (issuanceReply (.error e)) = some answer) :
    answer.status = 400 ∨ answer.status = 500 := by
  have hcause : e = .overflow ∨ (∃ k, e = .failed (.keys k)) ∨ ∃ p, e = .failed (.primitive p) := by
    unfold Issuance.sign at h
    split at h
    · exact .inl (Except.error.inj h).symm
    · exact .inr (.inl ⟨_, (Except.error.inj h).symm⟩)
    · split at h
      · exact .inr (.inr ⟨_, (Except.error.inj h).symm⟩)
      · cases h
  rcases hcause with rfl | ⟨k, rfl⟩ | ⟨p, rfl⟩
  · cases hanswer
  · obtain rfl := Option.some.inj hanswer
    exact .inr rfl
  · obtain rfl := Option.some.inj hanswer
    cases p with
    | invalidMaskedPoint reason => exact .inl rfl
    | failed reason => exact .inr rfl

/-- **When a failed request leaves the ledger as it was**: exactly if it was not accepted. An accepted one
that fails is answered 400 or 500 or not at all, its record stays, and its token is answered as a duplicate
for as long as the record stands and the store works. -/
theorem failed_request_keeps_ledger_iff (hs : s.issuance = some issuance)
    (hfail : ∀ answer, (s.respond r w).1 = some answer → answer.status ≠ 200) :
    ((s.respond r w).2.issues = w.issues ↔ s.acceptance? r w = none) ∧
    ∀ a, s.acceptance? r w = some a →
      (s.respond r w).2.issues.rows = w.issues.rows ++ [issuance.record a.claims] ∧
      (∀ answer, (s.respond r w).1 = some answer → answer.status = 400 ∨ answer.status = 500) ∧
      ∀ (again : Request) (point : String) (admitted : Admission) (u : World),
        again.maskedPoint? = some point → again.bearer? = some a.token →
        (s.admission again.bearer? point u).1 = .ok admitted →
        issuance.record a.claims ∈ u.issues.rows →
        u.faults.issueFind = none → u.faults.issueSave = none →
        (s.respond again u).1 = some (.ofProblem
          (.conflict "duplicate_issuance" "an anonymous token was already issued for this session")) := by
  refine ⟨⟨fun hsame => ?_, fun hnone => (respond_of_no_acceptance hnone).issues⟩, fun a ha => ?_⟩
  · cases ha : s.acceptance? r w with
    | none => rfl
    | some a =>
      have hrows := respond_rows_of_acceptance hs ha
      rw [hsame] at hrows
      have := congrArg List.length hrows
      simp at this
  · refine ⟨respond_rows_of_acceptance hs ha, fun answer hanswer => ?_, ?_⟩
    · obtain ⟨point, v, -, hrespond⟩ := respond_of_acceptance hs ha
      rw [hrespond] at hanswer
      cases hsign : (issuance.sign s.keys point v).1 with
      | error e =>
        rw [hsign] at hanswer
        exact status_of_sign_error hsign hanswer
      | ok token =>
        rw [hsign] at hanswer
        refine absurd ?_ (hfail answer (by rw [hrespond, hsign]; exact hanswer))
        obtain rfl := Option.some.inj hanswer
        rfl
    · intro again point admitted u hpoint hbearer hadmission hrow hfind hsave
      refine respond_of_standing hpoint hadmission hrow ?_ hfind hsave
      cases heq : s.admission again.bearer? point u with
      | mk outcome v =>
        rw [heq] at hadmission
        obtain rfl : outcome = .ok admitted := hadmission
        obtain ⟨-, token, htoken, hclaims, -⟩ := admission_ok heq
        obtain rfl : a.token = token := Option.some.inj (hbearer.symm.trans htoken)
        have := (accepts_of_acceptance? ha).claims.symm.trans hclaims
        rw [Option.some.inj this]
        rfl

end Service

/-! ## A session that failed -/

namespace Sample

/-- A scalar of the curve P-256. -/
def scalar : Octets := List.replicate 32 3

/-- Its public point. -/
def point : Point :=
  ⟨[89, 26, 183, 113, 235, 188, 253, 109, 156, 185, 9, 77, 16, 101, 40, 173,
    209, 166, 157, 68, 194, 193, 246, 39, 240, 137, 236, 88, 185, 198, 26, 223],
   [159, 78, 106, 191, 13, 4, 92, 12, 105, 58, 60, 104, 173, 124, 151, 202,
    114, 190, 100, 222, 244, 162, 111, 236, 210, 99, 221, 152, 169, 39, 128, 240]⟩

/-- A primitive that signs any masked point but the empty one. -/
def primitive : Primitive := fun request =>
  match request.maskedPoint with
  | [] => .error (.invalidMaskedPoint "empty")
  | octets => .ok ⟨octets.reverse, request.point.x, request.scalar⟩

def issuance : Issuance := { primitive }

def service : Service :=
  { issuance := some issuance, expectation := { issuer := "i", audience := "a" } }

/-- The outside that the service faces by itself; it verifies every pseudonym. -/
def outside : Outside := ⟨primitive, fun _ => .ok true⟩

/-- A certificate that holds the key pair. -/
def certificate (id : String) : CertificateVersion := ⟨id, "v1", 0, .curve ⟨.p256, some scalar, point⟩⟩

/-- A world at the epoch with the certificates that a service needs. -/
def world : World :=
  let shelf : Shelf := {}
  { now := 0,
    locator := .shelf ((shelf.insert (certificate "signing") true).insert (certificate "master") true) }

/-- A token for the session "j" that expires nine seconds after the epoch. -/
def token : String :=
  "eyJhbGciOiJFUzI1NiJ9" ++
  ".eyJpc3MiOiJpIiwiYXVkIjoiYSIsInN1YiI6IiIsImV4cCI6OSwiaWF0IjowLCJqdGkiOiJqIn0" ++
  ".t2X0KviQNMlTF8kG9XRRCRKhbJMd5wz0kE99WgLA2lU9QXPU-UqzCVgUFxGchLjAkWWdMH54QcgWAMqi-aX_QA"

/-- A request that presents a session token with a masked point. -/
def present (token maskedPoint : String) : Request :=
  { method := "POST", target := "/v1/anonymous-tokens",
    headers := [("authorization", "Bearer " ++ token), ("content-type", "application/json")],
    body := "\x7b\"masked_point\":\"" ++ maskedPoint ++ "\"\x7d" }

/-- A request for a token with a masked point. -/
def request (maskedPoint : String) : Request := present token maskedPoint

set_option maxRecDepth 100000 in
/-- A request whose point the primitive rejects is answered 400, leaves its record, and the next one for the
same token is answered 409. -/
theorem respond_rejected :
    (service.respond (request "") world).1.map Response.status = some 400 ∧
      (service.respond (request "") world).2.issues.rows = [⟨"j", 70⟩] ∧
      (service.respond (request "AQ==") (service.respond (request "") world).2).1.map
        Response.status = some 409 := by
  decide +kernel

theorem status_rejected (answer : Response) (h : (service.respond (request "") world).1 = some answer) :
    answer.status ≠ 200 := by
  have hstatus := respond_rejected.1
  rw [h] at hstatus
  have : answer.status = 400 := Option.some.inj hstatus
  omega

end Sample

/-- The ledger after the rejected request, by the general statement. -/
theorem failed_request_keeps_ledger_iff_rejected :
    Sample.service.issuance = some Sample.issuance ∧
      (∀ answer, (Sample.service.respond (Sample.request "") Sample.world).1 = some answer →
        answer.status ≠ 200) ∧
      ((Sample.service.respond (Sample.request "") Sample.world).2.issues = Sample.world.issues ↔
        Sample.service.acceptance? (Sample.request "") Sample.world = none) :=
  ⟨rfl, Sample.status_rejected,
    (Service.failed_request_keeps_ledger_iff rfl Sample.status_rejected).1⟩

/-- A failed request does change the ledger, and its token is then answered as a duplicate. -/
theorem rejected_request_closes_session :
    (∀ answer, (Sample.service.respond (Sample.request "") Sample.world).1 = some answer →
        answer.status ≠ 200) ∧
      (Sample.service.respond (Sample.request "") Sample.world).2.issues ≠ Sample.world.issues ∧
      (Sample.service.respond (Sample.request "AQ==")
        (Sample.service.respond (Sample.request "") Sample.world).2).1.map Response.status = some 409 := by
  refine ⟨Sample.status_rejected, fun hsame => ?_, Sample.respond_rejected.2.2⟩
  have hrows := Sample.respond_rejected.2.1
  rw [hsame] at hrows
  cases hrows

end BlindMint.Http
