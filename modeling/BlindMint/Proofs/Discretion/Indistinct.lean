import BlindMint.Proofs.Discretion.Breakdown
import BlindMint.Proofs.Sweep.Unseen

/-!
# Failures cannot be told apart

What a client learns of a failure inside the service is the place at which its request broke down, by a message that
is fixed for the place. Let two services have the same settings and collaborators that differ in failures alone, and
let two worlds differ in nothing else: then a request is answered the same by both, and the worlds after it again
differ in nothing else. So two runs cannot be told apart by any number of requests, whatever changes beside them as
long as it changes both worlds in that manner.

## Results

* `respond_veiled`: one request in two such worlds.
* `responses_veiled`: two runs.
* **`discreet`**: how a request is answered that breaks down, and what that depends on.
-/

namespace BlindMint.Http

/-- Two services with the same settings whose collaborators differ in failures that are kept from clients. -/
structure Service.Veiled (s t : Service) : Prop where
  keys : s.keys.Veiled t.keys
  credentials : t.credentials = s.credentials
  expectation : t.expectation = s.expectation
  scheme : t.scheme = s.scheme
  issuance : Option.Rel Issuance.Veiled s.issuance t.issuance
  verification : Option.Rel Verification.Veiled s.verification t.verification

/-- What the outside says to one request of each of two runs, with failures that are kept from clients. -/
structure Outside.Veiled (o o' : Outside) : Prop where
  primitive : ∀ request, Blurred PrimitiveError.Veiled (o.primitive request) (o'.primitive request)
  check : ∀ pseudonym, Blurred Any (o.check pseudonym) (o'.check pseudonym)

/-- Two worlds that differ, for a service, in failures that are kept from its clients. -/
abbrev Service.Veils (s : Service) (w v : World) : Prop :=
  w.Veiled s.keys.settings.masterId s.credentials v

variable {s t : Service} {w v : World}

theorem Service.Veiled.facing (hs : s.Veiled t) {o o' : Outside} (ho : o.Veiled o') :
    (s.facing o).Veiled (t.facing o') where
  keys := hs.keys
  credentials := hs.credentials
  expectation := hs.expectation
  scheme := hs.scheme
  issuance := by
    have hissuance := hs.issuance
    unfold Service.facing
    generalize s.issuance = issuance at hissuance ⊢
    generalize t.issuance = issuance' at hissuance ⊢
    cases hissuance with
    | none => exact .none
    | some hi => exact .some ⟨hi.sessionLeeway, ho.primitive⟩
  verification := by
    have hverification := hs.verification
    unfold Service.facing
    generalize s.verification = verification at hverification ⊢
    generalize t.verification = verification' at hverification ⊢
    cases hverification with
    | none => exact .none
    | some hv => exact .some ⟨hv.limit, ho.check⟩

/-! ## Replies -/

theorem sessionProblem_veiled {e e' : KeyError} (h : e.Veiled e') :
    Service.sessionProblem e = Service.sessionProblem e' := by
  cases h with
  | same => rfl
  | internal he he' => cases e <;> cases e' <;> first | rfl | exact absurd he id | exact absurd he' id

theorem issuanceReply_veiled {outcome outcome' : Except (Failure IssuanceError) IssuanceOutcome}
    (h : Blurred (Failure.Veiled IssuanceError.Veiled) outcome outcome') :
    Service.issuanceReply outcome = Service.issuanceReply outcome' := by
  cases h with
  | ok => rfl
  | error he =>
    cases he with
    | overflow => rfl
    | failed he =>
      cases he with
      | store => rfl
      | keys => rfl
      | primitive he => cases he <;> rfl

theorem verificationReply_veiled {outcome outcome' : Except VerificationError VerificationOutcome}
    (h : Blurred VerificationError.Veiled outcome outcome') :
    Service.verificationReply outcome = Service.verificationReply outcome' := by
  cases h with
  | ok => rfl
  | error he => cases he <;> rfl

theorem health_veiled (h : s.Veils w v) : Service.health w = Service.health v := by
  have hfault := h.faults.health
  unfold Service.health World.checkHealth
  generalize w.faults.health = fault at hfault ⊢
  generalize v.faults.health = fault' at hfault ⊢
  cases hfault <;> rfl

/-- What is published is the same, or why nothing is. -/
theorem publish_veiled {masterId unavailable : String} {c : CredentialSettings}
    {op op' : World → Except (Failure KeyError) KeySet × World}
    (hop : BlindMint.Veils masterId c (Failure.Veiled KeyError.Veiled) op op') (h : w.Veiled masterId c v) :
    (Service.publish unavailable (op w)).1 = (Service.publish unavailable (op' v)).1 ∧
      (Service.publish unavailable (op w)).2.Veiled masterId c (Service.publish unavailable (op' v)).2 := by
  obtain ⟨keys, keys', w', v', hw, hv, hkeys, hveiled⟩ := hop.run h
  rw [hw, hv]
  cases hkeys with
  | ok set => exact ⟨rfl, hveiled⟩
  | error he => cases he <;> exact ⟨rfl, hveiled⟩

theorem tokens_veiled (hs : s.Veiled t) (bearer : Option String) (maskedPoint : String) (h : s.Veils w v) :
    (s.tokens bearer maskedPoint w).1 = (t.tokens bearer maskedPoint v).1 ∧
      s.Veils (s.tokens bearer maskedPoint w).2 (t.tokens bearer maskedPoint v).2 := by
  have hissuance := hs.issuance
  unfold Service.tokens Service.admission
  generalize s.issuance = issuance at hissuance ⊢
  generalize t.issuance = issuance' at hissuance ⊢
  cases hissuance with
  | none => exact ⟨rfl, h⟩
  | @some i i' hi =>
    cases bearer with
    | none => exact ⟨rfl, h⟩
    | some token =>
      obtain ⟨claims, claims', w', v', hw, hv, hclaims, hveiled⟩ :=
        (Session.verify_veils s.keys.settings.masterId s.scheme s.expectation token).run h
      dsimp only
      rw [hs.scheme, hs.credentials, hs.expectation, hw, hv]
      cases hclaims with
      | error he =>
        cases he with
        | overflow => exact ⟨rfl, hveiled⟩
        | failed he => exact ⟨congrArg refuse (sessionProblem_veiled he), hveiled⟩
      | ok claims =>
        dsimp only
        cases Base64.standard.decode? maskedPoint.toList with
        | none => exact ⟨rfl, hveiled⟩
        | some point =>
          obtain ⟨houtcome, hveiled'⟩ := Issuance.issue_veils hi hs.keys s.credentials claims point hveiled
          exact ⟨issuanceReply_veiled houtcome, hveiled'⟩

theorem verifications_veiled (hs : s.Veiled t) (pseudonym : String) (h : s.Veils w v) :
    (s.verifications pseudonym w).1 = (t.verifications pseudonym v).1 ∧
      s.Veils (s.verifications pseudonym w).2 (t.verifications pseudonym v).2 := by
  have hverification := hs.verification
  unfold Service.verifications
  generalize s.verification = verification at hverification ⊢
  generalize t.verification = verification' at hverification ⊢
  cases hverification with
  | none => exact ⟨rfl, h⟩
  | some hv =>
    dsimp only
    split
    · exact ⟨rfl, h⟩
    · obtain ⟨houtcome, hveiled⟩ := Verification.verify_veils hv _ s.credentials pseudonym h
      exact ⟨verificationReply_veiled houtcome, hveiled⟩

/-! ## Requests -/

theorem answer_veiled (hs : s.Veiled t) (e : Endpoint) (r : Request) (h : s.Veils w v) :
    (s.answer e r w).1 = (t.answer e r v).1 ∧ s.Veils (s.answer e r w).2 (t.answer e r v).2 := by
  have hfinish : ∀ {reply reply' : Reply × World}, reply.1 = reply'.1 ∧ s.Veils reply.2 reply'.2 →
      Response.ofReply reply.1 = Response.ofReply reply'.1 ∧ s.Veils reply.2 reply'.2 :=
    fun hreply => ⟨congrArg Response.ofReply hreply.1, hreply.2⟩
  cases e with
  | health => exact ⟨congrArg Response.ofReply (health_veiled h), h⟩
  | sessionKeys =>
    refine hfinish ?_
    unfold Service.sessionKeys
    rw [hs.credentials]
    exact publish_veiled (CredentialStore.keySet_veils _ s.credentials) h
  | anonymousKeys => exact hfinish (publish_veiled (KeyStore.keySet_veils hs.keys s.credentials) h)
  | tokens =>
    unfold Service.answer
    cases r.readBody Service.readTokenRequest with
    | error response => exact ⟨rfl, h⟩
    | ok maskedPoint => exact hfinish (tokens_veiled hs r.bearer? maskedPoint h)
  | verifications =>
    unfold Service.answer
    cases r.readBody Service.readVerificationRequest with
    | error response => exact ⟨rfl, h⟩
    | ok pseudonym => exact hfinish (verifications_veiled hs pseudonym h)

/-- **One request** is answered the same, and leaves worlds that differ in nothing else. -/
theorem respond_veiled (hs : s.Veiled t) (r : Request) (h : s.Veils w v) :
    (s.respond r w).1 = (t.respond r v).1 ∧ s.Veils (s.respond r w).2 (t.respond r v).2 := by
  unfold Service.respond
  cases Endpoint.paths.lookup r.path with
  | none => exact ⟨rfl, h⟩
  | some e =>
    dsimp only
    split
    · obtain ⟨hanswer, hveiled⟩ := answer_veiled hs e r h
      dsimp only
      rw [hanswer]
      exact ⟨rfl, hveiled⟩
    · exact ⟨rfl, h⟩

/-! ## Changes beside the requests -/

theorem sweepIssues_veiled (h : s.Veils w v) : s.Veils w.sweepIssues.2 v.sweepIssues.2 := by
  have hfault := h.faults.issueDelete
  have htable : v.issues.deleteExpired v.now = w.issues.deleteExpired w.now := by rw [h.issues, h.now]
  unfold World.sweepIssues World.purgeIssues
  rw [htable]
  generalize w.faults.issueDelete = fault at hfault ⊢
  generalize v.faults.issueDelete = fault' at hfault ⊢
  cases hfault with
  | some he => exact h
  | none => exact (h.withIssues _).count _ _

theorem sweepVerifications_veiled (limit : VerificationLimit) (h : s.Veils w v) :
    s.Veils (w.sweepVerifications limit).2 (v.sweepVerifications limit).2 := by
  have hfault := h.faults.verificationDelete
  have htable : v.verifications.deleteExpired (limit.cutoff v.now) =
      w.verifications.deleteExpired (limit.cutoff w.now) := by rw [h.verifications, h.now]
  unfold World.sweepVerifications World.purgeVerifications World.purgeVerificationsBefore
  rw [htable]
  generalize w.faults.verificationDelete = fault at hfault ⊢
  generalize v.faults.verificationDelete = fault' at hfault ⊢
  cases hfault with
  | some he => exact h
  | none => exact (h.withVerifications _).count _ _

/-- Clock and timer may be moved, for what is loaded is veiled at every time. -/
theorem withTime_veiled (h : s.Veils w v) (now : Instant) (timer : Nat) :
    s.Veils { w with now, timer } { v with now, timer } := by
  have hw := loadMasterSecret_fst_eq (v := { w with now, timer }) (w := w) rfl rfl s.keys.settings.masterId
  have hv := loadMasterSecret_fst_eq (v := { v with now, timer }) (w := v) rfl rfl s.keys.settings.masterId
  have hsecret := h.secret
  rw [← hw, ← hv] at hsecret
  exact { h with now := rfl, timer := rfl, secret := hsecret }

/-- Certificates and faults may be replaced, if the certificates are the same and the faults are veiled. -/
theorem withOutside_veiled (h : s.Veils w v) (source : Locator) {f g : Faults} (hfaults : f.Veiled g)
    (hlocator : Option.Rel KeyError.Veiled f.locator g.locator) :
    s.Veils { w with locator := source, faults := f } { v with locator := source, faults := g } := by
  have hsecret := World.Veiled.secret_of_faults hlocator { w with locator := source } s.keys.settings.masterId
  have hsnapshot := fun now =>
    World.Veiled.snapshot_of_faults hlocator { w with locator := source, now } s.credentials
  -- What is loaded depends on certificates and faults alone, so the rest may be that of the other world.
  have hv := loadMasterSecret_fst_eq (v := { v with locator := source, faults := g })
    (w := { w with locator := source, faults := g }) rfl rfl s.keys.settings.masterId
  rw [← hv] at hsecret
  exact { h with faults := hfaults, secret := hsecret, snapshot := hsnapshot }

/-- Two changes of two worlds that are the same, or the outside's faults with those of the same places. -/
inductive Alike (w v : World) : Change → Change → Prop
  | sweep : Alike w v .sweep .sweep
  | clock (now : Instant) : Alike w v (.clock now) (.clock now)
  | timer (milliseconds : Nat) : Alike w v (.timer milliseconds) (.timer milliseconds)
  | certificates (source : Locator) (h : Option.Rel KeyError.Veiled w.faults.locator v.faults.locator) :
      Alike w v (.certificates source) (.certificates source)
  | faults {f g : Faults} (hsource : v.locator = w.locator) (h : f.Veiled g)
      (hlocator : Option.Rel KeyError.Veiled f.locator g.locator) : Alike w v (.faults f) (.faults g)

theorem change_veiled (limit : VerificationLimit) {c c' : Change} (hc : Alike w v c c') (h : s.Veils w v) :
    s.Veils (w.change limit c) (v.change limit c') := by
  cases hc with
  | sweep => exact sweepVerifications_veiled limit (sweepIssues_veiled h)
  | clock now =>
    have hv : v.change limit (.clock now) = { v with now, timer := w.timer } := by
      rw [← h.timer]
      rfl
    rw [hv]
    exact withTime_veiled h now w.timer
  | timer milliseconds =>
    have hv : v.change limit (.timer milliseconds) = { v with now := w.now, timer := milliseconds } := by
      rw [← h.now]
      rfl
    rw [hv]
    exact withTime_veiled h w.now milliseconds
  | certificates source hlocator => exact withOutside_veiled h source h.faults hlocator
  | @faults f g hsource hfaults hlocator =>
    have hv : v.change limit (.faults g) = { v with locator := w.locator, faults := g } := by
      rw [← hsource]
      rfl
    rw [hv]
    exact withOutside_veiled h w.locator hfaults hlocator

/-! ## Runs -/

/-- Two runs of the same requests, to which the outside says the same but for failures, with changes beside them that
are alike. -/
inductive Shadows (s t : Service) (limit : VerificationLimit) : List Event → List Event → World → World → Prop
  | nil {w v : World} : Shadows s t limit [] [] w v
  | request {events events' : List Event} {w v : World} {o o' : Outside} (r : Request) (ho : o.Veiled o')
      (h : Shadows s t limit events events' ((s.facing o).respond r w).2 ((t.facing o').respond r v).2) :
      Shadows s t limit (.request r o :: events) (.request r o' :: events') w v
  | change {events events' : List Event} {w v : World} {c c' : Change} (hc : Alike w v c c')
      (h : Shadows s t limit events events' (w.change limit c) (v.change limit c')) :
      Shadows s t limit (.change c :: events) (.change c' :: events') w v

/-- **Two runs** that differ in failures alone are answered the same. -/
theorem responses_veiled (hs : s.Veiled t) {limit : VerificationLimit} {events events' : List Event}
    (hrun : Shadows s t limit events events' w v) (h : s.Veils w v) :
    responses s limit events w = responses t limit events' v := by
  induction hrun with
  | nil => rfl
  | @request events events' w v o o' r ho _ ih =>
    obtain ⟨hresponse, hveiled⟩ := respond_veiled (hs.facing ho) r h
    show _ :: _ = _ :: _
    rw [hresponse, ih hveiled]
  | change hc _ ih => exact ih (change_veiled limit hc h)

/-! ## Discretion -/

/-- A conflict that looking up a session ends in is a failure like every other. -/
theorem breaksAt_of_conflict {r : Request} {a : Service.Admission} {u : World} {detail : String}
    (hfault : w.faults.issueFind = some (.conflict detail)) (ha : s.Admits r w a u) :
    BreaksAt s r w .ledgerLookup := by
  obtain ⟨maskedPoint, -, hadmission⟩ := id ha
  have hfaults : u.faults = w.faults := by
    have h := (Service.admission_upkeep s r.bearer? maskedPoint w).faults
    rwa [hadmission] at h
  refine .ledgerLookup (e := .conflict detail) ha ?_
  unfold World.lookUpSession World.findIssues
  rw [hfaults, hfault]

/-- How a service answers when something of its own fails. -/
structure Discreet (s : Service) : Prop where
  /-- A request that breaks down is answered 500, with the code of internal failures and a message that the place
  fixes. -/
  internal : ∀ (r : Request) (w : World) (b : Breakdown), BreaksAt s r w b →
    (s.respond r w).1 = some (b.response r) ∧ (b.response r).status = 500
  /-- No other request is answered 500. -/
  only : ∀ (r : Request) (w : World) (response : Response), (s.respond r w).1 = some response →
    response.status = 500 → ∃ b, BreaksAt s r w b
  /-- Whatever else the ledger holds, a conflict that looking up a session ends in is such a breakdown. -/
  conflict : ∀ (r : Request) (w u : World) (a : Service.Admission) (detail : String),
    w.faults.issueFind = some (.conflict detail) → s.Admits r w a u →
    (s.respond r w).1 = some (Breakdown.ledgerLookup.response r)
  /-- Failures that are veiled do not show, and do not come to show later. -/
  apart : ∀ (t : Service) (r : Request) (w v : World), s.Veiled t → s.Veils w v →
    (s.respond r w).1 = (t.respond r v).1 ∧ s.Veils (s.respond r w).2 (t.respond r v).2
  /-- The same of two runs. -/
  runs : ∀ (t : Service) (limit : VerificationLimit) (events events' : List Event) (w v : World), s.Veiled t →
    s.Veils w v → Shadows s t limit events events' w v → responses s limit events w = responses t limit events' v

/-- **Failures cannot be told apart**: a request that breaks down inside the service is answered with a message that
is fixed for the place, and two runs that differ in what such failures are, but not in where they occur, are answered
the same. -/
theorem discreet (s : Service) : Discreet s where
  internal r _ b h := ⟨respond_of_breaksAt h, b.response_status r⟩
  only _ _ _ h hstatus := exists_breaksAt_of_respond h hstatus
  conflict _ _ _ _ _ hfault ha := respond_of_breaksAt (breaksAt_of_conflict hfault ha)
  apart _ r _ _ hs h := respond_veiled hs r h
  runs _ _ _ _ _ _ hs h hrun := responses_veiled hs hrun h

theorem Service.Veiled.refl (s : Service) : s.Veiled s where
  keys := ⟨rfl, fun _ _ _ _ => .refl KeyError.Veiled.same _⟩
  credentials := rfl
  expectation := rfl
  scheme := rfl
  issuance := by
    cases s.issuance with
    | none => exact .none
    | some i => exact .some ⟨rfl, fun _ => .refl PrimitiveError.Veiled.same _⟩
  verification := by
    cases s.verification with
    | none => exact .none
    | some v => exact .some ⟨rfl, fun _ => .refl (fun _ => trivial) _⟩

namespace Sample

/-- The lookup of sessions fails with an error. -/
def lost (e : StoreError) : Faults := { issueFind := some e }

theorem lost_veiled (e e' : StoreError) : (lost e).Veiled (lost e') where
  issueSave := .none
  issueFind := .some trivial
  issueDelete := .none
  verificationSave := .none
  verificationFind := .none
  verificationDelete := .none
  health := .none
  issueBlind := rfl

set_option maxRecDepth 100000 in
theorem admitted_lost :
    (service.admission (request "AQ==").bearer? "AQ==" { world with faults := lost (.conflict "j") }).1.toOption.isSome
      = true := by
  decide +kernel

set_option maxRecDepth 100000 in
theorem maskedPoint_request : (request "AQ==").maskedPoint? = some "AQ==" := by
  decide +kernel

end Sample

/-- A conflict that looking up a session ends in, and a connection that is lost: the answer is the same. -/
theorem discreet_lost :
    Sample.service.Veils { Sample.world with faults := Sample.lost (.conflict "j") }
        { Sample.world with faults := Sample.lost (.unexpected "connection reset") } ∧
      (Sample.service.respond (Sample.request "AQ==")
        { Sample.world with faults := Sample.lost (.conflict "j") }).1 =
          some (Breakdown.ledgerLookup.response (Sample.request "AQ==")) ∧
      (Sample.service.respond (Sample.request "AQ==")
        { Sample.world with faults := Sample.lost (.unexpected "connection reset") }).1 =
          some (Breakdown.ledgerLookup.response (Sample.request "AQ==")) := by
  have hveiled : Sample.service.Veils { Sample.world with faults := Sample.lost (.conflict "j") }
      { Sample.world with faults := Sample.lost (.unexpected "connection reset") } :=
    World.Veiled.of_faults Sample.world (Sample.lost_veiled _ _) .none
  have hconflict : (Sample.service.respond (Sample.request "AQ==")
      { Sample.world with faults := Sample.lost (.conflict "j") }).1 =
        some (Breakdown.ledgerLookup.response (Sample.request "AQ==")) := by
    rcases hadmission : Sample.service.admission (Sample.request "AQ==").bearer? "AQ=="
      { Sample.world with faults := Sample.lost (.conflict "j") } with ⟨outcome | a, u⟩
    · have hadmitted := Sample.admitted_lost
      rw [hadmission] at hadmitted
      cases hadmitted
    · exact (discreet Sample.service).conflict _ _ u a "j" rfl ⟨_, Sample.maskedPoint_request, hadmission⟩
  refine ⟨hveiled, hconflict, ?_⟩
  rw [← hconflict]
  exact ((discreet Sample.service).apart _ _ _ _ (.refl _) hveiled).1.symm

end BlindMint.Http
