import BlindMint.Proofs.Ledger.Standing
import BlindMint.Proofs.Limit.Phase
import BlindMint.Proofs.Outside

/-!
# Records out of reach

Two worlds, of which one has lost records to the sweeper and the other one has not, are related if all that
is missing is out of reach (`Swept`): a verification record before the present window, and an issue record whose
expiry is reached. Every request is then answered the same in both and leaves them related. The limit looks at
the present window only. A session whose record has expired can no longer present its token: it is past its last
use, and so is every other token of that session, as tokens of one session are assumed to expire together.

## Results

* `World.tryIssue_eq`: the ledger looks at nothing but whether a session has a record.
* `Swept.sweep`, `Swept.change`: a sweep of the one world and a change of both keep them related.
* `Swept.tokens`, `Swept.verify`: both kinds of request have the same outcome.
* **`Swept.respond`**: so has every request.
-/

namespace BlindMint

/-! ## The ledger -/

/-- What the ledger decides, by the faults of the store and whether the session has no record. -/
def Faults.decision (f : Faults) (vacant : Bool) : Except StoreError LedgerDecision :=
  match f.issueFind, f.issueSave with
  | some e, _ => .error e
  | none, some e =>
    if !f.issueBlind && !vacant then .ok .duplicate
    else
      match e with
      | .conflict _ => .ok .duplicate
      | e => .error e
  | none, none => if vacant then .ok .accepted else .ok .duplicate

/-- Follow a decision of the ledger: a session that is accepted obtains its record. -/
def World.settle (w : World) (record : IssueRecord) :
    Except StoreError LedgerDecision → Except StoreError LedgerDecision × World
  | .ok .accepted => (.ok .accepted, { w with issues := w.issues.add record })
  | outcome => (outcome, w)

/-- **The ledger looks at nothing but whether a session has a record.** -/
theorem World.tryIssue_eq (w : World) (record : IssueRecord) :
    w.tryIssue record = w.settle record (w.faults.decision (w.issues.find record.session).isEmpty) := by
  unfold tryIssue lookUpSession findIssues recordSession saveIssue Faults.decision
  rw [IssueTable.save_eq]
  cases w.faults.issueFind with
  | some e => rfl
  | none =>
    cases hvacant : (w.issues.find record.session).isEmpty <;> cases w.faults.issueBlind <;>
      rcases w.faults.issueSave with _ | _ | _ | _ <;> simp [hvacant, settle]

/-- Two worlds with the same clock and the same tables. -/
structure SameTables (w v : World) : Prop where
  now : v.now = w.now
  issues : v.issues = w.issues
  verifications : v.verifications = w.verifications

theorem SameRecords.sameTables {w v : World} (h : SameRecords w v) : SameTables w v :=
  ⟨h.now, h.issues, h.verifications⟩

theorem Issuance.sign_sameTables (s : Issuance) (keys : KeyStore) (maskedPoint : Octets) (w : World) :
    SameTables w (s.sign keys maskedPoint w).2 := by
  have h := (KeyStore.activeKeyPair_upkeep keys w).sameTables
  unfold sign
  split
  · next heq => rwa [heq] at h
  · next heq => rwa [heq] at h
  · next pair u heq =>
    rw [heq] at h
    have hasked : SameTables w (s.ask ⟨pair.curve, pair.scalar, pair.point, maskedPoint⟩ u).2 :=
      ⟨h.now, h.issues, h.verifications⟩
    split
    · next heq' => rwa [heq'] at hasked
    · next heq' => rwa [heq'] at hasked

namespace Http

/-! ## Related worlds -/

/-- The claims of the session token that is presented with a request for a token, whoever signed it. -/
def Request.presented? (r : Request) : Option SessionClaims :=
  if r.maskedPoint?.isSome then r.bearer?.bind Session.claimsOf? else none

/-- The issue record of a session is the one that every token obtains that a request carries for it. -/
def Owned (s : Service) (carried : SessionClaims → Prop) (w : World) : Prop :=
  ∀ row ∈ w.issues.rows, ∀ issuance claims, s.issuance = some issuance → carried claims →
    claims.jti = row.session → row = issuance.record claims

/-- A world `v` as `w` is, but for records that are out of reach. `carried` are the claims that requests carry. -/
structure Swept (s : Service) (limit : VerificationLimit) (carried : SessionClaims → Prop)
    (w v : World) : Prop extends Alike w v where
  below : w.now.toInt < Instant.maxSeconds
  /-- No verification record is missing that a present or later window holds. -/
  reached : ∀ p since, limit.cutoff w.now ≤ since →
    v.verifications.find p since = w.verifications.find p since
  subset : v.issues.rows ⊆ w.issues.rows
  /-- A missing issue record has expired. -/
  missing : ∀ row ∈ w.issues.rows, row ∉ v.issues.rows → row.expiresAt ≤ w.now
  owned : Owned s carried w

/-- Two operations yield the same, at the same time, and leave two related worlds. -/
structure Agree {α : Type} (s : Service) (limit : VerificationLimit) (carried : SessionClaims → Prop)
    (now : Instant) (x y : α × World) : Prop where
  value : y.1 = x.1
  now : x.2.now = now
  swept : Swept s limit carried x.2 y.2

variable {s : Service} {limit : VerificationLimit} {carried : SessionClaims → Prop} {w v : World}

theorem owned_of_empty (h : w.issues = {}) : Owned s carried w := by
  intro row hrow
  rw [h] at hrow
  cases hrow

theorem Owned.of_issues (h : Owned s carried w) (hv : v.issues = w.issues) : Owned s carried v := by
  unfold Owned
  rw [hv]
  exact h

theorem Agree.exists_eq {α : Type} {now : Instant} {x y : α × World}
    (h : Agree s limit carried now x y) :
    ∃ value w' v', x = (value, w') ∧ y = (value, v') ∧ w'.now = now ∧ Swept s limit carried w' v' :=
  ⟨x.1, x.2, y.2, rfl, Prod.ext h.value rfl, h.now, h.swept⟩

theorem Agree.map {α β : Type} {now : Instant} {x y : α × World} (h : Agree s limit carried now x y)
    (f : α → β) : Agree s limit carried now (f x.1, x.2) (f y.1, y.2) :=
  ⟨congrArg f h.value, h.now, h.swept⟩

theorem Swept.of_tables (h : Swept s limit carried w v) {w' v' : World} (hw : SameTables w w')
    (hv : SameTables v v') (halike : Alike w' v') : Swept s limit carried w' v' where
  toAlike := halike
  below := by
    rw [hw.now]
    exact h.below
  reached := by
    rw [hw.now, hw.verifications, hv.verifications]
    exact h.reached
  subset := by
    rw [hw.issues, hv.issues]
    exact h.subset
  missing := by
    rw [hw.now, hw.issues, hv.issues]
    exact h.missing
  owned := h.owned.of_issues hw.issues

/-- What does not depend on records agrees. -/
theorem Swept.agree_of_recordFree {α : Type} {op : World → α × World} (h : Swept s limit carried w v)
    (hop : RecordFree op) (hkeeps : ∀ u, SameTables u (op u).2) :
    Agree s limit carried w.now (op w) (op v) where
  value := (hop h.toAlike).1
  now := (hkeeps w).now
  swept := h.of_tables (hkeeps w) (hkeeps v) (hop h.toAlike).2

theorem Swept.count (h : Swept s limit carried w v) (counter : Counter) (amount : Nat) :
    Swept s limit carried (w.count counter amount) (v.count counter amount) :=
  h.of_tables (count_sameRecords ..).sameTables (count_sameRecords ..).sameTables
    (h.toAlike.count counter counter amount amount)

/-! ## Sweeps and other changes -/

theorem sweep_alike (limit : VerificationLimit) (w : World) : Alike w (w.sweep limit).2 := by
  have hissues : Alike w w.sweepIssues.2 := by
    unfold World.sweepIssues World.purgeIssues
    cases w.faults.issueDelete <;> exact ⟨⟨⟨rfl, rfl, rfl, rfl⟩, rfl, rfl⟩, rfl⟩
  have hverifications : Alike w.sweepIssues.2 (w.sweepIssues.2.sweepVerifications limit).2 := by
    unfold World.sweepVerifications World.purgeVerifications World.purgeVerificationsBefore
    cases w.sweepIssues.2.faults.verificationDelete <;>
      exact ⟨⟨⟨rfl, rfl, rfl, rfl⟩, rfl, rfl⟩, rfl⟩
  exact hissues.trans hverifications

/-- **A sweep takes only what is out of reach.** -/
theorem Swept.sweep (h : Swept s limit carried w v) :
    Swept s limit carried w (v.change limit .sweep) where
  toAlike := h.toAlike.trans (sweep_alike limit v)
  below := h.below
  reached p since hsince := by
    rw [find_verifications_change (by rwa [h.now])]
    exact h.reached p since hsince
  subset := by
    refine List.Subset.trans ?_ h.subset
    show (v.sweep limit).2.issues.rows ⊆ _
    rw [sweep_issues]
    split
    · rw [IssueTable.rows_deleteExpired]
      exact List.filter_sublist.subset
    · exact List.Subset.refl _
  missing row hrow hgone := by
    by_cases hstill : row ∈ v.issues.rows
    · rw [← h.now]
      refine Int64.not_lt.mp fun hlive => hgone (mem_issues_change hstill hlive .sweep)
    · exact h.missing row hrow hstill
  owned := h.owned

/-- Any other change keeps the worlds related if the clock does not go back. -/
theorem Swept.change (h : Swept s limit carried w v) {c : Change} (hc : c ≠ .sweep)
    (hf : w.now ≤ (w.change limit c).now) (hb : (w.change limit c).now.toInt < Instant.maxSeconds) :
    Swept s limit carried (w.change limit c) (v.change limit c) := by
  have htables : ∀ u : World, (u.change limit c).issues = u.issues ∧
      (u.change limit c).verifications = u.verifications := by
    intro u
    cases c with
    | sweep => exact absurd rfl hc
    | clock | timer | certificates | faults => exact ⟨rfl, rfl⟩
  have halike : Alike (w.change limit c) (v.change limit c) := by
    obtain ⟨issues, verifications, counters, rfl⟩ := h.toAlike.exists_eq
    cases c with
    | sweep => exact absurd rfl hc
    | clock | timer | certificates | faults => exact .of_records ..
  refine ⟨halike, hb, fun p since hsince => ?_, ?_, fun row hrow hgone => ?_, ?_⟩
  · rw [(htables v).2, (htables w).2]
    exact h.reached p since (Int64.le_trans (cutoff_mono limit hf) hsince)
  · rw [(htables v).1, (htables w).1]
    exact h.subset
  · rw [(htables w).1] at hrow
    rw [(htables v).1] at hgone
    exact Int64.le_trans (h.missing row hrow hgone) hf
  · exact h.owned.of_issues (htables w).1

/-! ## Requests for a token -/

/-- Tokens of one session expire together. -/
def ExpireTogether (carried : SessionClaims → Prop) : Prop :=
  ∀ a b, carried a → carried b → a.jti = b.jti → a.exp = b.exp

variable {issuance : Issuance} {claims : SessionClaims}

/-- **A session that can still present its token has a record in both worlds or in neither.** -/
theorem Swept.find_isEmpty (h : Swept s limit carried w v) (hs : s.issuance = some issuance)
    (hcarried : carried claims) (hlive : w.now.toInt ≤ issuance.lastUse claims) :
    (v.issues.find claims.jti).isEmpty = (w.issues.find claims.jti).isEmpty := by
  rw [Bool.eq_iff_iff, List.isEmpty_iff, List.isEmpty_iff, IssueTable.find_eq_filter,
    IssueTable.find_eq_filter, List.filter_eq_nil_iff, List.filter_eq_nil_iff]
  constructor
  · -- A missing record has expired, and then the token at hand, which would obtain the same one, is refused.
    intro hnone row hrow hsession
    refine hnone row (Classical.byContradiction fun hgone => ?_) hsession
    have hjti : row.session = claims.jti := by simpa using hsession
    obtain rfl := h.owned row hrow issuance claims hs hcarried hjti.symm
    have hexpired := h.missing _ hrow hgone
    simp only [Issuance.record] at hexpired
    have hlate := Issuance.lastUse_lt_of_recordExpiry_le hexpired h.below
    omega
  · intro hnone row hrow
    exact hnone row (h.subset hrow)

/-- Both worlds may enter the same session. -/
theorem Swept.save (h : Swept s limit carried w v) (hs : s.issuance = some issuance)
    (htogether : ExpireTogether carried) (hcarried : carried claims) :
    Swept s limit carried { w with issues := w.issues.add (issuance.record claims) }
      { v with issues := v.issues.add (issuance.record claims) } where
  toAlike := ⟨⟨⟨h.now, h.timer, h.locator, h.faults⟩, h.keyPairs, h.snapshots⟩, h.activity⟩
  below := h.below
  reached := h.reached
  subset row hrow := by
    rw [IssueTable.mem_rows_add] at hrow ⊢
    exact hrow.imp_right fun hold => ⟨h.subset hold.1, hold.2⟩
  missing row hrow hgone := by
    rw [IssueTable.mem_rows_add] at hrow hgone
    rcases hrow with hnew | ⟨hold, hne⟩
    · exact absurd (.inl hnew) hgone
    · exact h.missing row hold fun hv => hgone (.inr ⟨hv, hne⟩)
  owned row hrow other presented hother hpresented hjti := by
    rcases (IssueTable.mem_rows_add ..).mp hrow with rfl | ⟨hold, -⟩
    · obtain rfl := Option.some.inj (hs.symm.trans hother)
      have hjti : presented.jti = claims.jti := hjti
      have hexp := htogether presented claims hpresented hcarried hjti
      simp only [Issuance.record, Issuance.recordExpiry, hjti, hexp]
    · exact h.owned row hold other presented hother hpresented hjti

/-- **The ledger decides the same in both worlds.** -/
theorem Swept.enter (h : Swept s limit carried w v) (hs : s.issuance = some issuance)
    (htogether : ExpireTogether carried) (hcarried : carried claims)
    (hlive : w.now.toInt ≤ issuance.lastUse claims) :
    Agree s limit carried w.now (issuance.enter claims w) (issuance.enter claims v) := by
  have htry : ∀ u : World, u.faults = w.faults →
      (u.issues.find claims.jti).isEmpty = (w.issues.find claims.jti).isEmpty →
      u.tryIssue (issuance.record claims) = u.settle (issuance.record claims)
        (w.faults.decision (w.issues.find claims.jti).isEmpty) := by
    intro u hfaults hvacant
    rw [← hfaults, ← hvacant]
    exact u.tryIssue_eq _
  have hw := htry w rfl rfl
  have hv := htry v h.faults (h.find_isEmpty hs hcarried hlive)
  unfold Issuance.record at hw hv
  unfold Issuance.enter
  rw [hw, hv]
  rcases w.faults.decision (w.issues.find claims.jti).isEmpty with e | (_ | _)
  · exact ⟨rfl, rfl, h⟩
  · exact ⟨rfl, rfl, (h.save hs htogether hcarried).count ..⟩
  · exact ⟨rfl, rfl, h.count ..⟩

theorem Service.admission_recordFree (s : Service) (bearer : Option String) (maskedPoint : String) :
    RecordFree (s.admission bearer maskedPoint) := by
  intro w v h
  unfold admission
  cases s.issuance with
  | none => exact ⟨rfl, h⟩
  | some issuance =>
    cases bearer with
    | none => exact ⟨rfl, h⟩
    | some token =>
      obtain ⟨outcome, w', v', hw, hv, hsame⟩ :=
        (Session.verify_recordFree s.scheme s.credentials s.expectation token).run h
      dsimp only
      rw [hw, hv]
      rcases outcome with (e | _) | claims
      · exact ⟨rfl, hsame⟩
      · exact ⟨rfl, hsame⟩
      · dsimp only
        cases Base64.standard.decode? maskedPoint.toList <;> exact ⟨rfl, hsame⟩

/-- **A request for a token is answered the same in both worlds.** -/
theorem Swept.tokens (h : Swept s limit carried w v) (htogether : ExpireTogether carried)
    (hleeway : ∀ issuance, s.issuance = some issuance →
      s.expectation.leeway ≤ issuance.sessionLeeway) {bearer : Option String}
    (hcarried : ∀ claims, bearer.bind Session.claimsOf? = some claims → carried claims)
    (maskedPoint : String) :
    Agree s limit carried w.now (s.tokens bearer maskedPoint w) (s.tokens bearer maskedPoint v) := by
  obtain ⟨outcome, w', v', hw, hv, hnow, hswept⟩ := (h.agree_of_recordFree
    (s.admission_recordFree bearer maskedPoint)
    fun u => (Service.admission_upkeep s bearer maskedPoint u).sameTables).exists_eq
  unfold Service.tokens
  rw [hw, hv]
  cases outcome with
  | error e => exact ⟨rfl, hnow, hswept⟩
  | ok a =>
    obtain ⟨hissuance, token, rfl, hclaims, hunexpired⟩ := Service.admission_ok hw
    have hlive := Issuance.le_lastUse_of_isExpired (hleeway _ hissuance) hunexpired
    rw [← hnow] at hlive
    obtain ⟨decision, w'', v'', hw', hv', hnow', hswept'⟩ :=
      (hswept.enter hissuance htogether (hcarried _ hclaims) hlive).exists_eq
    dsimp only
    unfold Issuance.issue
    rw [hw', hv']
    rcases decision with e | (_ | _)
    · exact ⟨rfl, hnow'.trans hnow, hswept'⟩
    · obtain ⟨signed, w₃, v₃, hw₃, hv₃, hnow₃, hswept₃⟩ := (hswept'.agree_of_recordFree
        (a.issuance.sign_recordFree s.keys a.point)
        fun u => a.issuance.sign_sameTables s.keys a.point u).exists_eq
      dsimp only
      rw [hw₃, hv₃]
      cases signed <;> exact ⟨rfl, hnow₃.trans (hnow'.trans hnow), hswept₃⟩
    · exact ⟨rfl, hnow'.trans hnow, hswept'⟩

/-! ## Requests for a verification -/

theorem Swept.reachesLimit (h : Swept s limit carried w v) (pseudonym : String) :
    v.reachesLimit limit pseudonym = w.reachesLimit limit pseudonym := by
  unfold World.reachesLimit World.findVerifications
  rw [h.faults, h.now, h.reached pseudonym _ (Int64.le_refl _)]

/-- Both worlds record the same attempt. -/
theorem Swept.recordAttempt (h : Swept s limit carried w v) (pseudonym : String) :
    Agree s limit carried w.now (w.recordAttempt pseudonym) (v.recordAttempt pseudonym) := by
  unfold World.recordAttempt World.saveVerification
  rw [show v.faults.verificationSave = w.faults.verificationSave by rw [h.faults]]
  cases w.faults.verificationSave with
  | some e => exact ⟨rfl, rfl, h⟩
  | none =>
    refine ⟨rfl, rfl, ⟨⟨⟨⟨h.now, h.timer, h.locator, h.faults⟩, h.keyPairs, h.snapshots⟩, h.activity⟩,
      h.below, fun p since hsince => ?_, h.subset, h.missing, h.owned⟩⟩
    dsimp only
    rw [VerificationTable.find_save, VerificationTable.find_save, h.reached p since hsince, h.now]

/-- **A verification has the same outcome in both worlds.** -/
theorem Swept.verify (h : Swept s limit carried w v) {verification : Verification}
    (hlimit : verification.limit = limit) (pseudonym : String) :
    Agree s limit carried w.now (verification.verify pseudonym w) (verification.verify pseudonym v) := by
  unfold Verification.verify Verification.judge
  rw [hlimit, h.reachesLimit]
  rcases w.reachesLimit limit pseudonym with e | (_ | _)
  · exact ⟨rfl, rfl, h⟩
  · have hasked : Swept s limit carried (verification.ask pseudonym w).2
        (verification.ask pseudonym v).2 := by
      refine h.of_tables ⟨rfl, rfl, rfl⟩ ⟨rfl, rfl, rfl⟩ ?_
      obtain ⟨issues, verifications, counters, rfl⟩ := h.toAlike.exists_eq
      exact .of_records ..
    dsimp only [Verification.attempt]
    unfold Verification.ask at hasked ⊢
    cases verification.check pseudonym with
    | error reason => exact ⟨rfl, rfl, hasked⟩
    | ok verified =>
      obtain ⟨outcome, w', v', hw, hv, hnow, hswept⟩ := (hasked.recordAttempt pseudonym).exists_eq
      dsimp only at hw hv ⊢
      rw [hw, hv]
      cases outcome with
      | error e => exact ⟨rfl, hnow, hswept⟩
      | ok => exact ⟨rfl, hnow, hswept.count ..⟩
  · exact ⟨rfl, rfl, h.count ..⟩

theorem Swept.verifications (h : Swept s limit carried w v)
    (hlimit : ∀ verification, s.verification = some verification → verification.limit = limit)
    (pseudonym : String) :
    Agree s limit carried w.now (s.verifications pseudonym w) (s.verifications pseudonym v) := by
  unfold Service.verifications
  cases hs : s.verification with
  | none => exact ⟨rfl, rfl, h⟩
  | some verification =>
    dsimp only
    split
    · exact ⟨rfl, rfl, h⟩
    · exact (h.verify (hlimit _ hs) pseudonym).map Service.verificationReply

/-! ## Every request -/

theorem Agree.publish {now : Instant} {x y : Except (Failure KeyError) KeySet × World}
    (h : Agree s limit carried now x y) (unavailable : String) :
    Agree s limit carried now (Service.publish unavailable x) (Service.publish unavailable y) := by
  obtain ⟨outcome, w', v', rfl, rfl, hnow, hswept⟩ := h.exists_eq
  rcases outcome with (_ | e) | set <;> exact ⟨rfl, hnow, hswept⟩

/-- **A request is answered the same in both worlds.** -/
theorem Swept.respond (h : Swept s limit carried w v) (htogether : ExpireTogether carried)
    (hleeway : ∀ issuance, s.issuance = some issuance →
      s.expectation.leeway ≤ issuance.sessionLeeway)
    (hlimit : ∀ verification, s.verification = some verification → verification.limit = limit)
    {r : Request} (hcarried : ∀ claims, r.presented? = some claims → carried claims) :
    Agree s limit carried w.now (s.respond r w) (s.respond r v) := by
  cases hpoint : r.maskedPoint? with
  | some maskedPoint =>
    rw [Service.respond_of_maskedPoint hpoint, Service.respond_of_maskedPoint hpoint]
    refine (h.tokens htogether hleeway (fun claims hclaims => hcarried claims ?_) maskedPoint).map _
    simpa [Request.presented?, hpoint] using hclaims
  | none =>
    have hanswer : ∀ e, Endpoint.paths.lookup r.path = some e → e.methods.contains r.method = true →
        Agree s limit carried w.now (s.answer e r w) (s.answer e r v) := by
      intro e hpath hmethod
      cases e with
      | health =>
        unfold Service.answer Service.health World.checkHealth
        rw [h.faults]
        exact ⟨rfl, rfl, h⟩
      | sessionKeys =>
        exact ((h.agree_of_recordFree (CredentialStore.keySet_recordFree s.credentials)
          fun u => (CredentialStore.keySet_upkeep s.credentials u).sameTables).publish _).map _
      | anonymousKeys =>
        exact ((h.agree_of_recordFree (KeyStore.keySet_recordFree s.keys)
          fun u => (KeyStore.keySet_upkeep s.keys u).sameTables).publish _).map _
      | tokens =>
        have hpost : r.method = "POST" := by
          simpa [Endpoint.methods, Endpoint.isRead] using hmethod
        have hbody : (r.readBody Service.readTokenRequest).toOption = none := by
          simpa [Request.maskedPoint?, hpath, hpost] using hpoint
        unfold Service.answer
        cases hb : r.readBody Service.readTokenRequest with
        | error response => exact ⟨rfl, rfl, h⟩
        | ok text => simp [hb, Except.toOption] at hbody
      | verifications =>
        unfold Service.answer
        cases r.readBody Service.readVerificationRequest with
        | error response => exact ⟨rfl, rfl, h⟩
        | ok pseudonym => exact (h.verifications hlimit pseudonym).map _
    unfold Service.respond
    split
    · exact ⟨rfl, rfl, h⟩
    · next e hpath =>
      split
      · next hmethod =>
        exact (hanswer e hpath hmethod).map fun response =>
          if r.method = "HEAD" then response.map Response.headOnly else response
      · exact ⟨rfl, rfl, h⟩

end Http

end BlindMint
