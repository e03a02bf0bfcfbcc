import BlindMint.Proofs.Admission
import BlindMint.Proofs.Change

/-!
# How long a session stays closed

A session is closed by its issue record. Four times bear on it: the deadline at which its token is refused,
the expiry of its record one second after the longest possible deadline, the test of the sweep, and the
refusal of a second record. Put together, a session that was entered once is covered: its record stands, or
the clock is past the last second at which any verifier accepts its token (`Issuance.Covers`).

The clock must stay below the greatest instant. A record whose expiry saturates there is otherwise swept
while its token is still good.

## Results

* `lastUse_lt_of_recordExpiry_le`, `recordExpiry_le_of_lastUse_lt`: a sweep takes a session's record exactly
  from the second after its last use.
* `le_lastUse_of_isExpired`: an accepted token is not past its last use.
* `Covers.change`: a covered session stays covered.
* `enter_accepted`, `enter_sameLedger`, `sign_signs`: what a decision of the ledger and a signature do.
* `Entered.find_swept`: a sweep past its last use opens a session again.
-/

namespace BlindMint

namespace Issuance

/-- The last second at which a session's token may be accepted. -/
def lastUse (s : Issuance) (claims : SessionClaims) : Int :=
  claims.exp.toInt + s.sessionLeeway.capped.toInt

/-- The record of a session. -/
def record (s : Issuance) (claims : SessionClaims) : IssueRecord :=
  ⟨claims.jti, s.recordExpiry claims⟩

variable {s : Issuance} {claims : SessionClaims}

/-- The times of a session depend on the session leeway alone, and not on the primitive. -/
theorem lastUse_eq_of_sessionLeeway {s' : Issuance} (h : s'.sessionLeeway = s.sessionLeeway) :
    s'.lastUse claims = s.lastUse claims := by
  unfold lastUse
  rw [h]

theorem record_eq_of_sessionLeeway {s' : Issuance} (h : s'.sessionLeeway = s.sessionLeeway) :
    s'.record claims = s.record claims := by
  unfold record recordExpiry
  rw [h]

/-! ## The four times -/

theorem toInt_capped_nonneg (d : Duration) : 0 ≤ d.capped.toInt := by
  rw [Duration.toInt_capped]
  unfold Instant.maxSeconds
  omega

theorem minSeconds_le (t : Instant) : Instant.minSeconds ≤ t.toInt := Int64.le_toInt t

/-- The expiry of a record, away from the ends of the range: one second after the last use. -/
theorem toInt_recordExpiry (s : Issuance) (claims : SessionClaims) :
    (s.recordExpiry claims).toInt = min Instant.maxSeconds (s.lastUse claims + 1) := by
  have hexp := minSeconds_le claims.exp
  have hleeway := toInt_capped_nonneg s.sessionLeeway
  have hone : (1 : Instant).toInt = 1 := rfl
  unfold recordExpiry lastUse
  rw [Instant.toInt_later, Instant.toInt_later, hone]
  unfold Instant.maxSeconds Instant.minSeconds at *
  omega

theorem lastUse_lt_of_recordExpiry_le {now : Instant} (h : s.recordExpiry claims ≤ now)
    (hb : now.toInt < Instant.maxSeconds) : s.lastUse claims < now.toInt := by
  have hle := Int64.le_iff_toInt_le.mp h
  rw [toInt_recordExpiry] at hle
  omega

theorem recordExpiry_le_of_lastUse_lt {now : Instant} (h : s.lastUse claims < now.toInt) :
    s.recordExpiry claims ≤ now := by
  rw [Int64.le_iff_toInt_le, toInt_recordExpiry]
  omega

/-- A duration that wraps is no longer than one at least as long that is capped. -/
theorem toInt_wrapped_le_capped {d e : Duration} (h : d ≤ e) : d.wrapped.toInt ≤ e.capped.toInt := by
  have hnat : d.toNat ≤ e.toNat := UInt64.le_iff_toNat_le.mp h
  have hlt := d.toNat_lt
  rw [Duration.toInt_wrapped, Duration.toInt_capped, Int.bmod_def]
  unfold Instant.maxSeconds UInt64.size
  omega

/-- A token that is accepted is not past its last use. -/
theorem le_lastUse_of_isExpired {leeway : Duration} {now : Instant} (hl : leeway ≤ s.sessionLeeway)
    (h : Session.isExpired claims leeway now = false) : now.toInt ≤ s.lastUse claims := by
  have hlive : now ≤ claims.exp.later leeway.wrapped := by
    simpa [Session.isExpired] using h
  have hle := Int64.le_iff_toInt_le.mp hlive
  have hspan := toInt_wrapped_le_capped hl
  have hexp := minSeconds_le claims.exp
  have hleeway := toInt_capped_nonneg s.sessionLeeway
  rw [Instant.toInt_later] at hle
  unfold lastUse
  omega

/-! ## Covered sessions -/

/-- A session is covered: its record stands, or its last use has passed. -/
def Covers (s : Issuance) (claims : SessionClaims) (w : World) : Prop :=
  s.record claims ∈ w.issues.rows ∨ s.lastUse claims < w.now.toInt

variable {w v : World}

theorem covers_iff_of_sessionLeeway {s' : Issuance} (h : s'.sessionLeeway = s.sessionLeeway) :
    s'.Covers claims w ↔ s.Covers claims w := by
  unfold Covers
  rw [record_eq_of_sessionLeeway h, lastUse_eq_of_sessionLeeway h]

theorem Covers.of_subset (h : s.Covers claims w) (hrows : w.issues.rows ⊆ v.issues.rows)
    (hnow : w.now ≤ v.now) : s.Covers claims v := by
  rcases h with hrow | hpast
  · exact .inl (hrows hrow)
  · exact .inr (Int.lt_of_lt_of_le hpast (Int64.le_iff_toInt_le.mp hnow))

theorem Covers.of_sameLedger (h : s.Covers claims w) (hs : SameLedger w v) : s.Covers claims v := by
  refine h.of_subset ?_ ?_
  · rw [hs.issues]
    exact List.Subset.refl _
  · rw [hs.now]
    exact Int64.le_refl _

/-- **A covered session stays covered**, whatever happens beside the requests. -/
theorem Covers.change {limit : VerificationLimit} {c : Change} (h : s.Covers claims w)
    (hb : w.now.toInt < Instant.maxSeconds) (hf : w.now ≤ (w.change limit c).now) :
    s.Covers claims (w.change limit c) := by
  rcases h with hrow | hpast
  · by_cases hlive : w.now < s.recordExpiry claims
    · exact .inl (mem_issues_change hrow hlive c)
    · have hpast := lastUse_lt_of_recordExpiry_le (Int64.not_lt.mp hlive) hb
      exact .inr (Int.lt_of_lt_of_le hpast (Int64.le_iff_toInt_le.mp hf))
  · exact .inr (Int.lt_of_lt_of_le hpast (Int64.le_iff_toInt_le.mp hf))

/-- A covered session without a record is past its last use. -/
theorem Covers.lastUse_lt (h : s.Covers claims w) (hnone : w.issues.find claims.jti = []) :
    s.lastUse claims < w.now.toInt := by
  rcases h with hrow | hpast
  · have hmem : s.record claims ∈ w.issues.find claims.jti :=
      IssueTable.mem_find_iff.mpr ⟨hrow, rfl⟩
    rw [hnone] at hmem
    cases hmem
  · exact hpast

/-! ## A decision of the ledger -/

/-- What an acceptance does: the session had no record, and now has one. -/
structure Entered (s : Issuance) (claims : SessionClaims) (w v : World) : Prop where
  now : v.now = w.now
  faults : v.faults = w.faults
  fresh : w.issues.find claims.jti = []
  issues : v.issues = w.issues.add (s.record claims)
  primitiveCalls : v.activity.primitiveCalls = w.activity.primitiveCalls

theorem Entered.rows (h : s.Entered claims w v) : v.issues.rows = w.issues.rows ++ [s.record claims] := by
  rw [h.issues, IssueTable.rows_add h.fresh]

theorem Entered.covers (h : s.Entered claims w v) : s.Covers claims v := by
  refine .inl ?_
  rw [h.rows]
  simp

theorem Entered.subset (h : s.Entered claims w v) : w.issues.rows ⊆ v.issues.rows := by
  rw [h.rows]
  exact List.subset_append_left _ _

theorem Entered.count (h : s.Entered claims w v) (counter : Counter) (amount : Nat) :
    s.Entered claims w (v.count counter amount) :=
  ⟨h.now, h.faults, h.fresh, h.issues, h.primitiveCalls⟩

/-- A sweep past its last use opens a session again. -/
theorem Entered.find_swept {limit : VerificationLimit} {now : Instant} (h : s.Entered claims w v)
    (hf : v.faults.issueDelete = none) (hlate : s.lastUse claims < now.toInt) :
    (({ v with now } : World).sweep limit).2.issues.find claims.jti = [] := by
  have hfind : v.issues.find claims.jti = [s.record claims] := by
    rw [h.issues, IssueTable.find_add]
    simp [record]
  have hexpired : ¬ now < (s.record claims).expiresAt :=
    Int64.not_lt.mpr (recordExpiry_le_of_lastUse_lt hlate)
  rw [sweep_issues, if_pos hf, IssueTable.find_deleteExpired, hfind]
  simpa using hexpired

theorem recordSession_accepted (h : w.recordSession (s.record claims) = (.ok .accepted, v)) :
    s.Entered claims w v := by
  obtain ⟨hfresh, rfl⟩ := World.record_accepted h
  exact ⟨rfl, rfl, hfresh, rfl, rfl⟩

theorem tryIssue_accepted (h : w.tryIssue (s.record claims) = (.ok .accepted, v)) :
    s.Entered claims w v := by
  unfold World.tryIssue at h
  split at h
  · cases h
  · cases h
  · exact recordSession_accepted h

theorem tryIssue_eq {outcome : Except StoreError LedgerDecision} {r : IssueRecord}
    (h : w.tryIssue r = (outcome, v)) (ho : outcome ≠ .ok .accepted) : v = w := by
  unfold World.tryIssue at h
  split at h
  · exact (Prod.mk.inj h).2.symm
  · exact (Prod.mk.inj h).2.symm
  · exact World.record_eq_of_not_accepted h ho

theorem enter_accepted (h : s.enter claims w = (.ok .accepted, v)) : s.Entered claims w v := by
  unfold enter at h
  split at h
  · cases h
  · next decision u heq =>
    obtain ⟨hd, rfl⟩ := Prod.mk.inj h
    obtain rfl := Except.ok.inj hd
    exact (tryIssue_accepted heq).count _ _

/-- Any other decision leaves the ledger alone. -/
theorem enter_sameLedger {outcome : Except StoreError LedgerDecision}
    (h : s.enter claims w = (outcome, v)) (ho : outcome ≠ .ok .accepted) : SameLedger w v := by
  unfold enter at h
  split at h
  · next heq =>
    obtain ⟨-, rfl⟩ := Prod.mk.inj h
    rw [tryIssue_eq heq (by simp)]
    exact .refl w
  · next decision u heq =>
    obtain ⟨hd, rfl⟩ := Prod.mk.inj h
    rw [tryIssue_eq heq (by rwa [hd])]
    exact (count_sameRecords ..).sameLedger

/-! ## A signature -/

/-- What signing does: the records stay, and the primitive is asked at most once. -/
structure Signs (w v : World) : Prop where
  now : v.now = w.now
  faults : v.faults = w.faults
  issues : v.issues = w.issues
  asked : w.activity.primitiveCalls ≤ v.activity.primitiveCalls
  primitiveCalls : v.activity.primitiveCalls ≤ w.activity.primitiveCalls + 1

theorem Signs.of_sameRecords (h : SameRecords w v) : Signs w v :=
  ⟨h.now, h.faults, h.issues, Nat.le_of_eq h.primitiveCalls.symm,
    Nat.le_succ_of_le (Nat.le_of_eq h.primitiveCalls)⟩

theorem sign_signs (s : Issuance) (keys : KeyStore) (maskedPoint : Octets) (w : World) :
    Signs w (s.sign keys maskedPoint w).2 := by
  have h := (KeyStore.activeKeyPair_upkeep keys w).toSameRecords
  unfold sign
  split
  · next heq =>
    rw [heq] at h
    exact .of_sameRecords h
  · next heq =>
    rw [heq] at h
    exact .of_sameRecords h
  · next pair u heq =>
    rw [heq] at h
    have hasked : Signs w (s.ask ⟨pair.curve, pair.scalar, pair.point, maskedPoint⟩ u).2 :=
      ⟨h.now, h.faults, h.issues, Nat.le_succ_of_le (Nat.le_of_eq h.primitiveCalls.symm),
        Nat.succ_le_succ (Nat.le_of_eq h.primitiveCalls)⟩
    split
    · next heq' => rwa [heq'] at hasked
    · next heq' => rwa [heq'] at hasked

end Issuance

end BlindMint
