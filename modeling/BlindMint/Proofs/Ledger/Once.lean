import BlindMint.Proofs.Ledger.Request
import Mathlib.Algebra.GroupWithZero.Nat
import Mathlib.Logic.Relation

/-!
# One token for a session, over whole runs

A run is made of complete requests and of changes beside them, in any order. The clock does not go back
and stays below the greatest instant; everything else is free: the outside may fail, lookups may miss
records, certificates and caches come and go, and sweeps may fall anywhere. Each request meets an outside of its own,
so that the primitive may answer one input in two ways. The run starts in any world whose clock is in range.

The premise is the one under which issuance is set up: its session leeway is at least the leeway with which
session tokens are verified.

## Results

* `Sound.run`: every acceptance of a run stays covered, and no two acceptances of a session are close.
* `primitiveCalls_run`: the calls of the primitive that a run makes are those of its requests.
* **`acceptances_apart`**: between two acceptances of a session the clock passes the last use of the
  first one's token, so that the primitive is asked at most once for any one session token.
-/

namespace BlindMint.Http

/-- A run so far: the world it has led to, the acceptances by the ledger in their order, and for each request
the token it presented with the number of times the primitive was asked. -/
structure History where
  world : World
  accepted : List Acceptance := []
  asked : List (Option String × Nat) := []

namespace History

/-- The run after one more request. -/
def respond (s : Service) (r : Request) (h : History) : History :=
  let world := (s.respond r h.world).2
  { world,
    accepted := h.accepted ++ (s.acceptance? r h.world).toList,
    asked := h.asked ++
      [(r.bearer?, world.activity.primitiveCalls - h.world.activity.primitiveCalls)] }

/-- How often the primitive was asked by requests that present a token. -/
def primitiveCalls (h : History) (token : String) : Nat :=
  ((h.asked.filter fun request => request.1 = some token).map Prod.snd).sum

end History

/-- One step of a run. -/
inductive Step (s : Service) (limit : VerificationLimit) : History → History → Prop
  | request (h : History) (r : Request) (o : Outside) : Step s limit h (h.respond (s.facing o) r)
  | change (h : History) (c : Change) (hf : h.world.now ≤ (h.world.change limit c).now)
      (hb : (h.world.change limit c).now.toInt < Instant.maxSeconds) :
      Step s limit h { h with world := h.world.change limit c }

/-- What holds along a run. -/
structure Sound (issuance : Issuance) (h : History) : Prop where
  below : h.world.now.toInt < Instant.maxSeconds
  covers : ∀ a ∈ h.accepted, issuance.Covers a.claims h.world
  claims : ∀ a ∈ h.accepted, Session.claimsOf? a.token = some a.claims
  inUse : ∀ a ∈ h.accepted, a.time.toInt ≤ issuance.lastUse a.claims
  apart : h.accepted.Pairwise fun a b =>
    a.claims.jti = b.claims.jti → issuance.lastUse a.claims < b.time.toInt
  /-- The primitive is asked only for acceptances, and once for each. -/
  asked : ∀ token, h.primitiveCalls token ≤ h.accepted.countP fun a => a.token = token

variable {s : Service} {issuance : Issuance} {limit : VerificationLimit} {h : History} {r : Request}

/-! ## One step -/

theorem primitiveCalls_respond (s : Service) (r : Request) (h : History) (token : String) :
    (h.respond s r).primitiveCalls token = h.primitiveCalls token +
      if r.bearer? = some token then
        (s.respond r h.world).2.activity.primitiveCalls - h.world.activity.primitiveCalls
      else 0 := by
  unfold History.primitiveCalls History.respond
  rw [List.filter_append, List.map_append, List.sum_append]
  by_cases hb : r.bearer? = some token
  · simp [hb]
  · simp [hb]

theorem History.respond_now (hs : s.issuance = some issuance) (r : Request) (h : History) :
    (h.respond s r).world.now = h.world.now :=
  Service.respond_now hs r h.world

/-- What holds along a run does not depend on the primitive. -/
theorem Sound.withPrimitive (hi : Sound issuance h) (primitive : Primitive) :
    Sound { issuance with primitive } h :=
  ⟨hi.below, hi.covers, hi.claims, hi.inUse, hi.apart, hi.asked⟩

/-- A change beside the requests keeps what holds along a run. -/
theorem Sound.change (hi : Sound issuance h) {c : Change}
    (hf : h.world.now ≤ (h.world.change limit c).now)
    (hb : (h.world.change limit c).now.toInt < Instant.maxSeconds) :
    Sound issuance { h with world := h.world.change limit c } where
  below := hb
  covers a ha := (hi.covers a ha).change hi.below hf
  claims := hi.claims
  inUse := hi.inUse
  apart := hi.apart
  asked := hi.asked

/-- A request that is not accepted keeps what holds along a run. -/
theorem Sound.respond_of_no_acceptance (hi : Sound issuance h)
    (hnone : s.acceptance? r h.world = none) : Sound issuance (h.respond s r) := by
  have hledger := Service.respond_of_no_acceptance hnone
  have haccepted : (h.respond s r).accepted = h.accepted := by
    simp [History.respond, hnone]
  refine ⟨?_, ?_, ?_, ?_, ?_, ?_⟩
  · show (s.respond r h.world).2.now.toInt < _
    rw [hledger.now]
    exact hi.below
  · rw [haccepted]
    exact fun a ha => (hi.covers a ha).of_sameLedger hledger
  · rw [haccepted]
    exact hi.claims
  · rw [haccepted]
    exact hi.inUse
  · rw [haccepted]
    exact hi.apart
  · intro token
    rw [primitiveCalls_respond, haccepted, hledger.primitiveCalls, Nat.sub_self, ite_self]
    exact hi.asked token

/-- **An accepted request keeps what holds along a run**: an earlier acceptance of its session is covered,
and as the session has no record its last use has passed. -/
theorem Sound.respond_of_acceptance (hi : Sound issuance h) (hs : s.issuance = some issuance)
    (hl : s.expectation.leeway ≤ issuance.sessionLeeway) {a : Acceptance}
    (ha : s.acceptance? r h.world = some a) : Sound issuance (h.respond s r) := by
  have haccepts := Service.accepts_of_acceptance? ha
  obtain ⟨point, v, hentered, hrespond⟩ := Service.respond_of_acceptance hs ha
  have hsigns := Issuance.sign_signs issuance s.keys point v
  have haccepted : (h.respond s r).accepted = h.accepted ++ [a] := by
    simp [History.respond, ha]
  have hnow := h.respond_now hs r
  have hissues : (h.respond s r).world.issues = v.issues := by
    show (s.respond r h.world).2.issues = _
    rw [hrespond, hsigns.issues]
  refine ⟨?_, ?_, ?_, ?_, ?_, ?_⟩
  · rw [hnow]
    exact hi.below
  · rw [haccepted, List.forall_mem_append, List.forall_mem_singleton]
    constructor
    · intro b hb
      refine (hi.covers b hb).of_subset ?_ (by rw [hnow]; exact Int64.le_refl _)
      rw [hissues]
      exact hentered.subset
    · refine hentered.covers.of_subset ?_ (by rw [hnow, hentered.now]; exact Int64.le_refl _)
      rw [hissues]
      exact List.Subset.refl _
  · rw [haccepted, List.forall_mem_append, List.forall_mem_singleton]
    exact ⟨hi.claims, haccepts.claims⟩
  · rw [haccepted, List.forall_mem_append, List.forall_mem_singleton]
    exact ⟨hi.inUse, Issuance.le_lastUse_of_isExpired hl haccepts.live⟩
  · rw [haccepted, List.pairwise_append]
    refine ⟨hi.apart, List.pairwise_singleton _ _, ?_⟩
    intro b hb c hc hjti
    obtain rfl := List.mem_singleton.mp hc
    have hfresh := haccepts.fresh
    rw [← hjti] at hfresh
    rw [haccepts.time]
    exact (hi.covers b hb).lastUse_lt hfresh
  · intro token
    have hcalls := hsigns.primitiveCalls
    rw [hentered.primitiveCalls] at hcalls
    have hold := hi.asked token
    rw [primitiveCalls_respond, haccepted, List.countP_append, hrespond, haccepts.bearer]
    by_cases htoken : a.token = token
    · simp only [htoken, if_true, List.countP_singleton, decide_true]
      omega
    · simp only [Option.some.injEq, htoken, if_false]
      omega

/-- **A request keeps what holds along a run.** -/
theorem Sound.respond (hi : Sound issuance h) (hs : s.issuance = some issuance)
    (hl : s.expectation.leeway ≤ issuance.sessionLeeway) (r : Request) : Sound issuance (h.respond s r) := by
  cases ha : s.acceptance? r h.world with
  | none => exact hi.respond_of_no_acceptance ha
  | some a => exact hi.respond_of_acceptance hs hl ha

theorem Sound.step (hs : s.issuance = some issuance)
    (hl : s.expectation.leeway ≤ issuance.sessionLeeway) {h' : History} (hi : Sound issuance h)
    (hstep : Step s limit h h') : Sound issuance h' := by
  cases hstep with
  | request r o =>
    have hnext := (hi.withPrimitive o.primitive).respond (Service.facing_issuance hs o) hl r
    exact hnext.withPrimitive issuance.primitive
  | change c hf hb => exact hi.change hf hb

/-! ## Whole runs -/

/-- A run may always go on with a clock move and a sweep. -/
theorem sweep_at (h : History) {now : Instant} (hf : h.world.now ≤ now)
    (hb : now.toInt < Instant.maxSeconds) :
    Relation.ReflTransGen (Step s limit) h
      { h with world := (h.world.change limit (.clock now)).change limit .sweep } := by
  refine .tail (.single (.change h (.clock now) hf hb)) (.change _ .sweep ?_ ?_)
  · rw [sweep_at_now]
    exact Int64.le_refl _
  · rw [sweep_at_now]
    exact hb

theorem Sound.start {w : World} (hw : w.now.toInt < Instant.maxSeconds) :
    Sound issuance { world := w } where
  below := hw
  covers a ha := by cases ha
  claims a ha := by cases ha
  inUse a ha := by cases ha
  apart := .nil
  asked token := Nat.le_refl _

theorem Sound.run (hs : s.issuance = some issuance)
    (hl : s.expectation.leeway ≤ issuance.sessionLeeway) {w : World}
    (hw : w.now.toInt < Instant.maxSeconds)
    (hrun : Relation.ReflTransGen (Step s limit) { world := w } h) : Sound issuance h := by
  induction hrun with
  | refl => exact .start hw
  | tail _ hstep ih => exact ih.step hs hl hstep

/-- Every call of the primitive along a run is one that a request is charged with. -/
theorem primitiveCalls_run (hs : s.issuance = some issuance) {w : World}
    (hrun : Relation.ReflTransGen (Step s limit) { world := w } h) :
    h.world.activity.primitiveCalls = w.activity.primitiveCalls + (h.asked.map Prod.snd).sum := by
  induction hrun with
  | refl => rfl
  | @tail h _ _ hstep ih =>
    cases hstep with
    | request r o =>
      have hmore := Service.respond_primitiveCalls (Service.facing_issuance hs o) r h.world
      show ((s.facing o).respond r h.world).2.activity.primitiveCalls = _ + (List.map _ (h.asked ++ _)).sum
      rw [List.map_append, List.sum_append]
      simp only [List.map_cons, List.map_nil, List.sum_singleton]
      omega
    | change c =>
      show (h.world.change limit c).activity.primitiveCalls = _
      rw [change_activity, ih]

/-- Along a run a token is accepted at most once. -/
theorem Sound.countP_le_one (hi : Sound issuance h) (token : String) :
    h.accepted.countP (fun a => a.token = token) ≤ 1 := by
  rw [List.countP_eq_length_filter]
  have hapart := hi.apart.filter fun a => a.token = token
  have hmem : ∀ a ∈ h.accepted.filter (fun a => a.token = token), a ∈ h.accepted ∧ a.token = token :=
    fun a ha => by simpa using List.mem_filter.mp ha
  match hfound : h.accepted.filter (fun a => a.token = token) with
  | [] => simp [hfound]
  | [a] => simp [hfound]
  | a :: b :: rest =>
    rw [hfound] at hapart hmem
    obtain ⟨ha, hta⟩ := hmem a (by simp)
    obtain ⟨hb, htb⟩ := hmem b (by simp)
    have hclaims : a.claims = b.claims := by
      have hca := hi.claims a ha
      rw [hta, ← htb, hi.claims b hb] at hca
      exact (Option.some.inj hca).symm
    have hlate := (List.pairwise_cons.mp hapart).1 b (by simp) (by rw [hclaims])
    have huse := hi.inUse b hb
    rw [hclaims] at hlate
    omega

/-- **One token for a session, over whole runs.** Of two acceptances of a session the later one happens
after the last use of the earlier one's token; the primitive is asked at most once for any session token. -/
theorem acceptances_apart (hs : s.issuance = some issuance)
    (hl : s.expectation.leeway ≤ issuance.sessionLeeway) {w : World}
    (hw : w.now.toInt < Instant.maxSeconds)
    (hrun : Relation.ReflTransGen (Step s limit) { world := w } h) :
    (h.accepted.Pairwise fun a b => a.claims.jti = b.claims.jti →
      a.claims.exp.toInt + issuance.sessionLeeway.capped.toInt < b.time.toInt) ∧
    ∀ token, h.primitiveCalls token ≤ 1 := by
  have hi := Sound.run hs hl hw hrun
  exact ⟨hi.apart, fun token => Nat.le_trans (hi.asked token) (hi.countP_le_one token)⟩

namespace Sample

/-- Another token for the session "j", which expires 99 seconds after the epoch. -/
def renewed : String :=
  "eyJhbGciOiJFUzI1NiJ9" ++
  ".eyJpc3MiOiJpIiwiYXVkIjoiYSIsInN1YiI6IiIsImV4cCI6OTksImlhdCI6MCwianRpIjoiaiJ9" ++
  ".viW0oPDAp5lXp44ZA5SoAQVuT5CYn9VVbs0-8PWyfielPpukEKnYQiacpvBrTXlWGBTyDmzM3E0chntLa0SDGA"

theorem facing_outside : service.facing outside = service := rfl

theorem step_respond (h : History) (r : Request) : Step service {} h (h.respond service r) := by
  have hstep : Step service {} h (h.respond (service.facing outside) r) := .request h r outside
  rwa [facing_outside] at hstep

/-- The session obtains a token, the clock passes the last use of its session token by one second, the
sweeper takes the record, and the session obtains another token with its other session token. -/
def renewal : History :=
  let first := ({ world } : History).respond service (request "AQ==")
  let late := { first with world := first.world.change {} (.clock 70) }
  let swept := { late with world := late.world.change {} .sweep }
  swept.respond service (present renewed "AQ==")

set_option maxRecDepth 100000 in
theorem accepted_renewal :
    renewal.accepted.map (fun a => (a.claims.jti, a.time)) = [("j", 0), ("j", 70)] := by
  decide +kernel

theorem renewal_run : Relation.ReflTransGen (Step service {}) { world } renewal := by
  have hnow : (({ world } : History).respond service (request "AQ==")).world.now ≤ 70 := by
    rw [History.respond_now (rfl : service.issuance = some issuance)]
    decide
  have hfirst : Step service {} { world } _ := step_respond { world } (request "AQ==")
  exact .tail (.head hfirst (sweep_at _ hnow (by decide))) (step_respond _ (present renewed "AQ=="))

end Sample

/-- A run with two acceptances of a session, as close as they can be. -/
theorem acceptances_apart_swept :
    Sample.service.issuance = some Sample.issuance ∧
      Sample.service.expectation.leeway ≤ Sample.issuance.sessionLeeway ∧
      Sample.world.now.toInt < Instant.maxSeconds ∧
      ∃ h, Relation.ReflTransGen (Step Sample.service {}) { world := Sample.world } h ∧
        h.accepted.map (fun a => (a.claims.jti, a.time)) = [("j", 0), ("j", 70)] ∧
        (h.accepted.Pairwise fun a b => a.claims.jti = b.claims.jti →
          a.claims.exp.toInt + Sample.issuance.sessionLeeway.capped.toInt < b.time.toInt) ∧
        ∀ token, h.primitiveCalls token ≤ 1 := by
  have hl : Sample.service.expectation.leeway ≤ Sample.issuance.sessionLeeway := by decide
  have hw : Sample.world.now.toInt < Instant.maxSeconds := by decide
  have hresult := acceptances_apart rfl hl hw Sample.renewal_run
  exact ⟨rfl, hl, hw, _, Sample.renewal_run, Sample.accepted_renewal, hresult.1, hresult.2⟩

end BlindMint.Http
