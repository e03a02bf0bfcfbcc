import BlindMint.Proofs.Ledger.Stage
import Mathlib.Logic.Relation

/-!
# Requests in flight

Any number of requests for tokens, sweeps, clock moves and other changes take their steps in any order. A
token's expiry is looked at when its request arrives and never again. A request that stalls behind that step
is not asked how late it is, and when it reaches the ledger the sweep may have taken the record of its
session.

As for whole requests, the clock does not go back and stays below the greatest instant, each request meets an
outside of its own, and the session leeway is at least the leeway with which tokens are verified.

## Results

* `Steady.run`: what holds of all requests of an interleaved run.
* **`issued_once_while_prompt`**: a token is issued for at most once as long as none of its requests is
  accepted after the token's last use. The proviso cannot be dropped: of any two verified requests for one
  token both may be accepted, as long as the clock can still pass the last use.
-/

namespace BlindMint.Http

/-- A request in flight. -/
structure Flight where
  /-- The token it presents. -/
  bearer : Option String
  /-- The clock when it arrived. -/
  arrived : Instant
  stage : Stage
  /-- The clock when the ledger accepted it, if it did. -/
  accepted : Option Instant := none

namespace Flight

/-- One step of a request. -/
def advance (s : Service) (f : Flight) (w : World) : Flight × World :=
  match f.stage.next s w with
  | (.entered a, v) => ({ f with stage := .entered a, accepted := some v.now }, v)
  | (stage, v) => ({ f with stage }, v)

/-- What its token says. -/
def claims? (f : Flight) : Option SessionClaims :=
  f.bearer.bind Session.claimsOf?

end Flight

/-- The world and the requests that have arrived so far. -/
structure Traffic where
  world : World
  flights : List Flight := []

namespace Traffic

/-- A request arrives and has its token verified. -/
def arrive (s : Service) (bearer : Option String) (maskedPoint : String) (t : Traffic) : Traffic :=
  let (stage, world) := Stage.start s bearer maskedPoint t.world
  { world, flights := t.flights ++ [{ bearer, arrived := t.world.now, stage }] }

/-- One request takes its next step. -/
def advance (s : Service) (i : Nat) (t : Traffic) : Traffic :=
  match t.flights[i]? with
  | none => t
  | some f =>
    let (f, world) := f.advance s t.world
    { world, flights := t.flights.set i f }

/-- One step of an interleaved run. -/
inductive Step (s : Service) (limit : VerificationLimit) : Traffic → Traffic → Prop
  | arrive (t : Traffic) (bearer : Option String) (maskedPoint : String) (o : Outside) :
      Step s limit t (t.arrive (s.facing o) bearer maskedPoint)
  | advance (t : Traffic) (i : Nat) : Step s limit t (t.advance s i)
  | change (t : Traffic) (c : Change) (hf : t.world.now ≤ (t.world.change limit c).now)
      (hb : (t.world.change limit c).now.toInt < Instant.maxSeconds) :
      Step s limit t { t with world := t.world.change limit c }

end Traffic

variable {s : Service} {issuance : Issuance} {limit : VerificationLimit}
variable {f g : Flight} {w v : World} {t : Traffic}

/-! ## One request -/

/-- What holds of a request in flight. -/
structure Flight.Steady (issuance : Issuance) (f : Flight) (w : World) : Prop where
  /-- What it is about is what its token says, and it arrived in time. Its primitive may be any. -/
  admitted : ∀ a, f.stage.admitted? = some a → a.issuance.sessionLeeway = issuance.sessionLeeway ∧
    f.claims? = some a.claims ∧ f.arrived.toInt ≤ issuance.lastUse a.claims
  /-- Its session is covered once it was accepted. -/
  accepted : f.accepted ≠ none → ∃ c, f.claims? = some c ∧ issuance.Covers c w ∧
    f.arrived.toInt ≤ issuance.lastUse c
  entered : ∀ a, f.stage = .entered a → f.accepted ≠ none
  issued : f.stage.isIssued = true → f.accepted ≠ none

/-- Two requests were not both accepted while the tokens of both were in use, if they are for one session. -/
def Flight.Apart (issuance : Issuance) (f g : Flight) : Prop :=
  ∀ x y c d, f.accepted = some x → g.accepted = some y → f.claims? = some c → g.claims? = some d →
    c.jti = d.jti → issuance.lastUse c < y.toInt ∨ issuance.lastUse d < x.toInt

theorem Flight.Apart.symm (h : f.Apart issuance g) : g.Apart issuance f :=
  fun x y c d hx hy hc hd hjti => (h y x d c hy hx hd hc hjti.symm).symm

theorem Flight.Apart.of_none (h : f.accepted = none) : f.Apart issuance g := by
  intro x y c d hx
  rw [h] at hx
  cases hx

/-- What is known of a request stays true while its session stays covered. -/
theorem Flight.Steady.of_covers (h : f.Steady issuance w)
    (hc : ∀ c, issuance.Covers c w → issuance.Covers c v) : f.Steady issuance v := by
  refine ⟨h.admitted, fun ha => ?_, h.entered, h.issued⟩
  obtain ⟨c, hclaims, hcovers, harrived⟩ := h.accepted ha
  exact ⟨c, hclaims, hc c hcovers, harrived⟩

/-- The two things that a step of a request can do: the ledger accepts it, or ledger and clock stay. -/
theorem Flight.advance_cases (s : Service) (f : Flight) (w : World) :
    (∃ a, f.stage = .unseen a ∧ a.issuance.Entered a.claims w (f.advance s w).2 ∧
      (f.advance s w).1 = { f with stage := .entered a, accepted := some w.now }) ∨
    ((f.advance s w).2.now = w.now ∧ (f.advance s w).2.issues = w.issues ∧
      ∃ stage, f.stage.next s w = (stage, (f.advance s w).2) ∧ (∀ a, stage ≠ .entered a) ∧
        (f.advance s w).1 = { f with stage }) := by
  unfold Flight.advance
  split
  · next a v heq =>
    obtain ⟨hstage, hentered⟩ := Stage.next_entered heq
    refine .inl ⟨a, hstage, hentered, ?_⟩
    rw [hentered.now]
  · next stage v hne heq =>
    obtain ⟨hnow, hissues⟩ := Stage.next_keeps heq hne
    exact .inr ⟨hnow, hissues, stage, heq, hne, rfl⟩

theorem Flight.advance_now (s : Service) (f : Flight) (w : World) : (f.advance s w).2.now = w.now := by
  rcases f.advance_cases s w with ⟨a, -, hentered, -⟩ | ⟨hnow, -⟩
  · exact hentered.now
  · exact hnow

theorem Flight.advance_covers {c : SessionClaims} (s : Service) (f : Flight)
    (h : issuance.Covers c w) : issuance.Covers c (f.advance s w).2 := by
  rcases f.advance_cases s w with ⟨a, -, hentered, -⟩ | ⟨hnow, hissues, -⟩
  · exact h.of_subset hentered.subset (by rw [hentered.now]; exact Int64.le_refl _)
  · refine h.of_subset ?_ (by rw [hnow]; exact Int64.le_refl _)
    rw [hissues]
    exact List.Subset.refl _

/-- A step of a request keeps what is known of it. -/
theorem Flight.Steady.advance (h : f.Steady issuance w) :
    (f.advance s w).1.Steady issuance (f.advance s w).2 := by
  rcases f.advance_cases s w with ⟨a, hstage, hentered, hf⟩ | ⟨hnow, hissues, stage, hnext, hne, hf⟩
  · have hadmitted := h.admitted a (by rw [hstage]; rfl)
    obtain ⟨hleeway, hclaims, harrived⟩ := hadmitted
    have hcovers := (Issuance.covers_iff_of_sessionLeeway hleeway).mp hentered.covers
    rw [hf]
    refine ⟨fun b hb => ?_, fun _ => ⟨a.claims, hclaims, hcovers, harrived⟩, ?_, ?_⟩
    · obtain rfl := Option.some.inj hb
      exact ⟨hleeway, hclaims, harrived⟩
    · exact fun b _ => Option.some_ne_none _
    · intro hissued
      cases hissued
  · have hkept := h.of_covers fun c hc => Flight.advance_covers s f hc
    rw [hf]
    refine ⟨fun a ha => ?_, hkept.accepted, fun a ha => absurd ha (hne a), fun hissued => ?_⟩
    · exact h.admitted a (Stage.admitted?_next hnext ha)
    · rcases Stage.entered_of_isIssued hnext hissued with ⟨a, ha⟩ | hold
      · exact h.entered a ha
      · exact h.issued hold

/-- **A step of a request keeps it apart from the others.** If the ledger accepts it, its session has no
record; an earlier acceptance of the session is covered, and so its last use has passed. -/
theorem Flight.Apart.advance (h : f.Apart issuance g) (hf : f.Steady issuance w)
    (hg : g.Steady issuance w) : (f.advance s w).1.Apart issuance g := by
  rcases f.advance_cases s w with ⟨a, hstage, hentered, hadvance⟩ | ⟨-, -, stage, -, -, hadvance⟩
  · obtain ⟨-, hclaims, -⟩ := hf.admitted a (by rw [hstage]; rfl)
    rw [hadvance]
    intro x y c d hx hy hc hd hjti
    obtain rfl := Option.some.inj hx
    obtain rfl : a.claims = c := Option.some.inj (hclaims.symm.trans hc)
    obtain ⟨d', hd', hcovers, -⟩ := hg.accepted (by rw [hy]; exact Option.some_ne_none _)
    obtain rfl : d' = d := Option.some.inj (hd'.symm.trans hd)
    have hfresh := hentered.fresh
    rw [hjti] at hfresh
    exact .inr (hcovers.lastUse_lt hfresh)
  · rw [hadvance]
    exact h

/-! ## One step of a run -/

/-- What holds along an interleaved run. -/
structure Traffic.Steady (issuance : Issuance) (t : Traffic) : Prop where
  below : t.world.now.toInt < Instant.maxSeconds
  flights : ∀ f ∈ t.flights, f.Steady issuance t.world
  apart : ∀ (i j : Nat) (f g : Flight), i ≠ j → t.flights[i]? = some f → t.flights[j]? = some g →
    f.Apart issuance g

/-- What is known of a request that has just arrived. -/
theorem Flight.Steady.start (hs : s.issuance = some issuance)
    (hl : s.expectation.leeway ≤ issuance.sessionLeeway) (bearer : Option String) (maskedPoint : String)
    (w v : World) :
    Flight.Steady issuance
      { bearer, arrived := w.now, stage := (Stage.start s bearer maskedPoint w).1 } v := by
  unfold Stage.start
  cases hadmission : s.admission bearer maskedPoint w with
  | mk outcome u =>
    cases outcome with
    | error e => exact ⟨fun a ha => (by cases ha), fun ha => absurd rfl ha, fun a ha => (by cases ha),
        fun ha => (by cases ha)⟩
    | ok a =>
      obtain ⟨hissuance, token, rfl, hclaims, hlive⟩ := Service.admission_ok hadmission
      refine ⟨fun b hb => ?_, fun ha => absurd rfl ha, fun b hb => (by cases hb), fun hb => (by cases hb)⟩
      obtain rfl := Option.some.inj hb
      obtain rfl := Option.some.inj (hissuance.symm.trans hs)
      exact ⟨rfl, hclaims, Issuance.le_lastUse_of_isExpired hl hlive⟩

theorem start_upkeep (s : Service) (bearer : Option String) (maskedPoint : String) (w : World) :
    Upkeep w (Stage.start s bearer maskedPoint w).2 := by
  have h := Service.admission_upkeep s bearer maskedPoint w
  unfold Stage.start
  split
  · next heq => rwa [heq] at h
  · next heq => rwa [heq] at h

theorem Traffic.arrive_now (s : Service) (bearer : Option String) (maskedPoint : String) (t : Traffic) :
    (t.arrive s bearer maskedPoint).world.now = t.world.now :=
  (start_upkeep s bearer maskedPoint t.world).now

theorem Traffic.advance_now (s : Service) (i : Nat) (t : Traffic) :
    (t.advance s i).world.now = t.world.now := by
  unfold Traffic.advance
  split
  · rfl
  · exact Flight.advance_now _ _ _

/-- A request that is there after an arrival was there before, or has only just arrived. -/
theorem Traffic.arrive_flight {bearer : Option String} {maskedPoint : String} {k : Nat}
    (hk : (t.arrive s bearer maskedPoint).flights[k]? = some f) :
    t.flights[k]? = some f ∨ f.accepted = none := by
  unfold Traffic.arrive at hk
  rcases Nat.lt_or_ge k t.flights.length with hlt | hge
  · left
    rwa [List.getElem?_append_left hlt] at hk
  · right
    rw [List.getElem?_append_right hge] at hk
    obtain rfl := List.mem_singleton.mp (List.mem_of_getElem? hk)
    rfl

theorem Traffic.Steady.arrive (h : t.Steady issuance) (hs : s.issuance = some issuance)
    (hl : s.expectation.leeway ≤ issuance.sessionLeeway) (bearer : Option String)
    (maskedPoint : String) : (t.arrive s bearer maskedPoint).Steady issuance := by
  have hframe := start_upkeep s bearer maskedPoint t.world
  constructor
  · rw [Traffic.arrive_now]
    exact h.below
  · intro f hf
    rcases List.mem_append.mp hf with hold | hnew
    · exact (h.flights f hold).of_covers fun c hc => hc.of_sameLedger hframe.sameLedger
    · obtain rfl := List.mem_singleton.mp hnew
      exact Flight.Steady.start hs hl bearer maskedPoint t.world _
  · intro i j f g hij hi hj
    rcases Traffic.arrive_flight hi with hi' | hnone
    · rcases Traffic.arrive_flight hj with hj' | hnone
      · exact h.apart i j f g hij hi' hj'
      · exact (Flight.Apart.of_none hnone).symm
    · exact .of_none hnone

/-- A request that is there after a step is the one that took it, or was there before. -/
theorem Traffic.set_flight {flights : List Flight} {i j : Nat} (hi : i < flights.length)
    (hj : (flights.set i f)[j]? = some g) : (j = i ∧ g = f) ∨ (j ≠ i ∧ flights[j]? = some g) := by
  by_cases hji : j = i
  · subst hji
    rw [List.getElem?_set_self hi] at hj
    exact .inl ⟨rfl, (Option.some.inj hj).symm⟩
  · rw [List.getElem?_set_ne (Ne.symm hji)] at hj
    exact .inr ⟨hji, hj⟩

theorem Traffic.Steady.advance (h : t.Steady issuance) (s : Service) (i : Nat) :
    (t.advance s i).Steady issuance := by
  have hnow := Traffic.advance_now s i t
  unfold Traffic.advance at hnow ⊢
  cases hi : t.flights[i]? with
  | none => exact h
  | some f =>
    rw [hi] at hnow
    have hlt := (List.getElem?_eq_some_iff.mp hi).1
    have hf := h.flights f (List.mem_of_getElem? hi)
    constructor
    · rw [hnow]
      exact h.below
    · intro g hg
      obtain ⟨j, hj⟩ := List.mem_iff_getElem?.mp hg
      rcases Traffic.set_flight hlt hj with ⟨-, rfl⟩ | ⟨-, hold⟩
      · exact hf.advance
      · exact (h.flights g (List.mem_of_getElem? hold)).of_covers
          fun c hc => Flight.advance_covers s f hc
    · intro j k g e hjk hj hk
      rcases Traffic.set_flight hlt hj with ⟨rfl, rfl⟩ | ⟨-, hg⟩
      · rcases Traffic.set_flight hlt hk with ⟨rfl, -⟩ | ⟨-, he⟩
        · exact absurd rfl hjk
        · exact (h.apart j k f e hjk hi he).advance hf (h.flights e (List.mem_of_getElem? he))
      · rcases Traffic.set_flight hlt hk with ⟨rfl, rfl⟩ | ⟨-, he⟩
        · exact ((h.apart k j f g (Ne.symm hjk) hi hg).advance hf
            (h.flights g (List.mem_of_getElem? hg))).symm
        · exact h.apart j k g e hjk hg he

theorem Traffic.Steady.change (h : t.Steady issuance) {c : Change}
    (hf : t.world.now ≤ (t.world.change limit c).now)
    (hb : (t.world.change limit c).now.toInt < Instant.maxSeconds) :
    Traffic.Steady issuance { t with world := t.world.change limit c } where
  below := hb
  flights f hflight := (h.flights f hflight).of_covers fun _ hc => hc.change h.below hf
  apart := h.apart

/-- What holds along a run does not depend on the primitive. -/
theorem Traffic.Steady.withPrimitive (h : t.Steady issuance) (primitive : Primitive) :
    t.Steady { issuance with primitive } where
  below := h.below
  flights f hf :=
    ⟨(h.flights f hf).admitted, (h.flights f hf).accepted, (h.flights f hf).entered, (h.flights f hf).issued⟩
  apart := h.apart

theorem Traffic.Steady.run (hs : s.issuance = some issuance)
    (hl : s.expectation.leeway ≤ issuance.sessionLeeway) (hw : w.now.toInt < Instant.maxSeconds)
    (hrun : Relation.ReflTransGen (Traffic.Step s limit) { world := w } t) : t.Steady issuance := by
  induction hrun with
  | refl => exact ⟨hw, fun f hf => (by cases hf), fun i j f g _ hi => (by cases hi)⟩
  | tail _ hstep ih =>
    cases hstep with
    | arrive bearer maskedPoint o =>
      have hnext := (ih.withPrimitive o.primitive).arrive (Service.facing_issuance hs o) hl bearer maskedPoint
      exact hnext.withPrimitive issuance.primitive
    | advance i => exact ih.advance s i
    | change c hf hb => exact ih.change hf hb

/-! ## Two requests for one token -/

/-- A verified request whose session has no record is accepted by its next two steps if the store works. -/
theorem Traffic.advance_advance {i : Nat} {a : Service.Admission} (s : Service)
    (hi : t.flights[i]? = some f) (hf : f.stage = .verified a)
    (hfresh : t.world.issues.find a.claims.jti = []) (hfaults : t.world.faults = {}) :
    ∃ v, a.issuance.Entered a.claims t.world v ∧ (t.advance s i).advance s i =
      { world := v,
        flights := t.flights.set i
          { f with stage := .entered a, accepted := some t.world.now } } := by
  have hlt := (List.getElem?_eq_some_iff.mp hi).1
  have hlookUp : f.advance s t.world = ({ f with stage := .unseen a }, t.world) := by
    unfold Flight.advance Stage.next Stage.lookUp World.lookUpSession World.findIssues
    simp [hf, hfaults, hfresh]
  have hfirst : t.advance s i =
      { world := t.world, flights := t.flights.set i { f with stage := .unseen a } } := by
    unfold Traffic.advance
    rw [hi]
    dsimp only
    rw [hlookUp]
  let saved : World :=
    { t.world with issues := t.world.issues.add (a.issuance.record a.claims) }
  let counted := saved.count (.issuance LedgerDecision.accepted.name) 1
  have hsave : Flight.advance s { f with stage := .unseen a } t.world =
      ({ f with stage := .entered a, accepted := some t.world.now }, counted) := by
    have hempty : (t.world.issues.find (a.issuance.record a.claims).session).isEmpty = true := by
      simp [Issuance.record, hfresh]
    unfold Flight.advance Stage.next Stage.save World.recordSession World.saveIssue
    simp [IssueTable.save_eq, hfaults, hempty, World.count, counted, saved]
  refine ⟨counted, ⟨rfl, rfl, hfresh, rfl, rfl⟩, ?_⟩
  rw [hfirst]
  unfold Traffic.advance
  dsimp only
  rw [List.getElem?_set_self hlt]
  dsimp only
  rw [hsave, List.set_set]

/-- A run may always go on with a clock move and a sweep. -/
theorem Traffic.sweep_at (s : Service) (limit : VerificationLimit) (t : Traffic) {now : Instant}
    (hf : t.world.now ≤ now) (hb : now.toInt < Instant.maxSeconds) :
    Relation.ReflTransGen (Traffic.Step s limit) t
      { t with world := (t.world.change limit (.clock now)).change limit .sweep } := by
  refine .tail (.single (.change t (.clock now) hf hb)) (.change _ .sweep ?_ ?_)
  · rw [sweep_at_now]
    exact Int64.le_refl _
  · rw [sweep_at_now]
    exact hb

/-- Of two verified requests for one token both can be accepted, if their session has no record and the
clock can still pass the token's last use. -/
theorem Traffic.Steady.both_accepted (h : t.Steady issuance) {i j : Nat} {a b : Service.Admission}
    {now : Instant} (hij : i ≠ j) (hi : t.flights[i]? = some f) (hj : t.flights[j]? = some g)
    (hf : f.stage = .verified a) (hg : g.stage = .verified b) (hbearer : f.bearer = g.bearer)
    (hfresh : t.world.issues.find a.claims.jti = []) (hforward : t.world.now ≤ now)
    (hlate : issuance.lastUse a.claims < now.toInt) (hb : now.toInt < Instant.maxSeconds) :
    ∃ t', Relation.ReflTransGen (Traffic.Step s limit) t t' ∧
      t'.flights[i]? = some { f with stage := .entered a, accepted := some t.world.now } ∧
      t'.flights[j]? = some { g with stage := .entered b, accepted := some now } := by
  obtain ⟨hleeway, hclaims, -⟩ := (h.flights f (List.mem_of_getElem? hi)).admitted a (by rw [hf]; rfl)
  obtain ⟨-, hclaims', -⟩ := (h.flights g (List.mem_of_getElem? hj)).admitted b (by rw [hg]; rfl)
  have hsame : b.claims = a.claims := by
    unfold Flight.claims? at hclaims hclaims'
    rw [← hbearer, hclaims] at hclaims'
    exact (Option.some.inj hclaims').symm
  -- the store works, and the first request is accepted
  let works : Traffic := { t with world := t.world.change limit (.faults {}) }
  obtain ⟨v, hentered, hadvance⟩ := Traffic.advance_advance s (t := works) hi hf hfresh rfl
  have hvnow : v.now = t.world.now := hentered.now
  have hvfaults : v.faults = {} := hentered.faults
  let flights := t.flights.set i { f with stage := .entered a, accepted := some t.world.now }
  have hfirst : (works.advance s i).advance s i = { world := v, flights } := hadvance
  have hrun : Relation.ReflTransGen (Traffic.Step s limit) t { world := v, flights } := by
    have hworks : Traffic.Step s limit t works := .change t (.faults {}) (Int64.le_refl _) h.below
    have hstep : Traffic.Step s limit (works.advance s i) { world := v, flights } := by
      rw [← hfirst]
      exact .advance _ i
    exact .tail (.tail (.single hworks) (.advance works i)) hstep
  -- the clock passes the last use, and the sweep takes the record
  let swept : World := (v.change limit (.clock now)).change limit .sweep
  have hnow : swept.now = now := sweep_at_now v now
  have hfaults : swept.faults = {} := (sweep_faults _).trans hvfaults
  have hgone : swept.issues.find b.claims.jti = [] := by
    rw [hsame]
    refine hentered.find_swept (by rw [hvfaults]) ?_
    rwa [Issuance.lastUse_eq_of_sessionLeeway hleeway]
  have hsweep : Relation.ReflTransGen (Traffic.Step s limit) { world := v, flights }
      { world := swept, flights } :=
    Traffic.sweep_at s limit { world := v, flights } (by rw [hvnow]; exact hforward) hb
  -- nothing is left that would tell the second request of the first
  have hj' : flights[j]? = some g := by rw [List.getElem?_set_ne hij]; exact hj
  obtain ⟨u, -, hsecond⟩ := Traffic.advance_advance s (t := { world := swept, flights }) hj' hg hgone hfaults
  have hlast := ((hrun.trans hsweep).tail (.advance _ j)).tail (.advance _ j)
  rw [hsecond] at hlast
  refine ⟨_, hlast, ?_, ?_⟩
  · show (flights.set j _)[i]? = _
    rw [List.getElem?_set_ne (Ne.symm hij), List.getElem?_set_self (List.getElem?_eq_some_iff.mp hi).1]
  · show (flights.set j _)[j]? = _
    rw [List.getElem?_set_self (List.getElem?_eq_some_iff.mp hj').1, ← hnow]

/-- **A token is issued for at most once while its requests are prompt**: as long as none of them is accepted
after the token's last use. The proviso is needed: of two verified requests for a token whose session has no
record, both can be accepted if the clock can still pass the last use. -/
theorem issued_once_while_prompt (hs : s.issuance = some issuance)
    (hl : s.expectation.leeway ≤ issuance.sessionLeeway) (hw : w.now.toInt < Instant.maxSeconds)
    (hrun : Relation.ReflTransGen (Traffic.Step s limit) { world := w } t) :
    (∀ (token : String) (claims : SessionClaims), Session.claimsOf? token = some claims →
      (∀ f ∈ t.flights, f.bearer = some token → ∀ x, f.accepted = some x →
        x.toInt ≤ claims.exp.toInt + issuance.sessionLeeway.capped.toInt) →
      ∀ (i j : Nat) (f g : Flight), t.flights[i]? = some f → t.flights[j]? = some g →
        f.bearer = some token → g.bearer = some token →
        f.stage.isIssued = true → g.stage.isIssued = true → i = j) ∧
    ∀ (i j : Nat) (f g : Flight) (a b : Service.Admission) (now : Instant), i ≠ j →
      t.flights[i]? = some f → t.flights[j]? = some g →
      f.stage = .verified a → g.stage = .verified b → f.bearer = g.bearer →
      t.world.issues.find a.claims.jti = [] → t.world.now ≤ now →
      a.claims.exp.toInt + issuance.sessionLeeway.capped.toInt < now.toInt →
      now.toInt < Instant.maxSeconds →
      ∃ t', Relation.ReflTransGen (Traffic.Step s limit) t t' ∧
        t'.flights[i]? = some { f with stage := .entered a, accepted := some t.world.now } ∧
        t'.flights[j]? = some { g with stage := .entered b, accepted := some now } := by
  have h := Traffic.Steady.run hs hl hw hrun
  constructor
  · intro token claims hclaims hprompt i j f g hi hj hf hg hfi hgi
    refine Classical.byContradiction fun hij => ?_
    have hfm := List.mem_of_getElem? hi
    have hgm := List.mem_of_getElem? hj
    obtain ⟨x, hx⟩ := Option.ne_none_iff_exists'.mp ((h.flights f hfm).issued hfi)
    obtain ⟨y, hy⟩ := Option.ne_none_iff_exists'.mp ((h.flights g hgm).issued hgi)
    have hfc : f.claims? = some claims := by rw [Flight.claims?, hf]; exact hclaims
    have hgc : g.claims? = some claims := by rw [Flight.claims?, hg]; exact hclaims
    have hxle := hprompt f hfm hf x hx
    have hyle := hprompt g hgm hg y hy
    rcases h.apart i j f g hij hi hj x y claims claims hx hy hfc hgc rfl with hlate | hlate
    · exact absurd hlate (Int.not_lt.mpr hyle)
    · exact absurd hlate (Int.not_lt.mpr hxle)
  · intro i j f g a b now hij hi hj hf hg hbearer hfresh hforward hlate hb
    exact h.both_accepted hij hi hj hf hg hbearer hfresh hforward hlate hb

/-! ## A request that stalls -/

/-- Two requests arrive with one token, and meet one outside. The first is finished, the clock moves, the sweeper
passes, and then the second is finished. -/
def Traffic.stall (s : Service) (o : Outside) (limit : VerificationLimit) (token : String) (maskedPoint : String)
    (now : Instant) (w : World) : Traffic :=
  let first := ({ world := w } : Traffic).arrive (s.facing o) (some token) maskedPoint
  let both := first.arrive (s.facing o) (some token) maskedPoint
  let finished := ((both.advance s 0).advance s 0).advance s 0
  let late := { finished with world := finished.world.change limit (.clock now) }
  let swept := { late with world := late.world.change limit .sweep }
  ((swept.advance s 1).advance s 1).advance s 1

theorem Traffic.stall_run {o : Outside} {token maskedPoint : String} {now : Instant} (hf : w.now ≤ now)
    (hb : now.toInt < Instant.maxSeconds) :
    Relation.ReflTransGen (Traffic.Step s limit) { world := w }
      (Traffic.stall s o limit token maskedPoint now w) := by
  let first := ({ world := w } : Traffic).arrive (s.facing o) (some token) maskedPoint
  let both := first.arrive (s.facing o) (some token) maskedPoint
  let finished := ((both.advance s 0).advance s 0).advance s 0
  have hfinished : Relation.ReflTransGen (Traffic.Step s limit) { world := w } finished :=
    .tail (.tail (.tail (.tail (.single (.arrive _ _ _ o)) (.arrive _ _ _ o)) (.advance _ 0)) (.advance _ 0))
      (.advance _ 0)
  have hnow : finished.world.now = w.now := by
    rw [Traffic.advance_now, Traffic.advance_now, Traffic.advance_now, Traffic.arrive_now,
      Traffic.arrive_now]
  have hswept := Traffic.sweep_at s limit finished (by rw [hnow]; exact hf) hb
  exact .tail (.tail (.tail (hfinished.trans hswept) (.advance _ 1)) (.advance _ 1)) (.advance _ 1)

set_option maxRecDepth 100000 in
theorem Sample.stalled :
    (Traffic.stall service outside {} token "AQ==" 70 world).flights.map
      (fun f => (f.bearer, f.stage.isIssued)) = [(some token, true), (some token, true)] := by
  decide +kernel

set_option maxRecDepth 100000 in
theorem Sample.claimsOf?_token :
    Session.claimsOf? token = some ⟨"i", "a", "", 9, 0, "j"⟩ := by
  decide +kernel

/-- The run with the stalled request, by the general statement: a request was accepted after the last use. -/
theorem issued_once_while_prompt_stalled :
    Sample.service.issuance = some Sample.issuance ∧
      Sample.service.expectation.leeway ≤ Sample.issuance.sessionLeeway ∧
      Sample.world.now.toInt < Instant.maxSeconds ∧
      ∃ t, Relation.ReflTransGen (Traffic.Step Sample.service {}) { world := Sample.world } t ∧
        ¬ ∀ f ∈ t.flights, f.bearer = some Sample.token → ∀ x, f.accepted = some x →
          x.toInt ≤ (9 : Instant).toInt + Sample.issuance.sessionLeeway.capped.toInt := by
  have hl : Sample.service.expectation.leeway ≤ Sample.issuance.sessionLeeway := by decide
  have hw : Sample.world.now.toInt < Instant.maxSeconds := by decide
  have hrun : Relation.ReflTransGen (Traffic.Step Sample.service {}) { world := Sample.world }
      (Traffic.stall Sample.service Sample.outside {} Sample.token "AQ==" 70 Sample.world) :=
    Traffic.stall_run (by decide) (by decide)
  refine ⟨rfl, hl, hw, _, hrun, fun hprompt => ?_⟩
  have honce := (issued_once_while_prompt rfl hl hw hrun).1 Sample.token _ Sample.claimsOf?_token hprompt
  have hissued := Sample.stalled
  obtain ⟨f, rest, hflights, hf, hrest⟩ := List.map_eq_cons_iff.mp hissued
  obtain ⟨g, nothing, rfl, hg, hnothing⟩ := List.map_eq_cons_iff.mp hrest
  obtain ⟨hfb, hfi⟩ := Prod.mk.inj hf
  obtain ⟨hgb, hgi⟩ := Prod.mk.inj hg
  have hone := honce 0 1 f g (by rw [hflights]; rfl) (by rw [hflights]; rfl) hfb hgb hfi hgi
  cases hone

/-- A stalled request obtains a second token for a session. -/
theorem issued_twice_after_stall :
    Sample.service.expectation.leeway ≤ Sample.issuance.sessionLeeway ∧
      Sample.world.now.toInt < Instant.maxSeconds ∧
      ∃ t, Relation.ReflTransGen (Traffic.Step Sample.service {}) { world := Sample.world } t ∧
        t.flights.map (fun f => (f.bearer, f.stage.isIssued)) =
          [(some Sample.token, true), (some Sample.token, true)] :=
  ⟨by decide, by decide, _, Traffic.stall_run (by decide) (by decide), Sample.stalled⟩

end BlindMint.Http
