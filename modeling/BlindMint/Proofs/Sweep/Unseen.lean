import BlindMint.Proofs.Ledger.Request
import BlindMint.Proofs.Sweep.Reach

/-!
# Sweeps are not seen

A client cannot tell when the sweeper has passed. Two runs of the same requests and changes, in which the
sweeper passes at different times and differently often, are answered the same if the outside says the same to each
request. Both are compared with the run in which it never passes: the world of that run and the world of the run at
hand differ by records that are out of reach, which is what every event preserves.

Tokens of one session must expire together. Otherwise the session of a token that has expired may come back
with a later one, and finds its record gone in the one run and standing in the other.

## Results

* `responses_unswept`: a run is answered like the run without its sweeps.
* **`responses_eq_of_unswept_eq`**: sweeps inserted, removed or moved change no response.
-/

namespace BlindMint.Http

/-! ## Runs -/

/-- What happens in a run: a request, with what the outside says to it, or a change beside the requests. -/
inductive Event where
  | request (r : Request) (o : Outside)
  | change (c : Change)

namespace Event

/-- Whether the sweeper passes. -/
def isSweep : Event → Bool
  | .change .sweep => true
  | _ => false

/-- Where the clock is moved. -/
def clock? : Event → Option Instant
  | .change (.clock now) => some now
  | _ => none

/-- What the session token says that is presented with a request for a token. -/
def claims? : Event → Option SessionClaims
  | .request r _ => r.presented?
  | .change _ => none

end Event

/-- The responses of a service to the requests of a run. -/
def responses (s : Service) (limit : VerificationLimit) : List Event → World → List (Option Response)
  | [], _ => []
  | .request r o :: events, w =>
    ((s.facing o).respond r w).1 :: responses s limit events ((s.facing o).respond r w).2
  | .change c :: events, w => responses s limit events (w.change limit c)

/-- A run without its sweeps. -/
def unswept (events : List Event) : List Event :=
  events.filter fun e => !e.isSweep

variable {s : Service} {limit : VerificationLimit} {carried : SessionClaims → Prop} {w v : World}

/-! ## Every run -/

theorem filterMap_unswept {α : Type} {f : Event → Option α} (hf : ∀ e, e.isSweep = true → f e = none)
    (events : List Event) : (unswept events).filterMap f = events.filterMap f := by
  unfold unswept
  rw [List.filterMap_filter]
  congr 1
  funext e
  cases hsweep : e.isSweep with
  | true => simp [hf e hsweep]
  | false => simp

/-! ## What the outside says to one request -/

theorem owned_facing_iff (o : Outside) : Owned (s.facing o) carried w ↔ Owned s carried w := by
  constructor
  · intro h row hrow issuance claims hs hcarried hjti
    exact h row hrow { issuance with primitive := o.primitive } claims (Service.facing_issuance hs o)
      hcarried hjti
  · intro h row hrow issuance claims hs hcarried hjti
    obtain ⟨own, hown, rfl⟩ := Option.map_eq_some_iff.mp hs
    exact h row hrow own claims hown hcarried hjti

theorem Swept.facing (h : Swept s limit carried w v) (o : Outside) : Swept (s.facing o) limit carried w v :=
  ⟨h.toAlike, h.below, h.reached, h.subset, h.missing, (owned_facing_iff o).mpr h.owned⟩

theorem Swept.of_facing {o : Outside} (h : Swept (s.facing o) limit carried w v) : Swept s limit carried w v :=
  ⟨h.toAlike, h.below, h.reached, h.subset, h.missing, (owned_facing_iff o).mp h.owned⟩

theorem facing_leeway (h : ∀ issuance, s.issuance = some issuance →
      s.expectation.leeway ≤ issuance.sessionLeeway) (o : Outside) :
    ∀ issuance, (s.facing o).issuance = some issuance →
      (s.facing o).expectation.leeway ≤ issuance.sessionLeeway := by
  intro issuance hs
  obtain ⟨own, hown, rfl⟩ := Option.map_eq_some_iff.mp hs
  exact h own hown

theorem facing_limit (h : ∀ verification, s.verification = some verification → verification.limit = limit)
    (o : Outside) :
    ∀ verification, (s.facing o).verification = some verification → verification.limit = limit := by
  intro verification hs
  obtain ⟨own, hown, rfl⟩ := Option.map_eq_some_iff.mp hs
  exact h own hown

/-- **A run is answered like the run without its sweeps.** -/
theorem responses_unswept (htogether : ExpireTogether carried)
    (hleeway : ∀ issuance, s.issuance = some issuance →
      s.expectation.leeway ≤ issuance.sessionLeeway)
    (hlimit : ∀ verification, s.verification = some verification → verification.limit = limit)
    {events : List Event} (hcarried : ∀ claims ∈ events.filterMap Event.claims?, carried claims)
    (h : Swept s limit carried w v)
    (hclock : (w.now :: events.filterMap Event.clock?).Pairwise (· ≤ ·))
    (hbelow : ∀ now ∈ events.filterMap Event.clock?, now.toInt < Instant.maxSeconds) :
    responses s limit events v = responses s limit (unswept events) w := by
  -- Along the run `w` is the world without sweeps; a sweep moves `v` alone, every other event moves both.
  induction events generalizing w v with
  | nil => rfl
  | cons e events ih =>
    cases e with
    | request r o =>
      have hagree := (h.facing o).respond htogether (facing_leeway hleeway o) (facing_limit hlimit o) (r := r)
        fun claims hclaims => hcarried claims (List.mem_filterMap.mpr ⟨_, List.mem_cons_self, hclaims⟩)
      have hrest := ih (fun claims hclaims => hcarried claims ?_) hagree.swept.of_facing
        (by rwa [hagree.now]) hbelow
      · exact List.cons_eq_cons.mpr ⟨hagree.value, hrest⟩
      · rw [List.filterMap_cons]
        split
        · exact hclaims
        · exact List.mem_cons_of_mem _ hclaims
    | change c =>
      by_cases hc : c = .sweep
      · subst hc
        exact ih hcarried h.sweep hclock hbelow
      · have hkept : unswept (.change c :: events) = .change c :: unswept events := by
          cases c with
          | sweep => exact absurd rfl hc
          | clock | timer | certificates | faults => rfl
        have hnext : w.now ≤ (w.change limit c).now ∧
            ((w.change limit c).now :: events.filterMap Event.clock?).Pairwise (· ≤ ·) ∧
            (w.change limit c).now.toInt < Instant.maxSeconds := by
          cases c with
          | sweep => exact absurd rfl hc
          | clock now =>
            obtain ⟨hle, hrest⟩ := List.pairwise_cons.mp hclock
            exact ⟨hle now List.mem_cons_self, hrest, hbelow now List.mem_cons_self⟩
          | timer | certificates | faults => exact ⟨Int64.le_refl _, hclock, h.below⟩
        rw [hkept]
        refine ih hcarried (h.change hc hnext.1 hnext.2.2) hnext.2.1 fun now hnow => hbelow now ?_
        rw [List.filterMap_cons]
        split
        · exact hnow
        · exact List.mem_cons_of_mem _ hnow

/-- **Sweeps change no response**: two runs that differ only in when and how often the sweeper passes are
answered the same. The outside says the same to each request in both, and may say another thing to the next one. This
holds if the clock does not go back and stays below its greatest value, sessions are remembered for at least the
leeway of their tokens, and tokens of one session expire together, those included to which the ledger owes the
records that it starts with. It may start with none (`owned_of_empty`). -/
theorem responses_eq_of_unswept_eq
    (hleeway : ∀ issuance, s.issuance = some issuance →
      s.expectation.leeway ≤ issuance.sessionLeeway)
    (hlimit : ∀ verification, s.verification = some verification → verification.limit = limit)
    {events others : List Event}
    (howned : Owned s (· ∈ events.filterMap Event.claims?) w)
    (hclock : (w.now :: events.filterMap Event.clock?).Pairwise (· ≤ ·))
    (hbelow : ∀ now ∈ w.now :: events.filterMap Event.clock?, now.toInt < Instant.maxSeconds)
    (htogether : ExpireTogether (· ∈ events.filterMap Event.claims?))
    (hsame : unswept events = unswept others) :
    responses s limit events w = responses s limit others w := by
  have hstart : Swept s limit (· ∈ events.filterMap Event.claims?) w w := by
    refine ⟨.refl w, hbelow _ List.mem_cons_self, fun _ _ _ => rfl, List.Subset.refl _, ?_, howned⟩
    exact fun row hrow hgone => absurd hrow hgone
  have hsweep : ∀ e : Event, e.isSweep = true → e.clock? = none ∧ e.claims? = none := by
    rintro (⟨r, o⟩ | c) he
    · cases he
    · cases c with
      | sweep => exact ⟨rfl, rfl⟩
      | clock | timer | certificates | faults => cases he
  have hclocks : others.filterMap Event.clock? = events.filterMap Event.clock? := by
    rw [← filterMap_unswept (fun e he => (hsweep e he).1), ← hsame,
      filterMap_unswept fun e he => (hsweep e he).1]
  have hclaims : others.filterMap Event.claims? = events.filterMap Event.claims? := by
    rw [← filterMap_unswept (fun e he => (hsweep e he).2), ← hsame,
      filterMap_unswept fun e he => (hsweep e he).2]
  have hbelow' := fun now hnow => hbelow now (List.mem_cons_of_mem _ hnow)
  calc responses s limit events w
      = responses s limit (unswept events) w :=
        responses_unswept htogether hleeway hlimit (fun _ h => h) hstart hclock hbelow'
    _ = responses s limit (unswept others) w := by rw [hsame]
    _ = responses s limit others w :=
        (responses_unswept htogether hleeway hlimit (hclaims ▸ fun _ h => h) hstart
          (hclocks ▸ hclock) (hclocks ▸ hbelow')).symm

namespace Sample

/-- One verification in ten seconds. -/
def tight : VerificationLimit := { max := 1, window := 10 }

/-- Issues tokens, and verifies every pseudonym it is asked about. -/
def full : Service := { service with verification := some ⟨tight, fun _ => .ok true⟩ }

/-- A request to verify a pseudonym. -/
def verification (pseudonym : String) : Request :=
  { method := "POST", target := "/v1/verifications", headers := [("content-type", "application/json")],
    body := "\x7b\"pseudonym\":\"" ++ pseudonym ++ "\"\x7d" }

/-- An outside that cannot tell who anybody is, and signs nothing. -/
def doubting : Outside :=
  ⟨fun _ => .error (.failed "offline"), fun _ => .error "offline"⟩

/-- A run in which the sweeper passes after every move of the clock: both kinds of request are made, then made
again at the last second at which they are refused, and once more a second later. -/
def patrolled : List Event :=
  [.request (request "AQ==") outside, .request (verification "p") outside, .change (.clock 10), .change .sweep,
    .request (verification "p") outside, .change (.clock 11), .change .sweep,
    .request (verification "p") doubting, .change (.clock 69), .change .sweep,
    .request (request "AQ==") doubting, .change (.clock 70), .change .sweep, .request (request "AQ==") doubting]

/-- What the one session token of the run says. -/
def claims : SessionClaims := { iss := "i", aud := "a", sub := "", exp := 9, iat := 0, jti := "j" }

set_option maxRecDepth 100000 in
theorem patrolled_run :
    patrolled.filterMap Event.claims? = List.replicate 3 claims ∧
      (responses full tight patrolled world).map (·.map Response.status) =
        [some 200, some 200, some 429, some 500, some 409, some 401] := by
  decide +kernel

end Sample

/-- The run is answered as it is without any sweep. -/
theorem responses_eq_of_unswept_eq_patrolled :
    (∀ issuance, Sample.full.issuance = some issuance →
        Sample.full.expectation.leeway ≤ issuance.sessionLeeway) ∧
      (∀ verification, Sample.full.verification = some verification →
        verification.limit = Sample.tight) ∧
      Owned Sample.full (· ∈ Sample.patrolled.filterMap Event.claims?) Sample.world ∧
      (Sample.world.now :: Sample.patrolled.filterMap Event.clock?).Pairwise (· ≤ ·) ∧
      (∀ now ∈ Sample.world.now :: Sample.patrolled.filterMap Event.clock?,
        now.toInt < Instant.maxSeconds) ∧
      ExpireTogether (· ∈ Sample.patrolled.filterMap Event.claims?) ∧
      unswept Sample.patrolled = unswept (unswept Sample.patrolled) ∧
      (responses Sample.full Sample.tight Sample.patrolled Sample.world).map (·.map Response.status) =
        [some 200, some 200, some 429, some 500, some 409, some 401] ∧
      responses Sample.full Sample.tight Sample.patrolled Sample.world =
        responses Sample.full Sample.tight (unswept Sample.patrolled) Sample.world := by
  have hleeway : ∀ issuance, Sample.full.issuance = some issuance →
      Sample.full.expectation.leeway ≤ issuance.sessionLeeway := by
    rintro _ ⟨⟩
    decide
  have hlimit : ∀ verification, Sample.full.verification = some verification →
      verification.limit = Sample.tight := by
    rintro _ ⟨⟩
    rfl
  have htimes : Sample.patrolled.filterMap Event.clock? = [10, 11, 69, 70] := rfl
  have hclock : (Sample.world.now :: Sample.patrolled.filterMap Event.clock?).Pairwise (· ≤ ·) := by
    rw [htimes]
    decide
  have hbelow : ∀ now ∈ Sample.world.now :: Sample.patrolled.filterMap Event.clock?,
      now.toInt < Instant.maxSeconds := by
    simp only [htimes, List.forall_mem_cons, List.not_mem_nil, false_imp_iff, implies_true, and_true]
    decide
  have htogether : ExpireTogether (· ∈ Sample.patrolled.filterMap Event.claims?) := by
    intro a b ha hb _
    rw [Sample.patrolled_run.1] at ha hb
    rw [List.eq_of_mem_replicate ha, List.eq_of_mem_replicate hb]
  have hsame : unswept Sample.patrolled = unswept (unswept Sample.patrolled) := by
    simp [unswept]
  have howned : Owned Sample.full (· ∈ Sample.patrolled.filterMap Event.claims?) Sample.world :=
    owned_of_empty rfl
  exact ⟨hleeway, hlimit, howned, hclock, hbelow, htogether, hsame, Sample.patrolled_run.2,
    responses_eq_of_unswept_eq hleeway hlimit howned hclock hbelow htogether hsame⟩

end BlindMint.Http
