import BlindMint.Derivation
import BlindMint.KeySet
import BlindMint.Time

/-!
# Key pairs of intervals

Time is divided into intervals of one length, numbered from the epoch; an instant before the epoch is in
interval zero. Every interval has a key pair that is derived from the master secret and known by the
interval's number. Without rotation all of time is interval `staticInterval`.

The keys that checkers accept at an instant are those of the intervals that the instants one tolerance
earlier and later, and the instant itself, fall into.

Results:
* `validationIntervals_sorted`: the intervals to be published are in strictly increasing order.
* `mem_validationIntervals_current`: the current interval is one of them.
-/

namespace BlindMint

/-- How key pairs rotate (`AnonymousTokenKeyConfig`). -/
structure KeySettings where
  rotationEnabled : Bool := true
  /-- The length of an interval; an interval lasts one second at least. -/
  rotationInterval : Duration := 259200
  /-- The tolerance around an instant within which keys are accepted. -/
  rollover : Duration := 86400
  curve : Curve := .p256
  /-- How long a derived key pair is kept. -/
  cacheTtl : Duration := 86400
  /-- The certificate that holds the master secret. -/
  masterId : String := "master"
  deriving DecidableEq, Repr

/-- The key pair of an interval (`SigningKeypair`). -/
structure KeyPair where
  kid : String
  interval : UInt64
  curve : Curve
  scalar : Octets
  point : Point
  deriving DecidableEq, Repr

/-- The public half of a key pair. -/
structure ValidationKey where
  kid : String
  curve : Curve
  point : Point
  deriving DecidableEq, Repr

namespace KeyPair

/-- The key pair that a derived key makes for an interval. -/
def ofDerived (interval : UInt64) (curve : Curve) (key : DerivedKey) : KeyPair :=
  ⟨Decimal.ofNat interval.toNat, interval, curve, key.scalar, key.point⟩

/-- The public half (`validation_key`). -/
def validationKey (pair : KeyPair) : ValidationKey :=
  ⟨pair.kid, pair.curve, pair.point⟩

end KeyPair

/-- The published record of a key; coordinates are in the standard dialect of base64 (`to_jwk`). -/
def ValidationKey.toJwk (key : ValidationKey) : Jwk :=
  .ofPoint Base64.standard key.kid key.curve key.point

/-- The interval of all of time when there is no rotation (`STATIC_INTERVAL`). -/
def staticInterval : UInt64 := 1

/-- Insert a number into an increasing list, unless it is there. -/
def insertInterval (i : UInt64) : List UInt64 → List UInt64
  | [] => [i]
  | j :: js => if i < j then i :: j :: js else if i = j then j :: js else j :: insertInterval i js

namespace KeySettings

/-- The interval of an instant (`interval_at`). -/
def intervalAt (s : KeySettings) (t : Instant) : UInt64 :=
  if s.rotationEnabled then
    UInt64.ofNat (t.sinceEpoch / max s.rotationInterval.toNat 1)
  else staticInterval

/-- The intervals whose keys are accepted at an instant (`active_validation_keys`). -/
def validationIntervals (s : KeySettings) (now : Instant) : List UInt64 :=
  if s.rotationEnabled then
    let tolerance := s.rollover.capped
    [now.earlier tolerance, now, now.later tolerance].foldr
      (fun t intervals => insertInterval (s.intervalAt t) intervals) []
  else [staticInterval]

end KeySettings

theorem mem_insertInterval {i k : UInt64} {js : List UInt64} :
    k ∈ insertInterval i js ↔ k = i ∨ k ∈ js := by
  induction js with
  | nil => simp [insertInterval]
  | cons j js ih =>
    unfold insertInterval
    split
    · simp
    · split
      · next h => simp [h]
      · simp [ih, or_left_comm]

theorem insertInterval_sorted {i : UInt64} {js : List UInt64} (h : js.Pairwise (· < ·)) :
    (insertInterval i js).Pairwise (· < ·) := by
  induction js with
  | nil => simp [insertInterval]
  | cons j js ih =>
    unfold insertInterval
    rw [List.pairwise_cons] at h
    split
    · next hij =>
      rw [List.pairwise_cons, List.pairwise_cons]
      refine ⟨fun k hk => ?_, h⟩
      rcases List.mem_cons.1 hk with rfl | hk
      · exact hij
      · exact UInt64.lt_trans hij (h.1 k hk)
    · next hij =>
      split
      · exact List.pairwise_cons.2 h
      · next hne =>
        rw [List.pairwise_cons]
        refine ⟨fun k hk => ?_, ih h.2⟩
        rcases mem_insertInterval.1 hk with rfl | hk
        · exact UInt64.lt_of_le_of_ne (UInt64.not_lt.1 hij) fun e => hne e.symm
        · exact h.1 k hk

theorem validationIntervals_sorted (s : KeySettings) (now : Instant) :
    (s.validationIntervals now).Pairwise (· < ·) := by
  unfold KeySettings.validationIntervals
  split
  · simp only [List.foldr_cons, List.foldr_nil]
    exact insertInterval_sorted (insertInterval_sorted (insertInterval_sorted List.Pairwise.nil))
  · simp

theorem mem_validationIntervals_current (s : KeySettings) (now : Instant) :
    s.intervalAt now ∈ s.validationIntervals now := by
  unfold KeySettings.validationIntervals
  split
  · simp [mem_insertInterval]
  · next h => simp [KeySettings.intervalAt, h]

end BlindMint
