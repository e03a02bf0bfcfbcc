/-!
# Instants and durations

Business time is counted in whole seconds since the epoch, in a signed 64-bit word; durations are
unsigned 64-bit seconds. Sums and differences of instants saturate at the ends of the range.
A duration enters such a sum in one of two ways: `Duration.capped` stops at the greatest instant,
`Duration.wrapped` keeps the bit pattern, so that a duration of `2 ^ 63` or more becomes negative.

Results:
* `Instant.toInt_later`, `Instant.toInt_earlier`: a saturating sum or difference is the exact one,
  clamped to the range.
* `Duration.toInt_capped`: the capped duration is the smaller of the duration and the greatest instant.
* `Duration.toInt_wrapped`: the wrapped duration differs from the duration by a multiple of `2 ^ 64`.
-/

namespace BlindMint

/-- Seconds since the epoch. -/
abbrev Instant := Int64

/-- A span of time in seconds. -/
abbrev Duration := UInt64

namespace Instant

/-- The greatest instant, in seconds. -/
def maxSeconds : Int := 9223372036854775807

/-- The least instant, in seconds. -/
def minSeconds : Int := -9223372036854775808

/-- An exact number of seconds, clamped to the range of instants. -/
def ofSeconds (seconds : Int) : Instant :=
  Int64.ofInt (max minSeconds (min maxSeconds seconds))

/-- The instant `span` seconds after `t`, at most the greatest one and at least the least one. -/
def later (t span : Instant) : Instant :=
  ofSeconds (t.toInt + span.toInt)

/-- The instant `span` seconds before `t`, at most the greatest one and at least the least one. -/
def earlier (t span : Instant) : Instant :=
  ofSeconds (t.toInt - span.toInt)

theorem toInt_ofSeconds (seconds : Int) :
    (ofSeconds seconds).toInt = max minSeconds (min maxSeconds seconds) := by
  unfold ofSeconds
  apply Int64.toInt_ofInt_of_le
  · show minSeconds ≤ _
    omega
  · have h : max minSeconds (min maxSeconds seconds) ≤ maxSeconds := by
      unfold minSeconds maxSeconds
      omega
    unfold maxSeconds at h ⊢
    omega

theorem toInt_later (t span : Instant) :
    (later t span).toInt = max minSeconds (min maxSeconds (t.toInt + span.toInt)) :=
  toInt_ofSeconds _

theorem toInt_earlier (t span : Instant) :
    (earlier t span).toInt = max minSeconds (min maxSeconds (t.toInt - span.toInt)) :=
  toInt_ofSeconds _

/-- Whole seconds from the epoch to an instant, zero for an instant before the epoch. -/
def sinceEpoch (t : Instant) : Nat :=
  t.toInt.toNat

end Instant

namespace Duration

/-- The duration as a signed span, no longer than the greatest instant. -/
def capped (d : Duration) : Instant :=
  Instant.ofSeconds d.toNat

/-- The duration as a signed span of the same bit pattern. -/
def wrapped (d : Duration) : Instant :=
  d.toInt64

theorem toInt_capped (d : Duration) : (capped d).toInt = min Instant.maxSeconds d.toNat := by
  unfold capped
  rw [Instant.toInt_ofSeconds]
  unfold Instant.minSeconds Instant.maxSeconds
  omega

theorem toInt_wrapped (d : Duration) : (wrapped d).toInt = (d.toNat : Int).bmod UInt64.size := by
  unfold wrapped
  rw [← Int64.toInt_toBitVec, UInt64.toBitVec_toInt64, BitVec.toInt_eq_toNat_bmod]
  rfl

end Duration

end BlindMint
