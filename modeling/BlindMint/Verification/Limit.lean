import BlindMint.World

/-!
# The limit on verifications

Within a trailing window each pseudonym has a limited number of verifications. The limit is reached when
the records in the window, together with the attempt at hand, are more than the limit allows. A record at
the very start of the window still counts.

Results:
* `VerificationLimit.isReached_iff`: the limit is reached iff too many of the times lie in the window.
-/

namespace BlindMint

/-- How many verifications a pseudonym has within how long a window. -/
structure VerificationLimit where
  max : UInt32 := 3
  window : Duration := 86400
  deriving DecidableEq, Repr

namespace VerificationLimit

/-- The start of the window at an instant. -/
def cutoff (l : VerificationLimit) (now : Instant) : Instant :=
  now.earlier l.window.capped

/-- Whether more of some times lie in the window than the limit allows (`has_reached_limit`). -/
def isReached (l : VerificationLimit) (now : Instant) (times : List Instant) : Bool :=
  l.max.toNat < (times.filter fun t => l.cutoff now ≤ t).length

theorem isReached_iff (l : VerificationLimit) (now : Instant) (times : List Instant) :
    l.isReached now times = true ↔ l.max.toNat < times.countP fun t => l.cutoff now ≤ t := by
  simp [isReached, List.countP_eq_length_filter]

end VerificationLimit

namespace World

/-- Whether one more verification of a pseudonym would exceed the limit (`check`). -/
def reachesLimit (w : World) (l : VerificationLimit) (pseudonym : String) : Except StoreError Bool :=
  match w.findVerifications pseudonym (l.cutoff w.now) with
  | .error e => .error e
  | .ok records => .ok (l.isReached w.now (records.map (·.verifiedAt) ++ [w.now]))

/-- Record an attempt at the present instant (`record`). -/
def recordAttempt (w : World) (pseudonym : String) : Except StoreError Unit × World :=
  w.saveVerification ⟨pseudonym, w.now⟩

/-- Delete the records that no window at the present instant or later holds, and count them (`purge_expired`). -/
def purgeVerifications (w : World) (l : VerificationLimit) : Except StoreError Nat × World :=
  w.purgeVerificationsBefore (l.cutoff w.now)

end World

end BlindMint
