import BlindMint.Verification.Limit

/-!
# Sweeping expired records

A pass deletes the issue records whose expiry is reached and the verification records that no window
holds any more, and counts what it deletes. A table that cannot be swept is left for the next pass and
does not keep the other one from being swept.

The periodic sweeper runs its first pass when it is first given time, and then one pass at every
multiple of its period from there. Passes that are overdue run as soon as there is time.
-/

namespace BlindMint

/-- What a pass deletes. -/
structure SweepReport where
  issueRecords : Nat := 0
  verificationRecords : Nat := 0
  deriving DecidableEq, Repr

namespace World

/-- Sweep the issue records. -/
def sweepIssues (w : World) : Nat × World :=
  match w.purgeIssues w.now with
  | (.error _, w) => (0, w)
  | (.ok deleted, w) => (deleted, w.count (.swept "issue_records") deleted)

/-- Sweep the verification records. -/
def sweepVerifications (w : World) (l : VerificationLimit) : Nat × World :=
  match w.purgeVerifications l with
  | (.error _, w) => (0, w)
  | (.ok deleted, w) => (deleted, w.count (.swept "verification_records") deleted)

/-- Run one pass over both tables (`run_once`). -/
def sweep (w : World) (l : VerificationLimit) : SweepReport × World :=
  let (issues, w) := w.sweepIssues
  let (verifications, w) := w.sweepVerifications l
  (⟨issues, verifications⟩, w)

/-- Run several passes. -/
def sweepTimes (l : VerificationLimit) : Nat → World → World
  | 0, w => w
  | n + 1, w => sweepTimes l n (w.sweep l).2

end World

/-! ## The periodic sweeper -/

/-- A periodic sweeper; times are in milliseconds on the timer (`spawn`). -/
structure Sweeper where
  /-- The time between two passes, at least one millisecond. -/
  period : Nat
  /-- When the next pass is due; none before the first one. -/
  due : Option Nat := none
  deriving DecidableEq, Repr

namespace Sweeper

/-- A sweeper with a period in seconds; there is none with a period of zero. -/
def every (seconds : Nat) : Option Sweeper :=
  if seconds = 0 then none else some ⟨seconds * 1000, none⟩

/-- How many passes run while the timer goes from one time to another, and the sweeper after them. -/
def passes (s : Sweeper) (start finish : Nat) : Nat × Sweeper :=
  let due := s.due.getD start
  if due ≤ finish then
    let n := (finish - due) / s.period + 1
    (n, { s with due := some (due + n * s.period) })
  else (0, s)

end Sweeper

/-- Let time pass on the timer, with the passes of a sweeper that fall into it. -/
def World.sleep (w : World) (l : VerificationLimit) (sweeper : Option Sweeper) (span : Nat) :
    Option Sweeper × World :=
  let finish := w.timer + span
  match sweeper with
  | none => (none, { w with timer := finish })
  | some s =>
    let (n, s) := s.passes w.timer finish
    (some s, { w.sweepTimes l n with timer := finish })

end BlindMint
