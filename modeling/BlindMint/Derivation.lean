import BlindMint.Curve.Point
import BlindMint.Hash.Hkdf
import BlindMint.KeyError

/-!
# Deriving a key pair from a master secret

The key pair of an interval is found by rejection: the attempts are numbered from zero, each attempt
expands the secret under a salt made of the interval and of the attempt's number, and the first
candidate that is a private scalar of the curve is taken. The step that expands is a parameter; the
standard one is `Expander.hkdf`. An expander may leave bytes of the buffer as they are, and it is told
how many calls came before, so that a scripted one can be modelled. After `maxAttempts` candidates out
of range the derivation gives up.

Results:
* `derive_ok_isScalar`: a derived scalar is a private scalar and the point is its public point.
-/

namespace BlindMint

/-- Secret bytes that key pairs are derived from. -/
structure MasterSecret where
  bytes : Octets
  deriving DecidableEq, Inhabited

/-- The step that expands a secret and a salt into a buffer: it gets the number of calls made before, the
secret, the salt and the buffer as it is, and yields the buffer as it will be (`KeyMaterialExpander`). -/
structure Expander where
  expand : (calls : Nat) → (ikm salt buffer : Octets) → Except KeyError Octets

/-- As many bytes as asked for, expanded from a secret and a salt. -/
def Expander.bytes (ikm salt : Octets) (size : Nat) : Except KeyError Octets :=
  match Hkdf.derive? ikm salt size with
  | some bytes => .ok bytes
  | none => .error (.derivationTooLong size)

/-- The standard expander fills the whole buffer (`HkdfSha256Expander`). -/
def Expander.hkdf : Expander where
  expand _ ikm salt buffer := Expander.bytes ikm salt buffer.length

/-- One call of an expander. -/
structure Expansion where
  ikm : Octets
  salt : Octets
  deriving DecidableEq, Repr

/-- A derived private scalar and its public point. -/
structure DerivedKey where
  scalar : Octets
  point : Point
  deriving DecidableEq, Repr

namespace Derivation

/-- The number of candidates after which a derivation gives up (`MAX_DERIVATION_ATTEMPTS`). -/
def maxAttempts : Nat := 1000

/-- The salt of an attempt: eight bytes of interval and four bytes of attempt number (`derivation_salt`). -/
def salt (interval : UInt64) (counter : Nat) : Octets :=
  Octets.ofNat 8 interval.toNat ++ Octets.ofNat 4 counter

/-- Make attempts from number `counter` on, at most `remaining` of them. The second component lists the
expander's calls in order. -/
def attempt (expander : Expander) (calls : Nat) (secret : MasterSecret) (interval : UInt64)
    (curve : Curve) : (remaining counter : Nat) → (buffer : Octets) →
    Except KeyError DerivedKey × List Expansion
  | 0, counter, _ => (.error (.keyGenerationExhausted interval counter), [])
  | remaining + 1, counter, buffer =>
    let expansion : Expansion := ⟨secret.bytes, salt interval counter⟩
    match expander.expand (calls + counter) expansion.ikm expansion.salt buffer with
    | .error e => (.error e, [expansion])
    | .ok candidate =>
      match curve.publicPoint? candidate with
      | some point => (.ok ⟨candidate, point⟩, [expansion])
      | none =>
        let (result, more) :=
          attempt expander calls secret interval curve remaining (counter + 1) candidate
        (result, expansion :: more)

end Derivation

/-- The key pair of an interval, derived from a secret, and the expander's calls in order; `calls` is the
number of calls that the expander has answered before. -/
def derive (expander : Expander) (calls : Nat) (secret : MasterSecret) (interval : UInt64)
    (curve : Curve) : Except KeyError DerivedKey × List Expansion :=
  Derivation.attempt expander calls secret interval curve Derivation.maxAttempts 0
    (List.replicate curve.keySize 0)

theorem Derivation.attempt_ok {expander : Expander} {calls : Nat} {secret : MasterSecret}
    {interval : UInt64} {curve : Curve} {remaining counter : Nat} {buffer : Octets} {key : DerivedKey}
    {log : List Expansion}
    (h : attempt expander calls secret interval curve remaining counter buffer = (.ok key, log)) :
    curve.publicPoint? key.scalar = some key.point := by
  induction remaining generalizing counter buffer log with
  | zero => simp [attempt] at h
  | succ remaining ih =>
    rw [attempt] at h
    split at h
    · simp at h
    · split at h
      · simp only [Prod.mk.injEq, Except.ok.injEq] at h
        obtain ⟨rfl, -⟩ := h
        assumption
      · simp only [Prod.mk.injEq] at h
        exact ih (Prod.ext h.1 rfl)

theorem derive_ok_isScalar {expander : Expander} {calls : Nat} {secret : MasterSecret}
    {interval : UInt64} {curve : Curve} {key : DerivedKey} {log : List Expansion}
    (h : derive expander calls secret interval curve = (.ok key, log)) :
    curve.publicPoint? key.scalar = some key.point :=
  Derivation.attempt_ok h

end BlindMint
