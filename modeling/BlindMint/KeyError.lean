import BlindMint.Curve
import BlindMint.TokenFault

/-!
# Failures of key material

What can go wrong between a certificate and a key in use. A failure has a kind and, for most kinds, a
detail in words; `KeyError.message` is the wording that callers see. The common causes have a
constructor function each, so that their wording stands in one place.
-/

namespace BlindMint

/-- A failure of key material. -/
inductive KeyError where
  /-- No enabled version of the certificate exists. -/
  | certificateNotFound (id : String)
  /-- The key cannot serve the purpose at hand. -/
  | unsupportedKeyFormat (detail : String)
  /-- Every candidate of a derivation was out of range. -/
  | keyGenerationExhausted (interval : UInt64) (attempts : Nat)
  /-- Bytes do not form a key. -/
  | invalidKeyMaterial (detail : String)
  /-- The certificate store cannot be read. -/
  | certificateStore (detail : String)
  /-- A signed token is faulty. -/
  | token (fault : TokenFault)
  /-- A session token is refused for a reason of the service. -/
  | tokenRejected (detail : String)
  deriving DecidableEq, Repr

namespace KeyError

/-- The wording of a failure. -/
def message : KeyError → String
  | .certificateNotFound id => "certificate not found: " ++ id
  | .unsupportedKeyFormat detail => "unsupported key format: " ++ detail
  | .keyGenerationExhausted interval attempts =>
    "no private scalar in range after " ++ toString attempts ++ " attempts for interval " ++
      toString interval.toNat
  | .invalidKeyMaterial detail => "invalid key material: " ++ detail
  | .certificateStore detail => "certificate store error: " ++ detail
  | .token fault => "jwt error: " ++ fault.message
  | .tokenRejected detail => "session token rejected: " ++ detail

/-- The name is not that of a curve. -/
def unknownCurve (text : String) : KeyError :=
  .unsupportedKeyFormat ("curve " ++ Curve.normalName text)

/-- The bytes are not a private scalar of the curve. -/
def scalarOutOfRange (curve : Curve) : KeyError :=
  .invalidKeyMaterial ("scalar out of range for " ++ curve.name)

/-- One derivation does not yield that many bytes. -/
def derivationTooLong (size : Nat) : KeyError :=
  .invalidKeyMaterial ("HKDF output length " ++ toString size ++ " is too long")

/-- The RSA key does not carry two prime factors. -/
def missingPrimes : KeyError :=
  .invalidKeyMaterial "RSA key is missing prime factors"

/-- The certificate carries no private key of its kind. -/
def noPrivateKey (id kind : String) : KeyError :=
  .unsupportedKeyFormat ("certificate " ++ id ++ " has no " ++ kind ++ " private key")

/-- The certificate's key is of a kind that cannot serve as master key. -/
def unsuitableMaster (id algorithm : String) : KeyError :=
  .unsupportedKeyFormat ("certificate " ++ id ++ " uses " ++ algorithm)

/-- No enabled version of the certificate can sign. -/
def noSigningVersion (id : String) : KeyError :=
  .unsupportedKeyFormat ("certificate " ++ id ++ " has no enabled version with a private key")

/-- One version of the certificate cannot sign. -/
def noPrivateKeyInVersion (id version : String) : KeyError :=
  .unsupportedKeyFormat ("certificate " ++ id ++ " version " ++ version ++ " has no private key")

end KeyError

/-- Read the name of a curve. -/
def Curve.ofName (text : String) : Except KeyError Curve :=
  match Curve.ofName? text with
  | some curve => .ok curve
  | none => .error (.unknownCurve text)

end BlindMint
