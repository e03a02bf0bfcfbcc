/-!
# Faults of signed tokens

Why a signed token cannot be read or made. Each fault has its own wording, `TokenFault.message`.
-/

namespace BlindMint

/-- A fault of a signed token or of a key that signs or verifies one. -/
inductive TokenFault where
  /-- The text does not have three parts. -/
  | malformedToken
  /-- A part is not base64url text. -/
  | encoding
  /-- A part is not the JSON document it should be. -/
  | document
  /-- The signature does not verify. -/
  | wrongSignature
  /-- The token names another algorithm than the key. -/
  | wrongAlgorithm
  /-- A claim that must be present is absent or has the wrong type. -/
  | missingClaim (name : String)
  /-- The issuer is not the expected one. -/
  | wrongIssuer
  /-- The audience is not the expected one. -/
  | wrongAudience
  /-- The RSA key is not fit for signing. -/
  | unfitRsaKey
  /-- The signature could not be computed. -/
  | signing
  deriving DecidableEq, Repr

/-- The wording of a fault. -/
def TokenFault.message : TokenFault → String
  | .malformedToken => "InvalidToken"
  | .encoding => "Base64 error"
  | .document => "JSON error"
  | .wrongSignature => "InvalidSignature"
  | .wrongAlgorithm => "InvalidAlgorithm"
  | .missingClaim name => "Missing required claim: " ++ name
  | .wrongIssuer => "InvalidIssuer"
  | .wrongAudience => "InvalidAudience"
  | .unfitRsaKey => "InvalidRsaKey"
  | .signing => "Crypto error"

end BlindMint
