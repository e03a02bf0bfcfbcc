import BlindMint.CredentialStore
import BlindMint.Session.Token

/-!
# Sessions

A session token is minted for a subject with the active credential and verified with the published keys.
Both take the credentials in use from the world; verifying reads the token's header first, so that a text
that is no token never touches the certificates.
-/

namespace BlindMint.Session

/-- For whom session tokens are issued, by whom, and for how long (`SessionTokenIssuer`). -/
structure Minting where
  issuer : String := "anontoken"
  audience : String := "anontoken-clients"
  ttl : Duration := 3600
  deriving DecidableEq, Repr

/-- A minted token (`IssuedSessionToken`). -/
structure Minted where
  token : String
  jti : String
  expiresAt : Instant
  deriving DecidableEq, Repr

/-- The claims of a token minted at an instant. -/
def Minting.claims (m : Minting) (subject jti : String) (now : Instant) : SessionClaims :=
  { iss := m.issuer, aud := m.audience, sub := subject, exp := now.later m.ttl.wrapped, iat := now, jti }

/-- Mint a token for a subject under the session identifier `jti`. -/
def mint (scheme : Scheme) (credentials : CredentialSettings) (minting : Minting) (subject jti : String)
    (w : World) : Except (Failure KeyError) Minted × World :=
  let claims := minting.claims subject jti w.now
  match CredentialStore.activeCredential credentials w with
  | (.error e, w) => (.error e, w)
  | (.ok credential, w) =>
    match sign scheme credential claims with
    | .error fault => (.error (.failed (.token fault)), w)
    | .ok token => (.ok ⟨token, jti, claims.exp⟩, w)

/-- Verify a token at the present instant (`verify`). -/
def verify (scheme : Scheme) (credentials : CredentialSettings) (expected : Expectation) (text : String)
    (w : World) : Except (Failure KeyError) SessionClaims × World :=
  match readHeader text with
  | .error fault => (.error (.failed (.token fault)), w)
  | .ok header =>
    match CredentialStore.validationKeys credentials w with
    | (.error e, w) => (.error e, w)
    | (.ok keys, w) =>
      match acceptedClaims scheme expected text header keys w.now with
      | .error e => (.error (.failed e), w)
      | .ok claims => (.ok claims, w)

end BlindMint.Session
