import BlindMint.Json.Document
import BlindMint.Json.Reader
import BlindMint.Time

/-!
# Claims of a session

What a session token says: who issued it, for whom, about whom, until when, since when, and the
identifier of the session. The text holds all six members in the order of declaration.
-/

namespace BlindMint

/-- The claims of a session token. -/
structure SessionClaims where
  /-- The issuer. -/
  iss : String
  /-- The audience. -/
  aud : String
  /-- The subject. -/
  sub : String
  /-- The instant after which the token is expired. -/
  exp : Instant
  /-- The instant of issue. -/
  iat : Instant
  /-- The identifier of the session. -/
  jti : String
  deriving DecidableEq, Repr

namespace SessionClaims

/-- The document of claims. -/
def document (c : SessionClaims) : Json.Document :=
  .object [("iss", .text c.iss), ("aud", .text c.aud), ("sub", .text c.sub),
    ("exp", .integer c.exp.toInt), ("iat", .integer c.iat.toInt), ("jti", .text c.jti)]

/-- The text of claims. -/
def render (c : SessionClaims) : String :=
  c.document.render

/-- Claims that are being read: the members met so far. -/
structure Draft where
  iss : Option String := none
  aud : Option String := none
  sub : Option String := none
  exp : Option Int := none
  iat : Option Int := none
  jti : Option String := none

/-- Read an instant. -/
def readInstant : Json.Reader Int :=
  Json.readInteger Instant.minSeconds Instant.maxSeconds

/-- The members of claims, as they are read. -/
def members : List (Json.Member Draft) := [
  .of "iss" false Json.readText (·.iss) fun d v => { d with iss := some v },
  .of "aud" false Json.readText (·.aud) fun d v => { d with aud := some v },
  .of "sub" false Json.readText (·.sub) fun d v => { d with sub := some v },
  .of "exp" false readInstant (·.exp) fun d v => { d with exp := some v },
  .of "iat" false readInstant (·.iat) fun d v => { d with iat := some v },
  .of "jti" false Json.readText (·.jti) fun d v => { d with jti := some v }]

/-- The claims of a draft that has every member. -/
def ofDraft (d : Draft) : Option SessionClaims := do
  some { iss := ← d.iss, aud := ← d.aud, sub := ← d.sub, exp := Int64.ofInt (← d.exp),
         iat := Int64.ofInt (← d.iat), jti := ← d.jti }

/-- Read claims. -/
def read : Json.Reader SessionClaims :=
  Json.readRecord ⟨members, {}, ofDraft⟩

/-- The claims that a text writes. -/
def parse (text : String) : Except Json.Fault SessionClaims :=
  Json.readWhole read (.ofString text)

end SessionClaims

end BlindMint
