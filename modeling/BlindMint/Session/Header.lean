import BlindMint.Session.EmbeddedKey
import BlindMint.Signature.Algorithm
import BlindMint.Json.Document

/-!
# Headers of session tokens

The header of a token names the algorithm of its signature and, if it can, the key. Further members with
a fixed form are allowed and not used; a list that stands for a header holds all ten values.
-/

namespace BlindMint.Session

/-- What a header says about the signature. -/
structure Header where
  algorithm : Algorithm
  /-- The identifier of the key. -/
  kid : Option String := none
  deriving DecidableEq, Repr

namespace Header

/-- The document of the header of a new token. -/
def document (h : Header) : Json.Document :=
  .object ([("typ", .text "JWT"), ("alg", .text h.algorithm.name)] ++ Json.textMember? "kid" h.kid)

/-- A header that is being read: the members met so far. -/
structure Draft where
  algorithm : Option Algorithm := none
  kid : Option (Option String) := none
  typ : Option (Option String) := none
  cty : Option (Option String) := none
  jku : Option (Option String) := none
  jwk : Option (Option Unit) := none
  x5u : Option (Option String) := none
  x5c : Option (Option (List String)) := none
  x5t : Option (Option String) := none
  x5tS256 : Option (Option String) := none

/-- Read an optional text. -/
def readText : Json.Reader (Option String) :=
  Json.readOptional Json.readText

/-- The members of a header, as they are read. -/
def members : List (Json.Member Draft) := [
  .of "typ" false readText (·.typ) fun d v => { d with typ := some v },
  .of "alg" false (Json.readChoice Algorithm.names) (·.algorithm)
    fun d v => { d with algorithm := some v },
  .of "cty" false readText (·.cty) fun d v => { d with cty := some v },
  .of "jku" false readText (·.jku) fun d v => { d with jku := some v },
  .of "jwk" false (Json.readOptional readEmbeddedKey) (·.jwk) fun d v => { d with jwk := some v },
  .of "kid" false readText (·.kid) fun d v => { d with kid := some v },
  .of "x5u" false readText (·.x5u) fun d v => { d with x5u := some v },
  .of "x5c" false (Json.readOptional (Json.readList Json.readText)) (·.x5c)
    fun d v => { d with x5c := some v },
  .of "x5t" false readText (·.x5t) fun d v => { d with x5t := some v },
  .of "x5t#S256" false readText (·.x5tS256) fun d v => { d with x5tS256 := some v }]

/-- The header of a draft that names an algorithm. -/
def ofDraft (d : Draft) : Option Header := do
  some ⟨← d.algorithm, d.kid.join⟩

/-- Read a header. -/
def read : Json.Reader Header :=
  Json.readRecord ⟨members, {}, ofDraft⟩

end Header

end BlindMint.Session
