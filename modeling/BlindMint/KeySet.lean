import BlindMint.Base64
import BlindMint.Curve.Point
import BlindMint.Json.Document
import BlindMint.Json.Reader

/-!
# Published key sets

A key set is the document in which public keys are published, one record for each key: an elliptic-curve
record has a curve name and two coordinates, an RSA record a modulus and an exponent. A record is
written with its members in the order of declaration, the absent ones left out; `KeySet.parse` reads
what `KeySet.render` writes.
-/

namespace BlindMint

/-- What a published key is for. -/
inductive KeyUse where
  /-- Checking signatures. -/
  | signature
  deriving DecidableEq, Repr

/-- The name of a use. -/
def KeyUse.name : KeyUse → String
  | .signature => "sig"

/-- A published public key. -/
structure Jwk where
  kid : String
  kty : String
  alg : Option String := none
  use : Option KeyUse := none
  crv : Option String := none
  x : Option String := none
  y : Option String := none
  n : Option String := none
  e : Option String := none
  deriving DecidableEq, Repr

/-- A set of published keys (`Jwks`). -/
structure KeySet where
  keys : List Jwk := []
  deriving DecidableEq, Repr

namespace Jwk

/-- The record of a point on a curve, its coordinates in a dialect of base64 (`ec`). -/
def ofPoint (dialect : Base64.Dialect) (kid : String) (curve : Curve) (point : Point) : Jwk :=
  { kid, kty := "EC", crv := some curve.name,
    x := some (dialect.toText point.x), y := some (dialect.toText point.y) }

/-- The record of an RSA key (`rsa`). -/
def ofRsa (dialect : Base64.Dialect) (kid : String) (n e : Octets) : Jwk :=
  { kid, kty := "RSA", n := some (dialect.toText n), e := some (dialect.toText e) }

/-- The record as one for checking signatures with an algorithm (`for_signatures`). -/
def forSignatures (key : Jwk) (algorithm : String) : Jwk :=
  { key with alg := some algorithm, use := some .signature }

/-- The document of a record. -/
def document (key : Jwk) : Json.Document :=
  .object ([("kid", .text key.kid), ("kty", .text key.kty)] ++
    Json.textMember? "alg" key.alg ++ Json.textMember? "use" (key.use.map KeyUse.name) ++
    Json.textMember? "crv" key.crv ++ Json.textMember? "x" key.x ++ Json.textMember? "y" key.y ++
    Json.textMember? "n" key.n ++ Json.textMember? "e" key.e)

/-- A record that is being read: the members met so far. -/
structure Draft where
  kid : Option String := none
  kty : Option String := none
  alg : Option (Option String) := none
  use : Option (Option KeyUse) := none
  crv : Option (Option String) := none
  x : Option (Option String) := none
  y : Option (Option String) := none
  n : Option (Option String) := none
  e : Option (Option String) := none

/-- Read an optional text. -/
def readOptionalText : Json.Reader (Option String) :=
  Json.readOptional Json.readText

/-- The members of a record, as they are read. -/
def members : List (Json.Member Draft) := [
  .of "kid" false Json.readText (·.kid) fun d v => { d with kid := some v },
  .of "kty" false Json.readText (·.kty) fun d v => { d with kty := some v },
  .of "alg" true readOptionalText (·.alg) fun d v => { d with alg := some v },
  .of "use" true (Json.readOptional (Json.readChoice [("sig", KeyUse.signature)])) (·.use)
    fun d v => { d with use := some v },
  .of "crv" true readOptionalText (·.crv) fun d v => { d with crv := some v },
  .of "x" true readOptionalText (·.x) fun d v => { d with x := some v },
  .of "y" true readOptionalText (·.y) fun d v => { d with y := some v },
  .of "n" true readOptionalText (·.n) fun d v => { d with n := some v },
  .of "e" true readOptionalText (·.e) fun d v => { d with e := some v }]

/-- The record of a draft that has the members it needs. -/
def ofDraft (d : Draft) : Option Jwk := do
  some { kid := ← d.kid, kty := ← d.kty, alg := d.alg.join, use := d.use.join, crv := d.crv.join,
         x := d.x.join, y := d.y.join, n := d.n.join, e := d.e.join }

/-- Read a record. -/
def read : Json.Reader Jwk :=
  Json.readRecord ⟨members, {}, ofDraft⟩

end Jwk

namespace KeySet

/-- The document of a key set. -/
def document (set : KeySet) : Json.Document :=
  .object [("keys", .list (set.keys.map Jwk.document))]

/-- The text of a key set. -/
def render (set : KeySet) : String :=
  set.document.render

/-- Read a key set. -/
def read : Json.Reader KeySet :=
  Json.readRecord
    ⟨[.of "keys" false (Json.readList Jwk.read) id fun _ keys => some keys], none,
      fun keys => keys.map fun keys => ⟨keys⟩⟩

/-- The key set that a text writes. -/
def parse (text : String) : Except Json.Fault KeySet :=
  Json.readWhole read (.ofString text)

end KeySet

end BlindMint
