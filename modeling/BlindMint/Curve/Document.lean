import BlindMint.Curve
import BlindMint.Json.Document
import BlindMint.Json.Reader

/-!
# Curves in documents

In a document a curve is written as its name, and only the exact name is read.
-/

namespace BlindMint.Curve

/-- The curves by name. -/
def names : List (String × Curve) :=
  [p256, p384].map fun curve => (curve.name, curve)

/-- The document of a curve. -/
def document (curve : Curve) : Json.Document :=
  .text curve.name

/-- Read a curve. -/
def read : Json.Reader Curve :=
  Json.readChoice names

/-- The curve that a text writes. -/
def parse (text : String) : Except Json.Fault Curve :=
  Json.readWhole read (.ofString text)

end BlindMint.Curve
