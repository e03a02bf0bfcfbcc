/-!
# Faults of a configuration

Why a configuration is refused. A fault is reported as a chain of messages, the outermost first: where it
was met, and what is wrong there.
-/

namespace BlindMint

/-- A fault of a configuration. -/
inductive ConfigFault where
  /-- The text of a variable or of a member of the overlay cannot be read. -/
  | unreadable (name reason : String)
  /-- The file of the overlay cannot be opened. -/
  | noOverlay (path reason : String)
  /-- The overlay is not a document of the expected shape. -/
  | malformedOverlay
  /-- The settings as a whole are not acceptable. -/
  | unacceptable (condition : String)
  deriving DecidableEq, Repr

/-- The messages of a fault, the outermost first. -/
def ConfigFault.messages : ConfigFault → List String
  | .unreadable name reason => ["parse " ++ name, reason]
  | .noOverlay path reason => ["read ANONTOKEN_CONFIG: " ++ path, reason]
  | .malformedOverlay => ["parse service config yaml"]
  | .unacceptable condition => [condition]

end BlindMint
