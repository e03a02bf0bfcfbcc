import BlindMint.Text.Blank

/-!
# Where records are kept

The two storage backends by name; a name is read without regard to ASCII case or to blanks around it.
-/

namespace BlindMint

/-- A storage backend (`StorageBackend`). -/
inductive Storage where
  | memory
  | postgres
  deriving DecidableEq, Repr

namespace Storage

/-- The name of a backend. -/
def name : Storage → String
  | .memory => "memory"
  | .postgres => "postgres"

/-- The backends by name. -/
def names : List (String × Storage) :=
  [("memory", .memory), ("postgres", .postgres)]

/-- A name as it is compared: without blanks around it and in lower case. -/
def normalName (text : String) : String :=
  Text.lowerAscii (Text.trim text)

/-- The backend with a name, or why there is none (`from_str`). -/
def ofName (text : String) : Except String Storage :=
  match names.lookup (normalName text) with
  | some storage => .ok storage
  | none => .error ("unknown storage backend " ++ normalName text)

end Storage

end BlindMint
