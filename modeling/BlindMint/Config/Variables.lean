import BlindMint.Config.Fault
import BlindMint.Config.Settings
import BlindMint.KeyError
import BlindMint.Text.Blank

/-!
# Settings from variables

Each setting can be given by a variable; one that is not set leaves the default. Variables are read in a
fixed order, and the first that cannot be read is the fault. The three that tune the record store's
connections are read only if its address is given.
-/

namespace BlindMint

/-- The variables that are set, by name. -/
abbrev Variables := String → Option String

/-- A reader of the text of a variable: its value, or what is wrong. -/
abbrev TextReader (α : Type) := String → Except String α

namespace TextReader

/-- Read an address. -/
def address : TextReader SocketAddress := fun text =>
  match SocketAddress.parse text with
  | some address => .ok address
  | none => .error SocketAddress.malformed

/-- Read a whole number that is at most `limit`. -/
def natural (limit : Nat) : TextReader Nat := fun text =>
  match Decimal.read limit text with
  | .ok n => .ok n
  | .error fault => .error fault.message

/-- Read a number of 32 bits. -/
def uint32 : TextReader UInt32 := fun text =>
  (natural (UInt32.size - 1) text).map UInt32.ofNat

/-- Read a number of 64 bits. -/
def uint64 : TextReader UInt64 := fun text =>
  (natural (UInt64.size - 1) text).map UInt64.ofNat

/-- Read a truth value. -/
def bool : TextReader Bool := fun text =>
  if text = "true" then .ok true
  else if text = "false" then .ok false
  else .error "provided string was not \x60true\x60 or \x60false\x60"

/-- Read the name of a curve. -/
def curve : TextReader Curve := fun text =>
  match Curve.ofName text with
  | .ok curve => .ok curve
  | .error e => .error e.message

/-- Read text as it is. -/
def text : TextReader String := .ok

/-- Read identifiers between commas: blanks around them do not count, and empty ones are left out
(`parse_id_list`). -/
def identifiers : TextReader (List String) := fun text =>
  .ok (((text.splitOn ",").map Text.trim).filter (· ≠ ""))

end TextReader

namespace Variables

/-- The value of a variable, or the default if it is not set (`env_parse`). -/
def get {α : Type} (v : Variables) (name : String) (reader : TextReader α) (fallback : α) :
    Except ConfigFault α :=
  match v ("ANONTOKEN_" ++ name) with
  | none => .ok fallback
  | some text =>
    match reader text with
    | .ok value => .ok value
    | .error reason => .error (.unreadable ("ANONTOKEN_" ++ name) reason)

/-- How the record store is reached, if its address is given. -/
def postgres (v : Variables) : Except ConfigFault (Option PostgresSettings) :=
  match v "ANONTOKEN_POSTGRES_URL" with
  | none => .ok none
  | some url => do
    let maxConnections ← v.get "POSTGRES_MAX_CONNECTIONS" .uint32 10
    let connectTimeoutMs ← v.get "POSTGRES_CONNECT_TIMEOUT_MS" .uint64 5000
    let acquireTimeoutMs ← v.get "POSTGRES_ACQUIRE_TIMEOUT_MS" .uint64 5000
    return some { url, maxConnections, connectTimeoutMs, acquireTimeoutMs }

/-- How key pairs rotate. -/
def keys (v : Variables) : Except ConfigFault KeySettings := do
  let d : KeySettings := {}
  let rotationEnabled ← v.get "ROTATION_ENABLED" .bool d.rotationEnabled
  let rotationInterval ← v.get "ROTATION_INTERVAL_SECS" .uint64 d.rotationInterval
  let rollover ← v.get "ROTATION_ROLLOVER_SECS" .uint64 d.rollover
  let curve ← v.get "CURVE" .curve d.curve
  let masterId ← v.get "MASTER_KEY_CERTIFICATE_ID" .text d.masterId
  let cacheTtl ← v.get "KEY_CACHE_TTL_SECS" .uint64 d.cacheTtl
  return { rotationEnabled, rotationInterval, rollover, curve, masterId, cacheTtl }

end Variables

namespace Settings

/-- The settings that variables give; they need not be acceptable (`load_env`). -/
def ofVariables (v : Variables) : Except ConfigFault Settings := do
  let d : Settings := {}
  let bindAddress ← v.get "BIND" .address d.bindAddress
  let metricsAddress ← v.get "METRICS_BIND" .address d.metricsAddress
  let storage ← v.get "STORAGE" Storage.ofName d.storage
  let postgres ← v.postgres
  let certificateDirectory ← v.get "CERTIFICATE_DIR" .text d.certificateDirectory
  let keys ← v.keys
  let certificateId ← v.get "SIGNING_CERTIFICATE_ID" .text d.credentials.certificateId
  let additionalIds ←
    v.get "ADDITIONAL_VALIDATION_CERTIFICATE_IDS" .identifiers d.credentials.additionalIds
  let keyRollover ← v.get "KEY_ROLLOVER_SECS" .uint64 d.credentials.keyRollover
  let issuer ← v.get "ISSUER" .text d.issuer
  let audience ← v.get "AUDIENCE" .text d.audience
  let credentialTtl ← v.get "CREDENTIAL_CACHE_TTL_SECS" .uint64 d.credentials.cacheTtl
  let max ← v.get "MAX_VERIFICATIONS" .uint32 d.limit.max
  let window ← v.get "MAX_LIMIT_DURATION_SECS" .uint64 d.limit.window
  let sweepInterval ← v.get "SWEEP_INTERVAL_SECS" .uint64 d.sweepInterval
  return {
    bindAddress, metricsAddress, storage, postgres, certificateDirectory, keys, issuer, audience
    credentials := { certificateId, additionalIds, keyRollover, cacheTtl := credentialTtl }
    limit := { max, window }
    sweepInterval }

end Settings

end BlindMint
