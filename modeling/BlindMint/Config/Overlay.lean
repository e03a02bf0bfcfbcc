import BlindMint.Config.Variables
import BlindMint.Yaml.Reader

/-!
# The overlay of a configuration

Settings can be overlaid by a document. Each member that is there and not null replaces a setting; the
section on the record store replaces that setting as a whole, with its own defaults for members that
are missing. Two addresses and a curve are text in the document and are read when they are applied, so
that a document can have the right shape and still be refused for one of them.
-/

namespace BlindMint

/-- The section on key pairs (`AnonymousTokensOverride`). -/
structure KeyOverlay where
  rotationEnabled : Option Bool := none
  rotationInterval : Option Duration := none
  rollover : Option Duration := none
  curve : Option String := none
  masterId : Option String := none
  cacheTtl : Option Duration := none
  deriving DecidableEq, Repr

/-- The section on credentials (`SigningOverride`). -/
structure CredentialOverlay where
  certificateId : Option String := none
  additionalIds : Option (List String) := none
  keyRollover : Option Duration := none
  issuer : Option String := none
  audience : Option String := none
  cacheTtl : Option Duration := none
  deriving DecidableEq, Repr

/-- The section on the limit of verifications (`VerificationLimitOverride`). -/
structure LimitOverlay where
  max : Option UInt32 := none
  window : Option Duration := none
  deriving DecidableEq, Repr

/-- A document that overlays settings (`ServiceConfigOverride`). -/
structure Overlay where
  bindAddress : Option String := none
  metricsAddress : Option String := none
  storage : Option Storage := none
  postgres : Option PostgresSettings := none
  certificateDirectory : Option String := none
  keys : KeyOverlay := {}
  credentials : CredentialOverlay := {}
  limit : LimitOverlay := {}
  sweepInterval : Option Duration := none
  deriving DecidableEq, Repr

namespace Overlay

/-! ## Reading a document -/

/-- Read a number of 32 bits. -/
def readUInt32 : Yaml.Reader UInt32 := fun d n =>
  (Yaml.readNatural (UInt32.size - 1) d n).map UInt32.ofNat

/-- Read a number of 64 bits. -/
def readUInt64 : Yaml.Reader UInt64 := fun d n =>
  (Yaml.readNatural (UInt64.size - 1) d n).map UInt64.ofNat

/-- Read the section on the record store, whose unknown members are passed over. -/
def readPostgres : Yaml.Reader PostgresSettings := fun d n => do
  let m ← Yaml.readMembers false
    ["url", "max_connections", "connect_timeout_ms", "acquire_timeout_ms"] d n
  some {
    url := ← m.required d "url" Yaml.readText
    maxConnections := ← m.orDefault d "max_connections" readUInt32 10
    connectTimeoutMs := ← m.orDefault d "connect_timeout_ms" readUInt64 5000
    acquireTimeoutMs := ← m.orDefault d "acquire_timeout_ms" readUInt64 5000 }

/-- Read the section on key pairs. -/
def readKeys : Yaml.Reader KeyOverlay := fun d n => do
  let m ← Yaml.readMembers true
    ["rotation_enabled", "rotation_interval_secs", "rotation_rollover_secs", "curve",
      "master_key_certificate_id", "cache_ttl_secs"] d n
  some {
    rotationEnabled := ← m.optional d "rotation_enabled" Yaml.readBool
    rotationInterval := ← m.optional d "rotation_interval_secs" readUInt64
    rollover := ← m.optional d "rotation_rollover_secs" readUInt64
    curve := ← m.optional d "curve" Yaml.readText
    masterId := ← m.optional d "master_key_certificate_id" Yaml.readText
    cacheTtl := ← m.optional d "cache_ttl_secs" readUInt64 }

/-- Read the section on credentials. -/
def readCredentials : Yaml.Reader CredentialOverlay := fun d n => do
  let m ← Yaml.readMembers true
    ["certificate_id", "additional_validation_certificate_ids", "key_rollover_secs", "issuer", "audience",
      "cache_ttl_secs"] d n
  some {
    certificateId := ← m.optional d "certificate_id" Yaml.readText
    additionalIds :=
      ← m.optional d "additional_validation_certificate_ids" (Yaml.readList Yaml.readText)
    keyRollover := ← m.optional d "key_rollover_secs" readUInt64
    issuer := ← m.optional d "issuer" Yaml.readText
    audience := ← m.optional d "audience" Yaml.readText
    cacheTtl := ← m.optional d "cache_ttl_secs" readUInt64 }

/-- Read the section on the limit of verifications. -/
def readLimit : Yaml.Reader LimitOverlay := fun d n => do
  let m ← Yaml.readMembers true ["max_verifications_allowed", "max_limit_duration_secs"] d n
  some {
    max := ← m.optional d "max_verifications_allowed" readUInt32
    window := ← m.optional d "max_limit_duration_secs" readUInt64 }

/-- Read an overlay. -/
def read : Yaml.Reader Overlay := fun d n => do
  let m ← Yaml.readMembers true
    ["bind_addr", "metrics_bind", "storage", "postgres", "certificate_dir", "anonymous_tokens", "signing",
      "verification_limit", "sweep_interval_secs"] d n
  let keys ← m.optional d "anonymous_tokens" readKeys
  let credentials ← m.optional d "signing" readCredentials
  let limit ← m.optional d "verification_limit" readLimit
  some {
    bindAddress := ← m.optional d "bind_addr" Yaml.readText
    metricsAddress := ← m.optional d "metrics_bind" Yaml.readText
    storage := ← m.optional d "storage" (Yaml.readChoice Storage.names)
    postgres := ← m.optional d "postgres" readPostgres
    certificateDirectory := ← m.optional d "certificate_dir" Yaml.readText
    keys := keys.getD {}
    credentials := credentials.getD {}
    limit := limit.getD {}
    sweepInterval := ← m.optional d "sweep_interval_secs" readUInt64 }

/-- The overlay that a text writes. -/
def ofText? (text : String) : Option Overlay := do
  let d ← Yaml.Document.ofText? text
  match d.root with
  | none => some {}
  | some root => read d root

end Overlay

/-! ## Applying an overlay -/

/-- The value that a text of the overlay gives to a setting. -/
def overlayText {α : Type} (name : String) (reader : TextReader α) (setting : α) (text : Option String) :
    Except ConfigFault α :=
  match text with
  | none => .ok setting
  | some text =>
    match reader text with
    | .ok value => .ok value
    | .error reason => .error (.unreadable name reason)

namespace KeySettings

/-- The settings under a section of the overlay (`apply_yaml`). -/
def overlay (s : KeySettings) (o : KeyOverlay) : Except ConfigFault KeySettings := do
  let curve ← overlayText "anonymous_tokens.curve" .curve s.curve o.curve
  return {
    curve
    rotationEnabled := o.rotationEnabled.getD s.rotationEnabled
    rotationInterval := o.rotationInterval.getD s.rotationInterval
    rollover := o.rollover.getD s.rollover
    masterId := o.masterId.getD s.masterId
    cacheTtl := o.cacheTtl.getD s.cacheTtl }

end KeySettings

namespace Settings

/-- The settings under an overlay; they need not be acceptable (`apply_yaml`). -/
def overlay (s : Settings) (o : Overlay) : Except ConfigFault Settings := do
  let bindAddress ← overlayText "bind_addr" .address s.bindAddress o.bindAddress
  let metricsAddress ← overlayText "metrics_bind" .address s.metricsAddress o.metricsAddress
  let keys ← s.keys.overlay o.keys
  return {
    bindAddress, metricsAddress, keys
    storage := o.storage.getD s.storage
    postgres := o.postgres <|> s.postgres
    certificateDirectory := o.certificateDirectory.getD s.certificateDirectory
    credentials := {
      certificateId := o.credentials.certificateId.getD s.credentials.certificateId
      additionalIds := o.credentials.additionalIds.getD s.credentials.additionalIds
      keyRollover := o.credentials.keyRollover.getD s.credentials.keyRollover
      cacheTtl := o.credentials.cacheTtl.getD s.credentials.cacheTtl }
    issuer := o.credentials.issuer.getD s.issuer
    audience := o.credentials.audience.getD s.audience
    limit := {
      max := o.limit.max.getD s.limit.max
      window := o.limit.window.getD s.limit.window }
    sweepInterval := o.sweepInterval.getD s.sweepInterval }

end Settings

end BlindMint
