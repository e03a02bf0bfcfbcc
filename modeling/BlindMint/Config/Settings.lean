import BlindMint.Config.Address
import BlindMint.Config.Storage
import BlindMint.Credential
import BlindMint.KeyPair
import BlindMint.Verification.Limit

/-!
# Settings of the service

What a deployment can choose, with the defaults. Settings are acceptable if six conditions hold; of
several that fail the first one in a fixed order is named.

Results:
* `Settings.check_default`: the defaults are acceptable.
* `Settings.check_eq_none_iff`: settings are acceptable iff no condition fails.
-/

namespace BlindMint

/-- Where and how the record store is reached (`PostgresConfig`). -/
structure PostgresSettings where
  url : String
  maxConnections : UInt32 := 10
  connectTimeoutMs : UInt64 := 5000
  acquireTimeoutMs : UInt64 := 5000
  deriving DecidableEq, Repr

/-- What a deployment can choose (`ServiceConfig`). -/
structure Settings where
  /-- The address of the endpoints. -/
  bindAddress : SocketAddress := ⟨.v4 [0, 0, 0, 0], 8443⟩
  /-- The address at which the counters are exposed. -/
  metricsAddress : SocketAddress := ⟨.v4 [0, 0, 0, 0], 8080⟩
  storage : Storage := .memory
  postgres : Option PostgresSettings := none
  /-- The root of the folder of certificates. -/
  certificateDirectory : String := "./certificates"
  keys : KeySettings := {}
  credentials : CredentialSettings := {}
  issuer : String := "anontoken"
  audience : String := "anontoken-clients"
  limit : VerificationLimit := {}
  /-- The time between two sweeps. -/
  sweepInterval : Duration := 300
  deriving DecidableEq, Repr

namespace Settings

/-- The conditions on settings that fail, each with what it asks for. -/
def conditions (s : Settings) : List (Bool × String) := [
  (s.keys.rotationInterval = 0, "anonymous_tokens.rotation_interval_secs must be greater than zero"),
  (s.keys.masterId = "", "anonymous_tokens.master_key_certificate_id must be set"),
  (s.credentials.certificateId = "", "signing.certificate_id must be set"),
  (s.limit.window = 0, "verification_limit.max_limit_duration_secs must be greater than zero"),
  (s.sweepInterval = 0, "sweep_interval_secs must be greater than zero"),
  (s.storage = .postgres && s.postgres.isNone, "postgres storage requires a postgres section")]

/-- What the first failing condition asks for, if one fails (`validate`). -/
def check (s : Settings) : Option String :=
  (s.conditions.find? (·.1)).map (·.2)

theorem check_default : check {} = none := by
  decide +kernel

theorem check_eq_none_iff (s : Settings) : s.check = none ↔ ∀ c ∈ s.conditions, c.1 = false := by
  simp [check, List.find?_eq_none]

end Settings

end BlindMint
