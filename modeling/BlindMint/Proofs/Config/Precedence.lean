import BlindMint.Config.Load

/-!
# What prevails in a configuration

Three places can give a setting: the overlay, a variable and the default. `Settings.merged` says of each setting on its
own where it is looked for, how its text is read, and what it is if neither place gives it. What is loaded is exactly
that, provided that all variables that are set can be read, even those that the overlay replaces, that the overlay's
own texts can be read, and that the settings are acceptable in the end. The variables on their own need not be.

The record store is the one setting that is not merged by its parts. The section of the overlay replaces it as a whole,
and the variables that tune it are read only if one gives its address.

## Results

* `Variables.get_ok_iff`, `overlayText_ok_iff`: what becomes of one setting in each of the two passes.
* `ofVariables_ok_iff`, `overlay_merged_ok_iff`: the passes over all settings.
* `check_eq_none_iff_acceptable`: the six conditions.
* **`load_exact`**: what is loaded, and when.
-/

namespace BlindMint

/-! ## One setting -/

/-- What a place gives for a setting: nothing, its value, or something that cannot be read. -/
abbrev Given (α : Type) := Option (Except String α)

namespace Given

variable {α : Type}

/-- What is given can be read. -/
def Readable (g : Given α) : Prop :=
  ∀ reason, g ≠ some (.error reason)

instance (g : Given α) : Decidable g.Readable :=
  match g with
  | none => isTrue (by simp [Readable])
  | some (.ok value) => isTrue (by simp [Readable])
  | some (.error reason) => isFalse fun h => h reason rfl

/-- The value of a setting: what the overlay gives, else what the variable gives, else the default. What cannot be read
has no value here; it keeps all settings from being loaded. -/
def prevailing (member environment : Given α) (fallback : α) : α :=
  match member, environment with
  | some (.ok value), _ => value
  | none, some (.ok value) => value
  | _, _ => fallback

end Given

open Given (prevailing)

/-- What a variable gives. -/
def Variables.given {α : Type} (v : Variables) (name : String) (reader : TextReader α) : Given α :=
  (v ("ANONTOKEN_" ++ name)).map reader

section

variable {α : Type} {reader : TextReader α} {fallback value : α}

/-- A variable that is not overlaid. -/
theorem Variables.get_ok_iff {v : Variables} {name : String} :
    v.get name reader fallback = .ok value ↔
      (v.given name reader).Readable ∧ value = prevailing none (v.given name reader) fallback := by
  unfold get given
  cases v ("ANONTOKEN_" ++ name) with
  | none => simp [Given.Readable, prevailing, eq_comm]
  | some text => cases h : reader text <;> simp [Given.Readable, prevailing, h, eq_comm]

/-- A text of the overlay, over what has prevailed so far. -/
theorem overlayText_ok_iff {name : String} {g : Given α} {text : Option String} :
    overlayText name reader (prevailing none g fallback) text = .ok value ↔
      Given.Readable (text.map reader) ∧ value = prevailing (text.map reader) g fallback := by
  unfold overlayText
  cases text with
  | none => simp [Given.Readable, eq_comm]
  | some text => cases h : reader text <;> simp [Given.Readable, prevailing, h, eq_comm]

/-- A value of the overlay, over what has prevailed so far. -/
theorem getD_prevailing (member : Option α) (g : Given α) :
    member.getD (prevailing none g fallback) = prevailing (member.map .ok) g fallback := by
  cases member <;> rfl

/-- What can always be read. -/
theorem Variables.given_readable {v : Variables} {name : String} {read : String → α} :
    (v.given name fun text => .ok (read text)).Readable := by
  unfold given
  cases v ("ANONTOKEN_" ++ name) <;> simp [Given.Readable]

theorem bind_ok_iff {ε β : Type} {x : Except ε α} {f : α → Except ε β} {b : β} :
    (x >>= f) = .ok b ↔ ∃ a, x = .ok a ∧ f a = .ok b := by
  cases x <;> simp [bind, Except.bind]

end

/-! ## All settings -/

/-- The variables that tune the record store can be read. -/
structure Variables.TuningReadable (v : Variables) : Prop where
  maxConnections : (v.given "POSTGRES_MAX_CONNECTIONS" .uint32).Readable
  connectTimeout : (v.given "POSTGRES_CONNECT_TIMEOUT_MS" .uint64).Readable
  acquireTimeout : (v.given "POSTGRES_ACQUIRE_TIMEOUT_MS" .uint64).Readable

/-- The variables that are set can be read. Those whose text is taken as it is, or split into identifiers, always can,
and those that tune the record store have to be only if its address is given. -/
structure Variables.Readable (v : Variables) : Prop where
  bindAddress : (v.given "BIND" .address).Readable
  metricsAddress : (v.given "METRICS_BIND" .address).Readable
  storage : (v.given "STORAGE" Storage.ofName).Readable
  tuning : v "ANONTOKEN_POSTGRES_URL" ≠ none → v.TuningReadable
  rotationEnabled : (v.given "ROTATION_ENABLED" .bool).Readable
  rotationInterval : (v.given "ROTATION_INTERVAL_SECS" .uint64).Readable
  rollover : (v.given "ROTATION_ROLLOVER_SECS" .uint64).Readable
  curve : (v.given "CURVE" .curve).Readable
  keyTtl : (v.given "KEY_CACHE_TTL_SECS" .uint64).Readable
  keyRollover : (v.given "KEY_ROLLOVER_SECS" .uint64).Readable
  credentialTtl : (v.given "CREDENTIAL_CACHE_TTL_SECS" .uint64).Readable
  max : (v.given "MAX_VERIFICATIONS" .uint32).Readable
  window : (v.given "MAX_LIMIT_DURATION_SECS" .uint64).Readable
  sweepInterval : (v.given "SWEEP_INTERVAL_SECS" .uint64).Readable

/-- The texts of an overlay can be read. -/
structure Overlay.Readable (o : Overlay) : Prop where
  bindAddress : Given.Readable (o.bindAddress.map TextReader.address)
  metricsAddress : Given.Readable (o.metricsAddress.map TextReader.address)
  curve : Given.Readable (o.keys.curve.map TextReader.curve)

namespace Settings

/-- How the record store is reached if only variables say so. -/
def tuned (v : Variables) (url : String) : PostgresSettings where
  url
  maxConnections := prevailing none (v.given "POSTGRES_MAX_CONNECTIONS" .uint32) 10
  connectTimeoutMs := prevailing none (v.given "POSTGRES_CONNECT_TIMEOUT_MS" .uint64) 5000
  acquireTimeoutMs := prevailing none (v.given "POSTGRES_ACQUIRE_TIMEOUT_MS" .uint64) 5000

/-- The settings that variables and an overlay give together, each one looked up on its own. -/
def merged (v : Variables) (o : Overlay) : Settings where
  bindAddress := prevailing (o.bindAddress.map TextReader.address) (v.given "BIND" .address)
    ⟨.v4 [0, 0, 0, 0], 8443⟩
  metricsAddress := prevailing (o.metricsAddress.map TextReader.address) (v.given "METRICS_BIND" .address)
    ⟨.v4 [0, 0, 0, 0], 8080⟩
  storage := prevailing (o.storage.map .ok) (v.given "STORAGE" Storage.ofName) .memory
  postgres := o.postgres.or ((v "ANONTOKEN_POSTGRES_URL").map (tuned v))
  certificateDirectory := prevailing (o.certificateDirectory.map .ok) (v.given "CERTIFICATE_DIR" .text)
    "./certificates"
  keys := {
    rotationEnabled := prevailing (o.keys.rotationEnabled.map .ok) (v.given "ROTATION_ENABLED" .bool) true
    rotationInterval := prevailing (o.keys.rotationInterval.map .ok)
      (v.given "ROTATION_INTERVAL_SECS" .uint64) 259200
    rollover := prevailing (o.keys.rollover.map .ok) (v.given "ROTATION_ROLLOVER_SECS" .uint64) 86400
    curve := prevailing (o.keys.curve.map TextReader.curve) (v.given "CURVE" .curve) .p256
    masterId := prevailing (o.keys.masterId.map .ok) (v.given "MASTER_KEY_CERTIFICATE_ID" .text) "master"
    cacheTtl := prevailing (o.keys.cacheTtl.map .ok) (v.given "KEY_CACHE_TTL_SECS" .uint64) 86400 }
  credentials := {
    certificateId := prevailing (o.credentials.certificateId.map .ok)
      (v.given "SIGNING_CERTIFICATE_ID" .text) "signing"
    additionalIds := prevailing (o.credentials.additionalIds.map .ok)
      (v.given "ADDITIONAL_VALIDATION_CERTIFICATE_IDS" .identifiers) []
    keyRollover := prevailing (o.credentials.keyRollover.map .ok)
      (v.given "KEY_ROLLOVER_SECS" .uint64) 172800
    cacheTtl := prevailing (o.credentials.cacheTtl.map .ok)
      (v.given "CREDENTIAL_CACHE_TTL_SECS" .uint64) 86400 }
  issuer := prevailing (o.credentials.issuer.map .ok) (v.given "ISSUER" .text) "anontoken"
  audience := prevailing (o.credentials.audience.map .ok) (v.given "AUDIENCE" .text) "anontoken-clients"
  limit := {
    max := prevailing (o.limit.max.map .ok) (v.given "MAX_VERIFICATIONS" .uint32) 3
    window := prevailing (o.limit.window.map .ok) (v.given "MAX_LIMIT_DURATION_SECS" .uint64) 86400 }
  sweepInterval := prevailing (o.sweepInterval.map .ok) (v.given "SWEEP_INTERVAL_SECS" .uint64) 300

variable {v : Variables} {o : Overlay} {s c : Settings}

/-! ### The pass over the variables -/

theorem postgres_ok_iff {p : Option PostgresSettings} :
    v.postgres = .ok p ↔ (v "ANONTOKEN_POSTGRES_URL" ≠ none → v.TuningReadable) ∧
      p = (v "ANONTOKEN_POSTGRES_URL").map (tuned v) := by
  unfold Variables.postgres
  cases v "ANONTOKEN_POSTGRES_URL" with
  | none => simp [eq_comm]
  | some url =>
    simp only [bind_ok_iff, Variables.get_ok_iff]
    constructor
    · rintro ⟨_, ⟨hmax, rfl⟩, _, ⟨hconnect, rfl⟩, _, ⟨hacquire, rfl⟩, h⟩
      exact ⟨fun _ => ⟨hmax, hconnect, hacquire⟩, (Except.ok.inj h).symm⟩
    · rintro ⟨h, rfl⟩
      obtain ⟨hmax, hconnect, hacquire⟩ := h (by simp)
      exact ⟨_, ⟨hmax, rfl⟩, _, ⟨hconnect, rfl⟩, _, ⟨hacquire, rfl⟩, rfl⟩

/-- The section on key pairs. -/
theorem keys_ok_iff {k : KeySettings} :
    v.keys = .ok k ↔ ((v.given "ROTATION_ENABLED" .bool).Readable ∧
      (v.given "ROTATION_INTERVAL_SECS" .uint64).Readable ∧
      (v.given "ROTATION_ROLLOVER_SECS" .uint64).Readable ∧ (v.given "CURVE" .curve).Readable ∧
      (v.given "KEY_CACHE_TTL_SECS" .uint64).Readable) ∧ k = (merged v {}).keys := by
  unfold Variables.keys
  simp only [bind_ok_iff, Variables.get_ok_iff]
  constructor
  · rintro ⟨_, ⟨henabled, rfl⟩, _, ⟨hinterval, rfl⟩, _, ⟨hrollover, rfl⟩, _, ⟨hcurve, rfl⟩, _, ⟨-, rfl⟩,
      _, ⟨httl, rfl⟩, h⟩
    exact ⟨⟨henabled, hinterval, hrollover, hcurve, httl⟩, (Except.ok.inj h).symm⟩
  · rintro ⟨⟨henabled, hinterval, hrollover, hcurve, httl⟩, rfl⟩
    exact ⟨_, ⟨henabled, rfl⟩, _, ⟨hinterval, rfl⟩, _, ⟨hrollover, rfl⟩, _, ⟨hcurve, rfl⟩, _,
      ⟨Variables.given_readable, rfl⟩, _, ⟨httl, rfl⟩, rfl⟩

/-- **What the variables give**: all that are set can be read, and nothing is overlaid. -/
theorem ofVariables_ok_iff : ofVariables v = .ok s ↔ v.Readable ∧ s = merged v {} := by
  unfold ofVariables
  simp only [bind_ok_iff, Variables.get_ok_iff, postgres_ok_iff, keys_ok_iff]
  constructor
  · rintro ⟨_, ⟨hbind, rfl⟩, _, ⟨hmetrics, rfl⟩, _, ⟨hstorage, rfl⟩, _, ⟨htuning, rfl⟩, _, ⟨-, rfl⟩, _,
      ⟨⟨henabled, hinterval, hrollover, hcurve, hkeyTtl⟩, rfl⟩, _, ⟨-, rfl⟩, _, ⟨-, rfl⟩, _,
      ⟨hkeyRollover, rfl⟩, _, ⟨-, rfl⟩, _, ⟨-, rfl⟩, _, ⟨hcredentialTtl, rfl⟩, _, ⟨hmax, rfl⟩, _,
      ⟨hwindow, rfl⟩, _, ⟨hsweep, rfl⟩, h⟩
    exact ⟨⟨hbind, hmetrics, hstorage, htuning, henabled, hinterval, hrollover, hcurve, hkeyTtl, hkeyRollover,
      hcredentialTtl, hmax, hwindow, hsweep⟩, (Except.ok.inj h).symm⟩
  · rintro ⟨h, rfl⟩
    exact ⟨_, ⟨h.bindAddress, rfl⟩, _, ⟨h.metricsAddress, rfl⟩, _, ⟨h.storage, rfl⟩, _, ⟨h.tuning, rfl⟩, _,
      ⟨Variables.given_readable, rfl⟩, _,
      ⟨⟨h.rotationEnabled, h.rotationInterval, h.rollover, h.curve, h.keyTtl⟩, rfl⟩, _,
      ⟨Variables.given_readable, rfl⟩, _, ⟨Variables.given_readable, rfl⟩, _, ⟨h.keyRollover, rfl⟩, _,
      ⟨Variables.given_readable, rfl⟩, _, ⟨Variables.given_readable, rfl⟩, _, ⟨h.credentialTtl, rfl⟩, _,
      ⟨h.max, rfl⟩, _, ⟨h.window, rfl⟩, _, ⟨h.sweepInterval, rfl⟩, rfl⟩

/-! ### The pass over the overlay -/

theorem keys_overlay_ok_iff {k : KeySettings} :
    (merged v {}).keys.overlay o.keys = .ok k ↔
      Given.Readable (o.keys.curve.map TextReader.curve) ∧ k = (merged v o).keys := by
  unfold KeySettings.overlay
  simp only [merged, Option.map_none, bind_ok_iff, overlayText_ok_iff, getD_prevailing]
  constructor
  · rintro ⟨_, ⟨hcurve, rfl⟩, h⟩
    exact ⟨hcurve, (Except.ok.inj h).symm⟩
  · rintro ⟨hcurve, rfl⟩
    exact ⟨_, ⟨hcurve, rfl⟩, rfl⟩

/-- **What the overlay makes of the variables' settings**: its texts can be read, and each setting is looked up in
both. -/
theorem overlay_merged_ok_iff : (merged v {}).overlay o = .ok c ↔ o.Readable ∧ c = merged v o := by
  unfold overlay
  simp only [bind_ok_iff, keys_overlay_ok_iff]
  simp only [merged, Option.map_none, overlayText_ok_iff, getD_prevailing, Option.none_or,
    Option.orElse_eq_orElse, Option.orElse_eq_or]
  constructor
  · rintro ⟨_, ⟨hbind, rfl⟩, _, ⟨hmetrics, rfl⟩, _, ⟨hcurve, rfl⟩, h⟩
    exact ⟨⟨hbind, hmetrics, hcurve⟩, (Except.ok.inj h).symm⟩
  · rintro ⟨h, rfl⟩
    exact ⟨_, ⟨h.bindAddress, rfl⟩, _, ⟨h.metricsAddress, rfl⟩, _, ⟨h.curve, rfl⟩, rfl⟩

/-! ### The conditions -/

/-- The six conditions on settings. -/
structure Acceptable (c : Settings) : Prop where
  rotationInterval : c.keys.rotationInterval ≠ 0
  masterId : c.keys.masterId ≠ ""
  certificateId : c.credentials.certificateId ≠ ""
  window : c.limit.window ≠ 0
  sweepInterval : c.sweepInterval ≠ 0
  postgres : c.storage = .postgres → c.postgres.isSome = true

theorem check_eq_none_iff_acceptable : c.check = none ↔ c.Acceptable := by
  rw [check_eq_none_iff]
  simp only [conditions, List.forall_mem_cons]
  constructor
  · rintro ⟨hinterval, hmaster, hcertificate, hwindow, hsweep, hpostgres, -⟩
    exact ⟨by simpa using hinterval, by simpa using hmaster, by simpa using hcertificate,
      by simpa using hwindow, by simpa using hsweep, by simpa using hpostgres⟩
  · rintro ⟨hinterval, hmaster, hcertificate, hwindow, hsweep, hpostgres⟩
    exact ⟨by simpa using hinterval, by simpa using hmaster, by simpa using hcertificate,
      by simpa using hwindow, by simpa using hsweep, by simpa using hpostgres, by simp⟩

theorem accept_ok_iff : s.accept = .ok c ↔ c = s ∧ c.Acceptable := by
  unfold accept
  cases hcheck : s.check with
  | none =>
    have hs := check_eq_none_iff_acceptable.mp hcheck
    constructor
    · rintro ⟨⟩
      exact ⟨rfl, hs⟩
    · rintro ⟨rfl, -⟩
      rfl
  | some condition =>
    constructor
    · rintro ⟨⟩
    · rintro ⟨rfl, hs⟩
      rw [check_eq_none_iff_acceptable.mpr hs] at hcheck
      cases hcheck

/-! ## Loading -/

theorem loadVariables_ok_iff :
    loadVariables v = .ok c ↔ v.Readable ∧ c = merged v {} ∧ c.Acceptable := by
  have hload : loadVariables v = ofVariables v >>= accept := by
    unfold loadVariables
    cases ofVariables v <;> rfl
  rw [hload, bind_ok_iff]
  simp only [ofVariables_ok_iff, accept_ok_iff]
  constructor
  · rintro ⟨_, ⟨hv, rfl⟩, hc, hacceptable⟩
    exact ⟨hv, hc, hacceptable⟩
  · rintro ⟨hv, hc, hacceptable⟩
    exact ⟨_, ⟨hv, rfl⟩, hc, hacceptable⟩

theorem load_ok_iff {files : Files} {path text : String} (hpath : v "ANONTOKEN_CONFIG" = some path)
    (hfile : files path = .ok text) (htext : Overlay.ofText? text = some o) :
    load v files = .ok c ↔ v.Readable ∧ o.Readable ∧ c = merged v o ∧ c.Acceptable := by
  have hload : load v files = ofVariables v >>= fun s => s.overlay o >>= accept := by
    unfold load
    cases ofVariables v with
    | error fault => rfl
    | ok s =>
      simp only [overlayFile, hpath, hfile, overlayFrom, htext]
      cases hoverlay : s.overlay o <;> simp [bind, Except.bind, hoverlay]
  rw [hload, bind_ok_iff]
  simp only [bind_ok_iff, ofVariables_ok_iff, accept_ok_iff]
  constructor
  · rintro ⟨_, ⟨hv, rfl⟩, t, hoverlay, hc, hacceptable⟩
    obtain ⟨ho, rfl⟩ := overlay_merged_ok_iff.mp hoverlay
    exact ⟨hv, ho, hc, hacceptable⟩
  · rintro ⟨hv, ho, hc, hacceptable⟩
    exact ⟨_, ⟨hv, rfl⟩, _, overlay_merged_ok_iff.mpr ⟨ho, rfl⟩, hc, hacceptable⟩

/-- A member that is missing in the overlay's section on the record store has the section's default. -/
structure SectionDefaults (m : Yaml.Members) (p : PostgresSettings) : Prop where
  maxConnections : m.lookup "max_connections" = none → p.maxConnections = 10
  connectTimeout : m.lookup "connect_timeout_ms" = none → p.connectTimeoutMs = 5000
  acquireTimeout : m.lookup "acquire_timeout_ms" = none → p.acquireTimeoutMs = 5000

theorem sectionDefaults_of_readPostgres {d : Yaml.Document} {n : Yaml.Node} {m : Yaml.Members}
    {p : PostgresSettings}
    (hm : Yaml.readMembers false ["url", "max_connections", "connect_timeout_ms", "acquire_timeout_ms"] d n =
      some m) (hp : Overlay.readPostgres d n = some p) : SectionDefaults m p := by
  unfold Overlay.readPostgres at hp
  simp only [hm, bind, Option.bind_some, Option.bind_eq_some_iff, Option.some.injEq] at hp
  obtain ⟨_, -, _, hmax, _, hconnect, _, hacquire, rfl⟩ := hp
  constructor <;> intro hmissing
  · simpa [Yaml.Members.orDefault, hmissing, eq_comm] using hmax
  · simpa [Yaml.Members.orDefault, hmissing, eq_comm] using hconnect
  · simpa [Yaml.Members.orDefault, hmissing, eq_comm] using hacquire

/-- What is loaded from variables and files. -/
structure Loads (v : Variables) (files : Files) : Prop where
  /-- If no file is named, the variables alone decide. -/
  alone : v "ANONTOKEN_CONFIG" = none → load v files = loadVariables v
  /-- On their own the variables have to be readable, and acceptable with the defaults. -/
  fromVariables : ∀ c, loadVariables v = .ok c ↔ v.Readable ∧ c = merged v {} ∧ c.Acceptable
  /-- Under an overlay everything has to be readable, and the settings that both give together are acceptable. -/
  overlaid : ∀ path text o, v "ANONTOKEN_CONFIG" = some path → files path = .ok text →
    Overlay.ofText? text = some o → ∀ c, load v files = .ok c ↔
      v.Readable ∧ o.Readable ∧ c = merged v o ∧ c.Acceptable
  /-- So an overlay can mend variables that would not do on their own. -/
  mended : ∀ path text o, v "ANONTOKEN_CONFIG" = some path → files path = .ok text →
    Overlay.ofText? text = some o → v.Readable → ¬ (merged v {}).Acceptable → o.Readable →
      (merged v o).Acceptable →
      (∃ condition, loadVariables v = .error (.unacceptable condition)) ∧ load v files = .ok (merged v o)
  /-- The overlay's section on the record store is not completed from variables. -/
  whole : ∀ d n m p, Yaml.readMembers false
      ["url", "max_connections", "connect_timeout_ms", "acquire_timeout_ms"] d n = some m →
    Overlay.readPostgres d n = some p → SectionDefaults m p

/-- **What is loaded, and when.** Each setting is the overlay's, else the variable's, else the default; whatever is set
has to be readable, also where it does not prevail, and only what prevails has to be acceptable. -/
theorem load_exact (v : Variables) (files : Files) : Loads v files where
  alone h := load_of_no_overlay h files
  fromVariables _ := loadVariables_ok_iff
  overlaid _ _ _ hpath hfile htext _ := load_ok_iff hpath hfile htext
  mended path text o hpath hfile htext hv halone ho hacceptable := by
    refine ⟨?_, (load_ok_iff hpath hfile htext).mpr ⟨hv, ho, rfl, hacceptable⟩⟩
    unfold loadVariables accept
    rw [ofVariables_ok_iff.mpr ⟨hv, rfl⟩]
    cases hcheck : (merged v {}).check with
    | none => exact absurd (check_eq_none_iff_acceptable.mp hcheck) halone
    | some condition => exact ⟨condition, by simp [hcheck]⟩
  whole _ _ _ _ hm hp := sectionDefaults_of_readPostgres hm hp

namespace Sample

/-- The length of an interval is not acceptable, and the record store has no address, so that the variable that tunes
it is not read. -/
def environment : Variables := fun name => [
  ("ANONTOKEN_CONFIG", "overlay.yaml"),
  ("ANONTOKEN_STORAGE", " Postgres "),
  ("ANONTOKEN_POSTGRES_MAX_CONNECTIONS", "many"),
  ("ANONTOKEN_ROTATION_INTERVAL_SECS", "0"),
  ("ANONTOKEN_ISSUER", "east"),
  ("ANONTOKEN_AUDIENCE", "clients")].lookup name

/-- An overlay that mends these variables. -/
def overlay : Overlay where
  postgres := some { url := "db", maxConnections := 2 }
  keys := { rotationInterval := some 60 }
  credentials := { issuer := some "west" }

/-- The text that writes the overlay. -/
def text : String :=
  "postgres:\n  url: db\n  max_connections: 2\nanonymous_tokens:\n  rotation_interval_secs: 60\n" ++
    "signing:\n  issuer: west\n  audience: ~\n"

end Sample

/-- These variables would not do on their own. Under the overlay they do, and the issuer is the overlay's, the audience
that of the variable, and the tolerance the default. -/
theorem load_exact_mended :
    (∃ condition, loadVariables Sample.environment = .error (.unacceptable condition)) ∧
    ∃ c, load Sample.environment (fun _ => .ok Sample.text) = .ok c ∧
      c.postgres = some ⟨"db", 2, 5000, 5000⟩ ∧ c.keys.rotationInterval = 60 ∧ c.issuer = "west" ∧
      c.audience = "clients" ∧ c.keys.rollover = 86400 := by
  have hv : Sample.environment.Readable := by
    have hurl : Sample.environment "ANONTOKEN_POSTGRES_URL" = none := by decide +kernel
    refine ⟨?_, ?_, ?_, fun h => absurd hurl h, ?_, ?_, ?_, ?_, ?_, ?_, ?_, ?_, ?_, ?_⟩ <;> decide +kernel
  obtain ⟨halone, hload⟩ := (load_exact Sample.environment fun _ => .ok Sample.text).mended "overlay.yaml" Sample.text
    Sample.overlay (by decide +kernel) rfl (by decide +kernel) hv
    (fun h => h.rotationInterval (by decide +kernel)) (by constructor <;> decide +kernel)
    (by constructor <;> decide +kernel)
  exact ⟨halone, _, hload, by decide +kernel, by decide +kernel, by decide +kernel, by decide +kernel,
    by decide +kernel⟩

end Settings

end BlindMint
