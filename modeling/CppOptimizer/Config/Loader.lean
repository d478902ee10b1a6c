import CppOptimizer.Config.GameRules
import CppOptimizer.Config.RuleFile

/-!
# CppOptimizer.Config.Loader

`LoadConfig` on a parsed document: every section is read over its defaults, and what is read is
checked before a snapshot is returned.

* `takeInt32`, `takeUInt32` — the guards in front of the narrowing casts.
* `loadConfig`              — the sections in the order of the source.
* `NumericKey`              — the integer settings of `[policy]`, `[ipc]` and `[logging]`.

A value the guard turns away is not reported: the default stays, and the check that follows sees the
default.
-/

namespace CppOptimizer
namespace Config

open Common Lib

def loadFailure {α : Type} (message : String) : Result α :=
  .error (Error.validation "LoadConfig" message)

/-! ## Names -/

def parseRunMode (name : String) : Result RunMode :=
  if toLower name = "observe" then .ok .observe
  else if toLower name = "balanced" then .ok .balanced
  else if toLower name = "experimental" then .ok .experimental
  else .error (Error.validation "ParseRunMode"
    "Unknown run mode (expected observe/balanced/experimental)")

def parseCleanLevel (name : String) : Result CleanLevel :=
  if toLower name = "none" then .ok .none
  else if toLower name = "light" then .ok .light
  else if toLower name = "medium" then .ok .medium
  else if toLower name = "deep" then .ok .deep
  else .error (Error.validation "ParseCleanLevel"
    "Unknown clean level (expected none/light/medium/deep)")

def parsePriorityLevel (name : String) : Result PriorityLevel :=
  if toLower name = "none" then .ok .none
  else if toLower name = "above_normal" then .ok .aboveNormal
  else if toLower name = "high" then .ok .high
  else if toLower name = "realtime" then
    .error (Error.validation "ParsePriorityLevel" "realtime priority is forbidden")
  else .error (Error.validation "ParsePriorityLevel"
    "Unknown priority level (expected none/above_normal/high)")

/-! ## Sections -/

/-- A section that is missing, or no table, has no keys. -/
def sectionAt (t : Toml.Table) (key : String) : Toml.Table :=
  ((t.get key.toList).bind Toml.Value.asTable).getD []

/-- Stored where the value is in the range of `std::int32_t`. -/
def takeInt32 (v : Option Int) (stored : Int) : Int :=
  match v with
  | some n => if -2 ^ 31 ≤ n ∧ n ≤ 2 ^ 31 - 1 then n else stored
  | none => stored

/-- `static_cast<std::uint32_t>` of a positive value. -/
def takeUInt32 (v : Option Int) (stored : UInt32) : UInt32 :=
  match v with
  | some n => if 0 < n then UInt32.ofInt n else stored
  | none => stored

def readVersion (t : Toml.Table) : Result ConfigVersion :=
  match t.get "version".toList with
  | none => .ok {}
  | some node => do
    let versionText ←
      match node with
      | .integer n => .ok (decimalInt n ++ ".0.0".toList)
      | .string text => .ok text
      | _ => loadFailure "version must be a string \"M.m.p[-pre]\" (or legacy integer)"
    let version ← parseConfigVersion versionText
    if version.major = 1 then .ok version
    else loadFailure "unsupported config version major (supported: 1.x.y)"

section Sections

variable (access : Toml.Access)

def integerAt (t : Toml.Table) (key : String) : Option Int :=
  (t.get key.toList).bind access.integer

def readApplication (s : Toml.Table) : Result ApplicationConfig := do
  let d : ApplicationConfig := {}
  let mode ←
    match stringAt access s "mode" with
    | some name => parseRunMode name
    | none => .ok d.mode
  return {
    mode := mode
    safeModeOnRecoveryError :=
      (booleanAt access s "safe_mode_on_recovery_error").getD d.safeModeOnRecoveryError }

def readLogging (s : Toml.Table) : LoggingConfig :=
  let d : LoggingConfig := {}
  { level := (stringAt access s "level").getD d.level
    directory := (stringAt access s "directory").getD d.directory
    maxFileMb := takeUInt32 (integerAt access s "max_file_mb") d.maxFileMb
    maxFiles := takeUInt32 (integerAt access s "max_files") d.maxFiles
    console := (booleanAt access s "console").getD d.console }

def readMemory (s : Toml.Table) : Result MemoryConfig := do
  let d : MemoryConfig := {}
  let level ←
    match stringAt access s "max_clean_level" with
    | some name => parseCleanLevel name
    | none => .ok d.maxCleanLevel
  return {
    queryEnabled := (booleanAt access s "query_enabled").getD d.queryEnabled
    scheduledCleanEnabled :=
      (booleanAt access s "scheduled_clean_enabled").getD d.scheduledCleanEnabled
    allowNativeWrite := (booleanAt access s "allow_native_write").getD d.allowNativeWrite
    maxCleanLevel := level }

def readLayers (s : Toml.Table) : LayerConfig :=
  let d : LayerConfig := {}
  { monitoring := (booleanAt access s "monitoring").getD d.monitoring
    maintenance := (booleanAt access s "maintenance").getD d.maintenance
    emergency := (booleanAt access s "emergency").getD d.emergency }

def readPower (s : Toml.Table) : PowerConfig :=
  let d : PowerConfig := {}
  { executionRequired := (booleanAt access s "execution_required").getD d.executionRequired
    displayRequired := (booleanAt access s "display_required").getD d.displayRequired
    switchPowerScheme := (booleanAt access s "switch_power_scheme").getD d.switchPowerScheme }

/-- A level that is unknown or forbidden keeps the default. -/
def readPriority (s : Toml.Table) : PriorityConfig :=
  let d : PriorityConfig := {}
  { enabled := (booleanAt access s "enabled").getD d.enabled
    maxLevel :=
      match (stringAt access s "max_level").map parsePriorityLevel with
      | some (.ok level) => level
      | _ => d.maxLevel }

def readToggle (s : Toml.Table) : ToggleConfig :=
  { enabled := (booleanAt access s "enabled").getD false }

def readPolicy (s : Toml.Table) : PolicyConfig :=
  let d : PolicyConfig := {}
  { comfortableMarginPercent :=
      takeInt32 (integerAt access s "comfortable_margin_percent") d.comfortableMarginPercent
    adequateMarginPercent :=
      takeInt32 (integerAt access s "adequate_margin_percent") d.adequateMarginPercent
    tightMarginPercent := takeInt32 (integerAt access s "tight_margin_percent") d.tightMarginPercent
    cooldownMs := takeInt32 (integerAt access s "cooldown_ms") d.cooldownMs
    userAwayIdleSeconds :=
      takeInt32 (integerAt access s "user_away_idle_seconds") d.userAwayIdleSeconds
    haltAfterActionFailures :=
      takeInt32 (integerAt access s "halt_after_action_failures") d.haltAfterActionFailures }

def checkPolicy (p : PolicyConfig) : Result PolicyConfig :=
  if ¬ (0 ≤ p.tightMarginPercent ∧ p.tightMarginPercent < p.adequateMarginPercent ∧
      p.adequateMarginPercent < p.comfortableMarginPercent ∧ p.comfortableMarginPercent ≤ 100) ∨
      p.cooldownMs < 0 ∨ p.userAwayIdleSeconds < 0 ∨ 86400 < p.userAwayIdleSeconds ∨
      p.haltAfterActionFailures < 0 ∨ 10000 < p.haltAfterActionFailures then
    loadFailure ("[policy] thresholds must satisfy " ++
      "0 <= tight < adequate < comfortable <= 100, cooldown_ms >= 0, " ++
      "user_away_idle_seconds in 0..86400 (0 = gate off), " ++
      "halt_after_action_failures in 0..10000 (0 = off)")
  else .ok p

def readIpc (s : Toml.Table) : IpcConfig :=
  let d : SafeModeConfig := {}
  { safeMode :=
      { enabled := (booleanAt access s "safe_mode_enabled").getD d.enabled
        failuresToEnter := takeInt32 (integerAt access s "safe_mode_failures") d.failuresToEnter
        countingWindowMs := takeInt32 (integerAt access s "safe_mode_window_ms") d.countingWindowMs
        cooldownMs := takeInt32 (integerAt access s "safe_mode_cooldown_ms") d.cooldownMs } }

def checkIpc (i : IpcConfig) : Result IpcConfig :=
  let m := i.safeMode
  if 1 ≤ m.failuresToEnter ∧ m.failuresToEnter ≤ 100 ∧ 1 ≤ m.countingWindowMs ∧
      m.countingWindowMs ≤ 600000 ∧ 1 ≤ m.cooldownMs ∧ m.cooldownMs ≤ 600000 then .ok i
  else
    loadFailure ("[ipc] safe_mode must satisfy " ++
      "1 <= failures <= 100, 1 <= window_ms <= 600000, " ++ "1 <= cooldown_ms <= 600000")

def readAgent (s : Toml.Table) : Result AgentConfig :=
  match stringAt access s "form" with
  | none => .ok {}
  | some form =>
    if toLower form ≠ "startup_tray" ∧ toLower form ≠ "task" ∧ toLower form ≠ "service" then
      loadFailure ("agent.form: 仅支持 \"startup_tray\"（默认）/\"task\"/\"service\"" ++
        "（未知形态不做宽松猜测）")
    else .ok { form := toLower form }

end Sections

/-! ## Unknown keys -/

def collectUnknownKeys (t : Toml.Table) (known : List String) (path : String) : List String :=
  t.filterMap fun entry =>
    let name := String.ofList entry.1
    if name ∈ known then none else some (if path = "" then name else path ++ "." ++ name)

/-- The sections with the keys they know. -/
def knownKeys : List (String × List String) :=
  [("application", ["mode", "safe_mode_on_recovery_error"]),
   ("logging", ["level", "directory", "max_file_mb", "max_files", "console"]),
   ("layers", ["monitoring", "maintenance", "emergency"]),
   ("power", ["execution_required", "display_required", "switch_power_scheme"]),
   ("priority", ["enabled", "max_level"]),
   ("memory", ["query_enabled", "scheduled_clean_enabled", "allow_native_write", "max_clean_level"]),
   ("gpu_heartbeat", ["enabled", "max_measured_load_percent"]),
   ("scheduler", ["enabled"]),
   ("disk_cache", ["enabled"]),
   ("policy", ["comfortable_margin_percent", "adequate_margin_percent", "tight_margin_percent",
     "cooldown_ms", "user_away_idle_seconds", "halt_after_action_failures"]),
   ("ipc", ["safe_mode_enabled", "safe_mode_failures", "safe_mode_window_ms",
     "safe_mode_cooldown_ms"]),
   ("agent", ["form"])]

def unknownKeys (t : Toml.Table) : List String :=
  collectUnknownKeys t ["version", "application", "logging", "layers", "power", "priority", "memory",
    "gpu_heartbeat", "scheduler", "disk_cache", "policy", "ipc", "games", "agent"] "" ++
  knownKeys.flatMap (fun s => collectUnknownKeys (sectionAt t s.1) s.2 s.1) ++
  (((arrayAt t "games").getD []).zipIdx.flatMap fun e =>
    collectUnknownKeys (e.1.asTable.getD []) ["id", "display_name", "process_names",
      "pause_when_background", "window_title_contains"] ("games[" ++ toString e.2 ++ "]"))

/-! ## The loader -/

/-- `LoadConfig`, from the parsed document on. -/
def loadConfig (access : Toml.Access) (t : Toml.Table) : Result ConfigSnapshot := do
  let version ← readVersion t
  let application ← readApplication access (sectionAt t "application")
  let memory ← readMemory access (sectionAt t "memory")
  let policy ← checkPolicy (readPolicy access (sectionAt t "policy"))
  let ipc ← checkIpc (readIpc access (sectionAt t "ipc"))
  let agent ← readAgent access (sectionAt t "agent")
  return {
    version := version
    unknownKeys := unknownKeys t
    application := application
    logging := readLogging access (sectionAt t "logging")
    layers := readLayers access (sectionAt t "layers")
    power := readPower access (sectionAt t "power")
    priority := readPriority access (sectionAt t "priority")
    memory := memory
    scheduler := readToggle access (sectionAt t "scheduler")
    diskCache := readToggle access (sectionAt t "disk_cache")
    policy := policy
    ipc := ipc
    games := readGames access t
    agent := agent }

/-- `LoadConfigWithLocal`; there is no local result when the local file does not exist. -/
def loadConfigWithLocal (mainResult : Result ConfigSnapshot) (localResult : Option (Result ConfigSnapshot)) :
    Result ConfigSnapshot := do
  let snapshot ← mainResult
  match localResult with
  | none => return snapshot
  | some result =>
    let localSnapshot ← result
    return { snapshot with games := mergeGameRules snapshot.games localSnapshot.games }

/-- A local rule is in force whatever the two files hold, and no local rule hides another id. -/
theorem find?_loadConfigWithLocal {main other snapshot : ConfigSnapshot}
    (h : loadConfigWithLocal (.ok main) (some (.ok other)) = .ok snapshot) (id : String) :
    (snapshot.games.find? fun game => game.foldedId = id) = ruleFor main.games other.games id := by
  cases h
  exact find?_upserts GameConfig.foldedId main.games other.games id

/-! ## Numbers -/

/-- The keys with an integer value. -/
inductive NumericKey where
  | comfortableMargin | adequateMargin | tightMargin | policyCooldown | userAwayIdle
  | haltAfterActionFailures
  | safeModeFailures | safeModeWindow | safeModeCooldown
  | maxFileMb | maxFiles
  deriving DecidableEq, Repr

namespace NumericKey

def path : NumericKey → String × String
  | comfortableMargin => ("policy", "comfortable_margin_percent")
  | adequateMargin => ("policy", "adequate_margin_percent")
  | tightMargin => ("policy", "tight_margin_percent")
  | policyCooldown => ("policy", "cooldown_ms")
  | userAwayIdle => ("policy", "user_away_idle_seconds")
  | haltAfterActionFailures => ("policy", "halt_after_action_failures")
  | safeModeFailures => ("ipc", "safe_mode_failures")
  | safeModeWindow => ("ipc", "safe_mode_window_ms")
  | safeModeCooldown => ("ipc", "safe_mode_cooldown_ms")
  | maxFileMb => ("logging", "max_file_mb")
  | maxFiles => ("logging", "max_files")

/-- The value the snapshot has for a key. -/
def stored (s : ConfigSnapshot) : NumericKey → Int
  | comfortableMargin => s.policy.comfortableMarginPercent
  | adequateMargin => s.policy.adequateMarginPercent
  | tightMargin => s.policy.tightMarginPercent
  | policyCooldown => s.policy.cooldownMs
  | userAwayIdle => s.policy.userAwayIdleSeconds
  | haltAfterActionFailures => s.policy.haltAfterActionFailures
  | safeModeFailures => s.ipc.safeMode.failuresToEnter
  | safeModeWindow => s.ipc.safeMode.countingWindowMs
  | safeModeCooldown => s.ipc.safeMode.cooldownMs
  | maxFileMb => s.logging.maxFileMb.toNat
  | maxFiles => s.logging.maxFiles.toNat

/-- The integers the guard of the key lets through unchanged. -/
def InRange : NumericKey → Int → Prop
  | maxFileMb, n => 1 ≤ n ∧ n ≤ 2 ^ 32 - 1
  | maxFiles, n => 1 ≤ n ∧ n ≤ 2 ^ 32 - 1
  | _, n => -2 ^ 31 ≤ n ∧ n ≤ 2 ^ 31 - 1

/-- The document gives the integer `n` for the key. -/
def Given (t : Toml.Table) (key : NumericKey) (n : Int) : Prop :=
  (sectionAt t key.path.1).get key.path.2.toList = some (.integer n)

end NumericKey

theorem takeInt32_eq_iff {n d : Int} (hd : -2 ^ 31 ≤ d ∧ d ≤ 2 ^ 31 - 1) :
    takeInt32 (some n) d = n ↔ -2 ^ 31 ≤ n ∧ n ≤ 2 ^ 31 - 1 := by
  rw [takeInt32]
  split
  · case _ hn => exact ⟨fun _ => hn, fun _ => rfl⟩
  · case _ hn =>
    constructor
    · rintro rfl
      exact hd
    · exact fun h => absurd h hn

theorem takeUInt32_eq_iff {n : Int} {d : UInt32} (hd : 0 < d.toNat) :
    ((takeUInt32 (some n) d).toNat : Int) = n ↔ 1 ≤ n ∧ n ≤ 2 ^ 32 - 1 := by
  have hdlt : d.toNat < 2 ^ 32 := d.toNat_lt
  rw [takeUInt32]
  split
  · case _ hn =>
    have hcast : ((UInt32.ofInt n).toNat : Int) = n % 2 ^ 32 := by
      have hmod : (n % 2 ^ 32).toNat < 2 ^ 32 := by omega
      rw [UInt32.ofInt, UInt32.toNat_ofNat_of_lt' hmod]
      omega
    rw [hcast]
    omega
  · omega

/-- What is returned was read from the sections. -/
theorem loadConfig_sections {access : Toml.Access} {t : Toml.Table} {s : ConfigSnapshot}
    (h : loadConfig access t = .ok s) :
    s.policy = readPolicy access (sectionAt t "policy") ∧
    s.ipc = readIpc access (sectionAt t "ipc") ∧
    s.logging = readLogging access (sectionAt t "logging") := by
  have hpolicy : ∀ {p q : PolicyConfig}, checkPolicy p = .ok q → q = p := by
    intro p q hp
    rw [checkPolicy] at hp
    split at hp <;> cases hp
    rfl
  have hipc : ∀ {i j : IpcConfig}, checkIpc i = .ok j → j = i := by
    intro i j hi
    rw [checkIpc] at hi
    split at hi <;> cases hi
    rfl
  obtain ⟨_, _, h⟩ := ok_of_bind h
  obtain ⟨_, _, h⟩ := ok_of_bind h
  obtain ⟨_, _, h⟩ := ok_of_bind h
  obtain ⟨policy, hp, h⟩ := ok_of_bind h
  obtain ⟨ipc, hi, h⟩ := ok_of_bind h
  obtain ⟨_, _, h⟩ := ok_of_bind h
  cases h
  exact ⟨hpolicy hp, hipc hi, rfl⟩

section Exact

variable {access : Toml.Access} {t : Toml.Table} {s : ConfigSnapshot}

/-- The typed reader finds the integer of the document. -/
theorem integerAt_of_given (access : Toml.Access) {key : NumericKey} {n : Int} (h : key.Given t n) :
    integerAt access (sectionAt t key.path.1) key.path.2 = some n := by
  rw [integerAt, h, Option.bind_some, access.integer_integer]

/-- A given integer is stored as it is exactly if the guard lets it through. -/
theorem stored_eq_iff (h : loadConfig access t = .ok s) {key : NumericKey} {n : Int}
    (hgiven : key.Given t n) : key.stored s = n ↔ key.InRange n := by
  obtain ⟨hpolicy, hipc, hlogging⟩ := loadConfig_sections h
  have hread := integerAt_of_given access hgiven
  cases key <;>
    simp only [NumericKey.path] at hread <;>
    simp only [NumericKey.stored, NumericKey.InRange, hpolicy, hipc, hlogging, readPolicy, readIpc,
      readLogging, hread]
  case maxFileMb => exact takeUInt32_eq_iff (by decide)
  case maxFiles => exact takeUInt32_eq_iff (by decide)
  all_goals exact takeInt32_eq_iff (by decide)

/-- In a document that is accepted all integers are stored as given exactly if every one of them is
in the range of its guard. -/
theorem stored_exactly_iff (h : loadConfig access t = .ok s) :
    (∀ (key : NumericKey) (n : Int), key.Given t n → key.stored s = n) ↔
      ∀ (key : NumericKey) (n : Int), key.Given t n → key.InRange n := by
  refine forall₃_congr fun key n hgiven => ?_
  exact stored_eq_iff h hgiven

end Exact

def shortCooldown : Toml.Table :=
  [("policy".toList, .table [("cooldown_ms".toList, .integer 1000)])]

theorem stored_exactly_iff_shortCooldown :
    loadConfig Toml.strictAccess shortCooldown = .ok { policy := { cooldownMs := 1000 } } ∧
      ((∀ (key : NumericKey) (n : Int), key.Given shortCooldown n →
          key.stored { policy := { cooldownMs := 1000 } } = n) ↔
        ∀ (key : NumericKey) (n : Int), key.Given shortCooldown n → key.InRange n) := by
  have hload : loadConfig Toml.strictAccess shortCooldown = .ok { policy := { cooldownMs := 1000 } } := by
    rfl
  exact ⟨hload, stored_exactly_iff hload⟩

/-- A cooldown of 2^31 ms and 2^32 + 1 log files. -/
def hugeNumbers : Toml.Table :=
  [("policy".toList, .table [("cooldown_ms".toList, .integer 2147483648)]),
   ("logging".toList, .table [("max_files".toList, .integer 4294967297)])]

/-- Accepted, with the default cooldown and one log file. -/
theorem huge_numbers_accepted :
    loadConfig Toml.strictAccess hugeNumbers = .ok { logging := { maxFiles := 1 } } ∧
      NumericKey.policyCooldown.Given hugeNumbers 2147483648 ∧
      NumericKey.policyCooldown.stored { logging := { maxFiles := 1 } } = 5000 ∧
      NumericKey.maxFiles.Given hugeNumbers 4294967297 ∧
      NumericKey.maxFiles.stored { logging := { maxFiles := 1 } } = 1 := by
  refine ⟨?_, ?_, ?_, ?_, ?_⟩ <;> rfl

end Config
end CppOptimizer
