import CppOptimizer.Memory.Cleaner
import CppOptimizer.Power.SchemeFlow
import CppOptimizer.Scheduler.ThreadTuner

/-!
# CppOptimizer.Command.Actions

The commands of `main.cpp` that change the system, each behind gates it gathers by hand, and the
table of `RunGatesCommand` that shows the same gates without acting.

* `CommandFacts`    — what a command reads before it acts: build, configuration, confirmations,
  environment, audit probe, cooldown ledger and clock.
* `runMemoryCleanExecuteCommand`, `runMemoryCleanSelfTrim`, `runPowerSchemeApply`,
  `runSchedulerCommand` — the acting paths, as programs over the calls they make.
* `gatesReport`     — the rows of the diagnosis.

The lines written to standard output are left out, as are the readings they show; the lines of a
refusal are kept. One reading of the facts serves all gates of a command.
-/

namespace CppOptimizer
namespace Command

open Common Config Lib Memory Policy Power Scheduler

structure CommandFacts where
  switches : CompileSwitches := {}
  /-- The snapshot of the configuration named on the command line, or none without one. -/
  config : Option ConfigSnapshot := none
  acknowledged : Bool := false
  isolatedAcknowledged : Bool := false
  /-- What `GatherEnvironmentFacts` returns. -/
  environment : EnvironmentFacts := {}
  /-- What `ProbeAuditWritable` returns. -/
  auditWritable : Bool := false
  /-- What `ReadCooldownLedger` returns. -/
  ledger : Result CooldownLedger := .ok {}
  nowUnixSeconds : Int := 0

/-! ## Calls to the outside -/

inductive RiskLevel where
  | r0 | r1 | r2 | r3
  deriving DecidableEq, Repr

inductive JournalPhase where
  | before | after | state
  deriving DecidableEq, Repr

inductive CommandCall where
  | execute (kind : CleanKind)
  | listThreads (processId : UInt32)
  | setPriority (threadId : UInt32) (priority : Int)
  /-- The readings before and after a clean, as the text that goes into the audit. -/
  | readings
  | appendJournal (phase : JournalPhase) (operationId : String) (ok : Bool)
      (target detail : String)
  | appendAudit (operationId : String) (risk : RiskLevel) (target : String) (ok : Bool)
      (detail : String)
  /-- `RecordCooldownRun`, with the clock read once more. -/
  | recordCooldownRun (capabilityId : String)
  deriving DecidableEq, Repr

def CommandCall.Answer : CommandCall → Type
  | .execute _ => Result Unit
  | .listThreads _ => Result (List ThreadSnapshot)
  | .setPriority _ _ => Result Unit
  | .readings => String
  | .appendJournal _ _ _ _ _ => Result Unit
  | .appendAudit _ _ _ _ _ => Result Unit
  | .recordCooldownRun _ => Result Unit

abbrev CommandProg := Prog CommandCall CommandCall.Answer

/-- The exit code and the lines written to standard error. -/
structure CommandEnd where
  exitCode : Nat
  errors : List String := []
  deriving DecidableEq, Repr

def journalAction (operationId target : String) (ok : Bool) (phase : JournalPhase)
    (detail : String) : CommandProg Unit := do
  let _ ← Prog.perform (CommandCall.appendJournal phase operationId ok target detail)
  pure ()

/-- The audit line, then the last two of the three journal lines. -/
def auditAction (operationId : String) (risk : RiskLevel) (target : String) (ok : Bool)
    (detail postState : String) : CommandProg Unit := do
  let _ ← Prog.perform (CommandCall.appendAudit operationId risk target ok detail)
  journalAction operationId target ok .after detail
  journalAction operationId target true .state postState

/-! ## Memory clean -/

structure MemoryCleanConfigGate where
  cleanEnabled : Bool := false
  nativeWrite : Bool := false
  maxLevel : CleanLevel := .none
  mode : RunMode := .observe
  layers : LayerConfig := {}
  hasConfig : Bool := false
  deriving DecidableEq, Repr

/-- How `RunMemoryCleanCommand` fills the gate from the loaded configuration. -/
def memoryCleanConfigGate : Option ConfigSnapshot → MemoryCleanConfigGate
  | none => {}
  | some c =>
    { cleanEnabled := c.memory.scheduledCleanEnabled
      nativeWrite := c.memory.allowNativeWrite
      maxLevel := c.memory.maxCleanLevel
      mode := c.application.mode
      layers := c.layers
      hasConfig := true }

/-- The overlay of mode and layers: the trim is local and reversible, the other steps are not. -/
def cleanStepOverlay (config : MemoryCleanConfigGate) (kind : CleanKind) : Bool :=
  if kind = .workingSetTrim then allowsLocalReversibleActions config.mode config.layers
  else allowsSystemLevelActions config.mode config.layers

def cleanStepLevelOk (config : MemoryCleanConfigGate) : CleanKind → Bool
  | .workingSetTrim => config.maxLevel.toNat ≥ CleanLevel.light.toNat
  | .standbyListPurge => config.maxLevel.toNat ≥ CleanLevel.medium.toNat
  | .systemFileCacheTrim => config.maxLevel == .deep

def configAllowsCleanStep (config : MemoryCleanConfigGate) (kind : CleanKind) : Bool :=
  if config.hasConfig = false then false
  else if cleanStepOverlay config kind = false then false
  else
    match kind with
    | .workingSetTrim => config.cleanEnabled && cleanStepLevelOk config kind
    | .standbyListPurge => config.cleanEnabled && cleanStepLevelOk config kind && config.nativeWrite
    | .systemFileCacheTrim =>
      config.cleanEnabled && cleanStepLevelOk config kind && config.nativeWrite

def describeCleanConfigGaps (config : MemoryCleanConfigGate) (kind : CleanKind) : String :=
  let gaps :=
    (if config.cleanEnabled then [] else ["[memory].scheduled_clean_enabled = false"]) ++
    (if cleanStepLevelOk config kind then [] else ["[memory].max_clean_level too low"]) ++
    (if kind ≠ .workingSetTrim ∧ config.nativeWrite = false then
      ["[memory].allow_native_write = false"] else []) ++
    (if config.hasConfig = false then ["no config file given"]
     else if cleanStepOverlay config kind then []
     else if kind = .workingSetTrim then ["[application].mode / [layers].maintenance|emergency"]
     else ["[application].mode=experimental and [layers].emergency"])
  ", ".intercalate gaps

structure MemoryCleanGateContext where
  inputs : GateInputs
  gates : GateEvaluation
  auditWritable : Bool
  deriving DecidableEq, Repr

def gatherMemoryCleanGates (f : CommandFacts) (acknowledged configEnabled compiledIn : Bool)
    (capabilityId : String) (requireIsolatedEnvironment isolatedAcknowledged : Bool) :
    MemoryCleanGateContext :=
  let inputs : GateInputs :=
    { compileTime := compiledIn
      config := configEnabled
      commandLine := acknowledged && (!requireIsolatedEnvironment || isolatedAcknowledged)
      permissionAndEnvironment := evaluateEnvironmentGate f.environment
      audit := f.auditWritable
      cooldown := cooldownGateOpen f.ledger capabilityId f.nowUnixSeconds }
  { inputs := inputs, gates := evaluateGates inputs, auditWritable := f.auditWritable }

def cleanStepCompiledIn (switches : CompileSwitches) : CleanKind → Bool
  | .workingSetTrim => switches.memoryCleanCompiledIn
  | .standbyListPurge => switches.standbyPurgeCompiledIn
  | .systemFileCacheTrim => switches.fileCacheTrimCompiledIn

def cleanStepNeedsIsolatedEnvironment (kind : CleanKind) : Bool := kind != .workingSetTrim

/-- The gates of one step of `--execute`. -/
def cleanStepGates (f : CommandFacts) (step : CleanKind) : MemoryCleanGateContext :=
  gatherMemoryCleanGates f f.acknowledged
    (configAllowsCleanStep (memoryCleanConfigGate f.config) step)
    (cleanStepCompiledIn f.switches step) (cleanKindCapabilityId step)
    (cleanStepNeedsIsolatedEnvironment step) f.isolatedAcknowledged

def auditUnavailableLine : String :=
  "  audit    : unavailable - a real action is refused before any system call (audit must be writable first)"

def acknowledgeHint : String :=
  "  hint     : pass --acknowledge-system-wide-side-effects (action-specific confirmation; --force is not accepted)"

/-- The lines of a refused `--execute`: the blocked step with its first closed gate, and a hint for
each gate that needs one. -/
def cleanExecuteRefusal (f : CommandFacts) (step : CleanKind) : List String :=
  let context := cleanStepGates f step
  let config := memoryCleanConfigGate f.config
  ["  --memory-clean --execute refused [capability: " ++ cleanKindCapabilityId step ++
      ", first blocked gate: " ++ firstBlockingGateName context.gates ++
      "] (no system call was made)"] ++
  (if context.auditWritable then [] else [auditUnavailableLine]) ++
  (if context.inputs.compileTime then []
   else ["  hint     : that step is compiled out by default (build options OPTIMIZER_ENABLE_MEMORY_CLEAN / OPTIMIZER_ENABLE_STANDBY_PURGE / OPTIMIZER_ENABLE_FILE_CACHE_TRIM)"]) ++
  (if cleanStepNeedsIsolatedEnvironment step && !f.isolatedAcknowledged then
    ["  hint     : the R3 steps additionally require --acknowledge-isolated-environment (an isolated environment must be confirmed by the operator)"]
   else []) ++
  (if context.inputs.commandLine then [] else [acknowledgeHint]) ++
  (if configAllowsCleanStep config step then []
   else ["  hint     : the config would not allow that step (missing: " ++
      describeCleanConfigGaps config step ++ ")"]) ++
  (if context.inputs.cooldown then []
   else ["  hint     : the cooldown window is still open for that step"])

/-- Success of an execution and the detail that goes into audit and error lines. -/
def describeExecution (okText : Nat → String) : Result CleanExecutionReport → Bool × String
  | .ok report =>
    if report.ok then (true, okText report.succeeded)
    else
      (false, "failed at step " ++ cleanKindToString report.failedStep ++ ": " ++
        report.failureDetail)
  | .error e =>
    (false, "not executed [" ++ e.domain.toString ++ ":" ++ toString e.code ++ "] " ++ e.message)

/-- `RecordCooldownRun` for each step; a failure is only reported. -/
def recordCooldowns : List CleanKind → CommandProg Unit
  | [] => pure ()
  | step :: steps => do
    let _ ← Prog.perform (CommandCall.recordCooldownRun (cleanKindCapabilityId step))
    recordCooldowns steps

def cleanTarget (f : CommandFacts) : String := if f.config.isSome then "config" else "defaults"

def executeStep (kind : CleanKind) : CommandProg (Result Unit) :=
  Prog.perform (CommandCall.execute kind)

/-- What `--execute` does once gates and readiness have passed. -/
def executeCleanPlan (f : CommandFacts) (plan : MemoryCleanPlan) : CommandProg CommandEnd := do
  journalAction "memory.clean_execute" (cleanTarget f) true .before
    "intent: execute the planned clean steps (gates passed, readiness checked)"
  let executed ← executeMemoryCleanPlan executeStep plan
  let deltaText ← Prog.perform CommandCall.readings
  let outcome := describeExecution
    (fun n => "executed " ++ toString n ++ " planned step(s)") executed
  let risk := if plan.steps.any (· ≠ .workingSetTrim) then RiskLevel.r3 else RiskLevel.r1
  auditAction "memory.clean_execute" risk (cleanTarget f) outcome.1 outcome.2 deltaText
  if outcome.1 then do
    recordCooldowns plan.steps
    pure { exitCode := 0 }
  else pure { exitCode := 2, errors := ["  detail   : " ++ outcome.2] }

def runMemoryCleanExecuteCommand (f : CommandFacts) : CommandProg CommandEnd :=
  let config := memoryCleanConfigGate f.config
  let plan := planMemoryClean config.maxLevel config.maxLevel true
  if plan.steps = [] then
    pure { exitCode := 2
           errors := ["  --memory-clean --execute refused: nothing to do (level is none; no system call was made)"] }
  else
    match plan.steps.find? fun step => !(cleanStepGates f step).gates.allowed with
    | some step => pure { exitCode := 2, errors := cleanExecuteRefusal f step }
    | none =>
      match (evaluateCleanPlanReadiness f.switches plan).firstUnimplemented with
      | some step =>
        pure { exitCode := 2
               errors :=
                 ["  --memory-clean --execute refused: gates passed, but step '" ++
                    cleanKindToString step ++
                    "' has no real backend in this build (it returns Unsupported). No system call was made.",
                  "  note     : the R3 backends are implemented only after the isolated environment is ready (they are not a substitute for the gates)"] }
      | none => executeCleanPlan f plan

/-- The gates of `--execute-self-trim`. The call leaves `compiledIn` and what follows it at the
defaults of `GatherMemoryCleanGates`. -/
def selfTrimGates (f : CommandFacts) : MemoryCleanGateContext :=
  gatherMemoryCleanGates f f.acknowledged
    (configAllowsCleanStep (memoryCleanConfigGate f.config) .workingSetTrim)
    true kMemoryCleanCapabilityId false false

def selfTrimRefusal (f : CommandFacts) : List String :=
  let context := selfTrimGates f
  ["  --memory-clean --execute-self-trim refused [first blocked gate: " ++
      firstBlockingGateName context.gates ++ "] (no system call was made)"] ++
  (if context.auditWritable then [] else [auditUnavailableLine]) ++
  (if context.inputs.compileTime then []
   else ["  hint     : this capability is compiled out by default (build option OPTIMIZER_ENABLE_MEMORY_CLEAN)"]) ++
  (if context.inputs.config then []
   else ["  hint     : the config would not allow this step (missing: " ++
      describeCleanConfigGaps (memoryCleanConfigGate f.config) .workingSetTrim ++ ")"]) ++
  (if context.inputs.commandLine then [] else [acknowledgeHint])

/-- Characters outside ASCII become `?` in the audited detail. -/
def asciiOnly (s : String) : String := s.map fun c => if c.toNat ≤ 0x7F then c else '?'

def runMemoryCleanSelfTrim (f : CommandFacts) : CommandProg CommandEnd :=
  if (selfTrimGates f).gates.allowed = false then
    pure { exitCode := 2, errors := selfTrimRefusal f }
  else
    let plan := planMemoryClean .light (memoryCleanConfigGate f.config).maxLevel true
    if plan.allowed = false ∨ plan.steps = [] then
      pure { exitCode := 2
             errors := ["  --memory-clean --execute-self-trim refused: no executable step for this configuration (no system call was made)"] }
    else do
      journalAction "memory.clean_execute" (cleanTarget f) true .before
        "intent: trim own process working set (single call, no privilege)"
      let executed ← executeMemoryCleanPlan executeStep plan
      let deltaText ← Prog.perform CommandCall.readings
      let outcome := describeExecution
        (fun n => "self working set trim executed (" ++ toString n ++ " step(s), own process only)")
        executed
      auditAction "memory.clean_execute" .r1 (cleanTarget f) outcome.1 (asciiOnly outcome.2)
        deltaText
      if outcome.1 then do
        let _ ← Prog.perform (CommandCall.recordCooldownRun kMemoryCleanCapabilityId)
        pure { exitCode := 0 }
      else pure { exitCode := 2, errors := ["  detail   : " ++ outcome.2] }

/-! ## Power scheme -/

def powerConfigEnabled : Option ConfigSnapshot → Bool
  | some c => c.power.switchPowerScheme && allowsSystemLevelActions c.application.mode c.layers
  | none => false

/-- `GatherPowerSchemeGates` for a forward switch, where the cooldown applies. -/
def gatherPowerSchemeGates (f : CommandFacts) : GateInputs :=
  { compileTime := f.switches.powerSchemeSwitchCompiledIn
    config := powerConfigEnabled f.config
    commandLine := f.acknowledged
    permissionAndEnvironment := evaluateEnvironmentGate f.environment
    audit := f.auditWritable
    cooldown := cooldownGateOpen f.ledger kPowerSchemeCapabilityId f.nowUnixSeconds }

def runPowerSchemeApply (f : CommandFacts) (targetGuid : Text) : PowerProg Nat :=
  runPowerSchemeCommand (evaluateGates (gatherPowerSchemeGates f)).allowed (.apply targetGuid)

/-! ## Scheduler -/

def schedulerConfigAllows : Option ConfigSnapshot → Bool
  | some c => c.scheduler.enabled
  | none => false

/-- The gates of `--scheduler --execute`: the environment is not asked, and the configuration gate
is the section's own switch alone. -/
def schedulerGates (f : CommandFacts) : GateInputs :=
  { compileTime := f.switches.schedulerTunerCompiledIn
    config := schedulerConfigAllows f.config
    commandLine := f.acknowledged
    permissionAndEnvironment := true
    audit := f.auditWritable
    cooldown := cooldownGateOpen f.ledger kSchedulerTunerCapabilityId f.nowUnixSeconds }

/-- `THREAD_PRIORITY_ABOVE_NORMAL`. -/
def threadPriorityAboveNormal : Int := 1

def listThreads (processId : UInt32) : CommandProg (Result (List ThreadSnapshot)) :=
  Prog.perform (CommandCall.listThreads processId)

def setPriority (threadId : UInt32) (priority : Int) : CommandProg (Result Unit) :=
  Prog.perform (CommandCall.setPriority threadId priority)

/-- `--scheduler <pid> --execute`. -/
def runSchedulerCommand (f : CommandFacts) (pid : UInt32) : CommandProg CommandEnd :=
  if pid = 0 then pure { exitCode := 40, errors := ["  invalid --scheduler target: 0"] }
  else do
    match ← listThreads pid with
    | .error e =>
      pure { exitCode := 41, errors := ["  scheduler snapshot failed [" ++ e.operation ++ "]"] }
    | .ok _ =>
      if (evaluateGates (schedulerGates f)).allowed = false then
        pure { exitCode := 2
               errors := ["  --scheduler --execute refused [capability: scheduler.tuner, first blocked gate: " ++
                 firstBlockingGateName (evaluateGates (schedulerGates f)) ++ "] (no system call was made)"] }
      else do
        match ← boostProcessThreads listThreads setPriority pid threadPriorityAboveNormal with
        | .error e =>
          pure { exitCode := 41, errors := ["  scheduler boost failed [" ++ e.operation ++ "]"] }
        | .ok report => do
          journalAction "scheduler.boost_priority" (toString pid.toNat) true .after
            "raise below-AboveNormal threads to AboveNormal"
          auditAction "scheduler.boost_priority" .r1 (toString pid.toNat) true
            ("adjusted " ++ toString report.adjusted.length ++ " thread(s)")
            ("target=" ++ toString threadPriorityAboveNormal)
          match ← Prog.perform (CommandCall.recordCooldownRun kSchedulerTunerCapabilityId) with
          | .error _ =>
            pure { exitCode := 0
                   errors := ["  cooldown : not recorded (action already applied)"] }
          | .ok () => pure { exitCode := 0 }

/-! ## The table of gates -/

/-- One row of `RunGatesCommand`, before the gates are evaluated. -/
structure CapabilityRow where
  name : String
  configured : Bool
  compiledIn : Bool
  capabilityId : String
  requiresIsolatedEnvironment : Bool
  deriving DecidableEq, Repr

def CommandFacts.r1Overlay (f : CommandFacts) : Bool :=
  f.config.any fun c => allowsLocalReversibleActions c.application.mode c.layers

def CommandFacts.r3Overlay (f : CommandFacts) : Bool :=
  f.config.any fun c => allowsSystemLevelActions c.application.mode c.layers

def powerSchemeRow (f : CommandFacts) : CapabilityRow :=
  { name := "power.switch_power_scheme"
    configured := f.r3Overlay && f.config.any (·.power.switchPowerScheme)
    compiledIn := f.switches.powerSchemeSwitchCompiledIn
    capabilityId := kPowerSchemeCapabilityId
    requiresIsolatedEnvironment := false }

def standbyPurgeRow (f : CommandFacts) : CapabilityRow :=
  { name := "memory.purge_standby"
    configured := f.r3Overlay && f.config.any fun c =>
      c.memory.scheduledCleanEnabled && c.memory.maxCleanLevel.toNat ≥ CleanLevel.medium.toNat &&
        c.memory.allowNativeWrite
    compiledIn := f.switches.standbyPurgeCompiledIn
    capabilityId := kStandbyPurgeCapabilityId
    requiresIsolatedEnvironment := true }

def fileCacheTrimRow (f : CommandFacts) : CapabilityRow :=
  { name := "memory.file_cache_trim"
    configured := f.r3Overlay && f.config.any fun c =>
      c.memory.scheduledCleanEnabled && c.memory.maxCleanLevel == .deep &&
        c.memory.allowNativeWrite
    compiledIn := f.switches.fileCacheTrimCompiledIn
    capabilityId := kFileCacheTrimCapabilityId
    requiresIsolatedEnvironment := true }

def memoryCleanRow (f : CommandFacts) : CapabilityRow :=
  { name := "memory.scheduled_clean_enabled"
    configured := f.r1Overlay && f.config.any fun c =>
      c.memory.scheduledCleanEnabled && c.memory.maxCleanLevel.toNat ≥ CleanLevel.light.toNat
    compiledIn := f.switches.memoryCleanCompiledIn
    capabilityId := kMemoryCleanCapabilityId
    requiresIsolatedEnvironment := false }

def nativeWriteRow (f : CommandFacts) : CapabilityRow :=
  { name := "memory.allow_native_write"
    configured := f.config.any (·.memory.allowNativeWrite)
    compiledIn := f.switches.memoryCleanCompiledIn
    capabilityId := kMemoryCleanCapabilityId
    requiresIsolatedEnvironment := false }

def maxCleanLevelRow (f : CommandFacts) : CapabilityRow :=
  { name := "memory.max_clean_level"
    configured := f.r1Overlay && f.config.any (·.memory.maxCleanLevel != .none)
    compiledIn := f.switches.memoryCleanCompiledIn
    capabilityId := kMemoryCleanCapabilityId
    requiresIsolatedEnvironment := false }

def schedulerRow (f : CommandFacts) : CapabilityRow :=
  { name := "scheduler.tuner"
    configured := f.r1Overlay && f.config.any (·.scheduler.enabled)
    compiledIn := f.switches.schedulerTunerCompiledIn
    capabilityId := kSchedulerTunerCapabilityId
    requiresIsolatedEnvironment := false }

def capabilities (f : CommandFacts) : List CapabilityRow :=
  [powerSchemeRow f, standbyPurgeRow f, fileCacheTrimRow f, memoryCleanRow f, nativeWriteRow f,
    maxCleanLevelRow f, schedulerRow f]

def rowInputs (f : CommandFacts) (row : CapabilityRow) : GateInputs :=
  { compileTime := row.compiledIn
    config := row.configured
    commandLine := f.acknowledged && (!row.requiresIsolatedEnvironment || f.isolatedAcknowledged)
    permissionAndEnvironment := evaluateEnvironmentGate f.environment
    audit := f.auditWritable
    cooldown := cooldownGateOpen f.ledger row.capabilityId f.nowUnixSeconds }

/-- The rows `--gates` prints, each under its name. -/
def gatesReport (f : CommandFacts) : List (String × GateEvaluation) :=
  (capabilities f).map fun row => (row.name, evaluateGates (rowInputs f row))

end Command
end CppOptimizer
