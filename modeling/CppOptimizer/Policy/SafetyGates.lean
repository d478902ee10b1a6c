import Mathlib.Data.String.Basic
import CppOptimizer.Common.Error
import CppOptimizer.Lib.SortedMap

/-!
# CppOptimizer.Policy.SafetyGates

The six gates of `safety_gates.cpp` in front of every dangerous capability: compile switch,
configuration, command line, permission and environment, audit, cooldown.
-/

namespace CppOptimizer
namespace Policy

open Common Lib

inductive GateId where
  | compileTime | config | commandLine | permissionAndEnvironment | audit | cooldown
  deriving DecidableEq, Repr

def gateIdToString : GateId → String
  | .compileTime => "compile"
  | .config => "config"
  | .commandLine => "cmdline"
  | .permissionAndEnvironment => "perm_env"
  | .audit => "audit"
  | .cooldown => "cooldown"

/-- `true` means that the gate is open. -/
structure GateInputs where
  compileTime : Bool := false
  config : Bool := false
  commandLine : Bool := false
  permissionAndEnvironment : Bool := false
  audit : Bool := false
  cooldown : Bool := false
  deriving DecidableEq, Repr

structure GateEvaluation where
  gates : GateInputs := {}
  allowed : Bool := false
  firstBlocking : Option GateId := none
  deriving DecidableEq, Repr

/-- The gates in the fixed order in which the first closed one is reported. -/
def GateInputs.ordered (inputs : GateInputs) : List (GateId × Bool) :=
  [(.compileTime, inputs.compileTime), (.config, inputs.config),
    (.commandLine, inputs.commandLine),
    (.permissionAndEnvironment, inputs.permissionAndEnvironment), (.audit, inputs.audit),
    (.cooldown, inputs.cooldown)]

def evaluateGates (inputs : GateInputs) : GateEvaluation :=
  inputs.ordered.foldl
    (fun evaluation gate =>
      if gate.2 then evaluation
      else
        { evaluation with
          allowed := false
          firstBlocking := evaluation.firstBlocking <|> some gate.1 })
    { gates := inputs, allowed := true }

/-- All six gates are open. -/
theorem evaluateGates_allowed (inputs : GateInputs) :
    (evaluateGates inputs).allowed = true ↔
      inputs.compileTime = true ∧ inputs.config = true ∧ inputs.commandLine = true ∧
        inputs.permissionAndEnvironment = true ∧ inputs.audit = true ∧ inputs.cooldown = true := by
  obtain ⟨compileTime, config, commandLine, permission, audit, cooldown⟩ := inputs
  cases compileTime <;> cases config <;> cases commandLine <;> cases permission <;> cases audit <;>
    cases cooldown <;> decide

/-- A refusal always names the gate it comes from. -/
theorem evaluateGates_firstBlocking (inputs : GateInputs) :
    (evaluateGates inputs).firstBlocking = none ↔ (evaluateGates inputs).allowed = true := by
  obtain ⟨compileTime, config, commandLine, permission, audit, cooldown⟩ := inputs
  cases compileTime <;> cases config <;> cases commandLine <;> cases permission <;> cases audit <;>
    cases cooldown <;> decide

def firstBlockingGateName (gates : GateEvaluation) : String :=
  match gates.firstBlocking with
  | some gate => gateIdToString gate
  | none => "unknown"

/-! ## Compile switches -/

/-- The macros `OPTIMIZER_ENABLE_*` as the build defines them; an undefined one is `0` wherever the
header gives it its default. -/
structure CompileSwitches where
  memoryClean : Option Nat := none
  powerSchemeSwitch : Option Nat := none
  standbyPurge : Option Nat := none
  schedulerTuner : Option Nat := none
  fileCacheTrim : Option Nat := none
  deriving DecidableEq, Repr

namespace CompileSwitches

def compiledIn (macroValue : Option Nat) : Bool := macroValue.getD 0 != 0

def memoryCleanCompiledIn (s : CompileSwitches) : Bool := compiledIn s.memoryClean
def powerSchemeSwitchCompiledIn (s : CompileSwitches) : Bool := compiledIn s.powerSchemeSwitch
def standbyPurgeCompiledIn (s : CompileSwitches) : Bool := compiledIn s.standbyPurge
def schedulerTunerCompiledIn (s : CompileSwitches) : Bool := compiledIn s.schedulerTuner
def fileCacheTrimCompiledIn (s : CompileSwitches) : Bool := compiledIn s.fileCacheTrim

end CompileSwitches

/-! ## Cooldown -/

def kMemoryCleanCapabilityId : String := "memory.clean"
def kPowerSchemeCapabilityId : String := "power.switch_power_scheme"
def kStandbyPurgeCapabilityId : String := "memory.purge_standby"
def kSchedulerTunerCapabilityId : String := "scheduler.tuner"
def kFileCacheTrimCapabilityId : String := "memory.file_cache_trim"

/-- Fifteen minutes, in seconds. -/
def kDefaultCooldown : Int := 900

/-- Capability to the Unix second of its last run. -/
structure CooldownLedger where
  lastRunUnixSeconds : SortedMap String Int := .empty

def evaluateCooldownGate (ledger : CooldownLedger) (capabilityId : String) (nowUnixSeconds : Int)
    (cooldown : Int) : Bool :=
  match ledger.lastRunUnixSeconds.find? capabilityId with
  | none => true
  | some last =>
    if last ≤ 0 then true
    else
      let elapsed := nowUnixSeconds - last
      -- a clock set back counts as inside the window
      if elapsed < 0 then false else elapsed ≥ cooldown

/-- How every caller asks: a ledger that cannot be read closes the gate. -/
def cooldownGateOpen (ledger : Result CooldownLedger) (capabilityId : String)
    (nowUnixSeconds : Int) : Bool :=
  match ledger with
  | .ok ledger => evaluateCooldownGate ledger capabilityId nowUnixSeconds kDefaultCooldown
  | .error _ => false

/-! ## Permission and environment -/

structure EnvironmentFacts where
  factsKnown : Bool := false
  osSupported : Bool := false
  onBattery : Bool := false
  remoteSession : Bool := false
  sessionLocked : Bool := false
  interactiveSession : Bool := false
  deriving DecidableEq, Repr

def evaluateEnvironmentGate (facts : EnvironmentFacts) : Bool :=
  facts.factsKnown && facts.osSupported && !facts.onBattery && !facts.remoteSession &&
    !facts.sessionLocked && facts.interactiveSession

end Policy
end CppOptimizer
