import Mathlib.Logic.Basic
import CppOptimizer.Config.Version

/-!
# CppOptimizer.Config.Snapshot

The immutable configuration snapshot of `config_manager.hpp`, with its defaults, and the two
overlay predicates of mode and layers.

* `allowsLocalReversibleActions` — R1: any mode but observe, with the maintenance or emergency layer.
* `allowsSystemLevelActions`     — R2/R3: experimental mode with the emergency layer.

The section gpu_heartbeat, which holds a floating-point number, is left out.
-/

namespace CppOptimizer
namespace Config

inductive RunMode where
  | observe | balanced | experimental
  deriving DecidableEq, Repr

/-- The order of the constructors is the order of the levels. -/
inductive CleanLevel where
  | none | light | medium | deep
  deriving DecidableEq, Repr

/-- `static_cast<int>(level)`. -/
def CleanLevel.toNat : CleanLevel → Nat
  | .none => 0
  | .light => 1
  | .medium => 2
  | .deep => 3

inductive PriorityLevel where
  | none | aboveNormal | high
  deriving DecidableEq, Repr

/-- `static_cast<int>(level)`. -/
def PriorityLevel.toNat : PriorityLevel → Nat
  | .none => 0
  | .aboveNormal => 1
  | .high => 2

structure LayerConfig where
  monitoring : Bool := true
  maintenance : Bool := false
  emergency : Bool := false
  deriving DecidableEq, Repr

structure PowerConfig where
  executionRequired : Bool := true
  displayRequired : Bool := false
  switchPowerScheme : Bool := false
  deriving DecidableEq, Repr

structure PriorityConfig where
  enabled : Bool := false
  maxLevel : PriorityLevel := .aboveNormal
  deriving DecidableEq, Repr

structure ToggleConfig where
  enabled : Bool := false
  deriving DecidableEq, Repr

structure PolicyConfig where
  comfortableMarginPercent : Int := 30
  adequateMarginPercent : Int := 15
  tightMarginPercent : Int := 5
  cooldownMs : Int := 5000
  userAwayIdleSeconds : Int := 0
  haltAfterActionFailures : Int := 0
  deriving DecidableEq, Repr

structure SafeModeConfig where
  enabled : Bool := true
  failuresToEnter : Int := 3
  countingWindowMs : Int := 5000
  cooldownMs : Int := 2000
  deriving DecidableEq, Repr

structure IpcConfig where
  safeMode : SafeModeConfig := {}
  deriving DecidableEq, Repr

structure ApplicationConfig where
  mode : RunMode := .observe
  safeModeOnRecoveryError : Bool := true
  deriving DecidableEq, Repr

structure MemoryConfig where
  queryEnabled : Bool := true
  scheduledCleanEnabled : Bool := false
  allowNativeWrite : Bool := false
  maxCleanLevel : CleanLevel := .light
  deriving DecidableEq, Repr

/-- One `[[games]]` entry. -/
structure GameConfig where
  id : String
  displayName : String := ""
  processNames : List String := []
  windowTitleContains : String := ""
  pauseWhenBackground : Bool := true
  deriving DecidableEq, Repr

structure LoggingConfig where
  level : String := "info"
  directory : String := ""
  maxFileMb : UInt32 := 10
  maxFiles : UInt32 := 5
  console : Bool := true
  deriving DecidableEq, Repr

structure AgentConfig where
  form : String := "startup_tray"
  deriving DecidableEq, Repr

structure ConfigSnapshot where
  version : ConfigVersion := {}
  unknownKeys : List String := []
  application : ApplicationConfig := {}
  logging : LoggingConfig := {}
  layers : LayerConfig := {}
  power : PowerConfig := {}
  priority : PriorityConfig := {}
  memory : MemoryConfig := {}
  scheduler : ToggleConfig := {}
  diskCache : ToggleConfig := {}
  policy : PolicyConfig := {}
  ipc : IpcConfig := {}
  games : List GameConfig := []
  agent : AgentConfig := {}
  deriving DecidableEq, Repr

def allowsLocalReversibleActions (mode : RunMode) (layers : LayerConfig) : Bool :=
  let modeAllows := mode != .observe
  let layerAllows := layers.maintenance || layers.emergency
  modeAllows && layerAllows

def allowsSystemLevelActions (mode : RunMode) (layers : LayerConfig) : Bool :=
  mode == .experimental && layers.emergency

/-- Every R2/R3 permission is also an R1 permission. -/
theorem allowsLocalReversibleActions_of_system {mode : RunMode} {layers : LayerConfig}
    (h : allowsSystemLevelActions mode layers = true) :
    allowsLocalReversibleActions mode layers = true := by
  simp only [allowsSystemLevelActions, Bool.and_eq_true, beq_iff_eq] at h
  obtain ⟨rfl, hemergency⟩ := h
  simp [allowsLocalReversibleActions, hemergency]

end Config
end CppOptimizer
