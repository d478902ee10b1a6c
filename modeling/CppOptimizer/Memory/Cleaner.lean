import CppOptimizer.Config.Snapshot
import CppOptimizer.Lib.Prog
import CppOptimizer.Policy.SafetyGates

/-!
# CppOptimizer.Memory.Cleaner

The clean plan of `memory_cleaner.cpp` and its execution over an injected backend: light, medium and
deep levels add one step each, from light to heavy, and a failed step stops the plan.
-/

namespace CppOptimizer
namespace Memory

open Common Config Lib Policy

inductive CleanKind where
  | workingSetTrim | standbyListPurge | systemFileCacheTrim
  deriving DecidableEq, Repr

def cleanKindToString : CleanKind → String
  | .workingSetTrim => "working_set_trim"
  | .standbyListPurge => "standby_list_purge"
  | .systemFileCacheTrim => "system_file_cache_trim"

def cleanKindCapabilityId : CleanKind → String
  | .workingSetTrim => "memory.clean"
  | .standbyListPurge => "memory.purge_standby"
  | .systemFileCacheTrim => "memory.file_cache_trim"

/-- Whether the build has a real backend for the step: `memory_cleaner.cpp` tests `defined(...)`, so
a macro defined as `0` counts. -/
def cleanStepImplemented (switches : CompileSwitches) : CleanKind → Bool
  | .workingSetTrim => true
  | .standbyListPurge => switches.standbyPurge.isSome
  | .systemFileCacheTrim => switches.fileCacheTrim.isSome

structure MemoryCleanPlan where
  allowed : Bool := false
  levelWithinLimit : Bool := false
  gatesAllowed : Bool := false
  steps : List CleanKind := []
  deriving DecidableEq, Repr

def planMemoryClean (requested configuredMax : CleanLevel) (gatesAllowed : Bool) :
    MemoryCleanPlan :=
  if requested = .none then { gatesAllowed := gatesAllowed, levelWithinLimit := true }
  else if ¬ requested.toNat ≤ configuredMax.toNat then { gatesAllowed := gatesAllowed }
  else
    { gatesAllowed := gatesAllowed
      levelWithinLimit := true
      steps :=
        (if requested.toNat ≥ CleanLevel.light.toNat then [.workingSetTrim] else []) ++
        (if requested.toNat ≥ CleanLevel.medium.toNat then [.standbyListPurge] else []) ++
        (if requested.toNat ≥ CleanLevel.deep.toNat then [.systemFileCacheTrim] else [])
      allowed := gatesAllowed }

structure CleanExecutionReport where
  executed : Nat := 0
  succeeded : Nat := 0
  ok : Bool := false
  hasFailedStep : Bool := false
  failedStep : CleanKind := .workingSetTrim
  failureDetail : String := ""
  deriving DecidableEq, Repr

section Execute

variable {E : Type} {R : E → Type} (execute : CleanKind → Prog E R (Result Unit))

/-- The loop over the steps. -/
def executeSteps : List CleanKind → CleanExecutionReport → Prog E R CleanExecutionReport
  | [], report => pure { report with ok := true }
  | step :: steps, report => do
    match ← execute step with
    | .error e =>
      pure { report with
        executed := report.executed + 1
        hasFailedStep := true
        failedStep := step
        failureDetail := e.message }
    | .ok () =>
      executeSteps steps
        { report with executed := report.executed + 1, succeeded := report.succeeded + 1 }

def executeMemoryCleanPlan (plan : MemoryCleanPlan) : Prog E R (Result CleanExecutionReport) :=
  if plan.allowed = false then
    pure (.error (.unsupportedOp "ExecuteMemoryCleanPlan" "计划未获门禁许可：不执行任何步骤"))
  else if plan.steps = [] then
    pure (.error (.validation "ExecuteMemoryCleanPlan" "计划没有可执行步骤"))
  else do
    let report ← executeSteps execute plan.steps {}
    pure (.ok report)

end Execute

structure CleanPlanReadiness where
  allImplemented : Bool := true
  hasStep : Bool := false
  firstUnimplemented : Option CleanKind := none
  deriving DecidableEq, Repr

def evaluateCleanPlanReadiness (switches : CompileSwitches) (plan : MemoryCleanPlan) :
    CleanPlanReadiness :=
  { hasStep := !plan.steps.isEmpty
    allImplemented := plan.steps.all (cleanStepImplemented switches)
    firstUnimplemented := plan.steps.find? fun step => !cleanStepImplemented switches step }

/-- A plan calls the backend for its own steps only. -/
theorem executeMemoryCleanPlan_mayCall {E : Type} {R : E → Type}
    {execute : CleanKind → Prog E R (Result Unit)} {φ : E → Prop} {plan : MemoryCleanPlan}
    (h : (executeMemoryCleanPlan execute plan).MayCall φ) :
    plan.allowed = true ∧ ∃ step ∈ plan.steps, (execute step).MayCall φ := by
  have hsteps : ∀ steps report, (executeSteps execute steps report).MayCall φ →
      ∃ step ∈ steps, (execute step).MayCall φ := by
    intro steps
    induction steps with
    | nil => intro report h; exact h.elim
    | cons step steps ih =>
      intro report h
      rcases Prog.mayCall_bind h with h | ⟨answer, h⟩
      · exact ⟨step, List.mem_cons_self, h⟩
      · cases answer with
        | error e => exact h.elim
        | ok u =>
          obtain ⟨later, hmem, hcall⟩ := ih _ h
          exact ⟨later, List.mem_cons_of_mem _ hmem, hcall⟩
  unfold executeMemoryCleanPlan at h
  split at h
  · exact h.elim
  · rename_i hallowed
    split at h
    · exact h.elim
    · rcases Prog.mayCall_bind h with h | ⟨_, h⟩
      · exact ⟨by simpa using hallowed, hsteps _ _ h⟩
      · exact h.elim

end Memory
end CppOptimizer
