import CppOptimizer.Policy.Engine
import CppOptimizer.Power.Locker
import CppOptimizer.Priority.Booster

/-!
# CppOptimizer.Policy.Executor

`policy_executor.cpp`: a decision and the identity of the running game are reconciled with what is
held, through the booster and the power locker.

Next to the source's fields the executor carries two lists that no operation reads: the events
delivered to `actionObserver`, and the calls made on the booster and the locker, each acquire of a
boost with the decision and the target it was made for.
-/

namespace CppOptimizer
namespace Policy

open Common Config Power Priority

structure ExecutorActionEvent where
  operationId : String
  target : String
  detail : String
  ok : Bool
  deriving DecidableEq, Repr

/-- `observed` says whether `actionObserver` is set; what it does with an event, and whether it
throws, is invisible to the executor. -/
structure ExecutorConfig where
  priorityEnabled : Bool := false
  priorityMaxLevel : PriorityLevel := .aboveNormal
  powerExecutionRequired : Bool := false
  powerDisplayRequired : Bool := false
  powerReason : String := "CppOptimizer policy: game running (R1)"
  consecutiveActionFailuresToHalt : Nat := 0
  observed : Bool := false
  deriving DecidableEq, Repr

structure ExecutorTarget where
  gameId : String := ""
  pid : UInt32 := 0
  creationTime100ns : UInt64 := 0
  running : Bool := false
  deriving DecidableEq, Repr

structure ExecutorEffect where
  priorityBoosted : Bool := false
  priorityReleased : Bool := false
  powerHeld : Bool := false
  powerReleased : Bool := false
  displayHeld : Bool := false
  displayReleased : Bool := false
  skipped : String := ""
  deriving DecidableEq, Repr

def ExecutorEffect.noteHeld (effect : ExecutorEffect) : PowerLockType → ExecutorEffect
  | .executionRequired => { effect with powerHeld := true }
  | .displayRequired => { effect with displayHeld := true }

def ExecutorEffect.noteReleased (effect : ExecutorEffect) : PowerLockType → ExecutorEffect
  | .executionRequired => { effect with powerReleased := true }
  | .displayRequired => { effect with displayReleased := true }

/-- A call on the booster or the locker, with its success. -/
inductive ExecutorCall where
  | acquireBoost (decision : PolicyDecision) (target : ExecutorTarget) (ok : Bool)
  | releaseBoost (gameId : String) (pid : UInt32) (ok : Bool)
  | acquireLock (type : PowerLockType) (ok : Bool)
  | releaseLock (type : PowerLockType) (ok : Bool)
  deriving DecidableEq, Repr

/-- The executor with the booster and locker it owns. `boosterMaxLevel` is the booster's own option
`maxLevel`. -/
structure Executor (σ τ : Type) where
  booster : Booster σ
  locker : Locker τ
  boosterMaxLevel : PriorityLevel
  config : ExecutorConfig
  powerHeld : Bool := false
  displayHeld : Bool := false
  priorityGameId : String := ""
  priorityPid : UInt32 := 0
  consecutiveActionFailures : Nat := 0
  halted : Bool := false
  events : List ExecutorActionEvent := []
  calls : List ExecutorCall := []

namespace Executor

variable {σ τ : Type} (PB : PriorityBackend σ) (LB : PowerRequestBackend τ)

def emitAction (x : Executor σ τ) (operationId target detail : String) (ok : Bool) :
    Executor σ τ :=
  if x.config.observed then
    { x with
      events := x.events ++
        [{ operationId := operationId, target := target, detail := detail, ok := ok }] }
  else x

/-- The description of a boosted process in an event. -/
def boostTarget (gameId : String) (pid : UInt32) : String :=
  gameId ++ " pid " ++ toString pid.toNat

/-- `ReleaseBoost` on what is held, with its event: the same three lines at each place that
releases. -/
def callReleaseBoost (x : Executor σ τ) (detail : String) : Result Unit × Executor σ τ :=
  let released := x.booster.releaseBoost PB x.priorityGameId x.priorityPid
  (released.1,
    { x with
      booster := released.2
      calls := x.calls ++
        [ExecutorCall.releaseBoost x.priorityGameId x.priorityPid released.1.ok?] }.emitAction
      "priority.unboost" (boostTarget x.priorityGameId x.priorityPid) detail released.1.ok?)

def callAcquireBoost (x : Executor σ τ) (decision : PolicyDecision) (target : ExecutorTarget) :
    Result Unit × Executor σ τ :=
  let acquired := x.booster.acquireBoost PB x.boosterMaxLevel target.gameId target.pid
    target.creationTime100ns x.config.priorityMaxLevel
  (acquired.1,
    { x with
      booster := acquired.2
      calls := x.calls ++ [ExecutorCall.acquireBoost decision target acquired.1.ok?] }.emitAction
      "priority.boost" (boostTarget target.gameId target.pid)
      ("level=" ++ toString x.config.priorityMaxLevel.toNat) acquired.1.ok?)

def callAcquireLock (x : Executor σ τ) (type : PowerLockType) (detail : String) :
    Result Unit × Executor σ τ :=
  let locked := x.locker.acquireLock LB type x.config.powerReason
  (locked.1,
    { x with
      locker := locked.2
      calls := x.calls ++ [ExecutorCall.acquireLock type locked.1.ok?] }.emitAction
      "power.hold" "policy (game running)" detail locked.1.ok?)

def callReleaseLock (x : Executor σ τ) (type : PowerLockType) (detail : String) :
    Result Unit × Executor σ τ :=
  let released := x.locker.releaseLock LB type
  (released.1,
    { x with
      locker := released.2
      calls := x.calls ++ [ExecutorCall.releaseLock type released.1.ok?] }.emitAction
      "power.release" "policy" detail released.1.ok?)

/-- The expected state of the boost: recommended, running, enabled. -/
def desired (x : Executor σ τ) (decision : PolicyDecision) (target : ExecutorTarget) : Bool :=
  x.config.priorityEnabled && target.running && decision.action == .suggestPriorityBoost

/-- The acquire at the end of the desired branch. -/
def acquireTarget (x : Executor σ τ) (decision : PolicyDecision) (target : ExecutorTarget)
    (effect : ExecutorEffect) : Result Unit × ExecutorEffect × Executor σ τ :=
  match x.callAcquireBoost PB decision target with
  | (.error e, x) => (.error e, effect, x)
  | (.ok (), x) =>
    (.ok (), { effect with priorityBoosted := true },
      { x with priorityGameId := target.gameId, priorityPid := target.pid })

def reconcilePriority (x : Executor σ τ) (decision : PolicyDecision) (target : ExecutorTarget)
    (effect : ExecutorEffect) : Result Unit × ExecutorEffect × Executor σ τ :=
  if x.desired decision target = true then
    if target.pid = 0 then
      (.ok (), { effect with skipped := "priority boost skipped: no valid process identity" }, x)
    else if x.priorityGameId = target.gameId ∧ x.priorityPid = target.pid then
      (.ok (), effect, x)
    else if x.priorityGameId ≠ "" then
      match x.callReleaseBoost PB "target change pre-release" with
      | (.error e, x) => (.error e, effect, x)
      | (.ok (), x) =>
        acquireTarget PB { x with priorityGameId := "" } decision target
          { effect with priorityReleased := true }
    else acquireTarget PB x decision target effect
  else if x.priorityGameId ≠ "" then
    match x.callReleaseBoost PB "game exit or no longer desired" with
    | (.error e, x) => (.error e, effect, x)
    | (.ok (), x) =>
      (.ok (), { effect with priorityReleased := true }, { x with priorityGameId := "" })
  else (.ok (), effect, x)

/-- The held flag of a request type: `powerHeld_` or `displayHeld_`. -/
def held (x : Executor σ τ) : PowerLockType → Bool
  | .executionRequired => x.powerHeld
  | .displayRequired => x.displayHeld

def setHeld (x : Executor σ τ) (type : PowerLockType) (b : Bool) : Executor σ τ :=
  match type with
  | .executionRequired => { x with powerHeld := b }
  | .displayRequired => { x with displayHeld := b }

def reconcilePowerLock (x : Executor σ τ) (type : PowerLockType) (desired : Bool)
    (detail : String) (effect : ExecutorEffect) : Result Unit × ExecutorEffect × Executor σ τ :=
  if desired = true ∧ x.held type = false then
    match x.callAcquireLock LB type detail with
    | (.error e, x) => (.error e, effect, x)
    | (.ok (), x) => (.ok (), effect.noteHeld type, x.setHeld type true)
  else if desired = false ∧ x.held type = true then
    match x.callReleaseLock LB type (detail ++ " (game exit or no longer desired)") with
    | (.error e, x) => (.error e, effect, x)
    | (.ok (), x) => (.ok (), effect.noteReleased type, x.setHeld type false)
  else (.ok (), effect, x)

def reconcilePower (x : Executor σ τ) (target : ExecutorTarget) (effect : ExecutorEffect) :
    Result Unit × ExecutorEffect × Executor σ τ :=
  match x.reconcilePowerLock LB .executionRequired
      (x.config.powerExecutionRequired && target.running) "execution power request" effect with
  | (.error e, effect, x) => (.error e, effect, x)
  | (.ok (), effect, x) =>
    x.reconcilePowerLock LB .displayRequired
      (x.config.powerDisplayRequired && target.running) "display power request" effect

/-- A failed reconciliation counts towards the halt. -/
def countFailure (x : Executor σ τ) : Executor σ τ :=
  if x.config.consecutiveActionFailuresToHalt > 0 then
    { x with
      consecutiveActionFailures := x.consecutiveActionFailures + 1
      halted := x.halted ||
        x.consecutiveActionFailures + 1 ≥ x.config.consecutiveActionFailuresToHalt }
  else x

def haltedNote (n : Nat) : String :=
  "execution halted: " ++ toString n ++
    " consecutive R1 action failures (Safe Mode-like; advisory only)"

/-- What `ApplyDecision` does with the outcome of the priority step: a failure is counted, else the
power step follows. -/
def applyPower (target : ExecutorTarget) :
    Result Unit × ExecutorEffect × Executor σ τ → Result ExecutorEffect × Executor σ τ
  | (.error e, _, x) => (.error e, x.countFailure)
  | (.ok (), effect, x) =>
    match x.reconcilePower LB target effect with
    | (.error e, _, x) => (.error e, x.countFailure)
    | (.ok (), effect, x) => (.ok effect, { x with consecutiveActionFailures := 0 })

def applyDecision (x : Executor σ τ) (decision : PolicyDecision) (target : ExecutorTarget) :
    Result ExecutorEffect × Executor σ τ :=
  if x.halted = true then
    (.ok { skipped := haltedNote x.config.consecutiveActionFailuresToHalt }, x)
  else applyPower LB target (x.reconcilePriority PB decision target {})

/-- `ReleaseAll`: best effort, the records are dropped whatever the backends answer. -/
def releaseAll (x : Executor σ τ) : Executor σ τ :=
  let x := if x.priorityGameId ≠ "" then
      { (x.callReleaseBoost PB "release-all on exit").2 with priorityGameId := "" }
    else x
  let x := if x.powerHeld = true then
      { (x.callReleaseLock LB .executionRequired "release-all on exit").2 with powerHeld := false }
    else x
  if x.displayHeld = true then
    { (x.callReleaseLock LB .displayRequired "release-all on exit (display)").2 with
      displayHeld := false }
  else x

def resetHalt (x : Executor σ τ) : Executor σ τ :=
  { x with halted := false, consecutiveActionFailures := 0 }

/-! ## The boosts an operation asks for -/

/-- The acquires among the calls, oldest first. -/
def boosts (x : Executor σ τ) : List (PolicyDecision × ExecutorTarget) :=
  x.calls.filterMap fun
    | .acquireBoost decision target _ => some (decision, target)
    | _ => none

@[simp] theorem emitAction_calls (x : Executor σ τ) (operationId target detail : String)
    (ok : Bool) : (x.emitAction operationId target detail ok).calls = x.calls := by
  unfold emitAction
  split <;> rfl

@[simp] theorem callReleaseBoost_boosts (x : Executor σ τ) (detail : String) :
    (x.callReleaseBoost PB detail).2.boosts = x.boosts := by
  simp [callReleaseBoost, boosts]

@[simp] theorem callAcquireBoost_boosts (x : Executor σ τ) (decision : PolicyDecision)
    (target : ExecutorTarget) :
    (x.callAcquireBoost PB decision target).2.boosts = x.boosts ++ [(decision, target)] := by
  simp [callAcquireBoost, boosts]

@[simp] theorem callAcquireLock_boosts (x : Executor σ τ) (type : PowerLockType)
    (detail : String) : (x.callAcquireLock LB type detail).2.boosts = x.boosts := by
  simp [callAcquireLock, boosts]

@[simp] theorem callReleaseLock_boosts (x : Executor σ τ) (type : PowerLockType)
    (detail : String) : (x.callReleaseLock LB type detail).2.boosts = x.boosts := by
  simp [callReleaseLock, boosts]

theorem acquireTarget_boosts (x : Executor σ τ) (decision : PolicyDecision)
    (target : ExecutorTarget) (effect : ExecutorEffect) :
    (x.acquireTarget PB decision target effect).2.2.boosts = x.boosts ++ [(decision, target)] := by
  have h := callAcquireBoost_boosts PB x decision target
  unfold acquireTarget
  split
  · rename_i heq
    rw [heq] at h
    exact h
  · rename_i heq
    rw [heq] at h
    exact h

/-- The executor comes to the acquire with this target only when it wants the boost, knows the
process and does not hold it yet. -/
def Wants (x : Executor σ τ) (decision : PolicyDecision) (target : ExecutorTarget) : Prop :=
  x.desired decision target = true ∧ target.pid ≠ 0 ∧
    ¬ (x.priorityGameId = target.gameId ∧ x.priorityPid = target.pid)

theorem reconcilePriority_boosts (x : Executor σ τ) (decision : PolicyDecision)
    (target : ExecutorTarget) (effect : ExecutorEffect) :
    (x.reconcilePriority PB decision target effect).2.2.boosts = x.boosts ∨
      (x.Wants decision target ∧
        (x.reconcilePriority PB decision target effect).2.2.boosts =
          x.boosts ++ [(decision, target)]) := by
  have hrelease := fun detail => callReleaseBoost_boosts PB x detail
  unfold reconcilePriority
  by_cases hdesired : x.desired decision target = true
  · simp only [hdesired, if_true]
    by_cases hpid : target.pid = 0
    · simp [hpid]
    · by_cases hheld : x.priorityGameId = target.gameId ∧ x.priorityPid = target.pid
      · simp [hpid, hheld]
      · simp only [hpid, hheld, if_false]
        by_cases hother : x.priorityGameId ≠ ""
        · simp only [hother, if_true, ne_eq, not_false_eq_true]
          split
          · rename_i heq
            left
            simpa [heq] using hrelease "target change pre-release"
          · rename_i y heq
            have hy : y.boosts = x.boosts := by
              simpa [heq] using hrelease "target change pre-release"
            right
            refine ⟨⟨hdesired, hpid, hheld⟩, ?_⟩
            rw [acquireTarget_boosts, ← hy]
            rfl
        · simp only [hother, if_false]
          right
          exact ⟨⟨hdesired, hpid, hheld⟩, acquireTarget_boosts PB x decision target effect⟩
  · left
    simp only [hdesired, if_false, Bool.false_eq_true]
    split
    · split
      · rename_i heq
        simpa [heq] using hrelease "game exit or no longer desired"
      · rename_i heq
        simpa [heq, boosts] using hrelease "game exit or no longer desired"
    · rfl

@[simp] theorem setHeld_boosts (x : Executor σ τ) (type : PowerLockType) (b : Bool) :
    (x.setHeld type b).boosts = x.boosts := by
  cases type <;> rfl

theorem reconcilePowerLock_boosts (x : Executor σ τ) (type : PowerLockType) (desired : Bool)
    (detail : String) (effect : ExecutorEffect) :
    (x.reconcilePowerLock LB type desired detail effect).2.2.boosts = x.boosts := by
  unfold reconcilePowerLock
  split
  · have h := callAcquireLock_boosts LB x type detail
    split
    · rename_i heq
      simpa [heq] using h
    · rename_i heq
      simpa [heq] using h
  · split
    · have h := callReleaseLock_boosts LB x type (detail ++ " (game exit or no longer desired)")
      split
      · rename_i heq
        simpa [heq] using h
      · rename_i heq
        simpa [heq] using h
    · rfl

theorem reconcilePower_boosts (x : Executor σ τ) (target : ExecutorTarget)
    (effect : ExecutorEffect) :
    (x.reconcilePower LB target effect).2.2.boosts = x.boosts := by
  have hexec := x.reconcilePowerLock_boosts LB .executionRequired
    (x.config.powerExecutionRequired && target.running) "execution power request" effect
  unfold reconcilePower
  split
  · rename_i heq
    simpa [heq] using hexec
  · rename_i heq
    rw [reconcilePowerLock_boosts]
    simpa [heq] using hexec

@[simp] theorem countFailure_boosts (x : Executor σ τ) : x.countFailure.boosts = x.boosts := by
  unfold countFailure
  split <;> rfl

theorem applyPower_boosts (target : ExecutorTarget)
    (r : Result Unit × ExecutorEffect × Executor σ τ) :
    (applyPower LB target r).2.boosts = r.2.2.boosts := by
  obtain ⟨result, effect, x⟩ := r
  cases result with
  | error e => simp [applyPower]
  | ok u =>
    have hpower := x.reconcilePower_boosts LB target effect
    simp only [applyPower]
    split
    · rename_i heq
      simpa [heq] using hpower
    · rename_i heq
      simpa [heq, boosts] using hpower

/-- One call of `ApplyDecision` asks for at most one boost, and only for its own target. -/
theorem applyDecision_boosts (x : Executor σ τ) (decision : PolicyDecision)
    (target : ExecutorTarget) :
    (x.applyDecision PB LB decision target).2.boosts = x.boosts ∨
      (x.halted = false ∧ x.Wants decision target ∧
        (x.applyDecision PB LB decision target).2.boosts = x.boosts ++ [(decision, target)]) := by
  unfold applyDecision
  cases hhalted : x.halted with
  | true =>
    left
    rfl
  | false =>
    rw [if_neg Bool.false_ne_true, applyPower_boosts]
    rcases x.reconcilePriority_boosts PB decision target {} with h | ⟨hwants, h⟩
    · exact .inl h
    · exact .inr ⟨rfl, hwants, h⟩

theorem releaseAll_boosts (x : Executor σ τ) : (x.releaseAll PB LB).boosts = x.boosts := by
  have hpriority : ∀ y : Executor σ τ,
      ({ (y.callReleaseBoost PB "release-all on exit").2 with priorityGameId := "" } :
        Executor σ τ).boosts = y.boosts := fun y => callReleaseBoost_boosts PB y _
  have hpower : ∀ y : Executor σ τ,
      ({ (y.callReleaseLock LB .executionRequired "release-all on exit").2 with
        powerHeld := false } : Executor σ τ).boosts = y.boosts :=
    fun y => callReleaseLock_boosts LB y _ _
  have hdisplay : ∀ y : Executor σ τ,
      ({ (y.callReleaseLock LB .displayRequired "release-all on exit (display)").2 with
        displayHeld := false } : Executor σ τ).boosts = y.boosts :=
    fun y => callReleaseLock_boosts LB y _ _
  simp only [releaseAll]
  repeat' split
  all_goals simp only [hpriority, hpower, hdisplay]

end Executor

end Policy
end CppOptimizer
