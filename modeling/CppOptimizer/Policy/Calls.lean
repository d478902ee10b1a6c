import Mathlib.Logic.Relation
import CppOptimizer.Policy.Executor
import CppOptimizer.Priority.FailedAcquire

/-!
# CppOptimizer.Policy.Calls

Every operation of the executor as a sequence of single acts.

* `ExecutorOp`, `Executor.perform` — the operations a client can ask for.
* `Act`  — one call on the booster or the locker, or a change of what the executor notes as held.
* `Acts` — a sequence of acts.

`applyDecision_acts` and `releaseAll_acts` say that nothing else happens between the start of an
operation and its end. `may` restricts the acquires of a boost: it is asked of the state in which
the acquire is made, and `ReachesAcquire` says which state that is.
-/

namespace CppOptimizer
namespace Policy

open Common Config Power Priority

inductive ExecutorOp where
  | applyDecision (decision : PolicyDecision) (target : ExecutorTarget)
  | releaseAll
  | resetHalt
  deriving DecidableEq, Repr

variable {σ τ : Type}

def Executor.perform (PB : PriorityBackend σ) (LB : PowerRequestBackend τ) (x : Executor σ τ) :
    ExecutorOp → Executor σ τ
  | .applyDecision decision target => (x.applyDecision PB LB decision target).2
  | .releaseAll => x.releaseAll PB LB
  | .resetHalt => x.resetHalt

inductive Act (PB : PriorityBackend σ) (LB : PowerRequestBackend τ)
    (may : Executor σ τ → ExecutorTarget → Prop) : Executor σ τ → Executor σ τ → Prop where
  | releaseBoost (x : Executor σ τ) (detail : String) :
      Act PB LB may x (x.callReleaseBoost PB detail).2
  | acquireBoost (x : Executor σ τ) (decision : PolicyDecision) (target : ExecutorTarget)
      (allowed : may x target) : Act PB LB may x (x.callAcquireBoost PB decision target).2
  | acquireLock (x : Executor σ τ) (type : PowerLockType) (detail : String) :
      Act PB LB may x (x.callAcquireLock LB type detail).2
  | releaseLock (x : Executor σ τ) (type : PowerLockType) (detail : String) :
      Act PB LB may x (x.callReleaseLock LB type detail).2
  | note (x : Executor σ τ) (gameId : String) (pid : UInt32) (power display : Bool) :
      Act PB LB may x { x with priorityGameId := gameId, priorityPid := pid, powerHeld := power,
                               displayHeld := display }

abbrev Acts (PB : PriorityBackend σ) (LB : PowerRequestBackend τ)
    (may : Executor σ τ → ExecutorTarget → Prop) : Executor σ τ → Executor σ τ → Prop :=
  Relation.ReflTransGen (Act PB LB may)

/-- `y` is the executor at the acquire that `ApplyDecision` comes to: what was held for another
target is released by then. -/
def ReachesAcquire (PB : PriorityBackend σ) (x : Executor σ τ) (decision : PolicyDecision)
    (target : ExecutorTarget) (y : Executor σ τ) : Prop :=
  x.Wants decision target ∧
    ((x.priorityGameId = "" ∧ y = x) ∨
      (x.priorityGameId ≠ "" ∧ ∃ z, x.callReleaseBoost PB "target change pre-release" = (.ok (), z) ∧
        y = { z with priorityGameId := "" }))

section

variable {PB : PriorityBackend σ} {LB : PowerRequestBackend τ}
  {may : Executor σ τ → ExecutorTarget → Prop} {x y : Executor σ τ}
  {decision : PolicyDecision} {target : ExecutorTarget}

/-- What every act keeps is kept by a sequence of acts. -/
theorem Acts.keeps {I : Executor σ τ → Prop} (hact : ∀ x y, Act PB LB may x y → I x → I y)
    (h : Acts PB LB may x y) (hx : I x) : I y := by
  induction h with
  | refl => exact hx
  | tail _ hstep ih => exact hact _ _ hstep ih

theorem act_noteGame (x : Executor σ τ) (gameId : String) (pid : UInt32) :
    Act PB LB may x { x with priorityGameId := gameId, priorityPid := pid } :=
  .note x gameId pid x.powerHeld x.displayHeld

theorem act_clearGame (x : Executor σ τ) : Act PB LB may x { x with priorityGameId := "" } :=
  .note x "" x.priorityPid x.powerHeld x.displayHeld

theorem act_setHeld (x : Executor σ τ) (type : PowerLockType) (b : Bool) :
    Act PB LB may x (x.setHeld type b) := by
  cases type with
  | executionRequired => exact .note x x.priorityGameId x.priorityPid b x.displayHeld
  | displayRequired => exact .note x x.priorityGameId x.priorityPid x.powerHeld b

theorem acquireTarget_acts (effect : ExecutorEffect) (hmay : may x target) :
    Acts PB LB may x (x.acquireTarget PB decision target effect).2.2 := by
  have hcall : Act PB LB may x (x.callAcquireBoost PB decision target).2 :=
    .acquireBoost x decision target hmay
  unfold Executor.acquireTarget
  rcases hacquired : x.callAcquireBoost PB decision target with ⟨e | u, y⟩
  · rw [hacquired] at hcall
    exact .single hcall
  · rw [hacquired] at hcall
    exact (Relation.ReflTransGen.single hcall).tail (act_noteGame y target.gameId target.pid)

theorem reconcilePriority_acts (effect : ExecutorEffect)
    (hmay : ∀ y, ReachesAcquire PB x decision target y → may y target) :
    Acts PB LB may x (x.reconcilePriority PB decision target effect).2.2 := by
  unfold Executor.reconcilePriority
  by_cases hdesired : x.desired decision target = true
  · rw [if_pos hdesired]
    by_cases hpid : target.pid = 0
    · rw [if_pos hpid]
    · rw [if_neg hpid]
      by_cases hheld : x.priorityGameId = target.gameId ∧ x.priorityPid = target.pid
      · rw [if_pos hheld]
      · rw [if_neg hheld]
        have hwants : x.Wants decision target := ⟨hdesired, hpid, hheld⟩
        by_cases hother : x.priorityGameId ≠ ""
        · have hrelease : Act PB LB may x (x.callReleaseBoost PB "target change pre-release").2 :=
            .releaseBoost x _
          rw [if_pos hother]
          rcases hreleased : x.callReleaseBoost PB "target change pre-release" with ⟨e | u, y⟩
          · rw [hreleased] at hrelease
            exact .single hrelease
          · rw [hreleased] at hrelease
            have hreach := hmay _ ⟨hwants, .inr ⟨hother, y, hreleased, rfl⟩⟩
            refine ((Relation.ReflTransGen.single hrelease).tail (act_clearGame y)).trans ?_
            exact acquireTarget_acts _ hreach
        · rw [if_neg hother]
          refine acquireTarget_acts effect (hmay x ⟨hwants, .inl ⟨?_, rfl⟩⟩)
          exact not_not.mp hother
  · rw [if_neg hdesired]
    by_cases hheld : x.priorityGameId ≠ ""
    · have hrelease : Act PB LB may x
          (x.callReleaseBoost PB "game exit or no longer desired").2 := .releaseBoost x _
      rw [if_pos hheld]
      rcases hreleased : x.callReleaseBoost PB "game exit or no longer desired" with ⟨e | u, y⟩
      · rw [hreleased] at hrelease
        exact .single hrelease
      · rw [hreleased] at hrelease
        exact (Relation.ReflTransGen.single hrelease).tail (act_clearGame y)
    · rw [if_neg hheld]

theorem reconcilePowerLock_acts (x : Executor σ τ) (type : PowerLockType) (desired : Bool)
    (detail : String) (effect : ExecutorEffect) :
    Acts PB LB may x (x.reconcilePowerLock LB type desired detail effect).2.2 := by
  unfold Executor.reconcilePowerLock
  by_cases hacquire : desired = true ∧ x.held type = false
  · have hcall : Act PB LB may x (x.callAcquireLock LB type detail).2 := .acquireLock x type detail
    rw [if_pos hacquire]
    rcases hlocked : x.callAcquireLock LB type detail with ⟨e | u, y⟩
    · rw [hlocked] at hcall
      exact .single hcall
    · rw [hlocked] at hcall
      exact (Relation.ReflTransGen.single hcall).tail (act_setHeld y type true)
  · rw [if_neg hacquire]
    by_cases hrelease : desired = false ∧ x.held type = true
    · have hcall : Act PB LB may x
          (x.callReleaseLock LB type (detail ++ " (game exit or no longer desired)")).2 :=
        .releaseLock x type _
      rw [if_pos hrelease]
      rcases hreleased : x.callReleaseLock LB type
          (detail ++ " (game exit or no longer desired)") with ⟨e | u, y⟩
      · rw [hreleased] at hcall
        exact .single hcall
      · rw [hreleased] at hcall
        exact (Relation.ReflTransGen.single hcall).tail (act_setHeld y type false)
    · rw [if_neg hrelease]

theorem reconcilePower_acts (x : Executor σ τ) (target : ExecutorTarget) (effect : ExecutorEffect) :
    Acts PB LB may x (x.reconcilePower LB target effect).2.2 := by
  have hexec : Acts PB LB may x _ := reconcilePowerLock_acts x .executionRequired
    (x.config.powerExecutionRequired && target.running) "execution power request" effect
  unfold Executor.reconcilePower
  rcases hr : x.reconcilePowerLock LB .executionRequired
    (x.config.powerExecutionRequired && target.running) "execution power request" effect with
    ⟨e | u, effect', y⟩
  · rw [hr] at hexec
    exact hexec
  · rw [hr] at hexec
    exact hexec.trans (reconcilePowerLock_acts y ..)

/-- What `ApplyDecision` does unless the executor is halted: acts, and then the count of failures. -/
theorem applyDecision_acts (may : Executor σ τ → ExecutorTarget → Prop) (decision : PolicyDecision)
    (target : ExecutorTarget) (hrunning : x.halted = false)
    (hmay : ∀ y, ReachesAcquire PB x decision target y → may y target) :
    ∃ y, Acts PB LB may x y ∧
      ((∃ e, x.applyDecision PB LB decision target = (.error e, y.countFailure)) ∨
        ∃ effect, x.applyDecision PB LB decision target =
          (.ok effect, { y with consecutiveActionFailures := 0 })) := by
  have hpriority : Acts PB LB may x _ := reconcilePriority_acts {} hmay
  unfold Executor.applyDecision
  rw [if_neg (by simp [hrunning])]
  rcases hr : x.reconcilePriority PB decision target {} with ⟨e | u, effect, y⟩
  · rw [hr] at hpriority
    exact ⟨y, hpriority, .inl ⟨e, rfl⟩⟩
  · rw [hr] at hpriority
    have hpower : Acts PB LB may y _ := reconcilePower_acts y target effect
    rcases hq : y.reconcilePower LB target effect with ⟨e | u, effect', z⟩
    · rw [hq] at hpower
      exact ⟨z, hpriority.trans hpower, .inl ⟨e, by simp [Executor.applyPower, hq]⟩⟩
    · rw [hq] at hpower
      exact ⟨z, hpriority.trans hpower, .inr ⟨effect', by simp [Executor.applyPower, hq]⟩⟩

theorem releaseAll_acts (x : Executor σ τ) : Acts PB LB may x (x.releaseAll PB LB) := by
  have hboost : ∀ x : Executor σ τ, Acts PB LB may x (if x.priorityGameId ≠ "" then
      { (x.callReleaseBoost PB "release-all on exit").2 with priorityGameId := "" } else x) := by
    intro x
    split
    · exact (Relation.ReflTransGen.single (.releaseBoost x _)).tail (act_clearGame _)
    · exact .refl
  have hpower : ∀ x : Executor σ τ, Acts PB LB may x (if x.powerHeld = true then
      { (x.callReleaseLock LB .executionRequired "release-all on exit").2 with powerHeld := false }
      else x) := by
    intro x
    split
    · exact (Relation.ReflTransGen.single (.releaseLock x _ _)).tail
        (act_setHeld _ .executionRequired false)
    · exact .refl
  have hdisplay : ∀ x : Executor σ τ, Acts PB LB may x (if x.displayHeld = true then
      { (x.callReleaseLock LB .displayRequired "release-all on exit (display)").2 with
        displayHeld := false } else x) := by
    intro x
    split
    · exact (Relation.ReflTransGen.single (.releaseLock x _ _)).tail
        (act_setHeld _ .displayRequired false)
    · exact .refl
  exact ((hboost x).trans (hpower _)).trans (hdisplay _)

/-! ## When the release of the boost fails -/

/-- What is held cannot be released: the booster leases the game to another pid, or it is the last
lease and the backend refuses to set the class back. -/
def BoostStuck (PB : PriorityBackend σ) (x : Executor σ τ) : Prop :=
  x.priorityGameId ≠ "" ∧ ∃ state, x.booster.leases.find? x.priorityGameId = some state ∧
    (state.pid ≠ x.priorityPid ∨ leaseEnd PB x.booster.backend state = none)

theorem callReleaseBoost_stuck (h : BoostStuck PB x) (detail : String) :
    ∃ e y, x.callReleaseBoost PB detail = (.error e, y) := by
  obtain ⟨-, state, hf, hfails⟩ := h
  have herror : ∃ e w, x.booster.releaseBoost PB x.priorityGameId x.priorityPid = (.error e, w) := by
    by_cases hpid : state.pid = x.priorityPid
    · have hend : leaseEnd PB x.booster.backend state = none := by
        rcases hfails with hne | hend
        · exact absurd hpid hne
        · exact hend
      rw [← hpid]
      exact releaseBoost_error hf hend
    · simp only [Booster.releaseBoost, hf, ne_eq, hpid, not_false_eq_true, if_true]
      exact ⟨_, _, rfl⟩
  obtain ⟨e, w, hr⟩ := herror
  exact ⟨e, _, by rw [Executor.callReleaseBoost, hr]⟩

theorem callReleaseBoost_free (hheld : x.priorityGameId ≠ "") (h : ¬ BoostStuck PB x)
    (detail : String) : ∃ y, x.callReleaseBoost PB detail = (.ok (), y) := by
  have hok : ∃ w, x.booster.releaseBoost PB x.priorityGameId x.priorityPid = (.ok (), w) := by
    cases hf : x.booster.leases.find? x.priorityGameId with
    | none => exact ⟨x.booster, by simp only [Booster.releaseBoost, hf]⟩
    | some state =>
      by_cases hpid : state.pid = x.priorityPid
      · rcases hend : leaseEnd PB x.booster.backend state with _ | s
        · exact absurd ⟨hheld, state, hf, .inr hend⟩ h
        · obtain ⟨w, hr, -⟩ := releaseBoost_ended hf hend
          rw [← hpid]
          exact ⟨w, hr⟩
      · exact absurd ⟨hheld, state, hf, .inl hpid⟩ h
  obtain ⟨w, hr⟩ := hok
  exact ⟨_, by rw [Executor.callReleaseBoost, hr]⟩

/-- An executor that is halted answers with a note and does nothing. -/
theorem applyDecision_halted (h : x.halted = true) :
    x.applyDecision PB LB decision target =
      (.ok { skipped := Executor.haltedNote x.config.consecutiveActionFailuresToHalt }, x) := by
  rw [Executor.applyDecision, if_pos h]

end

end Policy
end CppOptimizer
