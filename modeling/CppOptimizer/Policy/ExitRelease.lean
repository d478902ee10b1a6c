import CppOptimizer.Lib.Run
import CppOptimizer.Policy.Calls
import CppOptimizer.Policy.Reconcile

/-!
# CppOptimizer.Policy.ExitRelease

What `ApplyDecision` gives back once the game is gone.

* `PowerReleases` — the power backend lets go of the requests in this call.
* `Freed`         — afterwards no power request is held and each held one was released in the locker.

The priority step comes first and returns early when the boost cannot be released (`BoostStuck`), so
a booster that keeps failing also keeps the power requests. `ReleaseAll` goes on past such a failure.
-/

namespace CppOptimizer
namespace Policy

open Common Config Power Priority Lib

variable {σ τ : Type}

/-- Either request can be released, and the display request also after the execution request. -/
structure PowerReleases (LB : PowerRequestBackend τ) (w : Locker τ) : Prop where
  each : ∀ type, (w.releaseLock LB type).1 = .ok ()
  both : ((w.releaseLock LB .executionRequired).2.releaseLock LB .displayRequired).1 = .ok ()

structure Freed (x x' : Executor σ τ) : Prop where
  notHeld : ∀ type, x'.held type = false
  counts : ∀ type, (x'.locker.state type).count =
    (x.locker.state type).count - if x.held type = true then 1 else 0

variable {PB : PriorityBackend σ} {LB : PowerRequestBackend τ} {x y : Executor σ τ}
  {decision : PolicyDecision} {target : ExecutorTarget} {effect : ExecutorEffect}

/-! ## The power step of an exit -/

/-- The locker and the held flags are those of `x`. -/
structure SamePower (x y : Executor σ τ) : Prop where
  locker : y.locker = x.locker
  held : ∀ type, y.held type = x.held type

theorem callReleaseBoost_samePower (PB : PriorityBackend σ) (x : Executor σ τ) (detail : String) :
    SamePower x (x.callReleaseBoost PB detail).2 := by
  simp only [Executor.callReleaseBoost, Executor.emitAction]
  split
  · exact ⟨rfl, fun type => by cases type <;> rfl⟩
  · exact ⟨rfl, fun type => by cases type <;> rfl⟩

theorem callReleaseLock_held (LB : PowerRequestBackend τ) (x : Executor σ τ)
    (type type' : PowerLockType) (detail : String) :
    (x.callReleaseLock LB type detail).2.held type' = x.held type' := by
  simp only [Executor.callReleaseLock, Executor.emitAction]
  split <;> cases type' <;> rfl

theorem callReleaseLock_locker (LB : PowerRequestBackend τ) (x : Executor σ τ)
    (type : PowerLockType) (detail : String) :
    (x.callReleaseLock LB type detail).2.locker = (x.locker.releaseLock LB type).2 := by
  simp only [Executor.callReleaseLock, Executor.emitAction]
  split <;> rfl

/-- The locker once the request of one type is released, if it was held. -/
def lockerAfter (LB : PowerRequestBackend τ) (x : Executor σ τ) (type : PowerLockType) : Locker τ :=
  if x.held type = true then (x.locker.releaseLock LB type).2 else x.locker

theorem reconcilePowerLock_exit {type : PowerLockType} (detail : String) (effect : ExecutorEffect)
    (hok : x.held type = true → (x.locker.releaseLock LB type).1 = .ok ()) :
    ∃ effect' y, x.reconcilePowerLock LB type false detail effect = (.ok (), effect', y) ∧
      y.locker = lockerAfter LB x type ∧
      ∀ type', y.held type' = if type' = type then false else x.held type' := by
  unfold Executor.reconcilePowerLock
  rw [if_neg (by simp)]
  cases hheld : x.held type with
  | false =>
    refine ⟨effect, x, by simp, by simp [lockerAfter, hheld], fun type' => ?_⟩
    split
    · rename_i heq
      rw [heq, hheld]
    · rfl
  | true =>
    have hlocker := callReleaseLock_locker LB x type
      (detail ++ " (game exit or no longer desired)")
    have hflags := fun type' => callReleaseLock_held LB x type type'
      (detail ++ " (game exit or no longer desired)")
    have hresult : (x.callReleaseLock LB type (detail ++ " (game exit or no longer desired)")).1 =
        .ok () := hok hheld
    rw [if_pos ⟨rfl, rfl⟩]
    rcases hr : x.callReleaseLock LB type (detail ++ " (game exit or no longer desired)") with
      ⟨e | u, y⟩
    · rw [hr] at hresult
      cases hresult
    · rw [hr] at hlocker hflags
      refine ⟨effect.noteReleased type, y.setHeld type false, rfl, ?_, fun type' => ?_⟩
      · rw [lockerAfter, if_pos hheld, ← hlocker, Executor.setHeld_locker]
      · rw [Executor.setHeld_held]
        split
        · rfl
        · exact hflags type'

theorem lockerAfter_count {type : PowerLockType}
    (hok : x.held type = true → (x.locker.releaseLock LB type).1 = .ok ()) (type' : PowerLockType) :
    ((lockerAfter LB x type).state type').count =
      (x.locker.state type').count - if type' = type ∧ x.held type = true then 1 else 0 := by
  unfold lockerAfter
  split
  · rename_i hheld
    have hr : x.locker.releaseLock LB type = (.ok (), (x.locker.releaseLock LB type).2) :=
      Prod.ext (hok hheld) rfl
    rw [releaseLock_count hr type']
    simp [hheld]
  · rename_i hheld
    simp [hheld]

/-- Once the game is gone the power step releases both requests. -/
theorem reconcilePower_exit (effect : ExecutorEffect) (hexit : target.running = false)
    (hpower : PowerReleases LB x.locker) :
    ∃ effect' y, x.reconcilePower LB target effect = (.ok (), effect', y) ∧ Freed x y := by
  obtain ⟨effect₁, y, hr, hlocker, hheld⟩ := reconcilePowerLock_exit "execution power request" effect
    fun _ => hpower.each .executionRequired
  have hcount := lockerAfter_count (x := x) fun _ => hpower.each .executionRequired
  have hdisplay : (y.locker.releaseLock LB .displayRequired).1 = .ok () := by
    rw [hlocker, lockerAfter]
    split
    · exact hpower.both
    · exact hpower.each .displayRequired
  obtain ⟨effect₂, z, hr', hlocker', hheld'⟩ := reconcilePowerLock_exit "display power request" effect₁
    fun _ => hdisplay
  have hcount' := lockerAfter_count (x := y) fun _ => hdisplay
  refine ⟨effect₂, z, ?_, ?_, ?_⟩
  · simp only [Executor.reconcilePower, hexit, Bool.and_false, hr, hr']
  · intro type
    cases type with
    | executionRequired => rw [hheld', if_neg (by simp), hheld, if_pos rfl]
    | displayRequired => rw [hheld', if_pos rfl]
  · intro type
    rw [hlocker', hcount', hlocker, hcount]
    cases type with
    | executionRequired => simp
    | displayRequired =>
      rw [hheld]
      simp

/-! ## The priority step of an exit -/

theorem not_desired_of_exit (hexit : target.running = false) : ¬ x.desired decision target = true := by
  simp [Executor.desired, hexit]

theorem reconcilePriority_stuck (decision : PolicyDecision) (effect : ExecutorEffect)
    (hexit : target.running = false) (h : BoostStuck PB x) :
    ∃ e y, x.reconcilePriority PB decision target effect = (.error e, effect, y) ∧
      SamePower x y := by
  obtain ⟨e, y, hr⟩ := callReleaseBoost_stuck h "game exit or no longer desired"
  have hsame := callReleaseBoost_samePower PB x "game exit or no longer desired"
  rw [hr] at hsame
  refine ⟨e, y, ?_, hsame⟩
  rw [Executor.reconcilePriority, if_neg (not_desired_of_exit hexit), if_pos h.1, hr]

theorem reconcilePriority_free (decision : PolicyDecision) (effect : ExecutorEffect)
    (hexit : target.running = false) (h : ¬ BoostStuck PB x) :
    ∃ effect' y, x.reconcilePriority PB decision target effect = (.ok (), effect', y) ∧
      SamePower x y := by
  rw [Executor.reconcilePriority, if_neg (not_desired_of_exit hexit)]
  by_cases hheld : x.priorityGameId ≠ ""
  · obtain ⟨y, hr⟩ := callReleaseBoost_free hheld h "game exit or no longer desired"
    have hsame := callReleaseBoost_samePower PB x "game exit or no longer desired"
    rw [hr] at hsame
    rw [if_pos hheld, hr]
    exact ⟨_, _, rfl, hsame.locker, fun type => hsame.held type⟩
  · rw [if_neg hheld]
    exact ⟨_, _, rfl, rfl, fun _ => rfl⟩

theorem countFailure_samePower (h : SamePower x y) : SamePower x y.countFailure := by
  unfold Executor.countFailure
  split
  · exact ⟨h.locker, fun type => (by cases type <;> rfl : _ = y.held type).trans (h.held type)⟩
  · exact h

theorem applyDecision_stuck (LB : PowerRequestBackend τ) (decision : PolicyDecision)
    (hrunning : x.halted = false) (hexit : target.running = false)
    (h : BoostStuck PB x) : SamePower x (x.applyDecision PB LB decision target).2 := by
  obtain ⟨e, y, hr, hsame⟩ := reconcilePriority_stuck decision {} hexit h
  rw [Executor.applyDecision, if_neg (by simp [hrunning]), hr]
  exact countFailure_samePower hsame

theorem applyDecision_free (hrunning : x.halted = false) (hexit : target.running = false)
    (hpower : PowerReleases LB x.locker) (h : ¬ BoostStuck PB x) :
    Freed x (x.applyDecision PB LB decision target).2 := by
  obtain ⟨effect, y, hr, hsame⟩ :=
    reconcilePriority_free decision {} hexit h
  obtain ⟨effect', z, hr', hfreed⟩ := reconcilePower_exit (x := y) effect hexit
    (by rw [hsame.locker]; exact hpower)
  rw [Executor.applyDecision, if_neg (by simp [hrunning]), hr]
  simp only [Executor.applyPower, hr']
  refine ⟨fun type => ?_, fun type => ?_⟩
  · exact (by cases type <;> rfl : _ = z.held type).trans (hfreed.notHeld type)
  · rw [hfreed.counts, hsame.locker, hsame.held]

/-- A call for a game that is gone gives the power requests back exactly if the boost can be
released or no power request is held. -/
theorem exit_frees_requests_iff (PB : PriorityBackend σ) (LB : PowerRequestBackend τ)
    (x : Executor σ τ) (decision : PolicyDecision) (target : ExecutorTarget)
    (hrunning : x.halted = false) (hexit : target.running = false)
    (hpower : PowerReleases LB x.locker) :
    Freed x (x.applyDecision PB LB decision target).2 ↔
      ¬ (BoostStuck PB x ∧ ∃ type, x.held type = true) := by
  constructor
  · rintro hfreed ⟨hstuck, type, hheld⟩
    have hsame := applyDecision_stuck LB decision hrunning hexit hstuck
    have hfalse := hfreed.notHeld type
    rw [hsame.held type, hheld] at hfalse
    cases hfalse
  · intro h
    by_cases hstuck : BoostStuck PB x
    · have hnone : ∀ type, x.held type = false := by
        intro type
        rw [← Bool.not_eq_true]
        exact fun hheld => h ⟨hstuck, type, hheld⟩
      have hsame := applyDecision_stuck LB decision hrunning hexit hstuck
      refine ⟨fun type => (hsame.held type).trans (hnone type), fun type => ?_⟩
      rw [hsame.locker, hnone type]
      rfl
    · exact applyDecision_free hrunning hexit hpower hstuck

/-- A process that can be boosted once: its class can be set while it is the normal one. -/
def boostOnly : PriorityBackend UInt32 where
  openProcess pid s := (.ok pid.toUInt64, s)
  queryCreationTime _ s := (1, s)
  queryPriorityClass _ s := (s, s)
  setPriorityClass _ cls s :=
    if s = 0x20 then (.ok (), cls)
    else (.error (.fromWin32 5 "SetPriorityClass"), s)
  closeProcess _ s := s

def exitConfig : ExecutorConfig :=
  { priorityEnabled := true, powerExecutionRequired := true, consecutiveActionFailuresToHalt := 2 }

def gameRuns : ExecutorOp :=
  .applyDecision { action := .suggestPriorityBoost }
    { gameId := "a", pid := 1, creationTime100ns := 1, running := true }

def gameGone : ExecutorOp := .applyDecision {} { gameId := "a" }

def boostedOnce : Executor UInt32 Nat :=
  (Executor.fresh exitConfig .aboveNormal 0x20 0).perform boostOnly requestCounter gameRuns

/-- The boost cannot be released any more: the execution request is still held after the first exit,
and after the third, when the executor is halted. -/
theorem stuck_boost_keeps_request :
    boostedOnce.halted = false ∧ PowerReleases requestCounter boostedOnce.locker ∧
      ¬ Freed boostedOnce (boostedOnce.perform boostOnly requestCounter gameGone) ∧
      (run (Executor.perform boostOnly requestCounter) boostedOnce
        [gameGone, gameGone, gameGone]).halted = true ∧
      (run (Executor.perform boostOnly requestCounter) boostedOnce
        [gameGone, gameGone, gameGone]).held .executionRequired = true ∧
      (run (Executor.perform boostOnly requestCounter) boostedOnce
        [gameGone, gameGone, gameGone]).locker.execution.count = 1 := by
  refine ⟨by decide +kernel, ⟨?_, by decide +kernel⟩, ?_, by decide +kernel, by decide +kernel,
    by decide +kernel⟩
  · intro type
    cases type <;> decide +kernel
  · intro hfreed
    have hheld : (boostedOnce.perform boostOnly requestCounter gameGone).held .executionRequired =
        true := by decide +kernel
    rw [hfreed.notHeld] at hheld
    cases hheld

def boostedFreely : Executor (UInt32 → UInt32) Nat :=
  (Executor.fresh exitConfig .aboveNormal (fun _ => 0) 0).perform classTable requestCounter gameRuns

theorem exit_frees_boosted_game :
    Freed boostedFreely (boostedFreely.applyDecision classTable requestCounter {}
      { gameId := "a" }).2 := by
  refine (exit_frees_requests_iff classTable requestCounter boostedFreely {} { gameId := "a" }
    (by decide +kernel) rfl ⟨?_, by decide +kernel⟩).mpr ?_
  · intro type
    cases type <;> decide +kernel
  · rintro ⟨⟨-, state, hf, hstuck⟩, -⟩
    have hlease : boostedFreely.booster.leases.find? boostedFreely.priorityGameId =
        some { pid := 1, creationTime100ns := 1, handle := 1, originalClass := 0x20,
               targetClass := 0x8000, level := .aboveNormal, count := 1 } := by decide +kernel
    rw [hlease] at hf
    cases hf
    rcases hstuck with hpid | hend
    · exact hpid (by decide +kernel)
    · have hsome : (leaseEnd classTable boostedFreely.booster.backend
          { pid := 1, creationTime100ns := 1, handle := 1, originalClass := 0x20,
            targetClass := 0x8000, level := .aboveNormal, count := 1 }).isSome = true := by
        decide +kernel
      rw [hend] at hsome
      cases hsome

end Policy
end CppOptimizer
