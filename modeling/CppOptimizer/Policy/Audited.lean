import CppOptimizer.Policy.Calls
import CppOptimizer.Policy.Reconcile
import CppOptimizer.Priority.ClassReturn
import CppOptimizer.Priority.Watched

/-!
# CppOptimizer.Policy.Audited

The events an observer of the executor sees, and what happens below it.

* `watchedRequests` — the power backend with a list of the requests set, cleared and closed.
* `Reports`         — an event tells of a call: its operation, its target, its success.
* `makeCall`        — the call made again on a booster and a locker.
* `Confined`        — it touches only what it names.
* `Audited`         — the events report the calls one by one, and the calls, made again from the
  start, lead to the booster and the locker there are, with everything these did to the backends.

`AcquireBoost` under a new pid first releases the lease of the old process. The executor releases
what it knows of before it acquires, so this happens only to leases it has lost track of: `ReleaseAll`
forgets a boost that could not be released, and a game without a name is never noted.
-/

namespace CppOptimizer
namespace Policy

open Common Config Power Priority Lib

variable {σ τ : Type}

inductive RequestChange where
  | set (handle : UInt64) (type : PowerLockType)
  | clear (handle : UInt64) (type : PowerLockType)
  | close (handle : UInt64)
  deriving DecidableEq, Repr

structure WatchedRequests (τ : Type) where
  inner : τ
  changes : List RequestChange := []

def watchedRequests (LB : PowerRequestBackend τ) : PowerRequestBackend (WatchedRequests τ) where
  createRequest reason t :=
    let answer := LB.createRequest reason t.inner
    (answer.1, { t with inner := answer.2 })
  setRequest h type t :=
    let answer := LB.setRequest h type t.inner
    (answer.1, { inner := answer.2, changes := t.changes ++ [.set h type] })
  clearRequest h type t :=
    let answer := LB.clearRequest h type t.inner
    (answer.1, { inner := answer.2, changes := t.changes ++ [.clear h type] })
  closeRequest h t :=
    { inner := LB.closeRequest h t.inner, changes := t.changes ++ [.close h] }

/-- A handle that is closed was set or cleared for the same request type by the same call. -/
def RequestChange.Concerns (type : PowerLockType) (changes : List RequestChange) :
    RequestChange → Prop
  | .set _ type' => type' = type
  | .clear _ type' => type' = type
  | .close h => .set h type ∈ changes ∨ .clear h type ∈ changes

structure LockWithin (type : PowerLockType) (w w' : Locker (WatchedRequests τ)) : Prop where
  changes : ∃ new, w'.backend.changes = w.backend.changes ++ new ∧ ∀ c ∈ new, c.Concerns type new
  states : ∀ type', type' ≠ type → w'.state type' = w.state type'

/-- What the event says of the call. -/
def Reports (event : ExecutorActionEvent) : ExecutorCall → Prop
  | .acquireBoost _ target ok => event.operationId = "priority.boost" ∧
      event.target = Executor.boostTarget target.gameId target.pid ∧ event.ok = ok
  | .releaseBoost gameId pid ok => event.operationId = "priority.unboost" ∧
      event.target = Executor.boostTarget gameId pid ∧ event.ok = ok
  | .acquireLock _ ok => event.operationId = "power.hold" ∧
      event.target = "policy (game running)" ∧ event.ok = ok
  | .releaseLock _ ok => event.operationId = "power.release" ∧ event.target = "policy" ∧
      event.ok = ok

def ExecutorCall.ok : ExecutorCall → Bool
  | .acquireBoost _ _ ok | .releaseBoost _ _ ok | .acquireLock _ ok | .releaseLock _ ok => ok

/-- The call with the options of the executor, whether it succeeds and what it leaves. -/
def makeCall (PB : PriorityBackend σ) (LB : PowerRequestBackend τ) (config : ExecutorConfig)
    (maxLevel : PriorityLevel) (w : Booster σ × Locker τ) :
    ExecutorCall → Bool × Booster σ × Locker τ
  | .acquireBoost _ target _ =>
    let acquired := w.1.acquireBoost PB maxLevel target.gameId target.pid target.creationTime100ns
      config.priorityMaxLevel
    (acquired.1.ok?, acquired.2, w.2)
  | .releaseBoost gameId pid _ =>
    let released := w.1.releaseBoost PB gameId pid
    (released.1.ok?, released.2, w.2)
  | .acquireLock type _ =>
    let locked := w.2.acquireLock LB type config.powerReason
    (locked.1.ok?, w.1, locked.2)
  | .releaseLock type _ =>
    let released := w.2.releaseLock LB type
    (released.1.ok?, w.1, released.2)

/-- The call touches the process or the request type it names, and nothing else. -/
def Confined (w w' : Booster (Watched σ) × Locker (WatchedRequests τ)) : ExecutorCall → Prop
  | .acquireBoost _ target _ => Within target.pid w.1 w'.1 ∧ w'.2 = w.2
  | .releaseBoost _ pid _ => Within pid w.1 w'.1 ∧ w'.2 = w.2
  | .acquireLock type _ => LockWithin type w.2 w'.2 ∧ w'.1 = w.1
  | .releaseLock type _ => LockWithin type w.2 w'.2 ∧ w'.1 = w.1

section

variable {PB : PriorityBackend σ} (V : OpenHandles PB) (LB : PowerRequestBackend τ)

/-- The call made again, from the options `x₀` started with. -/
def remake (x₀ : Executor (Watched σ) (WatchedRequests τ))
    (w : Booster (Watched σ) × Locker (WatchedRequests τ)) (call : ExecutorCall) :
    Bool × Booster (Watched σ) × Locker (WatchedRequests τ) :=
  makeCall (watched V) (watchedRequests LB) x₀.config x₀.boosterMaxLevel w call

structure Audited (x₀ x : Executor (Watched σ) (WatchedRequests τ)) : Prop where
  events : List.Forall₂ Reports x.events x.calls
  replayed : run (fun w call => (remake V LB x₀ w call).2) (x₀.booster, x₀.locker) x.calls =
    (x.booster, x.locker)
  each : Steps (fun w call => (remake V LB x₀ w call).2)
    (fun w call => (remake V LB x₀ w call).1 = call.ok ∧ Confined w (remake V LB x₀ w call).2 call)
    (x₀.booster, x₀.locker) x.calls

end

/-- `ApplyDecision` comes to an acquire that finds a lease of the game under another pid. What the
executor holds of the same game is released by then, unless it is counted more than once. -/
def HidesRelease (PB : PriorityBackend σ) (x : Executor σ τ) : ExecutorOp → Prop
  | .applyDecision decision target =>
    x.halted = false ∧ x.Wants decision target ∧
      LevelAllowed x.config.priorityMaxLevel x.boosterMaxLevel ∧ ¬ BoostStuck PB x ∧
      ∃ state, x.booster.leases.find? target.gameId = some state ∧ state.pid ≠ target.pid ∧
        (x.priorityGameId = target.gameId → x.priorityGameId ≠ "" → 1 < state.count)
  | .releaseAll => False
  | .resetHalt => False

/-- The acquire finds no lease of another process. -/
def FindsOwn (x : Executor σ τ) (target : ExecutorTarget) : Prop :=
  LevelAllowed x.config.priorityMaxLevel x.boosterMaxLevel →
    ∀ state, x.booster.leases.find? target.gameId = some state → state.pid = target.pid

/-! ## The locks -/

section Locks

variable {LB : PowerRequestBackend τ} {w : Locker (WatchedRequests τ)}

theorem LockWithin.refl (type : PowerLockType) (w : Locker (WatchedRequests τ)) :
    LockWithin type w w :=
  ⟨⟨[], (List.append_nil _).symm, fun _ hc => absurd hc List.not_mem_nil⟩, fun _ _ => rfl⟩

theorem setState_of_ne (w : Locker τ) (s : LockState) {type type' : PowerLockType}
    (h : type' ≠ type) : (w.setState type s).state type' = w.state type' := by
  rw [Locker.setState_state, if_neg h]

theorem concerns_set_close (h : UInt64) (type : PowerLockType) :
    ∀ c ∈ [RequestChange.set h type, .close h],
      c.Concerns type [RequestChange.set h type, .close h] := by
  intro c hc
  rcases List.mem_cons.mp hc with rfl | hc
  · rfl
  · rw [List.mem_singleton.mp hc]
    exact .inl List.mem_cons_self

theorem concerns_clear_close (h : UInt64) (type : PowerLockType) :
    ∀ c ∈ [RequestChange.clear h type, .close h],
      c.Concerns type [RequestChange.clear h type, .close h] := by
  intro c hc
  rcases List.mem_cons.mp hc with rfl | hc
  · rfl
  · rw [List.mem_singleton.mp hc]
    exact .inr List.mem_cons_self

theorem acquireLock_watched (w : Locker (WatchedRequests τ)) (type : PowerLockType)
    (reason : String) : LockWithin type w (w.acquireLock (watchedRequests LB) type reason).2 := by
  have hend := acquireLock_end (watchedRequests LB) w type reason
  generalize w.acquireLock (watchedRequests LB) type reason = out at hend ⊢
  cases hend with
  | nested _ =>
    refine ⟨⟨[], ?_, by simp⟩, fun _ hne => setState_of_ne _ _ hne⟩
    rw [Locker.setState_backend, List.append_nil]
  | @refused _ t _ hcreate =>
    have ht : t.changes = w.backend.changes := congrArg (fun r => r.2.changes) hcreate.symm
    exact ⟨⟨[], ht.trans (List.append_nil _).symm, by simp⟩, fun _ _ => Locker.state_backend ..⟩
  | @unset _ handle t t' _ hcreate hset =>
    have ht : t.changes = w.backend.changes := congrArg (fun r => r.2.changes) hcreate.symm
    have ht' : t'.changes = t.changes ++ [.set handle type] :=
      congrArg (fun r => r.2.changes) hset.symm
    refine ⟨⟨_, ?_, concerns_set_close handle type⟩, fun _ _ => Locker.state_backend ..⟩
    show t'.changes ++ [.close handle] = _
    rw [ht', ht, List.append_assoc]
    rfl
  | @first handle t t' _ hcreate hset =>
    have ht : t.changes = w.backend.changes := congrArg (fun r => r.2.changes) hcreate.symm
    have ht' : t'.changes = t.changes ++ [.set handle type] :=
      congrArg (fun r => r.2.changes) hset.symm
    refine ⟨⟨[.set handle type], ?_, ?_⟩, fun type' hne => ?_⟩
    · rw [Locker.setState_backend]
      exact ht'.trans (by rw [ht])
    · intro c hc
      rw [List.mem_singleton.mp hc]
      rfl
    · rw [setState_of_ne _ _ hne, Locker.state_backend]

theorem releaseLock_watched (w : Locker (WatchedRequests τ)) (type : PowerLockType) :
    LockWithin type w (w.releaseLock (watchedRequests LB) type).2 := by
  have hend := releaseLock_end (watchedRequests LB) w type
  generalize w.releaseLock (watchedRequests LB) type = out at hend ⊢
  cases hend with
  | idle _ => exact .refl type w
  | nested _ =>
    refine ⟨⟨[], ?_, by simp⟩, fun _ hne => setState_of_ne _ _ hne⟩
    rw [Locker.setState_backend, List.append_nil]
  | @refused _ t _ hclear =>
    have ht : t.changes = w.backend.changes ++ [.clear (w.state type).handle type] :=
      congrArg (fun r => r.2.changes) hclear.symm
    refine ⟨⟨_, ht, ?_⟩, fun _ _ => Locker.state_backend ..⟩
    intro c hc
    rw [List.mem_singleton.mp hc]
    rfl
  | @last t _ hclear =>
    have ht : t.changes = w.backend.changes ++ [.clear (w.state type).handle type] :=
      congrArg (fun r => r.2.changes) hclear.symm
    refine ⟨⟨_, ?_, concerns_clear_close (w.state type).handle type⟩, fun type' hne => ?_⟩
    · rw [Locker.setState_backend]
      show t.changes ++ [.close (w.state type).handle] = _
      rw [ht, List.append_assoc]
      rfl
    · rw [setState_of_ne _ _ hne, Locker.state_backend]

end Locks

/-! ## The acts -/

section Acts

variable {PB : PriorityBackend σ} {V : OpenHandles PB} {LB : PowerRequestBackend τ}
  {x₀ x x' : Executor (Watched σ) (WatchedRequests τ)}

structure Auditing (V : OpenHandles PB) (LB : PowerRequestBackend τ)
    (x₀ x : Executor (Watched σ) (WatchedRequests τ)) : Prop where
  audited : Audited V LB x₀ x
  named : Named V x.booster
  config : x.config = x₀.config
  maxLevel : x.boosterMaxLevel = x₀.boosterMaxLevel

/-- What the operations of the executor change besides: the books about failures. -/
structure SameAudit (x x' : Executor σ τ) : Prop where
  events : x'.events = x.events
  calls : x'.calls = x.calls
  booster : x'.booster = x.booster
  locker : x'.locker = x.locker
  config : x'.config = x.config
  maxLevel : x'.boosterMaxLevel = x.boosterMaxLevel

theorem Auditing.same (h : Auditing V LB x₀ x) (hsame : SameAudit x x') : Auditing V LB x₀ x' := by
  obtain ⟨hevents, hcalls, hbooster, hlocker, hconfig, hmax⟩ := hsame
  refine ⟨⟨?_, ?_, ?_⟩, ?_, hconfig.trans h.config, hmax.trans h.maxLevel⟩
  · rw [hevents, hcalls]
    exact h.audited.events
  · rw [hcalls, hbooster, hlocker]
    exact h.audited.replayed
  · rw [hcalls]
    exact h.audited.each
  · rw [hbooster]
    exact h.named

/-- One more call, with its event. -/
theorem Auditing.call (h : Auditing V LB x₀ x) {call : ExecutorCall} {event : ExecutorActionEvent}
    {booster : Booster (Watched σ)} {locker : Locker (WatchedRequests τ)}
    (hmade : remake V LB x₀ (x.booster, x.locker) call = (call.ok, booster, locker))
    (hconfined : Confined (x.booster, x.locker) (booster, locker) call)
    (hnamed : Named V booster) (hreports : Reports event call) :
    Auditing V LB x₀ { x with booster := booster, locker := locker, calls := x.calls ++ [call],
                              events := x.events ++ [event] } where
  audited :=
    { events := List.rel_append h.audited.events (.cons hreports .nil)
      replayed := by
        rw [run_append, h.audited.replayed]
        exact congrArg Prod.snd hmade
      each := by
        rw [steps_append, h.audited.replayed]
        refine ⟨h.audited.each, ⟨?_, ?_⟩, trivial⟩
        · rw [hmade]
        · rw [hmade]
          exact hconfined }
  named := hnamed
  config := h.config
  maxLevel := h.maxLevel

theorem emitAction_observed {x : Executor σ τ} (h : x.config.observed = true)
    (operationId target detail : String) (ok : Bool) :
    x.emitAction operationId target detail ok = { x with events := x.events ++
      [{ operationId := operationId, target := target, detail := detail, ok := ok }] } := by
  rw [Executor.emitAction, if_pos h]

theorem auditing_act (hobserved : x₀.config.observed = true)
    (hact : Act (watched V) (watchedRequests LB) FindsOwn x x') (h : Auditing V LB x₀ x) :
    Auditing V LB x₀ x' := by
  have hobs : x.config.observed = true := by
    rw [h.config]
    exact hobserved
  cases hact with
  | releaseBoost detail =>
    obtain ⟨hnamed, hwithin⟩ := releaseBoost_watched h.named x.priorityGameId x.priorityPid
    rw [Executor.callReleaseBoost, emitAction_observed]
    · exact h.call rfl ⟨hwithin, rfl⟩ hnamed ⟨rfl, rfl, rfl⟩
    · exact hobs
  | acquireBoost decision target allowed =>
    obtain ⟨hnamed, hwithin⟩ := acquireBoost_watched h.named target.creationTime100ns
      fun hlevel hexceeds => allowed ⟨hlevel, hexceeds⟩
    rw [Executor.callAcquireBoost, emitAction_observed]
    · refine h.call ?_ ⟨hwithin, rfl⟩ hnamed ⟨rfl, rfl, rfl⟩
      rw [h.config, h.maxLevel]
      rfl
    · exact hobs
  | acquireLock type detail =>
    rw [Executor.callAcquireLock, emitAction_observed]
    · refine h.call ?_ ⟨acquireLock_watched x.locker type x.config.powerReason, rfl⟩ h.named
        ⟨rfl, rfl, rfl⟩
      rw [h.config]
      rfl
    · exact hobs
  | releaseLock type detail =>
    rw [Executor.callReleaseLock, emitAction_observed]
    · exact h.call rfl ⟨releaseLock_watched x.locker type, rfl⟩ h.named ⟨rfl, rfl, rfl⟩
    · exact hobs
  | note gameId pid power display => exact h.same ⟨rfl, rfl, rfl, rfl, rfl, rfl⟩

end Acts

/-! ## The operations -/

section Operations

variable {PB : PriorityBackend σ} {x y : Executor σ τ} {decision : PolicyDecision}
  {target : ExecutorTarget}

/-- A release of the game that succeeds leaves a lease only if it was counted more than once. -/
theorem find?_released {w w' : Booster σ} {gameId : String} {pid : UInt32} {state : LeaseState}
    (hr : w.releaseBoost PB gameId pid = (.ok (), w'))
    (hf : w'.leases.find? gameId = some state) :
    ∃ state', w.leases.find? gameId = some state' ∧ state'.pid = state.pid ∧ 1 < state'.count := by
  cases hw : w.leases.find? gameId with
  | none =>
    simp only [Booster.releaseBoost, hw] at hr
    cases hr
    rw [hw] at hf
    cases hf
  | some state' =>
    by_cases hpid : state'.pid = pid
    · subst hpid
      cases hend : leaseEnd PB w.backend state' with
      | none =>
        obtain ⟨e, w₁, herror⟩ := releaseBoost_error hw hend
        cases hr.symm.trans herror
      | some s =>
        obtain ⟨w₁, hok, -, hl⟩ := releaseBoost_ended hw hend
        cases hr.symm.trans hok
        rw [hl] at hf
        by_cases hc : 1 < state'.count
        · rw [if_pos hc, SortedMap.find?_insert_self] at hf
          cases hf
          exact ⟨state', rfl, rfl, hc⟩
        · rw [if_neg hc, find?_erase_self] at hf
          cases hf
    · simp only [Booster.releaseBoost, hw, ne_eq, hpid, not_false_eq_true, if_true] at hr
      cases hr

theorem find?_released_of_ne {w : Booster σ} {gameId g : String} (pid : UInt32) (hg : g ≠ gameId) :
    (w.releaseBoost PB gameId pid).2.leases.find? g = w.leases.find? g := by
  simp only [Booster.releaseBoost]
  cases hw : w.leases.find? gameId with
  | none => rfl
  | some state =>
    dsimp only
    split
    · rfl
    · split
      · exact SortedMap.find?_insert_of_ne _ _ hg
      · obtain ⟨s', closed, hr | ⟨e, hr⟩⟩ := restoreLastLease_held PB w state
        · rw [hr]
          exact SortedMap.find?_erase_of_ne _ hg
        · rw [hr]
          exact SortedMap.find?_insert_of_ne _ _ hg

theorem findsOwn_of_reaches (hrunning : x.halted = false)
    (hok : ¬ HidesRelease PB x (.applyDecision decision target))
    (hreach : ReachesAcquire PB x decision target y) : FindsOwn y target := by
  obtain ⟨hwants, ⟨hnone, rfl⟩ | ⟨hheld, z, hr, rfl⟩⟩ := hreach
  · intro hlevel state hf
    by_contra hpid
    refine hok ⟨hrunning, hwants, hlevel, fun hstuck => hstuck.1 hnone, state, hf, hpid, ?_⟩
    exact fun _ hne => absurd hnone hne
  · have hfree : ¬ BoostStuck PB x := by
      intro hstuck
      obtain ⟨e, y', herror⟩ := callReleaseBoost_stuck hstuck "target change pre-release"
      cases hr.symm.trans herror
    have hz : z = (x.callReleaseBoost PB "target change pre-release").2 := by rw [hr]
    have hbooster : z.booster = (x.booster.releaseBoost PB x.priorityGameId x.priorityPid).2 ∧
        z.config = x.config ∧ z.boosterMaxLevel = x.boosterMaxLevel := by
      rw [hz, Executor.callReleaseBoost, Executor.emitAction]
      split
      · exact ⟨rfl, rfl, rfl⟩
      · exact ⟨rfl, rfl, rfl⟩
    obtain ⟨hbooster, hconfig, hmax⟩ := hbooster
    intro hlevel state hf
    have hlevel' : LevelAllowed x.config.priorityMaxLevel x.boosterMaxLevel := by
      rw [← hconfig, ← hmax]
      exact hlevel
    have hf' : (x.booster.releaseBoost PB x.priorityGameId x.priorityPid).2.leases.find?
        target.gameId = some state := by
      rw [← hbooster]
      exact hf
    by_contra hpid
    by_cases hgame : x.priorityGameId = target.gameId
    · have hfst : (x.callReleaseBoost PB "target change pre-release").1 = .ok () := by rw [hr]
      have hreleased : x.booster.releaseBoost PB x.priorityGameId x.priorityPid =
          (.ok (), (x.booster.releaseBoost PB x.priorityGameId x.priorityPid).2) :=
        Prod.ext hfst rfl
      rw [← hgame] at hf'
      obtain ⟨state', hf'', hsame, hc⟩ := find?_released hreleased hf'
      rw [hgame] at hf''
      refine hok ⟨hrunning, hwants, hlevel', hfree, state', hf'', ?_, fun _ _ => hc⟩
      rw [hsame]
      exact hpid
    · rw [find?_released_of_ne _ (Ne.symm hgame)] at hf'
      exact hok ⟨hrunning, hwants, hlevel', hfree, state, hf', hpid, fun h => absurd h hgame⟩

theorem sameAudit_countFailure (x : Executor σ τ) : SameAudit x x.countFailure := by
  unfold Executor.countFailure
  split
  · exact ⟨rfl, rfl, rfl, rfl, rfl, rfl⟩
  · exact ⟨rfl, rfl, rfl, rfl, rfl, rfl⟩

variable {V : OpenHandles PB} {LB : PowerRequestBackend τ}
  {x₀ x : Executor (Watched σ) (WatchedRequests τ)}

theorem auditing_perform (hobserved : x₀.config.observed = true) (h : Auditing V LB x₀ x)
    (op : ExecutorOp) (hok : ¬ HidesRelease (watched V) x op) :
    Auditing V LB x₀ (x.perform (watched V) (watchedRequests LB) op) := by
  cases op with
  | applyDecision decision target =>
    show Auditing V LB x₀ (x.applyDecision (watched V) (watchedRequests LB) decision target).2
    by_cases hrunning : x.halted = false
    · have hown : ∀ y, ReachesAcquire (watched V) x decision target y → FindsOwn y target :=
        fun y hy => findsOwn_of_reaches hrunning hok hy
      obtain ⟨y, hacts, ⟨e, hr⟩ | ⟨effect, hr⟩⟩ :=
        @applyDecision_acts _ _ _ (watchedRequests LB) x FindsOwn decision target hrunning hown
      · have hy := hacts.keeps (fun _ _ => auditing_act hobserved) h
        rw [hr]
        exact hy.same (sameAudit_countFailure y)
      · have hy := hacts.keeps (fun _ _ => auditing_act hobserved) h
        rw [hr]
        exact hy.same ⟨rfl, rfl, rfl, rfl, rfl, rfl⟩
    · rw [applyDecision_halted (Bool.eq_true_of_not_eq_false hrunning)]
      exact h
  | releaseAll =>
    have hacts : Acts (watched V) (watchedRequests LB) FindsOwn x _ := releaseAll_acts x
    exact hacts.keeps (fun _ _ => auditing_act hobserved) h
  | resetHalt => exact h.same ⟨rfl, rfl, rfl, rfl, rfl, rfl⟩

end Operations

/-! ## Whole runs -/

/-- An executor with an observer, before its first call. -/
def observedExecutor (config : ExecutorConfig) (boosterMaxLevel : PriorityLevel) (s : σ) (t : τ) :
    Executor (Watched σ) (WatchedRequests τ) :=
  .fresh { config with observed := true } boosterMaxLevel { inner := s } { inner := t }

theorem auditing_observed {PB : PriorityBackend σ} (V : OpenHandles PB)
    (LB : PowerRequestBackend τ) (config : ExecutorConfig) (boosterMaxLevel : PriorityLevel) (s : σ)
    (t : τ) : Auditing V LB (observedExecutor config boosterMaxLevel s t)
      (observedExecutor config boosterMaxLevel s t) where
  audited := ⟨.nil, rfl, trivial⟩
  named := .init V _
  config := rfl
  maxLevel := rfl

/-- As long as no acquire finds a lease of another process, the observer is told of every call, and
every call touches only what it is told of. -/
theorem every_action_audited {PB : PriorityBackend σ} (V : OpenHandles PB)
    (LB : PowerRequestBackend τ) (config : ExecutorConfig) (boosterMaxLevel : PriorityLevel) (s : σ)
    (t : τ) (ops : List ExecutorOp)
    (h : Steps (Executor.perform (watched V) (watchedRequests LB))
      (fun x op => ¬ HidesRelease (watched V) x op)
      (observedExecutor config boosterMaxLevel s t) ops) :
    Always (Executor.perform (watched V) (watchedRequests LB))
      (Audited V LB (observedExecutor config boosterMaxLevel s t))
      (observedExecutor config boosterMaxLevel s t) ops := by
  refine always_of_steps (I := Auditing V LB (observedExecutor config boosterMaxLevel s t)) ?_
    (fun _ hx => hx.audited) (auditing_observed V LB config boosterMaxLevel s t) h
  intro x op hx hok
  exact auditing_perform rfl hx op hok

def processTableOpen : OpenHandles processTable where
  pidOf s := s.handles
  open_ok hopen := ⟨(processTableQuiet.open_ok hopen).2.1, (processTableQuiet.open_ok hopen).2.2.1⟩
  open_error hopen := (processTableQuiet.open_error hopen).1
  time_keeps _ _ := rfl
  class_keeps _ _ := rfl
  set_keeps := by
    intro h cls s
    simp only [processTable]
    split <;> rfl
  close_keeps _ _ := rfl

def boostConfig : ExecutorConfig := { priorityEnabled := true, powerExecutionRequired := true }

def gameRunsAs (pid : UInt32) : ExecutorOp :=
  .applyDecision { action := .suggestPriorityBoost } { gameId := "a", pid := pid, running := true }

/-- A game that restarts: the executor releases the old process itself, with an event. -/
theorem restart_audited :
    Audited processTableOpen requestCounter
      (observedExecutor boostConfig .aboveNormal normalProcesses 0)
      (run (Executor.perform (watched processTableOpen) (watchedRequests requestCounter))
        (observedExecutor boostConfig .aboveNormal normalProcesses 0)
        [gameRunsAs 7, gameRunsAs 8]) := by
  refine (every_action_audited processTableOpen requestCounter boostConfig .aboveNormal
    normalProcesses 0 [gameRunsAs 7, gameRunsAs 8] ⟨?_, ?_, trivial⟩).last
  · rintro ⟨-, -, -, -, state, hf, -⟩
    cases hf
  · rintro ⟨-, -, -, -, state, hf, -, hcount⟩
    have hnoted : (Executor.perform (watched processTableOpen) (watchedRequests requestCounter)
        (observedExecutor boostConfig .aboveNormal normalProcesses 0)
        (gameRunsAs 7)).priorityGameId = "a" := by decide +kernel
    have hone : ((Executor.perform (watched processTableOpen) (watchedRequests requestCounter)
        (observedExecutor boostConfig .aboveNormal normalProcesses 0)
        (gameRunsAs 7)).booster.leases.find? "a").map (·.count) = some 1 := by decide +kernel
    have hshared := hcount hnoted (by rw [hnoted]; decide)
    rw [hf] at hone
    exact absurd (Option.some.inj hone) (Nat.ne_of_gt hshared)

/-! ## A boost that is forgotten -/

/-- The second attempt to set a class fails. -/
def flakyTable : PriorityBackend (ProcessTable × Nat) where
  openProcess pid s :=
    let answer := processTable.openProcess pid s.1
    (answer.1, answer.2, s.2)
  queryCreationTime h s := ((processTable.queryCreationTime h s.1).1, s)
  queryPriorityClass h s := ((processTable.queryPriorityClass h s.1).1, s)
  setPriorityClass h cls s :=
    if s.2 = 1 then (.error (.fromWin32 5 "SetPriorityClass"), s.1, 2)
    else
      let answer := processTable.setPriorityClass h cls s.1
      (answer.1, answer.2, s.2 + 1)
  closeProcess h s := (processTable.closeProcess h s.1, s.2)

def flakyTableOpen : OpenHandles flakyTable where
  pidOf s := s.1.handles
  open_ok {pid s h s'} hopen := by
    have hinner : processTable.openProcess pid s.1 = (.ok h, s'.1) :=
      Prod.ext (congrArg (fun r => r.1) hopen) (congrArg (fun r => r.2.1) hopen)
    exact processTableOpen.open_ok hinner
  open_error {pid s e s'} hopen := by
    have hinner : processTable.openProcess pid s.1 = (.error e, s'.1) :=
      Prod.ext (congrArg (fun r => r.1) hopen) (congrArg (fun r => r.2.1) hopen)
    exact processTableOpen.open_error hinner
  time_keeps _ _ := rfl
  class_keeps _ _ := rfl
  set_keeps := by
    intro h cls s
    simp only [flakyTable]
    split
    · rfl
    · exact processTableOpen.set_keeps h cls s.1
  close_keeps _ _ := rfl

def flakyExecutor : Executor (Watched (ProcessTable × Nat)) (WatchedRequests Nat) :=
  observedExecutor { priorityEnabled := true } .aboveNormal (normalProcesses, 0) 0

/-- The game is boosted as process 7, cannot be released, and comes back as process 8. -/
def forgottenBoost : Executor (Watched (ProcessTable × Nat)) (WatchedRequests Nat) :=
  run (Executor.perform (watched flakyTableOpen) (watchedRequests requestCounter)) flakyExecutor
    [gameRunsAs 7, .releaseAll, gameRunsAs 8]

/-- Process 7 gets its class back inside the call that boosts process 8. -/
theorem forgotten_boost_unreported :
    forgottenBoost.events.map (fun e => (e.operationId, e.target, e.ok)) =
        [("priority.boost", "a pid 7", true), ("priority.unboost", "a pid 7", false),
          ("priority.boost", "a pid 8", true)] ∧
      forgottenBoost.booster.backend.sets = [some 7, some 7, some 7, some 8] ∧
      ¬ Audited flakyTableOpen requestCounter flakyExecutor forgottenBoost := by
  refine ⟨by decide +kernel, by decide +kernel, fun h => ?_⟩
  have hcalls : forgottenBoost.calls = [
      .acquireBoost { action := .suggestPriorityBoost } { gameId := "a", pid := 7, running := true }
        true,
      .releaseBoost "a" 7 false,
      .acquireBoost { action := .suggestPriorityBoost } { gameId := "a", pid := 8, running := true }
        true] := by
    decide +kernel
  have heach := h.each
  rw [hcalls] at heach
  obtain ⟨-, -, ⟨-, hconfined, -⟩, -⟩ := heach
  -- the lease of process 7 is gone after the third call
  have hkept := hconfined.leases "a"
    { pid := 7, creationTime100ns := 1, handle := 1, originalClass := 0x20, targetClass := 0x8000,
      level := .aboveNormal, count := 1 } (by decide +kernel) (by decide)
  exact absurd hkept (by decide +kernel)

end Policy
end CppOptimizer
