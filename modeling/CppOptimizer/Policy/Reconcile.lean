import CppOptimizer.Lib.Run
import CppOptimizer.Policy.Executor

/-!
# CppOptimizer.Policy.Reconcile

What an executor holds after each call of `ApplyDecision`, when the backends succeed.

* `PriorityBackend.Succeeds`, `PowerRequestBackend.Succeeds` — no call of the backend fails.
* `CallOk`   — a running target has a name and a pid, and is the process that this pid opens.
* `Consistent` — the invariant: the three held records of the executor agree with the tables of the
  booster and the locker.
* `Settled`  — what a decision and a target ask for is what is held.
-/

namespace CppOptimizer

open Common Config Lib Power Priority

/-- Processes open, classes can be read and set. The creation time is not in here: whether it is the
expected one depends on the target. -/
structure Priority.PriorityBackend.Succeeds {σ : Type} (B : PriorityBackend σ) : Prop where
  opens : ∀ pid s, ∃ handle s', B.openProcess pid s = (.ok handle, s')
  readsClass : ∀ handle s, (B.queryPriorityClass handle s).1 ≠ 0
  setsClass : ∀ handle cls s, (B.setPriorityClass handle cls s).1 = .ok ()

structure Power.PowerRequestBackend.Succeeds {τ : Type} (B : PowerRequestBackend τ) : Prop where
  creates : ∀ reason t, ∃ handle t', B.createRequest reason t = (.ok handle, t')
  sets : ∀ handle type t, ∃ t', B.setRequest handle type t = (.ok (), t')
  clears : ∀ handle type t, ∃ t', B.clearRequest handle type t = (.ok (), t')

/-! ## Booster and locker under succeeding backends -/

namespace Priority

variable {σ : Type} {B : PriorityBackend σ} {w : Booster σ} {gameId : String} {pid : UInt32}

/-- The process that `pid` opens has the creation time the caller expects, if it expects one. -/
def Identified (B : PriorityBackend σ) (s : σ) (pid : UInt32) (expectedCreationTime100ns : UInt64) :
    Prop :=
  expectedCreationTime100ns ≠ 0 → ∀ handle s', B.openProcess pid s = (.ok handle, s') →
    (B.queryCreationTime handle s').1 = expectedCreationTime100ns

theorem restoreLastLease_ok (hB : B.Succeeds) (state : LeaseState) :
    ∃ state' w', w.restoreLastLease B state = (.ok (), state', w') ∧ w'.leases = w.leases := by
  simp only [Booster.restoreLastLease, Booster.setPriorityClass, hB.setsClass]
  split
  · exact ⟨_, _, rfl, rfl⟩
  · split
    · exact ⟨_, _, rfl, rfl⟩
    · split
      · exact ⟨_, _, rfl, rfl⟩
      · exact ⟨_, _, rfl, rfl⟩

/-- Releasing the only lease of a game erases it. -/
theorem releaseBoost_last (hB : B.Succeeds) {state : LeaseState}
    (hf : w.leases.find? gameId = some state) (hc : state.count = 1) :
    ∃ w', w.releaseBoost B gameId state.pid = (.ok (), w') ∧
      w'.leases = w.leases.erase gameId := by
  obtain ⟨state', w', hr, hl⟩ := restoreLastLease_ok (w := w) hB state
  have hlt : ¬ state.count > 1 := by omega
  refine ⟨{ w' with leases := w'.leases.erase gameId }, ?_, ?_⟩
  · simp only [Booster.releaseBoost, hf, hlt, hr, ne_eq, not_true_eq_false, if_false]
  · simp only [hl]

/-- The level `AcquireBoost` accepts. -/
def LevelAllowed (level maxLevel : PriorityLevel) : Prop :=
  level ≠ .none ∧ levelExceeds level maxLevel = false

theorem priorityLevelToWin32Class_ok {level : PriorityLevel} (h : level ≠ .none) :
    ∃ target, priorityLevelToWin32Class level = .ok target := by
  cases level with
  | none => exact absurd rfl h
  | aboveNormal => exact ⟨_, rfl⟩
  | high => exact ⟨_, rfl⟩

/-- An acquire for a game without a lease stores a lease counted once. -/
theorem acquireBoost_first (hB : B.Succeeds) {maxLevel level : PriorityLevel} {time : UInt64}
    (hlevel : LevelAllowed level maxLevel) (hf : w.leases.find? gameId = none)
    (hid : Identified B w.backend pid time) :
    ∃ w' state, w.acquireBoost B maxLevel gameId pid time level = (.ok (), w') ∧
      w'.leases = w.leases.insert gameId state ∧ state.pid = pid ∧ state.count = 1 := by
  obtain ⟨target, ht⟩ := priorityLevelToWin32Class_ok hlevel.1
  obtain ⟨handle, s₁, ho⟩ := hB.opens pid w.backend
  have hmatch : ¬ (time ≠ 0 ∧ ((B.queryCreationTime handle s₁).1 = 0 ∨
      (B.queryCreationTime handle s₁).1 ≠ time)) := by
    rintro ⟨hne, hbad⟩
    have heq := hid hne handle s₁ ho
    rcases hbad with h0 | hn
    · exact hne (heq ▸ h0)
    · exact hn heq
  simp only [Booster.acquireBoost, hlevel.1, hlevel.2, hf, ht, Booster.acquireFresh,
    Booster.openProcess, ho, Booster.queryCreationTime, hmatch, Booster.queryPriorityClass,
    hB.readsClass, Booster.setPriorityClass, hB.setsClass, if_false, Bool.false_eq_true]
  exact ⟨_, _, rfl, rfl, rfl, rfl⟩

end Priority

namespace Power

variable {τ : Type} {B : PowerRequestBackend τ} {w : Locker τ} {type : PowerLockType}

theorem acquireLock_first (hB : B.Succeeds) (hc : (w.state type).count = 0) (reason : String) :
    ∃ w', w.acquireLock B type reason = (.ok (), w') ∧
      ∀ type', (w'.state type').count = if type' = type then 1 else (w.state type').count := by
  obtain ⟨handle, t₁, hcreate⟩ := hB.creates reason w.backend
  obtain ⟨t₂, hset⟩ := hB.sets handle type t₁
  simp only [Locker.acquireLock, hc, hcreate, hset, if_true]
  refine ⟨_, rfl, ?_⟩
  intro type'
  rw [Locker.setState_state]
  split
  · rfl
  · cases type' <;> rfl

theorem releaseLock_last (hB : B.Succeeds) (hc : (w.state type).count = 1) :
    ∃ w', w.releaseLock B type = (.ok (), w') ∧
      ∀ type', (w'.state type').count = if type' = type then 0 else (w.state type').count := by
  obtain ⟨t₁, hclear⟩ := hB.clears (w.state type).handle type w.backend
  have h0 : (w.state type).count ≠ 0 := by omega
  have h1 : (w.state type).count - 1 = 0 := by omega
  simp only [Locker.releaseLock, h0, h1, hclear, if_true, if_false]
  refine ⟨_, rfl, ?_⟩
  intro type'
  rw [Locker.setState_state]
  split
  · rfl
  · cases type' <;> rfl

end Power

/-! ## The executor -/

namespace Policy

variable {σ τ : Type} (PB : PriorityBackend σ) (LB : PowerRequestBackend τ)

/-- One call of `ApplyDecision`, as a step on the executor. -/
def Executor.apply (x : Executor σ τ) (call : PolicyDecision × ExecutorTarget) : Executor σ τ :=
  (x.applyDecision PB LB call.1 call.2).2

/-- The backend state in which the boost of a new target is asked for: what is held is released
before. -/
def Executor.boostState (x : Executor σ τ) : σ :=
  if x.priorityGameId ≠ "" then
    (x.booster.releaseBoost PB x.priorityGameId x.priorityPid).2.backend
  else x.booster.backend

structure CallOk (x : Executor σ τ) (call : PolicyDecision × ExecutorTarget) : Prop where
  named : call.2.running = true → call.2.gameId ≠ ""
  hasPid : call.2.running = true → call.2.pid ≠ 0
  identified : call.2.running = true →
    Identified PB (x.boostState PB) call.2.pid call.2.creationTime100ns

/-- The records of the executor agree with the tables of the booster and the locker. -/
structure Consistent (x : Executor σ τ) : Prop where
  active : x.halted = false
  noFailures : x.consecutiveActionFailures = 0
  noLease : x.priorityGameId = "" → x.booster.leases.entries = []
  oneLease : x.priorityGameId ≠ "" → ∃ state, x.booster.leases.entries = [(x.priorityGameId, state)] ∧
    state.pid = x.priorityPid ∧ state.count = 1
  locks : ∀ type, (x.locker.state type).count = (x.held type).toNat

namespace Executor

variable {PB LB} {x : Executor σ τ} {decision : PolicyDecision} {target : ExecutorTarget}
  {effect : ExecutorEffect}

theorem emitAction_eq (x : Executor σ τ) (operationId target detail : String) (ok : Bool) :
    ∃ events, x.emitAction operationId target detail ok = { x with events := events } := by
  unfold emitAction
  split
  · exact ⟨_, rfl⟩
  · exact ⟨x.events, rfl⟩

theorem find?_single {m : SortedMap String LeaseState} {gameId : String} {state : LeaseState}
    (h : m.entries = [(gameId, state)]) : m.find? gameId = some state := by
  rw [SortedMap.find?_eq_some, h]
  exact List.mem_singleton.mpr rfl

theorem find?_empty {m : SortedMap String LeaseState} (h : m.entries = []) (gameId : String) :
    m.find? gameId = none := by
  rw [SortedMap.find?_eq_none, h]
  intro q hq
  cases hq

/-- The boost that is held is released: no lease is left. -/
theorem callReleaseBoost_spec (hPB : PB.Succeeds) (hx : Consistent x) (hheld : x.priorityGameId ≠ "")
    (detail : String) :
    ∃ booster events calls, x.callReleaseBoost PB detail =
        (.ok (), { x with booster := booster, events := events, calls := calls }) ∧
      booster.leases.entries = [] ∧ booster.backend = x.boostState PB := by
  obtain ⟨state, hentries, hpid, hcount⟩ := hx.oneLease hheld
  obtain ⟨w', hr, hl⟩ := releaseBoost_last hPB (find?_single hentries) hcount
  rw [hpid] at hr
  simp only [callReleaseBoost, boostState, hr, hheld, ne_eq, not_false_eq_true, if_true]
  obtain ⟨events, hev⟩ := emitAction_eq
    { x with booster := w', calls := x.calls ++
        [ExecutorCall.releaseBoost x.priorityGameId x.priorityPid (Result.ok? (.ok ()))] }
    "priority.unboost" (boostTarget x.priorityGameId x.priorityPid) detail
    (Result.ok? (.ok ()))
  rw [hev]
  refine ⟨w', events, _, rfl, ?_, rfl⟩
  rw [hl]
  simp [SortedMap.erase, hentries]

theorem callAcquireBoost_spec (decision : PolicyDecision) (hPB : PB.Succeeds)
    (hlevel : LevelAllowed x.config.priorityMaxLevel x.boosterMaxLevel)
    (hentries : x.booster.leases.entries = [])
    (hid : Identified PB x.booster.backend target.pid target.creationTime100ns) :
    ∃ booster events calls state, x.callAcquireBoost PB decision target =
        (.ok (), { x with booster := booster, events := events, calls := calls }) ∧
      booster.leases.entries = [(target.gameId, state)] ∧ state.pid = target.pid ∧
      state.count = 1 := by
  obtain ⟨w', state, hr, hl, hpid, hcount⟩ := acquireBoost_first hPB hlevel
    (find?_empty hentries target.gameId) hid
  simp only [callAcquireBoost, hr]
  obtain ⟨events, hev⟩ := emitAction_eq
    { x with booster := w', calls := x.calls ++
        [ExecutorCall.acquireBoost decision target (Result.ok? (.ok ()))] }
    "priority.boost" (boostTarget target.gameId target.pid)
    ("level=" ++ toString x.config.priorityMaxLevel.toNat) (Result.ok? (.ok ()))
  rw [hev]
  refine ⟨w', events, _, state, rfl, ?_, hpid, hcount⟩
  rw [hl]
  simp [SortedMap.insert, hentries, SortedMap.insertEntry]

/-- What the priority step may write, and what it leaves held. -/
structure PriorityDone (x : Executor σ τ) (decision : PolicyDecision) (target : ExecutorTarget)
    (x' : Executor σ τ) : Prop where
  frame : ∃ booster gameId pid events calls, x' =
    { x with booster := booster, priorityGameId := gameId, priorityPid := pid, events := events,
             calls := calls }
  consistent : Consistent x'
  wanted : x.desired decision target = true →
    x'.priorityGameId = target.gameId ∧ x'.priorityPid = target.pid
  unwanted : x.desired decision target = false → x'.priorityGameId = ""

theorem desired_running (h : x.desired decision target = true) : target.running = true := by
  simp only [desired, Bool.and_eq_true] at h
  exact h.1.2

/-- From an executor that holds no boost, the acquire ends holding the target. -/
theorem acquireTarget_spec {y : Executor σ τ} (hPB : PB.Succeeds)
    (hlevel : LevelAllowed y.config.priorityMaxLevel y.boosterMaxLevel)
    (hentries : y.booster.leases.entries = []) (hname : target.gameId ≠ "")
    (hid : Identified PB y.booster.backend target.pid target.creationTime100ns)
    (hframe : ∃ booster gameId pid events calls, y =
      { x with booster := booster, priorityGameId := gameId, priorityPid := pid, events := events,
               calls := calls })
    (hx : Consistent x) (hdesired : x.desired decision target = true) :
    ∃ effect' x', y.acquireTarget PB decision target effect = (.ok (), effect', x') ∧
      PriorityDone x decision target x' := by
  obtain ⟨booster, events, calls, state, hr, hl, hpid, hcount⟩ :=
    callAcquireBoost_spec decision hPB hlevel hentries hid
  obtain ⟨b, g, p, ev, cs, rfl⟩ := hframe
  simp only [acquireTarget, hr]
  refine ⟨_, _, rfl, ⟨booster, target.gameId, target.pid, events, calls, rfl⟩, ?_, ?_, ?_⟩
  · refine ⟨hx.active, hx.noFailures, ?_, ?_, hx.locks⟩
    · intro h
      exact absurd h hname
    · intro _
      exact ⟨state, hl, hpid, hcount⟩
  · intro _
    exact ⟨rfl, rfl⟩
  · intro h
    rw [hdesired] at h
    cases h

theorem boostState_idle (h : x.priorityGameId = "") : x.boostState PB = x.booster.backend :=
  if_neg (not_not.mpr h)

theorem reconcilePriority_spec (hPB : PB.Succeeds)
    (hlevel : LevelAllowed x.config.priorityMaxLevel x.boosterMaxLevel) (hx : Consistent x)
    (hcall : CallOk PB x (decision, target)) (effect : ExecutorEffect) :
    ∃ effect' x', x.reconcilePriority PB decision target effect = (.ok (), effect', x') ∧
      PriorityDone x decision target x' := by
  unfold reconcilePriority
  by_cases hdesired : x.desired decision target = true
  · have hrun := desired_running hdesired
    simp only [hdesired, if_true, hcall.hasPid hrun, if_false]
    by_cases hsame : x.priorityGameId = target.gameId ∧ x.priorityPid = target.pid
    · simp only [hsame, and_self, if_true]
      refine ⟨effect, x, rfl, ⟨_, _, _, _, _, rfl⟩, hx, ?_, ?_⟩
      · intro _
        exact hsame
      · intro h
        rw [hdesired] at h
        cases h
    · simp only [hsame, if_false]
      by_cases hheld : x.priorityGameId = ""
      · simp only [hheld, ne_eq, not_true_eq_false, if_false]
        have hid := hcall.identified hrun
        rw [boostState_idle hheld] at hid
        exact acquireTarget_spec hPB hlevel (hx.noLease hheld) (hcall.named hrun) hid
          ⟨_, _, _, _, _, rfl⟩ hx hdesired
      · simp only [hheld, ne_eq, not_false_eq_true, if_true]
        obtain ⟨booster, events, calls, hr, hempty, hstate⟩ :=
          callReleaseBoost_spec hPB hx hheld "target change pre-release"
        rw [hr]
        have hid := hcall.identified hrun
        rw [← hstate] at hid
        exact acquireTarget_spec hPB hlevel hempty (hcall.named hrun) hid
          ⟨_, _, _, _, _, rfl⟩ hx hdesired
  · simp only [hdesired, if_false, Bool.false_eq_true]
    by_cases hheld : x.priorityGameId = ""
    · simp only [hheld, ne_eq, not_true_eq_false, if_false]
      refine ⟨effect, x, rfl, ⟨_, _, _, _, _, rfl⟩, hx, fun h => absurd h hdesired, ?_⟩
      intro _
      exact hheld
    · simp only [hheld, ne_eq, not_false_eq_true, if_true]
      obtain ⟨booster, events, calls, hr, hempty, _⟩ :=
        callReleaseBoost_spec hPB hx hheld "game exit or no longer desired"
      rw [hr]
      refine ⟨_, _, rfl, ⟨booster, "", x.priorityPid, events, calls, rfl⟩, ?_,
        fun h => absurd h hdesired, fun _ => rfl⟩
      exact ⟨hx.active, hx.noFailures, fun _ => hempty, fun h => absurd rfl h, hx.locks⟩

@[simp] theorem setHeld_held (x : Executor σ τ) (type type' : PowerLockType) (b : Bool) :
    (x.setHeld type b).held type' = if type' = type then b else x.held type' := by
  cases type <;> cases type' <;> rfl

/-- What a power step leaves alone. -/
structure PowerFrame (x x' : Executor σ τ) : Prop where
  booster : x'.booster = x.booster
  config : x'.config = x.config
  boosterMaxLevel : x'.boosterMaxLevel = x.boosterMaxLevel
  priorityGameId : x'.priorityGameId = x.priorityGameId
  priorityPid : x'.priorityPid = x.priorityPid
  halted : x'.halted = x.halted
  failures : x'.consecutiveActionFailures = x.consecutiveActionFailures

theorem PowerFrame.refl (x : Executor σ τ) : PowerFrame x x := ⟨rfl, rfl, rfl, rfl, rfl, rfl, rfl⟩

theorem PowerFrame.trans {x y z : Executor σ τ} (h : PowerFrame x y) (h' : PowerFrame y z) :
    PowerFrame x z where
  booster := h'.booster.trans h.booster
  config := h'.config.trans h.config
  boosterMaxLevel := h'.boosterMaxLevel.trans h.boosterMaxLevel
  priorityGameId := h'.priorityGameId.trans h.priorityGameId
  priorityPid := h'.priorityPid.trans h.priorityPid
  halted := h'.halted.trans h.halted
  failures := h'.failures.trans h.failures

theorem PowerFrame.consistent {x x' : Executor σ τ} (h : PowerFrame x x') (hx : Consistent x)
    (hlocks : ∀ type, (x'.locker.state type).count = (x'.held type).toNat) : Consistent x' where
  active := h.halted.trans hx.active
  noFailures := h.failures.trans hx.noFailures
  noLease := by
    rw [h.priorityGameId, h.booster]
    exact hx.noLease
  oneLease := by
    rw [h.priorityGameId, h.booster, h.priorityPid]
    exact hx.oneLease
  locks := hlocks

theorem powerFrame_setHeld {locker : Locker τ} {events : List ExecutorActionEvent}
    {calls : List ExecutorCall} (type : PowerLockType) (b : Bool) :
    PowerFrame x (Executor.setHeld { x with locker := locker, events := events, calls := calls }
      type b) := by
  cases type <;> exact ⟨rfl, rfl, rfl, rfl, rfl, rfl, rfl⟩

theorem setHeld_locker (x : Executor σ τ) (type : PowerLockType) (b : Bool) :
    (x.setHeld type b).locker = x.locker := by
  cases type <;> rfl

/-- The power step for one request type: held exactly if wanted, the other type untouched. -/
theorem reconcilePowerLock_spec (hLB : LB.Succeeds) (hx : Consistent x) (type : PowerLockType)
    (want : Bool) (detail : String) (effect : ExecutorEffect) :
    ∃ effect' x', x.reconcilePowerLock LB type want detail effect = (.ok (), effect', x') ∧
      PowerFrame x x' ∧ Consistent x' ∧
      ∀ type', x'.held type' = if type' = type then want else x.held type' := by
  have hcount := hx.locks type
  unfold reconcilePowerLock
  by_cases hacquire : want = true ∧ x.held type = false
  · rw [hacquire.2] at hcount
    obtain ⟨w', hr, hl⟩ := acquireLock_first hLB hcount x.config.powerReason
    simp only [hacquire, and_self, if_true, callAcquireLock, hr]
    obtain ⟨events, hev⟩ := emitAction_eq
      { x with locker := w', calls := x.calls ++
          [ExecutorCall.acquireLock type (Result.ok? (.ok ()))] }
      "power.hold" "policy (game running)" detail (Result.ok? (.ok ()))
    rw [hev]
    refine ⟨_, _, rfl, powerFrame_setHeld type true, ?_, fun type' => setHeld_held _ type type' true⟩
    apply (powerFrame_setHeld type true).consistent hx
    intro type'
    rw [setHeld_locker, setHeld_held, hl]
    split
    · rfl
    · exact hx.locks type'
  · by_cases hrelease : want = false ∧ x.held type = true
    · rw [hrelease.2] at hcount
      obtain ⟨w', hr, hl⟩ := releaseLock_last hLB hcount
      simp only [hrelease, and_self, if_true, callReleaseLock, hr, Bool.false_eq_true, false_and,
        if_false]
      obtain ⟨events, hev⟩ := emitAction_eq
        { x with locker := w', calls := x.calls ++
            [ExecutorCall.releaseLock type (Result.ok? (.ok ()))] }
        "power.release" "policy" (detail ++ " (game exit or no longer desired)")
        (Result.ok? (.ok ()))
      rw [hev]
      refine ⟨_, _, rfl, powerFrame_setHeld type false, ?_,
        fun type' => setHeld_held _ type type' false⟩
      apply (powerFrame_setHeld type false).consistent hx
      intro type'
      rw [setHeld_locker, setHeld_held, hl]
      split
      · rfl
      · exact hx.locks type'
    · simp only [hacquire, hrelease, if_false]
      refine ⟨effect, x, rfl, .refl x, hx, ?_⟩
      intro type'
      by_cases htype : type' = type
      · subst htype
        cases hw : want <;> cases hh : x.held type' <;> simp_all
      · simp [htype]

theorem reconcilePower_spec (hLB : LB.Succeeds) (hx : Consistent x) (target : ExecutorTarget)
    (effect : ExecutorEffect) :
    ∃ effect' x', x.reconcilePower LB target effect = (.ok (), effect', x') ∧
      PowerFrame x x' ∧ Consistent x' ∧
      x'.powerHeld = (x.config.powerExecutionRequired && target.running) ∧
      x'.displayHeld = (x.config.powerDisplayRequired && target.running) := by
  obtain ⟨effect₁, x₁, h₁, hframe₁, hx₁, hheld₁⟩ := reconcilePowerLock_spec hLB hx
    .executionRequired (x.config.powerExecutionRequired && target.running) "execution power request"
    effect
  obtain ⟨effect₂, x₂, h₂, hframe₂, hx₂, hheld₂⟩ := reconcilePowerLock_spec hLB hx₁
    .displayRequired (x₁.config.powerDisplayRequired && target.running) "display power request"
    effect₁
  simp only [reconcilePower, h₁, h₂]
  refine ⟨effect₂, x₂, rfl, hframe₁.trans hframe₂, hx₂, ?_, ?_⟩
  · have hexec : x₂.held .executionRequired = x₁.held .executionRequired := hheld₂ .executionRequired
    exact hexec.trans (hheld₁ .executionRequired)
  · rw [← hframe₁.config]
    exact hheld₂ .displayRequired

/-- The records of the executor are what the decision and the target ask for. -/
structure Reconciled (x : Executor σ τ) (decision : PolicyDecision) (target : ExecutorTarget) :
    Prop where
  power : x.powerHeld = (x.config.powerExecutionRequired && target.running)
  display : x.displayHeld = (x.config.powerDisplayRequired && target.running)
  wanted : x.desired decision target = true →
    x.priorityGameId = target.gameId ∧ x.priorityPid = target.pid
  unwanted : x.desired decision target = false → x.priorityGameId = ""

/-- One call succeeds, keeps the invariant and leaves what it was asked for. -/
theorem applyDecision_spec (hPB : PB.Succeeds) (hLB : LB.Succeeds)
    (hlevel : LevelAllowed x.config.priorityMaxLevel x.boosterMaxLevel) (hx : Consistent x)
    (hcall : CallOk PB x (decision, target)) :
    ∃ effect x', x.applyDecision PB LB decision target = (.ok effect, x') ∧ Consistent x' ∧
      x'.config = x.config ∧ x'.boosterMaxLevel = x.boosterMaxLevel ∧
      Reconciled x' decision target := by
  obtain ⟨effect₁, x₁, h₁, hdone⟩ := reconcilePriority_spec hPB hlevel hx hcall {}
  obtain ⟨effect₂, x₂, h₂, hframe, hx₂, hpower, hdisplay⟩ :=
    reconcilePower_spec hLB hdone.consistent target effect₁
  have hconfig : x₁.config = x.config ∧ x₁.boosterMaxLevel = x.boosterMaxLevel := by
    obtain ⟨_, _, _, _, _, rfl⟩ := hdone.frame
    exact ⟨rfl, rfl⟩
  have hdesired : x₂.desired decision target = x.desired decision target := by
    simp only [desired, hframe.config, hconfig.1]
  simp only [applyDecision, hx.active, Bool.false_eq_true, if_false, applyPower, h₁, h₂]
  refine ⟨effect₂, _, rfl, ?_, hframe.config.trans hconfig.1,
    hframe.boosterMaxLevel.trans hconfig.2, ?_⟩
  · exact ⟨hx₂.active, rfl, hx₂.noLease, hx₂.oneLease, hx₂.locks⟩
  · refine ⟨?_, ?_, ?_, ?_⟩
    · show x₂.powerHeld = (x₂.config.powerExecutionRequired && target.running)
      rw [hpower, hframe.config]
    · show x₂.displayHeld = (x₂.config.powerDisplayRequired && target.running)
      rw [hdisplay, hframe.config]
    · intro h
      have hw := hdone.wanted (hdesired.symm.trans h)
      exact ⟨hframe.priorityGameId.trans hw.1, hframe.priorityPid.trans hw.2⟩
    · intro h
      exact hframe.priorityGameId.trans (hdone.unwanted (hdesired.symm.trans h))

/-- A call that asks for what is held does nothing. -/
theorem applyDecision_idle (hx : Consistent x) (hpid : target.running = true → target.pid ≠ 0)
    (h : Reconciled x decision target) :
    x.applyDecision PB LB decision target = (.ok {}, x) := by
  have hpriority : x.reconcilePriority PB decision target {} = (.ok (), {}, x) := by
    unfold reconcilePriority
    by_cases hdesired : x.desired decision target = true
    · simp only [hdesired, if_true, hpid (desired_running hdesired), if_false, h.wanted hdesired,
        and_self]
    · have hnone := h.unwanted (Bool.not_eq_true _ ▸ hdesired)
      simp only [hdesired, if_false, hnone, ne_eq, not_true_eq_false, Bool.false_eq_true]
  have hlock : ∀ type want detail, x.held type = want →
      x.reconcilePowerLock LB type want detail {} = (.ok (), {}, x) := by
    intro type want detail hheld
    subst hheld
    unfold reconcilePowerLock
    cases x.held type <;> simp
  have hexec := hlock .executionRequired _ "execution power request" h.power
  have hdisp := hlock .displayRequired _ "display power request" h.display
  have hactive : ¬ x.halted = true := by
    rw [hx.active]
    exact Bool.false_ne_true
  have hzero : { x with consecutiveActionFailures := 0 } = x := by
    rw [← hx.noFailures]
  rw [applyDecision, if_neg hactive, hpriority]
  simp only [applyPower, reconcilePower, hexec, hdisp, hzero]

end Executor

/-- What is held is what the decision and the target ask for, in the executor's records and in the
tables of the booster and the locker. -/
structure Settled (x : Executor σ τ) (decision : PolicyDecision) (target : ExecutorTarget) :
    Prop where
  execution : x.locker.isLocked .executionRequired = true ↔
    x.config.powerExecutionRequired = true ∧ target.running = true
  display : x.locker.isLocked .displayRequired = true ↔
    x.config.powerDisplayRequired = true ∧ target.running = true
  boosted : ∀ gameId, x.booster.isBoosted gameId = true ↔
    x.config.priorityEnabled = true ∧ target.running = true ∧
      decision.action = .suggestPriorityBoost ∧ gameId = target.gameId
  process : ∀ state, x.booster.leases.find? target.gameId = some state → state.pid = target.pid
  boostCount : x.booster.leases.entries.map (fun entry => (entry.1, entry.2.count)) =
    if x.priorityGameId ≠ "" then [(x.priorityGameId, 1)] else []
  lockCount : ∀ type, (x.locker.state type).count = (x.held type).toNat

namespace Executor

/-- An executor that has not been called yet. -/
def fresh (config : ExecutorConfig) (boosterMaxLevel : PriorityLevel) (s : σ) (t : τ) :
    Executor σ τ :=
  { booster := { backend := s }, locker := { backend := t }, boosterMaxLevel := boosterMaxLevel,
    config := config }

theorem consistent_fresh (config : ExecutorConfig) (boosterMaxLevel : PriorityLevel) (s : σ)
    (t : τ) : Consistent (fresh config boosterMaxLevel s t) where
  active := rfl
  noFailures := rfl
  noLease _ := rfl
  oneLease h := absurd rfl h
  locks type := by cases type <;> rfl

variable {PB LB} {x : Executor σ τ} {decision : PolicyDecision} {target : ExecutorTarget}

theorem desired_iff : x.desired decision target = true ↔
    x.config.priorityEnabled = true ∧ target.running = true ∧
      decision.action = .suggestPriorityBoost := by
  simp [desired, and_assoc]

/-- The records and the invariant give what is held below. -/
theorem settled_of_reconciled (hx : Consistent x) (hname : target.running = true → target.gameId ≠ "")
    (h : Reconciled x decision target) : Settled x decision target := by
  have hlocked : ∀ type, x.locker.isLocked type = x.held type := by
    intro type
    simp only [Locker.isLocked, hx.locks type]
    cases x.held type <;> rfl
  by_cases hdesired : x.desired decision target = true
  · obtain ⟨hgame, hpid⟩ := h.wanted hdesired
    have hne : x.priorityGameId ≠ "" := hgame ▸ hname (desired_running hdesired)
    obtain ⟨state, hentries, hstate, hcount⟩ := hx.oneLease hne
    have hfind := find?_single hentries
    refine ⟨?_, ?_, ?_, ?_, ?_, hx.locks⟩
    · rw [hlocked, held, h.power, Bool.and_eq_true]
    · rw [hlocked, held, h.display, Bool.and_eq_true]
    · intro gameId
      obtain ⟨henabled, hrun, haction⟩ := desired_iff.mp hdesired
      simp only [henabled, hrun, haction, true_and]
      by_cases hg : gameId = target.gameId
      · subst hg
        rw [hgame] at hfind
        simp [Booster.isBoosted, hfind, hcount]
      · have hnone : x.booster.leases.find? gameId = none := by
          rw [SortedMap.find?_eq_none, hentries]
          intro q hq
          rw [List.mem_singleton.mp hq, hgame]
          exact fun heq => hg heq.symm
        simp [Booster.isBoosted, hnone, hg]
    · intro state' hstate'
      rw [← hgame, hfind] at hstate'
      cases hstate'
      exact hstate.trans hpid
    · simp [hne, hentries, hcount]
  · have hnone := h.unwanted (Bool.not_eq_true _ ▸ hdesired)
    have hentries := hx.noLease hnone
    refine ⟨?_, ?_, ?_, ?_, ?_, hx.locks⟩
    · rw [hlocked, held, h.power, Bool.and_eq_true]
    · rw [hlocked, held, h.display, Bool.and_eq_true]
    · intro gameId
      rw [desired_iff] at hdesired
      constructor
      · intro hboosted
        simp [Booster.isBoosted, find?_empty hentries gameId] at hboosted
      · rintro ⟨henabled, hrun, haction, _⟩
        exact absurd ⟨henabled, hrun, haction⟩ hdesired
    · intro state' hstate'
      rw [find?_empty hentries] at hstate'
      cases hstate'
    · simp [hnone, hentries]

/-- The invariant along a run, together with what no call changes. -/
theorem run_consistent {config : ExecutorConfig} {boosterMaxLevel : PriorityLevel}
    (hPB : PB.Succeeds) (hLB : LB.Succeeds)
    (hlevel : LevelAllowed config.priorityMaxLevel boosterMaxLevel)
    (hx : Consistent x ∧ x.config = config ∧ x.boosterMaxLevel = boosterMaxLevel)
    {calls : List (PolicyDecision × ExecutorTarget)}
    (hcalls : Steps (Executor.apply PB LB) (CallOk PB) x calls) :
    Always (Executor.apply PB LB) (fun x => Consistent x ∧ x.config = config ∧
      x.boosterMaxLevel = boosterMaxLevel) x calls := by
  refine always_of_steps (I := fun x => Consistent x ∧ x.config = config ∧
    x.boosterMaxLevel = boosterMaxLevel) ?_ (fun _ h => h) hx hcalls
  rintro y ⟨decision, target⟩ ⟨hy, hconfig, hmax⟩ hcall
  have hlevel' : LevelAllowed y.config.priorityMaxLevel y.boosterMaxLevel := by
    rw [hconfig, hmax]
    exact hlevel
  obtain ⟨effect, y', hr, hy', hconfig', hmax', _⟩ := applyDecision_spec hPB hLB hlevel' hy hcall
  simp only [Executor.apply, hr]
  exact ⟨hy', hconfig'.trans hconfig, hmax'.trans hmax⟩

end Executor

/-- After each call of a run the executor holds exactly what that call asked for, and the same call
made again changes nothing and calls nothing below. -/
theorem executor_reconciles {PB : PriorityBackend σ} {LB : PowerRequestBackend τ}
    (hPB : PB.Succeeds) (hLB : LB.Succeeds) {config : ExecutorConfig}
    {boosterMaxLevel : PriorityLevel}
    (hlevel : LevelAllowed config.priorityMaxLevel boosterMaxLevel) (s : σ) (t : τ)
    (calls : List (PolicyDecision × ExecutorTarget)) (decision : PolicyDecision)
    (target : ExecutorTarget)
    (hcalls : Steps (Executor.apply PB LB) (CallOk PB)
      (Executor.fresh config boosterMaxLevel s t) (calls ++ [(decision, target)])) :
    ∃ x effect, Executor.applyDecision PB LB
        (run (Executor.apply PB LB) (Executor.fresh config boosterMaxLevel s t) calls) decision
        target = (.ok effect, x) ∧
      x.config = config ∧ Settled x decision target ∧
      x.applyDecision PB LB decision target = (.ok {}, x) := by
  obtain ⟨hbefore, hcall⟩ := steps_append.mp hcalls
  obtain ⟨hx, hconfig, hmax⟩ := (Executor.run_consistent hPB hLB hlevel
    ⟨Executor.consistent_fresh config boosterMaxLevel s t, rfl, rfl⟩ hbefore).last
  have hlevel' : LevelAllowed
      (run (Executor.apply PB LB) (Executor.fresh config boosterMaxLevel s t)
        calls).config.priorityMaxLevel
      (run (Executor.apply PB LB) (Executor.fresh config boosterMaxLevel s t)
        calls).boosterMaxLevel := by
    rw [hconfig, hmax]
    exact hlevel
  obtain ⟨effect, x, hr, hx', hconfig', _, hrec⟩ :=
    Executor.applyDecision_spec hPB hLB hlevel' hx hcall.1
  refine ⟨x, effect, hr, hconfig'.trans hconfig, ?_, ?_⟩
  · exact Executor.settled_of_reconciled hx' hcall.1.named hrec
  · exact Executor.applyDecision_idle hx' hcall.1.hasPid hrec

/-- Processes whose handle is their pid: `0x20` is the class of a process that nobody boosted. -/
def classTable : PriorityBackend (UInt32 → UInt32) where
  openProcess pid s := (.ok pid.toUInt64, s)
  queryCreationTime _ s := (1, s)
  queryPriorityClass handle s := (if s handle.toUInt32 = 0 then 0x20 else s handle.toUInt32, s)
  setPriorityClass handle cls s := (.ok (), fun pid => if pid = handle.toUInt32 then cls else s pid)
  closeProcess _ s := s

theorem classTable_succeeds : classTable.Succeeds where
  opens pid s := ⟨_, _, rfl⟩
  readsClass handle s := by
    simp only [classTable]
    split
    · decide
    · assumption
  setsClass _ _ _ := rfl

/-- Request objects are numbered. -/
def requestCounter : PowerRequestBackend Nat where
  createRequest _ n := (.ok (UInt64.ofNat (n + 1)), n + 1)
  setRequest _ _ n := (.ok (), n)
  clearRequest _ _ n := (.ok (), n)
  closeRequest _ n := n

theorem requestCounter_succeeds : requestCounter.Succeeds where
  creates _ _ := ⟨_, _, rfl⟩
  sets _ _ _ := ⟨_, rfl⟩
  clears _ _ _ := ⟨_, rfl⟩

def switchConfig : ExecutorConfig :=
  { priorityEnabled := true, powerExecutionRequired := true }

/-- Boost one game, then another one under a decision that still asks for it. -/
theorem executor_reconciles_switch :
    ∃ x effect, Executor.applyDecision classTable requestCounter
        (run (Executor.apply classTable requestCounter)
          (Executor.fresh switchConfig .aboveNormal (fun _ => 0) 0)
          [({ action := .suggestPriorityBoost }, { gameId := "a", pid := 1, running := true })])
        { action := .suggestPriorityBoost }
        { gameId := "b", pid := 2, creationTime100ns := 1, running := true } = (.ok effect, x) ∧
      x.config = switchConfig ∧
      Settled x { action := .suggestPriorityBoost }
        { gameId := "b", pid := 2, creationTime100ns := 1, running := true } ∧
      x.applyDecision classTable requestCounter { action := .suggestPriorityBoost }
        { gameId := "b", pid := 2, creationTime100ns := 1, running := true } = (.ok {}, x) := by
  apply executor_reconciles classTable_succeeds requestCounter_succeeds
  · exact ⟨by decide, by decide⟩
  · refine ⟨⟨fun _ => by decide, fun _ => by decide, ?_⟩, ⟨fun _ => by decide, fun _ => by decide, ?_⟩,
      trivial⟩
    · intro _ h
      exact absurd rfl h
    · intro _ _ handle s' _
      rfl

end Policy

end CppOptimizer
