import Mathlib.Data.String.Basic
import CppOptimizer.Lib.Run
import CppOptimizer.Lib.SortedMap
import CppOptimizer.Common.Error
import CppOptimizer.Config.Snapshot

/-!
# CppOptimizer.Priority.Booster

The lease state machine of `priority_booster.cpp`: one lease per game, with the open process handle,
the class found at the first acquire and a count.

* `PriorityBackend σ` — the injected backend, a state machine over `σ` with arbitrary answers.
* `Booster σ`         — the lease table, the backend's state and a log of opened and closed handles.
* `acquireBoost`, `releaseBoost`, `releaseAll` — the operations, in the order of the source's calls.
* `AcquireEnd`        — the ways an acquire can go; what is kept by it is proved one way at a time.

The log is only written: no operation looks at it.
-/

namespace CppOptimizer
namespace Priority

open Common Config Lib

/-- `PriorityBackend`: an opaque handle `0` is invalid, a creation time or class `0` is a failed
query. -/
structure PriorityBackend (σ : Type) where
  openProcess : UInt32 → σ → Result UInt64 × σ
  queryCreationTime : UInt64 → σ → UInt64 × σ
  queryPriorityClass : UInt64 → σ → UInt32 × σ
  setPriorityClass : UInt64 → UInt32 → σ → Result Unit × σ
  closeProcess : UInt64 → σ → σ

def priorityLevelToWin32Class : PriorityLevel → Result UInt32
  | .aboveNormal => .ok 0x00008000
  | .high => .ok 0x00000080
  | .none => .error (.validation "PriorityLevelToWin32Class" "no boost level (none)")

def levelExceeds (level maxLevel : PriorityLevel) : Bool := level.toNat > maxLevel.toNat

structure LeaseState where
  pid : UInt32 := 0
  creationTime100ns : UInt64 := 0
  handle : UInt64 := 0
  originalClass : UInt32 := 0
  targetClass : UInt32 := 0
  level : PriorityLevel := .none
  count : Nat := 0
  deriving DecidableEq, Repr

/-- A booster together with the backend it drives and the handles it opened and closed so far. -/
structure Booster (σ : Type) where
  backend : σ
  leases : SortedMap String LeaseState := .empty
  opened : List UInt64 := []
  closed : List UInt64 := []

namespace Booster

variable {σ : Type} (B : PriorityBackend σ)

def queryCreationTime (w : Booster σ) (handle : UInt64) : UInt64 × Booster σ :=
  let answer := B.queryCreationTime handle w.backend
  (answer.1, { w with backend := answer.2 })

def queryPriorityClass (w : Booster σ) (handle : UInt64) : UInt32 × Booster σ :=
  let answer := B.queryPriorityClass handle w.backend
  (answer.1, { w with backend := answer.2 })

def setPriorityClass (w : Booster σ) (handle : UInt64) (cls : UInt32) : Result Unit × Booster σ :=
  let answer := B.setPriorityClass handle cls w.backend
  (answer.1, { w with backend := answer.2 })

def closeProcess (w : Booster σ) (handle : UInt64) : Booster σ :=
  { w with backend := B.closeProcess handle w.backend, closed := handle :: w.closed }

def openProcess (w : Booster σ) (pid : UInt32) : Result UInt64 × Booster σ :=
  match B.openProcess pid w.backend with
  | (.ok handle, s) => (.ok handle, { w with backend := s, opened := handle :: w.opened })
  | (.error e, s) => (.error e, { w with backend := s })

/-- The conditional restore at the last release. `ok` means that the lease can be dropped, its
handle being closed; a failed restore keeps the handle and reports the error. -/
def restoreLastLease (w : Booster σ) (state : LeaseState) :
    Result Unit × LeaseState × Booster σ :=
  let dropped (w : Booster σ) : Result Unit × LeaseState × Booster σ :=
    (.ok (), { state with handle := 0, count := 0 }, w.closeProcess B state.handle)
  let currentCreationTime := w.queryCreationTime B state.handle
  if state.creationTime100ns ≠ 0 ∧ currentCreationTime.1 ≠ state.creationTime100ns then
    dropped currentCreationTime.2
  else
    let currentClass := currentCreationTime.2.queryPriorityClass B state.handle
    if currentClass.1 = 0 then dropped currentClass.2
    else if currentClass.1 ≠ state.targetClass then dropped currentClass.2
    else
      let restored := currentClass.2.setPriorityClass B state.handle state.originalClass
      match restored.1 with
      | .error e => (.error e, { state with count := 1 }, restored.2)
      | .ok () => dropped restored.2

def releaseBoost (w : Booster σ) (gameId : String) (pid : UInt32) : Result Unit × Booster σ :=
  match w.leases.find? gameId with
  | none => (.ok (), w)
  | some state =>
    if state.pid ≠ pid then
      (.error (.validation "PriorityBooster::ReleaseBoost"
        "release pid does not match the boosted process"), w)
    else if state.count > 1 then
      (.ok (), { w with leases := w.leases.insert gameId { state with count := state.count - 1 } })
    else
      match w.restoreLastLease B state with
      | (.error e, state, w) => (.error e, { w with leases := w.leases.insert gameId state })
      | (.ok (), _, w) => (.ok (), { w with leases := w.leases.erase gameId })

/-- The fresh acquisition at the end of `AcquireBoost`: open, check the identity, save the class,
set the target class. -/
def acquireFresh (w : Booster σ) (gameId : String) (pid : UInt32)
    (expectedCreationTime100ns : UInt64) (level : PriorityLevel) (target : UInt32) :
    Result Unit × Booster σ :=
  match w.openProcess B pid with
  | (.error e, w) => (.error e, w)
  | (.ok handle, w) =>
    let actualCreationTime := w.queryCreationTime B handle
    if expectedCreationTime100ns ≠ 0 ∧
        (actualCreationTime.1 = 0 ∨ actualCreationTime.1 ≠ expectedCreationTime100ns) then
      (.error (.validation "PriorityBooster::AcquireBoost"
        "process identity mismatch (pid reused or unverifiable)"),
        actualCreationTime.2.closeProcess B handle)
    else
      let originalClass := actualCreationTime.2.queryPriorityClass B handle
      if originalClass.1 = 0 then
        (.error { domain := .internal, operation := "PriorityBooster::AcquireBoost",
                  message := "failed to query current priority class" },
          originalClass.2.closeProcess B handle)
      else
        let set := originalClass.2.setPriorityClass B handle target
        match set.1 with
        | .error e => (.error e, set.2.closeProcess B handle)
        | .ok () =>
          let state : LeaseState :=
            { pid := pid
              creationTime100ns :=
                if actualCreationTime.1 ≠ 0 then actualCreationTime.1
                else expectedCreationTime100ns
              handle := handle
              originalClass := originalClass.1
              targetClass := target
              level := level
              count := 1 }
          (.ok (), { set.2 with leases := set.2.leases.insert gameId state })

def acquireBoost (maxLevel : PriorityLevel) (w : Booster σ) (gameId : String) (pid : UInt32)
    (expectedCreationTime100ns : UInt64) (level : PriorityLevel) : Result Unit × Booster σ :=
  if level = .none then
    (.error (.validation "PriorityBooster::AcquireBoost" "no boost level (none)"), w)
  else if levelExceeds level maxLevel then
    (.error (.validation "PriorityBooster::AcquireBoost"
      "priority level exceeds configured maximum"), w)
  else
    let fresh (w : Booster σ) : Result Unit × Booster σ :=
      match priorityLevelToWin32Class level with
      | .error e => (.error e, w)
      | .ok target => w.acquireFresh B gameId pid expectedCreationTime100ns level target
    match w.leases.find? gameId with
    | none => fresh w
    | some state =>
      if state.pid = pid then
        (.ok (), { w with leases := w.leases.insert gameId { state with count := state.count + 1 } })
      else
        -- the process restarted under another pid: one lease of the old process is released
        match w.releaseBoost B gameId state.pid with
        | (.error e, w) => (.error e, w)
        | (.ok (), w) => fresh w

def forceCleanLease (w : Booster σ) (state : LeaseState) : Booster σ :=
  if state.handle = 0 then w
  else
    let currentClass := w.queryPriorityClass B state.handle
    let w :=
      if currentClass.1 ≠ 0 ∧ currentClass.1 = state.targetClass then
        (currentClass.2.setPriorityClass B state.handle state.originalClass).2
      else currentClass.2
    w.closeProcess B state.handle

def releaseAll (w : Booster σ) : Booster σ :=
  { w.leases.entries.foldl (fun w entry => w.forceCleanLease B entry.2) w with leases := .empty }

/-- `IsBoosted`. -/
def isBoosted (w : Booster σ) (gameId : String) : Bool :=
  match w.leases.find? gameId with
  | some state => state.count > 0
  | none => false

end Booster

/-- The calls a client of the booster can make. -/
inductive Call where
  | acquire (gameId : String) (pid : UInt32) (expectedCreationTime100ns : UInt64)
      (level : PriorityLevel)
  | release (gameId : String) (pid : UInt32)
  | releaseAll
  deriving DecidableEq, Repr

def Booster.call {σ : Type} (B : PriorityBackend σ) (maxLevel : PriorityLevel) (w : Booster σ) :
    Call → Booster σ
  | .acquire gameId pid time level => (w.acquireBoost B maxLevel gameId pid time level).2
  | .release gameId pid => (w.releaseBoost B gameId pid).2
  | .releaseAll => w.releaseAll B

/-! ## How an acquire goes -/

section Acquire

variable {σ : Type} {B : PriorityBackend σ} {maxLevel : PriorityLevel} {w : Booster σ}
  {gameId : String} {pid : UInt32} {time : UInt64} {level : PriorityLevel} {target : UInt32}
  {state : LeaseState}

theorem ne_none_of_class (hlevel : priorityLevelToWin32Class level = .ok target) :
    level ≠ .none := by
  rintro rfl
  cases hlevel

theorem acquireBoost_fresh (hallowed : levelExceeds level maxLevel = false)
    (hlevel : priorityLevelToWin32Class level = .ok target) (hf : w.leases.find? gameId = none) :
    w.acquireBoost B maxLevel gameId pid time level =
      w.acquireFresh B gameId pid time level target := by
  simp only [Booster.acquireBoost, ne_none_of_class hlevel, hallowed, hf, hlevel, if_false,
    Bool.false_eq_true]

theorem acquireBoost_again (hallowed : levelExceeds level maxLevel = false)
    (hlevel : priorityLevelToWin32Class level = .ok target)
    (hf : w.leases.find? gameId = some state) :
    w.acquireBoost B maxLevel gameId state.pid time level =
      (.ok (), { w with
        leases := w.leases.insert gameId { state with count := state.count + 1 } }) := by
  simp only [Booster.acquireBoost, ne_none_of_class hlevel, hallowed, hf, if_false,
    Bool.false_eq_true, if_true]

/-- An acquire under another pid stops at a release that fails. -/
theorem acquireBoost_stuck (hallowed : levelExceeds level maxLevel = false)
    (hlevel : priorityLevelToWin32Class level = .ok target)
    (hf : w.leases.find? gameId = some state) (hpid : ¬ state.pid = pid) {e : Error} {w' : Booster σ}
    (hrel : w.releaseBoost B gameId state.pid = (.error e, w')) :
    w.acquireBoost B maxLevel gameId pid time level = (.error e, w') := by
  simp only [Booster.acquireBoost, ne_none_of_class hlevel, hallowed, hf, hpid, hrel, if_false,
    Bool.false_eq_true]

theorem acquireBoost_moved (hallowed : levelExceeds level maxLevel = false)
    (hlevel : priorityLevelToWin32Class level = .ok target)
    (hf : w.leases.find? gameId = some state) (hpid : ¬ state.pid = pid) {w' : Booster σ}
    (hrel : w.releaseBoost B gameId state.pid = (.ok (), w')) :
    w.acquireBoost B maxLevel gameId pid time level =
      w'.acquireFresh B gameId pid time level target := by
  simp only [Booster.acquireBoost, ne_none_of_class hlevel, hallowed, hf, hpid, hrel, hlevel,
    if_false, Bool.false_eq_true]

/-- A level that cannot be boosted to, or is above the maximum, is refused before anything else. -/
theorem acquireBoost_refused (w : Booster σ) (gameId : String) (pid : UInt32) (time : UInt64)
    (h : ¬ ((∃ target, priorityLevelToWin32Class level = .ok target) ∧
      levelExceeds level maxLevel = false)) :
    ∃ e, w.acquireBoost B maxLevel gameId pid time level = (.error e, w) := by
  simp only [Booster.acquireBoost]
  by_cases hnone : level = .none
  · exact ⟨_, if_pos hnone⟩
  · rw [if_neg hnone]
    by_cases hallowed : levelExceeds level maxLevel = true
    · exact ⟨_, if_pos hallowed⟩
    · refine absurd ⟨?_, Bool.not_eq_true _ ▸ hallowed⟩ h
      cases level with
      | none => exact absurd rfl hnone
      | aboveNormal => exact ⟨_, rfl⟩
      | high => exact ⟨_, rfl⟩

/-- The ways an acquire can go. -/
inductive AcquireEnd (B : PriorityBackend σ) (maxLevel : PriorityLevel) (w : Booster σ)
    (gameId : String) (pid : UInt32) (time : UInt64) (level : PriorityLevel) :
    Result Unit × Booster σ → Prop where
  | refused {e : Error} : (∀ target, priorityLevelToWin32Class level = .ok target →
      levelExceeds level maxLevel = true) →
    AcquireEnd B maxLevel w gameId pid time level (.error e, w)
  | fresh {target : UInt32} : levelExceeds level maxLevel = false →
    priorityLevelToWin32Class level = .ok target → w.leases.find? gameId = none →
    AcquireEnd B maxLevel w gameId pid time level (w.acquireFresh B gameId pid time level target)
  | again {target : UInt32} {state : LeaseState} : levelExceeds level maxLevel = false →
    priorityLevelToWin32Class level = .ok target → w.leases.find? gameId = some state →
    state.pid = pid →
    AcquireEnd B maxLevel w gameId pid time level (.ok (), { w with
      leases := w.leases.insert gameId { state with count := state.count + 1 } })
  | stuck {target : UInt32} {state : LeaseState} {e : Error} {w' : Booster σ} :
    levelExceeds level maxLevel = false →
    priorityLevelToWin32Class level = .ok target → w.leases.find? gameId = some state →
    state.pid ≠ pid → w.releaseBoost B gameId state.pid = (.error e, w') →
    AcquireEnd B maxLevel w gameId pid time level (.error e, w')
  | moved {target : UInt32} {state : LeaseState} {w' : Booster σ} :
    levelExceeds level maxLevel = false →
    priorityLevelToWin32Class level = .ok target → w.leases.find? gameId = some state →
    state.pid ≠ pid → w.releaseBoost B gameId state.pid = (.ok (), w') →
    AcquireEnd B maxLevel w gameId pid time level (w'.acquireFresh B gameId pid time level target)

theorem acquireBoost_end (B : PriorityBackend σ) (maxLevel : PriorityLevel) (w : Booster σ)
    (gameId : String) (pid : UInt32) (time : UInt64) (level : PriorityLevel) :
    AcquireEnd B maxLevel w gameId pid time level
      (w.acquireBoost B maxLevel gameId pid time level) := by
  by_cases hok : (∃ target, priorityLevelToWin32Class level = .ok target) ∧
      levelExceeds level maxLevel = false
  · obtain ⟨⟨target, hlevel⟩, hallowed⟩ := hok
    cases hf : w.leases.find? gameId with
    | none =>
      rw [acquireBoost_fresh hallowed hlevel hf]
      exact .fresh hallowed hlevel hf
    | some state =>
      by_cases hpid : state.pid = pid
      · subst hpid
        rw [acquireBoost_again hallowed hlevel hf]
        exact .again hallowed hlevel hf rfl
      · rcases hrel : w.releaseBoost B gameId state.pid with ⟨e | u, w'⟩
        · rw [acquireBoost_stuck hallowed hlevel hf hpid hrel]
          exact .stuck hallowed hlevel hf hpid hrel
        · rw [acquireBoost_moved hallowed hlevel hf hpid hrel]
          exact .moved hallowed hlevel hf hpid hrel
  · obtain ⟨e, hr⟩ := acquireBoost_refused (B := B) w gameId pid time hok
    rw [hr]
    refine .refused fun target hlevel => ?_
    by_contra hno
    exact hok ⟨⟨target, hlevel⟩, Bool.not_eq_true _ ▸ hno⟩

end Acquire

end Priority
end CppOptimizer
