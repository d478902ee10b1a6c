import CppOptimizer.Common.Error

/-!
# CppOptimizer.Power.Locker

The reference-counted power requests of `power_locker.cpp`, one per request type: the request object
is created and set on the way from 0 to 1, cleared and closed on the way from 1 to 0.
-/

namespace CppOptimizer
namespace Power

open Common

inductive PowerLockType where
  | executionRequired | displayRequired
  deriving DecidableEq, Repr

/-- `PowerRequestBackend`: handle `0` is invalid. -/
structure PowerRequestBackend (τ : Type) where
  createRequest : String → τ → Result UInt64 × τ
  setRequest : UInt64 → PowerLockType → τ → Result Unit × τ
  clearRequest : UInt64 → PowerLockType → τ → Result Unit × τ
  closeRequest : UInt64 → τ → τ

structure LockState where
  count : Nat := 0
  handle : UInt64 := 0
  reason : String := ""
  deriving DecidableEq, Repr

/-- A locker together with the backend it drives. -/
structure Locker (τ : Type) where
  backend : τ
  execution : LockState := {}
  display : LockState := {}

namespace Locker

variable {τ : Type} (B : PowerRequestBackend τ)

/-- `states_[type]`. -/
def state (w : Locker τ) : PowerLockType → LockState
  | .executionRequired => w.execution
  | .displayRequired => w.display

def setState (w : Locker τ) (type : PowerLockType) (s : LockState) : Locker τ :=
  match type with
  | .executionRequired => { w with execution := s }
  | .displayRequired => { w with display := s }

def acquireLock (w : Locker τ) (type : PowerLockType) (reason : String) :
    Result Unit × Locker τ :=
  let s := w.state type
  if s.count = 0 then
    match B.createRequest reason w.backend with
    | (.error e, t) => (.error e, { w with backend := t })
    | (.ok handle, t) =>
      match B.setRequest handle type t with
      | (.error e, t) => (.error e, { w with backend := B.closeRequest handle t })
      | (.ok (), t) =>
        (.ok (), { w with backend := t }.setState type
          { count := s.count + 1, handle := handle, reason := reason })
  else (.ok (), w.setState type { s with count := s.count + 1 })

def releaseLock (w : Locker τ) (type : PowerLockType) : Result Unit × Locker τ :=
  let s := w.state type
  if s.count = 0 then (.ok (), w)
  else if s.count - 1 = 0 then
    match B.clearRequest s.handle type w.backend with
    | (.error e, t) => (.error e, { w with backend := t })
    | (.ok (), t) => (.ok (), { w with backend := B.closeRequest s.handle t }.setState type {})
  else (.ok (), w.setState type { s with count := s.count - 1 })

/-- One pass of the loop in `ReleaseAll`: the request object is closed whatever the clear answers. -/
def releaseType (w : Locker τ) (type : PowerLockType) : Locker τ :=
  let s := w.state type
  if s.count = 0 then w
  else
    let w := if s.handle ≠ 0 then
        { w with backend := B.closeRequest s.handle (B.clearRequest s.handle type w.backend).2 }
      else w
    w.setState type {}

def releaseAll (w : Locker τ) : Locker τ :=
  (w.releaseType B .executionRequired).releaseType B .displayRequired

/-- `IsLocked`. -/
def isLocked (w : Locker τ) (type : PowerLockType) : Bool := (w.state type).count > 0

end Locker

/-! ## How a call goes -/

section Ends

variable {τ : Type}

theorem Locker.setState_state (w : Locker τ) (type type' : PowerLockType) (s : LockState) :
    (w.setState type s).state type' = if type' = type then s else w.state type' := by
  cases type <;> cases type' <;> rfl

@[simp] theorem Locker.state_backend (w : Locker τ) (t : τ) (type : PowerLockType) :
    ({ w with backend := t } : Locker τ).state type = w.state type := by
  cases type <;> rfl

@[simp] theorem Locker.setState_backend (w : Locker τ) (type : PowerLockType) (s : LockState) :
    (w.setState type s).backend = w.backend := by
  cases type <;> rfl

inductive AcquireLockEnd (B : PowerRequestBackend τ) (w : Locker τ) (type : PowerLockType)
    (reason : String) : Result Unit × Locker τ → Prop where
  | nested : 0 < (w.state type).count → AcquireLockEnd B w type reason
      (.ok (), w.setState type { w.state type with count := (w.state type).count + 1 })
  | refused {e : Error} {t : τ} : (w.state type).count = 0 →
      B.createRequest reason w.backend = (.error e, t) →
      AcquireLockEnd B w type reason (.error e, { w with backend := t })
  | unset {e : Error} {handle : UInt64} {t t' : τ} : (w.state type).count = 0 →
      B.createRequest reason w.backend = (.ok handle, t) →
      B.setRequest handle type t = (.error e, t') →
      AcquireLockEnd B w type reason (.error e, { w with backend := B.closeRequest handle t' })
  | first {handle : UInt64} {t t' : τ} : (w.state type).count = 0 →
      B.createRequest reason w.backend = (.ok handle, t) →
      B.setRequest handle type t = (.ok (), t') →
      AcquireLockEnd B w type reason (.ok (), { w with backend := t' }.setState type
        { count := 1, handle := handle, reason := reason })

theorem acquireLock_end (B : PowerRequestBackend τ) (w : Locker τ) (type : PowerLockType)
    (reason : String) : AcquireLockEnd B w type reason (w.acquireLock B type reason) := by
  simp only [Locker.acquireLock]
  by_cases hc : (w.state type).count = 0
  · simp only [hc, if_true]
    rcases hcreate : B.createRequest reason w.backend with ⟨e | handle, t⟩
    · exact .refused hc hcreate
    · rcases hset : B.setRequest handle type t with ⟨e | u, t'⟩
      · simp only [hset]
        exact .unset hc hcreate hset
      · simp only [hset]
        exact .first hc hcreate hset
  · rw [if_neg hc]
    exact .nested (Nat.pos_of_ne_zero hc)

inductive ReleaseLockEnd (B : PowerRequestBackend τ) (w : Locker τ) (type : PowerLockType) :
    Result Unit × Locker τ → Prop where
  | idle : (w.state type).count = 0 → ReleaseLockEnd B w type (.ok (), w)
  | nested : 1 < (w.state type).count → ReleaseLockEnd B w type
      (.ok (), w.setState type { w.state type with count := (w.state type).count - 1 })
  | refused {e : Error} {t : τ} : (w.state type).count = 1 →
      B.clearRequest (w.state type).handle type w.backend = (.error e, t) →
      ReleaseLockEnd B w type (.error e, { w with backend := t })
  | last {t : τ} : (w.state type).count = 1 →
      B.clearRequest (w.state type).handle type w.backend = (.ok (), t) →
      ReleaseLockEnd B w type (.ok (),
        { w with backend := B.closeRequest (w.state type).handle t }.setState type {})

theorem releaseLock_end (B : PowerRequestBackend τ) (w : Locker τ) (type : PowerLockType) :
    ReleaseLockEnd B w type (w.releaseLock B type) := by
  simp only [Locker.releaseLock]
  by_cases hc : (w.state type).count = 0
  · rw [if_pos hc]
    exact .idle hc
  · rw [if_neg hc]
    by_cases hone : (w.state type).count - 1 = 0
    · have hlast : (w.state type).count = 1 := by omega
      rw [if_pos hone]
      rcases hclear : B.clearRequest (w.state type).handle type w.backend with ⟨e | u, t⟩
      · exact .refused hlast hclear
      · exact .last hlast hclear
    · rw [if_neg hone]
      exact .nested (by omega)

/-- A release that succeeds lowers the count of its own type. -/
theorem releaseLock_count {B : PowerRequestBackend τ} {w w' : Locker τ} {type : PowerLockType}
    (h : w.releaseLock B type = (.ok (), w')) (type' : PowerLockType) :
    (w'.state type').count = (w.state type').count - if type' = type then 1 else 0 := by
  have hend := releaseLock_end B w type
  rw [h] at hend
  cases hend with
  | idle hc =>
    split
    · rename_i heq
      rw [heq, hc]
    · rfl
  | nested hc =>
    rw [Locker.setState_state]
    split
    · rename_i heq
      rw [heq]
    · rfl
  | last hc _ =>
    rw [Locker.setState_state, Locker.state_backend]
    split
    · rename_i heq
      rw [heq, hc]
    · rfl

end Ends

end Power
end CppOptimizer
