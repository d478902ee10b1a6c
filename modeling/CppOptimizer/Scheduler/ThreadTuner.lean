import CppOptimizer.Common.Error
import CppOptimizer.Lib.Prog

/-!
# CppOptimizer.Scheduler.ThreadTuner

The thread boost of `thread_tuner.cpp`: every thread below the target priority is raised to it, the
first write that fails stops the walk. A restore writes the original priority back where the thread
still has the one it was raised to.
-/

namespace CppOptimizer
namespace Scheduler

open Common Lib

structure ThreadSnapshot where
  threadId : UInt32 := 0
  priority : Int := 0
  affinityMask : UInt64 := 0
  deriving DecidableEq, Repr

structure PriorityAdjustment where
  threadId : UInt32 := 0
  originalPriority : Int := 0
  appliedPriority : Int := 0
  deriving DecidableEq, Repr

structure BoostReport where
  adjusted : List PriorityAdjustment := []
  skipped : Nat := 0
  deriving DecidableEq, Repr

def isValidPriority (priority : Int) : Bool := priority ≥ -15 && priority ≤ 15

def shouldRaisePriority (current target : Int) : Bool := current < target

section Boost

variable {E : Type} {R : E → Type}
  (listThreads : UInt32 → Prog E R (Result (List ThreadSnapshot)))
  (setPriority : UInt32 → Int → Prog E R (Result Unit))

/-- The loop over the threads. -/
def boostThreads (targetPriority : Int) : List ThreadSnapshot → BoostReport → Prog E R BoostReport
  | [], report => pure report
  | thread :: threads, report =>
    if shouldRaisePriority thread.priority targetPriority then do
      match ← setPriority thread.threadId targetPriority with
      | .error _ => pure report
      | .ok () =>
        boostThreads targetPriority threads
          { report with
            adjusted := report.adjusted ++
              [{ threadId := thread.threadId
                 originalPriority := thread.priority
                 appliedPriority := targetPriority }] }
    else boostThreads targetPriority threads { report with skipped := report.skipped + 1 }

def boostProcessThreads (processId : UInt32) (targetPriority : Int) :
    Prog E R (Result BoostReport) :=
  if isValidPriority targetPriority = false then
    pure (.error (.validation "BoostProcessThreads" "目标优先级超出 -15..15"))
  else do
    match ← listThreads processId with
    | .error e => pure (.error e)
    | .ok threads => do
      let report ← boostThreads setPriority targetPriority threads {}
      pure (.ok report)

end Boost

section Restore

variable {E : Type} {R : E → Type}
  (getPriority : UInt32 → Prog E R (Result Int))
  (setPriority : UInt32 → Int → Prog E R (Result Unit))
  (getLastError : Prog E R Nat)

/-- The loop over the adjustments, with the count of the restored ones. -/
def restorePriorities : List PriorityAdjustment → Nat → Prog E R (Result Nat)
  | [], restored => pure (.ok restored)
  | adjustment :: adjustments, restored => do
    match ← getPriority adjustment.threadId with
    -- the thread has exited or cannot be read
    | .error _ => restorePriorities adjustments restored
    | .ok current =>
      if current ≠ adjustment.appliedPriority then restorePriorities adjustments restored
      else
        match ← setPriority adjustment.threadId adjustment.originalPriority with
        | .error _ => do
          let code ← getLastError
          pure (.error (.fromWin32 code "RestorePriorities"))
        | .ok () => restorePriorities adjustments (restored + 1)

end Restore

end Scheduler
end CppOptimizer
