import Mathlib.Logic.Basic

/-!
# CppOptimizer.Process.Info

The observation of one game process, as `process_watcher.hpp` hands it to its readers. `generation`
and `pid` together name one life of a process.
-/

namespace CppOptimizer
namespace Process

/-- `suspended` is reserved by the source and never produced. -/
inductive ProcessState where
  | notRunning | starting | running | suspended | exiting
  deriving DecidableEq, Repr

structure ProcessInfo where
  gameId : String := ""
  pid : UInt32 := 0
  processName : String := ""
  windowTitle : String := ""
  state : ProcessState := .notRunning
  isForeground : Bool := false
  isFullscreen : Bool := false
  generation : UInt64 := 0
  creationTime100ns : UInt64 := 0
  deriving DecidableEq, Repr

end Process
end CppOptimizer
