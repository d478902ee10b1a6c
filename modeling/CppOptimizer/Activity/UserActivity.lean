import Mathlib.Logic.Basic

/-!
# CppOptimizer.Activity.UserActivity

How long the user has been idle (`user_activity.cpp`, `raw_input.cpp`): from two tick counts of the
last-input query, or from the time of the last raw input event. Results are in milliseconds.
-/

namespace CppOptimizer
namespace Activity

/-- A difference of wrapping 32-bit ticks, negative ones cut to zero. -/
def tickDeltaMs (fromTick toTick : UInt32) : Int :=
  let signedDelta := (toTick - fromTick).toInt32.toInt
  if signedDelta < 0 then 0 else signedDelta

def idleMilliseconds (nowTick lastInputTick : UInt32) : Int := tickDeltaMs lastInputTick nowTick

/-- `ClassifyActivity(...) == Active`; a negative threshold calls everyone active. -/
def isActive (nowTick lastInputTick : UInt32) (idleThresholdMs : Int) : Bool :=
  if idleThresholdMs < 0 then true
  else !decide (idleMilliseconds nowTick lastInputTick ≥ idleThresholdMs)

/-- `RawInputEventSource::IdleDuration`; no event has been seen while the time of the last is `0`. -/
def idleDuration (lastEventEpochMs nowEpochMs : Int) : Option Int :=
  if lastEventEpochMs = 0 then none
  else some (if nowEpochMs ≥ lastEventEpochMs then nowEpochMs - lastEventEpochMs else 0)

end Activity
end CppOptimizer
