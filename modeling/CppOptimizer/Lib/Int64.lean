import Mathlib.Algebra.Ring.Int.Defs

/-!
# Lib.Int64

Signed integers of 64 bits among the integers.

* `IsInt64` — an integer in their range.
* `toInt64` — what their arithmetic makes of an exact result.

An overflow is undefined in C++. `toInt64` is what compiled code does then: it keeps the low 64 bits
in two's complement.
-/

namespace Lib

def IsInt64 (i : Int) : Prop := -2 ^ 63 ≤ i ∧ i < 2 ^ 63

instance (i : Int) : Decidable (IsInt64 i) := inferInstanceAs (Decidable (_ ∧ _))

def toInt64 (i : Int) : Int := (i + 2 ^ 63) % 2 ^ 64 - 2 ^ 63

theorem toInt64_of_isInt64 {i : Int} (h : IsInt64 i) : toInt64 i = i := by
  obtain ⟨hlow, hhigh⟩ := h
  unfold toInt64
  omega

/-- An overflow never makes a natural number larger. -/
theorem toInt64_le {i : Int} (h : 0 ≤ i) : toInt64 i ≤ i := by
  unfold toInt64
  omega

end Lib
