import Mathlib.Data.List.Infix

/-!
# CppOptimizer.Common.Text

Text of the program's small files, as lists of characters, and the line conventions their readers
share.
-/

namespace CppOptimizer
namespace Common

abbrev Text := List Char

/-- A trailing carriage return is dropped. -/
def stripCr (line : Text) : Text := if line.getLast? = some '\r' then line.dropLast else line

theorem stripCr_eq {line : Text} (h : '\r' ∉ line) : stripCr line = line := by
  unfold stripCr
  rw [if_neg]
  intro hlast
  exact h (List.mem_of_getLast? hlast)

/-- `std::getline`: the text up to the first line feed. -/
def firstLine (content : Text) : Text := content.takeWhile (· ≠ '\n')

end Common
end CppOptimizer
