import Mathlib.Logic.Basic

/-!
# CppOptimizer.Common.Error

The error model of `common/error.hpp`: a domain, the raw code, the operation that failed and a
readable message. `Result<T>` is `Except Error T`.

`FromWin32` takes its message from `FormatMessageW`. No function of the program reads that text
back, so the model leaves it empty.
-/

namespace CppOptimizer
namespace Common

inductive ErrorDomain where
  | win32 | hresult | pdh | ntStatus | validation | unsupported | internal
  deriving DecidableEq, Repr

/-- `common::ToString`. -/
def ErrorDomain.toString : ErrorDomain → String
  | .win32 => "Win32"
  | .hresult => "HRESULT"
  | .pdh => "PDH"
  | .ntStatus => "NTSTATUS"
  | .validation => "Validation"
  | .unsupported => "Unsupported"
  | .internal => "Internal"

structure Error where
  domain : ErrorDomain := .internal
  code : Nat := 0
  operation : String := ""
  message : String := ""
  deriving DecidableEq, Repr

namespace Error

def fromWin32 (code : Nat) (operation : String) : Error :=
  { domain := .win32, code := code, operation := operation }

def unsupportedOp (operation message : String) : Error :=
  { domain := .unsupported, operation := operation, message := message }

def validation (operation message : String) : Error :=
  { domain := .validation, operation := operation, message := message }

end Error

/-- `common::Result<T>`. -/
abbrev Result (α : Type) := Except Error α

/-- `Result::operator bool`. -/
def Result.ok? {α : Type} : Result α → Bool
  | .ok _ => true
  | .error _ => false

/-- A chain of calls succeeds through each of them. -/
theorem ok_of_bind {α β : Type} {x : Result α} {f : α → Result β} {b : β} (h : x >>= f = .ok b) :
    ∃ a, x = .ok a ∧ f a = .ok b := by
  cases x with
  | error e => cases h
  | ok a => exact ⟨a, rfl, h⟩

instance {α : Type} [DecidableEq α] : DecidableEq (Result α) := fun
  | .ok a, .ok b => decidable_of_iff (a = b) (by simp)
  | .error a, .error b => decidable_of_iff (a = b) (by simp)
  | .ok _, .error _ => .isFalse (by simp)
  | .error _, .ok _ => .isFalse (by simp)

/-! ## The Win32 codes the program compares with -/

def errorFileNotFound : Nat := 2
def errorBrokenPipe : Nat := 109
def errorNoData : Nat := 232
def errorTimeout : Nat := 1460

end Common
end CppOptimizer
