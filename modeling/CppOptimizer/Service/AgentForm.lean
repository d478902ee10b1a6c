import CppOptimizer.Common.Text
import Mathlib.Data.Set.Insert

/-!
# CppOptimizer.Service.AgentForm

The three forms in which the host can be registered (`agent_form.cpp`): a start-up entry with a tray
icon, a scheduled task, a service.

* `conflictingAgentForms`, `resolveFormApplyActions` — the forms in the way of a target, and the steps
  that lead from the registered forms to a declared one.
* `Covered`  — the abstract contract of a change of forms: nothing is given up before the target is
  there.
* `AgentFormAction.on` — what one step does to the set of registered forms.
-/

namespace CppOptimizer
namespace Service

open Common

inductive AgentForm where
  | startupTray | scheduledTask | service
  deriving DecidableEq, Repr

def defaultAgentForm : AgentForm := .startupTray

def agentFormToString : AgentForm → Text
  | .startupTray => "startup_tray".toList
  | .scheduledTask => "task".toList
  | .service => "service".toList

/-- ASCII lower case with `_` for `-`; a character outside ASCII leaves the empty text. -/
def normalizeAscii (text : Text) : Text :=
  if text.any fun ch => ch.toNat > 0x7F then []
  else text.map fun ch => if ch = '-' then '_' else ch.toLower

def parseAgentForm (text : Text) : Option AgentForm :=
  let normalized := normalizeAscii text
  if normalized = "startup_tray".toList then some .startupTray
  else if normalized = "task".toList then some .scheduledTask
  else if normalized = "service".toList then some .service
  else none

/-- What the queries said is installed. -/
structure FormFlags where
  startupInstalled : Bool := false
  taskInstalled : Bool := false
  serviceInstalled : Bool := false
  deriving DecidableEq, Repr

def FormFlags.of (flags : FormFlags) : AgentForm → Bool
  | .startupTray => flags.startupInstalled
  | .scheduledTask => flags.taskInstalled
  | .service => flags.serviceInstalled

def conflictingAgentForms (target : AgentForm) (flags : FormFlags) : List AgentForm :=
  (if target ≠ .startupTray ∧ flags.startupInstalled then [.startupTray] else []) ++
  (if target ≠ .scheduledTask ∧ flags.taskInstalled then [.scheduledTask] else []) ++
  (if target ≠ .service ∧ flags.serviceInstalled then [.service] else [])

structure AgentFormAction where
  form : AgentForm := .startupTray
  install : Bool := true
  deriving DecidableEq, Repr

/-- The declared form is installed before any other is removed. -/
def resolveFormApplyActions (declared : AgentForm) (flags : FormFlags) : List AgentFormAction :=
  (if flags.of declared then [] else [{ form := declared, install := true }]) ++
  (conflictingAgentForms declared flags).map fun other => { form := other, install := false }

theorem parseAgentForm_toString (form : AgentForm) :
    parseAgentForm (agentFormToString form) = some form := by
  cases form <;> decide

theorem parseAgentForm_eq_some_iff {text : Text} {form : AgentForm} :
    parseAgentForm text = some form ↔ normalizeAscii text = agentFormToString form := by
  unfold parseAgentForm
  generalize normalizeAscii text = normalized
  constructor
  · intro h
    dsimp only at h
    split at h
    · case _ hn =>
      cases h
      exact hn
    · split at h
      · case _ hn =>
        cases h
        exact hn
      · split at h
        · case _ hn =>
          cases h
          exact hn
        · cases h
  · rintro rfl
    cases form <;> rfl

theorem mem_conflictingAgentForms {target form : AgentForm} {flags : FormFlags} :
    form ∈ conflictingAgentForms target flags ↔ form ≠ target ∧ flags.of form = true := by
  cases form <;> cases target <;> simp [conflictingAgentForms, FormFlags.of]

/-! ## Sets of registered forms -/

/-- A step that works. -/
def AgentFormAction.on (action : AgentFormAction) (forms : Set AgentForm) : Set AgentForm :=
  if action.install then insert action.form forms else forms \ {action.form}

/-- On the way from `before` to `target`: the target is registered, or nothing was given up. -/
def Covered (target : AgentForm) (before now : Set AgentForm) : Prop :=
  target ∈ now ∨ before ⊆ now

theorem Covered.refl (target : AgentForm) (before : Set AgentForm) : Covered target before before :=
  .inr (le_refl before)

/-- With a form registered at first, a form is registered all the way. -/
theorem Covered.nonempty {target : AgentForm} {before now : Set AgentForm}
    (h : Covered target before now) (hbefore : before.Nonempty) : now.Nonempty := by
  rcases h with h | h
  · exact ⟨target, h⟩
  · exact hbefore.mono h

end Service
end CppOptimizer
