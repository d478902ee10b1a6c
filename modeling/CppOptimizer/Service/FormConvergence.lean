import CppOptimizer.Service.Registration
import Mathlib.Logic.Function.Basic

/-!
# CppOptimizer.Service.FormConvergence

The agent form commands in a world of registrations, where each call may fail, a failing change may
have happened all the same, and the process may be killed before any call.

* `ServiceManager`   — the manager of the services, with what the commands rely on (`DeletesAtOnce`).
* `RegistrationWorld.forms` — the forms that are registered.
* `After`, `Along`   — the forms after a list of steps, and after some of its beginnings.
* `runFormActions_spec` — cut off anywhere, a run has done whole steps of its list, in their order.
* `queryForms_spec`  — what the queries say of a form, and when that is the whole truth.
* `forms_never_bare` — `apply` and `install` give no form up before the target is there.
-/

namespace CppOptimizer
namespace Service

open Common Config Lib Policy Command RegistrationProg

/-! ## The world -/

/-- What the outside decides for one call. -/
structure RegistrationChoice where
  error : Option Error := none
  /-- A change that is reported as failed has happened. -/
  took : Bool := false
  backend : Bool := true
  exePath : Option Text := none
  config : ConfigSnapshot := {}
  ledger : CooldownLedger := {}
  unixSeconds : Int := 0
  readings : String := ""

def RegistrationChoice.answered {α : Type} (c : RegistrationChoice) (a : α) : Result α :=
  match c.error with
  | none => .ok a
  | some e => .error e

/-- A change from `w` to `w'`. -/
def RegistrationChoice.changed {σ : Type} (c : RegistrationChoice) (w w' : σ) : Result Unit × σ :=
  match c.error with
  | none => (.ok (), w')
  | some e => (.error e, if c.took then w' else w)

def RegistrationChoice.recorded (c : RegistrationChoice) : (call : CommandCall) → call.Answer
  | .execute _ => c.answered ()
  | .listThreads _ => c.answered []
  | .setPriority _ _ => c.answered ()
  | .readings => c.readings
  | .appendJournal _ _ _ _ _ => c.answered ()
  | .appendAudit _ _ _ _ _ => c.answered ()
  | .recordCooldownRun _ => c.answered ()

/-- The service control manager, which is a part of Windows. `found` is whether `OpenServiceW` finds
the name; a choice decides how a call ends. -/
structure ServiceManager where
  State : Type
  found : State → Text → Bool
  create : State → ServiceIdentity → RegistrationChoice → Result Unit × State
  delete : State → Text → RegistrationChoice → Result Unit × State

/-- A deleted service is gone. So it is as long as no service that is deleted runs or is held open by
others: of such a service the manager only notes that it is to be deleted, and it is found until it has
stopped and is closed. A call that fails has done its work or nothing. -/
structure ServiceManager.DeletesAtOnce (M : ServiceManager) : Prop where
  create : ∀ s identity c, M.found (M.create s identity c).2 = M.found s ∨
    M.found (M.create s identity c).2 = Function.update (M.found s) identity.name true
  created : ∀ s identity c, (M.create s identity c).1 = .ok () →
    M.found (M.create s identity c).2 = Function.update (M.found s) identity.name true
  delete : ∀ s name c, M.found (M.delete s name c).2 = M.found s ∨
    M.found (M.delete s name c).2 = Function.update (M.found s) name false
  deleted : ∀ s name c, (M.delete s name c).1 = .ok () →
    M.found (M.delete s name c).2 = Function.update (M.found s) name false

/-- The value under the `Run` key, the tasks by their names, and the services. -/
structure RegistrationWorld (M : ServiceManager) where
  startup : Option Text := none
  tasks : Text → Option ScheduledTaskSpec := fun _ => none
  services : M.State

variable {M : ServiceManager}

/-- A task keeps its trigger, and a value of the `Run` key that is not there reads as empty. -/
def registrationHandler :
    Handler RegistrationCall RegistrationCall.Answer (RegistrationWorld M) RegistrationChoice where
  answer w e c :=
    match e with
    | .loadConfig _ => (c.answered c.config, w)
    | .probeAuditWritable => (c.answered (), w)
    | .executablePath => (c.exePath, w)
    | .createBackend _ => (c.backend, w)
    | .readStartup => (c.answered (w.startup.getD []), w)
    | .writeStartup quotedCommand => c.changed w { w with startup := some quotedCommand }
    | .removeStartup => c.changed w { w with startup := none }
    | .readTask taskName =>
      (c.answered
        (match w.tasks taskName with
        | none => {}
        | some spec =>
          { installed := true, commandLine := spec.commandLine, trigger := "logon".toList }), w)
    | .createTask spec =>
      c.changed w { w with tasks := Function.update w.tasks spec.taskName (some spec) }
    | .removeTask taskName =>
      c.changed w { w with tasks := Function.update w.tasks taskName none }
    | .queryService name => (c.answered { installed := M.found w.services name }, w)
    | .createService identity =>
      ((M.create w.services identity c).1,
        { w with services := (M.create w.services identity c).2 })
    | .deleteService name =>
      ((M.delete w.services name c).1, { w with services := (M.delete w.services name c).2 })
    | .readCooldownLedger => (c.answered c.ledger, w)
    | .unixSeconds => (c.unixSeconds, w)
    | .record call => (c.recorded call, w)

def RegistrationWorld.installed (w : RegistrationWorld M) : AgentForm → Bool
  | .startupTray => !(w.startup.getD []).isEmpty
  | .scheduledTask => (w.tasks kScheduledTaskName).isSome
  | .service => M.found w.services kServiceName

/-- The registered forms. -/
def RegistrationWorld.forms (w : RegistrationWorld M) : Set AgentForm :=
  {form | w.installed form = true}

@[simp] theorem mem_forms {w : RegistrationWorld M} {form : AgentForm} :
    form ∈ w.forms ↔ w.installed form = true := Iff.rfl

/-! ## Lists of steps -/

def After (forms : Set AgentForm) (actions : List AgentFormAction) : Set AgentForm :=
  actions.foldl (fun forms action => action.on forms) forms

/-- The forms after a beginning of the list. -/
def Along (forms : Set AgentForm) (actions : List AgentFormAction) (w : RegistrationWorld M) : Prop :=
  ∃ pre, pre <+: actions ∧ w.forms = After forms pre

@[simp] theorem after_nil (forms : Set AgentForm) : After forms [] = forms := rfl

@[simp] theorem after_cons (forms : Set AgentForm) (action : AgentFormAction)
    (actions : List AgentFormAction) :
    After forms (action :: actions) = After (action.on forms) actions := rfl

theorem along_start {forms : Set AgentForm} {actions : List AgentFormAction} {w : RegistrationWorld M}
    (h : w.forms = forms) : Along forms actions w := ⟨[], List.nil_prefix, h⟩

theorem Along.cons {forms : Set AgentForm} {action : AgentFormAction}
    {actions : List AgentFormAction} {w : RegistrationWorld M}
    (h : Along (action.on forms) actions w) : Along forms (action :: actions) w := by
  obtain ⟨pre, hpre, hforms⟩ := h
  exact ⟨action :: pre, (List.prefix_cons_inj action).mpr hpre, hforms⟩

theorem mem_after_removals {forms : Set AgentForm} {others : List AgentForm} {form : AgentForm} :
    form ∈ After forms (others.map fun other => { form := other, install := false }) ↔
      form ∈ forms ∧ form ∉ others := by
  induction others generalizing forms with
  | nil => simp
  | cons other others ih =>
    rw [List.map_cons, after_cons, ih]
    simp only [AgentFormAction.on, Bool.false_eq_true, if_false, Set.mem_sdiff,
      Set.mem_singleton_iff, List.mem_cons, not_or, and_assoc]

/-- Every beginning of the plan covers the target. -/
theorem covered_plan {target : AgentForm} {flags : FormFlags} {forms : Set AgentForm}
    (hflags : flags.of target = true → target ∈ forms) {pre : List AgentFormAction}
    (hpre : pre <+: resolveFormApplyActions target flags) : Covered target forms (After forms pre) := by
  have hremovals : ∀ (before : Set AgentForm) (others : List AgentForm) (done : List AgentFormAction),
      target ∈ before → target ∉ others →
      done <+: others.map (fun other => ({ form := other, install := false } : AgentFormAction)) →
      target ∈ After before done := by
    intro before others done hmem hnot hdone
    rw [List.prefix_iff_eq_take.mp hdone, ← List.map_take, mem_after_removals]
    exact ⟨hmem, fun h => hnot (List.mem_of_mem_take h)⟩
  have hnot : target ∉ conflictingAgentForms target flags := by
    simp [mem_conflictingAgentForms]
  unfold resolveFormApplyActions at hpre
  by_cases htarget : flags.of target = true
  · rw [if_pos htarget, List.nil_append] at hpre
    exact .inl (hremovals forms _ pre (hflags htarget) hnot hpre)
  · rw [if_neg htarget, List.singleton_append] at hpre
    cases pre with
    | nil => exact Covered.refl target forms
    | cons first rest =>
      obtain ⟨rfl, hrest⟩ := List.cons_prefix_cons.mp hpre
      rw [after_cons]
      exact .inl (hremovals _ _ rest (Set.mem_insert target forms) hnot hrest)

/-- The whole plan leaves the target, and of the other forms those that were not found. -/
theorem mem_after_plan {target form : AgentForm} {flags : FormFlags} {forms : Set AgentForm}
    (hflags : ∀ form, flags.of form = true → form ∈ forms) :
    form ∈ After forms (resolveFormApplyActions target flags) ↔
      form = target ∨ form ∈ forms ∧ flags.of form = false := by
  unfold resolveFormApplyActions
  by_cases htarget : flags.of target = true
  · rw [if_pos htarget, List.nil_append, mem_after_removals, mem_conflictingAgentForms]
    constructor
    · rintro ⟨hform, hnot⟩
      by_cases heq : form = target
      · exact .inl heq
      · exact .inr ⟨hform, by simpa [heq] using hnot⟩
    · rintro (rfl | ⟨hform, hoff⟩)
      · exact ⟨hflags _ htarget, by simp⟩
      · exact ⟨hform, by simp [hoff]⟩
  · rw [if_neg htarget, List.singleton_append, after_cons, mem_after_removals,
      mem_conflictingAgentForms]
    simp only [AgentFormAction.on, if_true, Set.mem_insert_iff]
    constructor
    · rintro ⟨rfl | hform, hnot⟩
      · exact .inl rfl
      · by_cases heq : form = target
        · exact .inl heq
        · exact .inr ⟨hform, by simpa [heq] using hnot⟩
    · rintro (rfl | ⟨hform, hoff⟩)
      · exact ⟨.inl rfl, by simp⟩
      · exact ⟨.inr hform, by simp [hoff]⟩

/-! ## Calls that change nothing -/

section Quiet

variable {α : Type}

theorem not_mayCall_ret {a : α} : ¬ (Prog.ret a : RegistrationProg α).MayCall
    RegistrationCall.Changes := fun h => h

theorem not_mayCall_perform {e : RegistrationCall} (h : ¬ e.Changes) :
    ¬ (Prog.perform e : RegistrationProg e.Answer).MayCall RegistrationCall.Changes :=
  fun hmay => h (Prog.mayCall_perform.mp hmay)

theorem not_mayCall_recording (p : CommandProg α) :
    ¬ (recording p).MayCall RegistrationCall.Changes := by
  induction p with
  | ret a => exact not_mayCall_ret
  | call e k ih =>
    rintro (h | ⟨r, h⟩)
    · exact h
    · exact ih r h

theorem not_mayCall_withBackend (form : AgentForm) (failure : Error)
    {p : RegistrationProg (Result α)} (h : ¬ p.MayCall RegistrationCall.Changes) :
    ¬ (withBackend form failure p).MayCall RegistrationCall.Changes := by
  refine Prog.not_mayCall_bind (not_mayCall_perform id) fun backend => ?_
  cases backend
  · exact not_mayCall_ret
  · exact h

theorem not_mayCall_queryStartupEntry : ¬ queryStartupEntry.MayCall RegistrationCall.Changes :=
  not_mayCall_withBackend _ _ (not_mayCall_perform id)

theorem not_mayCall_queryScheduledTask (taskName : Text) :
    ¬ (queryScheduledTask taskName).MayCall RegistrationCall.Changes := by
  refine not_mayCall_withBackend _ _ ?_
  cases checkTaskName "QueryScheduledTask" taskName
  · exact not_mayCall_ret
  · exact not_mayCall_perform id

theorem not_mayCall_queryService (name : Text) :
    ¬ (queryService name).MayCall RegistrationCall.Changes := by
  unfold queryService
  split
  · exact not_mayCall_ret
  · exact not_mayCall_withBackend _ _ (not_mayCall_perform id)

theorem not_mayCall_snapshot : ¬ describeAgentFormsSnapshot.MayCall RegistrationCall.Changes :=
  Prog.not_mayCall_bind not_mayCall_queryStartupEntry fun _ =>
    Prog.not_mayCall_bind (not_mayCall_queryScheduledTask _) fun _ =>
      Prog.not_mayCall_bind (not_mayCall_queryService _) fun _ => not_mayCall_ret

theorem not_mayCall_auditAgentFormAction (form : AgentForm) (install ok : Bool) :
    ¬ (auditAgentFormAction form install ok).MayCall RegistrationCall.Changes :=
  Prog.not_mayCall_bind not_mayCall_snapshot fun _ => not_mayCall_recording _

theorem not_mayCall_queryForms : ¬ queryForms.MayCall RegistrationCall.Changes :=
  Prog.not_mayCall_bind not_mayCall_queryStartupEntry fun _ =>
    Prog.not_mayCall_bind (not_mayCall_queryScheduledTask _) fun _ =>
      Prog.not_mayCall_bind (not_mayCall_queryService _) fun _ => not_mayCall_ret

theorem answer_quiet (w : RegistrationWorld M) {e : RegistrationCall} (c : RegistrationChoice)
    (h : ¬ e.Changes) : (registrationHandler.answer w e c).2 = w := by
  cases e <;> first | rfl | exact absurd trivial h

/-- A program that makes no changing call keeps any fact about the world. -/
theorem quiet_spec {ok : RegistrationWorld M → RegistrationCall → RegistrationChoice → Prop}
    {P : RegistrationWorld M → Prop} {p : RegistrationProg α}
    (h : ¬ p.MayCall RegistrationCall.Changes) :
    Triple registrationHandler ok P p (fun _ => P) P :=
  Triple.of_quiet (fun w _ c he hP => by rwa [answer_quiet w c he]) h

end Quiet

/-! ## One change -/

section Change

variable {ok : RegistrationWorld M → RegistrationCall → RegistrationChoice → Prop}
  {A : Set AgentForm}

/-- From the forms `A` the program leads to `B` or leaves `A`; success means `B`. -/
def Change (ok : RegistrationWorld M → RegistrationCall → RegistrationChoice → Prop)
    (A B : Set AgentForm) (p : RegistrationProg (Result Unit)) : Prop :=
  Triple registrationHandler ok (fun w => w.forms = A) p
    (fun r w => (w.forms = A ∨ w.forms = B) ∧ (r = .ok () → w.forms = B))
    (fun w => w.forms = A ∨ w.forms = B)

theorem changed_forms {w w' : RegistrationWorld M} {B : Set AgentForm} (hw : w.forms = A)
    (hw' : w'.forms = B) (c : RegistrationChoice) :
    ((c.changed w w').2.forms = A ∨ (c.changed w w').2.forms = B) ∧
      ((c.changed w w').1 = .ok () → (c.changed w w').2.forms = B) := by
  unfold RegistrationChoice.changed
  cases c.error with
  | none => exact ⟨.inr hw', fun _ => hw'⟩
  | some e =>
    refine ⟨?_, fun h => by cases h⟩
    dsimp only
    split
    · exact .inr hw'
    · exact .inl hw

theorem change_failed {A B : Set AgentForm} (e : Error) :
    Change ok A B (pure (.error e)) :=
  Triple.ret fun _ hw => ⟨.inl hw, fun h => by cases h⟩

theorem change_withBackend {A B : Set AgentForm} (form : AgentForm) (failure : Error)
    {p : RegistrationProg (Result Unit)} (h : Change ok A B p) :
    Change ok A B (withBackend form failure p) := by
  refine Triple.bind (M := fun _ w => w.forms = A) ?_ fun backend => ?_
  · exact Triple.perform (fun _ hw => .inl hw) fun _ _ hw _ => hw
  · cases backend
    · exact change_failed failure
    · exact h

theorem forms_startup {w : RegistrationWorld M} {command : Text} (h : command ≠ []) :
    ({ w with startup := some command } : RegistrationWorld M).forms =
      insert .startupTray w.forms := by
  ext form
  cases form <;> simp [RegistrationWorld.installed, h]

theorem forms_no_startup (w : RegistrationWorld M) :
    ({ w with startup := none } : RegistrationWorld M).forms = w.forms \ {.startupTray} := by
  ext form
  cases form <;> simp [RegistrationWorld.installed]

theorem forms_task (w : RegistrationWorld M) (spec : ScheduledTaskSpec) :
    ({ w with tasks := Function.update w.tasks kScheduledTaskName (some spec) } :
      RegistrationWorld M).forms = insert .scheduledTask w.forms := by
  ext form
  cases form <;> simp [RegistrationWorld.installed]

theorem forms_no_task (w : RegistrationWorld M) :
    ({ w with tasks := Function.update w.tasks kScheduledTaskName none } :
      RegistrationWorld M).forms = w.forms \ {.scheduledTask} := by
  ext form
  cases form <;> simp [RegistrationWorld.installed]

theorem forms_service {w : RegistrationWorld M} {s : M.State}
    (h : M.found s = Function.update (M.found w.services) kServiceName true) :
    ({ w with services := s } : RegistrationWorld M).forms = insert .service w.forms := by
  ext form
  cases form <;> simp [RegistrationWorld.installed, h]

theorem forms_no_service {w : RegistrationWorld M} {s : M.State}
    (h : M.found s = Function.update (M.found w.services) kServiceName false) :
    ({ w with services := s } : RegistrationWorld M).forms = w.forms \ {.service} := by
  ext form
  cases form <;> simp [RegistrationWorld.installed, h]

theorem forms_same_services {w : RegistrationWorld M} {s : M.State}
    (h : M.found s = M.found w.services) :
    ({ w with services := s } : RegistrationWorld M).forms = w.forms := by
  ext form
  cases form <;> simp [RegistrationWorld.installed, h]

theorem change_writeStartup {command : Text} (h : command ≠ []) :
    Change ok A (insert .startupTray A) (writeStartup command) := by
  refine Triple.perform (fun _ hw => .inl hw) fun w c hw _ => ?_
  exact changed_forms hw (by rw [forms_startup h, hw]) c

theorem change_removeStartupEntry : Change ok A (A \ {.startupTray}) removeStartupEntry := by
  refine change_withBackend _ _ (Triple.perform (fun _ hw => .inl hw) fun w c hw _ => ?_)
  exact changed_forms hw (by rw [forms_no_startup, hw]) c

theorem change_installScheduledTask {spec : ScheduledTaskSpec}
    (h : spec.taskName = kScheduledTaskName) :
    Change ok A (insert .scheduledTask A) (installScheduledTask spec) := by
  refine change_withBackend _ _ ?_
  cases checkTaskSpec spec with
  | error e => exact change_failed e
  | ok _ =>
    refine Triple.perform (fun _ hw => .inl hw) fun w c hw _ => ?_
    exact changed_forms hw (by rw [h, forms_task, hw]) c

theorem change_removeScheduledTask :
    Change ok A (A \ {.scheduledTask}) (removeScheduledTask kScheduledTaskName) := by
  refine change_withBackend _ _ ?_
  cases checkTaskName "RemoveScheduledTask" kScheduledTaskName with
  | error e => exact change_failed e
  | ok _ =>
    refine Triple.perform (fun _ hw => .inl hw) fun w c hw _ => ?_
    exact changed_forms hw (by rw [forms_no_task, hw]) c

theorem change_installService (hM : M.DeletesAtOnce) {identity : ServiceIdentity}
    (h : identity.name = kServiceName) :
    Change ok A (insert .service A) (installService identity) := by
  unfold installService
  split
  · exact change_failed _
  · refine change_withBackend _ _ (Triple.perform (fun _ hw => .inl hw) fun w c hw _ => ⟨?_, ?_⟩)
    · rcases hM.create w.services identity c with hsame | hnew
      · exact .inl ((forms_same_services hsame).trans hw)
      · rw [h] at hnew
        exact .inr (hw ▸ forms_service hnew)
    · intro hworked
      have hnew := hM.created w.services identity c hworked
      rw [h] at hnew
      exact hw ▸ forms_service hnew

theorem change_uninstallService (hM : M.DeletesAtOnce) :
    Change ok A (A \ {.service}) (uninstallService kServiceName) := by
  unfold uninstallService
  split
  · exact change_failed _
  · refine change_withBackend _ _ (Triple.perform (fun _ hw => .inl hw) fun w c hw _ => ⟨?_, ?_⟩)
    · rcases hM.delete w.services kServiceName c with hsame | hgone
      · exact .inl ((forms_same_services hsame).trans hw)
      · exact .inr (hw ▸ forms_no_service hgone)
    · intro hworked
      exact hw ▸ forms_no_service (hM.deleted w.services kServiceName c hworked)

end Change

/-! ## The commands of one form -/

section Commands

variable {ok : RegistrationWorld M → RegistrationCall → RegistrationChoice → Prop}
  {A B : Set AgentForm}

/-- A command that makes one change: it leaves `A` or leads to `B`, and exit code 0 means `B`. -/
def MovesTo (ok : RegistrationWorld M → RegistrationCall → RegistrationChoice → Prop)
    (A B : Set AgentForm) (p : RegistrationProg CommandEnd) : Prop :=
  Triple registrationHandler ok (fun w => w.forms = A) p
    (fun e w => (w.forms = A ∨ w.forms = B) ∧ (e.exitCode = 0 → w.forms = B))
    (fun w => w.forms = A ∨ w.forms = B)

theorem moves_refused (errors : List String) : MovesTo ok A B (pure (refused errors)) :=
  Triple.ret fun _ hw => ⟨.inl hw, fun h => by cases h⟩

theorem moves_quiet {α : Type} {p : RegistrationProg α} {f : α → RegistrationProg CommandEnd}
    (hp : ¬ p.MayCall RegistrationCall.Changes) (hf : ∀ a, MovesTo ok A B (f a)) :
    MovesTo ok A B (p >>= f) :=
  Triple.bind (Triple.conseq (quiet_spec hp) (fun _ hw => hw) (fun _ _ hw => hw)
    fun _ hw => .inl hw) hf

theorem moves_orEnd {α : Type} {p : RegistrationProg (Result α)} {failed : Error → CommandEnd}
    {f : α → RegistrationProg CommandEnd} (hp : ¬ p.MayCall RegistrationCall.Changes)
    (hfailed : ∀ e, ∃ errors, failed e = refused errors) (hf : ∀ a, MovesTo ok A B (f a)) :
    MovesTo ok A B (orEnd p failed f) := by
  refine moves_quiet hp fun r => ?_
  cases r with
  | ok a => exact hf a
  | error e =>
    obtain ⟨errors, he⟩ := hfailed e
    dsimp only
    rw [he]
    exact moves_refused errors

theorem moves_changeForm {form : AgentForm} {install : Bool} {intent : String}
    {change : RegistrationProg (Result Unit)} {failed : Error → CommandEnd}
    {afterwards : RegistrationProg Unit} (hchange : Change ok A B change)
    (hfailed : ∀ e, ∃ errors, failed e = refused errors)
    (hafter : ¬ afterwards.MayCall RegistrationCall.Changes) :
    MovesTo ok A B (changeForm form install intent change failed afterwards) := by
  refine moves_quiet (not_mayCall_recording _) fun _ => Triple.bind hchange fun r => ?_
  cases r with
  | error e =>
    obtain ⟨errors, he⟩ := hfailed e
    dsimp only
    rw [he]
    exact Triple.ret fun w hw => ⟨hw.1, fun h => by cases h⟩
  | ok _ =>
    refine Triple.pre (P := fun w => w.forms = B) ?_ fun w hw => hw.2 rfl
    have hquiet : ¬ (auditAgentFormAction form install true >>= fun _ =>
        afterwards >>= fun _ => (pure { exitCode := 0 } : RegistrationProg CommandEnd)).MayCall
          RegistrationCall.Changes :=
      Prog.not_mayCall_bind (not_mayCall_auditAgentFormAction form install true) fun _ =>
        Prog.not_mayCall_bind hafter fun _ => not_mayCall_ret
    exact Triple.conseq (quiet_spec hquiet) (fun _ hw => hw)
      (fun _ _ hw => ⟨.inr hw, fun _ => hw⟩) fun _ hw => .inr hw

theorem hostAutostartCommandLine_ne_nil (exePath : Text) : hostAutostartCommandLine exePath ≠ [] := by
  unfold hostAutostartCommandLine
  exact fun h => by cases h

theorem not_mayCall_serviceCooldownPassed :
    ¬ serviceCooldownPassed.MayCall RegistrationCall.Changes := by
  refine Prog.not_mayCall_bind (not_mayCall_perform id) fun ledger => ?_
  cases ledger with
  | error e => exact not_mayCall_ret
  | ok ledger =>
    exact Prog.not_mayCall_bind (not_mayCall_perform id) fun _ => not_mayCall_ret

/-- Each of the six leaf commands makes its own change and no other. -/
theorem moves_action (hM : M.DeletesAtOnce) (form : AgentForm) (install : Bool) :
    MovesTo ok A (AgentFormAction.on { form := form, install := install } A)
      (runAgentFormAction form install) := by
  cases form <;> cases install
  case startupTray.false =>
    exact moves_changeForm change_removeStartupEntry (fun _ => ⟨_, rfl⟩) not_mayCall_ret
  case startupTray.true =>
    refine moves_orEnd (not_mayCall_perform id) (fun _ => ⟨_, rfl⟩) fun _ =>
      moves_quiet (not_mayCall_perform id) fun exePath => ?_
    cases exePath with
    | none => exact moves_refused _
    | some exePath =>
      refine moves_quiet (not_mayCall_perform id) fun backend => ?_
      cases backend
      · exact moves_refused _
      · exact moves_changeForm (change_writeStartup (hostAutostartCommandLine_ne_nil exePath))
          (fun _ => ⟨_, rfl⟩) not_mayCall_ret
  case scheduledTask.false =>
    exact moves_orEnd (not_mayCall_perform id) (fun _ => ⟨_, rfl⟩) fun _ =>
      moves_changeForm change_removeScheduledTask (fun _ => ⟨_, rfl⟩) not_mayCall_ret
  case scheduledTask.true =>
    refine moves_orEnd (not_mayCall_perform id) (fun _ => ⟨_, rfl⟩) fun _ =>
      moves_quiet (not_mayCall_perform id) fun exePath => ?_
    cases exePath with
    | none => exact moves_refused _
    | some exePath =>
      exact moves_changeForm (change_installScheduledTask rfl) (fun _ => ⟨_, rfl⟩) not_mayCall_ret
  case service.false =>
    exact moves_orEnd (not_mayCall_perform id) (fun _ => ⟨_, rfl⟩) fun _ =>
      moves_changeForm (change_uninstallService hM) (fun _ => ⟨_, rfl⟩) not_mayCall_ret
  case service.true =>
    refine moves_orEnd (not_mayCall_perform id) (fun _ => ⟨_, rfl⟩) fun _ =>
      moves_quiet not_mayCall_serviceCooldownPassed fun passed => ?_
    cases passed
    · exact moves_refused _
    · exact moves_changeForm (change_installService hM rfl) (fun _ => ⟨_, rfl⟩)
        (not_mayCall_recording _)

/-! ## Lists of steps -/

/-- Cut off anywhere, a run has done whole steps of its list, in their order; exit code 0 means all of
them. -/
theorem runFormActions_spec (hM : M.DeletesAtOnce)
    {stopped : AgentFormAction → CommandEnd → CommandEnd}
    (hstopped : ∀ action result, (stopped action result).exitCode = result.exitCode)
    (actions : List AgentFormAction) (A : Set AgentForm) :
    Triple registrationHandler ok (fun w => w.forms = A) (runFormActions stopped actions)
      (fun e w => Along A actions w ∧ (e.exitCode = 0 → w.forms = After A actions))
      (Along A actions) := by
  induction actions generalizing A with
  | nil => exact Triple.ret fun w hw => ⟨along_start hw, fun _ => hw⟩
  | cons action actions ih =>
    have hone : ∀ w : RegistrationWorld M, w.forms = A ∨ w.forms = action.on A →
        Along A (action :: actions) w := by
      rintro w (hw | hw)
      · exact along_start hw
      · exact (along_start hw).cons
    refine Triple.bind (Triple.conseq (moves_action hM action.form action.install) (fun _ hw => hw)
      (fun _ _ hw => hw) hone) fun result => ?_
    by_cases hresult : result.exitCode ≠ 0
    · rw [if_pos hresult]
      refine Triple.ret fun w hw => ⟨hone w hw.1, fun h => ?_⟩
      rw [hstopped] at h
      exact absurd h hresult
    · rw [if_neg hresult]
      refine Triple.conseq (ih (action.on A)) (fun w hw => hw.2 (not_not.mp hresult))
        (fun e w hw => ⟨hw.1.cons, hw.2⟩) fun w hw => hw.cons

/-! ## The queries -/

/-- Every call is answered without failure. -/
def Answering (ok : RegistrationWorld M → RegistrationCall → RegistrationChoice → Prop) : Prop :=
  ∀ w e c, ok w e c → c.error = none ∧ c.backend = true

/-- What a query says about a form: never too much, and the whole truth when it is answered. -/
structure Reads {α : Type}
    (ok : RegistrationWorld M → RegistrationCall → RegistrationChoice → Prop)
    (installed : α → Bool) (φ : Prop) (r : Result α) : Prop where
  sound : installedBy installed r = true → φ
  complete : Answering ok → φ → installedBy installed r = true

theorem reads_answered {α : Type} {installed : α → Bool} {φ : Prop} {w : RegistrationWorld M}
    {e : RegistrationCall} {c : RegistrationChoice} {a : α} (hc : ok w e c)
    (h : installed a = true ↔ φ) : Reads ok installed φ (c.answered a) := by
  unfold RegistrationChoice.answered
  cases herror : c.error with
  | none => exact ⟨h.mp, fun _ => h.mpr⟩
  | some e =>
    refine ⟨fun h => (by cases h), fun hans => ?_⟩
    rw [(hans w _ c hc).1] at herror
    cases herror

section Queries

variable {P : RegistrationWorld M → Prop}

theorem spec_withBackend {α : Type} {form : AgentForm} {p : RegistrationProg (Result α)}
    {failure : Error} {installed : α → Bool} {φ : Prop}
    (hp : Triple registrationHandler ok P p (fun r w => P w ∧ Reads ok installed φ r) P) :
    Triple registrationHandler ok P (withBackend form failure p)
      (fun r w => P w ∧ Reads ok installed φ r) P := by
  refine Triple.bind (M := fun backend w => P w ∧ (Answering ok → backend = true)) ?_
    fun backend => ?_
  · exact Triple.perform (fun _ hw => hw) fun w c hw hc => ⟨hw, fun hans => (hans w _ c hc).2⟩
  · cases backend
    · refine Triple.ret fun w hw => ⟨hw.1, fun h => (by cases h), fun hans => ?_⟩
      cases hw.2 hans
    · exact Triple.pre hp fun w hw => hw.1

theorem queryStartupEntry_spec (hP : ∀ w, P w → w.forms = A) :
    Triple registrationHandler ok P queryStartupEntry
      (fun r w => P w ∧ Reads ok (fun value : Text => !value.isEmpty) (.startupTray ∈ A) r) P := by
  refine spec_withBackend (Triple.perform (fun _ hw => hw) fun w c hw hc => ⟨hw, ?_⟩)
  refine reads_answered hc ?_
  rw [← hP w hw]
  exact Iff.rfl

theorem queryScheduledTask_spec (hP : ∀ w, P w → w.forms = A) :
    Triple registrationHandler ok P (queryScheduledTask kScheduledTaskName)
      (fun r w => P w ∧
        Reads ok (fun status : ScheduledTaskStatus => status.installed) (.scheduledTask ∈ A) r)
      P := by
  have hname : checkTaskName "QueryScheduledTask" kScheduledTaskName = .ok () := by decide
  unfold queryScheduledTask
  rw [hname]
  refine spec_withBackend (Triple.perform (fun _ hw => hw) fun w c hw hc => ⟨hw, ?_⟩)
  refine reads_answered hc ?_
  rw [← hP w hw]
  show _ ↔ (w.tasks kScheduledTaskName).isSome = true
  cases w.tasks kScheduledTaskName <;> simp

theorem queryService_spec (hP : ∀ w, P w → w.forms = A) :
    Triple registrationHandler ok P (queryService kServiceName)
      (fun r w => P w ∧
        Reads ok (fun status : ServiceInstallStatus => status.installed) (.service ∈ A) r) P := by
  have hname : kServiceName ≠ [] := by decide
  unfold queryService
  rw [if_neg hname]
  refine spec_withBackend (Triple.perform (fun _ hw => hw) fun w c hw hc => ⟨hw, ?_⟩)
  refine reads_answered hc ?_
  rw [← hP w hw]
  exact Iff.rfl

end Queries

/-- What the queries say is installed is registered, and the converse when all are answered. -/
theorem queryForms_spec :
    Triple registrationHandler ok (fun w => w.forms = A) queryForms
      (fun flags w => w.forms = A ∧ (∀ form, flags.of form = true → form ∈ A) ∧
        (Answering ok → ∀ form ∈ A, flags.of form = true))
      (fun w => w.forms = A) := by
  refine Triple.bind (queryStartupEntry_spec fun _ hw => hw) fun startup => ?_
  refine Triple.bind (Triple.conseq (queryScheduledTask_spec fun _ hw => hw.1) (fun _ hw => hw)
    (fun _ _ hw => hw) fun _ hw => hw.1) fun task => ?_
  refine Triple.bind (Triple.conseq (queryService_spec fun _ hw => hw.1.1) (fun _ hw => hw)
    (fun _ _ hw => hw) fun _ hw => hw.1.1) fun service => Triple.ret ?_
  rintro w ⟨⟨⟨hw, hstartup⟩, htask⟩, hservice⟩
  refine ⟨hw, fun form hform => ?_, fun hans form hform => ?_⟩
  · cases form
    · exact hstartup.sound hform
    · exact htask.sound hform
    · exact hservice.sound hform
  · cases form
    · exact hstartup.complete hans hform
    · exact htask.complete hans hform
    · exact hservice.complete hans hform

end Commands

/-! ## Never without a form -/

section NeverBare

variable {ok : RegistrationWorld M → RegistrationCall → RegistrationChoice → Prop}
  {A : Set AgentForm}

theorem applyStopped_exitCode (action : AgentFormAction) (result : CommandEnd) :
    (applyStopped action result).exitCode = result.exitCode := rfl

theorem removalStopped_exitCode (action : AgentFormAction) (result : CommandEnd) :
    (removalStopped action result).exitCode = result.exitCode := rfl

theorem covered_of_along {target : AgentForm} {flags : FormFlags} {w : RegistrationWorld M}
    (hflags : flags.of target = true → target ∈ A)
    (h : Along A (resolveFormApplyActions target flags) w) : Covered target A w.forms := by
  obtain ⟨pre, hpre, hforms⟩ := h
  rw [hforms]
  exact covered_plan hflags hpre

theorem convergeForms_covered (hM : M.DeletesAtOnce) (declared : AgentForm) (dryRun : Bool) :
    Triple registrationHandler ok (fun w => w.forms = A) (convergeForms declared dryRun)
      (fun _ w => Covered declared A w.forms) (fun w => Covered declared A w.forms) := by
  have hstart : ∀ w : RegistrationWorld M, w.forms = A → Covered declared A w.forms := by
    rintro w rfl
    exact Covered.refl declared w.forms
  refine Triple.bind (Triple.conseq queryForms_spec (fun _ hw => hw) (fun _ _ hw => hw) hstart)
    fun flags => ?_
  refine Triple.assume (fun _ hw => hw.2.1) fun hflags =>
    Triple.pre (P := fun w => w.forms = A) ?_ fun _ hw => hw.1
  dsimp only
  split
  · exact Triple.ret hstart
  · split
    · exact Triple.ret hstart
    · exact Triple.conseq (runFormActions_spec hM applyStopped_exitCode _ A) (fun _ hw => hw)
        (fun _ w hw => covered_of_along (hflags declared) hw.1)
        fun w hw => covered_of_along (hflags declared) hw

theorem installForm_covered (hM : M.DeletesAtOnce) (form : AgentForm) (replace : Bool) :
    Triple registrationHandler ok (fun w => w.forms = A) (installForm form replace)
      (fun _ w => Covered form A w.forms) (fun w => Covered form A w.forms) := by
  have hstart : ∀ w : RegistrationWorld M, w.forms = A → Covered form A w.forms := by
    rintro w rfl
    exact Covered.refl form w.forms
  have hone : ∀ w : RegistrationWorld M, w.forms = A ∨
      w.forms = AgentFormAction.on { form := form, install := true } A → Covered form A w.forms := by
    rintro w (hw | hw)
    · exact hstart w hw
    · rw [hw]
      exact .inl (Set.mem_insert form A)
  refine Triple.bind (Triple.conseq queryForms_spec (fun _ hw => hw) (fun _ _ hw => hw) hstart)
    fun flags => Triple.pre (P := fun w => w.forms = A) ?_ fun _ hw => hw.1
  dsimp only
  split
  · exact Triple.ret hstart
  · refine Triple.bind (Triple.conseq (moves_action hM form true) (fun _ hw => hw) (fun _ _ hw => hw)
      hone) fun installed => ?_
    split
    · exact Triple.ret fun w hw => hone w hw.1
    · case _ hinstalled =>
      -- the form is registered from here on, and the removals concern other forms
      have hkept : ∀ w : RegistrationWorld M, Along
          (AgentFormAction.on { form := form, install := true } A)
          ((conflictingAgentForms form flags).map fun other => { form := other, install := false })
          w → Covered form A w.forms := by
        rintro w ⟨pre, hpre, hforms⟩
        rw [hforms, List.prefix_iff_eq_take.mp hpre, ← List.map_take]
        refine .inl (mem_after_removals.mpr ⟨Set.mem_insert form A, fun hmem => ?_⟩)
        exact (mem_conflictingAgentForms.mp (List.mem_of_mem_take hmem)).1 rfl
      exact Triple.conseq (runFormActions_spec hM removalStopped_exitCode _ _)
        (fun w hw => hw.2 (not_not.mp hinstalled)) (fun _ w hw => hkept w hw.1) hkept

/-- Some form is registered, or nothing was given up. -/
def Kept (A : Set AgentForm) (w : RegistrationWorld M) : Prop := ∃ target, Covered target A w.forms

theorem kept_of_eq {w : RegistrationWorld M} (h : w.forms = A) : Kept A w :=
  ⟨defaultAgentForm, by rw [h]; exact Covered.refl _ A⟩

/-- No choice of options makes `--agent-form` give a form up first, `remove` apart. -/
theorem runAgentFormCommand_kept (hM : M.DeletesAtOnce) {args : List Text}
    (hargs : args.head? ≠ some "remove".toList) :
    Triple registrationHandler ok (fun w => w.forms = A) (runAgentFormCommand args)
      (fun _ w => Kept A w) (Kept A) := by
  have hrefused : ∀ errors : List String, Triple registrationHandler ok (fun w => w.forms = A)
      (pure (refused errors) : RegistrationProg CommandEnd) (fun _ w => Kept A w) (Kept A) :=
    fun errors => Triple.ret fun _ hw => kept_of_eq hw
  have hdeclared : ∀ (path : Option Text) (f : String → RegistrationProg CommandEnd),
      (∀ declared, Triple registrationHandler ok (fun w => w.forms = A) (f declared)
        (fun _ w => Kept A w) (Kept A)) →
      Triple registrationHandler ok (fun w => w.forms = A) (declaredForm path f)
        (fun _ w => Kept A w) (Kept A) := by
    intro path f hf
    cases path with
    | none => exact hf _
    | some path =>
      refine Triple.bind (Triple.conseq (quiet_spec (not_mayCall_perform id)) (fun _ hw => hw)
        (fun _ _ hw => hw) fun _ hw => kept_of_eq hw) fun r => ?_
      cases r with
      | error e => exact hrefused _
      | ok config => exact hf _
  have hstatus : ∀ declared : String, Triple registrationHandler ok (fun w => w.forms = A)
      (queryStartupEntry >>= fun startup =>
        queryScheduledTask kScheduledTaskName >>= fun task =>
        queryService kServiceName >>= fun service =>
        (pure { exitCode := 0
                errors := statusErrors "startup_tray :" startup ++
                  statusErrors "task         :" task ++ statusErrors "service      :" service } :
          RegistrationProg CommandEnd))
      (fun _ w => Kept A w) (Kept A) := by
    intro declared
    refine Triple.conseq (quiet_spec ?_) (fun _ hw => hw) (fun _ _ hw => kept_of_eq hw)
      fun _ hw => kept_of_eq hw
    exact Prog.not_mayCall_bind not_mayCall_queryStartupEntry fun _ =>
      Prog.not_mayCall_bind (not_mayCall_queryScheduledTask _) fun _ =>
        Prog.not_mayCall_bind (not_mayCall_queryService _) fun _ => not_mayCall_ret
  have happly : ∀ args : List Text, Triple registrationHandler ok (fun w => w.forms = A)
      (runAgentFormApply args) (fun _ w => Kept A w) (Kept A) := by
    intro args
    unfold runAgentFormApply
    split
    · exact hrefused _
    · refine hdeclared _ _ fun declared => ?_
      split
      · exact hrefused _
      · case _ form _ =>
        exact Triple.conseq (convergeForms_covered hM form _) (fun _ hw => hw)
          (fun _ _ hw => ⟨form, hw⟩) fun _ hw => ⟨form, hw⟩
  unfold runAgentFormCommand
  split
  · exact hrefused _
  · case _ action args =>
    split
    · exact happly args
    · split
      · exact hdeclared _ _ hstatus
      · split
        · exact hrefused _
        · case _ hverb =>
          have hinstall : action = "install".toList := by
            by_contra hne
            refine hverb ⟨hne, fun heq => hargs ?_⟩
            rw [heq]
            rfl
          split
          · exact hrefused _
          · split
            · exact hrefused _
            · split
              · exact hrefused _
              · case _ form _ =>
                rw [if_pos hinstall]
                exact Triple.conseq (installForm_covered hM form _) (fun _ hw => hw)
                  (fun _ _ hw => ⟨form, hw⟩) fun _ hw => ⟨form, hw⟩

end NeverBare

/-- A command line after `--agent-form`, and what the outside decides while it runs. -/
structure FormCommand where
  args : List Text
  choices : List RegistrationChoice

/-- The world when the command has ended or was killed. -/
def formCommand (w : RegistrationWorld M) (command : FormCommand) : RegistrationWorld M :=
  ((runAgentFormCommand command.args).run registrationHandler w command.choices).1

/-- Whichever calls fail and wherever the process is killed, as long as a deleted service is gone at
once: `apply` and `install` give no form up before their target is registered, and no sequence of
commands without `remove` takes the last form away. -/
theorem forms_never_bare (M : ServiceManager) (hM : M.DeletesAtOnce) :
    (∀ declared dryRun (w : RegistrationWorld M) cs, Covered declared w.forms
      ((convergeForms declared dryRun).run registrationHandler w cs).1.forms) ∧
    (∀ form replace (w : RegistrationWorld M) cs, Covered form w.forms
      ((installForm form replace).run registrationHandler w cs).1.forms) ∧
    ∀ (w : RegistrationWorld M) (commands : List FormCommand), w.forms.Nonempty →
      (∀ command ∈ commands, command.args.head? ≠ some "remove".toList) →
      Always formCommand (fun w => w.forms.Nonempty) w commands := by
  have hrun : ∀ {α : Type} {p : RegistrationProg α} {I : RegistrationWorld M → Prop}
      {w : RegistrationWorld M} {cs : List RegistrationChoice},
      Triple registrationHandler (fun _ _ _ => True) (fun w' => w'.forms = w.forms) p
        (fun _ => I) I → I (p.run registrationHandler w cs).1 := by
    intro α p I w cs hp
    have := hp w cs rfl Prog.answered_true
    rcases hr : p.run registrationHandler w cs with ⟨w', _ | a⟩ <;> rw [hr] at this <;> exact this
  refine ⟨fun declared dryRun w cs => hrun (convergeForms_covered hM declared dryRun),
    fun form replace w cs => hrun (installForm_covered hM form replace), ?_⟩
  intro w commands hw hcommands
  have hstep : ∀ (w : RegistrationWorld M) (command : FormCommand), w.forms.Nonempty →
      command.args.head? ≠ some "remove".toList → (formCommand w command).forms.Nonempty := by
    intro w command hI hargs
    obtain ⟨target, hcovered⟩ : Kept w.forms (formCommand w command) :=
      hrun (runAgentFormCommand_kept hM hargs)
    exact hcovered.nonempty hI
  exact always_of_steps (I := fun w : RegistrationWorld M => w.forms.Nonempty) hstep (fun _ hI => hI)
    hw (steps_of_forall hcommands)

def errorServiceExists : Nat := 1073
def errorServiceDoesNotExist : Nat := 1060

/-- The manager on services none of which runs or is held open. -/
def stoppedServices : ServiceManager where
  State := Text → Option ServiceIdentity
  found services name := (services name).isSome
  create services identity c :=
    if (services identity.name).isSome then
      (.error (.fromWin32 errorServiceExists "CreateServiceW"), services)
    else c.changed services (Function.update services identity.name (some identity))
  delete services name c :=
    if (services name).isSome then c.changed services (Function.update services name none)
    else (.error (.fromWin32 errorServiceDoesNotExist "OpenServiceW"), services)

/-- What `changed` does is all or nothing, and all of it when it works. -/
theorem changed_found {s s' : stoppedServices.State} {found : Text → Bool}
    (h : stoppedServices.found s' = found) (c : RegistrationChoice) :
    (stoppedServices.found (c.changed s s').2 = stoppedServices.found s ∨
        stoppedServices.found (c.changed s s').2 = found) ∧
      ((c.changed s s').1 = .ok () → stoppedServices.found (c.changed s s').2 = found) := by
  unfold RegistrationChoice.changed
  cases c.error with
  | none => exact ⟨.inr h, fun _ => h⟩
  | some e =>
    refine ⟨?_, fun hok => by cases hok⟩
    dsimp only
    split
    · exact .inr h
    · exact .inl rfl

theorem stoppedServices_found (s : Text → Option ServiceIdentity) (name : Text)
    (value : Option ServiceIdentity) :
    stoppedServices.found (Function.update s name value) =
      Function.update (stoppedServices.found s) name value.isSome := by
  funext other
  show (Function.update s name value other).isSome = _
  by_cases heq : other = name
  · subst heq
    rw [Function.update_self, Function.update_self]
  · rw [Function.update_of_ne heq, Function.update_of_ne heq]
    rfl

theorem stoppedServices_deletesAtOnce : stoppedServices.DeletesAtOnce := by
  have hcreate : ∀ s identity c,
      (stoppedServices.found (stoppedServices.create s identity c).2 = stoppedServices.found s ∨
        stoppedServices.found (stoppedServices.create s identity c).2 =
          Function.update (stoppedServices.found s) identity.name true) ∧
      ((stoppedServices.create s identity c).1 = .ok () →
        stoppedServices.found (stoppedServices.create s identity c).2 =
          Function.update (stoppedServices.found s) identity.name true) := by
    intro s identity c
    by_cases hthere : (s identity.name).isSome = true
    · have hcall : stoppedServices.create s identity c =
          (.error (.fromWin32 errorServiceExists "CreateServiceW"), s) := if_pos hthere
      rw [hcall]
      exact ⟨.inl rfl, fun hok => by cases hok⟩
    · have hcall : stoppedServices.create s identity c =
          c.changed s (Function.update s identity.name (some identity)) := if_neg hthere
      rw [hcall]
      exact changed_found (stoppedServices_found s identity.name (some identity)) c
  have hdelete : ∀ s name c,
      (stoppedServices.found (stoppedServices.delete s name c).2 = stoppedServices.found s ∨
        stoppedServices.found (stoppedServices.delete s name c).2 =
          Function.update (stoppedServices.found s) name false) ∧
      ((stoppedServices.delete s name c).1 = .ok () →
        stoppedServices.found (stoppedServices.delete s name c).2 =
          Function.update (stoppedServices.found s) name false) := by
    intro s name c
    by_cases hthere : (s name).isSome = true
    · have hcall : stoppedServices.delete s name c = c.changed s (Function.update s name none) :=
        if_pos hthere
      rw [hcall]
      exact changed_found (stoppedServices_found s name none) c
    · have hcall : stoppedServices.delete s name c =
          (.error (.fromWin32 errorServiceDoesNotExist "OpenServiceW"), s) := if_neg hthere
      rw [hcall]
      exact ⟨.inl rfl, fun hok => by cases hok⟩
  exact ⟨fun s identity c => (hcreate s identity c).1, fun s identity c => (hcreate s identity c).2,
    fun s name c => (hdelete s name c).1, fun s name c => (hdelete s name c).2⟩

/-- A service that is registered and stopped. -/
def serviceOnly : RegistrationWorld stoppedServices :=
  { services := Function.update (fun _ => none) kServiceName (some (serviceIdentity none)) }

/-- Killed after the start-up entry was written and before the service was removed. -/
theorem forms_never_bare_killed :
    Always formCommand (fun w => w.forms.Nonempty) serviceOnly
      [⟨["apply".toList], List.replicate 12 { exePath := some ['x'] }⟩] := by
  refine (forms_never_bare stoppedServices stoppedServices_deletesAtOnce).2.2 _ _ ⟨.service, ?_⟩
    fun command hmem => ?_
  · simp [RegistrationWorld.installed, serviceOnly, stoppedServices]
  · rw [List.mem_singleton.mp hmem]
    decide

end Service
end CppOptimizer
