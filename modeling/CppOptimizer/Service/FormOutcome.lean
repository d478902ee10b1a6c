import CppOptimizer.Service.FormConvergence

/-!
# CppOptimizer.Service.FormOutcome

What the exit code of `--agent-form apply` and `install` says about the registered forms, and that a
run on working calls brings every state, however it came about, to the declared form.

* `observed`         — what the queries of a run said.
* `exit_zero_exact`  — exit code 0: the target, and beside it the forms whose query failed.
* `Working`, `Fits`  — calls that work, and lists of steps that find what they expect.
* `apply_restores`   — one working run from any state ends in exactly the declared form.
-/

namespace CppOptimizer
namespace Service

open Common Config Lib Policy Command RegistrationProg

variable {M : ServiceManager}

/-- The flags that the queries at the start of a run return. -/
def observed (w : RegistrationWorld M) (cs : List RegistrationChoice) : Option FormFlags :=
  (queryForms.run registrationHandler w cs).2

/-- The choices of a run answer its queries. -/
def QueriesAnswered (w : RegistrationWorld M) (cs : List RegistrationChoice) : Prop :=
  queryForms.Answered registrationHandler (fun _ _ c => c.error = none ∧ c.backend = true) w cs

/-- The target, and the forms that were registered and not seen. -/
def targetAndUnseen (target : AgentForm) (flags : FormFlags) (forms : Set AgentForm) :
    Set AgentForm :=
  {form | form = target ∨ form ∈ forms ∧ flags.of form = false}

section ExitCode

variable {w w₁ w' : RegistrationWorld M} {cs : List RegistrationChoice} {flags : FormFlags}
  {e : CommandEnd}

theorem queryForms_run (h : queryForms.run registrationHandler w cs = (w₁, some flags)) :
    w₁.forms = w.forms ∧ ∀ form, flags.of form = true → form ∈ w.forms := by
  have hspec := queryForms_spec (A := w.forms) w cs rfl Prog.answered_true
  rw [h] at hspec
  exact ⟨hspec.1, hspec.2.1⟩

theorem of_iff_of_answered (hans : QueriesAnswered w cs) (h : observed w cs = some flags)
    (form : AgentForm) : flags.of form = true ↔ form ∈ w.forms := by
  have hspec := queryForms_spec (A := w.forms) w cs rfl hans
  unfold observed at h
  rcases hr : queryForms.run registrationHandler w cs with ⟨w₁, _ | flags'⟩
  · rw [hr] at h
    cases h
  · rw [hr] at h hspec
    cases h
    exact ⟨hspec.2.1 form, hspec.2.2 (fun _ _ _ hc => hc) form⟩

theorem after_plan {target : AgentForm} {forms : Set AgentForm}
    (hflags : ∀ form, flags.of form = true → form ∈ forms) :
    After forms (resolveFormApplyActions target flags) = targetAndUnseen target flags forms :=
  Set.ext fun _ => mem_after_plan hflags

theorem after_install {target : AgentForm} {forms : Set AgentForm} :
    After (AgentFormAction.on { form := target, install := true } forms)
        ((conflictingAgentForms target flags).map fun other => { form := other, install := false }) =
      targetAndUnseen target flags forms := by
  ext form
  rw [mem_after_removals, mem_conflictingAgentForms]
  simp only [AgentFormAction.on, if_true, Set.mem_insert_iff, targetAndUnseen, Set.mem_ofPred_eq]
  by_cases heq : form = target
  · simp [heq]
  · simp [heq]

/-- A run of steps that ends with exit code 0 has done them all. -/
theorem runFormActions_run (hM : M.DeletesAtOnce)
    {stopped : AgentFormAction → CommandEnd → CommandEnd}
    (hstopped : ∀ action result, (stopped action result).exitCode = result.exitCode)
    {actions : List AgentFormAction}
    (h : (runFormActions stopped actions).run registrationHandler w cs = (w', some e))
    (hzero : e.exitCode = 0) : w'.forms = After w.forms actions := by
  have hspec := runFormActions_spec hM hstopped actions w.forms w cs rfl
    Prog.answered_true
  rw [h] at hspec
  exact hspec.2 hzero

theorem apply_exit_zero (hM : M.DeletesAtOnce) {declared : AgentForm}
    (h : (convergeForms declared false).run registrationHandler w cs = (w', some e))
    (hzero : e.exitCode = 0) :
    ∃ flags, observed w cs = some flags ∧ w'.forms = targetAndUnseen declared flags w.forms := by
  obtain ⟨w₁, flags, cs', hquery, hrest⟩ := Prog.run_bind_some h
  obtain ⟨hforms, hflags⟩ := queryForms_run hquery
  refine ⟨flags, by rw [observed, hquery], ?_⟩
  rw [← after_plan hflags, ← hforms]
  dsimp only at hrest
  split at hrest
  · case _ hnone =>
    rw [Prog.pure_eq, Prog.run_ret] at hrest
    cases hrest
    rw [hnone]
    rfl
  · exact runFormActions_run hM applyStopped_exitCode hrest hzero

theorem install_exit_zero (hM : M.DeletesAtOnce) {form : AgentForm} {replace : Bool}
    (h : (installForm form replace).run registrationHandler w cs = (w', some e))
    (hzero : e.exitCode = 0) :
    ∃ flags, observed w cs = some flags ∧ w'.forms = targetAndUnseen form flags w.forms := by
  obtain ⟨w₁, flags, cs', hquery, hrest⟩ := Prog.run_bind_some h
  obtain ⟨hforms, -⟩ := queryForms_run hquery
  refine ⟨flags, by rw [observed, hquery], ?_⟩
  rw [← after_install, ← hforms]
  dsimp only at hrest
  split at hrest
  · rw [Prog.pure_eq, Prog.run_ret] at hrest
    cases hrest
    cases hzero
  · obtain ⟨w₂, installed, cs'', hinstall, hrest⟩ :=
      Prog.run_bind_some hrest
    have hspec := moves_action (A := w₁.forms) hM form true w₁ cs' rfl
      Prog.answered_true
    rw [hinstall] at hspec
    split at hrest
    · case _ hne =>
      rw [Prog.pure_eq, Prog.run_ret] at hrest
      cases hrest
      exact absurd hzero hne
    · case _ hok =>
      rw [← hspec.2 (not_not.mp hok)]
      exact runFormActions_run hM removalStopped_exitCode hrest hzero

theorem targetAndUnseen_of_answered {target : AgentForm} (hans : QueriesAnswered w cs)
    (h : observed w cs = some flags) : targetAndUnseen target flags w.forms = {target} := by
  ext form
  simp only [targetAndUnseen, Set.mem_ofPred_eq, Set.mem_singleton_iff]
  constructor
  · rintro (rfl | ⟨hform, hoff⟩)
    · rfl
    · rw [← of_iff_of_answered hans h] at hform
      rw [hform] at hoff
      cases hoff
  · exact .inl

theorem queryForms_run_world (h : queryForms.run registrationHandler w cs = (w₁, some flags)) :
    w₁ = w := by
  have hspec := quiet_spec (P := fun w' => w' = w)
    not_mayCall_queryForms w cs rfl Prog.answered_true
  rw [h] at hspec
  exact hspec

/-- A form in the way: without `--replace` nothing is touched. -/
theorem install_refused {form : AgentForm} (hobserved : observed w cs = some flags)
    (hconflict : conflictingAgentForms form flags ≠ [])
    (h : (installForm form false).run registrationHandler w cs = (w', some e)) :
    w' = w ∧ e.exitCode = 2 := by
  obtain ⟨w₁, flags', cs', hquery, hrest⟩ := Prog.run_bind_some h
  rw [observed, hquery] at hobserved
  cases hobserved
  dsimp only at hrest
  rw [if_pos ⟨hconflict, rfl⟩, Prog.pure_eq, Prog.run_ret] at hrest
  cases hrest
  exact ⟨queryForms_run_world hquery, rfl⟩

end ExitCode

/-- As long as a deleted service is gone at once, exit code 0 of `apply` and of `install` leaves the
target and, beside it, just the forms that were registered and that the queries at the start did not
report. With these queries answered it is the target alone; and a form they report stops an `install`
without `--replace` before it changes anything. -/
theorem exit_zero_exact (M : ServiceManager) (hM : M.DeletesAtOnce) :
    (∀ declared (w : RegistrationWorld M) cs w' e,
      (convergeForms declared false).run registrationHandler w cs = (w', some e) →
      e.exitCode = 0 →
      (∃ flags, observed w cs = some flags ∧ w'.forms = targetAndUnseen declared flags w.forms) ∧
        (QueriesAnswered w cs → w'.forms = {declared})) ∧
    (∀ form replace (w : RegistrationWorld M) cs w' e,
      (installForm form replace).run registrationHandler w cs = (w', some e) →
      e.exitCode = 0 →
      (∃ flags, observed w cs = some flags ∧ w'.forms = targetAndUnseen form flags w.forms) ∧
        (QueriesAnswered w cs → w'.forms = {form})) ∧
    ∀ form (w : RegistrationWorld M) cs flags w' e, observed w cs = some flags →
      conflictingAgentForms form flags ≠ [] →
      (installForm form false).run registrationHandler w cs = (w', some e) →
      w' = w ∧ e.exitCode = 2 := by
  refine ⟨fun declared w cs w' e h hzero => ?_, fun form replace w cs w' e h hzero => ?_,
    fun form w cs flags w' e hobserved hconflict h => install_refused hobserved hconflict h⟩
  · obtain ⟨flags, hobserved, hforms⟩ := apply_exit_zero hM h hzero
    refine ⟨⟨flags, hobserved, hforms⟩, fun hans => ?_⟩
    rw [hforms, targetAndUnseen_of_answered hans hobserved]
  · obtain ⟨flags, hobserved, hforms⟩ := install_exit_zero hM h hzero
    refine ⟨⟨flags, hobserved, hforms⟩, fun hans => ?_⟩
    rw [hforms, targetAndUnseen_of_answered hans hobserved]

/-! ## Runs in which everything works -/

/-- A call that works, with an executable path and an open cooldown gate. -/
structure Working (recorded : CooldownLedger) (c : RegistrationChoice) : Prop where
  error : c.error = none
  backend : c.backend = true
  exePath : c.exePath.isSome = true
  ledger : c.ledger = recorded
  cooldown : evaluateCooldownGate recorded kServiceRegistrationCapabilityId c.unixSeconds
    kDefaultCooldown = true

/-- On a call that works the manager creates a service that is not there and deletes one that is. -/
structure ServiceManager.Serves (M : ServiceManager) : Prop where
  create : ∀ s identity c, c.error = none → M.found s identity.name = false →
    (M.create s identity c).1 = .ok ()
  delete : ∀ s name c, c.error = none → M.found s name = true → (M.delete s name c).1 = .ok ()

/-- Each step finds what it is for: nothing to install over, something to remove. -/
def Fits : Set AgentForm → List AgentFormAction → Prop
  | _, [] => True
  | forms, action :: actions =>
    (action.install = true ↔ action.form ∉ forms) ∧ Fits (action.on forms) actions

theorem fits_removals {others : List AgentForm} (hnodup : others.Nodup) {forms : Set AgentForm}
    (hmem : ∀ other ∈ others, other ∈ forms) :
    Fits forms (others.map fun other => { form := other, install := false }) := by
  induction others generalizing forms with
  | nil => trivial
  | cons other others ih =>
    obtain ⟨hnot, hnodup⟩ := List.nodup_cons.mp hnodup
    refine ⟨by simp [hmem other List.mem_cons_self], ih hnodup fun x hx => ?_⟩
    simp only [AgentFormAction.on, Bool.false_eq_true, if_false, Set.mem_sdiff,
      Set.mem_singleton_iff]
    exact ⟨hmem x (List.mem_cons_of_mem _ hx), fun heq => hnot (heq ▸ hx)⟩

theorem nodup_conflictingAgentForms (target : AgentForm) (flags : FormFlags) :
    (conflictingAgentForms target flags).Nodup := by
  unfold conflictingAgentForms
  split <;> split <;> split <;> decide

/-- The plan fits the forms that the flags describe. -/
theorem fits_plan {target : AgentForm} {flags : FormFlags} {forms : Set AgentForm}
    (hflags : ∀ form, flags.of form = true ↔ form ∈ forms) :
    Fits forms (resolveFormApplyActions target flags) := by
  have hmem : ∀ other ∈ conflictingAgentForms target flags, other ∈ forms := by
    intro other h
    exact (hflags other).mp (mem_conflictingAgentForms.mp h).2
  unfold resolveFormApplyActions
  split
  · exact fits_removals (nodup_conflictingAgentForms target flags) hmem
  · case _ hoff =>
    refine ⟨?_, fits_removals (nodup_conflictingAgentForms target flags) fun other h => ?_⟩
    · rw [hflags] at hoff
      simpa using hoff
    · exact .inr (hmem other h)

section Works

variable {ledger : CooldownLedger} {P : RegistrationWorld M → Prop}

/-- A program that on working calls comes to its end with success. -/
def Works {α : Type} (ledger : CooldownLedger) (P : RegistrationWorld M → Prop)
    (p : RegistrationProg α) (Q : α → Prop) : Prop :=
  Triple registrationHandler (fun _ _ c => Working ledger c) P p (fun a _ => Q a) fun _ => True

theorem works_ret {α : Type} {a : α} {Q : α → Prop} (h : Q a) : Works ledger P (pure a) Q :=
  Triple.ret fun _ _ => h

theorem works_changeForm {form : AgentForm} {install : Bool} {intent : String}
    {change : RegistrationProg (Result Unit)} {failed : Error → CommandEnd}
    {afterwards : RegistrationProg Unit} (hchange : Works ledger P change (· = .ok ())) :
    Works ledger P (changeForm form install intent change failed afterwards)
      (·.exitCode = 0) := by
  refine Triple.bind (Triple.conseq (quiet_spec (not_mayCall_recording _)) (fun _ hw => hw)
    (fun _ _ hw => hw) fun _ _ => trivial) fun _ => Triple.bind hchange fun r => ?_
  refine Triple.assume (fun _ hr => hr) fun hr => ?_
  rw [hr]
  refine Triple.of_returns ?_
  exact Prog.Returns.bind fun _ => Prog.Returns.bind fun _ => rfl

theorem works_withBackend {form : AgentForm} {failure : Error}
    {p : RegistrationProg (Result Unit)} (hp : Works ledger P p (· = .ok ())) :
    Works ledger P (withBackend form failure p) (· = .ok ()) := by
  refine Triple.bind (M := fun backend w => P w ∧ backend = true) ?_ fun backend => ?_
  · exact Triple.perform (fun _ _ => trivial) fun w c hw hc => ⟨hw, hc.backend⟩
  · refine Triple.assume (fun _ hw => hw.2) fun hbackend => ?_
    rw [hbackend]
    exact Triple.pre hp fun _ hw => hw.1

theorem works_probe {f : Unit → RegistrationProg CommandEnd} {failed : Error → CommandEnd}
    (hf : ∀ u, Works ledger P (f u) (·.exitCode = 0)) :
    Works ledger P (orEnd probeAuditWritable failed f) (·.exitCode = 0) := by
  refine Triple.bind (M := fun r w => P w ∧ r = .ok ()) ?_ fun r => ?_
  · refine Triple.perform (fun _ _ => trivial) fun w c hw hc => ⟨hw, ?_⟩
    show c.answered () = .ok ()
    rw [RegistrationChoice.answered, hc.error]
  · refine Triple.assume (fun _ hw => hw.2) fun hr => ?_
    rw [hr]
    exact Triple.pre (hf ()) fun _ hw => hw.1

theorem changed_ok {σ : Type} {s s' : σ} {c : RegistrationChoice} (hc : c.error = none) :
    (c.changed s s').1 = .ok () := by
  rw [RegistrationChoice.changed, hc]

theorem works_executablePath {f : Option Text → RegistrationProg CommandEnd}
    (hf : ∀ exePath, Works ledger P (f (some exePath)) (·.exitCode = 0)) :
    Works ledger P (executablePath >>= f) (·.exitCode = 0) := by
  refine Triple.bind (M := fun exePath w => P w ∧ exePath.isSome = true) ?_ fun exePath => ?_
  · exact Triple.perform (fun _ _ => trivial) fun w c hw hc => ⟨hw, hc.exePath⟩
  · refine Triple.assume (fun _ hw => hw.2) fun hpath => ?_
    obtain ⟨exePath, rfl⟩ := Option.isSome_iff_exists.mp hpath
    exact Triple.pre (hf exePath) fun _ hw => hw.1

theorem works_cooldown : Works ledger P serviceCooldownPassed (· = true) := by
  refine Triple.bind (M := fun r _ => r = .ok ledger) ?_ fun r => ?_
  · refine Triple.perform (fun _ _ => trivial) fun w c _ hc => ?_
    show c.answered c.ledger = .ok ledger
    rw [RegistrationChoice.answered, hc.error, hc.ledger]
  · refine Triple.assume (fun _ hr => hr) fun hr => ?_
    rw [hr]
    refine Triple.bind (M := fun now _ => evaluateCooldownGate ledger
      kServiceRegistrationCapabilityId now kDefaultCooldown = true) ?_ fun now => ?_
    · exact Triple.perform (fun _ _ => trivial) fun w c _ hc => hc.cooldown
    · exact Triple.ret fun _ h => h

theorem checkTaskSpec_eq_ok {spec : ScheduledTaskSpec}
    (hname : checkTaskName "InstallScheduledTask" spec.taskName = .ok ())
    (hcommand : spec.commandLine ≠ []) (htrigger : spec.trigger = .onLogon) :
    checkTaskSpec spec = .ok () := by
  unfold checkTaskSpec
  simp only [hname, if_neg hcommand, htrigger, ne_eq, not_true, if_false]
  rfl

theorem checkTaskSpec_autostart (exePath : Text) :
    checkTaskSpec ({ taskName := kScheduledTaskName, trigger := .onLogon
                     commandLine := hostAutostartCommandLine exePath } : ScheduledTaskSpec) =
      .ok () := by
  have hname : checkTaskName "InstallScheduledTask" kScheduledTaskName = .ok () := by decide
  exact checkTaskSpec_eq_ok hname (hostAutostartCommandLine_ne_nil exePath) rfl

/-- A leaf command works where it finds what it is for. -/
theorem works_action (hserves : M.Serves) {form : AgentForm} {install : Bool} {A : Set AgentForm}
    (hfits : install = true ↔ form ∉ A) :
    Works ledger (fun w : RegistrationWorld M => w.forms = A) (runAgentFormAction form install)
      (·.exitCode = 0) := by
  cases form <;> cases install
  case startupTray.false =>
    refine works_changeForm (works_withBackend (Triple.perform (fun _ _ => trivial) ?_))
    exact fun w c _ hc => changed_ok hc.error
  case startupTray.true =>
    refine works_probe fun _ => works_executablePath fun exePath => ?_
    refine Triple.bind (M := fun backend w => w.forms = A ∧ backend = true) ?_ fun backend => ?_
    · exact Triple.perform (fun _ _ => trivial) fun w c hw hc => ⟨hw, hc.backend⟩
    · refine Triple.assume (fun _ hw => hw.2) fun hbackend => ?_
      rw [hbackend]
      refine Triple.pre (works_changeForm (Triple.perform (fun _ _ => trivial) ?_))
        fun _ hw => hw.1
      exact fun w c _ hc => changed_ok hc.error
  case scheduledTask.false =>
    have hname : checkTaskName "RemoveScheduledTask" kScheduledTaskName = .ok () := by decide
    refine works_probe fun _ => works_changeForm (works_withBackend ?_)
    rw [hname]
    exact Triple.perform (fun _ _ => trivial) fun w c _ hc => changed_ok hc.error
  case scheduledTask.true =>
    refine works_probe fun _ => works_executablePath fun exePath =>
      works_changeForm (works_withBackend ?_)
    rw [checkTaskSpec_autostart exePath]
    exact Triple.perform (fun _ _ => trivial) fun w c _ hc => changed_ok hc.error
  case service.false =>
    have hthere : AgentForm.service ∈ A := by simpa using hfits
    have hname : kServiceName ≠ [] := by decide
    refine works_probe fun _ => works_changeForm ?_
    unfold uninstallService
    rw [if_neg hname]
    refine works_withBackend (Triple.perform (fun _ _ => trivial) fun w c hw hc => ?_)
    rw [← hw] at hthere
    exact hserves.delete w.services kServiceName c hc.error hthere
  case service.true =>
    have hmissing : AgentForm.service ∉ A := hfits.mp rfl
    have hnames : ¬ ((serviceIdentity none).name = [] ∨ (serviceIdentity none).displayName = []) := by
      decide
    refine works_probe fun _ => ?_
    refine Triple.bind (Triple.conseq (Triple.and (quiet_spec not_mayCall_serviceCooldownPassed)
      works_cooldown) (fun _ hw => hw) (fun _ _ hw => hw) fun _ _ => trivial) fun passed => ?_
    refine Triple.assume (fun _ hw => hw.2) fun hpassed => Triple.pre ?_ fun _ hw => hw.1
    rw [hpassed]
    refine works_changeForm ?_
    unfold installService
    rw [if_neg hnames]
    refine works_withBackend (Triple.perform (fun _ _ => trivial) fun w c hw hc => ?_)
    rw [← hw] at hmissing
    exact hserves.create w.services (serviceIdentity none) c hc.error (Bool.eq_false_iff.mpr hmissing)

theorem works_actions (hM : M.DeletesAtOnce) (hserves : M.Serves)
    {stopped : AgentFormAction → CommandEnd → CommandEnd}
    {actions : List AgentFormAction} {A : Set AgentForm} (hfits : Fits A actions) :
    Works ledger (fun w : RegistrationWorld M => w.forms = A) (runFormActions stopped actions)
      (·.exitCode = 0) := by
  induction actions generalizing A with
  | nil => exact works_ret rfl
  | cons action actions ih =>
    refine Triple.bind (Triple.conseq (Triple.and (moves_action hM action.form action.install)
      (works_action hserves hfits.1)) (fun _ hw => hw) (fun _ _ hw => hw) fun _ _ => trivial)
      fun result => ?_
    refine Triple.assume (fun _ hw => hw.2) fun hzero => ?_
    rw [if_neg (not_not.mpr hzero)]
    exact Triple.pre (ih hfits.2) fun w hw => hw.1.2 hzero

theorem works_converge (hM : M.DeletesAtOnce) (hserves : M.Serves) (declared : AgentForm)
    (A : Set AgentForm) :
    Works ledger (fun w : RegistrationWorld M => w.forms = A) (convergeForms declared false)
      (·.exitCode = 0) := by
  refine Triple.bind (Triple.conseq queryForms_spec (fun _ hw => hw) (fun _ _ hw => hw)
    fun _ _ => trivial) fun flags => ?_
  have hans : Answering fun (_ : RegistrationWorld M) _ c => Working ledger c :=
    fun _ _ c hc => ⟨hc.error, hc.backend⟩
  refine Triple.assume (fun _ hw => hw.2) fun hflags =>
    Triple.pre (P := fun w => w.forms = A) ?_ fun _ hw => hw.1
  dsimp only
  split
  · exact works_ret rfl
  · exact works_actions hM hserves (fits_plan fun form => ⟨hflags.1 form, hflags.2 hans form⟩)

end Works

/-! ## From any state to the declared form -/

section Restore

variable {w w' : RegistrationWorld M} {cs : List RegistrationChoice} {e : CommandEnd}

theorem answered_of_working {α : Type} {ledger : CooldownLedger} {p : RegistrationProg α}
    (hcs : ∀ c ∈ cs, Working ledger c) :
    p.Answered registrationHandler (fun _ _ c => Working ledger c) w cs := by
  refine Prog.Answered.mono Prog.answered_true fun _ _ c hc _ => hcs c hc

theorem queriesAnswered_of_working {ledger : CooldownLedger} (hcs : ∀ c ∈ cs, Working ledger c) :
    QueriesAnswered w cs := by
  refine Prog.Answered.mono Prog.answered_true fun _ _ c hc _ => ?_
  exact ⟨(hcs c hc).error, (hcs c hc).backend⟩

/-- A form that is registered alone stays so, whatever fails. -/
theorem converge_alone (hM : M.DeletesAtOnce) (declared : AgentForm) (hw : w.forms = {declared}) :
    ((convergeForms declared false).run registrationHandler w cs).1.forms = {declared} := by
  have hspec : Triple registrationHandler (fun _ _ _ => True)
      (fun w : RegistrationWorld M => w.forms = {declared})
      (convergeForms declared false) (fun _ w => w.forms = {declared})
      (fun w => w.forms = {declared}) := by
    refine Triple.bind queryForms_spec fun flags => ?_
    refine Triple.assume (fun _ hw => hw.2.1) fun hflags =>
      Triple.pre (P := fun w => w.forms = {declared}) ?_ fun _ hw => hw.1
    dsimp only
    split
    · exact Triple.ret fun _ hw => hw
    · have hnone : conflictingAgentForms declared flags = [] := by
        rw [List.eq_nil_iff_forall_not_mem]
        intro other h
        obtain ⟨hne, hon⟩ := mem_conflictingAgentForms.mp h
        exact hne (hflags other hon)
      -- at most the declared form is registered once more
      have halong : ∀ w : RegistrationWorld M,
          Along {declared} (resolveFormApplyActions declared flags) w → w.forms = {declared} := by
        rintro w ⟨pre, hpre, hforms⟩
        rw [hforms]
        rw [resolveFormApplyActions, hnone, List.map_nil, List.append_nil] at hpre
        split at hpre
        · rw [List.prefix_nil.mp hpre]
          rfl
        · cases pre with
          | nil => rfl
          | cons first rest =>
            obtain ⟨rfl, hrest⟩ := List.cons_prefix_cons.mp hpre
            rw [List.prefix_nil.mp hrest]
            exact Set.insert_eq_of_mem rfl
      exact Triple.conseq (runFormActions_spec hM applyStopped_exitCode _ _) (fun _ hw => hw)
        (fun _ w hw => halong w hw.1) halong
  exact hspec.run hw Prog.answered_true

/-- As long as a deleted service is gone at once, one run of `apply` on working calls, with the cooldown
of the service open, succeeds from every state and leaves exactly the declared form; from then on no run
of it changes the registered forms, whatever fails and wherever it is killed, and none that has its
queries answered changes anything at all. -/
theorem apply_restores (M : ServiceManager) (hM : M.DeletesAtOnce) (hserves : M.Serves)
    (declared : AgentForm) (ledger : CooldownLedger) (w : RegistrationWorld M)
    (cs : List RegistrationChoice) (w' : RegistrationWorld M) (e : CommandEnd)
    (hcs : ∀ c ∈ cs, Working ledger c)
    (h : (convergeForms declared false).run registrationHandler w cs = (w', some e)) :
    e.exitCode = 0 ∧ w'.forms = {declared} ∧
      ∀ ds, ((convergeForms declared false).run registrationHandler w' ds).1.forms = {declared} ∧
        ∀ w'' e'', QueriesAnswered w' ds →
          (convergeForms declared false).run registrationHandler w' ds = (w'', some e'') →
          w'' = w' ∧ e''.exitCode = 0 := by
  have hworks := works_converge hM hserves declared w.forms w cs rfl
    (answered_of_working hcs)
  rw [h] at hworks
  have hzero : e.exitCode = 0 := hworks
  obtain ⟨flags, hobserved, hleft⟩ := apply_exit_zero hM h hzero
  have hforms : w'.forms = {declared} := by
    rw [hleft, targetAndUnseen_of_answered (queriesAnswered_of_working hcs) hobserved]
  refine ⟨hzero, hforms, fun ds => ⟨converge_alone hM declared hforms, ?_⟩⟩
  intro w'' e'' hans hrun
  obtain ⟨w₁, flags, ds', hquery, hrest⟩ := Prog.run_bind_some hrun
  have hflags := of_iff_of_answered hans (by rw [observed, hquery])
  have hplan : resolveFormApplyActions declared flags = [] := by
    have hon : flags.of declared = true := by
      rw [hflags, hforms]
      rfl
    have hnone : conflictingAgentForms declared flags = [] := by
      rw [List.eq_nil_iff_forall_not_mem]
      intro other h
      obtain ⟨hne, hother⟩ := mem_conflictingAgentForms.mp h
      rw [hflags, hforms] at hother
      exact hne hother
    rw [resolveFormApplyActions, if_pos hon, hnone]
    rfl
  dsimp only at hrest
  rw [if_pos hplan, Prog.pure_eq, Prog.run_ret] at hrest
  cases hrest
  exact ⟨queryForms_run_world hquery, rfl⟩

end Restore

/-! ## The service replaced by the start-up entry -/

theorem stoppedServices_serves : stoppedServices.Serves := by
  constructor
  · intro s identity c hc hmissing
    have hcall : stoppedServices.create s identity c =
        c.changed s (Function.update s identity.name (some identity)) :=
      if_neg (Bool.eq_false_iff.mp hmissing)
    rw [hcall]
    exact changed_ok hc
  · intro s name c hc hthere
    have hcall : stoppedServices.delete s name c = c.changed s (Function.update s name none) :=
      if_pos hthere
    rw [hcall]
    exact changed_ok hc

def workingChoices : List RegistrationChoice := List.replicate 40 { exePath := some ['x'] }

theorem working_of_mem {c : RegistrationChoice} (hc : c ∈ workingChoices) : Working {} c := by
  rw [List.eq_of_mem_replicate hc]
  exact ⟨rfl, rfl, rfl, rfl, by decide⟩

theorem workingChoices_exitCode :
    ((convergeForms .startupTray false).run registrationHandler serviceOnly workingChoices).2.map
      (·.exitCode) = some 0 := by decide +kernel

theorem exit_zero_exact_switched : ∃ w' e,
    (convergeForms .startupTray false).run registrationHandler serviceOnly workingChoices =
      (w', some e) ∧ e.exitCode = 0 ∧ w'.forms = {.startupTray} := by
  have hcode := workingChoices_exitCode
  rcases hr : (convergeForms .startupTray false).run registrationHandler serviceOnly workingChoices
    with ⟨w', _ | e⟩
  · rw [hr] at hcode
    cases hcode
  · rw [hr] at hcode
    have hzero : e.exitCode = 0 := Option.some_inj.mp hcode
    refine ⟨w', e, rfl, hzero, ?_⟩
    exact ((exit_zero_exact stoppedServices stoppedServices_deletesAtOnce).1 _ _ _ _ _ hr hzero).2
      (queriesAnswered_of_working fun _ hc => working_of_mem hc)

theorem apply_restores_switched : ∃ w' e,
    (convergeForms .startupTray false).run registrationHandler serviceOnly workingChoices =
      (w', some e) ∧ e.exitCode = 0 ∧ ∀ ds,
        ((convergeForms .startupTray false).run registrationHandler w' ds).1.forms =
          {.startupTray} := by
  have hcode := workingChoices_exitCode
  rcases hr : (convergeForms .startupTray false).run registrationHandler serviceOnly workingChoices
    with ⟨w', _ | e⟩
  · rw [hr] at hcode
    cases hcode
  · obtain ⟨hzero, -, hkept⟩ :=
      apply_restores stoppedServices stoppedServices_deletesAtOnce stoppedServices_serves .startupTray {}
        _ _ _ _ (fun _ hc => working_of_mem hc) hr
    exact ⟨w', e, rfl, hzero, fun ds => (hkept ds).1⟩

end Service
end CppOptimizer
