import CppOptimizer.Service.FormConvergence

/-!
# CppOptimizer.Service.FormTrail

What the commands that change the registered forms hand to the journal and to the audit, whatever the
calls answer and wherever the process is killed. A line that is handed over may fail to be written.

* `Trail`        — what a reader of the calls knows: the probe, the cooldown, the last intent, and a
  change that has worked and that the audit was not given yet.
* `writeAhead`   — the calls that such a reader allows.
* `changeForm_obeys` — what every command does around its one change.
* `changes_announced` — every change has its probe and its intent, and for every one that works the
  audit is given a line.
-/

namespace CppOptimizer
namespace Service

open Common Config Lib Policy Command RegistrationProg

/-- The change that a call makes, as the records name it. -/
def RegistrationCall.change? : RegistrationCall → Option AgentFormAction
  | .writeStartup _ => some { form := .startupTray, install := true }
  | .removeStartup => some { form := .startupTray, install := false }
  | .createTask _ => some { form := .scheduledTask, install := true }
  | .removeTask _ => some { form := .scheduledTask, install := false }
  | .createService _ => some { form := .service, install := true }
  | .deleteService _ => some { form := .service, install := false }
  | _ => none

def startupRemoval : AgentFormAction := { form := .startupTray, install := false }
def serviceCreation : AgentFormAction := { form := .service, install := true }

structure Trail where
  probed : Bool := false
  ledger : Option CooldownLedger := none
  /-- The cooldown has passed, or its ledger could not be read. -/
  cooled : Bool := false
  /-- The last `Before` line that the journal was given, with no change after it. -/
  intent : Option (String × String) := none
  /-- A change that has worked and that the audit was not given. -/
  owed : Option (String × String) := none

/-- The operation and the target of a change in the records. -/
def named (action : AgentFormAction) : String × String :=
  (formOperation action.install, formTarget action.form)

/-- The change has its intent as the last one, its probe, and the cooldown where it has one. -/
structure Announced (t : Trail) (action : AgentFormAction) : Prop where
  intent : t.intent = some (named action)
  settled : t.owed = none
  probed : action ≠ startupRemoval → t.probed = true
  cooled : action = serviceCreation → t.cooled = true

def worked (r : Result Unit) (action : AgentFormAction) : Trail :=
  match r with
  | .ok _ => { owed := some (named action) }
  | .error _ => {}

def Trail.recorded (t : Trail) : CommandCall → Trail
  | .appendJournal .before operationId _ target _ => { t with intent := some (operationId, target) }
  | .appendAudit operationId _ target _ _ =>
    if t.owed = some (operationId, target) then { t with owed := none } else t
  | _ => t

/-- An audit line may stand for the change that has just worked and for nothing else. -/
def Trail.mayRecord (t : Trail) : CommandCall → Prop
  | .appendAudit operationId _ target ok _ => ok = true ∧ t.owed = some (operationId, target)
  | _ => True

def writeAhead : Monitor RegistrationCall RegistrationCall.Answer Trail where
  allows t e :=
    match e with
    | .record call => t.mayRecord call
    | e => ∀ action, e.change? = some action → Announced t action
  next t e r :=
    match e, r with
    | .probeAuditWritable, .ok _ => { t with probed := true }
    | .readCooldownLedger, .ok ledger => { t with ledger := some ledger }
    | .readCooldownLedger, .error _ => { t with cooled := true }
    | .unixSeconds, now =>
      { t with cooled := t.ledger.any fun ledger =>
          evaluateCooldownGate ledger kServiceRegistrationCapabilityId now kDefaultCooldown }
    | .writeStartup _, r => worked r { form := .startupTray, install := true }
    | .removeStartup, r => worked r { form := .startupTray, install := false }
    | .createTask _, r => worked r { form := .scheduledTask, install := true }
    | .removeTask _, r => worked r { form := .scheduledTask, install := false }
    | .createService _, r => worked r { form := .service, install := true }
    | .deleteService _, r => worked r { form := .service, install := false }
    | .record call, _ => t.recorded call
    | _, _ => t

/-! ## The queries -/

section Queries

variable {t : Trail} {α : Type}

theorem obeys_withBackend {form : AgentForm} {failure : Error} {p : RegistrationProg (Result α)}
    {Q : Result α → Trail → Prop} (hp : p.Obeys writeAhead t Q) (hQ : Q (.error failure) t) :
    (withBackend form failure p).Obeys writeAhead t Q := by
  have hbackend : (createBackend form).Obeys writeAhead t fun _ t' => t' = t :=
    Prog.obeys_perform (fun _ h => (by cases h)) fun _ => rfl
  refine hbackend.bind ?_
  rintro backend _ rfl
  cases backend
  · exact hQ
  · exact hp

theorem obeys_queryStartupEntry : queryStartupEntry.Obeys writeAhead t fun _ t' => t' = t :=
  obeys_withBackend (Prog.obeys_perform (fun _ h => (by cases h)) fun _ => rfl) rfl

theorem obeys_queryScheduledTask (taskName : Text) :
    (queryScheduledTask taskName).Obeys writeAhead t fun _ t' => t' = t := by
  refine obeys_withBackend ?_ rfl
  cases checkTaskName "QueryScheduledTask" taskName
  · exact Prog.obeys_ret rfl
  · exact Prog.obeys_perform (fun _ h => (by cases h)) fun _ => rfl

theorem obeys_queryService (name : Text) :
    (queryService name).Obeys writeAhead t fun _ t' => t' = t := by
  unfold queryService
  split
  · exact Prog.obeys_ret rfl
  · exact obeys_withBackend (Prog.obeys_perform (fun _ h => (by cases h)) fun _ => rfl) rfl

/-- The three queries leave the reader where he is, whatever is made of their answers. -/
theorem obeys_queries {f : Result Text → Result ScheduledTaskStatus → Result ServiceInstallStatus → α} :
    (queryStartupEntry >>= fun startup =>
      queryScheduledTask kScheduledTaskName >>= fun task =>
      queryService kServiceName >>= fun service =>
      (pure (f startup task service) : RegistrationProg α)).Obeys writeAhead t
        fun _ t' => t' = t := by
  refine obeys_queryStartupEntry.bind ?_
  rintro startup _ rfl
  refine (obeys_queryScheduledTask _).bind ?_
  rintro task _ rfl
  refine (obeys_queryService _).bind ?_
  rintro service _ rfl
  exact Prog.obeys_ret rfl

end Queries

/-! ## One change -/

/-- What a change leaves behind: a line owed to the audit when it has worked, and nothing else. -/
def Settles (action : AgentFormAction) (r : Result Unit) (t : Trail) : Prop :=
  match r with
  | .ok _ => t.owed = some (named action)
  | .error _ => t.owed = none

theorem settles_worked (action : AgentFormAction) (r : Result Unit) :
    Settles action r (worked r action) := by
  cases r <;> rfl

section Changes

variable {t : Trail}

theorem obeys_writeStartup (command : Text)
    (ht : Announced t { form := .startupTray, install := true }) :
    (writeStartup command).Obeys writeAhead t (Settles { form := .startupTray, install := true }) :=
  Prog.obeys_perform (fun _ h => (by cases h; exact ht)) fun r => settles_worked _ r

theorem obeys_removeStartupEntry (ht : Announced t startupRemoval) :
    removeStartupEntry.Obeys writeAhead t (Settles startupRemoval) := by
  refine obeys_withBackend ?_ ht.settled
  exact Prog.obeys_perform (fun _ h => (by cases h; exact ht)) fun r => settles_worked _ r

theorem obeys_installScheduledTask (spec : ScheduledTaskSpec)
    (ht : Announced t { form := .scheduledTask, install := true }) :
    (installScheduledTask spec).Obeys writeAhead t
      (Settles { form := .scheduledTask, install := true }) := by
  refine obeys_withBackend ?_ ht.settled
  cases checkTaskSpec spec with
  | error e => exact Prog.obeys_ret ht.settled
  | ok _ => exact Prog.obeys_perform (fun _ h => (by cases h; exact ht)) fun r => settles_worked _ r

theorem obeys_removeScheduledTask (taskName : Text)
    (ht : Announced t { form := .scheduledTask, install := false }) :
    (removeScheduledTask taskName).Obeys writeAhead t
      (Settles { form := .scheduledTask, install := false }) := by
  refine obeys_withBackend ?_ ht.settled
  cases checkTaskName "RemoveScheduledTask" taskName with
  | error e => exact Prog.obeys_ret ht.settled
  | ok _ => exact Prog.obeys_perform (fun _ h => (by cases h; exact ht)) fun r => settles_worked _ r

theorem obeys_installService (identity : ServiceIdentity) (ht : Announced t serviceCreation) :
    (installService identity).Obeys writeAhead t (Settles serviceCreation) := by
  unfold installService
  split
  · exact Prog.obeys_ret ht.settled
  · refine obeys_withBackend ?_ ht.settled
    exact Prog.obeys_perform (fun _ h => (by cases h; exact ht)) fun r => settles_worked _ r

theorem obeys_uninstallService (name : Text)
    (ht : Announced t { form := .service, install := false }) :
    (uninstallService name).Obeys writeAhead t (Settles { form := .service, install := false }) := by
  unfold uninstallService
  split
  · exact Prog.obeys_ret ht.settled
  · refine obeys_withBackend ?_ ht.settled
    exact Prog.obeys_perform (fun _ h => (by cases h; exact ht)) fun r => settles_worked _ r

/-! ## The records around it -/

theorem obeys_auditAgentFormAction {action : AgentFormAction} (ht : t.owed = some (named action)) :
    (auditAgentFormAction action.form action.install true).Obeys writeAhead t
      fun _ t' => t'.owed = none := by
  refine Prog.Obeys.bind obeys_queries ?_
  rintro snapshot t' rfl
  have hpaid : (t'.recorded (.appendAudit (formOperation action.install) .r1
      (formTarget action.form) true
      (if action.install then "explicit action (install)" else "explicit action (remove)"))).owed =
      none := by
    unfold Trail.recorded
    exact (congrArg Trail.owed (if_pos ht)).trans rfl
  exact ⟨⟨rfl, ht⟩, fun _ => ⟨trivial, fun _ => ⟨trivial, fun _ => hpaid⟩⟩⟩

theorem changeForm_obeys {action : AgentFormAction} {intent : String}
    {change : RegistrationProg (Result Unit)} {failed : Error → CommandEnd}
    {afterwards : RegistrationProg Unit} (hsettled : t.owed = none)
    (hprobed : action ≠ startupRemoval → t.probed = true)
    (hcooled : action = serviceCreation → t.cooled = true)
    (hchange : ∀ t', Announced t' action → change.Obeys writeAhead t' (Settles action))
    (hafter : ∀ t', t'.owed = none → afterwards.Obeys writeAhead t' fun _ t'' => t''.owed = none) :
    (changeForm action.form action.install intent change failed afterwards).Obeys writeAhead t
      fun _ t' => t'.owed = none := by
  have hintent : (recording (journalAction (formOperation action.install) (formTarget action.form)
      true .before intent)).Obeys writeAhead t fun _ t' => Announced t' action :=
    ⟨trivial, fun _ => ⟨rfl, hsettled, hprobed, hcooled⟩⟩
  refine hintent.bind fun _ t' ht' => (hchange t' ht').bind fun r t'' hr => ?_
  cases r with
  | error e => exact Prog.obeys_ret hr
  | ok _ =>
    exact (obeys_auditAgentFormAction hr).bind fun _ t₃ ht₃ =>
      (hafter t₃ ht₃).bind fun _ _ ht₄ => Prog.obeys_ret ht₄

end Changes

/-! ## The commands -/

section Commands

variable {t : Trail}

theorem obeys_refused (ht : t.owed = none) (errors : List String) :
    (pure (refused errors) : RegistrationProg CommandEnd).Obeys writeAhead t
      fun _ t' => t'.owed = none := Prog.obeys_ret ht

/-- Behind the probe of the audit trail. -/
theorem obeys_probe {f : Unit → RegistrationProg CommandEnd} (ht : t.owed = none)
    (hf : ∀ t', t'.owed = none → t'.probed = true →
      (f ()).Obeys writeAhead t' fun _ t'' => t''.owed = none) :
    (orEnd probeAuditWritable (fun _ => auditUnwritable) f).Obeys writeAhead t
      fun _ t' => t'.owed = none := by
  have hprobe : probeAuditWritable.Obeys writeAhead t fun r t' =>
      t'.owed = none ∧ (r = .ok () → t'.probed = true) := by
    refine Prog.obeys_perform (fun _ h => (by cases h)) fun r => ?_
    cases r with
    | error e => exact ⟨ht, fun h => by cases h⟩
    | ok _ => exact ⟨ht, fun _ => rfl⟩
  refine hprobe.bind fun r t' hr => ?_
  cases r with
  | error e => exact obeys_refused hr.1 _
  | ok _ => exact hf t' hr.1 (hr.2 rfl)

theorem obeys_executablePath {f : Option Text → RegistrationProg CommandEnd}
    {Q : CommandEnd → Trail → Prop} (hf : ∀ exePath, (f exePath).Obeys writeAhead t Q) :
    (executablePath >>= f).Obeys writeAhead t Q := by
  have hpath : executablePath.Obeys writeAhead t fun _ t' => t' = t :=
    Prog.obeys_perform (fun _ h => (by cases h)) fun _ => rfl
  refine hpath.bind ?_
  rintro exePath _ rfl
  exact hf exePath

theorem obeys_serviceCooldownPassed (ht : t.owed = none) (hprobed : t.probed = true) :
    serviceCooldownPassed.Obeys writeAhead t fun passed t' =>
      t'.owed = none ∧ t'.probed = true ∧ (passed = true → t'.cooled = true) := by
  have hread : readCooldownLedger.Obeys writeAhead t fun r t' =>
      t'.owed = none ∧ t'.probed = true ∧ (∀ ledger, r = .ok ledger → t'.ledger = some ledger) ∧
        ∀ e, r = .error e → t'.cooled = true := by
    refine Prog.obeys_perform (fun _ h => (by cases h)) fun r => ⟨?_, ?_, ?_, ?_⟩
    · cases r <;> exact ht
    · cases r <;> exact hprobed
    · rintro ledger rfl
      rfl
    · rintro e rfl
      rfl
  refine hread.bind fun r t' hr => ?_
  obtain ⟨howed, hprobed, hledger, hunread⟩ := hr
  cases r with
  | error e => exact Prog.obeys_ret ⟨howed, hprobed, fun _ => hunread e rfl⟩
  | ok ledger =>
    refine ⟨fun _ h => (by cases h), fun now => ?_⟩
    refine Prog.obeys_ret ⟨howed, hprobed, fun hpassed => ?_⟩
    show t'.ledger.any _ = true
    rw [hledger ledger rfl]
    exact hpassed

theorem startupInstall_obeys (ht : t.owed = none) :
    startupInstall.Obeys writeAhead t fun _ t' => t'.owed = none := by
  refine obeys_probe ht fun t' ht' hprobed => obeys_executablePath fun exePath => ?_
  cases exePath with
  | none => exact obeys_refused ht' _
  | some exePath =>
    have hbackend : (createBackend .startupTray).Obeys writeAhead t' fun _ t'' => t'' = t' :=
      Prog.obeys_perform (fun _ h => (by cases h)) fun _ => rfl
    refine hbackend.bind ?_
    rintro backend _ rfl
    cases backend
    · exact obeys_refused ht' _
    · exact changeForm_obeys ht' (fun _ => hprobed) (fun h => by cases h)
        (fun _ hann => obeys_writeStartup _ hann) fun _ hdone => Prog.obeys_ret hdone

theorem startupRemove_obeys (ht : t.owed = none) :
    startupRemove.Obeys writeAhead t fun _ t' => t'.owed = none :=
  changeForm_obeys ht (fun h => absurd rfl h) (fun h => by cases h)
    (fun _ hann => obeys_removeStartupEntry hann) fun _ hdone => Prog.obeys_ret hdone

theorem scheduledTaskInstall_obeys (taskName : Text) (ht : t.owed = none) :
    (scheduledTaskInstall taskName).Obeys writeAhead t fun _ t' => t'.owed = none := by
  refine obeys_probe ht fun t' ht' hprobed => obeys_executablePath fun exePath => ?_
  cases exePath with
  | none => exact obeys_refused ht' _
  | some exePath =>
    exact changeForm_obeys ht' (fun _ => hprobed) (fun h => by cases h)
      (fun _ hann => obeys_installScheduledTask _ hann) fun _ hdone => Prog.obeys_ret hdone

theorem scheduledTaskRemove_obeys (taskName : Text) (ht : t.owed = none) :
    (scheduledTaskRemove taskName).Obeys writeAhead t fun _ t' => t'.owed = none :=
  obeys_probe ht fun _ ht' hprobed =>
    changeForm_obeys ht' (fun _ => hprobed) (fun h => by cases h)
      (fun _ hann => obeys_removeScheduledTask _ hann) fun _ hdone => Prog.obeys_ret hdone

theorem serviceInstall_obeys (exePath : Option Text) (ht : t.owed = none) :
    (serviceInstall exePath).Obeys writeAhead t fun _ t' => t'.owed = none := by
  refine obeys_probe ht fun t' ht' hprobed =>
    (obeys_serviceCooldownPassed ht' hprobed).bind fun passed t'' hpassed => ?_
  obtain ⟨howed, hprobed, hcooled⟩ := hpassed
  cases passed
  · exact obeys_refused howed _
  · exact changeForm_obeys howed (fun _ => hprobed) (fun _ => hcooled rfl)
      (fun _ hann => obeys_installService _ hann) fun _ hdone => ⟨trivial, fun _ => hdone⟩

theorem serviceUninstall_obeys (ht : t.owed = none) :
    serviceUninstall.Obeys writeAhead t fun _ t' => t'.owed = none :=
  obeys_probe ht fun _ ht' hprobed =>
    changeForm_obeys ht' (fun _ => hprobed) (fun h => by cases h)
      (fun _ hann => obeys_uninstallService _ hann) fun _ hdone => Prog.obeys_ret hdone

theorem runAgentFormAction_obeys (form : AgentForm) (install : Bool) (ht : t.owed = none) :
    (runAgentFormAction form install).Obeys writeAhead t fun _ t' => t'.owed = none := by
  cases form <;> cases install
  case startupTray.false => exact startupRemove_obeys ht
  case startupTray.true => exact startupInstall_obeys ht
  case scheduledTask.false => exact scheduledTaskRemove_obeys _ ht
  case scheduledTask.true => exact scheduledTaskInstall_obeys _ ht
  case service.false => exact serviceUninstall_obeys ht
  case service.true => exact serviceInstall_obeys none ht

/-- One step after the other: each settles its own change. -/
theorem runFormActions_obeys {stopped : AgentFormAction → CommandEnd → CommandEnd}
    (actions : List AgentFormAction) (ht : t.owed = none) :
    (runFormActions stopped actions).Obeys writeAhead t fun _ t' => t'.owed = none := by
  induction actions generalizing t with
  | nil => exact Prog.obeys_ret ht
  | cons action actions ih =>
    refine (runAgentFormAction_obeys action.form action.install ht).bind fun result t' ht' => ?_
    split
    · exact Prog.obeys_ret ht'
    · exact ih ht'

theorem obeys_queryForms : queryForms.Obeys writeAhead t fun _ t' => t' = t := obeys_queries

theorem convergeForms_obeys (declared : AgentForm) (dryRun : Bool) (ht : t.owed = none) :
    (convergeForms declared dryRun).Obeys writeAhead t fun _ t' => t'.owed = none := by
  refine obeys_queryForms.bind ?_
  rintro flags _ rfl
  dsimp only
  split
  · exact Prog.obeys_ret ht
  · split
    · exact Prog.obeys_ret ht
    · exact runFormActions_obeys _ ht

theorem installForm_obeys (form : AgentForm) (replace : Bool) (ht : t.owed = none) :
    (installForm form replace).Obeys writeAhead t fun _ t' => t'.owed = none := by
  refine obeys_queryForms.bind ?_
  rintro flags _ rfl
  dsimp only
  split
  · exact obeys_refused ht _
  · refine (runAgentFormAction_obeys form true ht).bind fun installed t' ht' => ?_
    split
    · exact Prog.obeys_ret ht'
    · exact runFormActions_obeys _ ht'

theorem obeys_declaredForm {path : Option Text} {f : String → RegistrationProg CommandEnd}
    (ht : t.owed = none)
    (hf : ∀ declared, (f declared).Obeys writeAhead t fun _ t' => t'.owed = none) :
    (declaredForm path f).Obeys writeAhead t fun _ t' => t'.owed = none := by
  cases path with
  | none => exact hf _
  | some path =>
    have hload : (loadConfig path).Obeys writeAhead t fun _ t' => t' = t :=
      Prog.obeys_perform (fun _ h => (by cases h)) fun _ => rfl
    refine hload.bind ?_
    rintro r _ rfl
    cases r with
    | error e => exact obeys_refused ht _
    | ok config => exact hf _

theorem runAgentFormApply_obeys (args : List Text) (ht : t.owed = none) :
    (runAgentFormApply args).Obeys writeAhead t fun _ t' => t'.owed = none := by
  unfold runAgentFormApply
  split
  · exact obeys_refused ht _
  · refine obeys_declaredForm ht fun declared => ?_
    split
    · exact obeys_refused ht _
    · exact convergeForms_obeys _ _ ht

theorem agentFormStatus_obeys (path : Option Text) (ht : t.owed = none) :
    (agentFormStatus path).Obeys writeAhead t fun _ t' => t'.owed = none := by
  refine obeys_declaredForm ht fun _ => obeys_queries.mono ?_
  rintro _ _ rfl
  exact ht

theorem runAgentFormCommand_obeys (args : List Text) (ht : t.owed = none) :
    (runAgentFormCommand args).Obeys writeAhead t fun _ t' => t'.owed = none := by
  unfold runAgentFormCommand
  split
  · exact obeys_refused ht _
  · split
    · exact runAgentFormApply_obeys _ ht
    · split
      · exact agentFormStatus_obeys _ ht
      · split
        · exact obeys_refused ht _
        · split
          · exact obeys_refused ht _
          · split
            · exact obeys_refused ht _
            · split
              · exact obeys_refused ht _
              · split
                · exact installForm_obeys _ _ ht
                · exact runAgentFormAction_obeys _ _ ht

end Commands

/-- The commands that register the host and take it off again, with what they are given. -/
inductive RegistrationCommand where
  | agentForm (args : List Text)
  | startup (install : Bool)
  | scheduledTask (install : Bool) (taskName : Text)
  | serviceInstall (exePath : Option Text)
  | serviceUninstall

def RegistrationCommand.program : RegistrationCommand → RegistrationProg CommandEnd
  | .agentForm args => runAgentFormCommand args
  | .startup install => if install then startupInstall else startupRemove
  | .scheduledTask install taskName =>
    if install then scheduledTaskInstall taskName else scheduledTaskRemove taskName
  | .serviceInstall exePath => Service.serviceInstall exePath
  | .serviceUninstall => Service.serviceUninstall

theorem program_obeys (command : RegistrationCommand) :
    command.program.Obeys writeAhead {} fun _ t => t.owed = none := by
  cases command with
  | agentForm args => exact runAgentFormCommand_obeys args rfl
  | startup install =>
    cases install
    · exact startupRemove_obeys rfl
    · exact startupInstall_obeys rfl
  | scheduledTask install taskName =>
    cases install
    · exact scheduledTaskRemove_obeys taskName rfl
    · exact scheduledTaskInstall_obeys taskName rfl
  | serviceInstall exePath => exact serviceInstall_obeys exePath rfl
  | serviceUninstall => exact serviceUninstall_obeys rfl

/-- In every run of every registering command, killed or not and whatever the calls answer: before each
change the journal was given its own intent line, and the audit trail was probed with success, the
removal of the start-up entry apart, and a service is created only when its cooldown has passed or could
not be read; each line that the audit is given stands for the change just made, which has worked; and a
command that comes to its end owes none. -/
theorem changes_announced {σ χ : Type}
    (H : Lib.Handler RegistrationCall RegistrationCall.Answer σ χ) (command : RegistrationCommand)
    (w : σ) (cs : List χ) :
    (∀ before e r rest action,
      command.program.trace H w cs = before ++ ⟨e, r⟩ :: rest →
      e.change? = some action → Announced (writeAhead.after {} before) action) ∧
    (∀ before operationId risk target ok detail r rest,
      command.program.trace H w cs =
        before ++ ⟨.record (.appendAudit operationId risk target ok detail), r⟩ :: rest →
      ok = true ∧ (writeAhead.after {} before).owed = some (operationId, target)) ∧
    ∀ w' e, command.program.run H w cs = (w', some e) →
      (writeAhead.after {} (command.program.trace H w cs)).owed = none := by
  have hobeys := program_obeys command
  have haccepts := hobeys.run (h := H) w cs
  refine ⟨fun before e r rest action htrace hchange => ?_,
    fun before operationId risk target ok detail r rest htrace => ?_,
    fun w' e hrun => hobeys.run_some hrun⟩
  · have hallowed := haccepts.at htrace
    cases e <;> first
      | exact hallowed action hchange
      | cases hchange
  · exact haccepts.at htrace

def unregistered : RegistrationWorld stoppedServices := { services := fun _ => none }

/-- `--service install` on calls that all work. -/
def serviceTrace : List (Σ e : RegistrationCall, e.Answer) :=
  (serviceInstall none).trace registrationHandler unregistered (List.replicate 40 {})

theorem changes_announced_service :
    Announced (writeAhead.after {} (serviceTrace.take 5)) serviceCreation ∧
      ∃ w' e, (serviceInstall none).run registrationHandler unregistered (List.replicate 40 {}) =
        (w', some e) ∧ (writeAhead.after {} serviceTrace).owed = none := by
  obtain ⟨hchanges, -, hend⟩ :=
    changes_announced registrationHandler (.serviceInstall none) unregistered (List.replicate 40 {})
  refine ⟨hchanges _ (.createService (serviceIdentity none)) (.ok ()) (serviceTrace.drop 6) _ rfl rfl,
    ?_⟩
  have hsome : ((serviceInstall none).run registrationHandler unregistered
      (List.replicate 40 {})).2.isSome = true := by decide +kernel
  rcases hr : (serviceInstall none).run registrationHandler unregistered (List.replicate 40 {})
    with ⟨w', _ | e⟩
  · rw [hr] at hsome
    cases hsome
  · exact ⟨w', e, rfl, hend w' e hr⟩

end Service
end CppOptimizer
