import CppOptimizer.Command.Actions
import CppOptimizer.Lib.Monitor
import CppOptimizer.Service.AgentForm
import CppOptimizer.Service.StatusReports

/-!
# CppOptimizer.Service.Registration

The commands of `main.cpp` that register the host to start or take it off again (`--startup`,
`--scheduled-task`, `--service install|uninstall`, `--agent-form`), with the functions of
`startup_entry.cpp`, `scheduled_task.cpp` and `service_host.cpp` under them, as programs over the
calls they make.

* `RegistrationCall` — the back ends, the audit probe, the cooldown ledger, and the records.
* `changeForm`       — what every installing or removing command does around its one change.
* `runAgentFormApply`, `runAgentFormCommand` — the commands over the leaf commands.

Standard output is left out. The `status` commands of the three leaves only print and are left out
too; `--agent-form status` makes its queries and reports failed ones.
-/

namespace CppOptimizer
namespace Service

open Common Config Lib Policy Command

/-! ## What is registered -/

inductive TaskTrigger where
  | onLogon | onBoot
  deriving DecidableEq, Repr

def kScheduledTaskName : Text := "CppOptimizer".toList

structure ScheduledTaskSpec where
  taskName : Text := kScheduledTaskName
  commandLine : Text := []
  trigger : TaskTrigger := .onLogon
  deriving DecidableEq, Repr

structure ScheduledTaskStatus where
  installed : Bool := false
  commandLine : Text := []
  trigger : Text := []
  deriving DecidableEq, Repr

structure ServiceIdentity where
  name : Text := []
  displayName : Text := []
  description : Text := []
  /-- Empty for the path of the running program. -/
  executablePath : Text := []
  deriving DecidableEq, Repr

structure ServiceInstallStatus where
  installed : Bool := false
  state : ServiceState := .unknown
  autoStart : Bool := false
  startTypeKnown : Bool := false
  deriving DecidableEq, Repr

def kServiceName : Text := "CppOptimizerService".toList
def kServiceDisplayName : Text := "CppOptimizer Service".toList
def kServiceDescription : Text := "CppOptimizer 只读观测与受控优化宿主（R0 负载）".toList

def kServiceRegistrationCapabilityId : String := "service.registration"

/-! ## Calls to the outside -/

inductive RegistrationCall where
  | loadConfig (path : Text)
  | probeAuditWritable
  /-- `ResolveExecutablePath`. -/
  | executablePath
  /-- `CreateWin32…Backend`, which gives no back end when memory runs out. -/
  | createBackend (form : AgentForm)
  | readStartup
  | writeStartup (quotedCommand : Text)
  | removeStartup
  | readTask (taskName : Text)
  | createTask (spec : ScheduledTaskSpec)
  | removeTask (taskName : Text)
  | queryService (name : Text)
  | createService (identity : ServiceIdentity)
  | deleteService (name : Text)
  | readCooldownLedger
  | unixSeconds
  /-- A line of the audit or the journal, or a run in the ledger. -/
  | record (call : CommandCall)

def RegistrationCall.Answer : RegistrationCall → Type
  | .loadConfig _ => Result ConfigSnapshot
  | .probeAuditWritable => Result Unit
  | .executablePath => Option Text
  | .createBackend _ => Bool
  | .readStartup => Result Text
  | .writeStartup _ => Result Unit
  | .removeStartup => Result Unit
  | .readTask _ => Result ScheduledTaskStatus
  | .createTask _ => Result Unit
  | .removeTask _ => Result Unit
  | .queryService _ => Result ServiceInstallStatus
  | .createService _ => Result Unit
  | .deleteService _ => Result Unit
  | .readCooldownLedger => Result CooldownLedger
  | .unixSeconds => Int
  | .record call => call.Answer

abbrev RegistrationProg := Prog RegistrationCall RegistrationCall.Answer

/-- The calls that can change what is registered. -/
def RegistrationCall.Changes : RegistrationCall → Prop
  | .writeStartup _ | .removeStartup | .createTask _ | .removeTask _ | .createService _
  | .deleteService _ => True
  | _ => False

namespace RegistrationProg

def loadConfig (path : Text) : RegistrationProg (Result ConfigSnapshot) :=
  Prog.perform (RegistrationCall.loadConfig path)
def probeAuditWritable : RegistrationProg (Result Unit) :=
  Prog.perform RegistrationCall.probeAuditWritable
def executablePath : RegistrationProg (Option Text) := Prog.perform RegistrationCall.executablePath
def createBackend (form : AgentForm) : RegistrationProg Bool :=
  Prog.perform (RegistrationCall.createBackend form)
def readStartup : RegistrationProg (Result Text) := Prog.perform RegistrationCall.readStartup
def writeStartup (quotedCommand : Text) : RegistrationProg (Result Unit) :=
  Prog.perform (RegistrationCall.writeStartup quotedCommand)
def removeStartup : RegistrationProg (Result Unit) := Prog.perform RegistrationCall.removeStartup
def readTask (taskName : Text) : RegistrationProg (Result ScheduledTaskStatus) :=
  Prog.perform (RegistrationCall.readTask taskName)
def createTask (spec : ScheduledTaskSpec) : RegistrationProg (Result Unit) :=
  Prog.perform (RegistrationCall.createTask spec)
def removeTask (taskName : Text) : RegistrationProg (Result Unit) :=
  Prog.perform (RegistrationCall.removeTask taskName)
def queryServiceState (name : Text) : RegistrationProg (Result ServiceInstallStatus) :=
  Prog.perform (RegistrationCall.queryService name)
def createService (identity : ServiceIdentity) : RegistrationProg (Result Unit) :=
  Prog.perform (RegistrationCall.createService identity)
def deleteService (name : Text) : RegistrationProg (Result Unit) :=
  Prog.perform (RegistrationCall.deleteService name)
def readCooldownLedger : RegistrationProg (Result CooldownLedger) :=
  Prog.perform RegistrationCall.readCooldownLedger
def unixSeconds : RegistrationProg Int := Prog.perform RegistrationCall.unixSeconds

/-- A program that only writes records. -/
def recording {α : Type} (p : CommandProg α) : RegistrationProg α :=
  p.lift RegistrationCall.record fun _ r => r

/-- With a back end, or with the failure to create one. -/
def withBackend {α : Type} (form : AgentForm) (failure : Error)
    (p : RegistrationProg (Result α)) : RegistrationProg (Result α) := do
  if ← createBackend form then p else pure (.error failure)

/-- Go on with the value, or end the command. -/
def orEnd {α : Type} (p : RegistrationProg (Result α)) (failed : Error → CommandEnd)
    (f : α → RegistrationProg CommandEnd) : RegistrationProg CommandEnd :=
  p >>= fun
    | .ok a => f a
    | .error e => pure (failed e)

end RegistrationProg

open RegistrationProg

/-! ## The three back ends -/

def queryStartupEntry : RegistrationProg (Result Text) :=
  withBackend .startupTray (.unsupportedOp "QueryStartupEntry" "无法创建注册表后端") readStartup

def removeStartupEntry : RegistrationProg (Result Unit) :=
  withBackend .startupTray (.unsupportedOp "RemoveStartupEntry" "无法创建注册表后端") removeStartup

/-- The checks of a task name that the three functions of `scheduled_task.cpp` share. -/
def checkTaskName (operation : String) (taskName : Text) : Result Unit :=
  if taskName = [] then .error (.validation operation "任务名不能为空")
  else if '\\' ∈ taskName then .error (.validation operation "任务名不能包含路径分隔符")
  else .ok ()

def checkTaskSpec (spec : ScheduledTaskSpec) : Result Unit := do
  checkTaskName "InstallScheduledTask" spec.taskName
  if spec.commandLine = [] then .error (.validation "InstallScheduledTask" "命令行不能为空")
  else if spec.trigger ≠ .onLogon then
    .error (.validation "InstallScheduledTask"
      "当前仅支持登录触发；开机触发需以 SYSTEM 运行，与“托盘与 Agent 进程永不提权”的分界冲突")
  else .ok ()

def installScheduledTask (spec : ScheduledTaskSpec) : RegistrationProg (Result Unit) :=
  withBackend .scheduledTask (.unsupportedOp "InstallScheduledTask" "无法创建任务计划后端") <|
    match checkTaskSpec spec with
    | .ok _ => createTask spec
    | .error e => pure (.error e)

def removeScheduledTask (taskName : Text) : RegistrationProg (Result Unit) :=
  withBackend .scheduledTask (.unsupportedOp "RemoveScheduledTask" "无法创建任务计划后端") <|
    match checkTaskName "RemoveScheduledTask" taskName with
    | .ok _ => removeTask taskName
    | .error e => pure (.error e)

def queryScheduledTask (taskName : Text) : RegistrationProg (Result ScheduledTaskStatus) :=
  withBackend .scheduledTask (.unsupportedOp "QueryScheduledTask" "无法创建任务计划后端") <|
    match checkTaskName "QueryScheduledTask" taskName with
    | .ok _ => readTask taskName
    | .error e => pure (.error e)

def installService (identity : ServiceIdentity) : RegistrationProg (Result Unit) :=
  if identity.name = [] ∨ identity.displayName = [] then
    pure (.error (.validation "InstallService" "服务名与显示名不能为空"))
  else
    withBackend .service (.unsupportedOp "InstallService" "无法创建服务安装后端")
      (createService identity)

def uninstallService (name : Text) : RegistrationProg (Result Unit) :=
  if name = [] then pure (.error (.validation "UninstallService" "服务名不能为空"))
  else
    withBackend .service (.unsupportedOp "UninstallService" "无法创建服务安装后端")
      (deleteService name)

def queryService (name : Text) : RegistrationProg (Result ServiceInstallStatus) :=
  if name = [] then pure (.error (.validation "QueryService" "服务名不能为空"))
  else
    withBackend .service (.unsupportedOp "QueryService" "无法创建服务安装后端")
      (queryServiceState name)

/-! ## Records -/

def yesNo (installed : Bool) : String := if installed then "yes" else "no"

/-- The text of one query in the snapshot. -/
def snapshotWord {α : Type} (installed : α → Bool) : Result α → String
  | .ok a => yesNo (installed a)
  | .error _ => "unknown"

def describeAgentFormsSnapshot : RegistrationProg String := do
  let startup ← queryStartupEntry
  let task ← queryScheduledTask kScheduledTaskName
  let service ← queryService kServiceName
  pure ("startup_tray=" ++ snapshotWord (fun value : Text => !value.isEmpty) startup ++
    " task=" ++ snapshotWord (fun status : ScheduledTaskStatus => status.installed) task ++
    " service=" ++ snapshotWord (fun status : ServiceInstallStatus => status.installed) service)

def formOperation (install : Bool) : String :=
  if install then "agent.form_install" else "agent.form_remove"

def formTarget (form : AgentForm) : String := String.ofList (agentFormToString form)

def auditAgentFormAction (form : AgentForm) (install ok : Bool) : RegistrationProg Unit := do
  let snapshot ← describeAgentFormsSnapshot
  recording (auditAction (formOperation install) .r1 (formTarget form) ok
    (if install then "explicit action (install)" else "explicit action (remove)") snapshot)

/-! ## The leaf commands -/

def failureText (what : String) (e : Error) : String :=
  "  " ++ what ++ " failed [" ++ e.domain.toString ++ ":" ++ toString e.code ++ "] " ++ e.message

def refused (errors : List String) : CommandEnd := { exitCode := 2, errors := errors }

def auditUnwritable : CommandEnd :=
  refused ["  refused: audit trail is not writable (no registration attempted)"]

/-- The journal line of the intent, the change, and the records of a change that has worked. -/
def changeForm (form : AgentForm) (install : Bool) (intent : String)
    (change : RegistrationProg (Result Unit)) (failed : Error → CommandEnd)
    (afterwards : RegistrationProg Unit) : RegistrationProg CommandEnd := do
  recording (journalAction (formOperation install) (formTarget form) true .before intent)
  orEnd change failed fun _ => do
    auditAgentFormAction form install true
    afterwards
    pure { exitCode := 0 }

/-- `HostAutostartCommandLine`. -/
def hostAutostartCommandLine (exePath : Text) : Text :=
  "\"".toList ++ exePath ++ "\" --service console run --tray --ipc-facts".toList

def startupInstall : RegistrationProg CommandEnd :=
  orEnd probeAuditWritable (fun _ => auditUnwritable) fun _ => do
    match ← executablePath with
    | none => pure (refused ["  cannot resolve current executable path"])
    | some exePath =>
      if ← createBackend .startupTray then
        changeForm .startupTray true "intent: install per-user startup entry"
          (writeStartup (hostAutostartCommandLine exePath))
          (fun e => refused [failureText "startup install" e]) (pure ())
      else pure (refused ["  startup install failed: 无法创建注册表后端"])

/-- The one leaf command that does not probe the audit trail. -/
def startupRemove : RegistrationProg CommandEnd :=
  changeForm .startupTray false "intent: remove per-user startup entry" removeStartupEntry
    (fun e => refused [failureText "startup remove" e]) (pure ())

def scheduledTaskInstall (taskName : Text) : RegistrationProg CommandEnd :=
  orEnd probeAuditWritable (fun _ => auditUnwritable) fun _ => do
    match ← executablePath with
    | none => pure (refused ["  cannot resolve current executable path"])
    | some exePath =>
      changeForm .scheduledTask true "intent: install scheduled task"
        (installScheduledTask
          { taskName := taskName, commandLine := hostAutostartCommandLine exePath,
            trigger := .onLogon })
        (fun e => refused [failureText "scheduled task install" e,
          "  hint     : registering a per-machine task needs elevated rights (one-time UAC); the task itself never runs elevated"])
        (pure ())

def scheduledTaskRemove (taskName : Text) : RegistrationProg CommandEnd :=
  orEnd probeAuditWritable (fun _ => auditUnwritable) fun _ =>
    changeForm .scheduledTask false "intent: remove scheduled task" (removeScheduledTask taskName)
      (fun e => refused [failureText "scheduled task remove" e]) (pure ())

/-- The identity that `--service install [exe-path]` registers. -/
def serviceIdentity (exePath : Option Text) : ServiceIdentity :=
  { name := kServiceName, displayName := kServiceDisplayName, description := kServiceDescription,
    executablePath := exePath.getD [] }

/-- The cooldown of `--service install`: a ledger that cannot be read lets the command pass. -/
def serviceCooldownPassed : RegistrationProg Bool := do
  match ← readCooldownLedger with
  | .error _ => pure true
  | .ok ledger => do
    let now ← unixSeconds
    pure (evaluateCooldownGate ledger kServiceRegistrationCapabilityId now kDefaultCooldown)

def serviceInstall (exePath : Option Text) : RegistrationProg CommandEnd :=
  orEnd probeAuditWritable (fun _ => auditUnwritable) fun _ => do
    if ← serviceCooldownPassed then
      -- a failure of the change is reported on standard output
      changeForm .service true "intent: install SCM service (needs admin)"
        (installService (serviceIdentity exePath)) (fun _ => refused [])
        (recording do
          let _ ← Prog.perform (CommandCall.recordCooldownRun kServiceRegistrationCapabilityId)
          pure ())
    else
      pure (refused
        ["  --service install refused [capability: service.registration, first blocked gate: cooldown] (no registration attempted)"])

def serviceUninstall : RegistrationProg CommandEnd :=
  orEnd probeAuditWritable (fun _ => auditUnwritable) fun _ =>
    changeForm .service false "intent: uninstall SCM service (needs admin)"
      (uninstallService kServiceName) (fun _ => refused []) (pure ())

/-! ## The forms as one -/

def runAgentFormAction : AgentForm → Bool → RegistrationProg CommandEnd
  | .service, true => serviceInstall none
  | .service, false => serviceUninstall
  | .startupTray, true => startupInstall
  | .startupTray, false => startupRemove
  | .scheduledTask, true => scheduledTaskInstall kScheduledTaskName
  | .scheduledTask, false => scheduledTaskRemove kScheduledTaskName

/-- A query that fails counts as not installed. -/
def installedBy {α : Type} (installed : α → Bool) : Result α → Bool
  | .ok a => installed a
  | .error _ => false

def queryForms : RegistrationProg FormFlags := do
  let startup ← queryStartupEntry
  let task ← queryScheduledTask kScheduledTaskName
  let service ← queryService kServiceName
  pure { startupInstalled := installedBy (fun value : Text => !value.isEmpty) startup
         taskInstalled := installedBy (fun status : ScheduledTaskStatus => status.installed) task
         serviceInstalled :=
           installedBy (fun status : ServiceInstallStatus => status.installed) service }

/-- One step after the other, up to the first that fails. -/
def runFormActions (stopped : AgentFormAction → CommandEnd → CommandEnd) :
    List AgentFormAction → RegistrationProg CommandEnd
  | [] => pure { exitCode := 0 }
  | action :: actions => do
    let result ← runAgentFormAction action.form action.install
    if result.exitCode ≠ 0 then pure (stopped action result)
    else runFormActions stopped actions

/-- The two lines of `apply` under those of the step that failed. -/
def applyStopped (action : AgentFormAction) (result : CommandEnd) : CommandEnd :=
  { exitCode := result.exitCode
    errors := result.errors ++
      ["  apply stopped: " ++ (if action.install then "install" else "remove") ++ " " ++
          formTarget action.form ++ " failed (already-applied actions are kept; rerun after",
        "             fixing the cause, or revert with --agent-form remove)"] }

/-! ## `--agent-form apply [config.toml] [--dry-run]` -/

structure ApplyOptions where
  configPath : Option Text := none
  dryRun : Bool := false
  deriving DecidableEq, Repr

def parseApplyOptions : ApplyOptions → List Text → Except Text ApplyOptions
  | options, [] => .ok options
  | options, arg :: args =>
    if arg = "--dry-run".toList then parseApplyOptions { options with dryRun := true } args
    else if options.configPath.isSome then .error arg
    else parseApplyOptions { options with configPath := some arg } args

/-- The steps from what the queries say to the declared form. -/
def convergeForms (declared : AgentForm) (dryRun : Bool) : RegistrationProg CommandEnd := do
  let flags ← queryForms
  let actions := resolveFormApplyActions declared flags
  if actions = [] then pure { exitCode := 0 }
  else if dryRun then pure { exitCode := 0 }
  else runFormActions applyStopped actions

def declaredForm : Option Text → (String → RegistrationProg CommandEnd) → RegistrationProg CommandEnd
  | none, f => f "startup_tray"
  | some path, f =>
    orEnd (loadConfig path) (fun e => refused [failureText "config load" e]) fun config =>
      f config.agent.form

def runAgentFormApply (args : List Text) : RegistrationProg CommandEnd :=
  match parseApplyOptions {} args with
  | .error arg =>
    pure (refused ["  unknown --agent-form apply option: " ++ String.ofList arg])
  | .ok options =>
    declaredForm options.configPath fun declared =>
      match parseAgentForm declared.toList with
      | none => pure (refused ["  config declares an unsupported form"])
      | some form => convergeForms form options.dryRun

/-! ## `--agent-form <status|install|remove|apply>` -/

/-- The lines of `--agent-form install` under those of a removal that failed. -/
def removalStopped (_ : AgentFormAction) (result : CommandEnd) : CommandEnd :=
  { exitCode := result.exitCode
    errors := result.errors ++
      ["  note     : the previous form could not be removed; both may be",
        "             registered until it is removed manually"] }

def conflictEnd (conflicts : List AgentForm) : CommandEnd :=
  refused
    ["  another agent form is already installed:" ++
        String.join (conflicts.map fun form => " " ++ formTarget form),
      "  hint     : only one form may be active at a time - remove it first",
      "             (--agent-form remove <form>) or pass --replace to",
      "             switch after the new form is installed"]

/-- `install`: other forms are in the way unless they may be replaced. -/
def installForm (form : AgentForm) (replace : Bool) : RegistrationProg CommandEnd := do
  let flags ← queryForms
  let conflicts := conflictingAgentForms form flags
  if conflicts ≠ [] ∧ replace = false then pure (conflictEnd conflicts)
  else do
    let installed ← runAgentFormAction form true
    if installed.exitCode ≠ 0 then pure installed
    else
      runFormActions removalStopped
        (conflicts.map fun conflict => { form := conflict, install := false })

/-- The lines of the queries that fail. -/
def statusErrors {α : Type} (label : String) : Result α → List String
  | .ok _ => []
  | .error e => [failureText (label ++ " query") e]

def agentFormStatus (configPath : Option Text) : RegistrationProg CommandEnd :=
  declaredForm configPath fun _ => do
    let startup ← queryStartupEntry
    let task ← queryScheduledTask kScheduledTaskName
    let service ← queryService kServiceName
    pure { exitCode := 0
           errors := statusErrors "startup_tray :" startup ++ statusErrors "task         :" task ++
             statusErrors "service      :" service }

/-- The arguments after `--agent-form`. -/
def runAgentFormCommand : List Text → RegistrationProg CommandEnd
  | [] => pure (refused ["  --agent-form requires status|install|remove"])
  | action :: args =>
    if action = "apply".toList then runAgentFormApply args
    else if action = "status".toList then agentFormStatus args.head?
    else if action ≠ "install".toList ∧ action ≠ "remove".toList then
      pure (refused ["  --agent-form requires status|install|remove"])
    else
      match args with
      | [] =>
        pure (refused ["  --agent-form " ++ String.ofList action ++
          " needs a form: startup_tray|task|service"])
      | text :: extras =>
        match extras.find? (· ≠ "--replace".toList) with
        | some extra =>
          pure (refused ["  unknown --agent-form option: " ++ String.ofList extra ++
            " (expected --replace)"])
        | none =>
          match parseAgentForm text with
          | none =>
            pure (refused ["  unknown agent form: " ++ String.ofList text ++
              " (expected startup_tray|task|service)"])
          | some form =>
            if action = "install".toList then installForm form (!extras.isEmpty)
            else runAgentFormAction form false

end Service
end CppOptimizer
