import CppOptimizer.Command.Actions

/-!
# CppOptimizer.Command.GateAgreement

Whether a command acts only when the table of `RunGatesCommand` says so, from the same facts.

The steps of `--memory-clean --execute` and the power scheme switch do. The self trim does not ask
its compile switch, and the scheduler asks neither the environment nor the overlay of mode and
layers; `gates_agree_iff` says that nothing else separates commands and table.
-/

namespace CppOptimizer
namespace Command

open Common Config Lib Memory Policy Power Scheduler

/-! ## The real actions -/

/-- The paths that change the system: each step of `--memory-clean --execute`,
`--execute-self-trim`, a forward power scheme switch, `--scheduler --execute`. -/
inductive RealAction where
  | cleanStep (kind : CleanKind)
  | selfTrim
  | powerApply (targetGuid : Text)
  | schedulerExecute (pid : UInt32)
  deriving DecidableEq

/-- On some answers of the outside the path comes to its system-modifying call. -/
def RealAction.Reaches (f : CommandFacts) : RealAction → Prop
  | .cleanStep kind => (runMemoryCleanExecuteCommand f).MayCall (· = .execute kind)
  | .selfTrim => (runMemoryCleanSelfTrim f).MayCall fun e => ∃ kind, e = .execute kind
  | .powerApply targetGuid =>
    (runPowerSchemeApply f targetGuid).MayCall fun e => ∃ guid, e = .setActive guid
  | .schedulerExecute pid =>
    (runSchedulerCommand f pid).MayCall fun e =>
      ∃ threadId priority, e = .setPriority threadId priority

/-- The row of the table that stands for the path. -/
def RealAction.rowName : RealAction → String
  | .cleanStep .workingSetTrim => "memory.scheduled_clean_enabled"
  | .cleanStep .standbyListPurge => "memory.purge_standby"
  | .cleanStep .systemFileCacheTrim => "memory.file_cache_trim"
  | .selfTrim => "memory.scheduled_clean_enabled"
  | .powerApply _ => "power.switch_power_scheme"
  | .schedulerExecute _ => "scheduler.tuner"

def CommandFacts.RowAllowed (f : CommandFacts) (name : String) : Prop :=
  ∃ evaluation, (name, evaluation) ∈ gatesReport f ∧ evaluation.allowed = true

/-- No path reaches its call against the table. -/
def CommandFacts.GatesAgree (f : CommandFacts) : Prop :=
  ∀ action : RealAction, action.Reaches f → f.RowAllowed action.rowName

/-- The build has no memory clean, and every other gate of the self trim is open. -/
def CommandFacts.SelfTrimUncompiled (f : CommandFacts) : Prop :=
  f.switches.memoryCleanCompiledIn = false ∧
    configAllowsCleanStep (memoryCleanConfigGate f.config) .workingSetTrim = true ∧
    f.acknowledged = true ∧ evaluateEnvironmentGate f.environment = true ∧
    f.auditWritable = true ∧
    cooldownGateOpen f.ledger kMemoryCleanCapabilityId f.nowUnixSeconds = true

/-- The environment or the overlay of mode and layers is against the scheduler, and the gates it
does ask are open. -/
def CommandFacts.SchedulerUnasked (f : CommandFacts) : Prop :=
  (evaluateEnvironmentGate f.environment = false ∨ f.r1Overlay = false) ∧
    f.switches.schedulerTunerCompiledIn = true ∧ schedulerConfigAllows f.config = true ∧
    f.acknowledged = true ∧ f.auditWritable = true ∧
    cooldownGateOpen f.ledger kSchedulerTunerCapabilityId f.nowUnixSeconds = true

/-! ## Bookkeeping does not act -/

/-- The calls of bookkeeping: journal, audit, readings, cooldown, the list of threads. -/
def CommandCall.bookkeeping : CommandCall → Bool
  | .execute _ => false
  | .setPriority _ _ => false
  | _ => true

section Bookkeeping

variable {φ : CommandCall → Prop} (hφ : ∀ e, φ e → e.bookkeeping = false)

include hφ

theorem perform_quiet {e : CommandCall} (he : e.bookkeeping = true) :
    ¬ (Prog.perform e : CommandProg _).MayCall φ := by
  intro h
  have := hφ e (Prog.mayCall_perform.mp h)
  simp [he] at this

theorem journalAction_quiet (operationId target : String) (ok : Bool) (phase : JournalPhase)
    (detail : String) : ¬ (journalAction operationId target ok phase detail).MayCall φ :=
  Prog.not_mayCall_bind (perform_quiet hφ rfl) fun _ => id

theorem auditAction_quiet (operationId : String) (risk : RiskLevel) (target : String) (ok : Bool)
    (detail postState : String) :
    ¬ (auditAction operationId risk target ok detail postState).MayCall φ :=
  Prog.not_mayCall_bind (perform_quiet hφ rfl) fun _ =>
    Prog.not_mayCall_bind (journalAction_quiet hφ _ _ _ _ _) fun _ =>
      journalAction_quiet hφ _ _ _ _ _

theorem recordCooldowns_quiet (steps : List CleanKind) :
    ¬ (recordCooldowns steps).MayCall φ := by
  induction steps with
  | nil => exact id
  | cons step steps ih => exact Prog.not_mayCall_bind (perform_quiet hφ rfl) fun _ => ih

end Bookkeeping

/-! ## What each path has passed when it acts -/

/-- A step is executed only when its own six gates are open. -/
theorem cleanStep_gates {f : CommandFacts} {kind : CleanKind}
    (h : (RealAction.cleanStep kind).Reaches f) :
    (cleanStepGates f kind).gates.allowed = true := by
  have hφ : ∀ e : CommandCall, e = .execute kind → e.bookkeeping = false := by
    rintro e rfl
    rfl
  simp only [RealAction.Reaches, runMemoryCleanExecuteCommand] at h
  split at h
  · exact h.elim
  · split at h
    · exact h.elim
    · rename_i hgates
      split at h
      · exact h.elim
      · rcases Prog.mayCall_bind h with h | ⟨_, h⟩
        · exact absurd h (journalAction_quiet hφ _ _ _ _ _)
        · rcases Prog.mayCall_bind h with h | ⟨executed, h⟩
          · obtain ⟨_, step, hmem, hcall⟩ := executeMemoryCleanPlan_mayCall h
            cases Prog.mayCall_perform.mp hcall
            simpa using List.find?_eq_none.mp hgates kind hmem
          · refine absurd h (Prog.not_mayCall_bind (perform_quiet hφ rfl) fun _ =>
              Prog.not_mayCall_bind (auditAction_quiet hφ _ _ _ _ _ _) fun _ => ?_)
            split
            · exact Prog.not_mayCall_bind (recordCooldowns_quiet hφ _) fun _ => id
            · exact id

theorem powerApply_gates {f : CommandFacts} {targetGuid : Text}
    (h : (RealAction.powerApply targetGuid).Reaches f) :
    (evaluateGates (gatherPowerSchemeGates f)).allowed = true := by
  by_contra hclosed
  have hread : ¬ readSavedSchemeRecord.MayCall fun e => ∃ guid, e = PowerCall.setActive guid := by
    refine Prog.not_mayCall_bind ?_ ?_
    · intro h
      obtain ⟨_, h⟩ := Prog.mayCall_perform.mp h
      cases h
    · intro r
      cases r <;> exact id
  have hfalse : (evaluateGates (gatherPowerSchemeGates f)).allowed = false := by simpa using hclosed
  simp only [RealAction.Reaches, runPowerSchemeApply, hfalse] at h
  exact absurd h (Prog.not_mayCall_bind hread fun _ => id)

theorem planMemoryClean_light {maxLevel : CleanLevel} (h : maxLevel.toNat ≥ CleanLevel.light.toNat) :
    planMemoryClean .light maxLevel true =
      { allowed := true, levelWithinLimit := true, gatesAllowed := true,
        steps := [.workingSetTrim] } := by
  cases maxLevel with
  | none => exact absurd h (by decide)
  | light => rfl
  | medium => rfl
  | deep => rfl

/-- A configuration that allows the trim allows the light level. -/
theorem light_of_configAllows {config : MemoryCleanConfigGate}
    (h : configAllowsCleanStep config .workingSetTrim = true) :
    config.maxLevel.toNat ≥ CleanLevel.light.toNat := by
  unfold configAllowsCleanStep at h
  split at h
  · cases h
  · split at h
    · cases h
    · simp only [Bool.and_eq_true, cleanStepLevelOk, decide_eq_true_eq] at h
      exact h.2

theorem selfTrim_reaches_iff (f : CommandFacts) :
    RealAction.selfTrim.Reaches f ↔ (selfTrimGates f).gates.allowed = true := by
  constructor
  · intro h
    by_contra hclosed
    have hfalse : (selfTrimGates f).gates.allowed = false := by simpa using hclosed
    simp only [RealAction.Reaches, runMemoryCleanSelfTrim, hfalse, if_true] at h
    exact h
  · intro hopen
    have hconfig := ((evaluateGates_allowed _).mp hopen).2.1
    have hplan := planMemoryClean_light (light_of_configAllows hconfig)
    simp only [RealAction.Reaches, runMemoryCleanSelfTrim, hopen, hplan]
    -- past the journal line, whatever it answers, the first call is the trim
    exact .inr ⟨.ok (), .inl ⟨.workingSetTrim, rfl⟩⟩

theorem scheduler_gates {f : CommandFacts} {pid : UInt32}
    (h : (RealAction.schedulerExecute pid).Reaches f) :
    (evaluateGates (schedulerGates f)).allowed = true := by
  by_contra hclosed
  have hfalse : (evaluateGates (schedulerGates f)).allowed = false := by simpa using hclosed
  simp only [RealAction.Reaches, runSchedulerCommand, hfalse, if_true] at h
  split at h
  · exact h
  · revert h
    refine Prog.not_mayCall_bind ?_ fun answer => ?_
    · intro h
      obtain ⟨_, _, h⟩ := Prog.mayCall_perform.mp h
      cases h
    · cases answer <;> exact id

/-- With its gates open the scheduler comes to raise a thread of normal priority. -/
theorem scheduler_reaches {f : CommandFacts} {pid : UInt32} (hpid : pid ≠ 0)
    (hopen : (evaluateGates (schedulerGates f)).allowed = true) :
    (RealAction.schedulerExecute pid).Reaches f := by
  simp only [RealAction.Reaches, runSchedulerCommand, hpid, if_false, hopen]
  exact .inr ⟨.ok [], .inr ⟨.ok [{ priority := 0 }], .inl ⟨0, 1, rfl⟩⟩⟩

/-! ## Paths against rows -/

theorem rowAllowed_of_mem {f : CommandFacts} {row : CapabilityRow} (hrow : row ∈ capabilities f)
    (h : (evaluateGates (rowInputs f row)).allowed = true) : f.RowAllowed row.name :=
  ⟨_, List.mem_map_of_mem hrow, h⟩

theorem names_nodup (f : CommandFacts) : ((capabilities f).map (·.name)).Nodup := by
  show ["power.switch_power_scheme", "memory.purge_standby", "memory.file_cache_trim",
    "memory.scheduled_clean_enabled", "memory.allow_native_write", "memory.max_clean_level",
    "scheduler.tuner"].Nodup
  decide

theorem rowAllowed_iff {f : CommandFacts} {row : CapabilityRow} (hrow : row ∈ capabilities f) :
    f.RowAllowed row.name ↔ (evaluateGates (rowInputs f row)).allowed = true := by
  refine ⟨?_, rowAllowed_of_mem hrow⟩
  rintro ⟨evaluation, hmem, hallowed⟩
  obtain ⟨other, hother, heq⟩ := List.mem_map.mp hmem
  have hsame : other = row :=
    List.inj_on_of_nodup_map (names_nodup f) hother hrow (congrArg Prod.fst heq)
  have hevaluation : evaluateGates (rowInputs f other) = evaluation := congrArg Prod.snd heq
  rw [← hsame, hevaluation]
  exact hallowed

/-- The row of a clean step. -/
def cleanStepRow (f : CommandFacts) : CleanKind → CapabilityRow
  | .workingSetTrim => memoryCleanRow f
  | .standbyListPurge => standbyPurgeRow f
  | .systemFileCacheTrim => fileCacheTrimRow f

theorem cleanStepRow_mem (f : CommandFacts) (kind : CleanKind) :
    cleanStepRow f kind ∈ capabilities f := by
  cases kind <;> simp [cleanStepRow, capabilities]

theorem cleanStepRow_name (f : CommandFacts) (kind : CleanKind) :
    (cleanStepRow f kind).name = (RealAction.cleanStep kind).rowName := by
  cases kind <;> rfl

/-- The configuration gate of a step is that of its row. -/
theorem configAllowsCleanStep_eq (f : CommandFacts) (kind : CleanKind) :
    configAllowsCleanStep (memoryCleanConfigGate f.config) kind =
      (cleanStepRow f kind).configured := by
  cases hconfig : f.config with
  | none =>
    cases kind <;> simp [configAllowsCleanStep, memoryCleanConfigGate, cleanStepRow,
      memoryCleanRow, standbyPurgeRow, fileCacheTrimRow, hconfig]
  | some c =>
    cases kind with
    | workingSetTrim =>
      cases hover : allowsLocalReversibleActions c.application.mode c.layers <;>
        simp [configAllowsCleanStep, memoryCleanConfigGate, cleanStepOverlay, cleanStepLevelOk,
          cleanStepRow, memoryCleanRow, CommandFacts.r1Overlay, hconfig, hover]
    | standbyListPurge =>
      cases hover : allowsSystemLevelActions c.application.mode c.layers <;>
        simp [configAllowsCleanStep, memoryCleanConfigGate, cleanStepOverlay, cleanStepLevelOk,
          cleanStepRow, standbyPurgeRow, CommandFacts.r3Overlay, hconfig, hover]
    | systemFileCacheTrim =>
      cases hover : allowsSystemLevelActions c.application.mode c.layers <;>
        simp [configAllowsCleanStep, memoryCleanConfigGate, cleanStepOverlay, cleanStepLevelOk,
          cleanStepRow, fileCacheTrimRow, CommandFacts.r3Overlay, hconfig, hover]

/-- Each step gathers exactly the gates of its row. -/
theorem cleanStepGates_inputs (f : CommandFacts) (kind : CleanKind) :
    (cleanStepGates f kind).inputs = rowInputs f (cleanStepRow f kind) := by
  simp only [cleanStepGates, gatherMemoryCleanGates, configAllowsCleanStep_eq]
  cases kind <;> rfl

/-- So does the power scheme switch. -/
theorem gatherPowerSchemeGates_eq (f : CommandFacts) :
    gatherPowerSchemeGates f = rowInputs f (powerSchemeRow f) := by
  have hconfig : powerConfigEnabled f.config =
      (f.r3Overlay && f.config.any (·.power.switchPowerScheme)) := by
    cases h : f.config with
    | none => simp [powerConfigEnabled, CommandFacts.r3Overlay, h]
    | some c => simp [powerConfigEnabled, CommandFacts.r3Overlay, h, Bool.and_comm]
  simp [gatherPowerSchemeGates, rowInputs, powerSchemeRow, hconfig]

/-- The self trim asks every gate of its row but the compile switch. -/
theorem selfTrimGates_inputs (f : CommandFacts) :
    (selfTrimGates f).inputs = { rowInputs f (memoryCleanRow f) with compileTime := true } := by
  simp only [selfTrimGates, gatherMemoryCleanGates, configAllowsCleanStep_eq]
  rfl

theorem schedulerConfig_eq (f : CommandFacts) :
    (schedulerRow f).configured = (f.r1Overlay && schedulerConfigAllows f.config) := by
  cases h : f.config with
  | none => simp [schedulerRow, schedulerConfigAllows, h]
  | some c => simp [schedulerRow, schedulerConfigAllows, h]

/-- The self trim and its row part exactly where the build lacks the capability. -/
theorem selfTrim_agrees_iff (f : CommandFacts) :
    (RealAction.selfTrim.Reaches f → f.RowAllowed RealAction.selfTrim.rowName) ↔
      ¬ f.SelfTrimUncompiled := by
  have hrow : f.RowAllowed RealAction.selfTrim.rowName ↔ _ :=
    (rowAllowed_iff (cleanStepRow_mem f .workingSetTrim)).trans (evaluateGates_allowed _)
  have hpath : RealAction.selfTrim.Reaches f ↔ _ :=
    (selfTrim_reaches_iff f).trans (evaluateGates_allowed (selfTrimGates f).inputs)
  have hacknowledged : (selfTrimGates f).inputs.commandLine = f.acknowledged := by
    simp [selfTrimGates, gatherMemoryCleanGates]
  rw [hacknowledged] at hpath
  constructor
  · rintro h ⟨hoff, hasked⟩
    obtain ⟨hon, _⟩ := hrow.mp (h (hpath.mpr ⟨rfl, hasked⟩))
    have hon : f.switches.memoryCleanCompiledIn = true := hon
    rw [hoff] at hon
    cases hon
  · intro h hreach
    obtain ⟨_, hasked⟩ := hpath.mp hreach
    cases hcompiled : f.switches.memoryCleanCompiledIn with
    | false => exact absurd ⟨hcompiled, hasked⟩ h
    | true =>
      have hgates :=
        (evaluateGates_allowed (selfTrimGates f).inputs).mp ((selfTrim_reaches_iff f).mp hreach)
      rw [selfTrimGates_inputs] at hgates
      exact hrow.mpr ⟨hcompiled, hgates.2⟩

/-- The scheduler and its row part exactly where the environment or the overlay is closed. -/
theorem scheduler_agrees_iff (f : CommandFacts) :
    (∀ pid, (RealAction.schedulerExecute pid).Reaches f →
        f.RowAllowed (RealAction.schedulerExecute pid).rowName) ↔ ¬ f.SchedulerUnasked := by
  have hmem : schedulerRow f ∈ capabilities f := by simp [capabilities]
  have hrow : f.RowAllowed "scheduler.tuner" ↔ _ :=
    (rowAllowed_iff hmem).trans (evaluateGates_allowed _)
  have hconfigured : (rowInputs f (schedulerRow f)).config =
      (f.r1Overlay && schedulerConfigAllows f.config) := schedulerConfig_eq f
  constructor
  · rintro h ⟨hclosed, hcompiled, henabled, hacknowledged, haudit, hcooldown⟩
    have hopen : (evaluateGates (schedulerGates f)).allowed = true :=
      (evaluateGates_allowed _).mpr
        ⟨hcompiled, henabled, hacknowledged, rfl, haudit, hcooldown⟩
    obtain ⟨_, hconfig, _, henvironment, _⟩ :=
      hrow.mp (h 1 (scheduler_reaches (by decide) hopen))
    have henvironment : evaluateEnvironmentGate f.environment = true := henvironment
    rw [hconfigured, Bool.and_eq_true] at hconfig
    rcases hclosed with hclosed | hclosed
    · rw [henvironment] at hclosed
      cases hclosed
    · rw [hconfig.1] at hclosed
      cases hclosed
  · intro h pid hreach
    obtain ⟨hcompiled, henabled, hacknowledged, _, haudit, hcooldown⟩ :=
      (evaluateGates_allowed _).mp (scheduler_gates hreach)
    by_contra hblocked
    refine h ⟨?_, hcompiled, henabled, hacknowledged, haudit, hcooldown⟩
    by_contra hboth
    simp only [not_or, Bool.not_eq_false] at hboth
    have hconfig : (rowInputs f (schedulerRow f)).config = true := by
      rw [hconfigured, hboth.2]
      exact henabled
    have hacknowledged : f.acknowledged = true := hacknowledged
    have hcommand : (rowInputs f (schedulerRow f)).commandLine = true := by
      simp [rowInputs, schedulerRow, hacknowledged]
    exact hblocked (hrow.mpr ⟨hcompiled, hconfig, hcommand, hboth.1, haudit, hcooldown⟩)

/-- Commands and table agree on exactly the facts that keep away from the two slips. -/
theorem gates_agree_iff (f : CommandFacts) :
    f.GatesAgree ↔ ¬ f.SelfTrimUncompiled ∧ ¬ f.SchedulerUnasked := by
  rw [← selfTrim_agrees_iff, ← scheduler_agrees_iff]
  constructor
  · intro h
    exact ⟨h .selfTrim, fun pid => h (.schedulerExecute pid)⟩
  · rintro ⟨hself, hscheduler⟩ action hreach
    cases action with
    | cleanStep kind =>
      have hallowed := cleanStep_gates hreach
      rw [← cleanStepRow_name]
      refine rowAllowed_of_mem (cleanStepRow_mem f kind) ?_
      rw [← cleanStepGates_inputs]
      exact hallowed
    | selfTrim => exact hself hreach
    | powerApply targetGuid =>
      have hallowed := powerApply_gates hreach
      rw [gatherPowerSchemeGates_eq] at hallowed
      have hmem : powerSchemeRow f ∈ capabilities f := by simp [capabilities]
      exact rowAllowed_of_mem hmem hallowed
    | schedulerExecute pid => exact hscheduler pid hreach

/-- A default build on mains power, at the local console: the self trim runs without its switch. -/
theorem self_trim_uncompiled_acts :
    ¬ CommandFacts.GatesAgree
      { config := some
          { application := { mode := .balanced }
            layers := { maintenance := true }
            memory := { scheduledCleanEnabled := true } }
        acknowledged := true
        environment := { factsKnown := true, osSupported := true, interactiveSession := true }
        auditWritable := true
        nowUnixSeconds := 1 } := by
  intro h
  refine (selfTrim_agrees_iff _).mp (h .selfTrim) ?_
  unfold CommandFacts.SelfTrimUncompiled
  decide

end Command
end CppOptimizer
