import Mathlib.Data.List.TakeWhile
import CppOptimizer.Command.Actions
import CppOptimizer.Lib.Run
import CppOptimizer.Policy.Cooldown

/-!
# CppOptimizer.Command.RateLimit

Sequences of `--memory-clean --execute` and `--execute-self-trim` runs over one cooldown ledger.

`CleanWorld` holds the ledger file, the clock and the clean steps whose backend call has worked, and
`cleanRun` is one run of a command. A run records its steps only when the whole plan has worked. So a
plan that fails after its first step leaves that step unrecorded, and the next run may repeat it at
once (`failed_purge_repeats_trim`); `rate_limited_of_whole` says that nothing else breaks the limit.
-/

namespace CppOptimizer
namespace Command

open Common Config Lib Memory Policy

/-! ## The world of the commands -/

/-- A backend call that has worked, with its time. -/
structure Execution where
  kind : CleanKind
  time : Int
  deriving DecidableEq, Repr

structure CleanWorld where
  ledgerFile : Option Text
  clock : Int
  log : List Execution := []
  /-- The seconds that pass before each of the next calls. -/
  delays : List Nat := []

inductive CleanCommand where
  | execute | executeSelfTrim
  deriving DecidableEq, Repr

/-- One run of a command and what the outside does meanwhile. A plan has each step once, so the
failures of the backend are given by step. -/
structure CleanRun where
  command : CleanCommand
  /-- The ledger and the clock of the facts are those of the world. -/
  facts : CommandFacts
  /-- The seconds since the run before. -/
  wait : Nat := 0
  delays : List Nat := []
  failure : CleanKind → Option Error := fun _ => none
  readings : String := ""
  /-- What journal and audit answer. -/
  bookkeeping : Result Unit := .ok ()

/-- The clock at the next call. -/
def CleanWorld.tick (w : CleanWorld) : CleanWorld :=
  { w with clock := w.clock + w.delays.headD 0, delays := w.delays.tail }

/-- `RecordCooldownRun` at the next call, where every file step works. -/
def CleanWorld.record (w : CleanWorld) (capabilityId : String) : CleanWorld :=
  { w.tick with ledgerFile := some (recordedFile w.ledgerFile capabilityId w.tick.clock) }

/-- The ledger is read and written without failure. -/
def cleanHandler : Handler CommandCall CommandCall.Answer CleanWorld CleanRun where
  answer w e r :=
    match e with
    | .execute kind =>
      match r.failure kind with
      | some error => (.error error, w.tick)
      | none => (.ok (), { w.tick with log := w.log ++ [⟨kind, w.tick.clock⟩] })
    | .recordCooldownRun capabilityId => (.ok (), w.record capabilityId)
    | .readings => (r.readings, w.tick)
    | .appendJournal _ _ _ _ _ => (r.bookkeeping, w.tick)
    | .appendAudit _ _ _ _ _ => (r.bookkeeping, w.tick)
    | .listThreads _ => (.ok [], w.tick)
    | .setPriority _ _ => (.ok (), w.tick)

def CleanWorld.begin (w : CleanWorld) (r : CleanRun) : CleanWorld :=
  { w with clock := w.clock + r.wait, delays := r.delays }

/-- What the gates of the run read. -/
def CleanWorld.facts (w : CleanWorld) (r : CleanRun) : CommandFacts :=
  { r.facts with
    ledger := .ok (readCooldownLedger w.ledgerFile)
    nowUnixSeconds := (w.begin r).clock }

def CleanCommand.prog (f : CommandFacts) : CleanCommand → CommandProg CommandEnd
  | .execute => runMemoryCleanExecuteCommand f
  | .executeSelfTrim => runMemoryCleanSelfTrim f

def cleanRun (w : CleanWorld) (r : CleanRun) : CleanWorld :=
  ((r.command.prog (w.facts r)).exec cleanHandler r (w.begin r)).1

/-- Two calls for the same step are never less than the cooldown apart. -/
def RateLimited (w : CleanWorld) : Prop :=
  w.log.Pairwise fun a b => a.kind = b.kind → a.time + kDefaultCooldown ≤ b.time

/-- The plan of `--execute`. -/
def executePlan (f : CommandFacts) : MemoryCleanPlan :=
  planMemoryClean (memoryCleanConfigGate f.config).maxLevel
    (memoryCleanConfigGate f.config).maxLevel true

/-- `--execute` comes to the backend: every gate is open and every step implemented. -/
def PassesGates (f : CommandFacts) : Prop :=
  (∀ step ∈ (executePlan f).steps, (cleanStepGates f step).gates.allowed = true) ∧
    (evaluateCleanPlanReadiness f.switches (executePlan f)).firstUnimplemented = none

/-- The run executes a plan whose first step works and a later one fails. -/
def PartlyDone (w : CleanWorld) (r : CleanRun) : Prop :=
  r.command = .execute ∧ PassesGates (w.facts r) ∧
    ∃ first rest, (executePlan (w.facts r)).steps = first :: rest ∧ r.failure first = none ∧
      ∃ later ∈ rest, r.failure later ≠ none

/-! ## Calls that leave ledger and log alone -/

/-- Time has passed, and nothing else that counts. -/
structure Quiet (w w' : CleanWorld) : Prop where
  clock : w.clock ≤ w'.clock
  ledgerFile : w'.ledgerFile = w.ledgerFile
  log : w'.log = w.log

theorem Quiet.refl (w : CleanWorld) : Quiet w w := ⟨le_refl _, rfl, rfl⟩

theorem Quiet.trans {w w' w'' : CleanWorld} (h : Quiet w w') (h' : Quiet w' w'') : Quiet w w'' :=
  ⟨le_trans h.clock h'.clock, h'.ledgerFile.trans h.ledgerFile, h'.log.trans h.log⟩

theorem quiet_tick (w : CleanWorld) : Quiet w w.tick := by
  refine ⟨?_, rfl, rfl⟩
  simp only [CleanWorld.tick]
  omega

theorem quiet_begin (w : CleanWorld) (r : CleanRun) : Quiet w (w.begin r) := by
  refine ⟨?_, rfl, rfl⟩
  simp only [CleanWorld.begin]
  omega

section Exec

variable (r : CleanRun)

theorem quiet_journalAction (operationId target : String) (ok : Bool) (phase : JournalPhase)
    (detail : String) (w : CleanWorld) :
    Quiet w ((journalAction operationId target ok phase detail).exec cleanHandler r w).1 :=
  quiet_tick w

theorem quiet_auditAction (operationId : String) (risk : RiskLevel) (target : String) (ok : Bool)
    (detail postState : String) (w : CleanWorld) :
    Quiet w ((auditAction operationId risk target ok detail postState).exec cleanHandler r w).1 :=
  ((quiet_tick w).trans (quiet_tick _)).trans (quiet_tick _)

/-! ## The plan -/

theorem exec_executeStep_failed {kind : CleanKind} {error : Error} (h : r.failure kind = some error)
    (w : CleanWorld) : (executeStep kind).exec cleanHandler r w = (w.tick, .error error) := by
  simp [executeStep, Prog.perform, Prog.exec, cleanHandler, h]

theorem exec_executeStep {kind : CleanKind} (h : r.failure kind = none) (w : CleanWorld) :
    (executeStep kind).exec cleanHandler r w =
      ({ w.tick with log := w.log ++ [⟨kind, w.tick.clock⟩] }, .ok ()) := by
  simp [executeStep, Prog.perform, Prog.exec, cleanHandler, h]

/-- What the loop over the steps has done: the steps before the first failure are in the log. -/
structure StepsDone (steps : List CleanKind) (w w' : CleanWorld) (new : List Execution) : Prop where
  log : w'.log = w.log ++ new
  kinds : new.map Execution.kind = steps.takeWhile fun kind => (r.failure kind).isNone
  times : ∀ x ∈ new, w.clock ≤ x.time ∧ x.time ≤ w'.clock
  clock : w.clock ≤ w'.clock
  ledgerFile : w'.ledgerFile = w.ledgerFile

variable {r} in
/-- The loop stops at the failed step. -/
theorem stepsDone_failed {step : CleanKind} {error : Error} (h : r.failure step = some error)
    (steps : List CleanKind) (w : CleanWorld) : StepsDone r (step :: steps) w w.tick [] := by
  have htick := quiet_tick w
  refine ⟨?_, ?_, ?_, htick.clock, htick.ledgerFile⟩
  · rw [htick.log, List.append_nil]
  · simp [h]
  · simp

variable {r} in
/-- A step that is executed, and the steps after it. -/
theorem StepsDone.cons {step : CleanKind} {steps : List CleanKind} {w w' : CleanWorld}
    {new : List Execution} (h : r.failure step = none)
    (hnew : StepsDone r steps { w.tick with log := w.log ++ [⟨step, w.tick.clock⟩] } w' new) :
    StepsDone r (step :: steps) w w' (⟨step, w.tick.clock⟩ :: new) := by
  have htick := quiet_tick w
  refine ⟨?_, ?_, ?_, ?_, ?_⟩
  · rw [hnew.log, List.append_assoc]
    rfl
  · rw [List.map_cons, hnew.kinds, List.takeWhile_cons_of_pos (by simp [h])]
  · intro x hx
    rcases List.mem_cons.mp hx with rfl | hx
    · exact ⟨htick.clock, hnew.clock⟩
    · obtain ⟨hlow, hhigh⟩ := hnew.times x hx
      exact ⟨le_trans htick.clock hlow, hhigh⟩
  · exact le_trans htick.clock hnew.clock
  · exact hnew.ledgerFile.trans htick.ledgerFile

theorem executeSteps_done (steps : List CleanKind) (report : CleanExecutionReport) (w : CleanWorld)
    (hreport : report.ok = false) :
    (∃ new, StepsDone r steps w ((executeSteps executeStep steps report).exec cleanHandler r w).1
      new) ∧
    (((executeSteps executeStep steps report).exec cleanHandler r w).2.ok = true ↔
      ∀ kind ∈ steps, r.failure kind = none) := by
  induction steps generalizing report w with
  | nil =>
    refine ⟨⟨[], ?_, rfl, ?_, le_refl _, rfl⟩, ?_⟩
    · simp [executeSteps]
    · simp
    · simp [executeSteps]
  | cons step steps ih =>
    cases hfail : r.failure step with
    | some error =>
      have hexec : (executeSteps executeStep (step :: steps) report).exec cleanHandler r w =
          (w.tick, { report with
            executed := report.executed + 1
            hasFailedStep := true
            failedStep := step
            failureDetail := error.message }) := by
        rw [executeSteps, Prog.exec_bind, exec_executeStep_failed r hfail]
        rfl
      rw [hexec]
      refine ⟨⟨[], stepsDone_failed hfail steps w⟩, ?_⟩
      simp [hreport, hfail]
    | none =>
      have hexec : (executeSteps executeStep (step :: steps) report).exec cleanHandler r w =
          (executeSteps executeStep steps { report with
            executed := report.executed + 1
            succeeded := report.succeeded + 1 }).exec cleanHandler r
              { w.tick with log := w.log ++ [⟨step, w.tick.clock⟩] } := by
        rw [executeSteps, Prog.exec_bind, exec_executeStep r hfail]
      rw [hexec]
      obtain ⟨⟨new, hnew⟩, hok⟩ := ih { report with
        executed := report.executed + 1
        succeeded := report.succeeded + 1 } { w.tick with log := w.log ++ [⟨step, w.tick.clock⟩] }
          hreport
      refine ⟨⟨_, hnew.cons hfail⟩, ?_⟩
      rw [hok]
      simp [hfail]

/-- No call turns the clock back. -/
theorem clock_le_exec {α : Type} (p : CommandProg α) (w : CleanWorld) :
    w.clock ≤ (p.exec cleanHandler r w).1.clock := by
  induction p generalizing w with
  | ret a => exact le_refl _
  | call e k ih =>
    have htick := (quiet_tick w).clock
    refine le_trans ?_ (ih _ _)
    cases e with
    | execute kind =>
      simp only [cleanHandler]
      split <;> exact htick
    | recordCooldownRun capabilityId => exact htick
    | readings => exact htick
    | appendJournal phase operationId ok target detail => exact htick
    | appendAudit operationId risk target ok detail => exact htick
    | listThreads processId => exact htick
    | setPriority threadId priority => exact htick

theorem executeMemoryCleanPlan_exec {plan : MemoryCleanPlan} (hallowed : plan.allowed = true)
    (hsteps : plan.steps ≠ []) (w : CleanWorld) :
    (executeMemoryCleanPlan executeStep plan).exec cleanHandler r w =
      (((executeSteps executeStep plan.steps {}).exec cleanHandler r w).1,
        .ok ((executeSteps executeStep plan.steps {}).exec cleanHandler r w).2) := by
  unfold executeMemoryCleanPlan
  rw [if_neg (by simp [hallowed]), if_neg hsteps, Prog.exec_bind]
  rfl

theorem describeExecution_ok (okText : Nat → String) (report : CleanExecutionReport) :
    (describeExecution okText (.ok report)).1 = report.ok := by
  unfold describeExecution
  cases hok : report.ok <;> simp [hok]

/-! ## The records -/

/-- The ledger after runs of the given capabilities have been recorded. -/
structure Recorded (ids : List String) (w w' : CleanWorld) : Prop where
  log : w'.log = w.log
  mono : ∀ id last, (readCooldownLedger w.ledgerFile).lastRunUnixSeconds.find? id = some last →
    ∃ last', (readCooldownLedger w'.ledgerFile).lastRunUnixSeconds.find? id = some last' ∧
      last ≤ last'
  own : ∀ id ∈ ids, ∃ last,
    (readCooldownLedger w'.ledgerFile).lastRunUnixSeconds.find? id = some last ∧ w.clock ≤ last

theorem Recorded.of_quiet {w w' : CleanWorld} (h : Quiet w w') : Recorded [] w w' := by
  refine ⟨h.log, ?_, by simp⟩
  intro id last hlast
  rw [h.ledgerFile]
  exact ⟨last, hlast, le_refl last⟩

theorem capabilityId_plain (kind : CleanKind) :
    cleanKindCapabilityId kind ≠ "" ∧ PlainId (cleanKindCapabilityId kind) := by
  cases kind <;> decide

theorem recordCooldownRun_recorded (kind : CleanKind) {w : CleanWorld} (hclock : 0 < w.clock)
    (hint : w.tick.clock < 2 ^ 63) :
    Recorded [cleanKindCapabilityId kind] w (w.record (cleanKindCapabilityId kind)) := by
  obtain ⟨hid, hplain⟩ := capabilityId_plain kind
  have htick := (quiet_tick w).clock
  have hint64 : IsInt64 w.tick.clock := ⟨by omega, hint⟩
  refine ⟨rfl, ?_, ?_⟩
  · intro id last hlast
    rw [CleanWorld.record, read_recordedFile w.ledgerFile hplain hint64]
    exact withCooldownRun_mono hlast
  · intro id hmem
    rw [List.mem_singleton] at hmem
    subst hmem
    rw [CleanWorld.record, read_recordedFile w.ledgerFile hplain hint64]
    have hpos : 0 < w.tick.clock := lt_of_lt_of_le hclock htick
    obtain ⟨last, hlast, hle⟩ := withCooldownRun_self hid hpos
    exact ⟨last, hlast, le_trans htick hle⟩

theorem recordCooldowns_recorded (steps : List CleanKind) {w : CleanWorld} (hclock : 0 < w.clock)
    (hint : ((recordCooldowns steps).exec cleanHandler r w).1.clock < 2 ^ 63) :
    Recorded (steps.map cleanKindCapabilityId) w
      ((recordCooldowns steps).exec cleanHandler r w).1 := by
  induction steps generalizing w with
  | nil => exact Recorded.of_quiet (Quiet.refl w)
  | cons step steps ih =>
    have htick := (quiet_tick w).clock
    have hcons : (recordCooldowns (step :: steps)).exec cleanHandler r w =
        (recordCooldowns steps).exec cleanHandler r (w.record (cleanKindCapabilityId step)) := rfl
    rw [hcons] at hint ⊢
    have hrest := clock_le_exec r (recordCooldowns steps) (w.record (cleanKindCapabilityId step))
    have hone := recordCooldownRun_recorded step hclock (lt_of_le_of_lt hrest hint)
    have hpositive : 0 < (w.record (cleanKindCapabilityId step)).clock :=
      lt_of_lt_of_le hclock htick
    have hall := ih hpositive hint
    refine ⟨hall.log.trans hone.log, ?_, ?_⟩
    · intro id last hlast
      obtain ⟨last', hlast', hle⟩ := hone.mono id last hlast
      obtain ⟨last'', hlast'', hle'⟩ := hall.mono id last' hlast'
      exact ⟨last'', hlast'', le_trans hle hle'⟩
    · intro id hmem
      rw [List.map_cons, List.mem_cons] at hmem
      rcases hmem with rfl | hmem
      · obtain ⟨last, hlast, hle⟩ := hone.own _ List.mem_cons_self
        obtain ⟨last', hlast', hle'⟩ := hall.mono _ last hlast
        exact ⟨last', hlast', le_trans hle hle'⟩
      · obtain ⟨last, hlast, hle⟩ := hall.own id hmem
        exact ⟨last, hlast, le_trans htick hle⟩

/-! ## One run -/

/-- What a run that is whole leaves behind: the steps it has executed were allowed by the ledger, and
the ledger has them now. -/
structure RunDone (w w' : CleanWorld) (new : List Execution) : Prop where
  log : w'.log = w.log ++ new
  nodup : (new.map Execution.kind).Nodup
  times : ∀ x ∈ new, w.clock ≤ x.time
  gates : ∀ x ∈ new, cooldownGateOpen (.ok (readCooldownLedger w.ledgerFile))
    (cleanKindCapabilityId x.kind) w.clock = true
  mono : ∀ id last, (readCooldownLedger w.ledgerFile).lastRunUnixSeconds.find? id = some last →
    ∃ last', (readCooldownLedger w'.ledgerFile).lastRunUnixSeconds.find? id = some last' ∧
      last ≤ last'
  recorded : ∀ x ∈ new, ∃ last, (readCooldownLedger w'.ledgerFile).lastRunUnixSeconds.find?
    (cleanKindCapabilityId x.kind) = some last ∧ x.time ≤ last

theorem runDone_of_quiet {w w' : CleanWorld} (h : Quiet w w') : RunDone w w' [] := by
  refine ⟨by rw [h.log, List.append_nil], by simp, by simp, by simp, ?_, by simp⟩
  exact (Recorded.of_quiet h).mono

variable {r}

/-- Where no step fails, all are executed. -/
theorem StepsDone.kinds_eq {steps : List CleanKind} {w w' : CleanWorld} {new : List Execution}
    (h : StepsDone r steps w w' new) (hall : ∀ kind ∈ steps, r.failure kind = none) :
    new.map Execution.kind = steps := by
  rw [h.kinds]
  refine List.takeWhile_eq_self_iff.mpr fun kind hkind => ?_
  rw [hall kind hkind]
  rfl

/-- Where the first step fails, nothing is executed. -/
theorem StepsDone.quiet {first : CleanKind} {rest : List CleanKind} {w w' : CleanWorld}
    {new : List Execution} (h : StepsDone r (first :: rest) w w' new)
    (hfirst : r.failure first ≠ none) : Quiet w w' := by
  have hstop : (r.failure first).isNone = false := by
    simpa [Option.ne_none_iff_isSome] using hfirst
  have hkinds := h.kinds
  rw [List.takeWhile_cons_of_neg (by simp [hstop])] at hkinds
  have hnew : new = [] := List.map_eq_nil_iff.mp hkinds
  exact ⟨h.clock, h.ledgerFile, by rw [h.log, hnew, List.append_nil]⟩

/-- A plan that works as a whole or fails at once. -/
theorem runDone_of_plan {steps : List CleanKind} {w w₀ w₁ w₂ w' : CleanWorld} {new : List Execution}
    (hnodup : steps.Nodup)
    (hgates : ∀ step ∈ steps, cooldownGateOpen (.ok (readCooldownLedger w.ledgerFile))
      (cleanKindCapabilityId step) w.clock = true)
    (hwhole : (∀ kind ∈ steps, r.failure kind = none) ∨
      ∃ first rest, steps = first :: rest ∧ r.failure first ≠ none)
    (hbefore : Quiet w w₀) (hdone : StepsDone r steps w₀ w₁ new) (hafter : Quiet w₁ w₂)
    (hok : (∀ kind ∈ steps, r.failure kind = none) →
      Recorded (steps.map cleanKindCapabilityId) w₂ w')
    (hfailed : ¬ (∀ kind ∈ steps, r.failure kind = none) → w' = w₂) : ∃ new, RunDone w w' new := by
  rcases hwhole with hall | ⟨first, rest, rfl, hfirst⟩
  · have hrecorded := hok hall
    have hkinds := hdone.kinds_eq hall
    have hmem : ∀ x ∈ new, x.kind ∈ steps := by
      intro x hx
      rw [← hkinds]
      exact List.mem_map_of_mem hx
    have hfile : w₂.ledgerFile = w.ledgerFile :=
      hafter.ledgerFile.trans (hdone.ledgerFile.trans hbefore.ledgerFile)
    refine ⟨new, ?_, by rw [hkinds]; exact hnodup, ?_, ?_, ?_, ?_⟩
    · rw [hrecorded.log, hafter.log, hdone.log, hbefore.log]
    · intro x hx
      exact le_trans hbefore.clock (hdone.times x hx).1
    · intro x hx
      exact hgates x.kind (hmem x hx)
    · intro id last hlast
      exact hrecorded.mono id last (by rw [hfile]; exact hlast)
    · intro x hx
      obtain ⟨last, hlast, hle⟩ := hrecorded.own _ (List.mem_map_of_mem (hmem x hx))
      exact ⟨last, hlast, le_trans (le_trans (hdone.times x hx).2 hafter.clock) hle⟩
  · have hnot : ¬ ∀ kind ∈ first :: rest, r.failure kind = none := by
      intro hall
      exact hfirst (hall first List.mem_cons_self)
    have hmiddle := hdone.quiet hfirst
    rw [hfailed hnot]
    exact ⟨[], runDone_of_quiet ((hbefore.trans hmiddle).trans hafter)⟩

theorem planMemoryClean_nodup (requested configuredMax : CleanLevel) (gatesAllowed : Bool) :
    (planMemoryClean requested configuredMax gatesAllowed).steps.Nodup := by
  cases requested <;> cases configuredMax <;> cases gatesAllowed <;> decide

theorem planMemoryClean_allowed {requested configuredMax : CleanLevel}
    (h : (planMemoryClean requested configuredMax true).steps ≠ []) :
    (planMemoryClean requested configuredMax true).allowed = true := by
  cases requested <;> cases configuredMax <;> revert h <;> decide

/-- What both commands do once their gates have passed: journal, plan, readings, audit, and the
records if the plan has worked. -/
theorem planned_done {β : Type} {plan : MemoryCleanPlan} {before : CommandProg Unit}
    {audit : Result CleanExecutionReport → String → CommandProg Unit} {record : CommandProg β}
    {okText : Nat → String} {good : CommandEnd} {bad : Result CleanExecutionReport → CommandEnd}
    (hbefore : ∀ w, Quiet w (before.exec cleanHandler r w).1)
    (haudit : ∀ executed text w, Quiet w ((audit executed text).exec cleanHandler r w).1)
    (hrecord : ∀ w, 0 < w.clock → (record.exec cleanHandler r w).1.clock < 2 ^ 63 →
      Recorded (plan.steps.map cleanKindCapabilityId) w (record.exec cleanHandler r w).1)
    (hallowed : plan.allowed = true) (hsteps : plan.steps ≠ []) (hnodup : plan.steps.Nodup)
    (hwhole : (∀ kind ∈ plan.steps, r.failure kind = none) ∨
      ∃ first rest, plan.steps = first :: rest ∧ r.failure first ≠ none)
    {w w' : CleanWorld} (hgates : ∀ step ∈ plan.steps, cooldownGateOpen
      (.ok (readCooldownLedger w.ledgerFile)) (cleanKindCapabilityId step) w.clock = true)
    (hclock : 0 < w.clock) (hint : w'.clock < 2 ^ 63)
    (hexec : w' = (Prog.exec cleanHandler r (do
      before
      let executed ← executeMemoryCleanPlan executeStep plan
      let deltaText ← Prog.perform CommandCall.readings
      audit executed deltaText
      if (describeExecution okText executed).1 then do
        let _ ← record
        pure good
      else pure (bad executed)) w).1) : ∃ new, RunDone w w' new := by
  obtain ⟨⟨new, hdone⟩, hreport⟩ :=
    executeSteps_done r plan.steps {} (before.exec cleanHandler r w).1 rfl
  simp only [Prog.exec_bind, executeMemoryCleanPlan_exec r hallowed hsteps,
    describeExecution_ok] at hexec
  set w₁ := ((executeSteps executeStep plan.steps {}).exec cleanHandler r
    (before.exec cleanHandler r w).1).1
  set report := ((executeSteps executeStep plan.steps {}).exec cleanHandler r
    (before.exec cleanHandler r w).1).2
  set w₂ := ((audit (.ok report) r.readings).exec cleanHandler r w₁.tick).1 with hw₂
  have hafter : Quiet w₁ w₂ := (quiet_tick w₁).trans (haudit _ _ _)
  have hpositive : 0 < w₂.clock :=
    lt_of_lt_of_le hclock
      (le_trans (hbefore w).clock (le_trans hdone.clock hafter.clock))
  refine runDone_of_plan hnodup hgates hwhole (hbefore w) hdone hafter ?_ ?_
  · intro hall
    have hend : w' = (record.exec cleanHandler r w₂).1 := by
      rw [hexec, if_pos (hreport.mpr hall), Prog.exec_bind]
      rfl
    rw [hend] at hint ⊢
    exact hrecord w₂ hpositive hint
  · intro hnot
    rw [hexec, if_neg fun h => hnot (hreport.mp h)]
    rfl

theorem whole_of_not_partly {steps : List CleanKind} (hsteps : steps ≠ [])
    (h : ¬ ∃ first rest, steps = first :: rest ∧ r.failure first = none ∧
      ∃ later ∈ rest, r.failure later ≠ none) :
    (∀ kind ∈ steps, r.failure kind = none) ∨
      ∃ first rest, steps = first :: rest ∧ r.failure first ≠ none := by
  cases steps with
  | nil => exact absurd rfl hsteps
  | cons first rest =>
    by_cases hfirst : r.failure first = none
    · left
      intro kind hkind
      rcases List.mem_cons.mp hkind with rfl | hkind
      · exact hfirst
      · by_contra hlater
        exact h ⟨first, rest, rfl, hfirst, kind, hkind, hlater⟩
    · exact .inr ⟨first, rest, rfl, hfirst⟩

theorem cooldown_of_allowed {f : CommandFacts} {acknowledged configEnabled compiledIn isolated
    isolatedAcknowledged : Bool} {id : String}
    (h : (gatherMemoryCleanGates f acknowledged configEnabled compiledIn id isolated
      isolatedAcknowledged).gates.allowed = true) :
    cooldownGateOpen f.ledger id f.nowUnixSeconds = true :=
  ((evaluateGates_allowed _).mp h).2.2.2.2.2

theorem execute_done {w : CleanWorld} (hcommand : r.command = .execute) (hwhole : ¬ PartlyDone w r)
    (hclock : 0 < (w.begin r).clock) (hint : (cleanRun w r).clock < 2 ^ 63) :
    ∃ new, RunDone (w.begin r) (cleanRun w r) new := by
  set f := w.facts r with hf
  have hrun : cleanRun w r =
      ((runMemoryCleanExecuteCommand f).exec cleanHandler r (w.begin r)).1 := by
    rw [cleanRun, hcommand]
    rfl
  have hplan : planMemoryClean (memoryCleanConfigGate f.config).maxLevel
      (memoryCleanConfigGate f.config).maxLevel true = executePlan f := rfl
  rw [hrun] at hint ⊢
  simp only [runMemoryCleanExecuteCommand, hplan] at hint ⊢
  by_cases hsteps : (executePlan f).steps = []
  · rw [if_pos hsteps]
    exact ⟨[], runDone_of_quiet (Quiet.refl _)⟩
  rw [if_neg hsteps] at hint ⊢
  rcases hblocked : (executePlan f).steps.find?
      fun step => !(cleanStepGates f step).gates.allowed with _ | step
  · have hallowed : ∀ step ∈ (executePlan f).steps, (cleanStepGates f step).gates.allowed = true := by
      intro step hstep
      simpa using List.find?_eq_none.mp hblocked step hstep
    rcases hready : (evaluateCleanPlanReadiness f.switches (executePlan f)).firstUnimplemented with
      _ | step
    · simp only [hblocked, hready] at hint ⊢
      refine planned_done
        (fun w => quiet_journalAction r _ _ _ _ _ w)
        (fun executed text w => quiet_auditAction r _ _ _ _ _ text w)
        (fun w hw h => recordCooldowns_recorded r _ hw h)
        (planMemoryClean_allowed hsteps) hsteps (planMemoryClean_nodup _ _ _) ?_ ?_ hclock hint rfl
      · refine whole_of_not_partly hsteps fun hpartly => ?_
        exact hwhole ⟨hcommand, ⟨hallowed, hready⟩, hpartly⟩
      · intro step hstep
        exact cooldown_of_allowed (hallowed step hstep)
    · simp only [hblocked, hready] at hint ⊢
      exact ⟨[], runDone_of_quiet (Quiet.refl _)⟩
  · simp only [hblocked] at hint ⊢
    exact ⟨[], runDone_of_quiet (Quiet.refl _)⟩

/-- The plan of the self trim is its one step. -/
theorem selfTrim_steps {configuredMax : CleanLevel}
    (h : (planMemoryClean .light configuredMax true).steps ≠ []) :
    (planMemoryClean .light configuredMax true).steps = [.workingSetTrim] := by
  cases configuredMax <;> revert h <;> decide

theorem selfTrim_done {w : CleanWorld} (hcommand : r.command = .executeSelfTrim)
    (hclock : 0 < (w.begin r).clock) (hint : (cleanRun w r).clock < 2 ^ 63) :
    ∃ new, RunDone (w.begin r) (cleanRun w r) new := by
  set f := w.facts r with hf
  have hrun : cleanRun w r = ((runMemoryCleanSelfTrim f).exec cleanHandler r (w.begin r)).1 := by
    rw [cleanRun, hcommand]
    rfl
  rw [hrun] at hint ⊢
  simp only [runMemoryCleanSelfTrim] at hint ⊢
  by_cases hclosed : (selfTrimGates f).gates.allowed = false
  · rw [if_pos hclosed]
    exact ⟨[], runDone_of_quiet (Quiet.refl _)⟩
  rw [if_neg hclosed] at hint ⊢
  set plan := planMemoryClean .light (memoryCleanConfigGate f.config).maxLevel true with hplan
  by_cases hnone : plan.allowed = false ∨ plan.steps = []
  · rw [if_pos hnone]
    exact ⟨[], runDone_of_quiet (Quiet.refl _)⟩
  rw [if_neg hnone] at hint ⊢
  obtain ⟨hallowed, hsteps⟩ := not_or.mp hnone
  have hone : plan.steps = [.workingSetTrim] := selfTrim_steps hsteps
  refine planned_done (fun w => quiet_journalAction r _ _ _ _ _ w)
    (fun executed text w => quiet_auditAction r _ _ _ _ _ text w) ?_ (by simpa using hallowed)
    hsteps (planMemoryClean_nodup _ _ _) ?_ ?_ hclock hint rfl
  · intro w hw h
    rw [hone]
    exact recordCooldownRun_recorded .workingSetTrim hw h
  · refine whole_of_not_partly hsteps ?_
    rintro ⟨first, rest, heq, _, later, hlater, _⟩
    rw [hone] at heq
    cases heq
    cases hlater
  · intro step hstep
    rw [hone, List.mem_singleton] at hstep
    subst hstep
    have hopen : (selfTrimGates f).gates.allowed = true := by simpa using hclosed
    exact cooldown_of_allowed hopen

theorem cleanRun_done {w : CleanWorld} (hwhole : ¬ PartlyDone w r) (hclock : 0 < w.clock)
    (hint : (cleanRun w r).clock < 2 ^ 63) : ∃ new, RunDone (w.begin r) (cleanRun w r) new := by
  have hbegin : 0 < (w.begin r).clock := lt_of_lt_of_le hclock (quiet_begin w r).clock
  cases hcommand : r.command with
  | execute => exact execute_done hcommand hwhole hbegin hint
  | executeSelfTrim => exact selfTrim_done hcommand hbegin hint

end Exec

/-! ## Sequences of runs -/

/-- Every execution is in the ledger, as its own time or a later one. -/
structure Tracked (w : CleanWorld) : Prop where
  clock : 0 < w.clock
  limited : RateLimited w
  times : ∀ x ∈ w.log, 0 < x.time
  recorded : ∀ x ∈ w.log, ∃ last, (readCooldownLedger w.ledgerFile).lastRunUnixSeconds.find?
    (cleanKindCapabilityId x.kind) = some last ∧ x.time ≤ last

/-- An open cooldown gate is at least the cooldown away from a record. -/
theorem cooldown_passed {ledger : CooldownLedger} {id : String} {now last : Int}
    (hopen : cooldownGateOpen (.ok ledger) id now = true)
    (hlast : ledger.lastRunUnixSeconds.find? id = some last) (hpositive : 0 < last) :
    last + kDefaultCooldown ≤ now := by
  simp only [cooldownGateOpen, evaluateCooldownGate, hlast] at hopen
  rw [if_neg (by omega)] at hopen
  split at hopen
  · cases hopen
  · simp only [decide_eq_true_eq] at hopen
    omega

theorem clock_le_cleanRun (w : CleanWorld) (r : CleanRun) : w.clock ≤ (cleanRun w r).clock :=
  le_trans (quiet_begin w r).clock (clock_le_exec r _ _)

/-- One run that is not partly done. -/
theorem tracked_cleanRun {w : CleanWorld} {r : CleanRun} (h : Tracked w) (hwhole : ¬ PartlyDone w r)
    (hint : (cleanRun w r).clock < 2 ^ 63) : Tracked (cleanRun w r) := by
  obtain ⟨new, hdone⟩ := cleanRun_done hwhole h.clock hint
  have hnow := (quiet_begin w r).clock
  have hpositive : ∀ x ∈ new, 0 < x.time := by
    intro x hx
    exact lt_of_lt_of_le (lt_of_lt_of_le h.clock hnow) (hdone.times x hx)
  have hlog : (cleanRun w r).log = w.log ++ new := hdone.log
  refine ⟨lt_of_lt_of_le h.clock (clock_le_cleanRun w r), ?_, ?_, ?_⟩
  · rw [RateLimited, hlog, List.pairwise_append]
    refine ⟨h.limited, ?_, ?_⟩
    · -- the steps of one plan are distinct
      refine (List.pairwise_map.mp hdone.nodup).imp ?_
      intro a b hne heq
      exact absurd heq hne
    · intro a ha b hb heq
      obtain ⟨last, hlast, hle⟩ := h.recorded a ha
      have hopen := hdone.gates b hb
      rw [← heq] at hopen
      have hpassed := cooldown_passed hopen hlast (lt_of_lt_of_le (h.times a ha) hle)
      have htime := hdone.times b hb
      omega
  · intro x hx
    rw [hlog, List.mem_append] at hx
    rcases hx with hx | hx
    · exact h.times x hx
    · exact hpositive x hx
  · intro x hx
    rw [hlog, List.mem_append] at hx
    rcases hx with hx | hx
    · obtain ⟨last, hlast, hle⟩ := h.recorded x hx
      obtain ⟨last', hlast', hle'⟩ := hdone.mono _ last hlast
      exact ⟨last', hlast', le_trans hle hle'⟩
    · exact hdone.recorded x hx

theorem clock_le_run (w : CleanWorld) (rs : List CleanRun) : w.clock ≤ (run cleanRun w rs).clock := by
  induction rs generalizing w with
  | nil => exact le_refl _
  | cons r rs ih => exact le_trans (clock_le_cleanRun w r) (ih _)

/-- A clock that is an `int64` at the end was one all along. -/
theorem steps_clock {w : CleanWorld} {rs : List CleanRun} (h : (run cleanRun w rs).clock < 2 ^ 63) :
    Steps cleanRun (fun w r => (cleanRun w r).clock < 2 ^ 63) w rs := by
  induction rs generalizing w with
  | nil => trivial
  | cons r rs ih => exact ⟨lt_of_le_of_lt (clock_le_run _ rs) h, ih h⟩

/-- As long as no run executes a plan that fails after its first step, two executions of a step are
never less than the cooldown apart. -/
theorem rate_limited_of_whole (w : CleanWorld) (hclock : 0 < w.clock) (hlog : w.log = [])
    (rs : List CleanRun) (hint : (run cleanRun w rs).clock < 2 ^ 63)
    (hwhole : Steps cleanRun (fun w r => ¬ PartlyDone w r) w rs) :
    Always cleanRun RateLimited w rs := by
  have hstart : Tracked w := by
    refine ⟨hclock, ?_, ?_, ?_⟩
    · rw [RateLimited, hlog]
      exact List.Pairwise.nil
    · simp [hlog]
    · simp [hlog]
  refine always_of_steps (I := Tracked) ?_ (fun w h => h.limited) hstart
    (hwhole.and (steps_clock hint))
  intro w r htracked hok
  exact tracked_cleanRun htracked hok.1 hok.2

/-! ## Two runs of a medium plan -/

/-- A build with working set trim and standby purge, on an isolated machine, with everything
confirmed. -/
def isolatedFacts : CommandFacts :=
  { switches := { memoryClean := some 1, standbyPurge := some 1 }
    config := some
      { application := { mode := .experimental }
        layers := { emergency := true }
        memory :=
          { scheduledCleanEnabled := true, allowNativeWrite := true, maxCleanLevel := .medium } }
    acknowledged := true
    isolatedAcknowledged := true
    environment := { factsKnown := true, osSupported := true, interactiveSession := true }
    auditWritable := true }

def freshWorld : CleanWorld := { ledgerFile := none, clock := 1000 }

/-- Two plans that work, fifteen minutes apart. -/
theorem rate_limited_medium :
    (run cleanRun freshWorld [{ command := .execute, facts := isolatedFacts },
        { command := .execute, facts := isolatedFacts, wait := 900 }]).log =
      [⟨.workingSetTrim, 1000⟩, ⟨.standbyListPurge, 1000⟩, ⟨.workingSetTrim, 1900⟩,
        ⟨.standbyListPurge, 1900⟩] ∧
    Always cleanRun RateLimited freshWorld [{ command := .execute, facts := isolatedFacts },
      { command := .execute, facts := isolatedFacts, wait := 900 }] := by
  refine ⟨by decide +kernel, ?_⟩
  refine rate_limited_of_whole freshWorld (by decide) rfl _ (by decide +kernel) ⟨?_, ?_, trivial⟩
  · rintro ⟨_, _, _, _, _, _, later, _, hfail⟩
    exact hfail rfl
  · rintro ⟨_, _, _, _, _, _, later, _, hfail⟩
    exact hfail rfl

/-- The purge fails twice in a row, and the trim before it is executed twice within a second. -/
theorem failed_purge_repeats_trim :
    ¬ RateLimited (run cleanRun freshWorld
      [{ command := .execute, facts := isolatedFacts
         failure := fun kind =>
           if kind = .standbyListPurge then some (.fromWin32 1314 "NtSetSystemInformation")
           else none },
       { command := .execute, facts := isolatedFacts, wait := 1
         failure := fun kind =>
           if kind = .standbyListPurge then some (.fromWin32 1314 "NtSetSystemInformation")
           else none }]) := by
  unfold RateLimited
  decide +kernel

end Command
end CppOptimizer
