import CppOptimizer.Audit.Log
import CppOptimizer.Command.Actions
import CppOptimizer.Policy.Cooldown

/-!
# CppOptimizer.Command.BoostOutputs

What `--scheduler <pid> --execute` leaves behind: the thread priorities of the system, the audit file,
the journal and the cooldown ledger.

* `ThreadTable`    — the threads of the system and how the calls of the real backend see them.
* `boostRun`       — one run of the command on a table and on the files of the user.
* `Changed`        — the threads a run has changed, with the priorities they had.
* `raised`         — the threads it raises, read off the table alone.
* `originals_recoverable_iff` — the files of two runs tell their changes apart exactly if they raise
  different numbers of threads and one of the two lines with that number gets written.

`FormatAdjustmentRecord` would write the original priorities down, but the command never calls it.
-/

namespace CppOptimizer
namespace Command

open Common Config Lib Policy Scheduler

/-! ## Threads -/

structure OsThread where
  threadId : UInt32
  ownerProcessId : UInt32
  priority : Int := 0
  affinityMask : UInt64 := 0
  /-- `OpenThread` grants the query right. -/
  opensForQuery : Bool := true
  /-- `GetThreadPriority` answers. -/
  priorityReadable : Bool := true
  deriving DecidableEq, Repr

/-- The threads of the system. A thread id stands for one thread. -/
@[ext]
structure ThreadTable where
  threads : List OsThread
  nodup : (threads.map OsThread.threadId).Nodup
  /-- What `SetPriority` fails with on a thread. -/
  setError : UInt32 → Option Error := fun _ => none

/-- An entry of `ListThreads`: a priority that cannot be read stays 0. -/
def OsThread.snapshot (x : OsThread) : ThreadSnapshot :=
  { threadId := x.threadId
    priority := if x.priorityReadable then x.priority else 0
    affinityMask := x.affinityMask }

/-- The threads `ListThreads` shows: those of the process it can open. -/
def ThreadTable.listed (t : ThreadTable) (pid : UInt32) : List OsThread :=
  t.threads.filter fun x => x.ownerProcessId = pid ∧ x.opensForQuery = true

/-- The threads of `ids` get the priority. -/
def OsThread.raise (ids : List UInt32) (priority : Int) (x : OsThread) : OsThread :=
  if x.threadId ∈ ids then { x with priority := priority } else x

@[simp] theorem OsThread.raise_threadId (ids : List UInt32) (priority : Int) (x : OsThread) :
    (x.raise ids priority).threadId = x.threadId := by
  unfold OsThread.raise
  split <;> rfl

def ThreadTable.raise (t : ThreadTable) (ids : List UInt32) (priority : Int) : ThreadTable :=
  { t with
    threads := t.threads.map (OsThread.raise ids priority)
    nodup := by simpa [Function.comp_def] using t.nodup }

@[simp] theorem ThreadTable.raise_setError (t : ThreadTable) (ids : List UInt32) (priority : Int) :
    (t.raise ids priority).setError = t.setError := rfl

@[simp] theorem ThreadTable.raise_nil (t : ThreadTable) (priority : Int) :
    t.raise [] priority = t := by
  have hsame : OsThread.raise [] priority = id := by
    funext x
    simp [OsThread.raise]
  ext1
  · simp [ThreadTable.raise, hsame]
  · rfl

theorem ThreadTable.raise_cons (t : ThreadTable) (id : UInt32) (ids : List UInt32)
    (priority : Int) : (t.raise [id] priority).raise ids priority = t.raise (id :: ids) priority := by
  ext1
  · simp only [ThreadTable.raise, List.map_map]
    refine List.map_congr_left fun x _ => ?_
    by_cases hid : x.threadId = id <;> by_cases hids : x.threadId ∈ ids <;>
      simp_all [OsThread.raise]
  · rfl

/-! ## Files -/

def riskOf : RiskLevel → Audit.RiskLevel
  | .r0 => .r0
  | .r1 => .r1
  | .r2 => .r2
  | .r3 => .r3

def journalPhaseToString : JournalPhase → Text
  | .before => "before".toList
  | .after => "after".toList
  | .state => "state".toList

def journalMarker : Text := " [journal] ".toList

/-- The line of `AppendJournalLine`. -/
def formatJournalLine (now : Option Audit.LocalTime) (phase : JournalPhase)
    (operationId : Text) (ok : Bool) (target detail : Text) : Text :=
  Audit.localTimestampAscii now ++ (journalMarker ++ (journalPhaseToString phase ++ ' ' ::
    (Audit.sanitized operationId ++ ' ' :: (Audit.resultText ok ++
      (" caller=cli".toList ++ (" target=".toList ++ (Audit.sanitized target ++
        (" detail=".toList ++ Audit.sanitized detail))))))))

/-- The record that `AuditAction` hands to `AppendAuditLine`. -/
def auditRecord (operationId : String) (risk : RiskLevel) (target : String) (ok : Bool)
    (detail : String) : Audit.AuditRecord :=
  { operationId := operationId.toList
    risk := riskOf risk
    caller := "cli".toList
    target := target.toList
    ok := ok
    detail := detail.toList }

/-- What outlives the process. -/
structure DurableFiles where
  audit : Text := []
  journal : Text := []
  ledger : Option Text := none
  deriving DecidableEq, Repr

structure BoostWorld where
  table : ThreadTable
  files : DurableFiles := {}

/-- What two runs have in common: the clocks and the failures of snapshot and files. -/
structure Surroundings where
  now : Option Audit.LocalTime := none
  nowUnixSeconds : Int := 0
  snapshotError : Option Error := none
  auditError : Option Error := none
  journalError : Option Error := none
  ledgerError : Option Error := none

/-- The answer of a call that changes one thing unless it fails. -/
def unlessFailed {σ : Type} (error : Option Error) (w w' : σ) : Result Unit × σ :=
  match error with
  | some e => (.error e, w)
  | none => (.ok (), w')

def boostHandler : Handler CommandCall CommandCall.Answer BoostWorld Surroundings where
  answer w e c :=
    match e with
    | .listThreads pid =>
      match c.snapshotError with
      | some e => (.error e, w)
      | none => (.ok ((w.table.listed pid).map OsThread.snapshot), w)
    | .setPriority threadId priority =>
      unlessFailed (w.table.setError threadId) w
        { w with table := w.table.raise [threadId] priority }
    | .appendJournal phase operationId ok target detail =>
      unlessFailed c.journalError w
        { w with files := { w.files with
          journal := w.files.journal ++ (formatJournalLine c.now phase operationId.toList ok
            target.toList detail.toList ++ ['\n']) } }
    | .appendAudit operationId risk target ok detail =>
      unlessFailed c.auditError w
        { w with files := { w.files with
          audit := w.files.audit ++ (Audit.formatAuditLineAscii c.now
            (auditRecord operationId risk target ok detail) ++ ['\n']) } }
    | .recordCooldownRun capabilityId =>
      unlessFailed c.ledgerError w
        { w with files := { w.files with
          ledger := some (recordedFile w.files.ledger capabilityId c.nowUnixSeconds) } }
    -- The calls of the other commands.
    | .execute _ => (.ok (), w)
    | .readings => ("", w)

/-- `--scheduler <pid> --execute` on a table and the files of the user. -/
def boostRun (c : Surroundings) (f : CommandFacts) (pid : UInt32) (w : BoostWorld) :
    BoostWorld × CommandEnd :=
  (runSchedulerCommand f pid).exec boostHandler c w

/-- The threads whose priority differs, each with the priority it had. -/
def Changed (before after : ThreadTable) : Set (UInt32 × Int) :=
  { p | ∃ x ∈ before.threads, ∃ y ∈ after.threads,
    y.threadId = x.threadId ∧ y.priority ≠ x.priority ∧ p = (x.threadId, x.priority) }

/-- The threads of a list that a boost raises: those that read below the target, up to the first one
that refuses. -/
def raisedOf (setError : UInt32 → Option Error) (target : Int) (xs : List OsThread) :
    List OsThread :=
  (xs.filter fun x => shouldRaisePriority x.snapshot.priority target).takeWhile
    fun x => (setError x.threadId).isNone

/-- The threads of the process that the command raises. -/
def raised (pid : UInt32) (t : ThreadTable) : List OsThread :=
  raisedOf t.setError threadPriorityAboveNormal (t.listed pid)

/-- Their ids with the priorities they have, but for those that are at the target already. -/
def originals (pid : UInt32) (t : ThreadTable) : Set (UInt32 × Int) :=
  { p | ∃ x ∈ raised pid t,
    x.priority ≠ threadPriorityAboveNormal ∧ p = (x.threadId, x.priority) }

/-! ## A run of the command -/

section Run

variable (c : Surroundings)

theorem raisedOf_cons_of_skip {setError : UInt32 → Option Error} {target : Int} {x : OsThread}
    {xs : List OsThread} (h : shouldRaisePriority x.snapshot.priority target = false) :
    raisedOf setError target (x :: xs) = raisedOf setError target xs := by
  simp [raisedOf, h]

theorem raisedOf_cons_of_raise {setError : UInt32 → Option Error} {target : Int} {x : OsThread}
    {xs : List OsThread} (h : shouldRaisePriority x.snapshot.priority target = true)
    (hset : setError x.threadId = none) :
    raisedOf setError target (x :: xs) = x :: raisedOf setError target xs := by
  simp [raisedOf, h, hset]

theorem raisedOf_cons_of_refuse {setError : UInt32 → Option Error} {target : Int} {x : OsThread}
    {xs : List OsThread} {e : Error} (h : shouldRaisePriority x.snapshot.priority target = true)
    (hset : setError x.threadId = some e) : raisedOf setError target (x :: xs) = [] := by
  simp [raisedOf, h, hset]

theorem exec_listThreads (h : c.snapshotError = none) (pid : UInt32) (w : BoostWorld) :
    (listThreads pid).exec boostHandler c w =
      (w, .ok ((w.table.listed pid).map OsThread.snapshot)) := by
  simp [listThreads, Prog.perform, Prog.exec, boostHandler, h]

theorem exec_listThreads_failed {e : Error} (h : c.snapshotError = some e) (pid : UInt32)
    (w : BoostWorld) : (listThreads pid).exec boostHandler c w = (w, .error e) := by
  simp [listThreads, Prog.perform, Prog.exec, boostHandler, h]

theorem exec_setPriority {w : BoostWorld} {id : UInt32} (h : w.table.setError id = none)
    (priority : Int) :
    (setPriority id priority).exec boostHandler c w =
      ({ w with table := w.table.raise [id] priority }, .ok ()) := by
  simp [setPriority, Prog.perform, Prog.exec, boostHandler, unlessFailed, h]

theorem exec_setPriority_failed {w : BoostWorld} {id : UInt32} {e : Error}
    (h : w.table.setError id = some e) (priority : Int) :
    (setPriority id priority).exec boostHandler c w = (w, .error e) := by
  simp [setPriority, Prog.perform, Prog.exec, boostHandler, unlessFailed, h]

/-- The loop raises what `raisedOf` names, and reports as many adjustments. -/
theorem exec_boostThreads (target : Int) (xs : List OsThread) (report : BoostReport)
    (w : BoostWorld) :
    ((boostThreads setPriority target (xs.map OsThread.snapshot) report).exec boostHandler c w).1 =
        { w with
          table := w.table.raise
            ((raisedOf w.table.setError target xs).map OsThread.threadId) target } ∧
      ((boostThreads setPriority target (xs.map OsThread.snapshot) report).exec
          boostHandler c w).2.adjusted.length =
        report.adjusted.length + (raisedOf w.table.setError target xs).length := by
  induction xs generalizing report w with
  | nil => simp [boostThreads, raisedOf]
  | cons x xs ih =>
    rw [List.map_cons, boostThreads]
    cases hraise : shouldRaisePriority x.snapshot.priority target with
    | false =>
      rw [raisedOf_cons_of_skip hraise]
      exact ih _ w
    | true =>
      rw [if_pos rfl, Prog.exec_bind]
      cases hset : w.table.setError x.threadId with
      | some e =>
        rw [raisedOf_cons_of_refuse hraise hset, show x.snapshot.threadId = x.threadId from rfl,
          exec_setPriority_failed c hset]
        simp
      | none =>
        rw [raisedOf_cons_of_raise hraise hset, show x.snapshot.threadId = x.threadId from rfl,
          exec_setPriority c hset]
        obtain ⟨hworld, hcount⟩ := ih
          { report with
            adjusted := report.adjusted ++
              [{ threadId := x.threadId
                 originalPriority := x.snapshot.priority
                 appliedPriority := target }] }
          { w with table := w.table.raise [x.threadId] target }
        simp only [ThreadTable.raise_setError, ThreadTable.raise_cons] at hworld
        simp only [ThreadTable.raise_setError, List.length_append, List.length_singleton] at hcount
        refine ⟨hworld, hcount.trans ?_⟩
        rw [List.length_cons]
        omega

/-! ## The lines left behind -/

def DurableFiles.addJournal (files : DurableFiles) (phase : JournalPhase) (operationId : String)
    (ok : Bool) (target detail : String) : DurableFiles :=
  if c.journalError = none then
    { files with
      journal := files.journal ++
        (formatJournalLine c.now phase operationId.toList ok target.toList detail.toList ++ ['\n']) }
  else files

def DurableFiles.addAudit (files : DurableFiles) (record : Audit.AuditRecord) : DurableFiles :=
  if c.auditError = none then
    { files with audit := files.audit ++ (Audit.formatAuditLineAscii c.now record ++ ['\n']) }
  else files

def DurableFiles.addRun (files : DurableFiles) (capabilityId : String) : DurableFiles :=
  if c.ledgerError = none then
    { files with ledger := some (recordedFile files.ledger capabilityId c.nowUnixSeconds) }
  else files

@[simp] theorem addJournal_audit (files : DurableFiles) (phase : JournalPhase)
    (operationId : String) (ok : Bool) (target detail : String) :
    (files.addJournal c phase operationId ok target detail).audit = files.audit := by
  unfold DurableFiles.addJournal
  split <;> rfl

@[simp] theorem addAudit_journal (files : DurableFiles) (record : Audit.AuditRecord) :
    (files.addAudit c record).journal = files.journal := by
  unfold DurableFiles.addAudit
  split <;> rfl

@[simp] theorem addRun_audit (files : DurableFiles) (capabilityId : String) :
    (files.addRun c capabilityId).audit = files.audit := by
  unfold DurableFiles.addRun
  split <;> rfl

@[simp] theorem addRun_journal (files : DurableFiles) (capabilityId : String) :
    (files.addRun c capabilityId).journal = files.journal := by
  unfold DurableFiles.addRun
  split <;> rfl

/-- The files after a run that raised `n` threads. -/
def DurableFiles.afterBoost (files : DurableFiles) (pid : UInt32) (n : Nat) : DurableFiles :=
  ((((files.addJournal c .after "scheduler.boost_priority" true (toString pid.toNat)
      "raise below-AboveNormal threads to AboveNormal").addAudit c
      (auditRecord "scheduler.boost_priority" .r1 (toString pid.toNat) true
        ("adjusted " ++ toString n ++ " thread(s)"))).addJournal c .after "scheduler.boost_priority"
      true (toString pid.toNat) ("adjusted " ++ toString n ++ " thread(s)")).addJournal c .state
      "scheduler.boost_priority" true (toString pid.toNat)
      ("target=" ++ toString threadPriorityAboveNormal)).addRun c kSchedulerTunerCapabilityId

theorem exec_journalAction (operationId target : String) (ok : Bool) (phase : JournalPhase)
    (detail : String) (w : BoostWorld) :
    ((journalAction operationId target ok phase detail).exec boostHandler c w).1 =
      { w with files := w.files.addJournal c phase operationId ok target detail } := by
  cases h : c.journalError <;>
    simp [journalAction, Prog.perform, Prog.exec, boostHandler, unlessFailed,
      DurableFiles.addJournal, h]

theorem exec_appendAudit (operationId : String) (risk : RiskLevel) (target : String) (ok : Bool)
    (detail : String) (w : BoostWorld) :
    ((Prog.perform (CommandCall.appendAudit operationId risk target ok detail) :
        CommandProg (Result Unit)).exec boostHandler c w).1 =
      { w with files := w.files.addAudit c (auditRecord operationId risk target ok detail) } := by
  cases h : c.auditError <;>
    simp [Prog.perform, Prog.exec, boostHandler, unlessFailed, DurableFiles.addAudit, h]

theorem exec_auditAction (operationId : String) (risk : RiskLevel) (target : String) (ok : Bool)
    (detail postState : String) (w : BoostWorld) :
    ((auditAction operationId risk target ok detail postState).exec boostHandler c w).1 =
      { w with
        files := ((w.files.addAudit c (auditRecord operationId risk target ok detail)).addJournal c
          .after operationId ok target detail).addJournal c .state operationId true target
            postState } := by
  rw [auditAction, Prog.exec_bind, exec_appendAudit, Prog.exec_bind, exec_journalAction,
    exec_journalAction]

theorem exec_recordCooldownRun (capabilityId : String) (w : BoostWorld) :
    ((Prog.perform (CommandCall.recordCooldownRun capabilityId) :
        CommandProg (Result Unit)).exec boostHandler c w).1 =
      { w with files := w.files.addRun c capabilityId } := by
  cases h : c.ledgerError <;>
    simp [Prog.perform, Prog.exec, boostHandler, unlessFailed, DurableFiles.addRun, h]

theorem exec_boostProcessThreads (h : c.snapshotError = none) (pid : UInt32) (w : BoostWorld) :
    ∃ report, report.adjusted.length = (raised pid w.table).length ∧
      (boostProcessThreads listThreads setPriority pid threadPriorityAboveNormal).exec boostHandler
          c w =
        ({ w with
          table := w.table.raise ((raised pid w.table).map OsThread.threadId)
            threadPriorityAboveNormal }, .ok report) := by
  obtain ⟨hworld, hcount⟩ := exec_boostThreads c threadPriorityAboveNormal (w.table.listed pid) {} w
  refine ⟨_, hcount.trans (Nat.zero_add _), ?_⟩
  rw [boostProcessThreads, if_neg (by decide), Prog.exec_bind, exec_listThreads c h, Prog.exec_bind]
  exact Prod.ext hworld rfl

/-- A successful run raises the threads of `raised` and writes down how many they were. -/
theorem boostRun_of_success {f : CommandFacts} {pid : UInt32} {w : BoostWorld}
    (h : (boostRun c f pid w).2.exitCode = 0) :
    (boostRun c f pid w).1 =
      { table := w.table.raise ((raised pid w.table).map OsThread.threadId)
          threadPriorityAboveNormal
        files := w.files.afterBoost c pid (raised pid w.table).length } := by
  unfold boostRun runSchedulerCommand at h ⊢
  by_cases hpid : pid = 0
  · rw [if_pos hpid] at h
    exact absurd h (by simp)
  rw [if_neg hpid, Prog.exec_bind] at h ⊢
  cases hs : c.snapshotError with
  | some e =>
    rw [exec_listThreads_failed c hs] at h
    exact absurd h (by simp)
  | none =>
    rw [exec_listThreads c hs] at h ⊢
    dsimp only at h ⊢
    by_cases hgates : (evaluateGates (schedulerGates f)).allowed = false
    · rw [if_pos hgates] at h
      exact absurd h (by simp)
    rw [if_neg hgates] at h ⊢
    obtain ⟨report, hcount, hboost⟩ := exec_boostProcessThreads c hs pid w
    rw [Prog.exec_bind, hboost]
    dsimp only
    rw [hcount, Prog.exec_bind, exec_journalAction, Prog.exec_bind, exec_auditAction,
      Prog.exec_bind, exec_recordCooldownRun]
    split <;> rfl

/-! ## What the lines tell -/

theorem sanitized_decimal (n : Nat) : Audit.sanitized (decimal n) = decimal n := by
  unfold Audit.sanitized
  refine (List.map_congr_left fun ch hch => ?_).trans (List.map_id _)
  have hplain : Audit.isControl ch = false := by
    have hdigit := Char.isDigit_iff_toNat.mp (isDigit_of_mem_decimal hch)
    simp only [Audit.isControl, Bool.or_eq_false_iff, decide_eq_false_iff_not, beq_eq_false_iff_ne]
    have hzero : '0'.toNat = 48 := rfl
    have hnine : '9'.toNat = 57 := rfl
    omega
  rw [hplain]
  rfl

theorem sanitized_append (xs ys : Text) :
    Audit.sanitized (xs ++ ys) = Audit.sanitized xs ++ Audit.sanitized ys := List.map_append

/-- The count can be read off the audited detail. -/
theorem adjusted_inj {n m : Nat}
    (h : Audit.sanitized ("adjusted " ++ toString n ++ " thread(s)").toList =
      Audit.sanitized ("adjusted " ++ toString m ++ " thread(s)").toList) : n = m := by
  have hdigits : ∀ k : Nat, (toString k).toList = decimal k := fun k => by simp [decimal, Nat.repr]
  simp only [String.toList_append, hdigits, sanitized_append, sanitized_decimal,
    List.append_cancel_left_eq, List.append_cancel_right_eq] at h
  have hread := leadingDigits_decimal n
  rw [h, leadingDigits_decimal, Option.some.injEq] at hread
  exact hread.symm

/-- The detail ends the audit line. -/
theorem auditLine_detail (now : Option Audit.LocalTime) (record : Audit.AuditRecord) :
    Audit.formatAuditLineAscii now record =
      Audit.formatAuditLineAscii now { record with detail := [] } ++
        Audit.sanitized record.detail := by
  have hnil : Audit.sanitized [] = [] := rfl
  delta Audit.formatAuditLineAscii Audit.auditLineFields
  simp only [List.append_assoc, List.cons_append, hnil, List.nil_append]

theorem journalLine_detail (now : Option Audit.LocalTime) (phase : JournalPhase)
    (operationId : Text) (ok : Bool) (target detail : Text) :
    formatJournalLine now phase operationId ok target detail =
      formatJournalLine now phase operationId ok target [] ++ Audit.sanitized detail := by
  have hnil : Audit.sanitized [] = [] := rfl
  simp only [formatJournalLine, List.append_assoc, List.cons_append, hnil, List.nil_append]

section Files

variable (files : DurableFiles) (pid : UInt32) (n : Nat)

/-- The count stands at one place of the audit file, between texts it does not change. -/
theorem audit_afterBoost (h : c.auditError = none) :
    ∃ before after : Text, ∀ n, (files.afterBoost c pid n).audit =
      before ++ (Audit.sanitized ("adjusted " ++ toString n ++ " thread(s)").toList ++ after) := by
  refine ⟨files.audit ++ Audit.formatAuditLineAscii c.now
    { auditRecord "scheduler.boost_priority" .r1 (toString pid.toNat) true "" with detail := [] },
    ['\n'], fun n => ?_⟩
  simp only [DurableFiles.afterBoost, addRun_audit, addJournal_audit, DurableFiles.addAudit, if_pos h]
  rw [auditLine_detail]
  simp only [List.append_assoc, auditRecord]

/-- So it does in the journal. -/
theorem journal_afterBoost (h : c.journalError = none) :
    ∃ before after : Text, ∀ n, (files.afterBoost c pid n).journal =
      before ++ (Audit.sanitized ("adjusted " ++ toString n ++ " thread(s)").toList ++ after) := by
  refine ⟨files.journal ++ (formatJournalLine c.now .after "scheduler.boost_priority".toList true
      (toString pid.toNat).toList "raise below-AboveNormal threads to AboveNormal".toList ++
      ('\n' :: formatJournalLine c.now .after "scheduler.boost_priority".toList true
        (toString pid.toNat).toList [])),
    '\n' :: (formatJournalLine c.now .state "scheduler.boost_priority".toList true
      (toString pid.toNat).toList ("target=" ++ toString threadPriorityAboveNormal).toList ++ ['\n']),
    fun n => ?_⟩
  simp only [DurableFiles.afterBoost, addRun_journal, addAudit_journal, DurableFiles.addJournal,
    if_pos h]
  rw [journalLine_detail c.now .after _ true _ ("adjusted " ++ toString n ++ " thread(s)").toList]
  simp only [List.append_assoc, List.cons_append, List.nil_append]

theorem afterBoost_of_silent (haudit : c.auditError ≠ none) (hjournal : c.journalError ≠ none)
    (m : Nat) : files.afterBoost c pid n = files.afterBoost c pid m := by
  simp [DurableFiles.afterBoost, DurableFiles.addJournal, DurableFiles.addAudit, haudit, hjournal]

/-- The files show how many threads were raised, if the audit or the journal takes its line. -/
theorem afterBoost_inj {m : Nat} (hwritten : c.auditError = none ∨ c.journalError = none)
    (h : files.afterBoost c pid n = files.afterBoost c pid m) : n = m := by
  rcases hwritten with haudit | hjournal
  · obtain ⟨before, after, hlines⟩ := audit_afterBoost c files pid haudit
    have heq := congrArg DurableFiles.audit h
    rw [hlines, hlines, List.append_cancel_left_eq, List.append_cancel_right_eq] at heq
    exact adjusted_inj heq
  · obtain ⟨before, after, hlines⟩ := journal_afterBoost c files pid hjournal
    have heq := congrArg DurableFiles.journal h
    rw [hlines, hlines, List.append_cancel_left_eq, List.append_cancel_right_eq] at heq
    exact adjusted_inj heq

end Files

end Run

/-! ## What the files leave open -/

theorem priority_raise (ids : List UInt32) (priority : Int) (x : OsThread) :
    (x.raise ids priority).priority = if x.threadId ∈ ids then priority else x.priority := by
  unfold OsThread.raise
  split <;> rfl

/-- An id of the table stands for one of its threads. -/
theorem ThreadTable.eq_of_threadId {t : ThreadTable} {x y : OsThread} (hx : x ∈ t.threads)
    (hy : y ∈ t.threads) (h : y.threadId = x.threadId) : y = x :=
  List.inj_on_of_nodup_map t.nodup hy hx h

theorem mem_changed_raise {t : ThreadTable} {ids : List UInt32} {priority : Int}
    {p : UInt32 × Int} :
    p ∈ Changed t (t.raise ids priority) ↔
      ∃ x ∈ t.threads, x.threadId ∈ ids ∧ x.priority ≠ priority ∧ p = (x.threadId, x.priority) := by
  constructor
  · rintro ⟨x, hx, y, hy, hid, hne, rfl⟩
    obtain ⟨z, hz, rfl⟩ := List.mem_map.mp hy
    rw [OsThread.raise_threadId] at hid
    obtain rfl := ThreadTable.eq_of_threadId hx hz hid
    rw [priority_raise] at hne
    by_cases hmem : z.threadId ∈ ids
    · rw [if_pos hmem] at hne
      exact ⟨z, hz, hmem, hne.symm, rfl⟩
    · rw [if_neg hmem] at hne
      exact absurd rfl hne
  · rintro ⟨x, hx, hmem, hne, rfl⟩
    refine ⟨x, hx, x.raise ids priority, List.mem_map_of_mem hx, by simp, ?_, rfl⟩
    rw [priority_raise, if_pos hmem]
    exact hne.symm

theorem mem_threads_of_raised {pid : UInt32} {t : ThreadTable} {x : OsThread}
    (h : x ∈ raised pid t) : x ∈ t.threads :=
  List.mem_of_mem_filter (List.mem_of_mem_filter ((List.takeWhile_sublist _).subset h))

/-- What a boost changes can be read off the table before. -/
theorem changed_raised (pid : UInt32) (t : ThreadTable) :
    Changed t (t.raise ((raised pid t).map OsThread.threadId) threadPriorityAboveNormal) =
      originals pid t := by
  ext p
  rw [mem_changed_raise]
  constructor
  · rintro ⟨x, hx, hmem, hne, rfl⟩
    obtain ⟨y, hy, hid⟩ := List.mem_map.mp hmem
    obtain rfl := ThreadTable.eq_of_threadId hx (mem_threads_of_raised hy) hid
    exact ⟨y, hy, hne, rfl⟩
  · rintro ⟨x, hx, hne, rfl⟩
    exact ⟨x, mem_threads_of_raised hx, List.mem_map_of_mem hx, hne, rfl⟩

theorem changed_boostRun {c : Surroundings} {f : CommandFacts} {pid : UInt32} {w : BoostWorld}
    (h : (boostRun c f pid w).2.exitCode = 0) :
    Changed w.table (boostRun c f pid w).1.table = originals pid w.table := by
  rw [boostRun_of_success c h, changed_raised]

theorem files_boostRun {c : Surroundings} {f : CommandFacts} {pid : UInt32} {w : BoostWorld}
    (h : (boostRun c f pid w).2.exitCode = 0) :
    (boostRun c f pid w).1.files = w.files.afterBoost c pid (raised pid w.table).length := by
  rw [boostRun_of_success c h]

/-- Two runs that succeed, in the same surroundings and on the same files, leave different files
behind different changes exactly if they change the same, or raise different numbers of threads and
get one of the two lines with the number written. -/
theorem originals_recoverable_iff (c : Surroundings) (f : CommandFacts) (pid : UInt32)
    (files : DurableFiles) (t₁ t₂ : ThreadTable)
    (h₁ : (boostRun c f pid ⟨t₁, files⟩).2.exitCode = 0)
    (h₂ : (boostRun c f pid ⟨t₂, files⟩).2.exitCode = 0) :
    (Changed t₁ (boostRun c f pid ⟨t₁, files⟩).1.table ≠
        Changed t₂ (boostRun c f pid ⟨t₂, files⟩).1.table →
      (boostRun c f pid ⟨t₁, files⟩).1.files ≠ (boostRun c f pid ⟨t₂, files⟩).1.files) ↔
    originals pid t₁ = originals pid t₂ ∨
      (raised pid t₁).length ≠ (raised pid t₂).length ∧
        (c.auditError = none ∨ c.journalError = none) := by
  rw [changed_boostRun h₁, changed_boostRun h₂, files_boostRun h₁, files_boostRun h₂]
  constructor
  · intro h
    by_cases hsame : originals pid t₁ = originals pid t₂
    · exact .inl hsame
    · refine .inr ⟨fun hcount => ?_, ?_⟩
      · exact h hsame (congrArg (files.afterBoost c pid) hcount)
      · by_contra hsilent
        rw [not_or] at hsilent
        exact h hsame (afterBoost_of_silent c files pid _ hsilent.1 hsilent.2 _)
  · rintro (hsame | ⟨hcount, hwritten⟩) hne hfiles
    · exact hne hsame
    · exact hcount (afterBoost_inj c files pid _ hwritten hfiles)

/-- Facts that open every gate of the scheduler. -/
def openFacts : CommandFacts :=
  { switches := { schedulerTuner := some 1 }
    config := some { scheduler := { enabled := true } }
    acknowledged := true
    auditWritable := true }

/-- Process 42 with one thread of the given priority. -/
def oneThread (priority : Int) : ThreadTable :=
  { threads := [{ threadId := 7, ownerProcessId := 42, priority := priority }]
    nodup := List.nodup_singleton _ }

theorem originals_oneThread_ne {p q : Int} (hp : p < threadPriorityAboveNormal) (hne : p ≠ q) :
    originals 42 (oneThread p) ≠ originals 42 (oneThread q) := by
  intro heq
  have hmem : ((7 : UInt32), p) ∈ originals 42 (oneThread p) := by
    refine ⟨{ threadId := 7, ownerProcessId := 42, priority := p }, ?_, ne_of_lt hp, rfl⟩
    simp [raised, raisedOf, ThreadTable.listed, oneThread, OsThread.snapshot, shouldRaisePriority, hp]
  rw [heq] at hmem
  obtain ⟨x, hx, -, hpair⟩ := hmem
  have hx := mem_threads_of_raised hx
  simp only [oneThread, List.mem_singleton] at hx
  subst hx
  exact hne (Prod.mk.inj hpair).2

theorem number_tells_apart :
    (boostRun {} openFacts 42 ⟨oneThread 0, {}⟩).1.files ≠
      (boostRun {} openFacts 42 ⟨oneThread 2, {}⟩).1.files := by
  refine (originals_recoverable_iff {} openFacts 42 {} (oneThread 0) (oneThread 2) (by decide)
    (by decide)).mpr (.inr ⟨by decide, .inl rfl⟩) ?_
  rw [changed_boostRun (w := ⟨oneThread 0, {}⟩) (by decide),
    changed_boostRun (w := ⟨oneThread 2, {}⟩) (by decide)]
  exact originals_oneThread_ne (by decide) (by decide)

/-- A thread at 0 and a thread at -1 leave the same lines behind. -/
theorem original_priority_lost :
    ¬ ∀ (c : Surroundings) (f : CommandFacts) (pid : UInt32) (files : DurableFiles)
      (t₁ t₂ : ThreadTable),
      (boostRun c f pid ⟨t₁, files⟩).2.exitCode = 0 →
      (boostRun c f pid ⟨t₂, files⟩).2.exitCode = 0 →
      Changed t₁ (boostRun c f pid ⟨t₁, files⟩).1.table ≠
        Changed t₂ (boostRun c f pid ⟨t₂, files⟩).1.table →
      (boostRun c f pid ⟨t₁, files⟩).1.files ≠ (boostRun c f pid ⟨t₂, files⟩).1.files := by
  intro h
  refine h {} openFacts 42 {} (oneThread 0) (oneThread (-1)) (by decide) (by decide) ?_ ?_
  · rw [changed_boostRun (w := ⟨oneThread 0, {}⟩) (by decide),
      changed_boostRun (w := ⟨oneThread (-1), {}⟩) (by decide)]
    exact originals_oneThread_ne (by decide) (by decide)
  · rw [files_boostRun (w := ⟨oneThread 0, {}⟩) (by decide),
      files_boostRun (w := ⟨oneThread (-1), {}⟩) (by decide)]
    exact congrArg (DurableFiles.afterBoost {} {} 42) (by decide)

end Command
end CppOptimizer
