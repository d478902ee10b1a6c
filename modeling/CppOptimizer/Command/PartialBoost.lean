import Mathlib.Data.List.TakeWhile
import CppOptimizer.Command.BoostOutputs

/-!
# CppOptimizer.Command.PartialBoost

What `--scheduler <pid> --execute` says about a boost that stopped half way.

* `boostCalls`      — the calls a run of the command makes.
* `ClaimsSuccess`   — a line of the audit or of the journal with ok = true is among them.
* `SetFailed`       — a write of a priority failed.
* `ReportsHonestly` — success is claimed only when every thread of the list that was below the target
  has been raised, and a failed write shows in the lines and in the exit code.

`BoostProcessThreads` hands back a shorter list and a success when a write fails, and the command
does not compare the list with the threads it has just shown.
-/

namespace CppOptimizer
namespace Command

open Common Config Lib Policy Scheduler

def boostCalls (c : Surroundings) (f : CommandFacts) (pid : UInt32) (w : BoostWorld) :
    List CommandCall :=
  (runSchedulerCommand f pid).calls boostHandler c w

/-- A line with ok = true. -/
def CommandCall.claimsOk : CommandCall → Bool
  | .appendJournal _ _ ok _ _ => ok
  | .appendAudit _ _ _ ok _ => ok
  | _ => false

def ClaimsSuccess (calls : List CommandCall) : Prop := ∃ call ∈ calls, call.claimsOk = true

def SetFailed (t : ThreadTable) (calls : List CommandCall) : Prop :=
  ∃ id priority e, .setPriority id priority ∈ calls ∧ t.setError id = some e

/-- Every thread of the list that was below the target is at it. -/
def AllRaised (pid : UInt32) (before after : ThreadTable) : Prop :=
  ∀ x ∈ before.listed pid, x.snapshot.priority < threadPriorityAboveNormal →
    ∀ y ∈ after.threads, y.threadId = x.threadId → y.priority = threadPriorityAboveNormal

structure ReportsHonestly (c : Surroundings) (f : CommandFacts) (pid : UInt32) (w : BoostWorld) :
    Prop where
  success : ClaimsSuccess (boostCalls c f pid w) →
    AllRaised pid w.table (boostRun c f pid w).1.table
  failure : SetFailed w.table (boostCalls c f pid w) →
    ¬ ClaimsSuccess (boostCalls c f pid w) ∧ (boostRun c f pid w).2.exitCode ≠ 0

/-- The command gets as far as the boost. -/
def ReachesBoost (c : Surroundings) (f : CommandFacts) (pid : UInt32) : Prop :=
  pid ≠ 0 ∧ c.snapshotError = none ∧ (evaluateGates (schedulerGates f)).allowed = true

/-- No write to a listed thread below the target would fail. -/
def AllSettable (pid : UInt32) (t : ThreadTable) : Prop :=
  ∀ x ∈ t.listed pid, x.snapshot.priority < threadPriorityAboveNormal → t.setError x.threadId = none

section Calls

variable (c : Surroundings)

theorem calls_setPriority (id : UInt32) (priority : Int) (w : BoostWorld) :
    (setPriority id priority).calls boostHandler c w = [.setPriority id priority] := rfl

theorem calls_listThreads (pid : UInt32) (w : BoostWorld) :
    (listThreads pid).calls boostHandler c w = [.listThreads pid] := rfl

/-- One turn on a thread below the target: the write, and the rest unless it was refused. -/
theorem calls_boostThreads_cons {target : Int} {x : OsThread} (hbelow : x.snapshot.priority < target)
    (xs : List OsThread) (report : BoostReport) (w : BoostWorld) :
    ∃ report', (boostThreads setPriority target ((x :: xs).map OsThread.snapshot) report).calls
        boostHandler c w =
      .setPriority x.threadId target ::
        match w.table.setError x.threadId with
        | some _ => []
        | none =>
          (boostThreads setPriority target (xs.map OsThread.snapshot) report').calls boostHandler c
            { w with table := w.table.raise [x.threadId] target } := by
  have hraise : shouldRaisePriority x.snapshot.priority target = true := by
    simpa [shouldRaisePriority] using hbelow
  rw [List.map_cons, boostThreads, if_pos hraise, Prog.calls_bind, calls_setPriority]
  cases hset : w.table.setError x.threadId with
  | some e =>
    rw [show x.snapshot.threadId = x.threadId from rfl, exec_setPriority_failed c hset]
    exact ⟨report, rfl⟩
  | none =>
    rw [show x.snapshot.threadId = x.threadId from rfl, exec_setPriority c hset]
    exact ⟨_, rfl⟩

theorem calls_boostThreads_skip {target : Int} {x : OsThread}
    (hbelow : ¬ x.snapshot.priority < target) (xs : List OsThread) (report : BoostReport)
    (w : BoostWorld) :
    (boostThreads setPriority target ((x :: xs).map OsThread.snapshot) report).calls boostHandler c w =
      (boostThreads setPriority target (xs.map OsThread.snapshot)
        { report with skipped := report.skipped + 1 }).calls boostHandler c w := by
  have hskip : ¬ shouldRaisePriority x.snapshot.priority target = true := by
    simpa [shouldRaisePriority] using hbelow
  rw [List.map_cons, boostThreads, if_neg hskip]

/-- The calls of the loop are writes to threads below the target. -/
theorem mem_calls_boostThreads {target : Int} {xs : List OsThread} {report : BoostReport}
    {w : BoostWorld} {call : CommandCall}
    (h : call ∈ (boostThreads setPriority target (xs.map OsThread.snapshot) report).calls
      boostHandler c w) :
    ∃ x ∈ xs, x.snapshot.priority < target ∧ call = .setPriority x.threadId target := by
  induction xs generalizing report w with
  | nil => cases h
  | cons x xs ih =>
    by_cases hbelow : x.snapshot.priority < target
    · obtain ⟨report', hcalls⟩ := calls_boostThreads_cons c hbelow xs report w
      rw [hcalls] at h
      rcases List.mem_cons.mp h with rfl | h
      · exact ⟨x, List.mem_cons_self, hbelow, rfl⟩
      · split at h
        · cases h
        · obtain ⟨y, hy, hcall⟩ := ih h
          exact ⟨y, List.mem_cons_of_mem _ hy, hcall⟩
    · rw [calls_boostThreads_skip c hbelow] at h
      obtain ⟨y, hy, hcall⟩ := ih h
      exact ⟨y, List.mem_cons_of_mem _ hy, hcall⟩

/-- A thread that refuses is met, or another one before it. -/
theorem setFailed_boostThreads {target : Int} {xs : List OsThread} (report : BoostReport)
    (w : BoostWorld) {x : OsThread} (hx : x ∈ xs) (hbelow : x.snapshot.priority < target)
    {e : Error} (hset : w.table.setError x.threadId = some e) :
    SetFailed w.table ((boostThreads setPriority target (xs.map OsThread.snapshot) report).calls
      boostHandler c w) := by
  induction xs generalizing report w with
  | nil => cases hx
  | cons y xs ih =>
    by_cases hy : y.snapshot.priority < target
    · obtain ⟨report', hcalls⟩ := calls_boostThreads_cons c hy xs report w
      rw [hcalls]
      cases hfirst : w.table.setError y.threadId with
      | some e' => exact ⟨y.threadId, target, e', List.mem_cons_self, hfirst⟩
      | none =>
        have hx' : x ∈ xs := by
          rcases List.mem_cons.mp hx with rfl | hx'
          · rw [hset] at hfirst
            cases hfirst
          · exact hx'
        obtain ⟨id, p, e', hmem, hfail⟩ :=
          ih report' { w with table := w.table.raise [y.threadId] target } hx' hset
        exact ⟨id, p, e', List.mem_cons_of_mem _ hmem, hfail⟩
    · rw [calls_boostThreads_skip c hy]
      have hx' : x ∈ xs := by
        rcases List.mem_cons.mp hx with rfl | hx'
        · exact absurd hbelow hy
        · exact hx'
      exact ih _ w hx' hset

end Calls

/-- The lines after the boost, with the report's number of threads. -/
def reportCalls (pid : UInt32) (n : Nat) : List CommandCall :=
  [.appendJournal .after "scheduler.boost_priority" true (toString pid.toNat)
      "raise below-AboveNormal threads to AboveNormal",
    .appendAudit "scheduler.boost_priority" .r1 (toString pid.toNat) true
      ("adjusted " ++ toString n ++ " thread(s)"),
    .appendJournal .after "scheduler.boost_priority" true (toString pid.toNat)
      ("adjusted " ++ toString n ++ " thread(s)"),
    .appendJournal .state "scheduler.boost_priority" true (toString pid.toNat)
      ("target=" ++ toString threadPriorityAboveNormal),
    .recordCooldownRun kSchedulerTunerCapabilityId]

section Command

variable {c : Surroundings} {f : CommandFacts} {pid : UInt32}

/-- A command that does not get as far only lists the threads. -/
theorem calls_of_not_reached (h : ¬ ReachesBoost c f pid) (w : BoostWorld) :
    boostCalls c f pid w ⊆ [.listThreads pid] := by
  rw [boostCalls, runSchedulerCommand]
  by_cases hpid : pid = 0
  · rw [if_pos hpid]
    exact List.nil_subset _
  · rw [if_neg hpid, Prog.calls_bind, calls_listThreads]
    cases hs : c.snapshotError with
    | some e =>
      rw [exec_listThreads_failed c hs]
      simp
    | none =>
      have hgates : (evaluateGates (schedulerGates f)).allowed = false := by
        by_contra hallowed
        exact h ⟨hpid, hs, Bool.not_eq_false _ ▸ hallowed⟩
      rw [exec_listThreads c hs]
      dsimp only
      rw [if_pos hgates]
      simp

/-- The boost, and then the lines of a success. -/
theorem calls_of_reached (h : ReachesBoost c f pid) (w : BoostWorld) :
    ∃ n, boostCalls c f pid w = [.listThreads pid] ++ ([.listThreads pid] ++
        (boostThreads setPriority threadPriorityAboveNormal ((w.table.listed pid).map OsThread.snapshot)
          {}).calls boostHandler c w ++ reportCalls pid n) ∧
      (boostRun c f pid w).2.exitCode = 0 := by
  obtain ⟨hpid, hs, hallowed⟩ := h
  have hgates : ¬ (evaluateGates (schedulerGates f)).allowed = false := by rw [hallowed]; decide
  obtain ⟨report, _, hboost⟩ := exec_boostProcessThreads c hs pid w
  have hcalls : (boostProcessThreads listThreads setPriority pid threadPriorityAboveNormal).calls
      boostHandler c w = [.listThreads pid] ++ (boostThreads setPriority threadPriorityAboveNormal
        ((w.table.listed pid).map OsThread.snapshot) {}).calls boostHandler c w := by
    rw [boostProcessThreads, if_neg (by decide), Prog.calls_bind, calls_listThreads,
      exec_listThreads c hs, Prog.calls_bind]
    simp
  refine ⟨report.adjusted.length, ?_, ?_⟩
  · rw [boostCalls, runSchedulerCommand, if_neg hpid, Prog.calls_bind, calls_listThreads,
      exec_listThreads c hs]
    dsimp only
    rw [if_neg hgates, Prog.calls_bind, hboost, hcalls]
    dsimp only
    rw [Prog.calls_bind, Prog.calls_bind, Prog.calls_bind]
    split <;> rfl
  · rw [boostRun, runSchedulerCommand, if_neg hpid, Prog.exec_bind, exec_listThreads c hs]
    dsimp only
    rw [if_neg hgates, Prog.exec_bind, hboost]
    dsimp only
    rw [Prog.exec_bind, Prog.exec_bind, Prog.exec_bind]
    split <;> rfl

theorem claimsSuccess_of_reached (h : ReachesBoost c f pid) (w : BoostWorld) :
    ClaimsSuccess (boostCalls c f pid w) := by
  obtain ⟨n, hcalls, _⟩ := calls_of_reached h w
  refine ⟨.appendAudit "scheduler.boost_priority" .r1 (toString pid.toNat) true
    ("adjusted " ++ toString n ++ " thread(s)"), ?_, rfl⟩
  rw [hcalls]
  simp [reportCalls]

theorem setFailed_of_reached (h : ReachesBoost c f pid) {w : BoostWorld}
    (hset : ¬ AllSettable pid w.table) : SetFailed w.table (boostCalls c f pid w) := by
  simp only [AllSettable, not_forall] at hset
  obtain ⟨x, hx, hbelow, hrefuses⟩ := hset
  obtain ⟨e, he⟩ := Option.ne_none_iff_exists'.mp hrefuses
  obtain ⟨n, hcalls, _⟩ := calls_of_reached h w
  obtain ⟨id, p, e', hmem, hfail⟩ := setFailed_boostThreads c {} w hx hbelow he
  refine ⟨id, p, e', ?_, hfail⟩
  rw [hcalls]
  simp [hmem]

/-- A write that fails goes to a thread below the target. -/
theorem not_setFailed_of_settable {w : BoostWorld} (hset : AllSettable pid w.table) :
    ¬ SetFailed w.table (boostCalls c f pid w) := by
  rintro ⟨id, p, e, hmem, hfail⟩
  by_cases h : ReachesBoost c f pid
  · obtain ⟨n, hcalls, _⟩ := calls_of_reached h w
    have hboost : .setPriority id p ∈ (boostThreads setPriority threadPriorityAboveNormal
        ((w.table.listed pid).map OsThread.snapshot) {}).calls boostHandler c w := by
      rw [hcalls] at hmem
      simpa [reportCalls] using hmem
    obtain ⟨x, hx, hbelow, hcall⟩ := mem_calls_boostThreads c hboost
    cases hcall
    rw [hset x hx hbelow] at hfail
    cases hfail
  · have hlist := calls_of_not_reached h w hmem
    simp at hlist

theorem mem_raised_of_settable {t : ThreadTable} (hset : AllSettable pid t) {x : OsThread}
    (hx : x ∈ t.listed pid) (hbelow : x.snapshot.priority < threadPriorityAboveNormal) :
    x ∈ raised pid t := by
  have hall : raised pid t = (t.listed pid).filter fun x =>
      shouldRaisePriority x.snapshot.priority threadPriorityAboveNormal := by
    refine List.takeWhile_eq_self_iff.mpr fun y hy => ?_
    obtain ⟨hy, hraise⟩ := List.mem_filter.mp hy
    rw [hset y hy (by simpa [shouldRaisePriority] using hraise)]
    rfl
  rw [hall]
  exact List.mem_filter.mpr ⟨hx, by simpa [shouldRaisePriority] using hbelow⟩

theorem allRaised_of_settable (h : ReachesBoost c f pid) {w : BoostWorld}
    (hset : AllSettable pid w.table) : AllRaised pid w.table (boostRun c f pid w).1.table := by
  obtain ⟨_, _, hexit⟩ := calls_of_reached h w
  rw [boostRun_of_success c hexit]
  intro x hx hbelow y hy hid
  obtain ⟨z, _, rfl⟩ := List.mem_map.mp hy
  rw [OsThread.raise_threadId] at hid
  rw [priority_raise, if_pos]
  rw [hid]
  exact List.mem_map_of_mem (mem_raised_of_settable hset hx hbelow)

/-- The command reports honestly exactly if it does not get as far as the boost, or no thread below
the target refuses the write. -/
theorem reports_honestly_iff (c : Surroundings) (f : CommandFacts) (pid : UInt32) (w : BoostWorld) :
    ReportsHonestly c f pid w ↔ (ReachesBoost c f pid → AllSettable pid w.table) := by
  constructor
  · intro h hreached
    by_contra hset
    exact (h.failure (setFailed_of_reached hreached hset)).1 (claimsSuccess_of_reached hreached w)
  · intro h
    by_cases hreached : ReachesBoost c f pid
    · exact ⟨fun _ => allRaised_of_settable hreached (h hreached),
        fun hfailed => absurd hfailed (not_setFailed_of_settable (h hreached))⟩
    · have hcalls := calls_of_not_reached hreached w
      refine ⟨?_, ?_⟩
      · rintro ⟨call, hmem, hok⟩
        rw [List.mem_singleton.mp (hcalls hmem)] at hok
        cases hok
      · rintro ⟨id, p, e, hmem, _⟩
        cases List.mem_singleton.mp (hcalls hmem)

end Command

/-- Process 42 with two threads below the target, the second of which refuses. -/
def refusingThread : ThreadTable :=
  { threads := [{ threadId := 7, ownerProcessId := 42 }, { threadId := 8, ownerProcessId := 42 }]
    nodup := by decide
    setError := fun id => if id = 8 then some (.fromWin32 5 "SetThreadPriority") else none }

/-- One of two threads is raised, and the command reports a success. -/
theorem partial_boost_reported_ok :
    SetFailed refusingThread (boostCalls {} openFacts 42 ⟨refusingThread, {}⟩) ∧
      ClaimsSuccess (boostCalls {} openFacts 42 ⟨refusingThread, {}⟩) ∧
      (boostRun {} openFacts 42 ⟨refusingThread, {}⟩).2.exitCode = 0 := by
  have hreached : ReachesBoost {} openFacts 42 := ⟨by decide, rfl, by decide⟩
  have hrefuses : ¬ AllSettable 42 refusingThread := by
    intro hset
    have h := hset { threadId := 8, ownerProcessId := 42 } (by decide) (by decide)
    cases h
  obtain ⟨_, _, hexit⟩ := calls_of_reached hreached ⟨refusingThread, {}⟩
  exact ⟨setFailed_of_reached hreached hrefuses, claimsSuccess_of_reached hreached _, hexit⟩

end Command
end CppOptimizer
