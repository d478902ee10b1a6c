import CppOptimizer.Policy.Cooldown

/-!
# CppOptimizer.Policy.LedgerRuns

The cooldown ledger over whole sequences of `RecordCooldownRun`, each of which reads the file, merges
its run and writes the file again.

* `ledgerFile runs`  — the file after the calls, from no file on.
* `recordedTimes`    — the positive clock readings that were recorded for a capability.
* `find?_ledgerFile` — the ledger holds the latest of them and nothing else.
* `ledger_of_runs`   — the same, with what a further call leaves alone and when the gate is open.

The gate stays closed while the clock is behind the last run, whatever the cooldown is.
-/

namespace CppOptimizer
namespace Policy

open Common Lib

structure CooldownRun where
  capabilityId : String
  nowUnixSeconds : Int
  deriving DecidableEq, Repr

/-- A call that the file can carry: an id that stays in its line and a clock reading of 64 bits. -/
structure CooldownRun.Valid (run : CooldownRun) : Prop where
  nonempty : run.capabilityId ≠ ""
  plain : PlainId run.capabilityId
  time : IsInt64 run.nowUnixSeconds

def recordRun (file : Option Text) (run : CooldownRun) : Option Text :=
  some (recordedFile file run.capabilityId run.nowUnixSeconds)

def ledgerFile (runs : List CooldownRun) : Option Text := runs.foldl recordRun none

def recordedTimes (capabilityId : String) (runs : List CooldownRun) : List Int :=
  (runs.filter fun run => run.capabilityId = capabilityId ∧ 0 < run.nowUnixSeconds).map
    (·.nowUnixSeconds)

/-! ## One call -/

theorem ledgerFile_append (runs : List CooldownRun) (run : CooldownRun) :
    ledgerFile (runs ++ [run]) = recordRun (ledgerFile runs) run := by
  simp [ledgerFile]

theorem read_recordRun (file : Option Text) {run : CooldownRun} (h : run.Valid) :
    readCooldownLedger (recordRun file run) =
      withCooldownRun (readCooldownLedger file) run.capabilityId run.nowUnixSeconds :=
  read_recordedFile file h.plain h.time

/-- The later of the last run and a new one. -/
def latest (last : Option Int) (now : Int) : Option Int :=
  match last with
  | none => some now
  | some last => some (max last now)

theorem max?_append_singleton (xs : List Int) (x : Int) : (xs ++ [x]).max? = latest xs.max? x := by
  cases xs with
  | nil => rfl
  | cons y ys =>
    rw [List.cons_append, List.max?_cons', List.max?_cons', List.foldl_append]
    rfl

/-- What a call records for its capability. -/
theorem find?_withCooldownRun {ledger : CooldownLedger} {capabilityId : String} (now : Int)
    (h : capabilityId ≠ "") :
    (withCooldownRun ledger capabilityId now).lastRunUnixSeconds.find? capabilityId =
      if 0 < now then latest (ledger.lastRunUnixSeconds.find? capabilityId) now
      else ledger.lastRunUnixSeconds.find? capabilityId := by
  unfold withCooldownRun
  by_cases hnow : 0 < now
  · rw [if_pos hnow, if_neg (not_or.mpr ⟨h, by omega⟩)]
    split
    · case _ last hlast =>
      rw [hlast]
      split
      · case _ hlater => rw [hlast, latest, max_eq_left (le_of_lt hlater)]
      · case _ hlater =>
        rw [SortedMap.find?_insert_self, latest, max_eq_right (not_lt.mp hlater)]
    · case _ hnone =>
      rw [hnone]
      exact SortedMap.find?_insert_self _ _ _
  · rw [if_neg hnow, if_pos (.inr (by omega))]

theorem recordedTimes_append (capabilityId : String) (runs : List CooldownRun) (run : CooldownRun) :
    recordedTimes capabilityId (runs ++ [run]) = recordedTimes capabilityId runs ++
      if run.capabilityId = capabilityId ∧ 0 < run.nowUnixSeconds then [run.nowUnixSeconds]
      else [] := by
  rw [recordedTimes, List.filter_append, List.map_append]
  split
  · case _ h => simp [recordedTimes, h]
  · case _ h => simp [recordedTimes, h]

/-! ## Whole runs -/

/-- The ledger maps a capability to the latest of its positive times. -/
theorem find?_ledgerFile {runs : List CooldownRun} (h : ∀ run ∈ runs, run.Valid)
    (capabilityId : String) :
    (readCooldownLedger (ledgerFile runs)).lastRunUnixSeconds.find? capabilityId =
      (recordedTimes capabilityId runs).max? := by
  induction runs using List.reverseRecOn with
  | nil => rfl
  | append_singleton runs run ih =>
    have hrun : run.Valid := h run (by simp)
    have hlast := ih fun r hr => h r (List.mem_append_left _ hr)
    rw [ledgerFile_append, read_recordRun _ hrun, recordedTimes_append]
    by_cases hid : run.capabilityId = capabilityId
    · subst hid
      rw [find?_withCooldownRun _ hrun.nonempty, hlast]
      by_cases hnow : 0 < run.nowUnixSeconds
      · rw [if_pos hnow, if_pos ⟨rfl, hnow⟩, max?_append_singleton]
      · rw [if_neg hnow, if_neg fun hboth => hnow hboth.2, List.append_nil]
    · rw [withCooldownRun_of_ne fun heq => hid heq.symm, hlast, if_neg fun hboth => hid hboth.1,
        List.append_nil]

theorem pos_of_max?_recordedTimes {capabilityId : String} {runs : List CooldownRun} {last : Int}
    (h : (recordedTimes capabilityId runs).max? = some last) : 0 < last := by
  obtain ⟨run, hrun, rfl⟩ := List.mem_map.mp (List.max?_mem h)
  have hpositive := (List.mem_filter.mp hrun).2
  simp only [decide_eq_true_eq] at hpositive
  exact hpositive.2

/-- The gate in terms of the last run of the ledger. -/
theorem evaluateCooldownGate_iff {ledger : CooldownLedger} {capabilityId : String}
    (hpos : ∀ last, ledger.lastRunUnixSeconds.find? capabilityId = some last → 0 < last)
    (now cooldown : Int) :
    evaluateCooldownGate ledger capabilityId now cooldown = true ↔
      ∀ last, ledger.lastRunUnixSeconds.find? capabilityId = some last →
        last ≤ now ∧ last + cooldown ≤ now := by
  unfold evaluateCooldownGate
  cases hfind : ledger.lastRunUnixSeconds.find? capabilityId with
  | none => simp
  | some last =>
    have hlast := hpos last hfind
    simp only [Option.some.injEq, forall_eq']
    rw [if_neg (by omega)]
    split
    · simp only [Bool.false_eq_true, false_iff]
      omega
    · simp only [ge_iff_le, decide_eq_true_eq]
      omega

/-- The ledger and its gate after any sequence of successful calls that starts without a file. -/
theorem ledger_of_runs {runs : List CooldownRun} (h : ∀ run ∈ runs, run.Valid)
    (capabilityId : String) :
    (readCooldownLedger (ledgerFile runs)).lastRunUnixSeconds.find? capabilityId =
        (recordedTimes capabilityId runs).max? ∧
    (∀ run : CooldownRun, run.Valid → run.capabilityId ≠ capabilityId →
      (readCooldownLedger (ledgerFile (runs ++ [run]))).lastRunUnixSeconds.find? capabilityId =
        (readCooldownLedger (ledgerFile runs)).lastRunUnixSeconds.find? capabilityId) ∧
    ∀ now cooldown : Int, 0 ≤ now →
      (evaluateCooldownGate (readCooldownLedger (ledgerFile runs)) capabilityId now cooldown = true ↔
        ∀ last, (recordedTimes capabilityId runs).max? = some last →
          last ≤ now ∧ last + cooldown ≤ now) := by
  have hfind := find?_ledgerFile h capabilityId
  refine ⟨hfind, fun run hrun hne => ?_, fun now cooldown _ => ?_⟩
  · rw [ledgerFile_append, read_recordRun _ hrun]
    exact withCooldownRun_of_ne fun heq => hne heq.symm
  · rw [← hfind]
    refine evaluateCooldownGate_iff (fun last hlast => ?_) now cooldown
    exact pos_of_max?_recordedTimes (hfind ▸ hlast)

/-- Two runs with the clock set back in between: the later one stays. -/
theorem ledger_of_runs_clock_back :
    (∀ run ∈ [CooldownRun.mk "memory.clean" 500, ⟨"memory.clean", 20⟩], run.Valid) ∧
    (evaluateCooldownGate
        (readCooldownLedger (ledgerFile [⟨"memory.clean", 500⟩, ⟨"memory.clean", 20⟩]))
        "memory.clean" 1400 900 = true ↔
      ∀ last, (recordedTimes "memory.clean"
          [⟨"memory.clean", 500⟩, ⟨"memory.clean", 20⟩]).max? = some last →
        last ≤ 1400 ∧ last + 900 ≤ 1400) := by
  have hvalid : ∀ run ∈ [CooldownRun.mk "memory.clean" 500, ⟨"memory.clean", 20⟩], run.Valid := by
    simp only [List.forall_mem_cons]
    exact ⟨⟨by decide, by decide, by decide⟩, ⟨by decide, by decide, by decide⟩, by simp⟩
  exact ⟨hvalid, (ledger_of_runs hvalid "memory.clean").2.2 1400 900 (by decide)⟩

/-- A negative cooldown does not open the gate before the last run. -/
theorem closed_behind_last_run :
    let ledger := readCooldownLedger (ledgerFile [⟨"memory.clean", 10⟩])
    (recordedTimes "memory.clean" [⟨"memory.clean", 10⟩]).max? = some 10 ∧ (10 : Int) + -5 ≤ 5 ∧
      evaluateCooldownGate ledger "memory.clean" 5 (-5) = false := by
  decide +kernel

end Policy
end CppOptimizer
