import CppOptimizer.Audit.ReadBack
import Mathlib.Data.List.Nodup

/-!
# CppOptimizer.Audit.Records

The summary of records in memory, beside the summary of their lines.

* `summarizeRecords`  — `SummarizeRecords`, with the first and the last moment.
* `Outcome`           — what both summaries count of a record: its operation and its result.
* `countOutcomes`     — the entries both loops build, read off the outcomes alone.
* `summaries_agree`   — the lines of some records are counted as the records are, and the counts of any
  lines add up.
-/

namespace CppOptimizer
namespace Audit

open Common Lib

/-! ## Records in memory -/

/-- A record with its moment on the steady clock; 0 is a moment that was never set. -/
structure TimedRecord extends AuditRecord where
  recordedAt : Int := 0
  deriving DecidableEq, Repr

structure AuditSummary where
  total : Nat := 0
  ok : Nat := 0
  fail : Nat := 0
  byOperation : List AuditOperationCount := []
  firstAt : Int := 0
  lastAt : Int := 0
  deriving DecidableEq, Repr

/-- What the loop carries: the summary, and whether a moment has been seen. -/
structure RecordScan where
  summary : AuditSummary := {}
  hasTime : Bool := false
  deriving DecidableEq, Repr

/-- The counters and the entry of one record. -/
def AuditSummary.count (summary : AuditSummary) (record : TimedRecord) : AuditSummary :=
  { summary with
    total := summary.total + 1
    ok := if record.ok then summary.ok + 1 else summary.ok
    fail := if record.ok then summary.fail else summary.fail + 1
    byOperation := countOperation record.operationId record.ok summary.byOperation }

def summarizeRecord (scan : RecordScan) (record : TimedRecord) : RecordScan :=
  let summary := scan.summary.count record
  if record.recordedAt = 0 then { scan with summary := summary }
  else
    { summary :=
        { summary with
          firstAt := if !scan.hasTime || record.recordedAt < summary.firstAt then record.recordedAt
            else summary.firstAt
          lastAt := if !scan.hasTime || record.recordedAt > summary.lastAt then record.recordedAt
            else summary.lastAt }
      hasTime := true }

def scanRecords (records : List TimedRecord) : RecordScan := records.foldl summarizeRecord {}

def summarizeRecords (records : List TimedRecord) : AuditSummary := (scanRecords records).summary

/-! ## Entries and outcomes -/

/-- What is counted of a record. -/
structure Outcome where
  operationId : Text
  ok : Bool
  deriving DecidableEq, Repr

def AuditLinePrefix.outcome (p : AuditLinePrefix) : Outcome := ⟨p.operationId, p.ok⟩

def AuditRecord.outcome (record : AuditRecord) : Outcome := ⟨record.operationId, record.ok⟩

def countOutcomes (os : List Outcome) : List AuditOperationCount :=
  os.foldl (fun entries o => countOperation o.operationId o.ok entries) []

def operationIds (entries : List AuditOperationCount) : List Text := entries.map (·.operationId)

/-- All that the entries count. -/
def entriesTotal (entries : List AuditOperationCount) : Nat :=
  (entries.map fun entry => entry.ok + entry.fail).sum

theorem countOutcomes_append (os : List Outcome) (o : Outcome) :
    countOutcomes (os ++ [o]) = countOperation o.operationId o.ok (countOutcomes os) := by
  simp [countOutcomes]

theorem operationIds_cons (entry : AuditOperationCount) (entries : List AuditOperationCount) :
    operationIds (entry :: entries) = entry.operationId :: operationIds entries := rfl

/-- A known operation keeps its place; a new one comes last. -/
theorem operationIds_countOperation (op : Text) (ok : Bool) (entries : List AuditOperationCount) :
    operationIds (countOperation op ok entries) =
      if op ∈ operationIds entries then operationIds entries else operationIds entries ++ [op] := by
  induction entries with
  | nil => simp [countOperation, operationIds, operationId_add]
  | cons entry entries ih =>
    rw [countOperation]
    by_cases hentry : entry.operationId = op
    · rw [if_pos hentry]
      simp [operationIds_cons, operationId_add, hentry]
    · rw [if_neg hentry, operationIds_cons, ih, operationIds_cons]
      have hne : op ≠ entry.operationId := fun h => hentry h.symm
      by_cases hmem : op ∈ operationIds entries
      · rw [if_pos hmem, if_pos (List.mem_cons_of_mem _ hmem)]
      · rw [if_neg hmem, if_neg (List.not_mem_cons_of_ne_of_not_mem hne hmem), List.cons_append]

theorem entriesTotal_countOperation (op : Text) (ok : Bool) (entries : List AuditOperationCount) :
    entriesTotal (countOperation op ok entries) = entriesTotal entries + 1 := by
  have hadd : ∀ entry : AuditOperationCount,
      (entry.add ok).ok + (entry.add ok).fail = entry.ok + entry.fail + 1 := by
    intro entry
    cases ok with
    | true => exact Nat.add_right_comm entry.ok 1 entry.fail
    | false => rfl
  induction entries with
  | nil => simp [countOperation, entriesTotal, hadd]
  | cons entry entries ih =>
    rw [countOperation]
    simp only [entriesTotal] at ih ⊢
    split
    · simp only [List.map_cons, List.sum_cons, hadd]
      omega
    · simp only [List.map_cons, List.sum_cons, ih]
      omega

/-- The operations of the entries, in the order in which they come up. -/
theorem operationIds_countOutcomes (os : List Outcome) :
    operationIds (countOutcomes os) = (os.map (·.operationId)).eraseDups := by
  induction os using List.reverseRecOn with
  | nil => rfl
  | append_singleton os o ih =>
    rw [countOutcomes_append, operationIds_countOperation, ih, List.map_append,
      List.eraseDups_append]
    by_cases hmem : o.operationId ∈ os.map (·.operationId)
    · have hold : [o.operationId].removeAll (os.map (·.operationId)) = [] := by
        simpa [List.removeAll] using hmem
      rw [if_pos (List.mem_eraseDups.mpr hmem), List.map_singleton, hold, List.eraseDups_nil,
        List.append_nil]
    · have hnew : [o.operationId].removeAll (os.map (·.operationId)) = [o.operationId] := by
        simpa [List.removeAll] using hmem
      rw [if_neg fun h => hmem (List.mem_eraseDups.mp h), List.map_singleton, hnew]
      rfl

theorem nodup_operationIds_countOutcomes (os : List Outcome) :
    (operationIds (countOutcomes os)).Nodup := by
  induction os using List.reverseRecOn with
  | nil => exact List.nodup_nil
  | append_singleton os o ih =>
    rw [countOutcomes_append, operationIds_countOperation]
    split
    · exact ih
    · case _ hnew =>
      rw [← List.concat_eq_append]
      exact List.Nodup.concat hnew ih

theorem entriesTotal_countOutcomes (os : List Outcome) :
    entriesTotal (countOutcomes os) = os.length := by
  induction os using List.reverseRecOn with
  | nil => rfl
  | append_singleton os o ih =>
    rw [countOutcomes_append, entriesTotal_countOperation, ih, List.length_append]
    rfl

/-! ## Both summaries count outcomes -/

/-- The counts of some outcomes. -/
structure CountsOf (os : List Outcome) (total ok fail : Nat)
    (byOperation : List AuditOperationCount) : Prop where
  total : total = os.length
  ok : ok = os.countP (·.ok)
  fail : fail = os.countP (!·.ok)
  byOperation : byOperation = countOutcomes os

theorem summarizeRecord_counts (scan : RecordScan) (record : TimedRecord) :
    (summarizeRecord scan record).summary.total = scan.summary.total + 1 ∧
    (summarizeRecord scan record).summary.ok =
      (if record.ok then scan.summary.ok + 1 else scan.summary.ok) ∧
    (summarizeRecord scan record).summary.fail =
      (if record.ok then scan.summary.fail else scan.summary.fail + 1) ∧
    (summarizeRecord scan record).summary.byOperation =
      countOperation record.operationId record.ok scan.summary.byOperation := by
  unfold summarizeRecord
  split <;> exact ⟨rfl, rfl, rfl, rfl⟩

theorem CountsOf.add {os : List Outcome} {total ok fail : Nat}
    {byOperation : List AuditOperationCount} (h : CountsOf os total ok fail byOperation)
    (o : Outcome) :
    CountsOf (os ++ [o]) (total + 1) (if o.ok then ok + 1 else ok)
      (if o.ok then fail else fail + 1) (countOperation o.operationId o.ok byOperation) where
  total := by simp [h.total]
  ok := by cases ho : o.ok <;> simp [h.ok, ho]
  fail := by cases ho : o.ok <;> simp [h.fail, ho]
  byOperation := by rw [countOutcomes_append, h.byOperation]

theorem countsOf_summarizeRecords (records : List TimedRecord) :
    CountsOf (records.map fun record => record.outcome) (summarizeRecords records).total
      (summarizeRecords records).ok (summarizeRecords records).fail
      (summarizeRecords records).byOperation := by
  induction records using List.reverseRecOn with
  | nil => exact ⟨rfl, rfl, rfl, rfl⟩
  | append_singleton records record ih =>
    have hstep : summarizeRecords (records ++ [record]) =
        (summarizeRecord (scanRecords records) record).summary := by
      simp [summarizeRecords, scanRecords]
    obtain ⟨htotal, hok, hfail, hby⟩ := summarizeRecord_counts (scanRecords records) record
    rw [hstep, htotal, hok, hfail, hby, List.map_append]
    exact ih.add record.outcome

theorem countsOf_summarizeAuditLines (ls : List Text) :
    CountsOf ((prefixes ls).map (·.outcome)) (summarizeAuditLines ls).total
      (summarizeAuditLines ls).ok (summarizeAuditLines ls).fail
      (summarizeAuditLines ls).byOperation := by
  induction ls using List.reverseRecOn with
  | nil => exact ⟨rfl, rfl, rfl, rfl⟩
  | append_singleton ls line ih =>
    rw [summarizeAuditLines_append, prefixes_append]
    cases hline : parseAuditLinePrefix line with
    | none =>
      have hrejected : isRejected line = true := by simp [isRejected, hline]
      rw [summarizeLine_of_rejected hrejected, Option.toList_none, List.append_nil]
      exact ih
    | some p =>
      simp only [summarizeLine, hline, Option.toList_some, List.map_append]
      exact ih.add p.outcome

/-- Every outcome is one of the two. -/
theorem CountsOf.ok_add_fail {os : List Outcome} {total ok fail : Nat}
    {byOperation : List AuditOperationCount} (h : CountsOf os total ok fail byOperation) :
    ok + fail = total := by
  rw [h.ok, h.fail, h.total, List.length_eq_countP_add_countP (fun o : Outcome => o.ok)]
  simp

theorem total_add_unparsed (ls : List Text) :
    (summarizeAuditLines ls).total + (summarizeAuditLines ls).unparsed = ls.length := by
  have htally := tally_summarizeAuditLines ls
  have hparsed : (prefixes ls).length = ls.countP fun line => (parseAuditLinePrefix line).isSome :=
    List.length_filterMap_eq_countP
  have hrejected : ls.countP isRejected =
      ls.countP fun line => ¬ (parseAuditLinePrefix line).isSome = true := by
    refine List.countP_congr fun line _ => ?_
    cases h : parseAuditLinePrefix line <;> simp [isRejected, h]
  rw [htally.total, htally.unparsed, hparsed, hrejected]
  exact (List.length_eq_countP_add_countP _).symm

/-! ## Agreement -/

/-- A record and the local time at which its line is written. -/
structure WrittenRecord where
  now : Option LocalTime
  record : TimedRecord

def WrittenRecord.line (w : WrittenRecord) : Text :=
  formatAuditLineAscii w.now w.record.toAuditRecord

/-- The line can be read: it has a timestamp, and the operation is one word. -/
def WrittenRecord.Legible (w : WrittenRecord) : Prop :=
  localTimestampAscii w.now ≠ [] ∧ WordOperation w.record.operationId

theorem parse_line {w : WrittenRecord} (h : w.Legible) :
    ∃ p, parseAuditLinePrefix w.line = some p ∧ p.outcome = w.record.outcome := by
  obtain ⟨now, record⟩ := w
  obtain ⟨hnow, hword⟩ := h
  cases now with
  | none => exact absurd rfl hnow
  | some t => exact ⟨_, parse_formatAuditLine t hword, rfl⟩

theorem outcomes_lines {ws : List WrittenRecord} (h : ∀ w ∈ ws, w.Legible) :
    (prefixes (ws.map WrittenRecord.line)).map (·.outcome) =
      (ws.map WrittenRecord.record).map fun record => record.outcome := by
  induction ws with
  | nil => rfl
  | cons w ws ih =>
    obtain ⟨p, hp, houtcome⟩ := parse_line (h w List.mem_cons_self)
    have hrest := ih fun v hv => h v (List.mem_cons_of_mem w hv)
    simp only [prefixes, List.map_cons, List.filterMap_cons, hp] at hrest ⊢
    rw [hrest, houtcome]

/-- The counts of the lines of some records. -/
structure SameAsRecords (lineSummary : AuditLineSummary) (summary : AuditSummary) : Prop where
  total : lineSummary.total = summary.total
  ok : lineSummary.ok = summary.ok
  fail : lineSummary.fail = summary.fail
  byOperation : lineSummary.byOperation = summary.byOperation
  unparsed : lineSummary.unparsed = 0

/-- The counts of arbitrary lines add up. -/
structure AddsUp (ls : List Text) (summary : AuditLineSummary) : Prop where
  lines : summary.total + summary.unparsed = ls.length
  results : summary.total = summary.ok + summary.fail
  entries : summary.total = entriesTotal summary.byOperation
  distinct : (operationIds summary.byOperation).Nodup
  order : operationIds summary.byOperation = ((prefixes ls).map (·.operationId)).eraseDups

theorem sameAsRecords_lines {ws : List WrittenRecord} (h : ∀ w ∈ ws, w.Legible) :
    SameAsRecords (summarizeAuditLines (ws.map WrittenRecord.line))
      (summarizeRecords (ws.map WrittenRecord.record)) := by
  have hlines := countsOf_summarizeAuditLines (ws.map WrittenRecord.line)
  have hrecords := countsOf_summarizeRecords (ws.map WrittenRecord.record)
  rw [outcomes_lines h] at hlines
  have htotal := hlines.total
  have hall := total_add_unparsed (ws.map WrittenRecord.line)
  simp only [List.length_map] at htotal hall
  exact
    { total := hlines.total.trans hrecords.total.symm
      ok := hlines.ok.trans hrecords.ok.symm
      fail := hlines.fail.trans hrecords.fail.symm
      byOperation := hlines.byOperation.trans hrecords.byOperation.symm
      unparsed := by omega }

theorem addsUp_summarizeAuditLines (ls : List Text) : AddsUp ls (summarizeAuditLines ls) := by
  have hcounts := countsOf_summarizeAuditLines ls
  refine ⟨total_add_unparsed ls, hcounts.ok_add_fail.symm, ?_, ?_, ?_⟩
  · rw [hcounts.byOperation, entriesTotal_countOutcomes]
    exact hcounts.total
  · rw [hcounts.byOperation]
    exact nodup_operationIds_countOutcomes _
  · rw [hcounts.byOperation, operationIds_countOutcomes, List.map_map]
    rfl

theorem summaries_agree :
    (∀ ws : List WrittenRecord, (∀ w ∈ ws, w.Legible) →
      SameAsRecords (summarizeAuditLines (ws.map WrittenRecord.line))
        (summarizeRecords (ws.map WrittenRecord.record))) ∧
    ∀ ls : List Text, AddsUp ls (summarizeAuditLines ls) :=
  ⟨fun _ => sameAsRecords_lines, addsUp_summarizeAuditLines⟩

theorem summaries_agree_two_records :
    let ws : List WrittenRecord :=
      [⟨some ⟨2026, 9, 23, 21, 9, 23⟩, { operationId := "a=b".toList, detail := "x\n".toList }⟩,
        ⟨some ⟨2026, 9, 23, 21, 9, 24⟩, { operationId := "op".toList, ok := false }⟩]
    (∀ w ∈ ws, w.Legible) ∧
      SameAsRecords (summarizeAuditLines (ws.map WrittenRecord.line))
        (summarizeRecords (ws.map WrittenRecord.record)) := by
  intro ws
  have hlegible : ∀ w ∈ ws, w.Legible := by
    simp only [ws, List.forall_mem_cons]
    exact ⟨⟨timestamp_ne_nil _, by decide⟩, ⟨timestamp_ne_nil _, by decide⟩, by simp⟩
  exact ⟨hlegible, summaries_agree.1 ws hlegible⟩

/-! ## The first and the last moment -/

/-- The moments of a scan: the bounds of those that were set, and never set themselves if none was. -/
structure Moments (records : List TimedRecord) (scan : RecordScan) : Prop where
  seen : scan.hasTime = true ↔ ∃ r ∈ records, r.recordedAt ≠ 0
  unset : scan.hasTime = false → scan.summary.firstAt = 0 ∧ scan.summary.lastAt = 0
  bounds : ∀ r ∈ records, r.recordedAt ≠ 0 →
    scan.summary.firstAt ≤ r.recordedAt ∧ r.recordedAt ≤ scan.summary.lastAt
  attained : scan.hasTime = true → (∃ r ∈ records, r.recordedAt = scan.summary.firstAt) ∧
    ∃ r ∈ records, r.recordedAt = scan.summary.lastAt

section Moments

variable {records : List TimedRecord} {scan : RecordScan} {record : TimedRecord}

theorem exists_mem_snoc (p : TimedRecord → Prop) :
    (∃ r ∈ records ++ [record], p r) ↔ (∃ r ∈ records, p r) ∨ p record := by
  simp only [List.mem_append, List.mem_singleton, or_and_right, exists_or, exists_eq_left]

theorem Moments.unsetRecord (h : Moments records scan) (hset : record.recordedAt = 0) :
    Moments (records ++ [record]) (summarizeRecord scan record) := by
  rw [summarizeRecord, if_pos hset]
  refine ⟨?_, h.unset, ?_, fun hseen => ?_⟩
  · rw [exists_mem_snoc]
    simpa [hset] using h.seen
  · rw [List.forall_mem_append, List.forall_mem_singleton]
    exact ⟨h.bounds, fun hne => absurd hset hne⟩
  · obtain ⟨hfirst, hlast⟩ := h.attained hseen
    exact ⟨(exists_mem_snoc _).mpr (.inl hfirst), (exists_mem_snoc _).mpr (.inl hlast)⟩

/-- The first record that was set is the first and the last moment. -/
theorem Moments.firstRecord (h : Moments records scan) (hset : record.recordedAt ≠ 0)
    (hseen : scan.hasTime = false) :
    Moments (records ++ [record]) (summarizeRecord scan record) := by
  have hnone : ∀ r ∈ records, ¬ r.recordedAt ≠ 0 := by
    intro r hr hne
    have := h.seen.mpr ⟨r, hr, hne⟩
    rw [hseen] at this
    cases this
  rw [summarizeRecord, if_neg hset, hseen]
  refine ⟨?_, fun hfalse => (by cases hfalse), ?_, fun _ => ?_⟩
  · rw [exists_mem_snoc]
    simp [hset]
  · rw [List.forall_mem_append, List.forall_mem_singleton]
    exact ⟨fun r hr hne => absurd hne (hnone r hr), fun _ => by simp⟩
  · exact ⟨(exists_mem_snoc _).mpr (.inr (by simp)), (exists_mem_snoc _).mpr (.inr (by simp))⟩

/-- A later one moves the bound it is beyond. -/
theorem Moments.laterRecord (h : Moments records scan) (hset : record.recordedAt ≠ 0)
    (hseen : scan.hasTime = true) :
    Moments (records ++ [record]) (summarizeRecord scan record) := by
  obtain ⟨hfirst, hlast⟩ := h.attained hseen
  have hkeep : (scan.summary.count record).firstAt = scan.summary.firstAt ∧
      (scan.summary.count record).lastAt = scan.summary.lastAt := ⟨rfl, rfl⟩
  rw [summarizeRecord, if_neg hset, hseen]
  simp only [Bool.not_true, Bool.false_or, decide_eq_true_eq, hkeep.1, hkeep.2]
  refine ⟨?_, fun hfalse => (by cases hfalse), ?_, fun _ => ⟨?_, ?_⟩⟩
  · rw [exists_mem_snoc]
    simp [hset]
  · rw [List.forall_mem_append, List.forall_mem_singleton]
    dsimp only
    refine ⟨fun r hr hne => ?_, fun _ => ?_⟩
    · obtain ⟨hlow, hhigh⟩ := h.bounds r hr hne
      constructor <;> split <;> omega
    · constructor <;> split <;> omega
  · rw [exists_mem_snoc]
    dsimp only
    split
    · exact .inr rfl
    · exact .inl hfirst
  · rw [exists_mem_snoc]
    dsimp only
    split
    · exact .inr rfl
    · exact .inl hlast

theorem Moments.step (h : Moments records scan) (record : TimedRecord) :
    Moments (records ++ [record]) (summarizeRecord scan record) := by
  by_cases hset : record.recordedAt = 0
  · exact h.unsetRecord hset
  · cases hseen : scan.hasTime with
    | false => exact h.firstRecord hset hseen
    | true => exact h.laterRecord hset hseen

end Moments

/-- `firstAt` and `lastAt` are the bounds of the moments that were set. -/
theorem moments_scanRecords (records : List TimedRecord) :
    Moments records (scanRecords records) := by
  induction records using List.reverseRecOn with
  | nil => exact ⟨by simp [scanRecords], fun _ => ⟨rfl, rfl⟩, by simp, fun h => by cases h⟩
  | append_singleton records record ih =>
    have hstep : scanRecords (records ++ [record]) = summarizeRecord (scanRecords records) record := by
      simp [scanRecords]
    rw [hstep]
    exact ih.step record

end Audit
end CppOptimizer
