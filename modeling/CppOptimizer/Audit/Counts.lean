import CppOptimizer.Audit.Compaction
import CppOptimizer.Audit.StrictSummary
import CppOptimizer.Lib.Run

/-!
# CppOptimizer.Audit.Counts

What the audit file and its summary say together, over any number of appends and compactions.

* `lineCount`     — records of an operation and a result among some lines; `SummarizeAuditLines`
  counts the same.
* `auditStep`     — one append or compaction; the history keeps what was appended and how often the
  file was compacted.
* `Balanced`      — the invariant over both files: each record is in the audit file or counted in one
  summary line, and the lines that cannot be read are all there.

A compaction leaves a record of its own, which the next compaction summarises like any other.
-/

namespace CppOptimizer
namespace Audit

open Common Lib

/-! ## Counts of lines and of entries -/

def AuditOperationCount.countFor (ok : Bool) (entry : AuditOperationCount) : Nat :=
  if ok then entry.ok else entry.fail

/-- What a list of entries says about an operation. -/
def countOf (ok : Bool) (op : Text) : List AuditOperationCount → Nat
  | [] => 0
  | entry :: entries =>
    (if entry.operationId = op then entry.countFor ok else 0) + countOf ok op entries

/-- The line is a record of the operation, with the result. -/
def isRecordOf (ok : Bool) (op line : Text) : Bool :=
  match parseAuditLinePrefix line with
  | none => false
  | some p => p.operationId = op && p.ok == ok

def lineCount (ok : Bool) (op : Text) (ls : List Text) : Nat := ls.countP (isRecordOf ok op)

theorem countFor_add (ok result : Bool) (entry : AuditOperationCount) :
    (entry.add result).countFor ok = entry.countFor ok + if result = ok then 1 else 0 := by
  cases ok <;> cases result <;> simp [AuditOperationCount.add, AuditOperationCount.countFor]

theorem operationId_add (result : Bool) (entry : AuditOperationCount) :
    (entry.add result).operationId = entry.operationId := by
  cases result <;> rfl

theorem countOf_countOperation (ok : Bool) (op id : Text) (result : Bool)
    (entries : List AuditOperationCount) :
    countOf ok op (countOperation id result entries) =
      countOf ok op entries + if id = op ∧ result = ok then 1 else 0 := by
  induction entries with
  | nil =>
    have hzero : AuditOperationCount.countFor ok { operationId := id } = 0 := by cases ok <;> rfl
    simp only [countOperation, countOf, operationId_add, countFor_add, hzero]
    by_cases hid : id = op <;> simp [hid]
  | cons entry entries ih =>
    simp only [countOperation]
    split
    · rename_i hentry
      simp only [countOf, operationId_add, countFor_add, hentry]
      by_cases hid : id = op
      · simp only [hid, if_true, true_and]
        omega
      · simp [hid]
    · simp only [countOf, ih]
      omega

theorem summarizeAuditLines_append (ls : List Text) (line : Text) :
    summarizeAuditLines (ls ++ [line]) = summarizeLine (summarizeAuditLines ls) line := by
  simp [summarizeAuditLines]

theorem summarizeLine_of_rejected {line : Text} (h : isRejected line = true)
    (summary : AuditLineSummary) :
    summarizeLine summary line = { summary with unparsed := summary.unparsed + 1 } := by
  have hnone : parseAuditLinePrefix line = none := by simpa [isRejected] using h
  simp only [summarizeLine, hnone]

theorem countOf_summarizeLine (ok : Bool) (op : Text) (summary : AuditLineSummary) (line : Text) :
    countOf ok op (summarizeLine summary line).byOperation =
      countOf ok op summary.byOperation + if isRecordOf ok op line then 1 else 0 := by
  unfold summarizeLine isRecordOf
  cases parseAuditLinePrefix line with
  | none => simp
  | some p => simp [countOf_countOperation]

/-- `SummarizeAuditLines` counts the records of each operation. -/
theorem countOf_summarizeAuditLines (ok : Bool) (op : Text) (ls : List Text) :
    countOf ok op (summarizeAuditLines ls).byOperation = lineCount ok op ls := by
  induction ls using List.reverseRecOn with
  | nil => rfl
  | append_singleton ls line ih =>
    rw [summarizeAuditLines_append, countOf_summarizeLine, ih]
    simp [lineCount, List.countP_cons]

theorem lineCount_append (ok : Bool) (op : Text) (ls ms : List Text) :
    lineCount ok op (ls ++ ms) = lineCount ok op ls + lineCount ok op ms := List.countP_append

theorem isRecordOf_of_rejected {line : Text} (h : isRejected line = true) (ok : Bool) (op : Text) :
    isRecordOf ok op line = false := by
  have hnone : parseAuditLinePrefix line = none := by simpa [isRejected] using h
  simp [isRecordOf, hnone]

theorem lineCount_of_rejected {ls : List Text} (h : ∀ l ∈ ls, isRejected l = true) (ok : Bool)
    (op : Text) : lineCount ok op ls = 0 := by
  refine List.countP_eq_zero.mpr fun l hl => ?_
  simp [isRecordOf_of_rejected (h l hl)]

/-! ## Lines of the audit file -/

/-- A line as `AppendAuditLine` writes it. -/
def WrittenLine (line : Text) : Prop :=
  ∃ t record, PlainOperation record.operationId ∧ line = formatAuditLineAscii (some t) record

theorem isRejected_written {t : LocalTime} {record : AuditRecord}
    (h : PlainOperation record.operationId) :
    isRejected (formatAuditLineAscii (some t) record) = false := by
  simp [isRejected, parse_formatAuditLine t h.word]

theorem isRecordOf_written {t : LocalTime} {record : AuditRecord}
    (h : PlainOperation record.operationId) (ok : Bool) (op : Text) :
    isRecordOf ok op (formatAuditLineAscii (some t) record) =
      (decide (record.operationId = op) && record.ok == ok) := by
  simp [isRecordOf, parse_formatAuditLine t h.word]

/-- A line of the audit file: written by the program, or one that it cannot read. -/
structure AuditFileLine (line : Text) : Prop where
  whole : '\n' ∉ line
  kind : WrittenLine line ∨ isRejected line = true

theorem AuditFileLine.of_written (t : LocalTime) {record : AuditRecord}
    (h : PlainOperation record.operationId) :
    AuditFileLine (formatAuditLineAscii (some t) record) :=
  ⟨newline_not_mem_formatAuditLine _ _, .inl ⟨t, record, h, rfl⟩⟩

/-! ## Summaries of such lines -/

/-- What is known of the summary of some lines. -/
structure SummaryOf (ls : List Text) (summary : AuditLineSummary) : Prop where
  total : summary.total ≤ ls.length
  ok : summary.ok ≤ ls.length
  fail : summary.fail ≤ ls.length
  unparsed : summary.unparsed ≤ ls.length
  byOperation : ∀ entry ∈ summary.byOperation,
    PlainOperation entry.operationId ∧ entry.ok ≤ ls.length ∧ entry.fail ≤ ls.length
  range : ((∀ l ∈ ls, isRejected l = true) ∧ summary.firstTimestamp = []) ∨
    ((∃ t, summary.firstTimestamp = localTimestampAscii (some t)) ∧
      ∃ t, summary.lastTimestamp = localTimestampAscii (some t))

theorem mem_countOperation {op : Text} (result : Bool) {n : Nat} (hop : PlainOperation op)
    {entries : List AuditOperationCount}
    (h : ∀ entry ∈ entries, PlainOperation entry.operationId ∧ entry.ok ≤ n ∧ entry.fail ≤ n) :
    ∀ entry ∈ countOperation op result entries,
      PlainOperation entry.operationId ∧ entry.ok ≤ n + 1 ∧ entry.fail ≤ n + 1 := by
  have hadd : ∀ entry : AuditOperationCount,
      (PlainOperation entry.operationId ∧ entry.ok ≤ n ∧ entry.fail ≤ n) →
      PlainOperation (entry.add result).operationId ∧ (entry.add result).ok ≤ n + 1 ∧
        (entry.add result).fail ≤ n + 1 := by
    intro entry hentry
    rw [operationId_add]
    refine ⟨hentry.1, ?_⟩
    cases result <;> simp [AuditOperationCount.add] <;> omega
  induction entries with
  | nil =>
    intro entry hentry
    rw [List.mem_singleton.mp hentry]
    exact hadd _ ⟨hop, Nat.zero_le _, Nat.zero_le _⟩
  | cons first entries ih =>
    intro entry hentry
    simp only [countOperation] at hentry
    split at hentry
    · rcases List.mem_cons.mp hentry with rfl | hmem
      · exact hadd first (h first List.mem_cons_self)
      · obtain ⟨hplain, hok, hfail⟩ := h entry (List.mem_cons_of_mem _ hmem)
        exact ⟨hplain, by omega, by omega⟩
    · rcases List.mem_cons.mp hentry with rfl | hmem
      · obtain ⟨hplain, hok, hfail⟩ := h entry List.mem_cons_self
        exact ⟨hplain, by omega, by omega⟩
      · exact ih (fun e he => h e (List.mem_cons_of_mem _ he)) entry hmem

theorem SummaryOf.snoc_rejected {ls : List Text} {summary : AuditLineSummary} {line : Text}
    (h : SummaryOf ls summary) (hline : isRejected line = true) :
    SummaryOf (ls ++ [line]) (summarizeLine summary line) := by
  have hlength : (ls ++ [line]).length = ls.length + 1 := by simp
  have htotal := h.total
  have hok := h.ok
  have hfail := h.fail
  have hunparsed := h.unparsed
  rw [summarizeLine_of_rejected hline]
  refine ⟨by simp; omega, by simp; omega, by simp; omega, by simp; omega, ?_, ?_⟩
  · intro entry hentry
    obtain ⟨hplain, hentryOk, hentryFail⟩ := h.byOperation entry hentry
    exact ⟨hplain, by omega, by omega⟩
  · rcases h.range with ⟨hall, hnone⟩ | hrange
    · refine .inl ⟨?_, hnone⟩
      intro l hl
      rcases List.mem_append.mp hl with hmem | hmem
      · exact hall l hmem
      · rw [List.mem_singleton.mp hmem]
        exact hline
    · exact .inr hrange

theorem SummaryOf.snoc_written {ls : List Text} {summary : AuditLineSummary} {t : LocalTime}
    {record : AuditRecord} (h : SummaryOf ls summary) (hplain : PlainOperation record.operationId) :
    SummaryOf (ls ++ [formatAuditLineAscii (some t) record])
      (summarizeLine summary (formatAuditLineAscii (some t) record)) := by
  have htotal := h.total
  have hok := h.ok
  have hfail := h.fail
  have hunparsed := h.unparsed
  have hentries := mem_countOperation record.ok hplain h.byOperation
  simp only [summarizeLine, parse_formatAuditLine t hplain.word]
  refine ⟨by simp; omega, ?_, ?_, by simp; omega, by simpa using hentries, .inr ⟨?_, t, rfl⟩⟩
  · simp only [List.length_append, List.length_singleton]
    split <;> omega
  · simp only [List.length_append, List.length_singleton]
    split <;> omega
  · rcases h.range with ⟨_, hnone⟩ | ⟨⟨first, hfirst⟩, _⟩
    · exact ⟨t, if_pos hnone⟩
    · refine ⟨first, ?_⟩
      simp only [hfirst, if_neg (timestamp_ne_nil first)]

theorem summaryOf_summarizeAuditLines {ls : List Text} (h : ∀ l ∈ ls, AuditFileLine l) :
    SummaryOf ls (summarizeAuditLines ls) := by
  induction ls using List.reverseRecOn with
  | nil => exact ⟨le_rfl, le_rfl, le_rfl, le_rfl, by simp [summarizeAuditLines], .inl ⟨by simp, rfl⟩⟩
  | append_singleton ls line ih =>
    have hls := ih fun l hl => h l (List.mem_append_left _ hl)
    rw [summarizeAuditLines_append]
    rcases (h line (by simp)).kind with ⟨t, record, hplain, rfl⟩ | hrejected
    · exact hls.snoc_written hplain
    · exact hls.snoc_rejected hrejected

/-- The counts of a file that is small enough to be compacted. -/
theorem withinLimit_of_le {n : Nat} (h : n ≤ kMaxAuditReadBytes) : WithinLimit n := by
  unfold WithinLimit digitLimit
  unfold kMaxAuditReadBytes at h
  omega

theorem SummaryOf.readable {ls : List Text} {summary : AuditLineSummary}
    (h : SummaryOf ls summary) (hlength : ls.length ≤ kMaxAuditReadBytes)
    (hsome : ∃ l ∈ ls, isRejected l = false) : Readable summary := by
  obtain ⟨l, hl, hread⟩ := hsome
  rcases h.range with ⟨hall, _⟩ | ⟨hfirst, hlast⟩
  · simp [hall l hl] at hread
  · refine ⟨hfirst, hlast, withinLimit_of_le (h.total.trans hlength),
      withinLimit_of_le (h.ok.trans hlength), withinLimit_of_le (h.fail.trans hlength),
      withinLimit_of_le (h.unparsed.trans hlength), ?_⟩
    intro entry hentry
    obtain ⟨hplain, hok, hfail⟩ := h.byOperation entry hentry
    exact ⟨hplain, withinLimit_of_le (hok.trans hlength), withinLimit_of_le (hfail.trans hlength)⟩

/-! ## Lines of the summary file -/

theorem newline_not_mem_formatOperationCounts {entries : List AuditOperationCount}
    (h : ∀ entry ∈ entries, '\n' ∉ entry.operationId) : '\n' ∉ formatOperationCounts entries := by
  intro hmem
  obtain ⟨entry, hentry, hchar⟩ := List.mem_flatMap.mp hmem
  have hok : '\n' ∉ decimal entry.ok := not_mem_decimal (by decide)
  have hfail : '\n' ∉ decimal entry.fail := not_mem_decimal (by decide)
  simp [formatOperationCount, h entry hentry, hok, hfail] at hchar

theorem newline_not_mem_formatAuditSummaryLine {summary : AuditLineSummary}
    (hrange : '\n' ∉ formatRange summary)
    (hoperation : ∀ entry ∈ summary.byOperation, '\n' ∉ entry.operationId) :
    '\n' ∉ formatAuditSummaryLine summary := by
  have hfield : ∀ (key : Text) n, '\n' ∉ key → '\n' ∉ countField key n := fun key n hkey =>
    not_mem_countField hkey (by decide) (by decide)
  refine List.not_mem_append hrange (List.not_mem_append (by decide) ?_)
  refine List.not_mem_append (hfield _ _ (by decide)) (List.not_mem_append (hfield _ _ (by decide)) ?_)
  refine List.not_mem_append (hfield _ _ (by decide)) (List.not_mem_append (by decide) ?_)
  exact List.not_mem_append (not_mem_decimal (by decide))
    (newline_not_mem_formatOperationCounts hoperation)

theorem Readable.newline_not_mem {summary : AuditLineSummary} (h : Readable summary) :
    '\n' ∉ formatAuditSummaryLine summary := by
  refine newline_not_mem_formatAuditSummaryLine ?_
    fun entry hentry => (h.byOperation entry hentry).1.newline_not_mem
  obtain ⟨first, hfirst⟩ := h.first
  obtain ⟨last, hlast⟩ := h.last
  rw [formatRange, hfirst, hlast, if_neg (timestamp_ne_nil first)]
  exact List.not_mem_append (newline_not_mem_timestamp _)
    (List.not_mem_append (by decide) (newline_not_mem_timestamp _))

/-- What the lines of a summary file say about an operation. -/
def summaryCount (ok : Bool) (op : Text) (ls : List Text) : Nat :=
  ((ls.filterMap parseAuditSummaryLine).map fun r => countOf ok op r.byOperation).sum

theorem summaryCount_format {summaries : List AuditLineSummary} (h : ∀ s ∈ summaries, Readable s)
    (ok : Bool) (op : Text) :
    summaryCount ok op (summaries.map formatAuditSummaryLine) =
      (summaries.map fun s => countOf ok op s.byOperation).sum := by
  induction summaries with
  | nil => rfl
  | cons s summaries ih =>
    have hs : Readable s := h s List.mem_cons_self
    have hrest := ih fun s hs => h s (List.mem_cons_of_mem _ hs)
    unfold summaryCount at hrest ⊢
    simp only [List.map_cons, List.filterMap_cons, hs.rereadable.parse, List.sum_cons,
      hrest]

/-! ## Histories -/

/-- What the file system does with the steps of an append. -/
structure AppendOutcomes where
  createDirectories : Option Nat := none
  openAudit : Option Nat := none
  /-- A failed write, with the number of bytes that got into the file. -/
  write : Option (Nat × Nat) := none
  now : Option LocalTime := none
  deriving DecidableEq, Repr

def AuditFiles.auditContents (f : AuditFiles) : Text := f.audit.getD []

def appendAuditLine (path : AuditPath) (record : AuditRecord) (o : AppendOutcomes) (f : AuditFiles) :
    AuditFiles × Result Unit :=
  if path.text = [] then (f, .error (.validation "AppendAuditLine" "路径不能为空"))
  else
    match (if path.hasParent then o.createDirectories else none) with
    | some code => (f, .error (.fromWin32 code "create_directories(audit log)"))
    | none =>
      match o.openAudit with
      | some code => (f, .error (.fromWin32 code "open audit log for append"))
      | none =>
        let line := formatAuditLineAscii o.now record ++ ['\n']
        match o.write with
        | some (code, written) =>
          ({ f with audit := some (f.auditContents ++ line.take written) },
            .error (.fromWin32 code "flush audit log"))
        | none => ({ f with audit := some (f.auditContents ++ line) }, .ok ())

inductive AuditEvent where
  | append (record : AuditRecord) (o : AppendOutcomes)
  | compact (options : CompactOptions) (o : CompactOutcomes)

/-- The files, the records ever appended and the number of compacting runs. -/
structure AuditHistory where
  files : AuditFiles
  records : List AuditRecord
  compactions : Nat
  deriving DecidableEq, Repr

def isCompacting (result : Result CompactResult) : Bool :=
  match result with
  | .ok r => r.compacted
  | .error _ => false

def auditStep (path : AuditPath) (h : AuditHistory) : AuditEvent → AuditHistory
  | .append record o =>
    { h with
      files := (appendAuditLine path record o h.files).1
      records := h.records ++ [record] }
  | .compact options o =>
    { h with
      files := (compact path options o h.files).1
      compactions :=
        h.compactions + if isCompacting (compact path options o h.files).2 then 1 else 0 }

/-- The call succeeds, at a time that can be written. -/
def Successful (path : AuditPath) (h : AuditHistory) : AuditEvent → Prop
  | .append record o =>
    PlainOperation record.operationId ∧ o.now.isSome = true ∧
      (appendAuditLine path record o h.files).2.ok? = true
  | .compact options o => o.now.isSome = true ∧ (compact path options o h.files).2.ok? = true

/-- A line that the audit file has at the start. -/
inductive AuditEntry where
  | written (t : LocalTime) (record : AuditRecord)
  | foreign (line : Text)
  deriving DecidableEq, Repr

def AuditEntry.line : AuditEntry → Text
  | .written t record => formatAuditLineAscii (some t) record
  | .foreign line => line

def AuditEntry.Valid : AuditEntry → Prop
  | .written _ record => PlainOperation record.operationId
  | .foreign line => '\n' ∉ line ∧ isRejected line = true

instance (entry : AuditEntry) : Decidable entry.Valid :=
  match entry with
  | .written _ record => inferInstanceAs (Decidable (PlainOperation record.operationId))
  | .foreign _ => inferInstanceAs (Decidable (_ ∧ _))

def AuditEntry.record? : AuditEntry → Option AuditRecord
  | .written _ record => some record
  | .foreign _ => none

def AuditEntry.foreign? : AuditEntry → Option Text
  | .written _ _ => none
  | .foreign line => some line

/-- The audit file has the entries, and there is no summary. -/
structure Begins (entries : List AuditEntry) (h : AuditHistory) : Prop where
  audit : h.files.auditContents = unlines (entries.map AuditEntry.line)
  summary : h.files.summary = none
  records : h.records = entries.filterMap AuditEntry.record?
  compactions : h.compactions = 0

def recordCount (ok : Bool) (op : Text) (records : List AuditRecord) : Nat :=
  records.countP fun record => record.operationId = op && record.ok == ok

/-- The count of an operation in the audit file and the summary file together. -/
def fileCount (ok : Bool) (op : Text) (f : AuditFiles) : Nat :=
  countOf ok op (summarizeAuditLines (lines f.auditContents)).byOperation +
    summaryCount ok op (lines f.summaryContents)

/-- The records that compactions leave of themselves. -/
def ownRecords (ok : Bool) (op : Text) (compactions : Nat) : Nat :=
  if op = compactOperationId ∧ ok = true then compactions else 0

/-- Where the records are: in the lines of the audit file or in the summaries. -/
structure BalancedAs (foreign ls : List Text) (summaries : List AuditLineSummary)
    (h : AuditHistory) : Prop where
  audit : h.files.auditContents = unlines ls
  line : ∀ l ∈ ls, AuditFileLine l
  summary : h.files.summaryContents = unlines (summaries.map formatAuditSummaryLine)
  readable : ∀ s ∈ summaries, Readable s
  counts : ∀ ok op,
    lineCount ok op ls + (summaries.map fun s => countOf ok op s.byOperation).sum =
      recordCount ok op h.records + ownRecords ok op h.compactions
  rejected : ls.filter isRejected = foreign

def Balanced (foreign : List Text) (h : AuditHistory) : Prop :=
  ∃ ls summaries, BalancedAs foreign ls summaries h

section Steps

variable {path : AuditPath} {foreign ls : List Text} {summaries : List AuditLineSummary}
  {h : AuditHistory}

theorem BalancedAs.lines_audit (hb : BalancedAs foreign ls summaries h) :
    lines h.files.auditContents = ls := by
  rw [hb.audit]
  exact lines_unlines fun l hl => (hb.line l hl).whole

theorem BalancedAs.lines_summary (hb : BalancedAs foreign ls summaries h) :
    lines h.files.summaryContents = summaries.map formatAuditSummaryLine := by
  rw [hb.summary]
  refine lines_unlines fun l hl => ?_
  obtain ⟨s, hs, rfl⟩ := List.mem_map.mp hl
  exact (hb.readable s hs).newline_not_mem

theorem BalancedAs.fileCount_eq (hb : BalancedAs foreign ls summaries h) (ok : Bool) (op : Text) :
    fileCount ok op h.files = recordCount ok op h.records + ownRecords ok op h.compactions := by
  rw [fileCount, hb.lines_audit, hb.lines_summary, countOf_summarizeAuditLines,
    summaryCount_format hb.readable, hb.counts]

/-- The files after a successful append. -/
theorem appendAuditLine_ok {record : AuditRecord} {o : AppendOutcomes} {f : AuditFiles}
    (hok : (appendAuditLine path record o f).2.ok? = true) :
    (appendAuditLine path record o f).1 =
      { f with audit := some (f.auditContents ++ unlines [formatAuditLineAscii o.now record]) } := by
  unfold appendAuditLine at hok ⊢
  by_cases hpath : path.text = []
  · rw [if_pos hpath] at hok
    cases hok
  rw [if_neg hpath] at hok ⊢
  cases hparent : (if path.hasParent = true then o.createDirectories else none) with
  | some code => simp [hparent, Result.ok?] at hok
  | none =>
    cases hopen : o.openAudit with
    | some code => simp [hparent, hopen, Result.ok?] at hok
    | none =>
      cases hwrite : o.write with
      | some failure => simp [hparent, hopen, hwrite, Result.ok?] at hok
      | none => simp

theorem lineCount_written {t : LocalTime} {record : AuditRecord}
    (hplain : PlainOperation record.operationId) (ok : Bool) (op : Text) :
    lineCount ok op [formatAuditLineAscii (some t) record] = recordCount ok op [record] := by
  simp [lineCount, recordCount, List.countP_cons, isRecordOf_written hplain]

theorem BalancedAs.append (hb : BalancedAs foreign ls summaries h) {record : AuditRecord}
    {o : AppendOutcomes} (hok : Successful path h (.append record o)) :
    Balanced foreign (auditStep path h (.append record o)) := by
  obtain ⟨hplain, hnow, hresult⟩ := hok
  obtain ⟨t, ht⟩ := Option.isSome_iff_exists.mp hnow
  have hfiles := appendAuditLine_ok hresult
  rw [ht] at hfiles
  refine ⟨ls ++ [formatAuditLineAscii (some t) record], summaries, ?_, ?_, ?_, hb.readable, ?_, ?_⟩
  · simp only [auditStep, hfiles, AuditFiles.auditContents, Option.getD_some, unlines_append]
    rw [← hb.audit]
    rfl
  · intro l hl
    rcases List.mem_append.mp hl with hmem | hmem
    · exact hb.line l hmem
    · rw [List.mem_singleton.mp hmem]
      exact .of_written t hplain
  · simp only [auditStep, hfiles]
    exact hb.summary
  · intro ok op
    have hcounts := hb.counts ok op
    have hsplit : recordCount ok op (h.records ++ [record]) =
        recordCount ok op h.records + recordCount ok op [record] := List.countP_append
    simp only [auditStep, lineCount_append, lineCount_written hplain, hsplit]
    omega
  · rw [List.filter_append, hb.rejected]
    simp [isRejected_written hplain]

theorem plainOperation_compact : PlainOperation compactOperationId := by decide

theorem head_append_tail (options : CompactOptions) (ls : List Text) :
    headLines options ls ++ tailLines options ls = ls := List.take_append_drop _ _

/-- A compaction that changes the file summarises at least one record. -/
theorem exists_record_of_changes {options : CompactOptions} (h : retainedLines options ls ≠ ls) :
    ∃ l ∈ headLines options ls, isRejected l = false := by
  by_contra hnone
  apply h
  have hall : (headLines options ls).filter isRejected = headLines options ls := by
    refine List.filter_eq_self.mpr fun l hl => ?_
    by_contra hread
    exact hnone ⟨l, hl, by simpa using hread⟩
  rw [retainedLines, hall, head_append_tail]

theorem lineCount_retained (options : CompactOptions) (ls : List Text) (ok : Bool) (op : Text) :
    lineCount ok op (retainedLines options ls) + lineCount ok op (headLines options ls) =
      lineCount ok op ls := by
  have hrejected : lineCount ok op ((headLines options ls).filter isRejected) = 0 :=
    lineCount_of_rejected (fun l hl => (List.mem_filter.mp hl).2) ok op
  have hall : lineCount ok op (headLines options ls) + lineCount ok op (tailLines options ls) =
      lineCount ok op ls := by
    rw [← lineCount_append, head_append_tail]
  rw [retainedLines, lineCount_append]
  omega

theorem filter_retained (options : CompactOptions) (ls : List Text) :
    (retainedLines options ls).filter isRejected = ls.filter isRejected := by
  rw [retainedLines, List.filter_append, List.filter_filter]
  simp only [Bool.and_self]
  rw [← List.filter_append, head_append_tail]

theorem mem_of_mem_retained {options : CompactOptions} {l : Text}
    (hl : l ∈ retainedLines options ls) : l ∈ ls := by
  rcases List.mem_append.mp hl with hmem | hmem
  · exact List.mem_of_mem_take (List.mem_of_mem_filter hmem)
  · exact List.mem_of_mem_drop hmem

/-- The record of a compaction counts as one. -/
theorem recordCount_self (path : AuditPath) (options : CompactOptions) (ls : List Text) (ok : Bool)
    (op : Text) (n : Nat) :
    recordCount ok op [selfRecord path options ls] + ownRecords ok op n =
      ownRecords ok op (n + 1) := by
  have hself : recordCount ok op [selfRecord path options ls] =
      if op = compactOperationId ∧ ok = true then 1 else 0 := by
    by_cases hop : op = compactOperationId
    · subst hop
      cases ok <;> simp [recordCount, selfRecord]
    · have hne : compactOperationId ≠ op := fun heq => hop heq.symm
      simp [recordCount, selfRecord, hop, hne]
  rw [hself]
  unfold ownRecords
  split <;> omega

/-- The compacting run. -/
theorem BalancedAs.replaced (hb : BalancedAs foreign ls summaries h) {options : CompactOptions}
    {o : CompactOutcomes} {t : LocalTime} (hnow : o.now = some t)
    (hreach : ReachesAppend path options o h.files (unlines ls)) :
    BalancedAs foreign
      (retainedLines options ls ++ [formatAuditLineAscii (some t) (selfRecord path options ls)])
      (summaries ++ [headSummary options ls])
      { files :=
          { audit := some (compactedText path options ls o.now)
            summary := some (h.files.summaryContents ++ summaryText options ls)
            temp := none }
        records := h.records
        compactions := h.compactions + 1 } := by
  have hlines : lines (unlines ls) = ls := lines_unlines fun l hl => (hb.line l hl).whole
  have hchanges : retainedLines options ls ≠ ls := hlines ▸ hreach.due.changes
  have hhead : ∀ l ∈ headLines options ls, AuditFileLine l := fun l hl =>
    hb.line l (List.mem_of_mem_take hl)
  have hlength : (headLines options ls).length ≤ kMaxAuditReadBytes := by
    have hle := length_lines_le (unlines ls)
    rw [hlines] at hle
    have hsize := hreach.due.size
    have htake : (headLines options ls).length ≤ ls.length := List.length_take_le' _ _
    omega
  have hread : Readable (headSummary options ls) :=
    (summaryOf_summarizeAuditLines hhead).readable hlength (exists_record_of_changes hchanges)
  have hself : PlainOperation (selfRecord path options ls).operationId := plainOperation_compact
  refine ⟨?_, ?_, ?_, ?_, ?_, ?_⟩
  · simp [AuditFiles.auditContents, compactedText, hnow]
  · intro l hl
    rcases List.mem_append.mp hl with hmem | hmem
    · exact hb.line l (mem_of_mem_retained hmem)
    · rw [List.mem_singleton.mp hmem]
      exact .of_written t hself
  · rw [List.map_append, unlines_append, ← hb.summary]
    simp [AuditFiles.summaryContents, summaryText]
  · intro s hs
    rcases List.mem_append.mp hs with hmem | hmem
    · exact hb.readable s hmem
    · rw [List.mem_singleton.mp hmem]
      exact hread
  · intro ok op
    have hcounts := hb.counts ok op
    have hretained := lineCount_retained options ls ok op
    have hsummary : countOf ok op (headSummary options ls).byOperation =
        lineCount ok op (headLines options ls) := countOf_summarizeAuditLines ok op _
    have hown := recordCount_self path options ls ok op h.compactions
    simp only [lineCount_append, lineCount_written hself, List.map_append, List.sum_append,
      List.map_cons, List.map_nil, List.sum_cons, List.sum_nil, hsummary]
    omega
  · rw [List.filter_append, filter_retained, hb.rejected]
    simp [isRejected_written hself]

theorem BalancedAs.compact (hb : BalancedAs foreign ls summaries h) {options : CompactOptions}
    {o : CompactOutcomes} (hok : Successful path h (.compact options o)) :
    Balanced foreign (auditStep path h (.compact options o)) := by
  obtain ⟨hnow, hresult⟩ := hok
  obtain ⟨t, ht⟩ := Option.isSome_iff_exists.mp hnow
  have hend : CompactEnd path options o h.files (Audit.compact path options o h.files) :=
    compact_end
  simp only [auditStep]
  generalize Audit.compact path options o h.files = ended at hend hresult ⊢
  cases hend with
  | stopped temp result _ hidle =>
    cases result with
    | error e => cases hresult
    | ok r =>
      have hr : r.compacted = false := hidle r rfl
      refine ⟨ls, summaries, hb.audit, hb.line, hb.summary, hb.readable, ?_, hb.rejected⟩
      simpa [isCompacting, hr] using hb.counts
  | torn content code written _ _ => cases hresult
  | cutBack content code _ _ _ => cases hresult
  | replaced content result hreach _ _ hcompacted =>
    have hcontent : content = unlines ls := by
      rw [← hb.audit, AuditFiles.auditContents, hreach.due.audit, Option.getD_some]
    subst hcontent
    have hlines : lines (unlines ls) = ls := lines_unlines fun l hl => (hb.line l hl).whole
    have hnext := hb.replaced ht hreach
    simp only [hlines, isCompacting, hcompacted, if_true]
    exact ⟨_, _, hnext⟩

theorem Balanced.step (hb : Balanced foreign h) {e : AuditEvent} (hok : Successful path h e) :
    Balanced foreign (auditStep path h e) := by
  obtain ⟨ls, summaries, hb⟩ := hb
  cases e with
  | append record o => exact hb.append hok
  | compact options o => exact hb.compact hok

theorem AuditEntry.Valid.line {entry : AuditEntry} (hv : entry.Valid) :
    AuditFileLine entry.line := by
  cases entry with
  | written t record => exact .of_written t hv
  | foreign line => exact ⟨hv.1, .inr hv.2⟩

theorem filter_rejected_entries {entries : List AuditEntry} (hv : ∀ e ∈ entries, e.Valid) :
    (entries.map AuditEntry.line).filter isRejected = entries.filterMap AuditEntry.foreign? := by
  induction entries with
  | nil => rfl
  | cons entry entries ih =>
    have hentry : entry.Valid := hv entry List.mem_cons_self
    have hrest := ih fun e he => hv e (List.mem_cons_of_mem _ he)
    cases entry with
    | written t record =>
      have hread : isRejected (AuditEntry.written t record).line = false :=
        isRejected_written hentry
      simp only [List.map_cons, List.filter_cons, hread, Bool.false_eq_true, if_false, hrest]
      rfl
    | foreign line =>
      have hreject : isRejected (AuditEntry.foreign line).line = true := hentry.2
      simp only [List.map_cons, List.filter_cons, hreject, if_true, hrest]
      rfl

theorem lineCount_entries {entries : List AuditEntry} (hv : ∀ e ∈ entries, e.Valid) (ok : Bool)
    (op : Text) :
    lineCount ok op (entries.map AuditEntry.line) =
      recordCount ok op (entries.filterMap AuditEntry.record?) := by
  induction entries with
  | nil => rfl
  | cons entry entries ih =>
    have hentry : entry.Valid := hv entry List.mem_cons_self
    have hrest := ih fun e he => hv e (List.mem_cons_of_mem _ he)
    have hsplit : lineCount ok op ((entry :: entries).map AuditEntry.line) =
        lineCount ok op [entry.line] + lineCount ok op (entries.map AuditEntry.line) :=
      lineCount_append ok op [entry.line] _
    rw [hsplit, hrest]
    cases entry with
    | written t record =>
      have hone : lineCount ok op [(AuditEntry.written t record).line] =
          recordCount ok op [record] := lineCount_written hentry ok op
      rw [hone]
      exact List.countP_append.symm
    | foreign line =>
      have hnone : lineCount ok op [(AuditEntry.foreign line).line] = 0 := by
        refine lineCount_of_rejected (fun l hl => ?_) ok op
        rw [List.mem_singleton.mp hl]
        exact hentry.2
      rw [hnone, Nat.zero_add]
      rfl

theorem Begins.balanced {entries : List AuditEntry} (hbegin : Begins entries h)
    (hv : ∀ e ∈ entries, e.Valid) : Balanced (entries.filterMap AuditEntry.foreign?) h := by
  refine ⟨entries.map AuditEntry.line, [], hbegin.audit, ?_, ?_, by simp, ?_,
    filter_rejected_entries hv⟩
  · intro l hl
    obtain ⟨entry, hentry, rfl⟩ := List.mem_map.mp hl
    exact (hv entry hentry).line
  · simp [AuditFiles.summaryContents, hbegin.summary]
  · intro ok op
    rw [hbegin.records, hbegin.compactions, lineCount_entries hv]
    simp [ownRecords]

/-- Over a whole history the files stay balanced. -/
theorem balanced_run {entries : List AuditEntry} (hbegin : Begins entries h)
    (hv : ∀ e ∈ entries, e.Valid) {es : List AuditEvent}
    (hok : Lib.Steps (auditStep path) (Successful path) h es) :
    Balanced (entries.filterMap AuditEntry.foreign?) (run (auditStep path) h es) := by
  have hstart := hbegin.balanced hv
  clear hbegin
  induction es generalizing h with
  | nil => exact hstart
  | cons e es ih => exact ih hok.2 (hstart.step hok.1)

end Steps

/-! ## Counts survive compaction -/

/-- What the two files show of a history. -/
structure CountsKept (entries : List AuditEntry) (h : AuditHistory) : Prop where
  counts : ∀ ok op, op ≠ compactOperationId →
    fileCount ok op h.files = recordCount ok op h.records
  compactions : fileCount true compactOperationId h.files =
    h.compactions + recordCount true compactOperationId h.records
  failed : fileCount false compactOperationId h.files =
    recordCount false compactOperationId h.records
  /-- The lines that cannot be read are there, in their order. -/
  rejected : (lines h.files.auditContents).filter isRejected =
    entries.filterMap AuditEntry.foreign?

theorem counts_survive (path : AuditPath) {entries : List AuditEntry} {h : AuditHistory}
    (hv : ∀ e ∈ entries, e.Valid) (hbegin : Begins entries h) {es : List AuditEvent}
    (hok : Lib.Steps (auditStep path) (Successful path) h es) :
    CountsKept entries (run (auditStep path) h es) := by
  obtain ⟨ls, summaries, hb⟩ := balanced_run hbegin hv hok
  refine ⟨?_, ?_, ?_, ?_⟩
  · intro ok op hop
    rw [hb.fileCount_eq, ownRecords, if_neg fun hself => hop hself.1, Nat.add_zero]
  · rw [hb.fileCount_eq, ownRecords, if_pos ⟨rfl, rfl⟩, Nat.add_comm]
  · rw [hb.fileCount_eq, ownRecords, if_neg (by simp), Nat.add_zero]
  · rw [hb.lines_audit, hb.rejected]

def exampleTime : LocalTime :=
  { year := 2024, month := 5, day := 6, hour := 7, minute := 8, second := 9 }

/-- One record and one line that is none. -/
def exampleEntries : List AuditEntry :=
  [.written exampleTime { operationId := "power.apply".toList }, .foreign "---".toList]

def AuditHistory.beginWith (entries : List AuditEntry) : AuditHistory :=
  { files := { audit := some (unlines (entries.map AuditEntry.line)), summary := none }
    records := entries.filterMap AuditEntry.record?
    compactions := 0 }

/-- A failed operation between two compactions; the second one summarises the record of the first. -/
def exampleEvents : List AuditEvent :=
  [.compact keepNothing { now := some exampleTime },
    .append { operationId := "power.apply".toList, ok := false } { now := some exampleTime },
    .compact keepNothing { now := some exampleTime }]

theorem counts_survive_twice :
    CountsKept exampleEntries
        (run (auditStep exampleAuditPath) (.beginWith exampleEntries) exampleEvents) ∧
      (run (auditStep exampleAuditPath) (.beginWith exampleEntries) exampleEvents).compactions = 2 := by
  refine ⟨counts_survive exampleAuditPath (by decide +kernel) ⟨rfl, rfl, rfl, rfl⟩ ?_,
    by decide +kernel⟩
  exact ⟨⟨rfl, by decide +kernel⟩, ⟨by decide +kernel, rfl, by decide +kernel⟩,
    ⟨rfl, by decide +kernel⟩, trivial⟩

/-- A record appended under the name that compactions use. -/
def namesakeEvents : List AuditEvent :=
  [.append { operationId := compactOperationId } { now := some exampleTime },
    .compact keepNothing { now := some exampleTime }]

/-- The count of `audit.compact` is then not the number of compacting runs. -/
theorem namesake_counted :
    Begins [] (.beginWith []) ∧
      Lib.Steps (auditStep exampleAuditPath) (Successful exampleAuditPath) (.beginWith [])
        namesakeEvents ∧
      (run (auditStep exampleAuditPath) (.beginWith []) namesakeEvents).compactions = 1 ∧
      fileCount true compactOperationId
        (run (auditStep exampleAuditPath) (.beginWith []) namesakeEvents).files = 2 := by
  refine ⟨⟨rfl, rfl, rfl, rfl⟩, ?_, by decide +kernel, by decide +kernel⟩
  exact ⟨⟨by decide +kernel, rfl, by decide +kernel⟩, ⟨rfl, by decide +kernel⟩, trivial⟩

end Audit
end CppOptimizer
