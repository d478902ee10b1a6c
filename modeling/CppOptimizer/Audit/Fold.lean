import CppOptimizer.Audit.Counts

/-!
# CppOptimizer.Audit.Fold

The second stage of the compaction (`FoldAuditSummaryFile` in `audit_log.cpp`): when the summary file
has grown too large, its lines are merged into one and the unreadable ones are kept behind it.

* `analyzeAuditSummaryLines` — the totals a reader takes from the lines of a summary file.
* `mergeRecord`, `readSummary` — the loop that merges the lines.
* `foldAuditSummaryFile`     — the call as a whole, with the failures of its file steps.
* `HistoryKept`              — what the lines before and after say is the same, in fewer lines.

The reader of summary lines takes much more than the writer writes. What makes the merged line
readable is that each part of it comes out of a line that was read: `FirstStamp` and `LastStamp` say
what that gives for the two ends of the range.
-/

namespace CppOptimizer
namespace Audit

open Common Lib

/-! ## Totals -/

structure AuditCompactionTotals where
  ranges : Nat := 0
  total : Nat := 0
  ok : Nat := 0
  fail : Nat := 0
  unparsed : Nat := 0
  unparsable : Nat := 0
  firstTimestamp : Text := []
  lastTimestamp : Text := []
  deriving DecidableEq, Repr

def analyzeLine (totals : AuditCompactionTotals) (line : Text) : AuditCompactionTotals :=
  match parseAuditSummaryLine line with
  | none => { totals with unparsable := totals.unparsable + 1 }
  | some record =>
    { totals with
      ranges := totals.ranges + 1
      total := totals.total + record.total
      ok := totals.ok + record.ok
      fail := totals.fail + record.fail
      unparsed := totals.unparsed + record.unparsed
      firstTimestamp :=
        if totals.firstTimestamp = [] then record.firstTimestamp else totals.firstTimestamp
      lastTimestamp :=
        if record.lastTimestamp = [] then totals.lastTimestamp else record.lastTimestamp }

def analyzeAuditSummaryLines (ls : List Text) : AuditCompactionTotals := ls.foldl analyzeLine {}

/-! ## The merge -/

/-- The counts of an operation go to its slot, or to a new one at the end. -/
def addOperationCount (entry : AuditOperationCount) :
    List AuditOperationCount → List AuditOperationCount
  | [] => [entry]
  | slot :: slots =>
    if slot.operationId = entry.operationId then
      { slot with ok := slot.ok + entry.ok, fail := slot.fail + entry.fail } :: slots
    else slot :: addOperationCount entry slots

def mergeRecord (merged : AuditLineSummary) (record : AuditSummaryRecord) : AuditLineSummary :=
  { total := merged.total + record.total
    ok := merged.ok + record.ok
    fail := merged.fail + record.fail
    unparsed := merged.unparsed + record.unparsed
    byOperation :=
      record.byOperation.foldl (fun slots entry => addOperationCount entry slots) merged.byOperation
    firstTimestamp :=
      if merged.firstTimestamp = [] then record.firstTimestamp else merged.firstTimestamp
    lastTimestamp :=
      if record.lastTimestamp = [] then merged.lastTimestamp else record.lastTimestamp }

structure FoldState where
  beforeLines : Nat := 0
  mergedRanges : Nat := 0
  merged : AuditLineSummary := {}
  keptUnparsable : List Text := []
  deriving DecidableEq, Repr

def readSummaryLine (s : FoldState) (line : Text) : FoldState :=
  match parseAuditSummaryLine line with
  | none =>
    { s with beforeLines := s.beforeLines + 1, keptUnparsable := s.keptUnparsable ++ [line] }
  | some record =>
    { s with
      beforeLines := s.beforeLines + 1
      mergedRanges := s.mergedRanges + 1
      merged := mergeRecord s.merged record }

def readSummary (ls : List Text) : FoldState := ls.foldl readSummaryLine {}

def FoldState.rewritten (s : FoldState) : List Text :=
  formatAuditSummaryLine s.merged :: s.keptUnparsable

/-! ## The call -/

/-- `CompactOptions` with the field that only folding reads. -/
structure FoldOptions extends CompactOptions where
  summaryMaxBytes : Nat := 50 * 1024 * 1024
  deriving DecidableEq, Repr

structure FoldSummaryResult where
  folded : Bool := false
  beforeLines : Nat := 0
  afterLines : Nat := 0
  mergedRanges : Nat := 0
  unparsableKept : Nat := 0
  deriving DecidableEq, Repr

def kMaxSummaryReadBytes : Nat := 64 * 1024 * 1024

/-- The path of the summary file: as a whole, and its parts. -/
structure SummaryPath where
  text : Text
  /-- The directory with its separator, or nothing. -/
  parent : Text := []
  stem : Text
  extension : Text := []
  deriving DecidableEq, Repr

def auditPathForSummary (path : SummaryPath) : Option AuditPath :=
  let suffix := "-summary".toList
  if path.stem.length > suffix.length ∧ suffix <:+ path.stem then
    let fileName := path.stem.take (path.stem.length - suffix.length) ++ path.extension
    some { text := path.parent ++ fileName, fileName := fileName, hasParent := path.parent ≠ [] }
  else none

/-- What the file system answers; a step that fails has its Win32 code. -/
structure FoldOutcomes where
  isDirectory : Except Nat Bool := .ok false
  existsSummary : Option Nat := none
  summarySize : Option Nat := none
  openSummary : Option Nat := none
  readSummary : Option Nat := none
  createTemp : Option Nat := none
  writeTemp : Option Nat := none
  moveTemp : Option Nat := none
  append : AppendOutcomes := {}

def foldOperationId : Text := "audit.fold".toList

/-- The record of the fold itself. -/
def foldRecord (auditPath : AuditPath) (options : FoldOptions) (result : FoldSummaryResult) :
    AuditRecord :=
  { operationId := foldOperationId
    risk := .r0
    caller := "audit".toList
    target := auditPath.fileName
    ok := true
    detail := "merged_ranges=".toList ++ decimal result.mergedRanges ++
      " before=".toList ++ decimal result.beforeLines ++
      " after=".toList ++ decimal result.afterLines ++
      " unparsable_kept=".toList ++ decimal result.unparsableKept ++
      " summary_max_bytes=".toList ++ decimal options.summaryMaxBytes }

def foldError (code : Nat) (operation : String) : Result FoldSummaryResult :=
  .error (.fromWin32 code operation)

section Call

variable (path : SummaryPath) (options : FoldOptions) (o : FoldOutcomes) (f : AuditFiles)

/-- The record of the fold, once the file is replaced. A failure to write it is returned, but the fold
stays. -/
def recordFold (result : FoldSummaryResult) : AuditFiles × Result FoldSummaryResult :=
  match auditPathForSummary path with
  | none => (f, .ok result)
  | some auditPath =>
    match appendAuditLine auditPath (foldRecord auditPath options result) o.append f with
    | (f', .error e) => (f', .error e)
    | (f', .ok ()) => (f', .ok result)

/-- From the temporary file on. -/
def replaceSummary (rewritten : List Text) (result : FoldSummaryResult) :
    AuditFiles × Result FoldSummaryResult :=
  match o.createTemp with
  | some code => (f, foldError code "create audit summary temp file")
  | none =>
    match o.writeTemp with
    | some code => ({ f with temp := none }, foldError code "write audit summary temp file")
    | none =>
      match o.moveTemp with
      | some code => ({ f with temp := none }, foldError code "MoveFileExW(audit summary fold)")
      | none =>
        recordFold path options o { f with summary := some (unlines rewritten), temp := none }
          { result with folded := true, afterLines := rewritten.length }

/-- From the lines of the file on: nothing to merge, or nothing to win, is left alone. -/
def foldLines (ls : List Text) : AuditFiles × Result FoldSummaryResult :=
  let s := readSummary ls
  let result : FoldSummaryResult :=
    { beforeLines := s.beforeLines
      afterLines := s.beforeLines
      mergedRanges := s.mergedRanges
      unparsableKept := s.keptUnparsable.length }
  if s.mergedRanges = 0 then (f, .ok result)
  else if 1 + s.keptUnparsable.length ≥ s.beforeLines then (f, .ok result)
  else replaceSummary path options o f s.rewritten result

def foldAuditSummaryFile : AuditFiles × Result FoldSummaryResult :=
  if path.text = [] then (f, .error (.validation "FoldAuditSummaryFile" "路径不能为空"))
  else
    match o.isDirectory with
    | .ok true => (f, .error (.validation "FoldAuditSummaryFile" "汇总路径是目录，不是文件"))
    | .error code => (f, foldError code "is_directory(audit summary)")
    | .ok false =>
      match o.existsSummary with
      | some code => (f, foldError code "exists(audit summary)")
      | none =>
        match f.summary with
        | none => (f, .ok {})
        | some content =>
          match o.summarySize with
          | some code => (f, foldError code "file_size(audit summary)")
          | none =>
            if options.summaryMaxBytes = 0 ∨ content.length < options.summaryMaxBytes then
              (f, .ok {})
            else if content.length > kMaxSummaryReadBytes then
              (f, .error (.validation "FoldAuditSummaryFile"
                "汇总文件超出可折叠读取上限（64 MiB）"))
            else
              match o.openSummary with
              | some code => (f, foldError code "open audit summary for fold")
              | none =>
                match o.readSummary with
                | some code => (f, foldError code "read audit summary for fold")
                | none => foldLines path options o f (lines content)

end Call

/-! ## What has to be kept -/

def isUnparsable (line : Text) : Bool := (parseAuditSummaryLine line).isNone

/-- Two summary files tell the same, and the second one in fewer lines. -/
structure HistoryKept (old new : List Text) : Prop where
  total : (analyzeAuditSummaryLines new).total = (analyzeAuditSummaryLines old).total
  ok : (analyzeAuditSummaryLines new).ok = (analyzeAuditSummaryLines old).ok
  fail : (analyzeAuditSummaryLines new).fail = (analyzeAuditSummaryLines old).fail
  unparsed : (analyzeAuditSummaryLines new).unparsed = (analyzeAuditSummaryLines old).unparsed
  unparsable :
    (analyzeAuditSummaryLines new).unparsable = (analyzeAuditSummaryLines old).unparsable
  firstTimestamp :
    (analyzeAuditSummaryLines new).firstTimestamp = (analyzeAuditSummaryLines old).firstTimestamp
  lastTimestamp :
    (analyzeAuditSummaryLines new).lastTimestamp = (analyzeAuditSummaryLines old).lastTimestamp
  operations : ∀ ok op, summaryCount ok op new = summaryCount ok op old
  verbatim : new.filter isUnparsable = old.filter isUnparsable
  fewer : new.length < old.length

/-- The sums that go into the merged line can be read back from it. -/
structure SumsWithinLimit (ls : List Text) : Prop where
  total : WithinLimit (analyzeAuditSummaryLines ls).total
  ok : WithinLimit (analyzeAuditSummaryLines ls).ok
  fail : WithinLimit (analyzeAuditSummaryLines ls).fail
  unparsed : WithinLimit (analyzeAuditSummaryLines ls).unparsed
  operations : ∀ ok op, WithinLimit (summaryCount ok op ls)

/-! ## What a line that was read gives -/

theorem dot_not_mem_summaryMarker : '.' ∉ summaryMarker := by decide

/-- The begin of a range that was read: written before another end, it is found again. -/
structure FirstStamp (first : Text) : Prop where
  ne_nil : first ≠ []
  newline : '\n' ∉ first
  dots : ∀ rest, cut "..".toList (first ++ ("..".toList ++ rest)) = some (first, rest)
  marker : ∀ text before after, cut summaryMarker ('.' :: text) = some ('.' :: before, after) →
    cut summaryMarker (first ++ '.' :: text) = some (first ++ '.' :: before, after)

/-- The end of a range that was read. -/
structure LastStamp (last : Text) : Prop where
  ne_nil : last ≠ []
  newline : '\n' ∉ last
  marker : ∀ rest, cut summaryMarker (last ++ (summaryMarker ++ rest)) = some (last, rest)

/-- No range, or one whose ends were read. -/
inductive Stamps : Text → Text → Prop where
  | none : Stamps [] []
  | range {first last : Text} : FirstStamp first → LastStamp last → Stamps first last

theorem IsRange.stamps {line range fields first last : Text} (hrange : IsRange range first last)
    (hline : '\n' ∉ line) (hcut : cut summaryMarker line = some (range, fields)) :
    Stamps first last := by
  cases hrange with
  | none _ => exact .none
  | between hdots hfirst hlast =>
    have hparts : range = first ++ ("..".toList ++ last) := eq_append_of_cut hdots
    have htext : line = range ++ (summaryMarker ++ fields) := eq_append_of_cut hcut
    have hnewline : '\n' ∉ range := by
      intro hmem
      exact hline (htext ▸ List.mem_append_left _ hmem)
    subst hparts
    simp only [List.mem_append, not_or] at hnewline
    subst htext
    refine .range ⟨hfirst, hnewline.1, cut_replace hdots, ?_⟩ ⟨hlast, hnewline.2.2, ?_⟩
    · intro text before after hrest
      have hfound : cut summaryMarker
          (first ++ '.' :: ('.' :: last ++ (summaryMarker ++ fields))) =
          some (first ++ '.' :: ('.' :: last), fields) := by
        simpa using hcut
      exact cut_change_rest dot_not_mem_summaryMarker hfound hrest
    · have hsuffix : cut summaryMarker
          ((first ++ "..".toList) ++ (last ++ (summaryMarker ++ fields))) =
          some ((first ++ "..".toList) ++ last, fields) := by
        simpa only [List.append_assoc] using hcut
      exact cut_replace (cut_of_append hsuffix)

/-- An operation that was read can stand in a token again. -/
theorem OperationToken.again {text token : Text} {entry : AuditOperationCount}
    (h : OperationToken token entry) (htoken : token ∈ tokens ' ' text) :
    TokenOperation entry.operationId ∧ entry.operationId ⊆ text := by
  obtain ⟨hblank, hpart⟩ := mem_tokens htoken
  obtain ⟨⟨okText, failText, rfl, -, -⟩, hnamed, hplain⟩ := h
  have hsub : entry.operationId ⊆ entry.operationId ++ '=' :: (okText ++ '/' :: failText) :=
    List.subset_append_left _ _
  exact ⟨⟨hnamed, fun hmem => hblank (hsub hmem), hplain⟩, List.Subset.trans hsub hpart⟩

/-- What a record that was read carries into the merge. -/
structure Mergeable (record : AuditSummaryRecord) : Prop where
  stamps : Stamps record.firstTimestamp record.lastTimestamp
  tokens : ∀ entry ∈ record.byOperation,
    TokenOperation entry.operationId ∧ '\n' ∉ entry.operationId

theorem mergeable_of_parse {line : Text} {record : AuditSummaryRecord} (hline : '\n' ∉ line)
    (h : parseAuditSummaryLine line = some record) : Mergeable record := by
  obtain ⟨range, fields, hcut, hrange, -, hops⟩ := parse_iff.mp h
  refine ⟨hrange.stamps hline hcut, fun entry hentry => ?_⟩
  obtain ⟨token, htoken, hread⟩ := exists_of_forall₂ hops hentry
  obtain ⟨hagain, hsub⟩ := hread.again (skipAll_subset fieldKeys _ htoken)
  refine ⟨hagain, fun hmem => hline ?_⟩
  have htext : line = range ++ (summaryMarker ++ fields) := eq_append_of_cut hcut
  rw [htext]
  exact List.mem_append_right _ (List.mem_append_right _ (hsub hmem))

/-! ## The merge keeps the sums -/

theorem countOf_addOperationCount (ok : Bool) (op : Text) (entry : AuditOperationCount)
    (slots : List AuditOperationCount) :
    countOf ok op (addOperationCount entry slots) = countOf ok op [entry] + countOf ok op slots := by
  induction slots with
  | nil => rfl
  | cons slot slots ih =>
    unfold addOperationCount
    split
    · case _ hsame =>
      by_cases hop : slot.operationId = op
      · have hentry : entry.operationId = op := hsame ▸ hop
        cases ok <;> simp [countOf, AuditOperationCount.countFor, hop, hentry] <;> omega
      · have hentry : entry.operationId ≠ op := hsame ▸ hop
        simp [countOf, hop, hentry]
    · simp only [countOf] at ih ⊢
      omega

theorem countOf_foldl_add (ok : Bool) (op : Text) (entries slots : List AuditOperationCount) :
    countOf ok op (entries.foldl (fun slots entry => addOperationCount entry slots) slots) =
      countOf ok op slots + countOf ok op entries := by
  induction entries generalizing slots with
  | nil => rfl
  | cons entry entries ih =>
    rw [List.foldl_cons, ih, countOf_addOperationCount]
    simp only [countOf]
    omega

/-- The slots are those there were and those of the entries. -/
theorem exists_of_mem_addOperationCount {entry slot : AuditOperationCount}
    {slots : List AuditOperationCount} (h : slot ∈ addOperationCount entry slots) :
    slot.operationId = entry.operationId ∨ ∃ old ∈ slots, slot.operationId = old.operationId := by
  induction slots with
  | nil => exact .inl (by rw [List.mem_singleton.mp h])
  | cons first slots ih =>
    unfold addOperationCount at h
    split at h
    · rcases List.mem_cons.mp h with rfl | h
      · exact .inr ⟨first, List.mem_cons_self, rfl⟩
      · exact .inr ⟨slot, List.mem_cons_of_mem _ h, rfl⟩
    · rcases List.mem_cons.mp h with rfl | h
      · exact .inr ⟨slot, List.mem_cons_self, rfl⟩
      · rcases ih h with hid | ⟨old, hold, hid⟩
        · exact .inl hid
        · exact .inr ⟨old, List.mem_cons_of_mem _ hold, hid⟩

theorem forall_foldl_add {P : Text → Prop} {entries slots : List AuditOperationCount}
    (hentries : ∀ entry ∈ entries, P entry.operationId) (hslots : ∀ slot ∈ slots, P slot.operationId) :
    ∀ slot ∈ entries.foldl (fun slots entry => addOperationCount entry slots) slots,
      P slot.operationId := by
  induction entries generalizing slots with
  | nil => exact hslots
  | cons entry entries ih =>
    refine ih (fun e he => hentries e (List.mem_cons_of_mem _ he)) fun slot hslot => ?_
    rcases exists_of_mem_addOperationCount hslot with hid | ⟨old, hold, hid⟩
    · exact hid ▸ hentries entry List.mem_cons_self
    · exact hid ▸ hslots old hold

theorem Stamps.merge {first last first' last' : Text} (h : Stamps first last)
    (h' : Stamps first' last') :
    Stamps (if first = [] then first' else first) (if last' = [] then last else last') := by
  cases h with
  | none =>
    cases h' with
    | none => exact .none
    | range hf hl =>
      rw [if_pos rfl, if_neg hl.ne_nil]
      exact .range hf hl
  | range hf hl =>
    cases h' with
    | none =>
      rw [if_neg hf.ne_nil, if_pos rfl]
      exact .range hf hl
    | range hf' hl' =>
      rw [if_neg hf.ne_nil, if_neg hl'.ne_nil]
      exact .range hf hl'

/-- The state of the loop after some lines: what is merged is what a reader of these lines adds up,
and the merged parts can be written and read again. -/
structure Merged (ls : List Text) (s : FoldState) : Prop where
  beforeLines : s.beforeLines = ls.length
  kept : s.keptUnparsable = ls.filter isUnparsable
  ranges : s.mergedRanges + s.keptUnparsable.length = ls.length
  total : s.merged.total = (analyzeAuditSummaryLines ls).total
  ok : s.merged.ok = (analyzeAuditSummaryLines ls).ok
  fail : s.merged.fail = (analyzeAuditSummaryLines ls).fail
  unparsed : s.merged.unparsed = (analyzeAuditSummaryLines ls).unparsed
  unparsable : s.keptUnparsable.length = (analyzeAuditSummaryLines ls).unparsable
  firstTimestamp : s.merged.firstTimestamp = (analyzeAuditSummaryLines ls).firstTimestamp
  lastTimestamp : s.merged.lastTimestamp = (analyzeAuditSummaryLines ls).lastTimestamp
  operations : ∀ ok op, countOf ok op s.merged.byOperation = summaryCount ok op ls
  stamps : Stamps s.merged.firstTimestamp s.merged.lastTimestamp
  tokens : ∀ slot ∈ s.merged.byOperation, TokenOperation slot.operationId ∧ '\n' ∉ slot.operationId

theorem summaryCount_append (ok : Bool) (op : Text) (ls ms : List Text) :
    summaryCount ok op (ls ++ ms) = summaryCount ok op ls + summaryCount ok op ms := by
  simp [summaryCount]

section Step

variable {ls : List Text} {s : FoldState} {line : Text}

theorem analyze_snoc : analyzeAuditSummaryLines (ls ++ [line]) =
    analyzeLine (analyzeAuditSummaryLines ls) line := by
  simp [analyzeAuditSummaryLines]

/-- A line that is not a summary record is kept. -/
theorem Merged.unparsableLine (h : Merged ls s) (hparse : parseAuditSummaryLine line = none) :
    Merged (ls ++ [line]) (readSummaryLine s line) := by
  have hcount : ∀ ok op, summaryCount ok op [line] = 0 := by simp [summaryCount, hparse]
  have hranges := h.ranges
  simp only [readSummaryLine, hparse]
  constructor
  all_goals simp only [analyze_snoc, analyzeLine, hparse, summaryCount_append, hcount,
    List.length_append, List.length_singleton, List.filter_append]
  · rw [h.beforeLines]
  · rw [h.kept]
    simp [isUnparsable, hparse]
  · omega
  · exact h.total
  · exact h.ok
  · exact h.fail
  · exact h.unparsed
  · rw [h.unparsable]
  · exact h.firstTimestamp
  · exact h.lastTimestamp
  · exact h.operations
  · exact h.stamps
  · exact h.tokens

/-- A summary record is merged. -/
theorem Merged.recordLine (h : Merged ls s) (hline : '\n' ∉ line) {record : AuditSummaryRecord}
    (hparse : parseAuditSummaryLine line = some record) :
    Merged (ls ++ [line]) (readSummaryLine s line) := by
  have hrecord := mergeable_of_parse hline hparse
  have hcount : ∀ ok op, summaryCount ok op [line] = countOf ok op record.byOperation := by
    simp [summaryCount, hparse]
  have hranges := h.ranges
  simp only [readSummaryLine, hparse]
  constructor
  all_goals simp only [analyze_snoc, analyzeLine, hparse, mergeRecord, summaryCount_append, hcount,
    List.length_append, List.length_singleton, List.filter_append]
  · rw [h.beforeLines]
  · rw [h.kept]
    simp [isUnparsable, hparse]
  · omega
  · rw [h.total]
  · rw [h.ok]
  · rw [h.fail]
  · rw [h.unparsed]
  · exact h.unparsable
  · rw [h.firstTimestamp]
  · rw [h.lastTimestamp]
  · intro ok op
    rw [countOf_foldl_add, h.operations]
  · exact h.stamps.merge hrecord.stamps
  · exact forall_foldl_add (P := fun op => TokenOperation op ∧ '\n' ∉ op) hrecord.tokens h.tokens

theorem Merged.step (h : Merged ls s) (hline : '\n' ∉ line) :
    Merged (ls ++ [line]) (readSummaryLine s line) := by
  cases hparse : parseAuditSummaryLine line with
  | none => exact h.unparsableLine hparse
  | some record => exact h.recordLine hline hparse

end Step

theorem merged_readSummary {ls : List Text} (h : ∀ l ∈ ls, '\n' ∉ l) :
    Merged ls (readSummary ls) := by
  induction ls using List.reverseRecOn with
  | nil =>
    exact
      { beforeLines := rfl, kept := rfl, ranges := rfl, total := rfl, ok := rfl, fail := rfl
        unparsed := rfl, unparsable := rfl, firstTimestamp := rfl, lastTimestamp := rfl
        operations := fun _ _ => rfl
        stamps := .none
        tokens := fun _ hslot => nomatch hslot }
  | append_singleton ls line ih =>
    have hread : readSummary (ls ++ [line]) = readSummaryLine (readSummary ls) line := by
      simp [readSummary]
    rw [hread]
    exact (ih fun l hl => h l (List.mem_append_left _ hl)).step (h line (by simp))

/-! ## The merged line is read back -/

theorem cut_marker_dot {text before after : Text}
    (h : cut summaryMarker text = some (before, after)) :
    cut summaryMarker ('.' :: text) = some ('.' :: before, after) := by
  have hmarker : summaryMarker = ' ' :: summaryMarker.drop 1 := by decide
  have hmismatch : ¬ summaryMarker <+: '.' :: text := by
    intro hprefix
    rw [hmarker] at hprefix
    exact absurd (List.cons_prefix_cons.mp hprefix).1 (by decide)
  rw [cut_cons_of_mismatch hmismatch, h]
  rfl

/-- The range of a merged line: none, or the begin of one range and the end of another. -/
theorem Stamps.formatRange_cases {summary : AuditLineSummary}
    (h : Stamps summary.firstTimestamp summary.lastTimestamp) :
    (summary.firstTimestamp = [] ∧ summary.lastTimestamp = [] ∧ formatRange summary = []) ∨
      (FirstStamp summary.firstTimestamp ∧ LastStamp summary.lastTimestamp ∧
        formatRange summary =
          summary.firstTimestamp ++ ("..".toList ++ summary.lastTimestamp)) := by
  unfold formatRange
  generalize summary.firstTimestamp = first at h
  generalize summary.lastTimestamp = last at h
  cases h with
  | none => exact .inl ⟨rfl, rfl, rfl⟩
  | range hfirst hlast => exact .inr ⟨hfirst, hlast, if_neg hfirst.ne_nil⟩

theorem Stamps.marker {summary : AuditLineSummary}
    (h : Stamps summary.firstTimestamp summary.lastTimestamp) (rest : Text) :
    cut summaryMarker (formatRange summary ++ (summaryMarker ++ rest)) =
      some (formatRange summary, rest) := by
  rcases h.formatRange_cases with ⟨-, -, hrange⟩ | ⟨hfirst, hlast, hrange⟩
  · rw [hrange]
    exact cut_append summaryMarker rest
  · have hdots : "..".toList = ['.', '.'] := by decide
    have hend := hfirst.marker _ _ _ (cut_marker_dot (cut_marker_dot (hlast.marker rest)))
    rw [hrange, hdots]
    simpa using hend

theorem Stamps.parseRange {summary : AuditLineSummary}
    (h : Stamps summary.firstTimestamp summary.lastTimestamp) :
    parseRange (formatRange summary) = some (summary.firstTimestamp, summary.lastTimestamp) := by
  rcases h.formatRange_cases with ⟨hfirst, hlast, hrange⟩ | ⟨hfirst, hlast, hrange⟩
  · rw [hrange, hfirst, hlast]
    rfl
  · have hne : summary.firstTimestamp ++ ("..".toList ++ summary.lastTimestamp) ≠ [] := by
      simp [hfirst.ne_nil]
    rw [hrange, Audit.parseRange, if_neg hne, hfirst.dots]
    exact if_neg (not_or.mpr ⟨hfirst.ne_nil, hlast.ne_nil⟩)

theorem Stamps.newline_not_mem {summary : AuditLineSummary}
    (h : Stamps summary.firstTimestamp summary.lastTimestamp) : '\n' ∉ formatRange summary := by
  rcases h.formatRange_cases with ⟨-, -, hrange⟩ | ⟨hfirst, hlast, hrange⟩
  · rw [hrange]
    exact List.not_mem_nil
  · rw [hrange]
    exact List.not_mem_append hfirst.newline (List.not_mem_append (by decide) hlast.newline)

theorem countFor_le_countOf {entry : AuditOperationCount} {entries : List AuditOperationCount}
    (h : entry ∈ entries) (ok : Bool) :
    entry.countFor ok ≤ countOf ok entry.operationId entries := by
  induction entries with
  | nil => cases h
  | cons first entries ih =>
    rcases List.mem_cons.mp h with rfl | h
    · simp [countOf]
    · have hle := ih h
      simp only [countOf]
      omega

theorem WithinLimit.mono {m n : Nat} (h : WithinLimit n) (hle : m ≤ n) : WithinLimit m :=
  (Nat.div_le_div_right hle).trans h

theorem Merged.rereadable {ls : List Text} {s : FoldState} (h : Merged ls s)
    (hlimit : SumsWithinLimit ls) : Rereadable s.merged where
  marker := h.stamps.marker
  range := h.stamps.parseRange
  total := h.total ▸ hlimit.total
  ok := h.ok ▸ hlimit.ok
  fail := h.fail ▸ hlimit.fail
  unparsed := h.unparsed ▸ hlimit.unparsed
  byOperation := by
    intro slot hslot
    have hcount : ∀ ok, WithinLimit (slot.countFor ok) := by
      intro ok
      have hle := countFor_le_countOf hslot ok
      rw [h.operations] at hle
      exact (hlimit.operations ok slot.operationId).mono hle
    exact ⟨(h.tokens slot hslot).1, hcount true, hcount false⟩

theorem Merged.newline_not_mem {ls : List Text} {s : FoldState} (h : Merged ls s)
    (hls : ∀ l ∈ ls, '\n' ∉ l) : ∀ l ∈ s.rewritten, '\n' ∉ l := by
  intro l hl
  rcases List.mem_cons.mp hl with rfl | hl
  · exact newline_not_mem_formatAuditSummaryLine h.stamps.newline_not_mem
      fun slot hslot => (h.tokens slot hslot).2
  · rw [h.kept] at hl
    exact hls l (List.mem_of_mem_filter hl)

/-! ## What the rewritten lines say -/

/-- Lines that cannot be read are counted, and say nothing else. -/
theorem foldl_analyzeLine_unparsable {ls : List Text} (h : ∀ l ∈ ls, isUnparsable l = true)
    (totals : AuditCompactionTotals) :
    ls.foldl analyzeLine totals = { totals with unparsable := totals.unparsable + ls.length } := by
  induction ls generalizing totals with
  | nil => rfl
  | cons line ls ih =>
    have hline : parseAuditSummaryLine line = none :=
      Option.isNone_iff_eq_none.mp (h line List.mem_cons_self)
    rw [List.foldl_cons, ih fun l hl => h l (List.mem_cons_of_mem _ hl)]
    simp only [analyzeLine, hline, List.length_cons]
    congr 1
    omega

theorem summaryCount_unparsable {ls : List Text} (h : ∀ l ∈ ls, isUnparsable l = true) (ok : Bool)
    (op : Text) : summaryCount ok op ls = 0 := by
  have hnone : ls.filterMap parseAuditSummaryLine = [] :=
    List.filterMap_eq_nil_iff.mpr fun l hl => Option.isNone_iff_eq_none.mp (h l hl)
  rw [summaryCount, hnone]
  rfl

section Rewritten

variable {ls : List Text} {s : FoldState}

theorem Merged.unparsable_of_kept (h : Merged ls s) :
    ∀ l ∈ s.keptUnparsable, isUnparsable l = true := by
  rw [h.kept]
  exact fun l hl => (List.mem_filter.mp hl).2

theorem Merged.filter_rewritten (h : Merged ls s) (hlimit : SumsWithinLimit ls) :
    s.rewritten.filter isUnparsable = s.keptUnparsable := by
  have hmerged : isUnparsable (formatAuditSummaryLine s.merged) = false := by
    rw [isUnparsable, (h.rereadable hlimit).parse]
    rfl
  rw [FoldState.rewritten, List.filter_cons_of_neg (by simp [hmerged])]
  exact List.filter_eq_self.mpr h.unparsable_of_kept

theorem Merged.analyze_rewritten (h : Merged ls s) (hlimit : SumsWithinLimit ls) :
    analyzeAuditSummaryLines s.rewritten =
      { ranges := 1
        total := s.merged.total
        ok := s.merged.ok
        fail := s.merged.fail
        unparsed := s.merged.unparsed
        unparsable := s.keptUnparsable.length
        firstTimestamp := s.merged.firstTimestamp
        lastTimestamp := s.merged.lastTimestamp } := by
  have hlast : (if s.merged.lastTimestamp = [] then [] else s.merged.lastTimestamp) =
      s.merged.lastTimestamp := by
    split
    · case _ hnil => exact hnil.symm
    · rfl
  rw [analyzeAuditSummaryLines, FoldState.rewritten, List.foldl_cons,
    foldl_analyzeLine_unparsable h.unparsable_of_kept]
  simp [analyzeLine, (h.rereadable hlimit).parse, hlast]

theorem Merged.summaryCount_rewritten (h : Merged ls s) (hlimit : SumsWithinLimit ls) (ok : Bool)
    (op : Text) : summaryCount ok op s.rewritten = summaryCount ok op ls := by
  have hmerged : summaryCount ok op [formatAuditSummaryLine s.merged] =
      countOf ok op s.merged.byOperation := by
    simp [summaryCount, (h.rereadable hlimit).parse]
  calc summaryCount ok op s.rewritten
      = summaryCount ok op [formatAuditSummaryLine s.merged] +
          summaryCount ok op s.keptUnparsable := summaryCount_append ok op [_] _
    _ = countOf ok op s.merged.byOperation + 0 := by
      rw [hmerged, summaryCount_unparsable h.unparsable_of_kept]
    _ = summaryCount ok op ls := h.operations ok op

theorem Merged.historyKept (h : Merged ls s) (hlimit : SumsWithinLimit ls)
    (hfewer : 1 + s.keptUnparsable.length < s.beforeLines) : HistoryKept ls s.rewritten := by
  have hanalyze := h.analyze_rewritten hlimit
  constructor
  · rw [hanalyze, ← h.total]
  · rw [hanalyze, ← h.ok]
  · rw [hanalyze, ← h.fail]
  · rw [hanalyze, ← h.unparsed]
  · rw [hanalyze, ← h.unparsable]
  · rw [hanalyze, ← h.firstTimestamp]
  · rw [hanalyze, ← h.lastTimestamp]
  · exact h.summaryCount_rewritten hlimit
  · rw [h.filter_rewritten hlimit, h.kept]
  · have hlines := h.beforeLines
    simp only [FoldState.rewritten, List.length_cons]
    omega

/-- A rewritten file has nothing left to win. -/
theorem Merged.nothing_to_win (h : Merged ls s) (hls : ∀ l ∈ ls, '\n' ∉ l)
    (hlimit : SumsWithinLimit ls) :
    (readSummary s.rewritten).beforeLines ≤
      1 + (readSummary s.rewritten).keptUnparsable.length := by
  have hagain := merged_readSummary (h.newline_not_mem hls)
  rw [hagain.beforeLines, hagain.kept, h.filter_rewritten hlimit, FoldState.rewritten,
    List.length_cons]
  omega

end Rewritten

/-! ## How a fold ends -/

section End

variable (path : SummaryPath) (options : FoldOptions) (o : FoldOutcomes) (f : AuditFiles)

inductive FoldEnd : AuditFiles × Result FoldSummaryResult → Prop where
  /-- The summary file is as it was, and the result does not say otherwise. -/
  | idle {temp : Option Text} {result : Result FoldSummaryResult} :
    temp = f.temp ∨ temp = none → (∀ r, result = .ok r → r.folded = false) →
    FoldEnd ({ f with temp := temp }, result)
  /-- The summary file is rewritten; the record of it may have failed. -/
  | replaced {content : Text} {audit : Option Text} {result : Result FoldSummaryResult} :
    f.summary = some content →
    1 + (readSummary (lines content)).keptUnparsable.length <
      (readSummary (lines content)).beforeLines →
    (∀ r, result = .ok r → r.folded = true) →
    FoldEnd ({ f with
      audit := audit
      summary := some (unlines (readSummary (lines content)).rewritten)
      temp := none }, result)

theorem FoldEnd.of_error {e : Error} : FoldEnd f (f, .error e) :=
  .idle (.inl rfl) fun _ h => nomatch h

theorem FoldEnd.of_removed {e : Error} : FoldEnd f ({ f with temp := none }, .error e) :=
  .idle (.inr rfl) fun _ h => nomatch h

theorem FoldEnd.of_idle {r : FoldSummaryResult} (hr : r.folded = false) : FoldEnd f (f, .ok r) := by
  have hend : ∀ r', (Except.ok r : Result FoldSummaryResult) = .ok r' → r'.folded = false := by
    intro r' h
    cases h
    exact hr
  exact FoldEnd.idle (.inl rfl) hend

theorem appendAuditLine_keeps (auditPath : AuditPath) (record : AuditRecord) (a : AppendOutcomes) :
    ∃ audit, (appendAuditLine auditPath record a f).1 = { f with audit := audit } := by
  unfold appendAuditLine
  split
  · exact ⟨f.audit, rfl⟩
  · split
    · exact ⟨f.audit, rfl⟩
    · split
      · exact ⟨f.audit, rfl⟩
      · split
        · exact ⟨_, rfl⟩
        · exact ⟨_, rfl⟩

theorem recordFold_keeps (r : FoldSummaryResult) :
    ∃ audit result, recordFold path options o f r = ({ f with audit := audit }, result) ∧
      ∀ r', result = .ok r' → r' = r := by
  unfold recordFold
  split
  · refine ⟨f.audit, .ok r, rfl, fun r' h => ?_⟩
    cases h
    rfl
  · case _ auditPath _ =>
    obtain ⟨audit, haudit⟩ :=
      appendAuditLine_keeps f auditPath (foldRecord auditPath options r) o.append
    split
    · case _ f' e happend =>
      rw [happend] at haudit
      simp only at haudit
      exact ⟨audit, .error e, by rw [haudit], fun _ h => nomatch h⟩
    · case _ f' happend =>
      rw [happend] at haudit
      simp only at haudit
      refine ⟨audit, .ok r, by rw [haudit], fun r' h => ?_⟩
      cases h
      rfl

theorem foldLines_end {content : Text} (hsummary : f.summary = some content) :
    FoldEnd f (foldLines path options o f (lines content)) := by
  unfold foldLines
  dsimp only
  split
  · exact .of_idle f rfl
  · split
    · exact .of_idle f rfl
    · case _ hfewer =>
      unfold replaceSummary
      split
      · exact .of_error f
      · split
        · exact .of_removed f
        · split
          · exact .of_removed f
          · obtain ⟨audit, result, hrecord, hresult⟩ := recordFold_keeps path options o
              { f with
                summary := some (unlines (readSummary (lines content)).rewritten)
                temp := none } _
            rw [hrecord]
            refine .replaced hsummary (not_le.mp hfewer) fun r hr => ?_
            rw [hresult r hr]

theorem fold_end : FoldEnd f (foldAuditSummaryFile path options o f) := by
  unfold foldAuditSummaryFile
  split
  · exact .of_error f
  · split
    · exact .of_error f
    · exact .of_error f
    · split
      · exact .of_error f
      · split
        · exact .of_idle f rfl
        · case _ content hsummary =>
          split
          · exact .of_error f
          · split
            · exact .of_idle f rfl
            · split
              · exact .of_error f
              · split
                · exact .of_error f
                · split
                  · exact .of_error f
                  · exact foldLines_end path options o f hsummary

end End

/-! ## Folding keeps the history -/

theorem merged_lines (content : Text) : Merged (lines content) (readSummary (lines content)) :=
  merged_readSummary fun _ hl => newline_not_mem_of_mem_lines hl

/-- The new file has the rewritten lines. -/
theorem lines_rewritten (content : Text) :
    lines (unlines (readSummary (lines content)).rewritten) =
      (readSummary (lines content)).rewritten :=
  lines_unlines ((merged_lines content).newline_not_mem fun _ hl => newline_not_mem_of_mem_lines hl)

/-- The flag in the result tells whether the file was rewritten. -/
theorem folded_iff_rewritten {path : SummaryPath} {options : FoldOptions} {o : FoldOutcomes}
    {f : AuditFiles} {r : FoldSummaryResult}
    (hr : (foldAuditSummaryFile path options o f).2 = .ok r) :
    r.folded = true ↔ (foldAuditSummaryFile path options o f).1.summary ≠ f.summary := by
  have hend := fold_end path options o f
  generalize foldAuditSummaryFile path options o f = out at hr hend ⊢
  cases hend with
  | idle _ hresult =>
    have hidle := hresult r hr
    simp [hidle]
  | @replaced content audit result hsummary hfewer hresult =>
    have hlines := lines_rewritten content
    refine ⟨fun _ heq => ?_, fun _ => hresult r hr⟩
    rw [hsummary, Option.some.injEq] at heq
    rw [heq] at hlines
    have hlength := congrArg List.length hlines
    rw [← (merged_lines content).beforeLines, FoldState.rewritten, List.length_cons] at hlength
    omega

/-- When a summary file is folded, even if the record of the fold then fails, the new file tells what the
old one told in fewer lines, and folding it again with the same options leaves all files as they are. -/
theorem fold_keeps_history (path : SummaryPath) (options : FoldOptions) (o : FoldOutcomes)
    {f : AuditFiles} {content : Text} (hold : f.summary = some content)
    (hlimit : SumsWithinLimit (lines content))
    (hfold : (foldAuditSummaryFile path options o f).1.summary ≠ some content) :
    ∃ content', (foldAuditSummaryFile path options o f).1.summary = some content' ∧
      HistoryKept (lines content) (lines content') ∧
      ∀ o', (foldAuditSummaryFile path options o' (foldAuditSummaryFile path options o f).1).1 =
        (foldAuditSummaryFile path options o f).1 := by
  have hend := fold_end path options o f
  generalize foldAuditSummaryFile path options o f = out at hfold hend ⊢
  cases hend with
  | idle => exact absurd hold hfold
  | @replaced content₀ audit result hsummary hfewer _ =>
    obtain rfl : content = content₀ := Option.some.inj (hold.symm.trans hsummary)
    have hmerged := merged_lines content
    refine ⟨_, rfl, ?_, fun o' => ?_⟩
    · rw [lines_rewritten]
      exact hmerged.historyKept hlimit hfewer
    · generalize hg : ({ f with
        audit := audit
        summary := some (unlines (readSummary (lines content)).rewritten)
        temp := none } : AuditFiles) = g
      have hagain := fold_end path options o' g
      generalize foldAuditSummaryFile path options o' g = again at hagain
      cases hagain with
      | idle htemp _ =>
        subst hg
        rcases htemp with rfl | rfl <;> rfl
      | @replaced content' audit' result' hsummary' hfewer' _ =>
        subst hg
        obtain rfl := Option.some.inj hsummary'
        have hnothing :=
          hmerged.nothing_to_win (fun _ hl => newline_not_mem_of_mem_lines hl) hlimit
        rw [lines_rewritten] at hfewer'
        omega

def exampleSummaryPath : SummaryPath :=
  { text := "audit-summary.log".toList, stem := "audit-summary".toList, extension := ".log".toList }

/-- A summary without a range, a line of something else, and a summary with one operation twice. -/
def exampleSummaryLines : List Text :=
  [" [audit-summary] total=1 ok=1 fail=0 unparsed=2 p.boost=1/0".toList,
    "torn".toList,
    "a..b..c [audit-summary] total=3 ok=2 fail=1 unparsed=0 p.boost=1/1 p.boost=1/0".toList]

def exampleSummaryFiles : AuditFiles :=
  { audit := none, summary := some (unlines exampleSummaryLines) }

theorem sumsWithinLimit_example : SumsWithinLimit (lines (unlines exampleSummaryLines)) := by
  have hread : (lines (unlines exampleSummaryLines)).filterMap parseAuditSummaryLine =
      [{ total := 1, ok := 1, unparsed := 2
         byOperation := [{ operationId := "p.boost".toList, ok := 1 }] },
        { firstTimestamp := "a".toList, lastTimestamp := "b..c".toList, total := 3, ok := 2, fail := 1
          byOperation := [{ operationId := "p.boost".toList, ok := 1, fail := 1 },
            { operationId := "p.boost".toList, ok := 1 }] }] ∧
      analyzeAuditSummaryLines (lines (unlines exampleSummaryLines)) =
        { ranges := 2, total := 4, ok := 3, fail := 1, unparsed := 2, unparsable := 1
          firstTimestamp := "a".toList, lastTimestamp := "b..c".toList } := by
    decide +kernel
  obtain ⟨hrecords, hsums⟩ := hread
  have hsmall : ∀ n ≤ 4, WithinLimit n := fun n hn => withinLimit_of_le (hn.trans (by decide))
  constructor
  · rw [hsums]
    exact hsmall 4 (by decide)
  · rw [hsums]
    exact hsmall 3 (by decide)
  · rw [hsums]
    exact hsmall 1 (by decide)
  · rw [hsums]
    exact hsmall 2 (by decide)
  · intro ok op
    refine hsmall _ ?_
    rw [summaryCount, hrecords]
    generalize "p.boost".toList = boost
    by_cases hop : boost = op
    · cases ok <;> simp [countOf, AuditOperationCount.countFor, hop]
    · simp [countOf, hop]

theorem example_history_kept :
    ∃ content', (foldAuditSummaryFile exampleSummaryPath { summaryMaxBytes := 1 } {}
        exampleSummaryFiles).1.summary = some content' ∧
      HistoryKept (lines (unlines exampleSummaryLines)) (lines content') ∧
      ∀ o', (foldAuditSummaryFile exampleSummaryPath { summaryMaxBytes := 1 } o'
        (foldAuditSummaryFile exampleSummaryPath { summaryMaxBytes := 1 } {}
          exampleSummaryFiles).1).1 =
        (foldAuditSummaryFile exampleSummaryPath { summaryMaxBytes := 1 } {}
          exampleSummaryFiles).1 :=
  fold_keeps_history exampleSummaryPath { summaryMaxBytes := 1 } {} rfl sumsWithinLimit_example
    (by decide +kernel)

end Audit
end CppOptimizer
