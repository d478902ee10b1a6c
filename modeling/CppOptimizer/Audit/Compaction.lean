import CppOptimizer.Audit.Log
import CppOptimizer.Common.Error
import CppOptimizer.Lib.Prog

/-!
# CppOptimizer.Audit.Compaction

`CompactAuditFile`: old records of the audit file become one line of the summary file, and the rest
is written anew.

* `compactAuditFile` — the function as a program over its file steps: write a temporary file, append
  the summary line, replace the audit file, and on a failed replacement cut the summary back to the
  size it had.
* `CompactOutcomes`  — what the file system does with each step; every step is taken at most once.
* `failure_atomic_iff` — on which outcomes a failed call leaves both files as they were.

Two slips are in the way: a summary line that is written in part stays, and a size that could not be
asked counts as zero, so that cutting back empties the summary.
-/

namespace CppOptimizer
namespace Audit

open Common Lib

/-! ## Options and result -/

structure CompactOptions where
  maxBytes : Nat := 10 * 1024 * 1024
  maxLines : Nat := 20000
  keepTailLines : Nat := 2000
  deriving DecidableEq, Repr

structure CompactResult where
  compacted : Bool := false
  beforeLines : Nat := 0
  afterLines : Nat := 0
  summarizedLines : Nat := 0
  unparsedKept : Nat := 0
  deriving DecidableEq, Repr

def shouldCompactAuditFile (currentBytes currentLines : Nat) (options : CompactOptions) : Bool :=
  (options.maxBytes > 0 && currentBytes ≥ options.maxBytes) ||
    (options.maxLines > 0 && currentLines ≥ options.maxLines)

def kMaxAuditReadBytes : Nat := 8 * 1024 * 1024

/-- The path of the audit file: as a whole, its last part, and whether it names a directory. -/
structure AuditPath where
  text : Text
  fileName : Text
  hasParent : Bool
  deriving DecidableEq, Repr

/-! ## File steps -/

inductive AuditCall where
  | existsAudit
  | auditSize
  | openAudit
  | readAudit
  | localTime
  | createTemp
  | writeTemp (content : Text)
  | deleteTemp
  | existsSummary
  | summarySize
  | createDirectories
  | openSummary
  | appendSummary (text : Text)
  | moveTemp
  | resizeSummary (size : Nat)
  deriving DecidableEq, Repr

/-- A step answers with a Win32 code when it fails. -/
def AuditCall.Answer : AuditCall → Type
  | .existsAudit => Except Nat Bool
  | .auditSize => Except Nat Nat
  | .openAudit => Except Nat Unit
  | .readAudit => Except Nat Text
  | .localTime => Option LocalTime
  | .createTemp => Except Nat Unit
  | .writeTemp _ => Except Nat Unit
  | .deleteTemp => Unit
  | .existsSummary => Except Nat Bool
  | .summarySize => Except Nat Nat
  | .createDirectories => Except Nat Unit
  | .openSummary => Except Nat Unit
  | .appendSummary _ => Except Nat Unit
  | .moveTemp => Except Nat Unit
  | .resizeSummary _ => Unit

abbrev AuditProg := Prog AuditCall AuditCall.Answer

/-! ## What is kept -/

/-- The lines that are summarised. -/
def headLines (options : CompactOptions) (ls : List Text) : List Text :=
  ls.take (ls.length - min options.keepTailLines ls.length)

def tailLines (options : CompactOptions) (ls : List Text) : List Text :=
  ls.drop (ls.length - min options.keepTailLines ls.length)

def isRejected (line : Text) : Bool := (parseAuditLinePrefix line).isNone

/-- The lines of the head that cannot be read stay, and so does the tail. -/
def retainedLines (options : CompactOptions) (ls : List Text) : List Text :=
  (headLines options ls).filter isRejected ++ tailLines options ls

def headSummary (options : CompactOptions) (ls : List Text) : AuditLineSummary :=
  summarizeAuditLines (headLines options ls)

def compactOperationId : Text := "audit.compact".toList

/-- The record of the compaction itself. -/
def selfRecord (path : AuditPath) (options : CompactOptions) (ls : List Text) : AuditRecord :=
  { operationId := compactOperationId
    risk := .r0
    caller := "audit".toList
    target := path.fileName
    ok := true
    detail :=
      "before=".toList ++ (decimal ls.length ++ (" after=".toList ++
        (decimal ((retainedLines options ls).length + 1) ++ (" summarized=".toList ++
          (decimal (headSummary options ls).total ++ (" unparsed=".toList ++
            (decimal (headSummary options ls).unparsed ++ (" threshold_bytes=".toList ++
              (decimal options.maxBytes ++ (" threshold_lines=".toList ++
                decimal options.maxLines)))))))))) }

/-- The audit file after the compaction. -/
def compactedText (path : AuditPath) (options : CompactOptions) (ls : List Text)
    (now : Option LocalTime) : Text :=
  unlines (retainedLines options ls ++ [formatAuditLineAscii now (selfRecord path options ls)])

/-- What is appended to the summary file. -/
def summaryText (options : CompactOptions) (ls : List Text) : Text :=
  formatAuditSummaryLine (headSummary options ls) ++ ['\n']

/-! ## The function -/

def fileError (code : Nat) (operation : String) : Result CompactResult :=
  .error (.fromWin32 code operation)

/-- Clean up and fail. -/
def failRemovingTemp (code : Nat) (operation : String) : AuditProg (Result CompactResult) := do
  let _ ← Prog.perform AuditCall.deleteTemp
  pure (fileError code operation)

/-- The size to cut the summary back to; zero when it cannot be had. -/
def rememberSummarySize : AuditProg Nat := do
  match ← Prog.perform AuditCall.existsSummary with
  | .ok true =>
    match ← Prog.perform AuditCall.summarySize with
    | .ok size => pure size
    | .error _ => pure 0
  | _ => pure 0

/-- The replacement of the audit file, with the cut-back of the summary on failure. -/
def replaceAudit (summaryBeforeBytes : Nat) (result : CompactResult) :
    AuditProg (Result CompactResult) := do
  match ← Prog.perform AuditCall.moveTemp with
  | .error code => do
    let _ ← Prog.perform AuditCall.deleteTemp
    let _ ← Prog.perform (AuditCall.resizeSummary summaryBeforeBytes)
    pure (fileError code "MoveFileExW(audit compact)")
  | .ok () => pure (.ok result)

/-- The summary line, then the replacement. -/
def appendAndReplace (summary : Text) (summaryBeforeBytes : Nat) (result : CompactResult) :
    AuditProg (Result CompactResult) := do
  match ← Prog.perform AuditCall.openSummary with
  | .error code => failRemovingTemp code "open audit summary for append"
  | .ok () =>
    match ← Prog.perform (AuditCall.appendSummary summary) with
    | .error code => failRemovingTemp code "append audit summary"
    | .ok () => replaceAudit summaryBeforeBytes result

def createParent (path : AuditPath) : AuditProg (Except Nat Unit) :=
  if path.hasParent then Prog.perform AuditCall.createDirectories else pure (.ok ())

/-- From the temporary file on. -/
def writeCompacted (path : AuditPath) (content summary : Text) (result : CompactResult) :
    AuditProg (Result CompactResult) := do
  match ← Prog.perform AuditCall.createTemp with
  | .error code => pure (fileError code "create audit temp file")
  | .ok () =>
    match ← Prog.perform (AuditCall.writeTemp content) with
    | .error code => failRemovingTemp code "write audit temp file"
    | .ok () => do
      let summaryBeforeBytes ← rememberSummarySize
      match ← createParent path with
      | .error code => failRemovingTemp code "create_directories(audit summary)"
      | .ok () => appendAndReplace summary summaryBeforeBytes result

/-- From the lines of the file on. -/
def compactLines (path : AuditPath) (options : CompactOptions) (size : Nat) (ls : List Text) :
    AuditProg (Result CompactResult) :=
  if shouldCompactAuditFile size ls.length options = false then
    pure (.ok { beforeLines := ls.length, afterLines := ls.length })
  else if retainedLines options ls = ls then
    pure (.ok { beforeLines := ls.length
                afterLines := ls.length
                unparsedKept := (headSummary options ls).unparsed })
  else do
    let now ← Prog.perform AuditCall.localTime
    writeCompacted path (compactedText path options ls now) (summaryText options ls)
      { compacted := true
        beforeLines := ls.length
        afterLines := (retainedLines options ls).length + 1
        summarizedLines := (headSummary options ls).total
        unparsedKept := (headSummary options ls).unparsed }

def compactAuditFile (path : AuditPath) (options : CompactOptions) :
    AuditProg (Result CompactResult) :=
  if path.text = [] then pure (.error (.validation "CompactAuditFile" "路径不能为空"))
  else do
    match ← Prog.perform AuditCall.existsAudit with
    | .error code => pure (fileError code "exists(audit log)")
    | .ok false => pure (.ok {})
    | .ok true =>
      match ← Prog.perform AuditCall.auditSize with
      | .error code => pure (fileError code "file_size(audit log)")
      | .ok size =>
        if size > kMaxAuditReadBytes then
          pure (.error (.validation "CompactAuditFile" "审计文件超出可压缩上限（8 MiB）"))
        else
          match ← Prog.perform AuditCall.openAudit with
          | .error code => pure (fileError code "open audit log for compact")
          | .ok () =>
            match ← Prog.perform AuditCall.readAudit with
            | .error code => pure (fileError code "read audit log for compact")
            | .ok content => compactLines path options size (lines content)

/-! ## The file system -/

structure AuditFiles where
  audit : Option Text
  summary : Option Text
  temp : Option Text := none
  deriving DecidableEq, Repr

/-- A file that does not exist has no contents. -/
def AuditFiles.summaryContents (f : AuditFiles) : Text := f.summary.getD []

/-- The code with which a step fails, if it does. -/
structure CompactOutcomes where
  existsAudit : Option Nat := none
  auditSize : Option Nat := none
  openAudit : Option Nat := none
  readAudit : Option Nat := none
  createTemp : Option Nat := none
  writeTemp : Option Nat := none
  existsSummary : Option Nat := none
  summarySize : Option Nat := none
  createDirectories : Option Nat := none
  openSummary : Option Nat := none
  /-- A failed append, with the number of bytes that got into the file. -/
  appendSummary : Option (Nat × Nat) := none
  moveTemp : Option Nat := none
  now : Option LocalTime := none
  deriving DecidableEq, Repr

def answerOr {α : Type} (failure : Option Nat) (a : α) : Except Nat α :=
  match failure with
  | some code => .error code
  | none => .ok a

/-- `std::filesystem::resize_file`. -/
def resizeText (size : Nat) (text : Text) : Text :=
  text.take size ++ List.replicate (size - text.length) '\x00'

def auditHandler : Handler AuditCall AuditCall.Answer AuditFiles CompactOutcomes where
  answer f e o :=
    match e with
    | .existsAudit => (answerOr o.existsAudit f.audit.isSome, f)
    | .auditSize => (answerOr o.auditSize (f.audit.getD []).length, f)
    | .openAudit => (answerOr o.openAudit (), f)
    | .readAudit => (answerOr o.readAudit (f.audit.getD []), f)
    | .localTime => (o.now, f)
    | .createTemp =>
      match o.createTemp with
      | some code => (.error code, f)
      | none => (.ok (), { f with temp := some [] })
    | .writeTemp content =>
      match o.writeTemp with
      | some code => (.error code, f)
      | none => (.ok (), { f with temp := some content })
    | .deleteTemp => ((), { f with temp := none })
    | .existsSummary => (answerOr o.existsSummary f.summary.isSome, f)
    | .summarySize => (answerOr o.summarySize f.summaryContents.length, f)
    | .createDirectories => (answerOr o.createDirectories (), f)
    | .openSummary =>
      match o.openSummary with
      | some code => (.error code, f)
      | none => (.ok (), { f with summary := some f.summaryContents })
    | .appendSummary text =>
      match o.appendSummary with
      | some (code, written) =>
        (.error code, { f with summary := some (f.summaryContents ++ text.take written) })
      | none => (.ok (), { f with summary := some (f.summaryContents ++ text) })
    | .moveTemp =>
      match o.moveTemp, f.temp with
      | some code, _ => (.error code, f)
      | none, some content => (.ok (), { f with audit := some content, temp := none })
      | none, none => (.error errorFileNotFound, f)
    | .resizeSummary size => ((), { f with summary := f.summary.map (resizeText size) })

/-- A call of the function with given outcomes: the files after it and what it returns. -/
def compact (path : AuditPath) (options : CompactOptions) (o : CompactOutcomes) (f : AuditFiles) :
    AuditFiles × Result CompactResult :=
  (compactAuditFile path options).exec auditHandler o f

/-! ## How a call ends -/

section Ends

variable (path : AuditPath) (options : CompactOptions) (o : CompactOutcomes) (f : AuditFiles)

/-- There is something to compact. -/
structure CompactionDue (content : Text) : Prop where
  path : path.text ≠ []
  audit : f.audit = some content
  size : content.length ≤ kMaxAuditReadBytes
  threshold : shouldCompactAuditFile content.length (lines content).length options = true
  changes : retainedLines options (lines content) ≠ lines content

/-- The call comes to the summary line. -/
structure ReachesAppend (content : Text) : Prop where
  due : CompactionDue path options f content
  existsAudit : o.existsAudit = none
  auditSize : o.auditSize = none
  openAudit : o.openAudit = none
  readAudit : o.readAudit = none
  createTemp : o.createTemp = none
  writeTemp : o.writeTemp = none
  createDirectories : path.hasParent = true → o.createDirectories = none
  openSummary : o.openSummary = none

/-- What `rememberSummarySize` returns. -/
def rememberedSize : Nat :=
  if o.existsSummary = none ∧ o.summarySize = none then f.summaryContents.length else 0

/-- The files and the result of a call. -/
inductive CompactEnd : AuditFiles × Result CompactResult → Prop where
  /-- Nothing but the temporary file was touched. -/
  | stopped (temp : Option Text) (result : Result CompactResult)
      (hnot : ∀ content, ¬ ReachesAppend path options o f content)
      (hresult : ∀ r, result = .ok r → r.compacted = false) :
      CompactEnd ({ f with temp := temp }, result)
  /-- The summary line was written in part. -/
  | torn (content : Text) (code written : Nat) (hreach : ReachesAppend path options o f content)
      (hfail : o.appendSummary = some (code, written)) :
      CompactEnd ({ f with
        summary := some (f.summaryContents ++ (summaryText options (lines content)).take written)
        temp := none }, fileError code "append audit summary")
  /-- The audit file was not replaced, and the summary cut back. -/
  | cutBack (content : Text) (code : Nat) (hreach : ReachesAppend path options o f content)
      (happend : o.appendSummary = none) (hfail : o.moveTemp = some code) :
      CompactEnd ({ f with
        summary := some (resizeText (rememberedSize o f)
          (f.summaryContents ++ summaryText options (lines content)))
        temp := none }, fileError code "MoveFileExW(audit compact)")
  | replaced (content : Text) (result : CompactResult)
      (hreach : ReachesAppend path options o f content) (happend : o.appendSummary = none)
      (hmove : o.moveTemp = none) (hresult : result.compacted = true) :
      CompactEnd ({ audit := some (compactedText path options (lines content) o.now)
                    summary := some (f.summaryContents ++ summaryText options (lines content))
                    temp := none }, .ok result)

variable {path options o f}

/-! Answers of the steps that change a file. -/

theorem answer_createTemp (h : o.createTemp = none) :
    auditHandler.answer f .createTemp o = (.ok (), { f with temp := some [] }) := by
  simp [auditHandler, h]

theorem answer_createTemp_failed {code : Nat} (h : o.createTemp = some code) :
    auditHandler.answer f .createTemp o = (.error code, f) := by
  simp [auditHandler, h]

theorem answer_writeTemp {content : Text} (h : o.writeTemp = none) :
    auditHandler.answer f (.writeTemp content) o = (.ok (), { f with temp := some content }) := by
  simp [auditHandler, h]

theorem answer_writeTemp_failed {content : Text} {code : Nat} (h : o.writeTemp = some code) :
    auditHandler.answer f (.writeTemp content) o = (.error code, f) := by
  simp [auditHandler, h]

theorem answer_openSummary (h : o.openSummary = none) :
    auditHandler.answer f .openSummary o =
      (.ok (), { f with summary := some f.summaryContents }) := by
  simp [auditHandler, h]

theorem answer_openSummary_failed {code : Nat} (h : o.openSummary = some code) :
    auditHandler.answer f .openSummary o = (.error code, f) := by
  simp [auditHandler, h]

theorem answer_appendSummary {text : Text} (h : o.appendSummary = none) :
    auditHandler.answer f (.appendSummary text) o =
      (.ok (), { f with summary := some (f.summaryContents ++ text) }) := by
  simp [auditHandler, h]

theorem answer_appendSummary_failed {text : Text} {code written : Nat}
    (h : o.appendSummary = some (code, written)) :
    auditHandler.answer f (.appendSummary text) o =
      (.error code, { f with summary := some (f.summaryContents ++ text.take written) }) := by
  simp [auditHandler, h]

theorem answer_moveTemp {content : Text} (h : o.moveTemp = none) (htemp : f.temp = some content) :
    auditHandler.answer f .moveTemp o =
      (.ok (), { f with audit := some content, temp := none }) := by
  simp [auditHandler, h, htemp]

theorem answer_moveTemp_failed {code : Nat} (h : o.moveTemp = some code) :
    auditHandler.answer f .moveTemp o = (.error code, f) := by
  simp [auditHandler, h]

/-! The parts of the function, from the last one on. -/

/-- Up to the first failure, from the opened summary on. -/
theorem appendAndReplace_end {content : Text} {g : AuditFiles}
    (hreach : o.openSummary = none → ReachesAppend path options o f content)
    (hnot : o.openSummary ≠ none → ∀ content, ¬ ReachesAppend path options o f content)
    (hg : g = { f with temp := some (compactedText path options (lines content) o.now) })
    {result : CompactResult} (hresult : result.compacted = true) :
    CompactEnd path options o f
      ((appendAndReplace (summaryText options (lines content)) (rememberedSize o f) result).exec
        auditHandler o g) := by
  subst hg
  unfold appendAndReplace
  rw [Prog.exec_perform_bind]
  cases hopen : o.openSummary with
  | some code =>
    rw [answer_openSummary_failed hopen]
    exact .stopped none _ (hnot (by simp [hopen])) (fun r h => by cases h)
  | none =>
    rw [answer_openSummary hopen, Prog.exec_perform_bind]
    cases happend : o.appendSummary with
    | some failure =>
      obtain ⟨code, written⟩ := failure
      rw [answer_appendSummary_failed happend]
      exact .torn content code written (hreach hopen) happend
    | none =>
      rw [answer_appendSummary happend]
      unfold replaceAudit
      rw [Prog.exec_perform_bind]
      cases hmove : o.moveTemp with
      | some code =>
        rw [answer_moveTemp_failed hmove]
        exact .cutBack content code (hreach hopen) happend hmove
      | none =>
        rw [answer_moveTemp hmove rfl]
        exact .replaced content result (hreach hopen) happend hmove hresult

theorem exec_rememberSummarySize :
    rememberSummarySize.exec auditHandler o f = (f, rememberedSize o f) := by
  unfold rememberSummarySize
  cases hexists : o.existsSummary with
  | some code => simp [auditHandler, answerOr, hexists, rememberedSize]
  | none =>
    cases hsummary : f.summary with
    | none => simp [auditHandler, answerOr, hexists, hsummary, rememberedSize,
        AuditFiles.summaryContents]
    | some content =>
      cases hsize : o.summarySize <;>
        simp [auditHandler, answerOr, hexists, hsummary, hsize, rememberedSize]

theorem exec_createParent :
    (createParent path).exec auditHandler o f =
      (f, if path.hasParent then answerOr o.createDirectories () else .ok ()) := by
  unfold createParent
  cases path.hasParent <;> rfl

/-- A failed step before the summary is opened. -/
theorem CompactEnd.of_failed {temp : Option Text} {code : Nat} {operation : String}
    (h : ∀ content, ¬ ReachesAppend path options o f content) :
    CompactEnd path options o f ({ f with temp := temp }, fileError code operation) :=
  .stopped temp _ h fun r hr => by cases hr

theorem writeCompacted_end {content : Text} (hdue : CompactionDue path options f content)
    (hexists : o.existsAudit = none) (hsize : o.auditSize = none) (hopen : o.openAudit = none)
    (hread : o.readAudit = none) {result : CompactResult} (hresult : result.compacted = true) :
    CompactEnd path options o f
      ((writeCompacted path (compactedText path options (lines content) o.now)
        (summaryText options (lines content)) result).exec auditHandler o f) := by
  unfold writeCompacted
  rw [Prog.exec_perform_bind]
  cases htemp : o.createTemp with
  | some code =>
    rw [answer_createTemp_failed htemp]
    exact .of_failed fun _ h => by simp [h.createTemp] at htemp
  | none =>
    rw [answer_createTemp htemp, Prog.exec_perform_bind]
    cases hwrite : o.writeTemp with
    | some code =>
      rw [answer_writeTemp_failed hwrite]
      exact .of_failed fun _ h => by simp [h.writeTemp] at hwrite
    | none =>
      rw [answer_writeTemp hwrite, Prog.exec_bind, exec_rememberSummarySize, Prog.exec_bind,
        exec_createParent]
      by_cases hfail : path.hasParent = true ∧ o.createDirectories ≠ none
      · obtain ⟨hparent, hdirectories⟩ := hfail
        obtain ⟨code, hcode⟩ := Option.ne_none_iff_exists'.mp hdirectories
        rw [if_pos hparent, hcode]
        exact .of_failed fun _ h => hdirectories (h.createDirectories hparent)
      · have hdirectories : path.hasParent = true → o.createDirectories = none := by
          intro hparent
          by_contra hne
          exact hfail ⟨hparent, hne⟩
        have hok : (if path.hasParent then answerOr o.createDirectories () else .ok ()) =
            Except.ok () := by
          split
          · rename_i hparent
            rw [hdirectories hparent]
            rfl
          · rfl
        rw [hok]
        refine appendAndReplace_end (fun hsummary => ?_) (fun hsummary c h => hsummary h.openSummary)
          rfl hresult
        exact ⟨hdue, hexists, hsize, hopen, hread, htemp, hwrite, hdirectories, hsummary⟩

/-- A call that finds nothing to do. -/
theorem CompactEnd.of_idle {result : CompactResult} (hresult : result.compacted = false)
    (h : ∀ content, ¬ ReachesAppend path options o f content) :
    CompactEnd path options o f (f, .ok result) := by
  refine .stopped f.temp _ h ?_
  intro r hr
  cases hr
  exact hresult

theorem compactLines_end {content : Text} (hpath : path.text ≠ []) (haudit : f.audit = some content)
    (hbytes : content.length ≤ kMaxAuditReadBytes) (hexists : o.existsAudit = none)
    (hsize : o.auditSize = none) (hopen : o.openAudit = none) (hread : o.readAudit = none) :
    CompactEnd path options o f
      ((compactLines path options content.length (lines content)).exec auditHandler o f) := by
  have hcontent : ∀ c, ReachesAppend path options o f c → c = content := by
    intro c h
    exact Option.some.inj (h.due.audit.symm.trans haudit)
  unfold compactLines
  split
  · rename_i hbelow
    refine .of_idle rfl fun c h => ?_
    have hthreshold := h.due.threshold
    rw [hcontent c h, hbelow] at hthreshold
    cases hthreshold
  · rename_i hthreshold
    split
    · rename_i hsame
      refine .of_idle rfl fun c h => h.due.changes ?_
      rw [hcontent c h, hsame]
    · rename_i hchanges
      rw [Prog.exec_perform_bind]
      have hdue : CompactionDue path options f content :=
        ⟨hpath, haudit, hbytes, by simpa using hthreshold, hchanges⟩
      exact writeCompacted_end hdue hexists hsize hopen hread rfl

/-! Answers of the steps before it. -/

theorem answer_existsAudit : auditHandler.answer f .existsAudit o =
    (answerOr o.existsAudit f.audit.isSome, f) := rfl

theorem answer_auditSize : auditHandler.answer f .auditSize o =
    (answerOr o.auditSize (f.audit.getD []).length, f) := rfl

theorem answer_openAudit : auditHandler.answer f .openAudit o = (answerOr o.openAudit (), f) := rfl

theorem answer_readAudit : auditHandler.answer f .readAudit o =
    (answerOr o.readAudit (f.audit.getD []), f) := rfl

/-- Every call ends in one of the four ways. -/
theorem compact_end : CompactEnd path options o f (compact path options o f) := by
  unfold compact compactAuditFile
  split
  · rename_i hpath
    exact .stopped f.temp _ (fun _ h => h.due.path hpath) fun r h => by cases h
  rename_i hpath
  rw [Prog.exec_perform_bind, answer_existsAudit]
  cases hexists : o.existsAudit with
  | some code => exact .of_failed fun _ h => by simp [h.existsAudit] at hexists
  | none =>
    cases haudit : f.audit with
    | none => exact .of_idle rfl fun _ h => by simp [h.due.audit] at haudit
    | some content =>
      have hcontent : f.audit.getD [] = content := by rw [haudit, Option.getD_some]
      simp only [answerOr, Option.isSome_some]
      rw [Prog.exec_perform_bind, answer_auditSize, hcontent]
      cases hsize : o.auditSize with
      | some code => exact .of_failed fun _ h => by simp [h.auditSize] at hsize
      | none =>
        simp only [answerOr]
        split
        · rename_i hlarge
          refine .stopped f.temp _ (fun c h => ?_) fun r h => by cases h
          have hc : c = content := Option.some.inj (h.due.audit.symm.trans haudit)
          exact absurd h.due.size (by rw [hc]; omega)
        · rename_i hlarge
          rw [Prog.exec_perform_bind, answer_openAudit]
          cases hopen : o.openAudit with
          | some code => exact .of_failed fun _ h => by simp [h.openAudit] at hopen
          | none =>
            simp only [answerOr]
            rw [Prog.exec_perform_bind, answer_readAudit, hcontent]
            cases hread : o.readAudit with
            | some code => exact .of_failed fun _ h => by simp [h.readAudit] at hread
            | none => exact compactLines_end hpath haudit (not_lt.mp hlarge) hexists hsize hopen hread

/-- The file is there and its steps up to the reading succeed. -/
structure AuditReadable (o : CompactOutcomes) : Prop where
  existsAudit : o.existsAudit = none
  auditSize : o.auditSize = none
  openAudit : o.openAudit = none
  readAudit : o.readAudit = none

def compactTooLarge : Result CompactResult :=
  .error (.validation "CompactAuditFile" "审计文件超出可压缩上限（8 MiB）")

/-- The size is looked at first; then the lines are. -/
theorem compact_readable {content : Text} (hpath : path.text ≠ [])
    (hread : AuditReadable o) (haudit : f.audit = some content) :
    compact path options o f =
      if content.length > kMaxAuditReadBytes then (f, compactTooLarge)
      else (compactLines path options content.length (lines content)).exec auditHandler o f := by
  have hcontent : f.audit.getD [] = content := by rw [haudit, Option.getD_some]
  unfold compact compactAuditFile
  rw [if_neg hpath, Prog.exec_perform_bind, answer_existsAudit, hread.existsAudit, haudit]
  simp only [answerOr, Option.isSome_some]
  rw [Prog.exec_perform_bind, answer_auditSize, hcontent, hread.auditSize]
  simp only [answerOr]
  split
  · rfl
  · rw [Prog.exec_perform_bind, answer_openAudit, hread.openAudit]
    simp only [answerOr]
    rw [Prog.exec_perform_bind, answer_readAudit, hcontent, hread.readAudit]
    rfl

/-! ## When a failure leaves the files alone -/

variable (path options o f)

/-- Both files have the contents they had. -/
def SameContents (f g : AuditFiles) : Prop :=
  g.audit = f.audit ∧ g.summaryContents = f.summaryContents

instance (f g : AuditFiles) : Decidable (SameContents f g) :=
  inferInstanceAs (Decidable (_ ∧ _))

/-- The append fails with bytes of the line already in the file. -/
def TornAppend : Prop :=
  ∃ code written, o.appendSummary = some (code, written) ∧ 0 < written

/-- The replacement fails after a size query did, and there is something to lose. -/
structure BlindCutBack : Prop where
  append : o.appendSummary = none
  move : o.moveTemp ≠ none
  query : o.existsSummary ≠ none ∨ o.summarySize ≠ none
  contents : f.summaryContents ≠ []

/-- The call gets to the summary line and goes wrong there. -/
def Harmed : Prop :=
  (∃ content, ReachesAppend path options o f content) ∧ (TornAppend o ∨ BlindCutBack o f)

variable {path options o f}

theorem SameContents.of_temp (temp : Option Text) : SameContents f { f with temp := temp } :=
  ⟨rfl, rfl⟩

theorem summaryText_ne_nil (ls : List Text) : summaryText options ls ≠ [] := by
  simp [summaryText]

theorem sameContents_torn_iff {ls : List Text} {written : Nat} :
    SameContents f { f with
      summary := some (f.summaryContents ++ (summaryText options ls).take written)
      temp := none } ↔ written = 0 := by
  simp [SameContents, AuditFiles.summaryContents, summaryText_ne_nil]

/-- Cutting back to the old size undoes an append. -/
theorem resizeText_append (old text : Text) : resizeText old.length (old ++ text) = old := by
  simp [resizeText]

theorem resizeText_zero (text : Text) : resizeText 0 text = [] := by
  simp [resizeText]

theorem sameContents_cutBack_iff {ls : List Text} :
    SameContents f { f with
      summary := some (resizeText (rememberedSize o f) (f.summaryContents ++ summaryText options ls))
      temp := none } ↔
    ((o.existsSummary = none ∧ o.summarySize = none) ∨ f.summaryContents = []) := by
  have hcut : resizeText (rememberedSize o f) (f.summaryContents ++ summaryText options ls) =
      if o.existsSummary = none ∧ o.summarySize = none then f.summaryContents else [] := by
    unfold rememberedSize
    split
    · exact resizeText_append _ _
    · exact resizeText_zero _
  rw [hcut]
  simp only [SameContents, AuditFiles.summaryContents, Option.getD_some, true_and]
  split
  · rename_i hquery
    exact ⟨fun _ => .inl hquery, fun _ => rfl⟩
  · rename_i hquery
    exact ⟨fun h => .inr h.symm, fun h => (h.resolve_left hquery).symm⟩

variable (path options o f)

/-- A failed call leaves both files as they were unless the line is torn or cut back blindly. -/
theorem failure_atomic_iff :
    (∀ e, (compact path options o f).2 = .error e → SameContents f (compact path options o f).1) ↔
      ¬ Harmed path options o f := by
  have hend : CompactEnd path options o f (compact path options o f) := compact_end
  generalize compact path options o f = ended at hend
  cases hend with
  | stopped temp result hnot _ =>
    refine ⟨fun _ hharm => ?_, fun _ e _ => .of_temp temp⟩
    obtain ⟨⟨content, hreach⟩, _⟩ := hharm
    exact hnot content hreach
  | torn content code written hreach hfail =>
    have hharm : Harmed path options o f ↔ 0 < written := by
      constructor
      · rintro ⟨_, htorn | hblind⟩
        · obtain ⟨c, n, heq, hpos⟩ := htorn
          rw [hfail] at heq
          cases heq
          exact hpos
        · simp [hblind.append] at hfail
      · exact fun hpos => ⟨⟨content, hreach⟩, .inl ⟨code, written, hfail, hpos⟩⟩
    rw [hharm]
    constructor
    · intro h hpos
      have hzero := sameContents_torn_iff.mp (h _ rfl)
      omega
    · intro hpos e _
      exact sameContents_torn_iff.mpr (by omega)
  | cutBack content code hreach happend hfail =>
    have hmove : o.moveTemp ≠ none := by simp [hfail]
    have hharm : Harmed path options o f ↔
        ¬ ((o.existsSummary = none ∧ o.summarySize = none) ∨ f.summaryContents = []) := by
      rw [not_or, not_and_or]
      constructor
      · rintro ⟨_, htorn | hblind⟩
        · obtain ⟨c, n, heq, _⟩ := htorn
          simp [happend] at heq
        · exact ⟨hblind.query, hblind.contents⟩
      · rintro ⟨hquery, hcontents⟩
        exact ⟨⟨content, hreach⟩, .inr ⟨happend, hmove, hquery, hcontents⟩⟩
    rw [hharm, not_not]
    constructor
    · exact fun h => sameContents_cutBack_iff.mp (h _ rfl)
    · exact fun h e _ => sameContents_cutBack_iff.mpr h
  | replaced content result hreach happend hmove _ =>
    refine ⟨fun _ hharm => ?_, fun _ e he => by cases he⟩
    obtain ⟨_, ⟨c, n, heq, _⟩ | hblind⟩ := hharm
    · simp [happend] at heq
    · exact hblind.move hmove

end Ends

/-! A failed call that changes the summary. -/

def exampleAuditPath : AuditPath :=
  { text := "audit.log".toList, fileName := "audit.log".toList, hasParent := false }

/-- One record, an older summary line, and no record is to be kept. -/
def exampleAuditFiles : AuditFiles :=
  { audit := some "t [audit] R1 op ok caller= target= detail=\n".toList
    summary := some "t..t [audit-summary] total=1 ok=1 fail=0 unparsed=0 op=1/0\n".toList }

def keepNothing : CompactOptions := { maxLines := 1, keepTailLines := 0 }

/-- The size query fails, and then the replacement: the older summary line is gone. -/
theorem blind_cutBack_empties_summary :
    ∃ e, (compact exampleAuditPath keepNothing
        { summarySize := some 5, moveTemp := some 32 } exampleAuditFiles).2 = .error e ∧
      (compact exampleAuditPath keepNothing
        { summarySize := some 5, moveTemp := some 32 } exampleAuditFiles).1.summary = some [] ∧
      ¬ SameContents exampleAuditFiles (compact exampleAuditPath keepNothing
        { summarySize := some 5, moveTemp := some 32 } exampleAuditFiles).1 := by
  refine ⟨.fromWin32 32 "MoveFileExW(audit compact)", ?_, ?_, ?_⟩ <;> decide +kernel

end Audit
end CppOptimizer
