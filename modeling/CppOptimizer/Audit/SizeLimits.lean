import CppOptimizer.Audit.Fold

/-!
# CppOptimizer.Audit.SizeLimits

The sizes at which the audit file and its summary are compacted, folded and read.

* `readAuditTail` — the last lines of a file, refused above `kMaxAuditReadBytes`.
* `SizesFit`      — with the default options no size stands in the way: of a compaction that is due, of
  reading a summary below the fold threshold, and of both ways to get at a file.

The compaction reads no more than `ReadAuditTail` does, 8 MiB, but starts at 10 MiB; the fold starts
at 50 MiB. A file that grows past 8 MiB is left to itself.
-/

namespace CppOptimizer
namespace Audit

open Common Lib

/-! ## Reading the tail -/

def kMaxAuditLineBytes : Nat := 4096

structure AuditTail where
  totalLines : Nat := 0
  lines : List Text := []
  deriving DecidableEq, Repr

structure TailOutcomes where
  existsFile : Option Nat := none
  fileSize : Option Nat := none
  openFile : Option Nat := none
  readFile : Option Nat := none
  deriving DecidableEq, Repr

def truncated (line : Text) : Text :=
  if line.length > kMaxAuditLineBytes then line.take kMaxAuditLineBytes ++ "...".toList else line

/-- One pass of the reading loop: the ring holds the last `maxLines` lines. -/
def readTailLine (maxLines : Nat) (tail : AuditTail) (line : Text) : AuditTail :=
  let ring := tail.lines ++ [truncated line]
  { totalLines := tail.totalLines + 1
    lines :=
      if maxLines = 0 then tail.lines
      else if ring.length > maxLines then ring.drop 1 else ring }

def tailError (code : Nat) (operation : String) : Result AuditTail :=
  .error (.fromWin32 code operation)

/-- `file` is what stands at `path`, if anything does. -/
def readAuditTail (path : Text) (maxLines : Nat) (o : TailOutcomes) (file : Option Text) :
    Result AuditTail :=
  if path = [] then .error (.validation "ReadAuditTail" "路径不能为空")
  else
    match o.existsFile with
    | some code => tailError code "exists(audit log)"
    | none =>
      match file with
      | none => .ok {}
      | some content =>
        match o.fileSize with
        | some code => tailError code "file_size(audit log)"
        | none =>
          if content.length > kMaxAuditReadBytes then
            .error (.validation "ReadAuditTail" "审计文件超出可回看上限（8 MiB）")
          else
            match o.openFile with
            | some code => tailError code "open audit log for read"
            | none =>
              match o.readFile with
              | some code => tailError code "read audit log"
              | none => .ok ((lines content).foldl (readTailLine maxLines) {})

/-- The loop counts every line and keeps the last ones, in their order. -/
theorem foldl_readTailLine (maxLines : Nat) (ls : List Text) :
    ls.foldl (readTailLine maxLines) {} =
      { totalLines := ls.length, lines := (ls.map truncated).drop (ls.length - maxLines) } := by
  induction ls using List.reverseRecOn with
  | nil => simp
  | append_singleton ls line ih =>
    rw [List.foldl_append, ih]
    simp only [List.foldl_cons, List.foldl_nil, readTailLine, List.length_append, List.length_drop,
      List.length_map, List.length_singleton, List.map_append, List.map_cons, List.map_nil]
    congr 1
    by_cases hzero : maxLines = 0
    · rw [if_pos hzero, hzero, List.drop_eq_nil_of_le (by simp), List.drop_eq_nil_of_le (by simp)]
    · rw [if_neg hzero]
      by_cases hfull : ls.length - (ls.length - maxLines) + 1 > maxLines
      · rw [if_pos hfull, ← List.drop_append_of_le_length (by simp), List.drop_drop]
        congr 1
        omega
      · have hshort : ls.length - maxLines = 0 := by omega
        have hshort' : ls.length + 1 - maxLines = 0 := by omega
        rw [if_neg hfull, hshort, hshort']
        simp

/-! ## Refusals for the size -/

def tailTooLarge : Result AuditTail :=
  .error (.validation "ReadAuditTail" "审计文件超出可回看上限（8 MiB）")

def foldTooLarge : Result FoldSummaryResult :=
  .error (.validation "FoldAuditSummaryFile" "汇总文件超出可折叠读取上限（64 MiB）")

section Compact

/-- Once the size is accepted, an error is one of a file step. -/
def FileStepError (result : Result CompactResult) : Prop :=
  ∀ e, result = .error e → e.domain = .win32

theorem fileStepError_ok (r : CompactResult) : FileStepError (.ok r) := by
  intro e h
  cases h

theorem fileStepError_failed (code : Nat) (operation : String) :
    FileStepError (fileError code operation) := by
  intro e h
  cases h
  rfl

theorem failRemovingTemp_returns (code : Nat) (operation : String) :
    (failRemovingTemp code operation).Returns FileStepError :=
  Prog.Returns.bind fun _ => fileStepError_failed code operation

theorem replaceAudit_returns (size : Nat) (result : CompactResult) :
    (replaceAudit size result).Returns FileStepError := by
  refine Prog.Returns.bind fun answer => ?_
  rcases answer with code | u
  · exact Prog.Returns.bind fun _ => Prog.Returns.bind fun _ => fileStepError_failed code _
  · exact fileStepError_ok result

theorem appendAndReplace_returns (summary : Text) (size : Nat) (result : CompactResult) :
    (appendAndReplace summary size result).Returns FileStepError := by
  refine Prog.Returns.bind fun answer => ?_
  rcases answer with code | u
  · exact failRemovingTemp_returns code _
  · refine Prog.Returns.bind fun answer => ?_
    rcases answer with code | u
    · exact failRemovingTemp_returns code _
    · exact replaceAudit_returns size result

theorem writeCompacted_returns (path : AuditPath) (content summary : Text) (result : CompactResult) :
    (writeCompacted path content summary result).Returns FileStepError := by
  refine Prog.Returns.bind fun answer => ?_
  rcases answer with code | u
  · exact fileStepError_failed code _
  · refine Prog.Returns.bind fun answer => ?_
    rcases answer with code | u
    · exact failRemovingTemp_returns code _
    · refine Prog.Returns.bind fun size => Prog.Returns.bind fun answer => ?_
      rcases answer with code | u
      · exact failRemovingTemp_returns code _
      · exact appendAndReplace_returns summary size result

theorem compactLines_returns (path : AuditPath) (options : CompactOptions) (size : Nat)
    (ls : List Text) : (compactLines path options size ls).Returns FileStepError := by
  unfold compactLines
  split
  · exact fileStepError_ok _
  · split
    · exact fileStepError_ok _
    · exact Prog.Returns.bind fun now => writeCompacted_returns path _ _ _

variable {path : AuditPath} {o : CompactOutcomes} {f : AuditFiles} {content : Text}

theorem compact_tooLarge_iff (options : CompactOptions) (hpath : path.text ≠ [])
    (hread : AuditReadable o) (haudit : f.audit = some content) :
    (compact path options o f).2 = compactTooLarge ↔ content.length > kMaxAuditReadBytes := by
  rw [compact_readable hpath hread haudit]
  by_cases hsize : content.length > kMaxAuditReadBytes
  · rw [if_pos hsize]
    exact ⟨fun _ => hsize, fun _ => rfl⟩
  · rw [if_neg hsize]
    refine ⟨fun h => ?_, fun h => absurd h hsize⟩
    have hdomain := (compactLines_returns path options content.length (lines content)).exec
      auditHandler o f _ h
    cases hdomain

theorem compact_missing (options : CompactOptions) (hpath : path.text ≠ [])
    (hread : AuditReadable o) (haudit : f.audit = none) :
    compact path options o f = (f, .ok {}) := by
  unfold compact compactAuditFile
  rw [if_neg hpath, Prog.exec_perform_bind, answer_existsAudit, hread.existsAudit, haudit]
  rfl

/-- The compaction refuses the sizes above its limit, and no other. -/
theorem compact_refused_iff (options : CompactOptions) (hpath : path.text ≠ [])
    (hread : AuditReadable o) :
    (compact path options o f).2 = compactTooLarge ↔
      f.auditContents.length > kMaxAuditReadBytes := by
  cases haudit : f.audit with
  | none =>
    rw [compact_missing options hpath hread haudit, AuditFiles.auditContents, haudit]
    simp [compactTooLarge]
  | some content =>
    rw [compact_tooLarge_iff options hpath hread haudit, AuditFiles.auditContents, haudit]
    rfl

end Compact

section Tail

variable {path : Text}

/-- A file that is not too large is read, with all its lines counted. -/
theorem readAuditTail_ok (hpath : path ≠ []) (maxLines : Nat) {file : Option Text}
    (hsize : (file.getD []).length ≤ kMaxAuditReadBytes) :
    readAuditTail path maxLines {} file =
      .ok { totalLines := (lines (file.getD [])).length
            lines := ((lines (file.getD [])).map truncated).drop
              ((lines (file.getD [])).length - maxLines) } := by
  unfold readAuditTail
  rw [if_neg hpath]
  cases file with
  | none => simp
  | some content =>
    simp only [Option.getD_some] at hsize ⊢
    rw [if_neg (not_lt.mpr hsize), foldl_readTailLine]

theorem readAuditTail_tooLarge (hpath : path ≠ []) (maxLines : Nat) {file : Option Text}
    (hsize : (file.getD []).length > kMaxAuditReadBytes) :
    readAuditTail path maxLines {} file = tailTooLarge := by
  unfold readAuditTail
  rw [if_neg hpath]
  cases file with
  | none => exact absurd hsize (by simp)
  | some content =>
    simp only [Option.getD_some] at hsize ⊢
    rw [if_pos hsize]
    rfl

end Tail

section Fold

variable {path : SummaryPath} {options : FoldOptions} {o : FoldOutcomes} {f : AuditFiles}

/-- An error that another step than the first checks of the fold reports. -/
def LaterError (result : Result FoldSummaryResult) : Prop :=
  ∀ e, result = .error e → e.operation ≠ "FoldAuditSummaryFile"

theorem LaterError.ne {result : Result FoldSummaryResult} (h : LaterError result) :
    result ≠ foldTooLarge := fun heq => h _ heq rfl

theorem laterError_ok (r : FoldSummaryResult) : LaterError (.ok r) := by
  intro e h
  cases h

theorem laterError_step {code : Nat} {operation : String}
    (h : operation ≠ "FoldAuditSummaryFile") : LaterError (foldError code operation) := by
  intro e he
  cases he
  exact h

theorem appendAuditLine_operation {auditPath : AuditPath} {record : AuditRecord}
    {a : AppendOutcomes} {f' : AuditFiles} {e : Error}
    (h : appendAuditLine auditPath record a f = (f', .error e)) :
    e.operation ≠ "FoldAuditSummaryFile" := by
  unfold appendAuditLine at h
  split at h
  · cases h
    decide
  · split at h
    · cases h
      simp [Error.fromWin32]
    · split at h
      · cases h
        simp [Error.fromWin32]
      · split at h
        · cases h
          simp [Error.fromWin32]
        · cases h

theorem recordFold_later (result : FoldSummaryResult) :
    LaterError (recordFold path options o f result).2 := by
  unfold recordFold
  split
  · exact laterError_ok result
  · split
    · rename_i happend
      intro e he
      cases he
      exact appendAuditLine_operation happend
    · exact laterError_ok result

theorem foldLines_later (ls : List Text) : LaterError (foldLines path options o f ls).2 := by
  simp only [foldLines]
  split
  · exact laterError_ok _
  · split
    · exact laterError_ok _
    · unfold replaceSummary
      split
      · exact laterError_step (by decide)
      · split
        · exact laterError_step (by decide)
        · split
          · exact laterError_step (by decide)
          · exact recordFold_later _

structure SummaryReadable (o : FoldOutcomes) : Prop where
  isDirectory : o.isDirectory = .ok false
  existsSummary : o.existsSummary = none
  summarySize : o.summarySize = none
  openSummary : o.openSummary = none
  readSummary : o.readSummary = none

/-- The fold refuses the sizes above its own limit, once its threshold is reached. -/
theorem fold_refused_iff (options : FoldOptions) (hpath : path.text ≠ [])
    (hread : SummaryReadable o) :
    (foldAuditSummaryFile path options o f).2 = foldTooLarge ↔
      options.summaryMaxBytes ≠ 0 ∧ options.summaryMaxBytes ≤ f.summaryContents.length ∧
        f.summaryContents.length > kMaxSummaryReadBytes := by
  unfold foldAuditSummaryFile
  rw [if_neg hpath, hread.isDirectory, hread.existsSummary]
  cases hsummary : f.summary with
  | none => simp [foldTooLarge, AuditFiles.summaryContents, hsummary]
  | some content =>
    have hcontents : f.summaryContents = content := by
      rw [AuditFiles.summaryContents, hsummary, Option.getD_some]
    simp only [hread.summarySize, hread.openSummary, hread.readSummary, hcontents]
    by_cases hbelow : options.summaryMaxBytes = 0 ∨ content.length < options.summaryMaxBytes
    · rw [if_pos hbelow]
      refine ⟨fun h => absurd h (laterError_ok _).ne, ?_⟩
      rintro ⟨hne, hle, -⟩
      rcases hbelow with hzero | hlt
      · exact absurd hzero hne
      · omega
    · rw [if_neg hbelow]
      rw [not_or, not_lt] at hbelow
      by_cases hlarge : content.length > kMaxSummaryReadBytes
      · rw [if_pos hlarge]
        exact ⟨fun _ => ⟨hbelow.1, hbelow.2, hlarge⟩, fun _ => rfl⟩
      · rw [if_neg hlarge]
        exact ⟨fun h => absurd h (foldLines_later _).ne, fun h => absurd h.2.2 hlarge⟩

end Fold

/-! ## All limits together -/

/-- With the default options the sizes of the two files stand in nobody's way. -/
structure SizesFit (path : AuditPath) (summaryPath : SummaryPath) (o : CompactOutcomes)
    (p : FoldOutcomes) (f : AuditFiles) : Prop where
  compactable : shouldCompactAuditFile f.auditContents.length (lines f.auditContents).length {} =
    true → (compact path {} o f).2 ≠ compactTooLarge
  summaryRead : f.summaryContents.length < ({} : FoldOptions).summaryMaxBytes → ∀ maxLines,
    ∃ tail, readAuditTail summaryPath.text maxLines {} f.summary = .ok tail ∧
      tail.totalLines = (lines f.summaryContents).length
  auditInReach : ¬ ((compact path {} o f).2 = compactTooLarge ∧
    ∀ maxLines, readAuditTail path.text maxLines {} f.audit = tailTooLarge)
  summaryInReach : ¬ ((foldAuditSummaryFile summaryPath {} p f).2 = foldTooLarge ∧
    ∀ maxLines, readAuditTail summaryPath.text maxLines {} f.summary = tailTooLarge)

theorem summaryMaxBytes_default : ({} : FoldOptions).summaryMaxBytes = 52428800 := rfl

theorem kMaxAuditReadBytes_eq : kMaxAuditReadBytes = 8388608 := rfl

theorem kMaxSummaryReadBytes_eq : kMaxSummaryReadBytes = 67108864 := rfl

/-- The limits agree exactly for an audit file of at most 8 MiB and a summary file of at most 8 MiB
or of 50 to 64 MiB. -/
theorem sizes_fit_iff (path : AuditPath) (summaryPath : SummaryPath) (o : CompactOutcomes)
    (p : FoldOutcomes) (f : AuditFiles) (hpath : path.text ≠ []) (hsummary : summaryPath.text ≠ [])
    (ho : AuditReadable o) (hp : SummaryReadable p) :
    SizesFit path summaryPath o p f ↔
      f.auditContents.length ≤ kMaxAuditReadBytes ∧
        (f.summaryContents.length ≤ kMaxAuditReadBytes ∨
          (({} : FoldOptions).summaryMaxBytes ≤ f.summaryContents.length ∧
            f.summaryContents.length ≤ kMaxSummaryReadBytes)) := by
  have hcompact := compact_refused_iff (f := f) {} hpath ho
  have hfold := fold_refused_iff (f := f) {} hsummary hp
  rw [summaryMaxBytes_default] at hfold ⊢
  constructor
  · intro h
    refine ⟨?_, ?_⟩
    · by_contra hlarge
      rw [not_le] at hlarge
      exact h.auditInReach ⟨hcompact.mpr hlarge,
        fun maxLines => readAuditTail_tooLarge hpath maxLines hlarge⟩
    · by_contra hno
      rw [not_or, not_and_or, not_le, not_le, not_le] at hno
      obtain ⟨hlarge, hbelow | habove⟩ := hno
      · obtain ⟨tail, hok, -⟩ := h.summaryRead hbelow 0
        rw [readAuditTail_tooLarge hsummary 0 hlarge] at hok
        cases hok
      · refine h.summaryInReach ⟨hfold.mpr ⟨by decide, ?_, habove⟩,
          fun maxLines => readAuditTail_tooLarge hsummary maxLines hlarge⟩
        rw [kMaxSummaryReadBytes_eq] at habove
        omega
  · rintro ⟨haudit, hsizes⟩
    refine ⟨fun _ => ?_, fun hbelow maxLines => ?_, fun h => ?_, fun h => ?_⟩
    · rw [ne_eq, hcompact]
      omega
    · rw [summaryMaxBytes_default] at hbelow
      have hsmall : (f.summary.getD []).length ≤ kMaxAuditReadBytes := by
        rcases hsizes with hsmall | ⟨hreached, -⟩
        · exact hsmall
        · omega
      exact ⟨_, readAuditTail_ok hsummary maxLines hsmall, rfl⟩
    · have hlarge := hcompact.mp h.1
      omega
    · obtain ⟨-, -, habove⟩ := hfold.mp h.1
      rw [kMaxSummaryReadBytes_eq] at habove hsizes
      rw [kMaxAuditReadBytes_eq] at hsizes
      omega

/-! ## Growth -/

def bulkyRecord : AuditRecord :=
  { operationId := "policy.apply".toList, detail := List.replicate 1000 'x' }

/-- The audit file after `n` records with a detail of 1000 bytes each. -/
def grown : Nat → AuditFiles
  | 0 => { audit := some [], summary := none }
  | n + 1 => (appendAuditLine exampleAuditPath bulkyRecord {} (grown n)).1

/-- A line ends with the detail of its record. -/
theorem detail_suffix (now : Option LocalTime) (record : AuditRecord) :
    sanitized record.detail <:+ formatAuditLineAscii now record := by
  have happend : ∀ {l m : Text} (k : Text), l <:+ m → l <:+ k ++ m :=
    fun k h => h.trans (List.suffix_append k _)
  have hcons : ∀ {l m : Text} (c : Char), l <:+ m → l <:+ c :: m :=
    fun c h => h.trans (List.suffix_cons c _)
  unfold formatAuditLineAscii auditLineFields
  refine happend _ (happend _ (happend _ (hcons _ (happend _ (hcons _ (happend _ (hcons _ ?_)))))))
  exact happend _ (happend _ (happend _ (happend _ (happend _ (List.suffix_refl _)))))

theorem grown_length (n : Nat) : 1000 * n ≤ (grown n).auditContents.length := by
  induction n with
  | zero => exact Nat.zero_le _
  | succ n ih =>
    have hline := (detail_suffix none bulkyRecord).length_le
    have hdetail : (sanitized bulkyRecord.detail).length = 1000 :=
      (List.length_map ..).trans List.length_replicate
    have hcontents : (grown (n + 1)).auditContents =
        (grown n).auditContents ++ (formatAuditLineAscii none bulkyRecord ++ ['\n']) := rfl
    rw [hcontents, List.length_append, List.length_append]
    omega

theorem exampleAuditPath_ne : exampleAuditPath.text ≠ [] := by decide

/-- Once the byte threshold is reached, the compaction is due and refused, and so is the reading. -/
theorem stranded_of_length {f : AuditFiles} (h : 10485760 ≤ f.auditContents.length) :
    shouldCompactAuditFile f.auditContents.length (lines f.auditContents).length {} = true ∧
      (compact exampleAuditPath {} {} f).2 = compactTooLarge ∧
      readAuditTail exampleAuditPath.text 100 {} f.audit = tailTooLarge := by
  have hlarge : f.auditContents.length > kMaxAuditReadBytes := by
    rw [kMaxAuditReadBytes_eq]
    omega
  refine ⟨?_, ?_, readAuditTail_tooLarge exampleAuditPath_ne 100 hlarge⟩
  · simp only [shouldCompactAuditFile, Bool.or_eq_true, Bool.and_eq_true, decide_eq_true_eq]
    exact .inl ⟨by decide, h⟩
  · exact (compact_refused_iff {} exampleAuditPath_ne ⟨rfl, rfl, rfl, rfl⟩).mpr hlarge

theorem grown_audit_stranded :
    shouldCompactAuditFile (grown 10500).auditContents.length
        (lines (grown 10500).auditContents).length {} = true ∧
      (compact exampleAuditPath {} {} (grown 10500)).2 = compactTooLarge ∧
      readAuditTail exampleAuditPath.text 100 {} (grown 10500).audit = tailTooLarge ∧
      ¬ SizesFit exampleAuditPath exampleSummaryPath {} {} (grown 10500) := by
  obtain ⟨hdue, hrefused, htail⟩ := stranded_of_length
    (le_trans (by decide) (grown_length 10500))
  exact ⟨hdue, hrefused, htail, fun h => h.compactable hdue hrefused⟩

/-- Both files as large as they may be. -/
def fullFiles : AuditFiles :=
  { audit := some (List.replicate kMaxAuditReadBytes 'x'),
    summary := some (List.replicate kMaxSummaryReadBytes 'x') }

theorem full_files_fit : SizesFit exampleAuditPath exampleSummaryPath {} {} fullFiles := by
  have haudit : fullFiles.auditContents.length = kMaxAuditReadBytes := List.length_replicate
  have hsummary : fullFiles.summaryContents.length = kMaxSummaryReadBytes := List.length_replicate
  refine (sizes_fit_iff exampleAuditPath exampleSummaryPath {} {} fullFiles exampleAuditPath_ne
    (by decide) ⟨rfl, rfl, rfl, rfl⟩ ⟨rfl, rfl, rfl, rfl, rfl⟩).mpr ⟨?_, .inr ⟨?_, ?_⟩⟩
  · rw [haudit]
  · rw [hsummary, summaryMaxBytes_default]
    decide
  · rw [hsummary]

end Audit
end CppOptimizer
