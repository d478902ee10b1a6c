import CppOptimizer.Audit.Counts

/-!
# CppOptimizer.Audit.Progress

`CompactAuditFile` called again and again on its own result.

* `Replaces`    — the call has something to compact and every file step of it succeeds.
* `headRecords` — the number of lines of the head that are records; these leave the file.
* `compactRuns` — the files after each call, with the same options and no other writer.

A call takes `headRecords` lines out and puts its own record in. With one record in the head the file
is as long as before, and that record is what the next call takes out: `FoldAuditSummaryFile` leaves
a file alone when nothing is won, `CompactAuditFile` does not.
-/

namespace CppOptimizer
namespace Audit

open Common Lib

/-- How many lines of the head can be read as records. -/
def headRecords (options : CompactOptions) (ls : List Text) : Nat :=
  (headLines options ls).countP fun line => !isRejected line

structure Replaces (path : AuditPath) (options : CompactOptions) (o : CompactOutcomes)
    (f : AuditFiles) (content : Text) : Prop where
  reach : ReachesAppend path options o f content
  append : o.appendSummary = none
  move : o.moveTemp = none

section Call

variable {path : AuditPath} {options : CompactOptions} {o : CompactOutcomes} {f : AuditFiles}
  {content : Text}

theorem appendAndReplace_works {summary audit : Text} {size : Nat} {result : CompactResult}
    {g : AuditFiles} (hg : g.temp = some audit) (hopen : o.openSummary = none)
    (happend : o.appendSummary = none) (hmove : o.moveTemp = none) :
    (appendAndReplace summary size result).exec auditHandler o g =
      ({ audit := some audit, summary := some (g.summaryContents ++ summary), temp := none },
        .ok result) := by
  have hmoved : ∀ text, auditHandler.answer { g with summary := text } .moveTemp o =
      (.ok (), { audit := some audit, summary := text, temp := none }) :=
    fun text => answer_moveTemp hmove hg
  unfold appendAndReplace replaceAudit
  rw [Prog.exec_perform_bind, answer_openSummary hopen]
  simp only
  rw [Prog.exec_perform_bind, answer_appendSummary happend]
  simp only
  rw [Prog.exec_perform_bind, hmoved]
  rfl

theorem writeCompacted_works {audit summary : Text} {result : CompactResult}
    (h : Replaces path options o f content) :
    (writeCompacted path audit summary result).exec auditHandler o f =
      ({ audit := some audit, summary := some (f.summaryContents ++ summary), temp := none },
        .ok result) := by
  have hparent : (if path.hasParent then answerOr o.createDirectories () else .ok ()) =
      Except.ok () := by
    split
    · rename_i hparent
      rw [h.reach.createDirectories hparent]
      rfl
    · rfl
  unfold writeCompacted
  rw [Prog.exec_perform_bind, answer_createTemp h.reach.createTemp]
  simp only
  rw [Prog.exec_perform_bind, answer_writeTemp h.reach.writeTemp]
  simp only
  rw [Prog.exec_bind, exec_rememberSummarySize, Prog.exec_bind, exec_createParent, hparent]
  exact appendAndReplace_works rfl h.reach.openSummary h.append h.move

/-- A call that replaces the file: what it writes and what it reports. -/
theorem compact_replaces (h : Replaces path options o f content) :
    compact path options o f =
      ({ audit := some (compactedText path options (lines content) o.now)
         summary := some (f.summaryContents ++ summaryText options (lines content))
         temp := none },
        .ok { compacted := true
              beforeLines := (lines content).length
              afterLines := (retainedLines options (lines content)).length + 1
              summarizedLines := (headSummary options (lines content)).total
              unparsedKept := (headSummary options (lines content)).unparsed }) := by
  have hdue := h.reach.due
  have hread : AuditReadable o :=
    ⟨h.reach.existsAudit, h.reach.auditSize, h.reach.openAudit, h.reach.readAudit⟩
  rw [compact_readable hdue.path hread hdue.audit, if_neg (not_lt.mpr hdue.size)]
  unfold compactLines
  rw [if_neg (by simp [hdue.threshold]), if_neg hdue.changes, Prog.exec_perform_bind]
  exact writeCompacted_works h

theorem isCompacting_iff :
    isCompacting (compact path options o f).2 = true ↔ ∃ content, Replaces path options o f content := by
  constructor
  · intro hcompacting
    have hend := @compact_end path options o f
    generalize compact path options o f = result at hend hcompacting
    cases hend with
    | stopped temp result hnot hresult =>
      rcases result with e | r
      · cases hcompacting
      · have hfalse := hresult r rfl
        rw [isCompacting, hfalse] at hcompacting
        cases hcompacting
    | torn => cases hcompacting
    | cutBack => cases hcompacting
    | replaced content r hreach happend hmove => exact ⟨content, hreach, happend, hmove⟩
  · rintro ⟨content, h⟩
    rw [compact_replaces h]
    rfl

/-! ## The number of lines -/

theorem length_retained (options : CompactOptions) (ls : List Text) :
    (retainedLines options ls).length + headRecords options ls = ls.length := by
  have hhead := List.length_eq_countP_add_countP isRejected (l := headLines options ls)
  have hall := congrArg List.length (head_append_tail options ls)
  rw [List.length_append] at hall
  rw [retainedLines, List.length_append, ← List.countP_eq_length_filter, headRecords]
  simp only [decide_not, Bool.decide_eq_true] at hhead
  omega

theorem headRecords_pos {options : CompactOptions} {ls : List Text}
    (h : retainedLines options ls ≠ ls) : 0 < headRecords options ls := by
  obtain ⟨line, hmem, hread⟩ := exists_record_of_changes h
  exact List.countP_pos_iff.mpr ⟨line, hmem, by simp [hread]⟩

theorem lines_compactedText (path : AuditPath) (options : CompactOptions) (content : Text)
    (now : Option LocalTime) :
    lines (compactedText path options (lines content) now) =
      retainedLines options (lines content) ++
        [formatAuditLineAscii now (selfRecord path options (lines content))] := by
  refine lines_unlines fun l hl => ?_
  rcases List.mem_append.mp hl with hl | hl
  · exact newline_not_mem_of_mem_lines (mem_of_mem_retained hl)
  · rw [List.mem_singleton.mp hl]
    exact newline_not_mem_formatAuditLine _ _

end Call

/-! ## Call after call -/

section Runs

variable (path : AuditPath) (options : CompactOptions) (os : Nat → CompactOutcomes) (f : AuditFiles)

/-- The files before call number `n`. -/
def compactRuns : Nat → AuditFiles
  | 0 => f
  | n + 1 => (compact path options (os n) (compactRuns n)).1

def compactResult (n : Nat) : Result CompactResult :=
  (compact path options (os n) (compactRuns path options os f n)).2

/-- Every compacting call makes the file shorter, and some call does not compact. -/
structure Progresses : Prop where
  fewer : ∀ n r, compactResult path options os f n = .ok r → r.compacted = true →
    r.afterLines < r.beforeLines ∧
      (lines (compactRuns path options os f (n + 1)).auditContents).length <
        (lines (compactRuns path options os f n).auditContents).length
  stops : ∃ n, isCompacting (compactResult path options os f n) = false

variable {path options os f} {n : Nat} {content : Text}

theorem lines_before (h : Replaces path options (os n) (compactRuns path options os f n) content) :
    (compactRuns path options os f n).auditContents = content := by
  rw [AuditFiles.auditContents, h.reach.due.audit, Option.getD_some]

theorem lines_after (h : Replaces path options (os n) (compactRuns path options os f n) content) :
    (lines (compactRuns path options os f (n + 1)).auditContents).length =
      (retainedLines options (lines content)).length + 1 := by
  rw [compactRuns, compact_replaces h, AuditFiles.auditContents, Option.getD_some,
    lines_compactedText, List.length_append, List.length_singleton]

theorem exists_replaces {r : CompactResult} (hr : compactResult path options os f n = .ok r)
    (hcompacted : r.compacted = true) :
    ∃ content, Replaces path options (os n) (compactRuns path options os f n) content := by
  rw [← isCompacting_iff]
  change isCompacting (compactResult path options os f n) = true
  rw [hr]
  exact hcompacted

/-- A measure that every step lowers cannot be lowered for ever. -/
theorem exists_not_of_decreasing {m : Nat → Nat} {p : Nat → Prop}
    (h : ∀ n, p n → m (n + 1) < m n) : ∃ n, ¬ p n := by
  by_contra hall
  rw [not_exists] at hall
  have hbound : ∀ n, m n + n ≤ m 0 := by
    intro n
    induction n with
    | zero => exact le_refl _
    | succ n ih =>
      have := h n (not_not.mp (hall n))
      omega
  have := hbound (m 0 + 1)
  omega

/-- Compacting makes progress exactly if no call takes a single record out of the head. -/
theorem compaction_progresses_iff (path : AuditPath) (options : CompactOptions)
    (os : Nat → CompactOutcomes) (f : AuditFiles) :
    Progresses path options os f ↔
      ∀ n content, Replaces path options (os n) (compactRuns path options os f n) content →
        headRecords options (lines content) ≠ 1 := by
  constructor
  · intro h n content hreplaces hone
    have hresult : compactResult path options os f n = .ok _ :=
      congrArg Prod.snd (compact_replaces hreplaces)
    obtain ⟨hfewer, -⟩ := h.fewer n _ hresult rfl
    have hlength := length_retained options (lines content)
    dsimp only at hfewer
    omega
  · intro h
    have hshorter : ∀ n content,
        Replaces path options (os n) (compactRuns path options os f n) content →
        (retainedLines options (lines content)).length + 1 < (lines content).length := by
      intro n content hreplaces
      have hpos := headRecords_pos hreplaces.reach.due.changes
      have hne := h n content hreplaces
      have hlength := length_retained options (lines content)
      omega
    have hlines : ∀ n, (∃ content,
        Replaces path options (os n) (compactRuns path options os f n) content) →
        (lines (compactRuns path options os f (n + 1)).auditContents).length <
          (lines (compactRuns path options os f n).auditContents).length := by
      rintro n ⟨content, hreplaces⟩
      rw [lines_after hreplaces, lines_before hreplaces]
      exact hshorter n content hreplaces
    refine ⟨?_, ?_⟩
    · intro n r hr hcompacted
      obtain ⟨content, hreplaces⟩ := exists_replaces hr hcompacted
      have hresult : compactResult path options os f n = .ok _ :=
        congrArg Prod.snd (compact_replaces hreplaces)
      rw [hr] at hresult
      cases hresult
      exact ⟨hshorter n content hreplaces, hlines n ⟨content, hreplaces⟩⟩
    · obtain ⟨n, hn⟩ := exists_not_of_decreasing
        (m := fun n => (lines (compactRuns path options os f n).auditContents).length) hlines
      refine ⟨n, ?_⟩
      rw [← Bool.not_eq_true]
      exact fun hcompacting => hn (isCompacting_iff.mp hcompacting)

end Runs

/-! ## A file that never settles -/

/-- The record a compaction of one record leaves behind. -/
def restlessAudit : Text :=
  ("2024-05-06 07:08:09 [audit] R0 audit.compact ok caller=audit target=audit.log detail=before=1 " ++
    "after=1 summarized=1 unparsed=0 threshold_bytes=10485760 threshold_lines=1\n").toList

/-- Everything there is to compute about this file. -/
theorem restless_values :
    restlessAudit.length ≤ kMaxAuditReadBytes ∧
    shouldCompactAuditFile restlessAudit.length (lines restlessAudit).length keepNothing = true ∧
    (lines restlessAudit).length = 1 ∧
    (retainedLines keepNothing (lines restlessAudit)).length = 0 ∧
    (headSummary keepNothing (lines restlessAudit)).total = 1 ∧
    (headSummary keepNothing (lines restlessAudit)).unparsed = 0 ∧
    compactedText exampleAuditPath keepNothing (lines restlessAudit) (some exampleTime) =
      restlessAudit := by
  decide +kernel

theorem restless_replaces {f : AuditFiles} (h : f.audit = some restlessAudit) :
    Replaces exampleAuditPath keepNothing { now := some exampleTime } f restlessAudit := by
  obtain ⟨hsize, hthreshold, hlines, hkept, -⟩ := restless_values
  have hchanges : retainedLines keepNothing (lines restlessAudit) ≠ lines restlessAudit := by
    intro heq
    rw [heq, hlines] at hkept
    exact absurd hkept Nat.one_ne_zero
  exact
    { reach :=
        { due := ⟨by decide, h, hsize, hthreshold, hchanges⟩
          existsAudit := rfl
          auditSize := rfl
          openAudit := rfl
          readAudit := rfl
          createTemp := rfl
          writeTemp := rfl
          createDirectories := fun _ => rfl
          openSummary := rfl }
      append := rfl
      move := rfl }

theorem restless_runs (n : Nat) :
    (compactRuns exampleAuditPath keepNothing (fun _ => { now := some exampleTime })
        { audit := some restlessAudit, summary := none } n).audit = some restlessAudit ∧
      (compactRuns exampleAuditPath keepNothing (fun _ => { now := some exampleTime })
        { audit := some restlessAudit, summary := none } n).summaryContents =
      (List.replicate n (summaryText keepNothing (lines restlessAudit))).flatten := by
  induction n with
  | zero => exact ⟨rfl, rfl⟩
  | succ n ih =>
    obtain ⟨haudit, hsummary⟩ := ih
    have hfiles := congrArg Prod.fst (compact_replaces (restless_replaces haudit))
    rw [restless_values.2.2.2.2.2.2, hsummary] at hfiles
    rw [compactRuns, hfiles]
    refine ⟨rfl, ?_⟩
    rw [List.replicate_succ', List.flatten_append, List.flatten_singleton]
    rfl

/-- Every call summarises the record of the call before it and leaves the file as it was, one line
longer in the summary. -/
theorem restless_never_stops :
    ¬ Progresses exampleAuditPath keepNothing (fun _ => { now := some exampleTime })
        { audit := some restlessAudit, summary := none } ∧
      ∀ n, compactResult exampleAuditPath keepNothing (fun _ => { now := some exampleTime })
          { audit := some restlessAudit, summary := none } n =
          .ok { compacted := true, beforeLines := 1, afterLines := 1, summarizedLines := 1 } ∧
        (compactRuns exampleAuditPath keepNothing (fun _ => { now := some exampleTime })
          { audit := some restlessAudit, summary := none } n).summaryContents =
          (List.replicate n (summaryText keepNothing (lines restlessAudit))).flatten := by
  have hreport : ∀ n, compactResult exampleAuditPath keepNothing
      (fun _ => { now := some exampleTime }) { audit := some restlessAudit, summary := none } n =
        .ok { compacted := true, beforeLines := 1, afterLines := 1, summarizedLines := 1 } := by
    intro n
    have hresult := congrArg Prod.snd (compact_replaces (restless_replaces (restless_runs n).1))
    refine hresult.trans ?_
    obtain ⟨-, -, hlines, hkept, htotal, hunparsed, -⟩ := restless_values
    rw [hlines, hkept, htotal, hunparsed]
  refine ⟨fun h => ?_, fun n => ⟨hreport n, (restless_runs n).2⟩⟩
  obtain ⟨n, hstops⟩ := h.stops
  rw [hreport n] at hstops
  cases hstops

end Audit
end CppOptimizer
