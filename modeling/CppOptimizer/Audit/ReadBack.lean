import CppOptimizer.Audit.Fold

/-!
# CppOptimizer.Audit.ReadBack

Whether the summary line of some lines can be read back.

* `Tally ls summary`  — what `SummarizeAuditLines` has counted, in terms of the lines it could read.
* `ReadBack summary`  — the line of the summary is read, with the same counts.
* `Unambiguous ls`    — the texts the lines bring into the summary line do not get in the way of its
  format.
* `read_back_iff`     — the two agree, for every list of lines.

Operation ids and timestamps go into the summary line as they are. An id with an equals sign makes its
token unreadable; a timestamp that holds the dots or the marker moves the place where the fields are
looked for.
-/

namespace CppOptimizer
namespace Audit

open Common Lib

/-- The lines that can be read. -/
def prefixes (ls : List Text) : List AuditLinePrefix := ls.filterMap parseAuditLinePrefix

/-- The counts of some lines, with the keys they have in a summary line. -/
def lineCounts (ls : List Text) : List (Text × Nat) :=
  [("total=".toList, (prefixes ls).length), ("ok=".toList, (prefixes ls).countP (·.ok)),
    ("fail=".toList, (prefixes ls).countP (!·.ok)), ("unparsed=".toList, ls.countP isRejected)]

/-- The first timestamp and the last one. -/
def stampRange (ps : List AuditLinePrefix) : Text :=
  match ps.head?, ps.getLast? with
  | some first, some last => first.timestamp ++ ("..".toList ++ last.timestamp)
  | _, _ => []

structure SameCounts (record : AuditSummaryRecord) (summary : AuditLineSummary) : Prop where
  total : record.total = summary.total
  ok : record.ok = summary.ok
  fail : record.fail = summary.fail
  unparsed : record.unparsed = summary.unparsed
  byOperation : record.byOperation = summary.byOperation

def ReadBack (summary : AuditLineSummary) : Prop :=
  ∃ record, parseAuditSummaryLine (formatAuditSummaryLine summary) = some record ∧
    SameCounts record summary

/-- Tokens in front of the fields that change nothing: a key among them has the number of its field,
and the four keys are not there in their order. -/
structure Harmless (counts : List (Text × Nat)) (js : List Text) : Prop where
  counts : ∀ p ∈ counts, js.any (holds p.1) = true → tokenCount p.1 js = some p.2
  order : inOrder fieldKeys js = false

structure Unambiguous (ls : List Text) : Prop where
  operations : ∀ p ∈ prefixes ls, '=' ∉ p.operationId
  /-- What stands before the first marker is a range, and what the timestamps put behind it is
  harmless. -/
  stamps : ∃ range rest, cut summaryMarker (stampRange (prefixes ls) ++ summaryMarker) =
      some (range, rest) ∧
    (∃ first last, IsRange range first last) ∧ Harmless (lineCounts ls) (tokens ' ' rest)

/-! ## What is counted -/

theorem prefixes_append (ls : List Text) (line : Text) :
    prefixes (ls ++ [line]) = prefixes ls ++ (parseAuditLinePrefix line).toList := by
  rw [prefixes, List.filterMap_append]
  cases h : parseAuditLinePrefix line with
  | none => simp [prefixes, h]
  | some p => simp [prefixes, h]

/-- What is read of a line is there, and the operation is one word. -/
theorem parseAuditLinePrefix_some {line : Text} {p : AuditLinePrefix}
    (h : parseAuditLinePrefix line = some p) :
    p.timestamp ≠ [] ∧ p.operationId ≠ [] ∧ ' ' ∉ p.operationId := by
  unfold parseAuditLinePrefix at h
  split at h
  · cases h
  · split at h
    · cases h
    · rename_i htimestamp
      split at h
      · cases h
      · split at h
        · cases h
        · rename_i operationId rest hcut
          have hblank : ' ' ∉ operationId := not_mem_of_cut_singleton hcut
          split at h
          · cases h
          · rename_i hoperation
            split at h
            · cases h
              exact ⟨htimestamp, hoperation, hblank⟩
            · split at h
              · cases h
                exact ⟨htimestamp, hoperation, hblank⟩
              · cases h

theorem mem_prefixes {ls : List Text} {p : AuditLinePrefix} (h : p ∈ prefixes ls) :
    p.timestamp ≠ [] ∧ p.operationId ≠ [] ∧ ' ' ∉ p.operationId := by
  obtain ⟨line, _, hline⟩ := List.mem_filterMap.mp h
  exact parseAuditLinePrefix_some hline

theorem exists_mem_countOperation (op id : Text) (result : Bool)
    (entries : List AuditOperationCount) :
    (∃ entry ∈ countOperation op result entries, entry.operationId = id) ↔
      op = id ∨ ∃ entry ∈ entries, entry.operationId = id := by
  induction entries with
  | nil => simp [countOperation, operationId_add]
  | cons first entries ih =>
    rw [countOperation]
    split
    · rename_i hfirst
      simp [operationId_add, hfirst]
    · simp only [List.exists_mem_cons_iff, ih]
      exact or_left_comm

structure Tally (ls : List Text) (summary : AuditLineSummary) : Prop where
  total : summary.total = (prefixes ls).length
  ok : summary.ok = (prefixes ls).countP (·.ok)
  fail : summary.fail = (prefixes ls).countP (!·.ok)
  unparsed : summary.unparsed = ls.countP isRejected
  first : summary.firstTimestamp = ((prefixes ls).head?.map (·.timestamp)).getD []
  last : summary.lastTimestamp = ((prefixes ls).getLast?.map (·.timestamp)).getD []
  operations : ∀ id, (∃ entry ∈ summary.byOperation, entry.operationId = id) ↔
    ∃ p ∈ prefixes ls, p.operationId = id

theorem Tally.step {ls : List Text} {summary : AuditLineSummary} (h : Tally ls summary)
    (line : Text) : Tally (ls ++ [line]) (summarizeLine summary line) := by
  have hsnoc := prefixes_append ls line
  cases hline : parseAuditLinePrefix line with
  | none =>
    have hrejected : isRejected line = true := by simp [isRejected, hline]
    rw [hline, Option.toList_none, List.append_nil] at hsnoc
    rw [summarizeLine_of_rejected hrejected]
    refine ⟨?_, ?_, ?_, ?_, ?_, ?_, ?_⟩
    · rw [hsnoc, h.total]
    · rw [hsnoc, h.ok]
    · rw [hsnoc, h.fail]
    · rw [List.countP_append, h.unparsed]
      simp [hrejected]
    · rw [hsnoc, h.first]
    · rw [hsnoc, h.last]
    · rw [hsnoc]
      exact h.operations
  | some p =>
    have hrejected : isRejected line = false := by simp [isRejected, hline]
    rw [hline, Option.toList_some] at hsnoc
    simp only [summarizeLine, hline]
    refine ⟨?_, ?_, ?_, ?_, ?_, ?_, ?_⟩
    · simp [hsnoc, h.total]
    · cases hok : p.ok <;> simp [hsnoc, h.ok, hok]
    · cases hok : p.ok <;> simp [hsnoc, h.fail, hok]
    · simp [List.countP_append, h.unparsed, hrejected]
    · rw [hsnoc, h.first]
      cases hps : prefixes ls with
      | nil => simp
      | cons first ps =>
        have hne : first.timestamp ≠ [] := (mem_prefixes (by rw [hps]; exact List.mem_cons_self)).1
        simp [hne]
    · simp [hsnoc]
    · intro id
      rw [exists_mem_countOperation, h.operations id, hsnoc]
      simp only [List.mem_append, List.mem_singleton, or_and_right, exists_or, exists_eq_left]
      exact or_comm

theorem tally_summarizeAuditLines (ls : List Text) : Tally ls (summarizeAuditLines ls) := by
  induction ls using List.reverseRecOn with
  | nil => exact ⟨rfl, rfl, rfl, rfl, rfl, rfl, by simp [summarizeAuditLines, prefixes]⟩
  | append_singleton ls line ih =>
    rw [summarizeAuditLines_append]
    exact ih.step line

section Summary

variable (ls : List Text)

theorem formatRange_summary : formatRange (summarizeAuditLines ls) = stampRange (prefixes ls) := by
  have hfirst := (tally_summarizeAuditLines ls).first
  have hlast := (tally_summarizeAuditLines ls).last
  rw [formatRange, stampRange, hfirst, hlast]
  cases hps : prefixes ls with
  | nil => rfl
  | cons first ps =>
    have hne : first.timestamp ≠ [] := (mem_prefixes (by rw [hps]; exact List.mem_cons_self)).1
    have hsome : (first :: ps).getLast? = some ((first :: ps).getLast (by simp)) :=
      List.getLast?_eq_some_getLast (by simp)
    rw [hsome]
    simp [hne]

/-- An operation is not counted more often than lines are read. -/
theorem countFor_le_total {entry : AuditOperationCount}
    (h : entry ∈ (summarizeAuditLines ls).byOperation) (ok : Bool) :
    entry.countFor ok ≤ (summarizeAuditLines ls).total := by
  have hmono : ∀ line, isRecordOf ok entry.operationId line = true →
      (parseAuditLinePrefix line).isSome = true := by
    intro line hline
    unfold isRecordOf at hline
    split at hline
    · cases hline
    · case _ p hp => rw [hp]; rfl
  calc entry.countFor ok
      ≤ countOf ok entry.operationId (summarizeAuditLines ls).byOperation :=
        countFor_le_countOf h ok
    _ = ls.countP (isRecordOf ok entry.operationId) := countOf_summarizeAuditLines ok _ ls
    _ ≤ ls.countP fun line => (parseAuditLinePrefix line).isSome :=
        List.countP_mono_left fun line _ => hmono line
    _ = (prefixes ls).length := List.length_filterMap_eq_countP.symm
    _ = (summarizeAuditLines ls).total := (tally_summarizeAuditLines ls).total.symm

theorem entry_word {entry : AuditOperationCount}
    (h : entry ∈ (summarizeAuditLines ls).byOperation) :
    entry.operationId ≠ [] ∧ ' ' ∉ entry.operationId := by
  obtain ⟨p, hp, hid⟩ :=
    ((tally_summarizeAuditLines ls).operations entry.operationId).mp ⟨entry, h, rfl⟩
  rw [← hid]
  exact (mem_prefixes hp).2

end Summary

/-! ## Where the reader looks for the fields -/

/-- The marker ends in a blank, so that the fields begin with a token of their own wherever the first
marker is. -/
theorem tokens_behind_marker {stamps range rest : Text}
    (h : cut summaryMarker (stamps ++ summaryMarker) = some (range, rest)) (text : Text) :
    tokens ' ' (rest ++ text) = tokens ' ' rest ++ tokens ' ' text := by
  have hmarker : summaryMarker = " [audit-summary]".toList ++ [' '] := by decide
  rcases List.eq_nil_or_concat rest with rfl | ⟨init, c, rfl⟩
  · simp
  · have hends : stamps ++ " [audit-summary]".toList ++ [' '] =
        range ++ (summaryMarker ++ init) ++ [c] := by
      rw [List.append_assoc, ← hmarker, eq_append_of_cut h]
      simp
    obtain rfl : ' ' = c := List.singleton_inj.mp (List.append_inj_right' hends rfl)
    rw [List.concat_eq_append, List.append_assoc, List.singleton_append, tokens_append_cons,
      tokens_append_cons, tokens_nil, List.append_nil]

theorem cut_formatAuditSummaryLine {ls : List Text} {range rest : Text}
    (h : cut summaryMarker (stampRange (prefixes ls) ++ summaryMarker) = some (range, rest)) :
    cut summaryMarker (formatAuditSummaryLine (summarizeAuditLines ls)) =
      some (range, rest ++ formatCounts (summarizeAuditLines ls)) := by
  have hline : formatAuditSummaryLine (summarizeAuditLines ls) =
      range ++ (summaryMarker ++ (rest ++ formatCounts (summarizeAuditLines ls))) := by
    rw [formatAuditSummaryLine, formatRange_summary, ← List.append_assoc, eq_append_of_cut h]
    simp
  rw [hline]
  exact cut_replace h _

/-! ## When the line is read back -/

section ReadBack

variable {ls : List Text}

theorem numbers_summaryTexts : (summaryTexts (summarizeAuditLines ls)).numbers =
    (lineCounts ls).map fun p => (p.1, decimal p.2) := by
  have h := tally_summarizeAuditLines ls
  simp only [FieldTexts.numbers, summaryTexts, lineCounts, List.map_cons, List.map_nil, h.total, h.ok,
    h.fail, h.unparsed]

theorem SameCounts.recordCounts {record : AuditSummaryRecord}
    (hsame : SameCounts record (summarizeAuditLines ls)) : recordCounts record = lineCounts ls := by
  have h := tally_summarizeAuditLines ls
  simp only [Audit.recordCounts, lineCounts, hsame.total, hsame.ok, hsame.fail, hsame.unparsed, h.total,
    h.ok, h.fail, h.unparsed]

variable (htotal : WithinLimit (summarizeAuditLines ls).total)

include htotal

theorem withinLimit_lineCounts (hunparsed : WithinLimit (summarizeAuditLines ls).unparsed) :
    ∀ p ∈ lineCounts ls, WithinLimit p.2 := by
  rw [(tally_summarizeAuditLines ls).total] at htotal
  rw [(tally_summarizeAuditLines ls).unparsed] at hunparsed
  simp only [lineCounts, List.forall_mem_cons]
  exact ⟨htotal, htotal.mono List.countP_le_length, htotal.mono List.countP_le_length, hunparsed,
    by simp⟩

/-- The token of an operation is read back unless its id has an equals sign. -/
theorem operationToken_iff {entry : AuditOperationCount}
    (h : entry ∈ (summarizeAuditLines ls).byOperation) :
    OperationToken (formatOperationCount entry) entry ↔ '=' ∉ entry.operationId := by
  refine ⟨OperationToken.plain, fun hplain => ?_⟩
  obtain ⟨hne, hblank⟩ := entry_word ls h
  exact operationToken_format ⟨hne, hblank, hplain⟩ (htotal.mono (countFor_le_total ls h true))
    (htotal.mono (countFor_le_total ls h false))

theorem operationTokens_iff :
    List.Forall₂ OperationToken ((summarizeAuditLines ls).byOperation.map formatOperationCount)
      (summarizeAuditLines ls).byOperation ↔ ∀ p ∈ prefixes ls, '=' ∉ p.operationId := by
  have hoperations := (tally_summarizeAuditLines ls).operations
  rw [List.forall₂_map_left_iff, List.forall₂_same]
  constructor
  · intro hall p hp
    obtain ⟨entry, hentry, hid⟩ := (hoperations p.operationId).mpr ⟨p, hp, rfl⟩
    rw [← hid]
    exact (operationToken_iff htotal hentry).mp (hall entry hentry)
  · intro hall entry hentry
    obtain ⟨p, hp, hid⟩ := (hoperations entry.operationId).mp ⟨entry, hentry, rfl⟩
    refine (operationToken_iff htotal hentry).mpr ?_
    rw [← hid]
    exact hall p hp

/-- With some tokens in front, the counts are those of the summary when the tokens are harmless. -/
theorem reads_tokens_iff (hunparsed : WithinLimit (summarizeAuditLines ls).unparsed)
    (js : List Text) :
    ((∀ p ∈ lineCounts ls,
          tokenCount p.1 (js ++ summaryTokens (summarizeAuditLines ls)) = some p.2) ∧
        List.Forall₂ OperationToken (tokensAfter (js ++ summaryTokens (summarizeAuditLines ls)))
          (summarizeAuditLines ls).byOperation) ↔
      Harmless (lineCounts ls) js ∧ ∀ p ∈ prefixes ls, '=' ∉ p.operationId := by
  have hdigits := digits_summaryTexts (summarizeAuditLines ls)
  have hcount : ∀ p ∈ lineCounts ls,
      tokenCount p.1 (js ++ summaryTokens (summarizeAuditLines ls)) =
        if js.any (holds p.1) then tokenCount p.1 js else some p.2 := by
    intro p hp
    have hmem : (p.1, decimal p.2) ∈ (summaryTexts (summarizeAuditLines ls)).numbers := by
      rw [numbers_summaryTexts]
      exact List.mem_map_of_mem (f := fun p => (p.1, decimal p.2)) hp
    rw [summaryTokens, hdigits.tokenCount js _ hmem,
      parseDigits_decimal (withinLimit_lineCounts htotal hunparsed p hp)]
  have hafter := hdigits.tokensAfter js
    ((summarizeAuditLines ls).byOperation.map formatOperationCount)
  rw [← summaryTokens] at hafter
  rw [hafter, ← operationTokens_iff htotal]
  constructor
  · rintro ⟨hcounts, hops⟩
    have horder : inOrder fieldKeys js = false := by
      cases hin : inOrder fieldKeys js with
      | false => rfl
      | true =>
        -- the four fields would be operations, and there are no more operations than entries
        rw [hin, if_pos rfl] at hops
        have hlength := hops.length_eq
        have hrow : (summaryTexts (summarizeAuditLines ls)).row.length = 4 := by
          simp [FieldTexts.row, FieldTexts.fields, FieldTexts.numbers]
        simp only [summaryTokens, List.length_append, List.length_map, hrow] at hlength
        omega
    rw [horder, if_neg (by simp)] at hops
    refine ⟨⟨fun p hp hany => ?_, horder⟩, hops⟩
    have hp' := hcounts p hp
    rwa [hcount p hp, if_pos hany] at hp'
  · rintro ⟨hharmless, hops⟩
    rw [hharmless.order, if_neg (by simp)]
    refine ⟨fun p hp => ?_, hops⟩
    rw [hcount p hp]
    split
    · exact hharmless.counts p hp (by assumption)
    · rfl

/-- The summary line of some lines is read back with the counts of the summary exactly when no
operation id has an equals sign and the timestamps do not disturb the range or the fields. -/
theorem read_back_iff (hunparsed : WithinLimit (summarizeAuditLines ls).unparsed) :
    ReadBack (summarizeAuditLines ls) ↔ Unambiguous ls := by
  obtain ⟨⟨range, rest⟩, hcut⟩ := exists_cut summaryMarker (stampRange (prefixes ls)) []
  rw [List.append_nil] at hcut
  have hline := cut_formatAuditSummaryLine hcut
  have htokens : tokens ' ' (rest ++ formatCounts (summarizeAuditLines ls)) =
      tokens ' ' rest ++ summaryTokens (summarizeAuditLines ls) := by
    rw [tokens_behind_marker hcut, tokens_formatCounts fun entry h => (entry_word ls h).2]
  constructor
  · rintro ⟨record, hparse, hsame⟩
    obtain ⟨range', fields, hcut', hrange, hreads⟩ := parse_iff.mp hparse
    obtain ⟨rfl, rfl⟩ := Prod.mk.inj (Option.some.inj (hline.symm.trans hcut'))
    rw [htokens, hsame.recordCounts, hsame.byOperation, reads_tokens_iff htotal hunparsed] at hreads
    exact ⟨hreads.2, range, rest, hcut, ⟨_, _, hrange⟩, hreads.1⟩
  · rintro ⟨hoperations, range', rest', hcut', ⟨first, last, hrange⟩, hharmless⟩
    obtain ⟨rfl, rfl⟩ := Prod.mk.inj (Option.some.inj (hcut.symm.trans hcut'))
    have hreads := (reads_tokens_iff htotal hunparsed _).mpr ⟨hharmless, hoperations⟩
    let record : AuditSummaryRecord :=
      { firstTimestamp := first
        lastTimestamp := last
        total := (summarizeAuditLines ls).total
        ok := (summarizeAuditLines ls).ok
        fail := (summarizeAuditLines ls).fail
        unparsed := (summarizeAuditLines ls).unparsed
        byOperation := (summarizeAuditLines ls).byOperation }
    have hsame : SameCounts record (summarizeAuditLines ls) := ⟨rfl, rfl, rfl, rfl, rfl⟩
    refine ⟨record, parse_iff.mpr ⟨range, _, hline, hrange, ?_⟩, hsame⟩
    rw [htokens, hsame.recordCounts, hsame.byOperation]
    exact hreads

end ReadBack

def plainLines : List Text :=
  ["2026-07-21 10:00:00 [audit] R1 disk.clean ok caller=ui target= detail=".toList,
    "torn".toList,
    "2026-07-21 10:05:00 [audit] R2 disk.clean fail caller=ui target= detail=".toList]

theorem plain_lines_read_back : ReadBack (summarizeAuditLines plainLines) := by
  have hread : prefixes plainLines =
      [{ timestamp := "2026-07-21 10:00:00".toList, operationId := "disk.clean".toList, ok := true },
        { timestamp := "2026-07-21 10:05:00".toList, operationId := "disk.clean".toList
          ok := false }] ∧ plainLines.countP isRejected = 1 := by
    decide +kernel
  obtain ⟨hprefixes, hrejected⟩ := hread
  have hcut : cut summaryMarker ("2026-07-21 10:00:00..2026-07-21 10:05:00".toList ++
      summaryMarker) = some ("2026-07-21 10:00:00..2026-07-21 10:05:00".toList, []) ∧
      cut "..".toList "2026-07-21 10:00:00..2026-07-21 10:05:00".toList =
        some ("2026-07-21 10:00:00".toList, "2026-07-21 10:05:00".toList) := by
    decide +kernel
  have htotal : WithinLimit (summarizeAuditLines plainLines).total := by
    rw [(tally_summarizeAuditLines plainLines).total, hprefixes]
    exact withinLimit_of_le (by decide)
  have hunparsed : WithinLimit (summarizeAuditLines plainLines).unparsed := by
    rw [(tally_summarizeAuditLines plainLines).unparsed, hrejected]
    exact withinLimit_of_le (by decide)
  have hstamps : stampRange (prefixes plainLines) =
      "2026-07-21 10:00:00..2026-07-21 10:05:00".toList := by
    rw [hprefixes]
    decide
  refine (read_back_iff htotal hunparsed).mpr ⟨?_, ?_⟩
  · rw [hprefixes]
    decide
  · rw [hstamps]
    refine ⟨_, _, hcut.1, ⟨_, _, .between hcut.2 (by decide) (by decide)⟩, ?_⟩
    rw [tokens_nil]
    refine ⟨fun p _ hany => ?_, rfl⟩
    cases hany

/-- An operation id with an equals sign. -/
def equalsLines : List Text :=
  ["2026-07-21 10:00:00 [audit] R1 key=value ok caller=ui target= detail=".toList]

/-- The line is read as a record of the operation; its summary line is not read as a summary. -/
theorem equals_lines_lost :
    WithinLimit (summarizeAuditLines equalsLines).total ∧
      WithinLimit (summarizeAuditLines equalsLines).unparsed ∧
      ¬ ReadBack (summarizeAuditLines equalsLines) := by
  have hcounts : (summarizeAuditLines equalsLines).total = 1 ∧
      (summarizeAuditLines equalsLines).unparsed = 0 ∧
      isUnparsable (formatAuditSummaryLine (summarizeAuditLines equalsLines)) = true := by
    decide +kernel
  obtain ⟨htotal, hunparsed, hlost⟩ := hcounts
  rw [htotal, hunparsed]
  refine ⟨withinLimit_of_le (by decide), withinLimit_of_le (by decide), ?_⟩
  rintro ⟨record, hparse, -⟩
  rw [isUnparsable, hparse] at hlost
  cases hlost

end Audit
end CppOptimizer
