import CppOptimizer.Audit.SummaryTokens

/-!
# CppOptimizer.Audit.StrictSummary

How strict `ParseAuditSummaryLine` is.

* `StrictLine line record` — the line is a range, the marker, the four fields in their order with
  complete numbers and the operation counts, and the record has what they say.
* `Rereadable.parse`       — a line that is written is strict, and so it is read back.
* `LooseLine line`         — the line is accepted though it does not begin with the four fields.
* `strict_iff`             — the reader is strict on every line but the loose ones.

On a loose line the search for a number and the skipping of its field go different ways: fields in
another order make the reader drop operation counts, and what is glued to a number is not looked at.
Blanks may be repeated between tokens.
-/

namespace CppOptimizer
namespace Audit

open Common Lib

/-- Each text is a complete number, the one in the record. -/
structure FieldTexts.Reads (x : FieldTexts) (record : AuditSummaryRecord) : Prop where
  total : parseDigits x.total = some record.total
  ok : parseDigits x.ok = some record.ok
  fail : parseDigits x.fail = some record.fail
  unparsed : parseDigits x.unparsed = some record.unparsed

/-- A summary line as it should be, token for token, and its record. -/
def StrictLine (line : Text) (record : AuditSummaryRecord) : Prop :=
  ∃ (range fields : Text) (x : FieldTexts) (ops : List Text),
    cut summaryMarker line = some (range, fields) ∧
    IsRange range record.firstTimestamp record.lastTimestamp ∧
    tokens ' ' fields = x.row ++ ops ∧ x.Reads record ∧
    List.Forall₂ OperationToken ops record.byOperation

/-- The first four tokens are the four keys, each with a number and nothing else. -/
def FieldsFirst (ts : List Text) : Prop :=
  ∃ (x : FieldTexts) (ops : List Text), ts = x.row ++ ops ∧
    ∀ p ∈ x.numbers, (parseDigits p.2).isSome

/-- What the reader asks of a line. -/
structure Accepted (range : Text) (ts : List Text) : Prop where
  range : ∃ first last, IsRange range first last
  counts : ∀ key ∈ fieldKeys, (tokenCount key ts).isSome
  operations : ∃ entries, List.Forall₂ OperationToken (tokensAfter ts) entries

def LooseLine (line : Text) : Prop :=
  ∃ range fields, cut summaryMarker line = some (range, fields) ∧
    Accepted range (tokens ' ' fields) ∧ ¬ FieldsFirst (tokens ' ' fields)

/-! ## Lines that begin with the fields -/

namespace FieldTexts

variable {x : FieldTexts} {record : AuditSummaryRecord}

theorem digits_of_isSome (h : ∀ p ∈ x.numbers, (parseDigits p.2).isSome) : x.Digits := by
  intro p hp
  obtain ⟨n, hn⟩ := Option.isSome_iff_exists.mp (h p hp)
  exact isDigit_of_readDigits hn

theorem Reads.isSome (h : x.Reads record) : ∀ p ∈ x.numbers, (parseDigits p.2).isSome := by
  simp only [numbers, List.forall_mem_cons]
  simp [h.total, h.ok, h.fail, h.unparsed]

/-- The numbers of the fields are the numbers the reader finds. -/
theorem Digits.reads_iff (h : x.Digits) (ops : List Text) :
    (∀ p ∈ recordCounts record, Audit.tokenCount p.1 (x.row ++ ops) = some p.2) ↔
      x.Reads record := by
  have hcount : ∀ p ∈ x.numbers, Audit.tokenCount p.1 (x.row ++ ops) = parseDigits p.2 := by
    intro p hp
    have hfields := h.tokenCount [] ops hp
    simpa using hfields
  simp only [numbers, List.forall_mem_cons] at hcount
  obtain ⟨htotal, hok, hfail, hunparsed, -⟩ := hcount
  simp only [recordCounts, List.forall_mem_cons, htotal, hok, hfail, hunparsed]
  constructor
  · rintro ⟨h1, h2, h3, h4, -⟩
    exact ⟨h1, h2, h3, h4⟩
  · rintro ⟨h1, h2, h3, h4⟩
    exact ⟨h1, h2, h3, h4, by simp⟩

theorem Digits.tokensAfter_row (h : x.Digits) (ops : List Text) :
    Audit.tokensAfter (x.row ++ ops) = ops := h.tokensAfter [] ops

end FieldTexts

theorem StrictLine.parse {line : Text} {record : AuditSummaryRecord} (h : StrictLine line record) :
    parseAuditSummaryLine line = some record := by
  obtain ⟨range, fields, x, ops, hcut, hrange, htokens, hreads, hops⟩ := h
  have hdigits : x.Digits := FieldTexts.digits_of_isSome hreads.isSome
  refine parse_iff.mpr ⟨range, fields, hcut, hrange, ?_, ?_⟩
  · rw [htokens]
    exact (hdigits.reads_iff ops).mpr hreads
  · rw [htokens, hdigits.tokensAfter_row]
    exact hops

/-- A line that is written is as it should be. -/
theorem Rereadable.strict {summary : AuditLineSummary} (h : Rereadable summary) :
    StrictLine (formatAuditSummaryLine summary)
      { firstTimestamp := summary.firstTimestamp
        lastTimestamp := summary.lastTimestamp
        total := summary.total
        ok := summary.ok
        fail := summary.fail
        unparsed := summary.unparsed
        byOperation := summary.byOperation } := by
  refine ⟨formatRange summary, formatCounts summary, summaryTexts summary,
    summary.byOperation.map formatOperationCount, h.marker _, parseRange_iff.mp h.range, ?_, ?_, ?_⟩
  · exact tokens_formatCounts fun entry hentry => (h.byOperation entry hentry).1.2.1
  · exact ⟨parseDigits_decimal h.total, parseDigits_decimal h.ok, parseDigits_decimal h.fail,
      parseDigits_decimal h.unparsed⟩
  · rw [List.forall₂_map_left_iff, List.forall₂_same]
    intro entry hentry
    obtain ⟨hoperation, hok, hfail⟩ := h.byOperation entry hentry
    exact operationToken_format hoperation hok hfail

/-- Reading back a summary line gives the summary. -/
theorem Rereadable.parse {summary : AuditLineSummary} (h : Rereadable summary) :
    parseAuditSummaryLine (formatAuditSummaryLine summary) =
      some { firstTimestamp := summary.firstTimestamp
             lastTimestamp := summary.lastTimestamp
             total := summary.total
             ok := summary.ok
             fail := summary.fail
             unparsed := summary.unparsed
             byOperation := summary.byOperation } := h.strict.parse

/-! ## Strict on all lines but the loose ones -/

section Line

variable {line range fields : Text} (hcut : cut summaryMarker line = some (range, fields))

include hcut

theorem accepted_of_parse {record : AuditSummaryRecord}
    (h : parseAuditSummaryLine line = some record) : Accepted range (tokens ' ' fields) := by
  obtain ⟨range', fields', hcut', hrange, hcounts, hops⟩ := parse_iff.mp h
  obtain ⟨rfl, rfl⟩ := Prod.mk.inj (Option.some.inj (hcut.symm.trans hcut'))
  refine ⟨⟨_, _, hrange⟩, ?_, ⟨_, hops⟩⟩
  simp only [recordCounts, fieldKeys, List.forall_mem_cons] at hcounts ⊢
  obtain ⟨htotal, hok, hfail, hunparsed, -⟩ := hcounts
  exact ⟨Option.isSome_of_eq_some htotal, Option.isSome_of_eq_some hok,
    Option.isSome_of_eq_some hfail, Option.isSome_of_eq_some hunparsed, by simp⟩

theorem Accepted.parse (h : Accepted range (tokens ' ' fields)) :
    ∃ record, parseAuditSummaryLine line = some record := by
  obtain ⟨first, last, hrange⟩ := h.range
  obtain ⟨entries, hops⟩ := h.operations
  have hcounts := h.counts
  simp only [fieldKeys, List.forall_mem_cons, Option.isSome_iff_exists] at hcounts
  obtain ⟨⟨total, htotal⟩, ⟨ok, hok⟩, ⟨fail, hfail⟩, ⟨unparsed, hunparsed⟩, -⟩ := hcounts
  refine ⟨{ firstTimestamp := first, lastTimestamp := last, total := total, ok := ok, fail := fail,
            unparsed := unparsed, byOperation := entries },
    parse_iff.mpr ⟨range, fields, hcut, hrange, ?_, hops⟩⟩
  simp only [recordCounts, List.forall_mem_cons]
  exact ⟨htotal, hok, hfail, hunparsed, by simp⟩

theorem FieldsFirst.strict (h : FieldsFirst (tokens ' ' fields)) {record : AuditSummaryRecord}
    (hparse : parseAuditSummaryLine line = some record) : StrictLine line record := by
  obtain ⟨range', fields', hcut', hrange, hcounts, hops⟩ := parse_iff.mp hparse
  obtain ⟨rfl, rfl⟩ := Prod.mk.inj (Option.some.inj (hcut.symm.trans hcut'))
  obtain ⟨x, ops, htokens, hnumbers⟩ := h
  have hdigits : x.Digits := FieldTexts.digits_of_isSome hnumbers
  rw [htokens] at hcounts hops
  rw [hdigits.tokensAfter_row] at hops
  exact ⟨range, fields, x, ops, hcut, hrange, htokens, (hdigits.reads_iff ops).mp hcounts, hops⟩

theorem StrictLine.fieldsFirst {record : AuditSummaryRecord} (h : StrictLine line record) :
    FieldsFirst (tokens ' ' fields) := by
  obtain ⟨range', fields', x, ops, hcut', -, htokens, hreads, -⟩ := h
  obtain ⟨rfl, rfl⟩ := Prod.mk.inj (Option.some.inj (hcut.symm.trans hcut'))
  exact ⟨x, ops, htokens, hreads.isSome⟩

end Line

/-- A line is read if and only if it is as it should be, and then as what it says, unless it is
accepted without the four fields in front. -/
theorem strict_iff (line : Text) :
    (∀ record, parseAuditSummaryLine line = some record ↔ StrictLine line record) ↔
      ¬ LooseLine line := by
  constructor
  · rintro hstrict ⟨range, fields, hcut, haccepted, hnot⟩
    obtain ⟨record, hparse⟩ := haccepted.parse hcut
    exact hnot (((hstrict record).mp hparse).fieldsFirst hcut)
  · intro hnot record
    refine ⟨fun hparse => ?_, StrictLine.parse⟩
    obtain ⟨range, fields, hcut, -⟩ := parse_iff.mp hparse
    by_cases hfirst : FieldsFirst (tokens ' ' fields)
    · exact hfirst.strict hcut hparse
    · exact absurd ⟨range, fields, hcut, accepted_of_parse hcut hparse, hfirst⟩ hnot

/-- The fields in another order. -/
def reorderedLine : Text :=
  " [audit-summary] total=3 fail=1 ok=2 unparsed=0 disk.clean=2/1".toList

/-- The count of the operation is dropped. -/
theorem reordered_line_loses_operation :
    parseAuditSummaryLine reorderedLine = some { total := 3, ok := 2, fail := 1 } ∧
      ¬ StrictLine reorderedLine { total := 3, ok := 2, fail := 1 } := by
  have hfields : cut summaryMarker reorderedLine =
      some ([], "total=3 fail=1 ok=2 unparsed=0 disk.clean=2/1".toList) := by
    decide +kernel
  have hfive : (tokens ' ' "total=3 fail=1 ok=2 unparsed=0 disk.clean=2/1".toList).length = 5 := by
    decide +kernel
  refine ⟨by decide +kernel, ?_⟩
  rintro ⟨range, fields, x, ops, hcut, -, htokens, -, hops⟩
  obtain ⟨rfl, rfl⟩ := Prod.mk.inj (Option.some.inj (hfields.symm.trans hcut))
  have hnone : List.Forall₂ OperationToken ops [] := hops
  cases hnone
  rw [htokens, List.append_nil] at hfive
  exact absurd hfive (show x.row.length ≠ 5 from by simp [FieldTexts.row, FieldTexts.fields,
    FieldTexts.numbers])

end Audit
end CppOptimizer
