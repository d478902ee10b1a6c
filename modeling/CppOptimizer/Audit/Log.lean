import CppOptimizer.Common.Text
import CppOptimizer.Lib.Strings

/-!
# CppOptimizer.Audit.Log

The lines of the audit file and of its summary file (`audit_log.cpp`): writers, readers, counts.

* `formatAuditLineAscii`, `parseAuditLinePrefix` — one record, and the part of it that is read back.
* `summarizeAuditLines`                          — the counts of a list of lines.
* `formatAuditSummaryLine`, `parseAuditSummaryLine` — the counts as one line of the summary file.

A character stands for one byte of the file. The time of `AuditRecord` is left out: it does not go
into the line.
-/

namespace CppOptimizer
namespace Audit

open Common Lib

/-! ## Records -/

inductive RiskLevel where
  | r0 | r1 | r2 | r3 | r4
  deriving DecidableEq, Repr

def riskLevelToString : RiskLevel → Text
  | .r0 => "R0".toList
  | .r1 => "R1".toList
  | .r2 => "R2".toList
  | .r3 => "R3".toList
  | .r4 => "R4".toList

structure AuditRecord where
  operationId : Text
  risk : RiskLevel := .r1
  caller : Text := []
  target : Text := []
  detail : Text := []
  ok : Bool := true
  deriving DecidableEq, Repr

/-- What `localtime_s` gives. -/
structure LocalTime where
  year : Nat
  month : Nat
  day : Nat
  hour : Nat
  minute : Nat
  second : Nat
  deriving DecidableEq, Repr

/-- A number with leading zeros. -/
def padded (width n : Nat) : Text := List.replicate (width - (decimal n).length) '0' ++ decimal n

/-- `YYYY-MM-DD HH:MM:SS`; empty when the local time cannot be had. -/
def localTimestampAscii : Option LocalTime → Text
  | none => []
  | some t =>
    padded 4 t.year ++ '-' :: (padded 2 t.month ++ '-' :: (padded 2 t.day ++ ' ' ::
      (padded 2 t.hour ++ ':' :: (padded 2 t.minute ++ ':' :: padded 2 t.second))))

def isControl (ch : Char) : Bool := ch.toNat < 0x20 || ch.toNat == 0x7F

/-- Control characters become blanks, so that a record stays on its line. -/
def sanitized (field : Text) : Text := field.map fun ch => if isControl ch then ' ' else ch

def auditMarker : Text := " [audit] ".toList

/-- What follows the result in a line. -/
def auditLineFields (record : AuditRecord) : Text :=
  "caller=".toList ++ (sanitized record.caller ++ (" target=".toList ++ (sanitized record.target ++
    (" detail=".toList ++ sanitized record.detail))))

def resultText (ok : Bool) : Text := if ok then "ok".toList else "fail".toList

def formatAuditLineAscii (now : Option LocalTime) (record : AuditRecord) : Text :=
  localTimestampAscii now ++ (auditMarker ++ (riskLevelToString record.risk ++ ' ' ::
    (sanitized record.operationId ++ ' ' :: (resultText record.ok ++ ' ' ::
      auditLineFields record))))

structure AuditLinePrefix where
  timestamp : Text
  operationId : Text
  ok : Bool
  deriving DecidableEq, Repr

/-- The text up to the next blank, or all of it. -/
def firstToken (text : Text) : Text :=
  match cut [' '] text with
  | none => text
  | some (token, _) => token

def parseAuditLinePrefix (line : Text) : Option AuditLinePrefix :=
  match cut auditMarker line with
  | none => none
  | some (timestamp, rest) =>
    if timestamp = [] then none
    else
      match cut [' '] rest with
      | none => none
      | some (_, rest) =>
        match cut [' '] rest with
        | none => none
        | some (operationId, rest) =>
          if operationId = [] then none
          else if firstToken rest = resultText true then
            some { timestamp := timestamp, operationId := operationId, ok := true }
          else if firstToken rest = resultText false then
            some { timestamp := timestamp, operationId := operationId, ok := false }
          else none

/-! ## Counts -/

structure AuditOperationCount where
  operationId : Text
  ok : Nat := 0
  fail : Nat := 0
  deriving DecidableEq, Repr

structure AuditLineSummary where
  total : Nat := 0
  ok : Nat := 0
  fail : Nat := 0
  unparsed : Nat := 0
  byOperation : List AuditOperationCount := []
  firstTimestamp : Text := []
  lastTimestamp : Text := []
  deriving DecidableEq, Repr

def AuditOperationCount.add (entry : AuditOperationCount) (ok : Bool) : AuditOperationCount :=
  if ok then { entry with ok := entry.ok + 1 } else { entry with fail := entry.fail + 1 }

/-- The entry of the operation, or a new one at the end. -/
def countOperation (operationId : Text) (ok : Bool) :
    List AuditOperationCount → List AuditOperationCount
  | [] => [AuditOperationCount.add { operationId := operationId } ok]
  | entry :: entries =>
    if entry.operationId = operationId then entry.add ok :: entries
    else entry :: countOperation operationId ok entries

def summarizeLine (summary : AuditLineSummary) (line : Text) : AuditLineSummary :=
  match parseAuditLinePrefix line with
  | none => { summary with unparsed := summary.unparsed + 1 }
  | some p =>
    { summary with
      total := summary.total + 1
      ok := if p.ok then summary.ok + 1 else summary.ok
      fail := if p.ok then summary.fail else summary.fail + 1
      byOperation := countOperation p.operationId p.ok summary.byOperation
      firstTimestamp :=
        if summary.firstTimestamp = [] then p.timestamp else summary.firstTimestamp
      lastTimestamp := p.timestamp }

def summarizeAuditLines (ls : List Text) : AuditLineSummary := ls.foldl summarizeLine {}

/-! ## The summary line -/

def summaryMarker : Text := " [audit-summary] ".toList

def formatOperationCount (entry : AuditOperationCount) : Text :=
  entry.operationId ++ '=' :: (decimal entry.ok ++ '/' :: decimal entry.fail)

def formatRange (summary : AuditLineSummary) : Text :=
  if summary.firstTimestamp = [] then []
  else summary.firstTimestamp ++ ("..".toList ++ summary.lastTimestamp)

def formatOperationCounts (entries : List AuditOperationCount) : Text :=
  entries.flatMap fun entry => ' ' :: formatOperationCount entry

/-- A field that another one follows. -/
def countField (key : Text) (n : Nat) : Text := key ++ (decimal n ++ [' '])

def formatCounts (summary : AuditLineSummary) : Text :=
  countField "total=".toList summary.total ++ (countField "ok=".toList summary.ok ++
    (countField "fail=".toList summary.fail ++ ("unparsed=".toList ++ (decimal summary.unparsed ++
      formatOperationCounts summary.byOperation))))

def formatAuditSummaryLine (summary : AuditLineSummary) : Text :=
  formatRange summary ++ (summaryMarker ++ formatCounts summary)

structure AuditSummaryRecord where
  firstTimestamp : Text := []
  lastTimestamp : Text := []
  total : Nat := 0
  ok : Nat := 0
  fail : Nat := 0
  unparsed : Nat := 0
  byOperation : List AuditOperationCount := []
  deriving DecidableEq, Repr

/-- The largest value to which another digit is added: `(SIZE_MAX - 9) / 10`. -/
def digitLimit : Nat := (2 ^ 64 - 1 - 9) / 10

def parseDigits (text : Text) : Option Nat := readDigits digitLimit text

/-- The digits after the first occurrence of a key. -/
def extractCount (fields key : Text) : Option Nat :=
  (cut key fields).bind fun p => parseDigits (p.2.takeWhile Char.isDigit)

/-- A token `<op>=<ok>/<fail>`. -/
def parseOperationCount (token : Text) : Option AuditOperationCount :=
  match cut ['='] token with
  | none => none
  | some (operationId, counts) =>
    if operationId = [] then none
    else
      match cut ['/'] counts with
      | none => none
      | some (okText, failText) =>
        match parseDigits okText, parseDigits failText with
        | some ok, some fail => some { operationId := operationId, ok := ok, fail := fail }
        | _, _ => none

/-- The text after the field of a key. -/
def skipField (text key : Text) : Text :=
  match cut key text with
  | none => []
  | some (_, after) =>
    match cut [' '] after with
    | none => []
    | some (_, rest) => rest

def parseOperationCounts (text : Text) : Option (List AuditOperationCount) :=
  ((text.splitOn ' ').filter (· ≠ [])).mapM parseOperationCount

def parseRange (range : Text) : Option (Text × Text) :=
  if range = [] then some ([], [])
  else
    match cut "..".toList range with
    | none => none
    | some (first, last) => if first = [] ∨ last = [] then none else some (first, last)

/-- The tokens after the four fields every summary line has. -/
def afterFields (fields : Text) : Text :=
  ["total=".toList, "ok=".toList, "fail=".toList, "unparsed=".toList].foldl skipField fields

def parseAuditSummaryLine (line : Text) : Option AuditSummaryRecord := do
  let (range, fields) ← cut summaryMarker line
  let (first, last) ← parseRange range
  let total ← extractCount fields "total=".toList
  let ok ← extractCount fields "ok=".toList
  let fail ← extractCount fields "fail=".toList
  let unparsed ← extractCount fields "unparsed=".toList
  let byOperation ← parseOperationCounts (afterFields fields)
  some
    { firstTimestamp := first
      lastTimestamp := last
      total := total
      ok := ok
      fail := fail
      unparsed := unparsed
      byOperation := byOperation }

/-! ## A written record is read back -/

/-- One word: non-empty, without blanks and control characters. -/
def WordOperation (operationId : Text) : Prop :=
  operationId ≠ [] ∧ ∀ c ∈ operationId, c ≠ ' ' ∧ isControl c = false

instance (operationId : Text) : Decidable (WordOperation operationId) :=
  @instDecidableAnd _ _ inferInstance (List.decidableBAll _ _)

theorem WordOperation.blank_not_mem {op : Text} (h : WordOperation op) : ' ' ∉ op :=
  fun hmem => (h.2 ' ' hmem).1 rfl

theorem WordOperation.sanitized_eq {op : Text} (h : WordOperation op) : sanitized op = op := by
  unfold sanitized
  refine (List.map_congr_left fun c hc => ?_).trans (List.map_id op)
  rw [(h.2 c hc).2]
  rfl

/-- An operation id as the program has them. -/
def PlainOperation (operationId : Text) : Prop :=
  operationId ≠ [] ∧ ∀ c ∈ operationId, c ≠ ' ' ∧ c ≠ '=' ∧ isControl c = false

instance (operationId : Text) : Decidable (PlainOperation operationId) :=
  @instDecidableAnd _ _ inferInstance (List.decidableBAll _ _)

theorem PlainOperation.word {op : Text} (h : PlainOperation op) : WordOperation op :=
  ⟨h.1, fun c hc => ⟨(h.2 c hc).1, (h.2 c hc).2.2⟩⟩

theorem PlainOperation.equals_not_mem {op : Text} (h : PlainOperation op) : '=' ∉ op :=
  fun hmem => (h.2 '=' hmem).2.1 rfl

/-- Text that stays on its line. -/
def ControlFree (text : Text) : Prop := ∀ c ∈ text, isControl c = false

instance (text : Text) : Decidable (ControlFree text) := List.decidableBAll _ _

theorem ControlFree.append {text rest : Text} (h : ControlFree text) (hrest : ControlFree rest) :
    ControlFree (text ++ rest) := by
  intro c hc
  rcases List.mem_append.mp hc with hc | hc
  · exact h c hc
  · exact hrest c hc

theorem ControlFree.blank {text : Text} (h : ControlFree text) : ControlFree (' ' :: text) := by
  intro c hc
  rcases List.mem_cons.mp hc with rfl | hc
  · decide
  · exact h c hc

theorem ControlFree.not_mem {text : Text} (h : ControlFree text) {c : Char}
    (hc : isControl c = true) : c ∉ text := by
  intro hmem
  rw [h c hmem] at hc
  cases hc

theorem ControlFree.newline_not_mem {text : Text} (h : ControlFree text) : '\n' ∉ text :=
  h.not_mem (by decide)

theorem PlainOperation.newline_not_mem {op : Text} (h : PlainOperation op) : '\n' ∉ op :=
  ControlFree.newline_not_mem fun c hc => (h.2 c hc).2.2

theorem controlFree_sanitized (field : Text) : ControlFree (sanitized field) := by
  intro c hc
  obtain ⟨ch, _, rfl⟩ := List.mem_map.mp hc
  split
  · decide
  · case _ hcontrol => exact eq_false_of_ne_true hcontrol

/-- Which characters a timestamp has. -/
theorem mem_localTimestamp {now : Option LocalTime} {c : Char} (h : c ∈ localTimestampAscii now) :
    c.isDigit = true ∨ c = '-' ∨ c = ' ' ∨ c = ':' := by
  have hpadded : ∀ width n, c ∈ padded width n → c.isDigit = true := by
    intro width n hmem
    rcases List.mem_append.mp hmem with hmem | hmem
    · rw [List.eq_of_mem_replicate hmem]
      decide
    · exact isDigit_of_mem_decimal hmem
  cases now with
  | none => cases h
  | some t =>
    simp only [localTimestampAscii, List.mem_append, List.mem_cons] at h
    rcases h with h | rfl | h | rfl | h | rfl | h | rfl | h | rfl | h
    all_goals first
      | exact .inl (hpadded _ _ h)
      | simp

theorem bracket_not_mem_timestamp (now : Option LocalTime) : '[' ∉ localTimestampAscii now := by
  intro h
  rcases mem_localTimestamp h with h | h | h | h <;> exact absurd h (by decide)

theorem dot_not_mem_timestamp (now : Option LocalTime) : '.' ∉ localTimestampAscii now := by
  intro h
  rcases mem_localTimestamp h with h | h | h | h <;> exact absurd h (by decide)

theorem controlFree_timestamp (now : Option LocalTime) : ControlFree (localTimestampAscii now) := by
  intro c hc
  rcases mem_localTimestamp hc with hdigit | rfl | rfl | rfl
  · obtain ⟨hlow, hhigh⟩ : 0x30 ≤ c.toNat ∧ c.toNat ≤ 0x39 := Char.isDigit_iff_toNat.mp hdigit
    have hsmall : ¬ c.toNat < 0x20 := by omega
    have hdelete : ¬ c.toNat = 0x7F := by omega
    simp [isControl, hsmall, hdelete]
  all_goals decide

theorem newline_not_mem_timestamp (now : Option LocalTime) : '\n' ∉ localTimestampAscii now :=
  (controlFree_timestamp now).newline_not_mem

theorem timestamp_ne_nil (t : LocalTime) : localTimestampAscii (some t) ≠ [] := by
  simp [localTimestampAscii]

theorem firstToken_cons_blank {token rest : Text} (h : ' ' ∉ token) :
    firstToken (token ++ ' ' :: rest) = token := by
  have hcut : cut [' '] (token ++ ' ' :: rest) = some (token, rest) := cut_of_head_not_mem h rest
  rw [firstToken, hcut]

/-- The first marker of a line follows the timestamp. -/
theorem cut_auditMarker (now : Option LocalTime) (rest : Text) :
    cut auditMarker (localTimestampAscii now ++ (auditMarker ++ rest)) =
      some (localTimestampAscii now, rest) := by
  have hmarker : auditMarker = ' ' :: '[' :: auditMarker.drop 2 := by decide
  rw [hmarker]
  exact cut_of_second_not_mem (by decide) (bracket_not_mem_timestamp now) rest

/-- The line of a record whose operation id is one word, as its readers see it. -/
theorem parse_formatAuditLine (t : LocalTime) {record : AuditRecord}
    (h : WordOperation record.operationId) :
    parseAuditLinePrefix (formatAuditLineAscii (some t) record) =
      some { timestamp := localTimestampAscii (some t)
             operationId := record.operationId
             ok := record.ok } := by
  have hrisk : ∀ rest, cut [' '] (riskLevelToString record.risk ++ ' ' :: rest) =
      some (riskLevelToString record.risk, rest) := fun rest =>
    cut_of_head_not_mem (by cases record.risk <;> decide) rest
  have hoperation : ∀ rest, cut [' '] (record.operationId ++ ' ' :: rest) =
      some (record.operationId, rest) := fun rest => cut_of_head_not_mem h.blank_not_mem rest
  have hresult : firstToken (resultText record.ok ++ ' ' :: auditLineFields record) =
      resultText record.ok := firstToken_cons_blank (by cases record.ok <;> decide)
  have hdiffer : resultText false ≠ resultText true := by decide
  simp only [parseAuditLinePrefix, formatAuditLineAscii, h.sanitized_eq, cut_auditMarker, hrisk, hoperation,
    hresult, if_neg (timestamp_ne_nil t), if_neg h.1]
  cases record.ok with
  | true => rw [if_pos rfl]
  | false => rw [if_neg hdiffer, if_pos rfl]

theorem controlFree_auditLineFields (record : AuditRecord) :
    ControlFree (auditLineFields record) := by
  have hcaller : ControlFree "caller=".toList := by decide
  have htarget : ControlFree " target=".toList := by decide
  have hdetail : ControlFree " detail=".toList := by decide
  refine hcaller.append ((controlFree_sanitized _).append ?_)
  refine htarget.append ((controlFree_sanitized _).append ?_)
  exact hdetail.append (controlFree_sanitized _)

theorem controlFree_resultText (ok : Bool) : ControlFree (resultText ok) := by
  cases ok <;> decide

/-- A record stays on its line. -/
theorem controlFree_formatAuditLine (now : Option LocalTime) (record : AuditRecord) :
    ControlFree (formatAuditLineAscii now record) := by
  have hmarker : ControlFree auditMarker := by decide
  have hrisk : ControlFree (riskLevelToString record.risk) := by cases record.risk <;> decide
  refine (controlFree_timestamp now).append (hmarker.append (hrisk.append ?_))
  refine ((controlFree_sanitized _).append ?_).blank
  exact ((controlFree_resultText _).append (controlFree_auditLineFields record).blank).blank

theorem newline_not_mem_formatAuditLine (now : Option LocalTime) (record : AuditRecord) :
    '\n' ∉ formatAuditLineAscii now record :=
  (controlFree_formatAuditLine now record).newline_not_mem

/-! ## Summaries whose line can be read back -/

/-- A count the reader of summary lines accepts. -/
def WithinLimit (n : Nat) : Prop := n / 10 ≤ digitLimit

theorem parseDigits_decimal {n : Nat} (h : WithinLimit n) : parseDigits (decimal n) = some n :=
  readDigits_decimal h

theorem not_mem_countField {c : Char} {key : Text} {n : Nat} (hkey : c ∉ key)
    (hdigit : c.isDigit = false) (hblank : c ≠ ' ') : c ∉ countField key n := by
  have hdecimal : c ∉ decimal n := not_mem_decimal hdigit
  simp [countField, hkey, hdecimal, hblank]

/-- An operation id as the tokens of a summary line can carry it. -/
def TokenOperation (operationId : Text) : Prop :=
  operationId ≠ [] ∧ ' ' ∉ operationId ∧ '=' ∉ operationId

theorem PlainOperation.token {op : Text} (h : PlainOperation op) : TokenOperation op :=
  ⟨h.1, h.word.blank_not_mem, h.equals_not_mem⟩

theorem blank_not_mem_formatOperationCount {entry : AuditOperationCount}
    (h : ' ' ∉ entry.operationId) : ' ' ∉ formatOperationCount entry := by
  have hok : ' ' ∉ decimal entry.ok := not_mem_decimal (by decide)
  have hfail : ' ' ∉ decimal entry.fail := not_mem_decimal (by decide)
  simp [formatOperationCount, h, hok, hfail]

/-- Entries that a summary line can carry. -/
def Countable (entries : List AuditOperationCount) : Prop :=
  ∀ entry ∈ entries, PlainOperation entry.operationId ∧ WithinLimit entry.ok ∧ WithinLimit entry.fail

def Tokens (entries : List AuditOperationCount) : Prop :=
  ∀ entry ∈ entries, TokenOperation entry.operationId ∧ WithinLimit entry.ok ∧ WithinLimit entry.fail

theorem Countable.tokens {entries : List AuditOperationCount} (h : Countable entries) :
    Tokens entries :=
  fun entry hentry => ⟨(h entry hentry).1.token, (h entry hentry).2⟩

/-- A summary whose line gives it back. -/
structure Rereadable (summary : AuditLineSummary) : Prop where
  marker : ∀ rest, cut summaryMarker (formatRange summary ++ (summaryMarker ++ rest)) =
    some (formatRange summary, rest)
  range : parseRange (formatRange summary) = some (summary.firstTimestamp, summary.lastTimestamp)
  total : WithinLimit summary.total
  ok : WithinLimit summary.ok
  fail : WithinLimit summary.fail
  unparsed : WithinLimit summary.unparsed
  byOperation : Tokens summary.byOperation

theorem cut_summaryMarker {range : Text} (h : '[' ∉ range) (rest : Text) :
    cut summaryMarker (range ++ (summaryMarker ++ rest)) = some (range, rest) := by
  have hmarker : summaryMarker = ' ' :: '[' :: summaryMarker.drop 2 := by decide
  rw [hmarker]
  exact cut_of_second_not_mem (by decide) h rest

/-- A summary of written records, small enough for the reader's counters. -/
structure Readable (summary : AuditLineSummary) : Prop where
  first : ∃ t, summary.firstTimestamp = localTimestampAscii (some t)
  last : ∃ t, summary.lastTimestamp = localTimestampAscii (some t)
  total : WithinLimit summary.total
  ok : WithinLimit summary.ok
  fail : WithinLimit summary.fail
  unparsed : WithinLimit summary.unparsed
  byOperation : Countable summary.byOperation

theorem parseRange_format {summary : AuditLineSummary} (h : Readable summary) :
    parseRange (formatRange summary) = some (summary.firstTimestamp, summary.lastTimestamp) := by
  obtain ⟨first, hfirst⟩ := h.first
  obtain ⟨last, hlast⟩ := h.last
  have hdots : "..".toList = ['.', '.'] := by decide
  have hcut : cut "..".toList (localTimestampAscii (some first) ++ ("..".toList ++
      localTimestampAscii (some last))) =
      some (localTimestampAscii (some first), localTimestampAscii (some last)) := by
    rw [hdots]
    exact cut_of_head_not_mem (dot_not_mem_timestamp _) _
  have hne : localTimestampAscii (some first) ++ ("..".toList ++
      localTimestampAscii (some last)) ≠ [] := by
    simp [timestamp_ne_nil]
  have hboth : ¬ (localTimestampAscii (some first) = [] ∨ localTimestampAscii (some last) = []) :=
    not_or.mpr ⟨timestamp_ne_nil first, timestamp_ne_nil last⟩
  rw [formatRange, hfirst, hlast, if_neg (timestamp_ne_nil first), parseRange, if_neg hne, hcut]
  exact if_neg hboth

theorem bracket_not_mem_formatRange {summary : AuditLineSummary} (h : Readable summary) :
    '[' ∉ formatRange summary := by
  obtain ⟨first, hfirst⟩ := h.first
  obtain ⟨last, hlast⟩ := h.last
  rw [formatRange, hfirst, hlast, if_neg (timestamp_ne_nil first)]
  exact List.not_mem_append (bracket_not_mem_timestamp _)
    (List.not_mem_append (by decide) (bracket_not_mem_timestamp _))

theorem Readable.rereadable {summary : AuditLineSummary} (h : Readable summary) :
    Rereadable summary where
  marker := cut_summaryMarker (bracket_not_mem_formatRange h)
  range := parseRange_format h
  total := h.total
  ok := h.ok
  fail := h.fail
  unparsed := h.unparsed
  byOperation := h.byOperation.tokens

end Audit
end CppOptimizer
