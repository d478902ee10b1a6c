import CppOptimizer.Command.BoostOutputs

/-!
# CppOptimizer.Audit.Journal

The lines of the action journal, and what the fields of a line can do to its readers.

* `parseJournalLine`        — what `ParseJournalLine` reads back of a line.
* `PhaseCounts`             — the counts that `--journal` prints.
* `parse_formatJournalLine` — a written line is read back, whatever stands in target and detail.
* `fields_cannot_forge`     — the same for both kinds of lines, which also stay on their line.

The free text of a line comes last. The readers take the first marker and the first blanks behind it,
all of which lie before that text.
-/

namespace CppOptimizer
namespace Audit

open Common Lib
open Command (JournalPhase journalPhaseToString journalMarker formatJournalLine)

/-! ## Reading a line -/

structure JournalEntry where
  timestamp : Text
  phase : Text
  operationId : Text
  ok : Bool := false
  deriving DecidableEq, Repr

/-- Only the beginning of the result is looked at, and the timestamp may be empty. -/
def parseJournalLine (line : Text) : Option JournalEntry :=
  match cut journalMarker line with
  | none => none
  | some (timestamp, fields) =>
    match cut [' '] fields with
    | none => none
    | some (phase, rest) =>
      match cut [' '] rest with
      | none => none
      | some (operationId, result) =>
        if resultText true <+: result then
          some { timestamp := timestamp, phase := phase, operationId := operationId, ok := true }
        else if resultText false <+: result then
          some { timestamp := timestamp, phase := phase, operationId := operationId, ok := false }
        else none

/-- The counts of `RunJournalCommand`. -/
structure PhaseCounts where
  before : Nat := 0
  after : Nat := 0
  state : Nat := 0
  unparsable : Nat := 0
  deriving DecidableEq, Repr

def PhaseCounts.addPhase (counts : PhaseCounts) : JournalPhase → PhaseCounts
  | .before => { counts with before := counts.before + 1 }
  | .after => { counts with after := counts.after + 1 }
  | .state => { counts with state := counts.state + 1 }

def PhaseCounts.addLine (counts : PhaseCounts) (line : Text) : PhaseCounts :=
  match parseJournalLine line with
  | none => { counts with unparsable := counts.unparsable + 1 }
  | some entry =>
    if entry.phase = journalPhaseToString .before then counts.addPhase .before
    else if entry.phase = journalPhaseToString .after then counts.addPhase .after
    else if entry.phase = journalPhaseToString .state then counts.addPhase .state
    else { counts with unparsable := counts.unparsable + 1 }

def countPhases (ls : List Text) : PhaseCounts := ls.foldl PhaseCounts.addLine {}

/-! ## A written line is read back -/

theorem blank_not_mem_phase (phase : JournalPhase) : ' ' ∉ journalPhaseToString phase := by
  cases phase <;> decide

theorem controlFree_phase (phase : JournalPhase) : ControlFree (journalPhaseToString phase) := by
  cases phase <;> decide

theorem cut_journalMarker (now : Option LocalTime) (rest : Text) :
    cut journalMarker (localTimestampAscii now ++ (journalMarker ++ rest)) =
      some (localTimestampAscii now, rest) := by
  have hmarker : journalMarker = ' ' :: '[' :: journalMarker.drop 2 := by decide
  rw [hmarker]
  exact cut_of_second_not_mem (by decide) (bracket_not_mem_timestamp now) rest

/-- The two results differ in their first character. -/
theorem not_ok_prefix_fail (rest : Text) : ¬ resultText true <+: resultText false ++ rest := by
  intro h
  have hhead : 'o' = 'f' := (List.cons_prefix_cons.mp h).1
  exact absurd hhead (by decide)

section Line

variable (now : Option LocalTime) (phase : JournalPhase) {operationId : Text} (ok : Bool)
  (target detail : Text)

theorem parse_formatJournalLine (h : WordOperation operationId) :
    parseJournalLine (formatJournalLine now phase operationId ok target detail) =
      some { timestamp := localTimestampAscii now
             phase := journalPhaseToString phase
             operationId := operationId
             ok := ok } := by
  have hphase : ∀ rest, cut [' '] (journalPhaseToString phase ++ ' ' :: rest) =
      some (journalPhaseToString phase, rest) := fun rest =>
    cut_of_head_not_mem (blank_not_mem_phase phase) rest
  have hoperation : ∀ rest, cut [' '] (operationId ++ ' ' :: rest) = some (operationId, rest) :=
    fun rest => cut_of_head_not_mem h.blank_not_mem rest
  simp only [parseJournalLine, formatJournalLine, h.sanitized_eq, cut_journalMarker, hphase,
    hoperation]
  cases ok with
  | true => rw [if_pos (List.prefix_append _ _)]
  | false => rw [if_neg (not_ok_prefix_fail _), if_pos (List.prefix_append _ _)]

theorem controlFree_formatJournalLine :
    ControlFree (formatJournalLine now phase operationId ok target detail) := by
  have hmarker : ControlFree journalMarker := by decide
  have hcaller : ControlFree " caller=cli".toList := by decide
  have htarget : ControlFree " target=".toList := by decide
  have hdetail : ControlFree " detail=".toList := by decide
  refine (controlFree_timestamp now).append (hmarker.append ((controlFree_phase phase).append ?_))
  refine ((controlFree_sanitized _).append ?_).blank
  refine ((controlFree_resultText ok).append (hcaller.append (htarget.append ?_))).blank
  exact (controlFree_sanitized _).append (hdetail.append (controlFree_sanitized _))

end Line

/-! ## No field changes what is read -/

/-- Lines of both kinds: no line break, and the readers see the operation, the result and the phase
that were written. Caller, target and detail are arbitrary. -/
theorem fields_cannot_forge {now : Option LocalTime} (hnow : localTimestampAscii now ≠ [])
    {operationId : Text} (h : WordOperation operationId) (ok : Bool) :
    (∀ (risk : RiskLevel) (caller target detail : Text),
      let line := formatAuditLineAscii now
        { operationId := operationId, risk := risk, caller := caller, target := target,
          detail := detail, ok := ok }
      ('\n' ∉ line ∧ '\r' ∉ line) ∧
        parseAuditLinePrefix line =
          some { timestamp := localTimestampAscii now, operationId := operationId, ok := ok }) ∧
    ∀ (phase : JournalPhase) (target detail : Text),
      let line := formatJournalLine now phase operationId ok target detail
      ('\n' ∉ line ∧ '\r' ∉ line) ∧
        parseJournalLine line =
          some { timestamp := localTimestampAscii now
                 phase := journalPhaseToString phase
                 operationId := operationId
                 ok := ok } := by
  have hreturn : isControl '\r' = true := by decide
  constructor
  · intro risk caller target detail line
    have hfree : ControlFree line := controlFree_formatAuditLine now _
    refine ⟨⟨hfree.newline_not_mem, hfree.not_mem hreturn⟩, ?_⟩
    cases now with
    | none => exact absurd rfl hnow
    | some t => exact parse_formatAuditLine t h
  · intro phase target detail line
    have hfree : ControlFree line := controlFree_formatJournalLine now phase ok target detail
    exact ⟨⟨hfree.newline_not_mem, hfree.not_mem hreturn⟩,
      parse_formatJournalLine now phase ok target detail h⟩

theorem fields_cannot_forge_line_break :
    localTimestampAscii (some ⟨2026, 9, 23, 21, 9, 23⟩) ≠ [] ∧ WordOperation "power.hold".toList ∧
      parseJournalLine (formatJournalLine (some ⟨2026, 9, 23, 21, 9, 23⟩) .after
        "power.hold".toList false [] "\n2026-09-23 21:09:23 [journal] after power.hold ok".toList) =
      some { timestamp := localTimestampAscii (some ⟨2026, 9, 23, 21, 9, 23⟩)
             phase := journalPhaseToString .after
             operationId := "power.hold".toList
             ok := false } := by
  have hnow : localTimestampAscii (some ⟨2026, 9, 23, 21, 9, 23⟩) ≠ [] := timestamp_ne_nil _
  have hword : WordOperation "power.hold".toList := by decide
  exact ⟨hnow, hword, ((fields_cannot_forge hnow hword false).2 .after _ _).2⟩

/-! ## A whole journal -/

/-- What one call of `AppendJournalLine` puts down. -/
structure JournalWrite where
  now : Option LocalTime
  phase : JournalPhase
  operationId : Text
  ok : Bool
  target : Text
  detail : Text

def JournalWrite.line (w : JournalWrite) : Text :=
  formatJournalLine w.now w.phase w.operationId w.ok w.target w.detail

def JournalWrite.entry (w : JournalWrite) : JournalEntry :=
  { timestamp := localTimestampAscii w.now
    phase := journalPhaseToString w.phase
    operationId := w.operationId
    ok := w.ok }

/-- The file after some calls, each of which appends its line and a line feed. -/
def journalFile (ws : List JournalWrite) : Text := unlines (ws.map JournalWrite.line)

theorem lines_journalFile (ws : List JournalWrite) :
    lines (journalFile ws) = ws.map JournalWrite.line := by
  refine lines_unlines fun l hl => ?_
  obtain ⟨w, _, rfl⟩ := List.mem_map.mp hl
  have hfree : ControlFree w.line :=
    controlFree_formatJournalLine w.now w.phase w.ok w.target w.detail
  exact hfree.newline_not_mem

/-- The file holds the entries that were appended, in their order, and no other. -/
theorem entries_journalFile {ws : List JournalWrite}
    (h : ∀ w ∈ ws, WordOperation w.operationId) :
    (lines (journalFile ws)).map parseJournalLine = ws.map fun w => some w.entry := by
  rw [lines_journalFile, List.map_map]
  refine List.map_congr_left fun w hw => ?_
  exact parse_formatJournalLine w.now w.phase w.ok w.target w.detail (h w hw)

theorem addLine_line (counts : PhaseCounts) {w : JournalWrite} (h : WordOperation w.operationId) :
    counts.addLine w.line = counts.addPhase w.phase := by
  have hparse : parseJournalLine w.line = some w.entry :=
    parse_formatJournalLine w.now w.phase w.ok w.target w.detail h
  simp only [PhaseCounts.addLine, hparse, JournalWrite.entry]
  cases w.phase with
  | before => rfl
  | after => rfl
  | state => rfl

/-- `--journal` counts the phases of the calls, and no line is unparsable. -/
theorem countPhases_journalFile {ws : List JournalWrite}
    (h : ∀ w ∈ ws, WordOperation w.operationId) :
    countPhases (lines (journalFile ws)) =
      (ws.map JournalWrite.phase).foldl PhaseCounts.addPhase {} := by
  rw [lines_journalFile, countPhases]
  generalize ({} : PhaseCounts) = counts
  induction ws generalizing counts with
  | nil => rfl
  | cons w ws ih =>
    rw [List.map_cons, List.foldl_cons, addLine_line counts (h w List.mem_cons_self)]
    exact ih (fun v hv => h v (List.mem_cons_of_mem w hv)) _

end Audit
end CppOptimizer
