import Mathlib.Data.String.Basic
import CppOptimizer.Common.Error
import CppOptimizer.Common.Text

/-!
# CppOptimizer.Power.SchemeRecord

Scheme GUIDs and the record that makes a power scheme switch reversible (`power_scheme.cpp`).

* `normalizeSchemeGuid` — the only form in which GUIDs are compared; its results are `Guid`s.
* `SavedSchemeRecord`   — rollback target, optional switch target and the state of the switch.
* `formatSchemeRecord`, `parseSavedSchemeRecord` — the text on disk, with `parse_format`.
-/

namespace CppOptimizer
namespace Power

open Common

/-! ## GUIDs -/

/-- Braces, blanks and tabs are skipped, ASCII letters raised. -/
def cleanGuid (text : Text) : Text :=
  (text.filter fun ch => ch ≠ '\x7b' ∧ ch ≠ '\x7d' ∧ ch ≠ ' ' ∧ ch ≠ '\t').map fun ch =>
    if 'a' ≤ ch ∧ ch ≤ 'z' then Char.ofNat (ch.toNat - 'a'.toNat + 'A'.toNat) else ch

def isGuidChar (i : Nat) (ch : Char) : Bool :=
  if i = 8 ∨ i = 13 ∨ i = 18 ∨ i = 23 then ch = '-'
  else ('0' ≤ ch ∧ ch ≤ '9') ∨ ('A' ≤ ch ∧ ch ≤ 'F')

/-- The 8-4-4-4-12 form in upper-case hexadecimal. -/
def isGuidForm (cleaned : Text) : Bool :=
  cleaned.length = 36 && cleaned.zipIdx.all fun p => isGuidChar p.2 p.1

/-- A normalised GUID. -/
structure Guid where
  text : Text
  form : isGuidForm text = true
  deriving DecidableEq

def normalizeSchemeGuid (text : Text) : Option Guid :=
  if h : isGuidForm (cleanGuid text) = true then some ⟨cleanGuid text, h⟩ else none

theorem isGuidChar_plain {i : Nat} {ch : Char} (h : isGuidChar i ch = true) :
    ch = '-' ∨ ('0' ≤ ch ∧ ch ≤ '9') ∨ ('A' ≤ ch ∧ ch ≤ 'F') := by
  unfold isGuidChar at h
  split at h
  · exact .inl (by simpa using h)
  · exact .inr (by simpa using h)

namespace Guid

theorem char_plain (g : Guid) {ch : Char} (h : ch ∈ g.text) :
    ch = '-' ∨ ('0' ≤ ch ∧ ch ≤ '9') ∨ ('A' ≤ ch ∧ ch ≤ 'F') := by
  have hform := g.form
  simp only [isGuidForm, Bool.and_eq_true, List.all_eq_true] at hform
  obtain ⟨i, hi⟩ := List.mem_iff_getElem?.mp h
  exact isGuidChar_plain (hform.2 (ch, i) (List.mem_zipIdx_iff_getElem?.mpr hi))

theorem newline_not_mem (g : Guid) : '\n' ∉ g.text := by
  intro h
  rcases g.char_plain h with h | h | h <;> exact absurd h (by decide)

theorem ext_text {g g' : Guid} (h : g.text = g'.text) : g = g' := by
  cases g
  cases g'
  simp_all

end Guid

/-- Normalising is the identity on what it has produced. -/
theorem cleanGuid_text (g : Guid) : cleanGuid g.text = g.text := by
  have hkeep : g.text.filter (fun ch => ch ≠ '\x7b' ∧ ch ≠ '\x7d' ∧ ch ≠ ' ' ∧ ch ≠ '\t') =
      g.text := by
    refine List.filter_eq_self.mpr fun ch hch => ?_
    simp only [decide_eq_true_eq]
    refine ⟨?_, ?_, ?_, ?_⟩ <;>
      · rintro rfl
        rcases g.char_plain hch with h | h | h <;> exact absurd h (by decide)
  rw [cleanGuid, hkeep]
  refine (List.map_congr_left fun ch hch => ?_).trans (List.map_id _)
  rw [if_neg]
  · rfl
  · rintro ⟨hlo, -⟩
    rcases g.char_plain hch with rfl | ⟨-, h⟩ | ⟨-, h⟩
    · exact absurd hlo (by decide)
    · exact absurd (le_trans hlo h) (by decide)
    · exact absurd (le_trans hlo h) (by decide)

@[simp] theorem normalizeSchemeGuid_text (g : Guid) : normalizeSchemeGuid g.text = some g := by
  unfold normalizeSchemeGuid
  rw [dif_pos (by rw [cleanGuid_text]; exact g.form)]
  exact congrArg some (Guid.ext_text (cleanGuid_text g))

/-! The well-known schemes. -/

def schemeBalanced : Guid := ⟨"381B4222-F694-41F0-9685-FF5BB260DF2E".toList, by decide⟩
def schemeHighPerformance : Guid := ⟨"8C5E7FDA-E8BF-4A96-9A85-A6E23A8C635C".toList, by decide⟩
def schemePowerSaver : Guid := ⟨"A1841308-3541-4FAB-BC81-F71556F20B4A".toList, by decide⟩

/-! ## The record -/

inductive SchemeSaveState where
  | pending | applied | restored
  deriving DecidableEq, Repr

def schemeSaveStateToString : SchemeSaveState → Text
  | .pending => "pending".toList
  | .applied => "applied".toList
  | .restored => "restored".toList

def parseSchemeSaveState (text : Text) : Option SchemeSaveState :=
  if text = "pending".toList then some .pending
  else if text = "applied".toList then some .applied
  else if text = "restored".toList then some .restored
  else none

structure SavedSchemeRecord where
  savedGuid : Text
  targetGuid : Option Text := none
  state : SchemeSaveState := .pending
  deriving DecidableEq, Repr

def schemeSaveEnvelope : Text := "CppOptimizerPowerSchemeSave/1".toList

/-- The variables of the parser's loop over the lines. -/
structure ParseState where
  envelopeSeen : Bool := false
  state : Option SchemeSaveState := none
  saved : Option Text := none
  target : Option Text := none
  deriving DecidableEq, Repr

def parseLine (p : ParseState) (line : Text) : Option ParseState :=
  let line := stripCr line
  if p.envelopeSeen = false then
    if line = schemeSaveEnvelope then some { p with envelopeSeen := true } else none
  else if line.take 6 = "state=".toList then
    (parseSchemeSaveState (line.drop 6)).map fun state => { p with state := some state }
  else if line.take 6 = "saved=".toList then
    (normalizeSchemeGuid (line.drop 6)).map fun saved => { p with saved := some saved.text }
  else if line.take 7 = "target=".toList then
    (normalizeSchemeGuid (line.drop 7)).map fun target => { p with target := some target.text }
  else some p

def ParseState.record (p : ParseState) : Option SavedSchemeRecord :=
  match p.envelopeSeen, p.state, p.saved with
  | true, some state, some saved =>
    some { savedGuid := saved, targetGuid := p.target, state := state }
  | _, _, _ => none

def parseSavedSchemeRecord (content : Text) : Option SavedSchemeRecord :=
  ((content.splitOn '\n').foldlM parseLine {}).bind ParseState.record

/-- The text `SaveSchemeRecord` writes for normalised GUIDs. -/
def formatSchemeRecord (state : SchemeSaveState) (saved : Guid) (target : Option Guid) : Text :=
  schemeSaveEnvelope ++ '\n' ::
    ("state=".toList ++ schemeSaveStateToString state ++ '\n' ::
      ("saved=".toList ++ saved.text ++ '\n' ::
        match target with
        | some target => "target=".toList ++ target.text ++ ['\n']
        | none => []))

/-! ## What is written is read back -/

theorem parse_toString (state : SchemeSaveState) :
    parseSchemeSaveState (schemeSaveStateToString state) = some state := by
  cases state <;> decide

theorem newline_not_mem_state (state : SchemeSaveState) :
    '\n' ∉ "state=".toList ++ schemeSaveStateToString state := by
  cases state <;> decide

theorem cr_not_mem_guid (g : Guid) : '\r' ∉ g.text := by
  intro h
  rcases g.char_plain h with h | h | h <;> exact absurd h (by decide)

theorem parseLine_envelope (p : ParseState) (h : p.envelopeSeen = false) :
    parseLine p schemeSaveEnvelope = some { p with envelopeSeen := true } := by
  have : stripCr schemeSaveEnvelope = schemeSaveEnvelope := by decide
  simp only [parseLine, this, h, if_true]

/-- A line with a key is read by the reader of its value. -/
theorem parseLine_state_field (p : ParseState) (h : p.envelopeSeen = true) {text : Text}
    (hcr : '\r' ∉ text) :
    parseLine p ("state=".toList ++ text) =
      (parseSchemeSaveState text).map fun state => { p with state := some state } := by
  have hstrip : stripCr ("state=".toList ++ text) = "state=".toList ++ text :=
    stripCr_eq (List.not_mem_append (by decide) hcr)
  have htake : ("state=".toList ++ text).take 6 = "state=".toList := List.take_left' (by decide)
  have hdrop : ("state=".toList ++ text).drop 6 = text := List.drop_left' (by decide)
  simp only [parseLine, hstrip, h, htake, hdrop, if_true, Bool.true_eq_false, if_false]

theorem parseLine_saved_field (p : ParseState) (h : p.envelopeSeen = true) {text : Text}
    (hcr : '\r' ∉ text) :
    parseLine p ("saved=".toList ++ text) =
      (normalizeSchemeGuid text).map fun saved => { p with saved := some saved.text } := by
  have hstrip : stripCr ("saved=".toList ++ text) = "saved=".toList ++ text :=
    stripCr_eq (List.not_mem_append (by decide) hcr)
  have htake : ("saved=".toList ++ text).take 6 = "saved=".toList := List.take_left' (by decide)
  have hdrop : ("saved=".toList ++ text).drop 6 = text := List.drop_left' (by decide)
  have hne : "saved=".toList ≠ "state=".toList := by decide
  simp only [parseLine, hstrip, h, htake, hdrop, if_neg hne, if_true, Bool.true_eq_false, if_false]

theorem parseLine_target_field (p : ParseState) (h : p.envelopeSeen = true) {text : Text}
    (hcr : '\r' ∉ text) :
    parseLine p ("target=".toList ++ text) =
      (normalizeSchemeGuid text).map fun target => { p with target := some target.text } := by
  have hstrip : stripCr ("target=".toList ++ text) = "target=".toList ++ text :=
    stripCr_eq (List.not_mem_append (by decide) hcr)
  have htake : ("target=".toList ++ text).take 7 = "target=".toList := List.take_left' (by decide)
  have hdrop : ("target=".toList ++ text).drop 7 = text := List.drop_left' (by decide)
  have htake6 : ("target=".toList ++ text).take 6 = "target".toList := by
    rw [List.take_append_of_le_length (by decide)]
    decide
  have hne₁ : "target".toList ≠ "state=".toList := by decide
  have hne₂ : "target".toList ≠ "saved=".toList := by decide
  simp only [parseLine, hstrip, h, htake, htake6, hdrop, if_neg hne₁, if_neg hne₂, if_true,
    Bool.true_eq_false, if_false]

theorem parseLine_state (p : ParseState) (h : p.envelopeSeen = true) (state : SchemeSaveState) :
    parseLine p ("state=".toList ++ schemeSaveStateToString state) =
      some { p with state := some state } := by
  have hcr : '\r' ∉ schemeSaveStateToString state := by cases state <;> decide
  rw [parseLine_state_field p h hcr, parse_toString]
  rfl

theorem parseLine_saved (p : ParseState) (h : p.envelopeSeen = true) (saved : Guid) :
    parseLine p ("saved=".toList ++ saved.text) = some { p with saved := some saved.text } := by
  rw [parseLine_saved_field p h (cr_not_mem_guid saved), normalizeSchemeGuid_text]
  rfl

theorem parseLine_target (p : ParseState) (h : p.envelopeSeen = true) (target : Guid) :
    parseLine p ("target=".toList ++ target.text) = some { p with target := some target.text } := by
  rw [parseLine_target_field p h (cr_not_mem_guid target), normalizeSchemeGuid_text]
  rfl

theorem parseLine_empty (p : ParseState) (h : p.envelopeSeen = true) : parseLine p [] = some p := by
  simp [parseLine, stripCr, h]

/-- Reading back a written record gives the record. -/
theorem parse_format (state : SchemeSaveState) (saved : Guid) (target : Option Guid) :
    parseSavedSchemeRecord (formatSchemeRecord state saved target) =
      some { savedGuid := saved.text, targetGuid := target.map Guid.text, state := state } := by
  have hsaved : '\n' ∉ "saved=".toList ++ saved.text := by
    rw [List.mem_append, not_or]
    exact ⟨by decide, saved.newline_not_mem⟩
  have henv : '\n' ∉ schemeSaveEnvelope := by decide
  unfold parseSavedSchemeRecord formatSchemeRecord
  rw [List.splitOn_append_cons_self_of_not_mem henv,
    List.splitOn_append_cons_self_of_not_mem (newline_not_mem_state state),
    List.splitOn_append_cons_self_of_not_mem hsaved]
  simp only [List.foldlM_cons, parseLine_envelope, parseLine_state, parseLine_saved,
    Option.bind_eq_bind, Option.bind_some]
  cases target with
  | none => simp [parseLine_empty, ParseState.record]
  | some target =>
    have htarget : '\n' ∉ "target=".toList ++ target.text := by
      rw [List.mem_append, not_or]
      exact ⟨by decide, target.newline_not_mem⟩
    dsimp only
    rw [List.splitOn_append_cons_self_of_not_mem htarget]
    simp only [List.foldlM_cons, parseLine_target, Option.bind_eq_bind, Option.bind_some]
    simp [parseLine_empty, ParseState.record]

/-! ## What is read is well formed -/

/-- Both GUIDs of the record are normalised. -/
def SavedSchemeRecord.WellFormed (r : SavedSchemeRecord) : Prop :=
  ∃ (saved : Guid) (target : Option Guid),
    r = { savedGuid := saved.text, targetGuid := target.map Guid.text, state := r.state }

structure ParseState.WellFormed (p : ParseState) : Prop where
  saved : ∀ text, p.saved = some text → ∃ g : Guid, text = g.text
  target : ∃ g : Option Guid, p.target = g.map Guid.text

theorem parseLine_wellFormed {p p' : ParseState} {line : Text} (hp : p.WellFormed)
    (h : parseLine p line = some p') : p'.WellFormed := by
  simp only [parseLine] at h
  split at h
  · split at h
    · cases h
      exact ⟨hp.saved, hp.target⟩
    · cases h
  split at h
  · obtain ⟨state, _, rfl⟩ := Option.map_eq_some_iff.mp h
    exact ⟨hp.saved, hp.target⟩
  split at h
  · obtain ⟨saved, _, rfl⟩ := Option.map_eq_some_iff.mp h
    exact ⟨fun text ht => ⟨saved, (Option.some.inj ht).symm⟩, hp.target⟩
  split at h
  · obtain ⟨target, _, rfl⟩ := Option.map_eq_some_iff.mp h
    exact ⟨hp.saved, some target, rfl⟩
  · cases h
    exact hp

theorem foldlM_parseLine_wellFormed {lines : List Text} {p p' : ParseState} (hp : p.WellFormed)
    (h : lines.foldlM parseLine p = some p') : p'.WellFormed := by
  induction lines generalizing p with
  | nil =>
    cases h
    exact hp
  | cons line lines ih =>
    rw [List.foldlM_cons, Option.bind_eq_bind, Option.bind_eq_some_iff] at h
    obtain ⟨q, hq, h⟩ := h
    exact ih (parseLine_wellFormed hp hq) h

theorem parse_wellFormed {content : Text} {r : SavedSchemeRecord}
    (h : parseSavedSchemeRecord content = some r) : r.WellFormed := by
  obtain ⟨p, hp, hr⟩ := Option.bind_eq_some_iff.mp h
  have hwf := foldlM_parseLine_wellFormed ⟨by simp, none, rfl⟩ hp
  simp only [ParseState.record] at hr
  split at hr
  · rename_i state saved _ _ hsaved
    obtain ⟨g, rfl⟩ := hwf.saved saved hsaved
    obtain ⟨target, htarget⟩ := hwf.target
    cases hr
    exact ⟨g, target, by rw [htarget]⟩
  · cases hr

end Power
end CppOptimizer
