import CppOptimizer.Lib.Strings
import CppOptimizer.Power.SchemeFlow

/-!
# CppOptimizer.Power.TornRecord

What is read of a scheme record that was not written to its end.

* `parseFrom`     — the parser on some text, from given values of its variables.
* `Torn p text Q` — whatever part of the text is there, the parser fails or ends in `Q`.
* `torn_cons`     — the rule for one line: its parts, then the text behind it.
* `scheme_record_codec` — what a successful save has written is read back with normalised GUIDs, and
  every part of it is rejected or read as the same record, at most without its target.
-/

namespace CppOptimizer
namespace Power

open Common Lib PowerProg

/-! ## GUIDs -/

theorem normalizeSchemeGuid_eq_some {text : Text} {g : Guid}
    (h : normalizeSchemeGuid text = some g) : g.text = cleanGuid text := by
  unfold normalizeSchemeGuid at h
  split at h
  · cases h
    rfl
  · cases h

theorem length_guid (g : Guid) : g.text.length = 36 := by
  have hform := g.form
  simp only [isGuidForm, Bool.and_eq_true, decide_eq_true_eq] at hform
  exact hform.1

theorem length_cleanGuid_le (text : Text) : (cleanGuid text).length ≤ text.length := by
  rw [cleanGuid, List.length_map]
  exact List.length_filter_le _ _

/-- A GUID that is cut short is not one. -/
theorem normalizeSchemeGuid_part {g g' : Guid} {text : Text} (hpre : text <+: g.text)
    (h : normalizeSchemeGuid text = some g') : g' = g := by
  have hclean : (cleanGuid text).length = 36 := by
    rw [← normalizeSchemeGuid_eq_some h]
    exact length_guid g'
  have hlong : 36 ≤ text.length := hclean ▸ length_cleanGuid_le text
  have htext : text = g.text := hpre.eq_of_length_le (by rw [length_guid]; exact hlong)
  rw [htext, normalizeSchemeGuid_text] at h
  exact (Option.some.inj h).symm

/-! ## Parts of a text -/

def parseFrom (p : ParseState) (text : Text) : Option ParseState :=
  (text.splitOn '\n').foldlM parseLine p

theorem parseSavedSchemeRecord_eq (content : Text) :
    parseSavedSchemeRecord content = (parseFrom {} content).bind ParseState.record := rfl

theorem parseFrom_line (p : ParseState) {line : Text} (h : '\n' ∉ line) :
    parseFrom p line = parseLine p line := by
  rw [parseFrom, List.splitOn_eq_singleton h]
  simp

theorem parseFrom_cons (p : ParseState) {line : Text} (h : '\n' ∉ line) (rest : Text) :
    parseFrom p (line ++ '\n' :: rest) = (parseLine p line).bind (parseFrom · rest) := by
  rw [parseFrom, List.splitOn_append_cons_self_of_not_mem h, List.foldlM_cons]
  rfl

def Torn (p : ParseState) (text : Text) (Q : ParseState → Prop) : Prop :=
  ∀ pre, pre <+: text → ∀ q, parseFrom p pre = some q → Q q

theorem torn_nil {p : ParseState} {Q : ParseState → Prop}
    (h : ∀ q, parseLine p [] = some q → Q q) : Torn p [] Q := by
  intro pre hpre q hq
  obtain rfl : pre = [] := List.prefix_nil.mp hpre
  rw [parseFrom_line p (by simp)] at hq
  exact h q hq

/-- The text ends in its first line, or has all of it. -/
theorem torn_cons {p : ParseState} {line rest : Text} {Q : ParseState → Prop} (h : '\n' ∉ line)
    (hpart : ∀ pre, pre <+: line → ∀ q, parseLine p pre = some q → Q q)
    (hrest : ∀ q, parseLine p line = some q → Torn q rest Q) : Torn p (line ++ '\n' :: rest) Q := by
  intro pre hpre q hq
  rcases prefix_append_cons hpre with hpre | ⟨more, rfl, hmore⟩
  · rw [parseFrom_line p fun hmem => h (hpre.subset hmem)] at hq
    exact hpart pre hpre q hq
  · rw [parseFrom_cons p h] at hq
    obtain ⟨q', hq', hq⟩ := Option.bind_eq_some_iff.mp hq
    exact hrest q' hq' more hmore q hq

/-! ## Parts of the lines of a record -/

/-- The beginning of a field: a part of its key, or the key and a part of its value. -/
theorem prefix_field {key value pre : Text} (h : pre <+: key ++ value) :
    pre.length < key.length ∧ pre <+: key ∨ ∃ part, pre = key ++ part ∧ part <+: value := by
  rcases List.prefix_or_prefix_of_prefix h (List.prefix_append key value) with hpre | ⟨part, rfl⟩
  · by_cases hlength : pre.length < key.length
    · exact .inl ⟨hlength, hpre⟩
    · have heq : pre = key := hpre.eq_of_length_le (Nat.le_of_not_lt hlength)
      exact .inr ⟨[], by simp [heq], List.nil_prefix⟩
  · exact .inr ⟨part, rfl, (List.prefix_append_right_inj key).mp h⟩

def fieldKeys : List Text := ["state=".toList, "saved=".toList, "target=".toList]

/-- No key is the beginning of another one. -/
theorem fieldKeys_prefix_free {key key' : Text} (hkey : key ∈ fieldKeys) (hkey' : key' ∈ fieldKeys)
    (h : key' <+: key) : key' = key := by
  have hfree : ∀ key ∈ fieldKeys, ∀ key' ∈ fieldKeys, key' <+: key → key' = key := by decide
  exact hfree key hkey key' hkey' h

/-- A line with no key is skipped. -/
theorem parseLine_other {p : ParseState} (h : p.envelopeSeen = true) {line : Text}
    (hcr : '\r' ∉ line) (hkeys : ∀ key ∈ fieldKeys, ¬ key <+: line) : parseLine p line = some p := by
  have hkey : ∀ key ∈ fieldKeys, line.take key.length ≠ key := by
    intro key hmem htake
    exact hkeys key hmem (List.prefix_iff_eq_take.mpr htake.symm)
  have hstate : line.take 6 ≠ "state=".toList := hkey "state=".toList (by decide)
  have hsaved : line.take 6 ≠ "saved=".toList := hkey "saved=".toList (by decide)
  have htarget : line.take 7 ≠ "target=".toList := hkey "target=".toList (by decide)
  simp only [parseLine, stripCr_eq hcr, h, if_neg hstate, if_neg hsaved, if_neg htarget,
    Bool.true_eq_false, if_false]

/-- So is a line that ends in the middle of its key. -/
theorem parseLine_key_part {p : ParseState} (h : p.envelopeSeen = true) {key pre : Text}
    (hmem : key ∈ fieldKeys) (hpre : pre <+: key) (hshort : pre.length < key.length) :
    parseLine p pre = some p := by
  have hcr : ∀ key ∈ fieldKeys, '\r' ∉ key := by decide
  refine parseLine_other h (fun hr => hcr key hmem (hpre.subset hr)) fun key' hmem' hpre' => ?_
  obtain rfl := fieldKeys_prefix_free hmem hmem' (hpre'.trans hpre)
  exact absurd hpre'.length_le (Nat.not_le_of_lt hshort)

theorem record_of_missing {p : ParseState} (h : p.state = none ∨ p.saved = none) :
    p.record = none := by
  unfold ParseState.record
  split
  · case _ _ _ _ hstate hsaved =>
    rw [hstate, hsaved] at h
    rcases h with h | h <;> cases h
  · rfl

/-! ## Parts of a record -/

section Parts

variable {p q : ParseState} {pre : Text}

theorem parseLine_envelope_part (h : parseLine {} pre = some q) : q.state = none := by
  simp only [parseLine, if_true] at h
  split at h
  · cases h
    rfl
  · cases h

theorem parseLine_state_part (hseen : p.envelopeSeen = true) {state : SchemeSaveState}
    (hpre : pre <+: "state=".toList ++ schemeSaveStateToString state)
    (h : parseLine p pre = some q) : q.saved = p.saved := by
  have hcr : '\r' ∉ schemeSaveStateToString state := by cases state <;> decide
  rcases prefix_field hpre with ⟨hshort, hpre⟩ | ⟨part, rfl, hpart⟩
  · rw [parseLine_key_part hseen (by decide) hpre hshort] at h
    cases h
    rfl
  · rw [parseLine_state_field p hseen fun hr => hcr (hpart.subset hr)] at h
    obtain ⟨s, _, rfl⟩ := Option.map_eq_some_iff.mp h
    rfl

theorem parseLine_saved_part (hseen : p.envelopeSeen = true) {saved : Guid}
    (hpre : pre <+: "saved=".toList ++ saved.text) (h : parseLine p pre = some q) :
    q = p ∨ q = { p with saved := some saved.text } := by
  rcases prefix_field hpre with ⟨hshort, hpre⟩ | ⟨part, rfl, hpart⟩
  · rw [parseLine_key_part hseen (by decide) hpre hshort] at h
    exact .inl (Option.some.inj h).symm
  · rw [parseLine_saved_field p hseen fun hr => cr_not_mem_guid saved (hpart.subset hr)] at h
    obtain ⟨g, hg, rfl⟩ := Option.map_eq_some_iff.mp h
    rw [normalizeSchemeGuid_part hpart hg]
    exact .inr rfl

theorem parseLine_target_part (hseen : p.envelopeSeen = true) {target : Guid}
    (hpre : pre <+: "target=".toList ++ target.text) (h : parseLine p pre = some q) :
    q = p ∨ q = { p with target := some target.text } := by
  rcases prefix_field hpre with ⟨hshort, hpre⟩ | ⟨part, rfl, hpart⟩
  · rw [parseLine_key_part hseen (by decide) hpre hshort] at h
    exact .inl (Option.some.inj h).symm
  · rw [parseLine_target_field p hseen fun hr => cr_not_mem_guid target (hpart.subset hr)] at h
    obtain ⟨g, hg, rfl⟩ := Option.map_eq_some_iff.mp h
    rw [normalizeSchemeGuid_part hpart hg]
    exact .inr rfl

end Parts

/-- A record as it can be read of a part of its text. -/
structure PartOf (state : SchemeSaveState) (saved : Guid) (target : Option Guid)
    (r : SavedSchemeRecord) : Prop where
  state : r.state = state
  saved : r.savedGuid = saved.text
  target : r.targetGuid = target.map Guid.text ∨ r.targetGuid = none

section Record

variable (state : SchemeSaveState) (saved : Guid) (target : Option Guid)

def EndsInPart (p : ParseState) : Prop := ∀ r, p.record = some r → PartOf state saved target r

theorem endsInPart_of_missing {p : ParseState} (h : p.state = none ∨ p.saved = none) :
    EndsInPart state saved target p := by
  intro r hr
  rw [record_of_missing h] at hr
  cases hr

theorem endsInPart_of_fields {p : ParseState} (hstate : p.state = some state)
    (hsaved : p.saved = some saved.text)
    (htarget : p.target = target.map Guid.text ∨ p.target = none) :
    EndsInPart state saved target p := by
  intro r hr
  unfold ParseState.record at hr
  split at hr
  · case _ s g _ hs hg =>
    rw [hs] at hstate
    rw [hg] at hsaved
    cases hr
    exact ⟨Option.some.inj hstate, Option.some.inj hsaved, htarget⟩
  · cases hr

/-- The line of the target and what follows it. -/
theorem torn_target {p : ParseState} (hseen : p.envelopeSeen = true) (hstate : p.state = some state)
    (hsaved : p.saved = some saved.text) (hnone : p.target = none) (t : Guid) :
    Torn p ("target=".toList ++ t.text ++ ['\n']) (EndsInPart state saved (some t)) := by
  have hnewline : '\n' ∉ "target=".toList ++ t.text :=
    List.not_mem_append (by decide) t.newline_not_mem
  refine torn_cons hnewline (fun pre hpre q hq => ?_) fun q hq => torn_nil fun q' hq' => ?_
  · rcases parseLine_target_part hseen hpre hq with rfl | rfl
    · exact endsInPart_of_fields state saved (some t) hstate hsaved (.inr hnone)
    · exact endsInPart_of_fields state saved (some t) hstate hsaved (.inl rfl)
  · rw [parseLine_target p hseen] at hq
    cases hq
    rw [parseLine_empty { p with target := some t.text } hseen] at hq'
    cases hq'
    exact endsInPart_of_fields state saved (some t) hstate hsaved (.inl rfl)

theorem torn_formatSchemeRecord :
    Torn {} (formatSchemeRecord state saved target) (EndsInPart state saved target) := by
  have hsavedLine : '\n' ∉ "saved=".toList ++ saved.text :=
    List.not_mem_append (by decide) saved.newline_not_mem
  refine torn_cons (by decide) (fun pre _ q hq => ?_) fun q hq => ?_
  · exact endsInPart_of_missing state saved target (.inl (parseLine_envelope_part hq))
  rw [parseLine_envelope _ rfl] at hq
  cases hq
  refine torn_cons (newline_not_mem_state state) (fun pre hpre q hq => ?_) fun q hq => ?_
  · exact endsInPart_of_missing state saved target (.inr (parseLine_state_part rfl hpre hq))
  rw [parseLine_state _ rfl] at hq
  cases hq
  refine torn_cons hsavedLine (fun pre hpre q hq => ?_) fun q hq => ?_
  · rcases parseLine_saved_part rfl hpre hq with rfl | rfl
    · exact endsInPart_of_missing state saved target (.inr rfl)
    · exact endsInPart_of_fields state saved target rfl rfl (.inr rfl)
  rw [parseLine_saved _ rfl] at hq
  cases hq
  cases target with
  | none =>
    refine torn_nil fun q hq => ?_
    rw [parseLine_empty _ rfl] at hq
    cases hq
    exact endsInPart_of_fields state saved none rfl rfl (.inr rfl)
  | some t => exact torn_target state saved rfl rfl rfl rfl t

end Record

/-! ## What a save has written -/

/-- Both GUIDs of the record normalise, to these. -/
structure NormalizesTo (record : SavedSchemeRecord) (saved : Guid) (target : Option Guid) :
    Prop where
  saved : normalizeSchemeGuid record.savedGuid = some saved
  target : record.targetGuid.map normalizeSchemeGuid = target.map some

/-- A save that succeeds has replaced the file by the text of the normalised record. -/
theorem save_ok {record : SavedSchemeRecord} {c : PowerChoice} {w w' : PowerWorld}
    (h : (saveSchemeRecord record).exec powerHandler c w = (w', .ok ())) :
    ∃ saved target, NormalizesTo record saved target ∧
      w'.file = some (formatSchemeRecord record.state saved target) := by
  have hwrite : ∀ content, (writeRecord content).exec powerHandler c w = (w', .ok ()) →
      w'.file = some content := by
    intro content hexec
    cases hdisk : c.disk with
    | none =>
      have hdone : (writeRecord content).exec powerHandler c w = (w.write content, .ok ()) := by
        simp [writeRecord, Prog.perform, Prog.exec, powerHandler, hdisk]
      rw [hdone] at hexec
      cases hexec
      rfl
    | some e =>
      have hfail : (writeRecord content).exec powerHandler c w = (w, .error e) := by
        simp [writeRecord, Prog.perform, Prog.exec, powerHandler, hdisk]
      rw [hfail] at hexec
      cases hexec
  unfold saveSchemeRecord at h
  split at h
  · cases h
  · case _ saved hsaved =>
    split at h
    · case _ hnone => exact ⟨saved, none, ⟨hsaved, by rw [hnone]; rfl⟩, hwrite _ h⟩
    · case _ text htext =>
      split at h
      · cases h
      · case _ target htarget =>
        refine ⟨saved, some target, ⟨hsaved, ?_⟩, hwrite _ h⟩
        rw [htext, Option.map_some, htarget]
        rfl

theorem scheme_record_codec :
    (∀ text g, normalizeSchemeGuid text = some g → normalizeSchemeGuid g.text = some g) ∧
    ∀ record c w w', (saveSchemeRecord record).exec powerHandler c w = (w', .ok ()) →
      ∃ saved target content, NormalizesTo record saved target ∧ w'.file = some content ∧
        parseSavedSchemeRecord content =
          some { savedGuid := saved.text, targetGuid := target.map Guid.text, state := record.state } ∧
        ∀ part, part <+: content → ∀ r, parseSavedSchemeRecord part = some r →
          PartOf record.state saved target r := by
  refine ⟨fun _ g _ => normalizeSchemeGuid_text g, fun record c w w' h => ?_⟩
  obtain ⟨saved, target, hnormal, hfile⟩ := save_ok h
  refine ⟨saved, target, _, hnormal, hfile, parse_format record.state saved target, ?_⟩
  intro part hpart r hr
  rw [parseSavedSchemeRecord_eq] at hr
  obtain ⟨q, hq, hrecord⟩ := Option.bind_eq_some_iff.mp hr
  exact torn_formatSchemeRecord record.state saved target part hpart q hq r hrecord

theorem scheme_record_codec_braces :
    let record : SavedSchemeRecord :=
      { savedGuid := "\x7b381b4222-f694-41f0-9685-ff5bb260df2e\x7d".toList
        targetGuid := some "8C5E7FDA-E8BF-4A96-9A85-A6E23A8C635C".toList }
    let w : PowerWorld := { active := schemeBalanced }
    let w' := w.write (formatSchemeRecord .pending schemeBalanced (some schemeHighPerformance))
    (saveSchemeRecord record).exec powerHandler {} w = (w', .ok ()) ∧
      ∃ saved target content, NormalizesTo record saved target ∧ w'.file = some content ∧
        parseSavedSchemeRecord content =
          some { savedGuid := saved.text, targetGuid := target.map Guid.text, state := .pending } ∧
        ∀ part, part <+: content → ∀ r, parseSavedSchemeRecord part = some r →
          PartOf .pending saved target r := by
  intro record w w'
  have hsaved : normalizeSchemeGuid record.savedGuid = some schemeBalanced := by decide +kernel
  have htarget : normalizeSchemeGuid "8C5E7FDA-E8BF-4A96-9A85-A6E23A8C635C".toList =
      some schemeHighPerformance := by decide +kernel
  have hsave : (saveSchemeRecord record).exec powerHandler {} w = (w', .ok ()) := by
    simp only [saveSchemeRecord, hsaved, record, htarget]
    rfl
  exact ⟨hsave, scheme_record_codec.2 record {} w w' hsave⟩

end Power
end CppOptimizer
