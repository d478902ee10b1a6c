import CppOptimizer.Lib.Utf16
import CppOptimizer.Process.UniqueId

/-!
# CppOptimizer.Process.Matching

Game rules against the processes that run (`process_watcher.cpp`).

* `processNameMatches`  — equal but for the case of ASCII letters, unit by unit.
* `matchRulesToEntries` — each rule takes the first process with one of its names, and with its title
  if it asks for one.
* `buildGameRules`      — the rules of a configuration. Its texts are valid UTF-8, so the conversion
  does not fail.
-/

namespace CppOptimizer
namespace Process

open Config Lib

def foldAscii (ch : UInt16) : UInt16 :=
  if 0x41 ≤ ch ∧ ch ≤ 0x5A then ch - 0x41 + 0x61 else ch

def processNameMatches (ruleName processName : Units) : Bool :=
  if ruleName = [] ∨ ruleName.length ≠ processName.length then false
  else (ruleName.zip processName).all fun p => foldAscii p.1 = foldAscii p.2

def containsAscii (text needle : Units) : Bool :=
  if needle = [] then true
  else if text.length < needle.length then false
  else
    (List.range (text.length - needle.length + 1)).any fun i =>
      (needle.zip (text.drop i)).all fun p => foldAscii p.2 = foldAscii p.1

structure ProcessEntry where
  pid : UInt32
  name : Units
  /-- Of use only if `windowTitleKnown`. -/
  windowTitle : Units := []
  windowTitleKnown : Bool := false
  deriving DecidableEq, Repr

structure GameRule where
  id : String
  processNames : List Units := []
  /-- Empty for no filter. -/
  windowTitleContains : Units := []
  deriving DecidableEq, Repr

structure RuleMatch where
  gameId : String
  entry : ProcessEntry
  deriving DecidableEq, Repr

def utf8ToWide (text : String) : Units := utf16 text.toList

def buildGameRules (games : List GameConfig) : List GameRule :=
  games.map fun game =>
    { id := game.id
      processNames := game.processNames.map utf8ToWide
      windowTitleContains := utf8ToWide game.windowTitleContains }

/-- One of the rule's names is the entry's. -/
def GameRule.names (rule : GameRule) (entry : ProcessEntry) : Bool :=
  rule.processNames.any fun ruleName => processNameMatches ruleName entry.name

/-- The entry meets the rule's title filter. -/
def GameRule.titled (rule : GameRule) (entry : ProcessEntry) : Bool :=
  rule.windowTitleContains = [] ∨
    (entry.windowTitleKnown ∧ containsAscii entry.windowTitle rule.windowTitleContains)

def matchRulesToEntries (rules : List GameRule) (entries : List ProcessEntry) : List RuleMatch :=
  rules.filterMap fun rule =>
    (entries.find? fun entry => rule.names entry && rule.titled entry).map
      fun entry => { gameId := rule.id, entry := entry }

/-! ## Names -/

theorem processNameMatches_iff {ruleName processName : Units} :
    processNameMatches ruleName processName = true ↔
      ruleName ≠ [] ∧ ruleName.map foldAscii = processName.map foldAscii := by
  unfold processNameMatches
  split
  · case _ h =>
    refine iff_of_false Bool.false_ne_true ?_
    rintro ⟨hne, hmap⟩
    rcases h with h | h
    · exact hne h
    · have hlength := congrArg List.length hmap
      rw [List.length_map, List.length_map] at hlength
      exact h hlength
  · case _ h =>
    rw [not_or, not_not] at h
    rw [← zip_all_iff, and_iff_right h.2]
    simp only [List.all_eq_true, decide_eq_true_eq]
    exact ⟨fun hmap => ⟨h.1, hmap⟩, fun hboth => hboth.2⟩

/-- Folding takes no surrogate to U+FFFD. -/
theorem foldAscii_surrogate {u : UInt16} (h : isSurrogate u = true) :
    foldAscii u ≠ foldAscii 0xFFFD := by
  have hu : foldAscii u = u := by
    rw [foldAscii, if_neg]
    rintro ⟨-, hle⟩
    rw [UInt16.le_iff_toNat_le] at hle
    simp only [isSurrogate, decide_eq_true_eq] at h
    exact absurd (h.1.trans hle) (by decide)
  have hreplacement : foldAscii 0xFFFD = 0xFFFD := by decide
  rw [hu, hreplacement]
  rintro rfl
  revert h
  decide

/-- A name that went through UTF-8 is the name of its process exactly if no surrogate was replaced. -/
theorem processNameMatches_lossy_iff {name : Units} (hne : name ≠ []) :
    processNameMatches (utf16 (utf16Lossy name)) name = true ↔ WellFormed name := by
  have hback := forall₂_utf16_utf16Lossy name
  constructor
  · intro h
    obtain ⟨-, hmap⟩ := processNameMatches_iff.mp h
    unfold WellFormed
    generalize utf16 (utf16Lossy name) = back at hback hmap
    clear h hne
    induction hback with
    | nil => rfl
    | cons hunit _ ih =>
      obtain ⟨hfold, hrest⟩ := List.cons.inj hmap
      rcases hunit with rfl | ⟨hsurrogate, rfl⟩
      · rw [ih hrest]
      · exact absurd hfold.symm (foldAscii_surrogate hsurrogate)
  · intro h
    rw [h]
    exact processNameMatches_iff.mpr ⟨hne, rfl⟩

/-! ## Rules -/

section Rules

variable {rules : List GameRule} {entries : List ProcessEntry}

theorem matchRulesToEntries_append (rules more : List GameRule) (entries : List ProcessEntry) :
    matchRulesToEntries (rules ++ more) entries =
      matchRulesToEntries rules entries ++ matchRulesToEntries more entries :=
  List.filterMap_append

/-- The games that are seen have the rules' ids, in the rules' order. -/
theorem matches_sublist (rules : List GameRule) (entries : List ProcessEntry) :
    ((matchRulesToEntries rules entries).map RuleMatch.gameId).Sublist (rules.map GameRule.id) := by
  induction rules with
  | nil => simp [matchRulesToEntries]
  | cons rule rules ih =>
    rw [List.map_cons]
    unfold matchRulesToEntries at ih ⊢
    rw [List.filterMap_cons]
    cases entries.find? fun entry => rule.names entry && rule.titled entry with
    | none => exact ih.cons _
    | some entry =>
      rw [Option.map_some, List.map_cons]
      exact ih.cons_cons _

/-- What a match is of: a rule and a process it takes. -/
theorem mem_matches {m : RuleMatch} (h : m ∈ matchRulesToEntries rules entries) :
    ∃ rule ∈ rules, m.gameId = rule.id ∧ m.entry ∈ entries ∧ rule.names m.entry = true ∧
      rule.titled m.entry = true := by
  obtain ⟨rule, hrule, hm⟩ := List.mem_filterMap.mp h
  obtain ⟨entry, hfind, rfl⟩ := Option.map_eq_some_iff.mp hm
  have htakes := List.find?_some hfind
  rw [Bool.and_eq_true] at htakes
  exact ⟨rule, hrule, rfl, List.mem_of_find?_eq_some hfind, htakes⟩

end Rules

end Process
end CppOptimizer
