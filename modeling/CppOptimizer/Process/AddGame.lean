import CppOptimizer.Common.Error
import CppOptimizer.Config.RuleFile
import CppOptimizer.Process.Matching

/-!
# CppOptimizer.Process.AddGame

A game rule made from a process that runs (`process_watcher.cpp`).

* `wideToUtf8`               — a surrogate without its partner becomes U+FFFD; the conversion does not
  fail.
* `deriveGameId`             — the name without its extension, in lower case.
* `buildGameRuleFromProcess` — the rule, with an id that no rule has.
* `BuiltRule`                — what is known of such a rule.
-/

namespace CppOptimizer
namespace Process

open Common Config Lib

structure ProcessDetails where
  pid : UInt32 := 0
  name : Units := []
  executablePath : Units := []
  windowTitle : Units := []
  hasVisibleWindow : Bool := false
  isForeground : Bool := false
  isFullscreen : Bool := false
  workingSetBytes : UInt64 := 0
  deriving DecidableEq, Repr

def wideToUtf8 (text : Units) : Result String := .ok (String.ofList (utf16Lossy text))

/-- The text before the last dot, unless the dot is the first character. -/
def stripExtension (processName : Units) : Units :=
  match processName.reverse.findIdx? (· = 0x2E) with
  | some behind =>
    if behind + 1 < processName.length then processName.take (processName.length - (behind + 1))
    else processName
  | none => processName

def deriveGameId (processName : Units) : Result String :=
  match wideToUtf8 (stripExtension processName) with
  | .error _ => .error (.validation "DeriveGameId" "Process name is not valid UTF-16")
  | .ok utf8 => .ok (String.ofList (utf8.toList.map foldAsciiChar))

/-- A name that is there stays; else the text is taken if it can be converted. -/
def displayNameOr (current : String) (text : Units) : String :=
  if current = "" ∧ text ≠ [] then
    match wideToUtf8 text with
    | .ok utf8 => utf8
    | .error _ => current
  else current

/-- Nothing is returned where the search for an id leaves its type. -/
def buildGameRuleFromProcess (details : ProcessDetails) (existing : List GameConfig)
    (displayNameHint : Units) : Option (Result GameConfig) :=
  if details.name = [] then
    some (.error (.validation "BuildGameRuleFromProcess.name" "Process name is empty"))
  else
    match deriveGameId details.name with
    | .error _ =>
      some (.error (.validation "BuildGameRuleFromProcess.id"
        "Cannot derive a stable id from the process name"))
    | .ok baseId =>
      if baseId = "" then
        some (.error (.validation "BuildGameRuleFromProcess.id"
          "Cannot derive a stable id from the process name"))
      else
        (makeUniqueGameId baseId existing).map fun id =>
          match wideToUtf8 details.name with
          | .error e => .error e
          | .ok processName =>
            .ok
              { id := id
                -- the hint, the window title, the process name
                displayName := displayNameOr (displayNameOr (displayNameOr "" displayNameHint)
                  details.windowTitle) details.name
                processNames := [processName] }

/-- A rule made for a process. -/
structure BuiltRule (details : ProcessDetails) (existing : List GameConfig) (rule : GameConfig) :
    Prop where
  named : details.name ≠ []
  fresh : ∃ baseId, baseId ≠ "" ∧ deriveGameId details.name = .ok baseId ∧
    makeUniqueGameId baseId existing = some rule.id
  processNames : rule.processNames = [String.ofList (utf16Lossy details.name)]
  untitled : rule.windowTitleContains = ""

section Built

variable {details : ProcessDetails} {existing : List GameConfig} {rule : GameConfig} {hint : Units}

theorem builtRule_of_ok (h : buildGameRuleFromProcess details existing hint = some (.ok rule)) :
    BuiltRule details existing rule := by
  unfold buildGameRuleFromProcess at h
  split at h
  · cases h
  · case _ hnamed =>
    split at h
    · cases h
    · case _ baseId hderive =>
      split at h
      · cases h
      · case _ hbase =>
        obtain ⟨id, hid, hrule⟩ := Option.map_eq_some_iff.mp h
        cases hrule
        exact ⟨hnamed, ⟨baseId, hbase, hderive, hid⟩, rfl, rfl⟩

/-- An id that is found is not empty if the base id is not. -/
theorem makeUniqueGameId_ne_empty {baseId id : String} (hbase : baseId ≠ "")
    (h : makeUniqueGameId baseId existing = some id) : id ≠ "" := by
  unfold makeUniqueGameId at h
  split at h
  · cases h
    exact hbase
  · obtain ⟨suffix, -, rfl⟩ := Option.map_eq_some_iff.mp h
    intro hempty
    have hchars := congrArg String.toList hempty
    simp [suffixedId] at hchars

theorem BuiltRule.id_ne_empty (h : BuiltRule details existing rule) : rule.id ≠ "" := by
  obtain ⟨baseId, hbase, -, hid⟩ := h.fresh
  exact makeUniqueGameId_ne_empty hbase hid

/-- No other rule has its id. -/
theorem BuiltRule.distinct (h : BuiltRule details existing rule) :
    ∀ game ∈ existing, game.foldedId ≠ rule.foldedId := by
  obtain ⟨baseId, -, -, hid⟩ := h.fresh
  exact conflict_eq_false_iff.mp (not_conflict_of_found hid)

/-- The rule names the process it was made for exactly if its name is well-formed UTF-16. -/
theorem BuiltRule.names_iff (h : BuiltRule details existing rule) {entry : ProcessEntry}
    (hname : entry.name = details.name) :
    (∃ ruleName ∈ rule.processNames, processNameMatches (utf8ToWide ruleName) entry.name = true) ↔
      WellFormed details.name := by
  rw [h.processNames, hname, ← processNameMatches_lossy_iff h.named]
  simp [utf8ToWide]

end Built

/-! ## U+007F -/

theorem unitChar_eq_del {u : UInt16} (h : unitChar u = '\x7f') : u = 0x7f := by
  unfold unitChar at h
  split at h
  · exact absurd h (by decide)
  · case _ hplain =>
    have hu := UInt16.toNat_lt u
    simp only [isSurrogate, decide_eq_true_eq] at hplain
    have hnat := congrArg Char.toNat h
    rw [toNat_ofNat (by omega)] at hnat
    exact UInt16.toNat_inj.mp hnat

theorem pairChar_ne_del {u v : UInt16} (hu : isHighSurrogate u = true) (hv : isLowSurrogate v = true) :
    pairChar u v ≠ '\x7f' := by
  intro h
  simp only [isHighSurrogate, decide_eq_true_eq] at hu
  simp only [isLowSurrogate, decide_eq_true_eq] at hv
  have hnat := congrArg Char.toNat h
  rw [pairChar, toNat_ofNat (by omega)] at hnat
  have hdel : '\x7f'.toNat = 127 := rfl
  omega

theorem del_not_mem_utf16Lossy {text : Units} (h : 0x7f ∉ text) : '\x7f' ∉ utf16Lossy text := by
  induction text using utf16Lossy.induct with
  | case1 => simp [utf16Lossy]
  | case2 u =>
    intro hmem
    rw [utf16Lossy, List.mem_singleton] at hmem
    exact h (unitChar_eq_del hmem.symm ▸ List.mem_singleton_self _)
  | case3 u v us hpair ih =>
    rw [utf16Lossy, if_pos hpair, List.mem_cons, not_or]
    refine ⟨(pairChar_ne_del hpair.1 hpair.2).symm, ih fun hmem => h ?_⟩
    exact List.mem_cons_of_mem _ (List.mem_cons_of_mem _ hmem)
  | case4 u v us hpair ih =>
    rw [utf16Lossy, if_neg hpair, List.mem_cons, not_or]
    refine ⟨fun hchar => h ?_, ih fun hmem => h (List.mem_cons_of_mem _ hmem)⟩
    exact unitChar_eq_del hchar.symm ▸ List.mem_cons_self

theorem foldAsciiChar_ne_del {c : Char} (h : c ≠ '\x7f') : foldAsciiChar c ≠ '\x7f' := by
  unfold foldAsciiChar
  split
  · case _ hupper =>
    intro heq
    have hfirst : 'A'.toNat ≤ c.toNat := hupper.1
    have hlast : c.toNat ≤ 'Z'.toNat := hupper.2
    have hA : 'A'.toNat = 65 := rfl
    have hZ : 'Z'.toNat = 90 := rfl
    have ha : 'a'.toNat = 97 := rfl
    have hnat := congrArg Char.toNat heq
    rw [toNat_ofNat (by omega)] at hnat
    have hdel : '\x7f'.toNat = 127 := rfl
    omega
  · exact h

theorem mem_of_mem_stripExtension {u : UInt16} {name : Units} (h : u ∈ stripExtension name) :
    u ∈ name := by
  unfold stripExtension at h
  split at h
  · split at h
    · exact List.mem_of_mem_take h
    · exact h
  · exact h

theorem del_not_mem_deriveGameId {name : Units} {baseId : String} (h : 0x7f ∉ name)
    (hbase : deriveGameId name = .ok baseId) : '\x7f' ∉ baseId.toList := by
  cases hbase
  rw [String.toList_ofList, String.toList_ofList]
  intro hmem
  obtain ⟨c, hc, hfold⟩ := List.mem_map.mp hmem
  refine foldAsciiChar_ne_del (fun hdel => ?_) hfold
  exact del_not_mem_utf16Lossy (fun hu => h (mem_of_mem_stripExtension hu)) (hdel ▸ hc)

theorem del_not_mem_uniqueId {baseId id : String} {existing : List GameConfig}
    (hbase : '\x7f' ∉ baseId.toList) (h : makeUniqueGameId baseId existing = some id) :
    '\x7f' ∉ id.toList := by
  unfold makeUniqueGameId at h
  split at h
  · cases h
    exact hbase
  · obtain ⟨suffix, -, rfl⟩ := Option.map_eq_some_iff.mp h
    have hdigits : '\x7f' ∉ decimal suffix := fun hmem =>
      absurd (isDigit_of_mem_decimal hmem) (by decide)
    simpa [suffixedId, decimal, hbase] using hdigits

theorem del_not_mem_displayNameOr {current : String} {text : Units}
    (hcurrent : '\x7f' ∉ current.toList) (h : 0x7f ∉ text) :
    '\x7f' ∉ (displayNameOr current text).toList := by
  unfold displayNameOr
  split
  · show '\x7f' ∉ (String.ofList (utf16Lossy text)).toList
    rw [String.toList_ofList]
    exact del_not_mem_utf16Lossy h
  · exact hcurrent

/-- A process without U+007F in its name and title gives a rule without one. -/
theorem noDel_of_built {details : ProcessDetails} {existing : List GameConfig} {rule : GameConfig}
    {hint : Units} (h : buildGameRuleFromProcess details existing hint = some (.ok rule))
    (hname : 0x7f ∉ details.name) (htitle : 0x7f ∉ details.windowTitle) (hhint : 0x7f ∉ hint) :
    rule.NoDel := by
  have hbuilt := builtRule_of_ok h
  obtain ⟨baseId, -, hderive, hid⟩ := hbuilt.fresh
  have hdisplay : rule.displayName = displayNameOr (displayNameOr (displayNameOr "" hint)
      details.windowTitle) details.name := by
    unfold buildGameRuleFromProcess at h
    split at h
    · cases h
    · split at h
      · cases h
      · split at h
        · cases h
        · obtain ⟨_, -, hrule⟩ := Option.map_eq_some_iff.mp h
          cases hrule
          rfl
  refine ⟨del_not_mem_uniqueId (del_not_mem_deriveGameId hname hderive) hid, ?_, ?_, ?_⟩
  · rw [hdisplay]
    exact del_not_mem_displayNameOr (del_not_mem_displayNameOr
      (del_not_mem_displayNameOr (by simp) hhint) htitle) hname
  · intro name hmem
    rw [hbuilt.processNames, List.mem_singleton] at hmem
    rw [hmem, String.toList_ofList]
    exact del_not_mem_utf16Lossy hname
  · rw [hbuilt.untitled]
    simp

end Process
end CppOptimizer
