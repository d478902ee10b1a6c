import CppOptimizer.Config.GameRules
import CppOptimizer.Lib.FirstFree
import CppOptimizer.Lib.Strings

/-!
# CppOptimizer.Process.UniqueId

`MakeUniqueGameId` of `process_watcher.cpp`: the base id if no rule has it, else the base id with the
first suffix `-2`, `-3`, … that gives an id no rule has. Ids are compared without ASCII case.

The suffix is an `int`, so the loop comes to an end only if it finds an id before the greatest one is
passed. A character of an id stands for a byte.

* `makeUniqueGameId` — nothing is returned where the suffix leaves its type.
* `UniqueIdFound`    — what the search is to give, within as many turns as there are rules.
* `LeavesFree`       — the rules for which it does.
-/

namespace CppOptimizer
namespace Process

open Config Lib

def foldAsciiChar (ch : Char) : Char :=
  if 'A' ≤ ch ∧ ch ≤ 'Z' then Char.ofNat (ch.toNat - 'A'.toNat + 'a'.toNat) else ch

def asciiEquals (a b : String) : Bool :=
  if a.length ≠ b.length then false
  else (a.toList.zip b.toList).all fun p => foldAsciiChar p.1 = foldAsciiChar p.2

/-- A rule has the candidate's id. -/
def conflict (existing : List GameConfig) (candidate : String) : Bool :=
  existing.any fun game => asciiEquals game.id candidate

def suffixedId (baseId : String) (suffix : Nat) : String := baseId ++ "-" ++ toString suffix

/-- The greatest `int`. -/
def intMax : Nat := 2147483647

/-- The loop over the suffixes from 2 on, for at most `turns` turns. -/
def trySuffixes (baseId : String) (existing : List GameConfig) (turns : Nat) : Option String :=
  (firstFree (fun suffix => conflict existing (suffixedId baseId suffix)) turns 2).map
    (suffixedId baseId)

def makeUniqueGameId (baseId : String) (existing : List GameConfig) : Option String :=
  if conflict existing baseId = false then some baseId
  -- `++suffix` is undefined behind `intMax`
  else trySuffixes baseId existing (intMax - 1)

/-- What the search is to find for a list of rules. -/
structure UniqueIdFound (baseId : String) (existing : List GameConfig) (id : String) : Prop where
  returned : makeUniqueGameId baseId existing = some id
  /-- The suffixes 2 .. n + 1 are enough. -/
  turns : conflict existing baseId = true → trySuffixes baseId existing existing.length = some id
  free : ∀ game ∈ existing, game.foldedId ≠ toLower id
  base : (∀ game ∈ existing, game.foldedId ≠ toLower baseId) → id = baseId

/-- No rule has the base id, or none has it with one of the suffixes an `int` counts to. -/
def LeavesFree (baseId : String) (existing : List GameConfig) : Prop :=
  conflict existing baseId = false ∨
    ∃ suffix, 2 ≤ suffix ∧ suffix ≤ intMax ∧ conflict existing (suffixedId baseId suffix) = false

/-! ## The comparison -/

theorem foldAsciiChar_eq (ch : Char) : foldAsciiChar ch = ch.toLower := by
  by_cases hascii : ch.toNat < 128
  · have htable : ∀ n < 128, foldAsciiChar (Char.ofNat n) = (Char.ofNat n).toLower := by decide +kernel
    simpa using htable ch.toNat hascii
  · have hlast : ¬ ch.toNat ≤ 'Z'.toNat := fun hle => hascii (Nat.lt_of_le_of_lt hle (by decide))
    have hfold : ¬ ('A' ≤ ch ∧ ch ≤ 'Z') := fun h => hlast h.2
    have hlower : ¬ (ch.val ≥ 'A'.val ∧ ch.val ≤ 'Z'.val) := fun h => hlast h.2
    unfold foldAsciiChar Char.toLower
    rw [if_neg hfold, dif_neg hlower]

/-- Ids are equal to the search exactly if they are to a merge of rules. -/
theorem asciiEquals_iff {a b : String} : asciiEquals a b = true ↔ toLower a = toLower b := by
  have hlower : toLower a = toLower b ↔ a.toList.map foldAsciiChar = b.toList.map foldAsciiChar := by
    rw [toLower, toLower, String.ofList_inj, List.map_congr_left fun ch _ => (foldAsciiChar_eq ch).symm,
      List.map_congr_left fun ch _ => (foldAsciiChar_eq ch).symm]
  rw [hlower, asciiEquals]
  by_cases hlength : a.length = b.length
  · rw [if_neg (not_not_intro hlength)]
    rw [← zip_all_iff, and_iff_right (show a.toList.length = b.toList.length from hlength)]
    simp only [List.all_eq_true, decide_eq_true_eq]
  · rw [if_pos hlength]
    refine iff_of_false Bool.false_ne_true fun h => hlength ?_
    have hmapped := congrArg List.length h
    rw [List.length_map, List.length_map] at hmapped
    exact hmapped

theorem conflict_iff {existing : List GameConfig} {candidate : String} :
    conflict existing candidate = true ↔ toLower candidate ∈ existing.map GameConfig.foldedId := by
  simp only [conflict, List.any_eq_true, List.mem_map, asciiEquals_iff, GameConfig.foldedId]

theorem conflict_of_mem {existing : List GameConfig} {game : GameConfig} (h : game ∈ existing) :
    conflict existing game.id = true :=
  conflict_iff.mpr (List.mem_map.mpr ⟨game, h, rfl⟩)

theorem conflict_eq_false_iff {existing : List GameConfig} {candidate : String} :
    conflict existing candidate = false ↔ ∀ game ∈ existing, game.foldedId ≠ toLower candidate := by
  rw [← Bool.not_eq_true, conflict_iff]
  simp

/-! ## The candidates -/

/-- The ids in the order the search looks at them. -/
def candidate (baseId : String) : Nat → String
  | 0 => baseId
  | i + 1 => suffixedId baseId (i + 2)

/-- What the candidates have behind the base id. -/
def suffixText : Nat → List Char
  | 0 => []
  | i + 1 => '-' :: decimal (i + 2)

theorem toLower_of_isDigit {ch : Char} (h : ch.isDigit = true) : ch.toLower = ch := by
  have hlast := (Char.isDigit_iff_toNat.mp h).2
  have hletter : ¬ ('A' ≤ ch ∧ ch ≤ 'Z') := by
    intro hle
    have hfirst : 'A'.toNat ≤ ch.toNat := hle.1
    exact absurd (hfirst.trans hlast) (by decide)
  rw [← foldAsciiChar_eq, foldAsciiChar, if_neg hletter]

/-- A suffix has no letter to fold. -/
theorem toLower_candidate (baseId : String) (i : Nat) :
    (toLower (candidate baseId i)).toList = (toLower baseId).toList ++ suffixText i := by
  cases i with
  | zero => simp [candidate, suffixText]
  | succ i =>
    have hdigits : (decimal (i + 2)).map Char.toLower = decimal (i + 2) :=
      (List.map_congr_left fun _ hch => toLower_of_isDigit (isDigit_of_mem_decimal hch)).trans
        (List.map_id _)
    have htext : (suffixedId baseId (i + 2)).toList = baseId.toList ++ '-' :: decimal (i + 2) := by
      simp [suffixedId, decimal]
    rw [candidate, toLower, toLower, htext, suffixText]
    simp [hdigits]

theorem decimal_injective : Function.Injective decimal := by
  intro m n h
  have hvalue := congrArg (fun digits => Nat.ofDigitChars 10 digits 0) h
  simpa [decimal] using hvalue

theorem suffixText_injective : Function.Injective suffixText := by
  intro i j h
  cases i with
  | zero =>
    cases j with
    | zero => rfl
    | succ j => cases h
  | succ i =>
    cases j with
    | zero => cases h
    | succ j =>
      have hsuffix := decimal_injective (List.cons.inj h).2
      omega

/-- No two candidates are one id. -/
theorem candidate_injective (baseId : String) :
    Function.Injective fun i => toLower (candidate baseId i) := by
  intro i j h
  have htext := congrArg String.toList h
  dsimp only at htext
  rw [toLower_candidate, toLower_candidate] at htext
  exact suffixText_injective (List.append_cancel_left htext)

/-! ## The search -/

section Search

variable {baseId id : String} {existing : List GameConfig}

/-- As many candidates from the base id on as are all taken are no more than the rules. -/
theorem length_le_of_conflicts (hbase : conflict existing baseId = true) {suffix : Nat}
    (h : ∀ i, 2 ≤ i → i < suffix → conflict existing (suffixedId baseId i) = true)
    (htwo : 2 ≤ suffix) : suffix ≤ existing.length + 1 := by
  have htaken : ∀ i < suffix - 1,
      toLower (candidate baseId i) ∈ existing.map GameConfig.foldedId := by
    intro i hi
    cases i with
    | zero => exact conflict_iff.mp hbase
    | succ i => exact conflict_iff.mp (h (i + 2) (by omega) (by omega))
  have hlength := length_le_of_taken (candidate_injective baseId) htaken
  rw [List.length_map] at hlength
  omega

/-- A search that ends has ended after as many turns as there are rules. -/
theorem trySuffixes_length (hbase : conflict existing baseId = true) {turns : Nat}
    (h : trySuffixes baseId existing turns = some id) :
    trySuffixes baseId existing existing.length = some id := by
  obtain ⟨suffix, hfirst, rfl⟩ := Option.map_eq_some_iff.mp h
  obtain ⟨_, ⟨htwo, _⟩, hbefore⟩ := firstFree_eq_some_iff.mp hfirst
  have hlast := length_le_of_conflicts hbase hbefore htwo
  rw [trySuffixes, firstFree_of_lt hfirst (by omega), Option.map_some]

theorem not_conflict_of_found (h : makeUniqueGameId baseId existing = some id) :
    conflict existing id = false := by
  unfold makeUniqueGameId at h
  split at h
  · case _ hbase =>
    cases h
    exact hbase
  · obtain ⟨suffix, hfirst, rfl⟩ := Option.map_eq_some_iff.mp h
    exact (firstFree_eq_some_iff.mp hfirst).1

/-- Nothing is found exactly if the greatest suffix is passed. -/
theorem makeUniqueGameId_eq_none_iff :
    makeUniqueGameId baseId existing = none ↔ ¬ LeavesFree baseId existing := by
  unfold makeUniqueGameId LeavesFree
  by_cases hbase : conflict existing baseId = false
  · simp [hbase]
  · have hrange : 2 + (intMax - 1) = intMax + 1 := rfl
    rw [if_neg hbase, trySuffixes, Option.map_eq_none_iff, firstFree_eq_none_iff, hrange]
    constructor
    · rintro htaken (hfree | ⟨suffix, htwo, hlast, hfree⟩)
      · exact hbase hfree
      · rw [htaken suffix htwo (Nat.lt_succ_of_le hlast)] at hfree
        cases hfree
    · intro hnone suffix htwo hlast
      by_contra hfree
      exact hnone (.inr ⟨suffix, htwo, Nat.le_of_lt_succ hlast, Bool.not_eq_true _ ▸ hfree⟩)

theorem uniqueIdFound_of_returned (h : makeUniqueGameId baseId existing = some id) :
    UniqueIdFound baseId existing id where
  returned := h
  turns := by
    intro hbase
    have hloop : trySuffixes baseId existing (intMax - 1) = some id := by
      rw [makeUniqueGameId, hbase] at h
      exact h
    exact trySuffixes_length hbase hloop
  free := conflict_eq_false_iff.mp (not_conflict_of_found h)
  base := by
    intro hfree
    rw [makeUniqueGameId, if_pos (conflict_eq_false_iff.mpr hfree)] at h
    exact (Option.some.inj h).symm

theorem leavesFree_of_short (h : existing.length < intMax) : LeavesFree baseId existing := by
  by_contra hnone
  have hbase : conflict existing baseId = true := by
    by_contra hfree
    exact hnone (.inl (Bool.not_eq_true _ ▸ hfree))
  have htaken : ∀ i, 2 ≤ i → i < intMax + 1 → conflict existing (suffixedId baseId i) = true := by
    intro i htwo hlast
    by_contra hfree
    exact hnone (.inr ⟨i, htwo, Nat.le_of_lt_succ hlast, Bool.not_eq_true _ ▸ hfree⟩)
  have hlength := length_le_of_conflicts hbase htaken (by decide)
  omega

end Search

/-- The search comes to its end exactly if the rules leave an id free, and fewer rules than there are
positive `int`s do. -/
theorem unique_id_found_iff (baseId : String) (existing : List GameConfig) :
    ((∃ id, UniqueIdFound baseId existing id) ↔ LeavesFree baseId existing) ∧
      (existing.length < intMax → LeavesFree baseId existing) := by
  refine ⟨⟨?_, ?_⟩, leavesFree_of_short⟩
  · rintro ⟨id, hfound⟩
    by_contra hnone
    have hreturned := hfound.returned
    rw [makeUniqueGameId_eq_none_iff.mpr hnone] at hreturned
    cases hreturned
  · intro hfree
    cases hsearch : makeUniqueGameId baseId existing with
    | none => exact absurd hfree (makeUniqueGameId_eq_none_iff.mp hsearch)
    | some id => exact ⟨id, uniqueIdFound_of_returned hsearch⟩

/-- The test of the source with the base id in capitals. -/
example : makeUniqueGameId "ELDENRING" [{ id := "eldenring" }] = some "ELDENRING-2" := by
  decide +kernel

/-- A rule with the id found for the rules in force is added to them when it is written behind the
local ones, and hides none. -/
theorem mergeGameRules_added {baseId : String} {mainRules localRules : List GameConfig}
    {rule : GameConfig}
    (h : makeUniqueGameId baseId (mergeGameRules mainRules localRules) = some rule.id) :
    mergeGameRules mainRules (localRules ++ [rule]) =
      mergeGameRules mainRules localRules ++ [rule] := by
  have hnew : rule.foldedId ∉ (mergeGameRules mainRules localRules).map GameConfig.foldedId := by
    intro hmem
    have hconflict := conflict_iff.mpr hmem
    rw [not_conflict_of_found h] at hconflict
    cases hconflict
  unfold mergeGameRules at hnew ⊢
  rw [upserts_append_singleton]
  exact upsert_of_not_mem GameConfig.foldedId hnew

/-- Rules with the base id and with all of its suffixes. -/
def takenRules (baseId : String) : List GameConfig :=
  { id := baseId } ::
    (List.range' 2 (intMax - 1)).map fun suffix => { id := suffixedId baseId suffix }

theorem not_leavesFree_takenRules (baseId : String) : ¬ LeavesFree baseId (takenRules baseId) := by
  rintro (hfree | ⟨suffix, htwo, hlast, hfree⟩)
  · have hbase : { id := baseId } ∈ takenRules baseId := List.mem_cons_self
    rw [conflict_of_mem hbase] at hfree
    cases hfree
  · have hrange : suffix ∈ List.range' 2 (intMax - 1) :=
      List.mem_range'_1.mpr ⟨htwo, Nat.lt_succ_of_le hlast⟩
    have hsuffix : { id := suffixedId baseId suffix } ∈ takenRules baseId :=
      List.mem_cons_of_mem _ (List.mem_map.mpr ⟨suffix, hrange, rfl⟩)
    rw [conflict_of_mem hsuffix] at hfree
    cases hfree

/-- With 2147483647 rules on one id the suffix runs out of its type. -/
theorem suffixes_run_out :
    (takenRules "game").length = 2147483647 ∧ ¬ ∃ id, UniqueIdFound "game" (takenRules "game") id := by
  refine ⟨?_, ?_⟩
  · rw [takenRules, List.length_cons, List.length_map, List.length_range']
    rfl
  · rintro ⟨id, hfound⟩
    have hreturned := hfound.returned
    rw [makeUniqueGameId_eq_none_iff.mpr (not_leavesFree_takenRules "game")] at hreturned
    cases hreturned

end Process
end CppOptimizer
