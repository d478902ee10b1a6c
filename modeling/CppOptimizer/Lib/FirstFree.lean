import Mathlib.Data.List.Nodup

/-!
# Lib.FirstFree

The search for the first number that is not taken.

* `firstFree`          — the search, for at most so many turns.
* `length_le_of_taken` — different names that are all taken are no more than the taken ones.
-/

namespace Lib

def firstFree (taken : Nat → Bool) : Nat → Nat → Option Nat
  | 0, _ => none
  | turns + 1, i => if taken i then firstFree taken turns (i + 1) else some i

theorem firstFree_eq_find? (taken : Nat → Bool) (turns start : Nat) :
    firstFree taken turns start = (List.range' start turns).find? fun i => !taken i := by
  induction turns generalizing start with
  | zero => rfl
  | succ turns ih =>
    rw [firstFree, List.range'_succ, List.find?_cons]
    cases taken start with
    | true => exact ih (start + 1)
    | false => rfl

theorem firstFree_eq_some_iff {taken : Nat → Bool} {turns start k : Nat} :
    firstFree taken turns start = some k ↔
      taken k = false ∧ (start ≤ k ∧ k < start + turns) ∧
        ∀ i, start ≤ i → i < k → taken i = true := by
  rw [firstFree_eq_find?, List.find?_range'_eq_some]
  simp

theorem firstFree_eq_none_iff {taken : Nat → Bool} {turns start : Nat} :
    firstFree taken turns start = none ↔
      ∀ i, start ≤ i → i < start + turns → taken i = true := by
  rw [firstFree_eq_find?, List.find?_range'_eq_none]
  simp

/-- How many turns there are does not matter to a search that ends. -/
theorem firstFree_of_lt {taken : Nat → Bool} {turns turns' start k : Nat}
    (h : firstFree taken turns start = some k) (hk : k < start + turns') :
    firstFree taken turns' start = some k := by
  obtain ⟨hfree, ⟨hstart, _⟩, hbefore⟩ := firstFree_eq_some_iff.mp h
  exact firstFree_eq_some_iff.mpr ⟨hfree, ⟨hstart, hk⟩, hbefore⟩

theorem length_le_of_taken {κ : Type*} {name : Nat → κ} (hname : Function.Injective name) {ks : List κ} {n : Nat}
    (h : ∀ i < n, name i ∈ ks) : n ≤ ks.length := by
  have hnodup : ((List.range n).map name).Nodup := List.nodup_range.map hname
  have hsub : (List.range n).map name ⊆ ks := by
    intro k hk
    obtain ⟨i, hi, rfl⟩ := List.mem_map.mp hk
    exact h i (List.mem_range.mp hi)
  simpa using hnodup.length_le_of_subset hsub

end Lib
