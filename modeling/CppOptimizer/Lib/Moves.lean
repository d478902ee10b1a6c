import Mathlib.Data.List.Count
import Mathlib.Logic.Function.Basic

/-!
# Lib.Moves

Bookkeeping for values that are changed for a while and put back.

A `Move` says that the value at a site was taken from `old` to `new`. `Balanced v₀ v ms` is the
account of the moves `ms` that were made and not undone since the values were `v₀`: at each site
every value is reached as often as it is left, up to the first value and the present one.

* `Balanced.take` — a move made now.
* `Balanced.undo` — a move undone while the site still has the value it was moved to.
* `Balanced.eq_iff` — the values are the first ones again exactly if the open moves cancel.

Nothing is said about the order of the moves: any of them may be undone first.
-/

namespace Lib

structure Move (κ α : Type*) where
  site : κ
  old : α
  new : α

variable {κ α : Type*} [DecidableEq κ] [DecidableEq α]

namespace Move

/-- How many of the moves lead to `x` at site `k`. -/
def arrivals (ms : List (Move κ α)) (k : κ) (x : α) : Nat :=
  ms.countP fun m => m.site = k ∧ m.new = x

/-- How many of the moves leave `x` at site `k`. -/
def departures (ms : List (Move κ α)) (k : κ) (x : α) : Nat :=
  ms.countP fun m => m.site = k ∧ m.old = x

/-- Each value is reached as often as it is left. -/
def Cancel (ms : List (Move κ α)) : Prop := ∀ k x, arrivals ms k x = departures ms k x

def Balanced (v₀ v : κ → α) (ms : List (Move κ α)) : Prop :=
  ∀ k x, arrivals ms k x + (if v₀ k = x then 1 else 0) =
    departures ms k x + (if v k = x then 1 else 0)

@[simp] theorem arrivals_cons (m : Move κ α) (ms : List (Move κ α)) (k : κ) (x : α) :
    arrivals (m :: ms) k x = arrivals ms k x + if m.site = k ∧ m.new = x then 1 else 0 := by
  simp [arrivals, List.countP_cons]

@[simp] theorem departures_cons (m : Move κ α) (ms : List (Move κ α)) (k : κ) (x : α) :
    departures (m :: ms) k x = departures ms k x + if m.site = k ∧ m.old = x then 1 else 0 := by
  simp [departures, List.countP_cons]

variable {v₀ v : κ → α} {m : Move κ α} {ms ms' : List (Move κ α)}

theorem balanced_nil : Balanced v v ([] : List (Move κ α)) := by
  intro k x
  rfl

theorem Balanced.perm (h : Balanced v₀ v ms) (hp : ms.Perm ms') : Balanced v₀ v ms' := by
  intro k x
  have := h k x
  rw [arrivals, departures] at this ⊢
  rwa [← hp.countP_eq, ← hp.countP_eq]

/-- A site is moved on from the value it has. -/
theorem Balanced.take (h : Balanced v₀ v ms) (hold : m.old = v m.site) :
    Balanced v₀ (Function.update v m.site m.new) (m :: ms) := by
  intro k x
  have := h k x
  rw [arrivals_cons, departures_cons]
  by_cases hk : k = m.site
  · subst hk
    simp only [true_and, Function.update_self, hold]
    omega
  · have hk' : ¬ m.site = k := fun heq => hk heq.symm
    simp only [hk', false_and, if_false, Function.update_of_ne hk]
    omega

/-- A move is undone where it led. -/
theorem Balanced.undo (h : Balanced v₀ v (m :: ms)) (hnew : v m.site = m.new) :
    Balanced v₀ (Function.update v m.site m.old) ms := by
  intro k x
  have := h k x
  rw [arrivals_cons, departures_cons] at this
  by_cases hk : k = m.site
  · subst hk
    simp only [true_and, hnew] at this
    simp only [Function.update_self]
    omega
  · have hk' : ¬ m.site = k := fun heq => hk heq.symm
    simp only [hk', false_and, if_false] at this
    simp only [Function.update_of_ne hk]
    omega

/-- The values are back exactly if the moves that were not undone cancel. -/
theorem Balanced.eq_iff (h : Balanced v₀ v ms) : v = v₀ ↔ Cancel ms := by
  constructor
  · intro heq k x
    have := h k x
    rw [heq] at this
    omega
  · intro hc
    funext k
    have := h k (v k)
    rw [hc k (v k), if_pos rfl] at this
    by_contra hne
    rw [if_neg fun heq => hne heq.symm] at this
    omega

/-- At a site that none of the open moves touches, the value is the first one. -/
theorem Balanced.eq_of_untouched (h : Balanced v₀ v ms) {k : κ} (hk : ∀ m ∈ ms, m.site ≠ k) :
    v k = v₀ k := by
  have harr : arrivals ms k (v k) = 0 := by
    rw [arrivals, List.countP_eq_zero]
    intro m hm
    simp [hk m hm]
  have hdep : departures ms k (v k) = 0 := by
    rw [departures, List.countP_eq_zero]
    intro m hm
    simp [hk m hm]
  have := h k (v k)
  rw [harr, hdep, if_pos rfl] at this
  by_contra hne
  rw [if_neg fun heq => hne heq.symm] at this
  omega

end Move

end Lib
