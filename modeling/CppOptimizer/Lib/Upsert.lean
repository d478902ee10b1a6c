import Mathlib.Data.List.Induction
import Mathlib.Data.List.Nodup
import Mathlib.Tactic.Tauto

/-!
# Lib.Upsert

Lists of records with a key, where a record takes the place of the first one with its key or is
added at the end.

* `upsert`, `upserts` — one record, and one after the other.
* `keys_upserts`      — the keys that were there, then the new ones as they first appear.
* `find?_upserts`     — the last record put in under a key is the one that is found.
-/

namespace Lib

section Upsert

variable {α κ : Type*} [DecidableEq κ] (key : α → κ)

def upsert (a : α) : List α → List α
  | [] => [a]
  | x :: xs => if key x = key a then a :: xs else x :: upsert a xs

def upserts (xs as : List α) : List α := as.foldl (fun ys a => upsert key a ys) xs

/-- The keys of `as` that are none of `ks`, each where it first appears. -/
def newKeys (ks : List κ) (as : List α) : List κ := ((as.map key).filter (· ∉ ks)).eraseDups

theorem keys_upsert (a : α) (xs : List α) :
    (upsert key a xs).map key =
      if key a ∈ xs.map key then xs.map key else xs.map key ++ [key a] := by
  induction xs with
  | nil => simp [upsert]
  | cons x xs ih =>
    rw [upsert]
    by_cases hx : key x = key a
    · simp [hx]
    · have hne : key a ≠ key x := fun h => hx h.symm
      rw [if_neg hx, List.map_cons, ih, List.map_cons]
      by_cases hmem : key a ∈ xs.map key
      · rw [if_pos hmem, if_pos (List.mem_cons_of_mem _ hmem)]
      · rw [if_neg hmem, if_neg (List.not_mem_cons_of_ne_of_not_mem hne hmem), List.cons_append]

/-- A new key is added at the end. -/
theorem upsert_of_not_mem {a : α} {xs : List α} (h : key a ∉ xs.map key) :
    upsert key a xs = xs ++ [a] := by
  induction xs with
  | nil => rfl
  | cons x xs ih =>
    rw [List.map_cons] at h
    have hx : key x ≠ key a := fun hx => h (hx ▸ List.mem_cons_self)
    have hxs : key a ∉ xs.map key := fun hxs => h (List.mem_cons_of_mem _ hxs)
    rw [upsert, if_neg hx, ih hxs, List.cons_append]

theorem find?_upsert (a : α) (xs : List α) (k : κ) :
    (upsert key a xs).find? (fun x => key x = k) =
      if key a = k then some a else xs.find? (fun x => key x = k) := by
  induction xs with
  | nil => by_cases h : key a = k <;> simp [upsert, h]
  | cons x xs ih =>
    rw [upsert]
    by_cases hx : key x = key a
    · rw [if_pos hx, List.find?_cons, List.find?_cons, hx]
      by_cases hk : key a = k <;> simp [hk]
    · rw [if_neg hx, List.find?_cons, List.find?_cons, ih]
      by_cases hk : key x = k
      · have hne : key a ≠ k := fun h => hx (hk.trans h.symm)
        simp [hk, hne]
      · simp [hk]

theorem upserts_append_singleton (xs as : List α) (a : α) :
    upserts key xs (as ++ [a]) = upsert key a (upserts key xs as) := by
  simp [upserts]

/-- The last record put in under a key, or the one that was there. -/
theorem find?_upserts (xs as : List α) (k : κ) :
    (upserts key xs as).find? (fun x => key x = k) =
      (as.reverse.find? (fun x => key x = k)).or (xs.find? fun x => key x = k) := by
  induction as using List.reverseRecOn with
  | nil => rfl
  | append_singleton as a ih =>
    rw [upserts_append_singleton, find?_upsert, ih, List.reverse_append, List.reverse_singleton,
      List.singleton_append, List.find?_cons]
    by_cases h : key a = k <;> simp [h]

theorem newKeys_append_singleton (ks : List κ) (as : List α) (a : α) :
    newKeys key ks (as ++ [a]) =
      if key a ∈ ks ++ newKeys key ks as then newKeys key ks as else newKeys key ks as ++ [key a] := by
  have hmem : key a ∈ ks ++ newKeys key ks as ↔ key a ∈ ks ∨ key a ∈ as.map key := by
    rw [List.mem_append, newKeys, List.mem_eraseDups, List.mem_filter, decide_eq_true_eq]
    tauto
  rw [newKeys, List.map_append, List.filter_append, List.eraseDups_append]
  by_cases hold : key a ∈ ks
  · rw [if_pos (hmem.mpr (.inl hold))]
    simp [hold, newKeys, List.removeAll]
  · by_cases hseen : key a ∈ as.map key
    · rw [if_pos (hmem.mpr (.inr hseen))]
      simp only [List.mem_map] at hseen
      simp [hold, newKeys, List.removeAll, hseen]
    · rw [if_neg fun h => (hmem.mp h).elim hold hseen]
      simp only [List.mem_map] at hseen
      simp [hold, newKeys, List.removeAll, hseen, List.eraseDups_cons]

theorem keys_upserts (xs as : List α) :
    (upserts key xs as).map key = xs.map key ++ newKeys key (xs.map key) as := by
  induction as using List.reverseRecOn with
  | nil => simp [upserts, newKeys]
  | append_singleton as a ih =>
    rw [upserts_append_singleton, keys_upsert, ih, newKeys_append_singleton]
    split
    · rfl
    · rw [List.append_assoc]

theorem nodup_upsert {a : α} {xs : List α} (h : (xs.map key).Nodup) :
    ((upsert key a xs).map key).Nodup := by
  rw [keys_upsert]
  split
  · exact h
  · case _ hnew => exact List.nodup_append_comm.mp (List.nodup_cons.mpr ⟨hnew, h⟩)

theorem nodup_upserts {xs as : List α} (h : (xs.map key).Nodup) :
    ((upserts key xs as).map key).Nodup := by
  induction as generalizing xs with
  | nil => exact h
  | cons a as ih => exact ih (nodup_upsert key h)

/-- With distinct keys a record is found under its key. -/
theorem find?_of_mem_of_nodup {a : α} {xs : List α} (h : (xs.map key).Nodup) (ha : a ∈ xs) :
    xs.find? (fun x => key x = key a) = some a := by
  induction xs with
  | nil => cases ha
  | cons x xs ih =>
    rw [List.map_cons, List.nodup_cons] at h
    rcases List.mem_cons.mp ha with rfl | ha
    · simp
    · have hne : key x ≠ key a := fun heq => h.1 (heq ▸ List.mem_map_of_mem ha)
      rw [List.find?_cons, decide_eq_false hne]
      exact ih h.2 ha

end Upsert

end Lib
