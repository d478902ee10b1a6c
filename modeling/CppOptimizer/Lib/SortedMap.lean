import Mathlib.Order.Lattice
import Mathlib.Data.List.Nodup

/-!
# Lib.SortedMap

Finite maps as association lists with strictly increasing keys: the order in which an ordered tree
map is walked is part of the model, because a walk can call back into the world.

The two membership lemmas `mem_insert` and `mem_erase` describe the operations completely; with
`find?_eq_some` they turn every statement about a map into one about its set of entries.
-/

namespace Lib

/-- Association list whose keys increase strictly. -/
structure SortedMap (κ α : Type) [LinearOrder κ] where
  entries : List (κ × α)
  sorted : (entries.map Prod.fst).Pairwise (· < ·)

namespace SortedMap

variable {κ α : Type} [LinearOrder κ]

instance [DecidableEq α] : DecidableEq (SortedMap κ α) := fun a b =>
  decidable_of_iff (a.entries = b.entries) ⟨fun h => by cases a; cases b; simp_all, fun h => h ▸ rfl⟩

/-- The empty map. -/
def empty : SortedMap κ α := ⟨[], by simp⟩

/-- The value stored under a key. -/
def find? (m : SortedMap κ α) (k : κ) : Option α := (m.entries.find? (·.1 = k)).map (·.2)

/-- Put `(k, v)` at its place in a sorted list, in place of an entry with the same key. -/
def insertEntry (k : κ) (v : α) : List (κ × α) → List (κ × α)
  | [] => [(k, v)]
  | p :: ps =>
    if k < p.1 then (k, v) :: p :: ps
    else if k = p.1 then (k, v) :: ps
    else p :: insertEntry k v ps

theorem mem_insertEntry {k : κ} {v : α} {ps : List (κ × α)}
    (hs : (ps.map Prod.fst).Pairwise (· < ·)) {q : κ × α} :
    q ∈ insertEntry k v ps ↔ q = (k, v) ∨ (q ∈ ps ∧ q.1 ≠ k) := by
  induction ps with
  | nil => simp [insertEntry]
  | cons p ps ih =>
    rw [List.map_cons, List.pairwise_cons] at hs
    have hlt : ∀ r ∈ ps, p.1 < r.1 := fun r hr => hs.1 r.1 (List.mem_map_of_mem hr)
    simp only [insertEntry]
    split
    · rename_i hk
      -- `k` is below every key of the list
      have hne : ∀ r ∈ p :: ps, r.1 ≠ k := by
        intro r hr
        rcases List.mem_cons.mp hr with rfl | hr
        · exact ne_of_gt hk
        · exact ne_of_gt (lt_trans hk (hlt r hr))
      rw [List.mem_cons]
      exact ⟨fun h => h.imp_right fun h => ⟨h, hne q h⟩, fun h => h.imp_right And.left⟩
    · split
      · rename_i hk
        subst hk
        rw [List.mem_cons, List.mem_cons]
        constructor
        · rintro (h | h)
          · exact .inl h
          · exact .inr ⟨.inr h, ne_of_gt (hlt q h)⟩
        · rintro (h | ⟨rfl | h, hn⟩)
          · exact .inl h
          · exact absurd rfl hn
          · exact .inr h
      · rename_i hk
        rw [List.mem_cons, ih hs.2, List.mem_cons]
        constructor
        · rintro (rfl | h | ⟨h, hn⟩)
          · exact .inr ⟨.inl rfl, fun h => hk h.symm⟩
          · exact .inl h
          · exact .inr ⟨.inr h, hn⟩
        · rintro (h | ⟨rfl | h, hn⟩)
          · exact .inr (.inl h)
          · exact .inl rfl
          · exact .inr (.inr ⟨h, hn⟩)

theorem sorted_insertEntry {k : κ} {v : α} {ps : List (κ × α)}
    (hs : (ps.map Prod.fst).Pairwise (· < ·)) :
    ((insertEntry k v ps).map Prod.fst).Pairwise (· < ·) := by
  induction ps with
  | nil => simp [insertEntry]
  | cons p ps ih =>
    have hs' := hs
    rw [List.map_cons, List.pairwise_cons] at hs'
    simp only [insertEntry]
    split
    · rename_i hk
      rw [List.map_cons, List.pairwise_cons]
      refine ⟨?_, hs⟩
      intro a ha
      rcases List.mem_cons.mp ha with rfl | ha
      · exact hk
      · exact lt_trans hk (hs'.1 a ha)
    · split
      · rename_i hk
        subst hk
        exact hs
      · rename_i hk hne
        rw [List.map_cons, List.pairwise_cons]
        refine ⟨?_, ih hs'.2⟩
        intro a ha
        obtain ⟨q, hq, rfl⟩ := List.mem_map.mp ha
        rcases (mem_insertEntry hs'.2).mp hq with rfl | ⟨hq, _⟩
        · exact lt_of_le_of_ne (not_lt.mp hk) fun h => hne h.symm
        · exact hs'.1 q.1 (List.mem_map_of_mem hq)

/-- Insert, or assign to the key that is there. -/
def insert (m : SortedMap κ α) (k : κ) (v : α) : SortedMap κ α :=
  ⟨insertEntry k v m.entries, sorted_insertEntry m.sorted⟩

/-- Remove a key. -/
def erase (m : SortedMap κ α) (k : κ) : SortedMap κ α :=
  ⟨m.entries.filter (·.1 ≠ k), m.sorted.sublist (List.filter_sublist.map _)⟩

/-- Keep the entries that pass. -/
def filter (m : SortedMap κ α) (p : κ × α → Bool) : SortedMap κ α :=
  ⟨m.entries.filter p, m.sorted.sublist (List.filter_sublist.map _)⟩

theorem mem_insert {m : SortedMap κ α} {k : κ} {v : α} {q : κ × α} :
    q ∈ (m.insert k v).entries ↔ q = (k, v) ∨ (q ∈ m.entries ∧ q.1 ≠ k) :=
  mem_insertEntry m.sorted

theorem mem_erase {m : SortedMap κ α} {k : κ} {q : κ × α} :
    q ∈ (m.erase k).entries ↔ q ∈ m.entries ∧ q.1 ≠ k := by
  simp [erase]

/-- A key has one entry. -/
theorem entries_inj {m : SortedMap κ α} {p q : κ × α} (hp : p ∈ m.entries) (hq : q ∈ m.entries)
    (h : p.1 = q.1) : p = q :=
  List.inj_on_of_nodup_map (m.sorted.imp ne_of_lt) hp hq h

theorem nodup_entries (m : SortedMap κ α) : m.entries.Nodup :=
  List.Nodup.of_map Prod.fst (m.sorted.imp ne_of_lt)

theorem find?_eq_some {m : SortedMap κ α} {k : κ} {v : α} :
    m.find? k = some v ↔ (k, v) ∈ m.entries := by
  constructor
  · intro h
    obtain ⟨⟨k', v'⟩, hp, rfl⟩ := Option.map_eq_some_iff.mp h
    have hk := List.find?_some hp
    simp only [decide_eq_true_eq] at hk
    subst hk
    exact List.mem_of_find?_eq_some hp
  · intro h
    rcases hf : m.entries.find? (·.1 = k) with _ | p
    · have := List.find?_eq_none.mp hf (k, v) h
      simp at this
    · have hk := List.find?_some hf
      simp only [decide_eq_true_eq] at hk
      have := entries_inj (List.mem_of_find?_eq_some hf) h hk
      simp [find?, hf, this]

theorem find?_eq_none {m : SortedMap κ α} {k : κ} :
    m.find? k = none ↔ ∀ q ∈ m.entries, q.1 ≠ k := by
  simp [find?]

theorem erase_eq_of_none {m : SortedMap κ α} {k : κ} (h : m.find? k = none) :
    (m.erase k).entries = m.entries := by
  simpa [erase] using find?_eq_none.mp h

theorem nodup_cons_erase (m : SortedMap κ α) (k : κ) (v : α) :
    ((k, v) :: (m.erase k).entries).Nodup := by
  refine List.nodup_cons.mpr ⟨?_, (m.erase k).nodup_entries⟩
  intro h
  exact (mem_erase.mp h).2 rfl

/-- An insertion, up to the order of the entries. -/
theorem insert_perm (m : SortedMap κ α) (k : κ) (v : α) :
    (m.insert k v).entries.Perm ((k, v) :: (m.erase k).entries) := by
  rw [List.perm_ext_iff_of_nodup (m.insert k v).nodup_entries (m.nodup_cons_erase k v)]
  intro q
  rw [mem_insert, List.mem_cons, mem_erase]

/-- A map is one of its entries and the rest. -/
theorem perm_of_find? {m : SortedMap κ α} {k : κ} {v : α} (h : m.find? k = some v) :
    m.entries.Perm ((k, v) :: (m.erase k).entries) := by
  rw [List.perm_ext_iff_of_nodup m.nodup_entries (m.nodup_cons_erase k v)]
  intro q
  have hkv := find?_eq_some.mp h
  rw [List.mem_cons, mem_erase]
  by_cases hk : q.1 = k
  · constructor
    · intro hq
      exact .inl (entries_inj hq hkv hk)
    · rintro (rfl | ⟨_, hne⟩)
      · exact hkv
      · exact absurd hk hne
  · constructor
    · intro hq
      exact .inr ⟨hq, hk⟩
    · rintro (rfl | ⟨hq, _⟩)
      · exact hkv
      · exact hq

theorem erase_insert_perm (m : SortedMap κ α) (k : κ) (v : α) :
    ((m.insert k v).erase k).entries.Perm (m.erase k).entries := by
  rw [List.perm_ext_iff_of_nodup (nodup_entries _) (nodup_entries _)]
  intro q
  rw [mem_erase, mem_erase, mem_insert]
  constructor
  · rintro ⟨rfl | ⟨hq, _⟩, hk⟩
    · exact absurd rfl hk
    · exact ⟨hq, hk⟩
  · rintro ⟨hq, hk⟩
    exact ⟨.inr ⟨hq, hk⟩, hk⟩

/-! ## Maps as functions -/

theorem find?_insert_self (m : SortedMap κ α) (k : κ) (v : α) : (m.insert k v).find? k = some v :=
  find?_eq_some.mpr (mem_insert.mpr (.inl rfl))

theorem find?_insert_of_ne (m : SortedMap κ α) {k k' : κ} (v : α) (h : k' ≠ k) :
    (m.insert k v).find? k' = m.find? k' := by
  ext w
  rw [find?_eq_some, find?_eq_some, mem_insert]
  constructor
  · rintro (heq | ⟨hmem, _⟩)
    · exact absurd (congrArg Prod.fst heq) h
    · exact hmem
  · intro hmem
    exact .inr ⟨hmem, h⟩

theorem find?_erase_of_ne (m : SortedMap κ α) {k k' : κ} (h : k' ≠ k) :
    (m.erase k).find? k' = m.find? k' := by
  ext w
  rw [find?_eq_some, find?_eq_some, mem_erase]
  exact ⟨fun hmem => hmem.1, fun hmem => ⟨hmem, h⟩⟩

theorem find?_filter_eq_some {m : SortedMap κ α} {p : κ × α → Bool} {k : κ} {v : α} :
    (m.filter p).find? k = some v ↔ m.find? k = some v ∧ p (k, v) = true := by
  rw [find?_eq_some, find?_eq_some]
  exact List.mem_filter

/-- Maps with the same entries are equal. -/
theorem ext_mem {m m' : SortedMap κ α} (h : ∀ q, q ∈ m.entries ↔ q ∈ m'.entries) : m = m' := by
  have hperm : m.entries.Perm m'.entries :=
    (List.perm_ext_iff_of_nodup m.nodup_entries m'.nodup_entries).mpr h
  have heq : m.entries = m'.entries := by
    refine hperm.eq_of_pairwise ?_ (List.pairwise_map.mp m.sorted) (List.pairwise_map.mp m'.sorted)
    intro p q _ _ hlt hgt
    exact absurd hlt (lt_asymm hgt)
  cases m
  cases m'
  simpa using heq

/-- Inserting the entries of a list one after the other, where no key comes twice. -/
theorem mem_foldl_insert {ps : List (κ × α)} (hnodup : (ps.map Prod.fst).Nodup)
    (m : SortedMap κ α) {q : κ × α} :
    q ∈ (ps.foldl (fun m p => m.insert p.1 p.2) m).entries ↔
      q ∈ ps ∨ (q ∈ m.entries ∧ q.1 ∉ ps.map Prod.fst) := by
  induction ps generalizing m with
  | nil => simp
  | cons p ps ih =>
    rw [List.map_cons, List.nodup_cons] at hnodup
    rw [List.foldl_cons, ih hnodup.2, mem_insert, List.map_cons, List.mem_cons, List.mem_cons]
    constructor
    · rintro (h | ⟨rfl | ⟨h, hne⟩, hnot⟩)
      · exact .inl (.inr h)
      · exact .inl (.inl rfl)
      · exact .inr ⟨h, not_or.mpr ⟨hne, hnot⟩⟩
    · rintro ((rfl | h) | ⟨h, hnot⟩)
      · exact .inr ⟨.inl rfl, hnodup.1⟩
      · exact .inl h
      · exact .inr ⟨.inr ⟨h, (not_or.mp hnot).1⟩, (not_or.mp hnot).2⟩

/-- A map rebuilt from its own entries. -/
theorem foldl_insert_entries (m : SortedMap κ α) :
    m.entries.foldl (fun m p => m.insert p.1 p.2) empty = m := by
  refine ext_mem fun q => ?_
  rw [mem_foldl_insert (m.sorted.imp ne_of_lt)]
  simp [empty]

end SortedMap

end Lib
