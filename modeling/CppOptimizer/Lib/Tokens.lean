import CppOptimizer.Lib.Strings

/-!
# Lib.Tokens

Texts as tokens parted by a separator `d`.

* `tokens d text`    — the pieces between the separators, without the empty ones.
* `holds pat token`  — the pattern stands somewhere in the token.
* `skipTo pat ts`    — what follows the first token that holds the pattern.
* `skipAll pats ts`  — the same for one pattern after the other.
* `inOrder pats ts`  — every pattern is held behind the token that held the one before.

`tokens_induction` takes a text apart at its first separator. `cut_append_cons` is the rule for
search: a pattern without the separator is found on one side of it or on the other. `find?_fields` and
`skipAll_append_fields` are the rules for a row of tokens that each hold a pattern of their own.
-/

namespace Lib

variable {α : Type*} [DecidableEq α]

def tokens (d : α) (text : List α) : List (List α) := (text.splitOn d).filter (· ≠ [])

def holds (pat token : List α) : Bool := (cut pat token).isSome

def skipTo (pat : List α) (ts : List (List α)) : List (List α) :=
  (ts.dropWhile fun t => !holds pat t).tail

def skipAll (pats ts : List (List α)) : List (List α) := pats.foldl (fun ts pat => skipTo pat ts) ts

def inOrder : List (List α) → List (List α) → Bool
  | [], _ => true
  | pat :: pats, ts => ts.any (holds pat) && inOrder pats (skipTo pat ts)

/-! ## Separators -/

@[simp] theorem tokens_nil (d : α) : tokens d [] = [] := by
  simp [tokens]

theorem tokens_append_cons (d : α) (u v : List α) :
    tokens d (u ++ d :: v) = tokens d u ++ tokens d v := by
  rw [tokens, List.splitOn_append_cons_self, List.filter_append]
  rfl

theorem tokens_of_not_mem {d : α} {u : List α} (h : d ∉ u) (hne : u ≠ []) : tokens d u = [u] := by
  rw [tokens, List.splitOn_eq_singleton h]
  simp [hne]

theorem mem_tokens {d : α} {text token : List α} (h : token ∈ tokens d text) :
    d ∉ token ∧ token ⊆ text := mem_splitOn (List.mem_filter.mp h).1

/-- A text without the separator is all of a token or nothing. -/
theorem tokens_cases {d : α} {u : List α} (h : d ∉ u) :
    (u = [] ∧ tokens d u = []) ∨ (u ≠ [] ∧ tokens d u = [u]) := by
  by_cases hne : u = []
  · subst hne
    exact .inl ⟨rfl, tokens_nil d⟩
  · exact .inr ⟨hne, tokens_of_not_mem h hne⟩

/-- Either there is no separator, or the text is taken apart at the first one. -/
theorem tokens_induction {d : α} {motive : List α → Prop} (last : ∀ u, d ∉ u → motive u)
    (more : ∀ u v, d ∉ u → motive v → motive (u ++ d :: v)) (text : List α) : motive text := by
  induction hn : text.length using Nat.strong_induction_on generalizing text with
  | _ n ih =>
    by_cases hd : d ∈ text
    · obtain ⟨u, v, rfl, hu⟩ := List.eq_append_cons_of_mem hd
      refine more u v hu (ih v.length ?_ v rfl)
      rw [← hn, List.length_append, List.length_cons]
      omega
    · exact last text hd

/-! ## Search -/

theorem cut_nil {pat : List α} (h : pat ≠ []) : cut pat [] = none := by
  rw [cut, if_neg h]

/-- A pattern that does not have the separator is found before it or after it. -/
theorem cut_append_cons {d : α} {pat : List α} (hpat : pat ≠ []) (hd : d ∉ pat) (u v : List α) :
    cut pat (u ++ d :: v) =
      match cut pat u with
      | some p => some (p.1, p.2 ++ d :: v)
      | none => (cut pat v).map fun p => (u ++ d :: p.1, p.2) := by
  induction u with
  | nil =>
    have hmismatch : ¬ pat <+: d :: v := by
      intro hpre
      have hnil : pat <+: [] := prefix_of_not_mem hpre hd
      exact hpat (List.prefix_nil.mp hnil)
    rw [List.nil_append, cut_cons_of_mismatch hmismatch, cut_nil hpat]
    rfl
  | cons c u ih =>
    by_cases hpre : pat <+: c :: u
    · have hlong : pat <+: c :: (u ++ d :: v) := hpre.trans (List.prefix_append (c :: u) _)
      rw [List.cons_append, cut, if_pos hlong, cut, if_pos hpre, ← List.cons_append,
        List.drop_append_of_le_length hpre.length_le]
    · have hlong : ¬ pat <+: c :: (u ++ d :: v) := by
        intro h
        have hshort : pat <+: c :: u := prefix_of_not_mem h hd
        exact hpre hshort
      rw [List.cons_append, cut_cons_of_mismatch hlong, ih, cut_cons_of_mismatch hpre]
      cases cut pat u with
      | some p => rfl
      | none => simp [Function.comp_def]

/-- A character of the pattern that the text does not have. -/
theorem holds_eq_false {a : α} {pat text : List α} (ha : a ∈ pat) (h : a ∉ text) :
    holds pat text = false := by
  rw [holds, Option.isSome_eq_false_iff, Option.isNone_iff_eq_none]
  cases hcut : cut pat text with
  | none => rfl
  | some p =>
    have hmem : a ∈ p.1 ++ (pat ++ p.2) := by simp [ha]
    rw [← eq_append_of_cut hcut] at hmem
    exact absurd hmem h

theorem holds_of_cut {pat t : List α} {p : List α × List α} (h : cut pat t = some p) :
    holds pat t = true := by
  rw [holds, h]
  rfl

theorem not_holds_of_cut {pat t : List α} (h : cut pat t = none) : holds pat t = false := by
  rw [holds, h]
  rfl

theorem ne_nil_of_cut {pat t : List α} {p : List α × List α} (hpat : pat ≠ [])
    (h : cut pat t = some p) : t ≠ [] := by
  rintro rfl
  rw [cut_nil hpat] at h
  cases h

/-- What follows an occurrence is a part of the text. -/
theorem not_mem_of_cut {a : α} {pat t : List α} {p : List α × List α} (h : cut pat t = some p)
    (ha : a ∉ t) : a ∉ p.2 := by
  intro hmem
  rw [eq_append_of_cut h] at ha
  exact ha (by simp [hmem])

theorem holds_append (pat rest : List α) : holds pat (pat ++ rest) = true := by
  rw [holds, cut_append]
  rfl

theorem skipTo_nil (pat : List α) : skipTo pat [] = [] := rfl

theorem skipTo_cons_of_holds {pat t : List α} (h : holds pat t = true) (ts : List (List α)) :
    skipTo pat (t :: ts) = ts := by
  simp [skipTo, h]

theorem skipTo_cons_of_not {pat t : List α} (h : holds pat t = false) (ts : List (List α)) :
    skipTo pat (t :: ts) = skipTo pat ts := by
  simp [skipTo, h]

theorem skipTo_subset (pat : List α) (ts : List (List α)) : skipTo pat ts ⊆ ts :=
  List.Subset.trans (List.tail_subset _) (List.dropWhile_sublist _).subset

/-- Behind tokens that do not hold the pattern, or within them. -/
theorem skipTo_append (pat : List α) (js ts : List (List α)) :
    skipTo pat (js ++ ts) = if js.any (holds pat) then skipTo pat js ++ ts else skipTo pat ts := by
  induction js with
  | nil => simp
  | cons j js ih =>
    cases hj : holds pat j with
    | true => simp [skipTo_cons_of_holds hj, hj]
    | false => simp [skipTo_cons_of_not hj, hj, ih]

theorem skipAll_cons (pat : List α) (pats ts : List (List α)) :
    skipAll (pat :: pats) ts = skipAll pats (skipTo pat ts) := rfl

theorem skipAll_subset (pats ts : List (List α)) : skipAll pats ts ⊆ ts := by
  induction pats generalizing ts with
  | nil => exact List.Subset.refl ts
  | cons pat pats ih =>
    rw [skipAll_cons]
    exact List.Subset.trans (ih _) (skipTo_subset pat ts)

/-! ## A row of fields

Each field is a pattern and the token that holds it; no field holds a later pattern. -/

theorem inOrder_append {pats js ts : List (List α)}
    (h : ∀ pat ∈ pats, ∀ t ∈ ts, holds pat t = false) : inOrder pats (js ++ ts) = inOrder pats js := by
  induction pats generalizing js with
  | nil => rfl
  | cons pat pats ih =>
    have hnone : ts.any (holds pat) = false := by
      simpa using h pat List.mem_cons_self
    rw [inOrder, inOrder, List.any_append, hnone, Bool.or_false, skipTo_append]
    cases hjs : js.any (holds pat) with
    | false => rfl
    | true =>
      rw [if_pos rfl]
      exact congrArg _ (ih fun pat' hpat => h pat' (List.mem_cons_of_mem _ hpat))

theorem skipAll_append {pats js : List (List α)} (h : inOrder pats js = true) (ts : List (List α)) :
    skipAll pats (js ++ ts) = skipAll pats js ++ ts := by
  induction pats generalizing js with
  | nil => rfl
  | cons pat pats ih =>
    obtain ⟨hany, hrest⟩ := Bool.and_eq_true_iff.mp h
    rw [skipAll_cons, skipAll_cons, skipTo_append, if_pos hany, ih hrest]

section Fields

variable {fields : List (List α × List α)} (hown : ∀ p ∈ fields, holds p.1 p.2 = true)
  (hother : fields.Pairwise fun p q => holds q.1 p.2 = false)

include hown hother

theorem find?_fields (ops : List (List α)) {p : List α × List α} (hp : p ∈ fields) :
    (fields.map Prod.snd ++ ops).find? (holds p.1) = some p.2 := by
  induction fields with
  | nil => cases hp
  | cons q fields ih =>
    obtain ⟨hfirst, hrest⟩ := List.pairwise_cons.mp hother
    rw [List.map_cons, List.cons_append]
    rcases List.mem_cons.mp hp with rfl | hp
    · exact List.find?_cons_of_pos (hown p List.mem_cons_self)
    · rw [List.find?_cons_of_neg (by simp [hfirst p hp])]
      exact ih (fun p hp => hown p (List.mem_cons_of_mem _ hp)) hrest hp

/-- Tokens in front of the fields that hold all the patterns in order leave the fields standing;
any others leave nothing of them. -/
theorem skipAll_append_fields (js ops : List (List α)) :
    skipAll (fields.map Prod.fst) (js ++ (fields.map Prod.snd ++ ops)) =
      if inOrder (fields.map Prod.fst) js then
        skipAll (fields.map Prod.fst) js ++ (fields.map Prod.snd ++ ops)
      else ops := by
  induction fields generalizing js with
  | nil => rfl
  | cons q fields ih =>
    obtain ⟨hfirst, hrest⟩ := List.pairwise_cons.mp hother
    have ih := ih (fun p hp => hown p (List.mem_cons_of_mem _ hp)) hrest
    simp only [List.map_cons, skipAll_cons, skipTo_append, inOrder, List.cons_append]
    cases hany : js.any (holds q.1) with
    | true =>
      -- the field of this pattern stays, and is one more token in front of the others
      have hstays : ∀ ts, skipTo q.1 js ++ q.2 :: ts = skipTo q.1 js ++ [q.2] ++ ts := by
        intro ts
        simp
      have hkeys : ∀ pat ∈ fields.map Prod.fst, ∀ t ∈ [q.2], holds pat t = false := by
        intro pat hpat t ht
        obtain ⟨p, hp, rfl⟩ := List.mem_map.mp hpat
        rw [List.mem_singleton.mp ht]
        exact hfirst p hp
      rw [if_pos rfl, Bool.true_and, hstays, ih, inOrder_append hkeys]
      cases hrest : inOrder (fields.map Prod.fst) (skipTo q.1 js) with
      | true => simp [skipAll_append hrest]
      | false => rfl
    | false =>
      have hnext : skipTo q.1 (q.2 :: (fields.map Prod.snd ++ ops)) = fields.map Prod.snd ++ ops :=
        skipTo_cons_of_holds (hown q List.mem_cons_self) _
      rw [if_neg (by simp), Bool.false_and, if_neg (by simp), hnext]
      have hnone := ih []
      rw [List.nil_append] at hnone
      rw [hnone]
      cases fields <;> rfl

end Fields

omit [DecidableEq α] in
theorem mapM_eq_some_iff {β γ : Type*} {f : β → Option γ} {xs : List β} {ys : List γ} :
    xs.mapM f = some ys ↔ List.Forall₂ (fun x y => f x = some y) xs ys := by
  induction xs generalizing ys with
  | nil =>
    constructor
    · intro h
      cases h
      exact .nil
    · intro h
      cases h
      rfl
  | cons x xs ih =>
    simp only [List.mapM_cons, Option.bind_eq_bind, Option.bind_eq_some_iff, Option.pure_def,
      Option.some.injEq]
    constructor
    · rintro ⟨y, hy, zs, hzs, rfl⟩
      exact .cons hy (ih.mp hzs)
    · intro h
      cases h with
      | cons hy hzs => exact ⟨_, hy, _, ih.mpr hzs, rfl⟩

omit [DecidableEq α] in
/-- Every result of a reader that reads all of a list comes from one of its elements. -/
theorem exists_of_forall₂ {β : Type*} {R : α → β → Prop} {xs : List α} {ys : List β}
    (h : List.Forall₂ R xs ys) {y : β} (hy : y ∈ ys) : ∃ x ∈ xs, R x y := by
  induction h with
  | nil => cases hy
  | @cons x y' xs ys hxy _ ih =>
    rcases List.mem_cons.mp hy with rfl | hy
    · exact ⟨x, List.mem_cons_self, hxy⟩
    · obtain ⟨x', hx', hR⟩ := ih hy
      exact ⟨x', List.mem_cons_of_mem _ hx', hR⟩

end Lib
