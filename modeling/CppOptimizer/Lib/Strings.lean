import CppOptimizer.Lib.Int64
import Mathlib.Algebra.Ring.Int.Defs
import Mathlib.Algebra.Ring.Nat
import Mathlib.Data.List.Induction
import Mathlib.Data.List.Infix

/-!
# Lib.Strings

Text as lists of characters: comparison, lines, search, decimal numerals.

* `lines`, `unlines` — the lines a `getline` loop sees, and the text that has given lines.
* `cut`              — what stands before and after the first occurrence of a pattern.
* `lines_of_prefix`  — what a text that was not written to its end has of its lines.
* `decimal`, `readDigits`, `stoll`, `fromCharsInt32` — numerals of natural numbers and integers, and
  their readers.
-/

namespace Lib

/-! ## Comparison -/

/-- A comparison element by element over two lists of one length. -/
theorem zip_all_iff {α β γ : Type} (f : α → γ) (g : β → γ) (as : List α) (bs : List β) :
    (as.length = bs.length ∧ ∀ p ∈ as.zip bs, f p.1 = g p.2) ↔ as.map f = bs.map g := by
  induction as generalizing bs with
  | nil => cases bs <;> simp
  | cons a as ih =>
    cases bs with
    | nil => simp
    | cons b bs =>
      rw [List.map_cons, List.map_cons, List.cons.injEq, ← ih bs]
      simp only [List.length_cons, Nat.add_right_cancel_iff, List.zip_cons_cons, List.mem_cons]
      constructor
      · rintro ⟨hlen, hall⟩
        exact ⟨hall (a, b) (.inl rfl), hlen, fun p hp => hall p (.inr hp)⟩
      · rintro ⟨hab, hlen, hall⟩
        refine ⟨hlen, ?_⟩
        rintro p (rfl | hp)
        · exact hab
        · exact hall p hp

/-! ## Lines -/

/-- The lines of a text; the last one need not be ended. -/
def lines : List Char → List (List Char)
  | [] => []
  | c :: cs =>
    if c = '\n' then [] :: lines cs
    else
      match lines cs with
      | [] => [[c]]
      | l :: ls => (c :: l) :: ls

/-- Every line followed by a line feed. -/
def unlines (ls : List (List Char)) : List Char := ls.flatMap (· ++ ['\n'])

@[simp] theorem lines_nil : lines [] = [] := rfl
@[simp] theorem unlines_nil : unlines [] = [] := rfl
@[simp] theorem unlines_cons (l : List Char) (ls : List (List Char)) :
    unlines (l :: ls) = l ++ '\n' :: unlines ls := by
  simp [unlines]

theorem unlines_append (ls ms : List (List Char)) : unlines (ls ++ ms) = unlines ls ++ unlines ms :=
  List.flatMap_append

theorem lines_append_newline {l : List Char} (h : '\n' ∉ l) (rest : List Char) :
    lines (l ++ '\n' :: rest) = l :: lines rest := by
  induction l with
  | nil => simp [lines]
  | cons c l ih =>
    have hc : c ≠ '\n' := fun hc => h (hc ▸ List.mem_cons_self)
    have hl : '\n' ∉ l := fun hl => h (List.mem_cons_of_mem _ hl)
    rw [List.cons_append, lines, if_neg hc, ih hl]

theorem lines_unlines_append {ls : List (List Char)} (h : ∀ l ∈ ls, '\n' ∉ l) (rest : List Char) :
    lines (unlines ls ++ rest) = ls ++ lines rest := by
  induction ls with
  | nil => rfl
  | cons l ls ih =>
    have hls : ∀ m ∈ ls, '\n' ∉ m := fun m hm => h m (List.mem_cons_of_mem _ hm)
    rw [unlines_cons, List.append_assoc, List.cons_append,
      lines_append_newline (h l List.mem_cons_self), ih hls, List.cons_append]

/-- What is written line by line is read line by line. -/
theorem lines_unlines {ls : List (List Char)} (h : ∀ l ∈ ls, '\n' ∉ l) :
    lines (unlines ls) = ls := by
  have := lines_unlines_append h []
  simpa using this

theorem newline_not_mem_of_mem_lines {text l : List Char} (h : l ∈ lines text) : '\n' ∉ l := by
  induction text generalizing l with
  | nil => cases h
  | cons c cs ih =>
    rw [lines] at h
    split at h
    · rcases List.mem_cons.mp h with rfl | h
      · simp
      · exact ih h
    · rename_i hc
      split at h
      · rw [List.mem_singleton] at h
        subst h
        simpa using fun h => hc h.symm
      · rename_i m ms hlines
        rcases List.mem_cons.mp h with rfl | h
        · have hm : '\n' ∉ m := ih (by rw [hlines]; exact List.mem_cons_self)
          simpa [hm] using fun h => hc h.symm
        · exact ih (by rw [hlines]; exact List.mem_cons_of_mem _ h)

theorem lines_cons (c : Char) (cs : List Char) :
    lines (c :: cs) =
      if c = '\n' then [] :: lines cs
      else
        match lines cs with
        | [] => [[c]]
        | l :: ls => (c :: l) :: ls := rfl

theorem lines_ne_nil {text : List Char} (h : text ≠ []) : lines text ≠ [] := by
  rcases text with _ | ⟨c, cs⟩
  · exact absurd rfl h
  · rw [lines]
    split
    · simp
    · split <;> simp

/-- Behind a line feed a new line begins. -/
theorem lines_append_of_getLast? {text : List Char} (h : text.getLast? = some '\n')
    (rest : List Char) : lines (text ++ rest) = lines text ++ lines rest := by
  induction text with
  | nil => cases h
  | cons c cs ih =>
    rcases cs with _ | ⟨d, ds⟩
    · obtain rfl : c = '\n' := by simpa using h
      simp [lines]
    · rw [List.getLast?_cons_cons] at h
      rw [List.cons_append, lines_cons, ih h, lines_cons c]
      split
      · rfl
      · rcases hds : lines (d :: ds) with _ | ⟨l, ls⟩
        · exact absurd hds (lines_ne_nil (by simp))
        · rfl

/-- A line feed ends the last line. -/
theorem lines_concat_newline {text : List Char} (hne : text ≠ []) (h : text.getLast? ≠ some '\n') :
    lines (text ++ ['\n']) = lines text := by
  induction text with
  | nil => exact absurd rfl hne
  | cons c cs ih =>
    rcases cs with _ | ⟨d, ds⟩
    · have hc : c ≠ '\n' := by simpa using h
      simp [lines, hc]
    · rw [List.getLast?_cons_cons] at h
      rw [List.cons_append, lines_cons, ih (by simp) h, lines_cons c]

/-- A text has at most as many lines as characters. -/
theorem length_lines_le (text : List Char) : (lines text).length ≤ text.length := by
  induction text with
  | nil => simp
  | cons c cs ih =>
    rw [lines]
    split
    · simpa using ih
    · split
      · simp
      · rename_i l ls hlines
        rw [hlines] at ih
        simpa using Nat.le_succ_of_le ih

/-! ## Search -/

section Search

variable {α : Type*} [DecidableEq α]

/-- The text before and after the first occurrence of `pat`. -/
def cut (pat : List α) : List α → Option (List α × List α)
  | [] => if pat = [] then some ([], []) else none
  | c :: cs =>
    if pat <+: c :: cs then some ([], (c :: cs).drop pat.length)
    else (cut pat cs).map fun p => (c :: p.1, p.2)

theorem cut_append (pat rest : List α) : cut pat (pat ++ rest) = some ([], rest) := by
  cases pat with
  | nil => cases rest <;> simp [cut]
  | cons a ps =>
    rw [List.cons_append, cut, if_pos (by simp)]
    simp

theorem cut_cons_of_mismatch {pat : List α} {c : α} {cs : List α} (h : ¬ pat <+: c :: cs) :
    cut pat (c :: cs) = (cut pat cs).map fun p => (c :: p.1, p.2) := by
  rw [cut, if_neg h]

/-- A text without the first character of the pattern is passed over. -/
theorem cut_append_of_head_not_mem {a : α} {ps xs : List α} (h : a ∉ xs) (text : List α) :
    cut (a :: ps) (xs ++ text) = (cut (a :: ps) text).map fun p => (xs ++ p.1, p.2) := by
  induction xs with
  | nil => simp
  | cons c xs ih =>
    have hc : a ≠ c := fun hc => h (hc ▸ List.mem_cons_self)
    have hxs : a ∉ xs := fun hxs => h (List.mem_cons_of_mem _ hxs)
    have hpre : ¬ a :: ps <+: c :: (xs ++ text) := by
      intro hpre
      exact hc (List.cons_prefix_cons.mp hpre).1
    rw [List.cons_append, cut_cons_of_mismatch hpre, ih hxs, Option.map_map]
    rfl

/-- A pattern is not found too early when its first character is not. -/
theorem cut_of_head_not_mem {a : α} {ps : List α} {before : List α} (h : a ∉ before)
    (rest : List α) : cut (a :: ps) (before ++ (a :: ps ++ rest)) = some (before, rest) := by
  rw [cut_append_of_head_not_mem h, cut_append]
  simp

theorem cut_eq_none {a : α} {ps text : List α} (h : a ∉ text) : cut (a :: ps) text = none := by
  have hcut : cut (a :: ps) (text ++ []) = _ := cut_append_of_head_not_mem h []
  simpa [cut] using hcut

/-- Or when its second character is not. -/
theorem cut_of_second_not_mem {a b : α} {ps : List α} {before : List α} (hab : a ≠ b)
    (h : b ∉ before) (rest : List α) :
    cut (a :: b :: ps) (before ++ (a :: b :: ps ++ rest)) = some (before, rest) := by
  induction before with
  | nil => exact cut_append (a :: b :: ps) rest
  | cons c before ih =>
    have hb : b ∉ before := fun hb => h (List.mem_cons_of_mem _ hb)
    have hpre : ¬ a :: b :: ps <+: c :: (before ++ (a :: b :: ps ++ rest)) := by
      intro hpre
      have htail := (List.cons_prefix_cons.mp hpre).2
      cases before with
      | nil => exact hab (List.cons_prefix_cons.mp htail).1.symm
      | cons d before => exact hb ((List.cons_prefix_cons.mp htail).1 ▸ List.mem_cons_self)
    rw [List.cons_append, cut_cons_of_mismatch hpre, ih hb]
    rfl

/-- What lies before the first occurrence of a character does not hold it. -/
theorem not_mem_of_cut_singleton {a : α} {text : List α} {p : List α × List α}
    (h : cut [a] text = some p) : a ∉ p.1 := by
  induction text generalizing p with
  | nil => simp [cut] at h
  | cons c cs ih =>
    rw [cut] at h
    split at h
    · cases h
      simp
    · rename_i hpre
      obtain ⟨q, hq, rfl⟩ := Option.map_eq_some_iff.mp h
      have hac : a ≠ c := by
        rintro rfl
        exact hpre (by simp)
      simpa [hac] using ih hq

theorem subset_of_cut {pat text : List α} {p : List α × List α} (h : cut pat text = some p) :
    p.1 ⊆ text := by
  induction text generalizing p with
  | nil =>
    rw [cut] at h
    split at h <;> cases h
    simp
  | cons c cs ih =>
    rw [cut] at h
    split at h
    · cases h
      simp
    · obtain ⟨q, hq, rfl⟩ := Option.map_eq_some_iff.mp h
      exact List.cons_subset_cons c (ih hq)

theorem eq_append_of_cut {pat text : List α} {p : List α × List α} (h : cut pat text = some p) :
    text = p.1 ++ (pat ++ p.2) := by
  induction text generalizing p with
  | nil =>
    rw [cut] at h
    split at h
    · case _ hpat =>
      cases h
      simp [hpat]
    · cases h
  | cons c cs ih =>
    rw [cut] at h
    split at h
    · case _ hpre =>
      cases h
      exact (List.prefix_iff_eq_append.mp hpre).symm
    · obtain ⟨q, hq, rfl⟩ := Option.map_eq_some_iff.mp h
      exact congrArg (c :: ·) (ih hq)

/-- A pattern that stands in the text is found. -/
theorem exists_cut (pat before rest : List α) : ∃ p, cut pat (before ++ (pat ++ rest)) = some p := by
  induction before with
  | nil => exact ⟨_, cut_append pat rest⟩
  | cons c before ih =>
    obtain ⟨p, hp⟩ := ih
    rw [List.cons_append, cut]
    split
    · exact ⟨_, rfl⟩
    · exact ⟨_, by rw [hp]; rfl⟩

theorem cut_isSome_iff {pat text : List α} : (cut pat text).isSome = true ↔ pat <:+: text := by
  constructor
  · intro h
    obtain ⟨p, hp⟩ := Option.isSome_iff_exists.mp h
    exact ⟨p.1, p.2, by rw [eq_append_of_cut hp, List.append_assoc]⟩
  · rintro ⟨before, rest, rfl⟩
    obtain ⟨p, hp⟩ := exists_cut pat before rest
    rw [List.append_assoc, hp]
    rfl

/-- `std::string::find`: where the pattern first begins. -/
def find (pat text : List α) : Option Nat := (cut pat text).map fun p => p.1.length

/-- What follows the first occurrence has no say in where it is. -/
theorem cut_replace {pat text before after : List α} (h : cut pat text = some (before, after))
    (rest : List α) : cut pat (before ++ (pat ++ rest)) = some (before, rest) := by
  induction text generalizing before with
  | nil =>
    rw [cut] at h
    split at h <;> cases h
    exact cut_append pat rest
  | cons c cs ih =>
    rw [cut] at h
    split at h
    · cases h
      exact cut_append pat rest
    · case _ hpre =>
      obtain ⟨q, hq, hp⟩ := Option.map_eq_some_iff.mp h
      cases hp
      have hmismatch : ¬ pat <+: c :: (q.1 ++ (pat ++ rest)) := by
        intro hnew
        have hshort : pat <+: c :: q.1 ++ pat := by
          refine List.prefix_of_prefix_length_le hnew ⟨rest, by simp⟩ ?_
          rw [List.length_append]
          omega
        refine hpre (hshort.trans ⟨q.2, ?_⟩)
        rw [eq_append_of_cut hq]
        simp
      rw [List.cons_append, cut_cons_of_mismatch hmismatch, ih hq]
      rfl

/-- Nor has what follows the text. -/
theorem cut_append_right {pat text before after : List α} (h : cut pat text = some (before, after))
    (more : List α) : cut pat (text ++ more) = some (before, after ++ more) := by
  have htext : text ++ more = before ++ (pat ++ (after ++ more)) := by
    rw [eq_append_of_cut h]
    simp
  rw [htext]
  exact cut_replace h (after ++ more)

/-- The first occurrence in a text is the first one in the rest of it. -/
theorem cut_of_append {pat xs text before after : List α}
    (h : cut pat (xs ++ text) = some (xs ++ before, after)) : cut pat text = some (before, after) := by
  induction xs with
  | nil => exact h
  | cons x xs ih =>
    rw [List.cons_append, cut] at h
    split at h
    · cases h
    · obtain ⟨⟨b, a⟩, hq, hp⟩ := Option.map_eq_some_iff.mp h
      obtain ⟨hb, rfl⟩ := Prod.mk.inj hp
      obtain ⟨-, rfl⟩ := List.cons.inj hb
      exact ih hq

omit [DecidableEq α] in
/-- The beginning of a text ends before a given place of it or goes beyond. -/
theorem prefix_append_cons {d : α} {xs rest pre : List α} (h : pre <+: xs ++ d :: rest) :
    pre <+: xs ∨ ∃ more, pre = xs ++ d :: more ∧ more <+: rest := by
  rcases List.prefix_or_prefix_of_prefix h (List.prefix_append xs _) with hpre | ⟨ys, rfl⟩
  · exact .inl hpre
  · rcases List.prefix_cons_iff.mp ((List.prefix_append_right_inj xs).mp h) with rfl | ⟨more, rfl, hmore⟩
    · exact .inl (by simp)
    · exact .inr ⟨more, rfl, hmore⟩

omit [DecidableEq α] in
theorem prefix_of_not_mem {d : α} {pat xs rest : List α} (h : pat <+: xs ++ d :: rest)
    (hd : d ∉ pat) : pat <+: xs := by
  rcases prefix_append_cons h with hpre | ⟨more, rfl, _⟩
  · exact hpre
  · exact absurd (by simp) hd

omit [DecidableEq α] in
theorem suffix_of_not_mem {d : α} {pat xs rest : List α} (h : pat <:+ xs ++ d :: rest)
    (hd : d ∉ pat) : pat <:+ rest := by
  have hrest : rest <:+ xs ++ d :: rest := ⟨xs ++ [d], by simp⟩
  rcases List.suffix_or_suffix_of_suffix h hrest with hsuf | ⟨ys, rfl⟩
  · exact hsuf
  · rcases List.eq_nil_or_concat ys with rfl | ⟨zs, z, rfl⟩
    · simp
    · obtain ⟨ws, hws⟩ := h
      have hsame : ws ++ zs ++ [z] ++ rest = xs ++ [d] ++ rest := by simpa using hws
      have hends : ws ++ zs ++ [z] = xs ++ [d] := List.append_cancel_right hsame
      have hz : z = d := List.singleton_inj.mp (List.append_inj_right' hends rfl)
      exact absurd (by simp [hz]) hd

/-- A character that is not in the pattern parts the text: what comes before it stays free of the
pattern when the text behind it changes. -/
theorem cut_change_rest {d : α} {pat xs text text' before before' after after' : List α}
    (hd : d ∉ pat) (h : cut pat (xs ++ d :: text) = some (xs ++ d :: before, after))
    (h' : cut pat (d :: text') = some (d :: before', after')) :
    cut pat (xs ++ d :: text') = some (xs ++ d :: before', after') := by
  induction xs with
  | nil => exact h'
  | cons x xs ih =>
    rw [List.cons_append, cut] at h
    split at h
    · cases h
    · case _ hpre =>
      obtain ⟨⟨b, a⟩, hq, hp⟩ := Option.map_eq_some_iff.mp h
      obtain ⟨hb, rfl⟩ := Prod.mk.inj hp
      obtain ⟨-, rfl⟩ := List.cons.inj hb
      have hmismatch : ¬ pat <+: x :: (xs ++ d :: text') := by
        intro hnew
        have hshort : pat <+: x :: xs := prefix_of_not_mem hnew hd
        exact hpre (hshort.trans (List.prefix_append _ _))
      rw [List.cons_append, cut_cons_of_mismatch hmismatch, ih hq]
      rfl

/-- A piece of a split text is a part of it without the separator. -/
theorem mem_splitOn {a : α} {text piece : List α} (h : piece ∈ text.splitOn a) :
    a ∉ piece ∧ piece ⊆ text := by
  induction text generalizing piece with
  | nil =>
    rw [List.splitOn_nil, List.mem_singleton] at h
    simp [h]
  | cons c cs ih =>
    rw [List.splitOn_cons_eq_if_modifyHead] at h
    split at h
    · rcases List.mem_cons.mp h with rfl | h
      · simp
      · exact ⟨(ih h).1, List.subset_cons_of_subset c (ih h).2⟩
    · case _ hc =>
      have hac : a ≠ c := by
        rintro rfl
        exact hc (beq_self_eq_true a)
      rcases hpieces : cs.splitOn a with _ | ⟨first, others⟩
      · exact absurd hpieces (List.splitOn_ne_nil a cs)
      · rw [hpieces, List.modifyHead_cons] at h
        rcases List.mem_cons.mp h with rfl | h
        · have hfirst := @ih first (by rw [hpieces]; exact List.mem_cons_self)
          exact ⟨by simpa [hac] using hfirst.1, List.cons_subset_cons c hfirst.2⟩
        · have hother := @ih piece (by rw [hpieces]; exact List.mem_cons_of_mem _ h)
          exact ⟨hother.1, List.subset_cons_of_subset c hother.2⟩

end Search

/-! ## Torn texts -/

theorem lines_of_newline_not_mem {l : List Char} (hne : l ≠ []) (h : '\n' ∉ l) : lines l = [l] := by
  have hlast : l.getLast? ≠ some '\n' := fun hlast => h (List.mem_of_getLast? hlast)
  rw [← lines_concat_newline hne hlast, lines_append_newline h, lines_nil]

/-- The beginning of a text has some of its lines whole, and then at most a part of the next one. -/
theorem lines_of_prefix {ls : List (List Char)} (h : ∀ l ∈ ls, '\n' ∉ l) {pre : List Char}
    (hpre : pre <+: unlines ls) :
    ∃ done rest, ls = done ++ rest ∧
      (lines pre = done ∨
        ∃ l rest' part, rest = l :: rest' ∧ part <+: l ∧ part ≠ [] ∧ lines pre = done ++ [part]) := by
  induction ls generalizing pre with
  | nil =>
    obtain rfl : pre = [] := List.prefix_nil.mp hpre
    exact ⟨[], [], rfl, .inl rfl⟩
  | cons l ls ih =>
    have hl : '\n' ∉ l := h l List.mem_cons_self
    rw [unlines_cons] at hpre
    rcases prefix_append_cons hpre with hpart | ⟨more, rfl, hmore⟩
    · by_cases hne : pre = []
      · subst hne
        exact ⟨[], l :: ls, rfl, .inl rfl⟩
      · have hlines : lines pre = [pre] :=
          lines_of_newline_not_mem hne fun hmem => hl (hpart.subset hmem)
        exact ⟨[], l :: ls, rfl, .inr ⟨l, ls, pre, rfl, hpart, hne, hlines⟩⟩
    · obtain ⟨done, rest, rfl, hlines⟩ := ih (fun m hm => h m (List.mem_cons_of_mem _ hm)) hmore
      refine ⟨l :: done, rest, rfl, ?_⟩
      rw [lines_append_newline hl]
      rcases hlines with hdone | ⟨m, rest', part, hrest, hpart, hne, hdone⟩
      · exact .inl (by rw [hdone])
      · exact .inr ⟨m, rest', part, hrest, hpart, hne, by rw [hdone, List.cons_append]⟩

/-! ## Numerals -/

/-- The decimal digits of a natural number. -/
def decimal (n : Nat) : List Char := Nat.toDigits 10 n

theorem isDigit_of_mem_decimal {n : Nat} {c : Char} (h : c ∈ decimal n) : c.isDigit = true :=
  Nat.isDigit_of_mem_toDigits (by decide) (by decide) h

theorem decimal_ne_nil (n : Nat) : decimal n ≠ [] := Nat.toDigits_ne_nil

theorem not_mem_decimal {n : Nat} {c : Char} (h : c.isDigit = false) : c ∉ decimal n := by
  intro hc
  have := isDigit_of_mem_decimal hc
  rw [h] at this
  cases this

/-- The digits in front of something else. -/
theorem takeWhile_decimal_append {n : Nat} {rest : List Char}
    (h : ∀ c ∈ rest.head?, c.isDigit = false) :
    (decimal n ++ rest).takeWhile Char.isDigit = decimal n := by
  rw [List.takeWhile_append_of_pos fun c hc => isDigit_of_mem_decimal hc]
  cases rest with
  | nil => simp
  | cons c rest => simp [h c (by simp)]

/-- One turn of a digit reader that gives up once the value is above `limit`. -/
def readDigit (limit value : Nat) (ch : Char) : Option Nat :=
  if ch.isDigit = true ∧ value ≤ limit then some (10 * value + (ch.toNat - '0'.toNat)) else none

def readDigits (limit : Nat) (text : List Char) : Option Nat :=
  if text = [] then none else text.foldlM (readDigit limit) 0

theorem readDigit_digitChar {limit value d : Nat} (hd : d < 10) (hv : value ≤ limit) :
    readDigit limit value d.digitChar = some (10 * value + d) := by
  have hdigit : d.digitChar.isDigit = true := by simpa using hd
  rw [readDigit, if_pos ⟨hdigit, hv⟩]
  exact congrArg some (congrArg _ (Nat.toNat_digitChar_sub_48_of_lt_ten hd))

/-- A numeral is read back as long as the limit is not passed before its last digit. -/
theorem readDigits_decimal {limit n : Nat} (h : n / 10 ≤ limit) :
    readDigits limit (decimal n) = some n := by
  rw [readDigits, if_neg (decimal_ne_nil n), decimal]
  -- the last digit is read after the numeral of `n / 10`
  induction n using Nat.strongRecOn with
  | ind n ih =>
    by_cases hn : n < 10
    · rw [Nat.toDigits_of_lt_base hn, List.foldlM_cons, readDigit_digitChar hn (Nat.zero_le limit)]
      simp
    · have hlt : n / 10 < n := Nat.div_lt_self (by omega) (by decide)
      have hdigit : n % 10 < 10 := Nat.mod_lt n (by decide)
      have hsum : 10 * (n / 10) + n % 10 = n := Nat.div_add_mod n 10
      rw [Nat.toDigits_of_base_le (by decide) (by omega), List.foldlM_append,
        ih (n / 10) hlt (by omega), Option.bind_eq_bind, Option.bind_some, List.foldlM_cons,
        readDigit_digitChar hdigit h, hsum]
      simp

/-- What is read as a numeral has digits and nothing else. -/
theorem isDigit_of_readDigits {limit n : Nat} {text : List Char}
    (h : readDigits limit text = some n) : ∀ c ∈ text, c.isDigit = true := by
  have hall : ∀ (text : List Char) (value : Nat), text.foldlM (readDigit limit) value = some n →
      ∀ c ∈ text, c.isDigit = true := by
    intro text
    induction text with
    | nil => exact fun _ _ c hc => absurd hc List.not_mem_nil
    | cons d text ih =>
      intro value hread c hc
      rw [List.foldlM_cons, Option.bind_eq_bind, Option.bind_eq_some_iff] at hread
      obtain ⟨value', hdigit, hrest⟩ := hread
      rw [readDigit] at hdigit
      split at hdigit
      · rename_i hd
        rcases List.mem_cons.mp hc with rfl | hc
        · exact hd.1
        · exact ih value' hrest c hc
      · cases hdigit
  rw [readDigits] at h
  split at h
  · cases h
  · exact hall text 0 h

/-- Digits, with no zero in front of others. -/
structure IsNumeral (s : List Char) : Prop where
  nonempty : s ≠ []
  digits : ∀ c ∈ s, c.isDigit = true
  canonical : s.head? = some '0' → s = ['0']

theorem eq_digitChar_of_isDigit {c : Char} (h : c.isDigit = true) :
    ∃ d < 10, c = d.digitChar := by
  obtain ⟨hlow, hhigh⟩ := Char.isDigit_iff_toNat.mp h
  rw [show '0'.toNat = 48 from rfl] at hlow
  rw [show '9'.toNat = 57 from rfl] at hhigh
  have hd : c.toNat - 48 < 10 := by omega
  refine ⟨c.toNat - 48, hd, Char.toNat_inj.mp ?_⟩
  have hback := Nat.toNat_digitChar_sub_48_of_lt_ten hd
  have hpos := Char.isDigit_iff_toNat.mp (show (c.toNat - 48).digitChar.isDigit = true by simpa using hd)
  rw [show '0'.toNat = 48 from rfl] at hpos
  omega

theorem isNumeral_decimal (n : Nat) : IsNumeral (decimal n) := by
  refine ⟨decimal_ne_nil n, fun c hc => isDigit_of_mem_decimal hc, ?_⟩
  unfold decimal
  induction n using Nat.strongRecOn with
  | ind n ih =>
    intro hhead
    by_cases hn : n < 10
    · rw [Nat.toDigits_of_lt_base hn] at hhead ⊢
      simpa using hhead
    · -- the numeral of `n / 10` would be a zero
      exfalso
      rw [Nat.toDigits_of_base_le (by decide) (by omega),
        List.head?_append_of_ne_nil _ Nat.toDigits_ne_nil] at hhead
      have hzero := ih (n / 10) (by omega) hhead
      have hval := Nat.ofDigitChars_ten_toDigits (n := n / 10)
      rw [hzero] at hval
      have : n / 10 = 0 := hval.symm.trans (by decide)
      omega

/-- A numeral is the one of its value. -/
theorem decimal_ofDigitChars {s : List Char} (h : IsNumeral s) :
    decimal (Nat.ofDigitChars 10 s 0) = s := by
  induction s using List.reverseRecOn with
  | nil => exact absurd rfl h.nonempty
  | append_singleton s c ih =>
    obtain ⟨d, hd, rfl⟩ := eq_digitChar_of_isDigit (h.digits c (by simp))
    rw [Nat.ofDigitChars_append, Nat.ofDigitChars_cons_digitChar_of_lt_ten hd, Nat.ofDigitChars_nil]
    by_cases hs : s = []
    · subst hs
      simpa [decimal] using Nat.toDigits_of_lt_base hd
    · have hnum : IsNumeral s := by
        refine ⟨hs, fun c hc => h.digits c (List.mem_append_left _ hc), fun hhead => ?_⟩
        have hall : (s ++ [d.digitChar]).head? = some '0' :=
          (List.head?_append_of_ne_nil s hs).trans hhead
        have hone := congrArg List.length (h.canonical hall)
        exact absurd (by simpa using hone) hs
      have hback := ih hnum
      have hvalue : Nat.ofDigitChars 10 s 0 ≠ 0 := by
        intro hzero
        rw [hzero] at hback
        have hbad := h.canonical (by rw [← hback]; rfl)
        rw [← hback] at hbad
        cases hbad
      rw [decimal, Nat.toDigits_of_base_le (by decide) (by omega)]
      rw [show (10 * Nat.ofDigitChars 10 s 0 + d) / 10 = Nat.ofDigitChars 10 s 0 by omega,
        show (10 * Nat.ofDigitChars 10 s 0 + d) % 10 = d by omega]
      exact congrArg (· ++ [d.digitChar]) hback

theorem length_decimal_le {n k : Nat} (hk : 0 < k) : (decimal n).length ≤ k ↔ n < 10 ^ k :=
  Nat.length_toDigits_le_iff (by decide) hk

/-- The numeral an output stream writes for a signed integer. -/
def decimalInt (i : Int) : List Char :=
  if i < 0 then '-' :: decimal i.natAbs else decimal i.natAbs

/-- The white space `std::stoll` passes over. -/
def isSpace (c : Char) : Bool :=
  c = ' ' ∨ c = '\t' ∨ c = '\n' ∨ c = '\x0b' ∨ c = '\x0c' ∨ c = '\r'

/-- The digits at the head of a text, if there are any. -/
def leadingDigits (text : List Char) : Option Nat :=
  if text.takeWhile Char.isDigit = [] then none
  else some (Nat.ofDigitChars 10 (text.takeWhile Char.isDigit) 0)

/-- A minus, if there is one, and digits. -/
def signedDigits : List Char → Option Int
  | '-' :: cs => (leadingDigits cs).map fun n : Nat => -(n : Int)
  | cs => (leadingDigits cs).map Int.ofNat

/-- A sign, if there is one, and digits. -/
def leadingInt : List Char → Option Int
  | '-' :: cs => (leadingDigits cs).map fun n : Nat => -(n : Int)
  | '+' :: cs => (leadingDigits cs).map Int.ofNat
  | cs => (leadingDigits cs).map Int.ofNat

/-- `std::stoll`: leading white space, a sign, digits; the rest is ignored. Nothing is returned
where it throws. -/
def stoll (text : List Char) : Option Int :=
  (leadingInt (text.dropWhile isSpace)).filter fun i => decide (IsInt64 i)

theorem leadingDigits_decimal (n : Nat) : leadingDigits (decimal n) = some n := by
  have hall : (decimal n).takeWhile Char.isDigit = decimal n := by
    have htake : (decimal n ++ []).takeWhile Char.isDigit = decimal n :=
      takeWhile_decimal_append (by simp)
    simpa using htake
  rw [leadingDigits, hall, if_neg (decimal_ne_nil n), decimal, Nat.ofDigitChars_ten_toDigits]

theorem decimal_cons (n : Nat) : ∃ c cs, decimal n = c :: cs ∧ c.isDigit = true := by
  rcases hd : decimal n with _ | ⟨c, cs⟩
  · exact absurd hd (decimal_ne_nil n)
  · exact ⟨c, cs, rfl, isDigit_of_mem_decimal (n := n) (by rw [hd]; exact List.mem_cons_self)⟩

theorem signedDigits_decimal (n : Nat) : signedDigits (decimal n) = some (n : Int) := by
  obtain ⟨c, cs, hcons, hdigit⟩ := decimal_cons n
  have hread := leadingDigits_decimal n
  rw [hcons] at hread ⊢
  unfold signedDigits
  split
  · case _ heq =>
    cases heq
    exact absurd hdigit (by decide)
  · rw [hread]
    rfl

theorem signedDigits_decimalInt (i : Int) : signedDigits (decimalInt i) = some i := by
  unfold decimalInt
  by_cases hneg : i < 0
  · have habs : -((i.natAbs : Nat) : Int) = i := by omega
    rw [if_pos hneg, signedDigits, leadingDigits_decimal, Option.map_some, habs]
  · have habs : ((i.natAbs : Nat) : Int) = i := by omega
    rw [if_neg hneg, signedDigits_decimal, habs]

theorem leadingInt_eq_signedDigits {text : List Char} (h : '+' ∉ text) :
    leadingInt text = signedDigits text := by
  unfold leadingInt
  split
  · rfl
  · exact absurd List.mem_cons_self h
  · case _ hminus _ =>
    unfold signedDigits
    split
    · exact absurd rfl (hminus _)
    · rfl

theorem not_mem_decimalInt {i : Int} {c : Char} (hdigit : c.isDigit = false) (hminus : c ≠ '-') :
    c ∉ decimalInt i := by
  unfold decimalInt
  split
  · simpa [hminus] using not_mem_decimal hdigit
  · exact not_mem_decimal hdigit

theorem leadingInt_decimalInt (i : Int) : leadingInt (decimalInt i) = some i := by
  rw [leadingInt_eq_signedDigits (not_mem_decimalInt (by decide) (by decide)),
    signedDigits_decimalInt]

/-- A numeral has no white space in front. -/
theorem dropWhile_decimalInt (i : Int) : (decimalInt i).dropWhile isSpace = decimalInt i := by
  unfold decimalInt
  split
  · exact List.dropWhile_cons_of_neg (by decide)
  · obtain ⟨c, cs, hcons, hdigit⟩ := decimal_cons i.natAbs
    rw [hcons]
    refine List.dropWhile_cons_of_neg fun hs => ?_
    simp only [isSpace, decide_eq_true_eq] at hs
    rcases hs with rfl | rfl | rfl | rfl | rfl | rfl <;> exact absurd hdigit (by decide)

/-- What an output stream wrote is read back. -/
theorem stoll_decimalInt {i : Int} (h : IsInt64 i) : stoll (decimalInt i) = some i := by
  rw [stoll, dropWhile_decimalInt, leadingInt_decimalInt]
  simp [Option.filter, h]

theorem isInt64_of_stoll {text : List Char} {i : Int} (h : stoll text = some i) : IsInt64 i := by
  unfold stoll at h
  simpa using (Option.filter_eq_some_iff.mp h).2

/-- A numeral is on one line. -/
theorem newline_not_mem_decimalInt (i : Int) : '\n' ∉ decimalInt i :=
  not_mem_decimalInt (by decide) (by decide)

/-! ## `std::from_chars` -/

def IsInt32 (i : Int) : Prop := -2 ^ 31 ≤ i ∧ i < 2 ^ 31

instance (i : Int) : Decidable (IsInt32 i) := inferInstanceAs (Decidable (_ ∧ _))

/-- `std::from_chars` for a 32-bit unsigned value: the digits in front; the rest is ignored. -/
def fromCharsUInt32 (text : List Char) : Option Nat :=
  (leadingDigits text).filter fun n => decide (n < 2 ^ 32)

/-- `std::from_chars` for an `int`. -/
def fromCharsInt32 (text : List Char) : Option Int :=
  (signedDigits text).filter fun i => decide (IsInt32 i)

theorem fromCharsUInt32_decimal {n : Nat} (h : n < 2 ^ 32) :
    fromCharsUInt32 (decimal n) = some n := by
  rw [fromCharsUInt32, leadingDigits_decimal]
  simpa [Option.filter] using h

theorem fromCharsInt32_decimalInt {i : Int} (h : IsInt32 i) :
    fromCharsInt32 (decimalInt i) = some i := by
  rw [fromCharsInt32, signedDigits_decimalInt]
  simp [Option.filter, h]

/-- A number of one digit cannot be cut into another one. -/
theorem fromCharsInt32_part {i v : Int} (h : i.natAbs < 10) {part : List Char}
    (hpart : part <+: decimalInt i) (hv : fromCharsInt32 part = some v) : v = i := by
  have hrange : IsInt32 i := by constructor <;> omega
  have hlength : (decimal i.natAbs).length ≤ 1 := (length_decimal_le (by decide)).mpr (by simpa using h)
  have hwhole : part = decimalInt i → v = i := by
    rintro rfl
    rw [fromCharsInt32_decimalInt hrange] at hv
    exact (Option.some.inj hv).symm
  have hempty : part ≠ [] := by
    rintro rfl
    cases hv
  unfold decimalInt at hpart hwhole
  split at hpart
  · case _ hneg =>
    rw [if_pos hneg] at hwhole
    rcases List.prefix_cons_iff.mp hpart with rfl | ⟨digits, rfl, hdigits⟩
    · exact absurd rfl hempty
    · have hsome : digits ≠ [] := by
        rintro rfl
        cases hv
      have heq : digits = decimal i.natAbs :=
        hdigits.eq_of_length_le (hlength.trans (List.length_pos_iff.mpr hsome))
      exact hwhole (by rw [heq])
  · case _ hneg =>
    rw [if_neg hneg] at hwhole
    exact hwhole (hpart.eq_of_length_le (hlength.trans (List.length_pos_iff.mpr hempty)))

theorem decimal_of_ten_le {n : Nat} (h : 10 ≤ n) :
    decimal n = decimal (n / 10) ++ [(n % 10).digitChar] :=
  Nat.toDigits_of_base_le (by decide) h

theorem natAbs_tdiv_ten (i : Int) : (i.tdiv 10).natAbs = i.natAbs / 10 := by
  rw [Int.natAbs_tdiv]
  rfl

/-- A longer one loses its last digit. -/
theorem decimalInt_of_ten_le {i : Int} (h : 10 ≤ i.natAbs) :
    decimalInt i = decimalInt (i.tdiv 10) ++ [(i.natAbs % 10).digitChar] := by
  have habs : (i.tdiv 10).natAbs = i.natAbs / 10 := natAbs_tdiv_ten i
  have hsign : i.tdiv 10 < 0 ↔ i < 0 := by
    constructor
    · intro hlt
      by_contra hpos
      have hnonneg : 0 ≤ i.tdiv 10 := Int.tdiv_nonneg (by omega) (by decide)
      omega
    · intro hneg
      have hnonneg : 0 ≤ (-i).tdiv 10 := Int.tdiv_nonneg (by omega) (by decide)
      rw [Int.neg_tdiv] at hnonneg
      omega
  unfold decimalInt
  rw [habs, decimal_of_ten_le h]
  by_cases hneg : i < 0
  · rw [if_pos hneg, if_pos (hsign.mpr hneg), List.cons_append]
  · rw [if_neg hneg, if_neg fun hlt => hneg (hsign.mp hlt)]

end Lib
