import Mathlib.Algebra.Ring.Nat
import Mathlib.Data.List.Basic

/-!
# Lib.Utf16

Text as UTF-16 code units, and the decoder that never fails.

* `utf16`       — the units of a text.
* `utf16Lossy`  — the text of any units: a surrogate without its partner becomes U+FFFD.
* `WellFormed`  — the units come back from that text.

A lone surrogate and U+FFFD are one unit each, so the units that come back are as many as there were,
and differ from them exactly where a surrogate had no partner.
-/

namespace Lib

abbrev Units := List UInt16

/-! ## Units -/

def isHighSurrogate (u : UInt16) : Bool := 0xD800 ≤ u.toNat ∧ u.toNat < 0xDC00
def isLowSurrogate (u : UInt16) : Bool := 0xDC00 ≤ u.toNat ∧ u.toNat < 0xE000
def isSurrogate (u : UInt16) : Bool := 0xD800 ≤ u.toNat ∧ u.toNat < 0xE000

/-- The units of one character. -/
def utf16Char (c : Char) : Units :=
  if c.toNat < 0x10000 then [UInt16.ofNat c.toNat]
  else
    [UInt16.ofNat (0xD800 + (c.toNat - 0x10000) / 0x400),
     UInt16.ofNat (0xDC00 + (c.toNat - 0x10000) % 0x400)]

def utf16 (text : List Char) : Units := text.flatMap utf16Char

def replacement : Char := Char.ofNat 0xFFFD

/-- The character of a unit on its own. -/
def unitChar (u : UInt16) : Char := if isSurrogate u then replacement else Char.ofNat u.toNat

/-- The character of a pair. -/
def pairChar (high low : UInt16) : Char :=
  Char.ofNat (0x10000 + (high.toNat - 0xD800) * 0x400 + (low.toNat - 0xDC00))

def utf16Lossy : Units → List Char
  | [] => []
  | [u] => [unitChar u]
  | u :: v :: us =>
    if isHighSurrogate u ∧ isLowSurrogate v then pairChar u v :: utf16Lossy us
    else unitChar u :: utf16Lossy (v :: us)

/-- The units are those of a text. -/
def WellFormed (units : Units) : Prop := utf16 (utf16Lossy units) = units

instance (units : Units) : Decidable (WellFormed units) :=
  inferInstanceAs (Decidable (utf16 (utf16Lossy units) = units))

@[simp] theorem utf16_nil : utf16 [] = [] := rfl

theorem utf16_cons (c : Char) (text : List Char) : utf16 (c :: text) = utf16Char c ++ utf16 text :=
  List.flatMap_cons

/-! ## Characters and their units -/

theorem toNat_ofNat {n : Nat} (h : n < 0xD800 ∨ 0xE000 ≤ n ∧ n < 0x110000) :
    (Char.ofNat n).toNat = n := by
  have hvalid : n.isValidChar := by
    rcases h with h | ⟨h, h'⟩
    · exact .inl h
    · exact .inr ⟨h, h'⟩
  unfold Char.ofNat
  rw [dif_pos hvalid]
  rfl

theorem utf16Char_unitChar {u : UInt16} (h : isSurrogate u = false) : utf16Char (unitChar u) = [u] := by
  have hu := UInt16.toNat_lt u
  simp only [isSurrogate, decide_eq_false_iff_not] at h
  have hnat : (Char.ofNat u.toNat).toNat = u.toNat := toNat_ofNat (by omega)
  have hplain : isSurrogate u = false := by simpa [isSurrogate] using h
  rw [unitChar, if_neg (by simp [hplain]), utf16Char, if_pos (by rw [hnat]; omega), hnat,
    UInt16.ofNat_toNat]

theorem utf16Char_replacement {u : UInt16} (h : isSurrogate u = true) :
    utf16Char (unitChar u) = [0xFFFD] := by
  rw [unitChar, if_pos h]
  decide

theorem utf16Char_pairChar {u v : UInt16} (hu : isHighSurrogate u = true) (hv : isLowSurrogate v = true) :
    utf16Char (pairChar u v) = [u, v] := by
  simp only [isHighSurrogate, decide_eq_true_eq] at hu
  simp only [isLowSurrogate, decide_eq_true_eq] at hv
  have hnat : (pairChar u v).toNat =
      0x10000 + (u.toNat - 0xD800) * 0x400 + (v.toNat - 0xDC00) := toNat_ofNat (by omega)
  rw [utf16Char, if_neg (by omega), hnat]
  have hhigh : 0xD800 + (0x10000 + (u.toNat - 0xD800) * 0x400 + (v.toNat - 0xDC00) - 0x10000) / 0x400 =
      u.toNat := by omega
  have hlow : 0xDC00 + (0x10000 + (u.toNat - 0xD800) * 0x400 + (v.toNat - 0xDC00) - 0x10000) % 0x400 =
      v.toNat := by omega
  rw [hhigh, hlow, UInt16.ofNat_toNat, UInt16.ofNat_toNat]

/-! ## There and back -/

/-- The units that come back: those of before, with U+FFFD for some surrogates. -/
theorem forall₂_utf16_utf16Lossy (units : Units) :
    List.Forall₂ (fun back u => back = u ∨ isSurrogate u = true ∧ back = 0xFFFD)
      (utf16 (utf16Lossy units)) units := by
  have hunit : ∀ u : UInt16, ∃ back, utf16Char (unitChar u) = [back] ∧
      (back = u ∨ isSurrogate u = true ∧ back = 0xFFFD) := by
    intro u
    cases h : isSurrogate u with
    | false => exact ⟨u, utf16Char_unitChar h, .inl rfl⟩
    | true => exact ⟨0xFFFD, utf16Char_replacement h, .inr ⟨rfl, rfl⟩⟩
  induction units using utf16Lossy.induct with
  | case1 => exact .nil
  | case2 u =>
    obtain ⟨back, hchar, hback⟩ := hunit u
    rw [utf16Lossy, utf16_cons, hchar]
    exact .cons hback .nil
  | case3 u v us h ih =>
    rw [utf16Lossy, if_pos h, utf16_cons, utf16Char_pairChar h.1 h.2]
    exact .cons (.inl rfl) (.cons (.inl rfl) ih)
  | case4 u v us h ih =>
    obtain ⟨back, hchar, hback⟩ := hunit u
    rw [utf16Lossy, if_neg h, utf16_cons, hchar]
    exact .cons hback ih

end Lib
