import CppOptimizer.Lib.Toml

/-!
# CppOptimizer.Config.TomlString

`ToTomlString`, which quotes a text for `config.local.toml` byte by byte, against the basic strings
of TOML 1.0.

* `escapeByte`, `toTomlString` — the loop of the source over the bytes of the text.
* `escapeChar`                 — the same on characters: no byte of a multi-byte sequence is touched.

The loop escapes what is below U+0020. TOML forbids U+007F in the same way, and that character is
written as it is.
-/

namespace CppOptimizer
namespace Config

open Lib

/-- A `std::string` with this text. -/
def bytes (s : String) : List UInt8 := utf8 s.toList

/-- A digit of `%X`. -/
def hexUpper (d : Nat) : Char := "0123456789ABCDEF".toList.getD d '0'

/-- `%04X`. -/
def hex4 (n : Nat) : List Char :=
  [hexUpper (n / 4096 % 16), hexUpper (n / 256 % 16), hexUpper (n / 16 % 16), hexUpper (n % 16)]

/-- One turn of the loop. -/
def escapeByte (ch : UInt8) : List UInt8 :=
  if ch = 0x22 then bytes "\\\""
  else if ch = 0x5C then bytes "\\\\"
  else if ch = 0x08 then bytes "\\b"
  else if ch = 0x09 then bytes "\\t"
  else if ch = 0x0A then bytes "\\n"
  else if ch = 0x0C then bytes "\\f"
  else if ch = 0x0D then bytes "\\r"
  else if ch < 0x20 then bytes "\\u" ++ utf8 (hex4 ch.toNat)
  else [ch]

def toTomlString (text : List UInt8) : List UInt8 := bytes "\"" ++ text.flatMap escapeByte ++ bytes "\""

/-! ## On characters -/

def escapeChar (c : Char) : List Char :=
  if c = '"' then "\\\"".toList
  else if c = '\\' then "\\\\".toList
  else if c = '\x08' then "\\b".toList
  else if c = '\t' then "\\t".toList
  else if c = '\n' then "\\n".toList
  else if c = '\x0c' then "\\f".toList
  else if c = '\r' then "\\r".toList
  else if c.toNat < 0x20 then '\\' :: 'u' :: hex4 c.toNat
  else [c]

theorem escapeByte_ascii : ∀ n < 128, escapeByte n.toUInt8 = utf8 (escapeChar (Char.ofNat n)) := by
  decide +kernel

theorem escapeByte_high {b : UInt8} (h : 128 ≤ b.toNat) : escapeByte b = [b] := by
  have hne : ∀ n : UInt8, n.toNat < 128 → b ≠ n := by
    rintro n hn rfl
    omega
  have hlarge : ¬ b < 0x20 := by
    rw [UInt8.lt_iff_toNat_lt]
    exact Nat.not_lt.mpr (Nat.le_trans (by decide) h)
  rw [escapeByte, if_neg (hne _ (by decide)), if_neg (hne _ (by decide)), if_neg (hne _ (by decide)),
    if_neg (hne _ (by decide)), if_neg (hne _ (by decide)), if_neg (hne _ (by decide)),
    if_neg (hne _ (by decide)), if_neg hlarge]

theorem escapeChar_high {c : Char} (h : 128 ≤ c.toNat) : escapeChar c = [c] := by
  have hne : ∀ d : Char, d.toNat < 128 → c ≠ d := by
    rintro d hd rfl
    omega
  rw [escapeChar, if_neg (hne _ (by decide)), if_neg (hne _ (by decide)), if_neg (hne _ (by decide)),
    if_neg (hne _ (by decide)), if_neg (hne _ (by decide)), if_neg (hne _ (by decide)),
    if_neg (hne _ (by decide)), if_neg (by omega)]

/-- A byte of a multi-byte sequence is above every character that is escaped. -/
theorem escapeByte_utf8EncodeChar (c : Char) :
    (String.utf8EncodeChar c).flatMap escapeByte = utf8 (escapeChar c) := by
  by_cases hascii : c.toNat < 128
  · have hbyte := escapeByte_ascii c.toNat hascii
    rw [Char.ofNat_toNat] at hbyte
    rw [utf8EncodeChar_ascii hascii, List.flatMap_singleton, hbyte]
  · have hhigh : 128 ≤ c.toNat := Nat.not_lt.mp hascii
    have hbytes : ∀ b ∈ String.utf8EncodeChar c, escapeByte b = [b] := fun b hb =>
      escapeByte_high (le_of_mem_utf8EncodeChar hhigh hb)
    rw [escapeChar_high hhigh, List.flatMap_congr hbytes, List.flatMap_singleton']
    simp [utf8]

/-- The text in quotes. -/
def tomlText (text : List Char) : List Char := '"' :: text.flatMap escapeChar ++ ['"']

theorem toTomlString_utf8 (text : List Char) : toTomlString (utf8 text) = utf8 (tomlText text) := by
  have hbody : (utf8 text).flatMap escapeByte = utf8 (text.flatMap escapeChar) := by
    induction text with
    | nil => rfl
    | cons c text ih =>
      rw [utf8_cons, List.flatMap_append, ih, escapeByte_utf8EncodeChar, List.flatMap_cons, utf8_append]
  rw [toTomlString, hbody, tomlText, utf8_append, utf8_cons]
  rfl

/-! ## Read back -/

theorem hexDigit_hexUpper : ∀ d < 16, Toml.hexDigit (hexUpper d) = some d := by
  decide

/-- A character comes back from its escape, U+007F apart. -/
theorem basicChars_escapeChar {c : Char} (h : c ≠ '\x7f') (rest : List Char) :
    Toml.basicChars .text (escapeChar c ++ rest) = (Toml.basicChars .text rest).map (Toml.push c) := by
  by_cases hshort : c = '"' ∨ c = '\\' ∨ c = '\x08' ∨ c = '\t' ∨ c = '\n' ∨ c = '\x0c' ∨ c = '\r'
  · rcases hshort with rfl | rfl | rfl | rfl | rfl | rfl | rfl <;>
      exact Toml.basicChars_escape rest (by decide) (by decide) rfl
  · simp only [not_or] at hshort
    obtain ⟨hquote, hback, hb, ht, hn, hf, hr⟩ := hshort
    rw [escapeChar, if_neg hquote, if_neg hback, if_neg hb, if_neg ht, if_neg hn, if_neg hf, if_neg hr]
    split
    · case _ hcontrol =>
      have hdigit : ∀ n, Toml.hexDigit (hexUpper (n % 16)) = some (n % 16) := fun n =>
        hexDigit_hexUpper _ (Nat.mod_lt _ (by decide))
      refine Toml.basicChars_unicode rest (hdigit _) (hdigit _) (hdigit _) (hdigit _) ?_
      omega
    · case _ hcontrol =>
      refine Toml.basicChars_plain rest ?_
      have hlow : 0x20 ≤ c.toNat := Nat.not_lt.mp hcontrol
      simp [Toml.isPlain, hlow, hquote, hback, h]

theorem basicChars_flatMap {text : List Char} (h : '\x7f' ∉ text) (rest : List Char) :
    Toml.basicChars .text (text.flatMap escapeChar ++ rest) =
      (Toml.basicChars .text rest).map fun p => (text ++ p.1, p.2) := by
  induction text with
  | nil => simp
  | cons c text ih =>
    have hc : c ≠ '\x7f' := fun hc => h (hc ▸ List.mem_cons_self)
    have htext : '\x7f' ∉ text := fun ht => h (List.mem_cons_of_mem _ ht)
    rw [List.flatMap_cons, List.append_assoc, basicChars_escapeChar hc, ih htext, Option.map_map]
    rfl

/-- The reader stops at the first U+007F. -/
theorem basicChars_of_del {text : List Char} (h : '\x7f' ∈ text) (rest : List Char) :
    Toml.basicChars .text (text.flatMap escapeChar ++ rest) = none := by
  induction text with
  | nil => cases h
  | cons c text ih =>
    rw [List.flatMap_cons, List.append_assoc]
    by_cases hc : c = '\x7f'
    · rw [hc]
      exact Toml.basicChars_del _
    · have htext : '\x7f' ∈ text := (List.mem_cons.mp h).resolve_left fun heq => hc heq.symm
      rw [basicChars_escapeChar hc, ih htext]
      rfl

/-- The text in quotes is a basic string with the text as its value. -/
theorem basicString_tomlText {text : List Char} (h : '\x7f' ∉ text) (rest : List Char) :
    Toml.basicString (tomlText text ++ rest) = some (text, rest) := by
  have hread := basicChars_flatMap h ('"' :: rest)
  rw [Toml.basicChars_quote, Option.map_some, List.append_nil] at hread
  rw [tomlText, List.append_assoc]
  exact hread

theorem readString_of_del {text : List Char} (h : '\x7f' ∈ text) :
    Toml.readString (toTomlString (utf8 text)) = none := by
  have hread : Toml.basicString (tomlText text) = none := basicChars_of_del h ['"']
  rw [Toml.readString, toTomlString_utf8, utf8Decode_utf8, Option.bind_some, hread]

/-- What `ToTomlString` writes for a UTF-8 text is a basic string with this value exactly if the
text is free of U+007F. -/
theorem toTomlString_iff (text : List Char) :
    Toml.readString (toTomlString (utf8 text)) = some text ↔ '\x7f' ∉ text := by
  constructor
  · intro h hmem
    rw [readString_of_del hmem] at h
    cases h
  · intro h
    have hread : Toml.basicString (tomlText text) = some (text, []) := by
      simpa using basicString_tomlText h []
    rw [Toml.readString, toTomlString_utf8, utf8Decode_utf8, Option.bind_some, hread]

/-- A window title with U+007F in it: the string that is written is none of TOML's. -/
theorem del_not_escaped :
    toTomlString (utf8 ['a', '\x7f']) = [0x22, 0x61, 0x7F, 0x22] ∧
      Toml.readString (toTomlString (utf8 ['a', '\x7f'])) = none :=
  ⟨by decide, readString_of_del (by decide)⟩

end Config
end CppOptimizer
