import Mathlib.Data.List.Infix
import CppOptimizer.Lib.Strings

/-!
# Lib.Toml

TOML 1.0 as far as documents of single-line expressions need it: UTF-8, basic strings, values,
arrays of tables.

* `utf8`, `utf8Decode` — a document is a UTF-8 text.
* `basicString`        — the grammar and the value of a basic string.
* `readTables`         — the tables of an array, written one line for each key.
* `Access`, `Reader`   — what is asked of a TOML library: typed readers of nodes, and documents that
  go on with more tables of an array.
-/

namespace Lib

/-! ## UTF-8 -/

def utf8 (text : List Char) : List UInt8 := text.flatMap String.utf8EncodeChar

def utf8Decode (bytes : List UInt8) : Option (List Char) :=
  bytes.toByteArray.utf8Decode?.map Array.toList

@[simp] theorem utf8_nil : utf8 [] = [] := rfl

theorem utf8_cons (c : Char) (text : List Char) :
    utf8 (c :: text) = String.utf8EncodeChar c ++ utf8 text := List.flatMap_cons

theorem utf8_append (text more : List Char) : utf8 (text ++ more) = utf8 text ++ utf8 more :=
  List.flatMap_append

theorem utf8Decode_utf8 (text : List Char) : utf8Decode (utf8 text) = some text := by
  have h : (utf8 text).toByteArray = text.utf8Encode := rfl
  rw [utf8Decode, h, List.utf8Decode?_utf8Encode]
  simp

/-- An ASCII character is its own byte. -/
theorem utf8EncodeChar_ascii {c : Char} (h : c.toNat < 128) :
    String.utf8EncodeChar c = [c.toNat.toUInt8] := by
  have hle : c.val.toNat ≤ 0x7f := Nat.le_of_lt_succ h
  rw [String.utf8EncodeChar]
  simp only [hle, if_true]
  rfl

/-- Every other one is made of bytes from 0x80 on. -/
theorem le_of_mem_utf8EncodeChar {c : Char} (h : 128 ≤ c.toNat) {b : UInt8}
    (hb : b ∈ String.utf8EncodeChar c) : 128 ≤ b.toNat := by
  have hgt : ¬ c.val.toNat ≤ 0x7f := by
    have : c.val.toNat = c.toNat := rfl
    omega
  rw [String.utf8EncodeChar] at hb
  simp only [hgt, if_false] at hb
  split at hb
  · simp at hb
    rcases hb with rfl | rfl <;> simp <;> omega
  · split at hb
    · simp at hb
      rcases hb with rfl | rfl | rfl <;> simp <;> omega
    · simp at hb
      rcases hb with rfl | rfl | rfl | rfl <;> simp <;> omega

theorem utf8_eq_nil_iff {text : List Char} : utf8 text = [] ↔ text = [] := by
  rcases text with _ | ⟨c, text⟩
  · simp
  · rw [utf8_cons]
    simp [String.utf8EncodeChar_ne_nil]

/-- No byte of a longer sequence is a line feed. -/
theorem getLast?_utf8 (text : List Char) :
    (utf8 text).getLast? = some 0x0A ↔ text.getLast? = some '\n' := by
  rcases List.eq_nil_or_concat text with rfl | ⟨before, c, rfl⟩
  · simp
  · rw [List.concat_eq_append, List.getLast?_append, List.getLast?_singleton, Option.some_or,
      utf8_append, List.getLast?_append_of_ne_nil _ (by simp [utf8])]
    have hone : utf8 [c] = String.utf8EncodeChar c := by simp [utf8]
    rw [hone]
    constructor
    · intro h
      by_cases hascii : c.toNat < 128
      · rw [utf8EncodeChar_ascii hascii, List.getLast?_singleton] at h
        have hvalue : c.toNat % 256 = 10 := congrArg UInt8.toNat (Option.some.inj h)
        have hten : c.toNat = '\n'.toNat := by
          rw [Nat.mod_eq_of_lt (by omega)] at hvalue
          exact hvalue
        exact congrArg some (Char.toNat_inj.mp hten)
      · have hbyte := le_of_mem_utf8EncodeChar (Nat.not_lt.mp hascii) (List.mem_of_getLast? h)
        exact absurd hbyte (by decide)
    · intro h
      cases h
      rfl

namespace Toml

/-! ## Basic strings -/

/-- `basic-unescaped`: a tab, or anything that is no control character, quote or backslash. -/
def isPlain (c : Char) : Bool :=
  c = '\t' || (0x20 ≤ c.toNat && c ≠ '"' && c ≠ '\\' && c ≠ '\x7f')

/-- The escapes of one character. -/
def escaped : Char → Option Char
  | 'b' => some '\x08'
  | 't' => some '\t'
  | 'n' => some '\n'
  | 'f' => some '\x0c'
  | 'r' => some '\r'
  | '"' => some '"'
  | '\\' => some '\\'
  | _ => none

def hexDigit (c : Char) : Option Nat :=
  if c.isDigit then some (c.toNat - '0'.toNat)
  else if 'A' ≤ c ∧ c ≤ 'F' then some (c.toNat - 'A'.toNat + 10)
  else if 'a' ≤ c ∧ c ≤ 'f' then some (c.toNat - 'a'.toNat + 10)
  else none

/-- Where the reader of a basic string stands: between characters, behind a backslash, or before
the last `left + 1` digits of a code point. -/
inductive Mode where
  | text
  | escape
  | hex (left value : Nat)

def push (c : Char) (p : List Char × List Char) : List Char × List Char := (c :: p.1, p.2)

/-- The characters of a basic string up to its closing quote, and what follows. -/
def basicChars : Mode → List Char → Option (List Char × List Char)
  | _, [] => none
  | .text, c :: rest =>
    if c = '"' then some ([], rest)
    else if c = '\\' then basicChars .escape rest
    else if isPlain c then (basicChars .text rest).map (push c)
    else none
  | .escape, c :: rest =>
    if c = 'u' then basicChars (.hex 3 0) rest
    else if c = 'U' then basicChars (.hex 7 0) rest
    else
      match escaped c with
      | some d => (basicChars .text rest).map (push d)
      | none => none
  | .hex left value, c :: rest =>
    match hexDigit c, left with
    | none, _ => none
    | some d, left + 1 => basicChars (.hex left (16 * value + d)) rest
    | some d, 0 =>
      -- surrogates are no characters
      if (16 * value + d).isValidChar then
        (basicChars .text rest).map (push (Char.ofNat (16 * value + d)))
      else none

/-- A basic string, and what follows. -/
def basicString : List Char → Option (List Char × List Char)
  | '"' :: rest => basicChars .text rest
  | _ => none

/-- The value of a document that is a basic string and nothing else. -/
def readString (bytes : List UInt8) : Option (List Char) :=
  (utf8Decode bytes).bind fun text =>
    match basicString text with
    | some (value, []) => some value
    | _ => none

section BasicString

variable {c d : Char} (rest : List Char)

@[simp] theorem basicChars_quote : basicChars .text ('"' :: rest) = some ([], rest) := rfl

@[simp] theorem basicChars_del : basicChars .text ('\x7f' :: rest) = none := rfl

theorem basicChars_plain (h : isPlain c = true) :
    basicChars .text (c :: rest) = (basicChars .text rest).map (push c) := by
  have hquote : c ≠ '"' := by
    rintro rfl
    exact absurd h (by decide)
  have hback : c ≠ '\\' := by
    rintro rfl
    exact absurd h (by decide)
  rw [basicChars, if_neg hquote, if_neg hback, if_pos h]

theorem basicChars_escape (hu : c ≠ 'u') (hU : c ≠ 'U') (h : escaped c = some d) :
    basicChars .text ('\\' :: c :: rest) = (basicChars .text rest).map (push d) := by
  rw [basicChars, if_neg (by decide), if_pos rfl, basicChars, if_neg hu, if_neg hU, h]

/-- Four hexadecimal digits name a character. -/
theorem basicChars_unicode {a₁ a₂ a₃ a₄ : Char} {d₁ d₂ d₃ d₄ : Nat} (h₁ : hexDigit a₁ = some d₁)
    (h₂ : hexDigit a₂ = some d₂) (h₃ : hexDigit a₃ = some d₃) (h₄ : hexDigit a₄ = some d₄)
    (hc : 16 * (16 * (16 * d₁ + d₂) + d₃) + d₄ = c.toNat) :
    basicChars .text ('\\' :: 'u' :: a₁ :: a₂ :: a₃ :: a₄ :: rest) =
      (basicChars .text rest).map (push c) := by
  have hvalid : c.toNat.isValidChar := c.valid
  rw [basicChars, if_neg (by decide), if_pos rfl, basicChars, if_pos rfl]
  simp only [basicChars, h₁, h₂, h₃, h₄, Nat.mul_zero, Nat.zero_add, hc, if_pos hvalid,
    Char.ofNat_toNat]

end BasicString

/-! ## Values and tables -/

/-- A node of a document. An array that headers `[[..]]` build is told from one that is written out:
only the former may be continued. -/
inductive Value where
  | string (text : List Char)
  | integer (n : Int)
  | boolean (b : Bool)
  | array (items : List Value)
  | tables (items : List (List (List Char × Value)))
  | table (entries : List (List Char × Value))
  | other

abbrev Table := List (List Char × Value)

def Table.get (t : Table) (key : List Char) : Option Value := t.lookup key

/-- The tables that headers have built so far, where they may build on. -/
def Table.headed (t : Table) (name : List Char) : Option (List Table) :=
  match t.get name with
  | none => some []
  | some (.tables items) => some items
  | _ => none

def Value.asArray : Value → Option (List Value)
  | .array items => some items
  | .tables items => some (items.map .table)
  | _ => none

def Value.asTable : Value → Option Table
  | .table entries => some entries
  | _ => none

/-- The typed readers of a TOML library. What they make of a node of another type is their own
affair: some libraries read a boolean as a number. -/
structure Access where
  string : Value → Option (List Char)
  boolean : Value → Option Bool
  integer : Value → Option Int
  string_string : ∀ text, string (.string text) = some text
  boolean_boolean : ∀ b, boolean (.boolean b) = some b
  integer_integer : ∀ n, integer (.integer n) = some n

/-- The readers that convert nothing. -/
def strictAccess : Access where
  string
    | .string text => some text
    | _ => none
  boolean
    | .boolean b => some b
    | _ => none
  integer
    | .integer n => some n
    | _ => none
  string_string _ := rfl
  boolean_boolean _ := rfl
  integer_integer _ := rfl

/-! ## Lines of an array of tables -/

/-- Strings with a comma and a blank between them, up to the closing bracket. -/
def stringItems : Nat → List Char → Option (List Value)
  | 0, _ => none
  | fuel + 1, text =>
    match basicString text with
    | some (item, [']']) => some [.string item]
    | some (item, ',' :: ' ' :: rest) => (stringItems fuel rest).map (.string item :: ·)
    | _ => none

def value (text : List Char) : Option Value :=
  if text = "true".toList then some (.boolean true)
  else if text = "false".toList then some (.boolean false)
  else
    match text with
    | '"' :: _ =>
      match basicString text with
      | some (item, []) => some (.string item)
      | _ => none
    | '[' :: rest => (stringItems rest.length rest).map .array
    | _ => none

def isBareKey (key : List Char) : Bool :=
  key ≠ [] && key.all fun c => c.isAlphanum || c = '_' || c = '-'

def isCommentChar (c : Char) : Bool := c = '\t' || (0x20 ≤ c.toNat && c ≠ '\x7f')

/-- A key is given once. -/
def addEntry (key : List Char) (v : Value) (tables : List Table) : Option (List Table) :=
  match tables.getLast? with
  | some t => if t.get key = none then some (tables.dropLast ++ [t ++ [(key, v)]]) else none
  | none => none

/-- One line behind the tables read so far. -/
def readLine (name : List Char) (tables : List Table) : List Char → Option (List Table)
  | [] => some tables
  | '#' :: comment => if comment.all isCommentChar then some tables else none
  | '[' :: header => if header = '[' :: name ++ "]]".toList then some (tables ++ [[]]) else none
  | line =>
    match cut " = ".toList line with
    | some (key, text) =>
      match value text with
      | some v => if isBareKey key then addEntry key v tables else none
      | none => none
    | none => none

/-- The tables of the array `name` in a text of such lines. -/
def readTables (name text : List Char) : Option (List Table) :=
  (lines text).foldlM (readLine name) []

/-! ## Documents -/

/-- A text that another line may follow. -/
def EndsLine (text : List Char) : Prop := text = [] ∨ text.getLast? = some '\n'

/-- A reader of documents, with what TOML 1.0 says of a document that goes on with lines for the
array of tables `name`. -/
structure Reader (name : List Char) where
  parse : List Char → Option Table
  parse_nil : parse [] = some []
  parse_newline : ∀ text t, parse text = some t → parse (text ++ ['\n']) = some t
  parse_append : ∀ text t old block new, parse text = some t → EndsLine text →
    t.headed name = some old → readTables name block = some new →
    ∃ t', parse (text ++ block) = some t' ∧ t'.headed name = some (old ++ new) ∧
      ∀ key, key ≠ name → t'.get key = t.get key

section Lines

variable {name : List Char} {tables : List Table}

theorem readLine_comment {comment : List Char} (h : comment.all isCommentChar = true) :
    readLine name tables ('#' :: comment) = some tables := by
  rw [readLine, if_pos h]

theorem readLine_header :
    readLine name tables ("[[".toList ++ name ++ "]]".toList) = some (tables ++ [[]]) := by
  show readLine name tables ('[' :: ('[' :: name ++ "]]".toList)) = _
  rw [readLine, if_pos rfl]

theorem addEntry_concat {key : List Char} {v : Value} {t : Table} (h : t.get key = none) :
    addEntry key v (tables ++ [t]) = some (tables ++ [t ++ [(key, v)]]) := by
  simp [addEntry, h]

/-- A key with a value goes to the last table. -/
theorem readLine_entry {key text : List Char} {v : Value} {t : Table} (hkey : isBareKey key = true)
    (hvalue : value text = some v) (hnew : t.get key = none) :
    readLine name (tables ++ [t]) (key ++ (" = ".toList ++ text)) =
      some (tables ++ [t ++ [(key, v)]]) := by
  obtain ⟨c, cs, rfl⟩ : ∃ c cs, key = c :: cs := by
    rcases key with _ | ⟨c, cs⟩
    · cases hkey
    · exact ⟨c, cs, rfl⟩
  have hchars : ∀ d ∈ c :: cs, (d.isAlphanum || d = '_' || d = '-') = true := by
    simp only [isBareKey, Bool.and_eq_true, List.all_eq_true] at hkey
    exact hkey.2
  have hblank : ' ' ∉ c :: cs := fun hmem => absurd (hchars _ hmem) (by decide)
  have hcut : cut " = ".toList (c :: cs ++ (" = ".toList ++ text)) = some (c :: cs, text) :=
    cut_of_head_not_mem hblank text
  rw [List.cons_append] at hcut ⊢
  unfold readLine
  split
  · case _ heq => cases heq
  · case _ heq =>
    cases heq
    exact absurd (hchars '#' List.mem_cons_self) (by decide)
  · case _ heq =>
    cases heq
    exact absurd (hchars '[' List.mem_cons_self) (by decide)
  · simp only [hcut, hvalue, hkey, if_true]
    exact addEntry_concat hnew

theorem addEntry_append {key : List Char} {v : Value} {tables' : List Table} (old : List Table)
    (h : addEntry key v tables = some tables') :
    addEntry key v (old ++ tables) = some (old ++ tables') := by
  rcases List.eq_nil_or_concat tables with rfl | ⟨before, t, rfl⟩
  · cases h
  · rw [List.concat_eq_append] at h ⊢
    by_cases hnew : t.get key = none
    · rw [addEntry_concat hnew] at h
      cases h
      rw [← List.append_assoc, addEntry_concat hnew, List.append_assoc]
    · simp [addEntry, hnew] at h

/-- What stands before the block does not matter to it. -/
theorem readLine_append {tables' : List Table} {line : List Char} (old : List Table)
    (h : readLine name tables line = some tables') :
    readLine name (old ++ tables) line = some (old ++ tables') := by
  unfold readLine at h ⊢
  split
  · cases h
    rfl
  · simp only at h
    split at h
    · case _ hcomment =>
      cases h
      rw [if_pos hcomment]
    · cases h
  · simp only at h
    split at h
    · case _ hheader =>
      cases h
      rw [if_pos hheader, List.append_assoc]
    · cases h
  · case _ hempty hcomment hheader =>
    split at h
    · exact absurd rfl hempty
    · exact absurd rfl (hcomment _)
    · exact absurd rfl (hheader _)
    · split at h
      · split at h
        · split at h
          · case _ hkey =>
            rw [if_pos hkey]
            exact addEntry_append old h
          · cases h
        · cases h
      · cases h

/-- A block is read behind other tables as it is read alone. -/
theorem foldlM_readLine_append {ls : List (List Char)} {tables' : List Table} (old : List Table)
    (h : ls.foldlM (readLine name) tables = some tables') :
    ls.foldlM (readLine name) (old ++ tables) = some (old ++ tables') := by
  induction ls generalizing tables with
  | nil =>
    cases h
    rfl
  | cons line ls ih =>
    rw [List.foldlM_cons, Option.bind_eq_bind, Option.bind_eq_some_iff] at h
    obtain ⟨next, hline, hrest⟩ := h
    rw [List.foldlM_cons, readLine_append old hline]
    exact ih hrest

end Lines

/-- The document that has the array `name` and nothing else. -/
def soleArray (name : List Char) : List Table → Table
  | [] => []
  | items => [(name, .tables items)]

theorem headed_soleArray (name : List Char) (items : List Table) :
    (soleArray name items).headed name = some items := by
  cases items <;> simp [soleArray, Table.headed, Table.get]

theorem get_soleArray {name key : List Char} (h : key ≠ name) (items : List Table) :
    (soleArray name items).get key = none := by
  have hbeq : (key == name) = false := beq_eq_false_iff_ne.mpr h
  cases items <;> simp [soleArray, Table.get, List.lookup_cons, hbeq]

theorem readTables_newline {name text : List Char} {items : List Table}
    (h : readTables name text = some items) : readTables name (text ++ ['\n']) = some items := by
  rw [readTables] at h ⊢
  by_cases hnil : text = []
  · subst hnil
    exact h
  · by_cases hend : text.getLast? = some '\n'
    · rw [lines_append_of_getLast? hend, List.foldlM_append, h]
      rfl
    · rw [lines_concat_newline hnil hend]
      exact h

theorem readTables_append {name text block : List Char} {old new : List Table}
    (h : readTables name text = some old) (hend : EndsLine text)
    (hblock : readTables name block = some new) :
    readTables name (text ++ block) = some (old ++ new) := by
  have hlines : lines (text ++ block) = lines text ++ lines block := by
    rcases hend with rfl | hend
    · rfl
    · exact lines_append_of_getLast? hend block
  rw [readTables] at h hblock
  have hbehind := foldlM_readLine_append old hblock
  rw [List.append_nil] at hbehind
  rw [readTables, hlines, List.foldlM_append, h]
  exact hbehind

/-- The reader of such documents. -/
def linesReader (name : List Char) : Reader name where
  parse text := (readTables name text).map (soleArray name)
  parse_nil := rfl
  parse_newline := by
    intro text t h
    obtain ⟨items, hitems, rfl⟩ := Option.map_eq_some_iff.mp h
    rw [readTables_newline hitems]
    rfl
  parse_append := by
    intro text t old block new h hend hold hblock
    obtain ⟨items, hitems, rfl⟩ := Option.map_eq_some_iff.mp h
    rw [headed_soleArray] at hold
    cases hold
    refine ⟨soleArray name (old ++ new), ?_, headed_soleArray name _, ?_⟩
    · rw [readTables_append hitems hend hblock]
      rfl
    · intro key hkey
      rw [get_soleArray hkey, get_soleArray hkey]

end Toml

end Lib
