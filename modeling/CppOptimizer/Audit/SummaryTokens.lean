import CppOptimizer.Audit.Log
import CppOptimizer.Lib.Tokens
import Mathlib.Data.List.Forall2
import Mathlib.Data.List.TakeWhile

/-!
# CppOptimizer.Audit.SummaryTokens

`ParseAuditSummaryLine` as a reader of the tokens that stand after the marker.

* `fieldKeys`       — the keys of the four fields, in the order they are skipped in.
* `tokenCount key`  — the digits after the key in the first token that holds it.
* `tokensAfter`     — the tokens left once each key has been skipped in turn.
* `parse_iff`       — what the reader accepts, in these terms.
* `FieldTexts`      — four fields in their order, and what the reader makes of tokens around them.
* `summaryTokens`   — the tokens `FormatAuditSummaryLine` writes after the marker.

The number of a field is searched for in the whole line, its token is skipped in what the skipping of
the field before has left. The two agree on lines that begin with the four fields.
-/

namespace CppOptimizer
namespace Audit

open Common Lib

def fieldKeys : List Text := ["total=".toList, "ok=".toList, "fail=".toList, "unparsed=".toList]

def tokenCount (key : Text) (ts : List Text) : Option Nat :=
  (ts.find? (holds key)).bind fun t => extractCount t key

def tokensAfter (ts : List Text) : List Text := skipAll fieldKeys ts

/-- A range as it stands before the marker: nothing, or two timestamps. -/
inductive IsRange (range : Text) : Text → Text → Prop where
  | none : range = [] → IsRange range [] []
  | between {first last : Text} : cut "..".toList range = some (first, last) → first ≠ [] →
      last ≠ [] → IsRange range first last

/-- A token `<op>=<ok>/<fail>`. -/
structure OperationToken (token : Text) (entry : AuditOperationCount) : Prop where
  text : ∃ okText failText, token = entry.operationId ++ '=' :: (okText ++ '/' :: failText) ∧
    parseDigits okText = some entry.ok ∧ parseDigits failText = some entry.fail
  named : entry.operationId ≠ []
  plain : '=' ∉ entry.operationId

/-! ## The pieces of the reader -/

theorem parseRange_iff {range first last : Text} :
    parseRange range = some (first, last) ↔ IsRange range first last := by
  unfold parseRange
  by_cases hnil : range = []
  · rw [if_pos hnil]
    constructor
    · intro h
      cases h
      exact .none hnil
    · intro h
      cases h with
      | none _ => rfl
      | between hcut _ _ =>
        rw [hnil, cut_nil (by decide)] at hcut
        cases hcut
  · rw [if_neg hnil]
    constructor
    · intro h
      split at h
      · cases h
      · rename_i first' last' hcut
        split at h
        · cases h
        · rename_i hboth
          cases h
          rw [not_or] at hboth
          exact .between hcut hboth.1 hboth.2
    · intro h
      cases h with
      | none h => exact absurd h hnil
      | between hcut hfirst hlast =>
        rw [hcut]
        exact if_neg (not_or.mpr ⟨hfirst, hlast⟩)

theorem parseOperationCount_iff {token : Text} {entry : AuditOperationCount} :
    parseOperationCount token = some entry ↔ OperationToken token entry := by
  constructor
  · intro h
    unfold parseOperationCount at h
    split at h
    · cases h
    · rename_i operationId counts hequals
      split at h
      · cases h
      · rename_i hnamed
        split at h
        · cases h
        · rename_i okText failText hslash
          split at h
          · rename_i ok fail hok hfail
            cases h
            have hcounts := eq_append_of_cut hslash
            have htoken := eq_append_of_cut hequals
            refine ⟨⟨okText, failText, ?_, hok, hfail⟩, hnamed, not_mem_of_cut_singleton hequals⟩
            rw [htoken, hcounts]
            rfl
          · cases h
  · rintro ⟨⟨okText, failText, rfl, hok, hfail⟩, hnamed, hplain⟩
    have hequals : cut ['='] (entry.operationId ++ '=' :: (okText ++ '/' :: failText)) =
        some (entry.operationId, okText ++ '/' :: failText) := cut_of_head_not_mem hplain _
    have hdigits : '/' ∉ okText := by
      intro hmem
      exact absurd (isDigit_of_readDigits hok '/' hmem) (by decide)
    have hslash : cut ['/'] (okText ++ '/' :: failText) = some (okText, failText) :=
      cut_of_head_not_mem hdigits _
    simp only [parseOperationCount, hequals, if_neg hnamed, hslash, hok, hfail]

theorem takeWhile_append_blank (u v : Text) :
    (u ++ ' ' :: v).takeWhile Char.isDigit = u.takeWhile Char.isDigit := by
  induction u with
  | nil => rfl
  | cons c u ih =>
    cases hc : c.isDigit with
    | true => simp [hc, ih]
    | false => simp [hc]

section Keys

variable {key : Text}

theorem extractCount_of_not_holds {t : Text} (h : holds key t = false) : extractCount t key = none := by
  rw [holds, Option.isSome_eq_false_iff, Option.isNone_iff_eq_none] at h
  rw [extractCount, h]
  rfl

/-- The first token that holds the key has the number. -/
theorem extractCount_tokens (hne : key ≠ []) (hblank : ' ' ∉ key) (fields : Text) :
    extractCount fields key = tokenCount key (tokens ' ' fields) := by
  induction fields using tokens_induction (d := ' ') with
  | last u hu =>
    rcases tokens_cases hu with ⟨rfl, htokens⟩ | ⟨-, htokens⟩
    · rw [htokens, extractCount, cut_nil hne]
      rfl
    · rw [htokens, tokenCount, List.find?_singleton]
      cases hholds : holds key u with
      | true => simp
      | false => simp [extractCount_of_not_holds hholds]
  | more u v hu ih =>
    rw [tokens_append_cons]
    cases hcut : cut key u with
    | some p =>
      rw [tokens_of_not_mem hu (ne_nil_of_cut hne hcut), tokenCount, List.singleton_append,
        List.find?_cons_of_pos (holds_of_cut hcut), Option.bind_some, extractCount, extractCount,
        cut_append_cons hne hblank, hcut]
      simp only [Option.bind_some, takeWhile_append_blank]
    | none =>
      have hholds : holds key u = false := not_holds_of_cut hcut
      have hrest : extractCount (u ++ ' ' :: v) key = extractCount v key := by
        rw [extractCount, extractCount, cut_append_cons hne hblank, hcut]
        cases cut key v <;> rfl
      rw [hrest, ih]
      rcases tokens_cases hu with ⟨-, htokens⟩ | ⟨-, htokens⟩
      · rw [htokens, List.nil_append]
      · rw [htokens, tokenCount, tokenCount, List.singleton_append,
          List.find?_cons_of_neg (by simp [hholds])]

theorem tokens_skipField (hne : key ≠ []) (hblank : ' ' ∉ key) (fields : Text) :
    tokens ' ' (skipField fields key) = skipTo key (tokens ' ' fields) := by
  induction fields using tokens_induction (d := ' ') with
  | last u hu =>
    have hall : skipField u key = [] := by
      rw [skipField]
      cases hcut : cut key u with
      | none => rfl
      | some p => simp only [cut_eq_none (not_mem_of_cut hcut hu)]
    rw [hall]
    rcases tokens_cases hu with ⟨-, htokens⟩ | ⟨-, htokens⟩
    · rw [htokens]
      rfl
    · rw [htokens]
      cases hholds : holds key u with
      | true => rw [skipTo_cons_of_holds hholds, tokens_nil]
      | false => rw [skipTo_cons_of_not hholds, tokens_nil, skipTo_nil]
  | more u v hu ih =>
    rw [tokens_append_cons]
    cases hcut : cut key u with
    | some p =>
      have hnext : cut [' '] (p.2 ++ ' ' :: v) = some (p.2, v) :=
        cut_of_head_not_mem (not_mem_of_cut hcut hu) v
      have hskip : skipField (u ++ ' ' :: v) key = v := by
        rw [skipField, cut_append_cons hne hblank, hcut]
        simp only [hnext]
      rw [hskip, tokens_of_not_mem hu (ne_nil_of_cut hne hcut), List.singleton_append,
        skipTo_cons_of_holds (holds_of_cut hcut)]
    | none =>
      have hskip : skipField (u ++ ' ' :: v) key = skipField v key := by
        rw [skipField, skipField, cut_append_cons hne hblank, hcut]
        cases cut key v <;> rfl
      rw [hskip, ih]
      rcases tokens_cases hu with ⟨-, htokens⟩ | ⟨-, htokens⟩
      · rw [htokens, List.nil_append]
      · rw [htokens, List.singleton_append, skipTo_cons_of_not (not_holds_of_cut hcut)]

end Keys

/-! ## The reader on tokens -/

theorem fieldKey_plain {key : Text} (h : key ∈ fieldKeys) : key ≠ [] ∧ ' ' ∉ key := by
  have hall : ∀ key ∈ fieldKeys, key ≠ [] ∧ ' ' ∉ key := by decide
  exact hall key h

theorem tokens_afterFields (fields : Text) :
    tokens ' ' (afterFields fields) = tokensAfter (tokens ' ' fields) := by
  have hkeys : ∀ (keys : List Text) (text : Text), (∀ key ∈ keys, key ≠ [] ∧ ' ' ∉ key) →
      tokens ' ' (keys.foldl skipField text) =
        skipAll keys (tokens ' ' text) := by
    intro keys
    induction keys with
    | nil => exact fun _ _ => rfl
    | cons key keys ih =>
      intro text hplain
      obtain ⟨hne, hblank⟩ := hplain key List.mem_cons_self
      rw [List.foldl_cons, skipAll_cons,
        ih _ fun key hkey => hplain key (List.mem_cons_of_mem _ hkey), tokens_skipField hne hblank]
  exact hkeys fieldKeys fields fun key hkey => fieldKey_plain hkey

/-- The four numbers of a record, with their keys. -/
def recordCounts (record : AuditSummaryRecord) : List (Text × Nat) :=
  [("total=".toList, record.total), ("ok=".toList, record.ok), ("fail=".toList, record.fail),
    ("unparsed=".toList, record.unparsed)]

theorem parseOperationCounts_iff {text : Text} {entries : List AuditOperationCount} :
    parseOperationCounts text = some entries ↔
      List.Forall₂ OperationToken (tokens ' ' text) entries := by
  have hsame : (fun token entry => parseOperationCount token = some entry) = OperationToken := by
    funext token entry
    exact propext parseOperationCount_iff
  rw [← hsame]
  exact mapM_eq_some_iff

theorem extractCount_key {key : Text} (h : key ∈ fieldKeys) (fields : Text) :
    extractCount fields key = tokenCount key (tokens ' ' fields) :=
  extractCount_tokens (fieldKey_plain h).1 (fieldKey_plain h).2 fields

/-- What the reader accepts, and as what. -/
theorem parse_iff {line : Text} {record : AuditSummaryRecord} :
    parseAuditSummaryLine line = some record ↔
      ∃ range fields, cut summaryMarker line = some (range, fields) ∧
        IsRange range record.firstTimestamp record.lastTimestamp ∧
        (∀ p ∈ recordCounts record, tokenCount p.1 (tokens ' ' fields) = some p.2) ∧
        List.Forall₂ OperationToken (tokensAfter (tokens ' ' fields)) record.byOperation := by
  have htotal : "total=".toList ∈ fieldKeys := by decide
  have hok : "ok=".toList ∈ fieldKeys := by decide
  have hfail : "fail=".toList ∈ fieldKeys := by decide
  have hunparsed : "unparsed=".toList ∈ fieldKeys := by decide
  simp only [parseAuditSummaryLine, Option.bind_eq_bind, Option.bind_eq_some_iff, Prod.exists,
    Option.some.injEq, parseRange_iff, parseOperationCounts_iff, tokens_afterFields,
    extractCount_key htotal, extractCount_key hok, extractCount_key hfail,
    extractCount_key hunparsed]
  constructor
  · rintro ⟨range, fields, hcut, first, last, hrange, total, ht, ok, ho, fail, hf, unparsed, hu,
      byOperation, hops, rfl⟩
    refine ⟨range, fields, hcut, hrange, ?_, hops⟩
    simp only [recordCounts, List.forall_mem_cons]
    exact ⟨ht, ho, hf, hu, by simp⟩
  · rintro ⟨range, fields, hcut, hrange, hcounts, hops⟩
    simp only [recordCounts, List.forall_mem_cons] at hcounts
    obtain ⟨ht, ho, hf, hu, -⟩ := hcounts
    exact ⟨range, fields, hcut, _, _, hrange, _, ht, _, ho, _, hf, _, hu, _, hops, rfl⟩

/-! ## Four fields in their order -/

/-- The texts of the four numbers. -/
structure FieldTexts where
  total : Text
  ok : Text
  fail : Text
  unparsed : Text

namespace FieldTexts

def numbers (x : FieldTexts) : List (Text × Text) :=
  [("total=".toList, x.total), ("ok=".toList, x.ok), ("fail=".toList, x.fail),
    ("unparsed=".toList, x.unparsed)]

def fields (x : FieldTexts) : List (Text × Text) := x.numbers.map fun p => (p.1, p.1 ++ p.2)

/-- The fields as they stand in a line. -/
def row (x : FieldTexts) : List Text := x.fields.map Prod.snd

/-- Nothing but digits in the numbers. -/
def Digits (x : FieldTexts) : Prop := ∀ p ∈ x.numbers, ∀ c ∈ p.2, c.isDigit = true

variable {x : FieldTexts}

theorem keys_fields (x : FieldTexts) : x.fields.map Prod.fst = fieldKeys := rfl

theorem holds_own (x : FieldTexts) : ∀ p ∈ x.fields, holds p.1 p.2 = true := by
  intro p hp
  obtain ⟨q, _, rfl⟩ := List.mem_map.mp hp
  exact holds_append q.1 q.2

/-- A letter of the later key is neither in the earlier one nor among digits. -/
theorem Digits.not_holds (h : x.Digits) {own text key : Text} (hp : (own, text) ∈ x.numbers)
    (a : Char) (hkey : a ∈ key) (hown : a ∉ own) (ha : a.isDigit = false) :
    holds key (own ++ text) = false := by
  refine holds_eq_false hkey (List.not_mem_append hown fun hmem => ?_)
  rw [h _ hp a hmem] at ha
  cases ha

theorem Digits.not_holds_later (h : x.Digits) :
    x.fields.Pairwise fun p q => holds q.1 p.2 = false := by
  have htotal : ("total=".toList, x.total) ∈ x.numbers := by simp [numbers]
  have hok : ("ok=".toList, x.ok) ∈ x.numbers := by simp [numbers]
  have hfail : ("fail=".toList, x.fail) ∈ x.numbers := by simp [numbers]
  simp only [fields, numbers, List.map_cons, List.map_nil, List.pairwise_cons, List.forall_mem_cons]
  refine ⟨⟨?_, ?_, ?_, by simp⟩, ⟨?_, ?_, by simp⟩, ⟨?_, by simp⟩, by simp⟩
  · exact h.not_holds htotal 'k' (by decide) (by decide) (by decide)
  · exact h.not_holds htotal 'f' (by decide) (by decide) (by decide)
  · exact h.not_holds htotal 'u' (by decide) (by decide) (by decide)
  · exact h.not_holds hok 'f' (by decide) (by decide) (by decide)
  · exact h.not_holds hok 'u' (by decide) (by decide) (by decide)
  · exact h.not_holds hfail 'u' (by decide) (by decide) (by decide)

theorem extractCount_append {key text : Text} (h : ∀ c ∈ text, c.isDigit = true) :
    extractCount (key ++ text) key = parseDigits text := by
  have hall : text.takeWhile Char.isDigit = text := List.takeWhile_eq_self_iff.mpr h
  rw [extractCount, cut_append, Option.bind_some, hall]

theorem Digits.tokenCount (h : x.Digits) (js ops : List Text) {p : Text × Text}
    (hp : p ∈ x.numbers) :
    tokenCount p.1 (js ++ (x.row ++ ops)) =
      if js.any (holds p.1) then Audit.tokenCount p.1 js else parseDigits p.2 := by
  have hfield : (p.1, p.1 ++ p.2) ∈ x.fields := List.mem_map_of_mem hp
  have hfind := find?_fields x.holds_own h.not_holds_later ops hfield
  rw [Audit.tokenCount, Audit.tokenCount, List.find?_append, row, hfind]
  cases hjs : js.find? (holds p.1) with
  | some t =>
    have hany : js.any (holds p.1) = true :=
      List.any_eq_true.mpr ⟨t, List.mem_of_find?_eq_some hjs, List.find?_some hjs⟩
    rw [if_pos hany]
    rfl
  | none =>
    have hnot : js.any (holds p.1) = false := by
      simpa using hjs
    rw [if_neg (by simp [hnot]), Option.none_or, Option.bind_some]
    exact extractCount_append (h p hp)

theorem Digits.tokensAfter (h : x.Digits) (js ops : List Text) :
    tokensAfter (js ++ (x.row ++ ops)) =
      if inOrder fieldKeys js then Audit.tokensAfter js ++ (x.row ++ ops) else ops := by
  have hfields := skipAll_append_fields x.holds_own h.not_holds_later js ops
  rwa [keys_fields] at hfields

end FieldTexts

/-! ## The tokens that are written -/

theorem operationToken_format {entry : AuditOperationCount} (h : TokenOperation entry.operationId)
    (hok : WithinLimit entry.ok) (hfail : WithinLimit entry.fail) :
    OperationToken (formatOperationCount entry) entry :=
  ⟨⟨_, _, rfl, parseDigits_decimal hok, parseDigits_decimal hfail⟩, h.1, h.2.2⟩

theorem tokens_operationCounts {entries : List AuditOperationCount}
    (h : ∀ entry ∈ entries, ' ' ∉ entry.operationId) (text : Text) :
    tokens ' ' (text ++ formatOperationCounts entries) =
      tokens ' ' text ++ entries.map formatOperationCount := by
  induction entries generalizing text with
  | nil => simp [formatOperationCounts]
  | cons entry entries ih =>
    have hblank : ' ' ∉ formatOperationCount entry :=
      blank_not_mem_formatOperationCount (h entry List.mem_cons_self)
    have hne : formatOperationCount entry ≠ [] := by simp [formatOperationCount]
    have hcons : formatOperationCounts (entry :: entries) =
        ' ' :: (formatOperationCount entry ++ formatOperationCounts entries) := rfl
    rw [hcons, tokens_append_cons, ih fun e he => h e (List.mem_cons_of_mem _ he),
      tokens_of_not_mem hblank hne]
    rfl

/-- The numbers of a summary as they are written. -/
def summaryTexts (summary : AuditLineSummary) : FieldTexts :=
  { total := decimal summary.total
    ok := decimal summary.ok
    fail := decimal summary.fail
    unparsed := decimal summary.unparsed }

theorem digits_summaryTexts (summary : AuditLineSummary) : (summaryTexts summary).Digits := by
  simp only [FieldTexts.Digits, FieldTexts.numbers, summaryTexts, List.forall_mem_cons]
  exact ⟨fun c => isDigit_of_mem_decimal, fun c => isDigit_of_mem_decimal,
    fun c => isDigit_of_mem_decimal, fun c => isDigit_of_mem_decimal, by simp⟩

theorem tokens_field {key : Text} (hkey : ' ' ∉ key) (hne : key ≠ []) (n : Nat) :
    tokens ' ' (key ++ decimal n) = [key ++ decimal n] :=
  tokens_of_not_mem (List.not_mem_append hkey (not_mem_decimal (by decide))) (by simp [hne])

theorem tokens_countField {key : Text} (hkey : ' ' ∉ key) (hne : key ≠ []) (n : Nat)
    (rest : Text) :
    tokens ' ' (countField key n ++ rest) = (key ++ decimal n) :: tokens ' ' rest := by
  have hfield : countField key n ++ rest = (key ++ decimal n) ++ ' ' :: rest := by simp [countField]
  rw [hfield, tokens_append_cons, tokens_field hkey hne]
  rfl

def summaryTokens (summary : AuditLineSummary) : List Text :=
  (summaryTexts summary).row ++ summary.byOperation.map formatOperationCount

theorem tokens_formatCounts {summary : AuditLineSummary}
    (h : ∀ entry ∈ summary.byOperation, ' ' ∉ entry.operationId) :
    tokens ' ' (formatCounts summary) = summaryTokens summary := by
  rw [formatCounts, tokens_countField (by decide) (by decide),
    tokens_countField (by decide) (by decide), tokens_countField (by decide) (by decide),
    ← List.append_assoc, tokens_operationCounts h, tokens_field (by decide) (by decide)]
  rfl

end Audit
end CppOptimizer
