import CppOptimizer.Ipc.Facts

/-!
# CppOptimizer.Ipc.FactsCodec

The writer of a facts snapshot (`SerializeFactsV1`) and the language both sides accept.

* `serializeFactsV1` — checks the facts as the reader does, then writes envelope and lines.
* `WellFormed`       — the contract on a list of facts, in the words of the header.
* `FactsPayload`     — the contract on the bytes.
* `facts_codec_exact` — the writer and the reader are inverse to each other, and the reader accepts
  exactly the payloads of the contract.

Reader and writer check independently. They meet at `WellFormed`: the writer accepts the lists that
meet it, the reader returns such lists only.
-/

namespace CppOptimizer
namespace Ipc

open Common

/-! ## The writer -/

/-- The loop of `ValidateFacts`; `seen` are the facts before the current one. -/
def validateFactsFrom (seen : List IpcFact) : List IpcFact → Option String
  | [] => none
  | fact :: facts =>
    match validateKey fact.key with
    | some message => some message
    | none =>
      match validateValue fact.value with
      | some message => some message
      | none =>
        if seen.any (·.key = fact.key) then some ("重复键 " ++ widen fact.key)
        else validateFactsFrom (seen ++ [fact]) facts

def validateFacts (facts : List IpcFact) : Option String :=
  if facts.length > kMaxFactsEntries then some "事实条数超过上限" else validateFactsFrom [] facts

/-- The line of a fact. -/
def IpcFact.line (fact : IpcFact) : Bytes := fact.key ++ 0x3D :: fact.value

def serializeFactsV1 (facts : List IpcFact) : Result Bytes :=
  match validateFacts facts with
  | some message => .error (factsValidationError message)
  | none => .ok (kFactsEnvelopeV1 ++ facts.flatMap fun fact => 0x0A :: fact.line)

/-! ## The contract -/

/-- 1 to 64 letters, digits, `_` and `-`. -/
structure PlainKey (key : Bytes) : Prop where
  nonempty : key ≠ []
  short : key.length ≤ 64
  chars : ∀ c ∈ key, (0x61 ≤ c ∧ c ≤ 0x7A) ∨ (0x41 ≤ c ∧ c ≤ 0x5A) ∨ (0x30 ≤ c ∧ c ≤ 0x39) ∨
    c = 0x5F ∨ c = 0x2D

/-- At most 128 bytes and no control byte. -/
structure PlainValue (value : Bytes) : Prop where
  short : value.length ≤ 128
  chars : ∀ c ∈ value, 0x20 ≤ c ∧ c ≠ 0x7F

structure WellFormed (facts : List IpcFact) : Prop where
  few : facts.length ≤ 64
  keys : ∀ fact ∈ facts, PlainKey fact.key
  values : ∀ fact ∈ facts, PlainValue fact.value
  distinct : (facts.map (·.key)).Nodup

/-- The bytes of a snapshot: the envelope line and the lines of well-formed facts, separated by LF;
there is no CR, no empty line and no newline at the end. -/
structure FactsPayload (payload : Bytes) : Prop where
  lines : ∃ facts, WellFormed facts ∧
    payload = [0x0A].intercalate (ascii "CPOPFACTS/1" :: facts.map IpcFact.line)
  noCr : 0x0D ∉ payload
  noEmptyLine : [] ∉ payload.splitOn 0x0A
  noTrailingNewline : payload.getLast? ≠ some 0x0A

theorem hasControlByte_eq_false {text : Bytes} :
    hasControlByte text = false ↔ ∀ c ∈ text, 0x20 ≤ c ∧ c ≠ 0x7F := by
  simp [hasControlByte, List.any_eq_false, UInt8.not_lt]

theorem isAsciiKeyChar_iff {c : UInt8} :
    isAsciiKeyChar c = true ↔ (0x61 ≤ c ∧ c ≤ 0x7A) ∨ (0x41 ≤ c ∧ c ≤ 0x5A) ∨
      (0x30 ≤ c ∧ c ≤ 0x39) ∨ c = 0x5F ∨ c = 0x2D := by
  simp only [isAsciiKeyChar, isAsciiAlnum, isDigit, Bool.or_eq_true, Bool.and_eq_true,
    decide_eq_true_eq, beq_iff_eq, or_assoc]

/-- The bytes of a key are neither control bytes nor the separators of a line. -/
theorem PlainKey.not_mem {key : Bytes} (h : PlainKey key) {c : UInt8} (hc : c < 0x2D ∨ c = 0x3D) :
    c ∉ key := by
  intro hmem
  have hchars := h.chars c hmem
  simp only [UInt8.le_iff_toNat_le, UInt8.lt_iff_toNat_lt, UInt8.reduceToNat,
    ← UInt8.toNat_inj] at hchars hc
  omega

theorem PlainKey.noControl {key : Bytes} (h : PlainKey key) : hasControlByte key = false := by
  rw [hasControlByte_eq_false]
  intro c hmem
  have hchars := h.chars c hmem
  simp only [UInt8.le_iff_toNat_le, UInt8.reduceToNat, ← UInt8.toNat_inj, ne_eq] at hchars ⊢
  omega

theorem validateKey_eq_none {key : Bytes} : validateKey key = none ↔ PlainKey key := by
  unfold validateKey
  constructor
  · intro h
    split at h
    · cases h
    · rename_i hne
      split at h
      · cases h
      · rename_i hshort
        split at h
        · cases h
        · split at h
          · rename_i hchars
            refine ⟨hne, Nat.not_lt.mp hshort, ?_⟩
            intro c hc
            exact isAsciiKeyChar_iff.mp (List.all_eq_true.mp hchars c hc)
          · cases h
  · intro h
    have hchars : key.all isAsciiKeyChar = true :=
      List.all_eq_true.mpr fun c hc => isAsciiKeyChar_iff.mpr (h.chars c hc)
    have hshort : ¬ key.length > kMaxFactsKeyBytes := Nat.not_lt.mpr h.short
    rw [if_neg h.nonempty, if_neg hshort, h.noControl, if_pos hchars]
    rfl

theorem validateValue_eq_none {value : Bytes} : validateValue value = none ↔ PlainValue value := by
  unfold validateValue
  constructor
  · intro h
    split at h
    · cases h
    · rename_i hshort
      split at h
      · cases h
      · rename_i hcontrol
        rw [Bool.not_eq_true] at hcontrol
        exact ⟨Nat.not_lt.mp hshort, hasControlByte_eq_false.mp hcontrol⟩
  · intro h
    have hshort : ¬ value.length > kMaxFactsValueBytes := Nat.not_lt.mpr h.short
    rw [if_neg hshort, hasControlByte_eq_false.mpr h.chars]
    rfl

/-! ## What the writer accepts -/

/-- What both loops check of the facts that follow `seen`. -/
structure Follows (seen facts : List IpcFact) : Prop where
  keys : ∀ fact ∈ facts, PlainKey fact.key
  values : ∀ fact ∈ facts, PlainValue fact.value
  distinct : (facts.map (·.key)).Nodup
  fresh : ∀ fact ∈ facts, ∀ other ∈ seen, other.key ≠ fact.key

theorem follows_nil (seen : List IpcFact) : Follows seen [] :=
  ⟨by simp, by simp, by simp, by simp⟩

theorem follows_cons {seen facts : List IpcFact} {fact : IpcFact} :
    Follows seen (fact :: facts) ↔
      PlainKey fact.key ∧ PlainValue fact.value ∧ seen.any (·.key = fact.key) = false ∧
        Follows (seen ++ [fact]) facts := by
  constructor
  · intro h
    have hdistinct := h.distinct
    rw [List.map_cons, List.nodup_cons] at hdistinct
    refine ⟨h.keys fact List.mem_cons_self, h.values fact List.mem_cons_self, ?_, ?_, ?_, ?_, ?_⟩
    · simpa using h.fresh fact List.mem_cons_self
    · exact fun f hf => h.keys f (List.mem_cons_of_mem _ hf)
    · exact fun f hf => h.values f (List.mem_cons_of_mem _ hf)
    · exact hdistinct.2
    · intro f hf other hother
      rcases List.mem_append.mp hother with hother | hother
      · exact h.fresh f (List.mem_cons_of_mem _ hf) other hother
      · rw [List.mem_singleton.mp hother]
        intro heq
        exact hdistinct.1 (heq ▸ List.mem_map_of_mem hf)
  · rintro ⟨hkey, hvalue, hseen, h⟩
    refine ⟨?_, ?_, ?_, ?_⟩
    · intro f hf
      rcases List.mem_cons.mp hf with rfl | hf
      · exact hkey
      · exact h.keys f hf
    · intro f hf
      rcases List.mem_cons.mp hf with rfl | hf
      · exact hvalue
      · exact h.values f hf
    · rw [List.map_cons, List.nodup_cons]
      refine ⟨?_, h.distinct⟩
      intro hmem
      obtain ⟨f, hf, heq⟩ := List.mem_map.mp hmem
      exact h.fresh f hf fact (List.mem_append_right _ List.mem_cons_self) heq.symm
    · intro f hf other hother
      rcases List.mem_cons.mp hf with rfl | hf
      · have hnone : ∀ other ∈ seen, other.key ≠ f.key := by simpa using hseen
        exact hnone other hother
      · exact h.fresh f hf other (List.mem_append_left _ hother)

theorem wellFormed_iff {facts : List IpcFact} :
    WellFormed facts ↔ facts.length ≤ 64 ∧ Follows [] facts := by
  constructor
  · intro h
    exact ⟨h.few, h.keys, h.values, h.distinct, by simp⟩
  · rintro ⟨hfew, h⟩
    exact ⟨hfew, h.keys, h.values, h.distinct⟩

theorem validateFactsFrom_eq_none {seen facts : List IpcFact} :
    validateFactsFrom seen facts = none ↔ Follows seen facts := by
  induction facts generalizing seen with
  | nil => exact ⟨fun _ => follows_nil seen, fun _ => rfl⟩
  | cons fact facts ih =>
    rw [follows_cons, ← validateKey_eq_none, ← validateValue_eq_none, validateFactsFrom]
    cases hkey : validateKey fact.key with
    | some message => simp
    | none =>
      cases hvalue : validateValue fact.value with
      | some message => simp
      | none =>
        by_cases hseen : seen.any (·.key = fact.key) = true
        · simp [hseen]
        · rw [Bool.not_eq_true] at hseen
          simp only [hseen, Bool.false_eq_true, if_false, true_and]
          exact ih

theorem validateFacts_eq_none {facts : List IpcFact} :
    validateFacts facts = none ↔ WellFormed facts := by
  rw [wellFormed_iff, validateFacts, ← validateFactsFrom_eq_none]
  have hmax : kMaxFactsEntries = 64 := rfl
  by_cases hfew : facts.length > kMaxFactsEntries
  · rw [if_pos hfew]
    constructor
    · intro h
      cases h
    · rintro ⟨hle, _⟩
      omega
  · rw [if_neg hfew]
    constructor
    · intro h
      exact ⟨by omega, h⟩
    · exact fun h => h.2

/-- The bytes of the lines, each after its LF, are the lines joined by LF. -/
theorem joined_lines (front : Bytes) (facts : List IpcFact) :
    (front ++ facts.flatMap fun fact => 0x0A :: fact.line) =
      [0x0A].intercalate (front :: facts.map IpcFact.line) := by
  induction facts generalizing front with
  | nil => simp [List.intercalate]
  | cons fact facts ih =>
    rw [List.flatMap_cons, List.map_cons, List.intercalate_cons_cons, ← ih]
    simp

theorem serializeFactsV1_eq_ok {facts : List IpcFact} {payload : Bytes} :
    serializeFactsV1 facts = .ok payload ↔ WellFormed facts ∧
      payload = [0x0A].intercalate (kFactsEnvelopeV1 :: facts.map IpcFact.line) := by
  rw [← validateFacts_eq_none, serializeFactsV1, ← joined_lines]
  cases validateFacts facts with
  | some message => simp
  | none => simp [eq_comm]

/-! ## What the reader accepts -/

theorem takeWhile_line {fact : IpcFact} (h : 0x3D ∉ fact.key) :
    fact.line.takeWhile (· ≠ 0x3D) = fact.key := by
  have hkey : ∀ c ∈ fact.key, decide (c ≠ 0x3D) = true := by
    intro c hc
    rw [decide_eq_true_eq]
    rintro rfl
    exact h hc
  rw [IpcFact.line, List.takeWhile_append_of_pos hkey, List.takeWhile_cons_of_neg (by simp),
    List.append_nil]

/-- A line with a separator is the line of the fact it is cut into. -/
theorem line_of_contains {line : Bytes} (h : line.contains 0x3D = true) :
    IpcFact.line { key := line.takeWhile (· ≠ 0x3D),
                   value := line.drop ((line.takeWhile (· ≠ 0x3D)).length + 1) } = line := by
  induction line with
  | nil => simp at h
  | cons c line ih =>
    by_cases hc : c = 0x3D
    · subst hc
      simp [IpcFact.line]
    · have hrest : line.contains 0x3D = true := by
        simp only [List.contains_cons, Bool.or_eq_true, beq_iff_eq] at h
        exact h.resolve_left (fun heq => hc heq.symm)
      have htake : (c :: line).takeWhile (· ≠ 0x3D) = c :: line.takeWhile (· ≠ 0x3D) :=
        List.takeWhile_cons_of_pos (by simpa using hc)
      rw [htake]
      simp only [IpcFact.line, List.length_cons, List.drop_succ_cons, List.cons_append]
      exact congrArg (c :: ·) (ih hrest)

/-- A line is the line of one fact only, as far as keys go. -/
theorem line_inj {fact other : IpcFact} (hfact : PlainKey fact.key) (hother : PlainKey other.key)
    (h : fact.line = other.line) : fact = other := by
  have hkey : fact.key = other.key := by
    rw [← takeWhile_line (hfact.not_mem (.inr rfl)), h, takeWhile_line (hother.not_mem (.inr rfl))]
  rw [IpcFact.line, IpcFact.line, hkey] at h
  have hvalue := (List.cons.inj (List.append_cancel_left h)).2
  cases fact
  cases other
  cases hkey
  cases hvalue
  rfl

/-- The lines are those of facts that follow the ones read so far and make `parsed` with them. -/
def ReadAs (seen : List IpcFact) (lines : List Bytes) (parsed : List IpcFact) : Prop :=
  ∃ facts, lines = facts.map IpcFact.line ∧ parsed = seen ++ facts ∧ Follows seen facts ∧
    (seen ++ facts).length ≤ 64

section ReadAs

variable {seen parsed : List IpcFact} {lines : List Bytes} {line : Bytes}

theorem readAs_nil (hseen : seen.length ≤ 64) : ReadAs seen [] parsed ↔ seen = parsed := by
  constructor
  · rintro ⟨facts, hlines, rfl, _⟩
    rw [List.map_eq_nil_iff.mp hlines.symm, List.append_nil]
  · rintro rfl
    exact ⟨[], rfl, by simp, follows_nil _, by simpa using hseen⟩

/-- The first line is that of a fact with a plain key. -/
theorem ReadAs.first (h : ReadAs seen (line :: lines) parsed) :
    ∃ fact, line = IpcFact.line fact ∧ PlainKey fact.key ∧ seen.length < 64 := by
  obtain ⟨facts, hlines, _, hfollows, hlen⟩ := h
  cases facts with
  | nil => cases hlines
  | cons fact facts =>
    rw [List.map_cons, List.cons.injEq] at hlines
    rw [List.length_append, List.length_cons] at hlen
    exact ⟨fact, hlines.1, (follows_cons.mp hfollows).1, by omega⟩

/-- What a turn of the loop asks of the fact its line is cut into. -/
theorem readAs_line {fact : IpcFact} (hcut : fact.line.takeWhile (· ≠ 0x3D) = fact.key) :
    ReadAs seen (fact.line :: lines) parsed ↔
      PlainKey fact.key ∧ PlainValue fact.value ∧ seen.any (·.key = fact.key) = false ∧
        ReadAs (seen ++ [fact]) lines parsed := by
  constructor
  · intro h
    obtain ⟨other, hline, hother, _⟩ := h.first
    have hkey : PlainKey fact.key := by
      rw [← hcut, hline, takeWhile_line (hother.not_mem (.inr rfl))]
      exact hother
    obtain ⟨facts, hlines, hparsed, hfollows, hlen⟩ := h
    cases facts with
    | nil => cases hlines
    | cons first facts =>
      rw [List.map_cons, List.cons.injEq] at hlines
      obtain ⟨hfirst, hvalue, hfresh, hrest⟩ := follows_cons.mp hfollows
      have hsame := line_inj hkey hfirst hlines.1
      subst hsame
      refine ⟨hkey, hvalue, hfresh, facts, hlines.2, ?_, hrest, ?_⟩
      · rw [hparsed, List.append_assoc, List.singleton_append]
      · rw [List.append_assoc, List.singleton_append]
        exact hlen
  · rintro ⟨hkey, hvalue, hfresh, facts, hlines, hparsed, hrest, hlen⟩
    rw [List.append_assoc, List.singleton_append] at hparsed hlen
    refine ⟨fact :: facts, ?_, hparsed, ?_, hlen⟩
    · rw [hlines, List.map_cons]
    · exact follows_cons.mpr ⟨hkey, hvalue, hfresh, hrest⟩

end ReadAs

theorem exists_line_of_contains {line : Bytes} (h : line.contains 0x3D = true) :
    ∃ fact : IpcFact, line = fact.line ∧ fact.line.takeWhile (· ≠ 0x3D) = fact.key := by
  refine ⟨_, (line_of_contains h).symm, ?_⟩
  rw [line_of_contains h]

theorem contains_line (fact : IpcFact) : fact.line.contains 0x3D = true := by
  simp [IpcFact.line]

/-- One turn of the loop on the line of a fact. -/
theorem parseFactLines_line {lines : List Bytes} {seen parsed : List IpcFact} {fact : IpcFact}
    (hcut : fact.line.takeWhile (· ≠ 0x3D) = fact.key) (hroom : seen.length < 64) :
    parseFactLines (fact.line :: lines) seen = .ok parsed ↔
      validateKey fact.key = none ∧ validateValue fact.value = none ∧
        seen.any (·.key = fact.key) = false ∧
          parseFactLines lines (seen ++ [fact]) = .ok parsed := by
  have hvalue : fact.line.drop (fact.key.length + 1) = fact.value := by simp [IpcFact.line]
  have hnotFull : ¬ seen.length ≥ kMaxFactsEntries := Nat.not_le_of_lt hroom
  rw [parseFactLines, if_neg hnotFull, if_neg (not_not_intro (contains_line fact))]
  simp only [hcut, hvalue]
  cases hkey : validateKey fact.key with
  | some message => simp
  | none =>
    cases hvalid : validateValue fact.value with
    | some message => simp
    | none =>
      by_cases hany : seen.any (·.key = fact.key) = true
      · simp [hany]
      · rw [Bool.not_eq_true] at hany
        simp [hany]

/-- The loop of the reader. -/
theorem parseFactLines_eq_ok {lines : List Bytes} {seen parsed : List IpcFact}
    (hseen : seen.length ≤ 64) :
    parseFactLines lines seen = .ok parsed ↔ ReadAs seen lines parsed := by
  induction lines generalizing seen with
  | nil => rw [parseFactLines, readAs_nil hseen, Except.ok.injEq]
  | cons line lines ih =>
    by_cases hfull : seen.length ≥ kMaxFactsEntries
    · rw [parseFactLines, if_pos hfull]
      refine iff_of_false (fun h => by cases h) fun h => ?_
      obtain ⟨_, _, _, hroom⟩ := h.first
      exact absurd hroom (Nat.not_lt_of_le hfull)
    · have hroom : seen.length < 64 := Nat.lt_of_not_le hfull
      by_cases heq : line.contains 0x3D = true
      · obtain ⟨fact, rfl, hcut⟩ := exists_line_of_contains heq
        have hnext : (seen ++ [fact]).length ≤ 64 := by
          rw [List.length_append, List.length_singleton]
          exact hroom
        rw [parseFactLines_line hcut hroom, readAs_line hcut, validateKey_eq_none,
          validateValue_eq_none, ih hnext]
      · rw [parseFactLines, if_neg hfull, if_pos heq]
        refine iff_of_false (fun h => by cases h) fun h => ?_
        obtain ⟨fact, rfl, _⟩ := h.first
        exact heq (contains_line fact)

/-! ## The codec -/

section Codec

variable {facts : List IpcFact} {payload : Bytes}

/-- No control byte stands in the line of a well-formed fact. -/
theorem WellFormed.line_chars (h : WellFormed facts) {fact : IpcFact} (hfact : fact ∈ facts)
    {c : UInt8} (hc : c ∈ fact.line) : 0x20 ≤ c := by
  rcases List.mem_append.mp hc with hc | hc
  · exact (hasControlByte_eq_false.mp (h.keys fact hfact).noControl c hc).1
  · rcases List.mem_cons.mp hc with rfl | hc
    · decide
    · exact ((h.values fact hfact).chars c hc).1

theorem WellFormed.splitOn (h : WellFormed facts) :
    ([0x0A].intercalate (kFactsEnvelopeV1 :: facts.map IpcFact.line)).splitOn 0x0A =
      kFactsEnvelopeV1 :: facts.map IpcFact.line := by
  refine List.splitOn_intercalate 0x0A ?_ (List.cons_ne_nil _ _)
  intro line hline
  rcases List.mem_cons.mp hline with rfl | hline
  · decide
  · obtain ⟨fact, hfact, rfl⟩ := List.mem_map.mp hline
    intro hmem
    exact absurd (h.line_chars hfact hmem) (by decide)

theorem nil_not_mem_lines (facts : List IpcFact) :
    [] ∉ kFactsEnvelopeV1 :: facts.map IpcFact.line := by
  intro hmem
  rcases List.mem_cons.mp hmem with hnil | hmem
  · exact absurd hnil (by decide)
  · obtain ⟨fact, _, hnil⟩ := List.mem_map.mp hmem
    simp [IpcFact.line] at hnil

theorem WellFormed.cr_not_mem (h : WellFormed facts) :
    0x0D ∉ [0x0A].intercalate (kFactsEnvelopeV1 :: facts.map IpcFact.line) := by
  rw [← joined_lines]
  intro hmem
  rcases List.mem_append.mp hmem with hmem | hmem
  · exact absurd hmem (by decide)
  · obtain ⟨fact, hfact, hmem⟩ := List.mem_flatMap.mp hmem
    rcases List.mem_cons.mp hmem with hlf | hmem
    · exact absurd hlf (by decide)
    · exact absurd (h.line_chars hfact hmem) (by decide)

/-- The reader accepts the joined lines of well-formed facts, and nothing else. -/
theorem parseFactsV1_eq_ok :
    parseFactsV1 payload = .ok facts ↔ WellFormed facts ∧
      payload = [0x0A].intercalate (kFactsEnvelopeV1 :: facts.map IpcFact.line) := by
  constructor
  · intro h
    simp only [parseFactsV1] at h
    split at h
    · cases h
    · split at h
      · cases h
      · split at h
        · cases h
        · split at h
          · cases h
          · rename_i front lines hsplit
            split at h
            · cases h
            · rename_i henvelope
              obtain ⟨facts', hlines, hfacts, hfollows, hlen⟩ :=
                (parseFactLines_eq_ok (Nat.zero_le _)).mp h
              rw [List.nil_append] at hfacts hlen
              subst hfacts
              refine ⟨wellFormed_iff.mpr ⟨hlen, hfollows⟩, ?_⟩
              rw [← not_not.mp henvelope, ← hlines, ← hsplit, List.intercalate_splitOn]
  · rintro ⟨hwell, rfl⟩
    have hne : [0x0A].intercalate (kFactsEnvelopeV1 :: facts.map IpcFact.line) ≠ [] := by
      rw [← joined_lines]
      intro hnil
      exact absurd (List.append_eq_nil_iff.mp hnil).1 (by decide)
    have hcr : ¬ ([0x0A].intercalate (kFactsEnvelopeV1 :: facts.map IpcFact.line)).contains 0x0D =
        true := by
      rw [List.contains_iff_mem]
      exact hwell.cr_not_mem
    have hempty : ¬ (kFactsEnvelopeV1 :: facts.map IpcFact.line).any (· = []) = true := by
      rw [List.any_eq_true]
      rintro ⟨line, hline, hnil⟩
      rw [decide_eq_true_eq] at hnil
      exact nil_not_mem_lines facts (hnil ▸ hline)
    obtain ⟨hlen, hfollows⟩ := wellFormed_iff.mp hwell
    simp only [parseFactsV1]
    rw [if_neg hne, if_neg hcr, hwell.splitOn, if_neg hempty]
    dsimp only
    rw [if_neg (not_not.mpr rfl)]
    exact (parseFactLines_eq_ok (Nat.zero_le _)).mpr ⟨facts, rfl, rfl, hfollows, hlen⟩

theorem factsPayload_iff :
    FactsPayload payload ↔ ∃ facts, WellFormed facts ∧
      payload = [0x0A].intercalate (kFactsEnvelopeV1 :: facts.map IpcFact.line) := by
  constructor
  · exact fun h => h.lines
  · rintro ⟨facts, hwell, rfl⟩
    have hnoEmpty : [] ∉ ([0x0A].intercalate (kFactsEnvelopeV1 :: facts.map IpcFact.line)).splitOn
        0x0A := by
      rw [hwell.splitOn]
      exact nil_not_mem_lines facts
    refine ⟨⟨facts, hwell, rfl⟩, hwell.cr_not_mem, hnoEmpty, ?_⟩
    intro hlast
    obtain ⟨init, hinit⟩ := List.getLast?_eq_some_iff.mp hlast
    refine hnoEmpty ?_
    rw [hinit, List.splitOn_append_cons_self, List.splitOn_nil]
    exact List.mem_append_right _ List.mem_cons_self

end Codec

/-- Reader and writer are inverse to each other on what they accept, and the reader accepts exactly
the payloads of the contract. -/
theorem facts_codec_exact :
    (∀ facts bytes, serializeFactsV1 facts = .ok bytes → parseFactsV1 bytes = .ok facts) ∧
    (∀ payload facts, parseFactsV1 payload = .ok facts → serializeFactsV1 facts = .ok payload) ∧
    (∀ payload, (∃ facts, parseFactsV1 payload = .ok facts) ↔ FactsPayload payload) := by
  refine ⟨?_, ?_, ?_⟩
  · intro facts bytes h
    exact parseFactsV1_eq_ok.mpr (serializeFactsV1_eq_ok.mp h)
  · intro payload facts h
    exact serializeFactsV1_eq_ok.mpr (parseFactsV1_eq_ok.mp h)
  · intro payload
    rw [factsPayload_iff]
    exact exists_congr fun facts => parseFactsV1_eq_ok

end Ipc
end CppOptimizer
