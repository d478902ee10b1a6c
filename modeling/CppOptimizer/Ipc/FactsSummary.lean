import CppOptimizer.Ipc.Facts
import CppOptimizer.Lib.Strings

/-!
# CppOptimizer.Ipc.FactsSummary

What `FormatFactsSummary` shows of a list of facts.

* `echoes`, `summaryHeader` — the pieces of the text.
* `formatFactsSummary_shown` — the text is the header, the facts that fit and, if some do not, the
  ellipsis.
* `BoundedSummary` — what the summary is meant to be: within its limit, and marked exactly if
  something is left out.
* `boundedSummary_iff` — this is so unless header and shown facts are exactly 477 bytes, or the last
  value of a complete summary ends like the ellipsis.

Room is kept for three bytes. The blank and the ellipsis take four.
-/

namespace CppOptimizer
namespace Ipc

open Common

/-! ## The pieces -/

def echo (fact : IpcFact) : Bytes := [0x20] ++ fact.key ++ [0x3D] ++ fact.value

def echoes (facts : List IpcFact) : Bytes := facts.flatMap echo

/-- The facts that may be shown. -/
def echoable (facts : List IpcFact) : List IpcFact := facts.filter (·.key ≠ kFactsTokenKey)

def summaryHeader (n : Nat) : Bytes :=
  ascii "facts ok (" ++ ascii (toString n) ++ ascii ")" ++ if n = 0 then [] else ascii ":"

/-- The header and the facts of a list that may be shown. -/
def shownText (facts shown : List IpcFact) : Bytes :=
  summaryHeader (echoable facts).length ++ echoes shown

def omission (rest : List IpcFact) : Bytes := if rest = [] then [] else summaryEllipsis

theorem echoes_append (shown more : List IpcFact) : echoes (shown ++ more) = echoes shown ++ echoes more :=
  List.flatMap_append

theorem length_echo (fact : IpcFact) : (echo fact).length = fact.key.length + fact.value.length + 2 := by
  simp only [echo, List.length_append, List.length_cons, List.length_nil]
  omega

theorem length_omission {rest : List IpcFact} (h : rest ≠ []) : (omission rest).length = 4 := by
  rw [omission, if_neg h]
  rfl

/-! ## What is shown -/

/-- The facts that fit, with room for three more bytes, and what does not fit any more. -/
structure Fits (out : Bytes) (shown rest : List IpcFact) : Prop where
  room : (out ++ echoes shown).length + 3 ≤ kFactsSummaryMaxBytes
  full : ∀ fact more, rest = fact :: more →
    kFactsSummaryMaxBytes < (out ++ echoes (shown ++ [fact])).length + 3

theorem appendEntries_shown {facts : List IpcFact} {out : Bytes}
    (h : out.length + 3 ≤ kFactsSummaryMaxBytes) :
    ∃ shown rest, echoable facts = shown ++ rest ∧ Fits out shown rest ∧
      appendEntries facts out = out ++ echoes shown ++ omission rest := by
  induction facts generalizing out with
  | nil =>
    refine ⟨[], [], rfl, ⟨by simpa [echoes] using h, fun _ _ hrest => by cases hrest⟩, ?_⟩
    simp [appendEntries, echoes, omission]
  | cons fact facts ih =>
    rw [appendEntries]
    by_cases htoken : fact.key = kFactsTokenKey
    · rw [if_pos htoken]
      have hskip : echoable (fact :: facts) = echoable facts := by simp [echoable, htoken]
      rw [hskip]
      exact ih h
    · rw [if_neg htoken]
      have hkeep : echoable (fact :: facts) = fact :: echoable facts := by simp [echoable, htoken]
      rw [hkeep]
      show ∃ shown rest, fact :: echoable facts = shown ++ rest ∧ Fits out shown rest ∧
        (if out.length + (echo fact).length + 3 > kFactsSummaryMaxBytes then out ++ summaryEllipsis
          else appendEntries facts (out ++ echo fact)) = out ++ echoes shown ++ omission rest
      split
      · case _ hfull =>
        refine ⟨[], fact :: echoable facts, rfl, ⟨by simpa [echoes] using h, ?_⟩, ?_⟩
        · intro next more hrest
          obtain ⟨rfl, -⟩ := List.cons.inj hrest
          simpa [echoes, Nat.add_assoc] using hfull
        · simp [echoes, omission]
      · case _ hfits =>
        have hroom : (out ++ echo fact).length + 3 ≤ kFactsSummaryMaxBytes := by
          rw [List.length_append]
          exact Nat.le_of_not_lt hfits
        obtain ⟨shown, rest, hsplit, hfit, htext⟩ := ih hroom
        have hcons : ∀ more, out ++ echoes (fact :: more) = out ++ echo fact ++ echoes more := by
          intro more
          simp [echoes]
        refine ⟨fact :: shown, rest, by rw [hsplit]; rfl, ⟨?_, ?_⟩, ?_⟩
        · rw [hcons]
          exact hfit.room
        · intro next more hrest
          rw [List.cons_append, hcons]
          exact hfit.full next more hrest
        · rw [hcons]
          exact htext

theorem length_summaryHeader {n : Nat} (h : n ≤ kMaxFactsEntries) : (summaryHeader n).length ≤ 14 := by
  have hall : ∀ n ≤ kMaxFactsEntries, (summaryHeader n).length ≤ 14 := by decide +kernel
  exact hall n h

theorem formatFactsSummary_eq (facts : List IpcFact) :
    formatFactsSummary facts =
      if (echoable facts).length = 0 then summaryHeader (echoable facts).length
      else appendEntries facts (summaryHeader (echoable facts).length) := by
  show (if (echoable facts).length = 0 then _ else _) = _
  unfold summaryHeader
  split
  · exact (List.append_nil _).symm
  · rfl

/-- The summary of a list that is not too long. -/
theorem formatFactsSummary_shown {facts : List IpcFact} (h : facts.length ≤ kMaxFactsEntries) :
    ∃ shown rest, echoable facts = shown ++ rest ∧
      Fits (summaryHeader (echoable facts).length) shown rest ∧
      formatFactsSummary facts = shownText facts shown ++ omission rest := by
  have hcount : (echoable facts).length ≤ kMaxFactsEntries :=
    Nat.le_trans (List.length_filter_le _ _) h
  have hroom : (summaryHeader (echoable facts).length).length + 3 ≤ kFactsSummaryMaxBytes := by
    have hmax : kFactsSummaryMaxBytes = 480 := rfl
    have hheader := length_summaryHeader hcount
    omega
  rw [formatFactsSummary_eq]
  split
  · case _ hzero =>
    have hnone : echoable facts = [] := List.length_eq_zero_iff.mp hzero
    refine ⟨[], [], hnone, ⟨by simpa [echoes] using hroom, fun _ _ hrest => by cases hrest⟩, ?_⟩
    simp [shownText, echoes, omission]
  · exact appendEntries_shown hroom

/-! ## When the summary is what it is meant to be -/

/-- Within the limit; header and whole facts from the front; ends in the ellipsis exactly if facts are
left out. -/
structure BoundedSummary (facts : List IpcFact) : Prop where
  length : (formatFactsSummary facts).length ≤ kFactsSummaryMaxBytes
  shown : ∃ shown rest, echoable facts = shown ++ rest ∧
    formatFactsSummary facts = shownText facts shown ++ omission rest ∧
    (summaryEllipsis <:+ formatFactsSummary facts ↔ rest ≠ [])

/-- Some of the facts, but not all, make the text 477 bytes long. -/
def FillsReserve (facts : List IpcFact) : Prop :=
  ∃ shown rest, echoable facts = shown ++ rest ∧ rest ≠ [] ∧ (shownText facts shown).length = 477

/-- All facts fit, and the last value ends like an ellipsis. -/
def EndsLikeOmission (facts : List IpcFact) : Prop :=
  (shownText facts (echoable facts)).length ≤ 477 ∧
    ∃ fact, (echoable facts).getLast? = some fact ∧ summaryEllipsis <:+ fact.value

section Shown

variable {facts shown rest : List IpcFact}

theorem equals_not_mem_ellipsis : (0x3D : UInt8) ∉ summaryEllipsis := by decide

/-- Only the value of a fact can end like an ellipsis. -/
theorem ellipsis_suffix_echo {text : Bytes} {fact : IpcFact}
    (h : summaryEllipsis <:+ text ++ echo fact) : summaryEllipsis <:+ fact.value := by
  have hparts : text ++ echo fact = text ++ 0x20 :: fact.key ++ 0x3D :: fact.value := by simp [echo]
  rw [hparts] at h
  exact Lib.suffix_of_not_mem h equals_not_mem_ellipsis

theorem not_ellipsis_suffix_header (n : Nat) : ¬ summaryEllipsis <:+ summaryHeader n := by
  intro h
  have hlast : (summaryHeader n).getLast? = summaryEllipsis.getLast? := by
    obtain ⟨text, htext⟩ := h
    rw [← htext, List.getLast?_append]
    rfl
  unfold summaryHeader at hlast
  split at hlast
  · rw [List.append_nil, List.getLast?_append] at hlast
    have hbytes : some (0x29 : UInt8) = some 0xA6 := hlast
    exact absurd hbytes (by decide)
  · rw [List.getLast?_append] at hlast
    have hbytes : some (0x3A : UInt8) = some 0xA6 := hlast
    exact absurd hbytes (by decide)

/-- A summary that shows all facts ends like an ellipsis if the last value does. -/
theorem ellipsis_suffix_shownText (facts shown : List IpcFact) :
    summaryEllipsis <:+ shownText facts shown ↔
      ∃ fact, shown.getLast? = some fact ∧ summaryEllipsis <:+ fact.value := by
  rcases List.eq_nil_or_concat shown with rfl | ⟨init, fact, rfl⟩
  · have hheader := not_ellipsis_suffix_header (echoable facts).length
    simpa [shownText, echoes] using hheader
  · have htext : shownText facts (init.concat fact) = shownText facts init ++ echo fact := by
      rw [shownText, List.concat_eq_append, echoes_append, ← List.append_assoc]
      simp [shownText, echoes]
    rw [htext]
    constructor
    · intro h
      exact ⟨fact, by simp, ellipsis_suffix_echo h⟩
    · rintro ⟨last, hlast, hvalue⟩
      obtain rfl : fact = last := by simpa using hlast
      exact hvalue.trans ⟨shownText facts init ++ ([0x20] ++ fact.key ++ [0x3D]), by simp [echo]⟩

/-- The facts the code shows are the only ones that fill the text up to the reserve. -/
theorem Fits.shown_eq {out : Bytes} {shown' rest' : List IpcFact} (h : Fits out shown rest)
    (hsplit : shown ++ rest = shown' ++ rest') (hlength : (out ++ echoes shown').length = 477) :
    shown = shown' := by
  have hmax : kFactsSummaryMaxBytes = 480 := rfl
  have hgrow : ∀ fact more, (echoes (shown ++ fact :: more)).length =
      (echoes shown).length + (echo fact).length + (echoes more).length := by
    intro fact more
    simp [echoes, Nat.add_assoc]
  have hroom := h.room
  rcases List.append_eq_append_iff.mp hsplit with ⟨more, rfl, hrest⟩ | ⟨more, rfl, hrest⟩
  · cases more with
    | nil => simp
    | cons fact more =>
      -- the first fact that was left out would have fitted
      have hfull := h.full fact (more ++ rest') hrest
      have hone := hgrow fact []
      have hall := hgrow fact more
      simp only [List.length_append, echoes, List.flatMap_nil, List.length_nil] at hone hall hfull hlength
      omega
  · cases more with
    | nil => simp
    | cons fact more =>
      -- a fact more than 477 bytes would not leave the room that was kept
      have hecho := length_echo fact
      simp only [List.length_append, echoes, List.flatMap_append, List.flatMap_cons] at hroom hlength
      omega

/-- Facts that are left out cannot be read as an ellipsis. -/
theorem omission_ne_echoes {rest : List IpcFact} (h : rest ≠ []) : omission rest ≠ echoes rest := by
  intro heq
  obtain ⟨fact, more, rfl⟩ := List.exists_cons_of_ne_nil h
  rw [omission, if_neg h] at heq
  refine equals_not_mem_ellipsis ?_
  rw [heq]
  simp [echoes, echo]

end Shown

theorem boundedSummary_of {facts : List IpcFact} (h : facts.length ≤ kMaxFactsEntries)
    (hreserve : ¬ FillsReserve facts) (homission : ¬ EndsLikeOmission facts) :
    BoundedSummary facts := by
  obtain ⟨shown, rest, hsplit, hfits, htext⟩ := formatFactsSummary_shown h
  have hmax : kFactsSummaryMaxBytes = 480 := rfl
  have hroom : (shownText facts shown).length + 3 ≤ kFactsSummaryMaxBytes := hfits.room
  by_cases hrest : rest = []
  · subst hrest
    rw [List.append_nil] at hsplit
    have hall : formatFactsSummary facts = shownText facts (echoable facts) := by
      rw [htext, hsplit]
      exact List.append_nil _
    rw [← hsplit] at hroom
    have hplain : ¬ summaryEllipsis <:+ formatFactsSummary facts := by
      rw [hall, ellipsis_suffix_shownText]
      exact fun hlast => homission ⟨by omega, hlast⟩
    refine ⟨by rw [hall]; omega, echoable facts, [], by simp, ?_, by simpa using hplain⟩
    rw [hall]
    exact (List.append_nil _).symm
  · have hnot : (shownText facts shown).length ≠ 477 := fun hfull =>
      hreserve ⟨shown, rest, hsplit, hrest, hfull⟩
    have hlength : (formatFactsSummary facts).length = (shownText facts shown).length + 4 := by
      rw [htext, List.length_append, length_omission hrest]
    have hmarked : summaryEllipsis <:+ formatFactsSummary facts := by
      rw [htext, omission, if_neg hrest]
      exact List.suffix_append _ _
    exact ⟨by omega, shown, rest, hsplit, htext, iff_of_true hmarked hrest⟩

theorem BoundedSummary.not_fillsReserve {facts : List IpcFact} (hb : BoundedSummary facts)
    (h : facts.length ≤ kMaxFactsEntries) : ¬ FillsReserve facts := by
  rintro ⟨shown, rest, hsplit, hrest, hfull⟩
  obtain ⟨shown', rest', hsplit', hfits, htext⟩ := formatFactsSummary_shown h
  have hsame : shown' = shown := hfits.shown_eq (hsplit'.symm.trans hsplit) hfull
  subst hsame
  obtain rfl : rest' = rest := List.append_cancel_left (hsplit'.symm.trans hsplit)
  have hlength := hb.length
  rw [htext, List.length_append, length_omission hrest, hfull] at hlength
  exact absurd hlength (by decide)

theorem BoundedSummary.not_endsLikeOmission {facts : List IpcFact} (hb : BoundedSummary facts)
    (h : facts.length ≤ kMaxFactsEntries) : ¬ EndsLikeOmission facts := by
  rintro ⟨hsmall, hlast⟩
  obtain ⟨shown, rest, hsplit, hfits, htext⟩ := formatFactsSummary_shown h
  have hmax : kFactsSummaryMaxBytes = 480 := rfl
  -- everything fits, so that nothing was left out
  have hrest : rest = [] := by
    cases rest with
    | nil => rfl
    | cons fact more =>
      have hfull := hfits.full fact more rfl
      have hechoes : echoes (echoable facts) = echoes (shown ++ fact :: more) := congrArg echoes hsplit
      rw [shownText, hechoes] at hsmall
      simp only [echoes, List.flatMap_append, List.flatMap_cons, List.flatMap_nil, List.length_append,
        List.length_nil] at hsmall hfull
      omega
  subst hrest
  rw [List.append_nil] at hsplit
  have hall : formatFactsSummary facts = shownText facts (echoable facts) := by
    rw [htext, hsplit]
    exact List.append_nil _
  obtain ⟨seen, missing, hparts, htext', hmarked⟩ := hb.shown
  rw [hall, ellipsis_suffix_shownText] at hmarked
  have hmissing : missing ≠ [] := hmarked.mp hlast
  have hechoes : shownText facts (echoable facts) = shownText facts seen ++ echoes missing := by
    rw [shownText, congrArg echoes hparts, echoes_append, ← List.append_assoc]
    rfl
  have hpieces : shownText facts seen ++ echoes missing = shownText facts seen ++ omission missing := by
    rw [← hechoes, ← hall]
    exact htext'
  exact omission_ne_echoes hmissing (List.append_cancel_left hpieces).symm

/-- For accepted facts: the summary is what it is meant to be, unless some of the facts fill it up to
exactly 477 bytes or it is complete and ends like an ellipsis. -/
theorem boundedSummary_iff {payload : Bytes} {facts : List IpcFact}
    (h : parseFactsV1 payload = .ok facts) :
    BoundedSummary facts ↔ ¬ FillsReserve facts ∧ ¬ EndsLikeOmission facts := by
  have hlength := parseFactsV1_length h
  constructor
  · intro hb
    exact ⟨hb.not_fillsReserve hlength, hb.not_endsLikeOmission hlength⟩
  · rintro ⟨hreserve, homission⟩
    exact boundedSummary_of hlength hreserve homission

theorem boundedSummary_iff_observer :
    let facts : List IpcFact := [{ key := ascii "observer", value := ascii "x" }]
    parseFactsV1 (ascii "CPOPFACTS/1\nobserver=x") = .ok facts ∧
      (BoundedSummary facts ↔ ¬ FillsReserve facts ∧ ¬ EndsLikeOmission facts) := by
  intro facts
  have hparse : parseFactsV1 (ascii "CPOPFACTS/1\nobserver=x") = .ok facts := by decide +kernel
  exact ⟨hparse, boundedSummary_iff hparse⟩

/-- Four facts that fill the summary up to 477 bytes, and one more. -/
def fillingFacts : List IpcFact :=
  [{ key := ascii "a", value := List.replicate 128 0x78 },
    { key := ascii "b", value := List.replicate 128 0x78 },
    { key := ascii "c", value := List.replicate 128 0x78 },
    { key := ascii "d", value := List.replicate 68 0x78 },
    { key := ascii "e", value := [] }]

/-- One byte over the limit. -/
theorem filling_facts_overflow :
    parseFactsV1 (kFactsEnvelopeV1 ++
        fillingFacts.flatMap fun fact => 0x0A :: fact.key ++ 0x3D :: fact.value) = .ok fillingFacts ∧
      (formatFactsSummary fillingFacts).length = 481 ∧ ¬ BoundedSummary fillingFacts := by
  have hlength : (formatFactsSummary fillingFacts).length = 481 := by decide +kernel
  refine ⟨by decide +kernel, hlength, fun hb => ?_⟩
  have hlimit := hb.length
  rw [hlength] at hlimit
  exact absurd hlimit (by decide)

end Ipc
end CppOptimizer
