import CppOptimizer.Common.Text
import CppOptimizer.Lib.Strings
import CppOptimizer.Scheduler.ThreadTuner

/-!
# CppOptimizer.Scheduler.AdjustmentRecord

The record of a boost in `thread_tuner.cpp`, from which the priorities are restored after the process
has ended.

* `formatAdjustmentRecord` — an envelope line, a line of counts and one line an adjustment.
* `parseAdjustmentRecord`  — its reader, which counts nothing and ignores what follows a number.
* `DecodesSafely`          — the whole record is read back, and a part of it as some of its first
  adjustments or not at all.

The only number at the end of a line is the applied priority, so it is the only one that can be cut
without a trace.
-/

namespace CppOptimizer
namespace Scheduler

open Common Lib

/-! ## Writing -/

def adjustmentRecordEnvelope : Text := "CppOptimizerSchedulerRecord/1".toList

def recordHeader (processId : UInt32) (count : Nat) : Text :=
  "pid=".toList ++ decimal processId.toNat ++ " count=".toList ++ decimal count

def adjustmentLine (item : PriorityAdjustment) : Text :=
  "tid=".toList ++ decimal item.threadId.toNat ++ " from=".toList ++ decimalInt item.originalPriority ++
    " to=".toList ++ decimalInt item.appliedPriority

def formatAdjustmentRecord (processId : UInt32) (adjustments : List PriorityAdjustment) : Text :=
  unlines (adjustmentRecordEnvelope :: recordHeader processId adjustments.length ::
    adjustments.map adjustmentLine)

/-! ## Reading -/

def recordError (message : String) : Error := .validation "ParseAdjustmentRecord" message

/-- `std::string::substr`. -/
def substr (text : Text) (pos count : Nat) : Text := (text.drop pos).take count

def parseAdjustment (line : Text) : Result PriorityAdjustment :=
  if ¬ "tid=".toList <+: line then .error (recordError "行前缀不合法")
  else
    match find " from=".toList line, find " to=".toList line with
    | some fromPos, some toPos =>
      if toPos < fromPos then .error (recordError "缺字段")
      else
        let tidText := substr line 4 (fromPos - 4)
        let fromText := substr line (fromPos + 6) (toPos - fromPos - 6)
        let toText := line.drop (toPos + 4)
        match fromCharsUInt32 tidText, fromCharsInt32 fromText, fromCharsInt32 toText with
        | some tid, some original, some applied =>
          .ok { threadId := UInt32.ofNat tid, originalPriority := original, appliedPriority := applied }
        | _, _, _ => .error (recordError "数值解析失败")
    | _, _ => .error (recordError "缺字段")

/-- One turn of the `getline` loop. -/
def parseRecordLine (adjustments : List PriorityAdjustment) (line : Text) :
    Result (List PriorityAdjustment) :=
  let line := stripCr line
  if line = [] then .ok adjustments
  -- the counts are not looked at
  else if "pid=".toList <+: line then .ok adjustments
  else (parseAdjustment line).map fun item => adjustments ++ [item]

def parseAdjustmentRecord (text : Text) : Result (List PriorityAdjustment) :=
  match lines text with
  | [] => .error (recordError "信封行不符合契约")
  | first :: rest =>
    if first ≠ adjustmentRecordEnvelope then .error (recordError "信封行不符合契约")
    else rest.foldlM parseRecordLine []

/-- What is to hold of the record of a list of adjustments. -/
structure DecodesSafely (processId : UInt32) (adjustments : List PriorityAdjustment) : Prop where
  whole : parseAdjustmentRecord (formatAdjustmentRecord processId adjustments) = .ok adjustments
  torn : ∀ part, part <+: formatAdjustmentRecord processId adjustments →
    part ≠ formatAdjustmentRecord processId adjustments →
      ∀ found, parseAdjustmentRecord part = .ok found → found <+: adjustments

/-! ## One line -/

/-- The line of an adjustment up to the applied priority. -/
def lineHead (item : PriorityAdjustment) : Text :=
  "tid=".toList ++ decimal item.threadId.toNat ++ " from=".toList ++ decimalInt item.originalPriority ++
    " to=".toList

theorem adjustmentLine_eq (item : PriorityAdjustment) :
    adjustmentLine item = lineHead item ++ decimalInt item.appliedPriority := rfl

theorem lineHead_append (item : PriorityAdjustment) (part : Text) :
    lineHead item ++ part = "tid=".toList ++ (decimal item.threadId.toNat ++ (" from=".toList ++
      (decimalInt item.originalPriority ++ (" to=".toList ++ part)))) := by
  unfold lineHead
  simp only [List.append_assoc]

/-- A character that no line has. -/
theorem not_mem_adjustmentLine {c : Char} (hdigit : c.isDigit = false)
    (htext : c ∉ "-tid= from= to=".toList) (item : PriorityAdjustment) : c ∉ adjustmentLine item := by
  have hd : c ∉ decimal item.threadId.toNat := not_mem_decimal hdigit
  have hminus : c ≠ '-' := by
    rintro rfl
    exact htext (by decide)
  have hi : ∀ i, c ∉ decimalInt i := fun i => not_mem_decimalInt hdigit hminus
  unfold adjustmentLine
  simp only [List.mem_append, hd, hi, or_false]
  simp at htext ⊢
  tauto

theorem not_mem_recordHeader {c : Char} (hdigit : c.isDigit = false)
    (htext : c ∉ "pid= count=".toList) (processId : UInt32) (count : Nat) :
    c ∉ recordHeader processId count := by
  have hd : ∀ n, c ∉ decimal n := fun n => not_mem_decimal hdigit
  unfold recordHeader
  simp only [List.mem_append, hd, or_false]
  simp at htext ⊢
  tauto

theorem cut_from (item : PriorityAdjustment) (rest : Text) :
    cut " from=".toList ("tid=".toList ++ decimal item.threadId.toNat ++ (" from=".toList ++ rest)) =
      some ("tid=".toList ++ decimal item.threadId.toNat, rest) := by
  have hblank : ' ' ∉ "tid=".toList ++ decimal item.threadId.toNat :=
    List.not_mem_append (by decide) (not_mem_decimal (by decide))
  exact cut_of_head_not_mem hblank rest

/-- The place before the applied priority; the blank of ` from=` is passed over. -/
theorem cut_to (item : PriorityAdjustment) (rest : Text) :
    cut " to=".toList (lineHead item ++ rest) =
      some ("tid=".toList ++ decimal item.threadId.toNat ++ " from=".toList ++
        decimalInt item.originalPriority, rest) := by
  have htid : ' ' ∉ "tid=".toList ++ decimal item.threadId.toNat :=
    List.not_mem_append (by decide) (not_mem_decimal (by decide))
  have hfrom : ' ' ∉ "from=".toList ++ decimalInt item.originalPriority :=
    List.not_mem_append (by decide) (not_mem_decimalInt (by decide) (by decide))
  have htail : cut " to=".toList ("from=".toList ++ decimalInt item.originalPriority ++
      (" to=".toList ++ rest)) = some ("from=".toList ++ decimalInt item.originalPriority, rest) :=
    cut_of_head_not_mem hfrom rest
  have hmid : cut " to=".toList (' ' :: ("from=".toList ++ decimalInt item.originalPriority ++
      (" to=".toList ++ rest))) =
        some (' ' :: ("from=".toList ++ decimalInt item.originalPriority), rest) := by
    rw [cut_cons_of_mismatch (by simp), htail]
    rfl
  have hline : lineHead item ++ rest = ("tid=".toList ++ decimal item.threadId.toNat) ++
      ' ' :: ("from=".toList ++ decimalInt item.originalPriority ++ (" to=".toList ++ rest)) := by
    rw [lineHead_append]
    simp
  rw [hline, show " to=".toList = ' ' :: "to=".toList from rfl, cut_append_of_head_not_mem htid]
  rw [show ' ' :: "to=".toList = " to=".toList from rfl, hmid]
  simp

theorem substr_append (before middle after : Text) :
    substr (before ++ (middle ++ after)) before.length middle.length = middle := by
  simp [substr]

section Places

variable (item : PriorityAdjustment) (part : Text)

/-- Where ` from=` begins. -/
def fromPlace : Nat := 4 + (decimal item.threadId.toNat).length

/-- Where ` to=` begins. -/
def toPlace : Nat := fromPlace item + 6 + (decimalInt item.originalPriority).length

theorem find_from :
    find " from=".toList (lineHead item ++ part) = some (fromPlace item) := by
  have hline : lineHead item ++ part = "tid=".toList ++ decimal item.threadId.toNat ++
      (" from=".toList ++ (decimalInt item.originalPriority ++ (" to=".toList ++ part))) := by
    rw [lineHead_append, List.append_assoc]
  rw [hline, find, cut_from, Option.map_some, List.length_append]
  rfl

theorem find_to : find " to=".toList (lineHead item ++ part) = some (toPlace item) := by
  rw [find, cut_to, Option.map_some]
  simp only [List.length_append]
  rfl

theorem substr_threadId :
    substr (lineHead item ++ part) 4 (fromPlace item - 4) = decimal item.threadId.toNat := by
  have hlength : fromPlace item - 4 = (decimal item.threadId.toNat).length :=
    Nat.add_sub_cancel_left 4 _
  rw [hlength, lineHead_append]
  exact substr_append "tid=".toList _ _

theorem substr_original :
    substr (lineHead item ++ part) (fromPlace item + 6) (toPlace item - fromPlace item - 6) =
      decimalInt item.originalPriority := by
  have hline : lineHead item ++ part = "tid=".toList ++ decimal item.threadId.toNat ++
      " from=".toList ++ (decimalInt item.originalPriority ++ (" to=".toList ++ part)) := by
    rw [lineHead_append]
    simp only [List.append_assoc]
  have hbefore : ("tid=".toList ++ decimal item.threadId.toNat ++ " from=".toList).length =
      fromPlace item + 6 := by
    rw [List.length_append, List.length_append]
    rfl
  have hlength : toPlace item - fromPlace item - 6 = (decimalInt item.originalPriority).length := by
    unfold toPlace
    omega
  rw [hline, hlength, ← hbefore]
  exact substr_append _ _ _

theorem drop_applied : (lineHead item ++ part).drop (toPlace item + 4) = part := by
  refine List.drop_left' ?_
  unfold lineHead
  simp only [List.length_append]
  rfl

end Places

/-- What is read of a line that has all of its fields. -/
theorem parseAdjustment_lineHead {item : PriorityAdjustment} (h : IsInt32 item.originalPriority)
    (part : Text) :
    parseAdjustment (lineHead item ++ part) =
      match fromCharsInt32 part with
      | some applied => .ok { item with appliedPriority := applied }
      | none => .error (recordError "数值解析失败") := by
  have hkey : "tid=".toList <+: lineHead item ++ part := by
    rw [lineHead_append]
    exact List.prefix_append _ _
  have horder : ¬ toPlace item < fromPlace item := by
    unfold toPlace
    omega
  unfold parseAdjustment
  rw [if_neg (not_not_intro hkey), find_from, find_to]
  dsimp only
  rw [if_neg horder, substr_threadId, substr_original, drop_applied,
    fromCharsUInt32_decimal item.threadId.toNat_lt, fromCharsInt32_decimalInt h]
  cases fromCharsInt32 part with
  | none => rfl
  | some applied => simp

/-! ## A part of a line -/

/-- Only a part that reaches the applied priority is read. -/
theorem parseAdjustment_part {item found : PriorityAdjustment} {part : Text}
    (hpart : part <+: adjustmentLine item) (h : parseAdjustment part = .ok found) :
    ∃ digits, digits <+: decimalInt item.appliedPriority ∧ part = lineHead item ++ digits := by
  obtain ⟨more, hmore⟩ := hpart
  have hto : ∃ toPos, find " to=".toList part = some toPos := by
    unfold parseAdjustment at h
    split at h
    · cases h
    · split at h
      · case _ toPos _ hto => exact ⟨toPos, hto⟩
      · cases h
  obtain ⟨toPos, hto⟩ := hto
  obtain ⟨⟨before, digits⟩, hcut, _⟩ := Option.map_eq_some_iff.mp hto
  have hline := cut_append_right hcut more
  rw [hmore, adjustmentLine_eq, cut_to] at hline
  obtain ⟨rfl, hdigits⟩ := Prod.mk.inj (Option.some.inj hline)
  refine ⟨digits, ⟨more, hdigits.symm⟩, ?_⟩
  rw [eq_append_of_cut hcut, lineHead_append]
  simp only [List.append_assoc]

theorem parseAdjustment_line {item : PriorityAdjustment} (horiginal : IsInt32 item.originalPriority)
    (happlied : IsInt32 item.appliedPriority) : parseAdjustment (adjustmentLine item) = .ok item := by
  rw [adjustmentLine_eq, parseAdjustment_lineHead horiginal, fromCharsInt32_decimalInt happlied]

/-- A part that is read is read right if the applied priority has one digit. -/
theorem parseAdjustment_part_eq {item found : PriorityAdjustment} {part : Text}
    (horiginal : IsInt32 item.originalPriority) (hdigit : item.appliedPriority.natAbs < 10)
    (hpart : part <+: adjustmentLine item) (h : parseAdjustment part = .ok found) : found = item := by
  obtain ⟨digits, hdigits, rfl⟩ := parseAdjustment_part hpart h
  rw [parseAdjustment_lineHead horiginal] at h
  split at h
  · case _ applied happlied =>
    cases h
    rw [fromCharsInt32_part hdigit hdigits happlied]
  · cases h

/-- A longer one is read without its last digit. -/
theorem parseAdjustment_cut {item : PriorityAdjustment} (horiginal : IsInt32 item.originalPriority)
    (happlied : IsInt32 item.appliedPriority) :
    parseAdjustment (lineHead item ++ decimalInt (item.appliedPriority.tdiv 10)) =
      .ok { item with appliedPriority := item.appliedPriority.tdiv 10 } := by
  have hrange : IsInt32 (item.appliedPriority.tdiv 10) := by
    have habs := natAbs_tdiv_ten item.appliedPriority
    obtain ⟨hlow, hhigh⟩ := happlied
    constructor <;> omega
  rw [parseAdjustment_lineHead horiginal, fromCharsInt32_decimalInt hrange]

/-! ## The lines of a record -/

theorem parseRecordLine_part (done : List PriorityAdjustment) {item : PriorityAdjustment}
    {part : Text} (hpart : part <+: adjustmentLine item) (hne : part ≠ []) :
    parseRecordLine done part = (parseAdjustment part).map fun found => done ++ [found] := by
  have hcr : '\r' ∉ part := fun hmem =>
    not_mem_adjustmentLine (by decide) (by decide) item (hpart.subset hmem)
  have hpid : ¬ "pid=".toList <+: part := by
    intro hpid
    obtain ⟨more, hmore⟩ := hpid.trans hpart
    cases congrArg List.head? hmore
  rw [parseRecordLine, stripCr_eq hcr]
  rw [if_neg hne, if_neg hpid]

theorem parseRecordLine_header_part {processId : UInt32} {count : Nat} {part : Text}
    (hpart : part <+: recordHeader processId count) (hne : part ≠ [])
    {done found : List PriorityAdjustment} (h : parseRecordLine done part = .ok found) :
    found = done := by
  have htid : ¬ "tid=".toList <+: part := by
    intro htid
    obtain ⟨more, hmore⟩ := htid.trans hpart
    cases congrArg List.head? hmore
  have hcr : '\r' ∉ part := fun hmem =>
    not_mem_recordHeader (by decide) (by decide) processId count (hpart.subset hmem)
  rw [parseRecordLine, stripCr_eq hcr] at h
  rw [if_neg hne] at h
  split at h
  · exact (Except.ok.inj h).symm
  · rw [parseAdjustment, if_pos htid] at h
    cases h

theorem parseRecordLine_header (processId : UInt32) (count : Nat) (done : List PriorityAdjustment) :
    parseRecordLine done (recordHeader processId count) = .ok done := by
  rw [parseRecordLine, stripCr_eq (not_mem_recordHeader (by decide) (by decide) processId count)]
  have hpid : "pid=".toList <+: recordHeader processId count := by
    unfold recordHeader
    simp only [List.append_assoc]
    exact List.prefix_append _ _
  have hne : recordHeader processId count ≠ [] := by
    intro hnil
    rw [hnil] at hpid
    cases hpid.length_le
  rw [if_neg hne, if_pos hpid]

section Record

variable {processId : UInt32} {items : List PriorityAdjustment}

/-- Both priorities of every adjustment are ones a thread can have. -/
def ValidPriorities (items : List PriorityAdjustment) : Prop :=
  ∀ item ∈ items, isValidPriority item.originalPriority = true ∧
    isValidPriority item.appliedPriority = true

theorem isInt32_of_valid {priority : Int} (h : isValidPriority priority = true) :
    IsInt32 priority := by
  simp only [isValidPriority, Bool.and_eq_true, decide_eq_true_eq] at h
  constructor <;> omega

theorem foldlM_parseRecordLine (h : ValidPriorities items) (done : List PriorityAdjustment) :
    (items.map adjustmentLine).foldlM parseRecordLine done = .ok (done ++ items) := by
  induction items generalizing done with
  | nil =>
    rw [List.append_nil]
    rfl
  | cons item items ih =>
    obtain ⟨horiginal, happlied⟩ := h item List.mem_cons_self
    have hne : adjustmentLine item ≠ [] := by rw [adjustmentLine_eq, lineHead_append]; simp
    rw [List.map_cons, List.foldlM_cons, parseRecordLine_part done List.prefix_rfl hne,
      parseAdjustment_line (isInt32_of_valid horiginal) (isInt32_of_valid happlied)]
    have hrest := ih (fun other hmem => h other (List.mem_cons_of_mem _ hmem)) (done ++ [item])
    rw [List.append_cons]
    exact hrest

/-- The lines of a record are in its text as they are. -/
theorem newline_not_mem_record (processId : UInt32) (items : List PriorityAdjustment) :
    ∀ line ∈ adjustmentRecordEnvelope :: recordHeader processId items.length ::
      items.map adjustmentLine, '\n' ∉ line := by
  intro line hline
  rcases List.mem_cons.mp hline with rfl | hline
  · decide
  · rcases List.mem_cons.mp hline with rfl | hline
    · exact not_mem_recordHeader (by decide) (by decide) processId items.length
    · obtain ⟨item, _, rfl⟩ := List.mem_map.mp hline
      exact not_mem_adjustmentLine (by decide) (by decide) item

theorem parseAdjustmentRecord_of_lines {text : Text} {rest : List Text}
    (h : lines text = adjustmentRecordEnvelope :: rest) :
    parseAdjustmentRecord text = rest.foldlM parseRecordLine [] := by
  rw [parseAdjustmentRecord, h]
  exact if_neg (by simp)

/-- The last line, after the ones that have given `done`. -/
theorem parseAdjustmentRecord_concat {text last : Text} {whole : List Text}
    (h : lines text = adjustmentRecordEnvelope :: (whole ++ [last])) {done : List PriorityAdjustment}
    (hwhole : whole.foldlM parseRecordLine [] = .ok done) :
    parseAdjustmentRecord text = parseRecordLine done last := by
  rw [parseAdjustmentRecord_of_lines h, List.foldlM_append, hwhole]
  show parseRecordLine done last >>= pure = parseRecordLine done last
  exact bind_pure _

theorem foldlM_record (h : ValidPriorities items) (processId : UInt32) (count : Nat) :
    (recordHeader processId count :: items.map adjustmentLine).foldlM parseRecordLine [] =
      .ok items := by
  rw [List.foldlM_cons, parseRecordLine_header]
  exact foldlM_parseRecordLine h []

theorem parseAdjustmentRecord_format (h : ValidPriorities items) :
    parseAdjustmentRecord (formatAdjustmentRecord processId items) = .ok items := by
  have hlines := lines_unlines (newline_not_mem_record processId items)
  exact (parseAdjustmentRecord_of_lines hlines).trans (foldlM_record h processId items.length)

/-- A part of the envelope is no record, and the whole of it one of no adjustments. -/
theorem parseAdjustmentRecord_envelope {text : Text} {lines' : List Text}
    (hlines : lines text = lines') (hshort : lines'.length ≤ 1) {found : List PriorityAdjustment}
    (hfound : parseAdjustmentRecord text = .ok found) : found = [] := by
  rw [parseAdjustmentRecord, hlines] at hfound
  rcases lines' with _ | ⟨first, rest⟩
  · cases hfound
  · obtain rfl : rest = [] := List.length_eq_zero_iff.mp (by simpa using hshort)
    dsimp only at hfound
    split at hfound
    · cases hfound
    · exact (Except.ok.inj hfound).symm

/-- What a part of a record gives beyond whole lines comes from a part of one line. -/
theorem parseAdjustmentRecord_part {part : Text} (h : ValidPriorities items)
    (hpart : part <+: formatAdjustmentRecord processId items) {found : List PriorityAdjustment}
    (hfound : parseAdjustmentRecord part = .ok found) :
    found <+: items ∨ ∃ done item rest text, items = done ++ item :: rest ∧
      text <+: adjustmentLine item ∧ text ≠ [] ∧ parseRecordLine done text = .ok found := by
  obtain ⟨done, rest, hsplit, hlines⟩ :=
    lines_of_prefix (newline_not_mem_record processId items) hpart
  rcases done with _ | ⟨envelope, _ | ⟨header, done⟩⟩
  · -- the text ends in the envelope
    have hnone : found = [] := by
      rcases hlines with hlines | ⟨_, _, _, _, _, _, hlines⟩ <;>
        exact parseAdjustmentRecord_envelope hlines (by simp) hfound
    exact .inl (hnone ▸ List.nil_prefix)
  · -- or in the line of counts
    obtain ⟨rfl, hrest⟩ := List.cons.inj hsplit
    have hnone : found = [] := by
      rcases hlines with hlines | ⟨line, rest', text, hline, htext, hne, hlines⟩
      · exact parseAdjustmentRecord_envelope hlines (by simp) hfound
      · obtain ⟨rfl, -⟩ := List.cons.inj (hrest.trans hline)
        have hlast : lines part = adjustmentRecordEnvelope :: ([] ++ [text]) := hlines
        rw [parseAdjustmentRecord_concat hlast rfl] at hfound
        exact parseRecordLine_header_part htext hne hfound
    exact .inl (hnone ▸ List.nil_prefix)
  · -- or behind it
    obtain ⟨rfl, hsplit'⟩ := List.cons.inj hsplit
    obtain ⟨rfl, hitems⟩ := List.cons.inj hsplit'
    obtain ⟨items₁, items₂, rfl, rfl, hrest⟩ := List.map_eq_append_iff.mp hitems
    have hdone := foldlM_record (fun item hmem => h item (List.mem_append_left items₂ hmem))
      processId (items₁ ++ items₂).length
    rcases hlines with hlines | ⟨line, rest', text, hline, htext, hne, hlines⟩
    · rw [parseAdjustmentRecord_of_lines hlines, hdone] at hfound
      exact .inl (Except.ok.inj hfound ▸ List.prefix_append items₁ items₂)
    · obtain ⟨item, items₃, rfl, rfl, -⟩ := List.map_eq_cons_iff.mp (hrest.trans hline)
      rw [parseAdjustmentRecord_concat hlines hdone] at hfound
      exact .inr ⟨items₁, item, items₃, text, rfl, htext, hne, hfound⟩

theorem torn_of_one_digit (h : ValidPriorities items)
    (hdigit : ∀ item ∈ items, -9 ≤ item.appliedPriority ∧ item.appliedPriority ≤ 9) {part : Text}
    (hpart : part <+: formatAdjustmentRecord processId items) {found : List PriorityAdjustment}
    (hfound : parseAdjustmentRecord part = .ok found) : found <+: items := by
  rcases parseAdjustmentRecord_part h hpart hfound with hwhole | ⟨done, item, rest, text, rfl, htext,
    hne, hline⟩
  · exact hwhole
  · have hmem : item ∈ done ++ item :: rest := by simp
    rw [parseRecordLine_part done htext hne] at hline
    cases hread : parseAdjustment text with
    | error e =>
      rw [hread] at hline
      cases hline
    | ok item' =>
      rw [hread] at hline
      cases hline
      have hitem : item' = item := by
        have hbounds := hdigit item hmem
        exact parseAdjustment_part_eq (isInt32_of_valid (h item hmem).1) (by omega) htext hread
      exact ⟨rest, by simp [hitem]⟩

/-- The record up to the last digit of an applied priority. -/
def cutRecord (processId : UInt32) (count : Nat) (done : List PriorityAdjustment)
    (item : PriorityAdjustment) : Text :=
  unlines (adjustmentRecordEnvelope :: recordHeader processId count :: done.map adjustmentLine) ++
    (lineHead item ++ decimalInt (item.appliedPriority.tdiv 10))

theorem cutRecord_proper (processId : UInt32) (done rest : List PriorityAdjustment)
    {item : PriorityAdjustment} (hlong : 10 ≤ item.appliedPriority.natAbs) :
    ∃ c more, formatAdjustmentRecord processId (done ++ item :: rest) =
      cutRecord processId (done ++ item :: rest).length done item ++ c :: more := by
  refine ⟨(item.appliedPriority.natAbs % 10).digitChar, '\n' :: unlines (rest.map adjustmentLine), ?_⟩
  have hline : adjustmentLine item = lineHead item ++ decimalInt (item.appliedPriority.tdiv 10) ++
      [(item.appliedPriority.natAbs % 10).digitChar] := by
    rw [adjustmentLine_eq, decimalInt_of_ten_le hlong, List.append_assoc]
  simp [formatAdjustmentRecord, cutRecord, hline, unlines_append]

theorem parseAdjustmentRecord_cutRecord {done rest : List PriorityAdjustment}
    {item : PriorityAdjustment} (h : ValidPriorities (done ++ item :: rest))
    (hlong : 10 ≤ item.appliedPriority.natAbs) :
    parseAdjustmentRecord (cutRecord processId (done ++ item :: rest).length done item) =
      .ok (done ++ [{ item with appliedPriority := item.appliedPriority.tdiv 10 }]) := by
  obtain ⟨horiginal, happlied⟩ := h item (by simp)
  have hlast : lineHead item ++ decimalInt (item.appliedPriority.tdiv 10) <+: adjustmentLine item := by
    rw [adjustmentLine_eq, decimalInt_of_ten_le hlong, ← List.append_assoc]
    exact List.prefix_append _ _
  have hne : lineHead item ++ decimalInt (item.appliedPriority.tdiv 10) ≠ [] := by
    rw [lineHead_append]
    simp
  have hnewline : '\n' ∉ lineHead item ++ decimalInt (item.appliedPriority.tdiv 10) := fun hmem =>
    not_mem_adjustmentLine (by decide) (by decide) item (hlast.subset hmem)
  have hlines : lines (cutRecord processId (done ++ item :: rest).length done item) =
      adjustmentRecordEnvelope :: (recordHeader processId (done ++ item :: rest).length ::
        done.map adjustmentLine ++ [lineHead item ++ decimalInt (item.appliedPriority.tdiv 10)]) := by
    rw [cutRecord, lines_unlines_append, lines_of_newline_not_mem hne hnewline, List.cons_append]
    intro line hline
    refine newline_not_mem_record processId (done ++ item :: rest) line ?_
    rw [List.map_append]
    simp only [List.mem_cons, List.mem_append] at hline ⊢
    tauto
  have hdone := foldlM_record (fun other hmem => h other (List.mem_append_left _ hmem)) processId
    (done ++ item :: rest).length
  rw [parseAdjustmentRecord_concat hlines hdone, parseRecordLine_part done hlast hne,
    parseAdjustment_cut (isInt32_of_valid horiginal) (isInt32_of_valid happlied)]
  rfl

theorem one_digit_of_torn (h : ValidPriorities items)
    (htorn : ∀ part, part <+: formatAdjustmentRecord processId items →
      part ≠ formatAdjustmentRecord processId items →
        ∀ found, parseAdjustmentRecord part = .ok found → found <+: items) :
    ∀ item ∈ items, -9 ≤ item.appliedPriority ∧ item.appliedPriority ≤ 9 := by
  intro item hmem
  by_contra hbounds
  have hlong : 10 ≤ item.appliedPriority.natAbs := by omega
  obtain ⟨done, rest, rfl⟩ := List.append_of_mem hmem
  obtain ⟨c, more, hformat⟩ := cutRecord_proper processId done rest hlong
  have hproper : cutRecord processId (done ++ item :: rest).length done item ≠
      formatAdjustmentRecord processId (done ++ item :: rest) := by
    rw [hformat]
    simp
  have hfound := htorn _ ⟨c :: more, hformat.symm⟩ hproper _ (parseAdjustmentRecord_cutRecord h hlong)
  -- the adjustment read in its place would be the same
  have hsame := (List.cons_prefix_cons.mp ((List.prefix_append_right_inj done).mp hfound)).1
  have happlied := congrArg PriorityAdjustment.appliedPriority hsame
  have habs := natAbs_tdiv_ten item.appliedPriority
  dsimp only at happlied
  rw [happlied] at habs
  omega

/-- A record of priorities −15..15 decodes safely exactly if no applied priority has two digits. -/
theorem decodes_safely_iff (processId : UInt32) (items : List PriorityAdjustment)
    (h : ValidPriorities items) :
    DecodesSafely processId items ↔
      ∀ item ∈ items, -9 ≤ item.appliedPriority ∧ item.appliedPriority ≤ 9 :=
  ⟨fun hsafe => one_digit_of_torn h hsafe.torn, fun hdigit =>
    { whole := parseAdjustmentRecord_format h
      torn := fun _ hpart _ _ hfound => torn_of_one_digit h hdigit hpart hfound }⟩

/-- Two threads raised to 1. -/
theorem decodes_safely_iff_two :
    DecodesSafely 42 [⟨100, 0, 1⟩, ⟨101, -2, 1⟩] ↔
      ∀ item ∈ [(⟨100, 0, 1⟩ : PriorityAdjustment), ⟨101, -2, 1⟩],
        -9 ≤ item.appliedPriority ∧ item.appliedPriority ≤ 9 :=
  decodes_safely_iff 42 [⟨100, 0, 1⟩, ⟨101, -2, 1⟩] (by unfold ValidPriorities; decide)

/-- A thread raised to 15 is read as raised to 1 when the last two characters are missing. -/
theorem time_critical_torn : ¬ DecodesSafely 42 [⟨100, 0, 15⟩] := by
  intro hsafe
  have hfound := hsafe.torn (cutRecord 42 1 [] ⟨100, 0, 15⟩) (by decide +kernel) (by decide +kernel)
    [⟨100, 0, 1⟩] (by decide +kernel)
  exact absurd hfound (by decide)

end Record

end Scheduler
end CppOptimizer
