import CppOptimizer.Common.Text
import CppOptimizer.Lib.Strings
import CppOptimizer.Policy.SafetyGates

/-!
# CppOptimizer.Policy.Cooldown

The cooldown ledger on disk (`safety_gates.cpp`): its text, the reader that skips what it cannot
read, and the merge of one run.

* `parseCooldownLedger`, `formatCooldownLedger` — the file, with `parse_format_ledger`.
* `withCooldownRun` — one run merged into a ledger; a clock set back never shortens a window.
-/

namespace CppOptimizer
namespace Policy

open Common Lib

def kCooldownEnvelope : Text := "CppOptimizerCooldowns/1".toList

/-! ## The file -/

/-- A line after the envelope: `<id> <seconds>`; other lines are skipped. -/
def parseLedgerLine (ledger : CooldownLedger) (line : Text) : CooldownLedger :=
  match cut [' '] line with
  | none => ledger
  | some (capabilityId, number) =>
    match stoll number with
    | none => ledger
    | some seconds =>
      { ledger with
        lastRunUnixSeconds :=
          ledger.lastRunUnixSeconds.insert (String.ofList capabilityId) seconds }

/-- The lines of a ledger; under another envelope there is no ledger. -/
def parseCooldownLedger (content : Text) : CooldownLedger :=
  match lines content with
  | [] => {}
  | first :: rest => if first = kCooldownEnvelope then rest.foldl parseLedgerLine {} else {}

/-- `ReadCooldownLedger` where the file can be read; a missing file holds no record. -/
def readCooldownLedger : Option Text → CooldownLedger
  | none => {}
  | some content => parseCooldownLedger content

def formatLedgerLine (entry : String × Int) : Text :=
  entry.1.toList ++ ' ' :: decimalInt entry.2

/-- The text `WriteCooldownLedger` writes. -/
def formatCooldownLedger (ledger : CooldownLedger) : Text :=
  unlines (kCooldownEnvelope :: ledger.lastRunUnixSeconds.entries.map formatLedgerLine)

/-! ## One run -/

def withCooldownRun (ledger : CooldownLedger) (capabilityId : String) (nowUnixSeconds : Int) :
    CooldownLedger :=
  if capabilityId = "" ∨ nowUnixSeconds ≤ 0 then ledger
  else
    match ledger.lastRunUnixSeconds.find? capabilityId with
    | some last =>
      if last > nowUnixSeconds then ledger
      else
        { ledger with
          lastRunUnixSeconds := ledger.lastRunUnixSeconds.insert capabilityId nowUnixSeconds }
    | none =>
      { ledger with
        lastRunUnixSeconds := ledger.lastRunUnixSeconds.insert capabilityId nowUnixSeconds }

/-! ## What is written is read back -/

/-- An id that can stand in a line of the ledger. -/
def PlainId (capabilityId : String) : Prop :=
  ' ' ∉ capabilityId.toList ∧ '\n' ∉ capabilityId.toList

instance (capabilityId : String) : Decidable (PlainId capabilityId) :=
  inferInstanceAs (Decidable (_ ∧ _))

/-- A ledger whose records survive a write. -/
def CooldownLedger.Storable (ledger : CooldownLedger) : Prop :=
  ∀ entry ∈ ledger.lastRunUnixSeconds.entries, PlainId entry.1 ∧ IsInt64 entry.2

theorem ledger_ext {ledger ledger' : CooldownLedger}
    (h : ledger.lastRunUnixSeconds = ledger'.lastRunUnixSeconds) : ledger = ledger' := by
  cases ledger
  cases ledger'
  simpa using h

theorem parseLedgerLine_format (ledger : CooldownLedger) {entry : String × Int}
    (hid : PlainId entry.1) (hvalue : IsInt64 entry.2) :
    parseLedgerLine ledger (formatLedgerLine entry) =
      { ledger with lastRunUnixSeconds := ledger.lastRunUnixSeconds.insert entry.1 entry.2 } := by
  have hcut : cut [' '] (formatLedgerLine entry) = some (entry.1.toList, decimalInt entry.2) :=
    cut_of_head_not_mem hid.1 (decimalInt entry.2)
  simp only [parseLedgerLine, hcut, stoll_decimalInt hvalue, String.ofList_toList]

theorem foldl_parseLedgerLine_format {entries : List (String × Int)} (ledger : CooldownLedger)
    (h : ∀ entry ∈ entries, PlainId entry.1 ∧ IsInt64 entry.2) :
    ((entries.map formatLedgerLine).foldl parseLedgerLine ledger).lastRunUnixSeconds =
      entries.foldl (fun m p => m.insert p.1 p.2) ledger.lastRunUnixSeconds := by
  induction entries generalizing ledger with
  | nil => rfl
  | cons entry entries ih =>
    obtain ⟨hid, hvalue⟩ := h entry List.mem_cons_self
    rw [List.map_cons, List.foldl_cons, parseLedgerLine_format ledger hid hvalue, List.foldl_cons]
    exact ih _ fun e he => h e (List.mem_cons_of_mem _ he)

theorem newline_not_mem_formatLedgerLine {entry : String × Int} (h : PlainId entry.1) :
    '\n' ∉ formatLedgerLine entry := by
  have hnumber := newline_not_mem_decimalInt entry.2
  simp [formatLedgerLine, h.2, hnumber]

/-- Reading back a written ledger gives the ledger. -/
theorem parse_format_ledger {ledger : CooldownLedger} (h : ledger.Storable) :
    parseCooldownLedger (formatCooldownLedger ledger) = ledger := by
  have hlines : ∀ l ∈ kCooldownEnvelope :: ledger.lastRunUnixSeconds.entries.map formatLedgerLine,
      '\n' ∉ l := by
    intro l hl
    rcases List.mem_cons.mp hl with rfl | hl
    · decide
    · obtain ⟨entry, hentry, rfl⟩ := List.mem_map.mp hl
      exact newline_not_mem_formatLedgerLine (h entry hentry).1
  simp only [parseCooldownLedger, formatCooldownLedger, lines_unlines hlines, if_true]
  refine ledger_ext ?_
  rw [foldl_parseLedgerLine_format _ h]
  exact SortedMap.foldl_insert_entries _

/-! ## What is read can be written -/

theorem Storable.insert {ledger : CooldownLedger} (h : ledger.Storable) {capabilityId : String}
    {seconds : Int} (hid : PlainId capabilityId) (hvalue : IsInt64 seconds) :
    CooldownLedger.Storable
      { ledger with
        lastRunUnixSeconds := ledger.lastRunUnixSeconds.insert capabilityId seconds } := by
  intro entry hentry
  rcases SortedMap.mem_insert.mp hentry with rfl | ⟨hentry, _⟩
  · exact ⟨hid, hvalue⟩
  · exact h entry hentry

theorem storable_parseLedgerLine {ledger : CooldownLedger} (h : ledger.Storable) {line : Text}
    (hline : '\n' ∉ line) : (parseLedgerLine ledger line).Storable := by
  unfold parseLedgerLine
  split
  · exact h
  · rename_i capabilityId number hcut
    split
    · exact h
    · rename_i seconds hseconds
      have hid : PlainId (String.ofList capabilityId) := by
        rw [PlainId, String.toList_ofList]
        exact ⟨not_mem_of_cut_singleton hcut, fun hmem => hline (subset_of_cut hcut hmem)⟩
      exact Storable.insert h hid (isInt64_of_stoll hseconds)

theorem storable_foldl {ledger : CooldownLedger} (h : ledger.Storable) {ls : List Text}
    (hls : ∀ l ∈ ls, '\n' ∉ l) : (ls.foldl parseLedgerLine ledger).Storable := by
  induction ls generalizing ledger with
  | nil => exact h
  | cons l ls ih =>
    exact ih (storable_parseLedgerLine h (hls l List.mem_cons_self)) fun m hm =>
      hls m (List.mem_cons_of_mem _ hm)

theorem storable_empty : CooldownLedger.Storable {} := by
  intro entry hentry
  cases hentry

/-- Whatever the file holds, the ledger read from it can be written. -/
theorem storable_readCooldownLedger (file : Option Text) : (readCooldownLedger file).Storable := by
  cases file with
  | none => exact storable_empty
  | some content =>
    simp only [readCooldownLedger, parseCooldownLedger]
    split
    · exact storable_empty
    · rename_i first rest hlines
      split
      · refine storable_foldl storable_empty fun l hl => ?_
        exact newline_not_mem_of_mem_lines (by rw [hlines]; exact List.mem_cons_of_mem _ hl)
      · exact storable_empty

/-! ## What a run changes -/

section WithRun

variable {ledger : CooldownLedger} {capabilityId : String} {now : Int}

theorem withCooldownRun_of_ne {other : String} (h : other ≠ capabilityId) :
    (withCooldownRun ledger capabilityId now).lastRunUnixSeconds.find? other =
      ledger.lastRunUnixSeconds.find? other := by
  unfold withCooldownRun
  split
  · rfl
  · split
    · split
      · rfl
      · exact SortedMap.find?_insert_of_ne _ _ h
    · exact SortedMap.find?_insert_of_ne _ _ h

/-- The run is recorded, unless a later one is already there. -/
theorem withCooldownRun_self (hid : capabilityId ≠ "") (hnow : 0 < now) :
    ∃ last, (withCooldownRun ledger capabilityId now).lastRunUnixSeconds.find? capabilityId =
      some last ∧ now ≤ last := by
  unfold withCooldownRun
  rw [if_neg (not_or.mpr ⟨hid, by omega⟩)]
  split
  · rename_i last hlast
    split
    · rename_i hlater
      exact ⟨last, hlast, le_of_lt hlater⟩
    · exact ⟨now, SortedMap.find?_insert_self _ _ _, le_refl now⟩
  · exact ⟨now, SortedMap.find?_insert_self _ _ _, le_refl now⟩

/-- A record never moves back. -/
theorem withCooldownRun_mono {other : String} {last : Int}
    (h : ledger.lastRunUnixSeconds.find? other = some last) :
    ∃ last', (withCooldownRun ledger capabilityId now).lastRunUnixSeconds.find? other =
      some last' ∧ last ≤ last' := by
  by_cases hother : other = capabilityId
  · subst hother
    unfold withCooldownRun
    split
    · exact ⟨last, h, le_refl last⟩
    · simp only [h]
      split
      · exact ⟨last, h, le_refl last⟩
      · rename_i hlater
        exact ⟨now, SortedMap.find?_insert_self _ _ _, not_lt.mp hlater⟩
  · exact ⟨last, (withCooldownRun_of_ne hother).trans h, le_refl last⟩

theorem storable_withCooldownRun (h : ledger.Storable) (hid : PlainId capabilityId)
    (hnow : IsInt64 now) : (withCooldownRun ledger capabilityId now).Storable := by
  unfold withCooldownRun
  split
  · exact h
  · split
    · split
      · exact h
      · exact Storable.insert h hid hnow
    · exact Storable.insert h hid hnow

end WithRun

/-- `RecordCooldownRun` as a whole, where every file step works. -/
def recordedFile (file : Option Text) (capabilityId : String) (now : Int) : Text :=
  formatCooldownLedger (withCooldownRun (readCooldownLedger file) capabilityId now)

theorem read_recordedFile (file : Option Text) {capabilityId : String} {now : Int}
    (hid : PlainId capabilityId) (hnow : IsInt64 now) :
    readCooldownLedger (some (recordedFile file capabilityId now)) =
      withCooldownRun (readCooldownLedger file) capabilityId now :=
  parse_format_ledger (storable_withCooldownRun (storable_readCooldownLedger file) hid hnow)

end Policy
end CppOptimizer
