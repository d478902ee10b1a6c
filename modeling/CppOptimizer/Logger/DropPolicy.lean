import Mathlib.Data.List.Perm.Basic
import CppOptimizer.Logger.SinkOrder

/-!
# CppOptimizer.Logger.DropPolicy

Which record a full queue gives up.

* `Drops`       — the push is accepted and one record less is queued than was there with it.
* `DropsLowest` — no record of a lower level stays behind the one that is dropped.
* `VictimLowest` — the queue and the record for which this holds.

The queue is not searched for its lowest level. An arriving record of no protected level is the one
that is dropped, whatever is queued; a protected one takes the place of the oldest record of no
protected level, whatever is behind it.
-/

namespace CppOptimizer
namespace Logger

open Common

/-- The record that is neither queued after the push nor refused to the caller. -/
def Drops (q : AsyncLogQueue) (record dropped : LogRecord) : Prop :=
  (q.push record).1 = .ok () ∧ (dropped :: (q.push record).2.queue).Perm (q.queue ++ [record])

def DropsLowest (q : AsyncLogQueue) (record : LogRecord) : Prop :=
  ∀ dropped, Drops q record dropped →
    ∀ queued ∈ (q.push record).2.queue, ¬ queued.level.toNat < dropped.level.toNat

/-- In a full queue, the arriving record, or the oldest one it may replace, is of the lowest level. -/
structure VictimLowest (q : AsyncLogQueue) (record : LogRecord) : Prop where
  arriving : q.stopping = false → q.capacity ≤ q.queue.length →
    isProtectedLevel record.level = false →
    ∀ queued ∈ q.queue, record.level.toNat ≤ queued.level.toNat
  oldest : q.stopping = false → q.capacity ≤ q.queue.length →
    isProtectedLevel record.level = true →
    ∀ old, q.queue.find? (isReplaceable record) = some old →
    ∀ queued ∈ q.queue, old.level.toNat ≤ queued.level.toNat

section Cases

variable {q : AsyncLogQueue} {record : LogRecord}

/-- What is left over is determined by what is queued. -/
theorem eq_of_cons_perm {a b : LogRecord} {rest : List LogRecord}
    (h : (a :: rest).Perm (b :: rest)) : a = b := by
  have hcount := h.count_eq b
  rw [List.count_cons, List.count_cons_self] at hcount
  by_contra hne
  rw [if_neg (by simpa using hne)] at hcount
  omega

theorem not_drops_of_refused (h : (q.push record).1 ≠ .ok ()) (dropped : LogRecord) :
    ¬ Drops q record dropped := by
  rintro ⟨hok, _⟩
  exact h hok

theorem not_drops_of_room (hopen : q.stopping = false) (hroom : q.queue.length < q.capacity)
    (dropped : LogRecord) : ¬ Drops q record dropped := by
  rintro ⟨_, hperm⟩
  have hlen := hperm.length_eq
  simp [AsyncLogQueue.push, hopen, hroom] at hlen

/-- The arriving record is dropped. -/
theorem drops_arriving (hopen : q.stopping = false) (hfull : ¬ q.queue.length < q.capacity)
    (hplain : isProtectedLevel record.level = false) :
    (q.push record).2.queue = q.queue ∧ ∀ dropped, Drops q record dropped ↔ dropped = record := by
  have hpush : q.push record = (.ok (), { q with dropped := q.dropped + 1 }) := by
    simp [AsyncLogQueue.push, hopen, hfull, hplain]
  refine ⟨by rw [hpush], ?_⟩
  intro dropped
  rw [Drops, hpush]
  have hlast : (record :: q.queue).Perm (q.queue ++ [record]) := (List.perm_append_singleton _ _).symm
  constructor
  · rintro ⟨_, hperm⟩
    exact eq_of_cons_perm (hperm.trans hlast.symm)
  · rintro rfl
    exact ⟨rfl, hlast⟩

/-- The oldest record that may be replaced is dropped. -/
theorem drops_oldest (h : replaces q (.push record) = true) :
    ∃ old, q.queue.find? (isReplaceable record) = some old ∧
      (∀ queued ∈ (q.push record).2.queue, queued = record ∨ queued ∈ q.queue) ∧
      (∀ queued ∈ q.queue, queued = old ∨ queued ∈ (q.push record).2.queue) ∧
      ∀ dropped, Drops q record dropped ↔ dropped = old := by
  obtain ⟨_, _, hlt, hpush⟩ := push_of_replaces h
  have hset := List.set_perm_cons_eraseIdx hlt record
  have herase := List.getElem_cons_eraseIdx_perm hlt
  have hlast : (q.queue[q.queue.findIdx (isReplaceable record)] ::
      q.queue.set (q.queue.findIdx (isReplaceable record)) record).Perm (q.queue ++ [record]) := by
    refine (hset.cons _).trans ((List.Perm.swap _ _ _).trans ?_)
    exact (herase.cons record).trans (List.perm_append_singleton _ _).symm
  have hfind : q.queue.find? (isReplaceable record) =
      some q.queue[q.queue.findIdx (isReplaceable record)] := by
    rw [List.find?_eq_getElem?_findIdx, List.getElem?_eq_getElem hlt]
  refine ⟨_, hfind, ?_, ?_, ?_⟩
  · rw [hpush]
    intro queued hqueued
    rcases List.mem_cons.mp (hset.subset hqueued) with rfl | hqueued
    · exact .inl rfl
    · exact .inr (List.mem_of_mem_eraseIdx hqueued)
  · rw [hpush]
    intro queued hqueued
    rcases List.mem_cons.mp (herase.symm.subset hqueued) with rfl | hqueued
    · exact .inl rfl
    · exact .inr (hset.symm.subset (List.mem_cons_of_mem _ hqueued))
  · intro dropped
    rw [Drops, hpush]
    constructor
    · rintro ⟨_, hperm⟩
      exact eq_of_cons_perm (hperm.trans hlast.symm)
    · rintro rfl
      exact ⟨rfl, hlast⟩

/-- A record that may be replaced is below the one that replaces it. -/
theorem lt_of_isReplaceable {queued : LogRecord} (h : isReplaceable record queued = true) :
    queued.level.toNat < record.level.toNat := by
  simp only [isReplaceable, Bool.and_eq_true, decide_eq_true_eq] at h
  exact h.2

/-- A closed queue. -/
theorem drops_lowest_iff_of_stopping (hstop : q.stopping = true) :
    DropsLowest q record ↔ VictimLowest q record := by
  have hpush : (q.push record).1 ≠ .ok () := by
    rw [AsyncLogQueue.push, if_pos hstop]
    intro hok
    cases hok
  have hclosed : q.stopping ≠ false := by
    rw [hstop]
    decide
  exact iff_of_true (fun dropped hd => absurd hd (not_drops_of_refused hpush dropped))
    ⟨fun hopen => absurd hopen hclosed, fun hopen => absurd hopen hclosed⟩

/-- A queue with room. -/
theorem drops_lowest_iff_of_room (hopen : q.stopping = false)
    (hroom : q.queue.length < q.capacity) : DropsLowest q record ↔ VictimLowest q record := by
  have hnotFull : ¬ q.capacity ≤ q.queue.length := by omega
  exact iff_of_true (fun dropped hd => absurd hd (not_drops_of_room hopen hroom dropped))
    ⟨fun _ hfull => absurd hfull hnotFull, fun _ hfull => absurd hfull hnotFull⟩

/-- A full queue at which a record of no protected level arrives. -/
theorem drops_lowest_iff_of_plain (hopen : q.stopping = false)
    (hfull : ¬ q.queue.length < q.capacity) (hplain : isProtectedLevel record.level = false) :
    DropsLowest q record ↔ VictimLowest q record := by
  obtain ⟨hqueue, hdrops⟩ := drops_arriving hopen hfull hplain
  constructor
  · intro h
    refine ⟨fun _ _ _ queued hqueued => ?_, fun _ _ hprot => ?_⟩
    · exact Nat.le_of_not_lt (h record ((hdrops record).mpr rfl) queued (hqueue ▸ hqueued))
    · rw [hplain] at hprot
      cases hprot
  · intro h dropped hd queued hqueued
    rw [(hdrops dropped).mp hd]
    exact Nat.not_lt_of_le
      (h.arriving hopen (Nat.le_of_not_lt hfull) hplain queued (hqueue ▸ hqueued))

/-- A full queue that gives a record of a protected level back to the caller. -/
theorem drops_lowest_iff_of_none (hopen : q.stopping = false)
    (hfull : ¬ q.queue.length < q.capacity) (hprot : isProtectedLevel record.level = true)
    (hnone : q.queue.any (isReplaceable record) = false) :
    DropsLowest q record ↔ VictimLowest q record := by
  have hkeep : replaceOldest record q.queue = none := by
    rw [← Option.not_isSome_iff_eq_none, replaceOldest_isSome, hnone]
    exact Bool.false_ne_true
  have hpush : (q.push record).1 ≠ .ok () := by
    simp [AsyncLogQueue.push, hopen, hfull, hprot, hkeep]
  refine iff_of_true (fun dropped hd => absurd hd (not_drops_of_refused hpush dropped)) ⟨?_, ?_⟩
  · intro _ _ hplain
    rw [hprot] at hplain
    cases hplain
  · intro _ _ _ old hold
    have hany := List.any_eq_true.mpr ⟨old, List.mem_of_find?_eq_some hold, List.find?_some hold⟩
    rw [hnone] at hany
    cases hany

/-- A full queue in which such a record takes the place of an older one. -/
theorem drops_lowest_iff_of_some (hopen : q.stopping = false)
    (hfull : ¬ q.queue.length < q.capacity) (hprot : isProtectedLevel record.level = true)
    (hsome : q.queue.any (isReplaceable record) = true) :
    DropsLowest q record ↔ VictimLowest q record := by
  have hreplaces : replaces q (.push record) = true := by
    simp [replaces, hopen, hfull, hprot, hsome]
  obtain ⟨old, hfind, hafter, hbefore, hdrops⟩ := drops_oldest hreplaces
  have hlower := lt_of_isReplaceable (List.find?_some hfind)
  constructor
  · intro h
    refine ⟨fun _ _ hplain => ?_, fun _ _ _ found hfound queued hqueued => ?_⟩
    · rw [hprot] at hplain
      cases hplain
    · rw [hfind] at hfound
      cases hfound
      rcases hbefore queued hqueued with rfl | hqueued
      · exact Nat.le_refl _
      · exact Nat.le_of_not_lt (h old ((hdrops old).mpr rfl) queued hqueued)
  · intro h dropped hd queued hqueued
    rw [(hdrops dropped).mp hd]
    rcases hafter queued hqueued with rfl | hqueued
    · omega
    · exact Nat.not_lt_of_le
        (h.oldest hopen (Nat.le_of_not_lt hfull) hprot old hfind queued hqueued)

end Cases

/-- A push drops a record of the lowest level exactly if the record it gives up without a search
happens to be one. -/
theorem drops_lowest_iff (q : AsyncLogQueue) (record : LogRecord) :
    DropsLowest q record ↔ VictimLowest q record := by
  cases hopen : q.stopping with
  | true => exact drops_lowest_iff_of_stopping hopen
  | false =>
    by_cases hroom : q.queue.length < q.capacity
    · exact drops_lowest_iff_of_room hopen hroom
    · cases hprot : isProtectedLevel record.level with
      | false => exact drops_lowest_iff_of_plain hopen hroom hprot
      | true =>
        cases hany : q.queue.any (isReplaceable record) with
        | false => exact drops_lowest_iff_of_none hopen hroom hprot hany
        | true => exact drops_lowest_iff_of_some hopen hroom hprot hany

/-- A warning is dropped while a trace record stays queued, and a protected record replaces the older
info record and not the trace record behind it. -/
theorem trace_outlives_warning :
    ¬ DropsLowest { capacity := 1, queue := [{ level := .trace }] } { level := .warn } ∧
      ¬ DropsLowest { capacity := 2, queue := [{ level := .info }, { level := .trace }] }
        { level := .error } := by
  constructor
  · intro h
    exact h { level := .warn } ⟨rfl, by decide⟩ { level := .trace } (by decide) (by decide)
  · intro h
    exact h { level := .info } ⟨rfl, by decide⟩ { level := .trace } (by decide) (by decide)

end Logger
end CppOptimizer
