import CppOptimizer.Logger.AsyncQueue

/-!
# CppOptimizer.Logger.Watermark

The flush watermark of the queue. `Flush` waits until `writtenSeq` reaches the value `pushedSeq` had
when it was called, so the two counters must agree once everything accepted has been written.

* `FlushWatermark q` — the counters balance in `q`, and a flush started in `q` is released when the
  records it waits for are written; the worker alone can write them.
* `flush_watermark_iff` — this holds along a run exactly when no push replaces a queued record. A
  replacement bumps `pushedSeq` although the queue does not grow.
-/

namespace CppOptimizer
namespace Logger

open Lib

/-- The records accepted and not yet written, in the order in which the worker takes them. -/
def AsyncLogQueue.pending (q : AsyncLogQueue) : List LogRecord := q.inFlight.toList ++ q.queue

def QueueEvent.isWorker : QueueEvent → Bool
  | .pop | .complete => true
  | _ => false

structure FlushWatermark (q : AsyncLogQueue) : Prop where
  balance : q.pushedSeq = q.writtenSeq + q.queue.length + q.inFlight.toList.length
  idle : q.queue = [] → q.inFlight = none → q.writtenSeq = q.pushedSeq
  released : ∀ es, q.sink ++ q.pending <+: (run AsyncLogQueue.step q es).sink →
    (run AsyncLogQueue.step q es).flushReleased q.flushTarget = true
  workerAlone : ∃ es : List QueueEvent, es.all QueueEvent.isWorker = true ∧
    (run AsyncLogQueue.step q es).flushReleased q.flushTarget = true

/-! ## The worker counts what the sink got -/

theorem step_writtenSeq (q : AsyncLogQueue) (e : QueueEvent) (h : q.writtenSeq = q.sink.length) :
    (q.step e).writtenSeq = (q.step e).sink.length := by
  cases e with
  | push record =>
    cases push_end q record with
    | refused _ hp | appended _ _ _ hp | replaced _ _ _ _ hp | dropped _ _ _ hp =>
      rw [AsyncLogQueue.step, hp]
      exact h
  | pop =>
    obtain hp | ⟨record, rest, _, _, hp⟩ := pop_cases q <;>
      · rw [AsyncLogQueue.step, hp]
        exact h
  | complete =>
    obtain hp | ⟨record, _, hp⟩ := complete_cases q
    · rw [AsyncLogQueue.step, hp]
      exact h
    · rw [AsyncLogQueue.step, hp]
      simp [h]
  | stop => exact h
  | finish =>
    obtain hp | hp := finish_cases q <;>
      · rw [AsyncLogQueue.step, hp]
        exact h

theorem run_writtenSeq (q : AsyncLogQueue) (es : List QueueEvent)
    (h : q.writtenSeq = q.sink.length) :
    (run AsyncLogQueue.step q es).writtenSeq = (run AsyncLogQueue.step q es).sink.length := by
  induction es generalizing q with
  | nil => exact h
  | cons e es ih => exact ih (q.step e) (step_writtenSeq q e h)

/-! ## The balance of the counters -/

structure Balanced (q : AsyncLogQueue) : Prop where
  balance : q.pushedSeq = q.writtenSeq + q.queue.length + q.inFlight.toList.length
  counted : q.writtenSeq = q.sink.length

theorem step_balanced {q : AsyncLogQueue} {e : QueueEvent} (hq : Balanced q)
    (hok : replaces q e = false) : Balanced (q.step e) := by
  refine ⟨?_, step_writtenSeq q e hq.counted⟩
  have hb := hq.balance
  cases e with
  | push record =>
    cases push_end q record with
    | refused _ hp | dropped _ _ _ hp =>
      rw [AsyncLogQueue.step, hp]
      exact hb
    | appended _ _ _ hp =>
      rw [AsyncLogQueue.step, hp]
      simp only [List.length_append, List.length_singleton]
      omega
    | replaced hbad _ _ _ _ =>
      rw [hok] at hbad
      cases hbad
  | pop =>
    obtain hp | ⟨record, rest, hflight, hqueue, hp⟩ := pop_cases q
    · rw [AsyncLogQueue.step, hp]
      exact hb
    · rw [AsyncLogQueue.step, hp]
      simp only [hqueue, hflight, List.length_cons, Option.toList_none, Option.toList_some,
        List.length_nil] at hb ⊢
      omega
  | complete =>
    obtain hp | ⟨record, hflight, hp⟩ := complete_cases q
    · rw [AsyncLogQueue.step, hp]
      exact hb
    · rw [AsyncLogQueue.step, hp]
      simp only [hflight, Option.toList_none, Option.toList_some, List.length_cons,
        List.length_nil] at hb ⊢
      omega
  | stop => exact hb
  | finish =>
    obtain hp | hp := finish_cases q <;>
      · rw [AsyncLogQueue.step, hp]
        exact hb

/-- A replacement takes a number of its own and leaves the queue as long as it was. -/
theorem replaces_unbalanced {q : AsyncLogQueue} {e : QueueEvent} (hq : Balanced q)
    (hbad : replaces q e = true) : ¬ FlushWatermark (q.step e) := by
  intro hw
  have hb := hq.balance
  have hb' := hw.balance
  cases e with
  | push record =>
    cases push_end q record with
    | refused hok _ | appended hok _ _ _ | dropped hok _ _ _ =>
      rw [hok] at hbad
      cases hbad
    | replaced _ _ hqueue _ hp =>
      rw [AsyncLogQueue.step, hp] at hb'
      simp only [hqueue, List.length_append, List.length_cons] at hb hb'
      omega
  | pop | complete | stop | finish => cases hbad

/-! ## A flush is released -/

theorem flushReleased_of_le {q : AsyncLogQueue} {target : Nat} (h : target ≤ q.writtenSeq) :
    q.flushReleased target = true := by
  simp [AsyncLogQueue.flushReleased, h]

/-- The worker's steps for what is queued. -/
def drain (q : AsyncLogQueue) : List QueueEvent :=
  .complete :: q.queue.flatMap fun _ => [.pop, .complete]

theorem all_isWorker_drain (q : AsyncLogQueue) : (drain q).all QueueEvent.isWorker = true := by
  simp [drain, QueueEvent.isWorker]

/-- From an idle worker, as many rounds as there are queued records write them all. -/
theorem run_rounds (q : AsyncLogQueue) (hflight : q.inFlight = none) (hrun : q.finished = false) :
    (run AsyncLogQueue.step q (q.queue.flatMap fun _ => [.pop, .complete])).writtenSeq =
      q.writtenSeq + q.queue.length := by
  obtain ⟨queue, hqueue⟩ : ∃ queue, q.queue = queue := ⟨_, rfl⟩
  rw [hqueue]
  induction queue generalizing q with
  | nil => rfl
  | cons record rest ih =>
    have hround : (q.step .pop).step .complete =
        { q with queue := rest, written := q.written + 1, writtenSeq := q.writtenSeq + 1,
                 sink := q.sink ++ [record] } := by
      simp [AsyncLogQueue.step, AsyncLogQueue.pop, AsyncLogQueue.complete, hrun, hflight, hqueue]
    have hrest := ih ((q.step .pop).step .complete) (by rw [hround]; exact hflight)
      (by rw [hround]; exact hrun) (by rw [hround])
    rw [List.flatMap_cons, run_append, run_cons, run_cons, run_nil, hrest, hround]
    simp only [List.length_cons]
    omega

theorem run_drain (q : AsyncLogQueue) (hrun : q.finished = false) :
    (run AsyncLogQueue.step q (drain q)).writtenSeq =
      q.writtenSeq + q.queue.length + q.inFlight.toList.length := by
  rw [drain, run_cons]
  cases hflight : q.inFlight with
  | none =>
    have : q.step .complete = q := by simp [AsyncLogQueue.step, AsyncLogQueue.complete, hflight]
    rw [this, run_rounds q hflight hrun]
    rfl
  | some record =>
    have hstep : q.step .complete =
        { q with inFlight := none, written := q.written + 1, writtenSeq := q.writtenSeq + 1,
                 sink := q.sink ++ [record] } := by
      simp [AsyncLogQueue.step, AsyncLogQueue.complete, hflight]
    have hrounds := run_rounds (q.step .complete) (by rw [hstep]) (by rw [hstep]; exact hrun)
    rw [hstep] at hrounds ⊢
    rw [hrounds]
    simp only [Option.toList_some, List.length_singleton]
    omega

theorem Balanced.watermark {q : AsyncLogQueue} (hq : Balanced q) : FlushWatermark q where
  balance := hq.balance
  idle hqueue hflight := by
    have := hq.balance
    simp only [hqueue, hflight, List.length_nil, Option.toList_none] at this
    omega
  released es hdrained := by
    have hlen := hdrained.length_le
    have hcount := run_writtenSeq q es hq.counted
    have hb := hq.balance
    have hs := hq.counted
    simp only [AsyncLogQueue.pending, List.length_append] at hlen
    exact flushReleased_of_le (by rw [AsyncLogQueue.flushTarget]; omega)
  workerAlone := by
    cases hrun : q.finished with
    | false =>
      refine ⟨drain q, all_isWorker_drain q, flushReleased_of_le ?_⟩
      rw [run_drain q hrun]
      exact hq.balance.le
    | true => exact ⟨[], rfl, by simp [AsyncLogQueue.flushReleased, hrun]⟩

/-- Along a run on a new queue the watermark is right exactly when no push replaces a record. -/
theorem flush_watermark_iff (capacity : Nat) (es : List QueueEvent) :
    Always AsyncLogQueue.step FlushWatermark { capacity := capacity } es ↔
      Steps AsyncLogQueue.step (fun q e => replaces q e = false) { capacity := capacity } es :=
  always_iff_steps (I := Balanced) (fun _ _ hq hok => step_balanced hq hok)
    (fun _ hq => hq.watermark)
    (fun _ _ hq hn => replaces_unbalanced hq (by simpa using hn)) ⟨rfl, rfl⟩

/-- Capacity 1: an error takes the place of the queued info record and is written. The queue is
empty and idle, but the watermark is one ahead for ever. -/
theorem replaced_record_unbalances :
    ¬ Always AsyncLogQueue.step FlushWatermark { capacity := 1 }
      [.push { level := .info }, .push { level := .error }, .pop, .complete] := by
  intro h
  exact absurd (h.last.idle (by decide) (by decide)) (by decide)

end Logger
end CppOptimizer
