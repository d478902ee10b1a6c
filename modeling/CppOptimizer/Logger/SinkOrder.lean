import CppOptimizer.Logger.Conservation
import CppOptimizer.Logger.Watermark

/-!
# CppOptimizer.Logger.SinkOrder

The order in which the sink gets the records.

* `TracedQueue`   — the queue with the accepted pushes, numbered in their order, and the number of each
  record on its way to the sink.
* `SinkInOrder`   — the sink got its records in the order of their pushes.
* `overtakes`     — the push takes the place of a record that is not the last of the queue.
* `sink_order_iff` — whatever the worker goes on to write is in order, exactly as long as no push
  overtakes.

A replacement writes the new record over the old one, in the middle of the queue. The records behind it
were pushed earlier and reach the sink later.
-/

namespace CppOptimizer
namespace Logger

open Common Lib

structure TracedQueue where
  q : AsyncLogQueue
  /-- The records of the accepted pushes, in the order of the pushes. -/
  pushed : List LogRecord := []
  /-- The pushes of the records in the sink, in flight and in the queue. -/
  order : List Nat := []

/-- The place of the record that a push takes, among all records on their way. -/
def takenPlace (q : AsyncLogQueue) (record : LogRecord) : Nat :=
  (q.sink ++ q.inFlight.toList).length + q.queue.findIdx (isReplaceable record)

/-- The numbers after a step that accepts the push `n`, if it accepts one. -/
def reorder (q : AsyncLogQueue) (e : QueueEvent) (n : Nat) (order : List Nat) : List Nat :=
  match e with
  | .push record =>
    if q.stopping then order
    else if q.queue.length < q.capacity then order ++ [n]
    else if replaces q (.push record) then order.set (takenPlace q record) n
    else order
  | _ => order

def TracedQueue.step (t : TracedQueue) (e : QueueEvent) : TracedQueue :=
  { q := t.q.step e
    pushed := t.pushed ++ acceptedBy t.q e
    order := reorder t.q e t.pushed.length t.order }

/-- The records of the sink, by their pushes. -/
structure SinkInOrder (t : TracedQueue) : Prop where
  named : (t.order.take t.q.sink.length).map (t.pushed[·]?) = t.q.sink.map some
  ascending : (t.order.take t.q.sink.length).Pairwise (· < ·)
  sublist : t.q.sink.Sublist t.pushed

/-- The push takes the place of a record with another one behind it. -/
def overtakes (q : AsyncLogQueue) : QueueEvent → Bool
  | .push record =>
    replaces q (.push record) &&
      decide (q.queue.findIdx (isReplaceable record) + 1 < q.queue.length)
  | _ => false

/-! ## What a push does to the places -/

/-- All records on their way to the sink, those in it included. -/
def AsyncLogQueue.places (q : AsyncLogQueue) : List LogRecord := q.sink ++ q.inFlight.toList ++ q.queue

section Push

variable {q : AsyncLogQueue} {record : LogRecord}

theorem push_of_replaces (h : replaces q (.push record) = true) :
    q.stopping = false ∧ ¬ q.queue.length < q.capacity ∧
      q.queue.findIdx (isReplaceable record) < q.queue.length ∧
      q.push record = (.ok (), { q with
        queue := q.queue.set (q.queue.findIdx (isReplaceable record)) record
        dropped := q.dropped + 1
        pushedSeq := q.pushedSeq + 1 }) := by
  simp only [replaces, Bool.and_eq_true, Bool.not_eq_true', decide_eq_false_iff_not] at h
  obtain ⟨⟨⟨hopen, hfull⟩, hprot⟩, hany⟩ := h
  rw [← replaceOldest_isSome] at hany
  obtain ⟨queue, hqueue⟩ := Option.isSome_iff_exists.mp hany
  obtain ⟨hlt, rfl⟩ := replaceOldest_eq_set hqueue
  refine ⟨hopen, hfull, hlt, ?_⟩
  simp only [AsyncLogQueue.push, hopen, hfull, hprot, hqueue, if_true, if_false, Bool.false_eq_true]

theorem takenPlace_lt (h : replaces q (.push record) = true) :
    takenPlace q record < q.places.length := by
  have hlt := (push_of_replaces h).2.2.1
  simp only [takenPlace, AsyncLogQueue.places, List.length_append] at hlt ⊢
  omega

theorem places_of_replaces (h : replaces q (.push record) = true) :
    (q.push record).2.places = q.places.set (takenPlace q record) record := by
  rw [(push_of_replaces h).2.2.2, takenPlace, AsyncLogQueue.places, AsyncLogQueue.places,
    List.set_append_right _ _ (Nat.le_add_right _ _), Nat.add_sub_cancel_left]

/-- The queue has a record behind the place exactly if the push overtakes one. -/
theorem overtakes_iff (h : replaces q (.push record) = true) :
    overtakes q (.push record) = true ↔ takenPlace q record + 1 < q.places.length := by
  simp only [overtakes, h, Bool.true_and, decide_eq_true_eq, takenPlace, AsyncLogQueue.places,
    List.length_append]
  omega

end Push

/-! ## Numbers -/

section Numbers

variable {order : List Nat} {n i : Nat}

theorem ascending_snoc (h : order.Pairwise (· < ·)) (hlt : ∀ m ∈ order, m < n) :
    (order ++ [n]).Pairwise (· < ·) := by
  rw [List.pairwise_append]
  refine ⟨h, List.pairwise_singleton _ _, ?_⟩
  intro m hm k hk
  rw [List.mem_singleton.mp hk]
  exact hlt m hm

/-- A larger number at the last place keeps the order. -/
theorem ascending_set_last (h : order.Pairwise (· < ·)) (hlt : ∀ m ∈ order, m < n)
    (hi : order.length = i + 1) : (order.set i n).Pairwise (· < ·) := by
  have hset : order.set i n = order.take i ++ [n] := by
    rw [List.set_eq_take_append_cons_drop, if_pos (by omega), List.drop_eq_nil_of_le (by omega)]
  rw [hset]
  refine ascending_snoc (h.sublist (List.take_sublist i order)) ?_
  intro m hm
  exact hlt m (List.mem_of_mem_take hm)

/-- A larger number before another one breaks it. -/
theorem not_ascending_set (hlt : ∀ m ∈ order, m < n) (hi : i + 1 < order.length) :
    ¬ (order.set i n).Pairwise (· < ·) := by
  intro h
  rw [List.pairwise_iff_getElem] at h
  have hnext := h i (i + 1) (by rw [List.length_set]; omega) (by rw [List.length_set]; omega)
    (Nat.lt_succ_self i)
  rw [List.getElem_set_self, List.getElem_set_ne (by omega)] at hnext
  exact absurd (hlt _ (List.getElem_mem hi)) (by omega)

end Numbers

/-! ## The trace -/

/-- The numbers name the records on their way, and are in order. -/
structure Trace (t : TracedQueue) : Prop where
  named : t.order.map (t.pushed[·]?) = t.q.places.map some
  ascending : t.order.Pairwise (· < ·)
  sublist : t.q.places.Sublist t.pushed
  counted : t.q.writtenSeq = t.q.sink.length
  closed : t.q.finished = true → t.q.stopping = true

theorem trace_new (capacity : Nat) : Trace { q := { capacity := capacity } } where
  named := rfl
  ascending := List.Pairwise.nil
  sublist := .slnil
  counted := rfl
  closed h := by cases h

section Step

variable {t : TracedQueue}

theorem Trace.length (h : t.order.map (t.pushed[·]?) = t.q.places.map some) :
    t.order.length = t.q.places.length := by
  simpa using congrArg List.length h

theorem Trace.lt (h : t.order.map (t.pushed[·]?) = t.q.places.map some) {m : Nat}
    (hm : m ∈ t.order) : m < t.pushed.length := by
  have hmem : t.pushed[m]? ∈ t.q.places.map some := h ▸ List.mem_map_of_mem hm
  obtain ⟨record, _, hrecord⟩ := List.mem_map.mp hmem
  exact (List.getElem?_eq_some_iff.mp hrecord.symm).1

/-- More pushes do not rename the records. -/
theorem named_append (h : t.order.map (t.pushed[·]?) = t.q.places.map some)
    (more : List LogRecord) :
    t.order.map ((t.pushed ++ more)[·]?) = t.q.places.map some := by
  rw [← h]
  refine List.map_congr_left fun m hm => ?_
  exact List.getElem?_append_left (Trace.lt h hm)

/-- The worker and `Stop` move no record out of its place. -/
theorem places_step {q : AsyncLogQueue} {e : QueueEvent} (he : ∀ record, e ≠ .push record) :
    (q.step e).places = q.places := by
  cases e with
  | push record => exact absurd rfl (he record)
  | pop =>
    obtain hp | ⟨record, rest, hflight, hqueue, hp⟩ := pop_cases q
    · rw [AsyncLogQueue.step, hp]
    · rw [AsyncLogQueue.step, hp]
      simp [AsyncLogQueue.places, hflight, hqueue]
  | complete =>
    obtain hp | ⟨record, hflight, hp⟩ := complete_cases q
    · rw [AsyncLogQueue.step, hp]
    · rw [AsyncLogQueue.step, hp]
      simp [AsyncLogQueue.places, hflight]
  | stop => rfl
  | finish =>
    obtain hp | hp := finish_cases q
    · rw [AsyncLogQueue.step, hp]
    · rw [AsyncLogQueue.step, hp]
      rfl

theorem step_closed {q : AsyncLogQueue} (e : QueueEvent) (h : q.finished = true → q.stopping = true) :
    (q.step e).finished = true → (q.step e).stopping = true := by
  cases e with
  | push record =>
    cases push_end q record with
    | refused _ hp | appended _ _ _ hp | replaced _ _ _ _ hp | dropped _ _ _ hp =>
      rw [AsyncLogQueue.step, hp]
      exact h
  | pop =>
    obtain hp | ⟨record, rest, _, _, hp⟩ := pop_cases q <;>
      · rw [AsyncLogQueue.step, hp]
        exact h
  | complete =>
    obtain hp | ⟨record, _, hp⟩ := complete_cases q <;>
      · rw [AsyncLogQueue.step, hp]
        exact h
  | stop => exact fun _ => rfl
  | finish =>
    show q.finish.finished = true → q.finish.stopping = true
    unfold AsyncLogQueue.finish
    split
    · case _ hstop _ _ => exact fun _ => hstop
    · exact h

/-- The three ends of a push, by what they do to the trace. -/
inductive TracedPush (t : TracedQueue) (record : LogRecord) : Prop where
  | unplaced (more : List LogRecord)
      (hplaces : (t.step (.push record)).q.places = t.q.places)
      (hpushed : (t.step (.push record)).pushed = t.pushed ++ more)
      (horder : (t.step (.push record)).order = t.order)
      (hkind : overtakes t.q (.push record) = false)
  | appended (hplaces : (t.step (.push record)).q.places = t.q.places ++ [record])
      (hpushed : (t.step (.push record)).pushed = t.pushed ++ [record])
      (horder : (t.step (.push record)).order = t.order ++ [t.pushed.length])
      (hkind : overtakes t.q (.push record) = false)
  | replaced (hkind : replaces t.q (.push record) = true)
      (hplaces : (t.step (.push record)).q.places = t.q.places.set (takenPlace t.q record) record)
      (hpushed : (t.step (.push record)).pushed = t.pushed ++ [record])
      (horder : (t.step (.push record)).order =
        t.order.set (takenPlace t.q record) t.pushed.length)

theorem overtakes_of_not_replaces {q : AsyncLogQueue} {record : LogRecord}
    (h : replaces q (.push record) = false) : overtakes q (.push record) = false := by
  rw [overtakes, h, Bool.false_and]

theorem tracedPush (t : TracedQueue) (record : LogRecord) : TracedPush t record := by
  have hpush : (t.step (.push record)).q = (t.q.push record).2 := rfl
  cases push_end t.q record with
  | refused hkind hp =>
    refine .unplaced [] ?_ ?_ ?_ (overtakes_of_not_replaces hkind)
    · rw [hpush, hp]
    · simp [TracedQueue.step, acceptedBy, hp]
    · by_cases hopen : t.q.stopping = true
      · simp [TracedQueue.step, reorder, hopen]
      · have hfull : ¬ t.q.queue.length < t.q.capacity := by
          intro hroom
          simp [AsyncLogQueue.push, hopen, hroom] at hp
        simp [TracedQueue.step, reorder, hkind, hopen, hfull]
  | appended hkind hopen hroom hp =>
    refine .appended ?_ ?_ ?_ (overtakes_of_not_replaces hkind)
    · rw [hpush, hp]
      simp [AsyncLogQueue.places]
    · simp [TracedQueue.step, acceptedBy, hp]
    · simp [TracedQueue.step, reorder, hopen, hroom]
  | replaced hkind _ _ _ hp =>
    obtain ⟨hopen, hfull, _, _⟩ := push_of_replaces hkind
    refine .replaced hkind ?_ ?_ ?_
    · exact places_of_replaces hkind
    · simp [TracedQueue.step, acceptedBy, hp]
    · simp [TracedQueue.step, reorder, hopen, hfull, hkind]
  | dropped hkind hopen _ hp =>
    refine .unplaced [record] ?_ ?_ ?_ (overtakes_of_not_replaces hkind)
    · rw [hpush, hp]
      rfl
    · simp [TracedQueue.step, acceptedBy, hp]
    · have hfull : ¬ t.q.queue.length < t.q.capacity := by
        intro hroom
        have := congrArg (fun r => r.2.pushedSeq) hp
        simp [AsyncLogQueue.push, hopen, hroom] at this
      simp [TracedQueue.step, reorder, hkind, hopen, hfull]

/-- A push names the records after it, also when it overtakes. -/
theorem named_push (h : t.order.map (t.pushed[·]?) = t.q.places.map some) (record : LogRecord) :
    (t.step (.push record)).order.map ((t.step (.push record)).pushed[·]?) =
      (t.step (.push record)).q.places.map some := by
  have hself : (t.pushed ++ [record])[t.pushed.length]? = some record := by simp
  cases tracedPush t record with
  | unplaced more hplaces hpushed horder _ =>
    rw [hplaces, hpushed, horder]
    exact named_append h more
  | appended hplaces hpushed horder _ =>
    rw [hplaces, hpushed, horder, List.map_append, List.map_append, named_append h]
    simp
  | replaced _ hplaces hpushed horder =>
    rw [hplaces, hpushed, horder, List.map_set, List.map_set, named_append h, hself]

theorem Trace.push (h : Trace t) {record : LogRecord}
    (hok : overtakes t.q (.push record) = false) : Trace (t.step (.push record)) := by
  refine ⟨named_push h.named record, ?_, ?_, step_writtenSeq t.q _ h.counted,
    step_closed _ h.closed⟩
  · cases tracedPush t record with
    | unplaced _ _ _ horder _ =>
      rw [horder]
      exact h.ascending
    | appended _ _ horder _ =>
      rw [horder]
      exact ascending_snoc h.ascending fun m hm => Trace.lt h.named hm
    | replaced hkind _ _ horder =>
      have hlast : ¬ takenPlace t.q record + 1 < t.q.places.length := by
        rw [← overtakes_iff hkind, hok]
        exact Bool.false_ne_true
      have hlt := takenPlace_lt hkind
      have hlen := Trace.length h.named
      rw [horder]
      exact ascending_set_last h.ascending (fun m hm => Trace.lt h.named hm) (by omega)
  · cases tracedPush t record with
    | unplaced more hplaces hpushed _ _ =>
      rw [hplaces, hpushed]
      exact h.sublist.trans (List.sublist_append_left _ _)
    | appended hplaces hpushed _ _ =>
      rw [hplaces, hpushed]
      exact h.sublist.append (.refl _)
    | replaced hkind hplaces hpushed _ =>
      have hlast : ¬ takenPlace t.q record + 1 < t.q.places.length := by
        rw [← overtakes_iff hkind, hok]
        exact Bool.false_ne_true
      have hlt := takenPlace_lt hkind
      rw [hplaces, hpushed, List.set_eq_take_append_cons_drop, if_pos hlt,
        List.drop_eq_nil_of_le (by omega)]
      exact ((List.take_sublist _ _).trans h.sublist).append (.refl _)

/-- The other steps leave the numbers as they are. -/
theorem Trace.other (h : Trace t) {e : QueueEvent} (he : ∀ record, e ≠ .push record) :
    Trace (t.step e) := by
  have horder : (t.step e).order = t.order := by
    cases e with
    | push record => exact absurd rfl (he record)
    | pop | complete | stop | finish => rfl
  have hpushed : (t.step e).pushed = t.pushed := by
    cases e with
    | push record => exact absurd rfl (he record)
    | pop | complete | stop | finish => exact List.append_nil _
  have hplaces : (t.step e).q.places = t.q.places := places_step he
  refine ⟨?_, ?_, ?_, step_writtenSeq t.q e h.counted, step_closed e h.closed⟩
  · rw [horder, hpushed, hplaces]
    exact h.named
  · rw [horder]
    exact h.ascending
  · rw [hplaces, hpushed]
    exact h.sublist

theorem Trace.step (h : Trace t) {e : QueueEvent} (hok : overtakes t.q e = false) :
    Trace (t.step e) := by
  cases e with
  | push record => exact h.push hok
  | pop | complete | stop | finish => exact h.other fun record hpush => by cases hpush

theorem Trace.sinkInOrder (h : Trace t) : SinkInOrder t := by
  have hparts : t.q.places = t.q.sink ++ (t.q.inFlight.toList ++ t.q.queue) := List.append_assoc ..
  refine ⟨?_, h.ascending.sublist (List.take_sublist _ _), ?_⟩
  · rw [List.map_take, h.named, hparts, List.map_append, List.take_left']
    exact List.length_map _
  · refine List.Sublist.trans ?_ h.sublist
    rw [hparts]
    exact List.sublist_append_left _ _

end Step

/-! ## What the worker makes of a queue that is out of order -/

theorem run_worker (t : TracedQueue) {fs : List QueueEvent}
    (hfs : fs.all QueueEvent.isWorker = true) :
    run TracedQueue.step t fs = { t with q := run AsyncLogQueue.step t.q fs } := by
  induction fs generalizing t with
  | nil => rfl
  | cons f fs ih =>
    rw [List.all_cons, Bool.and_eq_true] at hfs
    have hstep : t.step f = { t with q := t.q.step f } := by
      cases f with
      | pop | complete => simp [TracedQueue.step, acceptedBy, reorder]
      | push record | stop | finish => cases hfs.1
    rw [run_cons, ih _ hfs.2, hstep]
    rfl

/-- The worker can write all records on their way. -/
theorem sink_length_drain {q : AsyncLogQueue} (hrun : q.finished = false)
    (hcount : q.writtenSeq = q.sink.length) :
    (run AsyncLogQueue.step q (drain q)).sink.length = q.places.length := by
  rw [← run_writtenSeq q _ hcount, run_drain q hrun, hcount]
  simp only [AsyncLogQueue.places, List.length_append]
  omega

/-- Whatever the worker writes from here on, the sink has its records in order. -/
def WritesInOrder (t : TracedQueue) : Prop :=
  ∀ fs : List QueueEvent, fs.all QueueEvent.isWorker = true →
    SinkInOrder (run TracedQueue.step t fs)

theorem Trace.writesInOrder {t : TracedQueue} (h : Trace t) : WritesInOrder t := by
  intro fs hfs
  refine Trace.sinkInOrder ?_
  induction fs generalizing t with
  | nil => exact h
  | cons f fs ih =>
    rw [List.all_cons, Bool.and_eq_true] at hfs
    refine ih ?_ hfs.2
    cases f with
    | pop | complete => exact h.other fun record hpush => by cases hpush
    | push record | stop | finish => cases hfs.1

theorem overtakes_breaks {t : TracedQueue} (h : Trace t) {e : QueueEvent}
    (hbad : overtakes t.q e = true) : ¬ WritesInOrder (t.step e) := by
  intro hwrites
  cases e with
  | pop | complete | stop | finish => cases hbad
  | push record =>
    have hkind : replaces t.q (.push record) = true := by
      rw [overtakes, Bool.and_eq_true] at hbad
      exact hbad.1
    have hnamed := named_push h.named record
    have hrun : (t.step (.push record)).q.finished = false := by
      have hpush : (t.step (.push record)).q = (t.q.push record).2 := rfl
      rw [hpush, (push_of_replaces hkind).2.2.2]
      cases hfinished : t.q.finished with
      | false => rfl
      | true =>
        have hstop := h.closed hfinished
        rw [(push_of_replaces hkind).1] at hstop
        cases hstop
    have hworker := all_isWorker_drain (t.step (.push record)).q
    have horder := (hwrites _ hworker).ascending
    rw [run_worker _ hworker] at horder
    dsimp only at horder
    rw [sink_length_drain hrun (step_writtenSeq t.q _ h.counted), ← Trace.length hnamed,
      List.take_length] at horder
    cases tracedPush t record with
    | unplaced _ _ _ _ hnot =>
      rw [hbad] at hnot
      cases hnot
    | appended _ _ _ hnot =>
      rw [hbad] at hnot
      cases hnot
    | replaced _ _ _ hset =>
      rw [hset] at horder
      refine not_ascending_set (fun m hm => Trace.lt h.named hm) ?_ horder
      rw [Trace.length h.named]
      exact (overtakes_iff hkind).mp hbad

/-- Along a run on a new queue, what the worker writes is in the order of the pushes exactly as long as
no push takes the place of a record with another one behind it. -/
theorem sink_order_iff (capacity : Nat) (es : List QueueEvent) :
    Always TracedQueue.step WritesInOrder { q := { capacity := capacity } } es ↔
      Steps TracedQueue.step (fun t e => overtakes t.q e = false) { q := { capacity := capacity } }
        es := by
  refine always_iff_steps (I := Trace) ?_ ?_ ?_ (trace_new capacity)
  · intro t e h hok
    exact h.step hok
  · intro t h
    exact h.writesInOrder
  · intro t e h hbad
    exact overtakes_breaks h (by simpa using hbad)

/-- The trace follows the queue and lists its accepted pushes. -/
theorem run_traced (t : TracedQueue) (es : List QueueEvent) :
    (run TracedQueue.step t es).q = run AsyncLogQueue.step t.q es ∧
      (run TracedQueue.step t es).pushed = t.pushed ++ accepted t.q es := by
  induction es generalizing t with
  | nil => exact ⟨rfl, (List.append_nil _).symm⟩
  | cons e es ih =>
    obtain ⟨hq, hpushed⟩ := ih (t.step e)
    refine ⟨hq, ?_⟩
    rw [run_cons, hpushed, accepted, ← List.append_assoc]
    rfl

/-- Two info records fill the queue, an error comes, and the worker writes all that is queued. -/
def fullOfInfo : List QueueEvent :=
  [.push { level := .info, message := "a" }, .push { level := .info, message := "b" },
    .push { level := .error, message := "c" }, .pop, .complete, .pop, .complete]

/-- The error takes the place of the first info record and is written before the second. -/
theorem error_overtakes_info :
    ¬ (run AsyncLogQueue.step { capacity := 2 } fullOfInfo).sink.Sublist
        (accepted { capacity := 2 } fullOfInfo) ∧
      ¬ SinkInOrder (run TracedQueue.step { q := { capacity := 2 } } fullOfInfo) := by
  have hsink : ¬ (run AsyncLogQueue.step { capacity := 2 } fullOfInfo).sink.Sublist
      (accepted { capacity := 2 } fullOfInfo) := by decide
  refine ⟨hsink, ?_⟩
  intro h
  have hsublist := h.sublist
  rw [(run_traced _ _).1, (run_traced _ _).2, List.nil_append] at hsublist
  exact hsink hsublist

end Logger
end CppOptimizer
