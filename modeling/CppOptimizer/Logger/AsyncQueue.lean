import CppOptimizer.Lib.Run
import CppOptimizer.Common.Error

/-!
# CppOptimizer.Logger.AsyncQueue

The bounded queue of `AsyncLogQueue`: producers push, one worker takes records in order and hands
them to the sink.

Each critical section of the source is one step. The worker has two of them: `pop` takes the front
record into its local variable (`inFlight`), and `complete` counts it as written after the sink has
returned. Pushes of other threads, and of the sink itself, can come in between.
-/

namespace CppOptimizer
namespace Logger

open Common

inductive LogLevel where
  | trace | debug | info | warn | error | critical
  deriving DecidableEq, Repr

/-- The numeric value of the level, by which `<` compares. -/
def LogLevel.toNat : LogLevel → Nat
  | .trace => 0
  | .debug => 1
  | .info => 2
  | .warn => 3
  | .error => 4
  | .critical => 5

structure LogRecord where
  level : LogLevel := .info
  localTime : String := ""
  module : String := ""
  message : String := ""
  deriving DecidableEq, Repr

structure AsyncLogQueue where
  capacity : Nat := 1024
  queue : List LogRecord := []
  stopping : Bool := false
  finished : Bool := false
  written : Nat := 0
  dropped : Nat := 0
  pushedSeq : Nat := 0
  writtenSeq : Nat := 0
  inFlight : Option LogRecord := none
  /-- The records handed to the sink so far, the first one first. -/
  sink : List LogRecord := []
  deriving DecidableEq, Repr

def isProtectedLevel (level : LogLevel) : Bool := level == .error || level == .critical

/-- A queued record that a protected record may take the place of. -/
def isReplaceable (record queued : LogRecord) : Bool :=
  !isProtectedLevel queued.level && queued.level.toNat < record.level.toNat

/-- Overwrite the oldest record that may be replaced, if there is one. -/
def replaceOldest (record : LogRecord) : List LogRecord → Option (List LogRecord)
  | [] => none
  | queued :: rest =>
    if isReplaceable record queued then some (record :: rest)
    else (replaceOldest record rest).map (queued :: ·)

namespace AsyncLogQueue

def push (q : AsyncLogQueue) (record : LogRecord) : Result Unit × AsyncLogQueue :=
  if q.stopping then
    (.error (.unsupportedOp "AsyncLogQueue::Push" "队列已停止接收（Stop 后不再入队）"), q)
  else if q.queue.length < q.capacity then
    (.ok (), { q with queue := q.queue ++ [record], pushedSeq := q.pushedSeq + 1 })
  else if isProtectedLevel record.level then
    match replaceOldest record q.queue with
    | some queue =>
      (.ok (), { q with queue := queue, dropped := q.dropped + 1, pushedSeq := q.pushedSeq + 1 })
    | none =>
      (.error (.unsupportedOp "AsyncLogQueue::Push"
        "队列已满且无低级别记录可腾位（保护级别不丢弃）"), q)
  else (.ok (), { q with dropped := q.dropped + 1 })

/-- `Stop` up to the join: no further record is accepted. -/
def stop (q : AsyncLogQueue) : AsyncLogQueue := { q with stopping := true }

/-- The worker's first critical section. -/
def pop (q : AsyncLogQueue) : AsyncLogQueue :=
  match q.finished, q.inFlight, q.queue with
  | false, none, record :: rest => { q with queue := rest, inFlight := some record }
  | _, _, _ => q

/-- The sink has taken the record in flight, and the worker counts it. -/
def complete (q : AsyncLogQueue) : AsyncLogQueue :=
  match q.inFlight with
  | some record =>
    { q with inFlight := none, written := q.written + 1, writtenSeq := q.writtenSeq + 1,
             sink := q.sink ++ [record] }
  | none => q

/-- The worker leaves its loop: stopped and drained. -/
def finish (q : AsyncLogQueue) : AsyncLogQueue :=
  match q.stopping, q.inFlight, q.queue with
  | true, none, [] => { q with finished := true }
  | _, _, _ => q

/-- The watermark a `Flush` called in this state waits for. -/
def flushTarget (q : AsyncLogQueue) : Nat := q.pushedSeq

/-- The wait condition of `Flush`. -/
def flushReleased (q : AsyncLogQueue) (target : Nat) : Bool :=
  decide (q.writtenSeq ≥ target) || q.finished

end AsyncLogQueue

inductive QueueEvent where
  | push (record : LogRecord)
  | pop
  | complete
  | stop
  | finish
  deriving DecidableEq, Repr

def AsyncLogQueue.step (q : AsyncLogQueue) : QueueEvent → AsyncLogQueue
  | .push record => (q.push record).2
  | .pop => q.pop
  | .complete => q.complete
  | .stop => q.stop
  | .finish => q.finish

/-! ## What one step can do -/

/-- A replacement puts the record in the place of the oldest one it may replace. -/
theorem replaceOldest_eq_set {record : LogRecord} {queue queue' : List LogRecord}
    (h : replaceOldest record queue = some queue') :
    queue.findIdx (isReplaceable record) < queue.length ∧
      queue' = queue.set (queue.findIdx (isReplaceable record)) record := by
  induction queue generalizing queue' with
  | nil => simp [replaceOldest] at h
  | cons queued rest ih =>
    simp only [replaceOldest] at h
    split at h
    · case _ hr =>
      cases h
      rw [List.findIdx_cons, hr]
      exact ⟨Nat.zero_lt_succ _, rfl⟩
    · case _ hr =>
      obtain ⟨rest', hrest, rfl⟩ := Option.map_eq_some_iff.mp h
      obtain ⟨hlt, rfl⟩ := ih hrest
      have hkeep : isReplaceable record queued = false := Bool.not_eq_true _ ▸ hr
      rw [List.findIdx_cons, hkeep]
      exact ⟨Nat.succ_lt_succ hlt, rfl⟩

/-- That one is of no protected level. -/
theorem replaceOldest_spec {record : LogRecord} {queue queue' : List LogRecord}
    (h : replaceOldest record queue = some queue') :
    ∃ before old rest, queue = before ++ old :: rest ∧ queue' = before ++ record :: rest ∧
      isProtectedLevel old.level = false := by
  obtain ⟨hlt, rfl⟩ := replaceOldest_eq_set h
  have hfound : isReplaceable record queue[queue.findIdx (isReplaceable record)] = true :=
    List.findIdx_getElem
  simp only [isReplaceable, Bool.and_eq_true, Bool.not_eq_true'] at hfound
  refine ⟨_, _, _, ?_, List.set_eq_take_append_cons_drop.trans (if_pos hlt), hfound.1⟩
  rw [List.getElem_cons_drop, List.take_append_drop]

theorem replaceOldest_isSome {record : LogRecord} {queue : List LogRecord} :
    (replaceOldest record queue).isSome = queue.any (isReplaceable record) := by
  induction queue with
  | nil => rfl
  | cons queued rest ih =>
    simp only [replaceOldest, List.any_cons]
    split
    · rename_i hr
      simp [hr]
    · rename_i hr
      simp [hr, ih]

/-- The push meets a full queue and takes the place of a queued record. -/
def replaces (q : AsyncLogQueue) : QueueEvent → Bool
  | .push record =>
    !q.stopping && !decide (q.queue.length < q.capacity) && isProtectedLevel record.level &&
      q.queue.any (isReplaceable record)
  | _ => false

/-- The four ends of a push. -/
inductive PushEnd (q : AsyncLogQueue) (record : LogRecord) : Prop where
  | refused {e : Error} (hkind : replaces q (.push record) = false)
      (h : q.push record = (.error e, q))
  | appended (hkind : replaces q (.push record) = false) (hopen : q.stopping = false)
      (hroom : q.queue.length < q.capacity)
      (h : q.push record =
        (.ok (), { q with queue := q.queue ++ [record], pushedSeq := q.pushedSeq + 1 }))
  | replaced {before old rest} (hkind : replaces q (.push record) = true)
      (hopen : q.stopping = false) (hqueue : q.queue = before ++ old :: rest)
      (hplain : isProtectedLevel old.level = false)
      (h : q.push record = (.ok (), { q with
        queue := before ++ record :: rest, dropped := q.dropped + 1, pushedSeq := q.pushedSeq + 1 }))
  | dropped (hkind : replaces q (.push record) = false) (hopen : q.stopping = false)
      (hplain : isProtectedLevel record.level = false)
      (h : q.push record = (.ok (), { q with dropped := q.dropped + 1 }))

theorem push_end (q : AsyncLogQueue) (record : LogRecord) : PushEnd q record := by
  by_cases hstop : q.stopping = true
  · exact .refused (by simp [replaces, hstop]) (by rw [AsyncLogQueue.push, if_pos hstop])
  · have hopen : q.stopping = false := Bool.not_eq_true _ ▸ hstop
    by_cases hroom : q.queue.length < q.capacity
    · exact .appended (by simp [replaces, hroom]) hopen hroom
        (by rw [AsyncLogQueue.push, if_neg hstop, if_pos hroom])
    · by_cases hprot : isProtectedLevel record.level = true
      · have hkind : replaces q (.push record) = (replaceOldest record q.queue).isSome := by
          simp [replaces, hopen, hroom, hprot, replaceOldest_isSome]
        cases hr : replaceOldest record q.queue with
        | none =>
          refine .refused (e := .unsupportedOp "AsyncLogQueue::Push"
            "队列已满且无低级别记录可腾位（保护级别不丢弃）") ?_ ?_
          · rw [hkind, hr]
            rfl
          · simp [AsyncLogQueue.push, hopen, hroom, hprot, hr]
        | some queue =>
          obtain ⟨before, old, rest, hqueue, rfl, hplain⟩ := replaceOldest_spec hr
          refine .replaced ?_ hopen hqueue hplain ?_
          · rw [hkind, hr]
            rfl
          · simp only [AsyncLogQueue.push, hopen, hroom, hprot, hr, if_true, if_false,
              Bool.false_eq_true]
      · refine .dropped (by simp [replaces, hprot]) hopen (Bool.not_eq_true _ ▸ hprot) ?_
        simp only [AsyncLogQueue.push, hopen, hroom, hprot, if_false, Bool.false_eq_true]

/-- The worker's steps move one record from the queue to its variable, or from there to the sink. -/
theorem pop_cases (q : AsyncLogQueue) :
    q.pop = q ∨ ∃ record rest, q.inFlight = none ∧ q.queue = record :: rest ∧
      q.pop = { q with queue := rest, inFlight := some record } := by
  simp only [AsyncLogQueue.pop]
  split
  · rename_i record rest _ hflight hqueue
    exact .inr ⟨record, rest, hflight, hqueue, rfl⟩
  · exact .inl rfl

theorem complete_cases (q : AsyncLogQueue) :
    q.complete = q ∨ ∃ record, q.inFlight = some record ∧
      q.complete = { q with inFlight := none, written := q.written + 1,
                            writtenSeq := q.writtenSeq + 1, sink := q.sink ++ [record] } := by
  simp only [AsyncLogQueue.complete]
  split
  · rename_i record hflight
    exact .inr ⟨record, hflight, rfl⟩
  · exact .inl rfl

theorem finish_cases (q : AsyncLogQueue) : q.finish = q ∨ q.finish = { q with finished := true } := by
  simp only [AsyncLogQueue.finish]
  split
  · exact .inr rfl
  · exact .inl rfl

end Logger
end CppOptimizer
