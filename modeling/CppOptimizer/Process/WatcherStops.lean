import CppOptimizer.Process.WatcherThread

/-!
# CppOptimizer.Process.WatcherStops

The end of the polling thread.

* `stop_silences`      — after a stop nothing more is handed out to a callback.
* `stop_returns`       — a `Stop` comes back after the thread's steps that are counted by `left`.
* `self_stop_is_final` — a watcher that a callback has stopped looks started and is dead, until its
  owner stops it too.
-/

namespace CppOptimizer
namespace Process

open Common Config Lib

/-! ## Silence -/

def WatcherEvent.starts : WatcherEvent → Bool
  | .start _ => true
  | _ => false

def WatcherEvent.stops : WatcherEvent → Bool
  | .stop => true
  | _ => false

namespace WatcherThread

variable {detectWindows : Bool} {t : WatcherThread} {e : WatcherEvent}

/-- After a stop nothing is handed out until the next start. -/
theorem step_stopped (detectWindows : Bool) (hstop : t.stopRequested = true) (he : e.starts = false) :
    (t.step detectWindows e).stopRequested = true ∧ (t.step detectWindows e).told = t.told := by
  cases e with
  | setRules games => exact ⟨hstop, rfl⟩
  | subscribe => exact ⟨hstop, rfl⟩
  | start created => cases he
  | stop =>
    simp only [step, stopStep]
    split
    · exact ⟨hstop, rfl⟩
    · split
      · exact ⟨rfl, rfl⟩
      · exact ⟨hstop, rfl⟩
  | join =>
    simp only [step, joinStep]
    split
    · exact ⟨hstop, rfl⟩
    · exact ⟨hstop, rfl⟩
  | poll answers =>
    simp only [step]
    split
    · exact ⟨hstop, rfl⟩
    · exact ⟨hstop, rfl⟩
  | worker answers stops =>
    simp only [step, workerStep]
    split
    · exact ⟨hstop, rfl⟩
    · split
      · exact ⟨hstop, rfl⟩
      · exact ⟨hstop, rfl⟩
    · rw [if_pos hstop]
      exact ⟨hstop, rfl⟩
    · exact ⟨hstop, rfl⟩
    · rw [hstop]
      exact ⟨rfl, rfl⟩
    · exact ⟨hstop, rfl⟩
    · exact ⟨hstop, rfl⟩

theorem run_stopped (detectWindows : Bool) (es : List WatcherEvent) (hstop : t.stopRequested = true)
    (hes : ∀ e ∈ es, e.starts = false) :
    (run (step detectWindows) t es).stopRequested = true ∧
      (run (step detectWindows) t es).told = t.told := by
  induction es generalizing t with
  | nil => exact ⟨hstop, rfl⟩
  | cons e es ih =>
    obtain ⟨hstop', htold⟩ := step_stopped detectWindows hstop (hes e List.mem_cons_self)
    obtain ⟨hlast, htold'⟩ := ih hstop' fun e' he' => hes e' (List.mem_cons_of_mem _ he')
    exact ⟨hlast, htold'.trans htold⟩

end WatcherThread

/-- From a stop on, in any interleaving without another start, a callback hears no more than what was
handed out to it before, and all of it once the thread is gone. -/
theorem stop_silences (detectWindows : Bool) (es rest : List WatcherEvent)
    (hstop : (run (WatcherThread.step detectWindows) {} es).stopRequested = true)
    (hrest : ∀ e ∈ rest, e.starts = false) (c : Nat) :
    hears c (run (WatcherThread.step detectWindows) {} (es ++ rest)).heard <+:
        toldTo c (run (WatcherThread.step detectWindows) {} es).told ∧
      ((run (WatcherThread.step detectWindows) {} (es ++ rest)).pending = [] →
        hears c (run (WatcherThread.step detectWindows) {} (es ++ rest)).heard =
          toldTo c (run (WatcherThread.step detectWindows) {} es).told) := by
  have hexact := (WatcherThread.inv_run detectWindows (es ++ rest)).exact c
  have htold : (run (WatcherThread.step detectWindows) {} (es ++ rest)).told =
      (run (WatcherThread.step detectWindows) {} es).told := by
    rw [run_append]
    exact (WatcherThread.run_stopped detectWindows rest hstop hrest).2
  rw [htold] at hexact
  refine ⟨⟨_, hexact⟩, fun hnone => ?_⟩
  rw [hnone] at hexact
  rwa [show hears c [] = [] from rfl, List.append_nil] at hexact

def oneGame : List GameConfig := [{ id := "game", processNames := ["game.exe"] }]

/-- The game as process 42. -/
def gameThere : List PollChoice :=
  [{ processes := .ok [(42, utf8ToWide "game.exe")] }, { created := 100 }]

/-- A stop between the two callbacks of one transition: the second callback is still called. -/
theorem stop_silences_second :
    hears 1 (run (WatcherThread.step false) {}
        ([.setRules oneGame, .subscribe, .subscribe, .start true, .worker gameThere false, .worker [] false,
          .worker [] false, .stop] ++ [.worker [] false, .worker [] false, .worker [] false, .join])).heard =
      toldTo 1 (run (WatcherThread.step false) {}
        [.setRules oneGame, .subscribe, .subscribe, .start true, .worker gameThere false, .worker [] false,
          .worker [] false, .stop]).told := by
  refine (stop_silences false _ _ rfl ?_ 1).2 rfl
  decide

/-! ## The way to the end -/

/-- The steps a stopped thread has left at most. -/
def WorkerPc.left : WorkerPc → Nat
  | .polling => 2
  | .polled _ => 1
  | .calling calls => calls.length + 2
  | .waiting => 1
  | .returned => 0

def WatcherEvent.works : WatcherEvent → Bool
  | .worker _ _ => true
  | _ => false

def WatcherEvent.joins : WatcherEvent → Bool
  | .join => true
  | _ => false

namespace WatcherThread

variable {detectWindows : Bool} {t : WatcherThread}

def left (t : WatcherThread) : Nat := (t.worker.map WorkerPc.left).getD 0

/-- The event is a step of the thread, and one that comes to its end if it is a poll. -/
def Works (detectWindows : Bool) (t : WatcherThread) (e : WatcherEvent) : Prop :=
  ∀ answers stops, e = .worker answers stops → t.worker = some .polling →
    (t.log.pollStep detectWindows t.rules answers).isSome = true

/-- The owner is in `Stop` and waits. -/
structure Waits (t : WatcherThread) : Prop where
  joining : t.joining = true
  stopRequested : t.stopRequested = true
  alive : t.worker.isSome = true

/-- A step of the stopped thread brings it nearer to its end. -/
theorem waits_worker (h : Waits t) (answers : List PollChoice) (stops : Bool)
    (hworks : t.worker = some .polling →
      (t.log.pollStep detectWindows t.rules answers).isSome = true) :
    Waits (t.workerStep detectWindows answers stops) ∧
      (t.workerStep detectWindows answers stops).left ≤ t.left - 1 := by
  obtain ⟨pc, hpc⟩ := Option.isSome_iff_exists.mp h.alive
  have hleft : t.left = pc.left := by
    rw [left, hpc]
    rfl
  rw [hleft]
  unfold workerStep
  rw [hpc]
  cases pc with
  | polling =>
    obtain ⟨⟨log, ts⟩, hpoll⟩ := Option.isSome_iff_exists.mp (hworks hpc)
    simp only [hpoll]
    exact ⟨⟨h.joining, h.stopRequested, rfl⟩, Nat.le_refl 1⟩
  | polled ts =>
    dsimp only
    rw [if_pos h.stopRequested]
    exact ⟨⟨h.joining, h.stopRequested, rfl⟩, Nat.le_refl 0⟩
  | calling calls =>
    cases calls with
    | nil => exact ⟨⟨h.joining, h.stopRequested, rfl⟩, Nat.le_refl 1⟩
    | cons call calls =>
      refine ⟨⟨h.joining, ?_, rfl⟩, Nat.le_refl (calls.length + 2)⟩
      show (t.stopRequested || stops) = true
      rw [h.stopRequested, Bool.true_or]
  | waiting =>
    dsimp only
    rw [if_pos h.stopRequested]
    exact ⟨⟨h.joining, h.stopRequested, rfl⟩, Nat.le_refl 0⟩
  | returned => exact ⟨h, hleft.le⟩

/-- While the owner waits nobody sets the thread back. -/
theorem waits_step (h : Waits t) {e : WatcherEvent} (hjoin : e.joins = false)
    (hworks : Works detectWindows t e) :
    Waits (t.step detectWindows e) ∧
      (t.step detectWindows e).left ≤ t.left - e.works.toNat := by
  have hsame : Waits t ∧ t.left ≤ t.left - 0 := ⟨h, Nat.le_refl _⟩
  cases e with
  | setRules games => exact ⟨⟨h.joining, h.stopRequested, h.alive⟩, Nat.le_refl _⟩
  | subscribe => exact ⟨⟨h.joining, h.stopRequested, h.alive⟩, Nat.le_refl _⟩
  | start created =>
    have hstart : t.step detectWindows (.start created) = t := if_pos (.inl h.alive)
    rw [hstart]
    exact hsame
  | stop =>
    have hstop : t.step detectWindows .stop = t := if_pos h.joining
    rw [hstop]
    exact hsame
  | join => cases hjoin
  | poll answers =>
    simp only [step]
    split
    · exact ⟨⟨h.joining, h.stopRequested, h.alive⟩, Nat.le_refl _⟩
    · exact hsame
  | worker answers stops => exact waits_worker h answers stops (hworks answers stops rfl)

theorem waits_run (es : List WatcherEvent) (h : Waits t) (hes : ∀ e ∈ es, e.joins = false)
    (hworks : Steps (step detectWindows) (Works detectWindows) t es) :
    Waits (run (step detectWindows) t es) ∧
      (run (step detectWindows) t es).left ≤ t.left - es.countP WatcherEvent.works := by
  induction es generalizing t with
  | nil => exact ⟨h, Nat.le_refl _⟩
  | cons e es ih =>
    obtain ⟨hwaits, hleft⟩ := waits_step h (hes e List.mem_cons_self) hworks.1
    obtain ⟨hlast, hleft'⟩ := ih hwaits (fun e' he' => hes e' (List.mem_cons_of_mem _ he')) hworks.2
    refine ⟨hlast, hleft'.trans ?_⟩
    rw [List.countP_cons]
    cases hw : e.works with
    | true =>
      rw [hw, Bool.toNat_true] at hleft
      rw [if_pos rfl]
      omega
    | false =>
      rw [hw, Bool.toNat_false] at hleft
      rw [if_neg Bool.false_ne_true]
      omega

theorem left_le_pending (t : WatcherThread) : t.left ≤ t.pending.length + 2 := by
  unfold left pending
  cases t.worker with
  | none => exact Nat.zero_le _
  | some pc =>
    cases pc with
    | calling calls => exact Nat.le_refl _
    | polling => exact Nat.le_refl 2
    | polled ts => exact Nat.le_succ 1
    | waiting => exact Nat.le_succ 1
    | returned => exact Nat.zero_le 2

theorem returned_of_left (halive : t.worker.isSome = true) (hleft : t.left = 0) :
    t.worker = some .returned := by
  obtain ⟨pc, hpc⟩ := Option.isSome_iff_exists.mp halive
  rw [left, hpc] at hleft
  rw [hpc]
  cases pc with
  | returned => rfl
  | polling => cases hleft
  | polled ts => cases hleft
  | calling calls => cases hleft
  | waiting => cases hleft

theorem step_join (detectWindows : Bool) (hjoining : t.joining = true) (hworker : t.worker = some .returned) :
    t.step detectWindows .join = { t with worker := none, joining := false } := by
  simp only [step, joinStep, hjoining, hworker]

end WatcherThread

/-- A `Stop` comes back: whatever the other threads do meanwhile, after the calls that are under way and
two more steps the thread has returned, and the join leaves a watcher that can be started again. -/
theorem stop_returns (detectWindows : Bool) (es rest : List WatcherEvent)
    (hjoining : (run (WatcherThread.step detectWindows) {} es).joining = true)
    (hworks : Steps (WatcherThread.step detectWindows) (WatcherThread.Works detectWindows)
      (run (WatcherThread.step detectWindows) {} es) rest)
    (hrest : ∀ e ∈ rest, e.joins = false)
    (henough : (run (WatcherThread.step detectWindows) {} es).pending.length + 2 ≤
      rest.countP WatcherEvent.works) :
    (run (WatcherThread.step detectWindows) {} (es ++ rest)).worker = some .returned ∧
      (run (WatcherThread.step detectWindows) {} (es ++ rest ++ [.join])).worker = none ∧
      (run (WatcherThread.step detectWindows) {} (es ++ rest ++ [.join])).running = false ∧
      (run (WatcherThread.step detectWindows) {} (es ++ rest ++ [.join, .start true])).worker =
        some .polling := by
  have hinv := WatcherThread.inv_run detectWindows es
  obtain ⟨halive, hstop⟩ := hinv.joining hjoining
  obtain ⟨hwaits, hleft⟩ := WatcherThread.waits_run rest ⟨hjoining, hstop, halive⟩ hrest hworks
  rw [← run_append] at hwaits hleft
  have hzero : (run (WatcherThread.step detectWindows) {} (es ++ rest)).left = 0 := by
    have hmost := WatcherThread.left_le_pending (run (WatcherThread.step detectWindows) {} es)
    omega
  have hreturned := WatcherThread.returned_of_left hwaits.alive hzero
  have hjoin := WatcherThread.step_join detectWindows hwaits.joining hreturned
  have hend : run (WatcherThread.step detectWindows) {} (es ++ rest ++ [.join]) =
      { run (WatcherThread.step detectWindows) {} (es ++ rest) with worker := none, joining := false } := by
    rw [run_append]
    exact hjoin
  have hnone : (run (WatcherThread.step detectWindows) {} (es ++ rest ++ [.join])).worker = none := by
    rw [hend]
  refine ⟨hreturned, hnone, ?_, ?_⟩
  · have hrunning := (WatcherThread.inv_run detectWindows (es ++ rest ++ [.join])).running
    rw [hnone] at hrunning
    simpa using hrunning
  · rw [List.append_cons, run_append, hend]
    rfl

/-- One call is under way, and while the owner waits another subscriber comes. -/
theorem stop_returns_one_call :
    (run (WatcherThread.step false) {}
        ([.setRules oneGame, .subscribe, .start true, .worker gameThere false, .worker [] false, .stop] ++
          [.worker [] false, .subscribe, .worker [] false, .worker [] false] ++ [.join, .start true])).worker =
      some .polling := by
  refine (stop_returns false _ _ rfl ?_ ?_ ?_).2.2.2
  · refine ⟨?_, ?_, ?_, ?_, trivial⟩
    · intro answers stops _ hpc
      cases hpc
    · intro answers stops _ hpc
      cases hpc
    · intro answers stops _ hpc
      cases hpc
    · intro answers stops _ hpc
      cases hpc
  · decide
  · decide

/-! ## A callback that stops the watcher -/

namespace WatcherThread

variable {detectWindows : Bool} {t : WatcherThread}

/-- The thread has returned, and nobody is there to join it. -/
structure Dead (t : WatcherThread) : Prop where
  worker : t.worker = some .returned
  joining : t.joining = false

theorem dead_step (detectWindows : Bool) (h : Dead t) {e : WatcherEvent} (he : e.stops = false) :
    Dead (t.step detectWindows e) ∧ (t.step detectWindows e).heard = t.heard := by
  cases e with
  | setRules games => exact ⟨⟨h.worker, h.joining⟩, rfl⟩
  | subscribe => exact ⟨⟨h.worker, h.joining⟩, rfl⟩
  | start created =>
    have hstart : t.step detectWindows (.start created) = t := by
      simp only [step, startStep, h.worker, Option.isSome_some, true_or, if_true]
    rw [hstart]
    exact ⟨h, rfl⟩
  | stop => cases he
  | join =>
    have hjoin : t.step detectWindows .join = t := by
      simp only [step, joinStep, h.worker, h.joining]
    rw [hjoin]
    exact ⟨h, rfl⟩
  | poll answers =>
    simp only [step]
    split
    · exact ⟨⟨h.worker, h.joining⟩, rfl⟩
    · exact ⟨h, rfl⟩
  | worker answers stops =>
    have hworker : t.step detectWindows (.worker answers stops) = t := by
      simp only [step, workerStep, h.worker]
    rw [hworker]
    exact ⟨h, rfl⟩

theorem dead_run (detectWindows : Bool) (es : List WatcherEvent) (h : Dead t) (hes : ∀ e ∈ es, e.stops = false) :
    Dead (run (step detectWindows) t es) ∧ (run (step detectWindows) t es).heard = t.heard := by
  induction es generalizing t with
  | nil => exact ⟨h, rfl⟩
  | cons e es ih =>
    obtain ⟨hdead, hheard⟩ := dead_step detectWindows h (hes e List.mem_cons_self)
    obtain ⟨hlast, hheard'⟩ := ih hdead fun e' he' => hes e' (List.mem_cons_of_mem _ he')
    exact ⟨hlast, hheard'.trans hheard⟩

end WatcherThread

/-- Once a callback's `Stop` has ended the thread, every `Start` reports success and none of them
starts anything: nobody hears a transition again, until the owner stops the watcher as well. -/
theorem self_stop_is_final (detectWindows : Bool) (es rest : List WatcherEvent)
    (hdead : (run (WatcherThread.step detectWindows) {} es).Dead)
    (hrest : ∀ e ∈ rest, e.stops = false) (created : Bool) :
    (run (WatcherThread.step detectWindows) {} (es ++ rest)).startResult created = true ∧
      (run (WatcherThread.step detectWindows) {} (es ++ rest)).running = false ∧
      (run (WatcherThread.step detectWindows) {} (es ++ rest)).heard =
        (run (WatcherThread.step detectWindows) {} es).heard ∧
      (run (WatcherThread.step detectWindows) {} (es ++ rest ++ [.stop, .join, .start true])).worker =
        some .polling := by
  obtain ⟨hlast, hheard⟩ := WatcherThread.dead_run detectWindows rest hdead hrest
  rw [← run_append] at hlast hheard
  have hinv := WatcherThread.inv_run detectWindows (es ++ rest)
  refine ⟨?_, ?_, hheard, ?_⟩
  · rw [WatcherThread.startResult, hlast.worker]
    rfl
  · rw [← Bool.not_eq_true, hinv.running, hinv.stopped hlast.worker]
    simp
  · rw [run_append]
    generalize run (WatcherThread.step detectWindows) {} (es ++ rest) = t at hlast
    simp only [run_cons, run_nil, WatcherThread.step, WatcherThread.stopStep, hlast.joining, hlast.worker,
      WatcherThread.joinStep, WatcherThread.startStep]
    rfl

/-- The only callback stops the watcher at the first transition. -/
theorem self_stop_is_final_first :
    (run (WatcherThread.step false) {}
        ([.setRules oneGame, .subscribe, .start true, .worker gameThere false, .worker [] false,
          .worker [] true, .worker [] false, .worker [] false] ++ [.start true, .worker gameThere false])).running =
      false := by
  refine (self_stop_is_final false _ _ ⟨rfl, rfl⟩ ?_ true).2.1
  decide

end Process
end CppOptimizer
