import CppOptimizer.Process.PolledTitles

/-!
# CppOptimizer.Process.WatcherThread

`ProcessWatcher` with its polling thread: the thread that owns the watcher starts and stops it, the
others subscribe, set rules and poll, and the callbacks run on the polling thread without the lock.

* `WatcherThread.step`  — the critical sections of all of them, in any order.
* `WatcherInv`          — what holds in every interleaving.
* `hears_whole_polls`   — a subscriber hears the polls whole, in order and once.

A callback is known by its place in `callbacks_`; none is ever removed.
-/

namespace CppOptimizer
namespace Process

open Common Config Lib

/-- Where the polling thread is in `WorkerLoop`. -/
inductive WorkerPc where
  | polling
  /-- The poll is done, the lock is taken next. -/
  | polled (transitions : List ProcessTransition)
  /-- The callbacks still to call. -/
  | calling (calls : List (Nat × ProcessTransition))
  | waiting
  | returned

/-- The transitions of one poll, and how many callbacks there were for them. -/
structure Batch where
  callbacks : Nat
  transitions : List ProcessTransition

structure WatcherThread where
  rules : List GameRule := []
  /-- `tracked_` and `nextGeneration_`, with what was emitted since the table was cleared. -/
  log : WatchLog := {}
  callbacks : Nat := 0
  /-- None when `worker_` is not joinable. -/
  worker : Option WorkerPc := none
  stopRequested : Bool := false
  running : Bool := false
  /-- The owner is in `Stop` and waits for the thread. -/
  joining : Bool := false
  /-- Since the last start: the batches handed out, the calls made, and what the thread took with it. -/
  told : List Batch := []
  heard : List (Nat × ProcessTransition) := []
  dropped : List ProcessTransition := []
  /-- Nobody has set rules or polled since the last start. -/
  undisturbed : Bool := true
  /-- The callbacks at the last start. -/
  earlier : Nat := 0

inductive WatcherEvent where
  | setRules (games : List GameConfig)
  | subscribe
  /-- `created` says whether a thread can be created. -/
  | start (created : Bool)
  | stop
  /-- The thread has returned, and the owner's `Stop` returns. -/
  | join
  | poll (answers : List PollChoice)
  /-- A step of the polling thread; `stops` says whether the callback it calls calls `Stop`. -/
  | worker (answers : List PollChoice) (stops : Bool)

/-- Each transition goes to every callback before the next one goes to any. -/
def callsOf (callbacks : Nat) (ts : List ProcessTransition) : List (Nat × ProcessTransition) :=
  ts.flatMap fun t => (List.range callbacks).map fun c => (c, t)

namespace WatcherThread

def workerStep (detectWindows : Bool) (t : WatcherThread) (answers : List PollChoice) (stops : Bool) :
    WatcherThread :=
  match t.worker with
  | none => t
  | some .polling =>
    match t.log.pollStep detectWindows t.rules answers with
    | some (log, ts) => { t with log := log, worker := some (.polled ts) }
    | none => t
  | some (.polled ts) =>
    if t.stopRequested then { t with dropped := ts, worker := some .returned }
    else
      { t with
        told := t.told ++ [{ callbacks := t.callbacks, transitions := ts }]
        worker := some (.calling (callsOf t.callbacks ts)) }
  | some (.calling []) => { t with worker := some .waiting }
  | some (.calling (call :: calls)) =>
    { t with
      heard := t.heard ++ [call]
      stopRequested := t.stopRequested || stops
      running := t.running && !stops
      worker := some (.calling calls) }
  | some .waiting => { t with worker := some (if t.stopRequested then .returned else .polling) }
  | some .returned => t

/-- The result of `Start`: a joinable thread is taken for a running one. -/
def startResult (t : WatcherThread) (created : Bool) : Bool := t.worker.isSome || created

def startStep (t : WatcherThread) (created : Bool) : WatcherThread :=
  if t.worker.isSome ∨ t.joining then t
  else
    { t with
      stopRequested := false
      running := created
      log := { watch := { nextGeneration := t.log.watch.nextGeneration } }
      worker := if created then some .polling else none
      told := [], heard := [], dropped := [], undisturbed := true, earlier := t.callbacks }

def stopStep (t : WatcherThread) : WatcherThread :=
  if t.joining then t
  else if t.worker.isSome then { t with stopRequested := true, running := false, joining := true }
  else { t with running := false }

def joinStep (t : WatcherThread) : WatcherThread :=
  match t.joining, t.worker with
  | true, some .returned => { t with worker := none, joining := false }
  | _, _ => t

def step (detectWindows : Bool) (t : WatcherThread) : WatcherEvent → WatcherThread
  | .setRules games => { t with rules := buildGameRules games, log := {}, undisturbed := false }
  | .subscribe => { t with callbacks := t.callbacks + 1 }
  | .start created => t.startStep created
  | .stop => t.stopStep
  | .join => t.joinStep
  | .poll answers =>
    match t.log.pollStep detectWindows t.rules answers with
    | some (log, _) => { t with log := log, undisturbed := false }
    | none => t
  | .worker answers stops => t.workerStep detectWindows answers stops

/-- The calls the thread has still to make. -/
def pending (t : WatcherThread) : List (Nat × ProcessTransition) :=
  match t.worker with
  | some (.calling calls) => calls
  | _ => []

/-- The transitions of a poll that nobody was told of. -/
def untold (t : WatcherThread) : List ProcessTransition :=
  match t.worker with
  | some (.polled ts) => ts
  | _ => t.dropped

end WatcherThread

/-- What one callback hears of some calls. -/
def hears (c : Nat) (calls : List (Nat × ProcessTransition)) : List ProcessTransition :=
  (calls.filter fun call => call.1 = c).map Prod.snd

/-- The batches handed out to a callback. -/
def toldTo (c : Nat) (batches : List Batch) : List ProcessTransition :=
  (batches.filter fun batch => c < batch.callbacks).flatMap Batch.transitions

/-! ## What holds in every interleaving -/

structure WatcherInv (t : WatcherThread) : Prop where
  /-- What a callback has heard and has still to hear is what was handed out to it. -/
  exact : ∀ c, hears c t.heard ++ hears c t.pending = toldTo c t.told
  /-- What the polls emitted was handed out, but for what is untold. -/
  whole : t.undisturbed = true → t.told.flatMap Batch.transitions ++ t.untold = t.log.emitted
  kept : t.dropped ≠ [] → t.stopRequested = true ∧ (t.worker = none ∨ t.worker = some .returned)
  earlier : t.earlier ≤ t.callbacks
  batches : ∀ batch ∈ t.told, t.earlier ≤ batch.callbacks
  running : t.running = true ↔ t.worker.isSome = true ∧ t.stopRequested = false
  stopped : t.worker = some .returned → t.stopRequested = true
  joining : t.joining = true → t.worker.isSome = true ∧ t.stopRequested = true

theorem hears_append (c : Nat) (calls more : List (Nat × ProcessTransition)) :
    hears c (calls ++ more) = hears c calls ++ hears c more := by
  simp [hears]

theorem hears_cons (c : Nat) (call : Nat × ProcessTransition) (calls : List (Nat × ProcessTransition)) :
    hears c (call :: calls) = hears c [call] ++ hears c calls := hears_append c [call] calls

/-- One transition, to every callback. -/
theorem hears_round (c callbacks : Nat) (t : ProcessTransition) :
    hears c ((List.range callbacks).map fun c => (c, t)) = if c < callbacks then [t] else [] := by
  induction callbacks with
  | zero => rfl
  | succ n ih =>
    rw [List.range_succ, List.map_append, hears_append, ih]
    by_cases hlast : n = c
    · subst hlast
      rw [if_neg (Nat.lt_irrefl n), if_pos (Nat.lt_succ_self n)]
      simp [hears]
    · have hnone : hears c [(n, t)] = [] := by
        simp [hears, hlast]
      rw [List.map_singleton, hnone, List.append_nil]
      have hiff : c < n + 1 ↔ c < n := by omega
      simp only [hiff]

theorem hears_callsOf (c callbacks : Nat) (ts : List ProcessTransition) :
    hears c (callsOf callbacks ts) = if c < callbacks then ts else [] := by
  induction ts with
  | nil => simp [callsOf, hears]
  | cons t ts ih =>
    have hcons : callsOf callbacks (t :: ts) =
        ((List.range callbacks).map fun c => (c, t)) ++ callsOf callbacks ts := List.flatMap_cons
    rw [hcons, hears_append, hears_round, ih]
    by_cases hc : c < callbacks
    · simp only [if_pos hc, List.singleton_append]
    · simp only [if_neg hc, List.append_nil]

theorem toldTo_append (c : Nat) (batches more : List Batch) :
    toldTo c (batches ++ more) = toldTo c batches ++ toldTo c more := by
  simp [toldTo]

namespace WatcherThread

variable {detectWindows : Bool} {t : WatcherThread}

theorem toldTo_single (c : Nat) (batch : Batch) :
    toldTo c [batch] = if c < batch.callbacks then batch.transitions else [] := by
  unfold toldTo
  by_cases hc : c < batch.callbacks
  · simp [hc]
  · simp [hc]

theorem inv_init : WatcherInv ({} : WatcherThread) where
  exact _ := rfl
  whole _ := rfl
  kept h := absurd rfl h
  earlier := Nat.le_refl 0
  batches _ h := absurd h List.not_mem_nil
  running := by decide
  stopped h := by cases h
  joining h := by cases h

/-- The thread goes on to a place where it calls nobody, and nothing else changes. -/
theorem inv_move (h : WatcherInv t) (hpending : t.pending = []) {pc pc' : WorkerPc}
    (hpc : t.worker = some pc) (hnone : ({ t with worker := some pc' } : WatcherThread).pending = [])
    (huntold : ({ t with worker := some pc' } : WatcherThread).untold = t.untold)
    (hkept : t.dropped ≠ [] → pc' = .returned) (hstopped : pc' = .returned → t.stopRequested = true) :
    WatcherInv { t with worker := some pc' } where
  exact c := by
    rw [hnone, ← hpending]
    exact h.exact c
  whole hu := by
    rw [huntold]
    exact h.whole hu
  kept hd := ⟨(h.kept hd).1, .inr (congrArg some (hkept hd))⟩
  earlier := h.earlier
  batches := h.batches
  running := by
    have hrunning := h.running
    rw [hpc] at hrunning
    exact hrunning
  stopped hr := hstopped (Option.some.inj hr)
  joining hj := ⟨rfl, (h.joining hj).2⟩

theorem pollStep_emitted {rules : List GameRule} {w w' : WatchLog} {answers : List PollChoice}
    {ts : List ProcessTransition} (h : w.pollStep detectWindows rules answers = some (w', ts)) :
    w'.emitted = w.emitted ++ ts := by
  rcases pollStep_cases h with ⟨rfl, rfl⟩ | ⟨_, presence, -, rfl, rfl⟩
  · rw [List.append_nil]
  · rfl

/-- Only a thread that has returned has dropped anything. -/
theorem dropped_nil (h : WatcherInv t) {pc : WorkerPc} (hpc : t.worker = some pc)
    (hne : pc ≠ .returned) : t.dropped = [] := by
  by_contra hd
  rcases (h.kept hd).2 with hnone | hret
  · rw [hpc] at hnone
    cases hnone
  · rw [hpc] at hret
    exact hne (Option.some.inj hret)

section Worker

variable {ts : List ProcessTransition}

theorem inv_polled (h : WatcherInv t) (hpc : t.worker = some .polling) {answers : List PollChoice}
    {log : WatchLog} (hpoll : t.log.pollStep detectWindows t.rules answers = some (log, ts)) :
    WatcherInv { t with log := log, worker := some (.polled ts) } := by
  have hdropped := dropped_nil h hpc (fun hne => nomatch hne)
  have hpending : t.pending = [] := by
    rw [pending, hpc]
  have huntold : t.untold = t.dropped := by
    rw [untold, hpc]
  refine ⟨fun c => ?_, fun hu => ?_, fun hd => absurd hdropped hd, h.earlier, h.batches, ?_, ?_, ?_⟩
  · have hexact := h.exact c
    rw [hpending] at hexact
    exact hexact
  · have hwhole := h.whole hu
    rw [huntold, hdropped, List.append_nil] at hwhole
    show t.told.flatMap Batch.transitions ++ ts = log.emitted
    rw [hwhole, pollStep_emitted hpoll]
  · have hrunning := h.running
    rw [hpc] at hrunning
    exact hrunning
  · intro hret
    cases hret
  · exact fun hj => ⟨rfl, (h.joining hj).2⟩

/-- The stop is seen after the poll: its transitions are lost. -/
theorem inv_dropped (h : WatcherInv t) (hpc : t.worker = some (.polled ts))
    (hstop : t.stopRequested = true) :
    WatcherInv { t with dropped := ts, worker := some .returned } := by
  have hpending : t.pending = [] := by
    rw [pending, hpc]
  have huntold : t.untold = ts := by
    rw [untold, hpc]
  refine ⟨fun c => ?_, fun hu => ?_, fun _ => ⟨hstop, .inr rfl⟩, h.earlier, h.batches, ?_,
    fun _ => hstop, fun _ => ⟨rfl, hstop⟩⟩
  · have hexact := h.exact c
    rw [hpending] at hexact
    exact hexact
  · have hwhole := h.whole hu
    rw [huntold] at hwhole
    exact hwhole
  · have hrunning := h.running
    rw [hpc] at hrunning
    exact hrunning

theorem inv_told (h : WatcherInv t) (hpc : t.worker = some (.polled ts)) :
    WatcherInv { t with
      told := t.told ++ [{ callbacks := t.callbacks, transitions := ts }]
      worker := some (.calling (callsOf t.callbacks ts)) } := by
  have hdropped := dropped_nil h hpc (fun hne => nomatch hne)
  have hpending : t.pending = [] := by
    rw [pending, hpc]
  have huntold : t.untold = ts := by
    rw [untold, hpc]
  refine ⟨fun c => ?_, fun hu => ?_, fun hd => absurd hdropped hd, h.earlier, fun batch hbatch => ?_,
    ?_, ?_, fun hj => ⟨rfl, (h.joining hj).2⟩⟩
  · have hexact := h.exact c
    rw [hpending] at hexact
    show hears c t.heard ++ hears c (callsOf t.callbacks ts) = toldTo c (t.told ++ [_])
    rw [toldTo_append, toldTo_single, hears_callsOf, ← hexact, List.append_assoc]
    rfl
  · have hwhole := h.whole hu
    rw [huntold] at hwhole
    show (t.told ++ [_]).flatMap Batch.transitions ++ t.dropped = t.log.emitted
    rw [hdropped, List.append_nil, List.flatMap_append, List.flatMap_singleton]
    exact hwhole
  · rcases List.mem_append.mp hbatch with hbatch | hbatch
    · exact h.batches batch hbatch
    · rw [List.mem_singleton.mp hbatch]
      exact h.earlier
  · have hrunning := h.running
    rw [hpc] at hrunning
    exact hrunning
  · intro hret
    cases hret

theorem inv_called (h : WatcherInv t) {call : Nat × ProcessTransition}
    {calls : List (Nat × ProcessTransition)} (hpc : t.worker = some (.calling (call :: calls)))
    (stops : Bool) :
    WatcherInv { t with
      heard := t.heard ++ [call]
      stopRequested := t.stopRequested || stops
      running := t.running && !stops
      worker := some (.calling calls) } := by
  have hdropped := dropped_nil h hpc (fun hne => nomatch hne)
  have hpending : t.pending = call :: calls := by
    rw [pending, hpc]
  have huntold : t.untold = t.dropped := by
    rw [untold, hpc]
  refine ⟨fun c => ?_, fun hu => ?_, fun hd => absurd hdropped hd, h.earlier, h.batches, ?_, ?_,
    fun hj => ⟨rfl, ?_⟩⟩
  · have hexact := h.exact c
    rw [hpending, hears_cons, ← List.append_assoc, ← hears_append] at hexact
    exact hexact
  · have hwhole := h.whole hu
    rw [huntold] at hwhole
    exact hwhole
  · have hrunning := h.running
    rw [hpc] at hrunning
    cases stops with
    | false => simpa using hrunning
    | true => simp
  · intro hret
    cases hret
  · show (t.stopRequested || stops) = true
    rw [(h.joining hj).2, Bool.true_or]

theorem inv_workerStep (h : WatcherInv t) (answers : List PollChoice) (stops : Bool) :
    WatcherInv (t.workerStep detectWindows answers stops) := by
  unfold workerStep
  cases hpc : t.worker with
  | none => exact h
  | some pc =>
    have hdropped : pc ≠ .returned → t.dropped = [] := dropped_nil h hpc
    cases pc with
    | polling =>
      dsimp only
      split
      · case _ hpoll => exact inv_polled h hpc hpoll
      · exact h
    | polled ts =>
      dsimp only
      split
      · case _ hstop => exact inv_dropped h hpc hstop
      · exact inv_told h hpc
    | calling calls =>
      cases calls with
      | nil =>
        refine inv_move h ?_ hpc rfl ?_ (fun hd => ?_) fun hne => nomatch hne
        · rw [pending, hpc]
        · rw [untold, untold, hpc]
        · exact absurd (hdropped fun hne => nomatch hne) hd
      | cons call calls => exact inv_called h hpc stops
    | waiting =>
      have hpending : t.pending = [] := by
        rw [pending, hpc]
      dsimp only
      split
      · case _ hstop =>
        refine inv_move h hpending hpc rfl ?_ (fun _ => rfl) fun _ => hstop
        rw [untold, untold, hpc]
      · refine inv_move h hpending hpc rfl ?_ (fun hd => ?_) fun hne => nomatch hne
        · rw [untold, untold, hpc]
        · exact absurd (hdropped fun hne => nomatch hne) hd
    | returned => exact h

end Worker

theorem inv_startStep (h : WatcherInv t) (created : Bool) : WatcherInv (t.startStep created) := by
  unfold startStep
  split
  · exact h
  · case _ hidle =>
    rw [not_or, Bool.not_eq_true, Bool.not_eq_true] at hidle
    have hj : ∀ {P : Prop}, t.joining = true → P := by
      intro P hjoining
      rw [hidle.2] at hjoining
      cases hjoining
    cases created with
    | true =>
      exact ⟨fun _ => rfl, fun _ => rfl, fun hd => absurd rfl hd, Nat.le_refl _,
        fun _ hb => absurd hb List.not_mem_nil, by simp, (fun hret => by cases hret), hj⟩
    | false =>
      exact ⟨fun _ => rfl, fun _ => rfl, fun hd => absurd rfl hd, Nat.le_refl _,
        fun _ hb => absurd hb List.not_mem_nil, by simp, (fun hret => by cases hret), hj⟩

theorem inv_stopStep (h : WatcherInv t) : WatcherInv t.stopStep := by
  unfold stopStep
  split
  · exact h
  · split
    · case _ hworker =>
      exact ⟨h.exact, h.whole, fun hd => ⟨rfl, (h.kept hd).2⟩, h.earlier, h.batches, by simp,
        fun _ => rfl, fun _ => ⟨hworker, rfl⟩⟩
    · case _ hworker =>
      refine ⟨h.exact, h.whole, h.kept, h.earlier, h.batches, ?_, h.stopped, h.joining⟩
      simp [hworker]

theorem inv_joinStep (h : WatcherInv t) : WatcherInv t.joinStep := by
  unfold joinStep
  split
  · case _ hpc =>
    have hpending : t.pending = [] := by
      rw [pending, hpc]
    have huntold : t.untold = t.dropped := by
      rw [untold, hpc]
    have hstop := h.stopped hpc
    refine ⟨fun c => ?_, fun hu => ?_, fun _ => ⟨hstop, .inl rfl⟩, h.earlier, h.batches, ?_,
      (fun hret => by cases hret), fun hj => by cases hj⟩
    · have hexact := h.exact c
      rw [hpending] at hexact
      exact hexact
    · have hwhole := h.whole hu
      rw [huntold] at hwhole
      exact hwhole
    · have hrunning := h.running
      rw [hstop] at hrunning
      simpa using hrunning
  · exact h

theorem inv_step (h : WatcherInv t) (e : WatcherEvent) : WatcherInv (t.step detectWindows e) := by
  cases e with
  | setRules games =>
    exact ⟨h.exact, (fun hu => by cases hu), h.kept, h.earlier, h.batches, h.running, h.stopped, h.joining⟩
  | subscribe =>
    exact ⟨h.exact, h.whole, h.kept, h.earlier.trans (Nat.le_succ _), h.batches, h.running, h.stopped,
      h.joining⟩
  | start created => exact inv_startStep h created
  | stop => exact inv_stopStep h
  | join => exact inv_joinStep h
  | poll answers =>
    unfold step
    dsimp only
    split
    · exact ⟨h.exact, (fun hu => by cases hu), h.kept, h.earlier, h.batches, h.running, h.stopped,
        h.joining⟩
    · exact h
  | worker answers stops => exact inv_workerStep h answers stops

theorem inv_run (detectWindows : Bool) (es : List WatcherEvent) :
    WatcherInv (run (step detectWindows) {} es) := by
  have hsteps : Steps (step detectWindows) (fun _ _ => True) {} es :=
    steps_of_forall (φ := fun _ => True) fun _ _ => trivial
  have halways : Always (step detectWindows) WatcherInv {} es :=
    always_of_steps (I := WatcherInv) (fun t e h _ => inv_step h e) (fun _ h => h) inv_init hsteps
  exact halways.last

end WatcherThread

/-! ## What a subscriber hears -/

structure HearsWholePolls (t : WatcherThread) : Prop where
  /-- What is handed out to a callback it hears in order and once; the rest is still to come. -/
  exact : ∀ c, hears c t.heard ++ hears c t.pending = toldTo c t.told
  /-- To a callback from before the start everything is handed out, but for what is untold. -/
  whole : t.undisturbed = true → ∀ c < t.earlier,
    hears c t.heard ++ hears c t.pending ++ t.untold = t.log.emitted
  /-- Untold is the last poll, before its calls or after a stop. -/
  last : t.untold ≠ [] → (∃ ts, t.worker = some (.polled ts)) ∨ t.stopRequested = true
  running : t.running = true → t.worker.isSome = true ∧ t.worker ≠ some .returned

theorem WatcherInv.toldTo_earlier {t : WatcherThread} (h : WatcherInv t) {c : Nat} (hc : c < t.earlier) :
    toldTo c t.told = t.told.flatMap Batch.transitions := by
  have hall : ∀ batch ∈ t.told, decide (c < batch.callbacks) = true := by
    intro batch hbatch
    exact decide_eq_true (Nat.lt_of_lt_of_le hc (h.batches batch hbatch))
  rw [toldTo, List.filter_eq_self.mpr hall]

theorem WatcherInv.hears {t : WatcherThread} (h : WatcherInv t) : HearsWholePolls t where
  exact := h.exact
  whole hu c hc := by
    rw [h.exact c, h.toldTo_earlier hc]
    exact h.whole hu
  last hu := by
    by_cases hpolled : ∃ ts, t.worker = some (.polled ts)
    · exact .inl hpolled
    · have hdropped : t.untold = t.dropped := by
        unfold WatcherThread.untold
        split
        · case _ ts hpc => exact absurd ⟨ts, hpc⟩ hpolled
        · rfl
      rw [hdropped] at hu
      exact .inr (h.kept hu).1
  running hr := by
    obtain ⟨hsome, hstop⟩ := h.running.mp hr
    refine ⟨hsome, fun hret => ?_⟩
    rw [h.stopped hret] at hstop
    cases hstop

/-- In every interleaving each callback hears, in order and once, the transitions of whole polls; one
from before the start hears all that the polls of the thread emit, but for the last poll when a stop
comes before its calls. -/
theorem hears_whole_polls (detectWindows : Bool) (es : List WatcherEvent) :
    Always (WatcherThread.step detectWindows) HearsWholePolls {} es :=
  fun pre _ => (WatcherThread.inv_run detectWindows pre).hears

end Process
end CppOptimizer
