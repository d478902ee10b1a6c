import CppOptimizer.Activity.UserActivity
import CppOptimizer.Common.Error
import CppOptimizer.Lib.Prog
import Mathlib.Data.List.Induction
import Mathlib.Data.List.Range

/-!
# CppOptimizer.Activity.Observers

The three observers of the user (`user_activity.cpp`) over their probes.

* `observeActivity`           — by the last input alone.
* `observeActivityContext`    — the session too: a lock or a disconnect hides what the input says.
* `observeActivityForeground` — the process in front as well, with or without the session.
* `foreground_observed`       — what a run of the last asks, reports and counts.
* `observers_agree`           — it reports what the other two report of the same world.

A `ProbeWorld` has an answer for every sample. The state of a run is the number of samples reported.
-/

namespace CppOptimizer
namespace Activity

open Common Lib

/-! ## Samples and states -/

inductive ActivityState where
  | unknown | active | idle | locked | disconnected
  deriving DecidableEq, Repr

structure InputActivitySample where
  nowTick : UInt32 := 0
  lastInputTick : UInt32 := 0
  deriving DecidableEq, Repr

inductive SessionLinkState where
  | unknown | active | connected | disconnected | idle | listen
  deriving DecidableEq, Repr

structure SessionContext where
  remoteSession : Bool := false
  locked : Bool := false
  link : SessionLinkState := .unknown
  deriving DecidableEq, Repr

structure ForegroundSample where
  hasWindow : Bool := false
  pid : UInt32 := 0
  deriving DecidableEq, Repr

inductive ForegroundAttribution where
  | notApplicable | unknown | noWindow | pid
  deriving DecidableEq, Repr

structure ForegroundAttributionInfo where
  attribution : ForegroundAttribution := .notApplicable
  pid : UInt32 := 0
  deriving DecidableEq, Repr

def classifyActivity (nowTick lastInputTick : UInt32) (idleThresholdMs : Int) : ActivityState :=
  if idleThresholdMs < 0 then .active
  else if idleMilliseconds nowTick lastInputTick ≥ idleThresholdMs then .idle else .active

theorem isActive_iff (nowTick lastInputTick : UInt32) (idleThresholdMs : Int) :
    isActive nowTick lastInputTick idleThresholdMs = true ↔
      classifyActivity nowTick lastInputTick idleThresholdMs = .active := by
  unfold isActive classifyActivity
  split
  · simp
  · split
    · case _ h => simp [h]
    · case _ h => simp [h]

/-- A disconnect goes before a lock. -/
def classifyContextState (inputState : ActivityState) (context : SessionContext) : ActivityState :=
  if context.link = .disconnected then .disconnected
  else if context.locked then .locked
  else inputState

def isForegroundAttributable (state : ActivityState) : Bool :=
  state == .active || state == .idle

/-! ## Summaries -/

structure ActivityWindowSummary where
  samples : Nat := 0
  active : Nat := 0
  idle : Nat := 0
  unknown : Nat := 0
  deriving DecidableEq, Repr

structure ActivityContextSummary where
  samples : Nat := 0
  active : Nat := 0
  idle : Nat := 0
  locked : Nat := 0
  disconnected : Nat := 0
  unknown : Nat := 0
  deriving DecidableEq, Repr

structure ActivityForegroundSummary where
  states : ActivityContextSummary := {}
  attributedPid : Nat := 0
  noWindow : Nat := 0
  foregroundUnknown : Nat := 0
  notApplicable : Nat := 0
  deriving DecidableEq, Repr

def ActivityWindowSummary.countUnknown (m : ActivityWindowSummary) : ActivityWindowSummary :=
  { m with samples := m.samples + 1, unknown := m.unknown + 1 }

/-- What is not idle counts as active here. -/
def ActivityWindowSummary.countState (m : ActivityWindowSummary) (state : ActivityState) :
    ActivityWindowSummary :=
  if state = .idle then { m with samples := m.samples + 1, idle := m.idle + 1 }
  else { m with samples := m.samples + 1, active := m.active + 1 }

def ActivityContextSummary.countState (m : ActivityContextSummary) :
    ActivityState → ActivityContextSummary
  | .locked => { m with samples := m.samples + 1, locked := m.locked + 1 }
  | .disconnected => { m with samples := m.samples + 1, disconnected := m.disconnected + 1 }
  | .idle => { m with samples := m.samples + 1, idle := m.idle + 1 }
  | .active => { m with samples := m.samples + 1, active := m.active + 1 }
  | .unknown => { m with samples := m.samples + 1, unknown := m.unknown + 1 }

def ActivityForegroundSummary.countForeground (m : ActivityForegroundSummary) :
    ForegroundAttribution → ActivityForegroundSummary
  | .unknown => { m with foregroundUnknown := m.foregroundUnknown + 1 }
  | .pid => { m with attributedPid := m.attributedPid + 1 }
  | .noWindow => { m with noWindow := m.noWindow + 1 }
  | .notApplicable => { m with notApplicable := m.notApplicable + 1 }

def ActivityForegroundSummary.countSample (m : ActivityForegroundSummary) (state : ActivityState)
    (info : ForegroundAttributionInfo) : ActivityForegroundSummary :=
  { m.countForeground info.attribution with states := m.states.countState state }

/-! ## The observers -/

/-- What a callback is given. -/
structure Sample where
  state : ActivityState
  idleMs : Int
  /-- The third argument, of the observer that has one. -/
  info : Option ForegroundAttributionInfo := none
  deriving DecidableEq, Repr

inductive ProbeCall where
  | session
  | input
  | foreground
  | onSample (sample : Sample)
  | sleep
  deriving DecidableEq

def ProbeCall.Answer : ProbeCall → Type
  | .session => Result SessionContext
  | .input => Result InputActivitySample
  | .foreground => Result ForegroundSample
  | .onSample _ => Unit
  | .sleep => Unit

abbrev ObserverProg := Prog ProbeCall ProbeCall.Answer

namespace ObserverProg

def session : ObserverProg (Result SessionContext) := Prog.perform ProbeCall.session
def input : ObserverProg (Result InputActivitySample) := Prog.perform ProbeCall.input
def foreground : ObserverProg (Result ForegroundSample) := Prog.perform ProbeCall.foreground
def onSample (sample : Sample) : ObserverProg Unit := Prog.perform (ProbeCall.onSample sample)
def sleep : ObserverProg Unit := Prog.perform ProbeCall.sleep

end ObserverProg

open ObserverProg

/-- The loop of all three: no wait after the last sample, and none for an interval of `0`. -/
def observeLoop {S : Type} (body : S → ObserverProg S) (sampleInterval : Int) :
    Nat → S → ObserverProg S
  | 0, summary => pure summary
  | left + 1, summary => do
    let summary ← body summary
    if 0 < sampleInterval ∧ 0 < left then
      sleep
      observeLoop body sampleInterval left summary
    else observeLoop body sampleInterval left summary

def observeWindow {S : Type} (operation : String) (body : S → ObserverProg S) (sampleInterval : Int)
    (sampleCount : Nat) (summary : S) : ObserverProg (Result S) :=
  if sampleCount = 0 then pure (.error (.validation operation "sampleCount 必须为正"))
  else do
    let summary ← observeLoop body sampleInterval sampleCount summary
    pure (.ok summary)

def windowSample (idleThresholdMs : Int) (summary : ActivityWindowSummary) :
    ObserverProg ActivityWindowSummary := do
  match ← input with
  | .error _ =>
    onSample ⟨.unknown, 0, none⟩
    pure summary.countUnknown
  | .ok sample =>
    let state := classifyActivity sample.nowTick sample.lastInputTick idleThresholdMs
    onSample ⟨state, idleMilliseconds sample.nowTick sample.lastInputTick, none⟩
    pure (summary.countState state)

def observeActivity (sampleCount : Nat) (sampleInterval idleThresholdMs : Int) :
    ObserverProg (Result ActivityWindowSummary) :=
  observeWindow "ObserveActivity" (windowSample idleThresholdMs) sampleInterval sampleCount {}

/-- A sample is unknown when either query fails. -/
def contextSample (idleThresholdMs : Int) (summary : ActivityContextSummary) :
    ObserverProg ActivityContextSummary := do
  let session ← session
  let query ← input
  match session, query with
  | .ok context, .ok sample =>
    let inputState := classifyActivity sample.nowTick sample.lastInputTick idleThresholdMs
    let state := classifyContextState inputState context
    onSample ⟨state, idleMilliseconds sample.nowTick sample.lastInputTick, none⟩
    pure (summary.countState state)
  | _, _ =>
    onSample ⟨.unknown, 0, none⟩
    pure (summary.countState .unknown)

def observeActivityContext (sampleCount : Nat) (sampleInterval idleThresholdMs : Int) :
    ObserverProg (Result ActivityContextSummary) :=
  observeWindow "ObserveActivityContext" (contextSample idleThresholdMs) sampleInterval sampleCount {}

/-- The state and the idle time of a sample, from its two queries. -/
def presence (withSession : Bool) (idleThresholdMs : Int) (session : Result SessionContext)
    (query : Result InputActivitySample) : ActivityState × Int :=
  match query, session with
  | .ok sample, .ok context =>
    let inputState := classifyActivity sample.nowTick sample.lastInputTick idleThresholdMs
    (if withSession then classifyContextState inputState context else inputState,
      idleMilliseconds sample.nowTick sample.lastInputTick)
  | _, _ => (.unknown, 0)

def attribution : Result ForegroundSample → ForegroundAttributionInfo
  | .error _ => { attribution := .unknown }
  | .ok foreground =>
    if foreground.hasWindow then { attribution := .pid, pid := foreground.pid }
    else { attribution := .noWindow }

/-- The process in front is asked for only while the user can be at it. -/
def foregroundInfo (state : ActivityState) : ObserverProg ForegroundAttributionInfo :=
  if isForegroundAttributable state then do
    let answer ← foreground
    pure (attribution answer)
  else pure { attribution := .notApplicable }

/-- `withSession` says whether there is a session probe. -/
def foregroundSample (withSession : Bool) (idleThresholdMs : Int) (summary : ActivityForegroundSummary) :
    ObserverProg ActivityForegroundSummary := do
  let session ← if withSession then session else pure (.ok {})
  let query ← input
  let (state, idleMs) := presence withSession idleThresholdMs session query
  let info ← foregroundInfo state
  onSample ⟨state, idleMs, some info⟩
  pure (summary.countSample state info)

def observeActivityForeground (withSession : Bool) (sampleCount : Nat)
    (sampleInterval idleThresholdMs : Int) : ObserverProg (Result ActivityForegroundSummary) :=
  observeWindow "ObserveActivityForeground" (foregroundSample withSession idleThresholdMs) sampleInterval
    sampleCount {}

/-! ## The world of a run -/

structure ProbeWorld where
  session : Nat → Result SessionContext
  input : Nat → Result InputActivitySample
  foreground : Nat → Result ForegroundSample

def probeHandler : Lib.Handler ProbeCall ProbeCall.Answer Nat ProbeWorld where
  answer i
    | .session, W => (W.session i, i)
    | .input, W => (W.input i, i)
    | .foreground, W => (W.foreground i, i)
    | .onSample _, _ => ((), i + 1)
    | .sleep, _ => ((), i)

section Calls

variable (W : ProbeWorld) (i : Nat)

@[simp] theorem session_runs : session.calls probeHandler W i = [.session] ∧
    session.exec probeHandler W i = (i, W.session i) := ⟨rfl, rfl⟩
@[simp] theorem input_runs : input.calls probeHandler W i = [.input] ∧
    input.exec probeHandler W i = (i, W.input i) := ⟨rfl, rfl⟩
@[simp] theorem onSample_runs (sample : Sample) :
    (onSample sample).calls probeHandler W i = [.onSample sample] ∧
      (onSample sample).exec probeHandler W i = (i + 1, ()) := ⟨rfl, rfl⟩

end Calls

/-! ## The loop -/

section Loop

variable {S : Type} (W : ProbeWorld)

/-- One turn makes the calls `asks i` for sample `i` and brings `m` to `counts i m`. -/
structure Takes (body : S → ObserverProg S) (asks : Nat → List ProbeCall) (counts : Nat → S → S) :
    Prop where
  calls : ∀ i m, (body m).calls probeHandler W i = asks i
  exec : ∀ i m, (body m).exec probeHandler W i = (i + 1, counts i m)

/-- The wait after a sample with `left` more to come. -/
def waits (sampleInterval : Int) (left : Nat) : List ProbeCall :=
  if 0 < sampleInterval ∧ 0 < left then [.sleep] else []

variable {W} {body : S → ObserverProg S} {asks : Nat → List ProbeCall} {counts : Nat → S → S}

theorem observeLoop_succ (hbody : Takes W body asks counts) (sampleInterval : Int) (left i : Nat) (m : S) :
    (observeLoop body sampleInterval (left + 1) m).calls probeHandler W i =
        asks i ++ waits sampleInterval left ++
          (observeLoop body sampleInterval left (counts i m)).calls probeHandler W (i + 1) ∧
      (observeLoop body sampleInterval (left + 1) m).exec probeHandler W i =
        (observeLoop body sampleInterval left (counts i m)).exec probeHandler W (i + 1) := by
  rw [observeLoop, Prog.calls_bind, Prog.exec_bind, hbody.calls, hbody.exec, List.append_assoc]
  unfold waits
  split
  · exact ⟨rfl, rfl⟩
  · exact ⟨rfl, rfl⟩

theorem observeLoop_calls (hbody : Takes W body asks counts) (sampleInterval : Int) (left : Nat) :
    ∀ (i : Nat) (m : S), (observeLoop body sampleInterval left m).calls probeHandler W i =
      (List.range left).flatMap fun j => asks (i + j) ++ waits sampleInterval (left - (j + 1)) := by
  induction left with
  | zero => intro i m; rfl
  | succ left ih =>
    intro i m
    rw [(observeLoop_succ hbody sampleInterval left i m).1, ih, List.range_succ_eq_map, List.flatMap_cons,
      List.flatMap_map]
    congr 1
    refine List.flatMap_congr fun j _ => ?_
    have hi : i + 1 + j = i + (j + 1) := by omega
    have hleft : left - (j + 1) = left + 1 - (j + 1 + 1) := by omega
    rw [hi, hleft]

theorem observeLoop_exec (hbody : Takes W body asks counts) (sampleInterval : Int) (left : Nat) :
    ∀ (i : Nat) (m : S), (observeLoop body sampleInterval left m).exec probeHandler W i =
      (i + left, (List.range' i left).foldl (fun m j => counts j m) m) := by
  induction left with
  | zero => intro i m; rfl
  | succ left ih =>
    intro i m
    rw [(observeLoop_succ hbody sampleInterval left i m).2, ih, List.range'_succ, List.foldl_cons]
    congr 1
    omega

/-- A whole window, from the first sample on. -/
theorem observeWindow_runs (hbody : Takes W body asks counts) (operation : String) (sampleInterval : Int)
    (more : Nat) (m : S) :
    (observeWindow operation body sampleInterval (more + 1) m).calls probeHandler W 0 =
        ((List.range (more + 1)).flatMap fun i => asks i ++ waits sampleInterval (more - i)) ∧
      ((observeWindow operation body sampleInterval (more + 1) m).exec probeHandler W 0).2 =
        .ok ((List.range (more + 1)).foldl (fun m i => counts i m) m) := by
  unfold observeWindow
  rw [if_neg (Nat.succ_ne_zero more), Prog.calls_bind, Prog.exec_bind, observeLoop_calls hbody,
    observeLoop_exec hbody]
  refine ⟨?_, ?_⟩
  · rw [Prog.pure_eq, Prog.calls_ret, List.append_nil]
    refine List.flatMap_congr fun i _ => ?_
    rw [Nat.zero_add, Nat.add_sub_add_right]
  · rw [List.range_eq_range']
    rfl

end Loop

/-! ## One sample -/

section Samples

variable (W : ProbeWorld)

/-- What the last input says of sample `i`. -/
def inputAt (idleThresholdMs : Int) (i : Nat) : ActivityState × Int :=
  presence false idleThresholdMs (.ok {}) (W.input i)

/-- What it says under the session of that moment. -/
def presenceAt (withSession : Bool) (idleThresholdMs : Int) (i : Nat) : ActivityState × Int :=
  presence withSession idleThresholdMs (if withSession then W.session i else .ok {}) (W.input i)

def infoAt (state : ActivityState) (i : Nat) : ForegroundAttributionInfo :=
  if isForegroundAttributable state then attribution (W.foreground i) else {}

def windowAsks (idleThresholdMs : Int) (i : Nat) : List ProbeCall :=
  [.input, .onSample ⟨(inputAt W idleThresholdMs i).1, (inputAt W idleThresholdMs i).2, none⟩]

def contextAsks (idleThresholdMs : Int) (i : Nat) : List ProbeCall :=
  [.session, .input,
    .onSample ⟨(presenceAt W true idleThresholdMs i).1, (presenceAt W true idleThresholdMs i).2, none⟩]

def foregroundAsks (withSession : Bool) (idleThresholdMs : Int) (i : Nat) : List ProbeCall :=
  (if withSession then [.session] else []) ++ [.input] ++
    (if isForegroundAttributable (presenceAt W withSession idleThresholdMs i).1 then [.foreground] else []) ++
    [.onSample ⟨(presenceAt W withSession idleThresholdMs i).1, (presenceAt W withSession idleThresholdMs i).2,
      some (infoAt W (presenceAt W withSession idleThresholdMs i).1 i)⟩]

def ActivityWindowSummary.countPresence (m : ActivityWindowSummary) (state : ActivityState) :
    ActivityWindowSummary :=
  if state = .unknown then m.countUnknown else m.countState state

/-- An input that was read makes the user active or idle. -/
theorem classifyActivity_cases (nowTick lastInputTick : UInt32) (idleThresholdMs : Int) :
    classifyActivity nowTick lastInputTick idleThresholdMs = .active ∨
      classifyActivity nowTick lastInputTick idleThresholdMs = .idle := by
  unfold classifyActivity
  split
  · exact .inl rfl
  · split
    · exact .inr rfl
    · exact .inl rfl

theorem windowSample_takes (idleThresholdMs : Int) :
    Takes W (windowSample idleThresholdMs) (windowAsks W idleThresholdMs)
      fun i m => m.countPresence (inputAt W idleThresholdMs i).1 := by
  refine ⟨fun i m => ?_, fun i m => ?_⟩
  · unfold windowSample windowAsks inputAt presence
    cases hquery : W.input i with
    | error e => simp [Prog.calls_bind, hquery]
    | ok sample => simp [Prog.calls_bind, hquery]
  · unfold windowSample inputAt presence ActivityWindowSummary.countPresence
    cases hquery : W.input i with
    | error e => simp [Prog.exec_bind, hquery]
    | ok sample =>
      rcases classifyActivity_cases sample.nowTick sample.lastInputTick idleThresholdMs with h | h
      · simp [Prog.exec_bind, hquery, h]
      · simp [Prog.exec_bind, hquery, h]

theorem contextSample_takes (idleThresholdMs : Int) :
    Takes W (contextSample idleThresholdMs) (contextAsks W idleThresholdMs)
      fun i m => m.countState (presenceAt W true idleThresholdMs i).1 := by
  refine ⟨fun i m => ?_, fun i m => ?_⟩
  · unfold contextSample contextAsks presenceAt presence
    rcases hsession : W.session i with e | context
    · rcases W.input i with e' | sample <;> simp [Prog.calls_bind, hsession]
    · rcases hquery : W.input i with e' | sample <;>
        simp [Prog.calls_bind, hsession, hquery]
  · unfold contextSample presenceAt presence
    rcases hsession : W.session i with e | context
    · rcases W.input i with e' | sample <;> simp [Prog.exec_bind, hsession]
    · rcases hquery : W.input i with e' | sample <;> simp [Prog.exec_bind, hsession, hquery]

theorem foregroundInfo_runs (state : ActivityState) (i : Nat) :
    (foregroundInfo state).calls probeHandler W i =
        (if isForegroundAttributable state then [.foreground] else []) ∧
      (foregroundInfo state).exec probeHandler W i = (i, infoAt W state i) := by
  unfold foregroundInfo infoAt
  split
  · exact ⟨rfl, rfl⟩
  · exact ⟨rfl, rfl⟩

theorem foregroundSample_takes (withSession : Bool) (idleThresholdMs : Int) :
    Takes W (foregroundSample withSession idleThresholdMs) (foregroundAsks W withSession idleThresholdMs)
      fun i m => m.countSample (presenceAt W withSession idleThresholdMs i).1
        (infoAt W (presenceAt W withSession idleThresholdMs i).1 i) := by
  refine ⟨fun i m => ?_, fun i m => ?_⟩
  · unfold foregroundSample foregroundAsks presenceAt
    cases withSession with
    | false => simp [Prog.calls_bind, foregroundInfo_runs]
    | true => simp [Prog.calls_bind, foregroundInfo_runs]
  · unfold foregroundSample presenceAt
    cases withSession with
    | false => simp [Prog.exec_bind, foregroundInfo_runs]
    | true => simp [Prog.exec_bind, foregroundInfo_runs]

end Samples

/-! ## The summaries -/

/-- How often each state is in the list. -/
def tally (states : List ActivityState) : ActivityContextSummary where
  samples := states.length
  active := states.count .active
  idle := states.count .idle
  locked := states.count .locked
  disconnected := states.count .disconnected
  unknown := states.count .unknown

def foregroundTally (samples : List (ActivityState × ForegroundAttribution)) :
    ActivityForegroundSummary where
  states := tally (samples.map Prod.fst)
  attributedPid := (samples.map Prod.snd).count .pid
  noWindow := (samples.map Prod.snd).count .noWindow
  foregroundUnknown := (samples.map Prod.snd).count .unknown
  notApplicable := (samples.map Prod.snd).count .notApplicable

/-- The part of a summary that the plain observer has. -/
def ActivityContextSummary.window (m : ActivityContextSummary) : ActivityWindowSummary where
  samples := m.samples
  active := m.active
  idle := m.idle
  unknown := m.unknown

theorem tally_concat (states : List ActivityState) (state : ActivityState) :
    tally (states ++ [state]) = (tally states).countState state := by
  cases state <;> simp [tally, ActivityContextSummary.countState]

theorem foldl_countState (states : List ActivityState) :
    states.foldl ActivityContextSummary.countState {} = tally states := by
  induction states using List.reverseRecOn with
  | nil => rfl
  | append_singleton states state ih => rw [List.foldl_concat, ih, tally_concat]

theorem foregroundTally_concat (samples : List (ActivityState × ForegroundAttribution))
    (state : ActivityState) (info : ForegroundAttributionInfo) :
    foregroundTally (samples ++ [(state, info.attribution)]) =
      (foregroundTally samples).countSample state info := by
  have htally := tally_concat (samples.map Prod.fst) state
  rcases info with ⟨attribution, pid⟩
  cases attribution <;>
    simp [foregroundTally, htally, ActivityForegroundSummary.countSample,
      ActivityForegroundSummary.countForeground]

theorem foldl_countSample (stateAt : Nat → ActivityState) (info : Nat → ForegroundAttributionInfo) (n : Nat) :
    (List.range n).foldl (fun m i => m.countSample (stateAt i) (info i)) {} =
      foregroundTally ((List.range n).map fun i => (stateAt i, (info i).attribution)) := by
  induction n with
  | zero => rfl
  | succ n ih =>
    rw [List.range_succ, List.foldl_concat, ih, List.map_append, List.map_singleton,
      foregroundTally_concat]

/-- Every sample has one state. -/
theorem tally_whole (states : List ActivityState) :
    (tally states).active + (tally states).idle + (tally states).locked + (tally states).disconnected +
      (tally states).unknown = (tally states).samples := by
  induction states with
  | nil => rfl
  | cons state states ih =>
    simp only [tally] at ih ⊢
    cases state <;> simp <;> omega

theorem window_countState (m : ActivityContextSummary) {state : ActivityState}
    (hlocked : state ≠ .locked) (hdisconnected : state ≠ .disconnected) :
    (m.countState state).window = m.window.countPresence state := by
  cases state with
  | locked => exact absurd rfl hlocked
  | disconnected => exact absurd rfl hdisconnected
  | unknown => rfl
  | active => rfl
  | idle => rfl

/-! ## The foreground observer -/

section Foreground

variable (W : ProbeWorld) (withSession : Bool) (sampleInterval idleThresholdMs : Int) (more : Nat)

/-- The state and the kind of attribution of sample `i`. -/
def sampleAt (i : Nat) : ActivityState × ForegroundAttribution :=
  ((presenceAt W withSession idleThresholdMs i).1,
    (infoAt W (presenceAt W withSession idleThresholdMs i).1 i).attribution)

/-- What the callback of sample `i` may say. -/
structure HonestSample (i : Nat) : Prop where
  /-- A user who is there was seen, at a session that is neither locked nor cut off. -/
  present : isForegroundAttributable (presenceAt W withSession idleThresholdMs i).1 = true →
    (∃ sample, W.input i = .ok sample) ∧
      (withSession = true →
        ∃ context, W.session i = .ok context ∧ context.locked = false ∧ context.link ≠ .disconnected)
  /-- A process is named only when the query for it named it, while the user is there. -/
  process : (infoAt W (presenceAt W withSession idleThresholdMs i).1 i).attribution = .pid ∨
      (infoAt W (presenceAt W withSession idleThresholdMs i).1 i).pid ≠ 0 →
    isForegroundAttributable (presenceAt W withSession idleThresholdMs i).1 = true ∧
      W.foreground i = .ok
        { hasWindow := true, pid := (infoAt W (presenceAt W withSession idleThresholdMs i).1 i).pid }

/-- A run of `more + 1` samples. -/
structure ForegroundObserved : Prop where
  /-- Every call in its order, with what the callbacks are given. -/
  calls : (observeActivityForeground withSession (more + 1) sampleInterval idleThresholdMs).calls
      probeHandler W 0 =
    (List.range (more + 1)).flatMap fun i =>
      foregroundAsks W withSession idleThresholdMs i ++ waits sampleInterval (more - i)
  honest : ∀ i, HonestSample W withSession idleThresholdMs i
  /-- The summary counts the samples. -/
  summary : ((observeActivityForeground withSession (more + 1) sampleInterval idleThresholdMs).exec
      probeHandler W 0).2 =
    .ok (foregroundTally ((List.range (more + 1)).map (sampleAt W withSession idleThresholdMs)))
  /-- The process in front is asked for once for each sample with the user there, and never else. -/
  asked : ((observeActivityForeground withSession (more + 1) sampleInterval idleThresholdMs).calls
      probeHandler W 0).count .foreground =
    (tally ((List.range (more + 1)).map fun i => (presenceAt W withSession idleThresholdMs i).1)).active +
      (tally ((List.range (more + 1)).map fun i => (presenceAt W withSession idleThresholdMs i).1)).idle

theorem presence_attributable {session : Result SessionContext} {query : Result InputActivitySample}
    (h : isForegroundAttributable (presence withSession idleThresholdMs session query).1 = true) :
    (∃ sample, query = .ok sample) ∧
      ∃ context, session = .ok context ∧
        (withSession = true → context.locked = false ∧ context.link ≠ .disconnected) := by
  unfold presence at h
  split at h
  · case _ sample context =>
    refine ⟨⟨sample, rfl⟩, context, rfl, fun hwith => ?_⟩
    subst hwith
    dsimp only at h
    rw [if_pos rfl, classifyContextState] at h
    split at h
    · cases h
    · case _ hlink =>
      split at h
      · cases h
      · case _ hlocked => exact ⟨Bool.eq_false_iff.mpr hlocked, hlink⟩
  · cases h

theorem honestSample (i : Nat) : HonestSample W withSession idleThresholdMs i := by
  refine ⟨fun hthere => ?_, fun hprocess => ?_⟩
  · obtain ⟨hinput, context, hsession, hopen⟩ := presence_attributable withSession idleThresholdMs hthere
    refine ⟨hinput, fun hwith => ⟨context, ?_, hopen hwith⟩⟩
    rwa [if_pos hwith] at hsession
  · unfold infoAt at hprocess ⊢
    split at hprocess
    · case _ hthere =>
      rw [if_pos hthere]
      refine ⟨hthere, ?_⟩
      unfold attribution at hprocess ⊢
      split at hprocess
      · rcases hprocess with h | h
        · cases h
        · exact absurd rfl h
      · case _ foreground hforeground =>
        split at hprocess
        · case _ hwindow =>
          rw [hforeground, if_pos hwindow, ← hwindow]
        · rcases hprocess with h | h
          · cases h
          · exact absurd rfl h
    · rcases hprocess with h | h
      · cases h
      · exact absurd rfl h

theorem count_waits (left : Nat) : (waits sampleInterval left).count .foreground = 0 := by
  unfold waits
  split
  · rfl
  · rfl

theorem count_foregroundAsks (i : Nat) :
    (foregroundAsks W withSession idleThresholdMs i).count .foreground =
      if isForegroundAttributable (presenceAt W withSession idleThresholdMs i).1 then 1 else 0 := by
  unfold foregroundAsks
  by_cases hthere : isForegroundAttributable (presenceAt W withSession idleThresholdMs i).1 = true
  · rw [if_pos hthere, if_pos hthere]
    cases withSession with
    | false => simp
    | true => simp
  · rw [if_neg hthere, if_neg hthere]
    cases withSession with
    | false => simp
    | true => simp

/-- Over any samples, each with some wait after it. -/
theorem count_asked (left : Nat → Nat) (samples : List Nat) :
    (samples.flatMap fun i =>
        foregroundAsks W withSession idleThresholdMs i ++ waits sampleInterval (left i)).count .foreground =
      (tally (samples.map fun i => (presenceAt W withSession idleThresholdMs i).1)).active +
        (tally (samples.map fun i => (presenceAt W withSession idleThresholdMs i).1)).idle := by
  induction samples with
  | nil => rfl
  | cons i samples ih =>
    simp only [tally] at ih ⊢
    rw [List.flatMap_cons, List.count_append, List.count_append, count_waits, count_foregroundAsks, ih,
      List.map_cons]
    cases (presenceAt W withSession idleThresholdMs i).1 <;>
      simp [isForegroundAttributable] <;> omega

/-- The observer of the foreground over any world. -/
theorem foreground_observed :
    ForegroundObserved W withSession sampleInterval idleThresholdMs more := by
  obtain ⟨hcalls, hresult⟩ := observeWindow_runs (foregroundSample_takes W withSession idleThresholdMs)
    "ObserveActivityForeground" sampleInterval more {}
  refine ⟨hcalls, honestSample W withSession idleThresholdMs, ?_, ?_⟩
  · rw [foldl_countSample] at hresult
    exact hresult
  · rw [observeActivityForeground, hcalls]
    exact count_asked W withSession sampleInterval idleThresholdMs (more - ·) _

end Foreground

/-! ## The three together -/

section Together

variable (W : ProbeWorld) (sampleInterval idleThresholdMs : Int) (more : Nat)

/-- The state and the idle time a callback is given. -/
def reported : ProbeCall → Option (ActivityState × Int)
  | .onSample sample => some (sample.state, sample.idleMs)
  | _ => none

/-- What the callbacks of a run are given. -/
def reports {S : Type} (observer : ObserverProg (Result S)) : List (ActivityState × Int) :=
  (observer.calls probeHandler W 0).filterMap reported

def result {S : Type} (observer : ObserverProg (Result S)) : Result S :=
  (observer.exec probeHandler W 0).2

/-- The three observers on one world. -/
structure ObserversAgree : Prop where
  /-- With the session, the foreground observer reports and counts what the context observer does. -/
  session : reports W (observeActivityForeground true (more + 1) sampleInterval idleThresholdMs) =
      reports W (observeActivityContext (more + 1) sampleInterval idleThresholdMs) ∧
    result W (observeActivityContext (more + 1) sampleInterval idleThresholdMs) =
      (result W (observeActivityForeground true (more + 1) sampleInterval idleThresholdMs)).map
        ActivityForegroundSummary.states
  /-- Without it, what the plain one does. -/
  plain : reports W (observeActivityForeground false (more + 1) sampleInterval idleThresholdMs) =
      reports W (observeActivity (more + 1) sampleInterval idleThresholdMs) ∧
    result W (observeActivity (more + 1) sampleInterval idleThresholdMs) =
      (result W (observeActivityForeground false (more + 1) sampleInterval idleThresholdMs)).map
        (·.states.window)
  /-- The session never makes a user present: it hides what the input says, or leaves it. -/
  hides : ∀ i, isForegroundAttributable (presenceAt W true idleThresholdMs i).1 = true →
    presenceAt W true idleThresholdMs i = inputAt W idleThresholdMs i

/-- What is reported where each sample makes one report. -/
theorem reports_of_takes {S : Type} {body : S → ObserverProg S} {asks : Nat → List ProbeCall}
    {counts : Nat → S → S} {said : Nat → ActivityState × Int} (hbody : Takes W body asks counts)
    (hasks : ∀ i, (asks i).filterMap reported = [said i]) (operation : String) (m : S) :
    reports W (observeWindow operation body sampleInterval (more + 1) m) =
      (List.range (more + 1)).map said := by
  have hwaits : ∀ left, (waits sampleInterval left).filterMap reported = [] := by
    intro left
    unfold waits
    split
    · rfl
    · rfl
  rw [reports, (observeWindow_runs hbody operation sampleInterval more m).1, List.filterMap_flatMap,
    List.map_eq_flatMap]
  refine List.flatMap_congr fun i _ => ?_
  rw [List.filterMap_append, hasks, hwaits, List.append_nil]

theorem reported_foregroundAsks (withSession : Bool) (i : Nat) :
    (foregroundAsks W withSession idleThresholdMs i).filterMap reported =
      [presenceAt W withSession idleThresholdMs i] := by
  unfold foregroundAsks
  by_cases hthere : isForegroundAttributable (presenceAt W withSession idleThresholdMs i).1 = true
  · rw [if_pos hthere]
    cases withSession with
    | false => rfl
    | true => rfl
  · rw [if_neg hthere]
    cases withSession with
    | false => rfl
    | true => rfl

theorem presenceAt_false (i : Nat) : presenceAt W false idleThresholdMs i = inputAt W idleThresholdMs i :=
  rfl

theorem inputAt_plain (i : Nat) :
    (inputAt W idleThresholdMs i).1 ≠ .locked ∧ (inputAt W idleThresholdMs i).1 ≠ .disconnected := by
  unfold inputAt presence
  cases hquery : W.input i with
  | error e => simp
  | ok sample =>
    rcases classifyActivity_cases sample.nowTick sample.lastInputTick idleThresholdMs with h | h
    · simp [h]
    · simp [h]

theorem foldl_countPresence (samples : List Nat) :
    ∀ m : ActivityContextSummary,
      samples.foldl (fun m i => m.countPresence (inputAt W idleThresholdMs i).1) m.window =
        (samples.foldl (fun m i => m.countState (inputAt W idleThresholdMs i).1) m).window := by
  induction samples with
  | nil => intro m; rfl
  | cons i samples ih =>
    intro m
    obtain ⟨hlocked, hdisconnected⟩ := inputAt_plain W idleThresholdMs i
    rw [List.foldl_cons, List.foldl_cons, ← ih, window_countState m hlocked hdisconnected]

theorem foldl_samples (stateAt : Nat → ActivityState) (samples : List Nat) :
    samples.foldl (fun m i => m.countState (stateAt i)) {} = tally (samples.map stateAt) := by
  rw [← foldl_countState, List.foldl_map]

theorem states_foregroundTally (withSession : Bool) (samples : List Nat) :
    (foregroundTally (samples.map (sampleAt W withSession idleThresholdMs))).states =
      tally (samples.map fun i => (presenceAt W withSession idleThresholdMs i).1) := by
  rw [foregroundTally, List.map_map]
  rfl

theorem presence_hides {session : Result SessionContext} {query : Result InputActivitySample}
    (h : isForegroundAttributable (presence true idleThresholdMs session query).1 = true) :
    presence true idleThresholdMs session query = presence false idleThresholdMs (.ok {}) query := by
  obtain ⟨⟨sample, rfl⟩, context, rfl, hopen⟩ := presence_attributable true idleThresholdMs h
  obtain ⟨hlocked, hlink⟩ := hopen rfl
  simp [presence, classifyContextState, hlocked, hlink]

/-- The three observers agree wherever they look at the same thing. -/
theorem observers_agree : ObserversAgree W sampleInterval idleThresholdMs more := by
  have hforeground := foregroundSample_takes W
  have hcontext := contextSample_takes W idleThresholdMs
  have hplain := windowSample_takes W idleThresholdMs
  have htally : ∀ withSession,
      result W (observeActivityForeground withSession (more + 1) sampleInterval idleThresholdMs) =
        .ok (foregroundTally ((List.range (more + 1)).map (sampleAt W withSession idleThresholdMs))) := by
    intro withSession
    have hresult := (observeWindow_runs (hforeground withSession idleThresholdMs)
      "ObserveActivityForeground" sampleInterval more {}).2
    rw [foldl_countSample] at hresult
    exact hresult
  refine ⟨⟨?_, ?_⟩, ⟨?_, ?_⟩, fun i hthere => presence_hides idleThresholdMs hthere⟩
  · rw [observeActivityForeground, observeActivityContext,
      reports_of_takes W sampleInterval more (hforeground true idleThresholdMs)
        (reported_foregroundAsks W idleThresholdMs true),
      reports_of_takes W sampleInterval more hcontext fun i => rfl]
  · rw [htally, observeActivityContext, result, (observeWindow_runs hcontext _ sampleInterval more _).2,
      foldl_samples]
    exact congrArg Except.ok (states_foregroundTally W idleThresholdMs true _).symm
  · rw [observeActivityForeground, observeActivity,
      reports_of_takes W sampleInterval more (hforeground false idleThresholdMs)
        (reported_foregroundAsks W idleThresholdMs false),
      reports_of_takes W sampleInterval more hplain fun i => rfl]
    rfl
  · rw [htally, observeActivity, result, (observeWindow_runs hplain _ sampleInterval more _).2]
    refine congrArg Except.ok ?_
    have hfold := foldl_countPresence W idleThresholdMs (List.range (more + 1)) {}
    rw [foldl_samples] at hfold
    refine hfold.trans ?_
    rw [← funext (presenceAt_false W idleThresholdMs)]
    exact congrArg _ (states_foregroundTally W idleThresholdMs false _).symm

end Together

end Activity
end CppOptimizer
