import CppOptimizer.Activity.UserActivity
import CppOptimizer.Ipc.Session
import CppOptimizer.Service.SafeMode
import CppOptimizer.Service.Presence

/-!
# CppOptimizer.Service.Workload

The workload of the service host (`ServiceWorkloadTick` of `main.cpp`) and the loop that repeats it
(`ServiceHost::RunLoop`).

* `ServiceHostDemoState` — what the host keeps between ticks; `Intake` is its pipe session with the
  Safe Mode guard, which the console command makes together.
* `serviceWorkloadTick`  — one tick: memory query, the host's own presence, at most one client.
* `HostLoop.round`       — one turn of the loop: stop request, deadline, tick.
* `TickEnd`              — the ways a tick can go; what is said of a tick is proved one way at a time.

The tick takes everything it does not decide from a `TickInput`: the answers of the system, the
clock readings and the client. The log lines and the texts made for them are left out.
-/

namespace CppOptimizer
namespace Service

open Activity Common Ipc Lib

/-! ## State and surroundings -/

/-- What the handler notes of the last facts snapshot. -/
structure LastFacts where
  ipcLastFactSummary : Bytes := []
  ipcLastFactCount : Nat := 0
  ipcLastUserIdleSeconds : Option UInt32 := none
  ipcLastForegroundPid : Option UInt32 := none
  deriving DecidableEq, Repr

structure Intake where
  ipcSession : Options
  safeModeOptions : SafeModeOptions := {}
  ipcSafeMode : SafeModeGuard := {}

structure ServiceHostDemoState where
  tickCount : Nat := 0
  ipcEnabled : Bool := false
  intake : Option Intake := none
  ipcExpectedToken : WideText := []
  ipcClientsServed : Nat := 0
  ipcLastPayloadBytes : UInt32 := 0
  ipcLastReplyAck : Bool := false
  lastFacts : LastFacts := {}
  ipcAuthRejected : Bool := false
  ipcSafeModeEntries : Nat := 0
  ipcRejectedClients : Nat := 0
  ipcPresence : Option HostPresenceTracker := none
  rawInput : Bool := false
  rawInputAttached : Bool := false
  lastInputFallback : Bool := false

/-- The clock readings of a tick, in the order they are taken. -/
structure TickClock where
  hostPrune : Int := 0
  hostSeen : Int := 0
  accept : Int := 0
  verdictBefore : Int := 0
  verdictRejected : RejectionReadings := {}
  verdictAfter : Int := 0
  clientPrune : Int := 0
  clientSeen : Int := 0
  summary : Int := 0
  deriving DecidableEq, Repr

structure TickInput where
  memory : Result Unit := .ok ()
  lastEventEpochMs : Int := 0
  nowEpochMs : Int := 0
  /-- `nowTick` and `lastInputTick`. -/
  lastInput : Result (UInt32 × UInt32) := .ok (0, 0)
  clock : TickClock := {}
  peer : Peer := {}

/-! ## One tick -/

/-- The handler of the tick: the default one, and a note of the facts it was given. -/
def tickHandler (expectedToken : WideText) : Handler LastFacts := fun request last =>
  (defaultHandler expectedToken request,
    match request.type with
    | .factsSnapshot =>
      match parseFactsV1 request.payload with
      | .ok facts =>
        { ipcLastFactSummary := formatFactsSummary facts
          ipcLastFactCount := facts.length
          ipcLastUserIdleSeconds := numericFactValue facts (ascii "user_idle_seconds")
          ipcLastForegroundPid := numericFactValue facts (ascii "foreground_pid") }
      | .error _ => {}
    | _ => last)

namespace ServiceHostDemoState

variable (s : ServiceHostDemoState) (i : TickInput)

/-- `static_cast<std::uint32_t>(ms / 1000)`. -/
def toSeconds (milliseconds : Int) : UInt32 := UInt32.ofInt (milliseconds.tdiv 1000)

/-- Event-driven input first, then the poll. -/
def hostIdleSeconds : Option UInt32 :=
  let fromEvents :=
    if s.rawInputAttached then (idleDuration i.lastEventEpochMs i.nowEpochMs).map toSeconds else none
  match fromEvents with
  | some idle => some idle
  | none =>
    if s.lastInputFallback then
      match i.lastInput with
      | .ok (nowTick, lastInputTick) => some (toSeconds (idleMilliseconds nowTick lastInputTick))
      | .error _ => none
    else none

def recordHost : ServiceHostDemoState :=
  match s.ipcPresence with
  | none => s
  | some presence =>
    if s.rawInput then
      { s with
        ipcPresence :=
          some (presence.record i.clock.hostPrune i.clock.hostSeen "host" (s.hostIdleSeconds i)).2 }
    else s

def publishSummary : ServiceHostDemoState :=
  { s with ipcPresence := s.ipcPresence.map fun presence => (presence.summary i.clock.summary).2 }

/-- `verdictObserver` of the console command. -/
def observeVerdict (verdict : IpcClientVerdict) : ServiceHostDemoState :=
  match s.intake with
  | none => s
  | some intake =>
    let before := intake.ipcSafeMode.state intake.safeModeOptions i.clock.verdictBefore
    if verdict = .accepted then { s with intake := some { intake with ipcSafeMode := before.2 } }
    else
      let guard := before.2.onClientRejected intake.safeModeOptions i.clock.verdictRejected
      let after := guard.state intake.safeModeOptions i.clock.verdictAfter
      { s with
        -- The state is only asked again if it was normal before.
        intake := some { intake with
          ipcSafeMode := if before.1 = .normal then after.2 else guard }
        ipcRejectedClients := s.ipcRejectedClients + 1
        ipcSafeModeEntries :=
          if before.1 = .normal ∧ after.1 = .safeMode then s.ipcSafeModeEntries + 1
          else s.ipcSafeModeEntries
        ipcAuthRejected := true }

/-- `ServeOne` as the tick calls it. -/
def serveCall (intake : Intake) : ServeCall LastFacts :=
  { options := intake.ipcSession
    handler := some (tickHandler s.ipcExpectedToken)
    mode := .one
    peer := i.peer }

/-- What handler and observer leave behind; they write different fields. -/
def noteTrace (t : ServeTrace LastFacts) : ServiceHostDemoState :=
  t.verdicts.foldl (fun s verdict => s.observeVerdict i verdict)
    { s with lastFacts := t.handlerState }

/-- A client was served; it enters the ledger if facts were noted. -/
def noteServed (result : IpcServeResult) : ServiceHostDemoState :=
  let s :=
    { s with
      ipcClientsServed := s.ipcClientsServed + 1
      ipcLastPayloadBytes := result.payloadBytes
      ipcLastReplyAck := result.replyType == IpcMessageType.ack }
  match s.ipcPresence with
  | none => s
  | some presence =>
    if s.lastFacts.ipcLastFactCount > 0 then
      let clientKey := toString result.clientPid ++ ":" ++ toString result.clientSessionId
      { s with
        ipcPresence :=
          some (presence.record i.clock.clientPrune i.clock.clientSeen clientKey
            s.lastFacts.ipcLastUserIdleSeconds).2 }
    else s

/-- The state in which the tick turns to its client: the guard has been asked. -/
def admitting (intake : Intake) : ServiceHostDemoState :=
  { s with
    ipcAuthRejected := false
    intake := some { intake with
      ipcSafeMode :=
        (intake.ipcSafeMode.shouldAcceptClients intake.safeModeOptions i.clock.accept).2 } }

/-- The pipe part of the tick. -/
def tickIntake (intake : Intake) : Result Unit × ServiceHostDemoState :=
  let s := s.admitting i intake
  if (intake.ipcSafeMode.shouldAcceptClients intake.safeModeOptions i.clock.accept).1 = false then
    (.ok (), s.publishSummary i)
  else
    let t := (s.serveCall i intake).serve s.lastFacts
    let s := s.noteTrace i t
    match t.result with
    | .error e =>
      if isTimeout e = true then (.ok (), s)
      else if s.ipcAuthRejected = true then (.ok (), { s with ipcAuthRejected := false })
      else (.error e, s)
    | .ok result => (.ok (), (s.noteServed i result).publishSummary i)

end ServiceHostDemoState

def serviceWorkloadTick (s : ServiceHostDemoState) (i : TickInput)
    (memoryQueryEnabled : Bool := true) : Result Unit × ServiceHostDemoState :=
  if memoryQueryEnabled = false then
    (.error (.unsupportedOp "ServiceWorkloadTick"
      "内存查询已被配置关闭（[memory].query_enabled = false）"), s)
  else
    match i.memory with
    | .error e => (.error e, s)
    | .ok () =>
      let s := { s with tickCount := s.tickCount + 1 }.recordHost i
      match s.intake with
      | none => (.ok (), s.publishSummary i)
      | some intake =>
        if s.ipcEnabled = false then (.ok (), s.publishSummary i) else s.tickIntake i intake

/-! ## How a tick goes -/

namespace ServiceHostDemoState

variable (s : ServiceHostDemoState) (i : TickInput)

/-- The tick turns to its pipe. -/
structure Turns (intake : Intake) : Prop where
  found : s.intake = some intake
  enabled : s.ipcEnabled = true
  accepts :
    (intake.ipcSafeMode.shouldAcceptClients intake.safeModeOptions i.clock.accept).1 = true

/-- The state after the call of `ServeOne`. -/
def visited (intake : Intake) : ServiceHostDemoState :=
  (s.admitting i intake).noteTrace i ((s.serveCall i intake).serve s.lastFacts)

/-- The ways a tick can go from the state that the host's own record leaves. -/
inductive TickEnd : Result Unit × ServiceHostDemoState → Prop where
  | closed : (∀ intake, s.intake = some intake → s.ipcEnabled = false) →
    TickEnd (.ok (), s.publishSummary i)
  | paused {intake : Intake} : s.intake = some intake →
    (intake.ipcSafeMode.shouldAcceptClients intake.safeModeOptions i.clock.accept).1 = false →
    TickEnd (.ok (), (s.admitting i intake).publishSummary i)
  | served {intake : Intake} {result : IpcServeResult} : s.Turns i intake →
    ((s.serveCall i intake).serve s.lastFacts).result = .ok result →
    TickEnd (.ok (), ((s.visited i intake).noteServed i result).publishSummary i)
  | timeout {intake : Intake} {e : Error} : s.Turns i intake →
    ((s.serveCall i intake).serve s.lastFacts).result = .error e → isTimeout e = true →
    TickEnd (.ok (), s.visited i intake)
  | refused {intake : Intake} {e : Error} : s.Turns i intake →
    ((s.serveCall i intake).serve s.lastFacts).result = .error e →
    (s.visited i intake).ipcAuthRejected = true →
    TickEnd (.ok (), { s.visited i intake with ipcAuthRejected := false })
  | failed {intake : Intake} {e : Error} : s.Turns i intake →
    ((s.serveCall i intake).serve s.lastFacts).result = .error e → ¬ isTimeout e = true →
    ¬ (s.visited i intake).ipcAuthRejected = true →
    TickEnd (.error e, s.visited i intake)

variable {s i}

theorem tickIntake_end {intake : Intake} (hintake : s.intake = some intake)
    (henabled : s.ipcEnabled = true) : s.TickEnd i (s.tickIntake i intake) := by
  by_cases haccept :
      (intake.ipcSafeMode.shouldAcceptClients intake.safeModeOptions i.clock.accept).1 = false
  · rw [tickIntake, if_pos haccept]
    exact .paused hintake haccept
  · have hturns : s.Turns i intake := ⟨hintake, henabled, by simpa using haccept⟩
    have hcall : (s.admitting i intake).serveCall i intake = s.serveCall i intake := rfl
    have hfacts : (s.admitting i intake).lastFacts = s.lastFacts := rfl
    simp only [tickIntake, hturns.accepts, Bool.true_eq_false, if_false, hcall, hfacts]
    cases hresult : ((s.serveCall i intake).serve s.lastFacts).result with
    | ok result => exact .served hturns hresult
    | error e =>
      dsimp only
      split
      · case _ htimeout => exact .timeout hturns hresult htimeout
      · case _ htimeout =>
        split
        · case _ hrefused => exact .refused hturns hresult hrefused
        · case _ hrefused => exact .failed hturns hresult htimeout hrefused

end ServiceHostDemoState

theorem tick_end {s : ServiceHostDemoState} {i : TickInput} (hmemory : i.memory = .ok ()) :
    ({ s with tickCount := s.tickCount + 1 }.recordHost i).TickEnd i (serviceWorkloadTick s i) := by
  unfold serviceWorkloadTick
  simp only [Bool.true_eq_false, if_false, hmemory]
  generalize { s with tickCount := s.tickCount + 1 }.recordHost i = s₁
  cases hintake : s₁.intake with
  | none =>
    refine .closed fun intake heq => ?_
    rw [hintake] at heq
    cases heq
  | some intake =>
    dsimp only
    by_cases henabled : s₁.ipcEnabled = false
    · rw [if_pos henabled]
      exact .closed fun _ _ => henabled
    · rw [if_neg henabled]
      exact ServiceHostDemoState.tickIntake_end hintake (by simpa using henabled)

/-! ## The loop -/

inductive LoopEnd where
  | stopRequested
  | deadline
  | failed (e : Error)
  deriving DecidableEq, Repr

/-- What the loop meets in one turn. -/
structure Round where
  stopRequested : Bool := false
  now : Int := 0
  tick : TickInput := {}

structure HostLoop where
  state : ServiceHostDemoState
  ended : Option LoopEnd := none

/-- The loop is still going and this turn gets as far as its tick. -/
def HostLoop.Ticks (deadline : Option Int) (l : HostLoop) (r : Round) : Prop :=
  l.ended = none ∧ r.stopRequested = false ∧ ∀ d ∈ deadline, r.now < d

/-- One turn of `RunLoop`; a loop that has ended stays as it is. -/
def HostLoop.round (deadline : Option Int) (l : HostLoop) (r : Round) : HostLoop :=
  if l.ended.isSome then l
  else if r.stopRequested then { l with ended := some .stopRequested }
  else if deadline.any (r.now ≥ ·) then { l with ended := some .deadline }
  else
    match serviceWorkloadTick l.state r.tick with
    | (.error e, s) => { state := s, ended := some (.failed e) }
    | (.ok (), s) => { state := s }

end Service
end CppOptimizer
