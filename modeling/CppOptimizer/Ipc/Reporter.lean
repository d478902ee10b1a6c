import CppOptimizer.Ipc.Client
import CppOptimizer.Ipc.Pacing
import CppOptimizer.Lib.Prog

/-!
# CppOptimizer.Ipc.Reporter

`RunPeriodicReporter` (`ipc_session.cpp`), the loop of the agent: one frame per cycle, a few attempts
to deliver it, and a pause that grows with failures and absence.

* `runPeriodicReporter` — the function, as a program over the clock, the factory and the pipe.
* `reporterHandler B`   — a world with a clock that never goes back and a client over any backend `B`.
* `Cycle`               — what one turn of the loop leaves in the log.

The clock counts nanoseconds in 64 bits and the intervals are 64-bit milliseconds, as in
`ipcReportNextGap`. The loop takes its number of turns as fuel.
-/

namespace CppOptimizer
namespace Ipc

open Common Lib

structure IpcPeriodicReportOptions where
  pipePath : WideText := []
  window : Int := 0
  interval : Int := 1000
  intervalCap : Int := 0
  ioTimeout : Int := 3000
  maxConnectAttempts : Nat := 3
  reconnectBackoff : Int := 300
  userAwayAfterSeconds : Int := 0
  userAwayStepSeconds : Int := 1
  userAwayCap : Int := 0

def IpcPeriodicReportOptions.pacing (o : IpcPeriodicReportOptions) : PacingOptions :=
  { failureCap := o.intervalCap, awayAfterSeconds := o.userAwayAfterSeconds
    awayStepSeconds := o.userAwayStepSeconds, awayCap := o.userAwayCap }

structure IpcPeriodicReportSummary where
  reportsSent : Nat := 0
  connectFailures : Nat := 0
  lastReplyAck : Bool := false
  deriving DecidableEq, Repr

/-- The counters after a cycle. -/
def IpcPeriodicReportSummary.count (s : IpcPeriodicReportSummary) :
    Option IpcReply → IpcPeriodicReportSummary
  | some reply => { s with reportsSent := s.reportsSent + 1, lastReplyAck := reply.type == .ack }
  | none => { s with connectFailures := s.connectFailures + 1 }

/-! ## The function -/

inductive ReporterCall where
  /-- `steady_clock::now()`. -/
  | now
  | sleepFor (millis : Int)
  /-- The request factory. -/
  | request
  | roundTrip (frame : IpcFrameRequest)
  /-- The idle provider. -/
  | idle
  | close

def ReporterCall.Answer : ReporterCall → Type
  | .now => Int
  | .sleepFor _ => Unit
  | .request => Result IpcFrameRequest
  | .roundTrip _ => Result IpcReply
  | .idle => Result { seconds : Int // IsInt64 seconds }
  | .close => Unit

abbrev ReporterProg := Prog ReporterCall ReporterCall.Answer

namespace ReporterProg

def now : ReporterProg Int := Prog.perform ReporterCall.now
def sleepFor (millis : Int) : ReporterProg Unit := Prog.perform (ReporterCall.sleepFor millis)
def request : ReporterProg (Result IpcFrameRequest) := Prog.perform ReporterCall.request
def roundTrip (frame : IpcFrameRequest) : ReporterProg (Result IpcReply) :=
  Prog.perform (ReporterCall.roundTrip frame)
def idle : ReporterProg (Result { seconds : Int // IsInt64 seconds }) :=
  Prog.perform ReporterCall.idle
def close : ReporterProg Unit := Prog.perform ReporterCall.close

end ReporterProg

open ReporterProg

def kNanosPerMilli : Int := 1000000

/-- A time point and a number of milliseconds, in the 64 bits of the clock. -/
def plusMillis (time millis : Int) : Int := toInt64 (time + toInt64 (millis * kNanosPerMilli))

inductive ReporterEnd where
  | done (result : Result IpcPeriodicReportSummary)
  /-- The next interval is no 64-bit value. -/
  | overflow
  | outOfFuel

/-- At most so many attempts to deliver a frame, none of them once the window is over. -/
def attempts (o : IpcPeriodicReportOptions) (deadline : Int) (frame : IpcFrameRequest) :
    Nat → ReporterProg (Option IpcReply)
  | 0 => pure none
  | left + 1 => do
    let time ← now
    if time ≥ deadline then pure none
    else
      match ← roundTrip frame with
      | .ok reply => pure (some reply)
      | .error _ =>
        (if left > 0 then sleepFor o.reconnectBackoff else pure ()) >>= fun _ =>
          attempts o deadline frame left

/-- An idle time that is not asked for or not known counts as presence. -/
def sampleIdle (o : IpcPeriodicReportOptions) (hasIdleProvider : Bool) :
    ReporterProg (Option { seconds : Int // IsInt64 seconds }) :=
  if o.userAwayCap > 0 ∧ o.userAwayAfterSeconds > 0 ∧ hasIdleProvider = true then do
    match ← idle with
    | .ok seconds => pure (some seconds)
    | .error _ => pure none
  else pure none

/-- The variables of the loop. -/
structure ReporterLoop where
  nextSlot : Int
  consecutiveFailures : Nat := 0
  summary : IpcPeriodicReportSummary := {}

/-- The failures in a row after a cycle. -/
def failuresAfter (consecutiveFailures : Nat) : Option IpcReply → Nat
  | some _ => 0
  | none => consecutiveFailures + 1

/-- A cycle from its frame on. -/
def reportCycle (o : IpcPeriodicReportOptions) (hasIdleProvider : Bool) (deadline : Int)
    (frame : IpcFrameRequest) (v : ReporterLoop) : ReporterProg (Option ReporterLoop) := do
  let reply ← attempts o deadline frame o.maxConnectAttempts
  let idleSeconds ← sampleIdle o hasIdleProvider
  let time ← now
  let failures := failuresAfter v.consecutiveFailures reply
  pure ((ipcReportNextGap failures o.interval (idleSeconds.map (·.1)) o.pacing).map fun gap =>
    { nextSlot := plusMillis time gap
      consecutiveFailures := failures
      summary := v.summary.count reply })

def reporterLoop (o : IpcPeriodicReportOptions) (hasIdleProvider : Bool) (deadline : Int) :
    Nat → ReporterLoop → ReporterProg ReporterEnd
  | 0, _ => pure .outOfFuel
  | fuel + 1, v => do
    let time ← now
    if time ≥ deadline then do
      close
      pure (.done (.ok v.summary))
    else if time < v.nextSlot then do
      -- whole milliseconds: the last part of one is spent in the loop
      sleepFor ((toInt64 (v.nextSlot - time)).tdiv kNanosPerMilli)
      reporterLoop o hasIdleProvider deadline fuel v
    else
      match ← request with
      | .error e => pure (.done (.error e))
      | .ok frame =>
        match ← reportCycle o hasIdleProvider deadline frame v with
        | none => pure .overflow
        | some v => reporterLoop o hasIdleProvider deadline fuel v

def runPeriodicReporter (o : IpcPeriodicReportOptions) (hasRequestFactory hasIdleProvider : Bool)
    (fuel : Nat) : ReporterProg ReporterEnd :=
  if o.window ≤ 0 ∨ o.interval ≤ 0 ∨ o.ioTimeout ≤ 0 ∨ o.maxConnectAttempts = 0 then
    pure (.done (.error (.validation "RunPeriodicReporter"
      "window/interval/ioTimeout 必须为正且 maxConnectAttempts>0")))
  else if hasRequestFactory = false then
    pure (.done (.error (.validation "RunPeriodicReporter" "requestFactory 不能为空")))
  else do
    let start ← now
    let deadline := plusMillis start o.window
    let nextSlot ← now
    reporterLoop o hasIdleProvider deadline fuel { nextSlot := nextSlot }

/-! ## The world -/

inductive ReporterEvent where
  | requested (time : Int) (frame : IpcFrameRequest)
  | attempted (frame : IpcFrameRequest) (reply : Option IpcReply)
  | closed

structure ReporterWorld (κ : Type) where
  time : Int := 0
  client : Client κ
  log : List ReporterEvent := []

/-- What the outside decides for one call, and how long the call takes. -/
structure ReporterChoice where
  elapsed : Nat := 0
  request : Result IpcFrameRequest := .ok { type := .ping, requestId := 1, payload := [] }
  idle : Result { seconds : Int // IsInt64 seconds } := .error (.unsupportedOp "idle" "")

section World

variable {κ : Type} (B : IpcClientBackend κ) (pipePath : WideText)

def ReporterWorld.passed (w : ReporterWorld κ) (nanos : Int) : ReporterWorld κ :=
  { w with time := w.time + nanos }

def ReporterWorld.noted (w : ReporterWorld κ) (event : ReporterEvent) : ReporterWorld κ :=
  { w with log := w.log ++ [event] }

def ReporterWorld.asked (w : ReporterWorld κ) : Result IpcFrameRequest → ReporterWorld κ
  | .ok frame => w.noted (.requested w.time frame)
  | .error _ => w

/-- The answer of the client, and the world with the attempt in its log. -/
def ReporterWorld.attempt (w : ReporterWorld κ) (frame : IpcFrameRequest) :
    Result IpcReply × ReporterWorld κ :=
  let answer := w.client.ipcRoundTrip B pipePath frame.type frame.payload frame.requestId
  (answer.1, { w with client := answer.2 }.noted (.attempted frame answer.1.toOption))

def reporterHandler :
    Lib.Handler ReporterCall ReporterCall.Answer (ReporterWorld κ) ReporterChoice where
  answer w e c :=
    match e with
    | .now => (w.time, w.passed c.elapsed)
    | .sleepFor millis => ((), w.passed (max 0 millis * kNanosPerMilli + c.elapsed))
    | .request => (c.request, (w.asked c.request).passed c.elapsed)
    | .roundTrip frame => ((w.attempt B pipePath frame).1,
        (w.attempt B pipePath frame).2.passed c.elapsed)
    | .idle => (c.idle, w.passed c.elapsed)
    | .close => ((), ({ w with client := w.client.close B }.noted .closed).passed c.elapsed)

end World

/-! ## Cycles -/

/-- A frame, the failed attempts to deliver it, and the reply that ended them. -/
structure Cycle where
  time : Int
  frame : IpcFrameRequest
  failed : Nat := 0
  reply : Option IpcReply := none

def Cycle.events (c : Cycle) : List ReporterEvent :=
  .requested c.time c.frame :: (List.replicate c.failed (.attempted c.frame none) ++
    c.reply.toList.map fun reply => .attempted c.frame (some reply))

def Cycle.attempts (c : Cycle) : Nat := c.failed + c.reply.toList.length

/-- The failures in a row at the end of some cycles. -/
def failuresInARow (cycles : List Cycle) : Nat :=
  cycles.foldl (fun failures c => failuresAfter failures c.reply) 0

def summaryOf (cycles : List Cycle) : IpcPeriodicReportSummary :=
  cycles.foldl (fun s c => s.count c.reply) {}

/-- The shortest pause after some cycles: the base, or the back-off of the failures at their end. -/
def pauseAfter (o : IpcPeriodicReportOptions) (cycles : List Cycle) : Int :=
  nextGap (failuresInARow cycles) o.interval none o.pacing * kNanosPerMilli

/-- Each cycle begins a pause after the one before it began. -/
def Spaced (o : IpcPeriodicReportOptions) (cycles : List Cycle) : Prop :=
  ∀ before c d rest, cycles = before ++ c :: d :: rest →
    c.time + pauseAfter o (before ++ [c]) ≤ d.time

/-- The window and the longest interval, counted from `time`, end where the clock can still be read. -/
structure IpcPeriodicReportOptions.FitsAt (o : IpcPeriodicReportOptions) (time : Int) : Prop where
  start : 0 ≤ time
  window : time + o.window * kNanosPerMilli < 2 ^ 63
  interval : time + highestGap o.interval o.pacing * kNanosPerMilli < 2 ^ 63

instance (o : IpcPeriodicReportOptions) (time : Int) : Decidable (o.FitsAt time) :=
  decidable_of_iff (0 ≤ time ∧ time + o.window * kNanosPerMilli < 2 ^ 63 ∧
      time + highestGap o.interval o.pacing * kNanosPerMilli < 2 ^ 63)
    ⟨fun h => ⟨h.1, h.2.1, h.2.2⟩, fun h => ⟨h.start, h.window, h.interval⟩⟩

/-- Every reading of the clock is early enough for this. -/
def InRange {κ : Type} (o : IpcPeriodicReportOptions) (w : ReporterWorld κ) :
    ReporterCall → ReporterChoice → Prop
  | .now, _ => o.FitsAt w.time
  | _, _ => True

instance {κ : Type} (o : IpcPeriodicReportOptions) (w : ReporterWorld κ) :
    (e : ReporterCall) → (c : ReporterChoice) → Decidable (InRange o w e c)
  | .now, _ => inferInstanceAs (Decidable (o.FitsAt w.time))
  | .sleepFor _, _ | .request, _ | .roundTrip _, _ | .idle, _ | .close, _ => .isTrue trivial

/-- What the log shows at any time. -/
structure Reported (o : IpcPeriodicReportOptions) (cycles : List Cycle) : Prop where
  attempts : ∀ c ∈ cycles, c.attempts ≤ o.maxConnectAttempts
  spaced : Spaced o cycles
  /-- Less than a window of base intervals before the last cycle. -/
  bounded : ∀ n, cycles.length = n + 1 → n * o.interval < o.window

end Ipc
end CppOptimizer
