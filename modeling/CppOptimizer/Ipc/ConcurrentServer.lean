import CppOptimizer.Ipc.Verdict

/-!
# CppOptimizer.Ipc.ConcurrentServer

`RunConcurrentServer` (`ipc_session.cpp`): several workers, each with a session of its own, accept
clients until the window is over and count the connections in a shared summary.

* `PoolState.step`  — the steps of the workers: take a client, note how its session ended, leave.
* `classify`          — how a worker counts a session, by its result alone.
* `Accounted`         — the summary is the account of the connections so far, and none with a complete
  frame is left out of it.
* `EndsQuietly`       — a turn of a session fails with a code the worker takes for inactivity, although
  a frame has been read.
* `connections_accounted_iff` — the account holds along a run exactly if no session ends so.
-/

namespace CppOptimizer
namespace Ipc

open Common Lib

variable {η : Type}

/-! ## The workers -/

structure IpcConcurrentSummary where
  workers : Nat := 0
  clientsServed : Nat := 0
  failedSessions : Nat := 0
  sessions : List IpcServeResult := []
  deriving DecidableEq, Repr

/-- The codes a worker takes for the absence of a client. -/
def noActivity (e : Error) : Bool :=
  e.domain == .win32 &&
    (e.code == errorTimeout || e.code == errorBrokenPipe || e.code == errorNoData)

/-- The branch a worker takes on a session that has ended. -/
inductive Fate where
  | served (result : IpcServeResult)
  | failed
  | leftOut
  deriving DecidableEq, Repr

def classify : Result IpcServeResult → Fate
  | .ok result => .served result
  | .error e => if noActivity e then .leftOut else .failed

def IpcConcurrentSummary.add (summary : IpcConcurrentSummary) : Fate → IpcConcurrentSummary
  | .served result =>
    { summary with
      sessions := summary.sessions ++ [result]
      clientsServed := summary.clientsServed + 1 }
  | .failed => { summary with failedSessions := summary.failedSessions + 1 }
  | .leftOut => summary

/-- One call of `ServeSession`. The workers share the handler; `state` stands for what its own state
lets it answer during this call. -/
structure Connection (η : Type) where
  call : ServeCall η
  state : η

def Connection.result (c : Connection η) : Result IpcServeResult := (c.call.serve c.state).result

/-- A client was accepted, and the first turn of the loop got a whole frame from it. Without one the
loop makes no second turn. -/
def Connection.FrameRead (c : Connection η) : Prop :=
  c.call.accepted = .ok () ∧ ∃ f, c.call.receive (c.call.start c.state) = .frame f

inductive Worker (η : Type) where
  | waiting (options : Options)
  | serving (c : Connection η)
  | left

structure PoolState (η : Type) where
  workers : List (Worker η)
  summary : IpcConcurrentSummary
  fatalError : Bool := false
  /-- The sessions that have ended, with the branch taken on each. -/
  completed : List (Connection η × Fate) := []

inductive PoolEvent (η : Type) where
  /-- The worker is at the head of its loop, with this much of the window left, and this is the next
  client or its absence. -/
  | turn (worker : Nat) (remaining : Int) (peer : Peer) (state : η)
  | complete (worker : Nat)
  /-- An exception in the thread of the worker. -/
  | throw (worker : Nat)

section Pool

variable (frameIdle : Int) (handler : Option (Handler η))

def PoolState.step (s : PoolState η) : PoolEvent η → PoolState η
  | .turn worker remaining peer state =>
    match s.workers[worker]? with
    | some (.waiting options) =>
      if remaining ≤ 0 then { s with workers := s.workers.set worker .left }
      else
        { s with
          workers := s.workers.set worker (.serving
            { call :=
                { options := options
                  handler := handler
                  mode := .session frameIdle (remaining + frameIdle)
                  peer := peer }
              state := state }) }
    | _ => s
  | .complete worker =>
    match s.workers[worker]? with
    | some (.serving c) =>
      { s with
        workers := s.workers.set worker (.waiting c.call.options)
        summary := s.summary.add (classify c.result)
        completed := s.completed ++ [(c, classify c.result)] }
    | _ => s
  | .throw worker =>
    match s.workers[worker]? with
    | some (.serving _) =>
      { s with workers := s.workers.set worker .left, fatalError := true }
    | _ => s

/-- One worker for each session of the factory; where it gives none, the server fails. -/
def PoolState.start (factory : List (Option Options)) : PoolState η :=
  { workers := factory.map fun options => options.elim .left .waiting
    summary := { workers := factory.length }
    fatalError := factory.any Option.isNone }

/-- `RunConcurrentServer`, with the steps of its workers in the order in which they happen. -/
def runConcurrentServer (window : Int) (factory : List (Option Options))
    (es : List (PoolEvent η)) : Result IpcConcurrentSummary :=
  if factory.length = 0 ∨ window ≤ 0 ∨ frameIdle ≤ 0 then
    .error (.validation "RunConcurrentServer" "instances/window/frameIdle 必须为正")
  else
    let s := run (PoolState.step frameIdle handler) (.start factory) es
    if s.fatalError then
      .error (.validation "RunConcurrentServer" "worker 异常/会话工厂失败")
    else .ok s.summary

end Pool

/-! ## The account -/

/-- The entry of a served session. -/
def Fate.result? : Fate → Option IpcServeResult
  | .served result => some result
  | _ => none

/-- The summary is what the connections that have ended make it: one entry for each served one, one
count for each failed one. Left out are only connections without a complete frame. -/
structure Accounted (summary : IpcConcurrentSummary) (completed : List (Connection η × Fate)) :
    Prop where
  sessions : summary.sessions = completed.filterMap fun d => d.2.result?
  clientsServed : summary.clientsServed = summary.sessions.length
  failedSessions : summary.failedSessions = completed.countP fun d => d.2 = .failed
  counted : ∀ d ∈ completed, d.1.FrameRead → d.2 ≠ .leftOut

namespace ServeCall

variable (k : ServeCall η)

/-- The turn fails with a code of inactivity although a frame has been read on the connection, in an
earlier turn or in this one. In the first two cases the 32-bit counter of frames has come round to 0. -/
inductive EndsQuietly (s : LoopState η) : Prop where
  | budget : 0 < s.index → s.frames = 0 → k.mode.maxFrames = 0 → k.peer.remaining s.index ≤ 0 →
      EndsQuietly s
  | header {e : Error} : 0 < s.index → s.frames = 0 →
      ¬ (k.mode.maxFrames = 0 ∧ k.peer.remaining s.index ≤ 0) →
      readAll k.peer (k.peer.headerFault s.index) kIpcHeaderSize s.input = .error e →
      noActivity e = true → EndsQuietly s
  | payload {headerBytes rest : Bytes} {header : IpcHeader} {e : Error} : 0 < s.index →
      ¬ (k.mode.maxFrames = 0 ∧ k.peer.remaining s.index ≤ 0) →
      readAll k.peer (k.peer.headerFault s.index) kIpcHeaderSize s.input = .ok (headerBytes, rest) →
      parseHeader headerBytes = .ok header → header.payloadLength > 0 →
      readAll k.peer (k.peer.payloadFault s.index) header.payloadLength.toNat rest = .error e →
      noActivity e = true → EndsQuietly s
  | gate {f : Frame} {e : Error} : k.receive s = .frame f →
      k.options.authorize k.peer.identity = .error e → noActivity e = true → EndsQuietly s
  | handler {f : Frame} {e : Error} {st : η} : k.receive s = .frame f →
      k.options.authorize k.peer.identity = .ok () →
      k.handle (k.request f) s.handlerState = (.error e, st) → noActivity e = true → EndsQuietly s
  | reply {f : Frame} {reply : IpcReply} {st : η} {e : Error} : k.Answers s f reply st →
      validateIpcHeader (makeIpcHeader reply.type (UInt32.ofNat reply.payload.length)
        f.header.requestId) = .ok () →
      k.peer.replyFault s.index = some e → noActivity e = true → EndsQuietly s

end ServeCall

/-- Some turn of the session ends it so. -/
def Connection.LostQuietly (c : Connection η) : Prop :=
  c.call.accepted = .ok () ∧
    Eventually c.call.Exchange c.call.EndsQuietly (c.call.start c.state)

/-- The step does not end such a session. -/
def EndsHeard (s : PoolState η) (e : PoolEvent η) : Prop :=
  ∀ worker c, e = .complete worker → s.workers[worker]? = some (.serving c) → ¬ c.LostQuietly

/-! ## Errors of the protocol are not quiet -/

theorem noActivity_iff {e : Error} :
    noActivity e = true ↔ isTimeout e = true ∨ isClientClosed e = true := by
  simp only [noActivity, isTimeout, isClientClosed, Bool.and_eq_true, Bool.or_eq_true, beq_iff_eq]
  rw [← and_or_left, or_assoc]

theorem not_noActivity_of_validateIpcHeader {header : IpcHeader} {e : Error}
    (h : validateIpcHeader header = .error e) : noActivity e = false := by
  unfold validateIpcHeader at h
  repeat' split at h
  all_goals cases h
  all_goals rfl

theorem not_noActivity_of_parseHeader {bytes : Bytes} {e : Error}
    (h : parseHeader bytes = .error e) : noActivity e = false := by
  unfold parseHeader at h
  split at h
  · dsimp only at h
    split at h
    · case _ hvalid =>
      cases h
      exact not_noActivity_of_validateIpcHeader hvalid
    · cases h
  · cases h
    rfl

/-! ## How a session ends -/

/-- The call fails with a code of inactivity. -/
def ServeTrace.FailsQuietly (t : ServeTrace η) : Prop :=
  ∃ e, t.result = .error e ∧ noActivity e = true

theorem classify_eq_leftOut {r : Result IpcServeResult} :
    classify r = .leftOut ↔ ∃ e, r = .error e ∧ noActivity e = true := by
  cases r with
  | ok result => simp [classify]
  | error e => cases h : noActivity e <;> simp [classify, h]

namespace ServeCall

variable {k : ServeCall η} {s : LoopState η}

/-- The turn ends the call, and quietly. -/
def TurnQuiet (k : ServeCall η) (s : LoopState η) : Prop :=
  ∃ t, k.serveFrame s = .ended t ∧ t.FailsQuietly

theorem serveFrames_quiet {fuel : Nat} (hfuel : s.input.length < fuel) :
    (k.serveFrames fuel s).FailsQuietly ↔ Eventually k.Exchange k.TurnQuiet s := by
  constructor
  · intro h
    obtain ⟨s', hreach, hend | ⟨s'', -, -, hlimit⟩⟩ := serveFrames_end hfuel
    · exact ⟨s', hreach, _, hend, h⟩
    · rw [hlimit] at h
      obtain ⟨e, he, -⟩ := h
      cases he
  · rintro ⟨s', hreach, t, hturn, hquiet⟩
    obtain ⟨fuel', hfuel', heq⟩ := serveFrames_of_reached hfuel hreach
    rw [heq, serveFrames_ended hfuel' hturn]
    exact hquiet

/-- The reads of the head that fail quietly. -/
theorem endsQuietly_of_failed {e : Error} {errorCodes : List (UInt32 × IpcErrorCode)}
    (hindex : 0 < s.index) (h : k.receive s = .failed e errorCodes) (hquiet : noActivity e = true) :
    k.EndsQuietly s := by
  unfold receive at h
  split at h
  · case _ hbudget =>
    split at h
    · case _ hframes => exact .budget hindex hframes hbudget.1 hbudget.2
    · cases h
  · case _ hbudget =>
    split at h
    · case _ e' hread =>
      split at h
      · cases h
      · case _ hclosed =>
        split at h
        · cases h
        · case _ htimeout =>
          cases h
          have hframes : ¬ s.frames > 0 := by
            intro hpos
            rcases noActivity_iff.mp hquiet with he | he
            · exact htimeout ⟨he, hpos⟩
            · exact hclosed ⟨he, hpos⟩
          exact .header hindex (UInt32.le_zero_iff.mp (UInt32.not_lt.mp hframes)) hbudget hread hquiet
    · case _ headerBytes rest hread =>
      split at h
      · case _ e' hparse =>
        cases h
        rw [not_noActivity_of_parseHeader hparse] at hquiet
        cases hquiet
      · case _ header hparse =>
        split at h
        · case _ hlength =>
          split at h
          · case _ e' hpayload =>
            cases h
            exact .payload hindex hbudget hread hparse hlength hpayload hquiet
          · cases h
        · cases h

theorem turnQuiet_of_failed {e : Error} {errorCodes : List (UInt32 × IpcErrorCode)}
    (h : k.receive s = .failed e errorCodes) (hquiet : noActivity e = true) : k.TurnQuiet s := by
  refine ⟨s.fail e errorCodes, ?_, e, rfl, hquiet⟩
  simp [serveFrame, h]

theorem EndsQuietly.turnQuiet (h : k.EndsQuietly s) :
    k.TurnQuiet s ∧ (0 < s.index ∨ ∃ f, k.receive s = .frame f) := by
  cases h with
  | budget hindex hframes hmode hbudget =>
    have hrecv : k.receive s = .failed (.fromWin32 errorTimeout "ServeSession") [] := by
      simp [receive, hmode, hbudget, hframes]
    exact ⟨turnQuiet_of_failed hrecv rfl, .inl hindex⟩
  | @header e hindex hframes hbudget hread hquiet =>
    have hrecv : k.receive s = .failed e [] := by
      simp [receive, hbudget, hread, hframes]
    exact ⟨turnQuiet_of_failed hrecv hquiet, .inl hindex⟩
  | @payload headerBytes rest header e hindex hbudget hread hparse hlength hpayload hquiet =>
    have hrecv : k.receive s = .failed e [] := by
      simp [receive, hbudget, hread, hparse, hlength, hpayload]
    exact ⟨turnQuiet_of_failed hrecv hquiet, .inl hindex⟩
  | @gate f e hrecv hauth hquiet =>
    refine ⟨⟨s.reject e f.header.requestId, ?_, e, rfl, hquiet⟩, .inr ⟨f, hrecv⟩⟩
    simp [serveFrame, hrecv, hauth]
  | @handler f e st hrecv hauth hhandle hquiet =>
    refine ⟨⟨{ s with handlerState := st }.fail e [(f.header.requestId,
      if k.handler.isSome then .handlerFailed else .unsupportedType)], ?_, e, rfl, hquiet⟩,
      .inr ⟨f, hrecv⟩⟩
    simp [serveFrame, hrecv, hauth, hhandle]
  | @reply f reply st e ha hvalid hfault hquiet =>
    refine ⟨⟨(k.noteReply s f reply st).fail e [], ?_, e, rfl, hquiet⟩, .inr ⟨f, ha.received⟩⟩
    simp [serveFrame, ha.received, ha.authorized, ha.handled, deliver, hvalid, hfault]

theorem TurnQuiet.endsQuietly (h : k.TurnQuiet s)
    (hread : 0 < s.index ∨ ∃ f, k.receive s = .frame f) : k.EndsQuietly s := by
  obtain ⟨t, hturn, e, hresult, hquiet⟩ := h
  have hcases := k.serveFrame_cases s
  rw [hturn] at hcases
  cases hcases with
  | finished hrecv => cases hresult
  | failed hrecv =>
    cases hresult
    rcases hread with hindex | ⟨f, hframe⟩
    · exact endsQuietly_of_failed hindex hrecv hquiet
    · cases hrecv.symm.trans hframe
  | refused hrecv hauth =>
    cases hresult
    exact .gate hrecv hauth hquiet
  | handlerFailed hrecv hauth hhandle =>
    cases hresult
    exact .handler hrecv hauth hhandle hquiet
  | @replyFailed f reply st e' ha hdeliver =>
    cases hresult
    unfold deliver at hdeliver
    split at hdeliver
    · case _ hvalid =>
      cases hdeliver
      rw [not_noActivity_of_validateIpcHeader hvalid] at hquiet
      cases hquiet
    · case _ hvalid =>
      split at hdeliver
      · case _ hfault =>
        cases hdeliver
        exact .reply ha hvalid hfault hquiet
      · cases hdeliver

theorem endsQuietly_iff :
    k.EndsQuietly s ↔ k.TurnQuiet s ∧ (0 < s.index ∨ ∃ f, k.receive s = .frame f) :=
  ⟨EndsQuietly.turnQuiet, fun h => h.1.endsQuietly h.2⟩

/-- Every state the loop comes to, the first one included, has a frame behind it or before it. -/
theorem frame_of_exchanges {st : η} {s : LoopState η} (hframe : ∃ f, k.receive (k.start st) = .frame f)
    (h : Relation.ReflTransGen k.Exchange (k.start st) s) :
    0 < s.index ∨ ∃ f, k.receive s = .frame f := by
  cases h with
  | refl => exact .inr hframe
  | tail _ hlast =>
    cases hlast with
    | mk ha hdeliver hlimit => exact .inl (Nat.succ_pos _)

end ServeCall

/-- A connection with a frame is left out of the account exactly if its session is lost quietly. -/
theorem lostQuietly_iff (c : Connection η) :
    c.LostQuietly ↔ c.FrameRead ∧ classify c.result = .leftOut := by
  have hfuel : (c.call.start c.state).input.length < c.call.peer.input.length + 1 :=
    Nat.lt_succ_self _
  have hserve : c.call.accepted = .ok () →
      (classify c.result = .leftOut ↔
        Eventually c.call.Exchange c.call.TurnQuiet (c.call.start c.state)) := by
    intro hacc
    rw [← ServeCall.serveFrames_quiet hfuel, classify_eq_leftOut]
    simp [Connection.result, ServeCall.serve, hacc, ServeTrace.FailsQuietly]
  constructor
  · rintro ⟨hacc, s, hreach, hends⟩
    obtain ⟨hquiet, hread⟩ := ServeCall.endsQuietly_iff.mp hends
    refine ⟨⟨hacc, ?_⟩, (hserve hacc).mpr ⟨s, hreach, hquiet⟩⟩
    rcases Relation.ReflTransGen.cases_head hreach with rfl | ⟨s', hfirst, -⟩
    · rcases hread with hindex | hframe
      · exact absurd hindex (Nat.lt_irrefl 0)
      · exact hframe
    · cases hfirst with
      | mk ha hdeliver hlimit => exact ⟨_, ha.received⟩
  · rintro ⟨⟨hacc, hframe⟩, hleft⟩
    obtain ⟨s, hreach, hquiet⟩ := (hserve hacc).mp hleft
    exact ⟨hacc, s, hreach,
      ServeCall.endsQuietly_iff.mpr ⟨hquiet, ServeCall.frame_of_exchanges hframe hreach⟩⟩

/-! ## Runs of the server -/

theorem accounted_add {summary : IpcConcurrentSummary} {completed : List (Connection η × Fate)}
    {d : Connection η × Fate} (h : Accounted summary completed) :
    Accounted (summary.add d.2) (completed ++ [d]) ↔ (d.1.FrameRead → d.2 ≠ .leftOut) := by
  constructor
  · exact fun h' => h'.counted d (by simp)
  · intro hd
    refine ⟨?_, ?_, ?_, ?_⟩
    · cases hfate : d.2 <;>
        simp [IpcConcurrentSummary.add, Fate.result?, hfate, h.sessions]
    · cases hfate : d.2 <;> simp [IpcConcurrentSummary.add, h.clientsServed]
    · cases hfate : d.2 <;> simp [IpcConcurrentSummary.add, hfate, h.failedSessions]
    · intro d' hmem hread
      rcases List.mem_append.mp hmem with hold | hnew
      · exact h.counted d' hold hread
      · cases List.mem_singleton.mp hnew
        exact hd hread

/-- One step keeps the account exactly if it is no quiet end. -/
theorem accounted_step (frameIdle : Int) (handler : Option (Handler η)) {s : PoolState η}
    (h : Accounted s.summary s.completed) (e : PoolEvent η) :
    Accounted (s.step frameIdle handler e).summary (s.step frameIdle handler e).completed ↔
      EndsHeard s e := by
  cases e with
  | turn worker remaining peer state =>
    have hkeep : (s.step frameIdle handler (.turn worker remaining peer state)).summary = s.summary ∧
        (s.step frameIdle handler (.turn worker remaining peer state)).completed = s.completed := by
      simp only [PoolState.step]
      split
      · split <;> exact ⟨rfl, rfl⟩
      · exact ⟨rfl, rfl⟩
    rw [hkeep.1, hkeep.2]
    exact ⟨fun _ _ _ he => (nomatch he), fun _ => h⟩
  | throw worker =>
    have hkeep : (s.step frameIdle handler (.throw worker)).summary = s.summary ∧
        (s.step frameIdle handler (.throw worker)).completed = s.completed := by
      simp only [PoolState.step]
      split <;> exact ⟨rfl, rfl⟩
    rw [hkeep.1, hkeep.2]
    exact ⟨fun _ _ _ he => (nomatch he), fun _ => h⟩
  | complete worker =>
    simp only [PoolState.step]
    split
    · case _ c hworker =>
      rw [accounted_add (d := (c, classify c.result)) h]
      have hheard : (c.FrameRead → classify c.result ≠ .leftOut) ↔ ¬ c.LostQuietly := by
        rw [lostQuietly_iff, not_and]
      rw [hheard]
      constructor
      · rintro hc worker' c' ⟨⟩ hworker'
        cases hworker.symm.trans hworker'
        exact hc
      · exact fun hs => hs worker c rfl hworker
    · case _ hworker =>
      refine ⟨fun _ => ?_, fun _ => h⟩
      rintro worker' c' ⟨⟩ hworker'
      exact absurd hworker' (hworker c')

theorem accounted_start (factory : List (Option Options)) :
    Accounted (PoolState.start factory : PoolState η).summary
      (PoolState.start factory : PoolState η).completed where
  sessions := rfl
  clientsServed := rfl
  failedSessions := rfl
  counted := fun _ hd => nomatch hd

/-- Whatever the workers and the clients do, the summary accounts for every connection with a complete
frame, all along, exactly if no such connection ends with a code of inactivity. -/
theorem connections_accounted_iff (frameIdle : Int) (handler : Option (Handler η))
    (factory : List (Option Options)) (es : List (PoolEvent η)) :
    Always (PoolState.step frameIdle handler) (fun s => Accounted s.summary s.completed)
        (.start factory) es ↔
      Steps (PoolState.step frameIdle handler) EndsHeard (.start factory) es := by
  apply always_iff_steps (I := fun s => Accounted s.summary s.completed)
  · exact fun s e h hok => (accounted_step frameIdle handler h e).mpr hok
  · exact fun s h => h
  · exact fun s e h hbad hacc => hbad ((accounted_step frameIdle handler h e).mp hacc)
  · exact accounted_start factory

/-- A client that is answered one frame and goes away within the payload of the next. -/
def tornClient : Peer where
  identity := { pid := 1, sessionId := 1 }
  input := makeFrame .ping 1 [] ++ (makeFrame .factsSnapshot 2 [0x43, 0x50]).dropLast

def tornConnection : Connection Unit where
  call := { options := {}, handler := none, mode := .session 1000 6000, peer := tornClient }
  state := ()

def tornRun : List (PoolEvent Unit) :=
  [.turn 0 5000 tornClient (), .complete 0, .turn 0 0 {} ()]

theorem torn_payload_left_out :
    runConcurrentServer 1000 none 5000 [some {}] tornRun = .ok { workers := 1 } ∧
    ¬ ∀ (frameIdle : Int) (handler : Option (Handler Unit)) (factory : List (Option Options))
      (es : List (PoolEvent Unit)),
      Always (PoolState.step frameIdle handler) (fun s => Accounted s.summary s.completed)
        (.start factory) es := by
  refine ⟨by decide +kernel, fun h => ?_⟩
  have hlast := (h 1000 none [some {}] tornRun).last
  have hfate : classify tornConnection.result = .leftOut := by decide +kernel
  have hcompleted : (run (PoolState.step 1000 none) (.start [some {}]) tornRun).completed =
      [(tornConnection, classify tornConnection.result)] := rfl
  have hread : tornConnection.FrameRead := ⟨by decide +kernel, _, rfl⟩
  rw [hcompleted, hfate] at hlast
  exact hlast.counted (tornConnection, .leftOut) (List.mem_singleton_self _) hread rfl

end Ipc
end CppOptimizer
