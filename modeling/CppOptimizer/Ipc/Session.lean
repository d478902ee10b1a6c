import CppOptimizer.Ipc.Facts

/-!
# CppOptimizer.Ipc.Session

One call of `IpcSession::ServeOne` or `ServeSession` (`ipc_session.cpp`): listen, accept a client,
serve its frames until the session ends or a frame fails.

* `Peer`       — the client and the transport under it: everything the client ever sends, what a
  read meets after the last byte, and the failures of reads and writes frame by frame.
* `receive`    — the head of the loop: budget, header, payload.
* `serveFrame` — one turn of the loop; `serveFrames` repeats it, `serve` is the whole call.
* `ServeTrace` — the returned result with what happened on the way: the verdicts given to
  `verdictObserver` (which is taken to be set), the replies the handler produced, the error codes sent.

Draining, disconnecting and closing the pipe come after the last frame and are left out. A failed
read leaves the loop, so the bytes it may have consumed do not matter.
-/

namespace CppOptimizer
namespace Ipc

open Common

/-! ## Data -/

inductive IpcErrorCode where
  | invalidHeader | unsupportedType | handlerFailed | internal | invalidFacts | unauthorizedClient
  | authFailed
  deriving DecidableEq, Repr

def IpcErrorCode.toByte : IpcErrorCode → UInt8
  | .invalidHeader => 0x01
  | .unsupportedType => 0x03
  | .handlerFailed => 0x04
  | .internal => 0x05
  | .invalidFacts => 0x06
  | .unauthorizedClient => 0x07
  | .authFailed => 0x08

structure IpcRequest where
  type : IpcMessageType := .ping
  requestId : UInt32 := 0
  payload : Bytes := []
  clientPid : UInt32 := 0
  clientSessionId : UInt32 := 0
  deriving DecidableEq, Repr

structure IpcReply where
  type : IpcMessageType := .ack
  payload : Bytes := []
  deriving DecidableEq, Repr

/-- The reply that `ServeLoop` takes for a rejected credential. -/
def IpcReply.isAuthFailed (reply : IpcReply) : Bool :=
  reply.type == .error && reply.payload == [IpcErrorCode.authFailed.toByte]

inductive IpcSessionEndReason where
  | clientClosed | idleTimeout | sessionBudget
  deriving DecidableEq, Repr

inductive IpcClientVerdict where
  | accepted | unauthorizedClient | authFailed
  deriving DecidableEq, Repr

structure IpcServeResult where
  requestType : IpcMessageType := .ping
  replyType : IpcMessageType := .ack
  requestId : UInt32 := 0
  clientPid : UInt32 := 0
  clientSessionId : UInt32 := 0
  clientUserSid : WideText := []
  payloadBytes : UInt32 := 0
  framesServed : UInt32 := 1
  endReason : IpcSessionEndReason := .clientClosed
  deriving DecidableEq, Repr

structure IpcClientIdentity where
  pid : UInt32 := 0
  sessionId : UInt32 := 0
  userSid : WideText := []
  deriving DecidableEq, Repr

/-- A handler may keep state of its own between frames. -/
abbrev Handler (η : Type) := IpcRequest → η → Result IpcReply × η

/-- `std::towlower` in the C locale. -/
def towlower (c : UInt16) : UInt16 := if 0x41 ≤ c ∧ c ≤ 0x5A then c + 0x20 else c

def sidEqualsIgnoreCase (a b : WideText) : Bool :=
  a.length == b.length && (a.zip b).all fun p => towlower p.1 == towlower p.2

def tokenMatches (token : Bytes) (expected : WideText) : Bool :=
  token.length == expected.length &&
    (token.zip expected).all fun p => p.2 ≤ 0x7F && p.1.toUInt16 == p.2

def defaultClientGate (client : IpcClientIdentity) : Result Unit :=
  if client.pid = 0 then
    .error (.validation "DefaultClientGate" "客户端 PID 不可识别（0），拒绝受理")
  else if client.sessionId = 0 then
    .error (.validation "DefaultClientGate" "客户端位于会话 0（非交互），拒绝受理")
  else .ok ()

structure Options where
  ioTimeout : Int := 3000
  clientGate : Option (IpcClientIdentity → Result Unit) := some defaultClientGate
  persistentAccept : Bool := false
  allowedClientSids : List WideText := []
  expectedToken : WideText := []

/-- Gate and SID list, in this order. -/
def Options.authorize (o : Options) (identity : IpcClientIdentity) : Result Unit :=
  let gated :=
    match o.clientGate with
    | some gate => gate identity
    | none => .ok ()
  match gated with
  | .error e => .error e
  | .ok () =>
    if o.allowedClientSids ≠ [] ∧ ¬ o.allowedClientSids.any (sidEqualsIgnoreCase identity.userSid)
    then .error (.validation "SessionSidGate" "客户端用户不在授权白名单")
    else .ok ()

/-- `DefaultHandler` with the expected token. -/
def defaultHandler (expectedToken : WideText) (request : IpcRequest) : Result IpcReply :=
  match request.type with
  | .ping => .ok {}
  | .factsSnapshot =>
    match parseFactsV1 request.payload with
    | .error _ => .ok { type := .error, payload := [IpcErrorCode.invalidFacts.toByte] }
    | .ok facts =>
      match validateFactsV1Schema facts with
      | .error _ => .ok { type := .error, payload := [IpcErrorCode.invalidFacts.toByte] }
      | .ok () =>
        if expectedToken ≠ [] ∧
            ¬ facts.any fun fact => fact.key == kFactsTokenKey && tokenMatches fact.value expectedToken
        then .ok { type := .error, payload := [IpcErrorCode.authFailed.toByte] }
        else .ok { type := .ack, payload := formatFactsSummary facts }
  | _ => .error (.validation "DefaultHandler" "不支持的消息类型")

theorem defaultHandler_ok {expectedToken : WideText} {request : IpcRequest} :
    (∃ reply, defaultHandler expectedToken request = .ok reply) ↔
      request.type = .ping ∨ request.type = .factsSnapshot := by
  unfold defaultHandler
  split
  · case _ htype => simp [htype]
  · case _ htype =>
    simp only [htype, reduceCtorEq, or_true, iff_true]
    repeat' split
    all_goals exact ⟨_, rfl⟩
  · case _ hping hfacts =>
    simp only [reduceCtorEq, exists_false, false_iff, not_or]
    exact ⟨hping, hfacts⟩

/-- Every reply of the default handler fits a frame. -/
theorem defaultHandler_length {expectedToken : WideText} {request : IpcRequest} {reply : IpcReply}
    (h : defaultHandler expectedToken request = .ok reply) :
    reply.payload.length ≤ kFactsSummaryMaxBytes + 1 := by
  unfold defaultHandler at h
  split at h
  · cases h
    exact Nat.zero_le _
  · split at h
    · cases h
      decide
    · case _ facts hparse =>
      split at h
      · cases h
        decide
      · split at h
        · cases h
          decide
        · cases h
          exact formatFactsSummary_length (parseFactsV1_length hparse)
  · cases h

/-! ## One call -/

/-- `one` is `ServeOne`, a single frame without idle and budget rules. -/
inductive ServeMode where
  | one
  | session (idleTimeout sessionBudget : Int)
  deriving DecidableEq, Repr

/-- `0` means no limit. -/
def ServeMode.maxFrames : ServeMode → UInt32
  | .one => 1
  | .session _ _ => 0

/-- The client and the transport of one connection. `remaining i` is what is left of the session
budget before frame `i`, in milliseconds; `ending` is what a read meets when it needs more bytes
than the client sends. -/
structure Peer where
  listen : Result Unit := .ok ()
  accept : Result Unit := .ok ()
  identity : IpcClientIdentity := {}
  input : Bytes := []
  ending : Error := .fromWin32 errorBrokenPipe "ReadAll"
  remaining : Nat → Int := fun _ => 1
  headerFault : Nat → Option Error := fun _ => none
  payloadFault : Nat → Option Error := fun _ => none
  replyFault : Nat → Option Error := fun _ => none

structure ServeCall (η : Type) where
  options : Options
  handler : Option (Handler η)
  mode : ServeMode
  peer : Peer

/-- The locals of the loop. `index` counts the frames for the transport, `frames` is the 32-bit
counter of the source. -/
structure LoopState (η : Type) where
  input : Bytes
  handlerState : η
  index : Nat := 0
  frames : UInt32 := 0
  last : IpcServeResult := {}
  clientAuthRejected : Bool := false
  produced : List (IpcRequest × IpcReply) := []

structure ServeTrace (η : Type) where
  result : Result IpcServeResult
  handlerState : η
  verdicts : List IpcClientVerdict := []
  produced : List (IpcRequest × IpcReply) := []
  rejected : Bool := false
  errorCodes : List (UInt32 × IpcErrorCode) := []

namespace LoopState

variable {η : Type}

/-- An early return: no verdict. -/
def fail (s : LoopState η) (e : Error) (errorCodes : List (UInt32 × IpcErrorCode)) :
    ServeTrace η :=
  { result := .error e, handlerState := s.handlerState, produced := s.produced,
    errorCodes := errorCodes }

/-- The client is refused by gate or SID list. -/
def reject (s : LoopState η) (e : Error) (requestId : UInt32) : ServeTrace η :=
  { s.fail e [(requestId, .unauthorizedClient)] with
    verdicts := [.unauthorizedClient]
    rejected := true }

/-- The normal end of the loop. -/
def finish (s : LoopState η) (reason : IpcSessionEndReason) : ServeTrace η :=
  { result := .ok { s.last with framesServed := s.frames, endReason := reason }
    handlerState := s.handlerState
    produced := s.produced
    verdicts := [if s.clientAuthRejected then .authFailed else .accepted] }

end LoopState

/-- A frame as it was read, and what the client sends after it. -/
structure Frame where
  header : IpcHeader
  payload : Bytes
  rest : Bytes

/-- How the head of the loop comes out: the session is over, it fails, or there is a frame. -/
inductive Received where
  | finished (reason : IpcSessionEndReason)
  | failed (e : Error) (errorCodes : List (UInt32 × IpcErrorCode))
  | frame (f : Frame)

/-- `ReadAll` of exactly `n` bytes, with what is left to read. -/
def readAll (peer : Peer) (fault : Option Error) (n : Nat) (input : Bytes) :
    Result (Bytes × Bytes) :=
  match fault with
  | some e => .error e
  | none => if n ≤ input.length then .ok (input.take n, input.drop n) else .error peer.ending

def isClientClosed (e : Error) : Bool :=
  e.domain == .win32 && (e.code == errorBrokenPipe || e.code == errorNoData)

def isTimeout (e : Error) : Bool := e.domain == .win32 && e.code == errorTimeout

namespace ServeCall

variable {η : Type} (k : ServeCall η)

def idleTimeout : Int :=
  match k.mode with
  | .one => k.options.ioTimeout
  | .session idleTimeout _ => idleTimeout

def headerTimeout (index : Nat) : Int :=
  match k.mode with
  | .one => k.options.ioTimeout
  | .session idleTimeout _ => min idleTimeout (k.peer.remaining index)

def receive (s : LoopState η) : Received :=
  if k.mode.maxFrames = 0 ∧ k.peer.remaining s.index ≤ 0 then
    if s.frames = 0 then .failed (.fromWin32 errorTimeout "ServeSession") []
    else .finished .sessionBudget
  else
    match readAll k.peer (k.peer.headerFault s.index) kIpcHeaderSize s.input with
    | .error e =>
      if isClientClosed e = true ∧ s.frames > 0 then .finished .clientClosed
      else if isTimeout e = true ∧ s.frames > 0 then
        .finished (if k.headerTimeout s.index = k.idleTimeout then .idleTimeout else .sessionBudget)
      else .failed e []
    | .ok (headerBytes, rest) =>
      match parseHeader headerBytes with
      | .error e => .failed e [(0, .invalidHeader)]
      | .ok header =>
        if header.payloadLength > 0 then
          match readAll k.peer (k.peer.payloadFault s.index) header.payloadLength.toNat rest with
          | .error e => .failed e []
          | .ok (payload, rest) => .frame { header := header, payload := payload, rest := rest }
        else .frame { header := header, payload := [], rest := rest }

/-- The request made of a frame. The header has been checked, so its type is known. -/
def request (f : Frame) : IpcRequest :=
  { type := (parseMessageType f.header.type).getD .ping
    requestId := f.header.requestId
    payload := f.payload
    clientPid := k.peer.identity.pid
    clientSessionId := k.peer.identity.sessionId }

/-- The custom handler, or the default one with the expected token. -/
def handle (request : IpcRequest) (st : η) : Result IpcReply × η :=
  match k.handler with
  | some handler => handler request st
  | none => (defaultHandler k.options.expectedToken request, st)

/-- The reply fits a frame and the transport takes it. -/
def deliver (index : Nat) (requestId : UInt32) (reply : IpcReply) : Result Unit :=
  match validateIpcHeader
      (makeIpcHeader reply.type (UInt32.ofNat reply.payload.length) requestId) with
  | .error e => .error e
  | .ok () =>
    match k.peer.replyFault index with
    | some e => .error e
    | none => .ok ()

/-- The locals once the handler has produced a reply. -/
def noteReply (s : LoopState η) (f : Frame) (reply : IpcReply) (st : η) : LoopState η :=
  { s with
    input := f.rest
    handlerState := st
    clientAuthRejected := s.clientAuthRejected || reply.isAuthFailed
    produced := s.produced ++ [(k.request f, reply)] }

/-- The locals once the reply is written. -/
def advance (s : LoopState η) (f : Frame) (reply : IpcReply) (st : η) : LoopState η :=
  { k.noteReply s f reply st with
    index := s.index + 1
    frames := s.frames + 1
    last :=
      { s.last with
        requestType := (k.request f).type
        replyType := reply.type
        requestId := (k.request f).requestId
        clientPid := (k.request f).clientPid
        clientSessionId := (k.request f).clientSessionId
        clientUserSid := k.peer.identity.userSid
        payloadBytes := UInt32.ofNat f.payload.length } }

inductive Turn (η : Type) where
  | ended (t : ServeTrace η)
  | served (s : LoopState η)

/-- One turn of the loop. -/
def serveFrame (s : LoopState η) : Turn η :=
  match k.receive s with
  | .finished reason => .ended (s.finish reason)
  | .failed e errorCodes => .ended (s.fail e errorCodes)
  | .frame f =>
    match k.options.authorize k.peer.identity with
    | .error e => .ended (s.reject e f.header.requestId)
    | .ok () =>
      match k.handle (k.request f) s.handlerState with
      | (.error e, st) =>
        .ended ({ s with handlerState := st }.fail e
          [(f.header.requestId, if k.handler.isSome then .handlerFailed else .unsupportedType)])
      | (.ok reply, st) =>
        match k.deliver s.index f.header.requestId reply with
        | .error e => .ended ((k.noteReply s f reply st).fail e [])
        | .ok () => .served (k.advance s f reply st)

/-- The frame just served was the last one allowed. -/
def LimitReached (s : LoopState η) : Prop := k.mode.maxFrames ≠ 0 ∧ s.frames ≥ k.mode.maxFrames

instance (s : LoopState η) : Decidable (k.LimitReached s) := inferInstanceAs (Decidable (_ ∧ _))

/-- The loop, with fuel for its turns; `serve` gives enough of it. -/
def serveFrames : Nat → LoopState η → ServeTrace η
  | 0, s => s.fail {} []
  | fuel + 1, s =>
    match k.serveFrame s with
    | .ended t => t
    | .served s' => if k.LimitReached s' then s'.finish .clientClosed else serveFrames fuel s'

def start (st : η) : LoopState η := { input := k.peer.input, handlerState := st }

/-- The call gets as far as its loop: sensible times, a listening pipe and a client. -/
def accepted : Result Unit :=
  let sensible : Result Unit :=
    match k.mode with
    | .one => .ok ()
    | .session idleTimeout sessionBudget =>
      if idleTimeout ≤ 0 ∨ sessionBudget ≤ 0 then
        .error (.validation "ServeSession" "idleTimeout 与 sessionBudget 必须为正")
      else .ok ()
  match sensible with
  | .error e => .error e
  | .ok () =>
    match k.peer.listen with
    | .error e => .error e
    | .ok () => k.peer.accept

def serve (st : η) : ServeTrace η :=
  match k.accepted with
  | .error e => { result := .error e, handlerState := st }
  | .ok () => k.serveFrames (k.peer.input.length + 1) (k.start st)

end ServeCall

end Ipc
end CppOptimizer
