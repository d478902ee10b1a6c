import CppOptimizer.Ipc.Session

/-!
# CppOptimizer.Ipc.RoundTrip

The two ends of a pipe: a client in `IpcRoundTripSession` and a server in `ServeSession`
(`ipc_session.cpp`), with the bytes between them.

* `Reading`     — how far a side is with the next frame: `ReadAll` of the header, then of the payload.
* `ClientState` — where the client stands in its loop over the requests.
* `ServerState` — where the server stands in its loop over the frames, the draining read included.
* `WireStep`    — some bytes move, or a side notices that the other one is gone.

`ReadAllOverlapped` and `WriteAllOverlapped` move at least one byte a turn and at most what is left
to move (`ipc_transport.cpp`); how many is up to the pipe. Nothing times out here. `Session` has the
same server as a function of all that the client sends; `turn_onFrame` compares the two.
-/

namespace CppOptimizer
namespace Ipc

open Common

/-! ## Frames, bytes at a time -/

inductive Reading where
  | header (got : Bytes)
  | payload (header : IpcHeader) (got : Bytes)
  deriving DecidableEq, Repr

inductive Fed where
  | more (r : Reading)
  | frame (header : IpcHeader) (payload : Bytes)
  | invalid (e : Error)

namespace Reading

def start : Reading := .header []

/-- What is left of the buffer. -/
def wanted : Reading → Nat
  | .header got => kIpcHeaderSize - got.length
  | .payload announced got => announced.payloadLength.toNat - got.length

/-- The next bytes of the frame; a full buffer is looked at. -/
def feed (bs : Bytes) : Reading → Fed
  | .header got =>
    if (got ++ bs).length < kIpcHeaderSize then .more (.header (got ++ bs))
    else
      match parseHeader (got ++ bs) with
      | .error e => .invalid e
      | .ok announced =>
        if announced.payloadLength > 0 then .more (.payload announced []) else .frame announced []
  | .payload announced got =>
    if (got ++ bs).length < announced.payloadLength.toNat then .more (.payload announced (got ++ bs))
    else .frame announced (got ++ bs)

end Reading

/-! ## The client -/

structure IpcFrameRequest where
  type : IpcMessageType := .ping
  requestId : UInt32 := 0
  payload : Bytes := []
  deriving DecidableEq, Repr

/-- `IpcErrorCodeToString`, of a code as it comes over the pipe. -/
def ipcErrorCodeToString (code : UInt8) : String :=
  if code = 0x01 then "invalid header"
  else if code = 0x03 then "unsupported message type"
  else if code = 0x04 then "handler failed"
  else if code = 0x05 then "internal error"
  else if code = 0x06 then "invalid facts payload"
  else if code = 0x07 then "unauthorized client"
  else if code = 0x08 then "authentication failed"
  else "unknown error"

/-- `frame` is the request on its way, `later` the ones after it. -/
inductive ClientState where
  | writing (rest : Bytes) (frame : IpcFrameRequest) (later : List IpcFrameRequest)
      (replies : List IpcReply)
  | reading (r : Reading) (frame : IpcFrameRequest) (later : List IpcFrameRequest)
      (replies : List IpcReply)
  | closing (result : Result (List IpcReply))
  | done (result : Result (List IpcReply))

def IpcFrameRequest.bytes (frame : IpcFrameRequest) : Bytes :=
  makeFrame frame.type frame.requestId frame.payload

namespace ClientState

/-- The handle is closed. -/
def isDone : ClientState → Bool
  | .done _ => true
  | _ => false

/-- The head of the loop. -/
def next (later : List IpcFrameRequest) (replies : List IpcReply) : ClientState :=
  match later with
  | [] => .closing (.ok replies)
  | frame :: later => .writing frame.bytes frame later replies

/-- After some bytes of the request are written. -/
def wrote (rest : Bytes) (frame : IpcFrameRequest) (later : List IpcFrameRequest)
    (replies : List IpcReply) : ClientState :=
  if rest = [] then .reading .start frame later replies else .writing rest frame later replies

/-- The code of an error reply; an empty payload counts as an internal error. -/
def errorCode (payload : Bytes) : UInt8 := payload.head?.getD IpcErrorCode.internal.toByte

/-- A whole reply. The header has been checked, so its type is known. -/
def received (header : IpcHeader) (payload : Bytes) (frame : IpcFrameRequest)
    (later : List IpcFrameRequest) (replies : List IpcReply) : ClientState :=
  if header.requestId ≠ frame.requestId then
    .closing (.error (.validation "IpcRoundTripSession" "应答 requestId 与请求不匹配"))
  else
    match (parseMessageType header.type).getD .ping with
    | .error =>
      .closing (.error (.validation "IpcRoundTripSession"
        ("服务端返回错误: " ++ ipcErrorCodeToString (errorCode payload))))
    | type => next later (replies ++ [{ type := type, payload := payload }])

def fed (frame : IpcFrameRequest) (later : List IpcFrameRequest) (replies : List IpcReply) :
    Fed → ClientState
  | .more r => .reading r frame later replies
  | .invalid e => .closing (.error e)
  | .frame header payload => received header payload frame later replies

end ClientState

/-! ## The server -/

/-- What the bytes being written are: a reply, with the locals after it, or an error code before the
call fails. -/
inductive Outgoing (η : Type) where
  | reply (s : LoopState η)
  | errorCode (t : ServeTrace η)

inductive ServerState (η : Type) where
  | reading (s : LoopState η) (r : Reading)
  | writing (rest : Bytes) (out : Outgoing η)
  | draining (t : ServeTrace η)
  | done (t : ServeTrace η)

/-- The client is disconnected. -/
def ServerState.isDone {η : Type} : ServerState η → Bool
  | .done _ => true
  | _ => false

/-- What `SendErrorReply` writes. -/
def errorReply (requestId : UInt32) (code : IpcErrorCode) : Bytes :=
  makeFrame .error requestId [code.toByte]

namespace ServeCall

variable {η : Type} (k : ServeCall η)

/-- A whole frame: gate and SID list, handler, check of the reply. -/
def onFrame (s : LoopState η) (f : Frame) : ServerState η :=
  match k.options.authorize k.peer.identity with
  | .error e =>
    .writing (errorReply f.header.requestId .unauthorizedClient)
      (.errorCode (s.reject e f.header.requestId))
  | .ok () =>
    match k.handle (k.request f) s.handlerState with
    | (.error e, st) =>
      let code : IpcErrorCode := if k.handler.isSome then .handlerFailed else .unsupportedType
      .writing (errorReply f.header.requestId code)
        (.errorCode ({ s with handlerState := st }.fail e [(f.header.requestId, code)]))
    | (.ok reply, st) =>
      match validateIpcHeader
          (makeIpcHeader reply.type (UInt32.ofNat reply.payload.length) f.header.requestId) with
      | .error e => .done ((k.noteReply s f reply st).fail e [])
      | .ok () =>
        .writing (makeFrame reply.type f.header.requestId reply.payload)
          (.reply (k.advance s f reply st))

def fed (s : LoopState η) : Fed → ServerState η
  | .more r => .reading s r
  | .invalid e =>
    .writing (errorReply 0 .invalidHeader) (.errorCode (s.fail e [(0, .invalidHeader)]))
  | .frame header payload => k.onFrame s { header := header, payload := payload, rest := [] }

/-- After some bytes are written. -/
def wrote (rest : Bytes) (out : Outgoing η) : ServerState η :=
  if rest = [] then
    match out with
    | .reply s =>
      if k.LimitReached s then .draining (s.finish .clientClosed) else .reading s .start
    | .errorCode t => .draining t
  else .writing rest out

/-- The client has closed its end. Before a frame begins this is how a session ends. -/
def readFailed (s : LoopState η) : Reading → ServerState η
  | .header _ =>
    if s.frames > 0 then .draining (s.finish .clientClosed)
    else .done (s.fail (.fromWin32 errorBrokenPipe "ReadAll") [])
  | .payload _ _ => .done (s.fail (.fromWin32 errorBrokenPipe "ReadAll") [])

/-- A failed reply ends the call; a failed error code does not matter. -/
def writeFailed : Outgoing η → ServerState η
  | .reply s => .done (s.fail (.fromWin32 errorNoData "WriteAll") [])
  | .errorCode t => .draining t

end ServeCall

/-- The turn of the loop that a state is in, once there is a frame. -/
def ServerState.turn? {η : Type} : ServerState η → Option (ServeCall.Turn η)
  | .writing _ (.reply s) => some (.served s)
  | .writing _ (.errorCode t) => some (.ended t)
  | .done t => some (.ended t)
  | _ => none

/-- A frame has the outcome that it has in `serveFrame`. -/
theorem ServeCall.turn_onFrame {η : Type} (k : ServeCall η) {s : LoopState η} {f : Frame}
    (hframe : k.receive s = .frame f) (hreply : k.peer.replyFault s.index = none) :
    (k.onFrame s f).turn? = some (k.serveFrame s) := by
  unfold serveFrame onFrame deliver
  simp only [hframe, hreply]
  cases k.options.authorize k.peer.identity with
  | error e => rfl
  | ok _ =>
    rcases k.handle (k.request f) s.handlerState with ⟨_ | reply, st⟩
    · rfl
    · dsimp only
      cases validateIpcHeader
        (makeIpcHeader reply.type (UInt32.ofNat reply.payload.length) f.header.requestId) <;> rfl

/-! ## Both -/

structure Wire (η : Type) where
  client : ClientState
  server : ServerState η
  /-- Bytes written by the client and not yet read. -/
  toServer : Bytes
  toClient : Bytes

/-- What a client meets whose server has disconnected it. -/
def errorPipeNotConnected : Nat := 233

/-- One step of one side. -/
inductive WireStep {η : Type} (k : ServeCall η) : Wire η → Wire η → Prop where
  | clientWrite {rest frame later replies server toServer toClient} (n : Nat) (hpos : 0 < n)
      (hle : n ≤ rest.length) (hopen : ServerState.isDone server = false) :
      WireStep k ⟨.writing rest frame later replies, server, toServer, toClient⟩
        ⟨.wrote (rest.drop n) frame later replies, server, toServer ++ rest.take n, toClient⟩
  | clientWriteFailed {rest frame later replies server toServer toClient}
      (hgone : ServerState.isDone server = true) :
      WireStep k ⟨.writing rest frame later replies, server, toServer, toClient⟩
        ⟨.closing (.error (.fromWin32 errorPipeNotConnected "WriteAll")), server, toServer, toClient⟩
  | clientRead {r frame later replies server toServer toClient} (n : Nat) (hpos : 0 < n)
      (hwanted : n ≤ Reading.wanted r) (hle : n ≤ toClient.length)
      (hopen : ServerState.isDone server = false) :
      WireStep k ⟨.reading r frame later replies, server, toServer, toClient⟩
        ⟨.fed frame later replies (r.feed (toClient.take n)), server, toServer, toClient.drop n⟩
  -- a disconnect drops what the client has not read
  | clientReadFailed {r frame later replies server toServer toClient}
      (hgone : ServerState.isDone server = true) :
      WireStep k ⟨.reading r frame later replies, server, toServer, toClient⟩
        ⟨.closing (.error (.fromWin32 errorPipeNotConnected "ReadAll")), server, toServer, toClient⟩
  | clientClose {result server toServer toClient} :
      WireStep k ⟨.closing result, server, toServer, toClient⟩
        ⟨.done result, server, toServer, toClient⟩
  | serverRead {client s r toServer toClient} (n : Nat) (hpos : 0 < n)
      (hwanted : n ≤ Reading.wanted r) (hle : n ≤ toServer.length) :
      WireStep k ⟨client, .reading s r, toServer, toClient⟩
        ⟨client, k.fed s (r.feed (toServer.take n)), toServer.drop n, toClient⟩
  | serverReadFailed {client s r toClient} (hclosed : ClientState.isDone client = true) :
      WireStep k ⟨client, .reading s r, [], toClient⟩
        ⟨client, ServeCall.readFailed s r, [], toClient⟩
  | serverWrite {client rest out toServer toClient} (n : Nat) (hpos : 0 < n)
      (hle : n ≤ rest.length) (hopen : ClientState.isDone client = false) :
      WireStep k ⟨client, .writing rest out, toServer, toClient⟩
        ⟨client, k.wrote (rest.drop n) out, toServer, toClient ++ rest.take n⟩
  | serverWriteFailed {client rest out toServer toClient}
      (hclosed : ClientState.isDone client = true) :
      WireStep k ⟨client, .writing rest out, toServer, toClient⟩
        ⟨client, ServeCall.writeFailed out, toServer, toClient⟩
  | serverDrain {client t b toServer toClient} :
      WireStep k ⟨client, .draining t, b :: toServer, toClient⟩ ⟨client, .done t, toServer, toClient⟩
  | serverDrainEnd {client t toClient} (hclosed : ClientState.isDone client = true) :
      WireStep k ⟨client, .draining t, [], toClient⟩ ⟨client, .done t, [], toClient⟩

/-- The client is connected and accepted. -/
def Wire.start {η : Type} (st : η) (requests : List IpcFrameRequest) : Wire η :=
  { client := .next requests []
    server := .reading { input := [], handlerState := st } .start
    toServer := []
    toClient := [] }

end Ipc
end CppOptimizer
