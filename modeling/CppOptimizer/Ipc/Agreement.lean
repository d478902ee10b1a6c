import Mathlib.Algebra.Ring.Nat
import CppOptimizer.Ipc.RoundTrip
import CppOptimizer.Lib.Run

/-!
# CppOptimizer.Ipc.Agreement

Client and server of `RoundTrip` agree, however their steps and the chunks of their frames fall.

* `Reading.Expects` — the reader has the beginning of a frame, and what is still to come is known.
* `AnswersAll`      — the replies the handler gives to a list of requests.
* `Synced`          — the invariant: the two sides are in the same frame, and what one has not read is
  what is in flight and what the other has not written. Its rank goes down with every step.
* `agreement`       — every run ends, with all replies at the client and the server's count.

The server counts frames in 32 bits.
-/

namespace CppOptimizer
namespace Ipc

open Common Lib

/-! ## Reading a frame -/

/-- A payload that fits a frame. -/
def FitsFrame (payload : Bytes) : Prop := payload.length ≤ kMaxPayloadLength.toNat

instance (payload : Bytes) : Decidable (FitsFrame payload) := inferInstanceAs (Decidable (_ ≤ _))

theorem FitsFrame.length_lt {payload : Bytes} (h : FitsFrame payload) :
    payload.length < 2 ^ 32 := by
  have hmax : kMaxPayloadLength.toNat = 4096 := by decide
  unfold FitsFrame at h
  omega

theorem FitsFrame.toNat_length {payload : Bytes} (h : FitsFrame payload) :
    (UInt32.ofNat payload.length).toNat = payload.length := by
  rw [UInt32.toNat_ofNat']
  exact Nat.mod_eq_of_lt h.length_lt

theorem FitsFrame.le {payload : Bytes} (h : FitsFrame payload) :
    UInt32.ofNat payload.length ≤ kMaxPayloadLength := by
  rw [UInt32.le_iff_toNat_le, h.toNat_length]
  exact h

def frameHeader (type : IpcMessageType) (requestId : UInt32) (payload : Bytes) : IpcHeader :=
  makeIpcHeader type (UInt32.ofNat payload.length) requestId

theorem FitsFrame.parse {payload : Bytes} (h : FitsFrame payload) (type : IpcMessageType)
    (requestId : UInt32) :
    parseHeader (serializeHeader (frameHeader type requestId payload)) =
      .ok (frameHeader type requestId payload) := parseHeader_serializeHeader h.le

theorem length_makeFrame (type : IpcMessageType) (requestId : UInt32) (payload : Bytes) :
    (makeFrame type requestId payload).length = 16 + payload.length := by
  have hheader : (serializeHeader (makeIpcHeader type (UInt32.ofNat payload.length)
      requestId)).length = 16 := rfl
  rw [makeFrame, List.length_append, hheader]

theorem makeFrame_ne_nil (type : IpcMessageType) (requestId : UInt32) (payload : Bytes) :
    makeFrame type requestId payload ≠ [] := by
  intro hnil
  have hlength := congrArg List.length hnil
  rw [length_makeFrame, List.length_nil] at hlength
  omega

/-- The reader has the beginning of a frame, and `rest` is still to come. -/
inductive Reading.Expects (type : IpcMessageType) (requestId : UInt32) (payload : Bytes) :
    Reading → Bytes → Prop where
  | header {got rest : Bytes} (hall : got ++ rest = makeFrame type requestId payload)
      (hlt : got.length < 16) : Expects type requestId payload (.header got) rest
  | payload {got rest : Bytes} (hall : got ++ rest = payload) (hrest : rest ≠ []) :
      Expects type requestId payload (.payload (frameHeader type requestId payload) got) rest

section Reading

variable {type : IpcMessageType} {requestId : UInt32} {payload rest : Bytes} {r : Reading}

theorem Reading.expects_start :
    Reading.start.Expects type requestId payload (makeFrame type requestId payload) :=
  .header rfl (by decide)

theorem Reading.Expects.rest_ne_nil (h : r.Expects type requestId payload rest) : rest ≠ [] := by
  cases h with
  | header hall hlt =>
    rintro rfl
    have hlength := congrArg List.length hall
    rw [length_makeFrame] at hlength
    simp only [List.append_nil] at hlength
    omega
  | payload _ hrest => exact hrest

/-- The reader waits for at least one byte. -/
theorem Reading.Expects.wanted_pos (h : r.Expects type requestId payload rest)
    (hfits : FitsFrame payload) : 0 < r.wanted := by
  cases h with
  | header _ hlt =>
    simp only [wanted, kIpcHeaderSize]
    omega
  | @payload got rest hall hrest =>
    have hlength : got.length + rest.length = payload.length := by
      rw [← hall, List.length_append]
    have hpos : 0 < rest.length := List.length_pos_iff.mpr hrest
    simp only [wanted, frameHeader, makeIpcHeader, hfits.toNat_length]
    omega

/-- A header that is complete: the rest is the payload. -/
theorem Reading.feed_header {got bs : Bytes} (hfits : FitsFrame payload)
    (hall : got ++ bs = serializeHeader (frameHeader type requestId payload)) :
    (∃ r, (Reading.header got).feed bs = .more r ∧ r.Expects type requestId payload payload) ∨
      ((Reading.header got).feed bs = .frame (frameHeader type requestId payload) payload ∧
        payload = []) := by
  have hfeed : (Reading.header got).feed bs =
      if (frameHeader type requestId payload).payloadLength > 0 then
        .more (.payload (frameHeader type requestId payload) [])
      else .frame (frameHeader type requestId payload) [] := by
    simp only [Reading.feed, hall, length_serializeHeader, lt_irrefl, if_false, hfits.parse]
  rw [hfeed]
  by_cases hempty : payload = []
  · subst hempty
    exact .inr ⟨rfl, rfl⟩
  · have hpos : (frameHeader type requestId payload).payloadLength > 0 := by
      have hlen : 0 < payload.length := List.length_pos_iff.mpr hempty
      show (0 : UInt32) < UInt32.ofNat payload.length
      rw [UInt32.lt_iff_toNat_lt, hfits.toNat_length]
      exact hlen
    rw [if_pos hpos]
    exact .inl ⟨_, rfl, .payload rfl hempty⟩

/-- The next bytes either leave the reader inside the frame or complete it. -/
theorem Reading.Expects.feed (h : r.Expects type requestId payload rest) (hfits : FitsFrame payload)
    {n : Nat} (hwanted : n ≤ r.wanted) (hle : n ≤ rest.length) :
    (∃ r', r.feed (rest.take n) = .more r' ∧ r'.Expects type requestId payload (rest.drop n)) ∨
      (r.feed (rest.take n) = .frame (frameHeader type requestId payload) payload ∧
        rest.drop n = []) := by
  cases h with
  | @header got rest hall hlt =>
    have hsplit : (got ++ rest.take n) ++ rest.drop n = makeFrame type requestId payload := by
      rw [List.append_assoc, List.take_append_drop, hall]
    have hlength : (got ++ rest.take n).length = got.length + n := by
      rw [List.length_append, List.length_take_of_le hle]
    simp only [wanted, kIpcHeaderSize] at hwanted
    by_cases hmore : (got ++ rest.take n).length < 16
    · exact .inl ⟨.header (got ++ rest.take n), if_pos hmore, .header hsplit hmore⟩
    · have hheader : (got ++ rest.take n).length =
          (serializeHeader (frameHeader type requestId payload)).length := by
        rw [hlength, length_serializeHeader]
        simp only [kIpcHeaderSize]
        omega
      obtain ⟨hfront, hback⟩ := List.append_inj hsplit hheader
      rw [hback]
      exact Reading.feed_header hfits hfront
  | @payload got rest hall hrest =>
    have hsplit : (got ++ rest.take n) ++ rest.drop n = payload := by
      rw [List.append_assoc, List.take_append_drop, hall]
    have hannounced : (frameHeader type requestId payload).payloadLength.toNat = payload.length :=
      hfits.toNat_length
    have hlength := congrArg List.length hsplit
    rw [List.length_append] at hlength
    by_cases hmore : (got ++ rest.take n).length < payload.length
    · have hnext : rest.drop n ≠ [] := by
        intro hnil
        rw [hnil] at hlength
        simp only [List.length_nil] at hlength
        omega
      refine .inl ⟨.payload (frameHeader type requestId payload) (got ++ rest.take n), ?_,
        .payload hsplit hnext⟩
      simp only [Reading.feed, hannounced, if_pos hmore]
    · have hnil : rest.drop n = [] := List.length_eq_zero_iff.mp (by omega)
      rw [hnil, List.append_nil] at hsplit
      refine .inr ⟨?_, hnil⟩
      simp only [Reading.feed, hannounced, hsplit, lt_irrefl, if_false]

/-- The same for bytes in flight, with `rest` not yet written. -/
theorem Reading.Expects.feed_flight {flight : Bytes}
    (h : r.Expects type requestId payload (flight ++ rest)) (hfits : FitsFrame payload) {n : Nat}
    (hwanted : n ≤ r.wanted) (hle : n ≤ flight.length) :
    (∃ r', r.feed (flight.take n) = .more r' ∧
        r'.Expects type requestId payload (flight.drop n ++ rest)) ∨
      (r.feed (flight.take n) = .frame (frameHeader type requestId payload) payload ∧
        flight.drop n = [] ∧ rest = []) := by
  have hlength : n ≤ (flight ++ rest).length := by
    rw [List.length_append]
    omega
  have hfeed := h.feed hfits hwanted hlength
  rw [List.take_append_of_le_length hle, List.drop_append_of_le_length hle,
    List.append_eq_nil_iff] at hfeed
  exact hfeed

end Reading

/-! ## What the handler answers -/

namespace ServeCall

variable {η : Type} (k : ServeCall η)

/-- The request as the handler gets it. -/
def requestOf (frame : IpcFrameRequest) : IpcRequest :=
  { type := frame.type
    requestId := frame.requestId
    payload := frame.payload
    clientPid := k.peer.identity.pid
    clientSessionId := k.peer.identity.sessionId }

/-- `replies` are what the handler says to the requests, one after the other. -/
inductive AnswersAll : η → List IpcFrameRequest → List IpcReply → η → Prop where
  | nil {st : η} : AnswersAll st [] [] st
  | snoc {st st₁ st₂ : η} {requests : List IpcFrameRequest} {replies : List IpcReply}
      {frame : IpcFrameRequest} {reply : IpcReply} (h : AnswersAll st requests replies st₁)
      (hreply : k.handle (k.requestOf frame) st₁ = (.ok reply, st₂)) :
      AnswersAll st (requests ++ [frame]) (replies ++ [reply]) st₂

variable {k} in
theorem AnswersAll.length_eq {st st' : η} {requests : List IpcFrameRequest} {replies : List IpcReply}
    (h : k.AnswersAll st requests replies st') : replies.length = requests.length := by
  induction h with
  | nil => rfl
  | snoc _ _ ih => simp [ih]

/-- What the two sides need: a session, an admitted client, requests that fit a frame, and a handler
that answers them with frames that are no errors. -/
structure Cooperative (requests : List IpcFrameRequest) : Prop where
  session : k.mode.maxFrames = 0
  admitted : k.options.authorize k.peer.identity = .ok ()
  fits : ∀ frame ∈ requests, FitsFrame frame.payload
  handler : ∀ frame ∈ requests, ∀ st, ∃ reply st',
    k.handle (k.requestOf frame) st = (.ok reply, st') ∧ reply.type ≠ .error ∧
      FitsFrame reply.payload

end ServeCall

section Frames

variable {η : Type} {k : ServeCall η} {requests : List IpcFrameRequest}

theorem ServeCall.request_frame (frame : IpcFrameRequest) (rest : Bytes) :
    k.request { header := frameHeader frame.type frame.requestId frame.payload
                payload := frame.payload
                rest := rest } = k.requestOf frame := by
  simp [request, requestOf, frameHeader, makeIpcHeader]

/-- The server's side of a whole request. -/
theorem ServeCall.Cooperative.onFrame (h : k.Cooperative requests) {frame : IpcFrameRequest}
    (hmem : frame ∈ requests) (s : LoopState η) :
    ∃ reply s', k.fed s (.frame (frameHeader frame.type frame.requestId frame.payload)
        frame.payload) = .writing (makeFrame reply.type frame.requestId reply.payload) (.reply s') ∧
      k.handle (k.requestOf frame) s.handlerState = (.ok reply, s'.handlerState) ∧
      s'.frames = s.frames + 1 ∧ reply.type ≠ .error ∧ FitsFrame reply.payload := by
  obtain ⟨reply, st, hhandle, htype, hfits⟩ := h.handler frame hmem s.handlerState
  have hvalid : validateIpcHeader (makeIpcHeader reply.type (UInt32.ofNat reply.payload.length)
      frame.requestId) = .ok () := validateIpcHeader_make hfits.le
  let f : Frame :=
    { header := frameHeader frame.type frame.requestId frame.payload
      payload := frame.payload
      rest := [] }
  have hid : f.header.requestId = frame.requestId := rfl
  have hframe : k.request f = k.requestOf frame := request_frame frame []
  refine ⟨reply, k.advance s f reply st, ?_, hhandle, rfl, htype, hfits⟩
  show k.onFrame s f = _
  simp only [ServeCall.onFrame, h.admitted, hframe, hhandle, hid, hvalid]

/-- The client's side of a whole reply. -/
theorem ClientState.received_reply {frame : IpcFrameRequest} {reply : IpcReply}
    (htype : reply.type ≠ .error) (later : List IpcFrameRequest) (replies : List IpcReply) :
    ClientState.fed frame later replies
        (.frame (frameHeader reply.type frame.requestId reply.payload) reply.payload) =
      .next later (replies ++ [reply]) := by
  obtain ⟨type, payload⟩ := reply
  have hparse : parseMessageType (frameHeader type frame.requestId payload).type = some type :=
    parseMessageType_toByte type
  have hid : (frameHeader type frame.requestId payload).requestId = frame.requestId := rfl
  simp only [ClientState.fed, ClientState.received, hid, hparse, ne_eq, not_true_eq_false, if_false,
    Option.getD_some]

end Frames

/-! ## The invariant -/

section Sync

variable {η : Type} (k : ServeCall η) (st : η) (requests : List IpcFrameRequest)

/-- The requests before `later` are answered by `replies`, and the server is past them. -/
def Served (s : LoopState η) (later : List IpcFrameRequest) (replies : List IpcReply) : Prop :=
  ∃ served, requests = served ++ later ∧ k.AnswersAll st served replies s.handlerState ∧
    s.frames = UInt32.ofNat served.length

/-- An upper bound for the steps that a request still takes: two for each byte of it and of its
reply, and one. -/
def frameCost (frame : IpcFrameRequest) : Nat := 2 * frame.bytes.length + 2 * (16 + 4096) + 1

def laterCost (later : List IpcFrameRequest) : Nat := (later.map frameCost).sum + 5

/-- How a session ends once the client has closed. -/
def endTrace (s : LoopState η) : ServeTrace η :=
  if s.frames > 0 then s.finish .clientClosed
  else s.fail (.fromWin32 errorBrokenPipe "ReadAll") []

/-- Both sides are in the same frame. The number bounds the steps that are left. -/
inductive Synced : Nat → Wire η → Prop where
  /-- A request is on its way, `rest` of it not yet written. -/
  | sending {s : LoopState η} {r : Reading} {frame : IpcFrameRequest}
      {later : List IpcFrameRequest} {replies : List IpcReply} {rest toServer : Bytes}
      {client : ClientState} (hserved : Served k st requests s (frame :: later) replies)
      (hclient : client = .wrote rest frame later replies)
      (hreader : r.Expects frame.type frame.requestId frame.payload (toServer ++ rest)) :
      Synced (2 * rest.length + toServer.length + 2 * (16 + 4096) + 1 + laterCost later)
        ⟨client, .reading s r, toServer, []⟩
  /-- The reply is on its way back. -/
  | replying {s : LoopState η} {r : Reading} {frame : IpcFrameRequest}
      {later : List IpcFrameRequest} {replies : List IpcReply} {reply : IpcReply}
      {rest toClient : Bytes} {server : ServerState η}
      (hserved : Served k st requests s later (replies ++ [reply]))
      (hserver : server = k.wrote rest (.reply s)) (htype : reply.type ≠ .error)
      (hfits : FitsFrame reply.payload)
      (hreader : r.Expects reply.type frame.requestId reply.payload (toClient ++ rest)) :
      Synced (2 * rest.length + toClient.length + laterCost later)
        ⟨.reading r frame later replies, server, [], toClient⟩
  | closing {s : LoopState η} {replies : List IpcReply} (hserved : Served k st requests s [] replies) :
      Synced 4 ⟨.closing (.ok replies), .reading s .start, [], []⟩
  | closed {s : LoopState η} {replies : List IpcReply} (hserved : Served k st requests s [] replies) :
      Synced 3 ⟨.done (.ok replies), .reading s .start, [], []⟩
  | draining {s : LoopState η} {replies : List IpcReply}
      (hserved : Served k st requests s [] replies) (hframes : s.frames > 0) :
      Synced 2 ⟨.done (.ok replies), .draining (s.finish .clientClosed), [], []⟩
  | ended {s : LoopState η} {replies : List IpcReply} (hserved : Served k st requests s [] replies) :
      Synced 1 ⟨.done (.ok replies), .done (endTrace s), [], []⟩

variable {k st requests}

theorem Served.mem {s : LoopState η} {frame : IpcFrameRequest} {later : List IpcFrameRequest}
    {replies : List IpcReply} (h : Served k st requests s (frame :: later) replies) :
    frame ∈ requests := by
  obtain ⟨served, hsplit, _, _⟩ := h
  simp [hsplit]

/-- One more request is answered. -/
theorem Served.next {s s' : LoopState η} {frame : IpcFrameRequest} {later : List IpcFrameRequest}
    {replies : List IpcReply} {reply : IpcReply}
    (h : Served k st requests s (frame :: later) replies)
    (hreply : k.handle (k.requestOf frame) s.handlerState = (.ok reply, s'.handlerState))
    (hframes : s'.frames = s.frames + 1) :
    Served k st requests s' later (replies ++ [reply]) := by
  obtain ⟨served, hsplit, hanswers, hcount⟩ := h
  refine ⟨served ++ [frame], by simp [hsplit], .snoc hanswers hreply, ?_⟩
  rw [hframes, hcount, List.length_append, List.length_singleton, UInt32.ofNat_add]
  rfl

/-! Shapes of the two sides. -/

theorem ClientState.wrote_of_ne_nil {rest : Bytes} (h : rest ≠ []) (frame : IpcFrameRequest)
    (later : List IpcFrameRequest) (replies : List IpcReply) :
    ClientState.wrote rest frame later replies = .writing rest frame later replies := if_neg h

theorem ClientState.wrote_nil (frame : IpcFrameRequest) (later : List IpcFrameRequest)
    (replies : List IpcReply) :
    ClientState.wrote [] frame later replies = .reading .start frame later replies := if_pos rfl

theorem ClientState.isDone_wrote (rest : Bytes) (frame : IpcFrameRequest)
    (later : List IpcFrameRequest) (replies : List IpcReply) :
    (ClientState.wrote rest frame later replies).isDone = false := by
  unfold ClientState.wrote
  split <;> rfl

theorem ServeCall.wrote_of_ne_nil {rest : Bytes} (h : rest ≠ []) (out : Outgoing η) :
    k.wrote rest out = .writing rest out := if_neg h

/-- In a session there is always a next frame to wait for. -/
theorem ServeCall.wrote_nil (hsession : k.mode.maxFrames = 0) (s : LoopState η) :
    k.wrote [] (.reply s) = .reading s .start := by
  have hlimit : ¬ k.LimitReached s := fun h => h.1 hsession
  simp [ServeCall.wrote, hlimit]

theorem ServeCall.isDone_wrote (hsession : k.mode.maxFrames = 0) (rest : Bytes) (s : LoopState η) :
    (k.wrote rest (.reply s)).isDone = false := by
  by_cases hrest : rest = []
  · rw [hrest, wrote_nil hsession]
    rfl
  · rw [wrote_of_ne_nil hrest]
    rfl

/-! One step, from each shape. -/

/-- The head of the client's loop. -/
theorem synced_next {s : LoopState η} {later : List IpcFrameRequest} {replies : List IpcReply}
    (hserved : Served k st requests s later replies) :
    ∃ m ≤ laterCost later, Synced k st requests m ⟨.next later replies, .reading s .start, [], []⟩ := by
  cases later with
  | nil => exact ⟨4, by simp [laterCost], .closing hserved⟩
  | cons frame later =>
    have hclient : ClientState.next (frame :: later) replies =
        .wrote frame.bytes frame later replies :=
      (ClientState.wrote_of_ne_nil (makeFrame_ne_nil _ _ _) ..).symm
    refine ⟨_, ?_, .sending hserved hclient Reading.expects_start⟩
    simp only [laterCost, frameCost, List.map_cons, List.sum_cons, List.length_nil]
    omega

theorem synced_of_sending (hk : k.Cooperative requests) {s : LoopState η} {r : Reading}
    {frame : IpcFrameRequest} {later : List IpcFrameRequest} {replies : List IpcReply}
    {rest toServer : Bytes} {w : Wire η}
    (hserved : Served k st requests s (frame :: later) replies)
    (hreader : r.Expects frame.type frame.requestId frame.payload (toServer ++ rest))
    (hstep : WireStep k ⟨.wrote rest frame later replies, .reading s r, toServer, []⟩ w) :
    ∃ m < 2 * rest.length + toServer.length + 2 * (16 + 4096) + 1 + laterCost later,
      Synced k st requests m w := by
  have hfits : FitsFrame frame.payload := hk.fits frame hserved.mem
  generalize hclient : ClientState.wrote rest frame later replies = client at hstep
  cases hstep with
  | clientWrite n hpos hle _ =>
    by_cases hrest : rest = []
    · rw [hrest, ClientState.wrote_nil] at hclient
      cases hclient
    · rw [ClientState.wrote_of_ne_nil hrest] at hclient
      cases hclient
      have hflight : toServer ++ rest.take n ++ rest.drop n = toServer ++ rest := by
        rw [List.append_assoc, List.take_append_drop]
      refine ⟨_, ?_, .sending hserved rfl (hflight ▸ hreader)⟩
      simp only [List.length_drop, List.length_append, List.length_take_of_le hle]
      omega
  | clientWriteFailed hgone => cases hgone
  | clientRead n hpos _ hle _ =>
    simp only [List.length_nil] at hle
    omega
  | clientReadFailed hgone => cases hgone
  | clientClose =>
    unfold ClientState.wrote at hclient
    split at hclient <;> cases hclient
  | serverRead n hpos hwanted hle =>
    rcases hreader.feed_flight hfits hwanted hle with ⟨r', hmore, hnext⟩ | ⟨hframe, hsent, rfl⟩
    · rw [hmore, ← hclient]
      refine ⟨_, ?_, .sending hserved rfl hnext⟩
      simp only [List.length_drop]
      omega
    · -- the last byte of the request: the server answers
      obtain ⟨reply, s', hout, hhandle, hframes, htype, hreply⟩ := hk.onFrame hserved.mem s
      have hserver : ServerState.writing (makeFrame reply.type frame.requestId reply.payload)
          (.reply s') = k.wrote (makeFrame reply.type frame.requestId reply.payload) (.reply s') :=
        (ServeCall.wrote_of_ne_nil (makeFrame_ne_nil _ _ _) _).symm
      rw [hframe, hout, hsent, ← hclient, ClientState.wrote_nil]
      refine ⟨_, ?_, .replying (hserved.next hhandle hframes) hserver htype hreply
        Reading.expects_start⟩
      have hshort : reply.payload.length ≤ 4096 := hreply
      simp only [length_makeFrame, List.length_nil]
      omega
  | serverReadFailed hclosed =>
    rw [← hclient, ClientState.isDone_wrote] at hclosed
    cases hclosed

theorem synced_of_replying (hk : k.Cooperative requests) {s : LoopState η} {r : Reading}
    {frame : IpcFrameRequest} {later : List IpcFrameRequest} {replies : List IpcReply}
    {reply : IpcReply} {rest toClient : Bytes} {w : Wire η}
    (hserved : Served k st requests s later (replies ++ [reply])) (htype : reply.type ≠ .error)
    (hfits : FitsFrame reply.payload)
    (hreader : r.Expects reply.type frame.requestId reply.payload (toClient ++ rest))
    (hstep : WireStep k ⟨.reading r frame later replies, k.wrote rest (.reply s), [], toClient⟩ w) :
    ∃ m < 2 * rest.length + toClient.length + laterCost later, Synced k st requests m w := by
  have hopen := ServeCall.isDone_wrote hk.session rest s
  generalize hserver : k.wrote rest (.reply s) = server at hstep hopen
  cases hstep with
  | clientRead n hpos hwanted hle _ =>
    rcases hreader.feed_flight hfits hwanted hle with ⟨r', hmore, hnext⟩ | ⟨hframe, hread, rfl⟩
    · rw [hmore, ← hserver]
      refine ⟨_, ?_, .replying hserved rfl htype hfits hnext⟩
      simp only [List.length_drop]
      omega
    · -- the last byte of the reply: the client goes on
      obtain ⟨m, hm, hnext⟩ := synced_next hserved
      rw [hframe, ClientState.received_reply htype, hread, ← hserver,
        ServeCall.wrote_nil hk.session]
      refine ⟨m, ?_, hnext⟩
      simp only [List.length_nil]
      omega
  | clientReadFailed hgone =>
    rw [hgone] at hopen
    cases hopen
  | serverRead n hpos _ hle =>
    simp only [List.length_nil] at hle
    omega
  | serverReadFailed hclosed => cases hclosed
  | serverWrite n hpos hle _ =>
    by_cases hrest : rest = []
    · rw [hrest, ServeCall.wrote_nil hk.session] at hserver
      cases hserver
    · rw [ServeCall.wrote_of_ne_nil hrest] at hserver
      cases hserver
      have hflight : toClient ++ rest.take n ++ rest.drop n = toClient ++ rest := by
        rw [List.append_assoc, List.take_append_drop]
      refine ⟨_, ?_, .replying hserved rfl htype hfits (hflight ▸ hreader)⟩
      simp only [List.length_drop, List.length_append, List.length_take_of_le hle]
      omega
  | serverWriteFailed hclosed => cases hclosed
  | serverDrainEnd hclosed => cases hclosed

/-- Every step leaves the two sides in the same frame, and fewer steps to go. -/
theorem Synced.step (hk : k.Cooperative requests) {n : Nat} {w w' : Wire η}
    (h : Synced k st requests n w) (hstep : WireStep k w w') :
    ∃ m < n, Synced k st requests m w' := by
  cases h with
  | sending hserved hclient hreader =>
    subst hclient
    exact synced_of_sending hk hserved hreader hstep
  | replying hserved hserver htype hfits hreader =>
    subst hserver
    exact synced_of_replying hk hserved htype hfits hreader hstep
  | closing hserved =>
    cases hstep with
    | clientClose => exact ⟨3, by omega, .closed hserved⟩
    | serverRead n hpos _ hle =>
      simp only [List.length_nil] at hle
      omega
    | serverReadFailed hclosed => cases hclosed
  | @closed s replies hserved =>
    cases hstep with
    | serverRead n hpos _ hle =>
      simp only [List.length_nil] at hle
      omega
    | serverReadFailed hclosed =>
      by_cases hframes : s.frames > 0
      · have hend : ServeCall.readFailed s .start = .draining (s.finish .clientClosed) :=
          if_pos hframes
        rw [hend]
        exact ⟨2, by omega, .draining hserved hframes⟩
      · have hend : ServeCall.readFailed s .start = .done (endTrace s) := by
          rw [endTrace, if_neg hframes]
          exact if_neg hframes
        rw [hend]
        exact ⟨1, by omega, .ended hserved⟩
  | @draining s replies hserved hframes =>
    cases hstep with
    | serverDrainEnd hclosed =>
      have hend : s.finish .clientClosed = endTrace s := by
        rw [endTrace, if_pos hframes]
      rw [hend]
      exact ⟨1, by omega, .ended hserved⟩
  | ended hserved => cases hstep

/-- Both sides have returned, and nothing is left on the way. -/
def Returned (k : ServeCall η) (st : η) (requests : List IpcFrameRequest) (w : Wire η) : Prop :=
  ∃ s replies, Served k st requests s [] replies ∧
    w = ⟨.done (.ok replies), .done (endTrace s), [], []⟩

/-- Neither side waits for the other in vain. -/
theorem Synced.returned (hk : k.Cooperative requests) {n : Nat} {w : Wire η}
    (h : Synced k st requests n w) (hstuck : ∀ w', ¬ WireStep k w w') : Returned k st requests w := by
  cases h with
  | @sending s r frame later replies rest toServer client hserved hclient hreader =>
    exfalso
    by_cases hrest : rest = []
    · have hsent : toServer ≠ [] := by
        have hne := hreader.rest_ne_nil
        rwa [hrest, List.append_nil] at hne
      exact hstuck _ (.serverRead 1 (by omega) (hreader.wanted_pos (hk.fits frame hserved.mem))
        (List.length_pos_iff.mpr hsent))
    · rw [hclient, ClientState.wrote_of_ne_nil hrest] at hstuck
      exact hstuck _ (.clientWrite rest.length (List.length_pos_iff.mpr hrest) le_rfl rfl)
  | @replying s r frame later replies reply rest toClient server hserved hserver htype hfits
      hreader =>
    exfalso
    have hopen : server.isDone = false := hserver ▸ ServeCall.isDone_wrote hk.session rest s
    by_cases hrest : rest = []
    · have hsent : toClient ≠ [] := by
        have hne := hreader.rest_ne_nil
        rwa [hrest, List.append_nil] at hne
      exact hstuck _ (.clientRead 1 (by omega) (hreader.wanted_pos hfits)
        (List.length_pos_iff.mpr hsent) hopen)
    · rw [hserver, ServeCall.wrote_of_ne_nil hrest] at hstuck
      exact hstuck _ (.serverWrite rest.length (List.length_pos_iff.mpr hrest) le_rfl rfl)
  | closing hserved => exact absurd .clientClose (hstuck _)
  | closed hserved => exact absurd (.serverReadFailed rfl) (hstuck _)
  | draining hserved hframes => exact absurd (.serverDrainEnd rfl) (hstuck _)
  | @ended s replies hserved => exact ⟨s, replies, hserved, rfl⟩

/-- Every run ends, with both sides back. -/
theorem returned_inevitable (hk : k.Cooperative requests) :
    Inevitable (WireStep k) (Returned k st requests) (Wire.start st requests) := by
  have hserved : Served k st requests { input := [], handlerState := st } requests [] :=
    ⟨[], rfl, .nil, rfl⟩
  obtain ⟨m, _, hstart⟩ := synced_next hserved
  exact inevitable_of_rank (fun n w w' h hstep => h.step hk hstep)
    (fun n w h hstuck => h.returned hk hstuck) hstart

/-! ## Agreement -/

/-- The client has one reply for each request, the handler's, and the server has counted them. -/
structure Agreed (k : ServeCall η) (st : η) (requests : List IpcFrameRequest) (w : Wire η) :
    Prop where
  client : ∃ replies st', w.client = .done (.ok replies) ∧ replies.length = requests.length ∧
    k.AnswersAll st requests replies st'
  server : ∃ t result, w.server = .done t ∧ t.result = .ok result ∧
    result.framesServed.toNat = requests.length ∧ result.endReason = .clientClosed
  toServer : w.toServer = []
  toClient : w.toClient = []

theorem Served.all {s : LoopState η} {replies : List IpcReply}
    (h : Served k st requests s [] replies) :
    k.AnswersAll st requests replies s.handlerState ∧ s.frames = UInt32.ofNat requests.length := by
  obtain ⟨served, hsplit, hanswers, hframes⟩ := h
  rw [List.append_nil] at hsplit
  subst hsplit
  exact ⟨hanswers, hframes⟩

/-- A count that fits the server's counter. -/
theorem Returned.agreed {w : Wire η} (h : Returned k st requests w) (hne : requests ≠ [])
    (hcount : requests.length < 2 ^ 32) : Agreed k st requests w := by
  obtain ⟨s, replies, hserved, rfl⟩ := h
  obtain ⟨hanswers, hframes⟩ := hserved.all
  have hnat : s.frames.toNat = requests.length := by
    rw [hframes, UInt32.toNat_ofNat']
    exact Nat.mod_eq_of_lt hcount
  have hpos : s.frames > 0 := by
    show (0 : UInt32) < s.frames
    rw [UInt32.lt_iff_toNat_lt, hnat]
    exact List.length_pos_iff.mpr hne
  have hend : endTrace s = s.finish .clientClosed := if_pos hpos
  refine ⟨⟨replies, _, rfl, hanswers.length_eq, hanswers⟩, ?_, rfl, rfl⟩
  rw [hend]
  exact ⟨_, _, rfl, rfl, hnat, rfl⟩

/-- A count at which the server's counter is back at zero: the closed pipe is an error then. -/
theorem Returned.not_agreed {w : Wire η} (h : Returned k st requests w)
    (hcount : requests.length % 2 ^ 32 = 0) : ¬ Agreed k st requests w := by
  obtain ⟨s, replies, hserved, rfl⟩ := h
  obtain ⟨_, hframes⟩ := hserved.all
  have hnat : s.frames.toNat = 0 := by
    rw [hframes, UInt32.toNat_ofNat']
    exact hcount
  have hpos : ¬ s.frames > 0 := by
    show ¬ (0 : UInt32) < s.frames
    rw [UInt32.lt_iff_toNat_lt, hnat]
    exact Nat.lt_irrefl 0
  intro hagreed
  obtain ⟨t, result, hserver, hresult, _⟩ := hagreed.server
  cases hserver
  rw [endTrace, if_neg hpos] at hresult
  cases hresult

theorem agreement (hk : k.Cooperative requests) (hne : requests ≠ [])
    (hcount : requests.length < 2 ^ 32) :
    Inevitable (WireStep k) (Agreed k st requests) (Wire.start st requests) :=
  (returned_inevitable hk).mono fun _ h => h.agreed hne hcount

theorem not_inevitable_of_wrap (hk : k.Cooperative requests)
    (hcount : requests.length % 2 ^ 32 = 0) :
    ¬ Inevitable (WireStep k) (Agreed k st requests) (Wire.start st requests) := by
  intro hagreed
  have hreturned : Inevitable (WireStep k) (Returned k st requests) (Wire.start st requests) :=
    returned_inevitable hk
  obtain ⟨w, hreach, hstuck⟩ := hreturned.exists_end
  exact (hreturned.at_end hreach hstuck).not_agreed hcount (hagreed.at_end hreach hstuck)

end Sync

/-- A server that sends each payload back. -/
def echoServer : ServeCall Unit :=
  { options := {}
    handler := some fun request st => (.ok { payload := request.payload }, st)
    mode := .session 1000 5000
    peer := { identity := { pid := 1, sessionId := 1 } } }

theorem echoServer_cooperative {requests : List IpcFrameRequest}
    (hfits : ∀ frame ∈ requests, FitsFrame frame.payload) : echoServer.Cooperative requests := by
  refine ⟨rfl, rfl, hfits, fun frame hmem st => ⟨_, st, rfl, ?_, hfits frame hmem⟩⟩
  intro htype
  cases htype

def exampleRequests : List IpcFrameRequest :=
  [{ requestId := 7 }, { type := .factsSnapshot, requestId := 7, payload := [1, 2, 3] }]

theorem agreement_echo :
    Inevitable (WireStep echoServer) (Agreed echoServer () exampleRequests)
      (Wire.start () exampleRequests) :=
  agreement (echoServer_cooperative (by decide)) (by decide) (by decide)

/-- As many pings as the counter has values. -/
def manyPings : List IpcFrameRequest := List.replicate (2 ^ 32) {}

theorem many_pings_not_counted :
    echoServer.Cooperative manyPings ∧ manyPings ≠ [] ∧
      ¬ Inevitable (WireStep echoServer) (Agreed echoServer () manyPings)
        (Wire.start () manyPings) := by
  have hlength : manyPings.length = 2 ^ 32 := List.length_replicate
  have hk : echoServer.Cooperative manyPings := by
    refine echoServer_cooperative fun frame hmem => ?_
    rw [List.eq_of_mem_replicate hmem]
    decide
  refine ⟨hk, ?_, not_inevitable_of_wrap hk (by rw [hlength, Nat.mod_self])⟩
  intro hnil
  rw [hnil] at hlength
  simp at hlength

end Ipc
end CppOptimizer
