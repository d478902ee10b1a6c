import CppOptimizer.Ipc.Agreement
import CppOptimizer.Ipc.FactsCodec

/-!
# CppOptimizer.Ipc.Client

The client calls `IpcRoundTrip` and `IpcRoundTripSession` (`ipc_session.cpp`) as functions of their
backend, and the frames they hand to `WriteAll`.

* `IpcClientBackend κ` — the injected backend, a state machine over `κ` with arbitrary answers.
* `Client κ`           — its state and the frames written so far. The list is only written to.
* `Accepted`           — the receiver takes the header of a frame, and the payload is as long as the
  header says.

`MakeFrame` takes the length of the payload modulo 2^32 and checks nothing, whereas the server checks
the header of a reply before it sends it. A facts snapshot may have 64 entries and be three times as
long as a frame.
-/

namespace CppOptimizer
namespace Ipc

open Common

/-- `ReadAll` fills the whole buffer or fails. The timeouts of the calls belong to the backend. -/
structure IpcClientBackend (κ : Type) where
  connect : WideText → κ → Result Unit × κ
  writeAll : Bytes → κ → Result Unit × κ
  readAll : (size : Nat) → κ → Result { bytes : Bytes // bytes.length = size } × κ
  close : κ → κ

structure Client (κ : Type) where
  backend : κ
  written : List Bytes := []

namespace Client

variable {κ : Type} (B : IpcClientBackend κ)

def writeAll (c : Client κ) (frame : Bytes) : Result Unit × Client κ :=
  let answer := B.writeAll frame c.backend
  (answer.1, { backend := answer.2, written := c.written ++ [frame] })

def close (c : Client κ) : Client κ := { c with backend := B.close c.backend }

/-- The header of the reply, and its payload if there is one. -/
def readReply (c : Client κ) : Result (IpcHeader × Bytes) × Client κ :=
  match B.readAll kIpcHeaderSize c.backend with
  | (.error e, s) => (.error e, { c with backend := s })
  | (.ok headerBytes, s) =>
    match parseHeader headerBytes.1 with
    | .error e => (.error e, { c with backend := s })
    | .ok header =>
      if header.payloadLength > 0 then
        match B.readAll header.payloadLength.toNat s with
        | (.error e, s) => (.error e, { c with backend := s })
        | (.ok payload, s) => (.ok (header, payload.1), { c with backend := s })
      else (.ok (header, []), { c with backend := s })

/-- The reply must belong to the request; an error reply is a failure. -/
def checkReply (operation : String) (requestId : UInt32) (header : IpcHeader) (payload : Bytes) :
    Result IpcReply :=
  if header.requestId ≠ requestId then
    .error (.validation operation "应答 requestId 与请求不匹配")
  else
    match (parseMessageType header.type).getD .ping with
    | .error =>
      .error (.validation operation
        ("服务端返回错误: " ++ ipcErrorCodeToString (ClientState.errorCode payload)))
    | type => .ok { type := type, payload := payload }

/-- One request and its reply, without the `Close` that follows. -/
def exchange (operation : String) (c : Client κ) (frame : IpcFrameRequest) :
    Result IpcReply × Client κ :=
  match c.writeAll B frame.bytes with
  | (.error e, c) => (.error e, c)
  | (.ok (), c) =>
    match c.readReply B with
    | (.error e, c) => (.error e, c)
    | (.ok (header, payload), c) => (checkReply operation frame.requestId header payload, c)

def ipcRoundTrip (c : Client κ) (pipePath : WideText) (type : IpcMessageType) (payload : Bytes)
    (requestId : UInt32) : Result IpcReply × Client κ :=
  match B.connect pipePath c.backend with
  | (.error e, s) => (.error e, { c with backend := s })
  | (.ok (), s) =>
    let answer := exchange B "IpcRoundTrip" { c with backend := s }
      { type := type, requestId := requestId, payload := payload }
    (answer.1, answer.2.close B)

/-- The loop over the requests. -/
def sessionLoop : List IpcFrameRequest → List IpcReply → Client κ →
    Result (List IpcReply) × Client κ
  | [], replies, c => (.ok replies, c.close B)
  | frame :: later, replies, c =>
    match exchange B "IpcRoundTripSession" c frame with
    | (.error e, c) => (.error e, c.close B)
    | (.ok reply, c) => sessionLoop later (replies ++ [reply]) c

def ipcRoundTripSession (c : Client κ) (pipePath : WideText) (requests : List IpcFrameRequest) :
    Result (List IpcReply) × Client κ :=
  if requests = [] then (.ok [], c)
  else
    match B.connect pipePath c.backend with
    | (.error e, s) => (.error e, { c with backend := s })
    | (.ok (), s) => sessionLoop B requests [] { c with backend := s }

/-! ## What is written -/

variable {B}

theorem readReply_written (c : Client κ) : (c.readReply B).2.written = c.written := by
  unfold readReply
  repeat' split
  all_goals rfl

theorem exchange_written (operation : String) (c : Client κ) (frame : IpcFrameRequest) :
    (exchange B operation c frame).2.written = c.written ++ [frame.bytes] := by
  unfold exchange
  rcases hwrite : c.writeAll B frame.bytes with ⟨e | u, d⟩
  · exact congrArg (fun r => r.2.written) hwrite.symm
  · have hd : d.written = c.written ++ [frame.bytes] :=
      congrArg (fun r => r.2.written) hwrite.symm
    have hread := readReply_written (B := B) d
    simp only
    rcases hreply : d.readReply B with ⟨e | ⟨header, payload⟩, c'⟩
    · rw [hreply] at hread
      exact hread.trans hd
    · rw [hreply] at hread
      exact hread.trans hd

/-- Only frames of the requests are written. -/
theorem mem_sessionLoop_written {requests : List IpcFrameRequest} {replies : List IpcReply}
    {c : Client κ} {bytes : Bytes} (h : bytes ∈ (sessionLoop B requests replies c).2.written) :
    bytes ∈ c.written ∨ ∃ frame ∈ requests, bytes = frame.bytes := by
  induction requests generalizing replies c with
  | nil => exact .inl h
  | cons frame later ih =>
    have hwritten := exchange_written (B := B) "IpcRoundTripSession" c frame
    have hfirst : ∀ d : Client κ, d.written = c.written ++ [frame.bytes] → bytes ∈ d.written →
        bytes ∈ c.written ∨ ∃ f ∈ frame :: later, bytes = f.bytes := by
      intro d hd hmem
      rw [hd, List.mem_append, List.mem_singleton] at hmem
      rcases hmem with hmem | rfl
      · exact .inl hmem
      · exact .inr ⟨frame, List.mem_cons_self, rfl⟩
    rw [sessionLoop] at h
    rcases hr : exchange B "IpcRoundTripSession" c frame with ⟨e | reply, d⟩
    · rw [hr] at h hwritten
      exact hfirst d hwritten h
    · rw [hr] at h hwritten
      rcases ih h with hmem | ⟨f, hf, rfl⟩
      · exact hfirst d hwritten hmem
      · exact .inr ⟨f, List.mem_cons_of_mem _ hf, rfl⟩

end Client

/-! ## What the receiver takes -/

def Accepted (frame : Bytes) : Prop :=
  ∃ header, parseHeader (frame.take kIpcHeaderSize) = .ok header ∧
    (frame.drop kIpcHeaderSize).length = header.payloadLength.toNat

theorem take_makeFrame (type : IpcMessageType) (requestId : UInt32) (payload : Bytes) :
    (makeFrame type requestId payload).take kIpcHeaderSize =
      serializeHeader (frameHeader type requestId payload) :=
  List.take_left' (length_serializeHeader _)

theorem drop_makeFrame (type : IpcMessageType) (requestId : UInt32) (payload : Bytes) :
    (makeFrame type requestId payload).drop kIpcHeaderSize = payload :=
  List.drop_left' (length_serializeHeader _)

/-- A header that announces too much is refused. -/
theorem parseHeader_tooLong {type : IpcMessageType} {payloadLength requestId : UInt32}
    (h : payloadLength > kMaxPayloadLength) :
    parseHeader (serializeHeader (makeIpcHeader type payloadLength requestId)) =
      .error (.validation "ValidateIpcHeader" "载荷超过上限") := by
  have hinvalid : validateIpcHeader (makeIpcHeader type payloadLength requestId) =
      .error (.validation "ValidateIpcHeader" "载荷超过上限") := by
    simp [validateIpcHeader, makeIpcHeader, h]
  rw [parseHeader_serialize, hinvalid]
  rfl

theorem makeFrame_accepted_iff (type : IpcMessageType) (requestId : UInt32) (payload : Bytes) :
    Accepted (makeFrame type requestId payload) ↔ FitsFrame payload := by
  unfold Accepted
  rw [take_makeFrame, drop_makeFrame]
  constructor
  · rintro ⟨header, hparse, hlength⟩
    by_cases hlong : UInt32.ofNat payload.length > kMaxPayloadLength
    · rw [frameHeader, parseHeader_tooLong hlong] at hparse
      cases hparse
    · have hle : UInt32.ofNat payload.length ≤ kMaxPayloadLength := UInt32.not_lt.mp hlong
      rw [frameHeader, parseHeader_serializeHeader hle] at hparse
      cases hparse
      rw [FitsFrame, hlength]
      exact UInt32.le_iff_toNat_le.mp hle
  · intro hfits
    exact ⟨_, hfits.parse type requestId, hfits.toNat_length.symm⟩

/-! ## A backend that answers everything -/

/-- It acknowledges the requests with the given numbers, one after another. -/
def obliging : IpcClientBackend (List UInt32) where
  connect _ ids := (.ok (), ids)
  writeAll _ ids := (.ok (), ids)
  readAll size ids :=
    match ids with
    | [] => (.error (.fromWin32 errorBrokenPipe "ReadFile"), [])
    | id :: ids =>
      if h : size = kIpcHeaderSize then
        (.ok ⟨serializeHeader (makeIpcHeader .ack 0 id), by rw [h]; rfl⟩, ids)
      else (.error (.fromWin32 errorBrokenPipe "ReadFile"), ids)
  close ids := ids

theorem exchange_obliging (operation : String) (frame : IpcFrameRequest) (ids : List UInt32)
    (written : List Bytes) :
    Client.exchange obliging operation
        { backend := frame.requestId :: ids, written := written } frame =
      (.ok { type := .ack, payload := [] },
        { backend := ids, written := written ++ [frame.bytes] }) := by
  have hparse : parseHeader (serializeHeader (makeIpcHeader .ack 0 frame.requestId)) =
      .ok (makeIpcHeader .ack 0 frame.requestId) := parseHeader_serializeHeader (by decide)
  have hreply : Client.checkReply operation frame.requestId
      (makeIpcHeader .ack 0 frame.requestId) [] = .ok { type := .ack, payload := [] } := by
    simp [Client.checkReply, makeIpcHeader]
  simp only [Client.exchange, Client.writeAll, Client.readReply, obliging, dif_pos, hparse]
  rw [if_neg (by simp [makeIpcHeader])]
  exact congrArg (fun reply => (reply, _)) hreply

theorem sessionLoop_obliging (requests : List IpcFrameRequest) (replies : List IpcReply)
    (written : List Bytes) :
    (Client.sessionLoop obliging requests replies
        { backend := requests.map (·.requestId), written := written }).2.written =
      written ++ requests.map IpcFrameRequest.bytes := by
  induction requests generalizing replies written with
  | nil => simp [Client.sessionLoop, Client.close]
  | cons frame later ih =>
    rw [Client.sessionLoop, List.map_cons, exchange_obliging]
    simp only
    rw [ih, List.map_cons, List.append_assoc, List.singleton_append]

/-! ## Frames the receiver takes -/

/-- Whatever the backend answers, each frame the call writes is accepted. -/
def RoundTripSafe (type : IpcMessageType) (requestId : UInt32) (payload : Bytes) : Prop :=
  ∀ (κ : Type) (B : IpcClientBackend κ) (s : κ) (pipePath : WideText),
    ∀ frame ∈ (Client.ipcRoundTrip B { backend := s } pipePath type payload requestId).2.written,
      Accepted frame

def SessionSafe (requests : List IpcFrameRequest) : Prop :=
  ∀ (κ : Type) (B : IpcClientBackend κ) (s : κ) (pipePath : WideText),
    ∀ frame ∈ (Client.ipcRoundTripSession B { backend := s } pipePath requests).2.written,
      Accepted frame

theorem roundTripSafe_iff (type : IpcMessageType) (requestId : UInt32) (payload : Bytes) :
    RoundTripSafe type requestId payload ↔ FitsFrame payload := by
  constructor
  · intro h
    rw [← makeFrame_accepted_iff type requestId]
    refine h (List UInt32) obliging [] [] _ ?_
    have hwritten := Client.exchange_written (B := obliging) "IpcRoundTrip" { backend := [] }
      { type := type, requestId := requestId, payload := payload }
    show makeFrame type requestId payload ∈
      (Client.exchange obliging "IpcRoundTrip" { backend := [] }
        { type := type, requestId := requestId, payload := payload }).2.written
    rw [hwritten]
    exact List.mem_singleton_self _
  · intro hfits κ B s pipePath frame hframe
    rw [Client.ipcRoundTrip] at hframe
    rcases hconnect : B.connect pipePath s with ⟨e | u, s'⟩
    · rw [hconnect] at hframe
      exact absurd hframe List.not_mem_nil
    · rw [hconnect] at hframe
      simp only [Client.close] at hframe
      rw [Client.exchange_written, List.nil_append, List.mem_singleton] at hframe
      rw [hframe]
      exact (makeFrame_accepted_iff type requestId payload).mpr hfits

theorem sessionSafe_iff (requests : List IpcFrameRequest) :
    SessionSafe requests ↔ ∀ frame ∈ requests, FitsFrame frame.payload := by
  constructor
  · intro h frame hframe
    rw [← makeFrame_accepted_iff frame.type frame.requestId]
    refine h (List UInt32) obliging (requests.map (·.requestId)) [] _ ?_
    have hne : requests ≠ [] := List.ne_nil_of_mem hframe
    rw [Client.ipcRoundTripSession, if_neg hne]
    simp only [obliging]
    have hwritten := sessionLoop_obliging requests [] []
    simp only [obliging] at hwritten
    rw [hwritten]
    exact List.mem_map.mpr ⟨frame, hframe, rfl⟩
  · intro hfits κ B s pipePath bytes hbytes
    rw [Client.ipcRoundTripSession] at hbytes
    split at hbytes
    · exact absurd hbytes List.not_mem_nil
    · rcases hconnect : B.connect pipePath s with ⟨e | u, s'⟩
      · rw [hconnect] at hbytes
        exact absurd hbytes List.not_mem_nil
      · rw [hconnect] at hbytes
        rcases Client.mem_sessionLoop_written hbytes with hmem | ⟨frame, hframe, rfl⟩
        · exact absurd hmem List.not_mem_nil
        · exact (makeFrame_accepted_iff _ _ _).mpr (hfits frame hframe)

/-- The bytes of a snapshot: the envelope and a line for each fact. -/
def factsLength (facts : List IpcFact) : Nat :=
  11 + (facts.map fun fact => fact.key.length + fact.value.length + 2).sum

theorem length_serializeFactsV1 {facts : List IpcFact} {payload : Bytes}
    (h : serializeFactsV1 facts = .ok payload) : payload.length = factsLength facts := by
  have hlines : ∀ fs : List IpcFact, (fs.flatMap fun fact => 0x0A :: fact.line).length =
      (fs.map fun fact => fact.key.length + fact.value.length + 2).sum := by
    intro fs
    induction fs with
    | nil => rfl
    | cons fact fs ih =>
      rw [List.flatMap_cons, List.length_append, ih, List.map_cons, List.sum_cons]
      simp only [IpcFact.line, List.length_cons, List.length_append]
      omega
  have henvelope : kFactsEnvelopeV1.length = 11 := by decide
  unfold serializeFactsV1 at h
  split at h
  · cases h
  · cases h
    rw [List.length_append, hlines, henvelope, factsLength]

/-- The client calls write only frames that are accepted exactly if every payload fits a frame, and a
snapshot that can be serialized can be sent and read exactly if it does. -/
theorem client_frames_accepted_iff (type : IpcMessageType) (requestId : UInt32) (payload : Bytes)
    (requests : List IpcFrameRequest) (facts : List IpcFact) :
    (RoundTripSafe type requestId payload ↔ payload.length ≤ 4096) ∧
    (SessionSafe requests ↔ ∀ frame ∈ requests, frame.payload.length ≤ 4096) ∧
    (serializeFactsV1 facts = .ok payload →
      (RoundTripSafe .factsSnapshot requestId payload ∧ parseFactsV1 payload = .ok facts ↔
        factsLength facts ≤ 4096)) := by
  refine ⟨roundTripSafe_iff .., sessionSafe_iff requests, fun h => ?_⟩
  have hparse : parseFactsV1 payload = .ok facts :=
    parseFactsV1_eq_ok.mpr (serializeFactsV1_eq_ok.mp h)
  rw [← length_serializeFactsV1 h, roundTripSafe_iff]
  exact ⟨fun hsafe => hsafe.1, fun hfits => ⟨hfits, hparse⟩⟩

theorem small_snapshot_sent :
    factsLength [{ key := ascii "pid", value := ascii "4" }] = 17 ∧
      RoundTripSafe .factsSnapshot 1 (kFactsEnvelopeV1 ++ ascii "\npid=4") := by
  refine ⟨by decide +kernel, ?_⟩
  have hok : serializeFactsV1 [{ key := ascii "pid", value := ascii "4" }] =
      .ok (kFactsEnvelopeV1 ++ ascii "\npid=4") := by
    decide +kernel
  exact (((client_frames_accepted_iff .ping 1 _ [] _).2.2 hok).mpr (by decide +kernel)).1

/-- 32 entries with values of the allowed length. -/
def bulkyFacts : List IpcFact :=
  (List.range 32).map fun i =>
    { key := ascii ("fact_" ++ toString i), value := List.replicate 128 0x61 }

theorem bulkyFacts_wellFormed : WellFormed bulkyFacts := by
  rw [← validateFacts_eq_none]
  decide +kernel

/-- A payload one byte too long, and a snapshot that is serialized but cannot be sent. -/
theorem oversized_frames_written :
    ¬ RoundTripSafe .ping 1 (List.replicate 4097 0) ∧
      ∃ payload, serializeFactsV1 bulkyFacts = .ok payload ∧
        ¬ RoundTripSafe .factsSnapshot 1 payload := by
  refine ⟨?_, _, serializeFactsV1_eq_ok.mpr ⟨bulkyFacts_wellFormed, rfl⟩, ?_⟩
  · rw [roundTripSafe_iff, FitsFrame, List.length_replicate]
    decide
  · rw [roundTripSafe_iff, FitsFrame,
      length_serializeFactsV1 (serializeFactsV1_eq_ok.mpr ⟨bulkyFacts_wellFormed, rfl⟩)]
    decide +kernel

end Ipc
end CppOptimizer
