import CppOptimizer.Ipc.Verdict
import CppOptimizer.Lib.Strings

/-!
# CppOptimizer.Ipc.Authorization

Who reaches the handler, and which snapshot is acknowledged.

* `Authorized`     — the gate and the SID list, each by itself.
* `FactsAccepted`  — grammar, schema and token of a snapshot.
* `transcript`     — the turns of a call: the frame that was read, the request of the handler and its
  reply, the bytes that were sent. `CutFrom` finds the frames in what the client sends.
* `TurnAuthorized` — what is owed to each of them.
-/

namespace CppOptimizer
namespace Ipc

open Common Lib

structure Authorized (o : Options) (identity : IpcClientIdentity) : Prop where
  gate : ∀ gate, o.clientGate = some gate → gate identity = .ok ()
  sid : o.allowedClientSids ≠ [] →
    ∃ sid ∈ o.allowedClientSids, identity.userSid.map towlower = sid.map towlower

/-- A snapshot that may be acknowledged. -/
def FactsAccepted (expectedToken : WideText) (payload : Bytes) : Prop :=
  ∃ facts, parseFactsV1 payload = .ok facts ∧ validateFactsV1Schema facts = .ok () ∧
    (expectedToken ≠ [] → ∃ fact ∈ facts, fact.key = kFactsTokenKey ∧
      fact.value.map UInt8.toUInt16 = expectedToken)

/-! ## Gate, SID and token -/

theorem sidEqualsIgnoreCase_iff {a b : WideText} :
    sidEqualsIgnoreCase a b = true ↔ a.map towlower = b.map towlower := by
  rw [← zip_all_iff]
  simp [sidEqualsIgnoreCase]

/-- A token that matches is the expected one, byte for byte. -/
theorem tokenMatches_eq {token : Bytes} {expected : WideText}
    (h : tokenMatches token expected = true) : token.map UInt8.toUInt16 = expected := by
  have hzip := (zip_all_iff UInt8.toUInt16 id token expected).mp
  rw [List.map_id] at hzip
  simp only [tokenMatches, Bool.and_eq_true, beq_iff_eq, List.all_eq_true] at h
  exact hzip ⟨h.1, fun p hp => (h.2 p hp).2⟩

theorem any_sid_iff {sids : List WideText} {userSid : WideText} :
    sids.any (sidEqualsIgnoreCase userSid) = true ↔
      ∃ sid ∈ sids, userSid.map towlower = sid.map towlower := by
  rw [List.any_eq_true]
  constructor
  · rintro ⟨sid, hmem, heq⟩
    exact ⟨sid, hmem, sidEqualsIgnoreCase_iff.mp heq⟩
  · rintro ⟨sid, hmem, heq⟩
    exact ⟨sid, hmem, sidEqualsIgnoreCase_iff.mpr heq⟩

/-- The check of the SID list, after the gate. -/
theorem sidList_ok_iff {sids : List WideText} {userSid : WideText} {e : Error} :
    (if sids ≠ [] ∧ ¬ sids.any (sidEqualsIgnoreCase userSid) then (.error e : Result Unit)
      else .ok ()) = .ok () ↔
      (sids ≠ [] → ∃ sid ∈ sids, userSid.map towlower = sid.map towlower) := by
  rw [← any_sid_iff]
  by_cases hcond : sids ≠ [] ∧ ¬ sids.any (sidEqualsIgnoreCase userSid)
  · rw [if_pos hcond]
    constructor
    · intro h
      cases h
    · intro h
      exact absurd (h hcond.1) hcond.2
  · rw [if_neg hcond]
    constructor
    · intro _ hne
      by_contra hno
      exact hcond ⟨hne, hno⟩
    · intro _
      rfl

theorem authorize_ok_iff {o : Options} {identity : IpcClientIdentity} :
    o.authorize identity = .ok () ↔ Authorized o identity := by
  unfold Options.authorize
  cases hgate : o.clientGate with
  | none =>
    dsimp only
    rw [sidList_ok_iff]
    constructor
    · intro h
      refine ⟨?_, h⟩
      intro gate hg
      rw [hgate] at hg
      cases hg
    · intro h
      exact h.sid
  | some gate =>
    dsimp only
    rcases hres : gate identity with e | u
    · dsimp only
      constructor
      · intro h
        cases h
      · intro h
        have := h.gate gate hgate
        rw [hres] at this
        cases this
    · dsimp only
      rw [sidList_ok_iff]
      constructor
      · intro h
        refine ⟨?_, h⟩
        intro gate' hg
        rw [hgate] at hg
        cases hg
        exact hres
      · intro h
        exact h.sid

/-- A reply of type `Error` with its code. -/
def IpcReply.IsError (reply : IpcReply) : Prop :=
  ∃ code : IpcErrorCode, reply = { type := .error, payload := [code.toByte] }

/-- What the default handler answers to a snapshot. -/
theorem defaultHandler_facts {expectedToken : WideText} {request : IpcRequest} {reply : IpcReply}
    (h : defaultHandler expectedToken request = .ok reply) (htype : request.type = .factsSnapshot) :
    (reply.type = .ack ∧ FactsAccepted expectedToken request.payload) ∨ reply.IsError := by
  unfold defaultHandler at h
  simp only [htype] at h
  split at h
  · cases h
    exact .inr ⟨.invalidFacts, rfl⟩
  · case _ facts hparse =>
    split at h
    · cases h
      exact .inr ⟨.invalidFacts, rfl⟩
    · case _ hschema =>
      split at h
      · cases h
        exact .inr ⟨.authFailed, rfl⟩
      · case _ htoken =>
        cases h
        refine .inl ⟨rfl, facts, hparse, hschema, ?_⟩
        intro hne
        rw [not_and, not_not] at htoken
        obtain ⟨fact, hfact, hmatch⟩ := List.any_eq_true.mp (htoken hne)
        rw [Bool.and_eq_true, beq_iff_eq] at hmatch
        exact ⟨fact, hfact, hmatch.1, tokenMatches_eq hmatch.2⟩

/-! ## What shows of a call -/

/-- The bytes of `SendErrorReply`. -/
def errorFrame (requestId : UInt32) (code : IpcErrorCode) : Bytes :=
  makeFrame .error requestId [code.toByte]

/-- The bytes of a reply, if its header is valid. -/
def replyFrame (requestId : UInt32) (reply : IpcReply) : Option Bytes :=
  match validateIpcHeader
      (makeIpcHeader reply.type (UInt32.ofNat reply.payload.length) requestId) with
  | .error _ => none
  | .ok () => some (makeFrame reply.type requestId reply.payload)

/-- A turn of the loop as it shows outside: the frame that was read, the request the handler was run
on, its reply, and what `SendErrorReply` was called with. -/
structure TurnLog where
  frame : Option Frame := none
  handled : Option IpcRequest := none
  reply : Option IpcReply := none
  error : Option (UInt32 × IpcErrorCode) := none

namespace TurnLog

def exchange (t : TurnLog) : Option (IpcRequest × IpcReply) :=
  t.handled.bind fun request => t.reply.map (request, ·)

/-- The bytes that are handed to `WriteAll`, whether or not they get through. -/
def sent (t : TurnLog) : Option Bytes :=
  match t.error with
  | some e => some (errorFrame e.1 e.2)
  | none => t.frame.bind fun f => t.reply.bind (replyFrame f.header.requestId)

end TurnLog

/-- These frames stand at the front of the bytes, one behind the other. -/
def CutFrom : Bytes → List Frame → Prop
  | _, [] => True
  | input, f :: frames =>
    kIpcHeaderSize ≤ input.length ∧
      parseHeader (input.take kIpcHeaderSize) = .ok f.header ∧
      f.header.payloadLength.toNat ≤ (input.drop kIpcHeaderSize).length ∧
      f.payload = (input.drop kIpcHeaderSize).take f.header.payloadLength.toNat ∧
      CutFrom ((input.drop kIpcHeaderSize).drop f.header.payloadLength.toNat) frames

namespace ServeCall

variable {η : Type} (k : ServeCall η)

def turnLog (s : LoopState η) : TurnLog :=
  match k.receive s with
  | .finished _ => {}
  | .failed _ errorCodes => { error := errorCodes.head? }
  | .frame f =>
    match k.options.authorize k.peer.identity with
    | .error _ => { frame := some f, error := some (f.header.requestId, .unauthorizedClient) }
    | .ok () =>
      match k.handle (k.request f) s.handlerState with
      | (.error _, _) =>
        { frame := some f
          handled := some (k.request f)
          error := some (f.header.requestId,
            if k.handler.isSome then .handlerFailed else .unsupportedType) }
      | (.ok reply, _) =>
        { frame := some f, handled := some (k.request f), reply := some reply }

/-- The turns of the loop, as `serveFrames` takes them. -/
def transcriptFrom : Nat → LoopState η → List TurnLog
  | 0, _ => []
  | fuel + 1, s =>
    k.turnLog s ::
      match k.serveFrame s with
      | .ended _ => []
      | .served s' => if k.LimitReached s' then [] else transcriptFrom fuel s'

def transcript (st : η) : List TurnLog :=
  match k.accepted with
  | .error _ => []
  | .ok () => k.transcriptFrom (k.peer.input.length + 1) (k.start st)

/-! ## The turns of a call -/

section Turns

variable {k} {s : LoopState η}

/-- A header that is refused is answered under the id `0`. -/
theorem receive_failed {e : Error} {errorCodes : List (UInt32 × IpcErrorCode)}
    (h : k.receive s = .failed e errorCodes) :
    errorCodes = [] ∨ errorCodes = [(0, .invalidHeader)] := by
  unfold receive at h
  split at h
  · split at h <;> cases h
    exact .inl rfl
  · split at h
    · split at h
      · cases h
      · split at h <;> cases h
        exact .inl rfl
    · split at h
      · cases h
        exact .inr rfl
      · split at h
        · split at h <;> cases h
          exact .inl rfl
        · cases h

/-- What is owed to a turn: the handler runs on the frame that was read, and for a client that is let
in; bytes sent in answer to a snapshot are an acknowledgement of accepted facts, or an error; and
without a frame nothing but an error is sent. -/
structure TurnAuthorized (o : Options) (identity : IpcClientIdentity) (t : TurnLog) : Prop where
  ran : ∀ request, t.handled = some request → Authorized o identity ∧
    ∃ f, t.frame = some f ∧ parseMessageType f.header.type = some request.type ∧
      request.requestId = f.header.requestId ∧ request.payload = f.payload
  snapshot : ∀ f, t.frame = some f → parseMessageType f.header.type = some .factsSnapshot →
    ∀ bytes, t.sent = some bytes →
      (t.handled.isSome = true ∧ FactsAccepted o.expectedToken f.payload ∧
        ∃ payload, bytes = makeFrame .ack f.header.requestId payload) ∨
      ∃ code, bytes = errorFrame f.header.requestId code
  unread : t.frame = none → t.handled = none ∧
    ∀ bytes, t.sent = some bytes → ∃ code, bytes = errorFrame 0 code

theorem known_of_valid {header : IpcHeader} (h : validateIpcHeader header = .ok ()) :
    ∃ type, parseMessageType header.type = some type := by
  unfold validateIpcHeader at h
  cases htype : parseMessageType header.type with
  | some type => exact ⟨type, rfl⟩
  | none =>
    rw [htype] at h
    split at h
    · cases h
    · split at h
      · cases h
      · rw [if_pos rfl] at h
        cases h

theorem receive_type {f : Frame} (h : k.receive s = .frame f) :
    parseMessageType f.header.type = some (k.request f).type := by
  obtain ⟨_, hparse, _⟩ := receive_frame h
  obtain ⟨type, htype⟩ := known_of_valid (eq_serializeHeader_of_parse hparse).1
  rw [htype, request, htype]
  rfl

theorem replyFrame_some {requestId : UInt32} {reply : IpcReply} {bytes : Bytes}
    (h : replyFrame requestId reply = some bytes) :
    bytes = makeFrame reply.type requestId reply.payload := by
  unfold replyFrame at h
  split at h
  · cases h
  · exact (Option.some.inj h).symm

theorem turnLog_authorized (hdefault : k.handler = none) (s : LoopState η) :
    TurnAuthorized k.options k.peer.identity (k.turnLog s) := by
  unfold turnLog
  cases hrecv : k.receive s with
  | finished reason =>
    exact ⟨(fun _ h => by cases h), (fun _ h => by cases h), fun _ => ⟨rfl, (fun _ h => by cases h)⟩⟩
  | failed e errorCodes =>
    refine ⟨(fun _ h => by cases h), (fun _ h => by cases h), fun _ => ⟨rfl, fun bytes h => ?_⟩⟩
    rcases receive_failed hrecv with rfl | rfl
    · cases h
    · exact ⟨.invalidHeader, (Option.some.inj h).symm⟩
  | frame f =>
    have htype := receive_type hrecv
    dsimp only
    cases hauth : k.options.authorize k.peer.identity with
    | error e =>
      refine ⟨(fun _ h => by cases h), fun f' hf _ bytes h => .inr ⟨.unauthorizedClient, ?_⟩,
        (fun h => by cases h)⟩
      rw [← Option.some.inj hf]
      exact (Option.some.inj h).symm
    | ok u =>
      have hlet := authorize_ok_iff.mp hauth
      have hhandle : k.handle (k.request f) s.handlerState =
          (defaultHandler k.options.expectedToken (k.request f), s.handlerState) := by
        simp only [handle, hdefault]
      dsimp only
      rw [hhandle]
      cases hreply : defaultHandler k.options.expectedToken (k.request f) with
      | error e =>
        refine ⟨fun request h => ⟨hlet, f, rfl, ?_⟩, fun f' hf _ bytes h => .inr
          ⟨if k.handler.isSome then .handlerFailed else .unsupportedType, ?_⟩,
          (fun h => by cases h)⟩
        · rw [← Option.some.inj h]
          exact ⟨htype, rfl, rfl⟩
        · rw [← Option.some.inj hf]
          exact (Option.some.inj h).symm
      | ok reply =>
        refine ⟨fun request h => ⟨hlet, f, rfl, ?_⟩, fun f' hf hfacts bytes h => ?_,
          (fun h => by cases h)⟩
        · rw [← Option.some.inj h]
          exact ⟨htype, rfl, rfl⟩
        · obtain rfl := Option.some.inj hf
          have hbytes := replyFrame_some h
          have hsnapshot : (k.request f).type = .factsSnapshot :=
            Option.some.inj (htype.symm.trans hfacts)
          rcases defaultHandler_facts hreply hsnapshot with ⟨hack, haccepted⟩ | ⟨code, rfl⟩
          · exact .inl ⟨rfl, haccepted, reply.payload, hack ▸ hbytes⟩
          · exact .inr ⟨code, hbytes⟩

/-- What a turn shows and what it does to the loop are one thing: the frame comes off the front of the
input, the reply of the handler and the error codes are the ones that are noted. -/
theorem serveFrame_ended {t : ServeTrace η} (h : k.serveFrame s = .ended t) :
    CutFrom s.input (k.turnLog s).frame.toList ∧
      t.produced = s.produced ++ (k.turnLog s).exchange.toList ∧
      t.errorCodes = (k.turnLog s).error.toList := by
  have hcut : ∀ f, k.receive s = .frame f → CutFrom s.input [f] := by
    intro f hf
    obtain ⟨hheader, hparse, hpayload, heq, -⟩ := receive_frame hf
    exact ⟨hheader, hparse, hpayload, heq, trivial⟩
  unfold serveFrame at h
  unfold turnLog
  cases hrecv : k.receive s with
  | finished reason =>
    rw [hrecv] at h
    cases h
    exact ⟨trivial, (List.append_nil _).symm, rfl⟩
  | failed e errorCodes =>
    rw [hrecv] at h
    cases h
    refine ⟨trivial, (List.append_nil _).symm, ?_⟩
    rcases receive_failed hrecv with rfl | rfl
    · rfl
    · rfl
  | frame f =>
    rw [hrecv] at h
    dsimp only at h ⊢
    cases hauth : k.options.authorize k.peer.identity with
    | error e =>
      rw [hauth] at h
      cases h
      exact ⟨hcut f hrecv, (List.append_nil _).symm, rfl⟩
    | ok u =>
      rw [hauth] at h
      dsimp only at h ⊢
      rcases hhandle : k.handle (k.request f) s.handlerState with ⟨e | reply, st⟩
      · rw [hhandle] at h
        cases h
        exact ⟨hcut f hrecv, (List.append_nil _).symm, rfl⟩
      · rw [hhandle] at h
        dsimp only at h
        split at h
        · cases h
          exact ⟨hcut f hrecv, rfl, rfl⟩
        · cases h

theorem serveFrame_served {s' : LoopState η} (h : k.serveFrame s = .served s') :
    ∃ f, (k.turnLog s).frame = some f ∧
      (∀ frames, CutFrom s'.input frames → CutFrom s.input (f :: frames)) ∧
      s'.produced = s.produced ++ (k.turnLog s).exchange.toList ∧ (k.turnLog s).error = none := by
  have hcase := k.serveFrame_cases s
  rw [h] at hcase
  cases hcase with
  | @served f reply st ha _ =>
    obtain ⟨hrecv, hauth, hhandle⟩ := ha
    obtain ⟨hheader, hparse, hpayload, heq, hrest⟩ := receive_frame hrecv
    have hlog : k.turnLog s =
        { frame := some f, handled := some (k.request f), reply := some reply } := by
      unfold turnLog
      rw [hrecv]
      dsimp only
      rw [hauth]
      dsimp only
      rw [hhandle]
    rw [hlog]
    refine ⟨f, rfl, fun frames hframes => ⟨hheader, hparse, hpayload, heq, ?_⟩, rfl, rfl⟩
    rw [← hrest]
    exact hframes

/-- The transcript of a run of the loop. -/
structure Transcribes (k : ServeCall η) (s : LoopState η) (turns : List TurnLog)
    (t : ServeTrace η) : Prop where
  cut : CutFrom s.input (turns.filterMap TurnLog.frame)
  produced : t.produced = s.produced ++ turns.filterMap TurnLog.exchange
  errorCodes : t.errorCodes = turns.filterMap TurnLog.error
  authorized : k.handler = none → ∀ turn ∈ turns, TurnAuthorized k.options k.peer.identity turn

theorem transcribes_one {t : ServeTrace η} (hcut : CutFrom s.input (k.turnLog s).frame.toList)
    (hproduced : t.produced = s.produced ++ (k.turnLog s).exchange.toList)
    (hcodes : t.errorCodes = (k.turnLog s).error.toList) :
    Transcribes k s [k.turnLog s] t := by
  have hone : ∀ {β : Type} (f : TurnLog → Option β),
      [k.turnLog s].filterMap f = (f (k.turnLog s)).toList := by
    intro β f
    cases hf : f (k.turnLog s) <;> simp [hf]
  refine ⟨?_, ?_, ?_, fun hdefault turn hturn => ?_⟩
  · rw [hone]
    exact hcut
  · rw [hone]
    exact hproduced
  · rw [hone]
    exact hcodes
  · rw [List.mem_singleton.mp hturn]
    exact turnLog_authorized hdefault s

theorem serveFrames_transcribes (fuel : Nat) (s : LoopState η) :
    Transcribes k s (k.transcriptFrom fuel s) (k.serveFrames fuel s) := by
  induction fuel generalizing s with
  | zero =>
    exact ⟨trivial, (List.append_nil _).symm, rfl,
      fun _ turn hturn => absurd hturn List.not_mem_nil⟩
  | succ fuel ih =>
    rw [transcriptFrom, serveFrames]
    rcases hturn : k.serveFrame s with t | s'
    · obtain ⟨hcut, hproduced, hcodes⟩ := serveFrame_ended hturn
      exact transcribes_one hcut hproduced hcodes
    · obtain ⟨f, hframe, hcut, hproduced, hquiet⟩ := serveFrame_served hturn
      dsimp only
      split
      · refine transcribes_one ?_ hproduced ?_
        · rw [hframe]
          exact hcut [] trivial
        · rw [hquiet]
          rfl
      · obtain ⟨hrest, hnoted, hcodes, hauthorized⟩ := ih s'
        refine ⟨?_, ?_, ?_, fun hdefault turn hmem => ?_⟩
        · rw [List.filterMap_cons, hframe]
          exact hcut _ hrest
        · rw [hnoted, hproduced, List.append_assoc, List.filterMap_cons]
          cases (k.turnLog s).exchange <;> rfl
        · rw [hcodes, List.filterMap_cons, hquiet]
        · rcases List.mem_cons.mp hmem with rfl | hmem
          · exact turnLog_authorized hdefault s
          · exact hauthorized hdefault turn hmem

end Turns

/-- `ServeOne` or `ServeSession` with the default handler. -/
def withDefault (options : Options) (mode : ServeMode) (peer : Peer) : ServeCall Unit :=
  { options := options, handler := none, mode := mode, peer := peer }

/-- For every client and every byte it sends: the frames of the call are cut from these bytes; the
handler runs on a frame only if gate and SID list let the client in; bytes sent in answer to a snapshot
are an acknowledgement and its facts are accepted, or they are an error; and the transcript has the
replies and the error codes that the call notes. -/
theorem serve_authorized (options : Options) (mode : ServeMode) (peer : Peer) :
    CutFrom peer.input
        (((withDefault options mode peer).transcript ()).filterMap TurnLog.frame) ∧
      (∀ turn ∈ (withDefault options mode peer).transcript (),
        TurnAuthorized options peer.identity turn) ∧
      ((withDefault options mode peer).serve ()).produced =
        ((withDefault options mode peer).transcript ()).filterMap TurnLog.exchange ∧
      ((withDefault options mode peer).serve ()).errorCodes =
        ((withDefault options mode peer).transcript ()).filterMap TurnLog.error := by
  unfold transcript serve
  cases (withDefault options mode peer).accepted with
  | error e => exact ⟨trivial, fun turn h => absurd h List.not_mem_nil, rfl, rfl⟩
  | ok u =>
    obtain ⟨hcut, hproduced, hcodes, hauthorized⟩ := serveFrames_transcribes
      (k := withDefault options mode peer) ((withDefault options mode peer).peer.input.length + 1)
      ((withDefault options mode peer).start ())
    exact ⟨hcut, hauthorized rfl, hproduced, hcodes⟩

/-- An interactive client that sends one snapshot with the expected credential. -/
def snapshotPeer : Peer :=
  { identity := { pid := 4, sessionId := 1 }
    input := makeFrame .factsSnapshot 1 (ascii "CPOPFACTS/1\nagent_token=k3y\nuser_idle_seconds=5") }

/-- Its facts are accepted, since what is written for it is no error. -/
theorem serve_authorized_snapshot :
    ∃ turn ∈ (withDefault { expectedToken := [107, 51, 121] } .one snapshotPeer).transcript (),
      ∃ f, turn.frame = some f ∧
        turn.sent = some (makeFrame .ack 1 (ascii "facts ok (1): user_idle_seconds=5")) ∧
        FactsAccepted [107, 51, 121] f.payload := by
  let call := withDefault { expectedToken := [107, 51, 121] } .one snapshotPeer
  let turn := call.turnLog (call.start ())
  have hmem : turn ∈ call.transcript () := .head _
  have hsent : turn.sent = some (makeFrame .ack 1 (ascii "facts ok (1): user_idle_seconds=5")) := by
    decide +kernel
  have hheader : turn.frame.map (fun f => (parseMessageType f.header.type, f.header.requestId)) =
      some (some .factsSnapshot, 1) := by
    decide +kernel
  obtain ⟨f, hframe, hf⟩ := Option.map_eq_some_iff.mp hheader
  obtain ⟨htype, hid⟩ := Prod.mk.inj hf
  have howed := ((serve_authorized { expectedToken := [107, 51, 121] } .one snapshotPeer).2.1 turn
    hmem).snapshot f hframe htype _ hsent
  refine ⟨turn, hmem, f, hframe, hsent, ?_⟩
  rcases howed with ⟨_, haccepted, _⟩ | ⟨code, hcode⟩
  · exact haccepted
  · rw [hid] at hcode
    have hapart : ∀ code, makeFrame .ack 1 (ascii "facts ok (1): user_idle_seconds=5") ≠
        errorFrame 1 code := by
      intro code
      cases code <;> decide +kernel
    exact absurd hcode (hapart code)

end ServeCall

end Ipc
end CppOptimizer
