import CppOptimizer.Ipc.Client
import CppOptimizer.Ipc.ConcurrentServer

/-!
# CppOptimizer.Ipc.TornFrames

Where the stream of a client is cut, and what `ServeSession` makes of it.

* `readAllOverlapped` — the exact read of `ipc_transport.cpp`, over the outcomes of `ReadFile`.
* `arrived`, `endingCode` — the bytes that come before the pipe is closed, stalls or fails, and how
  that is reported. `readAll_wire` says that the reads of a session depend on nothing else.
* `TornIsFailure` — a session that ends by `ClientClosed` or `IdleTimeout` received whole valid frames
  and counted them; a stream cut inside a frame is a failure.

An exact read reports a close after 15 bytes as it does after none, and once a frame has been served
the loop takes either for a clean end.
-/

namespace CppOptimizer
namespace Ipc

open Common Lib

/-! ## The exact read -/

/-- How one `ReadFile` ends. No bytes mean that the peer has closed the pipe. -/
inductive PipeRead where
  | bytes (chunk : Bytes)
  | fault (code : Nat) (failed : code ≠ 0)

/-- `ReadAllOverlapped` with the outcomes of its `ReadFile` calls: the code (`0` is success), the bytes
it received and what the pipe holds next. Nothing comes after the last outcome, so the read times
out. -/
def readAllOverlapped : Nat → List PipeRead → Nat × Bytes × List PipeRead
  | 0, wire => (0, [], wire)
  | _ + 1, [] => (errorTimeout, [], [])
  | _ + 1, .fault code _ :: wire => (code, [], wire)
  | n + 1, .bytes chunk :: wire =>
    if chunk = [] then (errorBrokenPipe, [], wire)
    else if chunk.length ≤ n + 1 then
      let later := readAllOverlapped (n + 1 - chunk.length) wire
      (later.1, chunk ++ later.2.1, later.2.2)
    else (0, chunk.take (n + 1), .bytes (chunk.drop (n + 1)) :: wire)

def arrived : List PipeRead → Bytes
  | [] => []
  | .fault _ _ :: _ => []
  | .bytes chunk :: wire => if chunk = [] then [] else chunk ++ arrived wire

def endingCode : List PipeRead → Nat
  | [] => errorTimeout
  | .fault code _ :: _ => code
  | .bytes chunk :: wire => if chunk = [] then errorBrokenPipe else endingCode wire

theorem endingCode_ne_zero (wire : List PipeRead) : endingCode wire ≠ 0 := by
  induction wire with
  | nil => decide
  | cons read wire ih =>
    cases read with
    | fault code failed => exact failed
    | bytes chunk =>
      rw [endingCode]
      split
      · decide
      · exact ih

theorem readAllOverlapped_short {n : Nat} {wire : List PipeRead} (h : (arrived wire).length < n) :
    (readAllOverlapped n wire).1 = endingCode wire ∧
      (readAllOverlapped n wire).2.1 = arrived wire := by
  induction wire generalizing n with
  | nil =>
    cases n with
    | zero => cases h
    | succ n => exact ⟨rfl, rfl⟩
  | cons read wire ih =>
    cases n with
    | zero => cases h
    | succ n =>
      cases read with
      | fault code failed => exact ⟨rfl, rfl⟩
      | bytes chunk =>
        by_cases hchunk : chunk = []
        · simp [readAllOverlapped, arrived, endingCode, hchunk]
        · simp only [arrived, hchunk, if_false, List.length_append] at h
          have hfits : chunk.length ≤ n + 1 := by omega
          obtain ⟨hcode, hbytes⟩ := ih (n := n + 1 - chunk.length) (by omega)
          simp [readAllOverlapped, arrived, endingCode, hchunk, hfits, hcode, hbytes]

theorem readAllOverlapped_full {n : Nat} {wire : List PipeRead} (h : n ≤ (arrived wire).length) :
    ∃ later, readAllOverlapped n wire = (0, (arrived wire).take n, later) ∧
      arrived later = (arrived wire).drop n ∧ endingCode later = endingCode wire := by
  induction wire generalizing n with
  | nil =>
    have hn : n = 0 := Nat.le_zero.mp h
    subst hn
    exact ⟨[], rfl, rfl, rfl⟩
  | cons read wire ih =>
    cases n with
    | zero => exact ⟨_, rfl, rfl, rfl⟩
    | succ n =>
      cases read with
      | fault code failed => cases h
      | bytes chunk =>
        by_cases hchunk : chunk = []
        · simp [arrived, hchunk] at h
        · simp only [arrived, endingCode, readAllOverlapped, hchunk, if_false] at h ⊢
          by_cases hfits : chunk.length ≤ n + 1
          · rw [List.length_append] at h
            obtain ⟨later, hread, hrest, hcode⟩ := ih (n := n + 1 - chunk.length) (by omega)
            refine ⟨later, ?_, ?_, hcode⟩
            · rw [if_pos hfits, hread, List.take_append, List.take_of_length_le hfits]
            · rw [hrest, List.drop_append, List.drop_of_length_le hfits, List.nil_append]
          · have hle : n + 1 ≤ chunk.length := by omega
            have hrest : chunk.drop (n + 1) ≠ [] := by
              intro hnil
              have hlength := congrArg List.length hnil
              rw [List.length_drop, List.length_nil] at hlength
              omega
            refine ⟨.bytes (chunk.drop (n + 1)) :: wire, ?_, ?_, ?_⟩
            · rw [if_neg hfits, List.take_append_of_le_length hle]
            · rw [arrived, if_neg hrest, List.drop_append_of_le_length hle]
            · rw [endingCode, if_neg hrest]

/-- The transport of a session: the bytes that arrive, and the code that comes after them. -/
def Peer.over (peer : Peer) (wire : List PipeRead) : Peer :=
  { peer with
    input := arrived wire
    ending := .fromWin32 (endingCode wire) "ReadAll"
    headerFault := fun _ => none
    payloadFault := fun _ => none }

/-- `ReadAll` of the backend: the code of the exact read. -/
def readAllWire (n : Nat) (wire : List PipeRead) : Result (Bytes × List PipeRead) :=
  let read := readAllOverlapped n wire
  if read.1 ≠ 0 then .error (.fromWin32 read.1 "ReadAll") else .ok read.2

/-- A read of the session is an exact read of the pipe, at any point of the stream. -/
theorem readAll_wire (peer : Peer) {wire later : List PipeRead} (n : Nat)
    (h : endingCode later = endingCode wire) :
    readAll (peer.over wire) none n (arrived later) =
      (readAllWire n later).map fun read => (read.1, arrived read.2) := by
  simp only [readAll, Peer.over, readAllWire]
  by_cases hle : n ≤ (arrived later).length
  · obtain ⟨rest, hread, hrest, -⟩ := readAllOverlapped_full hle
    rw [if_pos hle, hread, if_neg (not_not.mpr rfl)]
    simp only [Except.map, hrest]
  · have hshort := readAllOverlapped_short (Nat.lt_of_not_le hle)
    have hfailed : (readAllOverlapped n later).1 ≠ 0 := by
      rw [hshort.1]
      exact endingCode_ne_zero later
    rw [if_neg hle, if_pos hfailed, hshort.1, h]
    rfl

/-! ## Frames one after another -/

theorem length_of_parseHeader {bytes : Bytes} {header : IpcHeader}
    (h : parseHeader bytes = .ok header) : bytes.length = kIpcHeaderSize := by
  unfold parseHeader at h
  split at h
  · rfl
  · cases h

theorem Accepted.length_ge {frame : Bytes} (h : Accepted frame) : kIpcHeaderSize ≤ frame.length := by
  obtain ⟨header, hparse, -⟩ := h
  have hlength := length_of_parseHeader hparse
  rw [List.length_take] at hlength
  omega

/-- The header says where its frame ends. -/
theorem Accepted.append_inj {frame frame' rest rest' : Bytes} (h : Accepted frame)
    (h' : Accepted frame') (heq : frame ++ rest = frame' ++ rest') :
    frame = frame' ∧ rest = rest' := by
  have htake : frame.take kIpcHeaderSize = frame'.take kIpcHeaderSize := by
    have hcongr := congrArg (List.take kIpcHeaderSize) heq
    rwa [List.take_append_of_le_length h.length_ge, List.take_append_of_le_length h'.length_ge]
      at hcongr
  have hge := h.length_ge
  have hge' := h'.length_ge
  obtain ⟨header, hparse, hlength⟩ := h
  obtain ⟨header', hparse', hlength'⟩ := h'
  rw [htake, hparse'] at hparse
  cases hparse
  rw [List.length_drop] at hlength hlength'
  exact List.append_inj heq (by omega)

/-- A stream is made of valid frames in one way only. -/
theorem frames_unique {frames frames' : List Bytes} (h : ∀ f ∈ frames, Accepted f)
    (h' : ∀ f ∈ frames', Accepted f) (heq : frames.flatten = frames'.flatten) :
    frames = frames' := by
  have hne : ∀ {frame rest : Bytes}, Accepted frame → [] ≠ frame ++ rest := by
    intro frame rest hframe hnil
    have hge := hframe.length_ge
    have hzero := congrArg List.length hnil
    have h16 : kIpcHeaderSize = 16 := rfl
    rw [List.length_append, List.length_nil] at hzero
    omega
  induction frames generalizing frames' with
  | nil =>
    cases frames' with
    | nil => rfl
    | cons frame' later' => exact absurd heq (hne (h' frame' List.mem_cons_self))
  | cons frame later ih =>
    cases frames' with
    | nil => exact absurd heq.symm (hne (h frame List.mem_cons_self))
    | cons frame' later' =>
      rw [List.flatten_cons, List.flatten_cons] at heq
      obtain ⟨rfl, hlater⟩ := Accepted.append_inj (h frame List.mem_cons_self)
        (h' frame' List.mem_cons_self) heq
      rw [ih (fun f hf => h f (List.mem_cons_of_mem _ hf))
        (fun f hf => h' f (List.mem_cons_of_mem _ hf)) hlater]

/-! ## What a session has read -/

variable {η : Type}

namespace ServeCall

/-- `ServeSession` with this client. -/
def session (k : ServeCall η) (idleTimeout sessionBudget : Int) (wire : List PipeRead) :
    ServeCall η :=
  { k with mode := .session idleTimeout sessionBudget, peer := k.peer.over wire }

variable (k : ServeCall η)

/-- The stream ends inside the header of the next frame. -/
def CutHeader (s : LoopState η) : Prop := 0 < s.input.length ∧ s.input.length < kIpcHeaderSize

/-- The stream ends inside the payload of the next frame, or before it. -/
def CutPayload (s : LoopState η) : Prop :=
  ∃ header, parseHeader (s.input.take kIpcHeaderSize) = .ok header ∧
    (s.input.drop kIpcHeaderSize).length < header.payloadLength.toNat

structure TornIsFailure (st : η) : Prop where
  whole : ∀ r, (k.serve st).result = .ok r →
    r.endReason = .clientClosed ∨ r.endReason = .idleTimeout →
    ∃ frames : List Bytes, (∀ frame ∈ frames, Accepted frame) ∧ k.peer.input = frames.flatten ∧
      r.framesServed.toNat = frames.length
  torn : ∀ s, k.accepted = .ok () → Relation.ReflTransGen k.Exchange (k.start st) s →
    0 < k.peer.remaining s.index → CutHeader s ∨ CutPayload s →
    ∃ e, (k.serve st).result = .error e

/-- A header of which some bytes are missing is read after a frame has been served, and the read is
reported as a close or a timeout. -/
structure EndsTorn (s : LoopState η) : Prop where
  budget : 0 < k.peer.remaining s.index
  cut : CutHeader s
  served : s.frames > 0
  reported : isClientClosed k.peer.ending = true ∨ isTimeout k.peer.ending = true

/-- A clean end after more frames than the counter holds. -/
structure EndsUncounted (s : LoopState η) : Prop where
  budget : 0 < k.peer.remaining s.index
  finished : s.input = []
  served : s.frames > 0
  many : 2 ^ 32 ≤ s.index
  reported : isClientClosed k.peer.ending = true ∨
    (isTimeout k.peer.ending = true ∧ k.headerTimeout s.index = k.idleTimeout)

/-- The stream so far was frames, one for each turn. -/
structure Read (s : LoopState η) (frames : List Bytes) : Prop where
  valid : ∀ frame ∈ frames, Accepted frame
  stream : k.peer.input = frames.flatten ++ s.input
  index : frames.length = s.index
  frames : s.frames = UInt32.ofNat s.index

variable {k} {s s' : LoopState η} {st : η}

theorem accepted_of_receive {f : Frame} (h : k.receive s = .frame f) :
    ∃ frame, Accepted frame ∧ s.input = frame ++ f.rest := by
  obtain ⟨hle, hparse, hlength, -, hrest⟩ := receive_frame h
  have hsplit : s.input = s.input.take kIpcHeaderSize ++
      (s.input.drop kIpcHeaderSize).take f.header.payloadLength.toNat ++ f.rest := by
    rw [hrest, List.append_assoc, List.take_append_drop, List.take_append_drop]
  have hheader : (s.input.take kIpcHeaderSize).length = kIpcHeaderSize := by
    rw [List.length_take]
    omega
  refine ⟨_, ⟨f.header, ?_, ?_⟩, hsplit⟩
  · rw [List.take_left' hheader]
    exact hparse
  · rw [List.drop_left' hheader, List.length_take]
    omega

theorem read_start (st : η) : k.Read (k.start st) [] where
  valid _ h := absurd h List.not_mem_nil
  stream := rfl
  index := rfl
  frames := rfl

theorem Read.exchange {frames : List Bytes} (h : k.Read s frames) (hstep : k.Exchange s s') :
    ∃ frame, k.Read s' (frames ++ [frame]) := by
  cases hstep with
  | @mk f reply st ha _ _ =>
    obtain ⟨frame, hframe, hinput⟩ := accepted_of_receive ha.received
    refine ⟨frame, ⟨?_, ?_, ?_, ?_⟩⟩
    · intro g hg
      rcases List.mem_append.mp hg with hg | hg
      · exact h.valid g hg
      · rw [List.mem_singleton.mp hg]
        exact hframe
    · rw [h.stream, hinput, List.flatten_append, List.flatten_singleton, List.append_assoc]
      rfl
    · rw [List.length_append, h.index]
      rfl
    · show s.frames + 1 = UInt32.ofNat (s.index + 1)
      rw [h.frames, UInt32.ofNat_add]
      rfl

theorem exists_read (h : Relation.ReflTransGen k.Exchange (k.start st) s) :
    ∃ frames, k.Read s frames := by
  induction h with
  | refl => exact ⟨[], read_start st⟩
  | tail _ hstep ih =>
    obtain ⟨frames, hread⟩ := ih
    obtain ⟨frame, hread'⟩ := hread.exchange hstep
    exact ⟨_, hread'⟩

/-! ## The reads of a session -/

/-- A session over a pipe: no limit on the frames, and every read is an exact read of the stream. -/
structure Streams (k : ServeCall η) : Prop where
  unlimited : k.mode.maxFrames = 0
  header : ∀ i, k.peer.headerFault i = none
  payload : ∀ i, k.peer.payloadFault i = none

theorem streams_session (k : ServeCall η) (idleTimeout sessionBudget : Int) (wire : List PipeRead) :
    (k.session idleTimeout sessionBudget wire).Streams :=
  ⟨rfl, fun _ => rfl, fun _ => rfl⟩

theorem Streams.not_limited (h : k.Streams) (s : LoopState η) : ¬ k.LimitReached s :=
  fun hlimit => hlimit.1 h.unlimited

theorem receive_inBudget (hbudget : 0 < k.peer.remaining s.index) :
    ¬ (k.mode.maxFrames = 0 ∧ k.peer.remaining s.index ≤ 0) := by
  rintro ⟨-, hle⟩
  omega

/-- The header cannot be read. -/
theorem receive_short (h : k.Streams) (hbudget : 0 < k.peer.remaining s.index)
    (hshort : s.input.length < kIpcHeaderSize) :
    k.receive s =
      if isClientClosed k.peer.ending = true ∧ s.frames > 0 then .finished .clientClosed
      else if isTimeout k.peer.ending = true ∧ s.frames > 0 then
        .finished (if k.headerTimeout s.index = k.idleTimeout then .idleTimeout else .sessionBudget)
      else .failed k.peer.ending [] := by
  have hread : readAll k.peer (k.peer.headerFault s.index) kIpcHeaderSize s.input =
      .error k.peer.ending := by
    rw [h.header, readAll, if_neg (Nat.not_le_of_lt hshort)]
  rw [receive, if_neg (receive_inBudget hbudget), hread]

theorem receive_cutPayload (h : k.Streams) (hbudget : 0 < k.peer.remaining s.index)
    (hcut : CutPayload s) : k.receive s = .failed k.peer.ending [] := by
  obtain ⟨header, hparse, hshort⟩ := hcut
  have hle : kIpcHeaderSize ≤ s.input.length := by
    have hlength := length_of_parseHeader hparse
    rw [List.length_take] at hlength
    omega
  have hread : readAll k.peer (k.peer.headerFault s.index) kIpcHeaderSize s.input =
      .ok (s.input.take kIpcHeaderSize, s.input.drop kIpcHeaderSize) := by
    rw [h.header, readAll, if_pos hle]
  have hpos : header.payloadLength > 0 := by
    rw [gt_iff_lt, UInt32.lt_iff_toNat_lt]
    exact Nat.lt_of_le_of_lt (Nat.zero_le _) hshort
  have hpayload : readAll k.peer (k.peer.payloadFault s.index) header.payloadLength.toNat
      (s.input.drop kIpcHeaderSize) = .error k.peer.ending := by
    rw [h.payload, readAll, if_neg (Nat.not_le_of_lt hshort)]
  rw [receive, if_neg (receive_inBudget hbudget), hread]
  simp only [hparse]
  rw [if_pos hpos, hpayload]

/-- A clean end comes from a header that could not be read. -/
theorem receive_finished (h : k.Streams) {reason : IpcSessionEndReason}
    (hrecv : k.receive s = .finished reason) (hreason : reason ≠ .sessionBudget) :
    0 < k.peer.remaining s.index ∧ s.input.length < kIpcHeaderSize := by
  by_cases hbudget : 0 < k.peer.remaining s.index
  · refine ⟨hbudget, ?_⟩
    by_contra hlong
    have hread : readAll k.peer (k.peer.headerFault s.index) kIpcHeaderSize s.input =
        .ok (s.input.take kIpcHeaderSize, s.input.drop kIpcHeaderSize) := by
      rw [h.header, readAll, if_pos (Nat.le_of_not_lt hlong)]
    rw [receive, if_neg (receive_inBudget hbudget), hread] at hrecv
    simp only at hrecv
    repeat' split at hrecv
    all_goals cases hrecv
  · have hover : k.mode.maxFrames = 0 ∧ k.peer.remaining s.index ≤ 0 := ⟨h.unlimited, by omega⟩
    rw [receive, if_pos hover] at hrecv
    split at hrecv
    · cases hrecv
    · cases hrecv
      exact absurd rfl hreason

theorem serve_accepted (hacc : k.accepted = .ok ()) :
    k.serve st = k.serveFrames (k.peer.input.length + 1) (k.start st) := by
  rw [serve, hacc]

theorem fuel_enough (k : ServeCall η) (st : η) :
    (k.start st).input.length < k.peer.input.length + 1 := Nat.lt_succ_self _

/-- The session ends with a turn that ends it. -/
theorem Streams.serve_end (h : k.Streams) (hacc : k.accepted = .ok ()) :
    ∃ s, Relation.ReflTransGen k.Exchange (k.start st) s ∧ k.serveFrame s = .ended (k.serve st) := by
  obtain ⟨s, hreach, hend | ⟨s', -, hlimit, -⟩⟩ := serveFrames_end (fuel_enough k st)
  · exact ⟨s, hreach, by rw [serve_accepted hacc]; exact hend⟩
  · exact absurd hlimit (h.not_limited s')

theorem serve_of_ended {t : ServeTrace η} (hacc : k.accepted = .ok ())
    (hreach : Relation.ReflTransGen k.Exchange (k.start st) s) (hend : k.serveFrame s = .ended t) :
    k.serve st = t := by
  obtain ⟨fuel, hfuel, heq⟩ := serveFrames_of_reached (fuel_enough k st) hreach
  rw [serve_accepted hacc, heq, serveFrames_ended hfuel hend]

theorem serve_finished {reason : IpcSessionEndReason} (hacc : k.accepted = .ok ())
    (hreach : Relation.ReflTransGen k.Exchange (k.start st) s)
    (hrecv : k.receive s = .finished reason) : k.serve st = s.finish reason :=
  serve_of_ended hacc hreach (by rw [serveFrame, hrecv])

theorem serve_failed {e : Error} {errorCodes : List (UInt32 × IpcErrorCode)}
    (hacc : k.accepted = .ok ()) (hreach : Relation.ReflTransGen k.Exchange (k.start st) s)
    (hrecv : k.receive s = .failed e errorCodes) : (k.serve st).result = .error e := by
  rw [serve_of_ended hacc hreach (by rw [serveFrame, hrecv])]
  rfl

/-! ## When a torn frame is a failure -/

theorem not_endsTorn (h : k.Streams) (hacc : k.accepted = .ok ()) (htorn : k.TornIsFailure st)
    (hreach : Relation.ReflTransGen k.Exchange (k.start st) s) : ¬ k.EndsTorn s := by
  intro hends
  obtain ⟨e, herror⟩ := htorn.torn s hacc hreach hends.budget (.inl hends.cut)
  have hfinished : ∃ reason, k.receive s = .finished reason := by
    rw [receive_short h hends.budget hends.cut.2]
    by_cases hclosed : isClientClosed k.peer.ending = true
    · exact ⟨_, if_pos ⟨hclosed, hends.served⟩⟩
    · have htimeout := hends.reported.resolve_left hclosed
      rw [if_neg (fun hc => hclosed hc.1), if_pos ⟨htimeout, hends.served⟩]
      exact ⟨_, rfl⟩
  obtain ⟨reason, hrecv⟩ := hfinished
  rw [serve_finished hacc hreach hrecv] at herror
  cases herror

theorem not_endsUncounted (h : k.Streams) (hacc : k.accepted = .ok ()) (htorn : k.TornIsFailure st)
    (hreach : Relation.ReflTransGen k.Exchange (k.start st) s) : ¬ k.EndsUncounted s := by
  intro hends
  have hshort : s.input.length < kIpcHeaderSize := by
    rw [hends.finished]
    decide
  have hfinished : ∃ reason, k.receive s = .finished reason ∧
      (reason = .clientClosed ∨ reason = .idleTimeout) := by
    rw [receive_short h hends.budget hshort]
    by_cases hclosed : isClientClosed k.peer.ending = true
    · exact ⟨_, if_pos ⟨hclosed, hends.served⟩, .inl rfl⟩
    · obtain ⟨htimeout, hidle⟩ := hends.reported.resolve_left hclosed
      rw [if_neg (fun hc => hclosed hc.1), if_pos ⟨htimeout, hends.served⟩, if_pos hidle]
      exact ⟨_, rfl, .inr rfl⟩
  obtain ⟨reason, hrecv, hreason⟩ := hfinished
  have hresult := congrArg ServeTrace.result (serve_finished hacc hreach hrecv)
  obtain ⟨frames, hvalid, hstream, hcount⟩ := htorn.whole _ hresult hreason
  obtain ⟨frames', hread⟩ := exists_read hreach
  have hsame : frames = frames' := by
    refine frames_unique hvalid hread.valid ?_
    rw [← hstream, hread.stream, hends.finished, List.append_nil]
  have hlt : s.frames.toNat < 2 ^ 32 := UInt32.toNat_lt _
  have hcounted : s.frames.toNat = s.index := by
    rw [← hread.index, ← hsame]
    exact hcount
  have hmany := hends.many
  omega

/-- What a header that could not be read needs to be a clean end. -/
theorem reported_of_finished (h : k.Streams) {reason : IpcSessionEndReason}
    (hrecv : k.receive s = .finished reason)
    (hreason : reason = .clientClosed ∨ reason = .idleTimeout) :
    0 < k.peer.remaining s.index ∧ s.input.length < kIpcHeaderSize ∧ s.frames > 0 ∧
      (isClientClosed k.peer.ending = true ∨
        (isTimeout k.peer.ending = true ∧ k.headerTimeout s.index = k.idleTimeout)) := by
  have hne : reason ≠ .sessionBudget := by
    rintro rfl
    simp at hreason
  obtain ⟨hbudget, hshort⟩ := receive_finished h hrecv hne
  refine ⟨hbudget, hshort, ?_⟩
  rw [receive_short h hbudget hshort] at hrecv
  split at hrecv
  · rename_i hclosed
    exact ⟨hclosed.2, .inl hclosed.1⟩
  · split at hrecv
    · rename_i htimeout
      refine ⟨htimeout.2, .inr ⟨htimeout.1, ?_⟩⟩
      by_contra hidle
      rw [if_neg hidle] at hrecv
      cases hrecv
      exact hne rfl
    · cases hrecv

theorem whole_of_finished (h : k.Streams) {reason : IpcSessionEndReason}
    (hreach : Relation.ReflTransGen k.Exchange (k.start st) s)
    (hrecv : k.receive s = .finished reason)
    (hreason : reason = .clientClosed ∨ reason = .idleTimeout) (htorn : ¬ k.EndsTorn s)
    (hmany : ¬ k.EndsUncounted s) :
    ∃ frames : List Bytes, (∀ frame ∈ frames, Accepted frame) ∧ k.peer.input = frames.flatten ∧
      s.frames.toNat = frames.length := by
  obtain ⟨hbudget, hshort, hserved, hreported⟩ := reported_of_finished h hrecv hreason
  have hempty : s.input = [] := by
    by_contra hne
    refine htorn ⟨hbudget, ⟨List.length_pos_iff.mpr hne, hshort⟩, hserved, ?_⟩
    exact hreported.imp_right fun htimeout => htimeout.1
  have hfew : s.index < 2 ^ 32 := by
    by_contra hge
    exact hmany ⟨hbudget, hempty, hserved, Nat.le_of_not_lt hge, hreported⟩
  obtain ⟨frames, hread⟩ := exists_read hreach
  refine ⟨frames, hread.valid, ?_, ?_⟩
  · rw [hread.stream, hempty, List.append_nil]
  · rw [hread.frames, hread.index, UInt32.toNat_ofNat', Nat.mod_eq_of_lt hfew]

theorem failed_of_cut (h : k.Streams) (hbudget : 0 < k.peer.remaining s.index)
    (hcut : CutHeader s ∨ CutPayload s) (htorn : ¬ k.EndsTorn s) :
    k.receive s = .failed k.peer.ending [] := by
  rcases hcut with hcut | hcut
  · rw [receive_short h hbudget hcut.2, if_neg, if_neg]
    · rintro ⟨htimeout, hserved⟩
      exact htorn ⟨hbudget, hcut, hserved, .inr htimeout⟩
    · rintro ⟨hclosed, hserved⟩
      exact htorn ⟨hbudget, hcut, hserved, .inl hclosed⟩
  · exact receive_cutPayload h hbudget hcut

theorem tornIsFailure_of_not (h : k.Streams) (hacc : k.accepted = .ok ())
    (hgood : ∀ s, Relation.ReflTransGen k.Exchange (k.start st) s →
      ¬ k.EndsTorn s ∧ ¬ k.EndsUncounted s) : k.TornIsFailure st := by
  refine ⟨fun r hr hreason => ?_, fun s _ hreach hbudget hcut => ?_⟩
  · obtain ⟨s, hreach, hend⟩ : ∃ s, _ ∧ k.serveFrame s = .ended (k.serve st) := h.serve_end hacc
    have hcases := k.serveFrame_cases s
    rw [hend] at hcases
    generalize k.serve st = t at hr hcases
    cases hcases with
    | finished hrecv =>
      cases hr
      exact whole_of_finished h hreach hrecv hreason (hgood s hreach).1 (hgood s hreach).2
    | failed _ => cases hr
    | refused _ _ => cases hr
    | handlerFailed _ _ _ => cases hr
    | replyFailed _ _ => cases hr
  · exact ⟨_, serve_failed hacc hreach (failed_of_cut h hbudget hcut (hgood s hreach).1)⟩

end ServeCall

/-- A torn frame is never taken for a clean end exactly if the session does not come to read a torn
header once it has served a frame, and does not end cleanly with its counter overrun. -/
theorem torn_frames_fail_iff (k : ServeCall η) (idleTimeout sessionBudget : Int)
    (wire : List PipeRead) (st : η) :
    (k.session idleTimeout sessionBudget wire).TornIsFailure st ↔
      ¬ ((k.session idleTimeout sessionBudget wire).accepted = .ok () ∧
        Eventually (k.session idleTimeout sessionBudget wire).Exchange
          (fun s => (k.session idleTimeout sessionBudget wire).EndsTorn s ∨
            (k.session idleTimeout sessionBudget wire).EndsUncounted s)
          ((k.session idleTimeout sessionBudget wire).start st)) := by
  have h := ServeCall.streams_session k idleTimeout sessionBudget wire
  generalize k.session idleTimeout sessionBudget wire = k at h ⊢
  constructor
  · rintro htorn ⟨hacc, s, hreach, hends | hends⟩
    · exact ServeCall.not_endsTorn h hacc htorn hreach hends
    · exact ServeCall.not_endsUncounted h hacc htorn hreach hends
  · intro hnot
    cases hacc : k.accepted with
    | ok u =>
      refine ServeCall.tornIsFailure_of_not h hacc fun s hreach => ⟨fun hends => ?_, fun hends => ?_⟩
      · exact hnot ⟨hacc, s, hreach, .inl hends⟩
      · exact hnot ⟨hacc, s, hreach, .inr hends⟩
    | error e =>
      have hserve : k.serve st = { result := .error e, handlerState := st } := by
        rw [ServeCall.serve, hacc]
      refine ⟨fun r hr => ?_, fun s hok => ?_⟩
      · rw [hserve] at hr
        cases hr
      · rw [hacc] at hok
        cases hok

/-- A service without a token, and a client that is known to the system. -/
def plainService : ServeCall Unit where
  options := {}
  handler := none
  mode := .one
  peer := { identity := { pid := 1, sessionId := 1 } }

/-- One ping, and five bytes of the next header before the client is gone. -/
def tornHeader : List PipeRead :=
  [.bytes (makeFrame .ping 1 []), .bytes ((makeFrame .ping 2 []).take 5), .bytes []]

theorem torn_header_succeeds :
    ((plainService.session 1000 6000 tornHeader).serve ()).result =
        .ok { requestType := .ping, replyType := .ack, requestId := 1, clientPid := 1,
              clientSessionId := 1, framesServed := 1, endReason := .clientClosed } ∧
      ¬ (plainService.session 1000 6000 tornHeader).TornIsFailure () := by
  have hresult : ((plainService.session 1000 6000 tornHeader).serve ()).result =
      .ok { requestType := .ping, replyType := .ack, requestId := 1, clientPid := 1,
            clientSessionId := 1, framesServed := 1, endReason := .clientClosed } := by
    decide +kernel
  refine ⟨hresult, fun h => ?_⟩
  obtain ⟨frames, hvalid, hstream, hcount⟩ := h.whole _ hresult (.inl rfl)
  obtain ⟨frame, rfl⟩ := List.length_eq_one_iff.mp hcount.symm
  rw [List.flatten_singleton] at hstream
  obtain ⟨header, hparse, hlength⟩ := hvalid frame (List.mem_singleton_self _)
  rw [← hstream] at hparse hlength
  have hheader : parseHeader ((arrived tornHeader).take kIpcHeaderSize) =
      .ok (makeIpcHeader .ping 0 1) := by
    decide +kernel
  cases hheader.symm.trans hparse
  exact absurd hlength (by decide +kernel)

end Ipc
end CppOptimizer
