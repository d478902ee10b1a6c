import CppOptimizer.Ipc.Verdict
import CppOptimizer.Service.Workload

/-!
# CppOptimizer.Service.HostSurvival

Which clients the host outlives. A tick fails on every failure of `ServeOne` but two, a timeout and
a refused identity, and a failed tick ends the loop.

* `Harmless`          — what a client may do without failing the tick.
* `serve_tolerated_iff` — the tick tolerates the outcome of `ServeOne` exactly for such a client.
* `host_survives_iff` — the loop never ends by a failure exactly when every client it comes to is
  harmless.
-/

namespace CppOptimizer

open Common Lib

namespace Ipc

namespace ServeCall

variable {η : Type} (k : ServeCall η) (st : η)

/-- Nobody comes; or the client falls silent before its frame is complete; or it is refused; or it
sends a ping or facts and takes the reply, at most too slowly. -/
inductive Harmless : Prop where
  | noClient {e : Error} : k.peer.accept = .error e → isTimeout e = true → Harmless
  | silent {e : Error} {errorCodes : List (UInt32 × IpcErrorCode)} :
      k.peer.accept = .ok () → k.receive (k.start st) = .failed e errorCodes →
      isTimeout e = true → Harmless
  | refused {f : Frame} {e : Error} :
      k.peer.accept = .ok () → k.receive (k.start st) = .frame f →
      k.options.authorize k.peer.identity = .error e → Harmless
  | answered {f : Frame} :
      k.peer.accept = .ok () → k.receive (k.start st) = .frame f →
      k.options.authorize k.peer.identity = .ok () →
      (k.request f).type = .ping ∨ (k.request f).type = .factsSnapshot →
      (∀ e, k.peer.replyFault 0 = some e → isTimeout e = true) → Harmless

/-- Before the first frame no session is over. -/
theorem receive_start_ne_finished (reason : IpcSessionEndReason) :
    k.receive (k.start st) ≠ .finished reason := by
  intro h
  unfold receive at h
  split at h
  · simp [start] at h
  · split at h
    · simp [start] at h
    · split at h
      · cases h
      · split at h
        · split at h <;> cases h
        · cases h

variable {k} {st}

/-- No client connects. -/
theorem harmless_unconnected_iff {e : Error} (haccept : k.peer.accept = .error e) :
    k.Harmless st ↔ isTimeout e = true := by
  constructor
  · intro h
    cases h with
    | noClient h htimeout =>
      cases haccept.symm.trans h
      exact htimeout
    | silent h => simp [haccept] at h
    | refused h => simp [haccept] at h
    | answered h => simp [haccept] at h
  · exact .noClient haccept

/-- A client that sends no valid frame. -/
theorem harmless_unread_iff {e : Error} {errorCodes : List (UInt32 × IpcErrorCode)}
    (haccept : k.peer.accept = .ok ()) (hrecv : k.receive (k.start st) = .failed e errorCodes) :
    k.Harmless st ↔ isTimeout e = true := by
  constructor
  · intro h
    cases h with
    | noClient h => simp [haccept] at h
    | silent _ h htimeout =>
      cases hrecv.symm.trans h
      exact htimeout
    | refused _ h => simp [hrecv] at h
    | answered _ h => simp [hrecv] at h
  · exact .silent haccept hrecv

/-- A frame of a client that is let in. -/
theorem harmless_frame_iff {f : Frame} (haccept : k.peer.accept = .ok ())
    (hrecv : k.receive (k.start st) = .frame f)
    (hauth : k.options.authorize k.peer.identity = .ok ()) :
    k.Harmless st ↔
      ((k.request f).type = .ping ∨ (k.request f).type = .factsSnapshot) ∧
        ∀ e, k.peer.replyFault 0 = some e → isTimeout e = true := by
  constructor
  · intro h
    cases h with
    | noClient h => simp [haccept] at h
    | silent _ h => simp [hrecv] at h
    | refused _ _ h => simp [hauth] at h
    | answered _ h _ htype htimeouts =>
      cases hrecv.symm.trans h
      exact ⟨htype, htimeouts⟩
  · intro h
    exact .answered haccept hrecv hauth h.1 h.2

/-- A reply of the default handler fails on the transport only. -/
theorem deliver_default {expectedToken : WideText} {request : IpcRequest} {reply : IpcReply}
    (h : defaultHandler expectedToken request = .ok reply) (index : Nat) (requestId : UInt32)
    (e : Error) :
    k.deliver index requestId reply = .error e ↔ k.peer.replyFault index = some e := by
  have hlen := defaultHandler_length h
  have hmax : kFactsSummaryMaxBytes = 480 := rfl
  have hfits : UInt32.ofNat reply.payload.length ≤ kMaxPayloadLength := by
    have hlimit : kMaxPayloadLength.toNat = 4096 := rfl
    have hnat : (UInt32.ofNat reply.payload.length).toNat = reply.payload.length := by
      apply UInt32.toNat_ofNat_of_lt'
      have hsize : UInt32.size = 4294967296 := rfl
      omega
    rw [UInt32.le_iff_toNat_le]
    omega
  unfold deliver
  rw [validateIpcHeader_make hfits]
  cases k.peer.replyFault index with
  | none => simp
  | some e' => simp

end ServeCall

/-- The tick goes on: the client was served, timed out, or was reported as refused. -/
def Tolerated {η : Type} (t : ServeTrace η) : Prop :=
  (∃ result, t.result = .ok result) ∨
    ∃ e, t.result = .error e ∧ (isTimeout e = true ∨ ∃ verdict ∈ t.verdicts, verdict ≠ .accepted)

theorem tolerated_fail {η : Type} {s : LoopState η} {e : Error}
    {errorCodes : List (UInt32 × IpcErrorCode)} :
    Tolerated (s.fail e errorCodes) ↔ isTimeout e = true := by
  simp [Tolerated, LoopState.fail]

theorem tolerated_finish {η : Type} (s : LoopState η) (reason : IpcSessionEndReason) :
    Tolerated (s.finish reason) :=
  .inl ⟨_, rfl⟩

theorem tolerated_reject {η : Type} (s : LoopState η) (e : Error) (requestId : UInt32) :
    Tolerated (s.reject e requestId) :=
  .inr ⟨e, rfl, .inr ⟨.unauthorizedClient, by simp [LoopState.reject], by decide⟩⟩

theorem defaultHandler_error {expectedToken : WideText} {request : IpcRequest} {e : Error}
    (h : defaultHandler expectedToken request = .error e) : isTimeout e = false := by
  unfold defaultHandler at h
  split at h
  · cases h
  · repeat' split at h
    all_goals cases h
  · cases h
    rfl

/-- `ServeOne` with a handler that answers like the default one, on a pipe that listens. -/
theorem serve_tolerated_iff {η : Type} {k : ServeCall η} {expectedToken : WideText}
    (hmode : k.mode = .one) (hlisten : k.peer.listen = .ok ())
    (hhandle : ∀ request st, (k.handle request st).1 = defaultHandler expectedToken request)
    (st : η) : Tolerated (k.serve st) ↔ k.Harmless st := by
  have haccepted : k.accepted = k.peer.accept := by
    simp [ServeCall.accepted, hmode, hlisten]
  have hdefault : ∀ {f : Frame} {answer : Result IpcReply × η},
      k.handle (k.request f) st = answer →
        defaultHandler expectedToken (k.request f) = answer.1 := by
    intro f answer h
    rw [← h, hhandle]
  unfold ServeCall.serve
  rw [haccepted]
  cases haccept : k.peer.accept with
  | error e =>
    rw [ServeCall.harmless_unconnected_iff haccept]
    simp [Tolerated]
  | ok u =>
    have hturn := k.serveFrame_cases (k.start st)
    simp only [ServeCall.serveFrames]
    generalize k.serveFrame (k.start st) = turn at hturn
    cases hturn with
    | finished hrecv => exact absurd hrecv (k.receive_start_ne_finished st _)
    | @failed e errorCodes hrecv =>
      rw [ServeCall.harmless_unread_iff haccept hrecv]
      exact tolerated_fail
    | refused hrecv hauth =>
      simp only [tolerated_reject, true_iff]
      exact .refused haccept hrecv hauth
    | @handlerFailed f e st' errorCodes hrecv hauth hfailed =>
      have herror : defaultHandler expectedToken (k.request f) = .error e := hdefault hfailed
      have htype : ¬ ((k.request f).type = .ping ∨ (k.request f).type = .factsSnapshot) := by
        rw [← @defaultHandler_ok expectedToken]
        simp [herror]
      rw [ServeCall.harmless_frame_iff haccept hrecv hauth]
      simp [tolerated_fail, defaultHandler_error herror, htype]
    | @replyFailed f reply st' e ha hdeliver =>
      have hreply : defaultHandler expectedToken (k.request f) = .ok reply := hdefault ha.handled
      have hfault := (ServeCall.deliver_default hreply _ _ _).mp hdeliver
      have htype := defaultHandler_ok.mp ⟨reply, hreply⟩
      have hindex : (k.start st).index = 0 := rfl
      rw [ServeCall.harmless_frame_iff haccept ha.received ha.authorized, ← hindex, hfault]
      simp [tolerated_fail, htype]
    | @served f reply st' ha hdeliver =>
      have hreply : defaultHandler expectedToken (k.request f) = .ok reply := hdefault ha.handled
      have htype := defaultHandler_ok.mp ⟨reply, hreply⟩
      have hlimit : k.LimitReached (k.advance (k.start st) f reply st') := by
        simp [ServeCall.LimitReached, hmode, ServeMode.maxFrames, ServeCall.advance,
          ServeCall.noteReply, ServeCall.start]
      have hfault : ∀ e, k.peer.replyFault 0 ≠ some e := by
        intro e he
        have hfailed :=
          (ServeCall.deliver_default hreply (k.start st).index f.header.requestId e).mpr he
        cases hdeliver.symm.trans hfailed
      rw [ServeCall.harmless_frame_iff haccept ha.received ha.authorized]
      simp [hlimit, tolerated_finish, htype, hfault]

end Ipc

namespace Service

open Ipc

/-! ## The tick -/

/-- The host's own calls: the memory query and the listening pipe. -/
structure TickInput.HostCallsSucceed (i : TickInput) : Prop where
  memory : i.memory = .ok ()
  listen : i.peer.listen = .ok ()

namespace ServiceHostDemoState

variable {s : ServiceHostDemoState} {i : TickInput}

/-- If the tick turns to a client at all, it is a harmless one. -/
def HarmlessTick (s : ServiceHostDemoState) (i : TickInput) : Prop :=
  ∀ intake, s.intake = some intake → s.ipcEnabled = true →
    (intake.ipcSafeMode.shouldAcceptClients intake.safeModeOptions i.clock.accept).1 = true →
    (s.serveCall i intake).Harmless s.lastFacts

/-- Only the ledger changes. -/
theorem recordHost_eq (s : ServiceHostDemoState) (i : TickInput) :
    ∃ presence, s.recordHost i = { s with ipcPresence := presence } := by
  unfold recordHost
  split
  · exact ⟨s.ipcPresence, rfl⟩
  · split
    · exact ⟨_, rfl⟩
    · exact ⟨s.ipcPresence, rfl⟩

theorem observeVerdict_flag {intake : Intake} (h : s.intake = some intake)
    (verdict : IpcClientVerdict) :
    (s.observeVerdict i verdict).ipcAuthRejected =
      (s.ipcAuthRejected || decide (verdict ≠ .accepted)) := by
  unfold observeVerdict
  rw [h]
  by_cases hv : verdict = .accepted
  · simp [hv]
  · simp [hv]

theorem observeVerdict_intake {intake : Intake} (h : s.intake = some intake)
    (verdict : IpcClientVerdict) :
    ∃ intake', (s.observeVerdict i verdict).intake = some intake' := by
  unfold observeVerdict
  rw [h]
  by_cases hv : verdict = .accepted
  · simp [hv]
  · simp [hv]

theorem foldl_observeVerdict_flag {intake : Intake} (h : s.intake = some intake)
    (verdicts : List IpcClientVerdict) :
    (verdicts.foldl (fun s verdict => s.observeVerdict i verdict) s).ipcAuthRejected =
      (s.ipcAuthRejected || verdicts.any fun verdict => verdict ≠ .accepted) := by
  induction verdicts generalizing s intake with
  | nil => simp
  | cons verdict verdicts ih =>
    obtain ⟨intake', h'⟩ := observeVerdict_intake (i := i) h verdict
    rw [List.foldl_cons, ih h', observeVerdict_flag h, List.any_cons, Bool.or_assoc]

/-- The flag after a client: somebody was refused. -/
theorem noteTrace_admitting_flag (intake : Intake) (t : ServeTrace LastFacts) :
    ((s.admitting i intake).noteTrace i t).ipcAuthRejected = true ↔
      ∃ verdict ∈ t.verdicts, verdict ≠ .accepted := by
  unfold noteTrace
  rw [foldl_observeVerdict_flag rfl]
  simp [admitting]

theorem visited_flag (intake : Intake) :
    (s.visited i intake).ipcAuthRejected = true ↔
      ∃ verdict ∈ ((s.serveCall i intake).serve s.lastFacts).verdicts, verdict ≠ .accepted :=
  noteTrace_admitting_flag intake _

theorem Turns.harmlessTick_iff {intake : Intake} (h : s.Turns i intake)
    (hlisten : i.peer.listen = .ok ()) :
    s.HarmlessTick i ↔ Tolerated ((s.serveCall i intake).serve s.lastFacts) := by
  rw [serve_tolerated_iff rfl hlisten fun _ _ => rfl]
  constructor
  · exact fun hharmless => hharmless intake h.found h.enabled h.accepts
  · intro hharmless intake' heq _ _
    cases h.found.symm.trans heq
    exact hharmless

end ServiceHostDemoState

/-- A tick of a host whose own calls succeed fails exactly on a client that is not harmless. -/
theorem serviceWorkloadTick_ok_iff {s : ServiceHostDemoState} {i : TickInput}
    (h : i.HostCallsSucceed) : (serviceWorkloadTick s i).1 = .ok () ↔ s.HarmlessTick i := by
  have hhost : s.HarmlessTick i ↔
      ({ s with tickCount := s.tickCount + 1 }.recordHost i).HarmlessTick i := by
    obtain ⟨presence, heq⟩ :=
      ServiceHostDemoState.recordHost_eq { s with tickCount := s.tickCount + 1 } i
    rw [heq]
    rfl
  have hend := tick_end (s := s) h.memory
  rw [hhost]
  generalize { s with tickCount := s.tickCount + 1 }.recordHost i = s₁ at hend ⊢
  generalize serviceWorkloadTick s i = out at hend ⊢
  cases hend with
  | closed hoff =>
    refine iff_of_true rfl fun intake hintake henabled => ?_
    rw [hoff intake hintake] at henabled
    cases henabled
  | paused hintake hpaused =>
    refine iff_of_true rfl fun intake heq _ haccepts => ?_
    cases hintake.symm.trans heq
    rw [hpaused] at haccepts
    cases haccepts
  | served hturns hresult =>
    exact iff_of_true rfl ((hturns.harmlessTick_iff h.listen).mpr (.inl ⟨_, hresult⟩))
  | timeout hturns hresult htimeout =>
    exact iff_of_true rfl ((hturns.harmlessTick_iff h.listen).mpr (.inr ⟨_, hresult, .inl htimeout⟩))
  | refused hturns hresult hrefused =>
    have hverdict := (ServiceHostDemoState.visited_flag _).mp hrefused
    exact iff_of_true rfl ((hturns.harmlessTick_iff h.listen).mpr (.inr ⟨_, hresult, .inr hverdict⟩))
  | failed hturns hresult htimeout hrefused =>
    refine iff_of_false (fun hok => nomatch hok) ?_
    rw [hturns.harmlessTick_iff h.listen]
    rintro (⟨result, hok⟩ | ⟨e', herror, htolerated⟩)
    · cases hresult.symm.trans hok
    · cases hresult.symm.trans herror
      rcases htolerated with ht | hverdict
      · exact htimeout ht
      · exact hrefused ((ServiceHostDemoState.visited_flag _).mpr hverdict)

/-! ## The loop -/

namespace HostLoop

/-- The loop has not ended by a failure. -/
def Survives (l : HostLoop) : Prop := ∀ e, l.ended ≠ some (.failed e)

/-- If the turn gets as far as its tick, the tick meets no harmful client. -/
def HarmlessRound (deadline : Option Int) (l : HostLoop) (r : Round) : Prop :=
  l.Ticks deadline r → l.state.HarmlessTick r.tick

variable {deadline : Option Int} {l : HostLoop} {r : Round}

theorem round_of_not_ticks (hl : l.Survives) (h : ¬ l.Ticks deadline r) :
    (l.round deadline r).Survives := by
  unfold round
  split
  · exact hl
  · case _ hended =>
    split
    · intro e he
      cases he
    · case _ hstop =>
      split
      · intro e he
        cases he
      · case _ hdeadline =>
        exfalso
        apply h
        refine ⟨by simpa using hended, by simpa using hstop, ?_⟩
        intro d hd
        have hd' : deadline = some d := hd
        simp only [hd', Option.any_some, ge_iff_le, decide_eq_true_eq, not_le] at hdeadline
        exact hdeadline

theorem round_of_ticks (h : l.Ticks deadline r) :
    (l.round deadline r).Survives ↔ (serviceWorkloadTick l.state r.tick).1 = .ok () := by
  obtain ⟨hended, hstop, hbefore⟩ := h
  have hdeadline : deadline.any (r.now ≥ ·) = false := by
    cases deadline with
    | none => rfl
    | some d =>
      have hlt := hbefore d rfl
      simp only [Option.any_some, ge_iff_le, decide_eq_false_iff_not, not_le]
      exact hlt
  unfold round
  simp only [hended, Option.isSome_none, Bool.false_eq_true, if_false, hstop, hdeadline]
  cases htick : serviceWorkloadTick l.state r.tick with
  | mk result s =>
    cases result with
    | error e => simp [Survives]
    | ok u => simp [Survives]

theorem round_survives_iff (hcalls : r.tick.HostCallsSucceed) (hl : l.Survives) :
    (l.round deadline r).Survives ↔ l.HarmlessRound deadline r := by
  unfold HarmlessRound
  by_cases h : l.Ticks deadline r
  · rw [round_of_ticks h, serviceWorkloadTick_ok_iff hcalls]
    simp [h]
  · simp [h, round_of_not_ticks hl h]

end HostLoop

/-- While the host's own calls succeed, `RunLoop` never ends by a failed tick exactly when every
client that a tick turns to is harmless. -/
theorem host_survives_iff (deadline : Option Int) (s : ServiceHostDemoState) (rounds : List Round)
    (hcalls : ∀ r ∈ rounds, r.tick.HostCallsSucceed) :
    Always (HostLoop.round deadline) HostLoop.Survives { state := s } rounds ↔
      Steps (HostLoop.round deadline) (HostLoop.HarmlessRound deadline) { state := s } rounds := by
  apply always_iff_steps_of_forall (I := HostLoop.Survives) (P := HostLoop.Survives)
    (φ := fun r => r.tick.HostCallsSucceed)
  · intro l r hcall hl hok
    exact (HostLoop.round_survives_iff hcall hl).mpr hok
  · intro l hl
    exact hl
  · intro l r hcall hl hbad hnext
    exact hbad ((HostLoop.round_survives_iff hcall hl).mp hnext)
  · intro e he
    cases he
  · exact hcalls

/-- A host that serves Agents on its pipe, and has seen none. -/
def agentHost : ServiceHostDemoState :=
  { ipcEnabled := true, intake := some { ipcSession := { persistentAccept := true } } }

/-- An Agent of an interactive session that sends a ping, and then nobody. -/
def quietRounds : List Round :=
  [{ tick := { peer :=
      { identity := { pid := 1, sessionId := 1 }, input := makeFrame .ping 7 [] } } },
    { tick := { peer := { accept := .error (.fromWin32 errorTimeout "ConnectNamedPipe") } } }]

theorem agentHost_survives_quietRounds :
    Always (HostLoop.round none) HostLoop.Survives { state := agentHost } quietRounds := by
  have hcalls : ∀ r ∈ quietRounds, r.tick.HostCallsSucceed := by
    intro r hr
    simp only [quietRounds, List.mem_cons, List.not_mem_nil, or_false] at hr
    rcases hr with rfl | rfl <;> exact ⟨rfl, rfl⟩
  apply (host_survives_iff none agentHost quietRounds hcalls).mpr
  refine ⟨?_, ?_, trivial⟩
  · intro _ intake hintake _ _
    cases hintake
    exact .answered rfl rfl rfl (.inl rfl) (fun e he => by cases he)
  · intro _ intake _ _ _
    exact .noClient rfl rfl

/-- A client that connects and closes at once. -/
def hangUpRound : Round := { tick := { peer := { identity := { pid := 1, sessionId := 1 } } } }

theorem hang_up_ends_host :
    ¬ ∀ (deadline : Option Int) (s : ServiceHostDemoState) (rounds : List Round),
      (∀ r ∈ rounds, r.tick.HostCallsSucceed) →
      Always (HostLoop.round deadline) HostLoop.Survives { state := s } rounds := by
  intro h
  have hcalls : ∀ r ∈ [hangUpRound], r.tick.HostCallsSucceed := by
    intro r hr
    rw [List.mem_singleton.mp hr]
    exact ⟨rfl, rfl⟩
  have hlast := (h none agentHost [hangUpRound] hcalls).last
  exact hlast (.fromWin32 errorBrokenPipe "ReadAll") rfl

end Service

end CppOptimizer
