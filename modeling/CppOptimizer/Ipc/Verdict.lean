import CppOptimizer.Ipc.Session
import CppOptimizer.Lib.Run

/-!
# CppOptimizer.Ipc.Verdict

What `verdictObserver` hears of a connection. The refusal of a credential is only noted in the loop
and reported at its normal end, so a frame that fails later swallows it.

* `VerdictReported` — what the observer is owed.
* `Exchange`        — one frame answered, and the loop goes on.
* `Breaks`          — the turn ends the connection by an early return.
* `AuthLost`        — a refused credential is followed by such a turn, or its own reply breaks.
-/

namespace CppOptimizer
namespace Ipc

open Common

variable {η : Type}

/-- At most one verdict; a refused credential and a refused client are each reported as such. -/
structure VerdictReported (t : ServeTrace η) : Prop where
  once : t.verdicts.length ≤ 1
  authFailed : (t.produced.any fun p => p.2.isAuthFailed) = true → t.verdicts = [.authFailed]
  unauthorized : t.rejected = true → t.verdicts = [.unauthorizedClient]

namespace ServeCall

variable (k : ServeCall η)

/-! ## The conversation -/

/-- A frame of a client that is let in reaches the handler, which answers it with `reply`. -/
structure Answers (s : LoopState η) (f : Frame) (reply : IpcReply) (st : η) : Prop where
  received : k.receive s = .frame f
  authorized : k.options.authorize k.peer.identity = .ok ()
  handled : k.handle (k.request f) s.handlerState = (.ok reply, st)

inductive Exchange : LoopState η → LoopState η → Prop where
  | mk {s : LoopState η} {f : Frame} {reply : IpcReply} {st : η} :
      k.Answers s f reply st → k.deliver s.index f.header.requestId reply = .ok () →
      ¬ k.LimitReached (k.advance s f reply st) → Exchange s (k.advance s f reply st)

inductive Breaks (s : LoopState η) : Prop where
  | read {e : Error} {errorCodes : List (UInt32 × IpcErrorCode)} :
      k.receive s = .failed e errorCodes → Breaks s
  | handler {f : Frame} {e : Error} {st : η} :
      k.receive s = .frame f → k.options.authorize k.peer.identity = .ok () →
      k.handle (k.request f) s.handlerState = (.error e, st) → Breaks s
  | reply {f : Frame} {reply : IpcReply} {st : η} {e : Error} :
      k.Answers s f reply st → k.deliver s.index f.header.requestId reply = .error e → Breaks s

/-- The frame at hand is answered `Error(AuthFailed)`. -/
def RefusesToken (s : LoopState η) : Prop :=
  ∃ f reply st, k.Answers s f reply st ∧ reply.isAuthFailed = true

def AuthLost : LoopState η → Prop :=
  Lib.Eventually k.Exchange fun s => k.RefusesToken s ∧ Lib.Eventually k.Exchange k.Breaks s

/-! ## What a turn does -/

/-- Every way a turn of the loop can go. -/
inductive TurnCase (s : LoopState η) : Turn η → Prop where
  | finished {reason : IpcSessionEndReason} :
      k.receive s = .finished reason → TurnCase s (.ended (s.finish reason))
  | failed {e : Error} {errorCodes : List (UInt32 × IpcErrorCode)} :
      k.receive s = .failed e errorCodes → TurnCase s (.ended (s.fail e errorCodes))
  | refused {f : Frame} {e : Error} :
      k.receive s = .frame f → k.options.authorize k.peer.identity = .error e →
      TurnCase s (.ended (s.reject e f.header.requestId))
  | handlerFailed {f : Frame} {e : Error} {st : η} {errorCodes : List (UInt32 × IpcErrorCode)} :
      k.receive s = .frame f → k.options.authorize k.peer.identity = .ok () →
      k.handle (k.request f) s.handlerState = (.error e, st) →
      TurnCase s (.ended ({ s with handlerState := st }.fail e errorCodes))
  | replyFailed {f : Frame} {reply : IpcReply} {st : η} {e : Error} :
      k.Answers s f reply st → k.deliver s.index f.header.requestId reply = .error e →
      TurnCase s (.ended ((k.noteReply s f reply st).fail e []))
  | served {f : Frame} {reply : IpcReply} {st : η} :
      k.Answers s f reply st → k.deliver s.index f.header.requestId reply = .ok () →
      TurnCase s (.served (k.advance s f reply st))

theorem serveFrame_cases (s : LoopState η) : k.TurnCase s (k.serveFrame s) := by
  unfold serveFrame
  split
  · case _ reason hrecv => exact .finished hrecv
  · case _ e errorCodes hrecv => exact .failed hrecv
  · case _ f hrecv =>
    split
    · case _ e hauth => exact .refused hrecv hauth
    · case _ hauth =>
      split
      · case _ e st hhandle => exact .handlerFailed hrecv hauth hhandle
      · case _ reply st hhandle =>
        split
        · case _ e hdeliver => exact .replyFailed ⟨hrecv, hauth, hhandle⟩ hdeliver
        · case _ hdeliver => exact .served ⟨hrecv, hauth, hhandle⟩ hdeliver

variable {k} {s : LoopState η}

theorem readAll_ok {peer : Peer} {fault : Option Error} {n : Nat} {input a b : Bytes}
    (h : readAll peer fault n input = .ok (a, b)) :
    n ≤ input.length ∧ a = input.take n ∧ b = input.drop n := by
  unfold readAll at h
  split at h
  · cases h
  · split at h
    · case _ hle =>
      cases h
      exact ⟨hle, rfl, rfl⟩
    · cases h

/-- A frame is the header at the front of the input and the payload it announces. -/
theorem receive_frame {f : Frame} (h : k.receive s = .frame f) :
    kIpcHeaderSize ≤ s.input.length ∧
      parseHeader (s.input.take kIpcHeaderSize) = .ok f.header ∧
      f.header.payloadLength.toNat ≤ (s.input.drop kIpcHeaderSize).length ∧
      f.payload = (s.input.drop kIpcHeaderSize).take f.header.payloadLength.toNat ∧
      f.rest = (s.input.drop kIpcHeaderSize).drop f.header.payloadLength.toNat := by
  unfold receive at h
  split at h
  · split at h <;> cases h
  · split at h
    · split at h
      · cases h
      · split at h <;> cases h
    · case _ headerBytes rest hheader =>
      obtain ⟨hle, rfl, rfl⟩ := readAll_ok hheader
      split at h
      · cases h
      · case _ header hparse =>
        split at h
        · split at h
          · cases h
          · case _ payload rest hpayload =>
            obtain ⟨hle', rfl, rfl⟩ := readAll_ok hpayload
            cases h
            exact ⟨hle, hparse, hle', rfl, rfl⟩
        · case _ hzero =>
          cases h
          have hnone : header.payloadLength.toNat = 0 := by
            have hle0 := UInt32.le_iff_toNat_le.mp (UInt32.not_lt.mp hzero)
            exact Nat.le_zero.mp hle0
          refine ⟨hle, hparse, ?_, ?_, ?_⟩
          · simp [hnone]
          · simp [hnone]
          · simp [hnone]

/-- A frame takes at least its header from the input. -/
theorem receive_shortens {f : Frame} (h : k.receive s = .frame f) :
    f.rest.length < s.input.length := by
  obtain ⟨hle, -, -, -, hrest⟩ := receive_frame h
  have h16 : kIpcHeaderSize = 16 := rfl
  rw [hrest, List.length_drop, List.length_drop]
  omega

/-! ## The conversation at each kind of turn -/

theorem not_answers_of_finished {reason : IpcSessionEndReason} (h : k.receive s = .finished reason)
    (f : Frame) (reply : IpcReply) (st : η) : ¬ k.Answers s f reply st := by
  intro ha
  rw [ha.received] at h
  cases h

theorem not_exchange_of_not_answers (h : ∀ f reply st, ¬ k.Answers s f reply st)
    (s' : LoopState η) : ¬ k.Exchange s s' := by
  intro he
  cases he with
  | mk ha _ _ => exact h _ _ _ ha

theorem not_refusesToken_of_not_answers (h : ∀ f reply st, ¬ k.Answers s f reply st) :
    ¬ k.RefusesToken s := by
  rintro ⟨f, reply, st, ha, _⟩
  exact h f reply st ha

theorem Answers.unique {f g : Frame} {reply reply' : IpcReply} {st st' : η}
    (h : k.Answers s f reply st) (h' : k.Answers s g reply' st') :
    f = g ∧ reply = reply' ∧ st = st' := by
  have hrecv := h.received.symm.trans h'.received
  cases hrecv
  have hhandle := h.handled.symm.trans h'.handled
  cases hhandle
  exact ⟨rfl, rfl, rfl⟩

theorem refusesToken_iff {f : Frame} {reply : IpcReply} {st : η} (h : k.Answers s f reply st) :
    k.RefusesToken s ↔ reply.isAuthFailed = true := by
  constructor
  · rintro ⟨g, reply', st', h', hauth⟩
    obtain ⟨_, rfl, _⟩ := h.unique h'
    exact hauth
  · intro hauth
    exact ⟨f, reply, st, h, hauth⟩

/-- A turn whose reply is written does not break. -/
theorem not_breaks_of_deliver {f : Frame} {reply : IpcReply} {st : η} (h : k.Answers s f reply st)
    (hdeliver : k.deliver s.index f.header.requestId reply = .ok ()) : ¬ k.Breaks s := by
  intro hb
  cases hb with
  | read hrecv => simp [h.received] at hrecv
  | handler hrecv _ hhandle =>
    have hrecv' := h.received.symm.trans hrecv
    cases hrecv'
    simp [h.handled] at hhandle
  | reply h' hdeliver' =>
    obtain ⟨rfl, rfl, rfl⟩ := h.unique h'
    simp [hdeliver] at hdeliver'

theorem exchange_iff {f : Frame} {reply : IpcReply} {st : η} (h : k.Answers s f reply st)
    (hdeliver : k.deliver s.index f.header.requestId reply = .ok ())
    (hlimit : ¬ k.LimitReached (k.advance s f reply st)) (s' : LoopState η) :
    k.Exchange s s' ↔ s' = k.advance s f reply st := by
  constructor
  · intro he
    cases he with
    | mk h' _ _ =>
      obtain ⟨rfl, rfl, rfl⟩ := h.unique h'
      rfl
  · intro hs'
    subst hs'
    exact .mk h hdeliver hlimit

theorem exchange_iff_served {s' : LoopState η} :
    k.Exchange s s' ↔ k.serveFrame s = .served s' ∧ ¬ k.LimitReached s' := by
  constructor
  · rintro ⟨ha, hdeliver, hlimit⟩
    refine ⟨?_, hlimit⟩
    simp [serveFrame, ha.received, ha.authorized, ha.handled, hdeliver]
  · rintro ⟨hturn, hlimit⟩
    have hcases := k.serveFrame_cases s
    rw [hturn] at hcases
    cases hcases with
    | served ha hdeliver => exact .mk ha hdeliver hlimit

/-! ## The whole loop -/

theorem Exchange.shortens {s' : LoopState η} (h : k.Exchange s s') :
    s'.input.length < s.input.length := by
  cases h with
  | mk ha _ _ => exact receive_shortens ha.received

/-- The loop goes on from every state it exchanges its way to. -/
theorem serveFrames_of_reached {fuel : Nat} {s' : LoopState η} (hfuel : s.input.length < fuel)
    (h : Relation.ReflTransGen k.Exchange s s') :
    ∃ fuel', s'.input.length < fuel' ∧ k.serveFrames fuel s = k.serveFrames fuel' s' := by
  induction h using Relation.ReflTransGen.head_induction_on generalizing fuel with
  | refl => exact ⟨fuel, hfuel, rfl⟩
  | head hstep _ ih =>
    cases fuel with
    | zero => omega
    | succ fuel =>
      obtain ⟨hturn, hlimit⟩ := exchange_iff_served.mp hstep
      obtain ⟨fuel', hfuel', heq⟩ :=
        ih (Nat.lt_of_lt_of_le hstep.shortens (Nat.le_of_lt_succ hfuel))
      refine ⟨fuel', hfuel', ?_⟩
      rw [serveFrames, hturn]
      simp only [hlimit, if_false]
      exact heq

theorem serveFrames_ended {fuel : Nat} {t : ServeTrace η} (hfuel : s.input.length < fuel)
    (h : k.serveFrame s = .ended t) : k.serveFrames fuel s = t := by
  cases fuel with
  | zero => omega
  | succ fuel => rw [serveFrames, h]

/-- It ends with a turn that ends it, or with the last frame it may serve. -/
theorem serveFrames_end {fuel : Nat} (hfuel : s.input.length < fuel) :
    ∃ s', Relation.ReflTransGen k.Exchange s s' ∧
      (k.serveFrame s' = .ended (k.serveFrames fuel s) ∨
        ∃ s'', k.serveFrame s' = .served s'' ∧ k.LimitReached s'' ∧
          k.serveFrames fuel s = s''.finish .clientClosed) := by
  -- Each turn takes a header from the input, so the fuel outlasts the frames.
  induction fuel generalizing s with
  | zero => omega
  | succ fuel ih =>
    cases hturn : k.serveFrame s with
    | ended t =>
      refine ⟨s, .refl, .inl ?_⟩
      rw [hturn, serveFrames_ended hfuel hturn]
    | served s' =>
      by_cases hlimit : k.LimitReached s'
      · refine ⟨s, .refl, .inr ⟨s', hturn, hlimit, ?_⟩⟩
        rw [serveFrames, hturn]
        simp only [hlimit, if_true]
      · have hstep : k.Exchange s s' := exchange_iff_served.mpr ⟨hturn, hlimit⟩
        have hshort := hstep.shortens
        obtain ⟨t, hreach, hend⟩ := ih (s := s') (by omega)
        have heq : k.serveFrames (fuel + 1) s = k.serveFrames fuel s' := by
          rw [serveFrames, hturn]
          simp only [hlimit, if_false]
        rw [heq]
        exact ⟨t, .head hstep hreach, hend⟩

/-- What the locals say of the frames answered so far. -/
structure Noted (k : ServeCall η) (s : LoopState η) : Prop where
  flag : s.clientAuthRejected = s.produced.any fun p => p.2.isAuthFailed
  authorized : s.produced ≠ [] → k.options.authorize k.peer.identity = .ok ()

theorem Noted.advance {f : Frame} {reply : IpcReply} {st : η} (h : k.Noted s)
    (ha : k.Answers s f reply st) : k.Noted (k.advance s f reply st) where
  flag := by simp [ServeCall.advance, noteReply, h.flag]
  authorized := fun _ => ha.authorized

theorem Noted.finish (h : k.Noted s) (reason : IpcSessionEndReason) :
    VerdictReported (s.finish reason) where
  once := by simp [LoopState.finish]
  authFailed := by
    intro hany
    have hflag : s.clientAuthRejected = true := h.flag.trans hany
    simp [LoopState.finish, hflag]
  unauthorized := by simp [LoopState.finish]

theorem Noted.reject {e : Error} (h : k.Noted s)
    (hauth : k.options.authorize k.peer.identity = .error e) (requestId : UInt32) :
    VerdictReported (s.reject e requestId) where
  once := by simp [LoopState.reject]
  authFailed := by
    intro hany
    have hproduced : s.produced ≠ [] := by
      intro hnil
      simp [LoopState.reject, LoopState.fail, hnil] at hany
    simp [h.authorized hproduced] at hauth
  unauthorized := by simp [LoopState.reject]

/-- An early return reports nothing, which is right only if no credential was refused. -/
theorem verdictReported_fail (e : Error) (errorCodes : List (UInt32 × IpcErrorCode)) :
    VerdictReported (s.fail e errorCodes) ↔
      (s.produced.any fun p => p.2.isAuthFailed) = false := by
  constructor
  · intro h
    by_contra hany
    have hverdicts := h.authFailed (by simpa [LoopState.fail] using hany)
    simp [LoopState.fail] at hverdicts
  · intro hany
    exact ⟨by simp [LoopState.fail], by simp [LoopState.fail, hany], by simp [LoopState.fail]⟩

/-- From `s` on a refused credential goes unreported: it was refused before, or will be. -/
def Unreported (k : ServeCall η) (s : LoopState η) : Prop :=
  (s.clientAuthRejected = true ∧ Lib.Eventually k.Exchange k.Breaks s) ∨ k.AuthLost s

/-- A turn without an exchange decides the matter by itself. -/
theorem unreported_of_stuck (h : ∀ s', ¬ k.Exchange s s') :
    k.Unreported s ↔ (s.clientAuthRejected = true ∨ k.RefusesToken s) ∧ k.Breaks s := by
  unfold Unreported AuthLost
  rw [Lib.eventually_of_stuck h, Lib.eventually_of_stuck h, Lib.eventually_of_stuck h, or_and_right]

theorem unreported_advance {f : Frame} {reply : IpcReply} {st : η} (ha : k.Answers s f reply st)
    (hdeliver : k.deliver s.index f.header.requestId reply = .ok ())
    (hlimit : ¬ k.LimitReached (k.advance s f reply st)) :
    k.Unreported s ↔ k.Unreported (k.advance s f reply st) := by
  have hstep := exchange_iff ha hdeliver hlimit
  have hbreaks := not_breaks_of_deliver ha hdeliver
  have hflag : (k.advance s f reply st).clientAuthRejected = true ↔
      s.clientAuthRejected = true ∨ reply.isAuthFailed = true := by
    simp [ServeCall.advance, noteReply]
  have hlater : Lib.Eventually k.Exchange k.Breaks s ↔
      Lib.Eventually k.Exchange k.Breaks (k.advance s f reply st) := by
    rw [Lib.eventually_of_step hstep, or_iff_right hbreaks]
  have hlost : k.AuthLost s ↔
      (reply.isAuthFailed = true ∧ Lib.Eventually k.Exchange k.Breaks (k.advance s f reply st)) ∨
        k.AuthLost (k.advance s f reply st) := by
    rw [← hlater, ← refusesToken_iff ha]
    exact Lib.eventually_of_step hstep
  unfold Unreported
  rw [hlater, hlost, hflag, or_and_right, or_assoc]

/-- A turn that ends the call decides what is reported. -/
theorem ended_verdict {t : ServeTrace η} (hnoted : k.Noted s) (hturn : k.TurnCase s (.ended t)) :
    VerdictReported t ↔ ¬ k.Unreported s := by
  cases hturn with
  | @finished reason hrecv =>
    have hn := not_answers_of_finished hrecv
    have hbreaks : ¬ k.Breaks s := by
      intro hb
      cases hb with
      | read h => simp [hrecv] at h
      | handler h => simp [hrecv] at h
      | reply h => exact hn _ _ _ h
    rw [unreported_of_stuck (not_exchange_of_not_answers hn)]
    simp [hbreaks, hnoted.finish]
  | @failed e errorCodes hrecv =>
    have hn : ∀ f reply st, ¬ k.Answers s f reply st := by
      intro f reply st h
      simp [h.received] at hrecv
    have hbreaks : k.Breaks s := .read hrecv
    rw [unreported_of_stuck (not_exchange_of_not_answers hn), verdictReported_fail]
    simp [hbreaks, not_refusesToken_of_not_answers hn, hnoted.flag]
  | @refused f e hrecv hauth =>
    have hn : ∀ f reply st, ¬ k.Answers s f reply st := by
      intro f reply st h
      simp [h.authorized] at hauth
    have hbreaks : ¬ k.Breaks s := by
      intro hb
      cases hb with
      | read h => simp [hrecv] at h
      | handler _ h => simp [hauth] at h
      | reply h => exact hn _ _ _ h
    rw [unreported_of_stuck (not_exchange_of_not_answers hn)]
    simp [hbreaks, hnoted.reject hauth]
  | @handlerFailed f e st errorCodes hrecv hauth hhandle =>
    have hn : ∀ f reply st, ¬ k.Answers s f reply st := by
      intro g reply st' h
      cases hrecv.symm.trans h.received
      simp [h.handled] at hhandle
    have hbreaks : k.Breaks s := .handler hrecv hauth hhandle
    rw [unreported_of_stuck (not_exchange_of_not_answers hn), verdictReported_fail]
    simp [hbreaks, not_refusesToken_of_not_answers hn, hnoted.flag]
  | @replyFailed f reply st e ha hdeliver =>
    have hstuck : ∀ s', ¬ k.Exchange s s' := by
      intro s' he
      cases he with
      | mk h' hdeliver' _ =>
        obtain ⟨rfl, rfl, rfl⟩ := ha.unique h'
        simp [hdeliver] at hdeliver'
    have hbreaks : k.Breaks s := .reply ha hdeliver
    rw [unreported_of_stuck hstuck, verdictReported_fail, refusesToken_iff ha]
    simp [hbreaks, noteReply, hnoted.flag]

/-- The last frame allowed: its reply is written, so nothing is lost. -/
theorem not_unreported_of_limit {f : Frame} {reply : IpcReply} {st : η}
    (ha : k.Answers s f reply st) (hdeliver : k.deliver s.index f.header.requestId reply = .ok ())
    (hlimit : k.LimitReached (k.advance s f reply st)) : ¬ k.Unreported s := by
  have hstuck : ∀ s', ¬ k.Exchange s s' := by
    intro s' he
    cases he with
    | mk h' _ hlimit' =>
      obtain ⟨rfl, rfl, rfl⟩ := ha.unique h'
      exact hlimit' hlimit
  rw [unreported_of_stuck hstuck]
  simp [not_breaks_of_deliver ha hdeliver]

theorem serveFrames_verdict {fuel : Nat} (hnoted : k.Noted s) (hfuel : s.input.length < fuel) :
    VerdictReported (k.serveFrames fuel s) ↔ ¬ k.Unreported s := by
  -- Each turn takes a header from the input, so the fuel outlasts the frames.
  induction fuel generalizing s with
  | zero => omega
  | succ fuel ih =>
    have hturn := k.serveFrame_cases s
    unfold serveFrames
    generalize k.serveFrame s = turn at hturn
    cases turn with
    | ended t => exact ended_verdict hnoted hturn
    | served s' =>
      cases hturn with
      | @served f reply st ha hdeliver =>
        have hnoted' := hnoted.advance ha
        by_cases hlimit : k.LimitReached (k.advance s f reply st)
        · simp [hlimit, hnoted'.finish, not_unreported_of_limit ha hdeliver hlimit]
        · have hshort : (k.advance s f reply st).input.length < fuel := by
            have hrest := receive_shortens ha.received
            have hinput : (k.advance s f reply st).input = f.rest := rfl
            rw [hinput]
            omega
          simp only [hlimit, if_false]
          rw [ih hnoted' hshort, unreported_advance ha hdeliver hlimit]

end ServeCall

/-- The observer hears what it is owed of a connection exactly when no frame fails at or after one
that is answered `Error(AuthFailed)`. -/
theorem verdict_reported_iff (k : ServeCall η) (st : η) :
    VerdictReported (k.serve st) ↔ ¬ (k.accepted = .ok () ∧ k.AuthLost (k.start st)) := by
  unfold ServeCall.serve
  split
  · case _ e hacc =>
    simp only [hacc, reduceCtorEq, false_and, not_false_iff, iff_true]
    exact ⟨by simp, by simp, by simp⟩
  · case _ hacc =>
    have hnoted : k.Noted (k.start st) := ⟨rfl, fun h => absurd rfl h⟩
    have hfuel : (k.start st).input.length < k.peer.input.length + 1 := Nat.lt_succ_self _
    rw [ServeCall.serveFrames_verdict hnoted hfuel]
    simp [ServeCall.Unreported, ServeCall.start, hacc]

/-- A service that expects a token, and a client that sends facts without one and is gone before
the reply is written. -/
def hastyClient : ServeCall Unit where
  options := { expectedToken := [0x74] }
  handler := none
  mode := .one
  peer :=
    { identity := { pid := 1, sessionId := 1 }
      input := makeFrame .factsSnapshot 1 (ascii "CPOPFACTS/1\nobserver=x")
      replyFault := fun _ => some (.fromWin32 errorNoData "WriteAll") }

theorem refused_token_unreported : ¬ VerdictReported (hastyClient.serve ()) := by
  have hproduced : ((hastyClient.serve ()).produced.any fun p => p.2.isAuthFailed) = true := by
    decide +kernel
  have hverdicts : (hastyClient.serve ()).verdicts = [] := by decide +kernel
  intro h
  have hnil := h.authFailed hproduced
  simp [hverdicts] at hnil

end Ipc
end CppOptimizer
