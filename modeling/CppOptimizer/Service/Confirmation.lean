import CppOptimizer.Service.Recovery

/-!
# CppOptimizer.Service.Confirmation

Chains of sessions and the confirmation of an abnormal end.

The marker file says two things at once: that a session is running, and that an earlier abnormal end
is unconfirmed. `Session.Sound` is what keeps the two apart: a session that finds the marker set does
not end by clearing it, and no session is killed while the file does not hold a marker.

* `consoleSession_spec` — one session, whichever way it ends.
* `latched_until_confirmed` — whole chains of sound sessions.
-/

namespace CppOptimizer
namespace Service

open Common Config Lib HostProg

/-- The gate is on; a session that finds the marker set and is not confirmed ends abnormally; and a
killed session leaves a marker. -/
def Session.Sound (w : HostWorld) (s : Session) : Prop :=
  s.guardOptions.enabled = true ∧
  match s.killAfter with
  | some n => isRecoveryMarkerSet (s.killedAt w n).marker = true
  | none => s.confirmRecovery = false → isRecoveryMarkerSet w.marker = true → s.fails = true

/-! ## A latched guard -/

theorem latched_refresh {o : SafeModeOptions} {g : SafeModeGuard} (h : g.anomalyLatched = true)
    (now : Int) : g.refresh o now = g := by
  simp [SafeModeGuard.refresh, h]

theorem latched_call {o : SafeModeOptions} {g : SafeModeGuard} (h : g.anomalyLatched = true)
    {c : GuardCall} (hc : c ≠ .event .clearAnomaly) : (g.call o c).anomalyLatched = true := by
  cases c with
  | event e =>
    cases e with
    | clientRejected clock =>
      simp only [SafeModeGuard.call, SafeModeGuard.event, SafeModeGuard.onClientRejected,
        latched_refresh h, h, Bool.or_true, if_true, ite_self]
    | anomalyDetected =>
      simp only [SafeModeGuard.call, SafeModeGuard.event, SafeModeGuard.onAnomalyDetected]
      split
      · exact h
      · rfl
    | clearAnomaly => exact absurd rfl hc
  | query q =>
    rcases query_guard o g q with heq | ⟨now, _, heq⟩
    · exact (congrArg SafeModeGuard.anomalyLatched heq).trans h
    · rw [latched_refresh h] at heq
      exact (congrArg SafeModeGuard.anomalyLatched heq).trans h

theorem latched_run {o : SafeModeOptions} {g : SafeModeGuard} (h : g.anomalyLatched = true)
    (calls : List GuardCall) (hcalls : ∀ c ∈ calls, c ≠ .event .clearAnomaly) :
    (run (SafeModeGuard.call o) g calls).anomalyLatched = true := by
  induction calls generalizing g with
  | nil => exact h
  | cons c calls ih =>
    exact ih (latched_call h (hcalls c List.mem_cons_self))
      fun c hc => hcalls c (List.mem_cons_of_mem _ hc)

theorem neverAccepts_of_latched {o : SafeModeOptions} {g : SafeModeGuard} (ho : o.enabled = true)
    (h : g.anomalyLatched = true) : NeverAccepts o g := by
  intro calls t hcalls
  have hlatched := latched_run (o := o) h calls hcalls
  simp [SafeModeGuard.shouldAcceptClients, SafeModeGuard.refresh, hlatched, ho]

theorem onAnomalyDetected_latched {o : SafeModeOptions} (ho : o.enabled = true)
    (g : SafeModeGuard) : (g.onAnomalyDetected o).anomalyLatched = true := by
  simp [SafeModeGuard.onAnomalyDetected, ho]

/-! ## The marker -/

theorem isRecoveryMarkerSet_content : isRecoveryMarkerSet (some recoveryMarkerContent) = true := by
  decide

/-! ## One session -/

/-- What a session leaves alone until it serves. -/
structure Before (w₀ w : HostWorld) : Prop where
  served : w.served = w₀.served
  options : w.options = w₀.options
  unconfirmed : w.unconfirmed = w₀.unconfirmed

/-- The guard is latched if an abnormal end is unconfirmed. -/
def Checked (w₀ w : HostWorld) : Prop :=
  Before w₀ w ∧ (w₀.unconfirmed = true → w.guard.anomalyLatched = true)

theorem Before.refl (w : HostWorld) : Before w w := ⟨rfl, rfl, rfl⟩

theorem Before.latched {w₀ w : HostWorld} (h : Before w₀ w) (h₀ : LatchedUntilConfirmed w₀) :
    LatchedUntilConfirmed w := by
  intro s hs
  rw [h.served] at hs
  exact h₀ s hs

section Specs

variable {ok : HostWorld → HostCall → Unit → Prop} {P Q C : HostWorld → Prop} {w₀ : HostWorld}

theorem onlyIf_spec {b : Bool} {p : HostProg Unit}
    (hp : b = true → Triple hostHandler ok P p (fun _ => Q) C)
    (hskip : b = false → ∀ w, P w → Q w) :
    Triple hostHandler ok P (onlyIf b p) (fun _ => Q) C := by
  cases b with
  | true => exact hp rfl
  | false => exact Triple.ret (hskip rfl)

theorem checkRecovery_spec (s : Session) (ho : w₀.options.enabled = true)
    (hlatch : s.recoveryLatchEnabled = true)
    (hmark : w₀.unconfirmed = true →
      s.confirmRecovery = false ∧ isRecoveryMarkerSet w₀.marker = true) :
    Triple hostHandler ok (fun w => w = w₀) (checkRecovery s) (fun _ => Checked w₀)
      (Before w₀) := by
  refine Triple.bind (M := fun _ w => Before w₀ w ∧ w.marker = w₀.marker) ?_ fun _ => ?_
  · refine onlyIf_spec (fun _ => ?_) fun _ w hw => hw ▸ ⟨.refl w, rfl⟩
    refine Triple.perform (fun w hw => hw ▸ .refl w₀) fun w _ hw _ => ?_
    subst hw
    exact ⟨⟨rfl, rfl, rfl⟩, rfl⟩
  refine Triple.bind (M := fun _ w => Before w₀ w ∧ (w₀.unconfirmed = true → w.marker = w₀.marker))
    ?_ fun _ => ?_
  · refine onlyIf_spec (fun hc => ?_) fun _ w hw => ⟨hw.1, fun _ => hw.2⟩
    refine Triple.perform (fun w hw => hw.1) fun w _ hw _ => ?_
    refine ⟨⟨hw.1.served, hw.1.options, hw.1.unconfirmed⟩, fun hu => ?_⟩
    exact absurd ((hmark hu).1.symm.trans hc) (by simp)
  refine Triple.bind (M := fun content w =>
      Before w₀ w ∧ (w₀.unconfirmed = true → content = w₀.marker)) ?_ fun content => ?_
  · exact Triple.perform (fun w hw => hw.1) fun w _ hw _ => hw
  refine onlyIf_spec (fun _ => ?_) fun hskip w hw => ⟨hw.1, fun hu => ?_⟩
  · refine Triple.perform (fun w hw => hw.1) fun w _ hw _ => ?_
    refine ⟨⟨hw.1.served, hw.1.options, hw.1.unconfirmed⟩, fun _ => ?_⟩
    exact onAnomalyDetected_latched (by rw [hw.1.options]; exact ho) w.guard
  · -- an unconfirmed end has left the marker, so the check cannot have skipped the latch
    obtain ⟨hconfirm, hset⟩ := hmark hu
    simp [hw.2 hu, hset, hconfirm, hlatch, decideRecoveryAnomalyAction] at hskip

theorem writeChars_spec (text written : Text) :
    Triple hostHandler ok (fun w => Checked w₀ w ∧ w.marker = some written) (writeChars text)
      (fun _ w => Checked w₀ w ∧ w.marker = some (written ++ text)) (Before w₀) := by
  induction text generalizing written with
  | nil => exact Triple.ret fun w hw => by simpa using hw
  | cons ch rest ih =>
    refine Triple.bind (M := fun _ w => Checked w₀ w ∧ w.marker = some (written ++ [ch])) ?_ fun _ => ?_
    · refine Triple.perform (fun w hw => hw.1.1) fun w _ hw _ => ?_
      refine ⟨⟨⟨hw.1.1.served, hw.1.1.options, hw.1.1.unconfirmed⟩, hw.1.2⟩, ?_⟩
      simp [hostHandler, hw.2]
    · refine Triple.post (ih (written ++ [ch])) fun _ w h => ?_
      simpa using h

theorem writeRecoveryMarker_spec :
    Triple hostHandler ok (Checked w₀) writeRecoveryMarker
      (fun _ w => Checked w₀ w ∧ w.marker = some recoveryMarkerContent) (Before w₀) := by
  refine Triple.bind (M := fun _ => Checked w₀) ?_ fun _ => ?_
  · exact Triple.perform (fun w hw => hw.1) fun w _ hw _ => hw
  refine Triple.bind (M := fun _ w => Checked w₀ w ∧ w.marker = some []) ?_ fun _ => ?_
  · refine Triple.perform (fun w hw => hw.1) fun w _ hw _ => ?_
    exact ⟨⟨⟨hw.1.served, hw.1.options, hw.1.unconfirmed⟩, hw.2⟩, rfl⟩
  · exact writeChars_spec recoveryMarkerContent []

/-- What a session that runs to its end leaves behind. -/
structure Ended (s : Session) (w₀ w : HostWorld) : Prop where
  latched : LatchedUntilConfirmed w
  unconfirmed : w.unconfirmed = w₀.unconfirmed
  marked : s.fails = true → isRecoveryMarkerSet w.marker = true

theorem hostSession_spec (s : Session) (ho : w₀.options.enabled = true)
    (h₀ : LatchedUntilConfirmed w₀) :
    Triple hostHandler ok (fun w => Checked w₀ w ∧ w.marker = some recoveryMarkerContent)
      (hostSession s) (fun _ => Ended s w₀) LatchedUntilConfirmed := by
  refine Triple.bind
    (M := fun _ w => Checked w₀ w ∧ w.marker = some recoveryMarkerContent) ?_ fun _ => ?_
  · refine onlyIf_spec (fun _ => ?_) fun _ w hw => hw
    exact Triple.perform (fun w hw => hw.1.1.latched h₀) fun w _ hw _ => hw
  split
  · rename_i htray
    refine Triple.bind (M := fun _ => Before w₀) ?_ fun _ => Triple.ret fun w hw => ?_
    · refine Triple.perform (fun w hw => hw.1.1.latched h₀) fun w _ hw _ => ?_
      exact ⟨hw.1.1.served, hw.1.1.options, hw.1.1.unconfirmed⟩
    · exact ⟨hw.latched h₀, hw.unconfirmed, fun hf => by simp [Session.fails, htray] at hf⟩
  refine Triple.bind (M := fun _ w => LatchedUntilConfirmed w ∧ w.unconfirmed = w₀.unconfirmed ∧
    w.marker = some recoveryMarkerContent) ?_ fun _ => ?_
  · refine Triple.perform (fun w hw => hw.1.1.latched h₀) fun w _ hw _ => ?_
    refine ⟨fun e he hu => ?_, hw.1.1.unconfirmed, hw.2⟩
    rcases List.mem_cons.mp he with rfl | he
    · refine neverAccepts_of_latched (by rw [hw.1.1.options]; exact ho) ?_
      exact hw.1.2 (hw.1.1.unconfirmed.symm.trans hu)
    · exact hw.1.1.latched h₀ e he hu
  split
  · rename_i hsucceeds
    refine Triple.bind (M := fun _ w => LatchedUntilConfirmed w ∧ w.unconfirmed = w₀.unconfirmed)
      ?_ fun _ => Triple.ret fun w hw => ?_
    · exact Triple.perform (fun w hw => hw.1) fun w _ hw _ => ⟨hw.1, hw.2.1⟩
    · exact ⟨hw.1, hw.2, fun hf => by simp [Session.fails, hsucceeds] at hf⟩
  · exact Triple.ret fun w hw => ⟨hw.1, hw.2.1, fun _ => hw.2.2 ▸ isRecoveryMarkerSet_content⟩

theorem consoleSession_spec (s : Session) (ho : w₀.options.enabled = true)
    (hlatch : s.recoveryLatchEnabled = true) (h₀ : LatchedUntilConfirmed w₀)
    (hmark : w₀.unconfirmed = true →
      s.confirmRecovery = false ∧ isRecoveryMarkerSet w₀.marker = true) :
    Triple hostHandler ok (fun w => w = w₀) (consoleSession s) (fun _ => Ended s w₀)
      LatchedUntilConfirmed := by
  have hbefore : ∀ w, Before w₀ w → LatchedUntilConfirmed w := fun w hw => hw.latched h₀
  refine Triple.bind (M := fun _ => Checked w₀) ?_ fun _ => ?_
  · exact Triple.conseq (checkRecovery_spec s ho hlatch hmark) (fun _ h => h) (fun _ _ h => h) hbefore
  refine Triple.bind (M := fun _ w => Checked w₀ w ∧ w.marker = some recoveryMarkerContent)
    ?_ fun _ => ?_
  · exact Triple.conseq writeRecoveryMarker_spec (fun _ h => h) (fun _ _ h => h) hbefore
  · exact hostSession_spec s ho h₀

end Specs

/-! ## Chains of sessions -/

/-- An unconfirmed abnormal end has left its marker. -/
structure SessionInv (w : HostWorld) : Prop where
  latched : LatchedUntilConfirmed w
  marked : w.unconfirmed = true → isRecoveryMarkerSet w.marker = true

theorem session_step_inv {w : HostWorld} {s : Session} (hI : SessionInv w)
    (hlatch : s.recoveryLatchEnabled = true) (hsound : s.Sound w) : SessionInv (s.step w) := by
  obtain ⟨ho, hend⟩ := hsound
  have hmark : (s.start w).unconfirmed = true →
      s.confirmRecovery = false ∧ isRecoveryMarkerSet (s.start w).marker = true := by
    intro hu
    simp only [Session.start, Bool.and_eq_true, Bool.not_eq_true'] at hu
    exact ⟨hu.2, hI.marked hu.1⟩
  have hspec : Triple hostHandler (fun _ _ _ => True) (fun w' => w' = s.start w) (consoleSession s)
      (fun _ => Ended s (s.start w)) LatchedUntilConfirmed :=
    consoleSession_spec s ho hlatch hI.latched hmark
  unfold Session.step
  split
  · rename_i n hkill
    rw [hkill] at hend
    have hlatched : LatchedUntilConfirmed (s.killedAt w n) :=
      (Triple.post hspec fun _ _ h => h.latched).run rfl Prog.answered_true
    exact ⟨hlatched, fun _ => hend⟩
  · rename_i hkill
    rw [hkill] at hend
    have hended := hspec.exec rfl ()
    dsimp only
    split
    · rename_i hfails
      exact ⟨hended.latched, fun _ => hended.marked hfails⟩
    · rename_i hfails
      refine ⟨hended.latched, fun hu => ?_⟩
      -- an unconfirmed end was found at the start, so the session must have failed
      obtain ⟨hconfirm, hset⟩ := hmark (hended.unconfirmed.symm.trans hu)
      exact absurd (hend hconfirm hset) hfails

/-- Along every chain of sound sessions, a session that serves while an abnormal end is unconfirmed
admits no agent. -/
theorem latched_until_confirmed (sessions : List Session)
    (hlatch : ∀ s ∈ sessions, s.recoveryLatchEnabled = true)
    (hsound : Steps Session.step Session.Sound {} sessions) :
    Always Session.step LatchedUntilConfirmed {} sessions :=
  always_of_steps (I := SessionInv) (fun _ _ hI h => session_step_inv hI h.1 h.2)
    (fun _ hI => hI.latched) ⟨by simp [LatchedUntilConfirmed], by simp⟩ (hsound.and_forall hlatch)

/-- Killed in its host loop, failed once more, confirmed, and clean again. -/
theorem latched_until_confirmed_killed :
    Always Session.step LatchedUntilConfirmed {}
      [{ killAfter := some 35 }, { hostSucceeds := false }, { confirmRecovery := true }, {}] := by
  refine latched_until_confirmed _ (by decide) ⟨⟨rfl, ?_⟩, ⟨rfl, ?_⟩, ⟨rfl, ?_⟩, ⟨rfl, ?_⟩, trivial⟩
  · decide
  · exact fun _ _ => rfl
  · exact fun h => by cases h
  · exact fun _ h => absurd h (by decide)

/-- Two chains in which the last session admits agents although nobody confirmed the failure of the
first: the second session is latched and stops cleanly, or it is killed while it rewrites the
marker, which it truncates first. -/
theorem unconfirmed_failure_forgotten :
    ¬ Always Session.step LatchedUntilConfirmed {} [{ hostSucceeds := false }, {}, {}] ∧
      ¬ Always Session.step LatchedUntilConfirmed {}
        [{ hostSucceeds := false }, { killAfter := some 10 }, {}] := by
  refine ⟨fun h => ?_, fun h => ?_⟩
  · have := h.last ⟨true, {}, {}⟩ List.mem_cons_self rfl [] 0 (by simp)
    exact absurd this (by decide)
  · have := h.last ⟨true, {}, {}⟩ List.mem_cons_self rfl [] 0 (by simp)
    exact absurd this (by decide)

end Service
end CppOptimizer
