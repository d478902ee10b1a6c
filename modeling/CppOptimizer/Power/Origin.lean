import CppOptimizer.Lib.Run
import CppOptimizer.Power.SchemeFlow

/-!
# CppOptimizer.Power.Origin

Where a rollback leads after many commands.

* `PowerCommand`  — one `--power-scheme` command with the choices of its calls. Too few choices kill
  it, so the states inside a command are the ends of shorter runs of it.
* `OriginKept w`  — a pending record names the scheme that was active before the oldest switch still
  unconfirmed, and a rollback that reports success leads there.
* `SilentRollback` — the rollback before a new switch reports success without effect. `apply` goes on
  all the same and puts the intermediate scheme into a new pending record.
-/

namespace CppOptimizer
namespace Power

open Common Lib PowerProg

structure PowerCommand where
  action : PowerAction
  choices : List PowerChoice
  allowed : Bool := true

def PowerCommand.step (w : PowerWorld) (cmd : PowerCommand) : PowerWorld :=
  ((runPowerSchemeCommand cmd.allowed cmd.action).run powerHandler w cmd.choices).1

def PowerWorld.pending (w : PowerWorld) : Bool := w.record.any (·.state = .pending)

/-- The call rolls back an unconfirmed switch that did take effect, and is answered with success
although nothing happens. -/
def SilentRollback (w : PowerWorld) (e : PowerCall) (c : PowerChoice) : Prop :=
  match e with
  | .setActive _ =>
    c.scheme = .silent ∧ w.pending = true ∧ w.record.all (·.savedGuid ≠ w.active.text) = true
  | _ => False

/-- No silent rollback inside an `apply`. -/
def PowerCommand.Sound (w : PowerWorld) (cmd : PowerCommand) : Prop :=
  match cmd.action with
  | .apply targetGuid =>
    (runPowerSchemeCommand cmd.allowed (.apply targetGuid)).Answered powerHandler
      (fun w e c => ¬ SilentRollback w e c) w cmd.choices
  | _ => True

structure OriginKept (w : PowerWorld) : Prop where
  saved : ∀ r, w.record = some r → r.state = .pending →
    ∃ g : Guid, w.origin = some g ∧ r.savedGuid = g.text
  recovers : w.pending = true → ∀ cs w' outcome,
    recoverPendingScheme.run powerHandler w cs = (w', some (.ok outcome)) →
      outcome.restored = true → w.origin = some w'.active
  restores : w.pending = true → ∀ cs w' outcome,
    restoreSchemeWithRecord.run powerHandler w cs = (w', some (.ok outcome)) →
      outcome.restored = true → w.origin = some w'.active

/-! ## The invariant -/

/-- A switch is open exactly while the record is pending, and the record names its origin. -/
inductive Inv (w : PowerWorld) : Prop where
  | closed (hpending : w.pending = false) (horigin : w.origin = none)
  | opened (saved : Guid) (target : Option Guid)
      (hrecord : w.record = some { savedGuid := saved.text, targetGuid := target.map Guid.text,
                                   state := .pending })
      (horigin : w.origin = some saved)

/-- No switch is open. -/
def Closed (w : PowerWorld) : Prop := w.pending = false ∧ w.origin = none

theorem Closed.inv {w : PowerWorld} (h : Closed w) : Inv w := .closed h.1 h.2

theorem Inv.setActive {w : PowerWorld} (h : Inv w) (g : Guid) : Inv { w with active := g } := by
  cases h with
  | closed hp ho => exact .closed hp ho
  | opened saved target hr ho => exact .opened saved target hr ho

theorem write_pending (w : PowerWorld) (state : SchemeSaveState) (saved : Guid)
    (target : Option Guid) :
    (w.write (formatSchemeRecord state saved target)).pending = (state = .pending : Bool) := by
  simp [PowerWorld.pending]

/-- A record that is not pending closes the switch. -/
theorem closed_write (w : PowerWorld) (state : SchemeSaveState) (hstate : state ≠ .pending)
    (saved : Guid) (target : Option Guid) :
    Closed (w.write (formatSchemeRecord state saved target)) := by
  refine ⟨?_, ?_⟩
  · rw [write_pending]
    simp [hstate]
  · simp [hstate]

/-- A pending record written while no switch is open names the active scheme as the origin. -/
theorem inv_write_pending {w : PowerWorld} (hw : Closed w) (target : Option Guid) :
    Inv (w.write (formatSchemeRecord .pending w.active target)) :=
  .opened w.active target (by simp) (by simp [hw.2])

/-! ## The flows keep it -/

/-- Every rollback that the choices admit takes effect or is reported as failed. -/
def Loud (ok : PowerWorld → PowerCall → PowerChoice → Prop) : Prop :=
  ∀ w e c, ok w e c → ¬ SilentRollback w e c

section Flows

variable {ok : PowerWorld → PowerCall → PowerChoice → Prop} {P C : PowerWorld → Prop}
  {w₀ : PowerWorld}

/-- What a rollback to `saved` leaves behind. -/
def RolledBack (ok : PowerWorld → PowerCall → PowerChoice → Prop) (w₀ : PowerWorld) (saved : Guid)
    (r : Result SchemeRestoreOutcome) (w : PowerWorld) : Prop :=
  (w = { w₀ with active := saved } ∨
    (w = w₀ ∧ ∀ o, r = .ok o → ∃ c, ok w₀ (.setActive saved) c ∧ c.scheme = .silent)) ∧
  ∀ o, r = .ok o → o.restored = decide (w.active = saved)

theorem restoreScheme_spec (saved : Guid) (hI : Inv w₀) :
    Triple powerHandler ok (fun w => w = w₀) (restoreScheme saved.text) (RolledBack ok w₀ saved)
      Inv := by
  simp only [restoreScheme, normalizeSchemeGuid_text]
  refine orFail_spec (setActive_spec saved fun w hw => hw ▸ hI) ?_ fun _ => ?_
  · rintro e w ⟨_, rfl, h | ⟨h, _⟩⟩
    · exact ⟨.inl h, fun o ho => by cases ho⟩
    · exact ⟨.inr ⟨h, fun o ho => by cases ho⟩, fun o ho => by cases ho⟩
  refine orFail_spec (getActive_spec ?_) ?_ fun active => Triple.ret ?_
  · rintro w ⟨_, rfl, rfl | ⟨rfl, _⟩⟩
    · exact hI.setActive saved
    · exact hI
  · rintro e w ⟨⟨_, rfl, h | ⟨h, _⟩⟩, _⟩
    · exact ⟨.inl h, fun o ho => by cases ho⟩
    · exact ⟨.inr ⟨h, fun o ho => by cases ho⟩, fun o ho => by cases ho⟩
  · rintro w ⟨⟨_, rfl, h⟩, hactive⟩
    refine ⟨h.imp_right fun h => ⟨h.1, fun o _ => h.2 rfl⟩, fun o ho => ?_⟩
    cases ho
    rw [hactive active rfl]

theorem RolledBack.inv {saved : Guid} {r : Result SchemeRestoreOutcome} {w : PowerWorld}
    (h : RolledBack ok w₀ saved r w) (hI : Inv w₀) : Inv w := by
  rcases h.1 with rfl | ⟨rfl, _⟩
  · exact hI.setActive saved
  · exact hI

/-- A rollback that reports success without effect was a silent one. -/
theorem RolledBack.silent {saved : Guid} {restored : SchemeRestoreOutcome} {w : PowerWorld}
    (h : RolledBack ok w₀ saved (.ok restored) w) (hnot : ¬ restored.restored = true) :
    w = w₀ ∧ ∃ c, ok w₀ (.setActive saved) c ∧ c.scheme = .silent := by
  obtain ⟨h, hback⟩ := h
  have hactive : w.active ≠ saved := by
    simpa [hnot] using hback restored rfl
  rcases h with rfl | ⟨rfl, hsilent⟩
  · exact absurd rfl hactive
  · exact ⟨rfl, hsilent restored rfl⟩

/-- A record that is marked restored is closed. -/
theorem closeRecord_spec (saved : Guid) (target : Option Guid) (hI : Inv w₀) :
    Triple powerHandler ok (fun w => w = w₀)
      (saveSchemeRecord
        { savedGuid := saved.text, targetGuid := target.map Guid.text, state := .restored })
      (fun r w => Inv w ∧ (r = .ok () → Closed w)) Inv := by
  refine Triple.post (saveSchemeRecord_spec .restored saved target fun w h => h ▸ hI) ?_
  rintro r w ⟨w₁, rfl, ⟨hr, rfl⟩ | ⟨_, rfl⟩⟩
  · exact ⟨hI, fun h => absurd h hr⟩
  · have hclosed := closed_write w₁ .restored (by simp) saved target
    exact ⟨hclosed.inv, fun _ => hclosed⟩

/-- After a rollback that reads back as done, the record is closed. -/
theorem markRestored_spec (saved : Guid) (target : Option Guid) {restored : SchemeRestoreOutcome}
    (hrestored : restored.restored = true) (hI : Inv w₀) :
    Triple powerHandler ok (RolledBack ok w₀ saved (.ok restored))
      (saveSchemeRecord
        { savedGuid := saved.text, targetGuid := target.map Guid.text, state := .restored })
      (fun r w => Inv w ∧ (r = .ok () → Closed w ∧ w.active = saved)) Inv := by
  refine Triple.post (saveSchemeRecord_spec .restored saved target fun w h => h.inv hI) ?_
  rintro r w ⟨w₁, h, ⟨hr, rfl⟩ | ⟨_, rfl⟩⟩
  · exact ⟨h.inv hI, fun h => absurd h hr⟩
  · have hclosed := closed_write w₁ .restored (by simp) saved target
    refine ⟨hclosed.inv, fun _ => ⟨hclosed, ?_⟩⟩
    simpa [hrestored] using (h.2 restored rfl).symm

/-- The recovery of an open switch keeps the invariant. If it reports a rollback the origin is
active, and if no silent rollback is admitted its success closes the switch. -/
theorem recover_spec (ok : PowerWorld → PowerCall → PowerChoice → Prop) (hI : Inv w₀) :
    Triple powerHandler ok (fun w => w = w₀) recoverPendingScheme
      (fun r w => Inv w ∧ ∀ o, r = .ok o →
        (o.restored = true → w₀.origin = some w.active) ∧ (Loud ok → Closed w)) Inv := by
  refine orFail_read_spec hI (fun e => ⟨hI, fun o ho => by cases ho⟩) ?_
  refine orFail_getActive_spec hI (fun e => ⟨hI, fun o ho => by cases ho⟩) ?_
  cases hI with
  | closed hpending horigin =>
    have hstate : ∀ r, w₀.record = some r → r.state ≠ .pending := by
      intro r hr
      simpa [PowerWorld.pending, hr] using hpending
    rw [decideSchemeRecovery_of_not_pending hstate]
    refine Triple.ret fun w h => ?_
    subst h
    refine ⟨.closed hpending horigin, fun o ho => ?_⟩
    cases ho
    exact ⟨fun h => (by simp at h), fun _ => ⟨hpending, horigin⟩⟩
  | opened saved target hrecord horigin =>
    have hI : Inv w₀ := .opened saved target hrecord horigin
    rw [hrecord]
    by_cases heq : w₀.active = saved
    · rw [decideSchemeRecovery_of_saved heq]
      refine orFail_spec (closeRecord_spec saved target hI)
        (fun e w h => ⟨h.1, fun o ho => by cases ho⟩) fun _ => Triple.ret ?_
      rintro w ⟨hw, hdone⟩
      refine ⟨hw, fun o ho => ?_⟩
      cases ho
      exact ⟨fun h => (by simp at h), fun _ => hdone rfl⟩
    · have hne : w₀.active.text ≠ saved.text := fun h => heq (Guid.ext_text h)
      rw [decideSchemeRecovery_of_moved heq]
      simp only [Option.map_some, Option.getD_some]
      refine orFail_spec (restoreScheme_spec saved hI)
        (fun e w h => ⟨h.inv hI, fun o ho => by cases ho⟩) fun restored => ?_
      split
      · rename_i hrestored
        refine orFail_spec (markRestored_spec saved target hrestored hI)
          (fun e w h => ⟨h.1, fun o ho => by cases ho⟩) fun _ => Triple.ret ?_
        rintro w ⟨hw, hdone⟩
        obtain ⟨hclosed, hactive⟩ := hdone rfl
        exact ⟨hw, fun o _ => ⟨fun _ => by rw [horigin, hactive], fun _ => hclosed⟩⟩
      · rename_i hrestored
        refine Triple.ret fun w h => ?_
        obtain ⟨rfl, c, hc, hs⟩ := h.silent hrestored
        refine ⟨hI, fun o ho => ?_⟩
        cases ho
        refine ⟨fun h => absurd h hrestored, fun hloud => ?_⟩
        refine absurd ⟨hs, ?_, ?_⟩ (hloud _ _ c hc)
        · simp [PowerWorld.pending, hrecord]
        · simpa [hrecord] using fun h => hne h.symm

/-- A restore keeps the invariant, and when it reports success on an open switch the origin is
active. -/
theorem restore_spec (ok : PowerWorld → PowerCall → PowerChoice → Prop) (hI : Inv w₀) :
    Triple powerHandler ok (fun w => w = w₀) restoreSchemeWithRecord
      (fun r w => Inv w ∧ ∀ o, r = .ok o → o.restored = true → w₀.pending = true →
        w₀.origin = some w.active) Inv := by
  refine orFail_read_spec hI (fun e => ⟨hI, fun o ho => by cases ho⟩) ?_
  cases hr : w₀.record with
  | none => exact Triple.ret fun w h => ⟨h ▸ hI, fun o ho => by cases ho⟩
  | some r =>
    obtain ⟨content, _, hparse⟩ := Option.bind_eq_some_iff.mp hr
    obtain ⟨saved, target, hwf⟩ := parse_wellFormed hparse
    have hsave : { r with state := SchemeSaveState.restored } =
        ({ savedGuid := saved.text, targetGuid := target.map Guid.text, state := .restored } :
          SavedSchemeRecord) := by rw [hwf]
    have htext : r.savedGuid = saved.text := by rw [hwf]
    dsimp only
    rw [hsave, htext]
    refine orFail_spec (restoreScheme_spec saved hI)
      (fun e w h => ⟨h.inv hI, fun o ho => by cases ho⟩) fun restored => ?_
    split
    · rename_i hrestored
      refine orFail_spec (markRestored_spec saved target hrestored hI)
        (fun e w h => ⟨h.1, fun o ho => by cases ho⟩) fun _ => Triple.ret ?_
      rintro w ⟨hw, hdone⟩
      refine ⟨hw, fun o _ _ hpending => ?_⟩
      rw [(hdone rfl).2]
      cases hI with
      | closed hclosed _ =>
        rw [hclosed] at hpending
        cases hpending
      | opened saved' _ hrecord horigin =>
        rw [hr] at hrecord
        have hsaved : saved' = saved := Guid.ext_text (by rw [← htext, Option.some.inj hrecord])
        rw [horigin, hsaved]
    · refine Triple.ret fun w h => ⟨h.inv hI, fun o ho hrestored => ?_⟩
      cases ho
      cases hrestored

/-- A switch prepared while none is open names the scheme that was active. -/
theorem apply_spec (targetGuid : Text) :
    Triple powerHandler ok Closed (applySchemeWithRecord targetGuid) (fun _ => Inv) Inv := by
  simp only [applySchemeWithRecord]
  split
  · exact Triple.ret fun w h => h.inv
  rename_i target _
  refine orFail_spec (getActive_spec fun w h => h.inv) (fun e w h => h.1.inv) fun previous => ?_
  refine orFail_spec (M := fun _ => Inv) ?_ (fun e w h => h) fun _ => ?_
  · refine Triple.post (saveSchemeRecord_spec .pending previous (some target) fun w h => h.1.inv) ?_
    rintro r w ⟨w₁, ⟨hclosed, hprev⟩, ⟨_, rfl⟩ | ⟨_, rfl⟩⟩
    · exact hclosed.inv
    · rw [hprev previous rfl]
      exact inv_write_pending hclosed (some target)
  refine orFail_spec (M := fun _ => Inv) ?_ (fun e w h => h) fun _ => ?_
  · refine Triple.post (setActive_spec target fun w h => h) ?_
    rintro r w ⟨w₁, hw₁, rfl | ⟨rfl, _⟩⟩
    · exact hw₁.setActive target
    · exact hw₁
  refine orFail_spec (getActive_spec fun w h => h) (fun e w h => h.1) fun active => ?_
  split
  · exact Triple.ret fun w h => h.1
  · refine orFail_spec (M := fun _ => Inv) ?_ (fun e w h => h) fun _ => Triple.ret fun w h => h
    refine Triple.post (saveSchemeRecord_spec .applied previous (some target) fun w h => h.1) ?_
    rintro r w ⟨w₁, ⟨hw₁, _⟩, ⟨_, rfl⟩ | ⟨_, rfl⟩⟩
    · exact hw₁
    · exact (closed_write w₁ .applied (by simp) previous (some target)).inv

end Flows

/-! ## The commands keep it -/

theorem command_spec (ok : PowerWorld → PowerCall → PowerChoice → Prop) {w₀ : PowerWorld}
    {action : PowerAction} {allowed : Bool} (hI : Inv w₀)
    (hok : ∀ targetGuid, action = .apply targetGuid →
      Loud ok ∧ ∀ w c, ok w .readRecord c → c.disk = none) :
    Triple powerHandler ok (fun w => w = w₀) (runPowerSchemeCommand allowed action) (fun _ => Inv)
      Inv := by
  refine Triple.bind (readSavedSchemeRecord_spec fun w h => h ▸ hI) fun record => ?_
  split
  · exact Triple.ret fun w h => h.1 ▸ hI
  have hrecover {γ : Type} {Q : γ → PowerWorld → Prop}
      {f : Result SchemeRecoveryOutcome → PowerProg γ}
      (hf : ∀ r, Triple powerHandler ok (fun w => Inv w ∧ ∀ o, r = .ok o → Loud ok → Closed w) (f r)
        Q Inv) :
      Triple powerHandler ok (fun w => w = w₀) (recoverPendingScheme >>= f) Q Inv :=
    Triple.bind (recover_spec ok hI) fun r =>
      Triple.pre (hf r) fun w h => ⟨h.1, fun o ho hl => (h.2 o ho).2 hl⟩
  cases action with
  | recover =>
    dsimp only
    split
    · exact Triple.ret fun w h => h.1 ▸ hI
    · exact Triple.ret fun w h => h.1 ▸ hI
    · refine Triple.pre (P := fun w => w = w₀) (hrecover fun r => ?_) fun w h => h.1
      cases r <;> exact Triple.ret fun w h => h.1
  | restore =>
    refine Triple.pre (P := fun w => w = w₀) (Triple.bind (restore_spec ok hI) fun r => ?_)
      fun w h => h.1
    cases r <;> exact Triple.ret fun w h => h.1
  | apply targetGuid =>
    obtain ⟨hloud, hdisk⟩ := hok targetGuid rfl
    have hswitch {γ : Type} {Q : PowerWorld → Prop} {f : Result SwitchFlowOutcome → PowerProg γ}
        (hf : ∀ r, Triple powerHandler ok Inv (f r) (fun _ => Inv) Inv) (hQ : ∀ w, Q w → Closed w) :
        Triple powerHandler ok Q (applySchemeWithRecord targetGuid >>= f) (fun _ => Inv) Inv :=
      Triple.pre (Triple.bind (apply_spec targetGuid) hf) hQ
    refine Triple.assume (φ := record = .ok w₀.record) ?_ fun hrecord => ?_
    · rintro w ⟨rfl, h | ⟨_, c, hc, hd⟩⟩
      · exact h
      · exact absurd (hdisk w c hc) hd
    subst hrecord
    dsimp only
    split
    · refine Triple.pre (P := fun w => w = w₀) (hrecover fun r => ?_) fun w h => h.1
      cases r with
      | error e => exact Triple.ret fun w h => h.1
      | ok o =>
        refine hswitch (fun r => ?_) fun w h => h.2 o rfl hloud
        cases r <;> exact Triple.ret fun w h => h
    · rename_i hnot
      refine hswitch (fun r => by cases r <;> exact Triple.ret fun w h => h) fun w h => ?_
      obtain ⟨rfl, _⟩ := h
      cases hI with
      | closed hpending horigin => exact ⟨hpending, horigin⟩
      | opened saved target hrecord _ => exact absurd (by rw [hrecord]) (hnot _ _)

theorem step_inv {w : PowerWorld} {cmd : PowerCommand} (hI : Inv w) (hsound : cmd.Sound w)
    (hdisk : ∀ c ∈ cmd.choices, c.disk = none) : Inv (cmd.step w) := by
  obtain ⟨action, choices, allowed⟩ := cmd
  cases action with
  | recover =>
    exact (command_spec (fun _ _ _ => True) hI fun _ h => by cases h).run rfl Prog.answered_true
  | restore =>
    exact (command_spec (fun _ _ _ => True) hI fun _ h => by cases h).run rfl Prog.answered_true
  | apply targetGuid =>
    exact (command_spec (fun w e c => c.disk = none ∧ ¬ SilentRollback w e c) hI
      fun _ _ => ⟨fun _ _ _ h => h.2, fun _ _ h => h.1⟩).run rfl
        (hsound.mono fun _ _ c hc h => ⟨hdisk c hc, h⟩)

theorem Inv.originKept {w : PowerWorld} (hI : Inv w) : OriginKept w where
  saved r hr hstate := by
    cases hI with
    | closed hpending _ => simp [PowerWorld.pending, hr, hstate] at hpending
    | opened saved target hrecord horigin =>
      rw [hr] at hrecord
      exact ⟨saved, horigin, by rw [Option.some.inj hrecord]⟩
  recovers _ cs w' outcome hrun hrestored := by
    have := recover_spec (fun _ _ _ => True) hI w cs rfl Prog.answered_true
    rw [hrun] at this
    exact (this.2 outcome rfl).1 hrestored
  restores hpending cs w' outcome hrun hrestored := by
    have := restore_spec (fun _ _ _ => True) hI w cs rfl Prog.answered_true
    rw [hrun] at this
    exact this.2 outcome rfl hrestored hpending

/-- Over every run of commands on working record files: as long as no `apply` takes a silent
rollback for done, the origin of the open switch is never lost. -/
theorem origin_kept (active : Guid) (cmds : List PowerCommand)
    (hdisk : ∀ cmd ∈ cmds, ∀ c ∈ cmd.choices, c.disk = none)
    (hsound : Steps PowerCommand.step PowerCommand.Sound { active := active } cmds) :
    Always PowerCommand.step OriginKept { active := active } cmds :=
  always_of_steps (I := Inv) (fun _ _ hI h => step_inv hI h.2 h.1) (fun _ hI => hI.originKept)
    (.closed rfl rfl) (hsound.and_forall hdisk)

/-- Killed after the first switch, then recovered: the run meets the condition. -/
theorem origin_kept_recovered :
    Always PowerCommand.step OriginKept { active := schemeBalanced }
      [{ action := .apply schemeHighPerformance.text, choices := List.replicate 4 {} },
        { action := .recover, choices := List.replicate 6 {} }] := by
  refine origin_kept schemeBalanced _ (by decide) ⟨?_, trivial, trivial⟩
  refine Prog.answered_true.mono fun w e c hc _ => ?_
  rw [List.eq_of_mem_replicate hc]
  cases e <;> simp [SilentRollback]

/-- The first switch is killed after it took effect. The second command's rollback is silent, the
command goes on, and is killed when it has written its pending record. -/
def silencedRun : List PowerCommand :=
  [{ action := .apply schemeHighPerformance.text, choices := List.replicate 4 {} },
    { action := .apply schemePowerSaver.text,
      choices := [{}, {}, {}, { scheme := .silent }, {}, {}, {}] }]

/-- The pending record then names the intermediate scheme. -/
theorem silenced_rollback_loses_origin :
    (∀ cmd ∈ silencedRun, ∀ c ∈ cmd.choices, c.disk = none) ∧
      ¬ Always PowerCommand.step OriginKept { active := schemeBalanced } silencedRun := by
  refine ⟨by decide, fun h => ?_⟩
  obtain ⟨g, horigin, hsaved⟩ := h.last.saved
    { savedGuid := schemeHighPerformance.text, targetGuid := some schemePowerSaver.text,
      state := .pending } (by decide) rfl
  have hg : some schemeBalanced = some g := (by decide : _ = some schemeBalanced).symm.trans horigin
  cases hg
  exact absurd hsaved (by decide)

end Power
end CppOptimizer
