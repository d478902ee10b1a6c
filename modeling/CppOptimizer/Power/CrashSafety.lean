import CppOptimizer.Power.SchemeFlow

/-!
# CppOptimizer.Power.CrashSafety

A switch that is killed or fails anywhere is undone by the next recovery.

* `Prepared w target w'` — what an interrupted `applySchemeWithRecord` can leave behind: nothing, a
  pending record that names the original scheme, or an applied record and the target scheme.
* `apply_prepared`       — every way out of the flow ends in one of these.
* `recover_exec`         — what a recovery with working backend and record I/O makes of them.
-/

namespace CppOptimizer
namespace Power

open Common Lib PowerProg

/-- The state of the world after a switch from `w` to `target` that stopped somewhere. -/
inductive Prepared (w : PowerWorld) (target : Guid) (w' : PowerWorld) : Prop where
  | untouched (h : w' = w)
  | pending (h : w'.record =
      some { savedGuid := w.active.text, targetGuid := some target.text, state := .pending })
  | applied (hrecord : w'.record =
      some { savedGuid := w.active.text, targetGuid := some target.text, state := .applied })
      (hactive : w'.active = target)

/-- The pending record of a switch from `w` to `target` is on disk. -/
def Pending (w : PowerWorld) (target : Guid) (w' : PowerWorld) : Prop :=
  w'.record = some { savedGuid := w.active.text, targetGuid := some target.text, state := .pending }

theorem apply_prepared {w : PowerWorld} {targetGuid : Text} {target : Guid} {ok}
    (htarget : normalizeSchemeGuid targetGuid = some target) :
    Triple powerHandler ok (fun w' => w' = w) (applySchemeWithRecord targetGuid)
      (fun _ => Prepared w target) (Prepared w target) := by
  simp only [applySchemeWithRecord, htarget]
  refine orFail_getActive_spec (.untouched rfl) (fun _ => .untouched rfl) ?_
  refine orFail_spec (saveSchemeRecord_spec .pending w.active (some target) fun w' h => .untouched h)
    ?_ fun _ => ?_
  · rintro e w' ⟨w₀, rfl, ⟨_, rfl⟩ | ⟨h, _⟩⟩
    · exact .untouched rfl
    · cases h
  -- from here on the record is pending until the switch is confirmed
  refine Triple.pre (P := Pending w target) ?_ ?_
  · refine orFail_spec (setActive_spec target fun w' h => .pending h) ?_ fun _ => ?_
    · rintro e w' ⟨w₀, h, rfl | ⟨rfl, _⟩⟩
      · exact .pending h
      · exact .pending h
    refine Triple.pre (P := Pending w target) ?_ ?_
    · refine orFail_spec (getActive_spec fun w' h => .pending h) (fun _ w' h => .pending h.1)
        fun active => ?_
      split
      · exact Triple.ret fun w' h => .pending h.1
      · rename_i hactive
        refine orFail_spec (saveSchemeRecord_spec .applied w.active (some target)
          fun w' h => .pending h.1) ?_ fun _ => Triple.ret ?_
        · rintro e w' ⟨w₀, ⟨h, _⟩, ⟨_, rfl⟩ | ⟨hr, _⟩⟩
          · exact .pending h
          · cases hr
        · rintro w' ⟨w₀, ⟨_, hg⟩, ⟨hr, _⟩ | ⟨_, rfl⟩⟩
          · exact absurd rfl hr
          · exact .applied (by simp) ((hg active rfl).symm.trans (not_not.mp hactive))
    · rintro w' ⟨w₀, h, rfl | ⟨rfl, _⟩⟩
      · exact h
      · exact h
  · rintro w' ⟨w₀, rfl, ⟨hr, _⟩ | ⟨_, rfl⟩⟩
    · exact absurd rfl hr
    · simp [Pending]

/-! ## Recovery with everything working -/

section Working

variable {w : PowerWorld}

theorem exec_orFail {α β : Type} {p : PowerProg (Result α)} {f : α → PowerProg (Result β)}
    {w' : PowerWorld} {a : α} (h : p.exec powerHandler {} w = (w', .ok a)) :
    (orFail p f).exec powerHandler {} w = (f a).exec powerHandler {} w' := by
  rw [orFail, Prog.exec_bind, h]

theorem exec_read : readSavedSchemeRecord.exec powerHandler {} w = (w, .ok w.record) := rfl

theorem exec_getActive : getActive.exec powerHandler {} w = (w, .ok w.active) := rfl

theorem exec_setActive (guid : Guid) :
    (setActive guid).exec powerHandler {} w = ({ w with active := guid }, .ok ()) := rfl

theorem exec_save (state : SchemeSaveState) (saved : Guid) (target : Option Guid) :
    (saveSchemeRecord
        { savedGuid := saved.text, targetGuid := target.map Guid.text, state := state }).exec
          powerHandler {} w =
      (w.write (formatSchemeRecord state saved target), .ok ()) := by
  rw [saveSchemeRecord_eq]
  rfl

theorem exec_restoreScheme (saved : Guid) :
    (restoreScheme saved.text).exec powerHandler {} w =
      ({ w with active := saved },
        .ok { savedGuid := saved, activeGuid := saved, restored := true }) := by
  simp only [restoreScheme, normalizeSchemeGuid_text]
  rw [exec_orFail (exec_setActive saved), exec_orFail exec_getActive]
  simp

/-- A record that is not pending is left alone, and so is the scheme. -/
theorem recover_exec_of_not_pending (h : ∀ r, w.record = some r → r.state ≠ .pending) :
    (recoverPendingScheme.exec powerHandler {} w).1 = w := by
  rw [recoverPendingScheme, exec_orFail exec_read, exec_orFail exec_getActive,
    decideSchemeRecovery_of_not_pending h]
  rfl

/-- A pending record is rolled back: the saved scheme is active and the record restored. -/
theorem recover_exec_of_pending (saved : Guid) (target : Option Guid)
    (h : w.record = some { savedGuid := saved.text, targetGuid := target.map Guid.text,
                           state := .pending }) :
    ∃ w₀ : PowerWorld, w₀.active = saved ∧
      (recoverPendingScheme.exec powerHandler {} w).1 =
        w₀.write (formatSchemeRecord .restored saved target) := by
  rw [recoverPendingScheme, exec_orFail exec_read, exec_orFail exec_getActive, h]
  by_cases hactive : w.active = saved
  · rw [decideSchemeRecovery_of_saved hactive]
    refine ⟨w, hactive, ?_⟩
    dsimp only
    rw [exec_orFail (exec_save .restored saved target)]
    rfl
  · rw [decideSchemeRecovery_of_moved hactive]
    refine ⟨{ w with active := saved }, rfl, ?_⟩
    simp only [Option.map_some, Option.getD_some]
    rw [exec_orFail (exec_restoreScheme saved)]
    simp only [if_true]
    rw [exec_orFail (exec_save .restored saved target)]
    rfl

end Working

/-- Crash safety of a switch: whatever stops `applySchemeWithRecord`, a recovery that works brings
back the original scheme, unless the switch was confirmed; and no record stays pending. -/
theorem apply_crash_safe (w : PowerWorld) (targetGuid : Text) (cs : List PowerChoice)
    (hprevious : ∀ r, w.record = some r → r.state ≠ .pending) :
    let stopped := ((applySchemeWithRecord targetGuid).run powerHandler w cs).1
    let recovered := (recoverPendingScheme.exec powerHandler {} stopped).1
    (recovered.active = w.active ∨
      ∃ r target, recovered.record = some r ∧ r.state = .applied ∧
        normalizeSchemeGuid targetGuid = some target ∧ recovered.active = target) ∧
    ∀ r, recovered.record = some r → r.state ≠ .pending := by
  intro stopped recovered
  cases htarget : normalizeSchemeGuid targetGuid with
  | none =>
    have hstopped : stopped = w := by simp [stopped, applySchemeWithRecord, htarget]
    have hrecovered : recovered = w := by
      simp only [recovered, hstopped]
      exact recover_exec_of_not_pending hprevious
    rw [hrecovered]
    exact ⟨.inl rfl, hprevious⟩
  | some target =>
    have htriple : Triple powerHandler (fun _ _ _ => True) (fun w' => w' = w)
        (applySchemeWithRecord targetGuid) (fun _ => Prepared w target) (Prepared w target) :=
      apply_prepared htarget
    have hprepared : Prepared w target stopped :=
      htriple.run rfl Prog.answered_true
    cases hprepared with
    | untouched h =>
      have hrecovered : recovered = w := by
        simp only [recovered, h]
        exact recover_exec_of_not_pending hprevious
      rw [hrecovered]
      exact ⟨.inl rfl, hprevious⟩
    | pending h =>
      obtain ⟨w₀, hactive, hrecovered⟩ := recover_exec_of_pending w.active (some target) h
      simp only [recovered, hrecovered]
      refine ⟨.inl hactive, fun r hr => ?_⟩
      rw [write_record] at hr
      cases hr
      simp
    | applied hrecord hactive =>
      have hrecovered : recovered = stopped := recover_exec_of_not_pending fun r hr => by
        rw [hrecord] at hr
        cases hr
        simp
      rw [hrecovered]
      refine ⟨.inr ⟨_, target, hrecord, rfl, rfl, hactive⟩, fun r hr => ?_⟩
      rw [hrecord] at hr
      cases hr
      simp

/-- Killed between the switch and its confirmation: the target is active and the record pending, and
recovery goes back to the balanced scheme. -/
theorem apply_crash_safe_killed :
    let w : PowerWorld := { active := schemeBalanced }
    let stopped := ((applySchemeWithRecord schemeHighPerformance.text).run powerHandler w
      [{}, {}, {}]).1
    stopped.active = schemeHighPerformance ∧
      ∀ r, (recoverPendingScheme.exec powerHandler {} stopped).1.record = some r →
        r.state ≠ .pending := by
  refine ⟨?_, (apply_crash_safe { active := schemeBalanced } schemeHighPerformance.text
    [{}, {}, {}] ?_).2⟩
  · decide
  · intro r hr
    simp [PowerWorld.record] at hr

end Power
end CppOptimizer
