import CppOptimizer.Lib.Prog
import CppOptimizer.Power.SchemeRecord

/-!
# CppOptimizer.Power.SchemeFlow

The switch, restore and recovery flows of `power_scheme.cpp` and the commands of
`RunPowerSchemeCommand` that drive them, as programs over the power scheme backend and the record
file.

* `PowerCall`    — what a flow asks of the outside: the active scheme, a switch, the record file.
* `PowerWorld`   — the active scheme and the record file.
* `powerHandler` — how the outside answers. A switch can work, fail without or with effect, or report
  success without effect; record I/O works or fails, and a write replaces the file as a whole.

A flow that is killed is a run on too few choices.
-/

namespace CppOptimizer
namespace Power

open Common Lib

inductive PowerCall where
  | getActive
  | setActive (guid : Guid)
  | readRecord
  | writeRecord (content : Text)

/-- A scheme GUID comes from the backend already normalised. -/
def PowerCall.Answer : PowerCall → Type
  | .getActive => Result Guid
  | .setActive _ => Result Unit
  | .readRecord => Result (Option Text)
  | .writeRecord _ => Result Unit

abbrev PowerProg := Prog PowerCall PowerCall.Answer

namespace PowerProg

def getActive : PowerProg (Result Guid) := Prog.perform PowerCall.getActive
def setActive (guid : Guid) : PowerProg (Result Unit) := Prog.perform (PowerCall.setActive guid)
def readRecord : PowerProg (Result (Option Text)) := Prog.perform PowerCall.readRecord
def writeRecord (content : Text) : PowerProg (Result Unit) :=
  Prog.perform (PowerCall.writeRecord content)

/-- Go on with the value, or return the failure as it is. -/
def orFail {α β : Type} (p : PowerProg (Result α)) (f : α → PowerProg (Result β)) :
    PowerProg (Result β) :=
  p >>= fun
    | .ok a => f a
    | .error e => pure (.error e)

end PowerProg

open PowerProg

/-! ## The record file -/

def saveSchemeRecord (record : SavedSchemeRecord) : PowerProg (Result Unit) :=
  match normalizeSchemeGuid record.savedGuid with
  | none => pure (.error (.validation "SaveSchemeRecord" "回滚目标 GUID 形式非法"))
  | some saved =>
    match record.targetGuid with
    | none => writeRecord (formatSchemeRecord record.state saved none)
    | some target =>
      match normalizeSchemeGuid target with
      | none => pure (.error (.validation "SaveSchemeRecord" "目标 GUID 形式非法"))
      | some target => writeRecord (formatSchemeRecord record.state saved (some target))

/-- No file and a file that does not parse both read as no record. -/
def readSavedSchemeRecord : PowerProg (Result (Option SavedSchemeRecord)) :=
  orFail readRecord fun content => pure (.ok (content.bind parseSavedSchemeRecord))

/-! ## The flows -/

structure SwitchFlowOutcome where
  previousGuid : Guid
  targetGuid : Guid
  activeGuid : Guid
  changed : Bool := false
  recordMarkedApplied : Bool := false

def applySchemeWithRecord (targetGuid : Text) : PowerProg (Result SwitchFlowOutcome) :=
  match normalizeSchemeGuid targetGuid with
  | none => pure (.error (.validation "ApplySchemeWithRecord" "目标 GUID 形式非法"))
  | some target =>
    orFail getActive fun previous =>
    let pending : SavedSchemeRecord :=
      { savedGuid := previous.text, targetGuid := some target.text, state := .pending }
    orFail (saveSchemeRecord pending) fun _ =>
    orFail (setActive target) fun _ =>
    orFail getActive fun active =>
    if active ≠ target then
      -- not confirmed: the record stays pending
      pure (.ok { previousGuid := previous, targetGuid := target, activeGuid := active })
    else
      orFail (saveSchemeRecord { pending with state := .applied }) fun _ =>
      pure (.ok { previousGuid := previous, targetGuid := target, activeGuid := active,
                  changed := true, recordMarkedApplied := true })

structure SchemeRestoreOutcome where
  savedGuid : Guid
  activeGuid : Guid
  restored : Bool

def restoreScheme (savedGuid : Text) : PowerProg (Result SchemeRestoreOutcome) :=
  match normalizeSchemeGuid savedGuid with
  | none => pure (.error (.validation "RestoreScheme" "保存的 GUID 形式非法"))
  | some saved =>
    orFail (setActive saved) fun _ =>
    orFail getActive fun active =>
    pure (.ok { savedGuid := saved, activeGuid := active, restored := active = saved })

structure RestoreFlowOutcome where
  savedGuid : Guid
  activeGuid : Guid
  restored : Bool
  recordMarkedRestored : Bool := false

def restoreSchemeWithRecord : PowerProg (Result RestoreFlowOutcome) :=
  orFail readSavedSchemeRecord fun record =>
  match record with
  | none =>
    pure (.error (.validation "RestoreSchemeWithRecord" "磁盘上没有恢复依据（无可回滚目标）"))
  | some record =>
    orFail (restoreScheme record.savedGuid) fun outcome =>
    if outcome.restored then
      orFail (saveSchemeRecord { record with state := .restored }) fun _ =>
      pure (.ok { savedGuid := outcome.savedGuid, activeGuid := outcome.activeGuid, restored := true,
                  recordMarkedRestored := true })
    else
      pure (.ok { savedGuid := outcome.savedGuid, activeGuid := outcome.activeGuid,
                  restored := false })

inductive SchemeRecoveryAction where
  | none | restoreToSaved | markNeverApplied
  deriving DecidableEq, Repr

def decideSchemeRecovery (record : Option SavedSchemeRecord) (activeGuid : Text) :
    SchemeRecoveryAction :=
  match record with
  | none => .none
  | some record =>
    if record.state ≠ .pending then .none
    else
      match normalizeSchemeGuid activeGuid with
      | none => .none
      | some active => if active.text = record.savedGuid then .markNeverApplied else .restoreToSaved

structure SchemeRecoveryOutcome where
  action : SchemeRecoveryAction
  savedGuid : Text := []
  targetGuid : Text := []
  activeGuid : Guid
  restored : Bool := false

def recoverPendingScheme : PowerProg (Result SchemeRecoveryOutcome) :=
  orFail readSavedSchemeRecord fun record =>
  orFail getActive fun active =>
  let outcome : SchemeRecoveryOutcome :=
    { action := decideSchemeRecovery record active.text
      savedGuid := (record.map (·.savedGuid)).getD []
      targetGuid := (record.bind (·.targetGuid)).getD []
      activeGuid := active }
  match outcome.action, record with
  | .markNeverApplied, some record =>
    orFail (saveSchemeRecord { record with state := .restored }) fun _ => pure (.ok outcome)
  | .restoreToSaved, some record =>
    orFail (restoreScheme outcome.savedGuid) fun restored =>
    let outcome := { outcome with activeGuid := restored.activeGuid, restored := restored.restored }
    if restored.restored then
      orFail (saveSchemeRecord { record with state := .restored }) fun _ => pure (.ok outcome)
    else pure (.ok outcome)
  | _, _ => pure (.ok outcome)

/-! ## The commands -/

inductive PowerAction where
  | recover
  | restore
  | apply (targetGuid : Text)
  deriving DecidableEq, Repr

/-- The acting part of `RunPowerSchemeCommand`, with its exit code. `allowed` is the verdict of the
gates, which stand between the first read of the record and every system call. -/
def runPowerSchemeCommand (allowed : Bool) (action : PowerAction) : PowerProg Nat := do
  let record ← readSavedSchemeRecord
  if !allowed then pure 2
  else
    match action with
    | .recover =>
      match record with
      | .error _ => pure 2
      | .ok none => pure 0
      | .ok (some _) =>
        match ← recoverPendingScheme with
        | .error _ => pure 2
        | .ok outcome =>
          pure (if outcome.action = .restoreToSaved ∧ outcome.restored = false then 2 else 0)
    | .restore =>
      match ← restoreSchemeWithRecord with
      | .error _ => pure 2
      | .ok outcome => pure (if outcome.restored then 0 else 2)
    | .apply targetGuid =>
      let switch : PowerProg Nat := do
        match ← applySchemeWithRecord targetGuid with
        | .error _ => pure 2
        | .ok outcome => pure (if outcome.changed then 0 else 2)
      match record with
      | .ok (some { state := .pending, .. }) =>
        -- an unconfirmed switch is reconciled first; only a failure of that refuses the new one
        match ← recoverPendingScheme with
        | .error _ => pure 2
        | .ok _ => switch
      | _ => switch

/-! ## The outside world -/

/-- What a call to the backend does. `failsAfter` takes effect and reports an error, `silent` reports
success and takes no effect. -/
inductive SchemeOutcome where
  | works
  | fails (e : Error)
  | failsAfter (e : Error)
  | silent
  deriving DecidableEq, Repr

/-- The choice for one call: the backend's outcome and the error of the record I/O, if any. -/
structure PowerChoice where
  scheme : SchemeOutcome := .works
  disk : Option Error := none
  deriving DecidableEq, Repr

structure PowerWorld where
  active : Guid
  file : Option Text := none
  /-- The scheme that was active when the oldest switch still unconfirmed was prepared. -/
  origin : Option Guid := none
  deriving DecidableEq

namespace PowerWorld

/-- The record on disk, as the program would read it. -/
def record (w : PowerWorld) : Option SavedSchemeRecord := w.file.bind parseSavedSchemeRecord

/-- A write replaces the file. A pending record opens a switch, unless one is open already; an
applied or restored one closes it. -/
def write (w : PowerWorld) (content : Text) : PowerWorld :=
  { w with
    file := some content
    origin :=
      if (parseSavedSchemeRecord content).any (·.state = .pending) then w.origin <|> some w.active
      else none }

end PowerWorld

def powerHandler : Handler PowerCall PowerCall.Answer PowerWorld PowerChoice where
  answer w
    | .getActive, c =>
      match c.scheme with
      | .fails e | .failsAfter e => (.error e, w)
      | .works | .silent => (.ok w.active, w)
    | .setActive guid, c =>
      match c.scheme with
      | .works => (.ok (), { w with active := guid })
      | .fails e => (.error e, w)
      | .failsAfter e => (.error e, { w with active := guid })
      | .silent => (.ok (), w)
    | .readRecord, c =>
      match c.disk with
      | none => (.ok w.file, w)
      | some e => (.error e, w)
    | .writeRecord content, c =>
      match c.disk with
      | none => (.ok (), w.write content)
      | some e => (.error e, w)

/-! ## What a call does -/

section Specs

variable {ok : PowerWorld → PowerCall → PowerChoice → Prop} {P C : PowerWorld → Prop}

theorem orFail_spec {α β : Type} {p : PowerProg (Result α)} {f : α → PowerProg (Result β)}
    {M : Result α → PowerWorld → Prop} {Q : Result β → PowerWorld → Prop}
    (hp : Triple powerHandler ok P p M C) (herr : ∀ e w, M (.error e) w → Q (.error e) w)
    (hok : ∀ a, Triple powerHandler ok (M (.ok a)) (f a) Q C) :
    Triple powerHandler ok P (orFail p f) Q C := by
  refine Triple.bind hp fun r => ?_
  cases r with
  | ok a => exact hok a
  | error e => exact Triple.ret fun w hw => herr e w hw

theorem getActive_spec (hC : ∀ w, P w → C w) :
    Triple powerHandler ok P getActive (fun r w => P w ∧ ∀ g, r = .ok g → g = w.active) C := by
  refine Triple.perform hC fun w c hw _ => ?_
  cases hc : c.scheme <;> simp [powerHandler, hc, hw]

/-- The switch takes effect or leaves the world alone; it is silent when it does the latter and
still reports success. -/
theorem setActive_spec (guid : Guid) (hC : ∀ w, P w → C w) :
    Triple powerHandler ok P (setActive guid)
      (fun r w => ∃ w₀, P w₀ ∧ (w = { w₀ with active := guid } ∨
        (w = w₀ ∧ (r = .ok () → ∃ c, ok w₀ (.setActive guid) c ∧ c.scheme = .silent)))) C := by
  refine Triple.perform hC fun w c hw hc => ⟨w, hw, ?_⟩
  cases hs : c.scheme with
  | works => exact .inl (by simp [powerHandler, hs])
  | fails e => exact .inr ⟨by simp [powerHandler, hs], fun h => by simp [powerHandler, hs] at h⟩
  | failsAfter e => exact .inl (by simp [powerHandler, hs])
  | silent => exact .inr ⟨by simp [powerHandler, hs], fun _ => ⟨c, hc, hs⟩⟩

theorem saveSchemeRecord_eq (state : SchemeSaveState) (saved : Guid) (target : Option Guid) :
    saveSchemeRecord
        { savedGuid := saved.text, targetGuid := target.map Guid.text, state := state } =
      writeRecord (formatSchemeRecord state saved target) := by
  cases target <;> simp [saveSchemeRecord]

theorem saveSchemeRecord_spec (state : SchemeSaveState) (saved : Guid) (target : Option Guid)
    (hC : ∀ w, P w → C w) :
    Triple powerHandler ok P
      (saveSchemeRecord
        { savedGuid := saved.text, targetGuid := target.map Guid.text, state := state })
      (fun r w => ∃ w₀, P w₀ ∧ ((r ≠ .ok () ∧ w = w₀) ∨
        (r = .ok () ∧ w = w₀.write (formatSchemeRecord state saved target)))) C := by
  rw [saveSchemeRecord_eq]
  refine Triple.perform hC fun w c hw _ => ⟨w, hw, ?_⟩
  cases hd : c.disk with
  | none => exact .inr (by simp [powerHandler, hd])
  | some e => exact .inl (by simp [powerHandler, hd])

theorem readSavedSchemeRecord_spec (hC : ∀ w, P w → C w) :
    Triple powerHandler ok P readSavedSchemeRecord
      (fun r w => P w ∧ (r = .ok w.record ∨ (∃ e, r = .error e) ∧
        ∃ c, ok w .readRecord c ∧ c.disk ≠ none)) C := by
  have hread : Triple powerHandler ok P readRecord
      (fun r w => P w ∧ (r = .ok w.file ∨ (∃ e, r = .error e) ∧
        ∃ c, ok w .readRecord c ∧ c.disk ≠ none)) C := by
    refine Triple.perform hC fun w c hw hc => ?_
    cases hd : c.disk with
    | none => simp [powerHandler, hd, hw]
    | some e =>
      simp only [powerHandler, hd]
      exact ⟨hw, .inr ⟨⟨e, rfl⟩, c, hc, by simp [hd]⟩⟩
  refine orFail_spec hread ?_ fun content => Triple.ret ?_
  · rintro e w ⟨hw, h | h⟩
    · cases h
    · exact ⟨hw, .inr ⟨⟨e, rfl⟩, h.2⟩⟩
  · rintro w ⟨hw, h | ⟨⟨e, h⟩, _⟩⟩
    · cases h
      exact ⟨hw, .inl rfl⟩
    · cases h

section Known

variable {β : Type} {Q : Result β → PowerWorld → Prop} {w₀ : PowerWorld}

/-- Going on from a read of the active scheme, in a known world. -/
theorem orFail_getActive_spec {f : Guid → PowerProg (Result β)} (hC : C w₀)
    (herr : ∀ e, Q (.error e) w₀)
    (hok : Triple powerHandler ok (fun w => w = w₀) (f w₀.active) Q C) :
    Triple powerHandler ok (fun w => w = w₀) (orFail getActive f) Q C := by
  refine orFail_spec (getActive_spec fun w h => h ▸ hC) (fun e w h => h.1 ▸ herr e) fun active => ?_
  refine Triple.assume (φ := active = w₀.active) (fun w h => h.1 ▸ h.2 active rfl) fun hactive => ?_
  subst hactive
  exact Triple.pre hok fun w h => h.1

/-- Going on from a read of the record, in a known world. -/
theorem orFail_read_spec {f : Option SavedSchemeRecord → PowerProg (Result β)} (hC : C w₀)
    (herr : ∀ e, Q (.error e) w₀)
    (hok : Triple powerHandler ok (fun w => w = w₀) (f w₀.record) Q C) :
    Triple powerHandler ok (fun w => w = w₀) (orFail readSavedSchemeRecord f) Q C := by
  refine orFail_spec (readSavedSchemeRecord_spec fun w h => h ▸ hC) (fun e w h => h.1 ▸ herr e)
    fun record => ?_
  refine Triple.assume (φ := record = w₀.record) ?_ fun hrecord => ?_
  · rintro w ⟨rfl, h | ⟨⟨e, h⟩, _⟩⟩
    · exact Except.ok.inj h
    · cases h
  subst hrecord
  exact Triple.pre hok fun w h => h.1

end Known

end Specs

/-! ## The decision of a recovery -/

section Decision

variable {w : PowerWorld} {saved : Guid} {target : Option Guid}

theorem decideSchemeRecovery_of_not_pending (h : ∀ r, w.record = some r → r.state ≠ .pending) :
    decideSchemeRecovery w.record w.active.text = .none := by
  cases hr : w.record with
  | none => rfl
  | some r => simp [decideSchemeRecovery, h r hr]

theorem decideSchemeRecovery_of_saved (h : w.active = saved) :
    decideSchemeRecovery
      (some { savedGuid := saved.text, targetGuid := target.map Guid.text, state := .pending })
      w.active.text = .markNeverApplied := by
  simp [decideSchemeRecovery, h]

theorem decideSchemeRecovery_of_moved (h : w.active ≠ saved) :
    decideSchemeRecovery
      (some { savedGuid := saved.text, targetGuid := target.map Guid.text, state := .pending })
      w.active.text = .restoreToSaved := by
  have hne : w.active.text ≠ saved.text := fun heq => h (Guid.ext_text heq)
  simp [decideSchemeRecovery, hne]

end Decision

@[simp] theorem write_active (w : PowerWorld) (content : Text) : (w.write content).active = w.active :=
  rfl

@[simp] theorem write_record (w : PowerWorld) (state : SchemeSaveState) (saved : Guid)
    (target : Option Guid) :
    (w.write (formatSchemeRecord state saved target)).record =
      some { savedGuid := saved.text, targetGuid := target.map Guid.text, state := state } := by
  simp [PowerWorld.record, PowerWorld.write, parse_format]

@[simp] theorem write_origin (w : PowerWorld) (state : SchemeSaveState) (saved : Guid)
    (target : Option Guid) :
    (w.write (formatSchemeRecord state saved target)).origin =
      if state = .pending then w.origin <|> some w.active else none := by
  simp [PowerWorld.write, parse_format]

end Power
end CppOptimizer
