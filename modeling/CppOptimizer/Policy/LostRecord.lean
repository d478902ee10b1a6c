import CppOptimizer.Lib.Run
import CppOptimizer.Policy.Cooldown

/-!
# CppOptimizer.Policy.LostRecord

Two processes that run `RecordCooldownRun` on one ledger path.

A call reads the ledger, writes the merged ledger to `<path>.tmp` and renames that file over the
ledger. Nothing keeps the other process out between these steps, and the temporary file is the same
for both. `RecordState` is what the two share and where each stands, `recordStep` one file step of
one of them. A record is lost exactly when its call renames after the other call has read and
before it writes: `records_kept_iff`.
-/

namespace CppOptimizer
namespace Policy

open Common Lib

/-! ## The two calls -/

inductive Side where
  | first | second
  deriving DecidableEq, Repr

def Side.other : Side → Side
  | .first => .second
  | .second => .first

@[simp] theorem Side.other_other (x : Side) : x.other.other = x := by cases x <;> rfl
@[simp] theorem Side.other_ne (x : Side) : x.other ≠ x := by cases x <;> decide

theorem Side.eq_or_other (x y : Side) : y = x ∨ y = x.other := by
  cases x <;> cases y <;> decide

/-- The arguments of one call; the path is the same for both. -/
structure RecordCall where
  capabilityId : String
  now : Int
  deriving DecidableEq, Repr

/-- How far a call has come. -/
inductive RecordPhase where
  | start
  /-- The ledger has been read and the run merged into it. -/
  | merged (ledger : CooldownLedger)
  /-- The temporary file has been written. -/
  | written
  | done (result : Result Unit)

structure RecordState where
  ledger : Option Text
  temp : Option Text
  phase : Side → RecordPhase

/-- What the file system does with a step: it works, it is refused before a file is touched, or it
breaks off. -/
inductive FileOutcome where
  | works
  | refused (code : Nat)
  | broken (code : Nat)
  deriving DecidableEq, Repr

/-- One step of the schedule: who moves, and what the file system does. -/
structure RecordEvent where
  side : Side
  outcome : FileOutcome
  deriving DecidableEq, Repr

def RecordState.to (s : RecordState) (x : Side) (phase : RecordPhase) : RecordState :=
  { s with phase := Function.update s.phase x phase }

@[simp] theorem to_self (s : RecordState) (x : Side) (p : RecordPhase) : (s.to x p).phase x = p :=
  Function.update_self ..
@[simp] theorem to_other (s : RecordState) (x : Side) (p : RecordPhase) :
    (s.to x p).phase x.other = s.phase x.other :=
  Function.update_of_ne (Side.other_ne x) ..
@[simp] theorem to_ledger (s : RecordState) (x : Side) (p : RecordPhase) :
    (s.to x p).ledger = s.ledger := rfl
@[simp] theorem to_temp (s : RecordState) (x : Side) (p : RecordPhase) :
    (s.to x p).temp = s.temp := rfl

/-- `ReadCooldownLedger` and `WithCooldownRun`. -/
def readStep (s : RecordState) (x : Side) (call : RecordCall) : FileOutcome → RecordState
  | .works =>
    s.to x (.merged (withCooldownRun (readCooldownLedger s.ledger) call.capabilityId call.now))
  | .refused code => s.to x (.done (.error (.fromWin32 code "exists(cooldown ledger)")))
  | .broken code => s.to x (.done (.error (.fromWin32 code "open cooldown ledger")))

/-- The first half of `WriteCooldownLedger`; a write that breaks off removes the file. -/
def writeStep (s : RecordState) (x : Side) (ledger : CooldownLedger) : FileOutcome → RecordState
  | .works => { s with temp := some (formatCooldownLedger ledger) }.to x .written
  | .refused code =>
    s.to x (.done (.error (.fromWin32 code "open cooldown ledger temp file for write")))
  | .broken code =>
    { s with temp := none }.to x (.done (.error (.fromWin32 code "flush cooldown ledger temp file")))

/-- `MoveFileExW`; on failure the temporary file is removed. -/
def renameStep (s : RecordState) (x : Side) (outcome : FileOutcome) : RecordState :=
  match outcome, s.temp with
  | .works, some content => { s with ledger := some content, temp := none }.to x (.done (.ok ()))
  | .works, none =>
    s.to x (.done (.error (.fromWin32 errorFileNotFound "MoveFileExW(cooldown ledger)")))
  | .refused code, _ =>
    { s with temp := none }.to x (.done (.error (.fromWin32 code "MoveFileExW(cooldown ledger)")))
  | .broken code, _ =>
    { s with temp := none }.to x (.done (.error (.fromWin32 code "MoveFileExW(cooldown ledger)")))

section Calls

variable (calls : Side → RecordCall)

/-- One step of `RecordCooldownRun`. -/
def recordStep (s : RecordState) (e : RecordEvent) : RecordState :=
  match s.phase e.side with
  | .start =>
    if (calls e.side).capabilityId = "" then
      s.to e.side (.done (.error (.validation "RecordCooldownRun" "能力 ID 不能为空")))
    else readStep s e.side (calls e.side) e.outcome
  | .merged ledger => writeStep s e.side ledger e.outcome
  | .written => renameStep s e.side e.outcome
  | .done _ => s

def initialState (ledger temp : Option Text) : RecordState :=
  { ledger := ledger, temp := temp, phase := fun _ => .start }

/-- Both calls have returned success. -/
def BothSucceeded (s : RecordState) : Prop := ∀ x, s.phase x = .done (.ok ())

/-- The ledger holds the run of a call, or a later one of the same capability. -/
def Holds (ledger : CooldownLedger) (call : RecordCall) : Prop :=
  ∃ last, ledger.lastRunUnixSeconds.find? call.capabilityId = some last ∧ call.now ≤ last

/-- Both runs are there, and every earlier record of another capability. -/
def RecordsKept (before after : CooldownLedger) : Prop :=
  (∀ x, Holds after (calls x)) ∧
    ∀ id last, (∀ x, id ≠ (calls x).capabilityId) →
      before.lastRunUnixSeconds.find? id = some last → after.lastRunUnixSeconds.find? id = some last

/-- A rename between the read and the write of the other call is harmless only when it brings
nothing new. -/
def Harmless (s : RecordState) (e : RecordEvent) : Prop :=
  s.phase e.side = .written → (∃ ledger, s.phase e.side.other = .merged ledger) →
    Holds (readCooldownLedger s.ledger) (calls e.side)

/-! ## What a step can do -/

theorem recordStep_cases (s : RecordState) (e : RecordEvent) :
    (∃ r, s.phase e.side = .done r ∧ recordStep calls s e = s) ∨
    (∃ error temp, recordStep calls s e = { s with temp := temp }.to e.side (.done (.error error))) ∨
    (s.phase e.side = .start ∧ (calls e.side).capabilityId ≠ "" ∧
      recordStep calls s e = s.to e.side (.merged
        (withCooldownRun (readCooldownLedger s.ledger) (calls e.side).capabilityId
          (calls e.side).now))) ∨
    (∃ ledger, s.phase e.side = .merged ledger ∧
      recordStep calls s e =
        { s with temp := some (formatCooldownLedger ledger) }.to e.side .written) ∨
    (∃ content, s.phase e.side = .written ∧ s.temp = some content ∧
      recordStep calls s e =
        { s with ledger := some content, temp := none }.to e.side (.done (.ok ()))) := by
  unfold recordStep
  split
  · rename_i hphase
    split
    · exact .inr (.inl ⟨_, s.temp, rfl⟩)
    · rename_i hid
      cases hout : e.outcome with
      | works => exact .inr (.inr (.inl ⟨hphase, hid, rfl⟩))
      | refused code => exact .inr (.inl ⟨_, s.temp, rfl⟩)
      | broken code => exact .inr (.inl ⟨_, s.temp, rfl⟩)
  · rename_i ledger hphase
    cases hout : e.outcome with
    | works => exact .inr (.inr (.inr (.inl ⟨ledger, hphase, rfl⟩)))
    | refused code => exact .inr (.inl ⟨_, s.temp, rfl⟩)
    | broken code => exact .inr (.inl ⟨_, none, rfl⟩)
  · rename_i hphase
    unfold renameStep
    split
    · rename_i content _ htemp
      exact .inr (.inr (.inr (.inr ⟨content, hphase, htemp, rfl⟩)))
    · exact .inr (.inl ⟨_, s.temp, rfl⟩)
    · exact .inr (.inl ⟨_, none, rfl⟩)
    · exact .inr (.inl ⟨_, none, rfl⟩)
  · rename_i r hphase
    exact .inl ⟨r, hphase, rfl⟩

variable {calls} {s : RecordState} {e : RecordEvent}

theorem phase_other_step : (recordStep calls s e).phase e.side.other = s.phase e.side.other := by
  rcases recordStep_cases calls s e with ⟨r, _, heq⟩ | ⟨error, temp, heq⟩ | ⟨_, _, heq⟩ |
    ⟨ledger, _, heq⟩ | ⟨content, _, _, heq⟩ <;> rw [heq]
  all_goals exact to_other ..

theorem phase_done_step {x : Side} {r : Result Unit} (h : s.phase x = .done r) :
    (recordStep calls s e).phase x = .done r := by
  rcases Side.eq_or_other e.side x with rfl | rfl
  · have : recordStep calls s e = s := by
      unfold recordStep
      rw [h]
    rw [this, h]
  · rw [phase_other_step, h]

/-! ## Runs that cannot end well -/

/-- A call has failed. -/
def Failed (s : RecordState) : Prop := ∃ x error, s.phase x = .done (.error error)

/-- Both have written the one temporary file, and only one can rename it. -/
def Doomed (s : RecordState) : Prop :=
  ∃ x, s.phase x = .written ∧
    (s.phase x.other = .written ∨ (∃ r, s.phase x.other = .done r) ∧ s.temp = none)

theorem failed_step (h : Failed s) : Failed (recordStep calls s e) := by
  obtain ⟨x, error, hx⟩ := h
  exact ⟨x, error, phase_done_step hx⟩

theorem failed_of_error {error : Error} {temp : Option Text}
    (h : recordStep calls s e = { s with temp := temp }.to e.side (.done (.error error))) :
    Failed (recordStep calls s e) := by
  rw [h]
  exact ⟨e.side, error, to_self ..⟩

theorem doomed_step (h : Doomed s) :
    Failed (recordStep calls s e) ∨ Doomed (recordStep calls s e) := by
  obtain ⟨x, hx, hother⟩ := h
  rcases recordStep_cases calls s e with ⟨r, hdone, heq⟩ | ⟨error, temp, heq⟩ | ⟨hstart, _, heq⟩ |
    ⟨ledger, hmerged, heq⟩ | ⟨content, hwritten, htemp, heq⟩
  · rw [heq]
    exact .inr ⟨x, hx, hother⟩
  · exact .inl (failed_of_error heq)
  · -- a side that starts is neither of the two
    rcases Side.eq_or_other x e.side with hside | hside
    · rw [hside, hx] at hstart
      cases hstart
    · rw [hside] at hstart
      rcases hother with hother | ⟨⟨r, hother⟩, _⟩ <;> rw [hstart] at hother <;> cases hother
  · rcases Side.eq_or_other x e.side with hside | hside
    · rw [hside, hx] at hmerged
      cases hmerged
    · rw [hside] at hmerged
      rcases hother with hother | ⟨⟨r, hother⟩, _⟩ <;> rw [hmerged] at hother <;> cases hother
  · -- the rename leaves the other side without a file
    refine .inr ⟨e.side.other, ?_, .inr ⟨⟨.ok (), ?_⟩, ?_⟩⟩
    · rw [phase_other_step]
      rcases Side.eq_or_other x e.side with hside | hside
      · rw [hside]
        rcases hother with hother | ⟨_, hnone⟩
        · exact hother
        · rw [htemp] at hnone
          cases hnone
      · rw [hside, Side.other_other]
        exact hx
    · rw [heq, Side.other_other]
      exact to_self ..
    · rw [heq]
      rfl

/-! ## The ledger a call has read -/

/-- While the other call has not returned, what a call has merged comes from the ledger as it is. -/
def Fresh (calls : Side → RecordCall) (s : RecordState) : Prop :=
  ∀ x ledger, s.phase x = .merged ledger → (∀ r, s.phase x.other ≠ .done r) →
    ledger = withCooldownRun (readCooldownLedger s.ledger) (calls x).capabilityId (calls x).now

theorem fresh_step (h : Fresh calls s) : Fresh calls (recordStep calls s e) := by
  intro x ledger hx hopen
  rcases recordStep_cases calls s e with ⟨r, hdone, heq⟩ | ⟨error, temp, heq⟩ | ⟨hstart, _, heq⟩ |
    ⟨merged, hmerged, heq⟩ | ⟨content, hwritten, htemp, heq⟩
  · rw [heq] at hx hopen ⊢
    exact h x ledger hx hopen
  all_goals
    rcases Side.eq_or_other e.side x with rfl | rfl
  · rw [heq, to_self] at hx
    cases hx
  · rw [heq, Side.other_other, to_self] at hopen
    exact absurd rfl (hopen _)
  · rw [heq, to_self] at hx
    cases hx
    rw [heq]
    rfl
  · rw [phase_other_step] at hx
    rw [heq]
    refine h _ ledger hx fun r hr => ?_
    rw [Side.other_other, hstart] at hr
    cases hr
  · rw [heq, to_self] at hx
    cases hx
  · rw [phase_other_step] at hx
    rw [heq]
    refine h _ ledger hx fun r hr => ?_
    rw [Side.other_other, hmerged] at hr
    cases hr
  · rw [heq, to_self] at hx
    cases hx
  · rw [heq, Side.other_other, to_self] at hopen
    exact absurd rfl (hopen _)

/-! ## Runs without a harmful rename keep everything -/

/-- What a ledger must hold before it may replace the file for side `x`. -/
structure Complete (calls : Side → RecordCall) (before : CooldownLedger) (s : RecordState) (x : Side)
    (ledger : CooldownLedger) : Prop where
  others : ∀ id, (∀ x, id ≠ (calls x).capabilityId) →
    ledger.lastRunUnixSeconds.find? id = before.lastRunUnixSeconds.find? id
  own : Holds ledger (calls x)
  returned : s.phase x.other = .done (.ok ()) → Holds ledger (calls x.other)

structure Keeping (calls : Side → RecordCall) (before : CooldownLedger) (s : RecordState) :
    Prop where
  others : ∀ id, (∀ x, id ≠ (calls x).capabilityId) →
    (readCooldownLedger s.ledger).lastRunUnixSeconds.find? id =
      before.lastRunUnixSeconds.find? id
  returned : ∀ x, s.phase x = .done (.ok ()) → Holds (readCooldownLedger s.ledger) (calls x)
  merged : ∀ x ledger, s.phase x = .merged ledger → ledger.Storable ∧ Complete calls before s x ledger
  written : ∀ x, s.phase x = .written → s.phase x.other ≠ .written ∧
    ∃ content, s.temp = some content ∧ Complete calls before s x (parseCooldownLedger content)

theorem holds_withCooldownRun {ledger : CooldownLedger} {call : RecordCall}
    (hid : call.capabilityId ≠ "") (hnow : 0 < call.now) :
    Holds (withCooldownRun ledger call.capabilityId call.now) call :=
  withCooldownRun_self hid hnow

theorem Holds.mono {ledger : CooldownLedger} {call : RecordCall} (h : Holds ledger call)
    (id : String) (now : Int) : Holds (withCooldownRun ledger id now) call := by
  obtain ⟨last, hlast, hle⟩ := h
  obtain ⟨last', hlast', hle'⟩ := withCooldownRun_mono hlast
  exact ⟨last', hlast', le_trans hle hle'⟩

/-- Whether a ledger holds the run of a call is not changed by a run of another capability. -/
theorem holds_withCooldownRun_of_ne {ledger : CooldownLedger} {call : RecordCall} {id : String}
    {now : Int} (h : call.capabilityId ≠ id) :
    Holds (withCooldownRun ledger id now) call ↔ Holds ledger call := by
  unfold Holds
  rw [withCooldownRun_of_ne h]

section Step

variable {before : CooldownLedger} (hnow : ∀ x, 0 < (calls x).now ∧ IsInt64 (calls x).now)
  (hplain : ∀ x, PlainId (calls x).capabilityId)

include hnow hplain in
/-- The ledger is read and the run merged. -/
theorem keeping_read (h : Keeping calls before s) (x : Side) (hstart : s.phase x = .start)
    (hid : (calls x).capabilityId ≠ "") :
    Keeping calls before (s.to x (.merged
      (withCooldownRun (readCooldownLedger s.ledger) (calls x).capabilityId (calls x).now))) := by
  refine ⟨h.others, ?_, ?_, ?_⟩
  · intro y hy
    rcases Side.eq_or_other x y with rfl | rfl
    · rw [to_self] at hy
      cases hy
    · rw [to_other] at hy
      exact h.returned _ hy
  · intro y ledger hy
    rcases Side.eq_or_other x y with rfl | rfl
    · rw [to_self] at hy
      cases hy
      refine ⟨storable_withCooldownRun (storable_readCooldownLedger _) (hplain y) (hnow y).2, ?_⟩
      refine ⟨?_, holds_withCooldownRun hid (hnow y).1, ?_⟩
      · intro id hne
        rw [withCooldownRun_of_ne (hne y), h.others id hne]
      · intro hother
        rw [to_other] at hother
        exact (h.returned _ hother).mono _ _
    · rw [to_other] at hy
      obtain ⟨hstorable, hcomplete⟩ := h.merged _ ledger hy
      refine ⟨hstorable, hcomplete.others, hcomplete.own, ?_⟩
      intro hother
      rw [Side.other_other, to_self] at hother
      cases hother
  · intro y hy
    rcases Side.eq_or_other x y with rfl | rfl
    · rw [to_self] at hy
      cases hy
    · rw [to_other] at hy
      obtain ⟨_, content, htemp, hcomplete⟩ := h.written _ hy
      refine ⟨?_, content, htemp, hcomplete.others, hcomplete.own, ?_⟩
      · rw [Side.other_other, to_self]
        intro hne
        cases hne
      · intro hother
        rw [Side.other_other, to_self] at hother
        cases hother

/-- The temporary file is written, and the other call has not done so. -/
theorem keeping_write (h : Keeping calls before s) (x : Side) {ledger : CooldownLedger}
    (hmerged : s.phase x = .merged ledger) (hother : s.phase x.other ≠ .written) :
    Keeping calls before
      ({ s with temp := some (formatCooldownLedger ledger) }.to x .written) := by
  obtain ⟨hstorable, hcomplete⟩ := h.merged x ledger hmerged
  refine ⟨h.others, ?_, ?_, ?_⟩
  · intro y hy
    rcases Side.eq_or_other x y with rfl | rfl
    · rw [to_self] at hy
      cases hy
    · rw [to_other] at hy
      exact h.returned _ hy
  · intro y merged hy
    rcases Side.eq_or_other x y with rfl | rfl
    · rw [to_self] at hy
      cases hy
    · rw [to_other] at hy
      obtain ⟨hstorable', hcomplete'⟩ := h.merged _ merged hy
      refine ⟨hstorable', hcomplete'.others, hcomplete'.own, ?_⟩
      intro hdone
      rw [Side.other_other, to_self] at hdone
      cases hdone
  · intro y hy
    rcases Side.eq_or_other x y with rfl | rfl
    · refine ⟨by rw [to_other]; exact hother, _, rfl, ?_⟩
      rw [parse_format_ledger hstorable]
      refine ⟨hcomplete.others, hcomplete.own, ?_⟩
      intro hdone
      rw [to_other] at hdone
      exact hcomplete.returned hdone
    · rw [to_other] at hy
      exact absurd hy hother

/-- The rename; the other call has nothing merged that lacks the run. -/
theorem keeping_rename (h : Keeping calls before s) (hfresh : Fresh calls s)
    (hharmless : Harmless calls s e) {content : Text} (hwritten : s.phase e.side = .written)
    (htemp : s.temp = some content) :
    Keeping calls before
      ({ s with ledger := some content, temp := none }.to e.side (.done (.ok ()))) := by
  obtain ⟨hother, content', htemp', hcomplete⟩ := h.written e.side hwritten
  obtain rfl : content' = content := Option.some.inj (htemp'.symm.trans htemp)
  refine ⟨hcomplete.others, ?_, ?_, ?_⟩
  · intro y hy
    rcases Side.eq_or_other e.side y with rfl | rfl
    · exact hcomplete.own
    · rw [to_other] at hy
      exact hcomplete.returned hy
  · intro y merged hy
    rcases Side.eq_or_other e.side y with rfl | rfl
    · rw [to_self] at hy
      cases hy
    · rw [to_other] at hy
      obtain ⟨hstorable, hcomplete'⟩ := h.merged _ merged hy
      refine ⟨hstorable, hcomplete'.others, hcomplete'.own, ?_⟩
      intro _
      -- the other call merged from the ledger that is replaced here
      have heq := hfresh _ merged hy fun r hr => by
        rw [Side.other_other, hwritten] at hr
        cases hr
      have hholds : Holds (readCooldownLedger s.ledger) (calls e.side) :=
        hharmless hwritten ⟨merged, hy⟩
      rw [heq, Side.other_other]
      exact hholds.mono _ _
  · intro y hy
    rcases Side.eq_or_other e.side y with rfl | rfl
    · rw [to_self] at hy
      cases hy
    · rw [to_other] at hy
      exact absurd hy hother

include hnow hplain in
theorem keeping_step (hharmless : Harmless calls s e) (hfresh : Fresh calls s)
    (h : Failed s ∨ Doomed s ∨ Keeping calls before s) :
    Failed (recordStep calls s e) ∨ Doomed (recordStep calls s e) ∨
      Keeping calls before (recordStep calls s e) := by
  rcases h with h | h | h
  · exact .inl (failed_step h)
  · have hnext : Failed (recordStep calls s e) ∨ Doomed (recordStep calls s e) := doomed_step h
    exact hnext.imp_right .inl
  rcases recordStep_cases calls s e with ⟨r, hdone, heq⟩ | ⟨error, temp, heq⟩ | ⟨hstart, hid, heq⟩ |
    ⟨ledger, hmerged, heq⟩ | ⟨content, hwritten, htemp, heq⟩
  · rw [heq]
    exact .inr (.inr h)
  · exact .inl (failed_of_error heq)
  · rw [heq]
    exact .inr (.inr (keeping_read hnow hplain h e.side hstart hid))
  · by_cases hother : s.phase e.side.other = .written
    · right
      left
      refine ⟨e.side.other, by rw [phase_other_step, hother], .inl ?_⟩
      rw [Side.other_other, heq]
      exact to_self ..
    · rw [heq]
      exact .inr (.inr (keeping_write h e.side hmerged hother))
  · rw [heq]
    exact .inr (.inr (keeping_rename h hfresh hharmless hwritten htemp))

end Step

/-! ## A harmful rename loses the record -/

/-- The call of side `x` has returned, and whatever the other one puts in place of the ledger lacks
its run. -/
structure Losing (calls : Side → RecordCall) (x : Side) (s : RecordState) : Prop where
  returned : s.phase x = .done (.ok ())
  started : s.phase x.other ≠ .start
  merged : ∀ ledger, s.phase x.other = .merged ledger →
    ledger.Storable ∧ ¬ Holds ledger (calls x)
  written : s.phase x.other = .written → ∀ content, s.temp = some content →
    ¬ Holds (parseCooldownLedger content) (calls x)
  finished : s.phase x.other = .done (.ok ()) → ¬ Holds (readCooldownLedger s.ledger) (calls x)

theorem losing_step {x : Side} (h : Failed s ∨ Losing calls x s) :
    Failed (recordStep calls s e) ∨ Losing calls x (recordStep calls s e) := by
  rcases h with h | h
  · exact .inl (failed_step h)
  have hreturned : (recordStep calls s e).phase x = .done (.ok ()) := phase_done_step h.returned
  rcases Side.eq_or_other x e.side with hside | hside
  · have heq : recordStep calls s e = s := by
      unfold recordStep
      rw [hside, h.returned]
    rw [heq]
    exact .inr h
  rcases recordStep_cases calls s e with ⟨r, hdone, heq⟩ | ⟨error, temp, heq⟩ | ⟨hstart, _, _⟩ |
    ⟨ledger, hmerged, heq⟩ | ⟨content, hwritten, htemp, heq⟩
  · rw [heq]
    exact .inr h
  · exact .inl (failed_of_error heq)
  · rw [hside] at hstart
    exact absurd hstart h.started
  · rw [hside] at hmerged heq
    obtain ⟨hstorable, hlacks⟩ := h.merged ledger hmerged
    right
    rw [heq] at hreturned ⊢
    refine ⟨hreturned, ?_, ?_, ?_, ?_⟩
    · rw [to_self]
      intro hp
      cases hp
    · intro ledger' hp
      rw [to_self] at hp
      cases hp
    · rintro _ content hcontent
      cases hcontent
      rw [parse_format_ledger hstorable]
      exact hlacks
    · intro hp
      rw [to_self] at hp
      cases hp
  · rw [hside] at hwritten heq
    right
    rw [heq] at hreturned ⊢
    refine ⟨hreturned, ?_, ?_, ?_, ?_⟩
    · rw [to_self]
      intro hp
      cases hp
    · intro ledger' hp
      rw [to_self] at hp
      cases hp
    · intro hp
      rw [to_self] at hp
      cases hp
    · intro _
      exact h.written hwritten content htemp

section Run

variable (hdiffer : (calls .first).capabilityId ≠ (calls .second).capabilityId)
  (hnow : ∀ x, 0 < (calls x).now ∧ IsInt64 (calls x).now)
  (hplain : ∀ x, PlainId (calls x).capabilityId)

include hdiffer in
theorem capabilityId_ne (x : Side) : (calls x).capabilityId ≠ (calls x.other).capabilityId := by
  cases x with
  | first => exact hdiffer
  | second => exact hdiffer.symm

include hdiffer hnow hplain in
/-- A rename that is not harmless. -/
theorem losing_of_not_harmless (hfresh : Fresh calls s) (h : ¬ Harmless calls s e) :
    Failed (recordStep calls s e) ∨ Losing calls e.side (recordStep calls s e) := by
  simp only [Harmless, Classical.not_imp] at h
  obtain ⟨hwritten, ⟨ledger, hmerged⟩, hlacks⟩ := h
  have heq := hfresh _ ledger hmerged fun r hr => by
    rw [Side.other_other, hwritten] at hr
    cases hr
  have hlacks' : ¬ Holds ledger (calls e.side) := by
    rw [heq, holds_withCooldownRun_of_ne (capabilityId_ne hdiffer e.side)]
    exact hlacks
  have hstorable : ledger.Storable := by
    rw [heq]
    exact storable_withCooldownRun (storable_readCooldownLedger _) (hplain _) (hnow _).2
  rcases recordStep_cases calls s e with ⟨r, hdone, _⟩ | ⟨error, temp, hstep⟩ | ⟨hstart, _, _⟩ |
    ⟨_, hmerged', _⟩ | ⟨content, _, htemp, hstep⟩
  · rw [hwritten] at hdone
    cases hdone
  · exact .inl (failed_of_error hstep)
  · rw [hwritten] at hstart
    cases hstart
  · rw [hwritten] at hmerged'
    cases hmerged'
  · right
    rw [hstep]
    refine ⟨to_self .., ?_, ?_, ?_, ?_⟩
    all_goals rw [to_other]
    · rw [show RecordState.phase { s with ledger := some content, temp := none } = s.phase from rfl,
        hmerged]
      intro hp
      cases hp
    · intro ledger' hp
      obtain rfl : ledger = ledger' := RecordPhase.merged.inj (hmerged.symm.trans hp)
      exact ⟨hstorable, hlacks'⟩
    · intro hp
      cases hmerged.symm.trans hp
    · intro hp
      cases hmerged.symm.trans hp

include hdiffer hnow hplain in
/-- From a state that is fresh, every rename is harmless or the run ends in a loss. -/
theorem steps_harmless_or_losing (hfresh : Fresh calls s) (es : List RecordEvent) :
    Steps (recordStep calls) (Harmless calls) s es ∨ Failed (run (recordStep calls) s es) ∨
      ∃ x, Losing calls x (run (recordStep calls) s es) := by
  induction es generalizing s with
  | nil => exact .inl trivial
  | cons e es ih =>
    by_cases hharmless : Harmless calls s e
    · rcases ih (fresh_step hfresh) with h | h
      · exact .inl ⟨hharmless, h⟩
      · exact .inr h
    · right
      have hlosing := losing_of_not_harmless hdiffer hnow hplain hfresh hharmless
      have hrun : Always (recordStep calls) (fun s => Failed s ∨ Losing calls e.side s)
          (recordStep calls s e) es := by
        have hall : Steps (recordStep calls) (fun _ _ => True) (recordStep calls s e) es :=
          steps_of_forall fun _ _ => trivial
        exact always_of_steps (I := fun s => Failed s ∨ Losing calls e.side s)
          (fun s e h _ => losing_step h) (fun _ h => h) hlosing hall
      exact hrun.last.imp_right fun h => ⟨e.side, h⟩

include hnow hplain in
theorem keeping_run {before : CooldownLedger} (hfresh : Fresh calls s)
    (h : Failed s ∨ Doomed s ∨ Keeping calls before s) {es : List RecordEvent}
    (hes : Steps (recordStep calls) (Harmless calls) s es) :
    Failed (run (recordStep calls) s es) ∨ Doomed (run (recordStep calls) s es) ∨
      Keeping calls before (run (recordStep calls) s es) := by
  induction es generalizing s with
  | nil => exact h
  | cons e es ih =>
    exact ih (fresh_step hfresh) (keeping_step hnow hplain hes.1 hfresh h) hes.2

end Run

theorem not_failed_of_succeeded (h : BothSucceeded s) : ¬ Failed s := by
  rintro ⟨x, error, hx⟩
  cases (h x).symm.trans hx

theorem not_doomed_of_succeeded (h : BothSucceeded s) : ¬ Doomed s := by
  rintro ⟨x, hx, _⟩
  cases (h x).symm.trans hx

/-- Only plain ids are ever read. -/
theorem plainId_of_holds {file : Option Text} {call : RecordCall}
    (h : Holds (readCooldownLedger file) call) : PlainId call.capabilityId := by
  obtain ⟨last, hlast, _⟩ := h
  exact (storable_readCooldownLedger file _ (SortedMap.find?_eq_some.mp hlast)).1

theorem fresh_initial (ledger temp : Option Text) : Fresh calls (initialState ledger temp) := by
  intro x merged hx
  cases hx

theorem keeping_initial (ledger temp : Option Text) :
    Keeping calls (readCooldownLedger ledger) (initialState ledger temp) := by
  refine ⟨fun _ _ => rfl, ?_, ?_, ?_⟩
  · intro x hx
    cases hx
  · intro x merged hx
    cases hx
  · intro x hx
    cases hx

/-- Where both calls succeed, no record is lost exactly when the ids can stand in the file and no
call renames between the other's read and write, unless the ledger already holds its run. -/
theorem records_kept_iff (calls : Side → RecordCall)
    (hdiffer : (calls .first).capabilityId ≠ (calls .second).capabilityId)
    (hnow : ∀ x, 0 < (calls x).now ∧ IsInt64 (calls x).now) (ledger temp : Option Text)
    (es : List RecordEvent)
    (hok : BothSucceeded (run (recordStep calls) (initialState ledger temp) es)) :
    RecordsKept calls (readCooldownLedger ledger)
        (readCooldownLedger (run (recordStep calls) (initialState ledger temp) es).ledger) ↔
      (∀ x, PlainId (calls x).capabilityId) ∧
        Steps (recordStep calls) (Harmless calls) (initialState ledger temp) es := by
  constructor
  · intro hkept
    have hplain : ∀ x, PlainId (calls x).capabilityId := fun x => plainId_of_holds (hkept.1 x)
    refine ⟨hplain, ?_⟩
    rcases steps_harmless_or_losing hdiffer hnow hplain (fresh_initial ledger temp) es with
      h | h | ⟨x, h⟩
    · exact h
    · exact absurd h (not_failed_of_succeeded hok)
    · exact absurd (hkept.1 x) (h.finished (hok x.other))
  · rintro ⟨hplain, hes⟩
    rcases keeping_run hnow hplain (fresh_initial ledger temp)
      (.inr (.inr (keeping_initial ledger temp))) hes with h | h | h
    · exact absurd h (not_failed_of_succeeded hok)
    · exact absurd h (not_doomed_of_succeeded hok)
    · refine ⟨fun x => h.returned x (hok x), ?_⟩
      intro id last hne hlast
      rw [h.others id hne, hlast]

end Calls

/-! ## Two runs -/

/-- A clean and a power scheme switch, a second apart. -/
def cleanAndSwitch : Side → RecordCall
  | .first => { capabilityId := kMemoryCleanCapabilityId, now := 1000 }
  | .second => { capabilityId := kPowerSchemeCapabilityId, now := 1001 }

def moves (sides : List Side) : List RecordEvent := sides.map fun x => ⟨x, .works⟩

/-- One call after the other. -/
theorem records_kept_in_turn :
    RecordsKept cleanAndSwitch (readCooldownLedger none)
      (readCooldownLedger (run (recordStep cleanAndSwitch) (initialState none none)
        (moves [.first, .first, .first, .second, .second, .second])).ledger) := by
  have hok : BothSucceeded (run (recordStep cleanAndSwitch) (initialState none none)
      (moves [.first, .first, .first, .second, .second, .second])) := by
    intro x
    cases x <;> rfl
  refine (records_kept_iff cleanAndSwitch (by decide) ?_ none none _ hok).mpr ⟨?_, ?_⟩
  · intro x
    cases x <;> decide
  · intro x
    cases x <;> decide
  · -- each rename finds the other call not yet started, or returned
    refine ⟨?_, ?_, ?_, ?_, ?_, ?_, trivial⟩
    · intro hwritten
      cases hwritten
    · intro hwritten
      cases hwritten
    · rintro _ ⟨_, hmerged⟩
      cases hmerged
    · intro hwritten
      cases hwritten
    · intro hwritten
      cases hwritten
    · rintro _ ⟨_, hmerged⟩
      cases hmerged

/-- The second call reads before the first one renames: the record of the first is gone. -/
theorem overlap_loses_record :
    BothSucceeded (run (recordStep cleanAndSwitch) (initialState none none)
        (moves [.first, .second, .first, .first, .second, .second])) ∧
      ¬ RecordsKept cleanAndSwitch (readCooldownLedger none)
        (readCooldownLedger (run (recordStep cleanAndSwitch) (initialState none none)
          (moves [.first, .second, .first, .first, .second, .second])).ledger) := by
  refine ⟨?_, ?_⟩
  · intro x
    cases x <;> rfl
  · intro hkept
    obtain ⟨last, hlast, _⟩ := hkept.1 .first
    have hnone : (readCooldownLedger (run (recordStep cleanAndSwitch) (initialState none none)
        (moves [.first, .second, .first, .first, .second, .second])).ledger).lastRunUnixSeconds.find?
          kMemoryCleanCapabilityId = none := by
      decide +kernel
    exact absurd (hnone.symm.trans hlast) (by simp)

end Policy
end CppOptimizer
