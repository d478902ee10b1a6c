import CppOptimizer.Lib.Run
import CppOptimizer.Common.Error

/-!
# CppOptimizer.Service.StatusReports

The status reports of the service host (`service_host.cpp`): the service-main thread moves through its
states with `Transit`, while the control thread answers `INTERROGATE` by reporting the current state
again.

* `HostThreads`  — the shared state, the position of each thread and the reports handed to the backend.
* `HostThreads.step` — the atomic steps: load, store and report of `Transit`, load and report of
  `ReReportCurrentStatus`.
* `Ordered`      — the reports never go backwards and end with `stopped`.
* `reports_ordered_iff` — an interleaving keeps them ordered exactly if no answer is overtaken.

No lock covers load and report of an answer. A state loaded before a store can be reported after the
report that follows the store.
-/

namespace CppOptimizer
namespace Service

open Common Lib

inductive ServiceState where
  | unknown | startPending | running | stopPending | stopped
  deriving DecidableEq, Repr

/-- The order in which a service goes through its states. -/
def ServiceState.rank : ServiceState → Nat
  | .unknown => 0
  | .startPending => 1
  | .running => 2
  | .stopPending => 3
  | .stopped => 4

def stateToString : ServiceState → String
  | .unknown => "unknown"
  | .startPending => "start_pending"
  | .running => "running"
  | .stopPending => "stop_pending"
  | .stopped => "stopped"

structure ServiceStatusReport where
  state : ServiceState := .unknown
  controlsAccepted : UInt32 := 0
  win32ExitCode : UInt32 := 0
  checkPoint : UInt32 := 0
  waitHintMs : UInt32 := 0
  deriving DecidableEq, Repr

/-- `SERVICE_ACCEPT_STOP | SERVICE_ACCEPT_SHUTDOWN`. -/
def kServiceControlsAccepted : UInt32 := 0x1 ||| 0x4

def kWaitHintMs : UInt32 := 3000

def makeStatusReport (state : ServiceState) (win32ExitCode checkPoint waitHintMs : UInt32) :
    ServiceStatusReport :=
  { state := state
    win32ExitCode := win32ExitCode
    checkPoint := checkPoint
    waitHintMs := waitHintMs
    controlsAccepted := if state = .running then kServiceControlsAccepted else 0 }

def legalTransition : ServiceState → ServiceState → Bool
  | .unknown, next => next = .startPending
  | .startPending, next => next = .running ∨ next = .stopPending ∨ next = .stopped
  | .running, next => next = .stopPending ∨ next = .stopped
  | .stopPending, next => next = .stopped
  | .stopped, _ => false

def validateStateTransition (before next : ServiceState) : Result Unit :=
  if legalTransition before next then .ok ()
  else .error (.validation "ValidateStateTransition"
    ("非法服务状态转移: " ++ stateToString before ++ " -> " ++ stateToString next))

/-! ## The two threads -/

/-- The arguments of one call of `Transit`, with its defaults. -/
structure TransitCall where
  next : ServiceState
  win32ExitCode : UInt32 := 0
  checkPoint : UInt32 := 0
  waitHintMs : UInt32 := 0
  deriving DecidableEq, Repr

def TransitCall.statusReport (c : TransitCall) : ServiceStatusReport :=
  makeStatusReport c.next c.win32ExitCode c.checkPoint c.waitHintMs

/-- The calls of `RunServiceMain`, in order. `loopOk` is whether `RunLoop` ended well. -/
def runServiceMain (loopOk : Bool) : List TransitCall :=
  [ { next := .startPending, checkPoint := 1, waitHintMs := kWaitHintMs },
    { next := .running },
    { next := .stopPending, checkPoint := 2, waitHintMs := kWaitHintMs },
    { next := .stopped, win32ExitCode := if loopOk then 0 else 1 } ]

/-- Where the service-main thread stands in the first of its remaining calls. -/
inductive MainPhase where
  | ready
  | loaded (before : ServiceState)
  | stored
  deriving DecidableEq, Repr

/-- An `INTERROGATE` that has loaded the state and not yet reported it. The two flags follow the
service-main thread since the load; the program has no such fields. -/
structure Interrogation where
  state : ServiceState
  storedSince : Bool := false
  /-- A state stored since the load has been reported too. -/
  overtaken : Bool := false
  deriving DecidableEq, Repr

structure HostThreads where
  currentState : ServiceState := .unknown
  todo : List TransitCall
  phase : MainPhase := .ready
  asked : Option Interrogation := none
  /-- What `ReportStatus` of the backend was called with, in order. -/
  reported : List ServiceStatusReport := []
  deriving DecidableEq, Repr

inductive HostEvent where
  | load
  | store
  | report (answer : Result Unit)
  | interrogate
  | answer
  deriving DecidableEq

def HostThreads.states (w : HostThreads) : List ServiceState :=
  w.reported.map ServiceStatusReport.state

/-- The control callbacks of the SCM come one at a time, so at most one `INTERROGATE` is open. A
failed call ends `RunServiceMain`. -/
def HostThreads.step (w : HostThreads) : HostEvent → HostThreads
  | .load =>
    match w.phase, w.todo with
    | .ready, _ :: _ => { w with phase := .loaded w.currentState }
    | _, _ => w
  | .store =>
    match w.phase, w.todo with
    | .loaded before, c :: _ =>
      match validateStateTransition before c.next with
      | .error _ => { w with todo := [], phase := .ready }
      | .ok _ =>
        { w with
          currentState := c.next
          phase := .stored
          asked := w.asked.map fun q => { q with storedSince := true } }
    | _, _ => w
  | .report answer =>
    match w.phase, w.todo with
    | .stored, c :: rest =>
      { w with
        todo := if answer.ok? then rest else []
        phase := .ready
        asked := w.asked.map fun q => { q with overtaken := q.overtaken || q.storedSince }
        reported := w.reported ++ [c.statusReport] }
    | _, _ => w
  | .interrogate =>
    match w.asked with
    | some _ => w
    | none =>
      if w.currentState = .unknown ∨ w.currentState = .stopped then w
      else { w with asked := some { state := w.currentState } }
  | .answer =>
    match w.asked with
    | none => w
    | some q =>
      { w with asked := none, reported := w.reported ++ [makeStatusReport q.state 0 0 0] }

/-- The host at the start of `RunServiceMain`. -/
def HostThreads.start (loopOk : Bool) : HostThreads := { todo := runServiceMain loopOk }

/-- Non-decreasing, and nothing follows `stopped`. -/
def Ordered (states : List ServiceState) : Prop :=
  states.Pairwise fun a b => a.rank ≤ b.rank ∧ a ≠ .stopped

instance (states : List ServiceState) : Decidable (Ordered states) :=
  inferInstanceAs (Decidable (List.Pairwise _ states))

/-- The step does not report an answer that a report of the service-main thread has overtaken. -/
def InTime (w : HostThreads) (e : HostEvent) : Prop :=
  e = .answer → ∀ q, w.asked = some q → q.overtaken = false

/-! ## The order of the reports -/

theorem rank_le_stopped (s : ServiceState) : s.rank ≤ 4 := by
  cases s <;> simp [ServiceState.rank]

theorem rank_lt_stopped_iff (s : ServiceState) : s.rank < 4 ↔ s ≠ .stopped := by
  cases s <;> simp [ServiceState.rank]

theorem ordered_snoc {states : List ServiceState} {s : ServiceState} :
    Ordered (states ++ [s]) ↔
      Ordered states ∧ ∀ a ∈ states, a.rank ≤ s.rank ∧ a ≠ .stopped := by
  simp [Ordered, List.pairwise_append]

/-- An open answer: how its state stands to the current one and to the reports. -/
structure Interrogation.Fits (q : Interrogation) (current : ServiceState)
    (states : List ServiceState) : Prop where
  notStopped : q.state ≠ .stopped
  notAhead : q.state.rank ≤ current.rank
  isCurrent : q.storedSince = false → current.rank ≤ q.state.rank
  isOld : q.storedSince = true → q.state.rank < current.rank
  inTime : q.overtaken = false → ∀ s ∈ states, s.rank ≤ q.state.rank
  late : q.overtaken = true → ∃ s ∈ states, q.state.rank < s.rank

/-- A newer state is stored. -/
theorem Interrogation.Fits.store {q : Interrogation} {current next : ServiceState}
    {states : List ServiceState} (h : q.Fits current states) (hnext : current.rank < next.rank) :
    Interrogation.Fits { q with storedSince := true } next states :=
  { h with
    notAhead := h.notAhead.trans hnext.le
    isCurrent := fun hs => nomatch hs
    isOld := fun _ => h.notAhead.trans_lt hnext }

/-- The current state is reported. -/
theorem Interrogation.Fits.report {q : Interrogation} {current : ServiceState}
    {states : List ServiceState} (h : q.Fits current states) :
    Interrogation.Fits { q with overtaken := q.overtaken || q.storedSince } current
      (states ++ [current]) := by
  refine { h with inTime := ?_, late := ?_ }
  · intro ho
    obtain ⟨ho, hs⟩ := Bool.or_eq_false_iff.mp ho
    simp only [List.mem_append, List.mem_singleton]
    rintro s (hmem | rfl)
    · exact h.inTime ho s hmem
    · exact h.isCurrent hs
  · intro ho
    rcases (Bool.or_eq_true _ _).mp ho with ho | hs
    · obtain ⟨s, hmem, hlt⟩ := h.late ho
      exact ⟨s, List.mem_append_left _ hmem, hlt⟩
    · exact ⟨current, by simp, h.isOld hs⟩

structure HostThreads.Inv (w : HostThreads) : Prop where
  rising : w.todo.Pairwise fun c d => c.next.rank < d.next.rank
  ahead : w.phase ≠ .stored → ∀ c ∈ w.todo, w.currentState.rank < c.next.rank
  storedHead : w.phase = .stored → ∀ c rest, w.todo = c :: rest → c.next = w.currentState
  ordered : Ordered w.states
  reached : ∀ s ∈ w.states, s.rank ≤ w.currentState.rank
  ended : .stopped ∈ w.states → w.todo = []
  fits : ∀ q, w.asked = some q → q.Fits w.currentState w.states

namespace HostThreads

variable {w : HostThreads}

theorem inv_start (loopOk : Bool) : (start loopOk).Inv where
  rising := by simp [start, runServiceMain, ServiceState.rank]
  ahead := by simp [start, runServiceMain, ServiceState.rank]
  storedHead := fun h => nomatch h
  ordered := List.Pairwise.nil
  reached := fun s hs => nomatch hs
  ended := fun hs => nomatch hs
  fits := fun q hq => nomatch hq

theorem step_load (h : w.Inv) : (w.step .load).Inv := by
  simp only [step]
  split
  · rename_i hphase _
    have hready : w.phase ≠ .stored := by simp [hphase]
    exact { h with ahead := fun _ => h.ahead hready, storedHead := fun hs => nomatch hs }
  · exact h

theorem step_store (h : w.Inv) : (w.step .store).Inv := by
  simp only [step]
  split
  · rename_i before c rest hphase htodo
    have hahead := h.ahead (by simp [hphase])
    have hnext : w.currentState.rank < c.next.rank := hahead c (by simp [htodo])
    split
    · exact { h with
        rising := .nil
        ahead := fun _ c hc => nomatch hc
        storedHead := fun hs => nomatch hs
        ended := fun _ => rfl }
    · refine { h with ahead := fun hs => absurd rfl hs, storedHead := ?_, reached := ?_, fits := ?_ }
      · intro _ d rest' hd
        obtain ⟨rfl, -⟩ := List.cons.inj (htodo.symm.trans hd)
        rfl
      · intro s hs
        exact (h.reached s hs).trans hnext.le
      · intro q' hq'
        obtain ⟨q, hq, rfl⟩ := Option.map_eq_some_iff.mp hq'
        exact (h.fits q hq).store hnext
  · exact h

/-- The report of a stored state goes behind all others: what was reported before does not pass it,
and `stopped` was not among it. -/
theorem step_report (h : w.Inv) (answer : Result Unit) : (w.step (.report answer)).Inv := by
  simp only [step]
  split
  · rename_i c rest hphase htodo
    have hc : c.next = w.currentState := h.storedHead hphase c rest htodo
    have ⟨hrising, hrest⟩ := List.pairwise_cons.mp (htodo ▸ h.rising)
    have hstates : (w.reported ++ [c.statusReport]).map ServiceStatusReport.state =
        w.states ++ [w.currentState] := by
      simp [states, TransitCall.statusReport, makeStatusReport, hc]
    have hlive : .stopped ∉ w.states := by
      intro hs
      simpa [htodo] using h.ended hs
    refine
      { rising := ?_, ahead := ?_, storedHead := (fun hs => nomatch hs), ordered := ?_,
        reached := ?_, ended := ?_, fits := ?_ }
    · dsimp only
      split
      · exact hrest
      · exact .nil
    · intro _ d hd
      dsimp only at hd ⊢
      split at hd
      · exact hc ▸ hrising d hd
      · exact nomatch hd
    · simp only [HostThreads.states, hstates, ordered_snoc]
      refine ⟨h.ordered, fun a ha => ⟨h.reached a ha, ?_⟩⟩
      rintro rfl
      exact hlive ha
    · simp only [HostThreads.states, hstates, List.mem_append, List.mem_singleton]
      rintro s (hs | rfl)
      · exact h.reached s hs
      · exact le_rfl
    · simp only [HostThreads.states, hstates, List.mem_append, List.mem_singleton]
      rintro (hs | hs)
      · exact absurd hs hlive
      · -- Nothing is left behind the call that stored `stopped`.
        have hnil : rest = [] := by
          refine List.eq_nil_iff_forall_not_mem.mpr fun d hd => ?_
          have hlt := hrising d hd
          rw [hc, ← hs] at hlt
          exact absurd (rank_le_stopped d.next) (Nat.not_le.mpr hlt)
        simp [hnil]
    · intro q' hq'
      obtain ⟨q, hq, rfl⟩ := Option.map_eq_some_iff.mp hq'
      simp only [HostThreads.states, hstates]
      exact (h.fits q hq).report
  · exact h

theorem step_interrogate (h : w.Inv) : (w.step .interrogate).Inv := by
  simp only [step]
  split
  · exact h
  · split
    · exact h
    · rename_i hstate
      rw [not_or] at hstate
      refine { h with fits := ?_ }
      rintro q ⟨⟩
      exact
        { notStopped := hstate.2
          notAhead := le_rfl
          isCurrent := fun _ => le_rfl
          isOld := fun hs => nomatch hs
          inTime := fun _ => h.reached
          late := fun hs => nomatch hs }

theorem states_step_answer {q : Interrogation} (hq : w.asked = some q) :
    (w.step .answer).states = w.states ++ [q.state] := by
  simp [step, hq, states, makeStatusReport]

theorem step_answer (h : w.Inv) (hok : InTime w .answer) : (w.step .answer).Inv := by
  cases hq : w.asked with
  | none =>
    have hstep : w.step .answer = w := by simp [step, hq]
    exact hstep.symm ▸ h
  | some q =>
    have hfits := h.fits q hq
    have hle := hfits.inTime (hok rfl q hq)
    have hstates := states_step_answer hq
    have hlive : .stopped ∉ w.states := by
      intro hs
      have hlt := (rank_lt_stopped_iff q.state).mpr hfits.notStopped
      exact absurd (hle .stopped hs) (Nat.not_le.mpr hlt)
    have hkeep : (w.step .answer).currentState = w.currentState ∧
        (w.step .answer).todo = w.todo ∧ (w.step .answer).phase = w.phase ∧
        (w.step .answer).asked = none := by
      simp [step, hq]
    obtain ⟨hcur, htodo, hphase, hasked⟩ := hkeep
    refine
      { rising := htodo ▸ h.rising, ahead := ?_, storedHead := ?_, ordered := ?_, reached := ?_,
        ended := ?_, fits := ?_ }
    · rw [hphase, htodo, hcur]
      exact h.ahead
    · rw [hphase, htodo, hcur]
      exact h.storedHead
    · rw [hstates, ordered_snoc]
      refine ⟨h.ordered, fun a ha => ⟨hle a ha, ?_⟩⟩
      rintro rfl
      exact hlive ha
    · simp only [hstates, hcur, List.mem_append, List.mem_singleton]
      rintro s (hs | rfl)
      · exact h.reached s hs
      · exact hfits.notAhead
    · simp only [hstates, List.mem_append, List.mem_singleton]
      rintro (hs | hs)
      · exact absurd hs hlive
      · exact absurd hs.symm hfits.notStopped
    · intro q' hq'
      rw [hasked] at hq'
      exact nomatch hq'

theorem step_inv (h : w.Inv) {e : HostEvent} (hok : InTime w e) : (w.step e).Inv := by
  cases e with
  | load => exact step_load h
  | store => exact step_store h
  | report answer => exact step_report h answer
  | interrogate => exact step_interrogate h
  | answer => exact step_answer h hok

/-- An overtaken answer comes behind a report that is further on. -/
theorem not_ordered_of_overtaken (h : w.Inv) {e : HostEvent} (hlate : ¬ InTime w e) :
    ¬ Ordered (w.step e).states := by
  simp only [InTime, not_forall] at hlate
  obtain ⟨rfl, q, hq, ho⟩ := hlate
  obtain ⟨s, hs, hlt⟩ := (h.fits q hq).late (by simpa using ho)
  rw [states_step_answer hq, ordered_snoc]
  rintro ⟨-, hle⟩
  exact absurd (hle s hs).1 (Nat.not_le.mpr hlt)

end HostThreads

/-- Over any interleaving of the two threads, the reports are ordered all along exactly if no answer to
`INTERROGATE` is reported after a state stored since its load was reported. -/
theorem reports_ordered_iff (loopOk : Bool) (es : List HostEvent) :
    Always HostThreads.step (fun w => Ordered w.states) (HostThreads.start loopOk) es ↔
      Steps HostThreads.step InTime (HostThreads.start loopOk) es := by
  apply always_iff_steps (I := HostThreads.Inv)
  · exact fun w e h hok => HostThreads.step_inv h hok
  · exact fun w h => h.ordered
  · exact fun w e h hlate => HostThreads.not_ordered_of_overtaken h hlate
  · exact HostThreads.inv_start loopOk

/-- Two states are reported, the third stored and reported while an answer is open: it then reports
`running` behind `stopPending`. -/
theorem answer_overtaken_by_stop :
    (run HostThreads.step (HostThreads.start true)
      [.load, .store, .report (.ok ()), .load, .store, .report (.ok ()), .interrogate,
        .load, .store, .report (.ok ()), .answer]).states =
      [.startPending, .running, .stopPending, .running] ∧
    ¬ ∀ (loopOk : Bool) (es : List HostEvent),
      Always HostThreads.step (fun w => Ordered w.states) (HostThreads.start loopOk) es := by
  refine ⟨by decide, fun h => ?_⟩
  have hlast := (h true
    [.load, .store, .report (.ok ()), .load, .store, .report (.ok ()), .interrogate,
      .load, .store, .report (.ok ()), .answer]).last
  revert hlast
  decide

end Service
end CppOptimizer
