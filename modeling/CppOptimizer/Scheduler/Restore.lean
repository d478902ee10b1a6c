import Mathlib.Data.List.Nodup
import Mathlib.Logic.Function.Basic
import CppOptimizer.Scheduler.ThreadTuner

/-!
# CppOptimizer.Scheduler.Restore

A boost and the restores after it, among others who change priorities too.

* `ThreadWorld` — the priorities, the value others last gave a thread, and our calls of `SetPriority`.
* `Foreign`     — what others do: change a priority, end a thread.
* `Chances`     — what others do before a thread is read, and which writes fail; ids are distinct, so
  one choice for each thread is one for each place of the list.
* `Round`       — a restore, and what others did before it.
* `Kept`        — the invariant: a thread nobody touched is raised or restored, and one that others
  touched has their value.

A failed restore leaves the list half done. The next one passes over what is done, because its
priority is no longer the raised one.
-/

namespace CppOptimizer
namespace Scheduler

open Common Lib

/-! ## Threads and their priorities -/

structure ThreadWorld where
  /-- What `ListThreads` answers. -/
  listed : List ThreadSnapshot
  /-- Nothing for a thread that has exited. -/
  priority : UInt32 → Option Int
  /-- The priority others last gave the thread. -/
  touched : UInt32 → Option Int := fun _ => none
  /-- Every call of `SetPriority`, whether it fails or not. -/
  calls : List (UInt32 × Int) := []

inductive Foreign where
  | change (threadId : UInt32) (priority : Int)
  | exit (threadId : UInt32)
  deriving DecidableEq, Repr

namespace ThreadWorld

def foreign (w : ThreadWorld) : Foreign → ThreadWorld
  | .change id p =>
    if (w.priority id).isSome then
      { w with
        priority := Function.update w.priority id (some p)
        touched := Function.update w.touched id (some p) }
    else w
  | .exit id => { w with priority := Function.update w.priority id none }

def foreigns (w : ThreadWorld) (es : List Foreign) : ThreadWorld := es.foldl foreign w

def write (w : ThreadWorld) (id : UInt32) (p : Int) : ThreadWorld :=
  { w with priority := Function.update w.priority id (some p) }

def logCall (w : ThreadWorld) (id : UInt32) (p : Int) : ThreadWorld :=
  { w with calls := w.calls ++ [(id, p)] }

end ThreadWorld

inductive ThreadCall where
  | listThreads (processId : UInt32)
  | getPriority (threadId : UInt32)
  | setPriority (threadId : UInt32) (priority : Int)
  | getLastError

def ThreadCall.Answer : ThreadCall → Type
  | .listThreads _ => Result (List ThreadSnapshot)
  | .getPriority _ => Result Int
  | .setPriority _ _ => Result Unit
  | .getLastError => Nat

namespace SchedulerBackend

abbrev Call (α : Type) := Prog ThreadCall ThreadCall.Answer α

def listThreads (processId : UInt32) : Call (Result (List ThreadSnapshot)) :=
  Prog.perform (ThreadCall.listThreads processId)

def getPriority (threadId : UInt32) : Call (Result Int) := Prog.perform (ThreadCall.getPriority threadId)

def setPriority (threadId : UInt32) (priority : Int) : Call (Result Unit) :=
  Prog.perform (ThreadCall.setPriority threadId priority)

def getLastError : Call Nat := Prog.perform ThreadCall.getLastError

end SchedulerBackend

open SchedulerBackend

structure Chances where
  /-- What others do before the priority of the thread is read. -/
  before : UInt32 → List Foreign := fun _ => []
  /-- The write to the thread fails. -/
  fails : UInt32 → Bool := fun _ => false
  lastError : Nat := 5

def readPriority (w : ThreadWorld) (id : UInt32) : Result Int :=
  match w.priority id with
  | some p => .ok p
  | none => .error (.fromWin32 87 "OpenThread(query)")

def threadHandler : Handler ThreadCall ThreadCall.Answer ThreadWorld Chances where
  answer w call c :=
    match call with
    | .listThreads _ => (.ok w.listed, w)
    | .getPriority id => (readPriority (w.foreigns (c.before id)) id, w.foreigns (c.before id))
    | .setPriority id p =>
      if c.fails id || (w.priority id).isNone then
        (.error (.fromWin32 c.lastError "SetThreadPriority"), w.logCall id p)
      else (.ok (), (w.logCall id p).write id p)
    | .getLastError => (c.lastError, w)

section Calls

variable {α : Type} {c : Chances} {w : ThreadWorld} {id : UInt32} {p : Int}

/-- The write fails on this thread. -/
def setFails (c : Chances) (w : ThreadWorld) (id : UInt32) : Bool :=
  c.fails id || (w.priority id).isNone

theorem exec_setPriority_error (h : setFails c w id = true) (f : Result Unit → Call α) :
    (setPriority id p >>= f).exec threadHandler c w =
      (f (.error (.fromWin32 c.lastError "SetThreadPriority"))).exec threadHandler c (w.logCall id p) := by
  have hanswer : threadHandler.answer w (.setPriority id p) c =
      (.error (.fromWin32 c.lastError "SetThreadPriority"), w.logCall id p) := if_pos h
  show (f (threadHandler.answer w (.setPriority id p) c).1).exec threadHandler c
    (threadHandler.answer w (.setPriority id p) c).2 = _
  rw [hanswer]

theorem exec_setPriority_ok (h : setFails c w id = false) (f : Result Unit → Call α) :
    (setPriority id p >>= f).exec threadHandler c w =
      (f (.ok ())).exec threadHandler c ((w.logCall id p).write id p) := by
  have hanswer : threadHandler.answer w (.setPriority id p) c =
      (.ok (), (w.logCall id p).write id p) := if_neg (by rw [← setFails, h]; decide)
  show (f (threadHandler.answer w (.setPriority id p) c).1).exec threadHandler c
    (threadHandler.answer w (.setPriority id p) c).2 = _
  rw [hanswer]

theorem exec_getPriority (f : Result Int → Call α) :
    (getPriority id >>= f).exec threadHandler c w =
      (f (readPriority (w.foreigns (c.before id)) id)).exec threadHandler c (w.foreigns (c.before id)) :=
  rfl

end Calls

def runBoost (w : ThreadWorld) (processId : UInt32) (targetPriority : Int) (c : Chances) :
    ThreadWorld × Result BoostReport :=
  (boostProcessThreads listThreads setPriority processId targetPriority).exec threadHandler c w

/-- One restore, and what others did since the last one. -/
structure Round extends Chances where
  between : List Foreign := []

def runRestore (adjustments : List PriorityAdjustment) (w : ThreadWorld) (c : Chances) :
    ThreadWorld × Result Nat :=
  (restorePriorities getPriority setPriority getLastError adjustments 0).exec threadHandler c w

/-- Restores one after the other, with their results. -/
def runRounds (adjustments : List PriorityAdjustment) (w : ThreadWorld) :
    List Round → ThreadWorld × List (Result Nat)
  | [] => (w, [])
  | r :: rounds =>
    let one := runRestore adjustments (w.foreigns r.between) r.toChances
    let rest := runRounds adjustments one.1 rounds
    (rest.1, one.2 :: rest.2)

/-! ## The boost -/

/-- The list is what the threads have, each thread once, and others have done nothing yet. -/
structure ThreadWorld.Listed (w : ThreadWorld) : Prop where
  distinct : (w.listed.map ThreadSnapshot.threadId).Nodup
  true_priorities : ∀ t ∈ w.listed, w.priority t.threadId = some t.priority
  untouched : ∀ id, w.touched id = none

/-- The adjustments are the changes. -/
structure ReportsChanges (w w' : ThreadWorld) (target : Int) (adjusted : List PriorityAdjustment) :
    Prop where
  exactly : ∀ id, id ∈ adjusted.map PriorityAdjustment.threadId ↔ w'.priority id ≠ w.priority id
  once : (adjusted.map PriorityAdjustment.threadId).Nodup
  original : ∀ a ∈ adjusted, w.priority a.threadId = some a.originalPriority ∧
    a.originalPriority < target ∧ a.appliedPriority = target
  raised : ∀ a ∈ adjusted, w'.priority a.threadId = some target

section Boost

variable {c : Chances} {w : ThreadWorld} {target : Int}

/-- What the loop has done to the threads it went over. -/
structure Raised (threads : List ThreadSnapshot) (target : Int) (w w' : ThreadWorld)
    (new : List PriorityAdjustment) : Prop where
  ids : (new.map PriorityAdjustment.threadId).Sublist (threads.map ThreadSnapshot.threadId)
  listed : ∀ a ∈ new, ∃ t ∈ threads, t.threadId = a.threadId ∧ t.priority = a.originalPriority
  below : ∀ a ∈ new, a.originalPriority < target ∧ a.appliedPriority = target
  priority : ∀ id, w'.priority id =
    if id ∈ new.map PriorityAdjustment.threadId then some target else w.priority id
  touched : w'.touched = w.touched

theorem raised_nil (threads : List ThreadSnapshot) {w' : ThreadWorld}
    (hpriority : w'.priority = w.priority) (htouched : w'.touched = w.touched) :
    Raised threads target w w' [] :=
  ⟨by simp, by simp, by simp, by simp [hpriority], htouched⟩

/-- A thread that is passed over. -/
theorem Raised.skip {thread : ThreadSnapshot} {threads : List ThreadSnapshot} {w' : ThreadWorld}
    {new : List PriorityAdjustment} (h : Raised threads target w w' new) :
    Raised (thread :: threads) target w w' new where
  ids := h.ids.cons _
  listed a ha := by
    obtain ⟨t, ht, heq⟩ := h.listed a ha
    exact ⟨t, List.mem_cons_of_mem _ ht, heq⟩
  below := h.below
  priority := h.priority
  touched := h.touched

/-- A thread that is raised before the others. -/
theorem Raised.cons {thread : ThreadSnapshot} {threads : List ThreadSnapshot} {w' : ThreadWorld}
    {new : List PriorityAdjustment} (hbelow : thread.priority < target)
    (h : Raised threads target ((w.logCall thread.threadId target).write thread.threadId target) w' new) :
    Raised (thread :: threads) target w w' (⟨thread.threadId, thread.priority, target⟩ :: new) where
  ids := h.ids.cons_cons _
  listed a ha := by
    rcases List.mem_cons.mp ha with rfl | ha
    · exact ⟨thread, List.mem_cons_self, rfl, rfl⟩
    · obtain ⟨t, ht, heq⟩ := h.listed a ha
      exact ⟨t, List.mem_cons_of_mem _ ht, heq⟩
  below a ha := by
    rcases List.mem_cons.mp ha with rfl | ha
    · exact ⟨hbelow, rfl⟩
    · exact h.below a ha
  priority id := by
    rw [h.priority id]
    by_cases hid : id = thread.threadId
    · subst hid
      simp [ThreadWorld.write]
    · simp [ThreadWorld.write, ThreadWorld.logCall, hid]
  touched := h.touched

theorem exec_boostThreads_raised (threads : List ThreadSnapshot) (report : BoostReport)
    (w : ThreadWorld) :
    ∃ new, ((boostThreads setPriority target threads report).exec threadHandler c w).2.adjusted =
        report.adjusted ++ new ∧
      Raised threads target w
        ((boostThreads setPriority target threads report).exec threadHandler c w).1 new := by
  induction threads generalizing report w with
  | nil => exact ⟨[], by simp [boostThreads], raised_nil [] rfl rfl⟩
  | cons thread threads ih =>
    rw [boostThreads]
    split
    · case _ hraise =>
      have hbelow : thread.priority < target := by simpa [shouldRaisePriority] using hraise
      cases hfail : setFails c w thread.threadId with
      | true =>
        -- the walk stops at the first write that fails
        rw [exec_setPriority_error hfail]
        exact ⟨[], (List.append_nil _).symm, raised_nil _ rfl rfl⟩
      | false =>
        rw [exec_setPriority_ok hfail]
        obtain ⟨new, hadjusted, hraised⟩ := ih
          { report with adjusted := report.adjusted ++ [⟨thread.threadId, thread.priority, target⟩] }
          ((w.logCall thread.threadId target).write thread.threadId target)
        refine ⟨⟨thread.threadId, thread.priority, target⟩ :: new, ?_, hraised.cons hbelow⟩
        exact hadjusted.trans (List.append_assoc _ _ _)
    · obtain ⟨new, hadjusted, hraised⟩ := ih { report with skipped := report.skipped + 1 } w
      exact ⟨new, hadjusted, hraised.skip⟩

/-- The boost returns a report, and what it reports is what it changed. -/
theorem runBoost_reports (hw : w.Listed) (processId : UInt32) (hvalid : isValidPriority target = true)
    (c : Chances) :
    ∃ report, (runBoost w processId target c).2 = .ok report ∧
      (runBoost w processId target c).1.touched = w.touched ∧
      ReportsChanges w (runBoost w processId target c).1 target report.adjusted := by
  obtain ⟨new, hadjusted, h⟩ : ∃ new,
      ((boostThreads setPriority target w.listed {}).exec threadHandler c w).2.adjusted = [] ++ new ∧
      Raised w.listed target w
        ((boostThreads setPriority target w.listed {}).exec threadHandler c w).1 new :=
    exec_boostThreads_raised w.listed {} w
  have hrun : runBoost w processId target c =
      (((boostThreads setPriority target w.listed {}).exec threadHandler c w).1,
        .ok ((boostThreads setPriority target w.listed {}).exec threadHandler c w).2) := by
    rw [runBoost, boostProcessThreads, if_neg (by simp [hvalid])]
    show ((boostThreads setPriority target w.listed {} >>= _).exec threadHandler c w) = _
    rw [Prog.exec_bind]
    rfl
  rw [hrun]
  refine ⟨_, rfl, h.touched, ?_⟩
  rw [hadjusted, List.nil_append]
  have horiginal : ∀ a ∈ new, w.priority a.threadId = some a.originalPriority := by
    intro a ha
    obtain ⟨t, ht, hid, hp⟩ := h.listed a ha
    rw [← hid, hw.true_priorities t ht, hp]
  have hraised : ∀ a ∈ new,
      ((boostThreads setPriority target w.listed {}).exec threadHandler c w).1.priority a.threadId =
        some target := by
    intro a ha
    rw [h.priority, if_pos (List.mem_map_of_mem ha)]
  refine ⟨fun id => ⟨fun hid => ?_, fun hne => ?_⟩, h.ids.nodup hw.distinct, ?_, hraised⟩
  · obtain ⟨a, ha, rfl⟩ := List.mem_map.mp hid
    rw [hraised a ha, horiginal a ha]
    have hbelow := (h.below a ha).1
    simp only [ne_eq, Option.some_inj]
    omega
  · by_contra hid
    exact hne (by rw [h.priority, if_neg hid])
  · exact fun a ha => ⟨horiginal a ha, h.below a ha⟩

end Boost

/-! ## The restores -/

section Restore

variable {adj done : List PriorityAdjustment} {start : List (UInt32 × Int)} {w : ThreadWorld}

/-- What holds from the boost on, however often the restore is tried. -/
structure Kept (adj : List PriorityAdjustment) (start : List (UInt32 × Int)) (w : ThreadWorld) :
    Prop where
  ours : ∀ a ∈ adj, w.touched a.threadId = none → w.priority a.threadId = none ∨
    w.priority a.threadId = some a.appliedPriority ∨ w.priority a.threadId = some a.originalPriority
  theirs : ∀ id p, w.touched id = some p → (∀ a ∈ adj, a.threadId = id → p ≠ a.appliedPriority) →
    w.priority id = none ∨ w.priority id = some p
  calls : ∃ more, w.calls = start ++ more ∧
    ∀ x ∈ more, ∃ a ∈ adj, x = (a.threadId, a.originalPriority)

/-- The threads of `done` that nobody touched have their first priority back, or have exited. -/
def Restored (done : List PriorityAdjustment) (w : ThreadWorld) : Prop :=
  ∀ a ∈ done, w.touched a.threadId = none →
    w.priority a.threadId = none ∨ w.priority a.threadId = some a.originalPriority

/-- Others leave a thread as it is, end it, or give it a priority. -/
theorem foreign_cases (w : ThreadWorld) (e : Foreign) (id : UInt32) :
    ((w.foreign e).touched id = w.touched id ∧
      ((w.foreign e).priority id = w.priority id ∨ (w.foreign e).priority id = none)) ∨
    ∃ p, (w.foreign e).touched id = some p ∧ (w.foreign e).priority id = some p := by
  cases e with
  | change other p =>
    rw [ThreadWorld.foreign]
    split
    · by_cases hid : id = other
      · subst hid
        exact .inr ⟨p, by simp, by simp⟩
      · exact .inl ⟨by simp [hid], .inl (by simp [hid])⟩
    · exact .inl ⟨rfl, .inl rfl⟩
  | exit other =>
    by_cases hid : id = other
    · subst hid
      exact .inl ⟨rfl, .inr (by simp [ThreadWorld.foreign])⟩
    · exact .inl ⟨rfl, .inl (by simp [ThreadWorld.foreign, hid])⟩

theorem foreign_calls (w : ThreadWorld) (e : Foreign) : (w.foreign e).calls = w.calls := by
  cases e with
  | change other p =>
    rw [ThreadWorld.foreign]
    split <;> rfl
  | exit other => rfl

theorem Kept.foreign (h : Kept adj start w) (e : Foreign) : Kept adj start (w.foreign e) := by
  refine ⟨fun a ha hnone => ?_, fun id p htouched hp => ?_, ?_⟩
  · rcases foreign_cases w e a.threadId with ⟨htouched, hsame | hgone⟩ | ⟨p, htouched, _⟩
    · rw [hsame]
      exact h.ours a ha (htouched ▸ hnone)
    · exact .inl hgone
    · rw [htouched] at hnone
      cases hnone
  · rcases foreign_cases w e id with ⟨hold, hsame | hgone⟩ | ⟨q, hnew, hpriority⟩
    · rw [hsame]
      exact h.theirs id p (hold ▸ htouched) hp
    · exact .inl hgone
    · rw [hnew, Option.some_inj] at htouched
      exact .inr (htouched ▸ hpriority)
  · rw [foreign_calls]
    exact h.calls

theorem Restored.foreign (h : Restored done w) (e : Foreign) : Restored done (w.foreign e) := by
  intro a ha hnone
  rcases foreign_cases w e a.threadId with ⟨htouched, hsame | hgone⟩ | ⟨p, htouched, _⟩
  · rw [hsame]
    exact h a ha (htouched ▸ hnone)
  · exact .inl hgone
  · rw [htouched] at hnone
    cases hnone

theorem Kept.foreigns (h : Kept adj start w) (es : List Foreign) : Kept adj start (w.foreigns es) := by
  induction es generalizing w with
  | nil => exact h
  | cons e es ih => exact ih (h.foreign e)

theorem Restored.foreigns (h : Restored done w) (es : List Foreign) : Restored done (w.foreigns es) := by
  induction es generalizing w with
  | nil => exact h
  | cons e es ih => exact ih (h.foreign e)

variable {a : PriorityAdjustment}

theorem Kept.logCall (h : Kept adj start w) (ha : a ∈ adj) :
    Kept adj start (w.logCall a.threadId a.originalPriority) := by
  obtain ⟨more, hcalls, hmore⟩ := h.calls
  refine ⟨h.ours, h.theirs, more ++ [(a.threadId, a.originalPriority)], ?_, ?_⟩
  · rw [ThreadWorld.logCall, hcalls, List.append_assoc]
  · intro x hx
    rcases List.mem_append.mp hx with hx | hx
    · exact hmore x hx
    · exact ⟨a, ha, List.mem_singleton.mp hx⟩

/-- Distinct ids: the adjustment of a thread is the only one. -/
theorem eq_of_threadId (hnodup : (adj.map PriorityAdjustment.threadId).Nodup)
    {b : PriorityAdjustment} (ha : a ∈ adj) (hb : b ∈ adj) (h : b.threadId = a.threadId) : b = a :=
  List.inj_on_of_nodup_map hnodup hb ha h

/-- The original priority is written over the raised one. -/
theorem Kept.write (hnodup : (adj.map PriorityAdjustment.threadId).Nodup) (h : Kept adj start w)
    (ha : a ∈ adj) (hraised : w.priority a.threadId = some a.appliedPriority) :
    Kept adj start (w.write a.threadId a.originalPriority) := by
  refine ⟨fun b hb hnone => ?_, fun id p htouched hp => ?_, h.calls⟩
  · by_cases hid : b.threadId = a.threadId
    · rw [eq_of_threadId hnodup ha hb hid]
      exact .inr (.inr (by simp [ThreadWorld.write]))
    · simpa [ThreadWorld.write, hid] using h.ours b hb hnone
  · by_cases hid : id = a.threadId
    · subst hid
      -- others gave it another value, so it was not the raised one
      have hnot := hp a ha rfl
      rcases h.theirs _ p htouched hp with hgone | hsame
      · rw [hraised] at hgone
        cases hgone
      · rw [hraised, Option.some_inj] at hsame
        exact absurd hsame.symm hnot
    · simpa [ThreadWorld.write, hid] using h.theirs id p htouched hp

theorem Restored.write (hnodup : (adj.map PriorityAdjustment.threadId).Nodup) (hsub : done ⊆ adj)
    (h : Restored done w) (ha : a ∈ adj) :
    Restored done (w.write a.threadId a.originalPriority) := by
  intro b hb hnone
  by_cases hid : b.threadId = a.threadId
  · rw [eq_of_threadId hnodup ha (hsub hb) hid]
    exact .inr (by simp [ThreadWorld.write])
  · simpa [ThreadWorld.write, hid] using h b hb hnone

/-- A thread that is passed over has exited, or has another priority than the raised one. -/
theorem Restored.skip (hkept : Kept adj start w) (h : Restored done w) (ha : a ∈ adj)
    (hother : w.priority a.threadId ≠ some a.appliedPriority) : Restored (done ++ [a]) w := by
  intro b hb hnone
  rcases List.mem_append.mp hb with hb | hb
  · exact h b hb hnone
  · rw [List.mem_singleton.mp hb] at hnone ⊢
    rcases hkept.ours a ha hnone with hgone | happlied | horiginal
    · exact .inl hgone
    · exact absurd happlied hother
    · exact .inr horiginal

theorem Restored.add (h : Restored done w) (ha : w.priority a.threadId = some a.originalPriority) :
    Restored (done ++ [a]) w := by
  intro b hb hnone
  rcases List.mem_append.mp hb with hb | hb
  · exact h b hb hnone
  · rw [List.mem_singleton.mp hb]
    exact .inr ha

/-- A restore that goes on with `todo`. -/
def restoreFrom (c : Chances) (todo : List PriorityAdjustment) (restored : Nat) (w : ThreadWorld) :
    ThreadWorld × Result Nat :=
  (restorePriorities getPriority setPriority getLastError todo restored).exec threadHandler c w

/-- One turn of it: the thread is passed over, its write fails, or it is written. -/
theorem restoreFrom_cons (c : Chances) (a : PriorityAdjustment) (todo : List PriorityAdjustment)
    (restored : Nat) (w : ThreadWorld) :
    let w₁ := w.foreigns (c.before a.threadId)
    w₁.priority a.threadId ≠ some a.appliedPriority ∧
        restoreFrom c (a :: todo) restored w = restoreFrom c todo restored w₁ ∨
      w₁.priority a.threadId = some a.appliedPriority ∧
        ((∃ e, restoreFrom c (a :: todo) restored w =
            (w₁.logCall a.threadId a.originalPriority, .error e)) ∨
          restoreFrom c (a :: todo) restored w = restoreFrom c todo (restored + 1)
            ((w₁.logCall a.threadId a.originalPriority).write a.threadId a.originalPriority)) := by
  dsimp only
  rw [restoreFrom, restorePriorities, exec_getPriority]
  generalize w.foreigns (c.before a.threadId) = w₁
  rcases hread : w₁.priority a.threadId with _ | current
  · rw [readPriority, hread]
    refine .inl ⟨?_, rfl⟩
    simp
  · rw [readPriority, hread]
    by_cases hother : current ≠ a.appliedPriority
    · simp only [if_pos hother]
      exact .inl ⟨by simpa using hother, rfl⟩
    · simp only [if_neg hother]
      refine .inr ⟨by rw [not_not.mp hother], ?_⟩
      cases hfail : setFails c w₁ a.threadId with
      | true =>
        rw [exec_setPriority_error hfail]
        exact .inl ⟨_, rfl⟩
      | false =>
        rw [exec_setPriority_ok hfail]
        exact .inr rfl

/-- One restore: the invariant stays, what was restored stays restored, and all is when it succeeds. -/
theorem restoreFrom_kept (hnodup : (adj.map PriorityAdjustment.threadId).Nodup) (c : Chances)
    {todo : List PriorityAdjustment} (htodo : todo ⊆ adj) (hdone : done ⊆ adj) (restored : Nat)
    (hkept : Kept adj start w) (h : Restored done w) :
    Kept adj start (restoreFrom c todo restored w).1 ∧
      Restored done (restoreFrom c todo restored w).1 ∧
      ∀ n, (restoreFrom c todo restored w).2 = .ok n →
        Restored (done ++ todo) (restoreFrom c todo restored w).1 := by
  induction todo generalizing done w restored with
  | nil =>
    refine ⟨hkept, h, fun _ _ => ?_⟩
    rw [List.append_nil]
    exact h
  | cons a todo ih =>
    have ha : a ∈ adj := htodo List.mem_cons_self
    have htodo' : todo ⊆ adj := fun b hb => htodo (List.mem_cons_of_mem _ hb)
    have hdone' : done ++ [a] ⊆ adj :=
      List.append_subset.mpr ⟨hdone, List.cons_subset.mpr ⟨ha, List.nil_subset _⟩⟩
    have hkept₁ := hkept.foreigns (c.before a.threadId)
    have h₁ := h.foreigns (c.before a.threadId)
    -- the rest of the list, with one thread more done
    have hrest : ∀ {w' : ThreadWorld} (k : Nat), Kept adj start w' → Restored (done ++ [a]) w' →
        Kept adj start (restoreFrom c todo k w').1 ∧ Restored done (restoreFrom c todo k w').1 ∧
          ∀ n, (restoreFrom c todo k w').2 = .ok n →
            Restored (done ++ a :: todo) (restoreFrom c todo k w').1 := by
      intro w' k hkept' h'
      obtain ⟨hk, hd, hall⟩ := ih htodo' hdone' k hkept' h'
      refine ⟨hk, fun b hb => hd b (List.mem_append_left _ hb), fun n hn => ?_⟩
      simpa using hall n hn
    rcases restoreFrom_cons c a todo restored w with ⟨hother, hrun⟩ |
      ⟨hraised, ⟨e, hrun⟩ | hrun⟩
    · rw [hrun]
      exact hrest restored hkept₁ (h₁.skip hkept₁ ha hother)
    · rw [hrun]
      exact ⟨hkept₁.logCall ha, h₁, fun n hn => by cases hn⟩
    · rw [hrun]
      have hwritten : Restored done (((w.foreigns (c.before a.threadId)).logCall a.threadId
          a.originalPriority).write a.threadId a.originalPriority) :=
        Restored.write hnodup hdone h₁ ha
      refine hrest (restored + 1) ((hkept₁.logCall ha).write hnodup ha hraised) (hwritten.add ?_)
      simp [ThreadWorld.write]

end Restore

/-- What the restores of a list leave behind. -/
structure RestoresAll (adj : List PriorityAdjustment) (w w' : ThreadWorld) (results : List (Result Nat)) :
    Prop where
  /-- Once one has succeeded, a thread nobody touched has its priority back. -/
  restored : (∃ n, .ok n ∈ results) → ∀ a ∈ adj, w'.touched a.threadId = none →
    w'.priority a.threadId ≠ none → w'.priority a.threadId = some a.originalPriority
  /-- No other thread is written, and no other value. -/
  onlyAdjusted : ∃ more, w'.calls = w.calls ++ more ∧
    ∀ x ∈ more, ∃ a ∈ adj, x = (a.threadId, a.originalPriority)
  /-- A thread others have changed to another value keeps it. -/
  leftAlone : ∀ id p, w'.touched id = some p →
    (∀ a ∈ adj, a.threadId = id → p ≠ a.appliedPriority) →
    w'.priority id = none ∨ w'.priority id = some p

section Rounds

variable {adj : List PriorityAdjustment} {start : List (UInt32 × Int)}

theorem runRounds_kept (hnodup : (adj.map PriorityAdjustment.threadId).Nodup) (rounds : List Round)
    {w : ThreadWorld} (hkept : Kept adj start w) :
    Kept adj start (runRounds adj w rounds).1 ∧
      ((∃ n, .ok n ∈ (runRounds adj w rounds).2) → Restored adj (runRounds adj w rounds).1) ∧
      (Restored adj w → Restored adj (runRounds adj w rounds).1) := by
  induction rounds generalizing w with
  | nil =>
    refine ⟨hkept, ?_, id⟩
    rintro ⟨_, h⟩
    cases h
  | cons r rounds ih =>
    have hempty : Restored [] (w.foreigns r.between) := fun _ h => by cases h
    obtain ⟨hone, _, hall⟩ := restoreFrom_kept hnodup r.toChances (List.Subset.refl adj)
      (List.nil_subset adj) 0 (hkept.foreigns r.between) hempty
    obtain ⟨hkept', hsome, hstay⟩ := ih hone
    refine ⟨hkept', ?_, ?_⟩
    · rintro ⟨n, hn⟩
      rcases List.mem_cons.mp hn with hn | hn
      · exact hstay (hall n hn.symm)
      · exact hsome ⟨n, hn⟩
    · intro h
      obtain ⟨_, hsame, _⟩ := restoreFrom_kept hnodup r.toChances (List.Subset.refl adj)
        (List.Subset.refl adj) 0 (hkept.foreigns r.between) (h.foreigns r.between)
      exact hstay hsame

theorem runRounds_restoresAll (hnodup : (adj.map PriorityAdjustment.threadId).Nodup)
    (rounds : List Round) {w : ThreadWorld} (hkept : Kept adj w.calls w) :
    RestoresAll adj w (runRounds adj w rounds).1 (runRounds adj w rounds).2 := by
  obtain ⟨h, hrestored, _⟩ := runRounds_kept hnodup rounds hkept
  refine ⟨fun hok a ha hnone halive => ?_, h.calls, h.theirs⟩
  exact (hrestored hok a ha hnone).resolve_left halive

end Rounds

/-- A boost reports what it changed, and restores undo it, whatever fails and whatever others do. -/
theorem boost_then_restore (w : ThreadWorld) (hw : w.Listed) (processId : UInt32) (target : Int)
    (hvalid : isValidPriority target = true) (c : Chances) (rounds : List Round) :
    ∃ report, (runBoost w processId target c).2 = .ok report ∧
      ReportsChanges w (runBoost w processId target c).1 target report.adjusted ∧
      RestoresAll report.adjusted (runBoost w processId target c).1
        (runRounds report.adjusted (runBoost w processId target c).1 rounds).1
        (runRounds report.adjusted (runBoost w processId target c).1 rounds).2 := by
  obtain ⟨report, hreport, htouched, hchanges⟩ := runBoost_reports hw processId hvalid c
  refine ⟨report, hreport, hchanges, runRounds_restoresAll hchanges.once rounds ⟨?_, ?_, ?_⟩⟩
  · intro a ha _
    rw [hchanges.raised a ha, (hchanges.original a ha).2.2]
    exact .inr (.inl rfl)
  · intro id p htouched' _
    rw [htouched, hw.untouched id] at htouched'
    cases htouched'
  · exact ⟨[], by simp, by simp⟩

def sampleThreads : ThreadWorld where
  listed := [{ threadId := 1, priority := 0 }, { threadId := 2, priority := 5 },
    { threadId := 3, priority := -2 }]
  priority id := if id = 1 then some 0 else if id = 2 then some 5 else if id = 3 then some (-2) else none

/-- The first restore fails at the second thread it writes. -/
def sampleRounds : List Round := [{ fails := fun id => id = 3 }, {}]

theorem boost_then_restore_sample :
    sampleThreads.Listed ∧ isValidPriority 1 = true ∧
      ∃ report, (runBoost sampleThreads 7 1 {}).2 = .ok report ∧
        ReportsChanges sampleThreads (runBoost sampleThreads 7 1 {}).1 1 report.adjusted ∧
        RestoresAll report.adjusted (runBoost sampleThreads 7 1 {}).1
          (runRounds report.adjusted (runBoost sampleThreads 7 1 {}).1 sampleRounds).1
          (runRounds report.adjusted (runBoost sampleThreads 7 1 {}).1 sampleRounds).2 := by
  have hlisted : sampleThreads.Listed := ⟨by decide, by decide, fun _ => rfl⟩
  exact ⟨hlisted, rfl, boost_then_restore sampleThreads hlisted 7 1 rfl {} sampleRounds⟩

end Scheduler
end CppOptimizer
