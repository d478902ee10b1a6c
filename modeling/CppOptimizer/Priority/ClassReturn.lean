import CppOptimizer.Lib.Moves
import CppOptimizer.Priority.Handles

/-!
# CppOptimizer.Priority.ClassReturn

Which classes the processes end with.

* `Quiet B`    — processes keep running and nobody but the booster changes their classes.
* `LeaseState.move` — a lease is a move of its process from the class it found to the class it set.
* `abandoned`  — the leases of a run that ended without being undone: dropped while the process was
  not at the lease's own class, or overwritten by a restart of the game.
* `classes_given_back_iff` — when no lease is left, every process has its first class exactly if the
  abandoned leases cancel.

The conditional restore treats a class set by another lease of the same booster as a change made by
somebody else, and skips it.
-/

namespace CppOptimizer
namespace Priority

open Common Config Lib

variable {σ : Type} {B : PriorityBackend σ}

/-- The system under the booster: `pidOf s` is the table of open handles, `classOf s` the classes of
the processes, `created` their creation times. Opening may fail; a call on an open handle does
not. -/
structure Quiet (B : PriorityBackend σ) where
  pidOf : σ → UInt64 → Option UInt32
  classOf : σ → UInt32 → UInt32
  created : UInt32 → UInt64
  open_ok : ∀ {pid s h s'}, B.openProcess pid s = (.ok h, s') →
    h ≠ 0 ∧ pidOf s h = none ∧ pidOf s' = Function.update (pidOf s) h (some pid) ∧
      classOf s' = classOf s
  open_error : ∀ {pid s e s'}, B.openProcess pid s = (.error e, s') →
    pidOf s' = pidOf s ∧ classOf s' = classOf s
  time_eq : ∀ {h s pid}, pidOf s h = some pid → (B.queryCreationTime h s).1 = created pid
  time_keeps : ∀ {h s}, pidOf (B.queryCreationTime h s).2 = pidOf s ∧
    classOf (B.queryCreationTime h s).2 = classOf s
  class_eq : ∀ {h s pid}, pidOf s h = some pid → (B.queryPriorityClass h s).1 = classOf s pid
  class_keeps : ∀ {h s}, pidOf (B.queryPriorityClass h s).2 = pidOf s ∧
    classOf (B.queryPriorityClass h s).2 = classOf s
  set_ok : ∀ {h s pid} (cls), pidOf s h = some pid → (B.setPriorityClass h cls s).1 = .ok () ∧
    pidOf (B.setPriorityClass h cls s).2 = pidOf s ∧
    classOf (B.setPriorityClass h cls s).2 = Function.update (classOf s) pid cls
  close_keeps : ∀ {h s}, pidOf (B.closeProcess h s) = Function.update (pidOf s) h none ∧
    classOf (B.closeProcess h s) = classOf s

/-- A lease as a move of the class of its process. -/
def LeaseState.move (state : LeaseState) : Move UInt32 UInt32 :=
  { site := state.pid, old := state.originalClass, new := state.targetClass }

instance (s : σ) (pid : UInt32) (time : UInt64) (target : UInt32) :
    Decidable (Admits B s pid time target) :=
  match h : B.openProcess pid s with
  | (.error _, _) => .isFalse (by simp [Admits, h])
  | (.ok handle, s') => decidable_of_iff
      (¬ (time ≠ 0 ∧ ((B.queryCreationTime handle s').1 = 0 ∨
          (B.queryCreationTime handle s').1 ≠ time)) ∧
        (B.queryPriorityClass handle (B.queryCreationTime handle s').2).1 ≠ 0 ∧
        (B.setPriorityClass handle target
          (B.queryPriorityClass handle (B.queryCreationTime handle s').2).2).1 = .ok ())
      (by simp [Admits, h])

/-! ## The leases a call abandons -/

namespace Quiet

variable (Q : Quiet B)

/-- Ending a lease undoes it if the process is at the class the lease set. -/
def endAbandons (s : σ) (state : LeaseState) : List LeaseState :=
  if Q.classOf s state.pid = state.targetClass then [] else [state]

/-- `ReleaseAll` ends the leases in key order, each in the state the ones before left. -/
def walkAbandons : Booster σ → List (String × LeaseState) → List LeaseState
  | _, [] => []
  | w, entry :: entries =>
    Q.endAbandons w.backend entry.2 ++ walkAbandons (w.forceCleanLease B entry.2) entries

/-- The leases that end without being undone in one call, read off the state before it. -/
def callAbandons (maxLevel : PriorityLevel) (w : Booster σ) : Call → List LeaseState
  | .acquire gameId pid time level =>
    match w.leases.find? gameId, priorityLevelToWin32Class level with
    | some state, .ok target =>
      if state.pid = pid ∨ levelExceeds level maxLevel = true then []
      else if state.count ≤ 1 then Q.endAbandons w.backend state
      else if Admits B w.backend pid time target then [state]
      else []
    | _, _ => []
  | .release gameId pid =>
    match w.leases.find? gameId with
    | some state =>
      if state.pid = pid ∧ state.count ≤ 1 then Q.endAbandons w.backend state else []
    | none => []
  | .releaseAll => Q.walkAbandons w w.leases.entries

/-- The leases abandoned along a run. -/
def abandoned (maxLevel : PriorityLevel) : Booster σ → List Call → List LeaseState
  | _, [] => []
  | w, c :: cs => Q.callAbandons maxLevel w c ++ abandoned maxLevel (w.call B maxLevel c) cs

end Quiet

/-! ## The account of the leases -/

/-- An open lease: its handle is the handle of its process. -/
structure LeaseOpen (Q : Quiet B) (s : σ) (state : LeaseState) : Prop where
  pidOf : Q.pidOf s state.handle = some state.pid
  nonzero : state.handle ≠ 0
  time : state.creationTime100ns = 0 ∨ state.creationTime100ns = Q.created state.pid
  target : state.targetClass ≠ 0

/-- The open leases `ls` and the abandoned ones account for the classes, which were `c₀` at first. -/
structure Books (Q : Quiet B) (c₀ : UInt32 → UInt32) (gone : List LeaseState) (s : σ)
    (ls : List LeaseState) : Prop where
  leaseOpen : ∀ state ∈ ls, LeaseOpen Q s state
  once : (ls.map (·.handle)).Nodup
  balanced : Move.Balanced c₀ (Q.classOf s) ((ls ++ gone).map LeaseState.move)

/-- `s'` is `s` after the lease was ended: its handle is closed, and the class is put back if it was
the one the lease set. -/
structure Ended (Q : Quiet B) (s : σ) (state : LeaseState) (s' : σ) : Prop where
  pidOf : Q.pidOf s' = Function.update (Q.pidOf s) state.handle none
  classOf : Q.classOf s' = if Q.classOf s state.pid = state.targetClass then
      Function.update (Q.classOf s) state.pid state.originalClass
    else Q.classOf s

namespace Books

variable {Q : Quiet B} {c₀ : UInt32 → UInt32} {gone : List LeaseState} {s s' : σ}
  {state state' : LeaseState} {ls ls' : List LeaseState}

theorem perm (h : Books Q c₀ gone s ls) (hp : ls.Perm ls') : Books Q c₀ gone s ls' where
  leaseOpen state hs := h.leaseOpen state (hp.mem_iff.mpr hs)
  once := (hp.map _).nodup_iff.mp h.once
  balanced := h.balanced.perm ((hp.append_right gone).map _)

theorem same (h : Books Q c₀ gone s ls) (hpid : Q.pidOf s' = Q.pidOf s)
    (hclass : Q.classOf s' = Q.classOf s) : Books Q c₀ gone s' ls where
  leaseOpen state hs := by
    obtain ⟨h1, h2, h3, h4⟩ := h.leaseOpen state hs
    exact ⟨by rw [hpid]; exact h1, h2, h3, h4⟩
  once := h.once
  balanced := by
    rw [hclass]
    exact h.balanced

/-- A lease is closed for good, undone or abandoned. -/
theorem ended (h : Books Q c₀ gone s (state :: ls)) (he : Ended Q s state s') :
    Books Q c₀ (gone ++ Q.endAbandons s state) s' ls where
  leaseOpen state₁ hs := by
    obtain ⟨h1, h2, h3, h4⟩ := h.leaseOpen state₁ (List.mem_cons_of_mem _ hs)
    refine ⟨?_, h2, h3, h4⟩
    have hne : state₁.handle ≠ state.handle := by
      intro heq
      exact (List.nodup_cons.mp h.once).1 (List.mem_map.mpr ⟨state₁, hs, heq⟩)
    rw [he.pidOf, Function.update_of_ne hne]
    exact h1
  once := (List.nodup_cons.mp h.once).2
  balanced := by
    have hb := h.balanced
    rw [he.classOf, Quiet.endAbandons]
    by_cases hc : Q.classOf s state.pid = state.targetClass
    · rw [if_pos hc, if_pos hc, List.append_nil]
      exact Move.Balanced.undo hb hc
    · rw [if_neg hc, if_neg hc]
      refine hb.perm (List.Perm.map _ ?_)
      rw [List.cons_append, ← List.append_assoc]
      exact (List.perm_append_singleton state (ls ++ gone)).symm

/-- A lease is overwritten: its handle stays open, its class stays set. -/
theorem overwritten (h : Books Q c₀ gone s (state :: ls)) : Books Q c₀ (gone ++ [state]) s ls where
  leaseOpen state₁ hs := h.leaseOpen state₁ (List.mem_cons_of_mem _ hs)
  once := (List.nodup_cons.mp h.once).2
  balanced := by
    refine h.balanced.perm (List.Perm.map _ ?_)
    rw [List.cons_append, ← List.append_assoc]
    exact (List.perm_append_singleton state (ls ++ gone)).symm

/-- The count of a lease changes. -/
theorem recounted (h : Books Q c₀ gone s (state :: ls)) (n : Nat) :
    Books Q c₀ gone s ({ state with count := n } :: ls) where
  leaseOpen state₁ hs := by
    rcases List.mem_cons.mp hs with rfl | hs
    · obtain ⟨h1, h2, h3, h4⟩ := h.leaseOpen state List.mem_cons_self
      exact ⟨h1, h2, h3, h4⟩
    · exact h.leaseOpen state₁ (List.mem_cons_of_mem _ hs)
  once := h.once
  balanced := h.balanced

/-- A new lease: a fresh handle on the process, whose class is moved. -/
theorem taken (h : Books Q c₀ gone s ls) (hfresh : Q.pidOf s state.handle = none)
    (hpid : Q.pidOf s' = Function.update (Q.pidOf s) state.handle (some state.pid))
    (hold : state.originalClass = Q.classOf s state.pid)
    (hclass : Q.classOf s' = Function.update (Q.classOf s) state.pid state.targetClass)
    (hopen : LeaseOpen Q s' state) : Books Q c₀ gone s' (state :: ls) where
  leaseOpen state₁ hs := by
    rcases List.mem_cons.mp hs with rfl | hs
    · exact hopen
    · obtain ⟨h1, h2, h3, h4⟩ := h.leaseOpen state₁ hs
      refine ⟨?_, h2, h3, h4⟩
      have hne : state₁.handle ≠ state.handle := by
        intro heq
        rw [heq, hfresh] at h1
        cases h1
      rw [hpid, Function.update_of_ne hne]
      exact h1
  once := by
    refine List.nodup_cons.mpr ⟨?_, h.once⟩
    intro hmem
    obtain ⟨state₁, hs, heq⟩ := List.mem_map.mp hmem
    have h1 := (h.leaseOpen state₁ hs).pidOf
    rw [heq, hfresh] at h1
    cases h1
  balanced := by
    rw [hclass]
    exact Move.Balanced.take h.balanced hold

end Books

/-! ## What one operation does to the classes -/

section Operations

variable (Q : Quiet B) {w : Booster σ} {gameId : String} {pid : UInt32} {state : LeaseState}

theorem ended_close {s : σ} (hpid : Q.pidOf s = Q.pidOf w.backend)
    (hclass : Q.classOf s = Q.classOf w.backend)
    (hne : ¬ Q.classOf w.backend state.pid = state.targetClass) :
    Ended Q w.backend state (B.closeProcess state.handle s) where
  pidOf := by rw [Q.close_keeps.1, hpid]
  classOf := by rw [if_neg hne, Q.close_keeps.2, hclass]

theorem ended_restore {s : σ} (hpid : Q.pidOf s = Q.pidOf w.backend)
    (hclass : Q.classOf s = Q.classOf w.backend)
    (hhandle : Q.pidOf w.backend state.handle = some state.pid)
    (heq : Q.classOf w.backend state.pid = state.targetClass) :
    Ended Q w.backend state
      (B.closeProcess state.handle (B.setPriorityClass state.handle state.originalClass s).2) := by
  obtain ⟨_, hset, hcls⟩ := Q.set_ok state.originalClass (hpid ▸ hhandle)
  refine ⟨?_, ?_⟩
  · rw [Q.close_keeps.1, hset, hpid]
  · rw [if_pos heq, Q.close_keeps.2, hcls, hclass]

/-- The conditional restore never fails in a quiet system. -/
theorem restoreLastLease_quiet (h : LeaseOpen Q w.backend state) :
    ∃ s' state', w.restoreLastLease B state =
        (.ok (), state', { w with backend := s', closed := state.handle :: w.closed }) ∧
      Ended Q w.backend state s' := by
  obtain ⟨hpid₁, hcls₁⟩ := Q.time_keeps (h := state.handle) (s := w.backend)
  obtain ⟨hpid₂, hcls₂⟩ := Q.class_keeps (h := state.handle)
    (s := (B.queryCreationTime state.handle w.backend).2)
  have htime : ¬ (state.creationTime100ns ≠ 0 ∧
      (B.queryCreationTime state.handle w.backend).1 ≠ state.creationTime100ns) := by
    rintro ⟨hne, hbad⟩
    rw [Q.time_eq h.pidOf] at hbad
    rcases h.time with h0 | heq
    · exact hne h0
    · exact hbad heq.symm
  have hclass : (B.queryPriorityClass state.handle
      (B.queryCreationTime state.handle w.backend).2).1 = Q.classOf w.backend state.pid := by
    rw [Q.class_eq (hpid₁ ▸ h.pidOf), hcls₁]
  have hset := (Q.set_ok state.originalClass ((hpid₂.trans hpid₁) ▸ h.pidOf)).1
  simp only [Booster.restoreLastLease, Booster.queryCreationTime, htime, if_false,
    Booster.queryPriorityClass, hclass, Booster.setPriorityClass, hset, Booster.closeProcess]
  by_cases heq : Q.classOf w.backend state.pid = state.targetClass
  · have hne0 : ¬ Q.classOf w.backend state.pid = 0 := by
      rw [heq]
      exact h.target
    rw [if_neg hne0, if_neg (not_not.mpr heq)]
    exact ⟨_, _, rfl, ended_restore Q (hpid₂.trans hpid₁) (hcls₂.trans hcls₁) h.pidOf heq⟩
  · rw [if_pos heq, ite_self]
    exact ⟨_, _, rfl, ended_close Q (hpid₂.trans hpid₁) (hcls₂.trans hcls₁) heq⟩

theorem forceCleanLease_quiet (h : LeaseOpen Q w.backend state) :
    ∃ s', w.forceCleanLease B state =
        { w with backend := s', closed := state.handle :: w.closed } ∧
      Ended Q w.backend state s' := by
  obtain ⟨hpid₁, hcls₁⟩ := Q.class_keeps (h := state.handle) (s := w.backend)
  have hclass := Q.class_eq h.pidOf
  simp only [Booster.forceCleanLease, h.nonzero, if_false, Booster.queryPriorityClass, hclass,
    Booster.setPriorityClass, Booster.closeProcess]
  by_cases heq : Q.classOf w.backend state.pid = state.targetClass
  · have hne0 : Q.classOf w.backend state.pid ≠ 0 := by
      rw [heq]
      exact h.target
    rw [if_pos ⟨hne0, heq⟩]
    exact ⟨_, rfl, ended_restore Q hpid₁ hcls₁ h.pidOf heq⟩
  · rw [if_neg fun hand => heq hand.2]
    exact ⟨_, rfl, ended_close Q hpid₁ hcls₁ heq⟩

theorem releaseBoost_quiet (h : LeaseOpen Q w.backend state)
    (hf : w.leases.find? gameId = some state) (hc : state.count ≤ 1) :
    ∃ s', w.releaseBoost B gameId state.pid =
        (.ok (), { w with backend := s', leases := w.leases.erase gameId,
                          closed := state.handle :: w.closed }) ∧
      Ended Q w.backend state s' := by
  obtain ⟨s', state', hr, he⟩ := restoreLastLease_quiet Q h
  have hlt : ¬ state.count > 1 := by omega
  refine ⟨s', ?_, he⟩
  simp only [Booster.releaseBoost, hf, ne_eq, not_true_eq_false, if_false, hlt, hr]

/-- A target class is never the failed query. -/
theorem priorityLevelToWin32Class_ne_zero {level : PriorityLevel} {target : UInt32}
    (h : priorityLevelToWin32Class level = .ok target) : target ≠ 0 := by
  cases level with
  | none => cases h
  | aboveNormal =>
    cases h
    decide
  | high =>
    cases h
    decide

/-- A fresh acquisition takes a lease exactly if the backend admits it, and otherwise leaves handles
and classes as they were. `ls` are the leases that stay open. -/
theorem acquireFresh_books {c₀ : UInt32 → UInt32} {gone ls : List LeaseState} (gameId : String)
    (pid : UInt32) (time : UInt64) (level : PriorityLevel) {target : UInt32} (ht : target ≠ 0)
    (hB : Books Q c₀ gone w.backend ls) :
    (¬ Admits B w.backend pid time target ∧
      ∃ e w', w.acquireFresh B gameId pid time level target = (.error e, w') ∧
        w'.leases = w.leases ∧ Books Q c₀ gone w'.backend ls) ∨
    (Admits B w.backend pid time target ∧
      ∃ w' state, w.acquireFresh B gameId pid time level target = (.ok (), w') ∧
        w'.leases = w.leases.insert gameId state ∧ state.pid = pid ∧ state.count = 1 ∧
        Books Q c₀ gone w'.backend (state :: ls)) := by
  simp only [Booster.acquireFresh, Booster.openProcess, Admits]
  rcases ho : B.openProcess pid w.backend with ⟨e | handle, s₁⟩
  · obtain ⟨hpid, hcls⟩ := Q.open_error ho
    exact .inl ⟨id, _, _, rfl, rfl, hB.same hpid hcls⟩
  · obtain ⟨hne, hfresh, hpid₁, hcls₁⟩ := Q.open_ok ho
    have hhandle : Q.pidOf s₁ handle = some pid := by
      rw [hpid₁, Function.update_self]
    obtain ⟨hpid₂, hcls₂⟩ := Q.time_keeps (h := handle) (s := s₁)
    obtain ⟨hpid₃, hcls₃⟩ := Q.class_keeps (h := handle) (s := (B.queryCreationTime handle s₁).2)
    have htime := Q.time_eq hhandle
    have hclass := Q.class_eq (hpid₂ ▸ hhandle)
    rw [hcls₂, hcls₁] at hclass
    obtain ⟨hset, hpid₄, hcls₄⟩ := Q.set_ok target ((hpid₃.trans hpid₂) ▸ hhandle)
    -- opened and closed again: the handle table is the old one
    have hclosed : ∀ s, Q.pidOf s = Q.pidOf s₁ → Q.classOf s = Q.classOf s₁ →
        Books Q c₀ gone (B.closeProcess handle s) ls := by
      intro s hp hc
      refine hB.same ?_ ?_
      · rw [Q.close_keeps.1, hp, hpid₁, Function.update_idem, ← hfresh, Function.update_eq_self]
      · rw [Q.close_keeps.2, hc, hcls₁]
    dsimp only [Booster.queryCreationTime, Booster.queryPriorityClass, Booster.setPriorityClass,
      Booster.closeProcess]
    by_cases hid : time ≠ 0 ∧ ((B.queryCreationTime handle s₁).1 = 0 ∨
        (B.queryCreationTime handle s₁).1 ≠ time)
    · exact .inl ⟨fun h => h.1 hid, _, _, if_pos hid, rfl, hclosed _ hpid₂ hcls₂⟩
    · by_cases hzero : (B.queryPriorityClass handle (B.queryCreationTime handle s₁).2).1 = 0
      · exact .inl ⟨fun h => h.2.1 hzero, _, _, (if_neg hid).trans (if_pos hzero), rfl,
          hclosed _ (hpid₃.trans hpid₂) (hcls₃.trans hcls₂)⟩
      · rw [hset]
        refine .inr ⟨⟨hid, hzero, rfl⟩, _, _, (if_neg hid).trans (if_neg hzero), rfl, rfl, rfl,
          ?_⟩
        refine hB.taken hfresh ?_ ?_ ?_ ⟨?_, hne, ?_, ht⟩
        · show Q.pidOf _ = _
          rw [hpid₄, hpid₃, hpid₂, hpid₁]
        · exact hclass
        · show Q.classOf _ = _
          rw [hcls₄, hcls₃, hcls₂, hcls₁]
        · show Q.pidOf _ handle = some pid
          rw [hpid₄, hpid₃, hpid₂, hhandle]
        · dsimp only
          by_cases h0 : (B.queryCreationTime handle s₁).1 ≠ 0
          · exact .inr ((if_pos h0).trans htime)
          · -- an unknown creation time passes the check only if none was expected
            refine .inl ((if_neg h0).trans ?_)
            by_contra hexp
            exact hid ⟨hexp, .inl (not_not.mp h0)⟩

end Operations

/-! ## One call -/

/-- The leases of a booster, without their games. -/
def Booster.leaseList (w : Booster σ) : List LeaseState := w.leases.entries.map (·.2)

section Calls

variable (Q : Quiet B) {maxLevel : PriorityLevel} {w : Booster σ} {gameId : String} {pid : UInt32}
  {time : UInt64} {level : PriorityLevel} {target : UInt32} {state : LeaseState}
  {c₀ : UInt32 → UInt32} {gone : List LeaseState}

theorem leaseList_found (hf : w.leases.find? gameId = some state) :
    w.leaseList.Perm (state :: (w.leases.erase gameId).entries.map (·.2)) :=
  (SortedMap.perm_of_find? hf).map _

theorem leaseList_insert (m : SortedMap String LeaseState) (gameId : String) (state : LeaseState) :
    ((m.insert gameId state).entries.map (·.2)).Perm
      (state :: (m.erase gameId).entries.map (·.2)) :=
  (m.insert_perm gameId state).map _

theorem release_books (hB : Books Q c₀ gone w.backend w.leaseList) :
    Books Q c₀ (gone ++ Q.callAbandons maxLevel w (.release gameId pid))
      (w.releaseBoost B gameId pid).2.backend (w.releaseBoost B gameId pid).2.leaseList := by
  cases hf : w.leases.find? gameId with
  | none => simpa [Quiet.callAbandons, Booster.releaseBoost, hf] using hB
  | some state =>
    have hB' := hB.perm (leaseList_found hf)
    by_cases hpid : state.pid = pid
    · subst hpid
      by_cases hc : state.count ≤ 1
      · obtain ⟨s', hr, he⟩ := releaseBoost_quiet Q (hB'.leaseOpen state List.mem_cons_self) hf hc
        simp only [Quiet.callAbandons, hf, true_and, hc, if_true, hr]
        exact hB'.ended he
      · rw [releaseBoost_shared hf (by omega)]
        simp only [Quiet.callAbandons, hf, true_and, hc, if_false, List.append_nil]
        exact (hB'.recounted _).perm (leaseList_insert _ _ _).symm
    · simpa [Quiet.callAbandons, Booster.releaseBoost, hf, hpid] using hB

/-- What a fresh acquisition leaves, given the leases `ls` that stay open when it succeeds. -/
theorem fresh_books {ls : List LeaseState} {w' : Booster σ} (ht : target ≠ 0)
    (hB : Books Q c₀ gone w'.backend ls)
    (hls : ((w'.leases.erase gameId).entries.map (·.2)).Perm ls)
    (hadm : Admits B w'.backend pid time target) :
    Books Q c₀ gone (w'.acquireFresh B gameId pid time level target).2.backend
      (w'.acquireFresh B gameId pid time level target).2.leaseList := by
  rcases acquireFresh_books Q gameId pid time level ht hB with
    ⟨hno, _⟩ | ⟨_, w'', new, hr, hl, _, _, hB''⟩
  · exact absurd hadm hno
  · rw [hr]
    show Books Q c₀ gone w''.backend (w''.leases.entries.map (·.2))
    rw [hl]
    exact hB''.perm ((leaseList_insert _ _ _).trans (hls.cons new)).symm

/-- What a fresh acquisition leaves when it fails. -/
theorem failed_books {w' : Booster σ} (ht : target ≠ 0)
    (hB : Books Q c₀ gone w'.backend w'.leaseList)
    (hadm : ¬ Admits B w'.backend pid time target) :
    Books Q c₀ gone (w'.acquireFresh B gameId pid time level target).2.backend
      (w'.acquireFresh B gameId pid time level target).2.leaseList := by
  rcases acquireFresh_books Q gameId pid time level ht hB with
    ⟨_, e, w'', hr, hl, hB''⟩ | ⟨hyes, _⟩
  · rw [hr]
    show Books Q c₀ gone w''.backend (w''.leases.entries.map (·.2))
    rw [hl]
    exact hB''
  · exact absurd hyes hadm

/-- A fresh acquisition for a game without a lease. -/
theorem acquireFresh_books_of_none {w' : Booster σ} (ht : target ≠ 0)
    (hf : w'.leases.find? gameId = none) (hB : Books Q c₀ gone w'.backend w'.leaseList) :
    Books Q c₀ gone (w'.acquireFresh B gameId pid time level target).2.backend
      (w'.acquireFresh B gameId pid time level target).2.leaseList := by
  by_cases hadm : Admits B w'.backend pid time target
  · refine fresh_books Q ht hB ?_ hadm
    rw [SortedMap.erase_eq_of_none hf]
    exact .refl _
  · exact failed_books Q ht hB hadm

/-- A quiet backend never refuses a release. -/
theorem releaseBoost_quiet_ok (hB : Books Q c₀ gone w.backend w.leaseList)
    (hf : w.leases.find? gameId = some state) {e : Error} {w' : Booster σ} :
    w.releaseBoost B gameId state.pid ≠ (.error e, w') := by
  by_cases hc : state.count ≤ 1
  · have hopen := (hB.perm (leaseList_found hf)).leaseOpen state List.mem_cons_self
    obtain ⟨s', hr, _⟩ := releaseBoost_quiet Q hopen hf hc
    rw [hr]
    exact fun h => nomatch h
  · rw [releaseBoost_shared hf (Nat.lt_of_not_le hc)]
    exact fun h => nomatch h

theorem acquire_books (hB : Books Q c₀ gone w.backend w.leaseList) :
    Books Q c₀ (gone ++ Q.callAbandons maxLevel w (.acquire gameId pid time level))
      (w.acquireBoost B maxLevel gameId pid time level).2.backend
      (w.acquireBoost B maxLevel gameId pid time level).2.leaseList := by
  have hend := acquireBoost_end B maxLevel w gameId pid time level
  generalize w.acquireBoost B maxLevel gameId pid time level = out at hend ⊢
  cases hend with
  | refused hrefused =>
    have hnothing : Q.callAbandons maxLevel w (.acquire gameId pid time level) = [] := by
      simp only [Quiet.callAbandons]
      split
      · rename_i target _ hlevel
        rw [if_pos (.inr (hrefused target hlevel))]
      · rfl
    rw [hnothing, List.append_nil]
    exact hB
  | @fresh target hallowed hlevel hf =>
    have ht := priorityLevelToWin32Class_ne_zero hlevel
    simp only [Quiet.callAbandons, hf, List.append_nil]
    exact acquireFresh_books_of_none Q ht hf hB
  | again hallowed hlevel hf hpid =>
    have hB' := hB.perm (leaseList_found hf)
    subst hpid
    simp only [Quiet.callAbandons, hf, hlevel, true_or, if_true, List.append_nil]
    exact (hB'.recounted _).perm (leaseList_insert _ _ _).symm
  | stuck _ _ hf _ hrel => exact absurd hrel (releaseBoost_quiet_ok Q hB hf)
  | @moved target state w' hallowed hlevel hf hpid hrel =>
    have ht := priorityLevelToWin32Class_ne_zero hlevel
    have hB' := hB.perm (leaseList_found hf)
    simp only [Quiet.callAbandons, hf, hlevel, hpid, hallowed, false_or, Bool.false_eq_true,
      if_false]
    by_cases hc : state.count ≤ 1
    · -- the old lease ends, then the game has none
      obtain ⟨s', hr, he⟩ := releaseBoost_quiet Q (hB'.leaseOpen state List.mem_cons_self) hf hc
      cases hr.symm.trans hrel
      simp only [hc, if_true]
      exact acquireFresh_books_of_none Q ht find?_erase_self (hB'.ended he)
    · -- the old lease is only counted down, and a success overwrites it
      cases (releaseBoost_shared hf (Nat.lt_of_not_le hc)).symm.trans hrel
      simp only [hc, if_false]
      by_cases hadm : Admits B w.backend pid time target
      · rw [if_pos hadm]
        exact fresh_books Q ht hB'.overwritten ((SortedMap.erase_insert_perm _ _ _).map _) hadm
      · rw [if_neg hadm, List.append_nil]
        refine failed_books Q ht ?_ hadm
        exact (hB'.recounted _).perm (leaseList_insert _ _ _).symm

/-- The walk of `ReleaseAll` ends every lease it visits. -/
theorem walk_books (es : List (String × LeaseState))
    (hB : Books Q c₀ gone w.backend (es.map (·.2))) :
    Books Q c₀ (gone ++ Q.walkAbandons w es)
      (es.foldl (fun w entry => w.forceCleanLease B entry.2) w).backend [] := by
  induction es generalizing w gone with
  | nil => simpa [Quiet.walkAbandons] using hB
  | cons entry es ih =>
    obtain ⟨s', hr, he⟩ := forceCleanLease_quiet Q (hB.leaseOpen entry.2 List.mem_cons_self)
    have hnext := ih (w := w.forceCleanLease B entry.2) (by rw [hr]; exact hB.ended he)
    rw [List.append_assoc] at hnext
    exact hnext

theorem call_books (maxLevel : PriorityLevel) (hB : Books Q c₀ gone w.backend w.leaseList)
    (c : Call) :
    Books Q c₀ (gone ++ Q.callAbandons maxLevel w c) (w.call B maxLevel c).backend
      (w.call B maxLevel c).leaseList := by
  cases c with
  | acquire gameId pid time level => exact acquire_books Q hB
  | release gameId pid => exact release_books Q hB
  | releaseAll => exact walk_books Q w.leases.entries hB

/-- Along every run the open and the abandoned leases account for the classes. -/
theorem run_books (maxLevel : PriorityLevel) (hB : Books Q c₀ gone w.backend w.leaseList)
    (calls : List Call) :
    Books Q c₀ (gone ++ Q.abandoned maxLevel w calls)
      (run (Booster.call B maxLevel) w calls).backend
      (run (Booster.call B maxLevel) w calls).leaseList := by
  induction calls generalizing w gone with
  | nil => simpa [Quiet.abandoned] using hB
  | cons c calls ih =>
    have hnext := ih (call_books Q maxLevel hB c)
    rw [List.append_assoc] at hnext
    exact hnext

end Calls

/-! ## Acquires without their release -/

/-- The successful acquires that no release has matched yet, as a call changes them. -/
def Booster.account (B : PriorityBackend σ) (maxLevel : PriorityLevel) (w : Booster σ)
    (pending : List (String × UInt32)) : Call → List (String × UInt32)
  | .acquire gameId pid time level =>
    if (w.acquireBoost B maxLevel gameId pid time level).1 = .ok () then (gameId, pid) :: pending
    else pending
  | .release gameId pid =>
    if (w.releaseBoost B gameId pid).1 = .ok () then pending.erase (gameId, pid) else pending
  | .releaseAll => []

/-- The acquires left unmatched by a run. -/
def unmatched (B : PriorityBackend σ) (maxLevel : PriorityLevel) :
    Booster σ → List (String × UInt32) → List Call → List (String × UInt32)
  | _, pending, [] => pending
  | w, pending, c :: cs =>
    unmatched B maxLevel (w.call B maxLevel c) (w.account B maxLevel pending c) cs

/-- Every lease is counted at least once and at most as often as it was acquired. -/
def Counted (w : Booster σ) (pending : List (String × UInt32)) : Prop :=
  ∀ entry ∈ w.leases.entries, 1 ≤ entry.2.count ∧
    entry.2.count ≤ pending.count (entry.1, entry.2.pid)

section Counting

variable (Q : Quiet B) {maxLevel : PriorityLevel} {w w' : Booster σ} {gameId : String}
  {pid : UInt32} {time : UInt64} {level : PriorityLevel} {target : UInt32} {state : LeaseState}
  {c₀ : UInt32 → UInt32} {gone : List LeaseState} {pending : List (String × UInt32)}

/-- Leases of other games keep their acquires when one of this game is matched. -/
theorem Counted.erase (h : Counted w pending) (hl : w'.leases = w.leases.erase gameId) :
    Counted w' (pending.erase (gameId, pid)) := by
  intro entry he
  rw [hl] at he
  obtain ⟨he, hk⟩ := SortedMap.mem_erase.mp he
  obtain ⟨h1, h2⟩ := h entry he
  refine ⟨h1, ?_⟩
  rw [List.count_erase_of_ne]
  · exact h2
  · intro heq
    exact hk (congrArg Prod.fst heq)

theorem Counted.dropped (h : Counted w pending) (hl : w'.leases = w.leases.erase gameId) :
    Counted w' pending := by
  intro entry he
  rw [hl] at he
  exact h entry (SortedMap.mem_erase.mp he).1

theorem Counted.insert (h : Counted w pending) (hl : w'.leases = w.leases.insert gameId state)
    (h1 : 1 ≤ state.count) (h2 : state.count ≤ ((gameId, pid) :: pending).count (gameId, state.pid)) :
    Counted w' ((gameId, pid) :: pending) := by
  intro entry he
  rw [hl] at he
  rcases SortedMap.mem_insert.mp he with rfl | ⟨he, hk⟩
  · exact ⟨h1, h2⟩
  · obtain ⟨h1', h2'⟩ := h entry he
    refine ⟨h1', Nat.le_trans h2' ?_⟩
    exact List.count_le_count_cons

theorem release_counted (hB : Books Q c₀ gone w.backend w.leaseList) (hC : Counted w pending) :
    Counted (w.releaseBoost B gameId pid).2 (w.account B maxLevel pending (.release gameId pid)) := by
  cases hf : w.leases.find? gameId with
  | none =>
    simp only [Booster.account, Booster.releaseBoost, hf, if_true]
    intro entry he
    have hk := SortedMap.find?_eq_none.mp hf entry he
    obtain ⟨h1, h2⟩ := hC entry he
    refine ⟨h1, ?_⟩
    rw [List.count_erase_of_ne]
    · exact h2
    · intro heq
      exact hk (congrArg Prod.fst heq)
  | some state =>
    have hB' := hB.perm (leaseList_found hf)
    by_cases hpid : state.pid = pid
    · subst hpid
      by_cases hc : state.count ≤ 1
      · obtain ⟨s', hr, _⟩ := releaseBoost_quiet Q (hB'.leaseOpen state List.mem_cons_self) hf hc
        simp only [Booster.account, hr, if_true]
        exact hC.erase rfl
      · simp only [Booster.account, releaseBoost_shared hf (Nat.lt_of_not_le hc), if_true]
        intro entry he
        rcases SortedMap.mem_insert.mp he with rfl | ⟨he, hk⟩
        · obtain ⟨h1, h2⟩ := hC _ (SortedMap.find?_eq_some.mp hf)
          dsimp only at h1 h2 ⊢
          rw [List.count_erase_self]
          omega
        · obtain ⟨h1, h2⟩ := hC entry he
          refine ⟨h1, ?_⟩
          rw [List.count_erase_of_ne]
          · exact h2
          · intro heq
            exact hk (congrArg Prod.fst heq)
    · simp only [Booster.account, Booster.releaseBoost, hf, hpid, ne_eq, not_false_eq_true, if_true,
        reduceCtorEq, if_false]
      exact hC

theorem fresh_counted {ls : List LeaseState} (ht : target ≠ 0) (hB : Books Q c₀ gone w.backend ls)
    (hC : Counted w pending) :
    Counted (w.acquireFresh B gameId pid time level target).2
      (if (w.acquireFresh B gameId pid time level target).1 = .ok () then (gameId, pid) :: pending
        else pending) := by
  rcases acquireFresh_books Q gameId pid time level ht hB with
    ⟨_, e, w', hr, hl, _⟩ | ⟨_, w', state, hr, hl, hpid, hcount, _⟩
  · simp only [hr, reduceCtorEq, if_false]
    intro entry he
    rw [hl] at he
    exact hC entry he
  · simp only [hr, if_true]
    refine hC.insert hl (by omega) ?_
    rw [hcount, hpid, List.count_cons_self]
    omega

theorem acquire_counted (hB : Books Q c₀ gone w.backend w.leaseList) (hC : Counted w pending) :
    Counted (w.acquireBoost B maxLevel gameId pid time level).2
      (w.account B maxLevel pending (.acquire gameId pid time level)) := by
  have hend := acquireBoost_end B maxLevel w gameId pid time level
  simp only [Booster.account]
  generalize w.acquireBoost B maxLevel gameId pid time level = out at hend ⊢
  cases hend with
  | refused _ =>
    simp only [reduceCtorEq, if_false]
    exact hC
  | fresh hallowed hlevel hf =>
    exact fresh_counted Q (priorityLevelToWin32Class_ne_zero hlevel) hB hC
  | again hallowed hlevel hf hpid =>
    obtain ⟨h1, h2⟩ := hC _ (SortedMap.find?_eq_some.mp hf)
    subst hpid
    simp only [if_true]
    refine hC.insert rfl (by simp) ?_
    rw [List.count_cons_self]
    exact Nat.succ_le_succ h2
  | stuck _ _ hf _ hrel => exact absurd hrel (releaseBoost_quiet_ok Q hB hf)
  | @moved target state w' hallowed hlevel hf hpid hrel =>
    have ht := priorityLevelToWin32Class_ne_zero hlevel
    have hB' := hB.perm (leaseList_found hf)
    by_cases hc : state.count ≤ 1
    · obtain ⟨s', hr, he⟩ := releaseBoost_quiet Q (hB'.leaseOpen state List.mem_cons_self) hf hc
      cases hr.symm.trans hrel
      exact fresh_counted Q ht (hB'.ended he) (hC.dropped rfl)
    · cases (releaseBoost_shared hf (Nat.lt_of_not_le hc)).symm.trans hrel
      obtain ⟨h1, h2⟩ := hC _ (SortedMap.find?_eq_some.mp hf)
      dsimp only at h1 h2
      refine fresh_counted Q ht hB'.overwritten ?_
      intro entry he
      rcases SortedMap.mem_insert.mp he with rfl | ⟨he, _⟩
      · dsimp only
        omega
      · exact hC entry he

/-- Along every run a lease is backed by acquires that were not matched. -/
theorem run_counted (maxLevel : PriorityLevel) (hB : Books Q c₀ gone w.backend w.leaseList)
    (hC : Counted w pending) (calls : List Call) :
    Counted (run (Booster.call B maxLevel) w calls) (unmatched B maxLevel w pending calls) := by
  induction calls generalizing w gone pending with
  | nil => exact hC
  | cons c calls ih =>
    refine ih (call_books Q maxLevel hB c) ?_
    cases c with
    | acquire gameId pid time level => exact acquire_counted Q hB hC
    | release gameId pid => exact release_counted Q hB hC
    | releaseAll =>
      intro entry he
      cases he

end Counting

/-! ## Whole runs -/

section Runs

variable (Q : Quiet B) (maxLevel : PriorityLevel) (s : σ)

theorem books_init : Books Q (Q.classOf s) [] ({ backend := s } : Booster σ).backend
    ({ backend := s } : Booster σ).leaseList where
  leaseOpen state hs := by cases hs
  once := List.nodup_nil
  balanced := Move.balanced_nil

/-- Once no lease is left, the classes are the first ones exactly if the abandoned leases cancel. -/
theorem returned_iff_cancel (calls : List Call)
    (hempty : (run (Booster.call B maxLevel) { backend := s } calls).leases.entries = []) :
    Q.classOf (run (Booster.call B maxLevel) { backend := s } calls).backend = Q.classOf s ↔
      Move.Cancel ((Q.abandoned maxLevel { backend := s } calls).map LeaseState.move) := by
  have hB := run_books Q maxLevel (books_init Q s) calls
  have hb := hB.balanced
  rw [Booster.leaseList, hempty] at hb
  exact hb.eq_iff

include Q in
/-- With every acquire matched, no lease is left. -/
theorem entries_of_unmatched (calls : List Call)
    (h : unmatched B maxLevel { backend := s } [] calls = []) :
    (run (Booster.call B maxLevel) { backend := s } calls).leases.entries = [] := by
  have hC : Counted ({ backend := s } : Booster σ) [] := by
    intro entry he
    cases he
  have hrun := run_counted Q maxLevel (books_init Q s) hC calls
  rw [h] at hrun
  rw [List.eq_nil_iff_forall_not_mem]
  intro entry he
  obtain ⟨h1, h2⟩ := hrun entry he
  rw [List.count_nil] at h2
  omega

theorem entries_of_releaseAll (calls : List Call) :
    (run (Booster.call B maxLevel) { backend := s } (calls ++ [.releaseAll])).leases.entries = [] := by
  rw [run_append]
  rfl

/-- A process on which no step of the run abandons a lease has its first class whenever no lease is
left on it. -/
theorem returned_of_no_abandoned {calls : List Call}
    (h : Steps (Booster.call B maxLevel) (fun w c => Q.callAbandons maxLevel w c = [])
      { backend := s } calls) :
    Always (Booster.call B maxLevel)
      (fun w => ∀ pid, (∀ state ∈ w.leaseList, state.pid ≠ pid) →
        Q.classOf w.backend pid = Q.classOf s pid) { backend := s } calls := by
  refine always_of_steps (I := fun w => Books Q (Q.classOf s) [] w.backend w.leaseList) ?_ ?_
    (books_init Q s) h
  · intro w c hB hnone
    have := call_books Q maxLevel hB c
    rw [hnone] at this
    exact this
  · intro w hB pid hpid
    refine hB.balanced.eq_of_untouched ?_
    intro m hm
    obtain ⟨state, hs, rfl⟩ := List.mem_map.mp hm
    rw [List.append_nil] at hs
    exact hpid state hs

/-- The processes get their classes back at `ReleaseAll`, and likewise once every successful acquire
is matched, exactly if the leases abandoned on the way cancel. -/
theorem classes_given_back_iff (calls : List Call) :
    (Q.classOf (run (Booster.call B maxLevel) { backend := s } (calls ++ [.releaseAll])).backend =
        Q.classOf s ↔
      Move.Cancel
        ((Q.abandoned maxLevel { backend := s } (calls ++ [.releaseAll])).map LeaseState.move)) ∧
    (unmatched B maxLevel { backend := s } [] calls = [] →
      (Q.classOf (run (Booster.call B maxLevel) { backend := s } calls).backend = Q.classOf s ↔
        Move.Cancel ((Q.abandoned maxLevel { backend := s } calls).map LeaseState.move))) := by
  refine ⟨?_, ?_⟩
  · exact returned_iff_cancel Q maxLevel s _ (entries_of_releaseAll maxLevel s calls)
  · intro h
    exact returned_iff_cancel Q maxLevel s calls (entries_of_unmatched Q maxLevel s calls h)

end Runs

/-! ## A table of processes -/

/-- Processes with their classes, and the handles open on them. -/
structure ProcessTable where
  classes : UInt32 → UInt32
  handles : UInt64 → Option UInt32 := fun _ => none
  last : UInt64 := 0

/-- Handles are numbered; a query through a handle that is not open answers `0`. -/
def processTable : PriorityBackend ProcessTable where
  openProcess pid s :=
    if s.last + 1 = 0 ∨ s.handles (s.last + 1) ≠ none then
      (.error (.fromWin32 1450 "OpenProcess"), s)
    else
      (.ok (s.last + 1),
        { s with handles := Function.update s.handles (s.last + 1) (some pid), last := s.last + 1 })
  queryCreationTime h s := ((s.handles h).elim 0 (fun _ => 1), s)
  queryPriorityClass h s := ((s.handles h).elim 0 s.classes, s)
  setPriorityClass h cls s :=
    match s.handles h with
    | none => (.error (.fromWin32 6 "SetPriorityClass"), s)
    | some pid => (.ok (), { s with classes := Function.update s.classes pid cls })
  closeProcess h s := { s with handles := Function.update s.handles h none }

def processTableQuiet : Quiet processTable where
  pidOf s := s.handles
  classOf s := s.classes
  created _ := 1
  open_ok := by
    intro pid s h s' hopen
    simp only [processTable] at hopen
    split at hopen
    · cases hopen
    · rename_i hfree
      cases hopen
      rw [not_or, not_not] at hfree
      exact ⟨hfree.1, hfree.2, rfl, rfl⟩
  open_error := by
    intro pid s e s' hopen
    simp only [processTable] at hopen
    split at hopen
    · cases hopen
      exact ⟨rfl, rfl⟩
    · cases hopen
  time_eq := by
    intro h s pid hpid
    simp [processTable, hpid]
  time_keeps := ⟨rfl, rfl⟩
  class_eq := by
    intro h s pid hpid
    simp [processTable, hpid]
  class_keeps := ⟨rfl, rfl⟩
  set_ok := by
    intro h s pid cls hpid
    simp [processTable, hpid]
  close_keeps := ⟨rfl, rfl⟩

/-- Every process at the normal class. -/
def normalProcesses : ProcessTable := { classes := fun _ => 0x20 }

/-- Two games boost one process to different levels and both release it, the first one first. -/
def overlapCalls : List Call :=
  [.acquire "launcher" 7 0 .aboveNormal, .acquire "shooter" 7 0 .high, .release "launcher" 7,
    .release "shooter" 7]

/-- All acquires are matched, and process 7 keeps the class of the first boost, also after
`ReleaseAll`. -/
theorem overlap_keeps_boost :
    unmatched processTable .high { backend := normalProcesses } [] overlapCalls = [] ∧
      processTableQuiet.classOf
        (run (Booster.call processTable .high) { backend := normalProcesses }
          overlapCalls).backend ≠ processTableQuiet.classOf normalProcesses ∧
      processTableQuiet.classOf
        (run (Booster.call processTable .high) { backend := normalProcesses }
          (overlapCalls ++ [.releaseAll])).backend ≠ processTableQuiet.classOf normalProcesses := by
  refine ⟨by decide +kernel, ?_, ?_⟩
  · intro h
    exact absurd (congrFun h 7) (by decide +kernel)
  · intro h
    exact absurd (congrFun h 7) (by decide +kernel)

/-- Released in the opposite order, the same two boosts are undone. -/
theorem nested_boosts_returned :
    processTableQuiet.classOf
      (run (Booster.call processTable .high) { backend := normalProcesses }
        [.acquire "launcher" 7 0 .aboveNormal, .acquire "shooter" 7 0 .high, .release "shooter" 7,
          .release "launcher" 7]).backend = processTableQuiet.classOf normalProcesses := by
  refine ((classes_given_back_iff processTableQuiet .high normalProcesses _).2
    (by decide +kernel)).mpr ?_
  have hnone : processTableQuiet.abandoned .high { backend := normalProcesses }
      [.acquire "launcher" 7 0 .aboveNormal, .acquire "shooter" 7 0 .high, .release "shooter" 7,
        .release "launcher" 7] = [] := by decide +kernel
  rw [hnone]
  exact fun _ _ => rfl

end Priority
end CppOptimizer
