import CppOptimizer.Priority.ClassReturn

/-!
# CppOptimizer.Priority.FailedAcquire

What an `AcquireBoost` that returns an error leaves behind.

* `ClassView B`  — the priority classes of the processes: only a `SetPriorityClass` that succeeds can
  change them.
* `Reachable`    — the boosters a client can hold: any calls, with anything happening to the processes
  between them.
* `HalfDone`     — the old lease of a restarted game is released and the new process is then refused.
* `acquire_failed_unchanged_iff` — a failing acquire changes nothing exactly outside `HalfDone`.

The header promises an unchanged state. `AcquireBoost` releases the old lease first and has no way
to take it back when opening, identifying, querying or setting the new process fails.
-/

namespace CppOptimizer
namespace Priority

open Common Config Lib

variable {σ : Type} {B : PriorityBackend σ}

/-- The classes of the processes, as far as the backend's calls may touch them. -/
structure ClassView (B : PriorityBackend σ) where
  classOf : σ → UInt32 → UInt32
  open_keeps : ∀ pid s, classOf (B.openProcess pid s).2 = classOf s
  time_keeps : ∀ h s, classOf (B.queryCreationTime h s).2 = classOf s
  class_keeps : ∀ h s, classOf (B.queryPriorityClass h s).2 = classOf s
  close_keeps : ∀ h s, classOf (B.closeProcess h s) = classOf s
  set_error : ∀ {h cls s e}, (B.setPriorityClass h cls s).1 = .error e →
    classOf (B.setPriorityClass h cls s).2 = classOf s

/-- The lease table and the class of every process are the same. -/
structure Unchanged (V : ClassView B) (w w' : Booster σ) : Prop where
  leases : w'.leases = w.leases
  classOf : V.classOf w'.backend = V.classOf w.backend

/-- The states of a booster: created without leases, called in any order, with the processes free to
do anything between two calls. -/
inductive Reachable (B : PriorityBackend σ) (maxLevel : PriorityLevel) : Booster σ → Prop where
  | created (s : σ) : Reachable B maxLevel { backend := s }
  | called {w} (c : Call) : Reachable B maxLevel w → Reachable B maxLevel (w.call B maxLevel c)
  | elapsed {w} (s : σ) : Reachable B maxLevel w → Reachable B maxLevel { w with backend := s }

/-- The backend once the last lease `state` is ended, unless it refuses to set the class back. -/
def lastLeaseEnd (B : PriorityBackend σ) (s : σ) (state : LeaseState) : Option σ :=
  let time := B.queryCreationTime state.handle s
  let cls := B.queryPriorityClass state.handle time.2
  if state.creationTime100ns ≠ 0 ∧ time.1 ≠ state.creationTime100ns then
    some (B.closeProcess state.handle time.2)
  else if cls.1 = 0 ∨ cls.1 ≠ state.targetClass then
    some (B.closeProcess state.handle cls.2)
  else
    match B.setPriorityClass state.handle state.originalClass cls.2 with
    | (.error _, _) => none
    | (.ok (), s) => some (B.closeProcess state.handle s)

/-- The backend once one lease of `state` is released: a shared lease asks nothing of it. -/
def leaseEnd (B : PriorityBackend σ) (s : σ) (state : LeaseState) : Option σ :=
  if 1 < state.count then some s else lastLeaseEnd B s state

/-- The game restarted under `pid`, its old lease can be released, and the backend then does not
admit the new process. -/
inductive HalfDone (B : PriorityBackend σ) (maxLevel : PriorityLevel) (w : Booster σ)
    (gameId : String) (pid : UInt32) (time : UInt64) (level : PriorityLevel) : Prop where
  | intro {state : LeaseState} {target : UInt32} {s : σ}
      (allowed : levelExceeds level maxLevel = false)
      (hlevel : priorityLevelToWin32Class level = .ok target)
      (found : w.leases.find? gameId = some state) (restarted : state.pid ≠ pid)
      (released : leaseEnd B w.backend state = some s)
      (refused : ¬ Admits B s pid time target)

/-! ## Every lease is counted -/

/-- Every lease in the table is held at least once. -/
def Held (w : Booster σ) : Prop := ∀ entry ∈ w.leases.entries, 1 ≤ entry.2.count

section Counts

variable {w w' : Booster σ} {gameId : String} {pid : UInt32} {time : UInt64} {level : PriorityLevel}
  {target : UInt32} {state : LeaseState} {maxLevel : PriorityLevel}

theorem Held.same (h : Held w) (hl : w'.leases = w.leases) : Held w' := by
  intro entry he
  rw [hl] at he
  exact h entry he

theorem Held.insert (h : Held w) (hl : w'.leases = w.leases.insert gameId state)
    (hc : 1 ≤ state.count) : Held w' := by
  intro entry he
  rw [hl] at he
  rcases SortedMap.mem_insert.mp he with rfl | ⟨he, _⟩
  · exact hc
  · exact h entry he

theorem Held.erase (h : Held w) (hl : w'.leases = w.leases.erase gameId) : Held w' := by
  intro entry he
  rw [hl] at he
  exact h entry (SortedMap.mem_erase.mp he).1

end Counts

/-! ## The two halves of an acquire -/

section Halves

variable {w : Booster σ} {gameId : String} {pid : UInt32} {time : UInt64} {level : PriorityLevel}
  {target : UInt32} {state : LeaseState} {s' : σ}

theorem restoreLastLease_ended (h : lastLeaseEnd B w.backend state = some s') :
    w.restoreLastLease B state = (.ok (), { state with handle := 0, count := 0 },
      { w with backend := s', closed := state.handle :: w.closed }) := by
  simp only [lastLeaseEnd] at h
  simp only [Booster.restoreLastLease, Booster.queryCreationTime, Booster.queryPriorityClass,
    Booster.setPriorityClass, Booster.closeProcess]
  split at h
  · rename_i hid
    cases h
    exact if_pos hid
  · rename_i hid
    refine (if_neg hid).trans ?_
    split at h
    · rename_i hcls
      cases h
      by_cases hzero : (B.queryPriorityClass state.handle
          (B.queryCreationTime state.handle w.backend).2).1 = 0
      · exact if_pos hzero
      · exact (if_neg hzero).trans (if_pos (hcls.resolve_left hzero))
    · rename_i hcls
      rw [not_or] at hcls
      refine (if_neg hcls.1).trans ((if_neg hcls.2).trans ?_)
      split at h
      · cases h
      · rename_i hset
        cases h
        rw [hset]

/-- A restore the backend refuses keeps the lease, counted once, and the classes. -/
theorem restoreLastLease_refused (V : ClassView B) (h : lastLeaseEnd B w.backend state = none) :
    ∃ e s', w.restoreLastLease B state = (.error e, { state with count := 1 },
        { w with backend := s' }) ∧ V.classOf s' = V.classOf w.backend := by
  simp only [lastLeaseEnd] at h
  simp only [Booster.restoreLastLease, Booster.queryCreationTime, Booster.queryPriorityClass,
    Booster.setPriorityClass, Booster.closeProcess]
  split at h
  · cases h
  · rename_i hid
    split at h
    · cases h
    · rename_i hcls
      rw [not_or] at hcls
      split at h
      · rename_i e s' hset
        refine ⟨e, s', (if_neg hid).trans ((if_neg hcls.1).trans ((if_neg hcls.2).trans ?_)), ?_⟩
        · rw [hset]
        · have hkeep := V.set_error (congrArg Prod.fst hset)
          rw [hset] at hkeep
          rw [hkeep, V.class_keeps, V.time_keeps]
      · cases h

theorem releaseBoost_ended (hf : w.leases.find? gameId = some state)
    (h : leaseEnd B w.backend state = some s') :
    ∃ w', w.releaseBoost B gameId state.pid = (.ok (), w') ∧ w'.backend = s' ∧
      w'.leases = if 1 < state.count then
        w.leases.insert gameId { state with count := state.count - 1 } else w.leases.erase gameId := by
  by_cases hc : 1 < state.count
  · rw [leaseEnd, if_pos hc] at h
    cases h
    refine ⟨_, releaseBoost_shared hf hc, rfl, ?_⟩
    rw [if_pos hc]
  · rw [leaseEnd, if_neg hc] at h
    refine ⟨{ w with backend := s', leases := w.leases.erase gameId,
                     closed := state.handle :: w.closed }, ?_, rfl, (if_neg hc).symm⟩
    simp only [Booster.releaseBoost, hf, ne_eq, not_true_eq_false, if_false, gt_iff_lt, hc,
      restoreLastLease_ended h]

/-- A release that fails leaves a lease held once as it was. -/
theorem releaseBoost_refused (V : ClassView B) (hf : w.leases.find? gameId = some state)
    (hc : 1 ≤ state.count) (h : leaseEnd B w.backend state = none) :
    ∃ e w', w.releaseBoost B gameId state.pid = (.error e, w') ∧ Unchanged V w w' := by
  by_cases hshared : 1 < state.count
  · rw [leaseEnd, if_pos hshared] at h
    cases h
  · rw [leaseEnd, if_neg hshared] at h
    obtain ⟨e, s', hr, hkeep⟩ := restoreLastLease_refused V h
    refine ⟨e, { w with backend := s', leases := w.leases.insert gameId { state with count := 1 } },
      ?_, ?_, hkeep⟩
    · simp only [Booster.releaseBoost, hf, ne_eq, not_true_eq_false, if_false, gt_iff_lt, hshared, hr]
    · have hone : state.count = 1 := by omega
      have hsame : ({ state with count := 1 } : LeaseState) = state := by
        rw [← hone]
      dsimp only
      rw [hsame]
      refine SortedMap.ext_mem fun q => ?_
      have hmem := SortedMap.find?_eq_some.mp hf
      rw [SortedMap.mem_insert]
      constructor
      · rintro (rfl | ⟨hq, _⟩)
        · exact hmem
        · exact hq
      · intro hq
        by_cases hk : q.1 = gameId
        · exact .inl (SortedMap.entries_inj hq hmem hk)
        · exact .inr ⟨hq, hk⟩

/-- A release that ends no lease reports an error. -/
theorem releaseBoost_error (hf : w.leases.find? gameId = some state)
    (h : leaseEnd B w.backend state = none) :
    ∃ e w', w.releaseBoost B gameId state.pid = (.error e, w') := by
  -- the result does not depend on the classes, so any view of them will do
  let blind : ClassView B :=
    { classOf := fun _ _ => 0, open_keeps := fun _ _ => rfl, time_keeps := fun _ _ => rfl,
      class_keeps := fun _ _ => rfl, close_keeps := fun _ _ => rfl, set_error := fun _ => rfl }
  by_cases hshared : 1 < state.count
  · rw [leaseEnd, if_pos hshared] at h
    cases h
  · rw [leaseEnd, if_neg hshared] at h
    obtain ⟨e, s', hr, -⟩ := restoreLastLease_refused blind h
    refine ⟨e, { w with backend := s', leases := w.leases.insert gameId { state with count := 1 } },
      ?_⟩
    simp only [Booster.releaseBoost, hf, ne_eq, not_true_eq_false, if_false, gt_iff_lt, hshared, hr]

/-- A fresh acquisition the backend does not admit leaves leases and classes alone. -/
theorem acquireFresh_refused (V : ClassView B) (gameId : String) (level : PriorityLevel)
    (h : ¬ Admits B w.backend pid time target) :
    ∃ e w', w.acquireFresh B gameId pid time level target = (.error e, w') ∧ Unchanged V w w' := by
  simp only [Booster.acquireFresh, Booster.openProcess]
  simp only [Admits] at h
  have hopen := V.open_keeps pid w.backend
  rcases ho : B.openProcess pid w.backend with ⟨e | handle, s₁⟩
  · rw [ho] at hopen
    exact ⟨e, _, rfl, rfl, hopen⟩
  · rw [ho] at h hopen
    dsimp only [Booster.queryCreationTime, Booster.queryPriorityClass, Booster.setPriorityClass,
      Booster.closeProcess] at h ⊢
    by_cases hid : time ≠ 0 ∧ ((B.queryCreationTime handle s₁).1 = 0 ∨
        (B.queryCreationTime handle s₁).1 ≠ time)
    · refine ⟨_, _, if_pos hid, rfl, ?_⟩
      show V.classOf _ = _
      rw [V.close_keeps, V.time_keeps, hopen]
    · by_cases hzero : (B.queryPriorityClass handle (B.queryCreationTime handle s₁).2).1 = 0
      · refine ⟨_, _, (if_neg hid).trans (if_pos hzero), rfl, ?_⟩
        show V.classOf _ = _
        rw [V.close_keeps, V.class_keeps, V.time_keeps, hopen]
      · cases hset : (B.setPriorityClass handle target
            (B.queryPriorityClass handle (B.queryCreationTime handle s₁).2).2).1 with
        | error e =>
          refine ⟨e, _, (if_neg hid).trans (if_neg hzero), rfl, ?_⟩
          show V.classOf _ = _
          rw [V.close_keeps, V.set_error hset, V.class_keeps, V.time_keeps, hopen]
        | ok u => exact absurd ⟨hid, hzero, hset⟩ h

theorem acquireFresh_admitted (gameId : String) (level : PriorityLevel)
    (h : Admits B w.backend pid time target) :
    ∃ w', w.acquireFresh B gameId pid time level target = (.ok (), w') := by
  simp only [Booster.acquireFresh, Booster.openProcess]
  simp only [Admits] at h
  rcases ho : B.openProcess pid w.backend with ⟨e | handle, s₁⟩
  · rw [ho] at h
    exact h.elim
  · rw [ho] at h
    obtain ⟨hid, hzero, hset⟩ := h
    dsimp only [Booster.queryCreationTime, Booster.queryPriorityClass, Booster.setPriorityClass]
    rw [hset]
    exact ⟨_, (if_neg hid).trans (if_neg hzero)⟩

end Halves

/-! ## Reachable boosters -/

section Reachable

variable {w : Booster σ} {gameId : String} {pid : UInt32} {time : UInt64} {level : PriorityLevel}
  {target : UInt32} {state : LeaseState} {maxLevel : PriorityLevel}

theorem restoreLastLease_held (B : PriorityBackend σ) (w : Booster σ) (state : LeaseState) :
    ∃ s' closed, w.restoreLastLease B state =
        (.ok (), { state with handle := 0, count := 0 }, { w with backend := s', closed := closed }) ∨
      ∃ e, w.restoreLastLease B state =
        (.error e, { state with count := 1 }, { w with backend := s' }) := by
  simp only [Booster.restoreLastLease]
  split
  · exact ⟨_, _, .inl rfl⟩
  · split
    · exact ⟨_, _, .inl rfl⟩
    · split
      · exact ⟨_, _, .inl rfl⟩
      · split
        · exact ⟨_, [], .inr ⟨_, rfl⟩⟩
        · exact ⟨_, _, .inl rfl⟩

theorem releaseBoost_held (gameId : String) (pid : UInt32) (h : Held w) :
    Held (w.releaseBoost B gameId pid).2 := by
  simp only [Booster.releaseBoost]
  cases hf : w.leases.find? gameId with
  | none => exact h
  | some state =>
    dsimp only
    split
    · exact h
    · split
      · rename_i hc
        exact h.insert rfl (by simp only; omega)
      · obtain ⟨s', closed, hr | ⟨e, hr⟩⟩ := restoreLastLease_held B w state
        · rw [hr]
          exact h.erase rfl
        · rw [hr]
          exact h.insert rfl (Nat.le_refl 1)

theorem acquireFresh_held (h : Held w) :
    Held (w.acquireFresh B gameId pid time level target).2 := by
  simp only [Booster.acquireFresh, Booster.openProcess]
  rcases B.openProcess pid w.backend with ⟨e | handle, s₁⟩
  · exact h
  · dsimp only
    split
    · exact h
    · split
      · exact h
      · split
        · exact h
        · exact h.insert rfl (Nat.le_refl 1)

theorem acquireBoost_held (h : Held w) : Held (w.acquireBoost B maxLevel gameId pid time level).2 := by
  have hend := acquireBoost_end B maxLevel w gameId pid time level
  generalize w.acquireBoost B maxLevel gameId pid time level = out at hend ⊢
  cases hend with
  | refused _ => exact h
  | fresh _ _ _ => exact acquireFresh_held h
  | again _ _ _ _ => exact h.insert rfl (Nat.succ_le_succ (Nat.zero_le _))
  | @stuck _ state _ _ _ _ _ _ hrel =>
    have hrelease := releaseBoost_held (B := B) gameId state.pid h
    rw [hrel] at hrelease
    exact hrelease
  | @moved _ state _ _ _ _ _ hrel =>
    have hrelease := releaseBoost_held (B := B) gameId state.pid h
    rw [hrel] at hrelease
    exact acquireFresh_held hrelease

theorem Reachable.held (h : Reachable B maxLevel w) : Held w := by
  induction h with
  | created s =>
    intro entry he
    cases he
  | called c _ ih =>
    cases c with
    | acquire gameId pid time level => exact acquireBoost_held ih
    | release gameId pid => exact releaseBoost_held gameId pid ih
    | releaseAll =>
      intro entry he
      cases he
  | elapsed s _ ih => exact ih.same rfl

end Reachable

/-! ## A failing acquire -/

section Acquire

variable (V : ClassView B) {w w' : Booster σ} {gameId : String} {pid : UInt32} {time : UInt64}
  {level : PriorityLevel} {state : LeaseState} {maxLevel : PriorityLevel}

/-- The release of one lease of the game shows in the table. -/
theorem leases_ne_of_released (hf : w.leases.find? gameId = some state)
    (hl : w'.leases = if 1 < state.count then
      w.leases.insert gameId { state with count := state.count - 1 } else w.leases.erase gameId) :
    w'.leases ≠ w.leases := by
  intro heq
  rw [heq] at hl
  split at hl
  · rename_i hc
    have hsome := SortedMap.find?_insert_self w.leases gameId { state with count := state.count - 1 }
    rw [← hl, hf] at hsome
    have hcount := congrArg LeaseState.count (Option.some.inj hsome)
    dsimp only at hcount
    omega
  · have hnone : (w.leases.erase gameId).find? gameId = none := find?_erase_self
    rw [← hl, hf] at hnone
    cases hnone

theorem acquireBoost_halfDone (h : HalfDone B maxLevel w gameId pid time level) :
    ∃ e, (w.acquireBoost B maxLevel gameId pid time level).1 = .error e ∧
      ¬ Unchanged V w (w.acquireBoost B maxLevel gameId pid time level).2 := by
  obtain ⟨allowed, hlevel, found, restarted, released, refused⟩ := h
  obtain ⟨w₁, hrel, hs, hl⟩ := releaseBoost_ended found released
  subst hs
  obtain ⟨e, w₂, hfresh, hkeep⟩ := acquireFresh_refused V gameId level refused
  rw [acquireBoost_moved allowed hlevel found restarted hrel, hfresh]
  refine ⟨e, rfl, fun hun => ?_⟩
  exact leases_ne_of_released found hl (hkeep.leases.symm.trans hun.leases)

theorem unchanged_of_stuck (hw : Held w) (hf : w.leases.find? gameId = some state) {e : Error}
    (hrel : w.releaseBoost B gameId state.pid = (.error e, w')) : Unchanged V w w' := by
  cases hend : leaseEnd B w.backend state with
  | none =>
    have hc : 1 ≤ state.count := hw _ (SortedMap.find?_eq_some.mp hf)
    obtain ⟨e', w₁, hrefused, hkeep⟩ := releaseBoost_refused V hf hc hend
    cases hrefused.symm.trans hrel
    exact hkeep
  | some s =>
    obtain ⟨w₁, hreleased, _, _⟩ := releaseBoost_ended hf hend
    cases hreleased.symm.trans hrel

include V in
theorem leaseEnd_of_released (hw : Held w) (hf : w.leases.find? gameId = some state)
    (hrel : w.releaseBoost B gameId state.pid = (.ok (), w')) :
    leaseEnd B w.backend state = some w'.backend := by
  cases hend : leaseEnd B w.backend state with
  | none =>
    have hc : 1 ≤ state.count := hw _ (SortedMap.find?_eq_some.mp hf)
    obtain ⟨e, w₁, hrefused, _⟩ := releaseBoost_refused V hf hc hend
    cases hrefused.symm.trans hrel
  | some s =>
    obtain ⟨w₁, hreleased, hs, _⟩ := releaseBoost_ended hf hend
    cases hreleased.symm.trans hrel
    rw [hs]

/-- Outside `HalfDone` the acquire succeeds or leaves everything as it was. -/
theorem acquireBoost_unchanged (hw : Held w) (h : ¬ HalfDone B maxLevel w gameId pid time level) :
    (w.acquireBoost B maxLevel gameId pid time level).1 = .ok () ∨
      Unchanged V w (w.acquireBoost B maxLevel gameId pid time level).2 := by
  have hend := acquireBoost_end B maxLevel w gameId pid time level
  generalize w.acquireBoost B maxLevel gameId pid time level = out at hend ⊢
  cases hend with
  | refused _ => exact .inr ⟨rfl, rfl⟩
  | @fresh target _ _ hf =>
    by_cases hadm : Admits B w.backend pid time target
    · obtain ⟨w', hr⟩ := acquireFresh_admitted gameId level hadm
      rw [hr]
      exact .inl rfl
    · obtain ⟨e, w', hr, hkeep⟩ := acquireFresh_refused V gameId level hadm
      rw [hr]
      exact .inr hkeep
  | again _ _ _ _ => exact .inl rfl
  | stuck _ _ hf _ hrel => exact .inr (unchanged_of_stuck V hw hf hrel)
  | @moved target _ w' hallowed hlevel hf hpid hrel =>
    by_cases hadm : Admits B w'.backend pid time target
    · obtain ⟨w₂, hr⟩ := acquireFresh_admitted gameId level hadm
      rw [hr]
      exact .inl rfl
    · exact absurd (.intro hallowed hlevel hf hpid (leaseEnd_of_released V hw hf hrel) hadm) h

/-- A failing acquire leaves the leases and the classes as they were exactly if it does not get as far
as releasing the old lease of a restarted game. -/
theorem acquire_failed_unchanged_iff (V : ClassView B) (w : Booster σ) (hw : Reachable B maxLevel w)
    (gameId : String) (pid : UInt32) (time : UInt64) (level : PriorityLevel) :
    (∀ e, (w.acquireBoost B maxLevel gameId pid time level).1 = .error e →
      Unchanged V w (w.acquireBoost B maxLevel gameId pid time level).2) ↔
    ¬ HalfDone B maxLevel w gameId pid time level := by
  constructor
  · intro h hhalf
    obtain ⟨e, he, hchanged⟩ := acquireBoost_halfDone V hhalf
    exact hchanged (h e he)
  · intro h e he
    rcases acquireBoost_unchanged V hw.held h with hok | hkeep
    · rw [hok] at he
      cases he
    · exact hkeep

end Acquire

/-! ## A restart that is refused -/

def processTableView : ClassView processTable where
  classOf s := s.classes
  open_keeps := by
    intro pid s
    simp only [processTable]
    split <;> rfl
  time_keeps _ _ := rfl
  class_keeps _ _ := rfl
  close_keeps _ _ := rfl
  set_error := by
    intro h cls s e herr
    simp only [processTable] at herr ⊢
    split at herr
    · rfl
    · cases herr

/-- The game "shooter" is boosted as process 7. -/
def boostedShooter : Booster ProcessTable :=
  Booster.call processTable .high { backend := normalProcesses } (.acquire "shooter" 7 0 .high)

theorem boostedShooter_reachable : Reachable processTable .high boostedShooter :=
  .called _ (.created _)

/-- It restarts as process 8 with another creation time than the caller saw: the acquire is refused,
and process 7 has lost its lease and its boost. -/
theorem refused_restart_drops_lease :
    Reachable processTable .high boostedShooter ∧
      (∃ e, (boostedShooter.acquireBoost processTable .high "shooter" 8 2 .high).1 = .error e) ∧
      ¬ Unchanged processTableView boostedShooter
        (boostedShooter.acquireBoost processTable .high "shooter" 8 2 .high).2 := by
  refine ⟨boostedShooter_reachable, ⟨_, rfl⟩, fun h => ?_⟩
  exact absurd (congrFun h.classOf 7) (by decide +kernel)

/-- A game without a lease is refused for the same reason, and the lease of the other one stays. -/
theorem refused_first_acquire_unchanged :
    (∃ e, (boostedShooter.acquireBoost processTable .high "strategy" 8 2 .high).1 = .error e) ∧
      Unchanged processTableView boostedShooter
        (boostedShooter.acquireBoost processTable .high "strategy" 8 2 .high).2 := by
  refine ⟨⟨_, rfl⟩, ?_⟩
  refine (acquire_failed_unchanged_iff processTableView boostedShooter boostedShooter_reachable
    "strategy" 8 2 .high).mpr ?_ _ rfl
  rintro ⟨_, _, found, _, _, _⟩
  have hnone : boostedShooter.leases.find? "strategy" = none := by decide +kernel
  rw [hnone] at found
  cases found

end Priority
end CppOptimizer
