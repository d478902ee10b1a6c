import CppOptimizer.Priority.Booster

/-!
# CppOptimizer.Priority.Handles

Who owns the process handles of a booster.

* `FreshHandles B`   — the backend never hands out `0` or a handle it handed out before.
* `HandlesTracked w` — the handles opened and not closed are those in the lease table, each stored
  once, and no handle was closed twice.
* `DropsHandle`      — the one step that breaks it: a restarted game whose old lease is counted more
  than once is acquired under its new pid, and the acquire succeeds.

`ReleaseBoost` only lowers the count of such a lease, and the `insert_or_assign` at the end of
`AcquireBoost` then overwrites it together with its open handle.
-/

namespace CppOptimizer
namespace Priority

open Common Config Lib

variable {σ : Type} {B : PriorityBackend σ}

/-- Handles are fresh: `used s` holds the handles handed out up to the backend state `s`. -/
structure FreshHandles (B : PriorityBackend σ) where
  used : σ → UInt64 → Prop
  open_fresh : ∀ {pid s h s'}, B.openProcess pid s = (.ok h, s') → h ≠ 0 ∧ ¬ used s h ∧ used s' h
  open_used : ∀ {pid s h}, used s h → used (B.openProcess pid s).2 h
  time_used : ∀ {handle s h}, used s h → used (B.queryCreationTime handle s).2 h
  class_used : ∀ {handle s h}, used s h → used (B.queryPriorityClass handle s).2 h
  set_used : ∀ {handle cls s h}, used s h → used (B.setPriorityClass handle cls s).2 h
  close_used : ∀ {handle s h}, used s h → used (B.closeProcess handle s) h

/-- The handles stored in the lease table, in key order. -/
def Booster.handles (w : Booster σ) : List UInt64 := w.leases.entries.map (·.2.handle)

structure HandlesTracked (w : Booster σ) : Prop where
  live : ∀ h, (h ∈ w.opened ∧ h ∉ w.closed) ↔ h ∈ w.handles
  once : w.handles.Nodup
  closedOnce : w.closed.Nodup

/-- The backend lets process `pid` be boosted to `target`: it opens, its identity checks, its class
can be read and set. -/
def Admits (B : PriorityBackend σ) (s : σ) (pid : UInt32) (expectedCreationTime100ns : UInt64)
    (target : UInt32) : Prop :=
  match B.openProcess pid s with
  | (.error _, _) => False
  | (.ok handle, s) =>
    let actualCreationTime := B.queryCreationTime handle s
    let originalClass := B.queryPriorityClass handle actualCreationTime.2
    ¬ (expectedCreationTime100ns ≠ 0 ∧
        (actualCreationTime.1 = 0 ∨ actualCreationTime.1 ≠ expectedCreationTime100ns)) ∧
      originalClass.1 ≠ 0 ∧ (B.setPriorityClass handle target originalClass.2).1 = .ok ()

/-- An acquire under a new pid that succeeds while the old lease is counted more than once. -/
inductive DropsHandle (B : PriorityBackend σ) (maxLevel : PriorityLevel) (w : Booster σ) :
    Call → Prop where
  | acquire {gameId pid time level state target} (found : w.leases.find? gameId = some state)
      (restarted : state.pid ≠ pid) (shared : 1 < state.count)
      (allowed : levelExceeds level maxLevel = false)
      (hlevel : priorityLevelToWin32Class level = .ok target)
      (admits : Admits B w.backend pid time target) :
      DropsHandle B maxLevel w (.acquire gameId pid time level)

/-! ## The invariant -/

structure Inv (F : FreshHandles B) (w : Booster σ) : Prop where
  tracked : HandlesTracked w
  used : ∀ h ∈ w.opened, F.used w.backend h
  nonzero : 0 ∉ w.opened
  closedOpened : ∀ h ∈ w.closed, h ∈ w.opened

/-- The backend moved on and remembers every handle it handed out. -/
def FreshHandles.Le (F : FreshHandles B) (s s' : σ) : Prop := ∀ h, F.used s h → F.used s' h

theorem nodup_handles_iff {w : Booster σ} :
    w.handles.Nodup ↔
      ∀ p ∈ w.leases.entries, ∀ q ∈ w.leases.entries, p.2.handle = q.2.handle → p = q :=
  List.nodup_map_iff_inj_on w.leases.nodup_entries

theorem mem_handles {w : Booster σ} {h : UInt64} :
    h ∈ w.handles ↔ ∃ p ∈ w.leases.entries, p.2.handle = h := by
  simp [Booster.handles]

theorem handle_mem {w : Booster σ} {gameId : String} {state : LeaseState}
    (hf : w.leases.find? gameId = some state) : state.handle ∈ w.handles :=
  mem_handles.mpr ⟨_, SortedMap.find?_eq_some.mp hf, rfl⟩

namespace Inv

variable {F : FreshHandles B} {w : Booster σ} {gameId : String} {state state' : LeaseState} {s' : σ}

theorem init (F : FreshHandles B) (s : σ) : Inv F { backend := s } where
  tracked := ⟨by simp [Booster.handles, SortedMap.empty], by simp [Booster.handles, SortedMap.empty],
    by simp⟩
  used := by simp
  nonzero := by simp
  closedOpened := by simp

theorem touch (hI : Inv F w) (hle : F.Le w.backend s') : Inv F { w with backend := s' } where
  tracked := ⟨hI.tracked.live, hI.tracked.once, hI.tracked.closedOnce⟩
  used h hh := hle h (hI.used h hh)
  nonzero := hI.nonzero
  closedOpened := hI.closedOpened

/-- A lease is rewritten under its own handle. -/
theorem rewrite (hI : Inv F w) (hf : w.leases.find? gameId = some state)
    (hh : state'.handle = state.handle) :
    Inv F { w with leases := w.leases.insert gameId state' } := by
  have hmem := SortedMap.find?_eq_some.mp hf
  have honce := nodup_handles_iff.mp hI.tracked.once
  refine ⟨⟨?_, ?_, hI.tracked.closedOnce⟩, hI.used, hI.nonzero, hI.closedOpened⟩
  · intro h
    rw [hI.tracked.live h, mem_handles, mem_handles]
    constructor
    · rintro ⟨p, hp, rfl⟩
      by_cases hk : p.1 = gameId
      · have := SortedMap.entries_inj hp hmem hk
        exact ⟨(gameId, state'), SortedMap.mem_insert.mpr (.inl rfl), by rw [this]; exact hh⟩
      · exact ⟨p, SortedMap.mem_insert.mpr (.inr ⟨hp, hk⟩), rfl⟩
    · rintro ⟨p, hp, rfl⟩
      rcases SortedMap.mem_insert.mp hp with rfl | ⟨hp, _⟩
      · exact ⟨(gameId, state), hmem, hh.symm⟩
      · exact ⟨p, hp, rfl⟩
  · rw [nodup_handles_iff]
    intro p hp q hq hpq
    rcases SortedMap.mem_insert.mp hp with rfl | ⟨hp, hpk⟩ <;>
      rcases SortedMap.mem_insert.mp hq with rfl | ⟨hq, hqk⟩
    · rfl
    · have := honce (gameId, state) hmem q hq (hh.symm.trans hpq)
      exact absurd (congrArg Prod.fst this).symm hqk
    · have := honce p hp (gameId, state) hmem (hpq.trans hh)
      exact absurd (congrArg Prod.fst this) hpk
    · exact honce p hp q hq hpq

/-- A lease is dropped and its handle closed. -/
theorem drop (hI : Inv F w) (hf : w.leases.find? gameId = some state) :
    Inv F { w with leases := w.leases.erase gameId, closed := state.handle :: w.closed } := by
  have hmem := SortedMap.find?_eq_some.mp hf
  have honce := nodup_handles_iff.mp hI.tracked.once
  obtain ⟨hopen, hlive⟩ := (hI.tracked.live _).mpr (handle_mem hf)
  refine ⟨⟨?_, ?_, List.nodup_cons.mpr ⟨hlive, hI.tracked.closedOnce⟩⟩, hI.used, hI.nonzero, ?_⟩
  · intro h
    rw [List.mem_cons, not_or, mem_handles]
    constructor
    · rintro ⟨ho, hne, hc⟩
      obtain ⟨p, hp, rfl⟩ := mem_handles.mp ((hI.tracked.live h).mp ⟨ho, hc⟩)
      refine ⟨p, SortedMap.mem_erase.mpr ⟨hp, ?_⟩, rfl⟩
      intro hk
      exact hne (by rw [SortedMap.entries_inj hp hmem hk])
    · rintro ⟨p, hp, rfl⟩
      obtain ⟨hp, hk⟩ := SortedMap.mem_erase.mp hp
      obtain ⟨ho, hc⟩ := (hI.tracked.live p.2.handle).mpr (mem_handles.mpr ⟨p, hp, rfl⟩)
      refine ⟨ho, ?_, hc⟩
      intro heq
      exact hk (congrArg Prod.fst (honce p hp (gameId, state) hmem heq))
  · rw [nodup_handles_iff]
    intro p hp q hq hpq
    exact honce p (SortedMap.mem_erase.mp hp).1 q (SortedMap.mem_erase.mp hq).1 hpq
  · intro h hh
    rcases List.mem_cons.mp hh with rfl | hh
    · exact hopen
    · exact hI.closedOpened h hh

/-- A handle never handed out before occurs nowhere in the booster. -/
theorem not_opened (hI : Inv F w) {h : UInt64} (hfresh : ¬ F.used w.backend h) : h ∉ w.opened :=
  fun hh => hfresh (hI.used h hh)

theorem used_cons (hI : Inv F w) {h : UInt64} (hle : F.Le w.backend s') (hh : F.used s' h) :
    ∀ h' ∈ h :: w.opened, F.used s' h' := by
  intro h' hh'
  rcases List.mem_cons.mp hh' with rfl | hh'
  · exact hh
  · exact hle h' (hI.used h' hh')

/-- A fresh handle is opened and closed again. -/
theorem openClose (hI : Inv F w) {h : UInt64} (hne : h ≠ 0) (hfresh : ¬ F.used w.backend h)
    (hle : F.Le w.backend s') (hh : F.used s' h) :
    Inv F { w with backend := s', opened := h :: w.opened, closed := h :: w.closed } := by
  have hno := hI.not_opened hfresh
  have hnc : h ∉ w.closed := fun hc => hno (hI.closedOpened h hc)
  refine ⟨⟨?_, hI.tracked.once, List.nodup_cons.mpr ⟨hnc, hI.tracked.closedOnce⟩⟩,
    hI.used_cons hle hh, ?_, ?_⟩
  · intro h'
    rw [List.mem_cons, List.mem_cons, not_or]
    refine Iff.trans ?_ (hI.tracked.live h')
    constructor
    · rintro ⟨rfl | ho, hne', hc⟩
      · exact absurd rfl hne'
      · exact ⟨ho, hc⟩
    · rintro ⟨ho, hc⟩
      exact ⟨.inr ho, fun heq => hno (heq ▸ ho), hc⟩
  · intro h0
    rcases List.mem_cons.mp h0 with h0 | h0
    · exact hne h0.symm
    · exact hI.nonzero h0
  · intro h' hh'
    rcases List.mem_cons.mp hh' with rfl | hh'
    · exact List.mem_cons_self
    · exact List.mem_cons_of_mem h (hI.closedOpened h' hh')

/-- A fresh handle is opened and stored under a game that has no lease. -/
theorem openInsert (hI : Inv F w) {h : UInt64} (hne : h ≠ 0) (hfresh : ¬ F.used w.backend h)
    (hle : F.Le w.backend s') (hh : F.used s' h) (hf : w.leases.find? gameId = none)
    (hst : state.handle = h) :
    Inv F { w with backend := s', opened := h :: w.opened,
                   leases := w.leases.insert gameId state } := by
  subst hst
  have hno := hI.not_opened hfresh
  have hnone := SortedMap.find?_eq_none.mp hf
  have hnew : ∀ p ∈ w.leases.entries, p.2.handle ≠ state.handle := by
    intro p hp heq
    have := (hI.tracked.live p.2.handle).mpr (mem_handles.mpr ⟨p, hp, rfl⟩)
    exact hno (heq ▸ this.1)
  have honce := nodup_handles_iff.mp hI.tracked.once
  refine ⟨⟨?_, ?_, hI.tracked.closedOnce⟩, hI.used_cons hle hh, ?_, ?_⟩
  · intro h'
    rw [List.mem_cons, mem_handles]
    constructor
    · rintro ⟨rfl | ho, hc⟩
      · exact ⟨(gameId, state), SortedMap.mem_insert.mpr (.inl rfl), rfl⟩
      · obtain ⟨p, hp, rfl⟩ := mem_handles.mp ((hI.tracked.live h').mp ⟨ho, hc⟩)
        exact ⟨p, SortedMap.mem_insert.mpr (.inr ⟨hp, hnone p hp⟩), rfl⟩
    · rintro ⟨p, hp, rfl⟩
      rcases SortedMap.mem_insert.mp hp with rfl | ⟨hp, _⟩
      · exact ⟨.inl rfl, fun hc => hno (hI.closedOpened _ hc)⟩
      · obtain ⟨ho, hc⟩ := (hI.tracked.live p.2.handle).mpr (mem_handles.mpr ⟨p, hp, rfl⟩)
        exact ⟨.inr ho, hc⟩
  · rw [nodup_handles_iff]
    intro p hp q hq hpq
    rcases SortedMap.mem_insert.mp hp with rfl | ⟨hp, _⟩ <;>
      rcases SortedMap.mem_insert.mp hq with rfl | ⟨hq, _⟩
    · rfl
    · exact absurd hpq.symm (hnew q hq)
    · exact absurd hpq (hnew p hp)
    · exact honce p hp q hq hpq
  · intro h0
    rcases List.mem_cons.mp h0 with h0 | h0
    · exact hne h0.symm
    · exact hI.nonzero h0
  · intro h' hh'
    exact List.mem_cons_of_mem _ (hI.closedOpened h' hh')

end Inv

/-! ## What one operation does to the handles -/

section Operations

variable (F : FreshHandles B) {w : Booster σ} {gameId : String} {pid : UInt32} {state : LeaseState}

theorem restoreLastLease_cases {r : Result Unit × LeaseState × Booster σ}
    (h : w.restoreLastLease B state = r) :
    ∃ s', F.Le w.backend s' ∧
      (r = (.ok (), { state with handle := 0, count := 0 },
          { w with backend := s', closed := state.handle :: w.closed }) ∨
        ∃ e, r = (.error e, { state with count := 1 }, { w with backend := s' })) := by
  simp only [Booster.restoreLastLease] at h
  split at h
  · exact ⟨_, fun _ hu => F.close_used (F.time_used hu), .inl h.symm⟩
  · split at h
    · exact ⟨_, fun _ hu => F.close_used (F.class_used (F.time_used hu)), .inl h.symm⟩
    · split at h
      · exact ⟨_, fun _ hu => F.close_used (F.class_used (F.time_used hu)), .inl h.symm⟩
      · split at h
        · exact ⟨_, fun _ hu => F.set_used (F.class_used (F.time_used hu)), .inr ⟨_, h.symm⟩⟩
        · exact ⟨_, fun _ hu => F.close_used (F.set_used (F.class_used (F.time_used hu))),
            .inl h.symm⟩

/-- A release leaves the handles alone, or closes the handle of the lease it erases. -/
theorem releaseBoost_cases {r : Result Unit × Booster σ} (h : w.releaseBoost B gameId pid = r) :
    ∃ s', F.Le w.backend s' ∧
      ((r.2 = { w with backend := s' } ∧ (r.1 = .ok () → w.leases.find? gameId = none)) ∨
        (∃ state state', w.leases.find? gameId = some state ∧ state'.handle = state.handle ∧
          (r.1 = .ok () → 1 < state.count) ∧
          r.2 = { w with backend := s', leases := w.leases.insert gameId state' }) ∨
        ∃ state, w.leases.find? gameId = some state ∧ state.count ≤ 1 ∧
          r.2 = { w with backend := s', leases := w.leases.erase gameId,
                         closed := state.handle :: w.closed }) := by
  subst h
  simp only [Booster.releaseBoost]
  cases hf : w.leases.find? gameId with
  | none => exact ⟨w.backend, fun _ hu => hu, .inl ⟨rfl, fun _ => rfl⟩⟩
  | some state =>
    dsimp only
    split
    · exact ⟨w.backend, fun _ hu => hu, .inl ⟨rfl, fun h => by simp at h⟩⟩
    · split
      · rename_i hc
        exact ⟨w.backend, fun _ hu => hu, .inr (.inl ⟨state, { state with count := state.count - 1 },
          rfl, rfl, fun _ => hc, rfl⟩)⟩
      · rename_i hc
        obtain ⟨s', hle, hr | ⟨e, hr⟩⟩ := restoreLastLease_cases F (rfl : w.restoreLastLease B state = _)
        · rw [hr]
          exact ⟨s', hle, .inr (.inr ⟨state, rfl, by omega, rfl⟩)⟩
        · rw [hr]
          exact ⟨s', hle, .inr (.inl ⟨state, { state with count := 1 }, rfl, rfl,
            fun h => by simp at h, rfl⟩)⟩

/-- Releasing a shared lease lowers its count and asks nothing of the backend. -/
theorem releaseBoost_shared (hf : w.leases.find? gameId = some state) (hc : 1 < state.count) :
    w.releaseBoost B gameId state.pid =
      (.ok (), { w with
        leases := w.leases.insert gameId { state with count := state.count - 1 } }) := by
  simp [Booster.releaseBoost, hf, hc]

theorem releaseBoost_inv (hI : Inv F w) : Inv F (w.releaseBoost B gameId pid).2 := by
  obtain ⟨s', hle, ⟨hr, _⟩ | ⟨state, state', hf, hh, _, hr⟩ | ⟨state, hf, _, hr⟩⟩ :=
    releaseBoost_cases F (rfl : w.releaseBoost B gameId pid = _)
  · rw [hr]
    exact hI.touch hle
  · rw [hr]
    exact (hI.touch hle).rewrite hf hh
  · rw [hr]
    exact (hI.touch hle).drop hf

/-- A fresh acquisition stores the handle it opened when the backend admits it, and otherwise
closes what it opened. -/
theorem acquireFresh_cases {time : UInt64} {level : PriorityLevel} {target : UInt32}
    {r : Result Unit × Booster σ} (h : w.acquireFresh B gameId pid time level target = r) :
    ∃ s', F.Le w.backend s' ∧
      ((¬ Admits B w.backend pid time target ∧ r.2 = { w with backend := s' }) ∨
        ∃ handle, handle ≠ 0 ∧ ¬ F.used w.backend handle ∧ F.used s' handle ∧
          ((¬ Admits B w.backend pid time target ∧
              r.2 = { w with backend := s', opened := handle :: w.opened,
                             closed := handle :: w.closed }) ∨
            (Admits B w.backend pid time target ∧
              ∃ state : LeaseState, state.handle = handle ∧
                r.2 = { w with backend := s', opened := handle :: w.opened,
                               leases := w.leases.insert gameId state }))) := by
  subst h
  simp only [Booster.acquireFresh, Booster.openProcess, Admits]
  have hkeep : F.Le w.backend (B.openProcess pid w.backend).2 := fun _ hu => F.open_used hu
  rcases ho : B.openProcess pid w.backend with ⟨_ | handle, s₁⟩
  · rw [ho] at hkeep
    exact ⟨s₁, hkeep, .inl ⟨id, rfl⟩⟩
  · rw [ho] at hkeep
    obtain ⟨hne, hfresh, hused⟩ := F.open_fresh ho
    dsimp only
    split
    · rename_i hid
      exact ⟨_, fun _ hu => F.close_used (F.time_used (hkeep _ hu)), .inr ⟨handle, hne, hfresh,
        F.close_used (F.time_used hused), .inl ⟨fun h => h.1 hid, rfl⟩⟩⟩
    · rename_i hid
      split
      · rename_i hcls
        exact ⟨_, fun _ hu => F.close_used (F.class_used (F.time_used (hkeep _ hu))),
          .inr ⟨handle, hne, hfresh, F.close_used (F.class_used (F.time_used hused)),
            .inl ⟨fun h => h.2.1 hcls, rfl⟩⟩⟩
      · rename_i hcls
        split
        · rename_i e hset
          exact ⟨_, fun _ hu => F.close_used (F.set_used (F.class_used (F.time_used (hkeep _ hu)))),
            .inr ⟨handle, hne, hfresh, F.close_used (F.set_used (F.class_used (F.time_used hused))),
              .inl ⟨fun h => (nomatch hset.symm.trans h.2.2), rfl⟩⟩⟩
        · rename_i hset
          exact ⟨_, fun _ hu => F.set_used (F.class_used (F.time_used (hkeep _ hu))),
            .inr ⟨handle, hne, hfresh, F.set_used (F.class_used (F.time_used hused)),
              .inr ⟨⟨hid, hcls, hset⟩, _, rfl, rfl⟩⟩⟩

theorem acquireFresh_inv {time : UInt64} {level : PriorityLevel} {target : UInt32} (hI : Inv F w)
    (hnone : Admits B w.backend pid time target → w.leases.find? gameId = none) :
    Inv F (w.acquireFresh B gameId pid time level target).2 := by
  obtain ⟨s', hle, ⟨_, hr⟩ | ⟨handle, hne, hfresh, hused, ⟨_, hr⟩ | ⟨hadm, state, hst, hr⟩⟩⟩ :=
    acquireFresh_cases F (rfl : w.acquireFresh B gameId pid time level target = _)
  · rw [hr]
    exact hI.touch hle
  · rw [hr]
    exact hI.openClose hne hfresh hle hused
  · rw [hr]
    exact hI.openInsert hne hfresh hle hused (hnone hadm) hst

theorem find?_erase_self : (w.leases.erase gameId).find? gameId = none :=
  SortedMap.find?_eq_none.mpr fun _ hq => (SortedMap.mem_erase.mp hq).2

theorem acquireBoost_inv {maxLevel : PriorityLevel} {time : UInt64} {level : PriorityLevel}
    (hI : Inv F w) (hok : ¬ DropsHandle B maxLevel w (.acquire gameId pid time level)) :
    Inv F (w.acquireBoost B maxLevel gameId pid time level).2 := by
  have hend := acquireBoost_end B maxLevel w gameId pid time level
  generalize w.acquireBoost B maxLevel gameId pid time level = out at hend ⊢
  cases hend with
  | refused _ => exact hI
  | fresh _ _ hf => exact acquireFresh_inv F hI fun _ => hf
  | again _ _ hf _ => exact hI.rewrite hf rfl
  | @stuck _ state _ _ _ _ _ _ hrel =>
    have hI' : Inv F (w.releaseBoost B gameId state.pid).2 := releaseBoost_inv F hI
    rw [hrel] at hI'
    exact hI'
  | @moved target state w' hallowed hlevel hf hpid hrel =>
    by_cases hshared : 1 < state.count
    · cases (releaseBoost_shared hf hshared).symm.trans hrel
      refine acquireFresh_inv F (hI.rewrite hf rfl) fun hadm => ?_
      exact absurd (.acquire hf hpid hshared hallowed hlevel hadm) hok
    · have hI' : Inv F (w.releaseBoost B gameId state.pid).2 := releaseBoost_inv F hI
      rw [hrel] at hI'
      obtain ⟨s', hle, ⟨_, hnone⟩ | ⟨st, st', hst, _, hcount, _⟩ | ⟨st, _, _, hr⟩⟩ :=
        releaseBoost_cases F hrel
      · rw [hf] at hnone
        exact absurd (hnone rfl) (by simp)
      · rw [hf] at hst
        cases hst
        exact absurd (hcount rfl) hshared
      · subst hr
        exact acquireFresh_inv F hI' fun _ => find?_erase_self

/-- A shared lease overwritten by a successful acquire: its handle is open and stored nowhere. -/
theorem dropsHandle_untracked {maxLevel : PriorityLevel} {c : Call} (hI : Inv F w)
    (h : DropsHandle B maxLevel w c) : ¬ HandlesTracked (w.call B maxLevel c) := by
  obtain ⟨hf, hpid, hshared, hallowed, hlevel, hadm⟩ := h
  rename_i gameId pid time level state target
  rw [Booster.call, acquireBoost_moved hallowed hlevel hf hpid (releaseBoost_shared hf hshared)]
  let lowered : LeaseState := { state with count := state.count - 1 }
  obtain ⟨hopen, hlive⟩ := (hI.tracked.live _).mpr (handle_mem hf)
  intro hT
  have hI' : Inv F { w with leases := w.leases.insert gameId lowered } := hI.rewrite hf rfl
  obtain ⟨s', hle, ⟨hno, _⟩ | ⟨handle, hne, hfresh, hused, ⟨hno, _⟩ | ⟨_, new, hnew, hr⟩⟩⟩ :=
    acquireFresh_cases F (rfl : Booster.acquireFresh B
      { w with leases := w.leases.insert gameId lowered } gameId pid time level target = _)
  · exact hno hadm
  · exact hno hadm
  · rw [hr] at hT
    -- the old handle counts as live, so some lease must store it
    obtain ⟨p, hp, heq⟩ := mem_handles.mp ((hT.live state.handle).mp
      ⟨List.mem_cons_of_mem handle hopen, hlive⟩)
    rcases SortedMap.mem_insert.mp hp with rfl | ⟨hp, hk⟩
    · exact hI.not_opened hfresh (by rw [← hnew, heq]; exact hopen)
    · have := nodup_handles_iff.mp hI'.tracked.once p hp (gameId, lowered)
        (SortedMap.mem_insert.mpr (.inl rfl)) heq
      exact hk (congrArg Prod.fst this)

theorem forceCleanLease_eq (hne : state.handle ≠ 0) :
    ∃ s', F.Le w.backend s' ∧
      w.forceCleanLease B state =
        { w with backend := s', closed := state.handle :: w.closed } := by
  simp only [Booster.forceCleanLease, if_neg hne]
  split
  · exact ⟨_, fun _ hu => F.close_used (F.set_used (F.class_used hu)), rfl⟩
  · exact ⟨_, fun _ hu => F.close_used (F.class_used hu), rfl⟩

/-- The walk of `ReleaseAll` closes the handle of every lease it visits, in key order. -/
theorem foldl_forceCleanLease (es : List (String × LeaseState)) (hne : ∀ p ∈ es, p.2.handle ≠ 0) :
    ∃ s', F.Le w.backend s' ∧
      es.foldl (fun w entry => w.forceCleanLease B entry.2) w =
        { w with backend := s', closed := (es.map (·.2.handle)).reverse ++ w.closed } := by
  induction es generalizing w with
  | nil => exact ⟨w.backend, fun _ hu => hu, rfl⟩
  | cons p es ih =>
    obtain ⟨s₁, hle₁, h₁⟩ := forceCleanLease_eq F (w := w) (hne p List.mem_cons_self)
    obtain ⟨s₂, hle₂, h₂⟩ := ih (w := { w with backend := s₁, closed := p.2.handle :: w.closed })
      fun q hq => hne q (List.mem_cons_of_mem p hq)
    refine ⟨s₂, fun h hu => hle₂ h (hle₁ h hu), ?_⟩
    rw [List.foldl_cons, h₁, h₂]
    simp

theorem releaseAll_inv (hI : Inv F w) : Inv F (w.releaseAll B) := by
  have hlive : ∀ h ∈ w.handles, h ∈ w.opened ∧ h ∉ w.closed := fun h hh => (hI.tracked.live h).mpr hh
  obtain ⟨s', hle, hr⟩ := foldl_forceCleanLease F (w := w) w.leases.entries (by
    intro p hp h0
    exact hI.nonzero (h0 ▸ (hlive _ (mem_handles.mpr ⟨p, hp, rfl⟩)).1))
  simp only [Booster.releaseAll, hr]
  refine ⟨⟨?_, by simp [Booster.handles, SortedMap.empty], ?_⟩, fun h hh => hle h (hI.used h hh),
    hI.nonzero, ?_⟩
  · intro h
    simp only [List.mem_append, List.mem_reverse, not_or, Booster.handles, SortedMap.empty,
      List.map_nil, List.not_mem_nil, iff_false, not_and, not_not]
    intro ho hh
    by_contra hc
    exact hh ((hI.tracked.live h).mp ⟨ho, hc⟩)
  · rw [List.nodup_append]
    refine ⟨List.nodup_reverse.mpr hI.tracked.once, hI.tracked.closedOnce, ?_⟩
    rintro h hh h' hh' rfl
    exact (hlive h (List.mem_reverse.mp hh)).2 hh'
  · intro h hh
    rcases List.mem_append.mp hh with hh | hh
    · exact (hlive h (List.mem_reverse.mp hh)).1
    · exact hI.closedOpened h hh

/-- One call keeps the invariant unless it drops a handle. -/
theorem call_inv {maxLevel : PriorityLevel} {c : Call} (hI : Inv F w)
    (hok : ¬ DropsHandle B maxLevel w c) : Inv F (w.call B maxLevel c) := by
  cases c with
  | acquire gameId pid time level => exact acquireBoost_inv F hI hok
  | release gameId pid => exact releaseBoost_inv F hI
  | releaseAll => exact releaseAll_inv F hI

end Operations

/-! ## Whole runs -/

/-- Along a run of calls on a new booster the handles stay tracked exactly when no call drops one:
an acquire under a new pid that succeeds while the game's old lease is counted more than once. -/
theorem handles_tracked_iff (F : FreshHandles B) (maxLevel : PriorityLevel) (s : σ)
    (calls : List Call) :
    Always (Booster.call B maxLevel) HandlesTracked { backend := s } calls ↔
      Steps (Booster.call B maxLevel) (fun w c => ¬ DropsHandle B maxLevel w c) { backend := s }
        calls :=
  always_iff_steps (I := Inv F) (fun _ _ hI hok => call_inv F hI hok) (fun _ hI => hI.tracked)
    (fun _ _ hI hn => dropsHandle_untracked F hI (not_not.mp hn)) (Inv.init F s)

/-- A backend over a table of processes: handle `i + 1` belongs to entry `i`, which holds its class.
Every process starts at the normal class `0x20`. -/
def tableBackend : PriorityBackend (List UInt32) where
  openProcess _ s :=
    if s.length + 1 < 2 ^ 64 then (.ok (UInt64.ofNat (s.length + 1)), s ++ [0x20])
    else (.error (.fromWin32 1450 "OpenProcess"), s)
  queryCreationTime _ s := (1, s)
  queryPriorityClass handle s := (s.getD (handle.toNat - 1) 0, s)
  setPriorityClass handle cls s := (.ok (), s.set (handle.toNat - 1) cls)
  closeProcess _ s := s

def tableBackendFresh : FreshHandles tableBackend where
  used s h := 0 < h.toNat ∧ h.toNat ≤ s.length
  open_fresh := by
    intro pid s h s' hopen
    simp only [tableBackend] at hopen
    split at hopen
    · rename_i hlt
      obtain ⟨hh, rfl⟩ := Prod.mk.inj hopen
      have hn : h.toNat = s.length + 1 := by
        rw [← Except.ok.inj hh]
        exact UInt64.toNat_ofNat_of_lt' hlt
      refine ⟨?_, ?_, ?_⟩
      · rintro rfl
        simp at hn
      · omega
      · simp [hn]
    · cases (Prod.mk.inj hopen).1
  open_used := by
    intro pid s h hu
    simp only [tableBackend]
    split
    · rw [List.length_append]
      omega
    · exact hu
  time_used hu := hu
  class_used hu := hu
  set_used hu := by simpa [tableBackend] using hu
  close_used hu := hu

/-- Two leases of one process, then the game restarts under pid 2. -/
def restartCalls : List Call :=
  [.acquire "game" 1 0 .aboveNormal, .acquire "game" 1 0 .aboveNormal,
    .acquire "game" 2 0 .aboveNormal]

theorem restart_drops_handle :
    ¬ Always (Booster.call tableBackend .aboveNormal) HandlesTracked { backend := [] }
      restartCalls := by
  intro h
  exact absurd ((h.last.live 1).mp (by decide)) (by decide)

/-- With one lease per process the same restart closes the old handle. -/
theorem single_restart_tracked :
    Always (Booster.call tableBackend .aboveNormal) HandlesTracked { backend := [] }
      [.acquire "game" 1 0 .aboveNormal, .acquire "game" 2 0 .aboveNormal, .release "game" 2] := by
  refine (handles_tracked_iff tableBackendFresh .aboveNormal [] _).mpr ⟨?_, ?_, ?_, trivial⟩
  · rintro ⟨hf, _, _, _, _, _⟩
    cases hf
  · rintro ⟨hf, _, hshared, _, _, _⟩
    cases hf
    exact absurd hshared (by decide)
  · rintro ⟨⟩

end Priority
end CppOptimizer
