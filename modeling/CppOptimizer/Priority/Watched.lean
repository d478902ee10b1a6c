import Mathlib.Logic.Function.Basic
import CppOptimizer.Priority.Handles

/-!
# CppOptimizer.Priority.Watched

The processes whose class a booster sets.

* `OpenHandles B` — which process each open handle belongs to. Two handles that are open at the same
  time are different, as the system promises.
* `watched V`     — the backend with a list of the processes whose class was set, or tried to be.
* `Named V w`     — the handle of each lease is open on the process of the lease.
* `Within pid`    — a call sets only the class of process `pid` and leaves the leases of other
  processes alone.

A release is always within the process it names. An acquire is unless it first releases the lease of a
restarted game.
-/

namespace CppOptimizer
namespace Priority

open Common Config Lib

variable {σ : Type} {B : PriorityBackend σ}

structure OpenHandles (B : PriorityBackend σ) where
  pidOf : σ → UInt64 → Option UInt32
  open_ok : ∀ {pid s h s'}, B.openProcess pid s = (.ok h, s') →
    pidOf s h = none ∧ pidOf s' = Function.update (pidOf s) h (some pid)
  open_error : ∀ {pid s e s'}, B.openProcess pid s = (.error e, s') → pidOf s' = pidOf s
  time_keeps : ∀ h s, pidOf (B.queryCreationTime h s).2 = pidOf s
  class_keeps : ∀ h s, pidOf (B.queryPriorityClass h s).2 = pidOf s
  set_keeps : ∀ h cls s, pidOf (B.setPriorityClass h cls s).2 = pidOf s
  close_keeps : ∀ h s, pidOf (B.closeProcess h s) = Function.update (pidOf s) h none

structure Watched (σ : Type) where
  inner : σ
  sets : List (Option UInt32) := []

def watched (V : OpenHandles B) : PriorityBackend (Watched σ) where
  openProcess pid s :=
    let answer := B.openProcess pid s.inner
    (answer.1, { s with inner := answer.2 })
  queryCreationTime h s :=
    let answer := B.queryCreationTime h s.inner
    (answer.1, { s with inner := answer.2 })
  queryPriorityClass h s :=
    let answer := B.queryPriorityClass h s.inner
    (answer.1, { s with inner := answer.2 })
  setPriorityClass h cls s :=
    let answer := B.setPriorityClass h cls s.inner
    (answer.1, { inner := answer.2, sets := s.sets ++ [V.pidOf s.inner h] })
  closeProcess h s := { s with inner := B.closeProcess h s.inner }

/-- What was set in between belongs to process `pid`. -/
def SetsOnly (pid : UInt32) (s s' : Watched σ) : Prop :=
  ∃ new, s'.sets = s.sets ++ new ∧ ∀ p ∈ new, p = some pid

structure Within (pid : UInt32) (w w' : Booster (Watched σ)) : Prop where
  sets : SetsOnly pid w.backend w'.backend
  leases : ∀ gameId state, w.leases.find? gameId = some state → state.pid ≠ pid →
    w'.leases.find? gameId = some state

structure Named (V : OpenHandles B) (w : Booster (Watched σ)) : Prop where
  opened : ∀ entry ∈ w.leases.entries, V.pidOf w.backend.inner entry.2.handle = some entry.2.pid
  once : ∀ p ∈ w.leases.entries, ∀ q ∈ w.leases.entries, p.2.handle = q.2.handle → p = q

theorem SetsOnly.none {pid : UInt32} {s s' : Watched σ} (h : s'.sets = s.sets) :
    SetsOnly pid s s' :=
  ⟨[], h.trans (List.append_nil _).symm, fun _ hp => absurd hp List.not_mem_nil⟩

theorem SetsOnly.one {pid : UInt32} {s s' : Watched σ} (h : s'.sets = s.sets ++ [some pid]) :
    SetsOnly pid s s' :=
  ⟨[some pid], h, fun _ hp => List.mem_singleton.mp hp⟩

section

variable {V : OpenHandles B} {w w' : Booster (Watched σ)} {gameId : String} {pid : UInt32}
  {state state' : LeaseState}

/-- Only the lease of one game changes, and if there was one it was of this process. -/
theorem Within.of_game (hsets : SetsOnly pid w.backend w'.backend)
    (hothers : ∀ g, g ≠ gameId → w'.leases.find? g = w.leases.find? g)
    (hown : ∀ state, w.leases.find? gameId = some state → state.pid = pid) : Within pid w w' := by
  refine ⟨hsets, fun g state hf hpid => ?_⟩
  by_cases hg : g = gameId
  · subst hg
    exact absurd (hown state hf) hpid
  · rw [hothers g hg, hf]

theorem Within.refl (pid : UInt32) (w : Booster (Watched σ)) : Within pid w w :=
  ⟨.none rfl, fun _ _ hf _ => hf⟩

namespace Named

theorem init (V : OpenHandles B) (s : Watched σ) : Named V { backend := s } where
  opened _ h := absurd h List.not_mem_nil
  once _ h := absurd h List.not_mem_nil

theorem same (hN : Named V w) (hl : w'.leases = w.leases)
    (hp : V.pidOf w'.backend.inner = V.pidOf w.backend.inner) : Named V w' := by
  obtain ⟨hopened, honce⟩ := hN
  rw [← hl] at hopened honce
  rw [← hp] at hopened
  exact ⟨hopened, honce⟩

theorem rewrite (hN : Named V w) (hf : w.leases.find? gameId = some state)
    (hl : w'.leases = w.leases.insert gameId state') (hhandle : state'.handle = state.handle)
    (hpid : state'.pid = state.pid)
    (hp : V.pidOf w'.backend.inner = V.pidOf w.backend.inner) : Named V w' := by
  have hmem := SortedMap.find?_eq_some.mp hf
  refine ⟨fun entry he => ?_, fun p hp' q hq hpq => ?_⟩
  · rw [hl, SortedMap.mem_insert] at he
    rw [hp]
    rcases he with rfl | ⟨he, -⟩
    · show V.pidOf w.backend.inner state'.handle = some state'.pid
      rw [hhandle, hpid]
      exact hN.opened _ hmem
    · exact hN.opened _ he
  · rw [hl, SortedMap.mem_insert] at hp' hq
    rcases hp' with rfl | ⟨hp', hpk⟩
    · rcases hq with rfl | ⟨hq, hqk⟩
      · rfl
      · have hsame := hN.once _ hmem q hq (hhandle.symm.trans hpq)
        exact absurd (congrArg Prod.fst hsame).symm hqk
    · rcases hq with rfl | ⟨hq, hqk⟩
      · have hsame := hN.once p hp' _ hmem (hpq.trans hhandle)
        exact absurd (congrArg Prod.fst hsame) hpk
      · exact hN.once p hp' q hq hpq

/-- The handle of the lease that goes is closed; no other lease has it. -/
theorem drop (hN : Named V w) (hf : w.leases.find? gameId = some state)
    (hl : w'.leases = w.leases.erase gameId)
    (hp : V.pidOf w'.backend.inner =
      Function.update (V.pidOf w.backend.inner) state.handle none) : Named V w' := by
  have hmem := SortedMap.find?_eq_some.mp hf
  refine ⟨fun entry he => ?_, fun p hp' q hq hpq => ?_⟩
  · rw [hl, SortedMap.mem_erase] at he
    have hne : entry.2.handle ≠ state.handle := by
      intro heq
      exact he.2 (congrArg Prod.fst (hN.once entry he.1 _ hmem heq))
    rw [hp, Function.update_of_ne hne]
    exact hN.opened _ he.1
  · rw [hl, SortedMap.mem_erase] at hp' hq
    exact hN.once p hp'.1 q hq.1 hpq

theorem add (hN : Named V w) (hfree : V.pidOf w.backend.inner state.handle = none)
    (hl : w'.leases = w.leases.insert gameId state)
    (hp : V.pidOf w'.backend.inner =
      Function.update (V.pidOf w.backend.inner) state.handle (some state.pid)) : Named V w' := by
  have hne : ∀ entry ∈ w.leases.entries, entry.2.handle ≠ state.handle := by
    intro entry he heq
    have hopen := hN.opened entry he
    rw [heq, hfree] at hopen
    cases hopen
  refine ⟨fun entry he => ?_, fun p hp' q hq hpq => ?_⟩
  · rw [hl, SortedMap.mem_insert] at he
    rw [hp]
    rcases he with rfl | ⟨he, -⟩
    · exact Function.update_self ..
    · rw [Function.update_of_ne (hne entry he)]
      exact hN.opened _ he
  · rw [hl, SortedMap.mem_insert] at hp' hq
    rcases hp' with rfl | ⟨hp', -⟩
    · rcases hq with rfl | ⟨hq, -⟩
      · rfl
      · exact absurd hpq.symm (hne q hq)
    · rcases hq with rfl | ⟨hq, -⟩
      · exact absurd hpq (hne p hp')
      · exact hN.once p hp' q hq hpq

end Named

/-! ## The operations -/

theorem restoreLastLease_watched (hopen : V.pidOf w.backend.inner state.handle = some state.pid) :
    ∃ s', SetsOnly state.pid w.backend s' ∧
      ((w.restoreLastLease (watched V) state = (.ok (), { state with handle := 0, count := 0 },
          { w with backend := s', closed := state.handle :: w.closed }) ∧
          V.pidOf s'.inner = Function.update (V.pidOf w.backend.inner) state.handle none) ∨
        (∃ e, w.restoreLastLease (watched V) state =
          (.error e, { state with count := 1 }, { w with backend := s' })) ∧
          V.pidOf s'.inner = V.pidOf w.backend.inner) := by
  have htime := V.time_keeps state.handle w.backend.inner
  have hclass := (V.class_keeps state.handle
    (B.queryCreationTime state.handle w.backend.inner).2).trans htime
  have hset := (V.set_keeps state.handle state.originalClass (B.queryPriorityClass state.handle
    (B.queryCreationTime state.handle w.backend.inner).2).2).trans hclass
  have hclose : ∀ s, V.pidOf s = V.pidOf w.backend.inner → V.pidOf (B.closeProcess state.handle s) =
      Function.update (V.pidOf w.backend.inner) state.handle none := by
    intro s hs
    rw [V.close_keeps, hs]
  have hsets : w.backend.sets ++ [V.pidOf (B.queryPriorityClass state.handle
      (B.queryCreationTime state.handle w.backend.inner).2).2 state.handle] =
      w.backend.sets ++ [some state.pid] := by
    rw [hclass, hopen]
  simp only [Booster.restoreLastLease]
  split
  · refine ⟨_, .none ?_, .inl ⟨rfl, ?_⟩⟩
    · rfl
    · exact hclose _ htime
  · split
    · refine ⟨_, .none ?_, .inl ⟨rfl, ?_⟩⟩
      · rfl
      · exact hclose _ hclass
    · split
      · refine ⟨_, .none ?_, .inl ⟨rfl, ?_⟩⟩
        · rfl
        · exact hclose _ hclass
      · split
        · refine ⟨_, .one ?_, .inr ⟨⟨_, rfl⟩, ?_⟩⟩
          · exact hsets
          · exact hset
        · refine ⟨_, .one ?_, .inl ⟨rfl, ?_⟩⟩
          · exact hsets
          · exact hclose _ hset

theorem releaseBoost_watched (hN : Named V w) (gameId : String) (pid : UInt32) :
    Named V (w.releaseBoost (watched V) gameId pid).2 ∧
      Within pid w (w.releaseBoost (watched V) gameId pid).2 := by
  simp only [Booster.releaseBoost]
  cases hf : w.leases.find? gameId with
  | none => exact ⟨hN, .refl pid w⟩
  | some state =>
    dsimp only
    split
    · exact ⟨hN, .refl pid w⟩
    · rename_i hpid
      have hown : ∀ state', w.leases.find? gameId = some state' → state'.pid = pid := by
        intro state' hf'
        rw [hf] at hf'
        cases hf'
        exact not_not.mp hpid
      have hinsert : ∀ state' g, g ≠ gameId →
          (w.leases.insert gameId state').find? g = w.leases.find? g :=
        fun state' g hg => SortedMap.find?_insert_of_ne _ _ hg
      split
      · exact ⟨hN.rewrite hf rfl rfl rfl rfl, .of_game (.none rfl) (hinsert _) hown⟩
      · obtain ⟨s', hsets, ⟨hr, hp⟩ | ⟨⟨e, hr⟩, hp⟩⟩ :=
          restoreLastLease_watched (hN.opened _ (SortedMap.find?_eq_some.mp hf))
        · rw [hr]
          rw [hown state hf] at hsets
          refine ⟨hN.drop hf rfl hp, .of_game hsets (fun g hg => ?_) hown⟩
          exact SortedMap.find?_erase_of_ne _ hg
        · rw [hr]
          rw [hown state hf] at hsets
          exact ⟨hN.rewrite hf rfl rfl rfl hp, .of_game hsets (hinsert _) hown⟩

variable {time : UInt64} {level maxLevel : PriorityLevel} {target : UInt32}

theorem acquireFresh_watched (hN : Named V w) (hf : w.leases.find? gameId = none) :
    Named V (w.acquireFresh (watched V) gameId pid time level target).2 ∧
      Within pid w (w.acquireFresh (watched V) gameId pid time level target).2 := by
  have hown : ∀ state, w.leases.find? gameId = some state → state.pid = pid := by
    intro state hstate
    rw [hf] at hstate
    cases hstate
  simp only [Booster.acquireFresh, Booster.openProcess]
  have hinner : (watched V).openProcess pid w.backend =
      ((B.openProcess pid w.backend.inner).1,
        { w.backend with inner := (B.openProcess pid w.backend.inner).2 }) := rfl
  rw [hinner]
  rcases ho : B.openProcess pid w.backend.inner with ⟨e | handle, s₁⟩
  · have hp := V.open_error ho
    exact ⟨hN.same rfl hp, .of_game (.none rfl) (fun _ _ => rfl) hown⟩
  · obtain ⟨hfree, hp⟩ := V.open_ok ho
    have htime := (V.time_keeps handle s₁).trans hp
    have hclass := (V.class_keeps handle (B.queryCreationTime handle s₁).2).trans htime
    have hset := (V.set_keeps handle target
      (B.queryPriorityClass handle (B.queryCreationTime handle s₁).2).2).trans hclass
    -- the handle opened here is closed again
    have hclose : ∀ s, V.pidOf s = Function.update (V.pidOf w.backend.inner) handle (some pid) →
        V.pidOf (B.closeProcess handle s) = V.pidOf w.backend.inner := by
      intro s hs
      rw [V.close_keeps, hs, Function.update_idem, ← hfree, Function.update_eq_self]
    have hsets : w.backend.sets ++ [V.pidOf (B.queryPriorityClass handle
        (B.queryCreationTime handle s₁).2).2 handle] = w.backend.sets ++ [some pid] := by
      rw [hclass, Function.update_self]
    dsimp only
    split
    · exact ⟨hN.same rfl (hclose _ htime), .of_game (.none rfl) (fun _ _ => rfl) hown⟩
    · split
      · exact ⟨hN.same rfl (hclose _ hclass), .of_game (.none rfl) (fun _ _ => rfl) hown⟩
      · split
        · exact ⟨hN.same rfl (hclose _ hset), .of_game (.one hsets) (fun _ _ => rfl) hown⟩
        · refine ⟨hN.add hfree rfl hset, .of_game (.one hsets) (fun g hg => ?_) hown⟩
          exact SortedMap.find?_insert_of_ne _ _ hg

/-- An acquire that finds no lease of another process under the game. -/
theorem acquireBoost_watched (hN : Named V w) (time : UInt64)
    (hown : level ≠ .none → levelExceeds level maxLevel = false →
      ∀ state, w.leases.find? gameId = some state → state.pid = pid) :
    Named V (w.acquireBoost (watched V) maxLevel gameId pid time level).2 ∧
      Within pid w (w.acquireBoost (watched V) maxLevel gameId pid time level).2 := by
  have hend := acquireBoost_end (watched V) maxLevel w gameId pid time level
  generalize w.acquireBoost (watched V) maxLevel gameId pid time level = out at hend ⊢
  cases hend with
  | refused _ => exact ⟨hN, .refl pid w⟩
  | fresh _ _ hf => exact acquireFresh_watched hN hf
  | again hallowed hlevel hf hpid =>
    have hsame := hown (ne_none_of_class hlevel) hallowed
    refine ⟨hN.rewrite hf rfl rfl rfl rfl, .of_game (.none rfl) (fun g hg => ?_) hsame⟩
    exact SortedMap.find?_insert_of_ne _ _ hg
  | stuck hallowed hlevel hf hpid _ =>
    exact absurd (hown (ne_none_of_class hlevel) hallowed _ hf) hpid
  | moved hallowed hlevel hf hpid _ =>
    exact absurd (hown (ne_none_of_class hlevel) hallowed _ hf) hpid

end

end Priority
end CppOptimizer
