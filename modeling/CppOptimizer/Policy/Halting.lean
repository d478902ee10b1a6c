import CppOptimizer.Lib.Run
import CppOptimizer.Policy.Calls

/-!
# CppOptimizer.Policy.Halting

When the executor is halted, told from the history of its operations alone.

* `Outcome`, `history` — what the operations of a run reported.
* `failuresInRow`      — the failed `ApplyDecision` calls since the last success or `ResetHalt`.
* `Tripped n`          — at some moment of the history there were `n` of them, and no `ResetHalt` came
  after that.

`Tracks` relates the counter and the flag to the history; every operation keeps it.
-/

namespace CppOptimizer
namespace Policy

open Common Config Power Priority Lib

inductive Outcome where
  | failed | succeeded | released | reset
  deriving DecidableEq, Repr

/-- The failures since the last success or reset. A `ReleaseAll` neither counts nor breaks the row. -/
def failuresInRow (os : List Outcome) : Nat :=
  os.foldl (fun n o =>
    match o with
    | .failed => n + 1
    | .succeeded => 0
    | .released => n
    | .reset => 0) 0

def Tripped (n : Nat) (os : List Outcome) : Prop :=
  ∃ before since, os = before ++ since ∧ failuresInRow before = n ∧ Outcome.reset ∉ since

variable {σ τ : Type}

section

variable (PB : PriorityBackend σ) (LB : PowerRequestBackend τ)

def Executor.outcome (x : Executor σ τ) : ExecutorOp → Outcome
  | .applyDecision decision target =>
    if (x.applyDecision PB LB decision target).1.ok? then .succeeded else .failed
  | .releaseAll => .released
  | .resetHalt => .reset

def history : Executor σ τ → List ExecutorOp → List Outcome
  | _, [] => []
  | x, op :: ops => x.outcome PB LB op :: history (x.perform PB LB op) ops

end

/-! ## Histories that grow at their end -/

variable {PB : PriorityBackend σ} {LB : PowerRequestBackend τ} {x y : Executor σ τ} {n : Nat}
  {os : List Outcome} {o : Outcome}

theorem history_snoc (x : Executor σ τ) (ops : List ExecutorOp) (op : ExecutorOp) :
    history PB LB x (ops ++ [op]) =
      history PB LB x ops ++ [(run (Executor.perform PB LB) x ops).outcome PB LB op] := by
  induction ops generalizing x with
  | nil => rfl
  | cons op' ops ih => simp only [List.cons_append, history, run_cons, ih]

@[simp] theorem failuresInRow_failed : failuresInRow (os ++ [.failed]) = failuresInRow os + 1 := by
  simp [failuresInRow]

@[simp] theorem failuresInRow_succeeded : failuresInRow (os ++ [.succeeded]) = 0 := by
  simp [failuresInRow]

@[simp] theorem failuresInRow_released :
    failuresInRow (os ++ [.released]) = failuresInRow os := by
  simp [failuresInRow]

@[simp] theorem failuresInRow_reset : failuresInRow (os ++ [.reset]) = 0 := by
  simp [failuresInRow]

/-- The last outcome trips the halt, or it was tripped before and not reset now. -/
theorem tripped_snoc :
    Tripped n (os ++ [o]) ↔ failuresInRow (os ++ [o]) = n ∨ (Tripped n os ∧ o ≠ .reset) := by
  constructor
  · rintro ⟨before, since, heq, hrow, hreset⟩
    rcases List.eq_nil_or_concat since with rfl | ⟨since, last, rfl⟩
    · rw [List.append_nil] at heq
      exact .inl (heq ▸ hrow)
    · rw [List.concat_eq_append, ← List.append_assoc] at heq
      obtain ⟨rfl, hlast⟩ := List.append_inj' heq rfl
      obtain rfl : o = last := by simpa using hlast
      rw [List.concat_eq_append, List.mem_append, not_or] at hreset
      refine .inr ⟨⟨before, since, rfl, hrow, hreset.1⟩, fun h => hreset.2 ?_⟩
      rw [h]
      exact List.mem_singleton_self _
  · rintro (hrow | ⟨⟨before, since, rfl, hrow, hreset⟩, hne⟩)
    · exact ⟨os ++ [o], [], by simp, hrow, List.not_mem_nil⟩
    · refine ⟨before, since ++ [o], by simp, hrow, ?_⟩
      rw [List.mem_append, not_or]
      exact ⟨hreset, fun h => hne (List.mem_singleton.mp h).symm⟩

/-! ## The counter follows the history -/

structure Tracks (n : Nat) (os : List Outcome) (x : Executor σ τ) : Prop where
  threshold : x.config.consecutiveActionFailuresToHalt = n
  halted : x.halted = true ↔ 0 < n ∧ Tripped n os
  counter : 0 < n → x.halted = false →
    x.consecutiveActionFailures = failuresInRow os ∧ failuresInRow os < n

/-- Acts leave threshold, flag and counter alone. -/
structure SameHalt (x y : Executor σ τ) : Prop where
  config : y.config = x.config
  halted : y.halted = x.halted
  counter : y.consecutiveActionFailures = x.consecutiveActionFailures

theorem emitAction_sameHalt (h : SameHalt x y) (operationId target detail : String) (ok : Bool) :
    SameHalt x (y.emitAction operationId target detail ok) := by
  unfold Executor.emitAction
  split
  · exact ⟨h.config, h.halted, h.counter⟩
  · exact h

theorem act_sameHalt {may : Executor σ τ → ExecutorTarget → Prop} {z : Executor σ τ}
    (hact : Act PB LB may y z) (h : SameHalt x y) : SameHalt x z := by
  have hcalled : ∀ booster locker calls, SameHalt x
      ({ y with booster := booster, locker := locker, calls := calls } : Executor σ τ) :=
    fun _ _ _ => ⟨h.config, h.halted, h.counter⟩
  cases hact with
  | releaseBoost detail => exact emitAction_sameHalt (hcalled _ y.locker _) _ _ _ _
  | acquireBoost decision target => exact emitAction_sameHalt (hcalled _ y.locker _) _ _ _ _
  | acquireLock type detail => exact emitAction_sameHalt (hcalled y.booster _ _) _ _ _ _
  | releaseLock type detail => exact emitAction_sameHalt (hcalled y.booster _ _) _ _ _ _
  | note => exact ⟨h.config, h.halted, h.counter⟩

theorem Acts.sameHalt {may : Executor σ τ → ExecutorTarget → Prop} (h : Acts PB LB may x y) :
    SameHalt x y :=
  h.keeps (fun _ _ hact => act_sameHalt hact) ⟨rfl, rfl, rfl⟩

namespace Tracks

theorem init (booster : Booster σ) (locker : Locker τ) (boosterMaxLevel : PriorityLevel)
    (config : ExecutorConfig) :
    Tracks config.consecutiveActionFailuresToHalt []
      { booster := booster, locker := locker, boosterMaxLevel := boosterMaxLevel,
        config := config : Executor σ τ } where
  threshold := rfl
  halted := by
    constructor
    · intro h
      cases h
    · rintro ⟨hpos, before, since, heq, hrow, -⟩
      obtain ⟨rfl, -⟩ := List.append_eq_nil_iff.mp heq.symm
      exact absurd hrow hpos.ne
  counter hpos _ := ⟨rfl, hpos⟩

theorem same (h : Tracks n os x) (hsame : SameHalt x y) : Tracks n os y where
  threshold := by rw [hsame.config]; exact h.threshold
  halted := by rw [hsame.halted]; exact h.halted
  counter hpos hrunning := by
    rw [hsame.counter]
    exact h.counter hpos (hsame.halted ▸ hrunning)

theorem released (h : Tracks n os x) : Tracks n (os ++ [.released]) x where
  threshold := h.threshold
  halted := by
    rw [h.halted, tripped_snoc, failuresInRow_released]
    constructor
    · rintro ⟨hpos, htripped⟩
      exact ⟨hpos, .inr ⟨htripped, by simp⟩⟩
    · rintro ⟨hpos, hrow | ⟨htripped, -⟩⟩
      · exact ⟨hpos, os, [], by simp, hrow, List.not_mem_nil⟩
      · exact ⟨hpos, htripped⟩
  counter hpos hrunning := by
    rw [failuresInRow_released]
    exact h.counter hpos hrunning

theorem reset (h : Tracks n os x) : Tracks n (os ++ [.reset]) x.resetHalt where
  threshold := h.threshold
  halted := by
    rw [tripped_snoc, failuresInRow_reset]
    constructor
    · intro hhalted
      cases hhalted
    · rintro ⟨hpos, hrow | ⟨-, hne⟩⟩
      · exact absurd hrow hpos.ne
      · exact absurd rfl hne
  counter hpos _ := by
    rw [failuresInRow_reset]
    exact ⟨rfl, hpos⟩

/-- A success leaves the flag as it is. -/
theorem succeeded_halted (h : Tracks n os x) :
    x.halted = true ↔ 0 < n ∧ Tripped n (os ++ [.succeeded]) := by
  rw [h.halted, tripped_snoc, failuresInRow_succeeded]
  constructor
  · rintro ⟨hpos, htripped⟩
    exact ⟨hpos, .inr ⟨htripped, by simp⟩⟩
  · rintro ⟨hpos, hrow | ⟨htripped, -⟩⟩
    · exact absurd hrow hpos.ne
    · exact ⟨hpos, htripped⟩

/-- A call answered by a halted executor. -/
theorem skipped (h : Tracks n os x) (hhalted : x.halted = true) :
    Tracks n (os ++ [.succeeded]) x where
  threshold := h.threshold
  halted := h.succeeded_halted
  counter _ hrunning := by
    rw [hhalted] at hrunning
    cases hrunning

theorem succeeded (h : Tracks n os x) :
    Tracks n (os ++ [.succeeded]) { x with consecutiveActionFailures := 0 } where
  threshold := h.threshold
  halted := h.succeeded_halted
  counter hpos _ := by
    rw [failuresInRow_succeeded]
    exact ⟨rfl, hpos⟩

theorem failed (h : Tracks n os x) (hrunning : x.halted = false) :
    Tracks n (os ++ [.failed]) x.countFailure := by
  have hnot : ¬ (0 < n ∧ Tripped n os) := by
    rw [← h.halted, hrunning]
    exact Bool.false_ne_true
  unfold Executor.countFailure
  rw [h.threshold]
  by_cases hpos : n > 0
  · obtain ⟨hcounter, hlt⟩ := h.counter hpos hrunning
    rw [if_pos hpos]
    refine ⟨h.threshold, ?_, ?_⟩
    · rw [tripped_snoc, failuresInRow_failed]
      simp only [hrunning, Bool.false_or, hcounter, ge_iff_le, decide_eq_true_eq]
      constructor
      · intro hle
        exact ⟨hpos, .inl (by omega)⟩
      · rintro ⟨-, hrow | ⟨htripped, -⟩⟩
        · omega
        · exact absurd ⟨hpos, htripped⟩ hnot
    · intro _ hstill
      simp only [hrunning, Bool.false_or, hcounter, ge_iff_le, decide_eq_false_iff_not] at hstill
      rw [failuresInRow_failed]
      exact ⟨congrArg (· + 1) hcounter, by omega⟩
  · rw [if_neg hpos]
    refine ⟨h.threshold, ?_, fun hn => absurd hn hpos⟩
    rw [hrunning]
    exact ⟨fun hf => absurd hf Bool.false_ne_true, fun ⟨hn, _⟩ => absurd hn hpos⟩

end Tracks

theorem perform_tracks (h : Tracks n os x) (op : ExecutorOp) :
    Tracks n (os ++ [x.outcome PB LB op]) (x.perform PB LB op) := by
  cases op with
  | applyDecision decision target =>
    simp only [Executor.outcome, Executor.perform]
    cases hhalted : x.halted with
    | true =>
      rw [applyDecision_halted hhalted]
      exact h.skipped hhalted
    | false =>
      obtain ⟨y, hacts, ⟨e, hr⟩ | ⟨effect, hr⟩⟩ :=
        @applyDecision_acts _ _ PB LB x (fun _ _ => True) decision target hhalted fun _ _ => trivial
      · rw [hr]
        exact (h.same hacts.sameHalt).failed (hacts.sameHalt.halted.trans hhalted)
      · rw [hr]
        exact (h.same hacts.sameHalt).succeeded
  | releaseAll =>
    have hacts : Acts PB LB (fun _ _ => True) x (x.releaseAll PB LB) := releaseAll_acts x
    exact (h.same hacts.sameHalt).released
  | resetHalt => exact h.reset

theorem run_tracks {x : Executor σ τ} (h : Tracks n [] x) (ops : List ExecutorOp) :
    Tracks n (history PB LB x ops) (run (Executor.perform PB LB) x ops) := by
  induction ops using List.reverseRecOn with
  | nil => exact h
  | append_singleton ops op ih =>
    rw [history_snoc, run_append]
    exact perform_tracks ih op

/-- The executor is halted from the moment `N` calls in a row have failed until the next
`ResetHalt`, and then it leaves everything as it is. -/
theorem halted_iff_tripped (PB : PriorityBackend σ) (LB : PowerRequestBackend τ)
    (booster : Booster σ) (locker : Locker τ) (boosterMaxLevel : PriorityLevel)
    (config : ExecutorConfig) (ops : List ExecutorOp) :
    let start : Executor σ τ :=
      { booster := booster, locker := locker, boosterMaxLevel := boosterMaxLevel, config := config }
    let x := run (Executor.perform PB LB) start ops
    (0 < config.consecutiveActionFailuresToHalt → (x.halted = true ↔
        Tripped config.consecutiveActionFailuresToHalt (history PB LB start ops))) ∧
      (config.consecutiveActionFailuresToHalt = 0 → x.halted = false) ∧
      (x.halted = true → ∀ decision target, x.applyDecision PB LB decision target =
        (.ok { skipped := Executor.haltedNote config.consecutiveActionFailuresToHalt }, x)) := by
  intro start x
  have htracks : Tracks _ (history PB LB start ops) x :=
    run_tracks (Tracks.init booster locker boosterMaxLevel config) ops
  refine ⟨fun hpos => ?_, fun hzero => ?_, fun hhalted decision target => ?_⟩
  · rw [htracks.halted]
    exact ⟨fun h => h.2, fun h => ⟨hpos, h⟩⟩
  · rw [← Bool.not_eq_true, htracks.halted, hzero]
    exact fun h => absurd h.1 (lt_irrefl 0)
  · rw [applyDecision_halted hhalted, htracks.threshold]

end Policy
end CppOptimizer
