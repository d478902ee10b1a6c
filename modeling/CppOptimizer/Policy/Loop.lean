import CppOptimizer.Activity.UserActivity
import CppOptimizer.Policy.Executor
import CppOptimizer.Process.Info

/-!
# CppOptimizer.Policy.Loop

The loop of `RunPolicyCommand`: each tick reads the memory margin, the tracked games and the last
input of the user, evaluates the rules and hands the decision to the executor.

The evaluator may repeat its last output while the cooldown lasts, and the executor boosts the game
of the tick, not the game of the decision. `boosts_recommended` says when this is harmless: as long
as no tick finds another game than the one of the repeated recommendation.
-/

namespace CppOptimizer
namespace Policy

open Activity Common Config Lib Power Priority Process

/-! ## The readings of a tick -/

/-- What the world answers in one tick: the clock, `QueryMemoryStatus` (available, total),
`PollOnce` with `GetTrackedProcesses`, and the last-input query (now, last input). -/
structure PolicySample where
  now : Int
  memory : Option (UInt64 × UInt64)
  tracked : Option (List ProcessInfo)
  lastInput : Option (UInt32 × UInt32)
  deriving DecidableEq, Repr

/-- The presence of the user, with the gate off unless `user_away_idle_seconds` is positive. -/
def userPresent (c : ConfigSnapshot) (s : PolicySample) : Bool :=
  if c.policy.userAwayIdleSeconds > 0 then
    match s.lastInput with
    | some (nowTick, lastInputTick) =>
      isActive nowTick lastInputTick (c.policy.userAwayIdleSeconds * 1000)
    | none => false
  else true

def pauseByGame (c : ConfigSnapshot) : SortedMap String Bool :=
  c.games.foldl (fun m game => m.insert game.id game.pauseWhenBackground) .empty

/-- The first tracked game that runs or starts gives focus and target alike. -/
def observe (c : ConfigSnapshot) (s : PolicySample) : GameFocus × ExecutorTarget :=
  match (s.tracked.getD []).find? fun info => info.state = .running ∨ info.state = .starting with
  | none => ({}, {})
  | some info =>
    ({ gameId := info.gameId
       running := true
       foreground := info.isForeground
       pauseWhenBackground := ((pauseByGame c).find? info.gameId).getD true },
     { gameId := info.gameId
       pid := info.pid
       creationTime100ns := info.creationTime100ns
       running := true })

theorem observe_agree (c : ConfigSnapshot) (s : PolicySample) :
    (observe c s).1.gameId = (observe c s).2.gameId ∧
      (observe c s).1.running = (observe c s).2.running := by
  unfold observe
  split <;> exact ⟨rfl, rfl⟩

def thresholds (c : ConfigSnapshot) : PolicyThresholds :=
  { comfortableMarginPercent := c.policy.comfortableMarginPercent
    adequateMarginPercent := c.policy.adequateMarginPercent
    tightMarginPercent := c.policy.tightMarginPercent }

/-- The input of the evaluation, or none when the margin is missing or the thresholds are bad. -/
def policyInput? (c : ConfigSnapshot) (s : PolicySample) : Option PolicyInput :=
  match s.memory with
  | none => none
  | some (available, total) =>
    match computeMemoryMarginPercent available total with
    | .error _ => none
    | .ok margin =>
      match classifyPressure margin.toInt32.toInt (thresholds c) with
      | .error _ => none
      | .ok pressure =>
        some { pressure := pressure, game := (observe c s).1, userPresent := userPresent c s }

theorem policyInput?_game {c : ConfigSnapshot} {s : PolicySample} {input : PolicyInput}
    (h : policyInput? c s = some input) : input.game = (observe c s).1 := by
  unfold policyInput? at h
  split at h
  · cases h
  · split at h
    · cases h
    · split at h
      · cases h
      · cases h
        rfl

/-! ## The loop -/

/-- `inputs` lists the inputs evaluated so far; no tick reads it. -/
structure PolicyLoop (σ τ : Type) where
  config : ConfigSnapshot
  evaluator : PolicyEvaluator
  executor : Executor σ τ
  inputs : List PolicyInput := []

inductive PolicyStep where
  | tick (s : PolicySample)
  | exit
  deriving DecidableEq, Repr

/-- The gates of the executor: without a loaded configuration, in observe mode or with the action
layers off, every R1 action is off. -/
def executorConfig (configLoaded : Bool) (c : ConfigSnapshot) : ExecutorConfig :=
  let r1Allowed := configLoaded && allowsLocalReversibleActions c.application.mode c.layers
  { priorityEnabled := r1Allowed && c.priority.enabled
    priorityMaxLevel := c.priority.maxLevel
    powerExecutionRequired := r1Allowed && c.power.executionRequired
    powerDisplayRequired := r1Allowed && c.power.displayRequired
    consecutiveActionFailuresToHalt := c.policy.haltAfterActionFailures.toNat
    observed := true }

namespace PolicyLoop

variable {σ τ : Type} (PB : PriorityBackend σ) (LB : PowerRequestBackend τ)

def new (configLoaded : Bool) (c : ConfigSnapshot) (priorityWorld : σ) (powerWorld : τ) :
    PolicyLoop σ τ :=
  { config := c
    evaluator := .new c.policy.cooldownMs
    executor :=
      { booster := { backend := priorityWorld }
        locker := { backend := powerWorld }
        boosterMaxLevel := c.priority.maxLevel
        config := executorConfig configLoaded c } }

/-- A tick with an input: evaluate, then apply. -/
def evaluateAndApply (l : PolicyLoop σ τ) (s : PolicySample) (input : PolicyInput) :
    PolicyLoop σ τ :=
  let evaluation := l.evaluator.evaluate input s.now
  { l with
    evaluator := evaluation.2
    executor := (l.executor.applyDecision PB LB evaluation.1.decision (observe l.config s).2).2
    inputs := l.inputs ++ [input] }

def step (l : PolicyLoop σ τ) : PolicyStep → PolicyLoop σ τ
  | .tick s =>
    match policyInput? l.config s with
    | none =>
      -- no decision this time, but what is held is reconciled with the default one
      { l with executor := (l.executor.applyDecision PB LB {} (observe l.config s).2).2 }
    | some input => l.evaluateAndApply PB LB s input
  | .exit => { l with executor := l.executor.releaseAll PB LB }

/-- The recommendation behind a boost: made by the rules, for this game, from an input of the run in
which it ran in front of a present user. -/
def Recommended (l : PolicyLoop σ τ) (decision : PolicyDecision) (gameId : String) : Prop :=
  decision.action = .suggestPriorityBoost ∧ decision.gameId = gameId ∧
    ∃ input ∈ l.inputs, decision = l.evaluator.fresh input ∧ input.game.gameId = gameId ∧
      input.game.running = true ∧ input.game.foreground = true ∧ input.userPresent = true

/-- Every boost asked for so far was recommended, and no game the rules never acted on got one. -/
structure BoostsRecommended (l : PolicyLoop σ τ) : Prop where
  recommended : ∀ b ∈ l.executor.boosts, l.Recommended b.1 b.2.gameId
  never : ∀ gameId,
    (∀ input ∈ l.inputs, input.game.gameId = gameId → (evaluatePolicy input).action = .noOp) →
      ∀ b ∈ l.executor.boosts, b.2.gameId ≠ gameId

/-- The tick finds a running game the rules do nothing for, while the evaluator still repeats its
recommendation for another game and the executor is free to boost. -/
def StaleBoost (l : PolicyLoop σ τ) : PolicyStep → Prop
  | .tick s => ∃ input, policyInput? l.config s = some input ∧
      (evaluatePolicy input).action = .noOp ∧ input.game.running = true ∧
      l.evaluator.hasLast = true ∧
      l.evaluator.lastDecision.action = .suggestPriorityBoost ∧
      l.evaluator.lastDecision.gameId ≠ input.game.gameId ∧
      l.evaluator.filter.Holds s.now ∧
      l.executor.halted = false ∧ l.executor.config.priorityEnabled = true ∧
      (observe l.config s).2.pid ≠ 0 ∧
      ¬ (l.executor.priorityGameId = (observe l.config s).2.gameId ∧
        l.executor.priorityPid = (observe l.config s).2.pid)
  | .exit => False

/-- What the evaluator remembers is the rules' decision on one of the inputs. -/
structure Inv (l : PolicyLoop σ τ) : Prop where
  consistent : l.evaluator.Consistent
  remembered : l.evaluator.hasLast = true →
    ∃ input ∈ l.inputs, l.evaluator.lastDecision = l.evaluator.fresh input
  recommended : ∀ b ∈ l.executor.boosts, l.Recommended b.1 b.2.gameId

theorem new_inv (configLoaded : Bool) (c : ConfigSnapshot) (priorityWorld : σ) (powerWorld : τ) :
    (new configLoaded c priorityWorld powerWorld).Inv where
  consistent := PolicyEvaluator.new_consistent _
  remembered := by
    intro h
    cases h
  recommended := by
    intro b hb
    cases hb

/-- A boost decision the evaluator made or repeats is the rules' own for an input of the run. -/
theorem recommended_of_produced {l : PolicyLoop σ τ} {input : PolicyInput} (hmem : input ∈ l.inputs)
    {gameId : String}
    (haction : (l.evaluator.fresh input).action = .suggestPriorityBoost)
    (hgame : (l.evaluator.fresh input).gameId = gameId) :
    l.Recommended (l.evaluator.fresh input) gameId := by
  obtain ⟨hrun, hfront, huser⟩ :=
    evaluatePolicy_boost ((l.evaluator.fresh_action input).symm.trans haction)
  exact ⟨haction, hgame, input, hmem, rfl,
    (l.evaluator.fresh_gameId input).symm.trans hgame, hrun, hfront, huser⟩

theorem Recommended.mono {l l' : PolicyLoop σ τ} {decision : PolicyDecision} {gameId : String}
    (h : l.Recommended decision gameId) (hfresh : l'.evaluator.fresh = l.evaluator.fresh)
    (hinputs : ∀ input ∈ l.inputs, input ∈ l'.inputs) : l'.Recommended decision gameId := by
  obtain ⟨haction, hgame, input, hmem, hproduced, hrest⟩ := h
  rw [← hfresh] at hproduced
  exact ⟨haction, hgame, input, hinputs input hmem, hproduced, hrest⟩

@[simp] theorem evaluateAndApply_fresh (l : PolicyLoop σ τ) (s : PolicySample)
    (input : PolicyInput) :
    (l.evaluateAndApply PB LB s input).evaluator.fresh = l.evaluator.fresh :=
  l.evaluator.evaluate_fresh input s.now

theorem mem_evaluateAndApply_inputs (l : PolicyLoop σ τ) (s : PolicySample)
    (input : PolicyInput) {i : PolicyInput} :
    i ∈ (l.evaluateAndApply PB LB s input).inputs ↔ i ∈ l.inputs ∨ i = input := by
  simp [evaluateAndApply]

/-- The decision a tick puts out, if it makes the executor want a boost and is not stale, is
recommended for the game of the tick. -/
theorem decision_recommended {l : PolicyLoop σ τ} (hl : l.Inv) {s : PolicySample}
    {input : PolicyInput} (hinput : policyInput? l.config s = some input)
    (hok : ¬ l.StaleBoost (.tick s)) (hhalted : l.executor.halted = false)
    (hwants : l.executor.Wants (l.evaluator.evaluate input s.now).1.decision
      (observe l.config s).2) :
    (l.evaluateAndApply PB LB s input).Recommended (l.evaluator.evaluate input s.now).1.decision
      (observe l.config s).2.gameId := by
  obtain ⟨hdesired, hpid, hheld⟩ := hwants
  simp only [Executor.desired, Bool.and_eq_true, beq_iff_eq] at hdesired
  obtain ⟨⟨henabled, hrunning⟩, haction⟩ := hdesired
  obtain ⟨hgame, hrun⟩ := observe_agree l.config s
  rw [← policyInput?_game hinput] at hgame hrun
  have hfresh := l.evaluateAndApply_fresh PB LB s input
  rcases l.evaluator.evaluate_cases input s.now hl.consistent with
    ⟨hout, _⟩ | ⟨hlast, hout, _, hholds, hacts⟩
  · -- the rules' decision on the input of this tick
    simp only [hout] at haction ⊢
    have hsame : (l.evaluator.fresh input).gameId = (observe l.config s).2.gameId :=
      (l.evaluator.fresh_gameId input).trans hgame
    rw [← hfresh] at haction hsame ⊢
    exact recommended_of_produced
      ((l.mem_evaluateAndApply_inputs PB LB s input).mpr (.inr rfl)) haction hsame
  · -- the repeated decision: it must be for the same game
    simp only [hout] at haction ⊢
    have hsame : l.evaluator.lastDecision.gameId = input.game.gameId := by
      by_contra hother
      have hidle : (evaluatePolicy input).action = .noOp := hacts.mpr (by simp [haction])
      exact hok ⟨input, hinput, hidle, hrun.trans hrunning, hlast, haction, hother, hholds,
        hhalted, henabled, hpid, hheld⟩
    obtain ⟨old, hmem, hold⟩ := hl.remembered hlast
    rw [hold, ← hfresh] at haction hsame
    rw [hold, ← hfresh]
    exact recommended_of_produced
      ((l.mem_evaluateAndApply_inputs PB LB s input).mpr (.inl hmem)) haction (hsame.trans hgame)

/-- The evaluator's half of the invariant. -/
theorem evaluateAndApply_remembered {l : PolicyLoop σ τ} (hl : l.Inv) (s : PolicySample)
    (input : PolicyInput) :
    (l.evaluateAndApply PB LB s input).evaluator.Consistent ∧
      ∃ i ∈ (l.evaluateAndApply PB LB s input).inputs,
        (l.evaluateAndApply PB LB s input).evaluator.lastDecision = l.evaluator.fresh i := by
  have hkept : l.evaluator.hasLast = true →
      ∃ i ∈ (l.evaluateAndApply PB LB s input).inputs,
        l.evaluator.lastDecision = l.evaluator.fresh i := by
    intro hlast
    obtain ⟨old, hmem, hold⟩ := hl.remembered hlast
    exact ⟨old, (l.mem_evaluateAndApply_inputs PB LB s input).mpr (.inl hmem), hold⟩
  rcases l.evaluator.evaluate_cases input s.now hl.consistent with
    ⟨_, hconsistent, _, hnew | ⟨hlast, hold⟩⟩ | ⟨hlast, _, hsame, _⟩
  · exact ⟨hconsistent, input,
      (l.mem_evaluateAndApply_inputs PB LB s input).mpr (.inr rfl), hnew⟩
  · obtain ⟨i, hi, hdecision⟩ := hkept hlast
    exact ⟨hconsistent, i, hi, hold.trans hdecision⟩
  · have hevaluator : (l.evaluateAndApply PB LB s input).evaluator = l.evaluator := hsame
    rw [hevaluator]
    exact ⟨hl.consistent, hkept hlast⟩

/-- The step lemma: unless the boost is stale, every boost stays recommended. -/
theorem step_inv (l : PolicyLoop σ τ) (e : PolicyStep) (hl : l.Inv) (hok : ¬ l.StaleBoost e) :
    (l.step PB LB e).Inv := by
  cases e with
  | exit =>
    refine ⟨hl.consistent, hl.remembered, ?_⟩
    intro b hb
    simp only [step, Executor.releaseAll_boosts] at hb
    exact (hl.recommended b hb).mono rfl fun _ h => h
  | tick s =>
    cases hinput : policyInput? l.config s with
    | none =>
      have hstep : l.step PB LB (.tick s) =
          { l with executor := (l.executor.applyDecision PB LB {} (observe l.config s).2).2 } := by
        simp only [step, hinput]
      rw [hstep]
      refine ⟨hl.consistent, hl.remembered, ?_⟩
      intro b hb
      rcases l.executor.applyDecision_boosts PB LB {} (observe l.config s).2 with
        h | ⟨_, ⟨hdesired, _⟩, _⟩
      · rw [h] at hb
        exact (hl.recommended b hb).mono rfl fun _ h => h
      · -- the default decision asks for no boost
        simp [Executor.desired] at hdesired
    | some input =>
      have hstep : l.step PB LB (.tick s) = l.evaluateAndApply PB LB s input := by
        simp only [step, hinput]
      rw [hstep]
      obtain ⟨hconsistent, hremembered⟩ := evaluateAndApply_remembered PB LB hl s input
      refine ⟨hconsistent, fun _ => ?_, ?_⟩
      · rw [evaluateAndApply_fresh]
        exact hremembered
      · have hold : ∀ b ∈ l.executor.boosts,
            (l.evaluateAndApply PB LB s input).Recommended b.1 b.2.gameId := by
          intro b hb
          exact (hl.recommended b hb).mono (l.evaluateAndApply_fresh PB LB s input)
            fun i hi => (l.mem_evaluateAndApply_inputs PB LB s input).mpr (.inl hi)
        intro b hb
        simp only [evaluateAndApply] at hb
        rcases l.executor.applyDecision_boosts PB LB
            (l.evaluator.evaluate input s.now).1.decision (observe l.config s).2 with
          h | ⟨hhalted, hwants, h⟩
        · rw [h] at hb
          exact hold b hb
        · rw [h, List.mem_append, List.mem_singleton] at hb
          rcases hb with hb | rfl
          · exact hold b hb
          · exact decision_recommended PB LB hl hinput hok hhalted hwants

theorem Inv.boostsRecommended {l : PolicyLoop σ τ} (hl : l.Inv) : l.BoostsRecommended where
  recommended := hl.recommended
  never := by
    intro gameId hnever b hb hgame
    obtain ⟨haction, _, input, hmem, hproduced, hinput, _⟩ := hl.recommended b hb
    have hidle := hnever input hmem (hinput.trans hgame)
    rw [hproduced, PolicyEvaluator.fresh_action, hidle] at haction
    cases haction

end PolicyLoop

/-- In every run of the loop without a stale boost, whatever the readings and the answers of the
backends, each boost the executor asks for carries out a recommendation for that same game. -/
theorem boosts_recommended {σ τ : Type} (PB : PriorityBackend σ) (LB : PowerRequestBackend τ)
    (configLoaded : Bool) (c : ConfigSnapshot) (priorityWorld : σ) (powerWorld : τ)
    (steps : List PolicyStep)
    (h : Steps (PolicyLoop.step PB LB) (fun l e => ¬ l.StaleBoost e)
      (.new configLoaded c priorityWorld powerWorld) steps) :
    Always (PolicyLoop.step PB LB) PolicyLoop.BoostsRecommended
      (.new configLoaded c priorityWorld powerWorld) steps :=
  always_of_steps (PolicyLoop.step_inv PB LB) (fun _ => PolicyLoop.Inv.boostsRecommended)
    (PolicyLoop.new_inv configLoaded c priorityWorld powerWorld) h

/-! ## Two games in turn -/

/-- Backends that grant everything. -/
def grantingPriority : PriorityBackend Unit where
  openProcess _ _ := (.ok 1, ())
  queryCreationTime _ _ := (0, ())
  queryPriorityClass _ _ := (0x00000020, ())
  setPriorityClass _ _ _ := (.ok (), ())
  closeProcess _ _ := ()

def grantingPower : PowerRequestBackend Unit where
  createRequest _ _ := (.ok 1, ())
  setRequest _ _ _ := (.ok (), ())
  clearRequest _ _ _ := (.ok (), ())
  closeRequest _ _ := ()

def boostingConfig : ConfigSnapshot :=
  { application := { mode := .balanced }
    layers := { maintenance := true }
    priority := { enabled := true } }

/-- Half of the memory is free, one game is tracked. -/
def sampleOf (now : Int) (gameId : String) (pid : UInt32) (foreground : Bool) : PolicySample :=
  { now := now
    memory := some (50, 100)
    tracked := some [{ gameId := gameId, pid := pid, state := .running, isForeground := foreground }]
    lastInput := none }

/-- A second after the game in front, another game is found in the background: the rules do nothing
for it, the repeated recommendation boosts it. -/
theorem background_game_boosted :
    ¬ Always (PolicyLoop.step grantingPriority grantingPower) PolicyLoop.BoostsRecommended
      (.new true boostingConfig () ())
      [.tick (sampleOf 0 "a" 1 true), .tick (sampleOf 1000000000 "b" 2 false)] := by
  intro h
  have hrun := h.last.recommended
    ({ action := .suggestPriorityBoost, gameId := "a", reasonCode := "prio_boost",
       reason := "游戏前台且内存余量充足，建议 Layer 3 优先级提升", ttlMs := 5000 },
      { gameId := "b", pid := 2, running := true }) (by decide)
  exact absurd hrun.2.1 (by decide)

/-- The same two games a cooldown apart: the second is left alone. -/
theorem games_apart_recommended :
    Always (PolicyLoop.step grantingPriority grantingPower) PolicyLoop.BoostsRecommended
      (.new true boostingConfig () ())
      [.tick (sampleOf 0 "a" 1 true), .tick (sampleOf 5000000000 "b" 2 false), .exit] := by
  apply boosts_recommended
  refine ⟨?_, ?_, ?_, trivial⟩
  · rintro ⟨_, _, _, _, hlast, _⟩
    revert hlast
    decide
  · rintro ⟨_, _, _, _, _, _, _, hholds, _⟩
    revert hholds
    decide
  · exact id

end Policy
end CppOptimizer
