import Mathlib.Data.String.Basic
import CppOptimizer.Common.Error
import CppOptimizer.Lib.Int64

/-!
# CppOptimizer.Policy.Engine

The rules of `policy_engine.cpp` and the evaluator that damps them.

* `computeMemoryMarginPercent`, `classifyPressure` — from memory counters to a pressure class.
* `evaluatePolicy`    — the seven rules, the first one that applies decides.
* `HysteresisFilter`  — a switch of state needs the cooldown since the last one.
* `PolicyEvaluator`   — the rules, damped on "acts or not"; a damped change repeats the last output.

A `steady_clock` time point is a count of nanoseconds and a cooldown is in milliseconds, as in the
source. The filter compares them in 64 bits.
-/

namespace CppOptimizer
namespace Policy

open Common Lib

inductive ResourcePressure where
  | comfortable | adequate | tight | critical
  deriving DecidableEq, Repr

inductive PolicyAction where
  | noOp | notify | suggestMemoryTune | suggestPriorityBoost
  deriving DecidableEq, Repr

structure PolicyThresholds where
  comfortableMarginPercent : Int := 30
  adequateMarginPercent : Int := 15
  tightMarginPercent : Int := 5
  deriving DecidableEq, Repr

/-- The product is taken in 64 bits and the quotient cast to 32, as in the source. -/
def computeMemoryMarginPercent (availableBytes totalBytes : UInt64) : Result UInt32 :=
  if totalBytes = 0 ∨ availableBytes > totalBytes then
    .error (.validation "ComputeMemoryMarginPercent"
      "invalid memory counts (total == 0 or available > total)")
  else .ok ((availableBytes * 100) / totalBytes).toUInt32

def classifyPressure (marginPercent : Int) (thresholds : PolicyThresholds) :
    Result ResourcePressure :=
  if marginPercent < 0 ∨ marginPercent > 100 then
    .error (.validation "ClassifyPressure" "margin percent must be in 0..100")
  else if ¬ (thresholds.tightMarginPercent ≥ 0 ∧
      thresholds.tightMarginPercent < thresholds.adequateMarginPercent ∧
      thresholds.adequateMarginPercent < thresholds.comfortableMarginPercent ∧
      thresholds.comfortableMarginPercent ≤ 100) then
    .error (.validation "ClassifyPressure"
      "thresholds must satisfy 0 <= tight < adequate < comfortable <= 100")
  else if marginPercent > thresholds.comfortableMarginPercent then .ok .comfortable
  else if marginPercent > thresholds.adequateMarginPercent then .ok .adequate
  else if marginPercent > thresholds.tightMarginPercent then .ok .tight
  else .ok .critical

structure GameFocus where
  gameId : String := ""
  running : Bool := false
  foreground : Bool := false
  pauseWhenBackground : Bool := true
  deriving DecidableEq, Repr

structure PolicyInput where
  pressure : ResourcePressure := .comfortable
  game : GameFocus := {}
  userPresent : Bool := true
  deriving DecidableEq, Repr

structure PolicyDecision where
  action : PolicyAction := .noOp
  gameId : String := ""
  reasonCode : String := ""
  reason : String := ""
  ttlMs : Int := 0
  deriving DecidableEq, Repr

def evaluatePolicy (input : PolicyInput) : PolicyDecision :=
  let decision : PolicyDecision := { gameId := input.game.gameId }
  if input.game.running = false ∨ input.game.gameId = "" then
    { decision with action := .noOp, reasonCode := "no_game", reason := "无游戏在运行，不产生优化建议" }
  else if input.pressure = .critical then
    { decision with
      action := .notify
      reasonCode := "mem_critical"
      reason := "内存余量危急（余量 <= 紧张阈值），仅提示不执行任何动作" }
  else if input.userPresent = false then
    { decision with
      action := .noOp
      reasonCode := "user_away"
      reason := "用户不在场（AFK/锁屏/断开/在场未知），不产生优化建议" }
  else if input.game.foreground = false ∧ input.game.pauseWhenBackground = true then
    { decision with
      action := .noOp
      reasonCode := "game_background"
      reason := "游戏在后台且配置后台暂停优化，不产生建议" }
  else if input.pressure = .tight then
    { decision with
      action := .suggestMemoryTune
      reasonCode := "mem_tight"
      reason := "内存余量紧张，建议 Layer 2 内存维护（咨询，无执行器）" }
  else if input.game.foreground = true then
    { decision with
      action := .suggestPriorityBoost
      reasonCode := "prio_boost"
      reason := "游戏前台且内存余量充足，建议 Layer 3 优先级提升" }
  else
    { decision with
      action := .noOp, reasonCode := "mem_ok", reason := "资源余量充足或一般，无证据不启用优化" }

@[simp] theorem evaluatePolicy_gameId (input : PolicyInput) :
    (evaluatePolicy input).gameId = input.game.gameId := by
  unfold evaluatePolicy
  repeat' split
  all_goals rfl

/-- A boost is recommended only for a game that runs in front of a present user. -/
theorem evaluatePolicy_boost {input : PolicyInput}
    (h : (evaluatePolicy input).action = .suggestPriorityBoost) :
    input.game.running = true ∧ input.game.foreground = true ∧ input.userPresent = true := by
  unfold evaluatePolicy at h
  split at h
  · cases h
  · rename_i hgame
    split at h
    · cases h
    · split at h
      · cases h
      · rename_i haway
        split at h
        · cases h
        · split at h
          · cases h
          · split at h
            · rename_i hfront
              exact ⟨by simpa using fun hr => hgame (.inl hr), hfront, by simpa using haway⟩
            · cases h

/-! ## Hysteresis -/

/-- `std::chrono::milliseconds` against a difference of time points, which is in nanoseconds. Both
sides of the comparison are numbers of 64 bits. -/
def nsPerMs : Int := 1000000

structure HysteresisFilter where
  cooldown : Int
  state : Bool := false
  lastChange : Int := 0
  hasState : Bool := false
  deriving DecidableEq, Repr

namespace HysteresisFilter

def new (cooldown : Int) : HysteresisFilter :=
  { cooldown := if cooldown < 0 then 0 else cooldown }

/-- `Update`: the returned state is the filter's own state afterwards. -/
def update (f : HysteresisFilter) (newState : Bool) (now : Int) : HysteresisFilter :=
  if f.hasState = false then { f with state := newState, lastChange := now, hasState := true }
  else if newState = f.state then f
  else if toInt64 (now - f.lastChange) < toInt64 (f.cooldown * nsPerMs) then f
  else { f with state := newState, lastChange := now }

/-- A switch asked for too early is ignored. -/
def Holds (f : HysteresisFilter) (now : Int) : Prop :=
  toInt64 (now - f.lastChange) < toInt64 (f.cooldown * nsPerMs)

instance (f : HysteresisFilter) (now : Int) : Decidable (f.Holds now) :=
  inferInstanceAs (Decidable (_ < _))

/-- What an established filter answers: the new state, unless the cooldown holds the old one. -/
theorem update_cases (f : HysteresisFilter) (newState : Bool) (now : Int)
    (h : f.hasState = true) :
    ((f.update newState now).state = newState ∧ (f.update newState now).hasState = true) ∨
      (newState ≠ f.state ∧ f.Holds now ∧ f.update newState now = f) := by
  by_cases hsame : newState = f.state
  · left
    simp [update, h, hsame]
  · by_cases hearly : f.Holds now
    · right
      refine ⟨hsame, hearly, ?_⟩
      have hlt : toInt64 (now - f.lastChange) < toInt64 (f.cooldown * nsPerMs) := hearly
      simp [update, h, hsame, hlt]
    · left
      have hge : ¬ toInt64 (now - f.lastChange) < toInt64 (f.cooldown * nsPerMs) := hearly
      simp [update, h, hsame, hge]

end HysteresisFilter

/-! ## The evaluator -/

structure PolicyEvaluation where
  decision : PolicyDecision := {}
  suppressed : Bool := false
  deriving DecidableEq, Repr

/-- `thresholds_` is stored but never read by a method, so it is left out. -/
structure PolicyEvaluator where
  cooldown : Int
  filter : HysteresisFilter
  lastDecision : PolicyDecision := {}
  hasLast : Bool := false
  deriving DecidableEq, Repr

/-- Two decisions count as one when action, game and reason code agree. -/
def sameDecision (a b : PolicyDecision) : Bool :=
  a.action == b.action && a.gameId == b.gameId && a.reasonCode == b.reasonCode

namespace PolicyEvaluator

def new (cooldown : Int) : PolicyEvaluator :=
  { cooldown := if cooldown < 0 then 0 else cooldown
    filter := .new (if cooldown < 0 then 0 else cooldown) }

/-- The decision of the rules, with its lifetime. -/
def fresh (e : PolicyEvaluator) (input : PolicyInput) : PolicyDecision :=
  let decision := evaluatePolicy input
  if decision.action ≠ .noOp then { decision with ttlMs := e.cooldown } else decision

def evaluate (e : PolicyEvaluator) (input : PolicyInput) (now : Int) :
    PolicyEvaluation × PolicyEvaluator :=
  let fresh := e.fresh input
  let acting := fresh.action != .noOp
  if e.hasLast = false then
    ({ decision := fresh, suppressed := false },
      { e with hasLast := true, lastDecision := fresh, filter := e.filter.update acting now })
  else if sameDecision e.lastDecision fresh = true then
    ({ decision := fresh, suppressed := false }, e)
  else
    let filter := e.filter.update acting now
    if filter.state = acting then
      ({ decision := fresh, suppressed := false },
        { e with lastDecision := fresh, filter := filter })
    else
      ({ decision := e.lastDecision, suppressed := true }, { e with filter := filter })

/-- `IsActing`. -/
def isActing (e : PolicyEvaluator) : Bool := e.filter.state

@[simp] theorem fresh_action (e : PolicyEvaluator) (input : PolicyInput) :
    (e.fresh input).action = (evaluatePolicy input).action := by
  simp only [fresh]
  split <;> rfl

@[simp] theorem fresh_gameId (e : PolicyEvaluator) (input : PolicyInput) :
    (e.fresh input).gameId = input.game.gameId := by
  simp only [fresh]
  split <;> simp

/-- An evaluation does not change how later decisions are made. -/
@[simp] theorem evaluate_fresh (e : PolicyEvaluator) (input : PolicyInput) (now : Int) :
    (e.evaluate input now).2.fresh = e.fresh := by
  have hcooldown : (e.evaluate input now).2.cooldown = e.cooldown := by
    simp only [evaluate]
    repeat' split
    all_goals rfl
  funext input'
  simp only [fresh, hcooldown]

/-- What ties the remembered decision to the filter. -/
structure Consistent (e : PolicyEvaluator) : Prop where
  hasState : e.filter.hasState = e.hasLast
  acting : e.hasLast = true → e.filter.state = (e.lastDecision.action != .noOp)

theorem new_consistent (cooldown : Int) : (new cooldown).Consistent :=
  ⟨rfl, fun h => by cases h⟩

section Branches

variable {e : PolicyEvaluator} {input : PolicyInput} {now : Int}

/-- The first evaluation sets up the filter. -/
theorem evaluate_first (hlast : e.hasLast = false) :
    e.evaluate input now = ({ decision := e.fresh input, suppressed := false },
      { e with
        hasLast := true
        lastDecision := e.fresh input
        filter := e.filter.update ((e.fresh input).action != .noOp) now }) := by
  simp [evaluate, hlast]

theorem evaluate_same (hlast : e.hasLast = true)
    (hsame : sameDecision e.lastDecision (e.fresh input) = true) :
    e.evaluate input now = ({ decision := e.fresh input, suppressed := false }, e) := by
  simp [evaluate, hlast, hsame]

/-- The filter lets the change through. -/
theorem evaluate_through (hlast : e.hasLast = true)
    (hsame : ¬ sameDecision e.lastDecision (e.fresh input) = true)
    (heff : (e.filter.update ((e.fresh input).action != .noOp) now).state =
      ((e.fresh input).action != .noOp)) :
    e.evaluate input now = ({ decision := e.fresh input, suppressed := false },
      { e with
        lastDecision := e.fresh input
        filter := e.filter.update ((e.fresh input).action != .noOp) now }) := by
  simp only [evaluate, hlast, hsame, heff, if_true, if_false, Bool.true_eq_false,
    Bool.false_eq_true]

/-- The filter holds the change back and stays as it is. -/
theorem evaluate_held (hlast : e.hasLast = true)
    (hsame : ¬ sameDecision e.lastDecision (e.fresh input) = true)
    (hne : ((e.fresh input).action != .noOp) ≠ e.filter.state)
    (hupd : e.filter.update ((e.fresh input).action != .noOp) now = e.filter) :
    e.evaluate input now = ({ decision := e.lastDecision, suppressed := true }, e) := by
  simp only [evaluate, hlast, hsame, hupd, Ne.symm hne, if_false, Bool.true_eq_false,
    Bool.false_eq_true]
  rw [← hlast]

end Branches

/-- Everything an evaluation can do: put out the fresh decision and remember it (or one that counts
as the same), or repeat the remembered one while the cooldown lasts. -/
theorem evaluate_cases (e : PolicyEvaluator) (input : PolicyInput) (now : Int)
    (hc : e.Consistent) :
    ((e.evaluate input now).1 = { decision := e.fresh input, suppressed := false } ∧
      (e.evaluate input now).2.Consistent ∧ (e.evaluate input now).2.hasLast = true ∧
      ((e.evaluate input now).2.lastDecision = e.fresh input ∨
        (e.hasLast = true ∧ (e.evaluate input now).2.lastDecision = e.lastDecision))) ∨
    (e.hasLast = true ∧
      (e.evaluate input now).1 = { decision := e.lastDecision, suppressed := true } ∧
      (e.evaluate input now).2 = e ∧ e.filter.Holds now ∧
      ((evaluatePolicy input).action = .noOp ↔ e.lastDecision.action ≠ .noOp)) := by
  cases hlast : e.hasLast with
  | false =>
    left
    have hnew : e.filter.hasState = false := hc.hasState.trans hlast
    rw [evaluate_first hlast]
    refine ⟨rfl, ⟨?_, ?_⟩, rfl, .inl rfl⟩
    · simp [HysteresisFilter.update, hnew]
    · intro _
      simp [HysteresisFilter.update, hnew]
  | true =>
    have hstate : e.filter.hasState = true := hc.hasState.trans hlast
    by_cases hsame : sameDecision e.lastDecision (e.fresh input) = true
    · left
      rw [evaluate_same hlast hsame]
      exact ⟨rfl, hc, hlast, .inr ⟨rfl, rfl⟩⟩
    · rcases e.filter.update_cases ((e.fresh input).action != .noOp) now hstate with
        ⟨heff, hhas⟩ | ⟨hne, hholds, hupd⟩
      · left
        rw [evaluate_through hlast hsame heff]
        exact ⟨rfl, ⟨hhas.trans hlast.symm, fun _ => heff⟩, hlast, .inl rfl⟩
      · right
        rw [evaluate_held hlast hsame hne hupd]
        refine ⟨rfl, rfl, rfl, hholds, ?_⟩
        rw [hc.acting hlast, fresh_action] at hne
        by_cases hn : (evaluatePolicy input).action = .noOp
        · simpa [hn] using hne
        · have hacts : ((evaluatePolicy input).action != .noOp) = true := by simpa using hn
          rw [hacts] at hne
          simpa [hn] using hne

end PolicyEvaluator

end Policy
end CppOptimizer
