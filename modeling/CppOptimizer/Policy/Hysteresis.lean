import CppOptimizer.Lib.Run
import CppOptimizer.Policy.Engine

/-!
# CppOptimizer.Policy.Hysteresis

Whole histories of the damped evaluator.

* `EvaluateCall`     — one call of `Evaluate`.
* `outputs`, `effective` — what a history puts out, and the decision in force after it.
* `changeTimes`      — when `IsActing` changed.
* `hysteresis_law`   — the two memories of the evaluator agree, a damped output repeats the decision
  in force, changes keep a cooldown that fits in 64 bits of nanoseconds, and critical pressure never
  lets a suggestion through.

The filter is only asked about "acts or not". A change from one acting decision to another is never
damped, which is why critical pressure replaces a suggestion at once.
-/

namespace CppOptimizer
namespace Policy

open Common Lib

structure EvaluateCall where
  input : PolicyInput
  now : Int
  deriving DecidableEq, Repr

/-- A game runs, in the sense of the first rule: an empty id is no game. -/
def PolicyInput.RunsGame (input : PolicyInput) : Prop :=
  input.game.running = true ∧ input.game.gameId ≠ ""

/-- The rules, case by case, have one text for each reason code. -/
theorem evaluatePolicy_reason :
    ∃ text : String → String, ∀ input, (evaluatePolicy input).reason =
      text (evaluatePolicy input).reasonCode ∧ (evaluatePolicy input).ttlMs = 0 := by
  refine ⟨fun code =>
    if code = "no_game" then "无游戏在运行，不产生优化建议"
    else if code = "mem_critical" then "内存余量危急（余量 <= 紧张阈值），仅提示不执行任何动作"
    else if code = "user_away" then "用户不在场（AFK/锁屏/断开/在场未知），不产生优化建议"
    else if code = "game_background" then "游戏在后台且配置后台暂停优化，不产生建议"
    else if code = "mem_tight" then "内存余量紧张，建议 Layer 2 内存维护（咨询，无执行器）"
    else if code = "prio_boost" then "游戏前台且内存余量充足，建议 Layer 3 优先级提升"
    else "资源余量充足或一般，无证据不启用优化", ?_⟩
  intro input
  unfold evaluatePolicy
  repeat' split
  all_goals simp

theorem evaluatePolicy_critical {input : PolicyInput} (hgame : input.RunsGame)
    (hpressure : input.pressure = .critical) : (evaluatePolicy input).action = .notify := by
  obtain ⟨hrun, hid⟩ := hgame
  simp [evaluatePolicy, hrun, hid, hpressure]

namespace HysteresisFilter

variable {f : HysteresisFilter} {newState : Bool} {now : Int}

@[simp] theorem update_cooldown : (f.update newState now).cooldown = f.cooldown := by
  unfold update
  repeat' split
  all_goals rfl

/-- A switch is stamped with its time, and an established filter switches only after the cooldown. -/
theorem update_switched (h : (f.update newState now).state ≠ f.state) :
    (f.update newState now).lastChange = now ∧
      (f.hasState = true → toInt64 (f.cooldown * nsPerMs) ≤ toInt64 (now - f.lastChange)) := by
  unfold update at h ⊢
  by_cases hhas : f.hasState = false
  · rw [if_pos hhas]
    refine ⟨rfl, fun htrue => ?_⟩
    rw [hhas] at htrue
    cases htrue
  · rw [if_neg hhas] at h ⊢
    by_cases hsame : newState = f.state
    · rw [if_pos hsame] at h
      exact absurd rfl h
    · rw [if_neg hsame] at h ⊢
      by_cases hearly : toInt64 (now - f.lastChange) < toInt64 (f.cooldown * nsPerMs)
      · rw [if_pos hearly] at h
        exact absurd rfl h
      · rw [if_neg hearly]
        exact ⟨rfl, fun _ => by omega⟩

/-- An established filter that does not switch keeps its stamp. -/
theorem update_kept (hhas : f.hasState = true) (h : (f.update newState now).state = f.state) :
    (f.update newState now).lastChange = f.lastChange := by
  unfold update at h ⊢
  rw [if_neg (by simp [hhas])] at h ⊢
  by_cases hsame : newState = f.state
  · rw [if_pos hsame]
  · rw [if_neg hsame] at h ⊢
    by_cases hearly : toInt64 (now - f.lastChange) < toInt64 (f.cooldown * nsPerMs)
    · rw [if_pos hearly]
    · rw [if_neg hearly] at h
      exact absurd h hsame

/-- A cooldown that fits is kept, however far apart the two times are. -/
theorem wait_of_fits (hfit : IsInt64 (f.cooldown * nsPerMs)) (hle : f.lastChange ≤ now)
    (h : toInt64 (f.cooldown * nsPerMs) ≤ toInt64 (now - f.lastChange)) :
    f.cooldown * nsPerMs ≤ now - f.lastChange := by
  rw [toInt64_of_isInt64 hfit] at h
  have hspan : toInt64 (now - f.lastChange) ≤ now - f.lastChange := toInt64_le (by omega)
  exact h.trans hspan

end HysteresisFilter

namespace PolicyEvaluator

/-! ## Histories -/

def called (e : PolicyEvaluator) (c : EvaluateCall) : PolicyEvaluator :=
  (e.evaluate c.input c.now).2

/-- The outputs of a history, in order. -/
def outputs (e : PolicyEvaluator) : List EvaluateCall → List PolicyEvaluation
  | [] => []
  | c :: cs => (e.evaluate c.input c.now).1 :: outputs (e.called c) cs

/-- The times of the calls that change `IsActing`. -/
def changeTimes (e : PolicyEvaluator) : List EvaluateCall → List Int
  | [] => []
  | c :: cs =>
    if (e.called c).isActing = e.isActing then changeTimes (e.called c) cs
    else c.now :: changeTimes (e.called c) cs

/-- The evaluator after a history. -/
def after (cooldown : Int) (calls : List EvaluateCall) : PolicyEvaluator :=
  run called (new cooldown) calls

/-- What the call `c` puts out after a history. -/
def next (cooldown : Int) (calls : List EvaluateCall) (c : EvaluateCall) : PolicyEvaluation :=
  ((after cooldown calls).evaluate c.input c.now).1

/-- The decision in force after a history: the last one that was put out. -/
def effective (cooldown : Int) (calls : List EvaluateCall) : PolicyDecision :=
  match ((new cooldown).outputs calls).getLast? with
  | none => {}
  | some output => output.decision

theorem outputs_concat (e : PolicyEvaluator) (calls : List EvaluateCall) (c : EvaluateCall) :
    e.outputs (calls ++ [c]) =
      e.outputs calls ++ [((run called e calls).evaluate c.input c.now).1] := by
  induction calls generalizing e with
  | nil => rfl
  | cons d calls ih =>
    rw [List.cons_append, outputs, ih, outputs, List.cons_append]
    rfl

theorem after_concat (cooldown : Int) (calls : List EvaluateCall) (c : EvaluateCall) :
    after cooldown (calls ++ [c]) = (after cooldown calls).called c := by
  rw [after, run_append]
  rfl

theorem effective_concat (cooldown : Int) (calls : List EvaluateCall) (c : EvaluateCall) :
    effective cooldown (calls ++ [c]) = (next cooldown calls c).decision := by
  rw [effective, outputs_concat, List.getLast?_concat]
  rfl

/-! ## The two memories -/

/-- Decisions of one evaluator that count as the same are equal. -/
theorem fresh_eq_of_same {e : PolicyEvaluator} {a b : PolicyInput}
    (h : sameDecision (e.fresh a) (e.fresh b) = true) : e.fresh a = e.fresh b := by
  obtain ⟨text, htext⟩ := evaluatePolicy_reason
  obtain ⟨hra, hta⟩ := htext a
  obtain ⟨hrb, htb⟩ := htext b
  simp only [sameDecision, Bool.and_eq_true, beq_iff_eq] at h
  obtain ⟨⟨haction, hgame⟩, hcode⟩ := h
  have hcode' : (evaluatePolicy a).reasonCode = (evaluatePolicy b).reasonCode := by
    simpa only [fresh, apply_ite PolicyDecision.reasonCode, ite_self] using hcode
  have hpolicy : evaluatePolicy a = evaluatePolicy b := by
    rw [fresh_action, fresh_action] at haction
    rw [fresh_gameId, fresh_gameId, ← evaluatePolicy_gameId a, ← evaluatePolicy_gameId b] at hgame
    rw [hcode', ← hrb] at hra
    rw [← htb] at hta
    generalize evaluatePolicy a = da at *
    generalize evaluatePolicy b = db at *
    cases da
    cases db
    simp_all
  unfold fresh
  rw [hpolicy]

/-- What a history leaves: the remembered decision is `d`, the one in force. -/
structure Settled (cooldown : Int) (e : PolicyEvaluator) (d : PolicyDecision) : Prop where
  consistent : e.Consistent
  filterCooldown : e.filter.cooldown = max cooldown 0
  remembered : e.lastDecision = d
  fromRules : e.hasLast = true → ∃ input, e.lastDecision = e.fresh input
  unused : e.hasLast = false → e.isActing = false ∧ d = {}

variable {cooldown : Int} {e : PolicyEvaluator} {d : PolicyDecision}

theorem new_settled (cooldown : Int) : Settled cooldown (new cooldown) {} where
  consistent := new_consistent cooldown
  filterCooldown := by
    simp only [new, HysteresisFilter.new]
    repeat' split
    all_goals omega
  remembered := rfl
  fromRules h := by cases h
  unused _ := ⟨rfl, rfl⟩

theorem evaluate_filter (e : PolicyEvaluator) (input : PolicyInput) (now : Int) :
    (e.evaluate input now).2.filter = e.filter ∨
      ∃ acting, (e.evaluate input now).2.filter = e.filter.update acting now := by
  unfold evaluate
  dsimp only
  split
  · exact .inr ⟨_, rfl⟩
  · split
    · exact .inl rfl
    · split
      · exact .inr ⟨_, rfl⟩
      · exact .inr ⟨_, rfl⟩

/-- An output that is not damped is remembered, or counts as the decision remembered already. -/
theorem evaluate_remembers (input : PolicyInput) (now : Int)
    (h : (e.evaluate input now).1.suppressed = false) :
    (e.evaluate input now).2.lastDecision = e.fresh input ∨
      sameDecision e.lastDecision (e.fresh input) = true := by
  unfold evaluate at h ⊢
  dsimp only at h ⊢
  split
  · exact .inl rfl
  · rename_i hlast
    rw [if_neg hlast] at h
    split
    · rename_i hsame
      exact .inr hsame
    · rename_i hsame
      rw [if_neg hsame] at h
      split
      · exact .inl rfl
      · rename_i hdamped
        rw [if_neg hdamped] at h
        cases h

/-- One call: the remembered decision is the one put out. -/
theorem Settled.step (h : Settled cooldown e d) (input : PolicyInput) (now : Int) :
    Settled cooldown (e.evaluate input now).2 (e.evaluate input now).1.decision ∧
      (e.evaluate input now).2.hasLast = true := by
  have hcooldown : (e.evaluate input now).2.filter.cooldown = max cooldown 0 := by
    rcases evaluate_filter e input now with hf | ⟨acting, hf⟩
    · rw [hf, h.filterCooldown]
    · rw [hf, HysteresisFilter.update_cooldown, h.filterCooldown]
  rcases evaluate_cases e input now h.consistent with
    ⟨hout, hcons, hlast, hrem⟩ | ⟨hhad, hout, hsame, _, _⟩
  · have heq : (e.evaluate input now).2.lastDecision = e.fresh input := by
      rcases evaluate_remembers (e := e) input now (by rw [hout]) with heq | hsame
      · exact heq
      · rcases hrem with heq | ⟨hhad, hkept⟩
        · exact heq
        · obtain ⟨input', hfrom⟩ := h.fromRules hhad
          rw [hfrom] at hsame
          rw [hkept, hfrom]
          exact fresh_eq_of_same hsame
    refine ⟨⟨hcons, hcooldown, ?_, ?_, ?_⟩, hlast⟩
    · rw [hout, heq]
    · intro _
      exact ⟨input, by rw [heq, evaluate_fresh]⟩
    · intro hno
      rw [hlast] at hno
      cases hno
  · rw [hout, hsame]
    refine ⟨⟨h.consistent, h.filterCooldown, rfl, h.fromRules, ?_⟩, hhad⟩
    intro hno
    rw [hhad] at hno
    cases hno

theorem after_settled (cooldown : Int) (calls : List EvaluateCall) :
    Settled cooldown (after cooldown calls) (effective cooldown calls) := by
  induction calls using List.reverseRecOn with
  | nil => exact new_settled cooldown
  | append_singleton calls c ih =>
    rw [after_concat, effective_concat]
    exact (ih.step c.input c.now).1

theorem Settled.acting_iff (h : Settled cooldown e d) : e.isActing = true ↔ d.action ≠ .noOp := by
  cases hlast : e.hasLast with
  | false =>
    obtain ⟨hidle, hd⟩ := h.unused hlast
    rw [hidle, hd]
    decide
  | true =>
    have hacting := h.consistent.acting hlast
    rw [h.remembered] at hacting
    rw [isActing, hacting, bne_iff_ne]

/-! ## The times of the changes -/

/-- The times of a history, after a time at which it starts. -/
def OrderedFrom (t : Int) (calls : List EvaluateCall) : Prop :=
  (t :: calls.map EvaluateCall.now).Pairwise (· ≤ ·)

theorem OrderedFrom.next {t : Int} {c : EvaluateCall} {calls : List EvaluateCall}
    (h : OrderedFrom t (c :: calls)) : t ≤ c.now ∧ OrderedFrom t calls ∧ OrderedFrom c.now calls := by
  obtain ⟨hfrom, hcalls⟩ := List.pairwise_cons.mp h
  have hrest := (List.pairwise_cons.mp hcalls).2
  exact ⟨hfrom _ List.mem_cons_self,
    List.pairwise_cons.mpr ⟨fun x hx => hfrom x (List.mem_cons_of_mem _ hx), hrest⟩, hcalls⟩

/-- The chain of changes from an evaluator that has a decision in force starts a cooldown after the
last stamp of its filter. -/
theorem changeTimes_chain (hfit : IsInt64 (max cooldown 0 * nsPerMs)) (h : Settled cooldown e d)
    (hlast : e.hasLast = true) (calls : List EvaluateCall)
    (hordered : OrderedFrom e.filter.lastChange calls) :
    (e.filter.lastChange :: e.changeTimes calls).IsChain
      fun t t' => max cooldown 0 * nsPerMs ≤ t' - t := by
  induction calls generalizing e d with
  | nil => exact .singleton _
  | cons c calls ih =>
    obtain ⟨hle, hkept, hmoved⟩ := hordered.next
    obtain ⟨hnext, hlast'⟩ := h.step c.input c.now
    have htail := ih hnext hlast'
    have hhas : e.filter.hasState = true := h.consistent.hasState.trans hlast
    rw [changeTimes]
    rcases evaluate_filter e c.input c.now with hf | ⟨acting, hf⟩
    · have hsame : (e.called c).isActing = e.isActing := by
        rw [isActing, called, hf, isActing]
      rw [hf] at htail
      rw [if_pos hsame]
      exact htail hkept
    · by_cases hsame : (e.called c).isActing = e.isActing
      · rw [if_pos hsame]
        rw [isActing, called, hf, isActing] at hsame
        rw [hf, HysteresisFilter.update_kept hhas hsame] at htail
        exact htail hkept
      · rw [if_neg hsame]
        rw [isActing, called, hf, isActing] at hsame
        obtain ⟨hstamp, hwait⟩ := HysteresisFilter.update_switched hsame
        rw [hf, hstamp] at htail
        refine List.isChain_cons_cons.mpr ⟨?_, htail hmoved⟩
        rw [← h.filterCooldown] at hfit ⊢
        exact HysteresisFilter.wait_of_fits hfit hle (hwait hhas)

/-- The first call stamps the filter whether or not it changes anything. -/
theorem called_new_lastChange (cooldown : Int) (c : EvaluateCall) :
    ((new cooldown).called c).filter.lastChange = c.now := by
  rw [called, evaluate_first rfl]
  rfl

theorem changeTimes_new (hfit : IsInt64 (max cooldown 0 * nsPerMs)) (calls : List EvaluateCall)
    (hordered : (calls.map EvaluateCall.now).Pairwise (· ≤ ·)) :
    ((new cooldown).changeTimes calls).IsChain fun t t' => max cooldown 0 * nsPerMs ≤ t' - t := by
  cases calls with
  | nil => exact .nil
  | cons c calls =>
    obtain ⟨hnext, hlast⟩ := (new_settled cooldown).step c.input c.now
    have hstamp := called_new_lastChange cooldown c
    have htail := changeTimes_chain hfit hnext hlast calls (hstamp ▸ hordered)
    rw [changeTimes]
    split
    · exact htail.of_cons
    · rw [← hstamp]
      exact htail

/-! ## The law -/

/-- The law of the evaluator after the history `calls`, and for any call that comes next. -/
structure HysteresisLaw (cooldown : Int) (calls : List EvaluateCall) : Prop where
  acting : (after cooldown calls).isActing = true ↔ (effective cooldown calls).action ≠ .noOp
  unsuppressed : ∀ c, (next cooldown calls c).suppressed = false →
    (next cooldown calls c).decision.action = (evaluatePolicy c.input).action ∧
      (next cooldown calls c).decision.gameId = (evaluatePolicy c.input).gameId ∧
      (next cooldown calls c).decision.reasonCode = (evaluatePolicy c.input).reasonCode
  suppressed : ∀ c, (next cooldown calls c).suppressed = true →
    calls ≠ [] ∧ (next cooldown calls c).decision = effective cooldown calls
  apart : IsInt64 (max cooldown 0 * nsPerMs) → (calls.map EvaluateCall.now).Pairwise (· ≤ ·) →
    ((new cooldown).changeTimes calls).IsChain fun t t' => max cooldown 0 * nsPerMs ≤ t' - t
  critical : ∀ c, c.input.RunsGame → c.input.pressure = .critical →
    (next cooldown calls c).decision.action ≠ .suggestPriorityBoost ∧
      (next cooldown calls c).decision.action ≠ .suggestMemoryTune

theorem fresh_reasonCode (e : PolicyEvaluator) (input : PolicyInput) :
    (e.fresh input).reasonCode = (evaluatePolicy input).reasonCode := by
  simp only [fresh]
  split <;> rfl

/-- The law holds after every history of calls; only the spacing of the changes needs that their times
do not go back, and a cooldown that fits. -/
theorem hysteresis_law (cooldown : Int) (calls : List EvaluateCall) :
    HysteresisLaw cooldown calls := by
  have hsettled := after_settled cooldown calls
  have hcases := fun c : EvaluateCall =>
    evaluate_cases (after cooldown calls) c.input c.now hsettled.consistent
  refine ⟨hsettled.acting_iff, ?_, ?_, fun hfit => changeTimes_new hfit calls, ?_⟩
  · intro c hfree
    rcases hcases c with ⟨hout, _⟩ | ⟨_, hout, _⟩
    · rw [next, hout]
      refine ⟨fresh_action _ _, ?_, fresh_reasonCode _ _⟩
      rw [fresh_gameId, evaluatePolicy_gameId]
    · rw [next, hout] at hfree
      cases hfree
  · intro c hdamped
    rcases hcases c with ⟨hout, _⟩ | ⟨hhad, hout, _⟩
    · rw [next, hout] at hdamped
      cases hdamped
    · refine ⟨?_, ?_⟩
      · rintro rfl
        cases hhad
      · rw [next, hout, hsettled.remembered]
  · intro c hgame hpressure
    have hnotify := evaluatePolicy_critical hgame hpressure
    rcases hcases c with ⟨hout, _⟩ | ⟨_, hout, _, _, hchange⟩
    · rw [next, hout, fresh_action, hnotify]
      decide
    · -- a damped notification means that nothing was suggested before
      have hidle : (after cooldown calls).lastDecision.action = .noOp := by
        by_contra hacting
        have hnoOp := hchange.mpr hacting
        rw [hnotify] at hnoOp
        cases hnoOp
      rw [next, hout, hidle]
      decide

/-- A game that comes to the front and goes, with the times at which it does. -/
def comesAndGoes (times : List (Int × Bool)) : List EvaluateCall :=
  times.map fun p =>
    ⟨{ game := { gameId := "g", running := true, foreground := p.2 } }, p.1⟩

/-- The law on two changes that are five seconds apart. -/
theorem hysteresis_law_two_changes :
    (new 5000).changeTimes (comesAndGoes [(1, true), (2, false), (5000000001, false)]) =
        [1, 5000000001] ∧
      ((new 5000).changeTimes (comesAndGoes [(1, true), (2, false), (5000000001, false)])).IsChain
        fun t t' => max 5000 0 * nsPerMs ≤ t' - t :=
  ⟨by decide, (hysteresis_law 5000 _).apart (by decide) (by decide)⟩

/-- The first cooldown that does not fit comes out negative: a change passes a nanosecond after the
one before it. -/
theorem long_cooldown_passes :
    IsInt64 9223372036855 ∧
      (new 9223372036855).changeTimes (comesAndGoes [(1, true), (2, false)]) = [1, 2] ∧
      ¬ ((new 9223372036855).changeTimes (comesAndGoes [(1, true), (2, false)])).IsChain
        fun t t' => max 9223372036855 0 * nsPerMs ≤ t' - t := by
  decide

-- A boost is in force and the game goes to the background a moment later: the boost is repeated.
example : next 5000 [⟨{ game := { gameId := "g", running := true, foreground := true } }, 0⟩]
    ⟨{ game := { gameId := "g", running := true } }, 1⟩ =
      { decision := { action := .suggestPriorityBoost, gameId := "g", reasonCode := "prio_boost",
                      reason := "游戏前台且内存余量充足，建议 Layer 3 优先级提升", ttlMs := 5000 },
        suppressed := true } := by
  decide

end PolicyEvaluator

end Policy
end CppOptimizer
