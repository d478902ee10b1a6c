import CppOptimizer.Common.Error
import CppOptimizer.Lib.Strings
import Mathlib.Algebra.Order.Ring.Int

/-!
# CppOptimizer.Ipc.Pacing

The intervals of the periodic reporter (`ipc_session.cpp`), in milliseconds.

* `checked`          — a result of 64-bit signed arithmetic; `none` is an overflow.
* `doubleUpTo`       — the loop that both back-offs share.
* `ipcReportGapAfterFailures`, `ipcReportGapAfterUserIdle`, `ipcReportNextGap` — the three functions.
* `failureGap`, `idleGap`, `nextGap` — what they are documented to return, over the integers.
* `report_pacing`    — the functions return this without overflow, within bounds, and never less for
  more failures or a longer absence.
-/

namespace CppOptimizer
namespace Ipc

open Common Lib

/-! ## The functions -/

def checked (i : Int) : Option Int := if IsInt64 i then some i else none

/-- At most so many doublings of a gap, and none beyond the cap. -/
def doubleUpTo (cap : Int) : Nat → Int → Option Int
  | 0, gap => some gap
  | n + 1, gap =>
    if gap < cap then
      -- the next doubling would exceed the cap
      if gap > cap.tdiv 2 then some cap
      else do
        let gap ← checked (gap * 2)
        doubleUpTo cap n (if gap > cap then cap else gap)
    else some gap

def ipcReportGapAfterFailures (consecutiveFailures : Nat) (base cap : Int) : Option Int :=
  if cap ≤ 0 then some base
  else doubleUpTo cap consecutiveFailures (if base > cap then cap else base)

def ipcReportGapAfterUserIdle (idleSeconds base awayAfterSeconds awayStepSeconds awayCap : Int) :
    Option Int :=
  if awayCap ≤ 0 ∨ awayAfterSeconds ≤ 0 ∨ idleSeconds < awayAfterSeconds then some base
  else
    let awayStepSeconds := if awayStepSeconds ≤ 0 then 1 else awayStepSeconds
    if base > awayCap then some awayCap
    else do
      let away ← checked (idleSeconds - awayAfterSeconds)
      let steps ← checked (1 + away.tdiv awayStepSeconds)
      doubleUpTo awayCap steps.toNat base

structure PacingOptions where
  failureCap : Int
  awayAfterSeconds : Int
  awayStepSeconds : Int
  awayCap : Int
  deriving DecidableEq, Repr

/-- The `failureGap` of `IpcReportNextGap`. -/
def enabledFailureGap (consecutiveFailures : Nat) (base : Int) (o : PacingOptions) : Option Int :=
  if o.failureCap > 0 ∧ o.failureCap > base ∧ consecutiveFailures > 0 then
    ipcReportGapAfterFailures consecutiveFailures base o.failureCap
  else some base

/-- Its `awayGap`. An unknown idle time counts as presence. -/
def enabledAwayGap (idleSeconds : Option Int) (base : Int) (o : PacingOptions) : Option Int :=
  match idleSeconds with
  | some idleSeconds =>
    if o.awayCap > 0 ∧ o.awayAfterSeconds > 0 then
      ipcReportGapAfterUserIdle idleSeconds base o.awayAfterSeconds o.awayStepSeconds o.awayCap
    else some base
  | none => some base

/-- The longer of the two gaps. -/
def ipcReportNextGap (consecutiveFailures : Nat) (base : Int) (idleSeconds : Option Int)
    (o : PacingOptions) : Option Int := do
  let failureGap ← enabledFailureGap consecutiveFailures base o
  let awayGap ← enabledAwayGap idleSeconds base o
  some (if failureGap > awayGap then failureGap else awayGap)

/-! ## What they are documented to return -/

def failureGap (consecutiveFailures : Nat) (base cap : Int) : Int :=
  min cap (base * 2 ^ consecutiveFailures)

def idleSteps (idleSeconds awayAfterSeconds awayStepSeconds : Int) : Nat :=
  (1 + (idleSeconds - awayAfterSeconds) / max 1 awayStepSeconds).toNat

def idleGap (idleSeconds base awayAfterSeconds awayStepSeconds awayCap : Int) : Int :=
  if awayCap ≤ 0 ∨ awayAfterSeconds ≤ 0 ∨ idleSeconds < awayAfterSeconds then base
  else min awayCap (base * 2 ^ idleSteps idleSeconds awayAfterSeconds awayStepSeconds)

def nextGap (consecutiveFailures : Nat) (base : Int) (idleSeconds : Option Int)
    (o : PacingOptions) : Int :=
  max (if o.failureCap > base ∧ consecutiveFailures > 0 then
      failureGap consecutiveFailures base o.failureCap else base)
    (idleSeconds.elim base fun idleSeconds =>
      idleGap idleSeconds base o.awayAfterSeconds o.awayStepSeconds o.awayCap)

/-- The caps that are switched on, and the base. -/
def highestGap (base : Int) (o : PacingOptions) : Int :=
  max base (max (if 0 < o.failureCap then o.failureCap else base)
    (if 0 < o.awayCap ∧ 0 < o.awayAfterSeconds then o.awayCap else base))

/-- An unknown idle time comes before every known one. -/
def IdleLe : Option Int → Option Int → Prop
  | none, _ => True
  | some _, none => False
  | some i, some j => i ≤ j

/-! ## The loop -/

theorem checked_of_isInt64 {i : Int} (h : IsInt64 i) : checked i = some i := if_pos h

theorem le_mul_two_pow {gap : Int} (h : 0 ≤ gap) (n : Nat) : gap ≤ gap * 2 ^ n :=
  le_mul_of_one_le_right h (one_le_pow₀ (by decide))

theorem mul_two_pow_mono {gap : Int} (h : 0 ≤ gap) {n m : Nat} (hnm : n ≤ m) :
    gap * 2 ^ n ≤ gap * 2 ^ m :=
  mul_le_mul_of_nonneg_left (pow_le_pow_right₀ (by decide) hnm) h

/-- The loop stops at the cap or after the last doubling, and no product overflows. -/
theorem doubleUpTo_eq {cap : Int} (hcap : IsInt64 cap) (n : Nat) {gap : Int} (hpos : 0 < gap)
    (hle : gap ≤ cap) : doubleUpTo cap n gap = some (min cap (gap * 2 ^ n)) := by
  induction n generalizing gap with
  | zero => simp [doubleUpTo, hle]
  | succ n ih =>
    have htwice : gap * 2 ^ (n + 1) = gap * 2 * 2 ^ n := by
      rw [pow_succ, mul_assoc, mul_comm (2 ^ n)]
    have hhalf : cap.tdiv 2 = cap / 2 := Int.tdiv_eq_ediv_of_nonneg (by omega)
    rw [doubleUpTo]
    split
    · case _ hbelow =>
      rw [hhalf, htwice]
      split
      · case _ hlast =>
        have hmore := le_mul_two_pow (show 0 ≤ gap * 2 by omega) n
        rw [min_eq_left (by omega)]
      · case _ hroom =>
        have hsmall : gap * 2 ≤ cap := by omega
        have hint : IsInt64 (gap * 2) := ⟨by have := hcap.1; omega, by have := hcap.2; omega⟩
        have hkeep : ¬ gap * 2 > cap := not_lt.mpr hsmall
        rw [checked_of_isInt64 hint, Option.bind_eq_bind, Option.bind_some, if_neg hkeep]
        exact ih (by omega) hsmall
    · case _ hfull =>
      have hmore := le_mul_two_pow (le_of_lt hpos) (n + 1)
      rw [min_eq_left (by omega)]
      exact congrArg some (by omega)

/-! ## The two gaps -/

section Gaps

variable {base : Int} (hbase : 0 < base)

include hbase

theorem gapAfterFailures_eq (n : Nat) {cap : Int} (hcap : IsInt64 cap) (hpos : 0 < cap) :
    ipcReportGapAfterFailures n base cap = some (failureGap n base cap) := by
  rw [ipcReportGapAfterFailures, if_neg (not_le.mpr hpos), failureGap]
  split
  · case _ hlarge =>
    have hmore := le_mul_two_pow (le_of_lt hbase) n
    have hmore' := le_mul_two_pow (le_of_lt hpos) n
    rw [doubleUpTo_eq hcap n hpos le_rfl, min_eq_left hmore', min_eq_left (by omega)]
  · case _ hsmall => exact doubleUpTo_eq hcap n hbase (not_lt.mp hsmall)

theorem gapAfterUserIdle_eq {idle awayAfter awayStep awayCap : Int} (hidle : IsInt64 idle)
    (hcap : IsInt64 awayCap) :
    ipcReportGapAfterUserIdle idle base awayAfter awayStep awayCap =
      some (idleGap idle base awayAfter awayStep awayCap) := by
  rw [ipcReportGapAfterUserIdle, idleGap]
  split
  · rfl
  · case _ haway =>
    simp only [not_or, not_le, not_lt] at haway
    obtain ⟨hcapPos, hafterPos, hle⟩ := haway
    have hstep : (if awayStep ≤ 0 then 1 else awayStep) = max 1 awayStep := by
      split
      · case _ hoff => rw [max_eq_left (by omega)]
      · case _ hon => rw [max_eq_right (by omega)]
    have hone : 1 ≤ max 1 awayStep := le_max_left 1 awayStep
    simp only [hstep]
    split
    · case _ hlarge =>
      have hmore := le_mul_two_pow (le_of_lt hbase) (idleSteps idle awayAfter awayStep)
      rw [min_eq_left (by omega)]
    · case _ hsmall =>
      have hbounds := hidle.2
      have haway : IsInt64 (idle - awayAfter) := ⟨by omega, by omega⟩
      have hdiv : (idle - awayAfter).tdiv (max 1 awayStep) =
          (idle - awayAfter) / max 1 awayStep := Int.tdiv_eq_ediv_of_nonneg (by omega)
      -- the quotient is at most the difference, which is below the largest value
      have hquot : (idle - awayAfter) / max 1 awayStep ≤ idle - awayAfter :=
        Int.ediv_le_self _ (by omega)
      have hnonneg : 0 ≤ (idle - awayAfter) / max 1 awayStep :=
        Int.ediv_nonneg (by omega) (by omega)
      have hsteps : IsInt64 (1 + (idle - awayAfter) / max 1 awayStep) := ⟨by omega, by omega⟩
      rw [checked_of_isInt64 haway, Option.bind_eq_bind, Option.bind_some, hdiv,
        checked_of_isInt64 hsteps, Option.bind_some, idleSteps]
      exact doubleUpTo_eq hcap _ hbase (not_lt.mp hsmall)

theorem idleGap_mono {i j awayAfter awayStep awayCap : Int} (hij : i ≤ j)
    (hcap : base ≤ awayCap) :
    idleGap i base awayAfter awayStep awayCap ≤ idleGap j base awayAfter awayStep awayCap := by
  unfold idleGap
  split
  · split
    · exact le_rfl
    · exact le_min hcap (le_mul_two_pow (le_of_lt hbase) _)
  · case _ haway =>
    simp only [not_or, not_le, not_lt] at haway
    rw [if_neg (by omega)]
    have hone : 0 < max 1 awayStep := lt_of_lt_of_le (by decide) (le_max_left 1 awayStep)
    have hquot : (i - awayAfter) / max 1 awayStep ≤ (j - awayAfter) / max 1 awayStep :=
      Int.ediv_le_ediv hone (by omega)
    refine min_le_min_left awayCap (mul_two_pow_mono (le_of_lt hbase) ?_)
    exact Int.toNat_le_toNat (by omega)

end Gaps

/-- A cap below the base cannot take the gap below the base. -/
theorem idleGap_le_base {base idle awayAfter awayStep awayCap : Int} (hcap : awayCap < base) :
    idleGap idle base awayAfter awayStep awayCap ≤ base := by
  unfold idleGap
  split
  · exact le_rfl
  · exact le_trans (min_le_left _ _) (le_of_lt hcap)

theorem idleGap_le {base idle awayAfter awayStep awayCap : Int} :
    idleGap idle base awayAfter awayStep awayCap ≤
      max base (if 0 < awayCap ∧ 0 < awayAfter then awayCap else base) := by
  unfold idleGap
  split
  · exact le_max_left _ _
  · case _ haway =>
    simp only [not_or, not_le, not_lt] at haway
    rw [if_pos ⟨haway.1, haway.2.1⟩]
    exact le_trans (min_le_left _ _) (le_max_right _ _)

/-! ## The next gap -/

/-- The settings are 64-bit values. -/
structure PacingOptions.Valid (o : PacingOptions) : Prop where
  failureCap : IsInt64 o.failureCap
  awayAfterSeconds : IsInt64 o.awayAfterSeconds
  awayStepSeconds : IsInt64 o.awayStepSeconds
  awayCap : IsInt64 o.awayCap

section NextGap

variable {base : Int} {o : PacingOptions}

theorem enabledFailureGap_eq (hbase : 0 < base) (ho : o.Valid) (n : Nat) :
    enabledFailureGap n base o =
      some (if o.failureCap > base ∧ n > 0 then failureGap n base o.failureCap else base) := by
  unfold enabledFailureGap
  by_cases hon : o.failureCap > base ∧ n > 0
  · have hpos : o.failureCap > 0 := lt_trans hbase hon.1
    rw [if_pos ⟨hpos, hon⟩, if_pos hon, gapAfterFailures_eq hbase n ho.failureCap hpos]
  · rw [if_neg fun h => hon h.2, if_neg hon]

theorem enabledAwayGap_eq (hbase : 0 < base) (ho : o.Valid) {idle : Option Int}
    (hidle : ∀ i ∈ idle, IsInt64 i) :
    enabledAwayGap idle base o =
      some (idle.elim base fun i =>
        idleGap i base o.awayAfterSeconds o.awayStepSeconds o.awayCap) := by
  cases idle with
  | none => rfl
  | some i =>
    show (if o.awayCap > 0 ∧ o.awayAfterSeconds > 0 then _ else _) =
      some (idleGap i base o.awayAfterSeconds o.awayStepSeconds o.awayCap)
    split
    · exact gapAfterUserIdle_eq hbase (hidle i rfl) ho.awayCap
    · case _ hoff =>
      have hclosed : o.awayCap ≤ 0 ∨ o.awayAfterSeconds ≤ 0 ∨ i < o.awayAfterSeconds := by omega
      rw [idleGap, if_pos hclosed]

theorem nextGap_eq (hbase : 0 < base) (ho : o.Valid) (n : Nat) {idle : Option Int}
    (hidle : ∀ i ∈ idle, IsInt64 i) :
    ipcReportNextGap n base idle o = some (nextGap n base idle o) := by
  have hlarger : ∀ a b : Int, (if a > b then a else b) = max a b := by
    intro a b
    split
    · case _ h => exact (max_eq_left (le_of_lt h)).symm
    · case _ h => exact (max_eq_right (not_lt.mp h)).symm
  simp only [ipcReportNextGap, enabledFailureGap_eq hbase ho, enabledAwayGap_eq hbase ho hidle,
    Option.bind_eq_bind, Option.bind_some, hlarger]
  rfl

theorem base_le_failureGap (hbase : 0 < base) (n : Nat) {cap : Int} (h : base < cap) :
    base ≤ failureGap n base cap :=
  le_min (le_of_lt h) (le_mul_two_pow (le_of_lt hbase) n)

theorem base_le_nextGap (hbase : 0 < base) (n : Nat) (idle : Option Int) :
    base ≤ nextGap n base idle o := by
  refine le_trans ?_ (le_max_left _ _)
  split
  · case _ hon => exact base_le_failureGap hbase n hon.1
  · exact le_rfl

theorem nextGap_le_highestGap (hbase : 0 < base) (n : Nat) (idle : Option Int) :
    nextGap n base idle o ≤ highestGap base o := by
  have hbaseLe : base ≤ highestGap base o := le_max_left _ _
  refine max_le ?_ ?_
  · split
    · case _ hon =>
      have hcap : o.failureCap ≤ highestGap base o := by
        rw [highestGap, if_pos (lt_trans hbase hon.1)]
        exact le_trans (le_max_left _ _) (le_max_right _ _)
      exact le_trans (min_le_left _ _) hcap
    · exact hbaseLe
  · cases idle with
    | none => exact hbaseLe
    | some i =>
      refine le_trans idleGap_le (max_le hbaseLe ?_)
      exact le_trans (le_max_right _ _) (le_max_right _ _)

/-- More failures and a longer absence never shorten the gap. -/
theorem nextGap_mono (hbase : 0 < base) {n m : Nat} (hnm : n ≤ m) {idle idle' : Option Int}
    (hidle : IdleLe idle idle') : nextGap n base idle o ≤ nextGap m base idle' o := by
  have hfailure : (if o.failureCap > base ∧ n > 0 then failureGap n base o.failureCap else base) ≤
      if o.failureCap > base ∧ m > 0 then failureGap m base o.failureCap else base := by
    split
    · case _ hon =>
      rw [if_pos ⟨hon.1, by omega⟩]
      exact min_le_min_left _ (mul_two_pow_mono (le_of_lt hbase) hnm)
    · split
      · case _ hon => exact base_le_failureGap hbase m hon.1
      · exact le_rfl
  have hbaseLe : base ≤ nextGap m base idle' o := base_le_nextGap hbase m idle'
  refine max_le (le_trans hfailure (le_max_left _ _)) ?_
  cases idle with
  | none => exact hbaseLe
  | some i =>
    cases idle' with
    | none => cases hidle
    | some j =>
      by_cases hcap : base ≤ o.awayCap
      · exact le_trans (idleGap_mono hbase hidle hcap) (le_max_right _ _)
      · exact le_trans (idleGap_le_base (not_le.mp hcap)) hbaseLe

end NextGap

/-- The documented values, without overflow; their bounds; and their order. -/
theorem report_pacing {base : Int} (hbase : 0 < base) :
    (∀ n cap, IsInt64 cap → 0 < cap →
      ipcReportGapAfterFailures n base cap = some (min cap (base * 2 ^ n))) ∧
    (∀ idle awayAfter awayStep awayCap, IsInt64 idle → IsInt64 awayAfter → IsInt64 awayStep →
      IsInt64 awayCap →
      ipcReportGapAfterUserIdle idle base awayAfter awayStep awayCap =
        some (idleGap idle base awayAfter awayStep awayCap)) ∧
    ∀ o : PacingOptions, o.Valid →
      (∀ n idle, (∀ i ∈ idle, IsInt64 i) → ∃ gap, ipcReportNextGap n base idle o = some gap ∧
        base ≤ gap ∧ gap ≤ highestGap base o) ∧
      ∀ n m idle idle' gap gap', n ≤ m → IdleLe idle idle' → (∀ i ∈ idle, IsInt64 i) →
        (∀ i ∈ idle', IsInt64 i) → ipcReportNextGap n base idle o = some gap →
        ipcReportNextGap m base idle' o = some gap' → gap ≤ gap' := by
  refine ⟨fun n cap hcap hpos => gapAfterFailures_eq hbase n hcap hpos,
    fun idle awayAfter awayStep awayCap hidle _ _ hcap => gapAfterUserIdle_eq hbase hidle hcap,
    fun o ho => ⟨fun n idle hidle => ?_, ?_⟩⟩
  · exact ⟨_, nextGap_eq hbase ho n hidle, base_le_nextGap hbase n idle,
      nextGap_le_highestGap hbase n idle⟩
  · intro n m idle idle' gap gap' hnm hle hidle hidle' hgap hgap'
    rw [nextGap_eq hbase ho n hidle] at hgap
    rw [nextGap_eq hbase ho m hidle'] at hgap'
    cases hgap
    cases hgap'
    exact nextGap_mono hbase hnm hle

/-- A base of one second: under small caps, and under a cap that is the largest 64-bit value. -/
theorem report_pacing_one_second :
    ipcReportGapAfterFailures 2 1000 5000 = some (min 5000 (1000 * 2 ^ 2)) ∧
    ipcReportGapAfterFailures 70 1000 (2 ^ 63 - 1) = some (min (2 ^ 63 - 1) (1000 * 2 ^ 70)) ∧
    ipcReportGapAfterUserIdle 660 1000 60 60 (2 ^ 63 - 1) =
      some (idleGap 660 1000 60 60 (2 ^ 63 - 1)) ∧
    ∃ gap, ipcReportNextGap 2 1000 (some 660) ⟨5000, 60, 60, 60000⟩ = some gap ∧
      1000 ≤ gap ∧ gap ≤ highestGap 1000 ⟨5000, 60, 60, 60000⟩ := by
  have hpacing := report_pacing (show (0 : Int) < 1000 by decide)
  have hidle : ∀ i ∈ some (660 : Int), IsInt64 i := by
    intro i hi
    cases hi
    decide
  refine ⟨hpacing.1 2 5000 (by decide) (by decide),
    hpacing.1 70 (2 ^ 63 - 1) (by decide) (by decide),
    hpacing.2.1 660 60 60 (2 ^ 63 - 1) (by decide) (by decide) (by decide) (by decide), ?_⟩
  exact (hpacing.2.2 ⟨5000, 60, 60, 60000⟩
    ⟨by decide, by decide, by decide, by decide⟩).1 2 (some 660) hidle

end Ipc
end CppOptimizer
