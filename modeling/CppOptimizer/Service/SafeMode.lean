import CppOptimizer.Lib.Int64
import CppOptimizer.Lib.Run

/-!
# CppOptimizer.Service.SafeMode

`SafeModeGuard` of `service_host.cpp` and its specification.

* `SafeModeGuard` — the state machine as the source computes it: the cooldown and the counting
  window are advanced lazily, by whichever call comes next.
* `Reference`     — what the guard is for: which rejections count and when Safe Mode starts, computed
  from the history of events alone.
* `ClockFits`          — the guard's clock arithmetic stays within 64 bits.
* `guard_refines_reference` — every answer of the guard is the reference's answer.

Clock readings are `steady_clock` ticks (nanoseconds), the options are in milliseconds. A call is
given all the readings it can take, in their order; which of them it does take depends on its state.
-/

namespace CppOptimizer
namespace Service

open Lib

inductive SafeModeState where
  | normal | safeMode
  deriving DecidableEq, Repr

/-- A duration in milliseconds, in clock ticks. -/
def ticks (milliseconds : Int) : Int := milliseconds * 1000000

structure SafeModeOptions where
  failuresToEnter : Nat := 3
  countingWindow : Int := 5000
  cooldown : Int := 2000
  enabled : Bool := true
  deriving DecidableEq, Repr

/-- The readings of one `OnClientRejected`: `Refresh`, the time that is recorded, `PruneExpired`, and
the time from which the cooldown runs. -/
structure RejectionReadings where
  refresh : Int := 0
  recorded : Int := 0
  prune : Int := 0
  entered : Int := 0
  deriving DecidableEq, Repr

structure SafeModeGuard where
  safeMode : Bool := false
  anomalyLatched : Bool := false
  cooldownUntil : Int := 0
  failureTimes : List Int := []
  deriving DecidableEq, Repr

namespace SafeModeGuard

variable (o : SafeModeOptions)

def pruneExpired (now : Int) (g : SafeModeGuard) : SafeModeGuard :=
  let cutoff := toInt64 (now - toInt64 (ticks o.countingWindow))
  { g with failureTimes := g.failureTimes.dropWhile fun t => t ≤ cutoff }

/-- Either branch takes one reading. -/
def refresh (now : Int) (g : SafeModeGuard) : SafeModeGuard :=
  if g.anomalyLatched then g
  else if g.safeMode then
    if now ≥ g.cooldownUntil then { g with safeMode := false, failureTimes := [] } else g
  else g.pruneExpired o now

def state (now : Int) (g : SafeModeGuard) : SafeModeState × SafeModeGuard :=
  let g := g.refresh o now
  if g.anomalyLatched then (.safeMode, g)
  else if g.safeMode then (.safeMode, g) else (.normal, g)

def shouldAcceptClients (now : Int) (g : SafeModeGuard) : Bool × SafeModeGuard :=
  let g := g.refresh o now
  (!o.enabled || (!g.safeMode && !g.anomalyLatched), g)

/-- In milliseconds; `duration_cast` rounds towards zero. -/
def cooldownRemaining (refreshed now : Int) (g : SafeModeGuard) : Int × SafeModeGuard :=
  let g := g.refresh o refreshed
  if g.anomalyLatched || !g.safeMode then (0, g)
  else
    let remaining := (toInt64 (g.cooldownUntil - now)).tdiv 1000000
    (if remaining > 0 then remaining else 0, g)

def onClientRejected (clock : RejectionReadings) (g : SafeModeGuard) : SafeModeGuard :=
  if !o.enabled then g
  else
    let g := g.refresh o clock.refresh
    if g.safeMode || g.anomalyLatched then g
    else
      let g := { g with failureTimes := g.failureTimes ++ [clock.recorded] }.pruneExpired o clock.prune
      if g.failureTimes.length ≥ o.failuresToEnter then
        { g with
          safeMode := true
          cooldownUntil := toInt64 (clock.entered + toInt64 (ticks o.cooldown)) }
      else g

def onAnomalyDetected (g : SafeModeGuard) : SafeModeGuard :=
  if !o.enabled then g else { g with anomalyLatched := true }

def clearAnomaly (g : SafeModeGuard) : SafeModeGuard := { g with anomalyLatched := false }

def isAnomalyLatched (g : SafeModeGuard) : Bool := g.anomalyLatched

end SafeModeGuard

/-! ## Calls -/

inductive GuardEvent where
  | clientRejected (clock : RejectionReadings)
  | anomalyDetected
  | clearAnomaly
  deriving DecidableEq, Repr

inductive GuardQuery where
  | state (now : Int)
  | shouldAcceptClients (now : Int)
  | cooldownRemaining (refreshed now : Int)
  | isAnomalyLatched
  deriving DecidableEq, Repr

inductive GuardAnswer where
  | state (s : SafeModeState)
  | flag (b : Bool)
  | remaining (milliseconds : Int)
  deriving DecidableEq, Repr

inductive GuardCall where
  | event (e : GuardEvent)
  | query (q : GuardQuery)
  deriving DecidableEq, Repr

def GuardCall.readings : GuardCall → List Int
  | .event (.clientRejected clock) => [clock.refresh, clock.recorded, clock.prune, clock.entered]
  | .event _ => []
  | .query (.state now) => [now]
  | .query (.shouldAcceptClients now) => [now]
  | .query (.cooldownRemaining refreshed now) => [refreshed, now]
  | .query .isAnomalyLatched => []

/-- The clock over a sequence of calls. -/
def clockOf (calls : List GuardCall) : List Int := calls.flatMap GuardCall.readings

def GuardCall.event? : GuardCall → Option GuardEvent
  | .event e => some e
  | .query _ => none

/-- The events among the calls, with their readings. -/
def eventsOf (calls : List GuardCall) : List GuardEvent := calls.filterMap GuardCall.event?

namespace SafeModeGuard

variable (o : SafeModeOptions)

def event (g : SafeModeGuard) : GuardEvent → SafeModeGuard
  | .clientRejected clock => g.onClientRejected o clock
  | .anomalyDetected => g.onAnomalyDetected o
  | .clearAnomaly => g.clearAnomaly

def query (g : SafeModeGuard) : GuardQuery → GuardAnswer × SafeModeGuard
  | .state now => (.state (g.state o now).1, (g.state o now).2)
  | .shouldAcceptClients now =>
    (.flag (g.shouldAcceptClients o now).1, (g.shouldAcceptClients o now).2)
  | .cooldownRemaining refreshed now =>
    (.remaining (g.cooldownRemaining o refreshed now).1, (g.cooldownRemaining o refreshed now).2)
  | .isAnomalyLatched => (.flag g.isAnomalyLatched, g)

def call (g : SafeModeGuard) : GuardCall → SafeModeGuard
  | .event e => g.event o e
  | .query q => (g.query o q).2

end SafeModeGuard

/-! ## The specification -/

/-- What the event history says: whether the latch is set, when the last count-triggered Safe Mode
started, and the times of the rejections counted since. -/
structure Reference where
  latched : Bool := false
  started : Option Int := none
  counted : List Int := []
  deriving DecidableEq, Repr

namespace Reference

variable (o : SafeModeOptions) (r : Reference)

/-- Count-triggered Safe Mode lasts from its start to the end of the cooldown. -/
def safeAt (t : Int) : Bool :=
  match r.started with
  | some t₀ => t < t₀ + ticks o.cooldown
  | none => false

/-- The counted rejections in `(t - window, t]`, the one at `recorded` included. -/
def inWindow (recorded t : Int) : List Int :=
  (r.counted ++ [recorded]).filter fun x => t - ticks o.countingWindow < x ∧ x ≤ t

/-- A rejection counts unless the latch is set or Safe Mode lasts; with enough of them in the window
Safe Mode starts, and counting starts over. -/
def next : GuardEvent → Reference
  | .anomalyDetected => { r with latched := true }
  | .clearAnomaly => { r with latched := false }
  | .clientRejected clock =>
    if r.latched || r.safeAt o clock.refresh then r
    else if (r.inWindow o clock.recorded clock.prune).length ≥ o.failuresToEnter then
      { r with started := some clock.entered, counted := [] }
    else { r with counted := r.counted ++ [clock.recorded] }

/-- The reference after a history of events. -/
def ofHistory (history : List GuardEvent) : Reference := run (next o) {} history

def answer : GuardQuery → GuardAnswer
  | .state now => .state (if r.latched || r.safeAt o now then .safeMode else .normal)
  | .shouldAcceptClients now => .flag (!r.latched && !r.safeAt o now)
  | .cooldownRemaining refreshed now =>
    match r.latched, r.safeAt o refreshed, r.started with
    | false, true, some t₀ => .remaining (max 0 ((t₀ + ticks o.cooldown - now).tdiv 1000000))
    | _, _, _ => .remaining 0
  | .isAnomalyLatched => .flag r.latched

end Reference

/-- What the guard computes from the clock fits in 64 bits: the two durations, the far ends of window
and cooldown, and the rest of a cooldown. -/
structure ClockFits (o : SafeModeOptions) (clock : List Int) : Prop where
  window : IsInt64 (ticks o.countingWindow)
  cooldown : IsInt64 (ticks o.cooldown)
  cutoff : ∀ t ∈ clock, IsInt64 (t - ticks o.countingWindow)
  expiry : ∀ t ∈ clock, IsInt64 (t + ticks o.cooldown)
  remaining : ∀ t ∈ clock, ∀ t' ∈ clock, t ≤ t' → IsInt64 (t + ticks o.cooldown - t')

/-! ## The guard tracks the reference -/

section Arithmetic

variable {o : SafeModeOptions} {clock : List Int} {t t' : Int}

/-- A clock that starts at zero needs the counting window and the end of each cooldown to fit. -/
theorem ClockFits.of_nonneg (hwindow : 0 ≤ o.countingWindow) (hcooldown : 0 ≤ o.cooldown)
    (hfit : ticks o.countingWindow < 2 ^ 63) (hrest : ticks o.cooldown < 2 ^ 63)
    (h : ∀ t ∈ clock, 0 ≤ t ∧ t + ticks o.cooldown < 2 ^ 63) : ClockFits o clock := by
  have hw : 0 ≤ ticks o.countingWindow := by unfold ticks; omega
  have hc : 0 ≤ ticks o.cooldown := by unfold ticks; omega
  refine ⟨⟨by omega, hfit⟩, ⟨by omega, hrest⟩, ?_, ?_, ?_⟩
  · intro t ht
    obtain ⟨hpos, hend⟩ := h t ht
    exact ⟨by omega, by omega⟩
  · intro t ht
    obtain ⟨hpos, hend⟩ := h t ht
    exact ⟨by omega, hend⟩
  · intro t ht t' ht' hle
    obtain ⟨hpos, hend⟩ := h t ht
    obtain ⟨hpos', hend'⟩ := h t' ht'
    exact ⟨by omega, by omega⟩

theorem ClockFits.cutoff_eq (h : ClockFits o clock) (ht : t ∈ clock) :
    toInt64 (t - toInt64 (ticks o.countingWindow)) = t - ticks o.countingWindow := by
  rw [toInt64_of_isInt64 h.window, toInt64_of_isInt64 (h.cutoff t ht)]

theorem ClockFits.expiry_eq (h : ClockFits o clock) (ht : t ∈ clock) :
    toInt64 (t + toInt64 (ticks o.cooldown)) = t + ticks o.cooldown := by
  rw [toInt64_of_isInt64 h.cooldown, toInt64_of_isInt64 (h.expiry t ht)]

end Arithmetic

/-- Guard and reference agree at time `t`. While the cooldown runs nothing is counted; otherwise the
stored times are the counted ones, but for some that the window has left behind. -/
structure Tracks (o : SafeModeOptions) (clock : List Int) (t : Int) (g : SafeModeGuard)
    (r : Reference) : Prop where
  latch : g.anomalyLatched = r.latched
  sorted : r.counted.Pairwise (· ≤ ·)
  past : ∀ x ∈ r.counted, x ≤ t
  safe : g.safeMode = true →
    r.counted = [] ∧ ∃ t₀ ∈ clock, t₀ ≤ t ∧ r.started = some t₀ ∧
      g.cooldownUntil = t₀ + ticks o.cooldown
  normal : g.safeMode = false →
    r.safeAt o t = false ∧
      ∃ c ≤ t - ticks o.countingWindow, g.failureTimes = r.counted.filter (c < ·)

theorem Reference.safeAt_mono {o : SafeModeOptions} {r : Reference} {t t' : Int} (hle : t ≤ t')
    (h : r.safeAt o t = false) : r.safeAt o t' = false := by
  simp only [Reference.safeAt] at h ⊢
  split
  · rename_i t₀ hs
    simp only [hs, decide_eq_false_iff_not] at h ⊢
    omega
  · rfl

/-- Dropping the expired times from the front of an ordered list drops them all. -/
theorem dropWhile_le_eq_filter {l : List Int} (h : l.Pairwise (· ≤ ·)) (c : Int) :
    l.dropWhile (fun t => t ≤ c) = l.filter (c < ·) := by
  induction l with
  | nil => rfl
  | cons x l ih =>
    rw [List.pairwise_cons] at h
    by_cases hx : x ≤ c
    · rw [List.dropWhile_cons_of_pos (by simpa using hx),
        List.filter_cons_of_neg (by simpa using hx), ih h.2]
    · rw [List.dropWhile_cons_of_neg (by simpa using hx)]
      refine (List.filter_eq_self.mpr ?_).symm
      intro y hy
      rcases List.mem_cons.mp hy with rfl | hy
      · simpa using hx
      · have := h.1 y hy
        simp only [decide_eq_true_eq]
        omega

theorem filter_filter_of_le {l : List Int} {c c' : Int} (h : c ≤ c') :
    (l.filter (c < ·)).filter (c' < ·) = l.filter (c' < ·) := by
  rw [List.filter_filter]
  refine List.filter_congr fun x _ => ?_
  by_cases hx : c' < x
  · have : c < x := by omega
    simp [hx, this]
  · simp [hx]

section Steps

variable {o : SafeModeOptions} {clock : List Int} {t t' : Int} {g : SafeModeGuard} {r : Reference}

/-- Time passes without a call. -/
theorem Tracks.later (h : Tracks o clock t g r) (hle : t ≤ t') : Tracks o clock t' g r where
  latch := h.latch
  sorted := h.sorted
  past x hx := Int.le_trans (h.past x hx) hle
  safe hs := by
    obtain ⟨hnil, t₀, hmem, hpast, hstart⟩ := h.safe hs
    exact ⟨hnil, t₀, hmem, Int.le_trans hpast hle, hstart⟩
  normal hs := by
    obtain ⟨hsafe, c, hc, hf⟩ := h.normal hs
    exact ⟨Reference.safeAt_mono hle hsafe, c, by omega, hf⟩

theorem pruneExpired_failureTimes (hfits : ClockFits o clock) (ht : t ∈ clock)
    (hs : g.failureTimes.Pairwise (· ≤ ·)) :
    (g.pruneExpired o t).failureTimes = g.failureTimes.filter (t - ticks o.countingWindow < ·) := by
  simp only [SafeModeGuard.pruneExpired, hfits.cutoff_eq ht]
  exact dropWhile_le_eq_filter hs _

/-- `Refresh` keeps guard and reference together. -/
theorem Tracks.refresh (h : Tracks o clock t g r) (hfits : ClockFits o clock) (ht : t ∈ clock) :
    Tracks o clock t (g.refresh o t) r := by
  simp only [SafeModeGuard.refresh]
  split
  · exact h
  split
  · rename_i hs
    obtain ⟨hnil, t₀, _, _, hstart, huntil⟩ := h.safe hs
    split
    · rename_i hexp
      refine ⟨h.latch, h.sorted, h.past, fun h => by simp at h,
        fun _ => ⟨?_, t - ticks o.countingWindow, Int.le_refl _, by simp [hnil]⟩⟩
      simp only [Reference.safeAt, hstart, decide_eq_false_iff_not]
      omega
    · exact h
  · rename_i hs
    obtain ⟨hsafe, c, hc, hf⟩ := h.normal (by simpa using hs)
    refine ⟨h.latch, h.sorted, h.past, fun h => absurd h hs,
      fun _ => ⟨hsafe, _, Int.le_refl _, ?_⟩⟩
    rw [pruneExpired_failureTimes hfits ht (hf ▸ h.sorted.filter _), hf, filter_filter_of_le hc]

/-- After `Refresh` an unlatched guard is in Safe Mode exactly when the reference says so. -/
theorem Tracks.refresh_safeMode (h : Tracks o clock t g r) (hl : r.latched = false) :
    (g.refresh o t).safeMode = r.safeAt o t := by
  have hl' : g.anomalyLatched = false := h.latch.trans hl
  cases hs : g.safeMode with
  | false => simp [SafeModeGuard.refresh, SafeModeGuard.pruneExpired, hl', hs, (h.normal hs).1]
  | true =>
    obtain ⟨_, t₀, _, _, hstart, huntil⟩ := h.safe hs
    simp only [SafeModeGuard.refresh, hl', hs, Reference.safeAt, hstart, huntil, Bool.false_eq_true,
      if_false, if_true, ge_iff_le]
    split
    · rename_i hexp
      exact (decide_eq_false (Int.not_lt.mpr hexp)).symm
    · rename_i hexp
      exact hs.trans (decide_eq_true (Int.not_le.mp hexp)).symm

theorem Tracks.sorted_snoc (h : Tracks o clock t g r) : (r.counted ++ [t]).Pairwise (· ≤ ·) := by
  rw [List.pairwise_append]
  refine ⟨h.sorted, by simp, ?_⟩
  intro x hx y hy
  rw [List.mem_singleton.mp hy]
  exact h.past x hx

theorem Tracks.past_snoc (h : Tracks o clock t g r) (hle : t ≤ t') :
    ∀ x ∈ r.counted ++ [t], x ≤ t' := by
  intro x hx
  rcases List.mem_append.mp hx with hx | hx
  · exact Int.le_trans (h.past x hx) hle
  · exact Int.le_trans (Int.le_of_eq (List.mem_singleton.mp hx)) hle

theorem Tracks.inWindow_eq (h : Tracks o clock t g r) (hle : t ≤ t') :
    r.inWindow o t t' = (r.counted ++ [t]).filter (t' - ticks o.countingWindow < ·) :=
  List.filter_congr fun x hx => by simp [h.past_snoc hle x hx]

/-- What is stored after the push at `t` and the prune at `t'` is what the reference finds in the
window. -/
theorem Tracks.pushed_eq_inWindow (h : Tracks o clock t g r) (hfits : ClockFits o clock)
    (hs : g.safeMode = false) (hle : t ≤ t') (ht' : t' ∈ clock) :
    ({ g with failureTimes := g.failureTimes ++ [t] }.pruneExpired o t').failureTimes =
      r.inWindow o t t' := by
  obtain ⟨_, c, hc, hf⟩ := h.normal hs
  have hsorted : (r.counted.filter (c < ·) ++ [t]).Pairwise (· ≤ ·) :=
    h.sorted_snoc.sublist (List.filter_sublist.append_right [t])
  rw [pruneExpired_failureTimes hfits ht' (hf ▸ hsorted), hf, h.inWindow_eq hle, List.filter_append,
    filter_filter_of_le (by omega), ← List.filter_append]

/-- The readings of one rejection come one after the other. -/
theorem Tracks.onClientRejected {clock' : RejectionReadings} (h : Tracks o clock clock'.refresh g r)
    (hfits : ClockFits o clock) (he : o.enabled = true)
    (hmem : ∀ t ∈ (GuardCall.event (.clientRejected clock')).readings, t ∈ clock)
    (hmono : (GuardCall.event (.clientRejected clock')).readings.Pairwise (· ≤ ·)) :
    Tracks o clock clock'.entered (g.onClientRejected o clock')
      (r.next o (.clientRejected clock')) := by
  obtain ⟨refreshed, recorded, prune, entered⟩ := clock'
  simp only [GuardCall.readings, List.pairwise_cons, List.mem_cons, List.not_mem_nil, or_false,
    forall_eq_or_imp, forall_eq] at hmem hmono
  obtain ⟨hrefreshed, _, hprune, hentered⟩ := hmem
  obtain ⟨⟨hle₁, _, hle⟩, ⟨hle₂, _⟩, hle₃, _⟩ := hmono
  have hr := h.refresh hfits hrefreshed
  have hsafe := h.refresh_safeMode
  simp only [SafeModeGuard.onClientRejected, Reference.next, he, Bool.not_true, Bool.false_eq_true,
    if_false]
  generalize g.refresh o refreshed = g' at hr hsafe
  have hstop : (g'.safeMode || g'.anomalyLatched) = (r.latched || r.safeAt o refreshed) := by
    cases hl : r.latched with
    | true => simp [hr.latch, hl]
    | false => simp [hr.latch, hl, hsafe hl]
  rw [hstop]
  by_cases hs : (r.latched || r.safeAt o refreshed) = true
  · rw [if_pos hs, if_pos hs]
    exact hr.later hle
  · rw [if_neg hs, if_neg hs]
    have hmode : g'.safeMode = false := by
      rw [← hstop] at hs
      simp_all
    have hpush := hr.later hle₁
    have hwindow := hpush.pushed_eq_inWindow hfits hmode hle₂ hprune
    rw [hwindow]
    split
    · refine ⟨hr.latch, .nil, by simp, fun _ => ⟨rfl, entered, hentered, Int.le_refl _, rfl, ?_⟩,
        fun h => by simp at h⟩
      exact hfits.expiry_eq hentered
    · refine Tracks.later (t := prune) ⟨hr.latch, hpush.sorted_snoc, hpush.past_snoc hle₂,
        fun hm => ?_, fun _ => ?_⟩ hle₃
      · exact absurd (hmode.symm.trans hm) (by simp)
      · exact ⟨((hpush.later hle₂).normal hmode).1, _, Int.le_refl _,
          hwindow.trans (hpush.inWindow_eq hle₂)⟩

/-- Where a call stands among the readings: it begins at `t` or later and is over at `t'`. -/
structure Between (t : Int) (c : GuardCall) (t' : Int) : Prop where
  started : ∀ x ∈ c.readings, t ≤ x
  ordered : c.readings.Pairwise (· ≤ ·)
  ended : ∀ x ∈ t :: c.readings, x ≤ t'

theorem Tracks.event (h : Tracks o clock t g r) (hfits : ClockFits o clock) (he : o.enabled = true)
    {e : GuardEvent} (hmem : ∀ x ∈ (GuardCall.event e).readings, x ∈ clock)
    (hbetween : Between t (.event e) t') : Tracks o clock t' (g.event o e) (r.next o e) := by
  have hlate := h.later (hbetween.ended t List.mem_cons_self)
  cases e with
  | clientRejected readings =>
    have hfirst := h.later (hbetween.started readings.refresh List.mem_cons_self)
    refine (hfirst.onClientRejected hfits he hmem hbetween.ordered).later ?_
    exact hbetween.ended _ (by simp [GuardCall.readings])
  | anomalyDetected =>
    simp only [SafeModeGuard.event, SafeModeGuard.onAnomalyDetected, he, Bool.not_true,
      Bool.false_eq_true, if_false]
    exact ⟨rfl, hlate.sorted, hlate.past, hlate.safe, hlate.normal⟩
  | clearAnomaly => exact ⟨rfl, hlate.sorted, hlate.past, hlate.safe, hlate.normal⟩

/-- A query leaves the guard as `Refresh` does at its first reading, or alone. -/
theorem query_guard (o : SafeModeOptions) (g : SafeModeGuard) (q : GuardQuery) :
    (g.query o q).2 = g ∨
      ∃ now ∈ (GuardCall.query q).readings, (g.query o q).2 = g.refresh o now := by
  cases q with
  | state now =>
    refine .inr ⟨now, by simp [GuardCall.readings], ?_⟩
    simp only [SafeModeGuard.query, SafeModeGuard.state]
    split
    · rfl
    · split <;> rfl
  | shouldAcceptClients now => exact .inr ⟨now, by simp [GuardCall.readings], rfl⟩
  | cooldownRemaining refreshed now =>
    refine .inr ⟨refreshed, by simp [GuardCall.readings], ?_⟩
    simp only [SafeModeGuard.query, SafeModeGuard.cooldownRemaining]
    split <;> rfl
  | isAnomalyLatched => exact .inl rfl

theorem Tracks.query (h : Tracks o clock t g r) (hfits : ClockFits o clock) {q : GuardQuery}
    (hmem : ∀ x ∈ (GuardCall.query q).readings, x ∈ clock) (hbetween : Between t (.query q) t') :
    Tracks o clock t' (g.query o q).2 r := by
  rcases query_guard o g q with heq | ⟨now, hnow, heq⟩
  · rw [heq]
    exact h.later (hbetween.ended t List.mem_cons_self)
  · rw [heq]
    have hrefreshed := (h.later (hbetween.started now hnow)).refresh hfits (hmem now hnow)
    exact hrefreshed.later (hbetween.ended now (List.mem_cons_of_mem _ hnow))

/-- The rest of a cooldown, as guard and reference compute it. -/
theorem Tracks.remaining (h : Tracks o clock t g r) (hfits : ClockFits o clock)
    (hsafe : g.safeMode = true) (hle : t ≤ t') (ht' : t' ∈ clock) :
    ∃ t₀, r.started = some t₀ ∧
      (if (toInt64 (g.cooldownUntil - t')).tdiv 1000000 > 0 then
          (toInt64 (g.cooldownUntil - t')).tdiv 1000000 else 0) =
        max 0 ((t₀ + ticks o.cooldown - t').tdiv 1000000) := by
  obtain ⟨_, t₀, hmem, hpast, hstart, huntil⟩ := h.safe hsafe
  refine ⟨t₀, hstart, ?_⟩
  rw [huntil, toInt64_of_isInt64 (hfits.remaining t₀ hmem t' ht' (Int.le_trans hpast hle))]
  omega

theorem Tracks.answer (h : Tracks o clock t g r) (hfits : ClockFits o clock) (he : o.enabled = true)
    {q : GuardQuery} (hmem : ∀ x ∈ (GuardCall.query q).readings, x ∈ clock)
    (hbetween : Between t (.query q) t') : (g.query o q).1 = r.answer o q := by
  cases q with
  | isAnomalyLatched =>
    simp [SafeModeGuard.query, SafeModeGuard.isAnomalyLatched, Reference.answer, h.latch]
  | state now =>
    have hnow := (h.later (hbetween.started now (by simp [GuardCall.readings])))
    have hr := hnow.refresh hfits (hmem now (by simp [GuardCall.readings]))
    simp only [SafeModeGuard.query, SafeModeGuard.state, Reference.answer, hr.latch]
    cases hlat : r.latched with
    | true => simp
    | false =>
      simp only [hnow.refresh_safeMode hlat, Bool.false_eq_true, if_false, Bool.false_or]
      split <;> rfl
  | shouldAcceptClients now =>
    have hnow := (h.later (hbetween.started now (by simp [GuardCall.readings])))
    have hr := hnow.refresh hfits (hmem now (by simp [GuardCall.readings]))
    simp only [SafeModeGuard.query, SafeModeGuard.shouldAcceptClients, Reference.answer, hr.latch, he]
    cases hlat : r.latched with
    | true => simp
    | false => simp [hnow.refresh_safeMode hlat]
  | cooldownRemaining refreshed now =>
    have hfirst := (h.later (hbetween.started refreshed (by simp [GuardCall.readings])))
    have hr := hfirst.refresh hfits (hmem refreshed (by simp [GuardCall.readings]))
    have hle : refreshed ≤ now := by simpa [GuardCall.readings] using hbetween.ordered
    simp only [SafeModeGuard.query, SafeModeGuard.cooldownRemaining, Reference.answer, hr.latch]
    cases hlat : r.latched with
    | true => simp
    | false =>
      have hmode := hfirst.refresh_safeMode hlat
      cases hsafe : r.safeAt o refreshed with
      | false => simp [hmode, hsafe]
      | true =>
        obtain ⟨t₀, hstart, hrest⟩ :=
          hr.remaining hfits (hmode.trans hsafe) hle (hmem now (by simp [GuardCall.readings]))
        simp only [hmode, hsafe, hstart, Bool.not_true, Bool.or_self, Bool.false_eq_true, if_false]
        rw [hrest]

theorem Tracks.call (h : Tracks o clock t g r) (hfits : ClockFits o clock) (he : o.enabled = true)
    (c : GuardCall) (hmem : ∀ x ∈ c.readings, x ∈ clock) (hbetween : Between t c t') :
    Tracks o clock t' (g.call o c) (run (Reference.next o) r (eventsOf [c])) := by
  cases c with
  | event e => exact h.event hfits he hmem hbetween
  | query q => exact h.query hfits hmem hbetween

/-- A call comes after what was read before it and before what is read later. -/
theorem between_of_ordered {c : GuardCall} {later : List Int}
    (h : (t :: (c.readings ++ later)).Pairwise (· ≤ ·)) :
    ∃ t', Between t c t' ∧ (t' :: later).Pairwise (· ≤ ·) := by
  rw [← List.cons_append, List.pairwise_append] at h
  obtain ⟨hcall, hlater, hcross⟩ := h
  obtain ⟨hstarted, hordered⟩ := List.pairwise_cons.mp hcall
  -- the call is over at the last of its readings
  obtain ⟨first, last, hlast⟩ := (t :: c.readings).eq_nil_or_concat.resolve_left (by simp)
  refine ⟨last, ⟨hstarted, hordered, fun x hx => ?_⟩, List.pairwise_cons.mpr ⟨?_, hlater⟩⟩
  · rw [hlast, List.concat_eq_append] at hcall hx
    rcases List.mem_append.mp hx with hx | hx
    · exact (List.pairwise_append.mp hcall).2.2 x hx last (by simp)
    · exact Int.le_of_eq (List.mem_singleton.mp hx)
  · exact hcross last (by simp [hlast])

theorem clockOf_cons (c : GuardCall) (calls : List GuardCall) :
    clockOf (c :: calls) = c.readings ++ clockOf calls := rfl

/-- A whole run, up to a query at its end. -/
theorem Tracks.run (hfits : ClockFits o clock) (he : o.enabled = true) {q : GuardQuery}
    (calls : List GuardCall) (h : Tracks o clock t g r)
    (hmem : ∀ x ∈ clockOf (calls ++ [.query q]), x ∈ clock)
    (hmono : (t :: clockOf (calls ++ [.query q])).Pairwise (· ≤ ·)) :
    ((run (SafeModeGuard.call o) g calls).query o q).1 =
      (run (Reference.next o) r (eventsOf calls)).answer o q := by
  induction calls generalizing g r t with
  | nil =>
    obtain ⟨t', hbetween, _⟩ := between_of_ordered hmono
    exact h.answer hfits he (fun x hx => hmem x (List.mem_append_left _ hx)) hbetween
  | cons c calls ih =>
    rw [List.cons_append, clockOf_cons] at hmem hmono
    obtain ⟨t', hbetween, hrest⟩ := between_of_ordered hmono
    have hc := h.call hfits he c (fun x hx => hmem x (List.mem_append_left _ hx)) hbetween
    have hsplit : eventsOf (c :: calls) = eventsOf [c] ++ eventsOf calls := by
      simp only [eventsOf, ← List.filterMap_append, List.singleton_append]
    rw [run_cons, hsplit, run_append]
    exact ih hc (fun x hx => hmem x (List.mem_append_right _ hx)) hrest

end Steps

/-- An ordered clock has a time at or before all its readings. -/
theorem exists_start {clock : List Int} (h : clock.Pairwise (· ≤ ·)) :
    ∃ t, (t :: clock).Pairwise (· ≤ ·) := by
  cases clock with
  | nil => exact ⟨0, List.pairwise_singleton _ _⟩
  | cons t clock =>
    refine ⟨t, List.pairwise_cons.mpr ⟨fun x hx => ?_, h⟩⟩
    rcases List.mem_cons.mp hx with rfl | hx
    · exact Int.le_refl x
    · exact (List.pairwise_cons.mp h).1 x hx

theorem Tracks.init (o : SafeModeOptions) (clock : List Int) (t : Int) : Tracks o clock t {} {} where
  latch := rfl
  sorted := .nil
  past := by simp
  safe h := by simp at h
  normal _ := ⟨rfl, _, Int.le_refl _, rfl⟩

/-- The guard's answer to a query after any calls is the answer computed from the events among them,
if the clock does not go back and the guard's arithmetic fits. So it is the same after any other
calls with the same events: queries put in or left out change nothing. -/
theorem guard_refines_reference (o : SafeModeOptions) (he : o.enabled = true)
    (calls : List GuardCall) (q : GuardQuery)
    (hmono : (clockOf (calls ++ [.query q])).Pairwise (· ≤ ·))
    (hfits : ClockFits o (clockOf (calls ++ [.query q]))) :
    ((run (SafeModeGuard.call o) {} calls).query o q).1 =
        (Reference.ofHistory o (eventsOf calls)).answer o q ∧
      ∀ calls' : List GuardCall, (clockOf (calls' ++ [.query q])).Pairwise (· ≤ ·) →
        ClockFits o (clockOf (calls' ++ [.query q])) → eventsOf calls' = eventsOf calls →
        ((run (SafeModeGuard.call o) {} calls').query o q).1 =
          ((run (SafeModeGuard.call o) {} calls).query o q).1 := by
  have key : ∀ cs : List GuardCall, (clockOf (cs ++ [.query q])).Pairwise (· ≤ ·) →
      ClockFits o (clockOf (cs ++ [.query q])) →
      ((run (SafeModeGuard.call o) {} cs).query o q).1 =
        (Reference.ofHistory o (eventsOf cs)).answer o q := by
    intro cs hcs hfit
    obtain ⟨t, ht⟩ := exists_start hcs
    exact (Tracks.init o _ t).run hfit he cs (fun _ hx => hx) ht
  refine ⟨key calls hmono hfits, fun calls' hmono' hfits' heq => ?_⟩
  rw [key calls' hmono' hfits', key calls hmono hfits, heq]

/-- Three rejections within the window start Safe Mode; 1.5 s later half a second remains. The clock
goes on while a rejection is handled. -/
theorem guard_refines_reference_three :
    ((run (SafeModeGuard.call {}) {}
      [.event (.clientRejected ⟨0, 1, 2, 3⟩), .query (.state 10000000),
        .event (.clientRejected ⟨20000000, 20000001, 20000001, 20000002⟩),
        .event (.clientRejected ⟨30000000, 30000003, 30000004, 30000006⟩)]).query {}
      (.cooldownRemaining 1530000000 1530000006)).1 = .remaining 500 :=
  (guard_refines_reference {} rfl _ (.cooldownRemaining 1530000000 1530000006) (by decide)
    (.of_nonneg (by decide) (by decide) (by decide) (by decide) (by decide))).1.trans (by decide)

/-- The longest window there is comes out as one that lies ahead: three rejections at one moment are
forgotten at once, and Safe Mode does not start. -/
theorem longest_window_never_enters :
    let o : SafeModeOptions := { countingWindow := 2 ^ 63 - 1 }
    let calls : List GuardCall := List.replicate 3 (.event (.clientRejected {}))
    IsInt64 o.countingWindow ∧ (clockOf (calls ++ [.query (.state 0)])).Pairwise (· ≤ ·) ∧
      ((run (SafeModeGuard.call o) {} calls).query o (.state 0)).1 = .state .normal ∧
      (Reference.ofHistory o (eventsOf calls)).answer o (.state 0) = .state .safeMode := by
  decide

end Service
end CppOptimizer
