import Mathlib.Data.List.Chain
import Mathlib.Data.List.Nodup
import CppOptimizer.Process.Generations

/-!
# CppOptimizer.Process.Lifecycle

The lifecycle events that a sequence of polls emits.

* `WatchLog`   — the watch together with every transition emitted so far.
* `Slot`       — a game and a pid. The diff treats the slots independently: `lifeStep` is what it does
  to one of them, and `diff_slot` says so.
* `Chained`    — the events of one life: it starts, and each event leaves from where the last one led.
* `RestartsExiting` — the poll finds another process under a pid whose old life is on its way out.

The restart branch emits "exiting" for the old life from whatever state that life was in. The branch
for a process that goes on asks first whether the state changes at all.
-/

namespace CppOptimizer
namespace Process

open Lib

structure WatchLog where
  watch : Watch := {}
  emitted : List ProcessTransition := []

def WatchLog.poll (w : WatchLog) (presence : List GamePresence) : WatchLog :=
  { watch := w.watch.poll presence
    emitted := w.emitted ++
      (diffProcessPresence w.watch.tracked presence w.watch.nextGeneration).transitions }

/-- A game and a pid. -/
abbrev Slot := String × UInt32

def ProcessInfo.slot (info : ProcessInfo) : Slot := (info.gameId, info.pid)

def GamePresence.slot (item : GamePresence) : Slot := (item.gameId, item.pid)

def ProcessTransition.slot (t : ProcessTransition) : Slot := (t.gameId, t.info.pid)

def rowsAt (k : Slot) (rows : List ProcessInfo) : List ProcessInfo :=
  rows.filter fun row => row.slot = k

def eventsAt (k : Slot) (ts : List ProcessTransition) : List ProcessTransition :=
  ts.filter fun t => t.slot = k

/-- The events of one generation. -/
def ofGeneration (g : UInt64) (ts : List ProcessTransition) : List ProcessTransition :=
  ts.filter fun t => t.info.generation = g

/-- The events of one life, in the order they were emitted. -/
structure Chained (ts : List ProcessTransition) : Prop where
  first : ∀ t ∈ ts.head?, t.previous = .notRunning ∧ t.current = .starting
  linked : ts.IsChain fun a b => b.previous = a.current
  moves : ∀ t ∈ ts, t.previous ≠ t.current

/-- Every life is a chain, and a row of the table is in the state its chain has come to. -/
structure LifecyclesChain (w : WatchLog) : Prop where
  chained : ∀ k g, Chained (ofGeneration g (eventsAt k w.emitted))
  stored : ∀ row ∈ w.watch.tracked,
    ∃ t, (ofGeneration row.generation (eventsAt row.slot w.emitted)).getLast? = some t ∧
      row.state = t.current

/-- A pid whose row is exiting is seen again under another creation time. -/
def RestartsExiting (w : Watch) (presence : List GamePresence) : Prop :=
  ∃ item ∈ presence, item.pid ≠ 0 ∧
    ∃ prev, findTracked w.tracked item.gameId item.pid = some prev ∧
      isRestart prev item = true ∧ prev.state = .exiting

/-! ## One slot -/

def startEvent (item : GamePresence) (g : UInt64) : ProcessTransition :=
  { gameId := item.gameId, previous := .notRunning, current := .starting,
    info := toProcessInfo item .starting g }

/-- What a poll does to one slot: `row` is the row of the slot, `item` what the poll sees there, `g`
the generation a new life would get. -/
def lifeStep (row : Option ProcessInfo) (item : Option GamePresence) (g : UInt64) :
    Option ProcessInfo × List ProcessTransition :=
  match item, row with
  | some item, none => (some (toProcessInfo item .starting g), [startEvent item g])
  | some item, some prev =>
    if isRestart prev item = true then
      (some (toProcessInfo item .starting g),
        [{ gameId := item.gameId, previous := prev.state, current := .exiting, info := prev },
          startEvent item g])
    else
      let info := toProcessInfo item .running prev.generation
      (some info,
        if prev.state ≠ .running then
          [{ gameId := item.gameId, previous := prev.state, current := .running, info := info }]
        else [])
  | none, none => (none, [])
  | none, some prev =>
    match prev.state with
    | .starting | .running | .suspended =>
      let info := { prev with state := .exiting }
      (some info,
        [{ gameId := prev.gameId, previous := prev.state, current := .exiting, info := info }])
    | .exiting =>
      (none,
        [{ gameId := prev.gameId, previous := prev.state, current := .notRunning, info := prev }])
    | .notRunning => (none, [])

/-- The poll starts a new life in the slot. -/
def startsLife (row : Option ProcessInfo) (item : Option GamePresence) : Bool :=
  match item, row with
  | some _, none => true
  | some item, some prev => isRestart prev item
  | none, _ => false

/-- What the poll sees in a slot; an item without a pid is not looked at. -/
def itemAt (k : Slot) (presence : List GamePresence) : Option GamePresence :=
  if k.2 = 0 then none else presence.find? fun item => item.slot = k

@[simp] theorem rowsAt_append (k : Slot) (a b : List ProcessInfo) :
    rowsAt k (a ++ b) = rowsAt k a ++ rowsAt k b := List.filter_append ..

@[simp] theorem eventsAt_append (k : Slot) (a b : List ProcessTransition) :
    eventsAt k (a ++ b) = eventsAt k a ++ eventsAt k b := List.filter_append ..

@[simp] theorem ofGeneration_append (g : UInt64) (a b : List ProcessTransition) :
    ofGeneration g (a ++ b) = ofGeneration g a ++ ofGeneration g b := List.filter_append ..

theorem findTracked_eq (rows : List ProcessInfo) (k : Slot) :
    findTracked rows k.1 k.2 = (rowsAt k rows).head? := by
  rw [rowsAt, List.head?_filter, findTracked]
  congr 1
  funext row
  simp [ProcessInfo.slot, Prod.ext_iff]

theorem findTracked_of_rows {rows : List ProcessInfo} {item : GamePresence} {row : Option ProcessInfo}
    (h : rowsAt item.slot rows = row.toList) : findTracked rows item.gameId item.pid = row := by
  have hfind := findTracked_eq rows item.slot
  rw [h] at hfind
  rw [show findTracked rows item.gameId item.pid = findTracked rows item.slot.1 item.slot.2 from rfl,
    hfind]
  cases row <;> rfl

theorem presenceHas_slot {presence : List GamePresence} {k : Slot} :
    presenceHas presence k.1 k.2 = true ↔ k ∈ presence.map GamePresence.slot := by
  rw [presenceHas_iff]
  simp [GamePresence.slot, Prod.ext_iff]

theorem itemAt_some {k : Slot} {presence : List GamePresence} {item : GamePresence}
    (h : itemAt k presence = some item) : item ∈ presence ∧ item.slot = k ∧ item.pid ≠ 0 := by
  unfold itemAt at h
  split at h
  · cases h
  · rename_i hpid
    have hslot : item.slot = k := by simpa using List.find?_some h
    refine ⟨List.mem_of_find?_eq_some h, hslot, ?_⟩
    rw [← hslot] at hpid
    exact hpid

/-- What a poll sees in a slot that it does not look at has no pid. -/
theorem pid_of_itemAt_none {k : Slot} {presence : List GamePresence} {item : GamePresence}
    (h : itemAt k presence = none) (hmem : item ∈ presence) (hslot : item.slot = k) :
    item.pid = 0 := by
  unfold itemAt at h
  split at h
  · rename_i hpid
    rw [← hslot] at hpid
    exact hpid
  · have := List.find?_eq_none.mp h item hmem
    simp [hslot] at this

/-! ## The diff, slot by slot -/

section Slots

variable {k : Slot} {previous : List ProcessInfo} {presence : List GamePresence}
  {result : DiffResult}

/-- Two results look alike from a slot. -/
structure SameAt (k : Slot) (result result' : DiffResult) : Prop where
  rows : rowsAt k result'.tracked = rowsAt k result.tracked
  events : eventsAt k result'.transitions = eventsAt k result.transitions

theorem SameAt.refl (k : Slot) (result : DiffResult) : SameAt k result result := ⟨rfl, rfl⟩

theorem SameAt.trans {a b c : DiffResult} (h : SameAt k a b) (h' : SameAt k b c) : SameAt k a c :=
  ⟨h'.rows.trans h.rows, h'.events.trans h.events⟩

theorem foldl_sameAt {α : Type} {f : DiffResult → α → DiffResult} {as : List α}
    (h : ∀ a ∈ as, ∀ result, SameAt k result (f result a)) (result : DiffResult) :
    SameAt k result (as.foldl f result) := by
  induction as generalizing result with
  | nil => exact .refl k result
  | cons a as ih =>
    refine (h a List.mem_cons_self result).trans ?_
    exact ih (fun b hb => h b (List.mem_cons_of_mem _ hb)) (f result a)

theorem rowsAt_single (info : ProcessInfo) :
    rowsAt k [info] = if info.slot = k then [info] else [] := by
  simp [rowsAt, List.filter_cons]

theorem eventsAt_single (t : ProcessTransition) :
    eventsAt k [t] = if t.slot = k then [t] else [] := by
  simp [eventsAt, List.filter_cons]

theorem eventsAt_self {ts : List ProcessTransition} (h : ∀ t ∈ ts, t.slot = k) :
    eventsAt k ts = ts := by
  simpa [eventsAt] using h

theorem toProcessInfo_slot (item : GamePresence) (state : ProcessState) (g : UInt64) :
    (toProcessInfo item state g).slot = item.slot := rfl

theorem start_other {item : GamePresence} (h : item.slot ≠ k) :
    SameAt k result (result.start item) := by
  have hslot : ∀ g, (startEvent item g).slot ≠ k := fun _ => h
  constructor
  · simp [DiffResult.start, rowsAt_single, toProcessInfo_slot, h]
  · have := hslot result.nextGeneration
    simp only [startEvent] at this
    simp [DiffResult.start, eventsAt_single, this]

/-- An item of another slot does nothing here. -/
theorem observe_other {item : GamePresence} (h : item.slot ≠ k) :
    SameAt k result (result.observe previous item) := by
  unfold DiffResult.observe
  split
  · exact .refl k result
  · cases hf : findTracked previous item.gameId item.pid with
    | none => exact start_other h
    | some prev =>
      obtain ⟨_, hgame, hpid⟩ := findTracked_some hf
      dsimp only
      split
      · refine SameAt.trans ?_ (start_other h)
        have hslot : (item.gameId, prev.pid) ≠ k := by
          rw [hpid]
          exact h
        refine ⟨rfl, ?_⟩
        simp [eventsAt_single, ProcessTransition.slot, hslot]
      · constructor
        · simp [rowsAt_single, toProcessInfo_slot, h]
        · split
          · have hslot : (item.gameId, item.pid) ≠ k := h
            simp [eventsAt_single, ProcessTransition.slot, toProcessInfo, hslot]
          · simp

/-- The item of this slot makes the step of the slot. -/
theorem observe_self {item : GamePresence} {row : Option ProcessInfo} (hitem : item.slot = k)
    (hpid : item.pid ≠ 0) (hrow : rowsAt k previous = row.toList)
    (hrows : rowsAt k result.tracked = []) (hevents : eventsAt k result.transitions = []) :
    rowsAt k (result.observe previous item).tracked =
        (lifeStep row (some item) result.nextGeneration).1.toList ∧
      eventsAt k (result.observe previous item).transitions =
        (lifeStep row (some item) result.nextGeneration).2 := by
  subst hitem
  have hfind := findTracked_of_rows hrow
  unfold DiffResult.observe
  rw [if_neg hpid, hfind]
  cases row with
  | none =>
    refine ⟨?_, ?_⟩
    · simp [DiffResult.start, lifeStep, rowsAt_single, toProcessInfo_slot, hrows]
    · show eventsAt item.slot (result.transitions ++ [startEvent item result.nextGeneration]) = _
      rw [eventsAt_append, hevents, List.nil_append, eventsAt_self]
      · rfl
      · intro t ht
        rw [List.mem_singleton.mp ht]
        rfl
  | some prev =>
    obtain ⟨_, hgame, hprevPid⟩ := findTracked_some hfind
    by_cases hrestart : isRestart prev item = true
    · simp only [hrestart, if_true]
      refine ⟨?_, ?_⟩
      · simp [DiffResult.start, lifeStep, hrestart, rowsAt_single, toProcessInfo_slot, hrows]
      · show eventsAt item.slot ((result.transitions ++ [_]) ++ [startEvent item _]) = _
        rw [eventsAt_append, eventsAt_append, hevents, List.nil_append, eventsAt_self, eventsAt_self]
        · simp only [lifeStep, hrestart, if_true]
          rfl
        · intro t ht
          rw [List.mem_singleton.mp ht]
          rfl
        · intro t ht
          rw [List.mem_singleton.mp ht]
          exact congrArg (Prod.mk item.gameId) hprevPid
    · simp only [hrestart, if_false, Bool.false_eq_true]
      refine ⟨?_, ?_⟩
      · simp [lifeStep, hrestart, rowsAt_single, toProcessInfo_slot, hrows]
      · rw [eventsAt_append, hevents, List.nil_append, eventsAt_self]
        · simp only [lifeStep, hrestart, if_false, Bool.false_eq_true]
        · intro t ht
          split at ht
          · rw [List.mem_singleton.mp ht]
            rfl
          · cases ht

/-- Whether an item starts a life is seen from its slot. -/
theorem startsNew_eq {item : GamePresence} {row : Option ProcessInfo} (hpid : item.pid ≠ 0)
    (hrow : rowsAt item.slot previous = row.toList) :
    startsNew previous item = startsLife row (some item) := by
  rw [startsNew, findTracked_of_rows hrow]
  cases row <;> simp [startsLife, hpid]

theorem miss_other {prev : ProcessInfo} (h : prev.slot ≠ k) :
    SameAt k result (result.miss presence prev) := by
  have hslot : (prev.gameId, prev.pid) ≠ k := h
  unfold DiffResult.miss
  split
  · exact .refl k result
  · cases hstate : prev.state with
    | notRunning => exact .refl k result
    | exiting => exact ⟨rfl, by simp [eventsAt_single, ProcessTransition.slot, hslot]⟩
    | starting | running | suspended =>
      refine ⟨?_, ?_⟩
      · simp [rowsAt_single, ProcessInfo.slot, hslot]
      · simp [eventsAt_single, ProcessTransition.slot, hslot]

theorem miss_seen {prev : ProcessInfo} (hseen : k ∈ presence.map GamePresence.slot)
    (h : prev.slot = k) : SameAt k result (result.miss presence prev) := by
  subst h
  have hhas : presenceHas presence prev.gameId prev.pid = true := presenceHas_slot.mpr hseen
  unfold DiffResult.miss
  rw [if_pos hhas]
  exact .refl _ result

/-- A row that is not seen makes the step of its slot. -/
theorem miss_self {prev : ProcessInfo} (hunseen : k ∉ presence.map GamePresence.slot)
    (h : prev.slot = k) (g : UInt64) (hrows : rowsAt k result.tracked = [])
    (hevents : eventsAt k result.transitions = []) :
    rowsAt k (result.miss presence prev).tracked = (lifeStep (some prev) none g).1.toList ∧
      eventsAt k (result.miss presence prev).transitions = (lifeStep (some prev) none g).2 := by
  subst h
  have hmiss : ¬ presenceHas presence prev.gameId prev.pid = true := fun hseen =>
    hunseen (presenceHas_slot.mp hseen)
  simp only [ProcessInfo.slot] at hrows hevents ⊢
  unfold DiffResult.miss
  rw [if_neg hmiss]
  cases hstate : prev.state with
  | notRunning => simp [lifeStep, hstate, hrows, hevents]
  | exiting =>
    simp [lifeStep, hstate, hrows, hevents, eventsAt_single, ProcessTransition.slot]
  | starting | running | suspended =>
    refine ⟨?_, ?_⟩
    · simp [lifeStep, hstate, hrows, rowsAt_single, ProcessInfo.slot]
    · simp [lifeStep, hstate, hevents, eventsAt_single, ProcessTransition.slot]

theorem foldl_miss_next (rows : List ProcessInfo) (result : DiffResult) :
    (rows.foldl (DiffResult.miss presence) result).nextGeneration = result.nextGeneration := by
  induction rows generalizing result with
  | nil => rfl
  | cons row rows ih =>
    rw [List.foldl_cons, ih]
    exact (miss_cases presence result row).1

/-- The counter after the poll. -/
theorem diff_next (previous : List ProcessInfo) {presence : List GamePresence} {n : UInt64}
    (hroom : n.toNat + startsIn previous presence < 2 ^ 64) :
    (diffProcessPresence previous presence n).nextGeneration.toNat =
      n.toNat + startsIn previous presence := by
  rw [diffProcessPresence, foldl_miss_next]
  exact foldl_observe_next previous presence { nextGeneration := n } hroom

/-- A generation given to a new life of the slot is new, while the counter has room. -/
def NewGeneration (previous : List ProcessInfo) (presence : List GamePresence) (n g : UInt64)
    (starts : Bool) : Prop :=
  n.toNat + startsIn previous presence < 2 ^ 64 →
    n.toNat ≤ g.toNat ∧ (starts = true → g.toNat < n.toNat + startsIn previous presence)

/-- The first pass, seen from a slot. -/
theorem observed_slot {row : Option ProcessInfo} (n : UInt64) (hrow : rowsAt k previous = row.toList)
    (hunique : (presence.map GamePresence.slot).Nodup) {item : GamePresence}
    (hitem : itemAt k presence = some item) :
    ∃ g : UInt64,
      rowsAt k (presence.foldl (DiffResult.observe previous) { nextGeneration := n }).tracked =
        (lifeStep row (some item) g).1.toList ∧
      eventsAt k (presence.foldl (DiffResult.observe previous) { nextGeneration := n }).transitions =
        (lifeStep row (some item) g).2 ∧
      NewGeneration previous presence n g (startsLife row (some item)) := by
  obtain ⟨hmem, hslot, hpid⟩ := itemAt_some hitem
  obtain ⟨before, after, rfl⟩ := List.append_of_mem hmem
  rw [List.map_append, List.map_cons, List.nodup_middle, List.nodup_cons] at hunique
  have hothers : ∀ d, d ∈ before ∨ d ∈ after → d.slot ≠ k := by
    intro d hd hk
    refine hunique.1 ?_
    rw [hslot, ← hk, ← List.map_append]
    exact List.mem_map_of_mem (List.mem_append.mpr hd)
  have hbefore := foldl_sameAt (k := k) (f := DiffResult.observe previous)
    (fun d hd result => observe_other (hothers d (.inl hd))) { nextGeneration := n }
  have hafter := foldl_sameAt (k := k) (f := DiffResult.observe previous)
    (fun d hd result => observe_other (hothers d (.inr hd)))
  obtain ⟨hrows, hevents⟩ := observe_self hslot hpid hrow hbefore.rows hbefore.events
  rw [List.foldl_append, List.foldl_cons]
  refine ⟨(before.foldl (DiffResult.observe previous) { nextGeneration := n }).nextGeneration, ?_, ?_, ?_⟩
  · rw [(hafter _).rows, hrows]
  · rw [(hafter _).events, hevents]
  · intro hroom
    rw [startsIn_append] at hroom ⊢
    have hfirst := foldl_observe_next previous before { nextGeneration := n }
      (show n.toNat + _ < 2 ^ 64 by omega)
    rw [hfirst]
    refine ⟨Nat.le_add_right _ _, ?_⟩
    intro hstarts
    rw [← hslot] at hrow
    rw [← startsNew_eq hpid hrow] at hstarts
    rw [startsIn_cons, if_pos hstarts]
    show n.toNat + _ < _
    omega

/-- The first pass does nothing in a slot that the poll does not look at. -/
theorem observed_none (previous : List ProcessInfo) (h : itemAt k presence = none)
    (result : DiffResult) :
    SameAt k result (presence.foldl (DiffResult.observe previous) result) := by
  refine foldl_sameAt (fun item hmem result => ?_) result
  by_cases hslot : item.slot = k
  · rw [DiffResult.observe, if_pos (pid_of_itemAt_none h hmem hslot)]
    exact .refl k result
  · exact observe_other hslot

/-- The second pass does nothing in a slot that the poll sees. -/
theorem missed_seen (previous : List ProcessInfo) (hseen : k ∈ presence.map GamePresence.slot)
    (result : DiffResult) :
    SameAt k result (previous.foldl (DiffResult.miss presence) result) := by
  refine foldl_sameAt (fun prev _ result => ?_) result
  by_cases hslot : prev.slot = k
  · exact miss_seen hseen hslot
  · exact miss_other hslot

/-- The second pass does nothing in a slot without a row. -/
theorem missed_none (presence : List GamePresence) (hrow : rowsAt k previous = [])
    (result : DiffResult) :
    SameAt k result (previous.foldl (DiffResult.miss presence) result) := by
  have hnone : ∀ prev ∈ previous, prev.slot ≠ k := by
    simpa [rowsAt, List.filter_eq_nil_iff] using hrow
  exact foldl_sameAt (fun prev hprev result => miss_other (hnone prev hprev)) result

/-- The second pass, seen from a slot the poll does not see. -/
theorem missed_slot {row : Option ProcessInfo} (hrow : rowsAt k previous = row.toList)
    (hunseen : k ∉ presence.map GamePresence.slot) (g : UInt64)
    (hrows : rowsAt k result.tracked = []) (hevents : eventsAt k result.transitions = []) :
    rowsAt k (previous.foldl (DiffResult.miss presence) result).tracked =
        (lifeStep row none g).1.toList ∧
      eventsAt k (previous.foldl (DiffResult.miss presence) result).transitions =
        (lifeStep row none g).2 := by
  cases row with
  | none =>
    have hsame := missed_none presence hrow result
    exact ⟨hsame.rows.trans hrows, hsame.events.trans hevents⟩
  | some prev =>
    obtain ⟨before, after, rfl, hbefore, hslot, hafter⟩ := List.filter_eq_cons_iff.mp hrow
    have hslot' : prev.slot = k := by simpa using hslot
    have hfirst : ∀ other ∈ before, other.slot ≠ k := by
      intro other hother
      simpa using hbefore other hother
    have hlast : ∀ other ∈ after, other.slot ≠ k := by
      simpa [List.filter_eq_nil_iff] using hafter
    have hsame := foldl_sameAt (k := k) (f := DiffResult.miss presence)
      (fun other hother result => miss_other (hfirst other hother)) result
    have hsame' := foldl_sameAt (k := k) (f := DiffResult.miss presence)
      (fun other hother result => miss_other (hlast other hother))
    rw [List.foldl_append, List.foldl_cons]
    obtain ⟨hr, he⟩ := miss_self hunseen hslot' g (hsame.rows.trans hrows)
      (hsame.events.trans hevents)
    exact ⟨(hsame' _).rows.trans hr, (hsame' _).events.trans he⟩

/-- The diff makes, in every slot, the step of that slot. -/
theorem diff_slot (presence : List GamePresence) {row : Option ProcessInfo} (n : UInt64)
    (hrow : rowsAt k previous = row.toList) (hzero : k.2 = 0 → row = none)
    (hunique : (presence.map GamePresence.slot).Nodup) :
    ∃ g : UInt64,
      rowsAt k (diffProcessPresence previous presence n).tracked =
        (lifeStep row (itemAt k presence) g).1.toList ∧
      eventsAt k (diffProcessPresence previous presence n).transitions =
        (lifeStep row (itemAt k presence) g).2 ∧
      NewGeneration previous presence n g (startsLife row (itemAt k presence)) := by
  unfold diffProcessPresence
  cases hitem : itemAt k presence with
  | some item =>
    obtain ⟨g, hrows, hevents, hnew⟩ := observed_slot n hrow hunique hitem
    have hseen : k ∈ presence.map GamePresence.slot := by
      obtain ⟨hmem, hslot, _⟩ := itemAt_some hitem
      exact hslot ▸ List.mem_map_of_mem hmem
    have hsame := missed_seen previous hseen
    exact ⟨g, (hsame _).rows.trans hrows, (hsame _).events.trans hevents, hnew⟩
  | none =>
    have hsame := observed_none previous hitem { nextGeneration := n }
    have hnew : NewGeneration previous presence n n (startsLife row none) := by
      intro _
      refine ⟨Nat.le_refl _, ?_⟩
      intro hstarts
      simp [startsLife] at hstarts
    refine ⟨n, ?_⟩
    by_cases hseen : k ∈ presence.map GamePresence.slot
    · -- the slot is one without a pid, and has no row
      obtain ⟨item, hmem, hslot⟩ := List.mem_map.mp hseen
      have hpid := pid_of_itemAt_none hitem hmem hslot
      have hnone : row = none := hzero (by rw [← hslot]; exact hpid)
      subst hnone
      have hboth := hsame.trans (missed_none presence hrow _)
      exact ⟨hboth.rows, hboth.events, hnew⟩
    · obtain ⟨hrows, hevents⟩ := missed_slot hrow hseen n hsame.rows hsame.events
      exact ⟨hrows, hevents, hnew⟩

end Slots

/-! ## The chain of a slot -/

theorem chained_nil : Chained [] where
  first t ht := by cases ht
  linked := .nil
  moves t ht := by cases ht

theorem chained_start {t : ProcessTransition} (hprevious : t.previous = .notRunning)
    (hcurrent : t.current = .starting) : Chained [t] where
  first t' ht := by
    cases ht
    exact ⟨hprevious, hcurrent⟩
  linked := .singleton t
  moves t' ht := by
    rw [List.mem_singleton.mp ht, hprevious, hcurrent]
    decide

theorem Chained.snoc {ts : List ProcessTransition} (h : Chained ts) {last t : ProcessTransition}
    (hlast : ts.getLast? = some last) (hprevious : t.previous = last.current)
    (hmoves : t.previous ≠ t.current) : Chained (ts ++ [t]) where
  first t' ht := by
    cases ts with
    | nil => cases hlast
    | cons a ts => exact h.first t' ht
  linked := by
    rw [List.isChain_append]
    refine ⟨h.linked, .singleton t, ?_⟩
    intro a ha b hb
    rw [hlast] at ha
    cases ha
    cases hb
    exact hprevious
  moves t' ht := by
    rcases List.mem_append.mp ht with ht | ht
    · exact h.moves t' ht
    · rw [List.mem_singleton.mp ht]
      exact hmoves

/-- The events of a slot and its row: every generation is a chain, all below `n`, and the row is where
its chain has come to. -/
structure SlotInv (n : UInt64) (row : Option ProcessInfo) (ts : List ProcessTransition) : Prop where
  chained : ∀ g, Chained (ofGeneration g ts)
  below : ∀ t ∈ ts, t.info.generation.toNat < n.toNat
  alive : ∀ r ∈ row, r.state ≠ .notRunning
  stored : ∀ r ∈ row, ∃ t, (ofGeneration r.generation ts).getLast? = some t ∧ t.current = r.state

section SlotSteps

variable {n n' : UInt64} {row : Option ProcessInfo} {prev : ProcessInfo}
  {ts : List ProcessTransition} {t : ProcessTransition}

theorem ofGeneration_single (g : UInt64) (t : ProcessTransition) :
    ofGeneration g [t] = if t.info.generation = g then [t] else [] := by
  simp [ofGeneration, List.filter_cons]

/-- The row's life goes on by one event, to a row in its new state or to none. -/
theorem SlotInv.goOn (h : SlotInv n (some prev) ts) (hg : t.info.generation = prev.generation)
    (hprevious : t.previous = prev.state) (hmoves : t.previous ≠ t.current)
    (hn : n.toNat ≤ n'.toNat)
    (hrow : ∀ r ∈ row, r.generation = prev.generation ∧ t.current = r.state ∧
      r.state ≠ .notRunning) : SlotInv n' row (ts ++ [t]) := by
  obtain ⟨last, hlast, hcurrent⟩ := h.stored prev rfl
  have hmem : last ∈ ts := (List.mem_filter.mp (List.mem_of_getLast? hlast)).1
  have hlastg : last.info.generation = prev.generation := by
    simpa using (List.mem_filter.mp (List.mem_of_getLast? hlast)).2
  refine ⟨?_, ?_, fun r hr => (hrow r hr).2.2, ?_⟩
  · intro g
    rw [ofGeneration_append, ofGeneration_single]
    by_cases hgen : t.info.generation = g
    · rw [if_pos hgen]
      rw [hg] at hgen
      subst hgen
      exact (h.chained _).snoc hlast (hprevious.trans hcurrent.symm) hmoves
    · rw [if_neg hgen, List.append_nil]
      exact h.chained g
  · intro t' ht'
    refine Nat.lt_of_lt_of_le ?_ hn
    rcases List.mem_append.mp ht' with ht' | ht'
    · exact h.below t' ht'
    · rw [List.mem_singleton.mp ht', hg, ← hlastg]
      exact h.below last hmem
  · intro r hr
    obtain ⟨hsame, hstate, _⟩ := hrow r hr
    refine ⟨t, ?_, hstate⟩
    rw [hsame, ofGeneration_append, ofGeneration_single, if_pos hg, List.getLast?_concat]

/-- A new life starts under a generation that was not used. -/
theorem SlotInv.newLife (h : SlotInv n row ts) (item : GamePresence) {g : UInt64}
    (hg : n.toNat ≤ g.toNat) (hn : g.toNat < n'.toNat) :
    SlotInv n' (some (toProcessInfo item .starting g)) (ts ++ [startEvent item g]) := by
  have hunused : ofGeneration g ts = [] := by
    rw [ofGeneration, List.filter_eq_nil_iff]
    intro t ht heq
    have hlt := h.below t ht
    rw [decide_eq_true_eq.mp heq] at hlt
    omega
  refine ⟨?_, ?_, ?_, ?_⟩
  · intro g'
    rw [ofGeneration_append, ofGeneration_single]
    by_cases hgen : (startEvent item g).info.generation = g'
    · rw [if_pos hgen]
      have hsame : g = g' := hgen
      rw [← hsame, hunused]
      exact chained_start rfl rfl
    · rw [if_neg hgen, List.append_nil]
      exact h.chained g'
  · intro t ht
    rcases List.mem_append.mp ht with ht | ht
    · have := h.below t ht
      omega
    · rw [List.mem_singleton.mp ht]
      exact hn
  · intro r hr
    cases hr
    intro hdead
    cases hdead
  · intro r hr
    cases hr
    refine ⟨startEvent item g, ?_, rfl⟩
    have hsame : (startEvent item g).info.generation = g := rfl
    rw [ofGeneration_append, ofGeneration_single]
    exact (congrArg List.getLast? (congrArg (_ ++ ·) (if_pos hsame))).trans List.getLast?_concat

theorem SlotInv.later (h : SlotInv n row ts) (hn : n.toNat ≤ n'.toNat) : SlotInv n' row ts :=
  ⟨h.chained, fun t ht => Nat.lt_of_lt_of_le (h.below t ht) hn, h.alive, h.stored⟩

/-- A restart ends the old life and starts another, unless the old one is already exiting. -/
theorem SlotInv.restart (h : SlotInv n (some prev) ts) (item : GamePresence) {g : UInt64}
    (hg : n.toNat ≤ g.toNat) (hn : g.toNat < n'.toNat) (hrestart : isRestart prev item = true)
    (hok : prev.state ≠ .exiting) :
    SlotInv n' (lifeStep (some prev) (some item) g).1
      (ts ++ (lifeStep (some prev) (some item) g).2) := by
  -- in between the slot has no row
  have hended : SlotInv n none (ts ++
      [{ gameId := item.gameId, previous := prev.state, current := .exiting, info := prev }]) :=
    h.goOn rfl rfl hok (Nat.le_refl _) fun _ hr => nomatch hr
  have hnew := hended.newLife item hg hn
  simp only [lifeStep, hrestart, if_true]
  rw [List.append_assoc] at hnew
  exact hnew

theorem SlotInv.seenAgain (h : SlotInv n (some prev) ts) (item : GamePresence) (g : UInt64)
    (hn : n.toNat ≤ n'.toNat) (hrestart : ¬ isRestart prev item = true) :
    SlotInv n' (lifeStep (some prev) (some item) g).1
      (ts ++ (lifeStep (some prev) (some item) g).2) := by
  simp only [lifeStep, hrestart, if_false, Bool.false_eq_true]
  by_cases hrunning : prev.state = .running
  · obtain ⟨last, hlast, hcurrent⟩ := h.stored prev rfl
    rw [if_neg (not_not.mpr hrunning), List.append_nil]
    refine ⟨h.chained, (h.later hn).below, ?_, ?_⟩
    · intro r hr
      cases hr
      intro hdead
      cases hdead
    · intro r hr
      cases hr
      exact ⟨last, hlast, hcurrent.trans hrunning⟩
  · rw [if_pos hrunning]
    refine h.goOn rfl rfl hrunning hn ?_
    intro r hr
    cases hr
    exact ⟨rfl, rfl, fun hdead => nomatch hdead⟩

theorem SlotInv.unseen (h : SlotInv n row ts) (g : UInt64) (hn : n.toNat ≤ n'.toNat) :
    SlotInv n' (lifeStep row none g).1 (ts ++ (lifeStep row none g).2) := by
  cases row with
  | none =>
    rw [lifeStep, List.append_nil]
    exact h.later hn
  | some prev =>
    cases hstate : prev.state with
    | notRunning => exact absurd hstate (h.alive prev rfl)
    | exiting =>
      simp only [lifeStep, hstate]
      exact h.goOn rfl hstate.symm (fun hsame => nomatch hsame) hn fun _ hr => nomatch hr
    | starting | running | suspended =>
      simp only [lifeStep, hstate]
      refine h.goOn rfl hstate.symm (fun hsame => nomatch hsame) hn ?_
      intro r hr
      cases hr
      exact ⟨rfl, rfl, fun hdead => nomatch hdead⟩

/-- One poll keeps the invariant of a slot, unless it restarts a life that is exiting. -/
theorem SlotInv.step (h : SlotInv n row ts) (item : Option GamePresence) {g : UInt64}
    (hg : n.toNat ≤ g.toNat) (hn : n.toNat ≤ n'.toNat)
    (hstarts : startsLife row item = true → g.toNat < n'.toNat)
    (hok : ∀ i ∈ item, ∀ r ∈ row, isRestart r i = true → r.state ≠ .exiting) :
    SlotInv n' (lifeStep row item g).1 (ts ++ (lifeStep row item g).2) := by
  cases item with
  | none => exact h.unseen g hn
  | some item =>
    cases row with
    | none => exact h.newLife item hg (hstarts rfl)
    | some prev =>
      by_cases hrestart : isRestart prev item = true
      · exact h.restart item hg (hstarts hrestart) hrestart (hok item rfl prev rfl hrestart)
      · exact h.seenAgain item g hn hrestart

end SlotSteps

/-! ## Whole runs -/

/-- Every slot has at most one row, and none without a pid. -/
def LogInv (w : WatchLog) : Prop :=
  ∀ k, ∃ row : Option ProcessInfo, rowsAt k w.watch.tracked = row.toList ∧ (k.2 = 0 → row = none) ∧
    SlotInv w.watch.nextGeneration row (eventsAt k w.emitted)

theorem logInv_init : LogInv {} := by
  intro k
  refine ⟨none, rfl, fun _ => rfl, ?_, ?_, ?_, ?_⟩
  · intro g
    exact chained_nil
  · intro t ht
    cases ht
  · intro r hr
    cases hr
  · intro r hr
    cases hr

theorem LogInv.chain {w : WatchLog} (h : LogInv w) : LifecyclesChain w where
  chained k g := by
    obtain ⟨_, _, _, hslot⟩ := h k
    exact hslot.chained g
  stored row hrow := by
    obtain ⟨r, hrows, _, hslot⟩ := h row.slot
    have hmem : row ∈ rowsAt row.slot w.watch.tracked := by
      simpa [rowsAt] using hrow
    rw [hrows, Option.mem_toList] at hmem
    obtain ⟨t, hlast, hcurrent⟩ := hslot.stored row hmem
    exact ⟨t, hlast, hcurrent.symm⟩

theorem itemAt_of_mem {presence : List GamePresence} {item : GamePresence}
    (hunique : (presence.map GamePresence.slot).Nodup) (hmem : item ∈ presence)
    (hpid : item.pid ≠ 0) : itemAt item.slot presence = some item := by
  rw [itemAt, if_neg (show item.slot.2 ≠ 0 from hpid)]
  cases hf : presence.find? fun other => other.slot = item.slot with
  | none =>
    have := List.find?_eq_none.mp hf item hmem
    simp at this
  | some other =>
    have hslot : other.slot = item.slot := by simpa using List.find?_some hf
    rw [List.inj_on_of_nodup_map hunique (List.mem_of_find?_eq_some hf) hmem hslot]

theorem poll_logInv {w : WatchLog} {presence : List GamePresence} (hpoll : PollOk w.watch presence)
    (h : LogInv w) (hok : ¬ RestartsExiting w.watch presence) : LogInv (w.poll presence) := by
  intro k
  obtain ⟨row, hrows, hzero, hslot⟩ := h k
  obtain ⟨g, hrows', hevents', hnew⟩ :=
    diff_slot presence w.watch.nextGeneration hrows hzero hpoll.unique
  obtain ⟨hg, hstarts⟩ := hnew hpoll.room_starts
  have hnext : (w.poll presence).watch.nextGeneration.toNat = _ :=
    diff_next w.watch.tracked hpoll.room_starts
  refine ⟨_, hrows', ?_, ?_⟩
  · intro hk
    have hnone : itemAt k presence = none := by
      rw [itemAt, if_pos hk]
    rw [hzero hk, hnone]
    rfl
  · show SlotInv _ _ (eventsAt k (w.emitted ++ _))
    rw [eventsAt_append, hevents']
    refine hslot.step (itemAt k presence) hg (by omega) (fun hs => hnext ▸ hstarts hs) ?_
    intro item hitem prev hprev hrestart hexiting
    obtain ⟨hmem, hslotItem, hpid⟩ := itemAt_some hitem
    subst hslotItem
    refine hok ⟨item, hmem, hpid, prev, ?_, hrestart, hexiting⟩
    rw [findTracked_of_rows hrows]
    exact hprev

end Process
end CppOptimizer
