import CppOptimizer.Process.Lifecycle

/-!
# CppOptimizer.Process.Table

The table of tracked processes, after any run of polls.

* `starts`     — the number of lives that a list of events starts.
* `TrackedTable` — the rows of the table, how they are numbered, and what the next polls do to them.
* `SlotRows`   — the part of it that is about one slot.
* `Counted`    — the part that is about the counter.
* `tracked_table` — `TrackedTable` along every run.

The numbers come from a counter of 64 bits. They are apart as long as fewer than `2 ^ 64 - 1` lives
were started; the next start takes the counter to zero, below every row.
-/

namespace CppOptimizer
namespace Process

open Lib

/-- The number of events from not running to starting. -/
def starts (ts : List ProcessTransition) : Nat :=
  ts.countP fun t => t.previous = .notRunning ∧ t.current = .starting

/-- The counter has not run over. -/
def HasRoom (w : WatchLog) : Prop := starts w.emitted + 1 < 2 ^ 64

/-- A poll sees a slot at most once. -/
def SeenOnce (presence : List GamePresence) : Prop := (presence.map GamePresence.slot).Nodup

/-- The rows have different numbers, from 1 on and below the counter. -/
structure Numbered (w : Watch) : Prop where
  apart : w.tracked.Pairwise fun a b => a.generation ≠ b.generation
  within : ∀ row ∈ w.tracked, 1 ≤ row.generation ∧ row.generation < w.nextGeneration

/-- The table, and what the next poll makes of it. -/
structure TrackedTable (w : WatchLog) : Prop where
  unique : (w.watch.tracked.map ProcessInfo.slot).Nodup
  alive : ∀ row ∈ w.watch.tracked, row.state ≠ .notRunning
  numbered : HasRoom w → Numbered w.watch
  grows : ∀ presence, SeenOnce presence → HasRoom (w.poll presence) →
    w.watch.nextGeneration ≤ (w.poll presence).watch.nextGeneration ∧
    (w.poll presence).watch.nextGeneration.toNat = w.watch.nextGeneration.toNat +
      starts (diffProcessPresence w.watch.tracked presence w.watch.nextGeneration).transitions
  present : ∀ presence, SeenOnce presence → ∀ item ∈ presence, item.pid ≠ 0 →
    ∃ row ∈ (w.watch.poll presence).tracked,
      row.slot = item.slot ∧ (row.state = .starting ∨ row.state = .running)
  gone : ∀ first second, SeenOnce first → SeenOnce second →
    ∀ k, k ∉ first.map GamePresence.slot → k ∉ second.map GamePresence.slot →
      k ∉ ((w.watch.poll first).poll second).tracked.map ProcessInfo.slot

/-! ## The lives that are started -/

theorem starts_append (a b : List ProcessTransition) : starts (a ++ b) = starts a + starts b :=
  List.countP_append

theorem starts_single (t : ProcessTransition) :
    starts [t] = if t.previous = .notRunning ∧ t.current = .starting then 1 else 0 := by
  simp [starts, List.countP_cons]

section Starts

variable {previous : List ProcessInfo} {presence : List GamePresence}

theorem start_starts (result : DiffResult) (item : GamePresence) :
    starts (result.start item).transitions = starts result.transitions + 1 := by
  rw [DiffResult.start, starts_append, starts_single, if_pos ⟨rfl, rfl⟩]

theorem observe_starts (result : DiffResult) (item : GamePresence) :
    starts (result.observe previous item).transitions =
      starts result.transitions + if startsNew previous item = true then 1 else 0 := by
  unfold DiffResult.observe
  by_cases hpid : item.pid = 0
  · simp [hpid, startsNew]
  · rw [if_neg hpid]
    cases hf : findTracked previous item.gameId item.pid with
    | none =>
      rw [if_pos (by simp [startsNew, hpid, hf])]
      exact start_starts result item
    | some prev =>
      by_cases hrestart : isRestart prev item = true
      · dsimp only
        rw [if_pos hrestart, if_pos (by simp [startsNew, hpid, hf, hrestart]), start_starts,
          starts_append, starts_single, if_neg (by simp), Nat.add_zero]
      · have hold : ¬ startsNew previous item = true := by
          simp [startsNew, hf, hrestart]
        dsimp only
        rw [if_neg hrestart, if_neg hold, Nat.add_zero, starts_append]
        split
        · rw [starts_single, if_neg (by simp), Nat.add_zero]
        · rfl

/-- The second pass starts nothing. -/
theorem miss_starts (result : DiffResult) (prev : ProcessInfo) :
    starts (result.miss presence prev).transitions = starts result.transitions := by
  unfold DiffResult.miss
  split
  · rfl
  · cases prev.state with
    | notRunning => rfl
    | starting | running | suspended | exiting =>
      dsimp only
      rw [starts_append, starts_single, if_neg (by simp), Nat.add_zero]

theorem foldl_observe_starts (items : List GamePresence) (result : DiffResult) :
    starts (items.foldl (DiffResult.observe previous) result).transitions =
      starts result.transitions + startsIn previous items := by
  induction items generalizing result with
  | nil => rfl
  | cons item items ih =>
    rw [List.foldl_cons, ih, observe_starts, startsIn_cons]
    omega

theorem foldl_miss_starts (rows : List ProcessInfo) (result : DiffResult) :
    starts (rows.foldl (DiffResult.miss presence) result).transitions =
      starts result.transitions := by
  induction rows generalizing result with
  | nil => rfl
  | cons row rows ih => rw [List.foldl_cons, ih, miss_starts]

/-- The poll emits one start for each life it starts. -/
theorem diff_starts (previous : List ProcessInfo) (presence : List GamePresence) (n : UInt64) :
    starts (diffProcessPresence previous presence n).transitions = startsIn previous presence := by
  rw [diffProcessPresence, foldl_miss_starts, foldl_observe_starts]
  exact Nat.zero_add _

theorem poll_starts (w : WatchLog) (presence : List GamePresence) :
    starts (w.poll presence).emitted =
      starts w.emitted + startsIn w.watch.tracked presence := by
  rw [WatchLog.poll, starts_append, diff_starts]

end Starts

/-! ## Every slot -/

/-- Every slot has at most one row; the row is alive and has a pid. -/
def SlotRows (w : Watch) : Prop :=
  ∀ k, ∃ row : Option ProcessInfo, rowsAt k w.tracked = row.toList ∧ (k.2 = 0 → row = none) ∧
    ∀ r ∈ row, r.state ≠ .notRunning

section Rows

variable {w : Watch} {presence : List GamePresence}

theorem SlotRows.unique (h : SlotRows w) : (w.tracked.map ProcessInfo.slot).Nodup := by
  rw [List.nodup_iff_count_le_one]
  intro k
  obtain ⟨row, hrows, _⟩ := h k
  have hcount : (w.tracked.map ProcessInfo.slot).count k = (rowsAt k w.tracked).length := by
    rw [List.count_eq_countP, List.countP_map, List.countP_eq_length_filter, rowsAt]
    congr 2
    funext row
    exact beq_eq_decide _ _
  rw [hcount, hrows]
  cases row <;> simp

theorem SlotRows.alive (h : SlotRows w) : ∀ row ∈ w.tracked, row.state ≠ .notRunning := by
  intro row hrow
  obtain ⟨r, hrows, _, halive⟩ := h row.slot
  have hmem : row ∈ rowsAt row.slot w.tracked := by
    simpa [rowsAt] using hrow
  rw [hrows, Option.mem_toList] at hmem
  exact halive row hmem

theorem lifeStep_alive (row : Option ProcessInfo) (item : Option GamePresence) (g : UInt64) :
    ∀ r ∈ (lifeStep row item g).1, r.state ≠ .notRunning := by
  intro r hr hdead
  unfold lifeStep at hr
  split at hr
  · cases hr
    cases hdead
  · split at hr <;> cases hr <;> cases hdead
  · cases hr
  · split at hr <;> cases hr <;> cases hdead

theorem itemAt_zero {k : Slot} (h : k.2 = 0) (presence : List GamePresence) :
    itemAt k presence = none := if_pos h

theorem poll_slotRows (h : SlotRows w) (hunique : SeenOnce presence) :
    SlotRows (w.poll presence) := by
  intro k
  obtain ⟨row, hrows, hzero, _⟩ := h k
  obtain ⟨g, hrows', _⟩ := diff_slot presence w.nextGeneration hrows hzero hunique
  refine ⟨_, hrows', ?_, lifeStep_alive row _ g⟩
  intro hk
  rw [itemAt_zero hk, hzero hk]
  rfl

/-- A process that is seen is starting or running. -/
theorem lifeStep_seen (row : Option ProcessInfo) (item : GamePresence) (g : UInt64) :
    ∃ r, (lifeStep row (some item) g).1 = some r ∧ r.slot = item.slot ∧
      (r.state = .starting ∨ r.state = .running) := by
  cases row with
  | none => exact ⟨_, rfl, rfl, .inl rfl⟩
  | some prev =>
    unfold lifeStep
    dsimp only
    split
    · exact ⟨_, rfl, rfl, .inl rfl⟩
    · exact ⟨_, rfl, rfl, .inr rfl⟩

/-- A row that is not seen is exiting, and then it is dropped. -/
theorem lifeStep_unseen_twice (row : Option ProcessInfo) (g g' : UInt64) :
    (lifeStep (lifeStep row none g).1 none g').1 = none := by
  cases row with
  | none => rfl
  | some prev => cases hstate : prev.state <;> simp [lifeStep, hstate]

theorem itemAt_unseen {k : Slot} (h : k ∉ presence.map GamePresence.slot) :
    itemAt k presence = none := by
  unfold itemAt
  split
  · rfl
  · rw [List.find?_eq_none]
    intro item hitem hslot
    exact h (List.mem_map.mpr ⟨item, hitem, by simpa using hslot⟩)

theorem SlotRows.present (h : SlotRows w) (hunique : SeenOnce presence) {item : GamePresence}
    (hitem : item ∈ presence) (hpid : item.pid ≠ 0) : ∃ row ∈ (w.poll presence).tracked,
      row.slot = item.slot ∧ (row.state = .starting ∨ row.state = .running) := by
  obtain ⟨row, hrows, hzero, _⟩ := h item.slot
  obtain ⟨g, hrows', _⟩ := diff_slot presence w.nextGeneration hrows hzero hunique
  obtain ⟨r, hr, hslot, hstate⟩ := lifeStep_seen row item g
  rw [itemAt_of_mem hunique hitem hpid, hr] at hrows'
  have hmem : r ∈ rowsAt item.slot (w.poll presence).tracked := by
    rw [show rowsAt item.slot (w.poll presence).tracked = _ from hrows']
    exact List.mem_singleton.mpr rfl
  exact ⟨r, (List.mem_filter.mp hmem).1, hslot, hstate⟩

theorem SlotRows.gone (h : SlotRows w) (hunique : SeenOnce presence) {next : List GamePresence}
    (hnext : SeenOnce next) {k : Slot} (hunseen : k ∉ presence.map GamePresence.slot)
    (hunseen' : k ∉ next.map GamePresence.slot) :
    k ∉ ((w.poll presence).poll next).tracked.map ProcessInfo.slot := by
  obtain ⟨row, hrows, hzero, _⟩ := h k
  obtain ⟨g, hrows', _⟩ := diff_slot presence w.nextGeneration hrows hzero hunique
  rw [itemAt_unseen hunseen] at hrows'
  have hzero' : k.2 = 0 → (lifeStep row none g).1 = none := by
    intro hpid
    rw [hzero hpid]
    rfl
  obtain ⟨g', hrows'', _⟩ := diff_slot next (w.poll presence).nextGeneration hrows' hzero' hnext
  rw [itemAt_unseen hunseen', lifeStep_unseen_twice] at hrows''
  intro hk
  obtain ⟨last, hlast, hslot⟩ := List.mem_map.mp hk
  have hmem : last ∈ rowsAt k ((w.poll presence).poll next).tracked :=
    List.mem_filter.mpr ⟨hlast, by simpa using hslot⟩
  rw [show rowsAt k ((w.poll presence).poll next).tracked = _ from hrows''] at hmem
  cases hmem

end Rows

/-! ## The numbers -/

/-- The rows are numbered by a counter that starts at 1 and counts the lives started. -/
structure Counted (w : WatchLog) : Prop where
  next : w.watch.nextGeneration.toNat = starts w.emitted + 1
  table : TableOk w.watch.tracked w.watch.nextGeneration
  positive : ∀ row ∈ w.watch.tracked, 1 ≤ row.generation.toNat

theorem Counted.numbered {w : WatchLog} (h : Counted w) : Numbered w.watch where
  apart := h.table.apart
  within row hrow := by
    rw [UInt64.le_iff_toNat_le, UInt64.lt_iff_toNat_lt]
    exact ⟨h.positive row hrow, h.table.below row hrow⟩

section Counter

variable {w : WatchLog} {presence : List GamePresence}

theorem Counted.room (h : Counted w) (hroom : HasRoom (w.poll presence)) :
    w.watch.nextGeneration.toNat + startsIn w.watch.tracked presence < 2 ^ 64 := by
  rw [HasRoom, poll_starts] at hroom
  have hnext := h.next
  omega

theorem Counted.next_poll (h : Counted w) (hroom : HasRoom (w.poll presence)) :
    (w.poll presence).watch.nextGeneration.toNat =
      w.watch.nextGeneration.toNat + startsIn w.watch.tracked presence :=
  diff_next w.watch.tracked (h.room hroom)

theorem poll_counted (h : Counted w) (hunique : SeenOnce presence)
    (hroom : HasRoom (w.poll presence)) : Counted (w.poll presence) := by
  have hpolled := poll_polled h.table hunique (h.room hroom)
  have hone : 1 ≤ w.watch.nextGeneration.toNat := by
    rw [h.next]
    exact Nat.le_add_left 1 _
  have hle := hpolled.le
  refine ⟨?_, ⟨?_, hpolled.apart⟩, ?_⟩
  · rw [h.next_poll hroom, h.next, poll_starts]
    omega
  · intro row hrow
    rcases hpolled.generation hrow with ⟨_, hlt⟩ | ⟨prev, hprev, hg⟩
    · exact hlt
    · rw [hg]
      exact Nat.lt_of_lt_of_le (h.table.below prev hprev) hle
  · intro row hrow
    rcases hpolled.generation hrow with ⟨hnew, _⟩ | ⟨prev, hprev, hg⟩
    · exact Nat.le_trans hone hnew
    · rw [hg]
      exact h.positive prev hprev

end Counter

/-! ## Whole runs -/

theorem HasRoom.before {w : WatchLog} {presence : List GamePresence}
    (h : HasRoom (w.poll presence)) : HasRoom w := by
  rw [HasRoom, poll_starts] at h
  rw [HasRoom]
  omega

structure TableInv (w : WatchLog) : Prop where
  rows : SlotRows w.watch
  counted : HasRoom w → Counted w

theorem tableInv_init : TableInv {} where
  rows k := by
    refine ⟨none, rfl, fun _ => rfl, ?_⟩
    intro r hr
    cases hr
  counted _ := by
    refine ⟨rfl, ⟨?_, List.Pairwise.nil⟩, ?_⟩
    · intro row hrow
      cases hrow
    · intro row hrow
      cases hrow

theorem poll_tableInv {w : WatchLog} {presence : List GamePresence} (h : TableInv w)
    (hunique : SeenOnce presence) : TableInv (w.poll presence) where
  rows := poll_slotRows h.rows hunique
  counted hroom := poll_counted (h.counted hroom.before) hunique hroom

theorem TableInv.table {w : WatchLog} (h : TableInv w) : TrackedTable w where
  unique := h.rows.unique
  alive := h.rows.alive
  numbered hroom := (h.counted hroom).numbered
  grows presence _ hroom := by
    have hnext := (h.counted hroom.before).next_poll hroom
    rw [UInt64.le_iff_toNat_le, diff_starts]
    exact ⟨by omega, hnext⟩
  present _ hunique _ hitem hpid := h.rows.present hunique hitem hpid
  gone _ _ hunique hnext _ hunseen hunseen' := h.rows.gone hunique hnext hunseen hunseen'

/-- Along every run of polls: one row for each slot, none of an ended process, a row for each process
that is seen and none for what two polls did not see; and, as long as the counter has room, numbers
that are apart and a counter that goes up by one for each start. -/
theorem tracked_table (polls : List (List GamePresence))
    (hpolls : ∀ presence ∈ polls, SeenOnce presence) :
    Always WatchLog.poll TrackedTable {} polls := by
  have hsteps : Steps WatchLog.poll (fun _ presence => SeenOnce presence) {} polls :=
    steps_of_forall hpolls
  refine always_of_steps (I := TableInv) ?_ ?_ tableInv_init hsteps
  · intro w presence h hunique
    exact poll_tableInv h hunique
  · intro w h
    exact h.table

theorem gameSeen_seenOnce (creationTime100ns : UInt64) : SeenOnce (gameSeen creationTime100ns) :=
  List.nodup_singleton _

/-- A process that is replaced by another one under its pid. -/
theorem tracked_table_restart : TrackedTable (run WatchLog.poll {} [gameSeen 100, gameSeen 200]) := by
  refine (tracked_table [gameSeen 100, gameSeen 200] ?_).last
  rw [List.forall_mem_cons, List.forall_mem_singleton]
  exact ⟨gameSeen_seenOnce 100, gameSeen_seenOnce 200⟩

/-! ## The counter runs over -/

/-- Pid 42 changes hands in every poll, between two creation times. -/
def restarts : Nat → List (List GamePresence)
  | 0 => [gameSeen 100]
  | n + 1 => restarts n ++ [gameSeen 200, gameSeen 100]

theorem restarts_seenOnce (n : Nat) : ∀ presence ∈ restarts n, SeenOnce presence := by
  induction n with
  | zero =>
    rw [restarts, List.forall_mem_singleton]
    exact gameSeen_seenOnce 100
  | succ n ih =>
    rw [restarts, List.forall_mem_append, List.forall_mem_cons, List.forall_mem_singleton]
    exact ⟨ih, gameSeen_seenOnce 200, gameSeen_seenOnce 100⟩

/-- The only row is that of the process created at the time. -/
def OnlyRow (w : Watch) (creationTime100ns : UInt64) : Prop :=
  ∃ g, w.tracked =
    [toProcessInfo { gameId := "game", pid := 42, creationTime100ns := creationTime100ns } .starting g]

theorem restart_poll {w : Watch} {a b : UInt64} (h : OnlyRow w a) (ha : a ≠ 0) (hb : b ≠ 0)
    (hab : a ≠ b) : OnlyRow (w.poll (gameSeen b)) b ∧
      (w.poll (gameSeen b)).nextGeneration = w.nextGeneration + 1 := by
  obtain ⟨g, htracked⟩ := h
  refine ⟨⟨w.nextGeneration, ?_⟩, ?_⟩ <;>
    simp [Watch.poll, htracked, gameSeen, diffProcessPresence, DiffResult.observe, findTracked,
      isRestart, toProcessInfo, ha, hb, hab, DiffResult.start, DiffResult.miss, presenceHas]

theorem run_restarts (n : Nat) : OnlyRow (run WatchLog.poll {} (restarts n)).watch 100 ∧
    (run WatchLog.poll {} (restarts n)).watch.nextGeneration = UInt64.ofNat (2 * n + 2) := by
  induction n with
  | zero => exact ⟨⟨1, by decide⟩, by decide⟩
  | succ n ih =>
    obtain ⟨hrow, hnext⟩ := ih
    rw [restarts, run_append]
    generalize run WatchLog.poll {} (restarts n) = w at hrow hnext
    obtain ⟨hrow', hnext'⟩ := restart_poll (b := 200) hrow (by decide) (by decide) (by decide)
    obtain ⟨hrow'', hnext''⟩ := restart_poll (b := 100) hrow' (by decide) (by decide) (by decide)
    refine ⟨hrow'', ?_⟩
    show ((w.watch.poll (gameSeen 200)).poll (gameSeen 100)).nextGeneration = _
    rw [hnext'', hnext', hnext]
    have hone : (1 : UInt64).toNat = 1 := rfl
    apply UInt64.toNat_inj.mp
    simp only [UInt64.toNat_add, UInt64.toNat_ofNat', hone]
    omega

/-- After as many starts as there are positive generations the counter is zero, and the row in the
table is not below it. -/
theorem counter_runs_over :
    (∀ presence ∈ restarts (2 ^ 63 - 1), SeenOnce presence) ∧
      (run WatchLog.poll {} (restarts (2 ^ 63 - 1))).watch.nextGeneration = 0 ∧
      ¬ ∀ row ∈ (run WatchLog.poll {} (restarts (2 ^ 63 - 1))).watch.tracked,
        row.generation < (run WatchLog.poll {} (restarts (2 ^ 63 - 1))).watch.nextGeneration := by
  obtain ⟨⟨g, htracked⟩, hnext⟩ := run_restarts (2 ^ 63 - 1)
  have hzero : UInt64.ofNat (2 * (2 ^ 63 - 1) + 2) = 0 := by decide
  rw [hzero] at hnext
  refine ⟨restarts_seenOnce _, hnext, ?_⟩
  rw [htracked, hnext]
  intro hbelow
  have hlt := hbelow _ (List.mem_singleton.mpr rfl)
  rw [UInt64.lt_iff_toNat_lt] at hlt
  exact Nat.not_lt_zero _ hlt

end Process
end CppOptimizer
