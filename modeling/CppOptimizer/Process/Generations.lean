import Mathlib.Algebra.Ring.Nat
import Mathlib.Data.List.Pairwise
import CppOptimizer.Lib.Run
import CppOptimizer.Process.Watcher

/-!
# CppOptimizer.Process.Generations

What a generation names, over any sequence of polls.

* `Watch`     — the table, the generation counter and the list of all rows ever observed.
* `OneLife`   — rows of one generation carry at most one known creation time.
* `ReusedUnseen` — a row whose creation time could not be read in the last poll is seen with another
  known time than the one its generation was seen with before.

A row keeps only the creation time of the last poll. A poll that cannot read it makes the row forget
the time it had, so that the next reading, of whichever process has the pid by then, goes on in the
old generation.
-/

namespace CppOptimizer
namespace Process

open Lib

structure Watch where
  tracked : List ProcessInfo := []
  nextGeneration : UInt64 := 1
  observed : List ProcessInfo := []

def Watch.poll (w : Watch) (presence : List GamePresence) : Watch :=
  let diff := diffProcessPresence w.tracked presence w.nextGeneration
  { tracked := diff.tracked
    nextGeneration := diff.nextGeneration
    observed := w.observed ++ diff.tracked }

def OneLife (rows : List ProcessInfo) : Prop :=
  ∀ a ∈ rows, ∀ b ∈ rows, a.generation = b.generation → a.creationTime100ns ≠ 0 →
    b.creationTime100ns ≠ 0 → a.creationTime100ns = b.creationTime100ns

/-- A poll sees a `(gameId, pid)` at most once, and the 64-bit counter does not run over. -/
structure PollOk (w : Watch) (presence : List GamePresence) : Prop where
  unique : (presence.map fun item => (item.gameId, item.pid)).Nodup
  room : w.nextGeneration.toNat + presence.length < 2 ^ 64

def ReusedUnseen (w : Watch) (presence : List GamePresence) : Prop :=
  ∃ item ∈ presence, ∃ prev, findTracked w.tracked item.gameId item.pid = some prev ∧
    item.pid ≠ 0 ∧ prev.creationTime100ns = 0 ∧ item.creationTime100ns ≠ 0 ∧
    ∃ row ∈ w.observed, row.generation = prev.generation ∧ row.creationTime100ns ≠ 0 ∧
      row.creationTime100ns ≠ item.creationTime100ns

/-! ## The first pass -/

section Passes

variable {previous : List ProcessInfo} {presence : List GamePresence} {n : UInt64}

/-- The rows of the old table: generations below `n`, no two alike. -/
structure TableOk (previous : List ProcessInfo) (n : UInt64) : Prop where
  below : ∀ row ∈ previous, row.generation.toNat < n.toNat
  apart : previous.Pairwise fun a b => a.generation ≠ b.generation

theorem TableOk.eq (h : TableOk previous n) {a b : ProcessInfo} (ha : a ∈ previous)
    (hb : b ∈ previous) (hg : a.generation = b.generation) : a = b := by
  by_contra hne
  have hsymm : Std.Symm fun a b : ProcessInfo => a.generation ≠ b.generation :=
    ⟨fun _ _ hab => hab.symm⟩
  exact h.apart.forall ha hb hne hg

/-- After the items `done`: each row is of a new life or goes on with an old one. -/
structure Seen (previous : List ProcessInfo) (n : UInt64) (done : List GamePresence)
    (result : DiffResult) : Prop where
  le : n.toNat ≤ result.nextGeneration.toNat
  rows : ∀ row ∈ result.tracked,
    (n.toNat ≤ row.generation.toNat ∧ row.generation.toNat < result.nextGeneration.toNat) ∨
      ∃ item ∈ done, ∃ prev, Continues previous item prev row
  apart : result.tracked.Pairwise fun a b => a.generation ≠ b.generation

theorem toNat_succ {g : UInt64} (h : g.toNat + 1 < 2 ^ 64) : (g + 1).toNat = g.toNat + 1 := by
  rw [UInt64.toNat_add]
  exact Nat.mod_eq_of_lt h

theorem Continues.prev_mem {item : GamePresence} {prev info : ProcessInfo}
    (h : Continues previous item prev info) :
    prev ∈ previous ∧ prev.gameId = item.gameId ∧ prev.pid = item.pid :=
  findTracked_some h.2.1

theorem Continues.generation {item : GamePresence} {prev info : ProcessInfo}
    (h : Continues previous item prev info) : info.generation = prev.generation := by
  rw [h.2.2.2]
  rfl

/-- The rows there so far have other generations than a row that is appended. -/
theorem apart_snoc {rows : List ProcessInfo} {info : ProcessInfo}
    (h : rows.Pairwise fun a b => a.generation ≠ b.generation)
    (hnew : ∀ row ∈ rows, row.generation ≠ info.generation) :
    (rows ++ [info]).Pairwise fun a b => a.generation ≠ b.generation := by
  rw [List.pairwise_append]
  refine ⟨h, List.pairwise_singleton _ _, ?_⟩
  intro a ha b hb
  rw [List.mem_singleton.mp hb]
  exact hnew a ha

section Observe

variable {done : List GamePresence} {result result' : DiffResult} {item : GamePresence}

/-- The rows there were, after one more item. -/
theorem Seen.old_row (h : Seen previous n done result)
    (hn : result.nextGeneration.toNat ≤ result'.nextGeneration.toNat) {row : ProcessInfo}
    (hrow : row ∈ result.tracked) :
    (n.toNat ≤ row.generation.toNat ∧ row.generation.toNat < result'.nextGeneration.toNat) ∨
      ∃ item' ∈ done ++ [item], ∃ prev, Continues previous item' prev row := by
  rcases h.rows row hrow with ⟨h1, h2⟩ | ⟨d, hd, hc⟩
  · exact .inl ⟨h1, by omega⟩
  · exact .inr ⟨d, List.mem_append_left _ hd, hc⟩

theorem Seen.skip (h : Seen previous n done result) (ht : result'.tracked = result.tracked)
    (hn : result'.nextGeneration = result.nextGeneration) :
    Seen previous n (done ++ [item]) result' := by
  refine ⟨?_, ?_, ?_⟩
  · rw [hn]
    exact h.le
  · rw [ht]
    intro row hrow
    exact h.old_row (Nat.le_of_eq (congrArg _ hn.symm)) hrow
  · rw [ht]
    exact h.apart

/-- One more row, of a generation no other row has. -/
theorem Seen.snoc (h : Seen previous n done result) {info : ProcessInfo}
    (ht : result'.tracked = result.tracked ++ [info])
    (hn : result.nextGeneration.toNat ≤ result'.nextGeneration.toNat)
    (hinfo : (n.toNat ≤ info.generation.toNat ∧
        info.generation.toNat < result'.nextGeneration.toNat) ∨
      ∃ item' ∈ done ++ [item], ∃ prev, Continues previous item' prev info)
    (hnew : ∀ row ∈ result.tracked, row.generation ≠ info.generation) :
    Seen previous n (done ++ [item]) result' := by
  refine ⟨h.le.trans hn, ?_, ?_⟩
  · rw [ht]
    intro row hrow
    rcases List.mem_append.mp hrow with hrow | hrow
    · exact h.old_row hn hrow
    · rw [List.mem_singleton.mp hrow]
      exact hinfo
  · rw [ht]
    exact apart_snoc h.apart hnew

/-- A new life takes the next generation. -/
theorem Seen.newLife (hT : TableOk previous n) (h : Seen previous n done result)
    {info : ProcessInfo} (hg : info.generation = result.nextGeneration)
    (ht : result'.tracked = result.tracked ++ [info])
    (hn : result'.nextGeneration.toNat = result.nextGeneration.toNat + 1) :
    Seen previous n (done ++ [item]) result' := by
  have hle := h.le
  refine h.snoc ht (by omega) (.inl ⟨by rw [hg]; exact hle, by rw [hg]; omega⟩) ?_
  intro row hrow heq
  rw [hg] at heq
  rcases h.rows row hrow with ⟨_, h2⟩ | ⟨d, _, prev, hc⟩
  · rw [heq] at h2
    omega
  · have hlt := hT.below prev hc.prev_mem.1
    rw [← hc.generation, heq] at hlt
    omega

/-- An old life goes on: no other item of the poll goes on with it. -/
theorem Seen.goesOn (hT : TableOk previous n) (h : Seen previous n done result)
    (hkey : ∀ d ∈ done, ¬ (d.gameId = item.gameId ∧ d.pid = item.pid)) {prev info : ProcessInfo}
    (hc : Continues previous item prev info) (ht : result'.tracked = result.tracked ++ [info])
    (hn : result'.nextGeneration = result.nextGeneration) :
    Seen previous n (done ++ [item]) result' := by
  have hitem : item ∈ done ++ [item] := List.mem_append_right _ (List.mem_singleton.mpr rfl)
  refine h.snoc ht (Nat.le_of_eq (congrArg _ hn.symm)) (.inr ⟨item, hitem, prev, hc⟩) ?_
  intro row hrow heq
  rw [hc.generation] at heq
  rcases h.rows row hrow with ⟨h1, _⟩ | ⟨d, hd, prev', hc'⟩
  · have hlt := hT.below prev hc.prev_mem.1
    rw [← heq] at hlt
    omega
  · -- two items of one generation would be the same item
    rw [hc'.generation] at heq
    have hsame := hT.eq hc'.prev_mem.1 hc.prev_mem.1 heq
    subst hsame
    refine hkey d hd ⟨?_, ?_⟩
    · exact hc'.prev_mem.2.1.symm.trans hc.prev_mem.2.1
    · exact hc'.prev_mem.2.2.symm.trans hc.prev_mem.2.2

/-- The counter goes up by the lives that are started. -/
theorem observe_next (items : List GamePresence)
    (hroom : result.nextGeneration.toNat + startsIn previous (item :: items) < 2 ^ 64) :
    (result.observe previous item).nextGeneration.toNat + startsIn previous items =
      result.nextGeneration.toNat + startsIn previous (item :: items) := by
  rw [startsIn_cons] at hroom ⊢
  rcases observe_cases previous result item with ⟨hs, _, hn⟩ | ⟨hs, _, hn⟩ | ⟨hs, _, _, _, _, hn⟩
  · rw [hn, if_neg (by simp [hs]), Nat.add_zero]
  · rw [if_pos hs] at hroom ⊢
    rw [hn, toNat_succ (by omega)]
    omega
  · rw [hn, if_neg (by simp [hs]), Nat.add_zero]

theorem observe_seen (hT : TableOk previous n) (h : Seen previous n done result)
    (hkey : ∀ d ∈ done, ¬ (d.gameId = item.gameId ∧ d.pid = item.pid))
    (hroom : result.nextGeneration.toNat + startsIn previous [item] < 2 ^ 64) :
    Seen previous n (done ++ [item]) (result.observe previous item) := by
  rcases observe_cases previous result item with
    ⟨_, ht, hn⟩ | ⟨hs, ht, hn⟩ | ⟨_, prev, info, hc, ht, hn⟩
  · exact h.skip ht hn
  · have hone : startsIn previous [item] = 1 := by simp [startsIn, hs]
    refine h.newLife hT rfl ht ?_
    rw [hn]
    exact toNat_succ (by omega)
  · exact h.goesOn hT hkey hc ht hn

end Observe

/-- Over the whole pass. -/
theorem foldl_observe_next (previous : List ProcessInfo) (items : List GamePresence)
    (result : DiffResult)
    (hroom : result.nextGeneration.toNat + startsIn previous items < 2 ^ 64) :
    (items.foldl (DiffResult.observe previous) result).nextGeneration.toNat =
      result.nextGeneration.toNat + startsIn previous items := by
  induction items generalizing result with
  | nil => rfl
  | cons item items ih =>
    have hone := observe_next items hroom
    rw [List.foldl_cons, ih _ (by omega), hone]

theorem foldl_observe_seen (hT : TableOk previous n) (done items : List GamePresence)
    {result : DiffResult} (h : Seen previous n done result)
    (hunique : ((done ++ items).map fun item => (item.gameId, item.pid)).Nodup)
    (hroom : result.nextGeneration.toNat + startsIn previous items < 2 ^ 64) :
    Seen previous n (done ++ items) (items.foldl (DiffResult.observe previous) result) := by
  induction items generalizing done result with
  | nil => simpa using h
  | cons item items ih =>
    have hkey : ∀ d ∈ done, ¬ (d.gameId = item.gameId ∧ d.pid = item.pid) := by
      rintro d hd ⟨h1, h2⟩
      rw [List.map_append, List.nodup_append] at hunique
      refine hunique.2.2 (d.gameId, d.pid) (List.mem_map.mpr ⟨d, hd, rfl⟩) (item.gameId, item.pid)
        ?_ ?_
      · exact List.mem_map.mpr ⟨item, List.mem_cons_self, rfl⟩
      · rw [h1, h2]
    have hnext := observe_next items hroom
    have hone : startsIn previous (item :: items) =
        startsIn previous [item] + startsIn previous items := startsIn_append previous [item] items
    have hseen := observe_seen hT h hkey (by omega)
    rw [List.append_cons] at hunique ⊢
    exact ih (done ++ [item]) hseen hunique (by omega)

/-! ## The second pass -/

/-- After the old rows `done`: the rows of the first pass, and the exiting ones of `done`. -/
structure Missed (presence : List GamePresence) (first : DiffResult) (done : List ProcessInfo)
    (result : DiffResult) : Prop where
  next : result.nextGeneration = first.nextGeneration
  rows : ∀ row ∈ result.tracked, row ∈ first.tracked ∨
    ∃ prev ∈ done, presenceHas presence prev.gameId prev.pid = false ∧
      row = { prev with state := .exiting }
  apart : result.tracked.Pairwise fun a b => a.generation ≠ b.generation

theorem miss_missed (hT : TableOk previous n) {first result : DiffResult}
    (hfirst : Seen previous n presence first) {done : List ProcessInfo} {prev : ProcessInfo}
    (hprev : prev ∈ previous)
    (hnot : ∀ row ∈ done, row.generation ≠ prev.generation)
    (h : Missed presence first done result) :
    Missed presence first (done ++ [prev]) (result.miss presence prev) := by
  have holder : ∀ {row : ProcessInfo}, (∃ p ∈ done, presenceHas presence p.gameId p.pid = false ∧
        row = { p with state := .exiting }) →
      ∃ p ∈ done ++ [prev], presenceHas presence p.gameId p.pid = false ∧
        row = { p with state := .exiting } := by
    rintro row ⟨p, hp, hrest⟩
    exact ⟨p, List.mem_append_left _ hp, hrest⟩
  obtain ⟨hn, ht | ⟨hmiss, ht⟩⟩ := miss_cases presence result prev
  · refine ⟨hn.trans h.next, ?_, ?_⟩
    · rw [ht]
      intro row hrow
      exact (h.rows row hrow).imp_right holder
    · rw [ht]
      exact h.apart
  · refine ⟨hn.trans h.next, ?_, ?_⟩
    · rw [ht]
      intro row hrow
      rcases List.mem_append.mp hrow with hrow | hrow
      · exact (h.rows row hrow).imp_right holder
      · exact .inr ⟨prev, List.mem_append_right _ (List.mem_singleton.mpr rfl), hmiss,
          List.mem_singleton.mp hrow⟩
    · rw [ht]
      refine apart_snoc h.apart ?_
      intro row hrow heq
      have heq' : row.generation = prev.generation := heq
      rcases h.rows row hrow with hrow | ⟨p, hp, _, rfl⟩
      · rcases hfirst.rows row hrow with ⟨h1, _⟩ | ⟨item, hitem, prev', hc⟩
        · have hlt := hT.below prev hprev
          rw [← heq'] at hlt
          omega
        · -- a row that goes on was seen
          rw [hc.generation] at heq'
          have hsame := hT.eq hc.prev_mem.1 hprev heq'
          subst hsame
          have hseen := presenceHas_iff.mpr
            ⟨item, hitem, hc.prev_mem.2.1.symm, hc.prev_mem.2.2.symm⟩
          rw [hmiss] at hseen
          cases hseen
      · exact hnot p hp heq'

theorem foldl_miss_missed (hT : TableOk previous n) {first result : DiffResult}
    (hfirst : Seen previous n presence first) (done rows : List ProcessInfo)
    (hall : done ++ rows = previous) (h : Missed presence first done result) :
    Missed presence first previous (rows.foldl (DiffResult.miss presence) result) := by
  induction rows generalizing done result with
  | nil =>
    rw [List.append_nil] at hall
    rw [← hall]
    exact h
  | cons prev rows ih =>
    have hprev : prev ∈ previous := by
      rw [← hall]
      exact List.mem_append_right _ List.mem_cons_self
    have hnot : ∀ row ∈ done, row.generation ≠ prev.generation := by
      intro row hrow
      have hapart := hT.apart
      rw [← hall, List.pairwise_append] at hapart
      exact hapart.2.2 row hrow prev List.mem_cons_self
    exact ih (done ++ [prev]) (by rw [← hall, List.append_assoc]; rfl)
      (miss_missed hT hfirst hprev hnot h)

end Passes

/-! ## Whole runs -/

/-- A row after a poll: of a new life, the next one of a tracked life, or one that was missed. -/
structure Polled (w : Watch) (presence : List GamePresence) : Prop where
  le : w.nextGeneration.toNat ≤ (w.poll presence).nextGeneration.toNat
  rows : ∀ row ∈ (w.poll presence).tracked,
    (w.nextGeneration.toNat ≤ row.generation.toNat ∧
      row.generation.toNat < (w.poll presence).nextGeneration.toNat) ∨
    (∃ item ∈ presence, ∃ prev, Continues w.tracked item prev row) ∨
    ∃ prev ∈ w.tracked, row = { prev with state := .exiting }
  apart : (w.poll presence).tracked.Pairwise fun a b => a.generation ≠ b.generation

/-- Such a row has a new generation, or that of an old row. -/
theorem Polled.generation {w : Watch} {presence : List GamePresence} (h : Polled w presence)
    {row : ProcessInfo} (hrow : row ∈ (w.poll presence).tracked) :
    (w.nextGeneration.toNat ≤ row.generation.toNat ∧
      row.generation.toNat < (w.poll presence).nextGeneration.toNat) ∨
    ∃ prev ∈ w.tracked, row.generation = prev.generation := by
  rcases h.rows row hrow with hnew | ⟨item, _, prev, hc⟩ | ⟨prev, hprev, rfl⟩
  · exact .inl hnew
  · exact .inr ⟨prev, hc.prev_mem.1, hc.generation⟩
  · exact .inr ⟨prev, hprev, rfl⟩

theorem PollOk.room_starts {w : Watch} {presence : List GamePresence} (h : PollOk w presence) :
    w.nextGeneration.toNat + startsIn w.tracked presence < 2 ^ 64 := by
  have hle : startsIn w.tracked presence ≤ presence.length := List.countP_le_length
  have hroom := h.room
  omega

theorem poll_polled {w : Watch} {presence : List GamePresence}
    (hT : TableOk w.tracked w.nextGeneration)
    (hunique : (presence.map fun item => (item.gameId, item.pid)).Nodup)
    (hroom : w.nextGeneration.toNat + startsIn w.tracked presence < 2 ^ 64) : Polled w presence := by
  have hstart : Seen w.tracked w.nextGeneration [] { nextGeneration := w.nextGeneration } :=
    ⟨Nat.le_refl _, fun row hrow => (by cases hrow), List.Pairwise.nil⟩
  have hseen := foldl_observe_seen hT [] presence hstart hunique hroom
  rw [List.nil_append] at hseen
  have hmissed := foldl_miss_missed hT hseen [] w.tracked rfl
    ⟨rfl, fun row hrow => .inl hrow, hseen.apart⟩
  refine ⟨?_, ?_, hmissed.apart⟩
  · show _ ≤ (diffProcessPresence w.tracked presence w.nextGeneration).nextGeneration.toNat
    rw [diffProcessPresence, hmissed.next]
    exact hseen.le
  · intro row hrow
    show (_ ∧ _ < (diffProcessPresence w.tracked presence w.nextGeneration).nextGeneration.toNat) ∨ _
    rw [diffProcessPresence, hmissed.next]
    rcases hmissed.rows row hrow with hfirst | ⟨prev, hprev, _, rfl⟩
    · exact (hseen.rows row hfirst).imp_right .inl
    · exact .inr (.inr ⟨prev, hprev, rfl⟩)

structure WatchInv (w : Watch) : Prop where
  apart : w.tracked.Pairwise fun a b => a.generation ≠ b.generation
  below : ∀ row ∈ w.observed, row.generation.toNat < w.nextGeneration.toNat
  tracked : ∀ row ∈ w.tracked, row ∈ w.observed
  oneLife : OneLife w.observed

theorem WatchInv.table {w : Watch} (h : WatchInv w) : TableOk w.tracked w.nextGeneration :=
  ⟨fun row hrow => h.below row (h.tracked row hrow), h.apart⟩

/-- A creation time that goes on is the known one, unless it was forgotten. -/
theorem known_time {prev : ProcessInfo} {item : GamePresence} (h : isRestart prev item = false)
    (hp : prev.creationTime100ns ≠ 0) (hi : item.creationTime100ns ≠ 0) :
    prev.creationTime100ns = item.creationTime100ns := by
  by_contra hne
  simp [isRestart, hp, hi, hne] at h

/-- An old row and a row of the poll agree. -/
theorem poll_agrees {w : Watch} {presence : List GamePresence} (h : WatchInv w)
    (hpoll : Polled w presence) (hreuse : ¬ ReusedUnseen w presence) {a b : ProcessInfo}
    (ha : a ∈ w.observed) (hb : b ∈ (w.poll presence).tracked) (hg : a.generation = b.generation)
    (ha0 : a.creationTime100ns ≠ 0) (hb0 : b.creationTime100ns ≠ 0) :
    a.creationTime100ns = b.creationTime100ns := by
  rcases hpoll.rows b hb with ⟨h1, _⟩ | ⟨item, hitem, prev, hc⟩ | ⟨prev, hprev, rfl⟩
  · have hlt := h.below a ha
    rw [hg] at hlt
    omega
  · have hprev := h.tracked prev hc.prev_mem.1
    rw [hc.generation] at hg
    obtain ⟨hpid, hfind, hrestart, rfl⟩ := hc
    by_cases hp0 : prev.creationTime100ns = 0
    · by_contra hne
      exact hreuse ⟨item, hitem, prev, hfind, hpid, hp0, hb0, a, ha, hg, ha0, hne⟩
    · exact (h.oneLife a ha prev hprev hg ha0 hp0).trans (known_time hrestart hp0 hb0)
  · exact h.oneLife a ha prev (h.tracked prev hprev) hg ha0 hb0

theorem poll_inv {w : Watch} {presence : List GamePresence} (hok : PollOk w presence)
    (h : WatchInv w) (hreuse : ¬ ReusedUnseen w presence) : WatchInv (w.poll presence) := by
  have hpoll := poll_polled h.table hok.unique hok.room_starts
  have hbelow : ∀ row ∈ w.observed,
      row.generation.toNat < (w.poll presence).nextGeneration.toNat := by
    intro row hrow
    have := h.below row hrow
    have := hpoll.le
    omega
  refine ⟨hpoll.apart, ?_, ?_, ?_⟩
  · intro row hrow
    rcases List.mem_append.mp hrow with hrow | hrow
    · exact hbelow row hrow
    · rcases hpoll.generation hrow with ⟨_, hlt⟩ | ⟨prev, hprev, hg⟩
      · exact hlt
      · rw [hg]
        exact hbelow prev (h.tracked prev hprev)
  · intro row hrow
    exact List.mem_append_right _ hrow
  · intro a ha b hb hg ha0 hb0
    rcases List.mem_append.mp ha with ha | ha <;> rcases List.mem_append.mp hb with hb | hb
    · exact h.oneLife a ha b hb hg ha0 hb0
    · exact poll_agrees h hpoll hreuse ha hb hg ha0 hb0
    · exact (poll_agrees h hpoll hreuse hb ha hg.symm hb0 ha0).symm
    · have hsymm : Std.Symm fun a b : ProcessInfo => a.generation ≠ b.generation :=
        ⟨fun _ _ hab => hab.symm⟩
      by_cases hab : a = b
      · rw [hab]
      · exact absurd hg (hpoll.apart.forall ha hb hab)

/-! ## A reused pid -/

theorem mem_observe {previous : List ProcessInfo} {result : DiffResult} {item : GamePresence}
    {row : ProcessInfo} (h : row ∈ result.tracked) : row ∈ (result.observe previous item).tracked := by
  rcases observe_cases previous result item with
    ⟨_, ht, _⟩ | ⟨_, ht, _⟩ | ⟨_, _, _, _, ht, _⟩ <;> rw [ht]
  · exact h
  · exact List.mem_append_left _ h
  · exact List.mem_append_left _ h

theorem mem_miss {presence : List GamePresence} {result : DiffResult} {prev row : ProcessInfo}
    (h : row ∈ result.tracked) : row ∈ (result.miss presence prev).tracked := by
  obtain ⟨_, ht | ⟨_, ht⟩⟩ := miss_cases presence result prev <;> rw [ht]
  · exact h
  · exact List.mem_append_left _ h

theorem mem_foldl {α : Type} {f : DiffResult → α → DiffResult} {row : ProcessInfo}
    (hf : ∀ {result a}, row ∈ result.tracked → row ∈ (f result a).tracked) (as : List α)
    {result : DiffResult} (h : row ∈ result.tracked) : row ∈ (as.foldl f result).tracked := by
  induction as generalizing result with
  | nil => exact h
  | cons a as ih => exact ih (hf h)

/-- An item whose life goes on has its row in the new table. -/
theorem mem_poll_of_continues {w : Watch} {presence : List GamePresence} {item : GamePresence}
    {prev info : ProcessInfo} (hitem : item ∈ presence) (h : Continues w.tracked item prev info) :
    info ∈ (w.poll presence).tracked := by
  apply mem_foldl (fun h => mem_miss h)
  obtain ⟨before, after, rfl⟩ := List.append_of_mem hitem
  rw [List.foldl_append, List.foldl_cons]
  apply mem_foldl (fun h => mem_observe h)
  obtain ⟨hpid, hfind, hrestart, rfl⟩ := h
  simp [DiffResult.observe, hpid, hfind, hrestart]

theorem reused_breaks {w : Watch} {presence : List GamePresence} (h : ReusedUnseen w presence) :
    ¬ OneLife (w.poll presence).observed := by
  obtain ⟨item, hitem, prev, hfind, hpid, hp0, hi0, row, hrow, hg, hr0, hne⟩ := h
  intro hone
  have hrestart : isRestart prev item = false := by
    simp [isRestart, hp0]
  have hmem := mem_poll_of_continues hitem ⟨hpid, hfind, hrestart, rfl⟩
  exact hne (hone row (List.mem_append_left _ hrow) _ (List.mem_append_right _ hmem) hg hr0 hi0)

/-- Over a run of polls a generation names one process exactly as long as no pid is reused while
its creation time could not be read. -/
theorem generation_names_one_process_iff (polls : List (List GamePresence))
    (hpolls : Steps Watch.poll PollOk {} polls) :
    Always Watch.poll (fun w => OneLife w.observed) {} polls ↔
      Steps Watch.poll (fun w presence => ¬ ReusedUnseen w presence) {} polls := by
  refine always_iff_steps_of_steps (I := WatchInv) ?_ ?_ ?_ ?_ hpolls
  · intro w presence hok h hreuse
    exact poll_inv hok h hreuse
  · intro w h
    exact h.oneLife
  · intro w presence _ _ hreuse
    exact reused_breaks (not_not.mp hreuse)
  · refine ⟨List.Pairwise.nil, ?_, ?_, ?_⟩
    · intro row hrow
      cases hrow
    · intro row hrow
      cases hrow
    · intro a ha
      cases ha

def gameSeen (creationTime100ns : UInt64) : List GamePresence :=
  [{ gameId := "game", pid := 42, creationTime100ns := creationTime100ns }]

/-- Pid 42 belongs to a process created at 100, cannot be queried for one poll, and then belongs to
one created at 200: both are generation 1. -/
theorem reused_pid_keeps_generation :
    ¬ Always Watch.poll (fun w => OneLife w.observed) {} [gameSeen 100, gameSeen 0, gameSeen 200] := by
  intro h
  have hlast := h.last
  have hfirst : toProcessInfo { gameId := "game", pid := 42, creationTime100ns := 100 } .starting 1 ∈
      (run Watch.poll {} [gameSeen 100, gameSeen 0, gameSeen 200]).observed := by decide
  have hthird : toProcessInfo { gameId := "game", pid := 42, creationTime100ns := 200 } .running 1 ∈
      (run Watch.poll {} [gameSeen 100, gameSeen 0, gameSeen 200]).observed := by decide
  have := hlast _ hfirst _ hthird rfl (by decide) (by decide)
  exact absurd this (by decide)

/-- With the time read in every poll the second process gets a generation of its own. -/
theorem restarted_pid_one_life :
    Always Watch.poll (fun w => OneLife w.observed) {} [gameSeen 100, gameSeen 200] := by
  have hpolls : Steps Watch.poll PollOk {} [gameSeen 100, gameSeen 200] :=
    ⟨⟨by decide, by decide⟩, ⟨by decide, by decide⟩, trivial⟩
  refine (generation_names_one_process_iff _ hpolls).mpr ⟨?_, ?_, trivial⟩
  · rintro ⟨item, hitem, prev, hfind, _⟩
    cases hfind
  · rintro ⟨item, hitem, prev, hfind, _, hp0, _⟩
    rw [List.mem_singleton.mp hitem] at hfind
    cases hfind
    exact absurd hp0 (by decide)

end Process
end CppOptimizer
