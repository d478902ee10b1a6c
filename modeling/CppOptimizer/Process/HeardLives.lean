import CppOptimizer.Process.WatcherStops

/-!
# CppOptimizer.Process.HeardLives

The lives of the games as a subscriber hears them.

* `PollsInOrder`      — the polls of an event restart no life that is on its way out, and the counter of
  the generations has room.
* `heard_lives_chain` — the events of each life reach a subscriber as a chain, gaps and repetitions
  excluded, at every moment.

The rules have one id each, so that whatever a poll is answered it sees a game once.
-/

namespace CppOptimizer
namespace Process

open Common Config Lib

/-! ## Chains -/

theorem Chained.of_isPrefix {ts ts' : List ProcessTransition} (h : Chained ts) (hpre : ts' <+: ts) :
    Chained ts' := by
  obtain ⟨rest, rfl⟩ := hpre
  refine ⟨fun t ht => ?_, h.linked.left_of_append, fun t ht => h.moves t (List.mem_append_left _ ht)⟩
  cases ts' with
  | nil => cases ht
  | cons a ts' => exact h.first t ht

/-- A table that was cleared begins again, with the generations that are left. -/
theorem logInv_cleared (n : UInt64) : LogInv { watch := { nextGeneration := n } } := by
  intro k
  refine ⟨none, rfl, fun _ => rfl, fun g => chained_nil, ?_, ?_, ?_⟩
  · intro t ht
    cases ht
  · intro r hr
    cases hr
  · intro r hr
    cases hr

theorem SeenBy.unique {detectWindows : Bool} {rules : List GameRule} {presence : List GamePresence}
    (h : SeenBy detectWindows rules presence) (hrules : (rules.map GameRule.id).Nodup) :
    (presence.map GamePresence.slot).Nodup := by
  have hgames : (presence.map GamePresence.gameId).Nodup := hrules.sublist h.games
  have hfst : (presence.map GamePresence.slot).map Prod.fst = presence.map GamePresence.gameId := by
    rw [List.map_map]
    rfl
  rw [← hfst] at hgames
  exact hgames.of_map

theorem buildGameRules_ids (games : List GameConfig) :
    (buildGameRules games).map GameRule.id = games.map GameConfig.id := by
  rw [buildGameRules, List.map_map]
  rfl

/-! ## The log of the watcher -/

section Log

variable {detectWindows : Bool} {t : WatcherThread}

/-- The answers of the poll an event makes. -/
def WatcherEvent.answers? : WatcherEvent → Option (List PollChoice)
  | .poll answers => some answers
  | .worker answers _ => some answers
  | _ => none

/-- The rules that are set have one id each, and the polls are in order. -/
structure PollsInOrder (detectWindows : Bool) (t : WatcherThread) (e : WatcherEvent) : Prop where
  rules : ∀ games, e = .setRules games → (games.map GameConfig.id).Nodup
  polls : ∀ answers, e.answers? = some answers → ∀ asked presence,
    (pollPresence detectWindows t.rules).run pollHandler [] answers = (asked, some (.ok presence)) →
      t.log.watch.nextGeneration.toNat + presence.length < 2 ^ 64 ∧
        ¬ RestartsExiting t.log.watch presence

structure LivesInv (t : WatcherThread) : Prop where
  rules : (t.rules.map GameRule.id).Nodup
  log : LogInv t.log

theorem LivesInv.polled (h : LivesInv t) {answers : List PollChoice} {log : WatchLog}
    {ts : List ProcessTransition} (hpoll : t.log.pollStep detectWindows t.rules answers = some (log, ts))
    (hok : ∀ asked presence,
      (pollPresence detectWindows t.rules).run pollHandler [] answers = (asked, some (.ok presence)) →
        t.log.watch.nextGeneration.toNat + presence.length < 2 ^ 64 ∧
          ¬ RestartsExiting t.log.watch presence) : LogInv log := by
  rcases pollStep_cases hpoll with ⟨rfl, -⟩ | ⟨asked, presence, hrun, rfl, -⟩
  · exact h.log
  · obtain ⟨hroom, hrestart⟩ := hok asked presence hrun
    exact poll_logInv ⟨(seenBy_of_run hrun).unique h.rules, hroom⟩ h.log hrestart

theorem livesInv_step {e : WatcherEvent} (h : LivesInv t) (hok : PollsInOrder detectWindows t e) :
    LivesInv (t.step detectWindows e) := by
  cases e with
  | setRules games =>
    refine ⟨?_, logInv_init⟩
    show ((buildGameRules games).map GameRule.id).Nodup
    rw [buildGameRules_ids]
    exact hok.rules games rfl
  | subscribe => exact ⟨h.rules, h.log⟩
  | start created =>
    simp only [WatcherThread.step, WatcherThread.startStep]
    split
    · exact h
    · exact ⟨h.rules, logInv_cleared _⟩
  | stop =>
    simp only [WatcherThread.step, WatcherThread.stopStep]
    split
    · exact h
    · split
      · exact ⟨h.rules, h.log⟩
      · exact ⟨h.rules, h.log⟩
  | join =>
    simp only [WatcherThread.step, WatcherThread.joinStep]
    split
    · exact ⟨h.rules, h.log⟩
    · exact h
  | poll answers =>
    simp only [WatcherThread.step]
    split
    · case _ hpoll => exact ⟨h.rules, h.polled hpoll (hok.polls answers rfl)⟩
    · exact h
  | worker answers stops =>
    simp only [WatcherThread.step, WatcherThread.workerStep]
    split
    · exact h
    · split
      · case _ hpoll => exact ⟨h.rules, h.polled hpoll (hok.polls answers rfl)⟩
      · exact h
    · split
      · exact ⟨h.rules, h.log⟩
      · exact ⟨h.rules, h.log⟩
    · exact ⟨h.rules, h.log⟩
    · exact ⟨h.rules, h.log⟩
    · exact ⟨h.rules, h.log⟩
    · exact h

end Log

/-! ## What is heard -/

/-- To a callback from before the start, with nobody else polling, every life is a chain so far. When
nothing is under way the table is where the chains have come to. -/
structure HeardChains (t : WatcherThread) : Prop where
  chained : t.undisturbed = true → ∀ c < t.earlier, ∀ k g,
    Chained (ofGeneration g (eventsAt k (hears c t.heard)))
  stored : t.undisturbed = true → t.pending = [] → t.untold = [] → ∀ c < t.earlier,
    ∀ row ∈ t.log.watch.tracked, ∃ e,
      (ofGeneration row.generation (eventsAt row.slot (hears c t.heard))).getLast? = some e ∧
        row.state = e.current

theorem heardChains_of {t : WatcherThread} (h : LivesInv t) (hhears : HearsWholePolls t) :
    HeardChains t := by
  have hchain := h.log.chain
  refine ⟨fun hu c hc k g => ?_, fun hu hpending huntold c hc row hrow => ?_⟩
  · have hpre : hears c t.heard <+: t.log.emitted := by
      rw [← hhears.whole hu c hc, List.append_assoc]
      exact List.prefix_append _ _
    exact (hchain.chained k g).of_isPrefix ((hpre.filter _).filter _)
  · have hall := hhears.whole hu c hc
    rw [hpending, huntold, List.append_nil, show hears c [] = [] from rfl, List.append_nil] at hall
    rw [hall]
    exact hchain.stored row hrow

/-- However the threads interleave and whatever the polls are answered: to a callback from before the
start the events of each life come as a chain, from its start on and without a gap. -/
theorem heard_lives_chain (detectWindows : Bool) (es : List WatcherEvent)
    (hes : Steps (WatcherThread.step detectWindows) (PollsInOrder detectWindows) {} es) :
    Always (WatcherThread.step detectWindows) HeardChains {} es := by
  have hboth : Always (WatcherThread.step detectWindows)
      (fun t => LivesInv t ∧ WatcherInv t) {} es := by
    refine always_of_steps (I := fun t => LivesInv t ∧ WatcherInv t) ?_ (fun _ h => h) ?_ hes
    · intro t e h hok
      exact ⟨livesInv_step h.1 hok, WatcherThread.inv_step h.2 e⟩
    · exact ⟨⟨List.nodup_nil, logInv_init⟩, WatcherThread.inv_init⟩
  intro pre hpre
  obtain ⟨hlives, hinv⟩ := hboth pre hpre
  exact heardChains_of hlives hinv.hears

/-- An event that sets no rules, and whose poll, if it makes one, is not answered. -/
theorem inOrder_quiet {detectWindows : Bool} {t : WatcherThread} {e : WatcherEvent}
    (hrules : ∀ games, e ≠ .setRules games) (hpolls : ∀ answers, e.answers? = some answers → answers = []) :
    PollsInOrder detectWindows t e := by
  refine ⟨fun games hgames => absurd hgames (hrules games), ?_⟩
  intro answers hanswers asked presence hrun
  rw [hpolls answers hanswers] at hrun
  cases hrun

/-- A game that is seen once is heard of under its first generation. -/
theorem heard_lives_chain_seen :
    Always (WatcherThread.step false) HeardChains {}
      [.setRules oneGame, .subscribe, .start true, .worker gameThere false, .worker [] false,
        .worker [] false] := by
  refine heard_lives_chain false _ ⟨?_, ?_, ?_, ?_, ?_, ?_, trivial⟩
  · refine ⟨fun games hgames => ?_, fun answers hanswers => ?_⟩
    · cases hgames
      decide
    · cases hanswers
  · exact inOrder_quiet (fun _ => WatcherEvent.noConfusion) fun _ h => nomatch h
  · exact inOrder_quiet (fun _ => WatcherEvent.noConfusion) fun _ h => nomatch h
  · refine ⟨fun games hgames => ?_, fun answers hanswers asked presence hrun => ?_⟩
    · cases hgames
    · cases hanswers
      have hseen : (pollPresence false (buildGameRules oneGame)).run pollHandler [] gameThere =
          ([], some (.ok [{ gameId := "game", pid := 42, processName := textOf (utf8ToWide "game.exe")
                            creationTime100ns := 100 }])) := rfl
      cases hseen.symm.trans hrun
      refine ⟨by decide, ?_⟩
      rintro ⟨item, -, -, prev, hfind, -⟩
      cases hfind
  · exact inOrder_quiet (fun _ => WatcherEvent.noConfusion) fun _ h => (Option.some.inj h).symm
  · exact inOrder_quiet (fun _ => WatcherEvent.noConfusion) fun _ h => (Option.some.inj h).symm

end Process
end CppOptimizer
