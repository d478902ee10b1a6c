import CppOptimizer.Process.PollOnce

/-!
# CppOptimizer.Process.PolledTitles

What a run of polls records, whatever happens to the windows meanwhile.

* `SeenBy`              — what a poll can return at all.
* `WatchLog.pollStep`   — a poll's effect on the table and on the events emitted.
* `polled_titles_match` — a game whose rule asks for a title is recorded with a title that has it.

A match is made with the title of the cache, and the same cache gives the title to record. A window
that changes in between cannot come between the two.
-/

namespace CppOptimizer
namespace Process

open Common Lib PollProg

/-- The title is one that a rule of the game asked for. -/
def Wanted (rules : List GameRule) (gameId windowTitle : String) : Prop :=
  ∃ rule ∈ rules, rule.id = gameId ∧ (rule.windowTitleContains = [] ∨
    ∃ title, windowTitle = textOf title ∧ containsAscii title rule.windowTitleContains = true)

/-- What a poll can see at all. -/
structure SeenBy (detectWindows : Bool) (rules : List GameRule) (presence : List GamePresence) : Prop where
  games : (presence.map GamePresence.gameId).Sublist (rules.map GameRule.id)
  titled : detectWindows = true → ∀ item ∈ presence, Wanted rules item.gameId item.windowTitle
  hidden : detectWindows = false → ∀ item ∈ presence,
    item.windowTitle = "" ∧ item.isForeground = false ∧ item.isFullscreen = false

/-! ## One poll -/

section Poll

variable {detectWindows : Bool} {rules : List GameRule} {windowCache : WindowCache}

/-- What is recorded for a match. -/
structure RecordedAs (detectWindows : Bool) (windowCache : WindowCache) (m : RuleMatch)
    (item : GamePresence) : Prop where
  game : item.gameId = m.gameId
  cached : detectWindows = true → ∀ info, windowCache.lookup m.entry.pid = some info →
    item.windowTitle = textOf info.title
  hidden : detectWindows = false →
    item.windowTitle = "" ∧ item.isForeground = false ∧ item.isFullscreen = false

theorem presenceOf_returns (m : RuleMatch) :
    (presenceOf detectWindows windowCache m).Returns (RecordedAs detectWindows windowCache m) := by
  intro created
  show Prog.Returns _ (ite _ _ _)
  split
  · case _ hdetect =>
    have hshown : ∀ {item : GamePresence}, detectWindows = false →
        item.windowTitle = "" ∧ item.isForeground = false ∧ item.isFullscreen = false := by
      intro item hno
      rw [hdetect] at hno
      cases hno
    cases hlookup : windowCache.lookup m.entry.pid with
    | some info =>
      refine ⟨rfl, fun _ info' hinfo' => ?_, hshown⟩
      rw [hlookup] at hinfo'
      cases hinfo'
      rfl
    | none =>
      have hnone : ∀ {item : GamePresence}, detectWindows = true →
          ∀ info, windowCache.lookup m.entry.pid = some info →
            item.windowTitle = textOf info.title := by
        intro item _ info hinfo
        rw [hlookup] at hinfo
        cases hinfo
      intro window
      cases window with
      | ok info => exact ⟨rfl, hnone, hshown⟩
      | error e => exact ⟨rfl, hnone, hshown⟩
  · case _ hdetect =>
    exact ⟨rfl, fun h => absurd h hdetect, fun _ => ⟨rfl, rfl, rfl⟩⟩

/-- The matches are recorded one by one. -/
structure Recorded (detectWindows : Bool) (windowCache : WindowCache) (ms : List RuleMatch)
    (items : List GamePresence) : Prop where
  games : items.map GamePresence.gameId = ms.map RuleMatch.gameId
  each : ∀ item ∈ items, ∃ m ∈ ms, RecordedAs detectWindows windowCache m item

theorem presencesOf_returns (ms : List RuleMatch) :
    (presencesOf detectWindows windowCache ms).Returns (Recorded detectWindows windowCache ms) := by
  induction ms with
  | nil => exact ⟨rfl, fun item hitem => absurd hitem List.not_mem_nil⟩
  | cons m ms ih =>
    refine Prog.Returns.seq (presenceOf_returns m) fun item hitem => ?_
    refine Prog.Returns.seq ih fun items hitems => ⟨?_, fun item' hitem' => ?_⟩
    · rw [List.map_cons, List.map_cons, hitems.games, hitem.game]
    · rcases List.mem_cons.mp hitem' with rfl | hmem
      · exact ⟨m, List.mem_cons_self, hitem⟩
      · obtain ⟨m', hm', hrec⟩ := hitems.each item' hmem
        exact ⟨m', List.mem_cons_of_mem _ hm', hrec⟩

/-- A match of a rule with a filter is made with a cached title. -/
theorem cached_of_match {processes : List (UInt32 × Units)} {m : RuleMatch}
    (hm : m ∈ matchRulesToEntries rules
      ((processes.map fun p => ({ pid := p.1, name := p.2 } : ProcessEntry)).map
        (withTitle windowCache))) :
    ∃ rule ∈ rules, rule.id = m.gameId ∧ (rule.windowTitleContains = [] ∨
      ∃ info, windowCache.lookup m.entry.pid = some info ∧
        containsAscii info.title rule.windowTitleContains = true) := by
  obtain ⟨rule, hrule, hid, hmem, -, htitled⟩ := mem_matches hm
  refine ⟨rule, hrule, hid.symm, ?_⟩
  obtain ⟨entry, hentry, heq⟩ := List.mem_map.mp hmem
  obtain ⟨p, -, rfl⟩ := List.mem_map.mp hentry
  simp only [GameRule.titled, decide_eq_true_eq] at htitled
  rcases htitled with hempty | ⟨hknown, hcontains⟩
  · exact .inl hempty
  · right
    unfold withTitle at heq
    dsimp only at heq
    cases hlookup : windowCache.lookup p.1 with
    | none =>
      rw [hlookup] at heq
      rw [← heq] at hknown
      cases hknown
    | some info =>
      rw [hlookup] at heq
      rw [← heq] at hcontains ⊢
      exact ⟨info, hlookup, hcontains⟩

theorem pollPresence_returns :
    (pollPresence detectWindows rules).Returns fun r =>
      ∀ presence, r = .ok presence → SeenBy detectWindows rules presence := by
  refine Prog.Returns.bind fun listed => ?_
  cases listed with
  | error e =>
    intro presence h
    cases h
  | ok processes =>
    refine Prog.Returns.bind fun windowCache => ?_
    refine Prog.Returns.seq (presencesOf_returns _) fun items hitems => ?_
    intro presence h
    cases h
    refine ⟨?_, fun hdetect item hitem => ?_, fun hdetect item hitem => ?_⟩
    · rw [hitems.games]
      exact matches_sublist _ _
    · obtain ⟨m, hm, hrec⟩ := hitems.each item hitem
      obtain ⟨rule, hrule, hid, hfilter⟩ := cached_of_match hm
      refine ⟨rule, hrule, hid.trans hrec.game.symm, ?_⟩
      rcases hfilter with hempty | ⟨info, hlookup, hcontains⟩
      · exact .inl hempty
      · exact .inr ⟨info.title, hrec.cached hdetect info hlookup, hcontains⟩
    · obtain ⟨m, -, hrec⟩ := hitems.each item hitem
      exact hrec.hidden hdetect

end Poll

/-! ## The log of a run -/

/-- A poll, answered on `cs`: the log after it and the transitions it returns. One that fails leaves
the log, and one that does not come to its end is none. -/
def WatchLog.pollStep (detectWindows : Bool) (rules : List GameRule) (w : WatchLog)
    (cs : List PollChoice) : Option (WatchLog × List ProcessTransition) :=
  match ((pollOnce detectWindows rules w.watch.tracked w.watch.nextGeneration).run pollHandler [] cs).2 with
  | some (.ok diff) =>
    some ({ watch :=
              { tracked := diff.tracked
                nextGeneration := diff.nextGeneration
                observed := w.watch.observed ++ diff.tracked }
            emitted := w.emitted ++ diff.transitions }, diff.transitions)
  | some (.error _) => some (w, [])
  | none => none

section Log

variable {detectWindows : Bool} {rules : List GameRule}

/-- A poll leaves the log, or it merges what it sees. -/
theorem pollStep_cases {w w' : WatchLog} {cs : List PollChoice} {ts : List ProcessTransition}
    (h : w.pollStep detectWindows rules cs = some (w', ts)) :
    w' = w ∧ ts = [] ∨ ∃ asked presence,
      (pollPresence detectWindows rules).run pollHandler [] cs = (asked, some (.ok presence)) ∧
        w' = w.poll presence ∧
        ts = (diffProcessPresence w.watch.tracked presence w.watch.nextGeneration).transitions := by
  unfold WatchLog.pollStep at h
  rcases hrun : (pollOnce detectWindows rules w.watch.tracked w.watch.nextGeneration).run pollHandler []
    cs with ⟨asked, _ | e | diff⟩
  · rw [hrun] at h
    cases h
  · rw [hrun] at h
    cases h
    exact .inl ⟨rfl, rfl⟩
  · obtain ⟨seen, r, rest, hpresence, hmerge⟩ := Prog.run_bind_some hrun
    rw [hrun] at h
    cases h
    cases r with
    | error e =>
      dsimp only at hmerge
      rw [Prog.pure_eq, Prog.run_ret] at hmerge
      cases hmerge
    | ok presence =>
      dsimp only at hmerge
      rw [Prog.pure_eq, Prog.run_ret] at hmerge
      cases hmerge
      exact .inr ⟨_, presence, hpresence, rfl, rfl⟩

theorem seenBy_of_run {cs : List PollChoice} {asked : List UInt32} {presence : List GamePresence}
    (h : (pollPresence detectWindows rules).run pollHandler [] cs = (asked, some (.ok presence))) :
    SeenBy detectWindows rules presence := pollPresence_returns.run h presence rfl

/-- Every row and every event's row meets `φ`. -/
structure DiffResult.All (φ : ProcessInfo → Prop) (result : DiffResult) : Prop where
  rows : ∀ row ∈ result.tracked, φ row
  events : ∀ t ∈ result.transitions, φ t.info

section All

variable {φ : ProcessInfo → Prop} {previous : List ProcessInfo} {presence : List GamePresence}
  {result : DiffResult}

theorem DiffResult.All.event (h : result.All φ) {t : ProcessTransition} (ht : φ t.info) :
    DiffResult.All φ { result with transitions := result.transitions ++ [t] } where
  rows := h.rows
  events := by
    intro t' ht'
    rcases List.mem_append.mp ht' with ht' | ht'
    · exact h.events t' ht'
    · rw [List.mem_singleton.mp ht']
      exact ht

theorem DiffResult.All.row (h : result.All φ) {info : ProcessInfo} (hinfo : φ info) :
    DiffResult.All φ { result with tracked := result.tracked ++ [info] } where
  rows := by
    intro row hrow
    rcases List.mem_append.mp hrow with hrow | hrow
    · exact h.rows row hrow
    · rw [List.mem_singleton.mp hrow]
      exact hinfo
  events := h.events

theorem DiffResult.All.start (h : result.All φ) {item : GamePresence}
    (hitem : ∀ s g, φ (toProcessInfo item s g)) : (result.start item).All φ := by
  have hnew := hitem .starting result.nextGeneration
  refine ⟨(h.row hnew).rows, fun t ht => ?_⟩
  rcases List.mem_append.mp ht with ht | ht
  · exact h.events t ht
  · rw [List.mem_singleton.mp ht]
    exact hnew

theorem DiffResult.All.observe (h : result.All φ) (hrows : ∀ row ∈ previous, φ row)
    {item : GamePresence} (hitem : ∀ s g, φ (toProcessInfo item s g)) :
    (result.observe previous item).All φ := by
  unfold DiffResult.observe
  split
  · exact h
  · cases hf : findTracked previous item.gameId item.pid with
    | none => exact h.start hitem
    | some prev =>
      have hprev : φ prev := hrows prev (findTracked_some hf).1
      dsimp only
      split
      · exact (h.event hprev).start hitem
      · have hrow := h.row (hitem .running prev.generation)
        split
        · exact hrow.event (hitem .running prev.generation)
        · rw [List.append_nil]
          exact hrow

theorem DiffResult.All.miss (h : result.All φ) (hstate : ∀ info s, φ info → φ { info with state := s })
    {prev : ProcessInfo} (hprev : φ prev) : (result.miss presence prev).All φ := by
  have hexiting := hstate prev .exiting hprev
  unfold DiffResult.miss
  split
  · exact h
  · cases prev.state with
    | notRunning => exact h
    | exiting => exact h.event hprev
    | starting => exact (h.row hexiting).event hexiting
    | running => exact (h.row hexiting).event hexiting
    | suspended => exact (h.row hexiting).event hexiting

theorem DiffResult.All.foldl {α : Type} {f : DiffResult → α → DiffResult} {as : List α}
    (hf : ∀ result, result.All φ → ∀ a ∈ as, (f result a).All φ) (h : result.All φ) :
    (as.foldl f result).All φ := by
  induction as generalizing result with
  | nil => exact h
  | cons a as ih =>
    refine ih (fun result hresult b hb => hf result hresult b (List.mem_cons_of_mem _ hb)) ?_
    exact hf result h a List.mem_cons_self

/-- What holds of the rows there were and of the rows of what is seen holds after the poll, if the
state of a row does not matter for it. -/
theorem diff_all (hstate : ∀ info s, φ info → φ { info with state := s })
    (hitems : ∀ item ∈ presence, ∀ s g, φ (toProcessInfo item s g)) (hrows : ∀ row ∈ previous, φ row)
    (nextGeneration : UInt64) : (diffProcessPresence previous presence nextGeneration).All φ := by
  have hempty : DiffResult.All φ { nextGeneration := nextGeneration } :=
    ⟨fun row hrow => absurd hrow List.not_mem_nil, fun t ht => absurd ht List.not_mem_nil⟩
  refine DiffResult.All.foldl (fun result hresult prev hprev => ?_) ?_
  · exact hresult.miss hstate (hrows prev hprev)
  · refine DiffResult.All.foldl (fun result hresult item hitem => ?_) hempty
    exact hresult.observe hrows (hitems item hitem)

end All

/-- The row is of a rule's game. With window detection its title is one that a rule of the game asked
for; without, nothing is recorded of a window. -/
structure Justified (detectWindows : Bool) (rules : List GameRule) (info : ProcessInfo) : Prop where
  game : info.gameId ∈ rules.map GameRule.id
  titled : detectWindows = true → Wanted rules info.gameId info.windowTitle
  hidden : detectWindows = false →
    info.windowTitle = "" ∧ info.isForeground = false ∧ info.isFullscreen = false

theorem SeenBy.justified {presence : List GamePresence} (h : SeenBy detectWindows rules presence)
    {item : GamePresence} (hitem : item ∈ presence) (s : ProcessState) (g : UInt64) :
    Justified detectWindows rules (toProcessInfo item s g) where
  game := h.games.subset (List.mem_map_of_mem hitem)
  titled hdetect := h.titled hdetect item hitem
  hidden hdetect := h.hidden hdetect item hitem

/-- Every row of the table and every event emitted. -/
structure LogJustified (detectWindows : Bool) (rules : List GameRule) (w : WatchLog) : Prop where
  rows : ∀ row ∈ w.watch.tracked, Justified detectWindows rules row
  events : ∀ t ∈ w.emitted, Justified detectWindows rules t.info

theorem LogJustified.poll {w : WatchLog} (h : LogJustified detectWindows rules w)
    {presence : List GamePresence} (hseen : SeenBy detectWindows rules presence) :
    LogJustified detectWindows rules (w.poll presence) := by
  have hall : (diffProcessPresence w.watch.tracked presence w.watch.nextGeneration).All
      (Justified detectWindows rules) :=
    diff_all (fun _ _ hinfo => ⟨hinfo.game, hinfo.titled, hinfo.hidden⟩)
      (fun _ hitem => hseen.justified hitem) h.rows _
  refine ⟨hall.rows, fun t ht => ?_⟩
  rcases List.mem_append.mp ht with ht | ht
  · exact h.events t ht
  · exact hall.events t ht

end Log

/-- The log after a poll. -/
def WatchLog.pollOnce (detectWindows : Bool) (rules : List GameRule) (w : WatchLog)
    (cs : List PollChoice) : WatchLog :=
  ((w.pollStep detectWindows rules cs).map Prod.fst).getD w

/-- Whatever is answered to the polls, every row of the table and every event emitted has a title that
a rule of its game asked for, also when the windows change between the matching and the recording. -/
theorem polled_titles_match (detectWindows : Bool) (rules : List GameRule)
    (polls : List (List PollChoice)) :
    Always (WatchLog.pollOnce detectWindows rules) (LogJustified detectWindows rules) {} polls := by
  have hsteps : Steps (WatchLog.pollOnce detectWindows rules) (fun _ _ => True) {} polls :=
    steps_of_forall (φ := fun _ => True) fun _ _ => trivial
  refine always_of_steps (I := LogJustified detectWindows rules) ?_ (fun _ h => h) ?_ hsteps
  · intro w cs h _
    unfold WatchLog.pollOnce
    cases hpoll : w.pollStep detectWindows rules cs with
    | none => exact h
    | some result =>
      rcases pollStep_cases hpoll with ⟨heq, -⟩ | ⟨asked, presence, hrun, heq, -⟩
      · rw [Option.map_some, Option.getD_some, heq]
        exact h
      · rw [Option.map_some, Option.getD_some, heq]
        exact h.poll (seenBy_of_run hrun)
  · exact ⟨fun row hrow => absurd hrow List.not_mem_nil, fun t ht => absurd ht List.not_mem_nil⟩

end Process
end CppOptimizer
