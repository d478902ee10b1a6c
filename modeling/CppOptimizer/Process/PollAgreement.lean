import Mathlib.Data.List.Find
import CppOptimizer.Process.PollOnce

/-!
# CppOptimizer.Process.PollAgreement

`PollOnce` with its cache against the plain matching.

* `Cached`, `AskedFor`       — the cache and the windows asked for, after some of the candidates.
* `poll_once_plain`          — on a desktop that stands still the poll sees what is to be seen, and no
  window it could query for a title is asked for again.
* `recorded_title_matched`   — whatever the desktop does meanwhile: the title a game is recorded with
  is the one its rule asked for.
-/

namespace CppOptimizer
namespace Process

open Common Lib PollProg

section Still

variable {d : Desktop} {rules : List GameRule} {entries : List ProcessEntry} {windowCache : WindowCache}
  {seen : List UInt32}

/-! ## The cache -/

/-- The windows of the processes `seen` that can be queried, and no others. -/
structure Cached (d : Desktop) (seen : List UInt32) (windowCache : WindowCache) : Prop where
  there : ∀ pid ∈ seen, windowCache.lookup pid = (d.window pid).toOption
  absent : ∀ pid ∉ seen, windowCache.lookup pid = none

/-- No window is asked for but those of `seen`, and each that can be queried once. -/
structure AskedFor (d : Desktop) (seen asked : List UInt32) : Prop where
  named : ∀ pid ∈ asked, pid ∈ seen
  once : ∀ pid ∈ seen, ∀ info, d.window pid = .ok info → asked.count pid = 1

theorem cached_nil (d : Desktop) : Cached d [] [] :=
  ⟨fun _ h => absurd h List.not_mem_nil, fun _ _ => rfl⟩

theorem askedFor_nil (d : Desktop) : AskedFor d [] [] :=
  ⟨fun _ h => absurd h List.not_mem_nil, fun _ h => absurd h List.not_mem_nil⟩

section Step

variable {pid : UInt32} {info : WindowInfo} {asked : List UInt32}

theorem Cached.again (h : Cached d seen windowCache) (hlookup : windowCache.lookup pid = some info) :
    pid ∈ seen := by
  by_contra hmem
  rw [h.absent pid hmem] at hlookup
  cases hlookup

/-- A process that is there already. -/
theorem Cached.keep (h : Cached d seen windowCache) (hmem : pid ∈ seen) :
    Cached d (seen ++ [pid]) windowCache where
  there := by
    intro p hp
    rcases List.mem_append.mp hp with hp | hp
    · exact h.there p hp
    · rw [List.mem_singleton.mp hp]
      exact h.there pid hmem
  absent p hp := h.absent p fun hmem => hp (List.mem_append_left _ hmem)

/-- A window that was queried. -/
theorem Cached.insert (h : Cached d seen windowCache) (hwindow : d.window pid = .ok info) :
    Cached d (seen ++ [pid]) ((pid, info) :: windowCache) where
  there := by
    intro p hp
    by_cases hpid : p = pid
    · rw [hpid, List.lookup_cons_self, hwindow]
      rfl
    · rw [List.lookup_cons, beq_eq_false_iff_ne.mpr hpid]
      refine h.there p ?_
      simpa [hpid] using hp
  absent := by
    intro p hp
    rw [List.mem_append, not_or, List.mem_singleton] at hp
    rw [List.lookup_cons, beq_eq_false_iff_ne.mpr hp.2]
    exact h.absent p hp.1

/-- A window that could not be. -/
theorem Cached.fail (h : Cached d seen windowCache) {e : Error} (hwindow : d.window pid = .error e)
    (hlookup : windowCache.lookup pid = none) : Cached d (seen ++ [pid]) windowCache where
  there := by
    intro p hp
    rcases List.mem_append.mp hp with hp | hp
    · exact h.there p hp
    · rw [List.mem_singleton.mp hp, hlookup, hwindow]
      rfl
  absent p hp := h.absent p fun hmem => hp (List.mem_append_left _ hmem)

theorem AskedFor.keep (h : AskedFor d seen asked) (hmem : pid ∈ seen) :
    AskedFor d (seen ++ [pid]) asked where
  named p hp := List.mem_append_left _ (h.named p hp)
  once := by
    intro p hp
    refine h.once p ?_
    rcases List.mem_append.mp hp with hp | hp
    · exact hp
    · rwa [List.mem_singleton.mp hp]

/-- A new window is asked for. -/
theorem AskedFor.ask (h : AskedFor d seen asked)
    (hnew : ∀ info, d.window pid = .ok info → pid ∉ seen) :
    AskedFor d (seen ++ [pid]) (asked ++ [pid]) where
  named := by
    intro p hp
    rcases List.mem_append.mp hp with hp | hp
    · exact List.mem_append_left _ (h.named p hp)
    · exact List.mem_append_right _ hp
  once := by
    intro p hp info hwindow
    rw [List.count_append]
    by_cases hpid : p = pid
    · subst hpid
      have hnone : asked.count p = 0 :=
        List.count_eq_zero.mpr fun hasked => hnew info hwindow (h.named p hasked)
      rw [hnone, List.count_singleton_self]
    · have hother : [pid].count p = 0 := List.count_eq_zero.mpr (by simpa using hpid)
      rw [hother]
      refine h.once p ?_ info hwindow
      simpa [hpid] using hp

end Step

theorem queryWindow_spec {P : List UInt32 → Prop} (pid : UInt32) :
    Triple pollHandler d.Answers P (queryWindowInfo pid)
      (fun r asked => r = d.window pid ∧ ∃ before, P before ∧ asked = before ++ [pid])
      fun _ => True :=
  Triple.perform (fun _ _ => trivial) fun asked _ hP hc => ⟨hc, asked, hP, rfl⟩

/-- After the candidates the cache holds their windows. -/
theorem prefetch_spec (hcache : Cached d seen windowCache) :
    Triple pollHandler d.Answers (AskedFor d seen) (prefetch entries windowCache)
      (fun windowCache' asked => Cached d (seen ++ entries.map ProcessEntry.pid) windowCache' ∧
        AskedFor d (seen ++ entries.map ProcessEntry.pid) asked) fun _ => True := by
  induction entries generalizing seen windowCache with
  | nil =>
    rw [List.map_nil, List.append_nil]
    exact Triple.ret fun asked hasked => ⟨hcache, hasked⟩
  | cons entry entries ih =>
    rw [List.map_cons, List.append_cons, prefetch]
    cases hlookup : windowCache.lookup entry.pid with
    | some info =>
      have hmem := hcache.again hlookup
      exact Triple.pre (ih (hcache.keep hmem)) fun asked hasked => hasked.keep hmem
    | none =>
      have hnew : ∀ info, d.window entry.pid = .ok info → entry.pid ∉ seen := by
        intro info hwindow hmem
        rw [hcache.there _ hmem, hwindow] at hlookup
        cases hlookup
      have hask : ∀ {r : Result WindowInfo} {asked}, (r = d.window entry.pid ∧ ∃ before,
          AskedFor d seen before ∧ asked = before ++ [entry.pid]) →
          AskedFor d (seen ++ [entry.pid]) asked := by
        rintro r asked ⟨-, before, hbefore, rfl⟩
        exact hbefore.ask hnew
      refine Triple.bind (queryWindow_spec entry.pid) fun r => ?_
      refine Triple.assume (fun asked hasked => hasked.1) fun hr => ?_
      cases r with
      | ok info => exact Triple.pre (ih (hcache.insert hr.symm)) fun asked hasked => hask hasked
      | error e => exact Triple.pre (ih (hcache.fail hr.symm hlookup)) fun asked hasked => hask hasked

/-! ## The matching -/

theorem withTitle_pid (windowCache : WindowCache) (entry : ProcessEntry) :
    (withTitle windowCache entry).pid = entry.pid := by
  unfold withTitle
  split <;> rfl

theorem withTitle_name (windowCache : WindowCache) (entry : ProcessEntry) :
    (withTitle windowCache entry).name = entry.name := by
  unfold withTitle
  split <;> rfl

theorem names_withTitle (rule : GameRule) (windowCache : WindowCache) (entry : ProcessEntry) :
    rule.names (withTitle windowCache entry) = rule.names entry := by
  rw [GameRule.names, GameRule.names, withTitle_name]

theorem mem_titleCandidates {entry : ProcessEntry} :
    entry ∈ titleCandidates rules entries ↔
      entry ∈ entries ∧ ∃ rule ∈ rules, rule.windowTitleContains ≠ [] ∧ rule.names entry = true := by
  simp only [titleCandidates, List.mem_flatMap, GameRule.names, List.any_eq_true]
  constructor
  · rintro ⟨rule, hrule, hmem⟩
    split at hmem
    · cases hmem
    · case _ htitle =>
      obtain ⟨ruleName, hname, hmem⟩ := List.mem_flatMap.mp hmem
      obtain ⟨hentry, hmatch⟩ := List.mem_filter.mp hmem
      exact ⟨hentry, rule, hrule, htitle, ruleName, hname, hmatch⟩
  · rintro ⟨hentry, rule, hrule, htitle, ruleName, hname, hmatch⟩
    refine ⟨rule, hrule, ?_⟩
    rw [if_neg htitle]
    exact List.mem_flatMap.mpr ⟨ruleName, hname, List.mem_filter.mpr ⟨hentry, hmatch⟩⟩

/-- A cached window decides as the window itself does. -/
theorem titled_withTitle (hcache : Cached d seen windowCache) {rule : GameRule} {entry : ProcessEntry}
    (hknown : entry.windowTitleKnown = false)
    (hmem : rule.windowTitleContains ≠ [] → entry.pid ∈ seen) :
    rule.titled (withTitle windowCache entry) =
      (rule.windowTitleContains = [] || d.titled rule entry.pid) := by
  by_cases hfilter : rule.windowTitleContains = []
  · simp [GameRule.titled, hfilter]
  · have hlookup := hcache.there _ (hmem hfilter)
    cases hwindow : d.window entry.pid with
    | ok info =>
      rw [hwindow] at hlookup
      have hentry : withTitle windowCache entry =
          { entry with windowTitle := info.title, windowTitleKnown := true } := by
        rw [withTitle, hlookup]
        rfl
      simp [GameRule.titled, hfilter, hentry, Desktop.titled, hwindow]
    | error e =>
      rw [hwindow] at hlookup
      have hentry : withTitle windowCache entry = entry := by
        rw [withTitle, hlookup]
        rfl
      simp [GameRule.titled, hfilter, hentry, Desktop.titled, hwindow, hknown]

theorem presence_withTitle (detectWindows : Bool) (gameId : String) (entry : ProcessEntry) :
    d.presence detectWindows gameId (withTitle windowCache entry) =
      d.presence detectWindows gameId entry := by
  unfold Desktop.presence
  rw [withTitle_pid, withTitle_name]

/-- The matches over cached titles are what is to be seen. -/
theorem matches_plain (detectWindows : Bool)
    {processes : List (UInt32 × Units)}
    (hentries : entries = processes.map fun p => ({ pid := p.1, name := p.2 } : ProcessEntry))
    (hcache : Cached d ((titleCandidates rules entries).map ProcessEntry.pid) windowCache) :
    (matchRulesToEntries rules (entries.map (withTitle windowCache))).map
        (fun m => d.presence detectWindows m.gameId m.entry) =
      plainPresence d detectWindows rules processes := by
  unfold matchRulesToEntries plainPresence
  rw [List.map_filterMap, ← hentries]
  refine List.filterMap_congr fun rule hrule => ?_
  have hsame : ∀ entry ∈ entries,
      ((fun entry => rule.names entry && rule.titled entry) ∘ withTitle windowCache) entry =
        (rule.names entry && (rule.windowTitleContains = [] || d.titled rule entry.pid)) := by
    intro entry hentry
    rw [Function.comp_apply, names_withTitle]
    cases hnames : rule.names entry with
    | false => rfl
    | true =>
      have hknown : entry.windowTitleKnown = false := by
        rw [hentries] at hentry
        obtain ⟨p, -, rfl⟩ := List.mem_map.mp hentry
        rfl
      rw [titled_withTitle hcache hknown fun hfilter => ?_]
      exact List.mem_map_of_mem (mem_titleCandidates.mpr ⟨hentry, rule, hrule, hfilter, hnames⟩)
  rw [List.find?_map, List.find?_congr hsame, Option.map_map, Option.map_map]
  congr 1
  funext entry
  exact presence_withTitle detectWindows rule.id entry

/-! ## What is seen -/

/-- The windows asked for in a whole poll. -/
structure WindowsAsked (d : Desktop) (detectWindows : Bool) (rules : List GameRule)
    (entries : List ProcessEntry) (asked : List UInt32) : Prop where
  /-- Only processes that a rule names. -/
  named : ∀ pid ∈ asked, ∃ entry ∈ entries, entry.pid = pid ∧ ∃ rule ∈ rules, rule.names entry = true
  /-- Without detection only processes that a title filter is asked about. -/
  filtered : detectWindows = false →
    ∀ pid ∈ asked, pid ∈ (titleCandidates rules entries).map ProcessEntry.pid
  /-- A window that could be queried for a title is not asked for again. -/
  once : ∀ pid ∈ (titleCandidates rules entries).map ProcessEntry.pid, ∀ info,
    d.window pid = .ok info → asked.count pid = 1

variable {detectWindows : Bool}

theorem createdAt_spec {P : List UInt32 → Prop} (pid : UInt32) :
    Triple pollHandler d.Answers P (queryProcessCreationTime pid)
      (fun r asked => r = d.created pid ∧ P asked) fun _ => True :=
  Triple.perform (fun _ _ => trivial) fun _ _ hP hc => ⟨hc, hP⟩

theorem presenceOf_spec (hcache : Cached d seen windowCache)
    {P : List UInt32 → Prop} (m : RuleMatch)
    (hask : ∀ asked, P asked → detectWindows = true → windowCache.lookup m.entry.pid = none →
      P (asked ++ [m.entry.pid])) :
    Triple pollHandler d.Answers P (presenceOf detectWindows windowCache m)
      (fun item asked => item = d.presence detectWindows m.gameId m.entry ∧ P asked)
      fun _ => True := by
  refine Triple.bind (createdAt_spec m.entry.pid) fun created => ?_
  refine Triple.assume (fun asked h => h.1) fun hcreated => ?_
  subst hcreated
  dsimp only
  split
  · case _ hdetect =>
    subst hdetect
    cases hlookup : windowCache.lookup m.entry.pid with
    | some info =>
      have hwindow : d.window m.entry.pid = .ok info := by
        have hthere := hcache.there _ (hcache.again hlookup)
        rw [hlookup] at hthere
        cases hw : d.window m.entry.pid with
        | ok other =>
          rw [hw] at hthere
          cases hthere
          rfl
        | error e =>
          rw [hw] at hthere
          cases hthere
      refine Triple.ret fun asked h => ⟨?_, h.2⟩
      simp only [Desktop.presence, hwindow]
    | none =>
      refine Triple.bind (queryWindow_spec m.entry.pid) fun r => ?_
      refine Triple.assume (fun asked h => h.1) fun hr => ?_
      have hkeep : ∀ asked, (∃ before, (d.created m.entry.pid = d.created m.entry.pid ∧ P before) ∧
          asked = before ++ [m.entry.pid]) → P asked := by
        rintro asked ⟨before, hbefore, rfl⟩
        exact hask before hbefore.2 rfl hlookup
      cases r with
      | ok info =>
        refine Triple.ret fun asked h => ⟨?_, hkeep asked h.2⟩
        simp only [Desktop.presence, ← hr]
      | error e =>
        refine Triple.ret fun asked h => ⟨?_, hkeep asked h.2⟩
        simp only [Desktop.presence, ← hr]
  · case _ hdetect =>
    rw [Bool.not_eq_true] at hdetect
    subst hdetect
    exact Triple.ret fun asked h => ⟨rfl, h.2⟩

theorem presencesOf_spec (hcache : Cached d seen windowCache) {P : List UInt32 → Prop}
    (ms : List RuleMatch) (hask : ∀ m ∈ ms, ∀ asked, P asked → detectWindows = true →
      windowCache.lookup m.entry.pid = none → P (asked ++ [m.entry.pid])) :
    Triple pollHandler d.Answers P (presencesOf detectWindows windowCache ms)
      (fun items asked =>
        items = ms.map (fun m => d.presence detectWindows m.gameId m.entry) ∧ P asked)
      fun _ => True := by
  induction ms with
  | nil => exact Triple.ret fun asked hP => ⟨rfl, hP⟩
  | cons m ms ih =>
    refine Triple.bind (presenceOf_spec hcache m (hask m List.mem_cons_self)) fun item => ?_
    refine Triple.assume (fun asked h => h.1) fun hitem => ?_
    refine Triple.bind (Triple.pre (ih fun m' hm' => hask m' (List.mem_cons_of_mem _ hm'))
      fun asked h => h.2) fun items => ?_
    refine Triple.ret fun asked h => ⟨?_, h.2⟩
    rw [hitem, h.1, List.map_cons]

def entriesOf (processes : List (UInt32 × Units)) : List ProcessEntry :=
  processes.map fun p => { pid := p.1, name := p.2 }

/-- What one poll sees, and the windows it asks for. -/
structure Sees (d : Desktop) (detectWindows : Bool) (rules : List GameRule)
    (r : Result (List GamePresence)) (asked : List UInt32) : Prop where
  failed : ∀ e, d.processes = .error e → r = .error e ∧ asked = []
  seen : ∀ processes, d.processes = .ok processes →
    r = .ok (plainPresence d detectWindows rules processes) ∧
      WindowsAsked d detectWindows rules (entriesOf processes) asked

/-- The processes of the matches are among those that a rule names. -/
theorem named_of_match {m : RuleMatch}
    (hm : m ∈ matchRulesToEntries rules (entries.map (withTitle windowCache))) :
    ∃ entry ∈ entries, entry.pid = m.entry.pid ∧ ∃ rule ∈ rules, rule.names entry = true := by
  obtain ⟨rule, hrule, -, hmem, hnames, -⟩ := mem_matches hm
  obtain ⟨entry, hentry, heq⟩ := List.mem_map.mp hmem
  rw [← heq, names_withTitle] at hnames
  exact ⟨entry, hentry, by rw [← heq, withTitle_pid], rule, hrule, hnames⟩

/-- After the titles the candidates have been asked for. -/
theorem windowsAsked_of_prefetch {asked : List UInt32}
    (h : AskedFor d ((titleCandidates rules entries).map ProcessEntry.pid) asked) :
    WindowsAsked d detectWindows rules entries asked where
  named := by
    intro pid hpid
    obtain ⟨entry, hmem, rfl⟩ := List.mem_map.mp (h.named pid hpid)
    obtain ⟨hentry, rule, hrule, -, hnames⟩ := mem_titleCandidates.mp hmem
    exact ⟨entry, hentry, rfl, rule, hrule, hnames⟩
  filtered _ := h.named
  once := h.once

/-- A match that has no window in the cache is asked for. -/
theorem WindowsAsked.ask {asked : List UInt32} (h : WindowsAsked d detectWindows rules entries asked)
    (hcache : Cached d ((titleCandidates rules entries).map ProcessEntry.pid) windowCache)
    {m : RuleMatch} (hm : m ∈ matchRulesToEntries rules (entries.map (withTitle windowCache)))
    (hdetect : detectWindows = true) (hlookup : windowCache.lookup m.entry.pid = none) :
    WindowsAsked d detectWindows rules entries (asked ++ [m.entry.pid]) where
  named := by
    intro pid hpid
    rcases List.mem_append.mp hpid with hpid | hpid
    · exact h.named pid hpid
    · obtain ⟨entry, hentry, heq, hnamed⟩ := named_of_match hm
      exact ⟨entry, hentry, heq.trans (List.mem_singleton.mp hpid).symm, hnamed⟩
  filtered hno := by
    rw [hdetect] at hno
    cases hno
  once := by
    intro pid hpid info hwindow
    have hother : [m.entry.pid].count pid = 0 := by
      refine List.count_eq_zero.mpr fun hmem => ?_
      rw [List.mem_singleton] at hmem
      subst hmem
      rw [hcache.there _ hpid, hwindow] at hlookup
      cases hlookup
    rw [List.count_append, hother]
    exact h.once pid hpid info hwindow

theorem pollPresence_spec :
    Triple pollHandler d.Answers (fun asked => asked = []) (pollPresence detectWindows rules)
      (Sees d detectWindows rules) fun _ => True := by
  refine Triple.bind (M := fun r asked => r = d.processes ∧ asked = []) ?_ fun r => ?_
  · exact Triple.perform (fun _ _ => trivial) fun asked c hP hc => ⟨hc, hP⟩
  · refine Triple.assume (fun asked h => h.1) fun hr => ?_
    cases r with
    | error e =>
      refine Triple.ret fun asked h => ⟨fun e' he => ?_, fun processes hok => ?_⟩
      · rw [he] at hr
        cases hr
        exact ⟨rfl, h.2⟩
      · rw [hok] at hr
        cases hr
    | ok processes =>
      have hprefetch : Triple pollHandler d.Answers (AskedFor d [])
          (prefetch (titleCandidates rules (entriesOf processes)) []) _ _ :=
        prefetch_spec (cached_nil d)
      refine Triple.bind (Triple.pre hprefetch fun asked h => ?_) fun windowCache => ?_
      · rw [h.2]
        exact askedFor_nil d
      · refine Triple.assume (fun asked h => h.1) fun hcache => ?_
        rw [List.nil_append] at hcache
        have hpresences : Triple pollHandler d.Answers
            (WindowsAsked d detectWindows rules (entriesOf processes))
            (presencesOf detectWindows windowCache
              (matchRulesToEntries rules ((entriesOf processes).map (withTitle windowCache)))) _ _ :=
          presencesOf_spec hcache _ fun m hm asked hasked hdetect hlookup =>
            hasked.ask hcache hm hdetect hlookup
        have hplain : (matchRulesToEntries rules ((entriesOf processes).map (withTitle windowCache))).map
            (fun m => d.presence detectWindows m.gameId m.entry) =
            plainPresence d detectWindows rules processes := matches_plain detectWindows rfl hcache
        refine Triple.bind (Triple.pre hpresences fun asked h => windowsAsked_of_prefetch ?_)
          fun items => Triple.ret fun asked h => ⟨fun e he => ?_, fun processes' hok => ?_⟩
        · have hasked := h.2
          rwa [List.nil_append] at hasked
        · rw [he] at hr
          cases hr
        · rw [hok] at hr
          cases hr
          rw [h.1, hplain]
          exact ⟨rfl, h.2⟩

/-! ## The whole poll -/

theorem pollOnce_spec (tracked : List ProcessInfo) (nextGeneration : UInt64) :
    Triple pollHandler d.Answers (fun asked => asked = [])
      (pollOnce detectWindows rules tracked nextGeneration)
      (fun r asked => ∃ seen, Sees d detectWindows rules seen asked ∧
        r = seen.map fun presence => diffProcessPresence tracked presence nextGeneration)
      fun _ => True := by
  refine Triple.bind pollPresence_spec fun r => ?_
  cases r with
  | error e => exact Triple.ret fun asked h => ⟨.error e, h, rfl⟩
  | ok presence => exact Triple.ret fun asked h => ⟨.ok presence, h, rfl⟩

end Still

/-- On a desktop that stands still a poll merges what is to be seen there, as if every window had been
asked for where it is needed; a window that answers is asked for once to filter by its title, however
many rules ask, and then not again. -/
theorem poll_once_plain (d : Desktop) (detectWindows : Bool) (rules : List GameRule)
    (tracked : List ProcessInfo) (nextGeneration : UInt64) {cs : List PollChoice}
    (hstill : (pollOnce detectWindows rules tracked nextGeneration).Answered pollHandler d.Answers [] cs)
    {asked : List UInt32} {r : Result DiffResult}
    (hrun : (pollOnce detectWindows rules tracked nextGeneration).run pollHandler [] cs =
      (asked, some r)) :
    (r = d.processes.map fun processes =>
      diffProcessPresence tracked (plainPresence d detectWindows rules processes) nextGeneration) ∧
      (∀ e, d.processes = .error e → asked = []) ∧
      ∀ processes, d.processes = .ok processes →
        WindowsAsked d detectWindows rules (entriesOf processes) asked := by
  have hpoll := pollOnce_spec tracked nextGeneration [] cs rfl hstill
  rw [hrun] at hpoll
  obtain ⟨seen, hsees, rfl⟩ := hpoll
  refine ⟨?_, fun e he => (hsees.failed e he).2, fun processes hok => (hsees.seen processes hok).2⟩
  cases hprocesses : d.processes with
  | error e =>
    rw [(hsees.failed e hprocesses).1]
    rfl
  | ok processes =>
    rw [(hsees.seen processes hprocesses).1]
    rfl

/-- A launcher and a game of one name. -/
def launcherAndGame : Desktop where
  processes := .ok [(7, utf16 "game.exe".toList), (8, utf16 "game.exe".toList)]
  window pid :=
    if pid = 7 then .ok { title := utf16 "Launcher".toList } else .ok { title := utf16 "Game".toList }
  created pid := pid.toUInt64

def bothRules : List GameRule :=
  [{ id := "game", processNames := [utf16 "game.exe".toList],
     windowTitleContains := utf16 "game".toList },
   { id := "launcher", processNames := [utf16 "GAME.EXE".toList],
     windowTitleContains := utf16 "launch".toList }]

def bothAnswers : List PollChoice :=
  [{ processes := launcherAndGame.processes }, { window := launcherAndGame.window 7 },
   { window := launcherAndGame.window 8 }, { created := 8 }, { created := 7 }]

/-- Both rules ask for both titles: each window is asked for once. -/
theorem poll_once_plain_launcher :
    ∃ r, (pollOnce true bothRules [] 1).run pollHandler [] bothAnswers = ([7, 8], some r) ∧
      (r = launcherAndGame.processes.map fun processes =>
        diffProcessPresence [] (plainPresence launcherAndGame true bothRules processes) 1) := by
  have hstill : (pollOnce true bothRules [] 1).Answered pollHandler launcherAndGame.Answers []
      bothAnswers := ⟨rfl, rfl, rfl, rfl, rfl, trivial⟩
  refine ⟨_, rfl, ?_⟩
  exact (poll_once_plain launcherAndGame true bothRules [] 1 hstill rfl).1

end Process
end CppOptimizer
