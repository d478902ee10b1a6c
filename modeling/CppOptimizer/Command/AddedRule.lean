import CppOptimizer.Command.AddGameRuns

/-!
# CppOptimizer.Command.AddedRule

What a rule that `--add-game` has added is worth: the configuration is loaded with it at the end of the
rules and otherwise as before, and it finds the process it was made for.

* `LocalReady`  — the local file is text the parser reads, with its rules in `[[games]]` tables.
* `RuleInForce` — what holds of the rules afterwards.

A process name that is no valid UTF-16 loses its lone surrogates on the way to the file; the rule then
never finds the process.
-/

namespace CppOptimizer
namespace Command

open Common Config Lib Process

/-! ## One key changed -/

section Load

variable {access : Toml.Access} {t t' : Toml.Table}

/-- A document that differs in `games` only is loaded with other rules, and no other setting differs. -/
theorem loadConfig_of_same (h : ∀ key, key ≠ gamesKey → t'.get key = t.get key)
    {snapshot : ConfigSnapshot} (hload : loadConfig access t = .ok snapshot) :
    loadConfig access t' =
      .ok { snapshot with unknownKeys := unknownKeys t', games := readGames access t' } := by
  have hversion : readVersion t' = readVersion t := by
    rw [readVersion, readVersion, h "version".toList (by decide)]
  have hsection : ∀ key : String, key.toList ≠ gamesKey → sectionAt t' key = sectionAt t key := by
    intro key hkey
    rw [sectionAt, sectionAt, h key.toList hkey]
  unfold loadConfig at hload ⊢
  rw [hversion, hsection "application" (by decide), hsection "logging" (by decide),
    hsection "layers" (by decide), hsection "power" (by decide), hsection "priority" (by decide),
    hsection "memory" (by decide), hsection "scheduler" (by decide), hsection "disk_cache" (by decide),
    hsection "policy" (by decide), hsection "ipc" (by decide), hsection "agent" (by decide)]
  obtain ⟨version, hv, hload⟩ := ok_of_bind hload
  obtain ⟨application, ha, hload⟩ := ok_of_bind hload
  obtain ⟨memory, hm, hload⟩ := ok_of_bind hload
  obtain ⟨policy, hp, hload⟩ := ok_of_bind hload
  obtain ⟨ipc, hi, hload⟩ := ok_of_bind hload
  obtain ⟨agent, hg, hload⟩ := ok_of_bind hload
  rw [hv, ha, hm, hp, hi, hg]
  cases hload
  rfl

end Load

/-! ## The local file -/

/-- Text that is read, with the rules in tables a header can follow. -/
def LocalReady (toml : Toml.Reader gamesKey) (content : List UInt8) : Prop :=
  ∃ text table old, content = utf8 text ∧ toml.parse text = some table ∧
    table.headed gamesKey = some old

section Local

variable {toml : Toml.Reader gamesKey} {access : Toml.Access} {content : List UInt8} {rule : GameConfig}

/-- The new content is a document with the rule behind the others and all other keys as before. -/
theorem parse_appended (hid : rule.id ≠ "") (hdel : rule.NoDel) (htitle : rule.windowTitleContains = "")
    {text : List Char} {table : Toml.Table} {old : List Toml.Table}
    (hparse : toml.parse text = some table) (hold : table.headed gamesKey = some old) :
    ∃ table', (utf8Decode (appendGameRules (utf8 text) [rule])).bind toml.parse = some table' ∧
      readGames access table' = readGames access table ++ [rule] ∧
      ∀ key, key ≠ gamesKey → table'.get key = table.get key := by
  have hclosed : toml.parse (closeLine text) = some table := by
    unfold closeLine
    split
    · exact toml.parse_newline text table hparse
    · exact hparse
  have hdels : ∀ game ∈ [rule], game.NoDel := by simpa using hdel
  have hids : ∀ game ∈ [rule], game.id ≠ "" := by simpa using hid
  obtain ⟨table', hparse', hheaded, hkeys⟩ := toml.parse_append (closeLine text) table old _ _ hclosed
    (endsLine_closeLine text) hold (readTables_rules hdels)
  refine ⟨table', ?_, ?_, hkeys⟩
  · rw [appendGameRules_utf8 (by simp), utf8Decode_utf8, Option.bind_some]
    exact hparse'
  · have huntitled : [rule].map GameConfig.untitled = [rule] :=
      map_untitled_eq_iff.mpr (by simpa using htitle)
    rw [readGames_of_headed access hheaded, readGames_of_headed access hold, List.filterMap_append,
      filterMap_gameTable access hids, huntitled]

theorem documentAt_eq {files : Files} {path : Units} {text : List Char}
    (h : files path = some (utf8 text)) : documentAt toml files path = toml.parse text := by
  rw [documentAt, h, Option.bind_some, utf8Decode_utf8, Option.bind_some]

/-- The rules of the local file; a missing one has none. -/
def localRules (toml : Toml.Reader gamesKey) (access : Toml.Access) (files : Files) (path : Units) :
    Option (List GameConfig) :=
  if (files path).isSome = true then (configAt toml access files path).map (·.games) else some []

theorem configAt_nil (access : Toml.Access) :
    ∃ snapshot, loadConfig access [] = .ok snapshot ∧ snapshot.games = [] := ⟨_, rfl, rfl⟩

/-- After the append the local file is loaded, with the rule behind its others. -/
theorem configAt_appended {before after : Files} {localPath : Units} {games : List GameConfig}
    (hid : rule.id ≠ "") (hdel : rule.NoDel) (htitle : rule.windowTitleContains = "")
    (hready : LocalReady toml ((before localPath).getD []))
    (happended : Appended localPath before after rule)
    (hgames : localRules toml access before localPath = some games) :
    ∃ snapshot, configAt toml access after localPath = some snapshot ∧
      snapshot.games = games ++ [rule] := by
  obtain ⟨text, table, old, hcontent, hparse, hold⟩ := hready
  have hload : ∃ snapshot, loadConfig access table = .ok snapshot ∧ snapshot.games = games := by
    unfold localRules at hgames
    cases hfile : before localPath with
    | none =>
      rw [hfile] at hgames hcontent
      have htext : text = [] := utf8_eq_nil_iff.mp hcontent.symm
      rw [htext, toml.parse_nil] at hparse
      cases hparse
      cases hgames
      exact configAt_nil access
    | some bytes =>
      rw [hfile] at hgames hcontent
      rw [if_pos (show (some bytes).isSome = true from rfl)] at hgames
      obtain ⟨snapshot, hsnapshot, hgames⟩ := Option.map_eq_some_iff.mp hgames
      rw [configAt, documentAt_eq (hfile.trans (congrArg some hcontent)), hparse,
        Option.bind_some] at hsnapshot
      refine ⟨snapshot, ?_, hgames⟩
      cases hloaded : loadConfig access table with
      | error e =>
        rw [hloaded] at hsnapshot
        cases hsnapshot
      | ok other =>
        rw [hloaded] at hsnapshot
        cases hsnapshot
        rfl
  obtain ⟨snapshot, hsnapshot, rfl⟩ := hload
  have hown : snapshot.games = readGames access table := by
    have hsame := loadConfig_of_same (fun _ _ => rfl) hsnapshot
    rw [hsnapshot] at hsame
    exact congrArg ConfigSnapshot.games (Except.ok.inj hsame)
  obtain ⟨table', hparse', hgames', hkeys⟩ := @parse_appended toml access rule hid hdel htitle text table old hparse hold
  refine ⟨{ snapshot with unknownKeys := unknownKeys table', games := readGames access table' }, ?_, ?_⟩
  · rw [configAt, documentAt, happended.content, Option.bind_some, hcontent, hparse', Option.bind_some,
      loadConfig_of_same hkeys hsnapshot]
    rfl
  · rw [hown]
    exact hgames'

theorem effectiveConfig_eq (files : Files) (mainPath localPath : Units) :
    effectiveConfig toml access files mainPath localPath =
      (configAt toml access files mainPath).bind fun main =>
        (localRules toml access files localPath).map fun games =>
          { main with games := mergeGameRules main.games games } := by
  rw [effectiveConfig, localRules]
  cases configAt toml access files mainPath with
  | none => rfl
  | some main =>
    rw [Option.bind_some, Option.bind_some]
    split
    · rw [Option.map_map]
      rfl
    · rfl

theorem existingRules_local {files : Files} {localPath : Units} :
    existingRules toml access files [] localPath = localRules toml access files localPath := by
  rw [existingRules, if_neg (by simp), localRules]

theorem localRules_of_config {files : Files} {path : Units} {snapshot : ConfigSnapshot}
    (h : configAt toml access files path = some snapshot) :
    localRules toml access files path = some snapshot.games := by
  have hthere : (files path).isSome = true := by
    by_contra hmissing
    rw [Option.not_isSome_iff_eq_none] at hmissing
    rw [configAt, documentAt, hmissing] at h
    cases h
  rw [localRules, if_pos hthere, h]
  rfl

end Local

/-! ## The rules in force -/

/-- What a rule that was made for a process and added is worth. -/
structure RuleInForce (toml : Toml.Reader gamesKey) (access : Toml.Access) (mainPath localPath : Units)
    (before after : Files) (details : ProcessDetails) (existing : List GameConfig)
    (rule : GameConfig) : Prop where
  /-- The rules are those of before and the new one. -/
  rules : existingRules toml access before mainPath localPath = some existing ∧
    existingRules toml access after mainPath localPath = some (existing ++ [rule])
  /-- No setting of the configuration in force differs otherwise. -/
  settings : mainPath ≠ [] → effectiveConfig toml access after mainPath localPath =
    (effectiveConfig toml access before mainPath localPath).map fun snapshot =>
      { snapshot with games := existing ++ [rule] }
  distinct : ∀ game ∈ existing, game.foldedId ≠ rule.foldedId
  /-- What the other rules find is not touched. -/
  others : ∀ entries, matchRulesToEntries (buildGameRules existing) entries <+:
    matchRulesToEntries (buildGameRules (existing ++ [rule])) entries
  /-- Where the process runs, one of its name is found under the new id. -/
  found : WellFormed details.name → ∀ entries : List ProcessEntry,
    (∃ entry ∈ entries, entry.name = details.name) →
      ∃ m ∈ matchRulesToEntries (buildGameRules (existing ++ [rule])) entries,
        m.gameId = rule.id ∧ m.entry ∈ entries ∧
          m.entry.name.map foldAscii = details.name.map foldAscii
  /-- A name that is no UTF-16 is never found. -/
  lost : ¬ WellFormed details.name → ∀ entries,
    ∀ m ∈ matchRulesToEntries (buildGameRules [rule]) entries, m.entry.name ≠ details.name

section InForce

variable {details : ProcessDetails} {existing : List GameConfig} {rule : GameConfig}

/-- The rule as the watcher knows it. -/
theorem buildGameRules_built (h : BuiltRule details existing rule) :
    buildGameRules [rule] =
      [{ id := rule.id, processNames := [utf16 (utf16Lossy details.name)] }] := by
  simp [buildGameRules, h.processNames, h.untitled, utf8ToWide]

theorem found_of_built (h : BuiltRule details existing rule) (hname : WellFormed details.name)
    {entries : List ProcessEntry} (hentries : ∃ entry ∈ entries, entry.name = details.name) :
    ∃ m ∈ matchRulesToEntries (buildGameRules [rule]) entries,
      m.gameId = rule.id ∧ m.entry ∈ entries ∧
        m.entry.name.map foldAscii = details.name.map foldAscii := by
  have hunits : utf16 (utf16Lossy details.name) = details.name := hname
  rw [buildGameRules_built h, hunits]
  have htakes : ∀ entry : ProcessEntry,
      ((⟨rule.id, [details.name], []⟩ : GameRule).names entry &&
        (⟨rule.id, [details.name], []⟩ : GameRule).titled entry) =
          processNameMatches details.name entry.name := by
    intro entry
    simp [GameRule.names, GameRule.titled]
  obtain ⟨entry, hentry, heq⟩ := hentries
  obtain ⟨first, hfirst⟩ : ∃ first, entries.find? (fun entry =>
      (⟨rule.id, [details.name], []⟩ : GameRule).names entry &&
        (⟨rule.id, [details.name], []⟩ : GameRule).titled entry) = some first := by
    rw [← Option.isSome_iff_exists, List.find?_isSome]
    refine ⟨entry, hentry, ?_⟩
    rw [htakes, heq]
    exact processNameMatches_iff.mpr ⟨h.named, rfl⟩
  refine ⟨{ gameId := rule.id, entry := first }, ?_, rfl, List.mem_of_find?_eq_some hfirst, ?_⟩
  · refine List.mem_filterMap.mpr ⟨_, List.mem_singleton_self _, ?_⟩
    rw [hfirst]
    rfl
  · have hmatches := List.find?_some hfirst
    rw [htakes] at hmatches
    exact (processNameMatches_iff.mp hmatches).2.symm

theorem lost_of_built (h : BuiltRule details existing rule) (hname : ¬ WellFormed details.name)
    {entries : List ProcessEntry} {m : RuleMatch}
    (hm : m ∈ matchRulesToEntries (buildGameRules [rule]) entries) : m.entry.name ≠ details.name := by
  intro heq
  obtain ⟨gameRule, hrule, -, -, hnames, -⟩ := mem_matches hm
  rw [buildGameRules_built h, List.mem_singleton] at hrule
  subst hrule
  simp only [GameRule.names, List.any_cons, List.any_nil, Bool.or_false, heq] at hnames
  exact hname ((processNameMatches_lossy_iff h.named).mp hnames)

theorem buildGameRules_append (games more : List GameConfig) :
    buildGameRules (games ++ more) = buildGameRules games ++ buildGameRules more := List.map_append

theorem ruleInForce_of_appended {toml : Toml.Reader gamesKey} {access : Toml.Access}
    {mainPath localPath : Units} {before after : Files} (hbuilt : BuiltRule details existing rule)
    (hdel : rule.NoDel) (hready : LocalReady toml ((before localPath).getD []))
    (hmain : mainPath ≠ localPath) (htemp : mainPath ≠ tempPath localPath)
    (happended : Appended localPath before after rule)
    (hexisting : existingRules toml access before mainPath localPath = some existing) :
    RuleInForce toml access mainPath localPath before after details existing rule := by
  have hloads : ∀ games, localRules toml access before localPath = some games →
      localRules toml access after localPath = some (games ++ [rule]) := by
    intro games hgames
    obtain ⟨snapshot, hsnapshot, hrules⟩ := configAt_appended hbuilt.id_ne_empty hdel hbuilt.untitled
      hready happended hgames
    rw [localRules_of_config hsnapshot, hrules]
  have hrules : existingRules toml access after mainPath localPath = some (existing ++ [rule]) ∧
      (mainPath ≠ [] → effectiveConfig toml access after mainPath localPath =
        (effectiveConfig toml access before mainPath localPath).map fun snapshot =>
          { snapshot with games := existing ++ [rule] }) := by
    by_cases hnone : mainPath = []
    · subst hnone
      rw [existingRules_local] at hexisting ⊢
      exact ⟨hloads existing hexisting, fun h => absurd rfl h⟩
    · have hsame : configAt toml access after mainPath = configAt toml access before mainPath := by
        rw [configAt, configAt, documentAt, documentAt, happended.others mainPath hmain htemp]
      rw [existingRules, if_pos hnone, effectiveConfig_eq] at hexisting
      rw [existingRules, if_pos hnone, effectiveConfig_eq, effectiveConfig_eq, hsame]
      cases hconfig : configAt toml access before mainPath with
      | none =>
        rw [hconfig] at hexisting
        cases hexisting
      | some main =>
        rw [hconfig, Option.bind_some, Option.map_map] at hexisting
        obtain ⟨games, hgames, rfl⟩ := Option.map_eq_some_iff.mp hexisting
        obtain ⟨baseId, -, -, hid⟩ := hbuilt.fresh
        have hmerge := mergeGameRules_added hid
        rw [hloads games hgames, hgames]
        simp [hmerge]
  refine ⟨⟨hexisting, hrules.1⟩, hrules.2, hbuilt.distinct, ?_, ?_, ?_⟩
  · intro entries
    rw [buildGameRules_append, matchRulesToEntries_append]
    exact List.prefix_append _ _
  · intro hname entries hentries
    obtain ⟨m, hm, hfound⟩ := found_of_built hbuilt hname hentries
    refine ⟨m, ?_, hfound⟩
    rw [buildGameRules_append, matchRulesToEntries_append]
    exact List.mem_append_right _ hm
  · intro hname entries m hm
    exact lost_of_built hbuilt hname hm

end InForce

/-- The system tells the truth about what exists, and no process has U+007F in its name or title. -/
def PlainProcesses : AddGameWorld → AddGameCall → AddGameChoice → Prop
  | _, .fileExists _, c => c.error = none
  | _, .queryProcessDetails _, c => 0x7f ∉ c.details.name ∧ 0x7f ∉ c.details.windowTitle
  | _, _, _ => True

/-- If a run of `--add-game`, to its end or not, has changed the local file, then there is a process it
was asked for, and the rule made for it is in force. -/
theorem added_rule_in_force (toml : Toml.Reader gamesKey) (access : Toml.Access)
    (sibling : Units → Units) {args : List Units} {a : AddGameArgs}
    (hargs : parseAddGameArgs args {} = some a) (console : List Units) {before after : Files}
    {cs : List AddGameChoice} {r : Option AddGameEnd}
    (hplain : (runAddGame access sibling args console).Answered (addGameHandler toml) PlainProcesses
      ⟨before⟩ cs)
    (hready : LocalReady toml ((before (localConfigPath sibling a.mainPath)).getD []))
    (hmain : a.mainPath ≠ localConfigPath sibling a.mainPath)
    (htemp : a.mainPath ≠ tempPath (localConfigPath sibling a.mainPath))
    (hrun : (runAddGame access sibling args console).run (addGameHandler toml) ⟨before⟩ cs = (⟨after⟩, r))
    (hchanged : after (localConfigPath sibling a.mainPath) ≠
      before (localConfigPath sibling a.mainPath)) :
    ∃ details existing rule, Chosen a details ∧
      RuleInForce toml access a.mainPath (localConfigPath sibling a.mainPath) before after details
        existing rule := by
  have hspec := @runAddGame_spec toml access PlainProcesses before a
    (fun details => 0x7f ∉ details.name ∧ 0x7f ∉ details.windowTitle) sibling args hargs
    (fun _ _ _ h => h) console
  have hends := hspec ⟨before⟩ cs rfl hplain
  rw [hrun] at hends
  have hends : RunEnds PlainProcesses toml access
      (fun details => 0x7f ∉ details.name ∧ 0x7f ∉ details.windowTitle) a
      (localConfigPath sibling a.mainPath) before r ⟨after⟩ := by
    cases r <;> exact hends
  rcases hends with ⟨huntouched, -⟩ | ⟨-, details, existing, rule, hadded⟩
  · exact absurd (huntouched _ (tempPath_ne _).symm) hchanged
  · have hbuilt := builtRule_of_ok hadded.built
    have hdel := noDel_of_built hadded.built hadded.reported.1 hadded.reported.2 (by simp)
    exact ⟨details, existing, rule, hadded.chosen,
      ruleInForce_of_appended hbuilt hdel hready hmain htemp hadded.appended
        (hadded.inForce fun _ _ _ h => h)⟩

/-- A run with nothing going wrong, for a process that was asked for by its pid. -/
def addEldenRing : AddGameWorld × Option AddGameEnd :=
  (runAddGame Toml.strictAccess id [utf16 "42".toList] []).run
    (addGameHandler (Toml.linesReader gamesKey)) ⟨fun _ => none⟩
    (List.replicate 8 { details := eldenRing })

theorem added_rule_in_force_eldenRing : addEldenRing.2 = some (.exit 0) ∧
    ∃ details existing rule, Chosen { pid := 42 } details ∧
      RuleInForce (Toml.linesReader gamesKey) Toml.strictAccess [] (localConfigPath id [])
        (fun _ => none) addEldenRing.1.files details existing rule := by
  have heta : ∀ x : AddGameWorld × Option AddGameEnd, x = (⟨x.1.files⟩, x.2) := fun _ => rfl
  refine ⟨by decide +kernel, ?_⟩
  refine added_rule_in_force (Toml.linesReader gamesKey) Toml.strictAccess id (a := { pid := 42 })
    (by decide) [] (Prog.answered_true.mono ?_) ⟨[], [], [], rfl, rfl, rfl⟩ (by decide) (by decide)
    (heta addEldenRing) (by decide +kernel)
  intro w e c hc _
  obtain rfl := List.eq_of_mem_replicate hc
  cases e <;> trivial

end Command
end CppOptimizer
