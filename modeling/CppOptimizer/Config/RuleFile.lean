import CppOptimizer.Config.Snapshot
import CppOptimizer.Config.TomlString

/-!
# CppOptimizer.Config.RuleFile

Game rules as text: `FormatGameRulesToml` writes them, `AppendGameRules` puts the text behind what
a file holds, and `LoadConfig` reads the array `[[games]]` back.

* `formatGame`, `formatGameRulesToml` — the text, as bytes.
* `appendGameRules`                   — the content of the file after the append.
* `readGame`, `readGames`             — the part of `LoadConfig` for `[[games]]`.
* `Reloads`                           — what is written is what is loaded, alone and behind other rules.

The writer has no line for `window_title_contains`, which the reader knows.
-/

namespace CppOptimizer
namespace Config

open Lib

/-! ## Writing -/

def quoted (s : String) : List UInt8 := toTomlString (bytes s)

def formatGame (game : GameConfig) : List UInt8 :=
  bytes "# 由 CppOptimizer --add-game 生成\n" ++
  bytes "[[games]]\n" ++
  (bytes "id = " ++ quoted game.id ++ bytes "\n") ++
  (if game.displayName = "" then []
    else bytes "display_name = " ++ quoted game.displayName ++ bytes "\n") ++
  (if game.processNames = [] then []
    else bytes "process_names = [" ++ (bytes ", ").intercalate (game.processNames.map quoted) ++
      bytes "]\n") ++
  (bytes "pause_when_background = " ++ bytes (if game.pauseWhenBackground then "true" else "false") ++
    bytes "\n\n")

def formatGameRulesToml (rules : List GameConfig) : List UInt8 := rules.flatMap formatGame

/-- What the file holds afterwards; a file that does not exist counts as empty. -/
def appendGameRules (content : List UInt8) (rules : List GameConfig) : List UInt8 :=
  if rules = [] then content
  else
    (if content ≠ [] ∧ content.getLast? ≠ some 0x0A then content ++ [0x0A] else content) ++
      formatGameRulesToml rules

/-! ## Reading -/

section Read

variable (access : Toml.Access)

/-- `value<std::string>()` of a key. -/
def stringAt (t : Toml.Table) (key : String) : Option String :=
  ((t.get key.toList).bind access.string).map String.ofList

def booleanAt (t : Toml.Table) (key : String) : Option Bool :=
  (t.get key.toList).bind access.boolean

def arrayAt (t : Toml.Table) (key : String) : Option (List Toml.Value) :=
  (t.get key.toList).bind Toml.Value.asArray

/-- One element of `[[games]]`; one that is no table or has no id is passed over. -/
def readGame (element : Toml.Value) : Option GameConfig :=
  match element.asTable with
  | none => none
  | some gameTable =>
    let game : GameConfig :=
      { id := (stringAt access gameTable "id").getD ""
        displayName := (stringAt access gameTable "display_name").getD ""
        processNames :=
          ((arrayAt gameTable "process_names").getD []).filterMap fun v =>
            (access.string v).map String.ofList
        windowTitleContains := (stringAt access gameTable "window_title_contains").getD ""
        pauseWhenBackground := (booleanAt access gameTable "pause_when_background").getD true }
    if game.id = "" then none else some game

def readGames (t : Toml.Table) : List GameConfig :=
  ((arrayAt t "games").getD []).filterMap (readGame access)

end Read

def gamesKey : List Char := "games".toList

/-- The rules `LoadConfig` takes from a file. -/
def loadGames (toml : Toml.Reader gamesKey) (access : Toml.Access) (content : List UInt8) :
    Option (List GameConfig) :=
  ((utf8Decode content).bind toml.parse).map (readGames access)

/-- The rules come back from their text, and behind any file whose rules stand in `[[games]]`
tables, which stay. -/
structure Reloads (toml : Toml.Reader gamesKey) (access : Toml.Access) (rules : List GameConfig) :
    Prop where
  alone : loadGames toml access (formatGameRulesToml rules) = some rules
  appended : ∀ text table old, toml.parse text = some table → table.headed gamesKey = some old →
    loadGames toml access (appendGameRules (utf8 text) rules) = some (readGames access table ++ rules)

/-- No field holds U+007F. -/
structure GameConfig.NoDel (game : GameConfig) : Prop where
  id : '\x7f' ∉ game.id.toList
  displayName : '\x7f' ∉ game.displayName.toList
  processNames : ∀ name ∈ game.processNames, '\x7f' ∉ name.toList
  windowTitleContains : '\x7f' ∉ game.windowTitleContains.toList

/-! ## The text on characters -/

/-- A key, the text of its value and the value. -/
structure Entry where
  key : String
  text : List Char
  value : Toml.Value

def Entry.line (e : Entry) : List Char := e.key.toList ++ (" = ".toList ++ e.text)

def Entry.ofString (key s : String) : Entry := ⟨key, tomlText s.toList, .string s.toList⟩

def namesText (names : List String) : List Char :=
  ", ".toList.intercalate (names.map fun name => tomlText name.toList)

/-- The keys the writer gives a rule. -/
def gameEntries (game : GameConfig) : List Entry :=
  .ofString "id" game.id ::
  ((if game.displayName = "" then [] else [.ofString "display_name" game.displayName]) ++
  ((if game.processNames = [] then [] else
    [⟨"process_names", '[' :: namesText game.processNames ++ [']'],
      .array (game.processNames.map fun name => .string name.toList)⟩]) ++
  [⟨"pause_when_background", (if game.pauseWhenBackground then "true" else "false").toList,
    .boolean game.pauseWhenBackground⟩]))

def gameLines (game : GameConfig) : List (List Char) :=
  "# 由 CppOptimizer --add-game 生成".toList :: "[[games]]".toList ::
    ((gameEntries game).map Entry.line ++ [[]])

theorem quoted_eq (s : String) : quoted s = utf8 (tomlText s.toList) := toTomlString_utf8 s.toList

theorem utf8_intercalate (sep : List Char) (texts : List (List Char)) :
    utf8 (sep.intercalate texts) = (utf8 sep).intercalate (texts.map utf8) := by
  induction texts with
  | nil => rfl
  | cons text texts ih =>
    rcases texts with _ | ⟨next, texts⟩
    · simp
    · rw [List.intercalate_cons_cons, utf8_append, utf8_append, ih]
      simp only [List.map_cons, List.intercalate_cons_cons]

section Pieces

variable (game : GameConfig)

theorem stringLine_eq (key s : String) :
    bytes key ++ bytes " = " ++ quoted s ++ bytes "\n" = utf8 (unlines [(Entry.ofString key s).line]) := by
  simp [bytes, quoted_eq, ← utf8_append, Entry.ofString, Entry.line, unlines]

theorem namesLine_eq : (bytes ", ").intercalate (game.processNames.map quoted) =
    utf8 (namesText game.processNames) := by
  rw [namesText, utf8_intercalate, List.map_map]
  exact congrArg _ (List.map_congr_left fun name _ => quoted_eq name)

theorem displayPart_eq :
    (if game.displayName = "" then []
      else bytes "display_name = " ++ quoted game.displayName ++ bytes "\n") =
    utf8 (unlines ((if game.displayName = "" then [] else
      [Entry.ofString "display_name" game.displayName]).map Entry.line)) := by
  split
  · rfl
  · exact stringLine_eq "display_name" game.displayName

theorem namesPart_eq :
    (if game.processNames = [] then []
      else bytes "process_names = [" ++ (bytes ", ").intercalate (game.processNames.map quoted) ++
        bytes "]\n") =
    utf8 (unlines ((if game.processNames = [] then [] else
      [Entry.mk "process_names" ('[' :: namesText game.processNames ++ [']'])
        (.array (game.processNames.map fun name => .string name.toList))]).map Entry.line)) := by
  split
  · rfl
  · rw [namesLine_eq]
    simp [bytes, ← utf8_append, Entry.line, unlines]

theorem pausePart_eq :
    bytes "pause_when_background = " ++ bytes (if game.pauseWhenBackground then "true" else "false") ++
      bytes "\n\n" =
    utf8 (unlines [Entry.line ⟨"pause_when_background",
      (if game.pauseWhenBackground then "true" else "false").toList, .boolean game.pauseWhenBackground⟩,
      []]) := by
  cases game.pauseWhenBackground <;> rfl

end Pieces

theorem formatGame_eq (game : GameConfig) : formatGame game = utf8 (unlines (gameLines game)) := by
  have hid : bytes "id = " ++ quoted game.id ++ bytes "\n" =
      utf8 (unlines [(Entry.ofString "id" game.id).line]) := stringLine_eq "id" game.id
  have hcomment : bytes "# 由 CppOptimizer --add-game 生成\n" =
      utf8 (unlines ["# 由 CppOptimizer --add-game 生成".toList]) := rfl
  have hheader : bytes "[[games]]\n" = utf8 (unlines ["[[games]]".toList]) := rfl
  rw [formatGame, hcomment, hheader, hid, displayPart_eq, namesPart_eq, pausePart_eq]
  simp only [← utf8_append, ← unlines_append, gameLines, gameEntries, List.map_cons, List.map_append,
    List.map_nil, List.append_assoc, List.cons_append, List.nil_append]

theorem formatGameRulesToml_eq (rules : List GameConfig) :
    formatGameRulesToml rules = utf8 (unlines (rules.flatMap gameLines)) := by
  induction rules with
  | nil => rfl
  | cons game rules ih =>
    rw [formatGameRulesToml, List.flatMap_cons] at *
    rw [List.flatMap_cons, unlines_append, utf8_append, ← ih, formatGame_eq]

/-! ## Reading the lines back -/

/-- An entry the reader takes. -/
structure Entry.Readable (e : Entry) : Prop where
  key : Toml.isBareKey e.key.toList = true
  value : Toml.value e.text = some e.value
  oneLine : '\n' ∉ e.line

def Entry.node (e : Entry) : List Char × Toml.Value := (e.key.toList, e.value)

theorem get_append_node {t : Toml.Table} {e : Entry} {key : List Char} (h : t.get key = none)
    (hne : key ≠ e.key.toList) : Toml.Table.get (t ++ [e.node]) key = none := by
  have hbeq : (key == e.key.toList) = false := beq_eq_false_iff_ne.mpr hne
  rw [Toml.Table.get] at h ⊢
  rw [List.lookup_append, h]
  simp [Entry.node, List.lookup_cons, hbeq]

/-- Entries with distinct keys go into the last table, one after the other. -/
theorem readLine_entries {name : List Char} {entries : List Entry}
    (hread : ∀ e ∈ entries, e.Readable) (hkeys : (entries.map fun e => e.key.toList).Nodup)
    (tables : List Toml.Table) (t : Toml.Table) (hnew : ∀ e ∈ entries, t.get e.key.toList = none) :
    (entries.map Entry.line).foldlM (Toml.readLine name) (tables ++ [t]) =
      some (tables ++ [t ++ entries.map Entry.node]) := by
  induction entries generalizing t with
  | nil => simp
  | cons e entries ih =>
    rw [List.map_cons, List.nodup_cons] at hkeys
    have he : e.Readable := hread e List.mem_cons_self
    have hline : Toml.readLine name (tables ++ [t]) e.line = some (tables ++ [t ++ [e.node]]) :=
      Toml.readLine_entry he.key he.value (hnew e List.mem_cons_self)
    rw [List.map_cons, List.foldlM_cons, hline]
    have hrest := ih (fun f hf => hread f (List.mem_cons_of_mem _ hf)) hkeys.2 (t ++ [e.node]) ?_
    · simpa [Entry.node] using hrest
    · intro f hf
      refine get_append_node (hnew f (List.mem_cons_of_mem _ hf)) fun heq => hkeys.1 ?_
      rw [← heq]
      exact List.mem_map_of_mem hf

theorem newline_not_mem_escapeChar (c : Char) : '\n' ∉ escapeChar c := by
  by_cases hascii : c.toNat < 128
  · have htable : ∀ n < 128, '\n' ∉ escapeChar (Char.ofNat n) := by decide +kernel
    simpa using htable c.toNat hascii
  · rw [escapeChar_high (Nat.not_lt.mp hascii), List.mem_singleton]
    rintro rfl
    exact hascii (by decide)

theorem newline_not_mem_tomlText (text : List Char) : '\n' ∉ tomlText text := by
  simp [tomlText, newline_not_mem_escapeChar]

theorem value_tomlText {text : List Char} (h : '\x7f' ∉ text) :
    Toml.value (tomlText text) = some (.string text) := by
  have hread : Toml.basicString (tomlText text) = some (text, []) := by
    simpa using basicString_tomlText h []
  unfold Toml.value
  rw [if_neg (by simp [tomlText]), if_neg (by simp [tomlText])]
  rw [tomlText] at hread ⊢
  simp only [List.cons_append] at hread ⊢
  rw [hread]

theorem readable_ofString {key s : String} (hkey : Toml.isBareKey key.toList = true)
    (hline : '\n' ∉ key.toList) (h : '\x7f' ∉ s.toList) : (Entry.ofString key s).Readable := by
  refine ⟨hkey, value_tomlText h, ?_⟩
  simp [Entry.line, Entry.ofString, hline, newline_not_mem_tomlText]

theorem namesText_cons (name next : String) (names : List String) :
    namesText (name :: next :: names) = tomlText name.toList ++ (", ".toList ++ namesText (next :: names)) := by
  rw [namesText, List.map_cons, List.map_cons, List.intercalate_cons_cons, List.append_assoc]
  rfl

theorem newline_not_mem_namesText (names : List String) : '\n' ∉ namesText names := by
  induction names with
  | nil => simp [namesText]
  | cons name names ih =>
    rcases names with _ | ⟨next, names⟩
    · simpa [namesText] using newline_not_mem_tomlText name.toList
    · rw [namesText_cons]
      simpa [newline_not_mem_tomlText] using ih

theorem length_le_namesText (names : List String) : names.length ≤ (namesText names).length := by
  induction names with
  | nil => simp
  | cons name names ih =>
    rcases names with _ | ⟨next, names⟩
    · simp [namesText, tomlText]
    · rw [namesText_cons, List.length_append, List.length_append]
      have hquote : 0 < (tomlText name.toList).length := by simp [tomlText]
      rw [List.length_cons]
      omega

theorem stringItems_namesText {names : List String} (hne : names ≠ [])
    (h : ∀ name ∈ names, '\x7f' ∉ name.toList) {fuel : Nat} (hfuel : names.length ≤ fuel) :
    Toml.stringItems fuel (namesText names ++ [']']) =
      some (names.map fun name => .string name.toList) := by
  induction names generalizing fuel with
  | nil => exact absurd rfl hne
  | cons name names ih =>
    obtain ⟨fuel, rfl⟩ : ∃ n, fuel = n + 1 := ⟨fuel - 1, by rw [List.length_cons] at hfuel; omega⟩
    have hname := h name List.mem_cons_self
    rcases names with _ | ⟨next, names⟩
    · have hread := basicString_tomlText hname [']']
      simp only [namesText, List.map_cons, List.map_nil, List.intercalate_singleton, Toml.stringItems]
      rw [hread]
      rfl
    · have hrest := ih (by simp) (fun n hn => h n (List.mem_cons_of_mem _ hn))
        (Nat.le_of_succ_le_succ hfuel)
      have hread := basicString_tomlText hname (", ".toList ++ namesText (next :: names) ++ [']'])
      rw [namesText_cons, List.append_assoc, Toml.stringItems, hread]
      show (Toml.stringItems fuel (namesText (next :: names) ++ [']'])).map _ = _
      rw [hrest]
      rfl

theorem value_namesText {names : List String} (hne : names ≠ [])
    (h : ∀ name ∈ names, '\x7f' ∉ name.toList) :
    Toml.value ('[' :: namesText names ++ [']']) =
      some (.array (names.map fun name => .string name.toList)) := by
  have hfuel : names.length ≤ (namesText names ++ [']']).length := by
    have := length_le_namesText names
    rw [List.length_append]
    omega
  unfold Toml.value
  rw [List.cons_append, if_neg (by simp), if_neg (by simp)]
  show (Toml.stringItems (namesText names ++ [']']).length (namesText names ++ [']'])).map _ = _
  rw [stringItems_namesText hne h hfuel, Option.map_some]

theorem readable_gameEntries {game : GameConfig} (h : game.NoDel) :
    ∀ e ∈ gameEntries game, e.Readable := by
  have hdisplay : ∀ e ∈ (if game.displayName = "" then [] else
      [Entry.ofString "display_name" game.displayName]), e.Readable := by
    intro e he
    split at he
    · cases he
    · rw [List.mem_singleton.mp he]
      exact readable_ofString (by decide) (by decide) h.displayName
  have hnames : ∀ e ∈ (if game.processNames = [] then [] else
      [Entry.mk "process_names" ('[' :: namesText game.processNames ++ [']'])
        (.array (game.processNames.map fun name => .string name.toList))]), e.Readable := by
    intro e he
    split at he
    · cases he
    · case _ hne =>
      rw [List.mem_singleton.mp he]
      have hkey : Toml.isBareKey "process_names".toList = true := by decide
      refine ⟨hkey, value_namesText hne h.processNames, ?_⟩
      simp [Entry.line, newline_not_mem_namesText]
  intro e he
  rw [gameEntries, List.mem_cons, List.mem_append, List.mem_append, List.mem_singleton] at he
  rcases he with rfl | he | he | rfl
  · exact readable_ofString (by decide) (by decide) h.id
  · exact hdisplay e he
  · exact hnames e he
  · cases game.pauseWhenBackground <;> exact ⟨by decide, rfl, by decide⟩

theorem nodup_gameEntries (game : GameConfig) :
    ((gameEntries game).map fun e => e.key.toList).Nodup := by
  unfold gameEntries
  split <;> split <;> simp [Entry.ofString]

theorem newline_not_mem_gameLines {game : GameConfig} (h : game.NoDel) :
    ∀ line ∈ gameLines game, '\n' ∉ line := by
  intro line hline
  rw [gameLines, List.mem_cons, List.mem_cons, List.mem_append, List.mem_singleton] at hline
  rcases hline with rfl | rfl | hline | rfl
  · decide
  · decide
  · obtain ⟨e, he, rfl⟩ := List.mem_map.mp hline
    exact (readable_gameEntries h e he).oneLine
  · simp

/-- The table of a rule. -/
def gameTable (game : GameConfig) : Toml.Table := (gameEntries game).map Entry.node

/-- The lines of a rule are read as its table. -/
theorem readLine_gameLines {game : GameConfig} (h : game.NoDel) (tables : List Toml.Table) :
    (gameLines game).foldlM (Toml.readLine gamesKey) tables = some (tables ++ [gameTable game]) := by
  have hcomment : Toml.readLine gamesKey tables "# 由 CppOptimizer --add-game 生成".toList = some tables :=
    Toml.readLine_comment (by decide)
  have hheader : Toml.readLine gamesKey tables "[[games]]".toList = some (tables ++ [[]]) :=
    Toml.readLine_header
  have hentries : ((gameEntries game).map Entry.line).foldlM (Toml.readLine gamesKey) (tables ++ [[]]) =
      some (tables ++ [[] ++ (gameEntries game).map Entry.node]) :=
    readLine_entries (readable_gameEntries h) (nodup_gameEntries game) tables [] (fun _ _ => rfl)
  rw [gameLines, List.foldlM_cons, hcomment, Option.bind_eq_bind, Option.bind_some, List.foldlM_cons,
    hheader, Option.bind_eq_bind, Option.bind_some, List.foldlM_append, hentries]
  rfl

theorem readTables_rules {rules : List GameConfig} (h : ∀ game ∈ rules, game.NoDel) :
    Toml.readTables gamesKey (unlines (rules.flatMap gameLines)) = some (rules.map gameTable) := by
  have hlines : ∀ line ∈ rules.flatMap gameLines, '\n' ∉ line := by
    intro line hline
    obtain ⟨game, hgame, hline⟩ := List.mem_flatMap.mp hline
    exact newline_not_mem_gameLines (h game hgame) line hline
  have hread : ∀ tables, (rules.flatMap gameLines).foldlM (Toml.readLine gamesKey) tables =
      some (tables ++ rules.map gameTable) := by
    clear hlines
    induction rules with
    | nil => simp
    | cons game rules ih =>
      intro tables
      rw [List.flatMap_cons, List.foldlM_append, readLine_gameLines (h game List.mem_cons_self),
        Option.bind_eq_bind, Option.bind_some, ih (fun g hg => h g (List.mem_cons_of_mem _ hg)),
        List.append_assoc]
      rfl
  rw [Toml.readTables, lines_unlines hlines]
  exact hread []

/-! ## From the table to the rule -/

section Table

variable (access : Toml.Access)

theorem get_gameTable_id (game : GameConfig) :
    (gameTable game).get "id".toList = some (.string game.id.toList) := by
  simp [gameTable, gameEntries, Toml.Table.get, Entry.node, Entry.ofString]

theorem get_gameTable_displayName (game : GameConfig) :
    (gameTable game).get "display_name".toList =
      if game.displayName = "" then none else some (.string game.displayName.toList) := by
  unfold gameTable gameEntries
  split <;> split <;> simp [Toml.Table.get, List.lookup_cons, Entry.node, Entry.ofString]

theorem get_gameTable_processNames (game : GameConfig) :
    (gameTable game).get "process_names".toList =
      if game.processNames = [] then none
      else some (.array (game.processNames.map fun name => .string name.toList)) := by
  unfold gameTable gameEntries
  split <;> split <;> simp [Toml.Table.get, List.lookup_cons, Entry.node, Entry.ofString]

theorem get_gameTable_windowTitle (game : GameConfig) :
    (gameTable game).get "window_title_contains".toList = none := by
  unfold gameTable gameEntries
  split <;> split <;> simp [Toml.Table.get, List.lookup_cons, Entry.node, Entry.ofString]

theorem get_gameTable_pause (game : GameConfig) :
    (gameTable game).get "pause_when_background".toList = some (.boolean game.pauseWhenBackground) := by
  unfold gameTable gameEntries
  split <;> split <;> simp [Toml.Table.get, List.lookup_cons, Entry.node, Entry.ofString]

/-- A rule is read back without its title filter. -/
theorem readGame_gameTable {game : GameConfig} (hid : game.id ≠ "") :
    readGame access (.table (gameTable game)) = some { game with windowTitleContains := "" } := by
  have hstring : ∀ s : String, (access.string (.string s.toList)).map String.ofList = some s := by
    intro s
    rw [access.string_string, Option.map_some, String.ofList_toList]
  have hname : (stringAt access (gameTable game) "id").getD "" = game.id := by
    rw [stringAt, get_gameTable_id, Option.bind_some, hstring, Option.getD_some]
  have hdisplay : (stringAt access (gameTable game) "display_name").getD "" = game.displayName := by
    rw [stringAt, get_gameTable_displayName]
    split
    · case _ hempty => rw [hempty]; rfl
    · rw [Option.bind_some, hstring, Option.getD_some]
  have hprocess : ((arrayAt (gameTable game) "process_names").getD []).filterMap (fun v =>
      (access.string v).map String.ofList) = game.processNames := by
    rw [arrayAt, get_gameTable_processNames]
    split
    · case _ hempty => rw [hempty]; rfl
    · rw [Option.bind_some, Toml.Value.asArray, Option.getD_some, List.filterMap_map]
      simp only [Function.comp_def, hstring, List.filterMap_some]
  have htitle : (stringAt access (gameTable game) "window_title_contains").getD "" = "" := by
    rw [stringAt, get_gameTable_windowTitle]
    rfl
  have hpause : (booleanAt access (gameTable game) "pause_when_background").getD true =
      game.pauseWhenBackground := by
    rw [booleanAt, get_gameTable_pause, Option.bind_some, access.boolean_boolean, Option.getD_some]
  simp only [readGame, Toml.Value.asTable, hname, hdisplay, hprocess, htitle, hpause, if_neg hid]

theorem readGames_of_headed {t : Toml.Table} {items : List Toml.Table}
    (h : t.headed gamesKey = some items) :
    readGames access t = items.filterMap fun item => readGame access (.table item) := by
  rw [Toml.Table.headed] at h
  rw [readGames, arrayAt]
  split at h
  · case _ hnone =>
    cases h
    rw [show "games".toList = gamesKey from rfl, hnone]
    rfl
  · case _ hsome =>
    cases h
    rw [show "games".toList = gamesKey from rfl, hsome, Option.bind_some, Toml.Value.asArray,
      Option.getD_some, List.filterMap_map]
    rfl
  · cases h

end Table

/-! ## The file -/

/-- The text the rules are put behind. -/
def closeLine (text : List Char) : List Char :=
  if text ≠ [] ∧ text.getLast? ≠ some '\n' then text ++ ['\n'] else text

theorem endsLine_closeLine (text : List Char) : Toml.EndsLine (closeLine text) := by
  unfold closeLine
  split
  · exact .inr (by simp)
  · case _ h =>
    by_cases hnil : text = []
    · exact .inl hnil
    · exact .inr (by_contra fun hlast => h ⟨hnil, hlast⟩)

theorem appendGameRules_utf8 {rules : List GameConfig} (hne : rules ≠ []) (text : List Char) :
    appendGameRules (utf8 text) rules =
      utf8 (closeLine text ++ unlines (rules.flatMap gameLines)) := by
  rw [appendGameRules, if_neg hne, formatGameRulesToml_eq, utf8_append, closeLine]
  congr 1
  simp only [ne_eq, utf8_eq_nil_iff, getLast?_utf8]
  split
  · rw [utf8_append]
    rfl
  · rfl

section Reload

variable (toml : Toml.Reader gamesKey) (access : Toml.Access)

/-- A rule as the writer knows it. -/
def GameConfig.untitled (game : GameConfig) : GameConfig := { game with windowTitleContains := "" }

variable {rules : List GameConfig}

theorem filterMap_gameTable (hid : ∀ game ∈ rules, game.id ≠ "") :
    (rules.map gameTable).filterMap (fun item => readGame access (.table item)) =
      rules.map GameConfig.untitled := by
  rw [List.filterMap_map, ← List.filterMap_eq_map]
  refine List.filterMap_congr fun game hgame => ?_
  exact readGame_gameTable access (hid game hgame)

/-- Behind a text that ends a line the rules are read as they were written. -/
theorem parse_rules (hid : ∀ game ∈ rules, game.id ≠ "") (hdel : ∀ game ∈ rules, game.NoDel)
    {text : List Char} {table : Toml.Table} {old : List Toml.Table}
    (hparse : toml.parse text = some table) (hend : Toml.EndsLine text)
    (hold : table.headed gamesKey = some old) :
    (toml.parse (text ++ unlines (rules.flatMap gameLines))).map (readGames access) =
      some (readGames access table ++ rules.map GameConfig.untitled) := by
  obtain ⟨table', hparse', hheaded, _⟩ :=
    toml.parse_append text table old _ _ hparse hend hold (readTables_rules hdel)
  rw [hparse', Option.map_some, readGames_of_headed access hheaded, readGames_of_headed access hold,
    List.filterMap_append, filterMap_gameTable access hid]

theorem loadGames_format (hid : ∀ game ∈ rules, game.id ≠ "") (hdel : ∀ game ∈ rules, game.NoDel) :
    loadGames toml access (formatGameRulesToml rules) = some (rules.map GameConfig.untitled) := by
  have hread := parse_rules toml access hid hdel toml.parse_nil (.inl rfl) rfl
  rw [loadGames, formatGameRulesToml_eq, utf8Decode_utf8, Option.bind_some]
  exact hread

theorem loadGames_append (hid : ∀ game ∈ rules, game.id ≠ "") (hdel : ∀ game ∈ rules, game.NoDel)
    {text : List Char} {table : Toml.Table} {old : List Toml.Table}
    (hparse : toml.parse text = some table) (hold : table.headed gamesKey = some old) :
    loadGames toml access (appendGameRules (utf8 text) rules) =
      some (readGames access table ++ rules.map GameConfig.untitled) := by
  by_cases hne : rules = []
  · subst hne
    rw [appendGameRules, if_pos rfl, loadGames, utf8Decode_utf8, Option.bind_some, hparse]
    simp
  · have hclosed : toml.parse (closeLine text) = some table := by
      unfold closeLine
      split
      · exact toml.parse_newline text table hparse
      · exact hparse
    rw [loadGames, appendGameRules_utf8 hne, utf8Decode_utf8, Option.bind_some]
    exact parse_rules toml access hid hdel hclosed (endsLine_closeLine text) hold

theorem map_untitled_eq_iff :
    rules.map GameConfig.untitled = rules ↔ ∀ game ∈ rules, game.windowTitleContains = "" := by
  conv_lhs => rw [← List.map_id rules, List.map_map, List.map_inj_left]
  refine forall₂_congr fun game _ => ⟨fun h => ?_, fun h => ?_⟩
  · exact (congrArg GameConfig.windowTitleContains h).symm
  · cases game
    cases h
    rfl

/-- Rules survive the way through the file exactly if none has a title filter. -/
theorem reloads_iff (hid : ∀ game ∈ rules, game.id ≠ "") (hdel : ∀ game ∈ rules, game.NoDel) :
    Reloads toml access rules ↔ ∀ game ∈ rules, game.windowTitleContains = "" := by
  constructor
  · intro h
    have halone := h.alone
    rw [loadGames_format toml access hid hdel, Option.some_inj] at halone
    exact map_untitled_eq_iff.mp halone
  · intro h
    have hsame := map_untitled_eq_iff.mpr h
    refine ⟨?_, fun text table old hparse hold => ?_⟩
    · rw [loadGames_format toml access hid hdel, hsame]
    · rw [loadGames_append toml access hid hdel hparse hold, hsame]

end Reload

def sampleGame : GameConfig :=
  { id := "g1", displayName := "G \"1\"", processNames := ["a.exe", "b.exe"], pauseWhenBackground := false }

theorem sampleGame_noDel : sampleGame.NoDel := ⟨by decide, by decide, by decide, by decide⟩

theorem reloads_iff_untitled :
    Reloads (Toml.linesReader gamesKey) Toml.strictAccess [sampleGame] := by
  refine (reloads_iff (Toml.linesReader gamesKey) Toml.strictAccess ?_ ?_).mpr ?_
  · simp [sampleGame]
  · simpa using sampleGame_noDel
  · simp [sampleGame]

/-- A rule with a title filter comes back without it. -/
theorem title_filter_lost :
    let game := { sampleGame with windowTitleContains := "Main" }
    loadGames (Toml.linesReader gamesKey) Toml.strictAccess (formatGameRulesToml [game]) =
        some [sampleGame] ∧
      loadGames (Toml.linesReader gamesKey) Toml.strictAccess (formatGameRulesToml [game]) ≠
        some [game] := by
  intro game
  have hdel : game.NoDel := ⟨by decide, by decide, by decide, by decide⟩
  have hload : loadGames (Toml.linesReader gamesKey) Toml.strictAccess (formatGameRulesToml [game]) =
      some [sampleGame] :=
    loadGames_format (Toml.linesReader gamesKey) Toml.strictAccess (by simp [game, sampleGame])
      (by simpa using hdel)
  exact ⟨hload, by rw [hload]; simp [game, sampleGame]⟩

end Config
end CppOptimizer
