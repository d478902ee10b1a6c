import Mathlib.Logic.Function.Basic
import CppOptimizer.Config.Loader
import CppOptimizer.Lib.Prog
import CppOptimizer.Process.AddGame

/-!
# CppOptimizer.Command.AddGame

`--add-game`: a process is chosen, a rule is made for it, and `AppendGameRules` puts the rule into
`config.local.toml` through a temporary file that takes the place of the old one.

* `AddGameCall`       — the calls to the system and to the file system.
* `appendGameRulesTo` — `AppendGameRules` with its file steps.
* `runAddGame`        — the command.
* `addGameHandler`    — the files, with every call that can fail failing at will. `MoveFileExW` puts
  the whole content in place or none.

What the user types is known from the start: a list of lines, and empty ones after them. The texts on
the console are left out.
-/

namespace CppOptimizer
namespace Command

open Common Config Lib Process

/-! ## Calls -/

/-- What `WriteFile` reports. -/
structure WriteReport where
  ok : Bool
  written : Nat
  lastError : Nat
  deriving DecidableEq, Repr

inductive AddGameCall where
  | enumerateProcesses
  | queryProcessDetails (pid : UInt32)
  /-- `std::filesystem::exists`, which answers no when it cannot tell. -/
  | fileExists (path : Units)
  /-- `toml::parse_file`. -/
  | parseFile (path : Units)
  /-- The file opened and read to its end, or none if there is no such file. -/
  | readFile (path : Units)
  | createFile (path : Units)
  | writeFile (path : Units) (content : List UInt8)
  | deleteFile (path : Units)
  | moveFile (source target : Units)
  | writeConsoleLine

def AddGameCall.Answer : AddGameCall → Type
  | .enumerateProcesses => Result (List ProcessEntry)
  | .queryProcessDetails _ => Result ProcessDetails
  | .fileExists _ => Bool
  | .parseFile _ => Result Toml.Table
  | .readFile _ => Result (Option (List UInt8))
  | .createFile _ => Result Unit
  | .writeFile _ _ => WriteReport
  | .deleteFile _ => Unit
  | .moveFile _ _ => Result Unit
  | .writeConsoleLine => Unit

abbrev AddGameProg := Prog AddGameCall AddGameCall.Answer

namespace AddGameProg

def enumerateProcesses : AddGameProg (Result (List ProcessEntry)) :=
  Prog.perform AddGameCall.enumerateProcesses
def queryProcessDetails (pid : UInt32) : AddGameProg (Result ProcessDetails) :=
  Prog.perform (AddGameCall.queryProcessDetails pid)
def fileExists (path : Units) : AddGameProg Bool := Prog.perform (AddGameCall.fileExists path)
def parseFile (path : Units) : AddGameProg (Result Toml.Table) :=
  Prog.perform (AddGameCall.parseFile path)
def readFile (path : Units) : AddGameProg (Result (Option (List UInt8))) :=
  Prog.perform (AddGameCall.readFile path)
def createFile (path : Units) : AddGameProg (Result Unit) :=
  Prog.perform (AddGameCall.createFile path)
def writeFile (path : Units) (content : List UInt8) : AddGameProg WriteReport :=
  Prog.perform (AddGameCall.writeFile path content)
def deleteFile (path : Units) : AddGameProg Unit := Prog.perform (AddGameCall.deleteFile path)
def moveFile (source target : Units) : AddGameProg (Result Unit) :=
  Prog.perform (AddGameCall.moveFile source target)
def writeConsoleLine : AddGameProg Unit := Prog.perform AddGameCall.writeConsoleLine

end AddGameProg

open AddGameProg

/-! ## The arguments -/

def isSpaceUnit (u : UInt16) : Bool := u = 0x20 ∨ (0x09 ≤ u ∧ u ≤ 0x0D)
def isDigitUnit (u : UInt16) : Bool := 0x30 ≤ u ∧ u ≤ 0x39

/-- `ParseUint32`: all of the text is read by `wcstoul`, whose result has 32 bits. -/
def parseUint32 (text : Units) : Option UInt32 :=
  let body := text.dropWhile isSpaceUnit
  let negative := body.head? = some 0x2D
  let digits := if body.head? = some 0x2D ∨ body.head? = some 0x2B then body.tail else body
  if digits = [] ∨ digits.all isDigitUnit = false then none
  else
    let value := digits.foldl (fun acc u => acc * 10 + (u.toNat - 0x30)) 0
    if 0xFFFFFFFF < value then some 0xFFFFFFFF
    else if negative then some (0 - UInt32.ofNat value)
    else some (UInt32.ofNat value)

structure AddGameArgs where
  pid : UInt32 := 0
  mainPath : Units := []
  dryRun : Bool := false
  deriving DecidableEq, Repr

def parseAddGameArgs : List Units → AddGameArgs → Option AddGameArgs
  | [], a => some a
  | arg :: rest, a =>
    if arg = utf16 "--dry-run".toList then parseAddGameArgs rest { a with dryRun := true }
    else
      match parseUint32 arg with
      | some pid =>
        if 0 < pid then parseAddGameArgs rest { a with pid := pid }
        -- a zero is stored all the same
        else if a.mainPath = [] then parseAddGameArgs rest { a with pid := 0, mainPath := arg }
        else none
      | none =>
        if a.mainPath = [] then parseAddGameArgs rest { a with mainPath := arg } else none

/-! ## The process -/

/-- One entry of `EnumerateProcessDetails`; a process that cannot be queried keeps pid and name. -/
def detailsOf (entry : ProcessEntry) : AddGameProg ProcessDetails := do
  match ← queryProcessDetails entry.pid with
  | .ok details => pure details
  | .error _ => pure { pid := entry.pid, name := entry.name }

def detailsOfAll (windowOnly : Bool) : List ProcessEntry → AddGameProg (List ProcessDetails)
  | [] => pure []
  | entry :: entries => do
    let details ← detailsOf entry
    let rest ← detailsOfAll windowOnly entries
    pure (if windowOnly = false ∨ details.hasVisibleWindow = true then details :: rest else rest)

def enumerateProcessDetails (windowOnly : Bool) : AddGameProg (Result (List ProcessDetails)) := do
  match ← enumerateProcesses with
  | .error e => pure (.error e)
  | .ok entries => do
    let list ← detailsOfAll windowOnly entries
    pure (.ok list)

/-- The number of a process is asked for until one is given, or the user gives up. -/
def pickFromList (list : List ProcessDetails) : List Units → Option (ProcessDetails × List Units)
  | [] => none
  | input :: console =>
    if input = [] ∨ input = utf16 ['q'] ∨ input = utf16 ['Q'] then none
    else
      match parseUint32 input with
      | some index =>
        if index = 0 then pickFromList list console
        else
          match list[index.toNat - 1]? with
          | some details => some (details, console)
          | none => pickFromList list console
      | none => pickFromList list console

inductive Selection where
  | ended (code : Int)
  | selected (details : ProcessDetails) (console : List Units)

def selectProcess (pid : UInt32) (console : List Units) : AddGameProg Selection :=
  if pid = 0 then do
    match ← enumerateProcessDetails true with
    | .error _ => do
      writeConsoleLine
      pure (.ended 2)
    | .ok list => do
      let list := list.mergeSort fun a b => a.pid ≤ b.pid
      writeConsoleLine
      match pickFromList list console with
      | none => pure (.ended 0)
      | some (details, rest) => pure (.selected details rest)
  else do
    match ← queryProcessDetails pid with
    | .error _ => do
      writeConsoleLine
      pure (.ended 2)
    | .ok details => pure (.selected details console)

/-! ## The rules there are -/

section Load

variable (access : Toml.Access)

def loadConfigFile (path : Units) : AddGameProg (Result ConfigSnapshot) := do
  match ← parseFile path with
  | .error e => pure (.error e)
  | .ok table => pure (loadConfig access table)

def loadConfigFiles (mainPath localPath : Units) : AddGameProg (Result ConfigSnapshot) := do
  match ← loadConfigFile access mainPath with
  | .error e => pure (.error e)
  | .ok main =>
    if ← fileExists localPath then do
      let other ← loadConfigFile access localPath
      pure (loadConfigWithLocal (.ok main) (some other))
    else pure (loadConfigWithLocal (.ok main) none)

def gamesOf (config : Result ConfigSnapshot) : Result (List GameConfig) := config.map (·.games)

def loadExistingGameRules (mainPath localPath : Units) : AddGameProg (Result (List GameConfig)) :=
  if mainPath ≠ [] then do
    let config ← loadConfigFiles access mainPath localPath
    pure (gamesOf config)
  else do
    if ← fileExists localPath then do
      let config ← loadConfigFile access localPath
      pure (gamesOf config)
    else pure (.ok [])

end Load

/-! ## The file -/

def tempPath (path : Units) : Units := path ++ utf16 ".tmp".toList

def appendGameRulesTo (path : Units) (rules : List GameConfig) : AddGameProg (Result Unit) :=
  if rules = [] then pure (.ok ())
  else do
    match ← readFile path with
    | .error e => pure (.error e)
    | .ok content => do
      let text := appendGameRules (content.getD []) rules
      match ← createFile (tempPath path) with
      | .error e => pure (.error e)
      | .ok () => do
        -- the length is handed on as a `DWORD`
        let report ← writeFile (tempPath path) (text.take (text.length % 2 ^ 32))
        if report.ok = false ∨ report.written ≠ text.length then do
          deleteFile (tempPath path)
          pure (.error (.fromWin32 report.lastError "WriteFile"))
        else
          match ← moveFile (tempPath path) path with
          | .error e => do
            deleteFile (tempPath path)
            pure (.error e)
          | .ok () => pure (.ok ())

/-! ## The command -/

inductive AddGameEnd where
  | exit (code : Int)
  /-- The search for an id left its type. -/
  | overflow
  deriving DecidableEq, Repr

/-- From the selected process on. -/
def addSelected (access : Toml.Access) (a : AddGameArgs) (localPath : Units) (details : ProcessDetails)
    (console : List Units) : AddGameProg AddGameEnd := do
  match ← loadExistingGameRules access a.mainPath localPath with
  | .error _ => do
    writeConsoleLine
    pure (.exit 2)
  | .ok existing =>
    match buildGameRuleFromProcess details existing [] with
    | none => pure .overflow
    | some (.error _) => do
      writeConsoleLine
      pure (.exit 2)
    | some (.ok rule) => do
      writeConsoleLine
      if a.dryRun = true then pure (.exit 0)
      else if a.pid = 0 ∧ console.headD [] ≠ utf16 ['y'] ∧ console.headD [] ≠ utf16 ['Y'] then
        pure (.exit 0)
      else
        match ← appendGameRulesTo localPath [rule] with
        | .error _ => do
          writeConsoleLine
          pure (.exit 2)
        | .ok () => do
          writeConsoleLine
          pure (.exit 0)

/-- The path of `config.local.toml`; `sibling` puts it beside the main configuration. -/
def localConfigPath (sibling : Units → Units) (mainPath : Units) : Units :=
  if mainPath = [] then utf16 "config.local.toml".toList else sibling mainPath

def runAddGame (access : Toml.Access) (sibling : Units → Units) (args console : List Units) :
    AddGameProg AddGameEnd :=
  match parseAddGameArgs args {} with
  | none => do
    writeConsoleLine
    pure (.exit 2)
  | some a => do
    match ← selectProcess a.pid console with
    | .ended code => pure (.exit code)
    | .selected details rest =>
      addSelected access a (localConfigPath sibling a.mainPath) details rest

/-! ## The files -/

abbrev Files := Units → Option (List UInt8)

structure AddGameWorld where
  files : Files

/-- What the command does not control. -/
structure AddGameChoice where
  /-- The call fails. -/
  error : Option Error := none
  entries : List ProcessEntry := []
  details : ProcessDetails := {}
  /-- Less is written than was asked for. -/
  written : Option Nat := none
  /-- What the parser says of a text it does not read. -/
  description : String := ""

def AddGameChoice.result {α : Type} (c : AddGameChoice) (a : α) : Result α :=
  match c.error with
  | some e => .error e
  | none => .ok a

/-- The document a file holds. -/
def documentAt (toml : Toml.Reader gamesKey) (files : Files) (path : Units) : Option Toml.Table :=
  (files path).bind fun content => (utf8Decode content).bind toml.parse

def addGameHandler (toml : Toml.Reader gamesKey) :
    Lib.Handler AddGameCall AddGameCall.Answer AddGameWorld AddGameChoice where
  answer w
    | .enumerateProcesses, c => (c.result c.entries, w)
    | .queryProcessDetails pid, c => (c.result { c.details with pid := pid }, w)
    | .fileExists path, c => (c.error.isNone && (w.files path).isSome, w)
    | .parseFile path, c =>
      match c.error, documentAt toml w.files path with
      | none, some table => (.ok table, w)
      | _, _ => (.error (.validation "LoadConfig" c.description), w)
    | .readFile path, c => (c.result (w.files path), w)
    | .createFile path, c =>
      match c.error with
      | some e => (.error e, w)
      | none => (.ok (), { files := Function.update w.files path (some []) })
    | .writeFile path content, c =>
      let written := min content.length (c.written.getD content.length)
      ({ ok := c.error.isNone, written := written, lastError := (c.error.map (·.code)).getD 0 },
        { files := Function.update w.files path (some (content.take written)) })
    | .deleteFile path, c =>
      ((), if c.error.isNone = true then { files := Function.update w.files path none } else w)
    | .moveFile source target, c =>
      match c.error, w.files source with
      | none, some content =>
        (.ok (), { files := Function.update (Function.update w.files target (some content)) source
                     none })
      | e, _ => (.error (e.getD (.fromWin32 2 "MoveFileExW")), w)
    | .writeConsoleLine, _ => ((), w)

end Command
end CppOptimizer
