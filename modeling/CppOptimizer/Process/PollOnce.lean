import CppOptimizer.Lib.Monitor
import CppOptimizer.Process.Lifecycle
import CppOptimizer.Process.Matching

/-!
# CppOptimizer.Process.PollOnce

`ProcessWatcher::PollOnce`: the processes are listed, matched with the rules, and what is seen of the
games is merged into the table.

* `prefetch`      — the windows of the processes whose title a rule asks for, each in a cache.
* `pollPresence`  — what one poll sees.
* `pollOnce`      — the poll.
* `plainPresence` — what is to be seen on a desktop that stands still, without any cache.

Only a window that could be queried is cached. The table keeps its texts as strings, so a lone
surrogate in a title stands there as U+FFFD.
-/

namespace CppOptimizer
namespace Process

open Common Lib

structure WindowInfo where
  title : Units := []
  hasVisibleWindow : Bool := false
  isForeground : Bool := false
  isFullscreen : Bool := false
  deriving DecidableEq, Repr

/-! ## Calls -/

inductive PollCall where
  | enumerateProcesses
  | queryWindowInfo (pid : UInt32)
  /-- `0` for a process that cannot be opened. -/
  | queryProcessCreationTime (pid : UInt32)

def PollCall.Answer : PollCall → Type
  | .enumerateProcesses => Result (List (UInt32 × Units))
  | .queryWindowInfo _ => Result WindowInfo
  | .queryProcessCreationTime _ => UInt64

abbrev PollProg := Prog PollCall PollCall.Answer

namespace PollProg

def enumerateProcesses : PollProg (Result (List (UInt32 × Units))) :=
  Prog.perform PollCall.enumerateProcesses
def queryWindowInfo (pid : UInt32) : PollProg (Result WindowInfo) :=
  Prog.perform (PollCall.queryWindowInfo pid)
def queryProcessCreationTime (pid : UInt32) : PollProg UInt64 :=
  Prog.perform (PollCall.queryProcessCreationTime pid)

end PollProg

open PollProg

/-! ## The poll -/

abbrev WindowCache := List (UInt32 × WindowInfo)

/-- The processes a title filter is asked about, in the order of the loops over rules, names and
entries. -/
def titleCandidates (rules : List GameRule) (entries : List ProcessEntry) : List ProcessEntry :=
  rules.flatMap fun rule =>
    if rule.windowTitleContains = [] then []
    else
      rule.processNames.flatMap fun ruleName =>
        entries.filter fun entry => processNameMatches ruleName entry.name

def prefetch : List ProcessEntry → WindowCache → PollProg WindowCache
  | [], windowCache => pure windowCache
  | entry :: rest, windowCache =>
    match windowCache.lookup entry.pid with
    | some _ => prefetch rest windowCache
    | none => do
      match ← queryWindowInfo entry.pid with
      | .ok info => prefetch rest ((entry.pid, info) :: windowCache)
      | .error _ => prefetch rest windowCache

def withTitle (windowCache : WindowCache) (entry : ProcessEntry) : ProcessEntry :=
  match windowCache.lookup entry.pid with
  | some info => { entry with windowTitle := info.title, windowTitleKnown := true }
  | none => entry

def textOf (text : Units) : String := String.ofList (utf16Lossy text)

def GamePresence.withWindow (item : GamePresence) (info : WindowInfo) : GamePresence :=
  { item with
    windowTitle := textOf info.title
    isForeground := info.isForeground
    isFullscreen := info.isFullscreen }

def presenceOf (detectWindows : Bool) (windowCache : WindowCache) (m : RuleMatch) :
    PollProg GamePresence := do
  let created ← queryProcessCreationTime m.entry.pid
  let item : GamePresence :=
    { gameId := m.gameId
      pid := m.entry.pid
      processName := textOf m.entry.name
      creationTime100ns := created }
  if detectWindows = true then
    match windowCache.lookup m.entry.pid with
    | some info => pure (item.withWindow info)
    | none => do
      match ← queryWindowInfo m.entry.pid with
      | .ok info => pure (item.withWindow info)
      | .error _ => pure item
  else pure item

def presencesOf (detectWindows : Bool) (windowCache : WindowCache) :
    List RuleMatch → PollProg (List GamePresence)
  | [] => pure []
  | m :: rest => do
    let item ← presenceOf detectWindows windowCache m
    let items ← presencesOf detectWindows windowCache rest
    pure (item :: items)

def pollPresence (detectWindows : Bool) (rules : List GameRule) :
    PollProg (Result (List GamePresence)) := do
  match ← enumerateProcesses with
  | .error e => pure (.error e)
  | .ok processes => do
    let entries := processes.map fun p => { pid := p.1, name := p.2 }
    let windowCache ← prefetch (titleCandidates rules entries) []
    let presence ← presencesOf detectWindows windowCache
      (matchRulesToEntries rules (entries.map (withTitle windowCache)))
    pure (.ok presence)

/-- The transitions of the poll with the new table; a failed poll leaves the table. -/
def pollOnce (detectWindows : Bool) (rules : List GameRule) (tracked : List ProcessInfo)
    (nextGeneration : UInt64) : PollProg (Result DiffResult) := do
  match ← pollPresence detectWindows rules with
  | .error e => pure (.error e)
  | .ok presence => pure (.ok (diffProcessPresence tracked presence nextGeneration))

/-! ## A desktop that stands still -/

structure Desktop where
  processes : Result (List (UInt32 × Units)) := .ok []
  window : UInt32 → Result WindowInfo := fun _ => .ok {}
  created : UInt32 → UInt64 := fun _ => 0

/-- The window meets the filter; none that cannot be queried does. -/
def Desktop.titled (d : Desktop) (rule : GameRule) (pid : UInt32) : Bool :=
  match d.window pid with
  | .ok info => containsAscii info.title rule.windowTitleContains
  | .error _ => false

def Desktop.presence (d : Desktop) (detectWindows : Bool) (gameId : String) (entry : ProcessEntry) :
    GamePresence :=
  let item : GamePresence :=
    { gameId := gameId
      pid := entry.pid
      processName := textOf entry.name
      creationTime100ns := d.created entry.pid }
  match detectWindows, d.window entry.pid with
  | true, .ok info => item.withWindow info
  | _, _ => item

/-- Each rule with the first process that has one of its names, and its title if it asks for one. -/
def plainPresence (d : Desktop) (detectWindows : Bool) (rules : List GameRule)
    (processes : List (UInt32 × Units)) : List GamePresence :=
  rules.filterMap fun rule =>
    ((processes.map fun p => ({ pid := p.1, name := p.2 } : ProcessEntry)).find? fun entry =>
      rule.names entry && (rule.windowTitleContains = [] || d.titled rule entry.pid)).map
        (d.presence detectWindows rule.id)

/-- What is answered to a call. -/
structure PollChoice where
  processes : Result (List (UInt32 × Units)) := .ok []
  window : Result WindowInfo := .ok {}
  created : UInt64 := 0

/-- The state is the list of the windows asked for. -/
def pollHandler : Lib.Handler PollCall PollCall.Answer (List UInt32) PollChoice where
  answer asked
    | .enumerateProcesses, c => (c.processes, asked)
    | .queryWindowInfo pid, c => (c.window, asked ++ [pid])
    | .queryProcessCreationTime _, c => (c.created, asked)

/-- The answer is that of the desktop. -/
def Desktop.Answers (d : Desktop) : List UInt32 → PollCall → PollChoice → Prop
  | _, .enumerateProcesses, c => c.processes = d.processes
  | _, .queryWindowInfo pid, c => c.window = d.window pid
  | _, .queryProcessCreationTime pid, c => c.created = d.created pid

end Process
end CppOptimizer
