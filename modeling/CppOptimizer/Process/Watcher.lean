import CppOptimizer.Process.Info

/-!
# CppOptimizer.Process.Watcher

`DiffProcessPresence`: the table of tracked processes is merged with what one poll sees.

The first pass walks the processes seen and gives each a row: a new one, a restarted one or the next
observation of the row that is there. The second pass walks the old rows that were not seen: a row
is kept one more poll as exiting and then dropped.
-/

namespace CppOptimizer
namespace Process

/-- What one poll sees of a game's process; a creation time `0` could not be read. -/
structure GamePresence where
  gameId : String
  pid : UInt32 := 0
  processName : String := ""
  creationTime100ns : UInt64 := 0
  windowTitle : String := ""
  isForeground : Bool := false
  isFullscreen : Bool := false
  deriving DecidableEq, Repr

structure ProcessTransition where
  gameId : String
  previous : ProcessState
  current : ProcessState
  info : ProcessInfo
  deriving DecidableEq, Repr

structure DiffResult where
  tracked : List ProcessInfo := []
  transitions : List ProcessTransition := []
  nextGeneration : UInt64
  deriving DecidableEq, Repr

/-- The row of `(gameId, pid)`. -/
def findTracked (tracked : List ProcessInfo) (gameId : String) (pid : UInt32) :
    Option ProcessInfo :=
  tracked.find? fun info => info.gameId = gameId ∧ info.pid = pid

def presenceHas (presence : List GamePresence) (gameId : String) (pid : UInt32) : Bool :=
  presence.any fun item => item.gameId = gameId ∧ item.pid = pid

def toProcessInfo (presence : GamePresence) (state : ProcessState) (generation : UInt64) :
    ProcessInfo :=
  { gameId := presence.gameId
    pid := presence.pid
    processName := presence.processName
    windowTitle := presence.windowTitle
    isForeground := presence.isForeground
    isFullscreen := presence.isFullscreen
    creationTime100ns := presence.creationTime100ns
    state := state
    generation := generation }

/-- Same pid, two creation times, both known. -/
def isRestart (prev : ProcessInfo) (item : GamePresence) : Bool :=
  prev.creationTime100ns ≠ 0 ∧ item.creationTime100ns ≠ 0 ∧
    prev.creationTime100ns ≠ item.creationTime100ns

/-- A new life: a row under the next generation. -/
def DiffResult.start (result : DiffResult) (item : GamePresence) : DiffResult :=
  let info := toProcessInfo item .starting result.nextGeneration
  { tracked := result.tracked ++ [info]
    transitions := result.transitions ++
      [{ gameId := item.gameId, previous := .notRunning, current := .starting, info := info }]
    nextGeneration := result.nextGeneration + 1 }

/-- One item of the first pass. -/
def DiffResult.observe (previous : List ProcessInfo) (result : DiffResult) (item : GamePresence) :
    DiffResult :=
  if item.pid = 0 then result
  else
    match findTracked previous item.gameId item.pid with
    | none => result.start item
    | some prev =>
      if isRestart prev item = true then
        DiffResult.start
          { result with
            transitions := result.transitions ++
              [{ gameId := item.gameId, previous := prev.state, current := .exiting,
                 info := prev }] }
          item
      else
        let info := toProcessInfo item .running prev.generation
        { result with
          tracked := result.tracked ++ [info]
          transitions := result.transitions ++
            if prev.state ≠ .running then
              [{ gameId := item.gameId, previous := prev.state, current := .running, info := info }]
            else [] }

/-- One row of the second pass. -/
def DiffResult.miss (presence : List GamePresence) (result : DiffResult) (prev : ProcessInfo) :
    DiffResult :=
  if presenceHas presence prev.gameId prev.pid = true then result
  else
    match prev.state with
    | .starting | .running | .suspended =>
      let info := { prev with state := .exiting }
      { result with
        tracked := result.tracked ++ [info]
        transitions := result.transitions ++
          [{ gameId := prev.gameId, previous := prev.state, current := .exiting, info := info }] }
    | .exiting =>
      { result with
        transitions := result.transitions ++
          [{ gameId := prev.gameId, previous := prev.state, current := .notRunning, info := prev }] }
    | .notRunning => result

def diffProcessPresence (previous : List ProcessInfo) (presence : List GamePresence)
    (nextGeneration : UInt64) : DiffResult :=
  previous.foldl (DiffResult.miss presence)
    (presence.foldl (DiffResult.observe previous) { nextGeneration := nextGeneration })

/-! ## Rows -/

theorem findTracked_some {tracked : List ProcessInfo} {gameId : String} {pid : UInt32}
    {info : ProcessInfo} (h : findTracked tracked gameId pid = some info) :
    info ∈ tracked ∧ info.gameId = gameId ∧ info.pid = pid := by
  refine ⟨List.mem_of_find?_eq_some h, ?_⟩
  simpa using List.find?_some h

theorem presenceHas_iff {presence : List GamePresence} {gameId : String} {pid : UInt32} :
    presenceHas presence gameId pid = true ↔
      ∃ item ∈ presence, item.gameId = gameId ∧ item.pid = pid := by
  simp [presenceHas]

/-- The row an item gets when its life goes on. -/
def Continues (previous : List ProcessInfo) (item : GamePresence) (prev info : ProcessInfo) : Prop :=
  item.pid ≠ 0 ∧ findTracked previous item.gameId item.pid = some prev ∧
    isRestart prev item = false ∧ info = toProcessInfo item .running prev.generation

/-- The item starts a life: its slot has no row, or that of another process. -/
def startsNew (previous : List ProcessInfo) (item : GamePresence) : Bool :=
  item.pid ≠ 0 ∧ (findTracked previous item.gameId item.pid).all (isRestart · item)

/-- The number of lives that the items start. -/
def startsIn (previous : List ProcessInfo) (items : List GamePresence) : Nat :=
  items.countP (startsNew previous)

theorem startsIn_cons (previous : List ProcessInfo) (item : GamePresence)
    (items : List GamePresence) : startsIn previous (item :: items) =
      startsIn previous items + if startsNew previous item = true then 1 else 0 :=
  List.countP_cons

theorem startsIn_append (previous : List ProcessInfo) (items others : List GamePresence) :
    startsIn previous (items ++ others) = startsIn previous items + startsIn previous others :=
  List.countP_append

/-- What the first pass does with one item: nothing, one row of a new life, or the next row of a
tracked one. -/
theorem observe_cases (previous : List ProcessInfo) (result : DiffResult) (item : GamePresence) :
    (startsNew previous item = false ∧ (result.observe previous item).tracked = result.tracked ∧
        (result.observe previous item).nextGeneration = result.nextGeneration) ∨
      (startsNew previous item = true ∧
        (result.observe previous item).tracked =
          result.tracked ++ [toProcessInfo item .starting result.nextGeneration] ∧
        (result.observe previous item).nextGeneration = result.nextGeneration + 1) ∨
      startsNew previous item = false ∧ ∃ prev info, Continues previous item prev info ∧
        (result.observe previous item).tracked = result.tracked ++ [info] ∧
        (result.observe previous item).nextGeneration = result.nextGeneration := by
  unfold DiffResult.observe
  by_cases hpid : item.pid = 0
  · left
    simp [hpid, startsNew]
  · rw [if_neg hpid]
    cases hf : findTracked previous item.gameId item.pid with
    | none => exact .inr (.inl ⟨by simp [startsNew, hpid, hf], rfl, rfl⟩)
    | some prev =>
      by_cases hrestart : isRestart prev item = true
      · dsimp only
        rw [if_pos hrestart]
        exact .inr (.inl ⟨by simp [startsNew, hpid, hf, hrestart], rfl, rfl⟩)
      · dsimp only
        rw [if_neg hrestart]
        refine .inr (.inr ⟨by simp [startsNew, hf, hrestart], prev, _, ⟨hpid, hf, ?_, rfl⟩, rfl, rfl⟩)
        simpa using hrestart

/-- What the second pass does with one row: it keeps the row as exiting, or nothing. -/
theorem miss_cases (presence : List GamePresence) (result : DiffResult) (prev : ProcessInfo) :
    (result.miss presence prev).nextGeneration = result.nextGeneration ∧
      ((result.miss presence prev).tracked = result.tracked ∨
        (presenceHas presence prev.gameId prev.pid = false ∧
          (result.miss presence prev).tracked =
            result.tracked ++ [{ prev with state := .exiting }])) := by
  unfold DiffResult.miss
  by_cases hseen : presenceHas presence prev.gameId prev.pid = true
  · simp [hseen]
  · rw [if_neg hseen]
    have hmiss : presenceHas presence prev.gameId prev.pid = false := by simpa using hseen
    cases prev.state with
    | notRunning => exact ⟨rfl, .inl rfl⟩
    | exiting => exact ⟨rfl, .inl rfl⟩
    | starting => exact ⟨rfl, .inr ⟨hmiss, rfl⟩⟩
    | running => exact ⟨rfl, .inr ⟨hmiss, rfl⟩⟩
    | suspended => exact ⟨rfl, .inr ⟨hmiss, rfl⟩⟩

end Process
end CppOptimizer
