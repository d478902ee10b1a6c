import CppOptimizer.Lib.Prog
import CppOptimizer.Lib.Run
import CppOptimizer.Common.Text
import CppOptimizer.Config.Snapshot
import CppOptimizer.Service.SafeMode

/-!
# CppOptimizer.Service.Recovery

The recovery marker of `recovery_marker.cpp` and its use along a `--service console --ipc-facts`
session.

* `HostCall`, `HostWorld` — the marker file, the session's Safe Mode guard and its host loop.
* `consoleSession`        — the marker part of `RunServiceConsoleCommand`, from the start-up check to
  the clearing at the end.
* `Session`               — one session with its flags and the way it ends. Being killed is a cut
  between two calls; the marker is written byte by byte, so a cut can leave a part of it.

The file operations succeed. The log lines and the banner are left out.
-/

namespace CppOptimizer
namespace Service

open Common Config Lib

/-! ## The marker -/

def recoveryMarkerEnvelope : Text := "CppOptimizerRecovery/1".toList

def recoveryMarkerContent : Text := recoveryMarkerEnvelope ++ "\nunclean\n".toList

/-- `IsRecoveryMarkerSet` on the content of the file, if there is one. -/
def isRecoveryMarkerSet : Option Text → Bool
  | none => false
  | some content => stripCr (firstLine content) = recoveryMarkerEnvelope

inductive RecoveryAnomalyAction where
  | none | latch | noteOnly
  deriving DecidableEq, Repr

def decideRecoveryAnomalyAction (markerSet confirmRecovery latchEnabled : Bool) :
    RecoveryAnomalyAction :=
  if !markerSet || confirmRecovery then .none
  else if latchEnabled then .latch else .noteOnly

/-! ## A session -/

inductive HostCall where
  | removeMarker
  | readMarker
  | createDirectories
  | truncateMarker
  | appendMarker (ch : Char)
  | anomalyDetected
  | startTray
  | serve

def HostCall.Answer : HostCall → Type
  | .readMarker => Option Text
  | _ => Unit

abbrev HostProg := Prog HostCall HostCall.Answer

namespace HostProg

def removeMarker : HostProg Unit := Prog.perform HostCall.removeMarker
def readMarker : HostProg (Option Text) := Prog.perform HostCall.readMarker
def createDirectories : HostProg Unit := Prog.perform HostCall.createDirectories
def truncateMarker : HostProg Unit := Prog.perform HostCall.truncateMarker
def appendMarker (ch : Char) : HostProg Unit := Prog.perform (HostCall.appendMarker ch)
def anomalyDetected : HostProg Unit := Prog.perform HostCall.anomalyDetected
def startTray : HostProg Unit := Prog.perform HostCall.startTray
def serve : HostProg Unit := Prog.perform HostCall.serve

def writeChars : Text → HostProg Unit
  | [] => pure ()
  | ch :: rest => do
    appendMarker ch
    writeChars rest

def onlyIf (b : Bool) (p : HostProg Unit) : HostProg Unit := if b then p else pure ()

end HostProg

open HostProg

def writeRecoveryMarker : HostProg Unit := do
  createDirectories
  truncateMarker
  writeChars recoveryMarkerContent

structure Session where
  config : Option ConfigSnapshot := none
  confirmRecovery : Bool := false
  /-- The start-up checks of the platform or the default configuration latch Safe Mode by
  themselves. -/
  startupAnomaly : Bool := false
  /-- `none` without `--tray`, else whether the icon could be started. -/
  tray : Option Bool := none
  /-- Whether the host loop returns success. -/
  hostSucceeds : Bool := true
  /-- The process is killed after that many calls. -/
  killAfter : Option Nat := none
  deriving DecidableEq

namespace Session

/-- `safe_mode_on_recovery_error`; on without a configuration. -/
def recoveryLatchEnabled (s : Session) : Bool :=
  match s.config with
  | none => true
  | some config => config.application.safeModeOnRecoveryError

/-- The guard's options; the counting parameters come from `[ipc]`. -/
def guardOptions (s : Session) : SafeModeOptions :=
  match s.config with
  | none => {}
  | some config =>
    { failuresToEnter := config.ipc.safeMode.failuresToEnter.toNat
      countingWindow := config.ipc.safeMode.countingWindowMs
      cooldown := config.ipc.safeMode.cooldownMs
      enabled := config.ipc.safeMode.enabled }

end Session

/-- The start-up check: confirmation first, then the latch. -/
def checkRecovery (s : Session) : HostProg Unit := do
  onlyIf s.startupAnomaly anomalyDetected
  onlyIf s.confirmRecovery removeMarker
  let markerSet := isRecoveryMarkerSet (← readMarker)
  let action := decideRecoveryAnomalyAction markerSet s.confirmRecovery s.recoveryLatchEnabled
  onlyIf (action = .latch) anomalyDetected

/-- From the tray to the end of the session, with the exit code. -/
def hostSession (s : Session) : HostProg Nat := do
  onlyIf s.tray.isSome startTray
  if s.tray = some false then
    -- the session did not really start: no marker is left
    removeMarker
    return 2
  else
    serve
    if s.hostSucceeds then
      removeMarker
      return 0
    else return 2

def consoleSession (s : Session) : HostProg Nat := do
  checkRecovery s
  writeRecoveryMarker
  hostSession s

/-- A session that reached its host loop: the guard it runs with, and whether an abnormal end was
unconfirmed then. -/
structure Served where
  unconfirmed : Bool
  options : SafeModeOptions
  guard : SafeModeGuard

structure HostWorld where
  marker : Option Text := none
  options : SafeModeOptions := {}
  guard : SafeModeGuard := {}
  /-- A session ended abnormally, and none was started with `--confirm-recovery` since. -/
  unconfirmed : Bool := false
  served : List Served := []

def hostHandler : Handler HostCall HostCall.Answer HostWorld Unit where
  answer w
    | .removeMarker, _ => ((), { w with marker := none })
    | .readMarker, _ => (w.marker, w)
    | .createDirectories, _ => ((), w)
    | .truncateMarker, _ => ((), { w with marker := some [] })
    | .appendMarker ch, _ => ((), { w with marker := w.marker.map (· ++ [ch]) })
    | .anomalyDetected, _ => ((), { w with guard := w.guard.onAnomalyDetected w.options })
    | .startTray, _ => ((), w)
    | .serve, _ => ((), { w with served := ⟨w.unconfirmed, w.options, w.guard⟩ :: w.served })

namespace Session

/-- The world as the session finds it: its own guard, and the user's confirmation. -/
def start (w : HostWorld) (s : Session) : HostWorld :=
  { w with options := s.guardOptions, guard := {}, unconfirmed := w.unconfirmed && !s.confirmRecovery }

/-- The host loop ran and failed. -/
def fails (s : Session) : Bool := s.tray ≠ some false && !s.hostSucceeds

/-- The world in which a kill after `n` calls finds the session. -/
def killedAt (w : HostWorld) (s : Session) (n : Nat) : HostWorld :=
  ((consoleSession s).run hostHandler (s.start w) (List.replicate n ())).1

def step (w : HostWorld) (s : Session) : HostWorld :=
  match s.killAfter with
  | some n => { s.killedAt w n with unconfirmed := true }
  | none =>
    let w := ((consoleSession s).exec hostHandler () (s.start w)).1
    if s.fails then { w with unconfirmed := true } else w

end Session

/-- The guard admits no agent, whatever clients come and whenever it is asked. -/
def NeverAccepts (o : SafeModeOptions) (g : SafeModeGuard) : Prop :=
  ∀ (calls : List GuardCall) (t : Int), (∀ c ∈ calls, c ≠ .event .clearAnomaly) →
    ((run (SafeModeGuard.call o) g calls).shouldAcceptClients o t).1 = false

/-- Every session served while an abnormal end was unconfirmed admitted no agent. -/
def LatchedUntilConfirmed (w : HostWorld) : Prop :=
  ∀ s ∈ w.served, s.unconfirmed = true → NeverAccepts s.options s.guard

end Service
end CppOptimizer
