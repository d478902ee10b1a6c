import CppOptimizer.Lib.Int64
import CppOptimizer.Lib.SortedMap
import Mathlib.Data.String.Basic

/-!
# CppOptimizer.Service.Presence

The presence ledger of `presence.cpp`: for each client key the latest report, and a summary of them
that is published when it changes. Times are `steady_clock` ticks (nanoseconds); `forgetAfter` is in
seconds.

`record` reads the clock twice, for the entries to forget and for the new entry. The calls of the
change callback are kept in `changes`.
-/

namespace CppOptimizer
namespace Service

open Lib

inductive PresenceState where
  | unknown | present | away
  deriving DecidableEq, Repr

/-- A duration in seconds, in clock ticks. -/
def secondTicks (seconds : Int) : Int := seconds * 1000000000

/-- No report is not presence; a threshold of `0` never calls anyone away. -/
def classifyPresence (idleSeconds : Option UInt32) (awayAfterSeconds : UInt32) : PresenceState :=
  match idleSeconds with
  | none => .unknown
  | some idle =>
    if awayAfterSeconds = 0 then .present
    else if idle < awayAfterSeconds then .present else .away

structure PresenceOptions where
  awayAfterSeconds : UInt32 := 15
  forgetAfter : Int := 0
  deriving DecidableEq, Repr

structure PresenceEntry where
  state : PresenceState := .unknown
  idleSeconds : Option UInt32 := none
  lastSeen : Int := 0
  deriving DecidableEq, Repr

structure ClientPresence where
  key : String
  state : PresenceState := .unknown
  idleSeconds : Option UInt32 := none
  deriving DecidableEq, Repr

structure HostPresenceTracker where
  options : PresenceOptions := {}
  entries : SortedMap String PresenceEntry := .empty
  lastSummary : PresenceState := .unknown
  changes : List (PresenceState × PresenceState) := []
  deriving DecidableEq

namespace HostPresenceTracker

variable (t : HostPresenceTracker)

def pruneExpired (now : Int) : HostPresenceTracker :=
  if t.options.forgetAfter ≤ 0 then t
  else
    let cutoff := toInt64 (now - toInt64 (secondTicks t.options.forgetAfter))
    { t with entries := t.entries.filter fun p => ¬ p.2.lastSeen < cutoff }

/-- An empty key is not recorded. -/
def record (now seenAt : Int) (clientKey : String) (idleSeconds : Option UInt32) :
    PresenceState × HostPresenceTracker :=
  if clientKey = "" then (.unknown, t)
  else
    let t := t.pruneExpired now
    let state := classifyPresence idleSeconds t.options.awayAfterSeconds
    let entry : PresenceEntry := { state := state, idleSeconds := idleSeconds, lastSeen := seenAt }
    (state, { t with entries := t.entries.insert clientKey entry })

/-- Anyone present makes the host present. -/
def computeSummary : PresenceState :=
  let states := t.entries.entries.map fun p => p.2.state
  if states.all (· = .unknown) then .unknown
  else if states.any (· = .present) then .present else .away

def summary (now : Int) : PresenceState × HostPresenceTracker :=
  let t := t.pruneExpired now
  let current := t.computeSummary
  if current = t.lastSummary then (current, t)
  else
    (current, { t with lastSummary := current, changes := t.changes ++ [(t.lastSummary, current)] })

def clients (now : Int) : List ClientPresence × HostPresenceTracker :=
  let t := t.pruneExpired now
  (t.entries.entries.map fun p =>
    { key := p.1, state := p.2.state, idleSeconds := p.2.idleSeconds }, t)

def clientCount (now : Int) : Nat × HostPresenceTracker :=
  let t := t.pruneExpired now
  (t.entries.entries.length, t)

/-! ## What is published -/

/-- Rows may differ, what was published does not. -/
structure SamePublished (t t' : HostPresenceTracker) : Prop where
  lastSummary : t'.lastSummary = t.lastSummary
  changes : t'.changes = t.changes

theorem pruneExpired_published (now : Int) :
    SamePublished t (t.pruneExpired now) := by
  unfold pruneExpired
  split
  · exact ⟨rfl, rfl⟩
  · exact ⟨rfl, rfl⟩

/-- `Record` publishes nothing. -/
theorem record_published (now seenAt : Int) (key : String)
    (idle : Option UInt32) : SamePublished t (t.record now seenAt key idle).2 := by
  unfold record
  split
  · exact ⟨rfl, rfl⟩
  · obtain ⟨hlast, hchanges⟩ := pruneExpired_published t now
    exact ⟨hlast, hchanges⟩

theorem SamePublished.trans {t ledger t' : HostPresenceTracker} (h : SamePublished t ledger)
    (h' : SamePublished ledger t') : SamePublished t t' :=
  ⟨h'.lastSummary.trans h.lastSummary, h'.changes.trans h.changes⟩

end HostPresenceTracker

end Service
end CppOptimizer
