import CppOptimizer.Service.Presence
import Mathlib.Data.List.Induction

/-!
# CppOptimizer.Service.PresenceHistory

The presence ledger in terms of the calls that were made on it.

* `PresenceCall`, `presenceRun` — a sequence of calls on a new tracker, with the summaries returned.
* `latestReport`  — the latest `Record` of a key.
* `Listed`        — a client as the history has it: its latest report, not older than `forgetAfter`.
* `ChangeChain`   — callback calls, each going on from where the one before it has ended.
* `tracker_refines_history` — queries answer from the history, wherever they stand in the sequence.

Entries are dropped by whichever call comes next. A dropped entry was too old at one of the clock
readings so far, and therefore is at every later one. `CutoffsFit` keeps the cutoffs within 64 bits.
-/

namespace CppOptimizer
namespace Service

open Lib

/-! ## Calls -/

inductive PresenceCall where
  | record (now seenAt : Int) (clientKey : String) (idleSeconds : Option UInt32)
  | summary (now : Int)
  | clients (now : Int)
  | clientCount (now : Int)
  deriving DecidableEq, Repr

/-- The clock readings of a call, in their order. -/
def PresenceCall.readings : PresenceCall → List Int
  | .record now seenAt _ _ => [now, seenAt]
  | .summary now => [now]
  | .clients now => [now]
  | .clientCount now => [now]

def readings (calls : List PresenceCall) : List Int := calls.flatMap PresenceCall.readings

/-- A tracker in use, and what `Summary` has returned. -/
structure PresenceRun where
  tracker : HostPresenceTracker
  returned : List PresenceState := []

def PresenceRun.step (r : PresenceRun) : PresenceCall → PresenceRun
  | .record now seenAt clientKey idleSeconds =>
    { r with tracker := (r.tracker.record now seenAt clientKey idleSeconds).2 }
  | .summary now =>
    { tracker := (r.tracker.summary now).2
      returned := r.returned ++ [(r.tracker.summary now).1] }
  | .clients now => { r with tracker := (r.tracker.clients now).2 }
  | .clientCount now => { r with tracker := (r.tracker.clientCount now).2 }

def presenceRun (options : PresenceOptions) (calls : List PresenceCall) : PresenceRun :=
  calls.foldl PresenceRun.step { tracker := { options := options } }

/-! ## The history -/

structure PresenceReport where
  idleSeconds : Option UInt32
  seenAt : Int
  deriving DecidableEq, Repr

def PresenceReport.entry (report : PresenceReport) (options : PresenceOptions) : PresenceEntry :=
  { state := classifyPresence report.idleSeconds options.awayAfterSeconds
    idleSeconds := report.idleSeconds
    lastSeen := report.seenAt }

def PresenceCall.reportOf (key : String) : PresenceCall → Option PresenceReport
  | .record _ seenAt clientKey idleSeconds =>
    if clientKey = key then some { idleSeconds := idleSeconds, seenAt := seenAt } else none
  | _ => none

def latestReport (key : String) (calls : List PresenceCall) : Option PresenceReport :=
  (calls.filterMap (PresenceCall.reportOf key)).getLast?

/-- Older than `forgetAfter`, which is off at zero. -/
def Expired (options : PresenceOptions) (now seenAt : Int) : Prop :=
  0 < options.forgetAfter ∧ seenAt < now - secondTicks options.forgetAfter

instance (options : PresenceOptions) (now seenAt : Int) : Decidable (Expired options now seenAt) :=
  inferInstanceAs (Decidable (_ ∧ _))

/-- `forgetAfter` is off, or it and the cutoffs that follow from it fit in 64 bits of clock ticks. -/
def CutoffsFit (options : PresenceOptions) (clock : List Int) : Prop :=
  0 < options.forgetAfter → IsInt64 (secondTicks options.forgetAfter) ∧
    ∀ now ∈ clock, IsInt64 (now - secondTicks options.forgetAfter)

instance (options : PresenceOptions) (clock : List Int) : Decidable (CutoffsFit options clock) :=
  inferInstanceAs (Decidable (_ → _))

/-- The client is known from its latest report. -/
structure Listed (options : PresenceOptions) (calls : List PresenceCall) (now : Int)
    (client : ClientPresence) : Prop where
  key : client.key ≠ ""
  report : ∃ report, latestReport client.key calls = some report ∧
    ¬ Expired options now report.seenAt ∧
    client.state = classifyPresence report.idleSeconds options.awayAfterSeconds ∧
    client.idleSeconds = report.idleSeconds

/-- Anyone present makes the host present; otherwise anyone known makes it away. -/
structure SummaryOf (clients : ClientPresence → Prop) (state : PresenceState) : Prop where
  present : state = .present ↔ ∃ c, clients c ∧ c.state = .present
  away : state = .away ↔ (¬ ∃ c, clients c ∧ c.state = .present) ∧ ∃ c, clients c ∧ c.state ≠ .unknown
  unknown : state = .unknown ↔ ∀ c, clients c → c.state = .unknown

/-- Each call goes on from the state in which the one before it has ended, and ends in another. -/
def ChangeChain (start : PresenceState) : List (PresenceState × PresenceState) → Prop
  | [] => True
  | change :: changes =>
    change.1 = start ∧ change.2 ≠ change.1 ∧ ChangeChain change.2 changes

/-- The state in which a chain ends. -/
def chainEnd (start : PresenceState) (changes : List (PresenceState × PresenceState)) :
    PresenceState :=
  (changes.getLast?.map Prod.snd).getD start

/-! ## What a call does to the ledger -/

theorem Expired.mono {options : PresenceOptions} {now now' seenAt : Int}
    (h : Expired options now seenAt) (hle : now ≤ now') : Expired options now' seenAt :=
  ⟨h.1, by have := h.2; omega⟩

namespace HostPresenceTracker

variable (t : HostPresenceTracker)

@[simp] theorem pruneExpired_options (now : Int) : (t.pruneExpired now).options = t.options := by
  unfold pruneExpired
  split <;> rfl

theorem pruneExpired_none {key : String} (h : t.entries.find? key = none) (now : Int) :
    (t.pruneExpired now).entries.find? key = none := by
  unfold pruneExpired
  split
  · exact h
  · refine Option.eq_none_iff_forall_ne_some.mpr fun entry hentry => ?_
    rw [SortedMap.find?_filter_eq_some, h] at hentry
    cases hentry.1

theorem find?_pruneExpired {clock : List Int} (hfits : CutoffsFit t.options clock) {now : Int}
    (hnow : now ∈ clock) {key : String} {entry : PresenceEntry} :
    (t.pruneExpired now).entries.find? key = some entry ↔
      t.entries.find? key = some entry ∧ ¬ Expired t.options now entry.lastSeen := by
  unfold pruneExpired
  split
  · case _ hoff =>
    have hkeep : ¬ Expired t.options now entry.lastSeen := fun h => absurd h.1 (not_lt.mpr hoff)
    exact (and_iff_left hkeep).symm
  · case _ hoff =>
    have hon : 0 < t.options.forgetAfter := not_le.mp hoff
    obtain ⟨hticks, hcutoff⟩ := hfits hon
    rw [SortedMap.find?_filter_eq_some, decide_eq_true_eq, toInt64_of_isInt64 hticks,
      toInt64_of_isInt64 (hcutoff now hnow)]
    have hiff : Expired t.options now entry.lastSeen ↔
        entry.lastSeen < now - secondTicks t.options.forgetAfter := and_iff_right hon
    rw [hiff]

theorem summary_fst (now : Int) : (t.summary now).1 = (t.pruneExpired now).computeSummary := by
  unfold summary
  dsimp only
  split <;> rfl

theorem summary_ledger (now : Int) :
    (t.summary now).2.entries = (t.pruneExpired now).entries ∧
      (t.summary now).2.options = t.options := by
  rw [← t.pruneExpired_options now]
  unfold summary
  dsimp only
  split <;> exact ⟨rfl, rfl⟩

/-- `Summary` returns what it publishes, and calls back if that is news. -/
theorem summary_published (now : Int) :
    (t.summary now).2.lastSummary = (t.summary now).1 ∧
      (t.summary now).2.changes =
        if (t.summary now).1 = t.lastSummary then t.changes
        else t.changes ++ [(t.lastSummary, (t.summary now).1)] := by
  obtain ⟨hlast, hchanges⟩ := t.pruneExpired_published now
  rw [summary_fst, ← hlast, ← hchanges]
  unfold summary
  dsimp only
  split
  · case _ hsame => exact ⟨hsame.symm, rfl⟩
  · exact ⟨rfl, rfl⟩

end HostPresenceTracker

/-! ## The ledger along a run -/

theorem readings_append (calls : List PresenceCall) (call : PresenceCall) :
    readings (calls ++ [call]) = readings calls ++ call.readings := by
  simp [readings]

theorem latestReport_append (key : String) (calls : List PresenceCall) (call : PresenceCall) :
    latestReport key (calls ++ [call]) =
      (call.reportOf key <|> latestReport key calls) := by
  rw [latestReport, List.filterMap_append, List.getLast?_append]
  cases hreport : call.reportOf key with
  | none => simp [latestReport, hreport]
  | some report => simp [hreport]

/-- The entry of a key is its latest report; a key without one was dropped for its age. -/
structure TracksKey (options : PresenceOptions) (calls : List PresenceCall)
    (t : HostPresenceTracker) (key : String) : Prop where
  listed : ∀ entry, t.entries.find? key = some entry →
    ∃ report, latestReport key calls = some report ∧ entry = report.entry options
  dropped : ∀ report, latestReport key calls = some report → t.entries.find? key = none →
    ∃ now ∈ readings calls, Expired options now report.seenAt

structure TracksHistory (options : PresenceOptions) (calls : List PresenceCall)
    (t : HostPresenceTracker) : Prop where
  sameOptions : t.options = options
  noEmptyKey : t.entries.find? "" = none
  keys : ∀ key, key ≠ "" → TracksKey options calls t key

section Tracking

variable {options : PresenceOptions} {calls : List PresenceCall} {call : PresenceCall}
  {t t' : HostPresenceTracker} {key : String} {now : Int} {clock : List Int}

/-- A call that drops what is too old and does not report for the key. -/
theorem TracksKey.prune (h : TracksKey options calls t key) (hoptions : t.options = options)
    (hfits : CutoffsFit options clock) (hclock : now ∈ clock) (hreport : call.reportOf key = none)
    (hnow : now ∈ call.readings)
    (ht' : t'.entries.find? key = (t.pruneExpired now).entries.find? key) :
    TracksKey options (calls ++ [call]) t' key := by
  have hlatest : latestReport key (calls ++ [call]) = latestReport key calls := by
    rw [latestReport_append, hreport]
    rfl
  refine ⟨fun entry hentry => ?_, fun report hlast hnone => ?_⟩
  · rw [ht', t.find?_pruneExpired (hoptions ▸ hfits) hclock] at hentry
    rw [hlatest]
    exact h.listed entry hentry.1
  · rw [hlatest] at hlast
    rw [ht'] at hnone
    cases hfind : t.entries.find? key with
    | none =>
      obtain ⟨old, hold, hexpired⟩ := h.dropped report hlast hfind
      rw [readings_append]
      exact ⟨old, List.mem_append_left _ hold, hexpired⟩
    | some entry =>
      -- the entry was there, so that this call has dropped it
      obtain ⟨report', hreport', rfl⟩ := h.listed entry hfind
      obtain rfl := Option.some.inj (hlast.symm.trans hreport')
      have hexpired : Expired options now report.seenAt := by
        by_contra hkeep
        have hstays := (t.find?_pruneExpired (hoptions ▸ hfits) hclock).mpr ⟨hfind, hoptions ▸ hkeep⟩
        rw [hstays] at hnone
        cases hnone
      rw [readings_append]
      exact ⟨now, List.mem_append_right _ hnow, hexpired⟩

/-- The calls that only look. -/
theorem TracksHistory.query (h : TracksHistory options calls t) (hfits : CutoffsFit options clock)
    (hclock : now ∈ clock) (hreport : ∀ key, call.reportOf key = none) (hnow : now ∈ call.readings) (hentries : t'.entries = (t.pruneExpired now).entries)
    (hoptions : t'.options = t.options) : TracksHistory options (calls ++ [call]) t' where
  sameOptions := hoptions.trans h.sameOptions
  noEmptyKey := by
    rw [hentries]
    exact t.pruneExpired_none h.noEmptyKey now
  keys key hkey :=
    (h.keys key hkey).prune h.sameOptions hfits hclock (hreport key) hnow (by rw [hentries])

theorem TracksHistory.record (h : TracksHistory options calls t) (hfits : CutoffsFit options clock)
    (hclock : now ∈ clock) (seenAt : Int) (clientKey : String) (idleSeconds : Option UInt32) :
    TracksHistory options (calls ++ [.record now seenAt clientKey idleSeconds])
      (t.record now seenAt clientKey idleSeconds).2 := by
  by_cases hempty : clientKey = ""
  · -- nothing is recorded
    rw [HostPresenceTracker.record, if_pos hempty]
    refine ⟨h.sameOptions, h.noEmptyKey, fun key hkey => ?_⟩
    have hlatest : latestReport key (calls ++ [.record now seenAt clientKey idleSeconds]) =
        latestReport key calls := by
      have hother : clientKey ≠ key := fun heq => hkey (heq.symm.trans hempty)
      rw [latestReport_append, PresenceCall.reportOf, if_neg hother]
      rfl
    refine ⟨fun entry hentry => ?_, fun report hlast hnone => ?_⟩
    · rw [hlatest]
      exact (h.keys key hkey).listed entry hentry
    · rw [hlatest] at hlast
      obtain ⟨old, hold, hexpired⟩ := (h.keys key hkey).dropped report hlast hnone
      rw [readings_append]
      exact ⟨old, List.mem_append_left _ hold, hexpired⟩
  · rw [HostPresenceTracker.record, if_neg hempty]
    dsimp only
    refine ⟨?_, ?_, fun key hkey => ?_⟩
    · exact (t.pruneExpired_options now).trans h.sameOptions
    · rw [SortedMap.find?_insert_of_ne _ _ fun heq => hempty heq.symm]
      exact t.pruneExpired_none h.noEmptyKey now
    · by_cases hself : clientKey = key
      · subst hself
        have hlatest : latestReport clientKey
            (calls ++ [.record now seenAt clientKey idleSeconds]) =
              some { idleSeconds := idleSeconds, seenAt := seenAt } := by
          rw [latestReport_append, PresenceCall.reportOf, if_pos rfl]
          rfl
        refine ⟨fun entry hentry => ⟨_, hlatest, ?_⟩, fun report _ hnone => ?_⟩
        · rw [SortedMap.find?_insert_self] at hentry
          rw [← Option.some.inj hentry, t.pruneExpired_options now, h.sameOptions]
          rfl
        · rw [SortedMap.find?_insert_self] at hnone
          cases hnone
      · have hnow : now ∈ (PresenceCall.record now seenAt clientKey idleSeconds).readings :=
          List.mem_cons_self
        refine (h.keys key hkey).prune h.sameOptions hfits hclock ?_ hnow ?_
        · rw [PresenceCall.reportOf, if_neg hself]
        · exact SortedMap.find?_insert_of_ne _ _ fun heq => hself heq.symm

end Tracking

theorem presenceRun_append (options : PresenceOptions) (calls : List PresenceCall)
    (call : PresenceCall) :
    presenceRun options (calls ++ [call]) = (presenceRun options calls).step call := by
  simp [presenceRun]

theorem tracks_presenceRun {options : PresenceOptions} {clock : List Int}
    (hfits : CutoffsFit options clock) (calls : List PresenceCall)
    (hclock : ∀ now ∈ readings calls, now ∈ clock) :
    TracksHistory options calls (presenceRun options calls).tracker := by
  induction calls using List.reverseRecOn with
  | nil =>
    refine ⟨rfl, rfl, fun key _ => ⟨fun entry hentry => ?_, fun report hreport => ?_⟩⟩
    · cases hentry
    · cases hreport
  | append_singleton calls call ih =>
    rw [presenceRun_append]
    rw [readings_append] at hclock
    have ih := ih fun now hnow => hclock now (List.mem_append_left _ hnow)
    have hcall := fun now hnow => hclock now (List.mem_append_right _ hnow)
    generalize presenceRun options calls = r at ih ⊢
    cases call with
    | record now seenAt clientKey idleSeconds =>
      exact ih.record hfits (hcall now List.mem_cons_self) seenAt clientKey idleSeconds
    | summary now =>
      obtain ⟨hentries, hoptions⟩ := r.tracker.summary_ledger now
      exact ih.query hfits (hcall now List.mem_cons_self) (fun _ => rfl) List.mem_cons_self hentries
        hoptions
    | clients now =>
      exact ih.query hfits (hcall now List.mem_cons_self) (fun _ => rfl) List.mem_cons_self rfl
        (r.tracker.pruneExpired_options now)
    | clientCount now =>
      exact ih.query hfits (hcall now List.mem_cons_self) (fun _ => rfl) List.mem_cons_self rfl
        (r.tracker.pruneExpired_options now)

/-! ## The callback along a run -/

theorem changeChain_append {start : PresenceState} {changes : List (PresenceState × PresenceState)}
    (h : ChangeChain start changes) {current : PresenceState}
    (hnews : current ≠ chainEnd start changes) :
    ChangeChain start (changes ++ [(chainEnd start changes, current)]) := by
  induction changes generalizing start with
  | nil => exact ⟨rfl, hnews, trivial⟩
  | cons change changes ih =>
    have hend : chainEnd start (change :: changes) = chainEnd change.2 changes := by
      cases changes with
      | nil => rfl
      | cons next rest => rfl
    rw [hend] at hnews ⊢
    exact ⟨h.1, h.2.1, ih h.2.2 hnews⟩

theorem chainEnd_append (start : PresenceState) (changes : List (PresenceState × PresenceState))
    (change : PresenceState × PresenceState) : chainEnd start (changes ++ [change]) = change.2 := by
  simp [chainEnd]

/-- The callback calls of a run, and where they have ended. -/
structure Published (r : PresenceRun) : Prop where
  chain : ChangeChain .unknown r.tracker.changes
  last : chainEnd .unknown r.tracker.changes = r.tracker.lastSummary
  returned : r.returned.getLast?.getD .unknown = r.tracker.lastSummary

theorem Published.same {r r' : PresenceRun} (h : Published r)
    (hsame : HostPresenceTracker.SamePublished r.tracker r'.tracker)
    (hreturned : r'.returned = r.returned) : Published r' where
  chain := by rw [hsame.changes]; exact h.chain
  last := by rw [hsame.changes, hsame.lastSummary]; exact h.last
  returned := by rw [hreturned, hsame.lastSummary]; exact h.returned

theorem Published.summary {r : PresenceRun} (h : Published r) (now : Int) :
    Published (r.step (.summary now)) := by
  obtain ⟨hlast, hchanges⟩ := r.tracker.summary_published now
  have hreturned : (r.step (.summary now)).returned.getLast?.getD .unknown =
      (r.tracker.summary now).1 := by
    simp [PresenceRun.step]
  refine ⟨?_, ?_, hreturned.trans hlast.symm⟩
  · show ChangeChain .unknown (r.tracker.summary now).2.changes
    rw [hchanges]
    split
    · exact h.chain
    · case _ hnews =>
      rw [← h.last] at hnews ⊢
      exact changeChain_append h.chain hnews
  · show chainEnd .unknown (r.tracker.summary now).2.changes = (r.tracker.summary now).2.lastSummary
    rw [hchanges, hlast]
    split
    · case _ hsame => rw [h.last, hsame]
    · exact chainEnd_append ..

theorem published_presenceRun (options : PresenceOptions) (calls : List PresenceCall) :
    Published (presenceRun options calls) := by
  induction calls using List.reverseRecOn with
  | nil => exact ⟨trivial, rfl, rfl⟩
  | append_singleton calls call ih =>
    rw [presenceRun_append]
    cases call with
    | record now seenAt clientKey idleSeconds =>
      exact ih.same (HostPresenceTracker.record_published ..) rfl
    | summary now => exact ih.summary now
    | clients now => exact ih.same (HostPresenceTracker.pruneExpired_published ..) rfl
    | clientCount now => exact ih.same (HostPresenceTracker.pruneExpired_published ..) rfl

/-! ## Queries -/

section Queries

variable {options : PresenceOptions} {calls : List PresenceCall} {now : Int}

/-- The rows left at a query are the keys whose latest report is not too old. -/
theorem find?_query (htimes : (readings calls ++ [now]).Pairwise (· ≤ ·))
    (hfits : CutoffsFit options (readings calls ++ [now])) {key : String} {entry : PresenceEntry} :
    ((presenceRun options calls).tracker.pruneExpired now).entries.find? key = some entry ↔
      key ≠ "" ∧ ∃ report, latestReport key calls = some report ∧
        ¬ Expired options now report.seenAt ∧ entry = report.entry options := by
  have htracks := tracks_presenceRun hfits calls fun _ hnow => List.mem_append_left _ hnow
  generalize (presenceRun options calls).tracker = t at htracks
  rw [t.find?_pruneExpired (htracks.sameOptions ▸ hfits) (by simp), htracks.sameOptions]
  constructor
  · rintro ⟨hfind, hkeep⟩
    have hkey : key ≠ "" := by
      rintro rfl
      rw [htracks.noEmptyKey] at hfind
      cases hfind
    obtain ⟨report, hlatest, rfl⟩ := (htracks.keys key hkey).listed entry hfind
    exact ⟨hkey, report, hlatest, hkeep, rfl⟩
  · rintro ⟨hkey, report, hlatest, hkeep, rfl⟩
    refine ⟨?_, hkeep⟩
    cases hfind : t.entries.find? key with
    | none =>
      obtain ⟨old, hold, hexpired⟩ := (htracks.keys key hkey).dropped report hlatest hfind
      have hle : old ≤ now := (List.pairwise_append.mp htimes).2.2 old hold now (by simp)
      exact absurd (hexpired.mono hle) hkeep
    | some entry =>
      obtain ⟨report', hlatest', rfl⟩ := (htracks.keys key hkey).listed entry hfind
      rw [Option.some.inj (hlatest.symm.trans hlatest')]

theorem mem_clients_iff (t : HostPresenceTracker) (now : Int) (client : ClientPresence) :
    client ∈ (t.clients now).1 ↔ ∃ entry, (t.pruneExpired now).entries.find? client.key = some entry ∧
      client.state = entry.state ∧ client.idleSeconds = entry.idleSeconds := by
  simp only [HostPresenceTracker.clients, List.mem_map]
  constructor
  · rintro ⟨⟨key, entry⟩, hmem, rfl⟩
    exact ⟨entry, SortedMap.find?_eq_some.mpr hmem, rfl, rfl⟩
  · rintro ⟨entry, hfind, hstate, hidle⟩
    refine ⟨(client.key, entry), SortedMap.find?_eq_some.mp hfind, ?_⟩
    rw [← hstate, ← hidle]

theorem mem_clients_iff_listed (htimes : (readings calls ++ [now]).Pairwise (· ≤ ·))
    (hfits : CutoffsFit options (readings calls ++ [now])) (client : ClientPresence) :
    client ∈ ((presenceRun options calls).tracker.clients now).1 ↔
      Listed options calls now client := by
  rw [mem_clients_iff]
  constructor
  · rintro ⟨entry, hfind, hstate, hidle⟩
    obtain ⟨hkey, report, hlatest, hkeep, rfl⟩ := (find?_query htimes hfits).mp hfind
    exact ⟨hkey, report, hlatest, hkeep, hstate, hidle⟩
  · rintro ⟨hkey, report, hlatest, hkeep, hstate, hidle⟩
    exact ⟨report.entry options, (find?_query htimes hfits).mpr ⟨hkey, report, hlatest, hkeep, rfl⟩,
      hstate, hidle⟩

/-- No key is listed twice. -/
theorem keys_clients (t : HostPresenceTracker) (now : Int) :
    ((t.clients now).1.map (·.key)).Pairwise (· < ·) := by
  have hkeys : (t.clients now).1.map (·.key) =
      (t.pruneExpired now).entries.entries.map Prod.fst := by
    rw [HostPresenceTracker.clients, List.map_map]
    rfl
  rw [hkeys]
  exact (t.pruneExpired now).entries.sorted

/-- `Summary` in terms of what `Clients` would list at the same moment. -/
theorem summaryOf_clients (t : HostPresenceTracker) (now : Int) :
    SummaryOf (· ∈ (t.clients now).1) (t.summary now).1 := by
  have hstates : (t.pruneExpired now).entries.entries.map (fun p => p.2.state) =
      (t.clients now).1.map (·.state) := by
    rw [HostPresenceTracker.clients, List.map_map]
    rfl
  have hsummary : (t.summary now).1 =
      if ((t.clients now).1.map (·.state)).all (· = .unknown) then .unknown
      else if ((t.clients now).1.map (·.state)).any (· = .present) then .present else .away := by
    rw [t.summary_fst, HostPresenceTracker.computeSummary, ← hstates]
  rw [hsummary]
  generalize (t.clients now).1 = cs
  simp only [List.all_map, List.any_map, List.all_eq_true, List.any_eq_true, Function.comp,
    decide_eq_true_eq]
  by_cases hunknown : ∀ c ∈ cs, c.state = .unknown
  · rw [if_pos hunknown]
    have hpresent : ¬ ∃ c, c ∈ cs ∧ c.state = .present := by
      rintro ⟨c, hc, hstate⟩
      rw [hunknown c hc] at hstate
      cases hstate
    have hknown : ¬ ∃ c, c ∈ cs ∧ c.state ≠ .unknown := fun ⟨c, hc, hstate⟩ => hstate (hunknown c hc)
    exact ⟨by simp [hpresent], by simp [hknown], by simpa using hunknown⟩
  · rw [if_neg hunknown]
    have hknown : ∃ c, c ∈ cs ∧ c.state ≠ .unknown := by
      by_contra hnone
      exact hunknown fun c hc => by_contra fun hstate => hnone ⟨c, hc, hstate⟩
    by_cases hpresent : ∃ c, c ∈ cs ∧ c.state = .present
    · rw [if_pos hpresent]
      exact ⟨by simp [hpresent], by simp [hpresent], by simpa using hunknown⟩
    · rw [if_neg hpresent]
      exact ⟨by simp [hpresent], by simp [hpresent, hknown], by simpa using hunknown⟩

end Queries

/-- After any calls, with a clock that never goes back and cutoffs that fit: the clients are those of
the history, the count is theirs, the summary follows from them, and the callback calls form a
chain. -/
theorem tracker_refines_history (options : PresenceOptions) (calls : List PresenceCall) (now : Int)
    (htimes : (readings calls ++ [now]).Pairwise (· ≤ ·))
    (hfits : CutoffsFit options (readings calls ++ [now])) :
    let r := presenceRun options calls
    (∀ client, client ∈ (r.tracker.clients now).1 ↔ Listed options calls now client) ∧
    ((r.tracker.clients now).1.map (·.key)).Pairwise (· < ·) ∧
    (r.tracker.clientCount now).1 = (r.tracker.clients now).1.length ∧
    SummaryOf (Listed options calls now) (r.tracker.summary now).1 ∧
    ChangeChain .unknown r.tracker.changes ∧
    chainEnd .unknown r.tracker.changes = r.returned.getLast?.getD .unknown := by
  intro r
  have hclients : ∀ client, client ∈ (r.tracker.clients now).1 ↔ Listed options calls now client :=
    mem_clients_iff_listed htimes hfits
  have hpublished := published_presenceRun options calls
  have hsummary := summaryOf_clients r.tracker now
  rw [show (· ∈ (r.tracker.clients now).1) = Listed options calls now from
    funext fun client => propext (hclients client)] at hsummary
  refine ⟨hclients, keys_clients r.tracker now, ?_, hsummary, hpublished.chain, ?_⟩
  · simp [HostPresenceTracker.clientCount, HostPresenceTracker.clients]
  · exact hpublished.last.trans hpublished.returned.symm

theorem tracker_refines_history_expiry :
    let options : PresenceOptions := { forgetAfter := 1 }
    let calls : List PresenceCall := [.record 0 5 "a" (some 3), .summary 7, .record 9 9 "b" none]
    (readings calls ++ [1000000006]).Pairwise (· ≤ ·) ∧
      SummaryOf (Listed options calls 1000000006)
        ((presenceRun options calls).tracker.summary 1000000006).1 := by
  intro options calls
  have htimes : (readings calls ++ [1000000006]).Pairwise (· ≤ ·) := by decide
  exact ⟨htimes,
    (tracker_refines_history options calls 1000000006 htimes (by decide)).2.2.2.1⟩

/-- Latest reports that are not too old and are not listed: under the empty key, and under the longest
`forgetAfter`, which comes out as a cutoff that lies ahead. -/
theorem reports_not_listed :
    (let calls : List PresenceCall := [.record 0 0 "" (some 0)]
     latestReport "" calls = some { idleSeconds := some 0, seenAt := 0 } ∧
      ¬ Expired {} 0 0 ∧ ((presenceRun {} calls).tracker.clients 0).1 = []) ∧
    (let options : PresenceOptions := { forgetAfter := 2 ^ 63 - 1 }
     let calls : List PresenceCall := [.record 0 0 "a" (some 0)]
     IsInt64 options.forgetAfter ∧
      latestReport "a" calls = some { idleSeconds := some 0, seenAt := 0 } ∧
      ¬ Expired options 0 0 ∧ ((presenceRun options calls).tracker.clients 0).1 = []) := by
  decide

end Service
end CppOptimizer
