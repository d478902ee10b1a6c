import CppOptimizer.Service.Provenance

/-!
# CppOptimizer.Service.SummaryAdvance

When a tick publishes the summary of the presence ledger.

* `Advanced t t'` — the tracker `t'` has published the summary of the ledger it holds, and called the
  change callback if that was news after `t`.
* `Unserved`      — the tick waits for a client and serves none: nobody came in time, or the client
  was refused.
* `tick_advances_summary_iff` — a successful tick advances the summary except on an unserved tick
  whose host report changed it.

The paused tick and the tick with a served client end in `Summary`. The two returns for a timeout and
for a refused client leave the function before it.
-/

namespace CppOptimizer
namespace Service

open Common Ipc Lib

namespace HostPresenceTracker

variable {t t' ledger : HostPresenceTracker} {now : Int}

/-- `t'` publishes the summary of its ledger; the callback was called for the change since `t`, if
there was one. -/
structure Advanced (t t' : HostPresenceTracker) : Prop where
  published : t'.lastSummary = t'.computeSummary
  notified : t'.changes = if t'.computeSummary = t.lastSummary then t.changes
    else t.changes ++ [(t.lastSummary, t'.computeSummary)]

/-- `Summary` advances whatever was recorded since. -/
theorem summary_advanced (h : SamePublished t ledger) (now : Int) :
    Advanced t (ledger.summary now).2 := by
  obtain ⟨hlast, hchanges⟩ := h.trans (pruneExpired_published ledger now)
  unfold summary
  generalize ledger.pruneExpired now = pruned at hlast hchanges
  by_cases hsame : pruned.computeSummary = pruned.lastSummary
  · simp only [hsame, if_true]
    refine ⟨hsame.symm, ?_⟩
    rw [hsame, hlast, if_pos rfl, hchanges]
  · simp only [hsame, if_false]
    have hnews : pruned.computeSummary ≠ t.lastSummary := by
      rw [← hlast]
      exact hsame
    refine ⟨rfl, ?_⟩
    show pruned.changes ++ [(pruned.lastSummary, pruned.computeSummary)] =
      if pruned.computeSummary = t.lastSummary then _ else _
    rw [if_neg hnews, hlast, hchanges]
    rfl

/-- A ledger on which `Summary` is not called is advanced only if there is no news in it. -/
theorem advanced_iff_of_same (h : SamePublished t ledger) :
    Advanced t ledger ↔ ledger.computeSummary = t.lastSummary := by
  constructor
  · intro hadvanced
    rw [← hadvanced.published, h.lastSummary]
  · intro hsame
    refine ⟨?_, ?_⟩
    · rw [h.lastSummary, hsame]
    · rw [if_pos hsame, h.changes]

end HostPresenceTracker

namespace ServiceHostDemoState

open HostPresenceTracker

variable (s : ServiceHostDemoState) (i : TickInput)

/-- The ledger with the host's own report. -/
def hostLedger (t : HostPresenceTracker) : HostPresenceTracker :=
  if s.rawInput then
    (t.record i.clock.hostPrune i.clock.hostSeen "host" (s.hostIdleSeconds i)).2
  else t

/-- The tick turns to its pipe and `ServeOne` returns no result. -/
def Unserved : Prop :=
  ∃ intake, s.intake = some intake ∧ s.ipcEnabled = true ∧
    (intake.ipcSafeMode.shouldAcceptClients intake.safeModeOptions i.clock.accept).1 = true ∧
    ∃ e, ((s.serveCall i intake).serve s.lastFacts).result = .error e

variable {s i}

theorem hostLedger_published (t : HostPresenceTracker) : SamePublished t (s.hostLedger i t) := by
  unfold hostLedger
  split
  · exact record_published t _ _ _ _
  · exact ⟨rfl, rfl⟩

theorem recordHost_some {t : HostPresenceTracker} (h : s.ipcPresence = some t) :
    s.recordHost i = { s with ipcPresence := some (s.hostLedger i t) } := by
  unfold recordHost hostLedger
  simp only [h]
  split
  · rfl
  · cases s
    cases h
    rfl

theorem publishSummary_some {t : HostPresenceTracker} (h : s.ipcPresence = some t) :
    (s.publishSummary i).ipcPresence = some (t.summary i.clock.summary).2 := by
  unfold publishSummary
  rw [h]
  rfl

/-- The client's report, if there is one, is a `Record` as well. -/
theorem noteServed_some {t : HostPresenceTracker} (h : s.ipcPresence = some t)
    (result : IpcServeResult) :
    ∃ t', (s.noteServed i result).ipcPresence = some t' ∧ SamePublished t t' := by
  unfold noteServed
  simp only [h]
  split
  · exact ⟨_, rfl, record_published t _ _ _ _⟩
  · exact ⟨t, rfl, rfl, rfl⟩

theorem visited_presence (intake : Intake) :
    (s.visited i intake).ipcPresence = s.ipcPresence :=
  (noteTrace_ledger (s.admitting i intake) i _).1

end ServiceHostDemoState

open HostPresenceTracker

section Tick

variable {s : ServiceHostDemoState} {i : TickInput} {memoryQueryEnabled : Bool}
  {t : HostPresenceTracker}

/-- What a successful tick leaves of the ledger. -/
theorem tick_presence (h : (serviceWorkloadTick s i memoryQueryEnabled).1 = .ok ())
    (ht : s.ipcPresence = some t) :
    (s.Unserved i ∧
      (serviceWorkloadTick s i memoryQueryEnabled).2.ipcPresence = some (s.hostLedger i t)) ∨
    (¬ s.Unserved i ∧
      ∃ ledger, (serviceWorkloadTick s i memoryQueryEnabled).2.ipcPresence =
        some (ledger.summary i.clock.summary).2 ∧ SamePublished t ledger) := by
  have hhost := ServiceHostDemoState.recordHost_some (i := i)
    (s := { s with tickCount := s.tickCount + 1 }) ht
  -- what the tick reads of the state in which it turns to its client
  have hledger : ({ s with tickCount := s.tickCount + 1 }.recordHost i).ipcPresence =
      some (s.hostLedger i t) := by
    rw [hhost]
    rfl
  have hun : s.Unserved i ↔ ({ s with tickCount := s.tickCount + 1 }.recordHost i).Unserved i := by
    rw [hhost]
    exact Iff.rfl
  have hpub : SamePublished t (s.hostLedger i t) := ServiceHostDemoState.hostLedger_published t
  cases hquery : memoryQueryEnabled with
  | false => simp [serviceWorkloadTick, hquery] at h
  | true =>
    cases hmemory : i.memory with
    | error e => simp [serviceWorkloadTick, hmemory, hquery] at h
    | ok u =>
      have hend := tick_end (s := s) hmemory
      rw [hquery] at h
      rw [hun]
      generalize { s with tickCount := s.tickCount + 1 }.recordHost i = s₁ at hend hledger
      generalize serviceWorkloadTick s i = out at h hend ⊢
      cases hend with
      | closed hoff =>
        refine .inr ⟨?_, s.hostLedger i t, ServiceHostDemoState.publishSummary_some hledger, hpub⟩
        rintro ⟨intake, hintake, henabled, _⟩
        rw [hoff intake hintake] at henabled
        cases henabled
      | paused hintake hpaused =>
        refine .inr ⟨?_, s.hostLedger i t, ServiceHostDemoState.publishSummary_some hledger, hpub⟩
        rintro ⟨intake, heq, _, haccepts, _⟩
        cases hintake.symm.trans heq
        rw [hpaused] at haccepts
        cases haccepts
      | @served intake result hturns hresult =>
        have hvisited : (s₁.visited i intake).ipcPresence = some (s.hostLedger i t) :=
          (ServiceHostDemoState.visited_presence intake).trans hledger
        obtain ⟨ledger, hserved, hsame⟩ :=
          ServiceHostDemoState.noteServed_some (i := i) hvisited result
        refine .inr ⟨?_, ledger, ServiceHostDemoState.publishSummary_some hserved, hpub.trans hsame⟩
        rintro ⟨intake', heq, _, _, e, he⟩
        cases hturns.found.symm.trans heq
        cases hresult.symm.trans he
      | timeout hturns hresult _ | refused hturns hresult _ =>
        refine .inl ⟨⟨_, hturns.found, hturns.enabled, hturns.accepts, _, hresult⟩, ?_⟩
        exact (ServiceHostDemoState.visited_presence _).trans hledger
      | failed _ _ _ _ => cases h

end Tick

/-- A successful tick leaves a tracker whose published summary is that of its ledger, with the change
reported, unless the tick serves no client and the host's own report made news. -/
theorem tick_advances_summary_iff (s : ServiceHostDemoState) (i : TickInput)
    (memoryQueryEnabled : Bool) (t : HostPresenceTracker) (ht : s.ipcPresence = some t)
    (hok : (serviceWorkloadTick s i memoryQueryEnabled).1 = .ok ()) :
    (∃ t', (serviceWorkloadTick s i memoryQueryEnabled).2.ipcPresence = some t' ∧ Advanced t t') ↔
      ¬ (s.Unserved i ∧ (s.hostLedger i t).computeSummary ≠ t.lastSummary) := by
  rcases tick_presence hok ht with ⟨hun, hleft⟩ | ⟨hserved, ledger, hleft, hsame⟩
  · rw [hleft]
    have hiff := advanced_iff_of_same (ServiceHostDemoState.hostLedger_published (s := s) (i := i) t)
    constructor
    · rintro ⟨t', heq, hadvanced⟩ ⟨_, hnews⟩
      cases heq
      exact hnews (hiff.mp hadvanced)
    · intro h
      rw [not_and, not_not] at h
      exact ⟨_, rfl, hiff.mpr (h hun)⟩
  · rw [hleft]
    constructor
    · rintro _ ⟨hun, _⟩
      exact hserved hun
    · intro _
      exact ⟨_, rfl, summary_advanced hsame i.clock.summary⟩

/-- An Agent host that reports the input of its own machine. -/
def desktopHost : ServiceHostDemoState :=
  { agentHost with ipcPresence := some {}, rawInput := true, lastInputFallback := true }

/-- No Agent comes in time. -/
def nobodyComes : TickInput :=
  { peer := { accept := .error (.fromWin32 errorTimeout "ConnectNamedPipe") } }

/-- The user is at the machine and no Agent comes: the tick succeeds, the ledger says present and the
published summary stays unknown. -/
theorem timeout_keeps_old_summary :
    desktopHost.ipcPresence = some {} ∧
      (serviceWorkloadTick desktopHost nobodyComes true).1 = .ok () ∧
      ¬ ∃ t', (serviceWorkloadTick desktopHost nobodyComes true).2.ipcPresence = some t' ∧
        Advanced {} t' := by
  refine ⟨rfl, rfl, ?_⟩
  rintro ⟨t', heq, hadvanced⟩
  cases heq
  have hpublished := hadvanced.published
  revert hpublished
  decide

/-- An Agent that sends a ping. -/
def pingComes : TickInput :=
  { peer := { identity := { pid := 1, sessionId := 1 }, input := makeFrame .ping 7 [] } }

theorem ping_advances_summary :
    ∃ t', (serviceWorkloadTick desktopHost pingComes true).2.ipcPresence = some t' ∧
      Advanced {} t' := by
  refine (tick_advances_summary_iff desktopHost pingComes true {} rfl rfl).mpr ?_
  rintro ⟨⟨intake, hintake, _, _, e, he⟩, _⟩
  cases hintake
  cases he

end Service
end CppOptimizer
