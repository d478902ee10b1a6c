import CppOptimizer.Service.HostSurvival

/-!
# CppOptimizer.Service.Provenance

Where the client rows of the presence ledger come from.

* `tickRecord`   — the call of `Record` that a tick makes for its client.
* `tick_entries` — a row of the ledger that a tick writes is the host's own or comes from that call.
* `RecordsOwn`   — the call is made for a snapshot of this very connection that was acknowledged,
  with the idle time of its payload.
* `Misrecorded`  — the two kinds of clients for which it is not: a ping after an earlier snapshot, and
  a snapshot that can be read but is answered by an error.

The handler notes the facts before the reply is known, and a ping leaves the note as it was; the tick
then looks only at the number of facts in the note.
-/

namespace CppOptimizer

open Common Ipc Lib

namespace Ipc

/-- Schema and token of a snapshot that could be read. -/
def FactsAcked (expectedToken : WideText) (facts : List IpcFact) : Prop :=
  validateFactsV1Schema facts = .ok () ∧
    (expectedToken ≠ [] → (facts.any fun fact =>
      fact.key == kFactsTokenKey && tokenMatches fact.value expectedToken) = true)

theorem defaultHandler_ack_iff {expectedToken : WideText} {request : IpcRequest} {reply : IpcReply}
    {facts : List IpcFact} (htype : request.type = .factsSnapshot)
    (hparse : parseFactsV1 request.payload = .ok facts)
    (h : defaultHandler expectedToken request = .ok reply) :
    reply.type = .ack ↔ FactsAcked expectedToken facts := by
  unfold defaultHandler at h
  simp only [htype, hparse] at h
  cases hschema : validateFactsV1Schema facts with
  | error e =>
    simp only [hschema, Except.ok.injEq] at h
    simp [← h, FactsAcked, hschema]
  | ok u =>
    simp only [hschema] at h
    split at h
    · case _ htoken =>
      cases h
      constructor
      · intro hack
        cases hack
      · intro hacked
        exact absurd (hacked.2 htoken.1) htoken.2
    · case _ htoken =>
      cases h
      rw [not_and, not_not] at htoken
      constructor
      · intro _
        exact ⟨hschema, htoken⟩
      · intro _
        rfl

namespace ServeCall

variable {η : Type} {k : ServeCall η} {st : η}

/-- A client whose frame `f` is answered, in a call of `ServeOne`. -/
structure Serves (k : ServeCall η) (st : η) (f : Frame) : Prop where
  listens : k.peer.listen = .ok ()
  comes : k.peer.accept = .ok ()
  received : k.receive (k.start st) = .frame f
  authorized : k.options.authorize k.peer.identity = .ok ()
  type : (k.request f).type = .ping ∨ (k.request f).type = .factsSnapshot
  taken : k.peer.replyFault 0 = none

theorem accepted_one (hmode : k.mode = .one) :
    k.accepted = .ok () ↔ k.peer.listen = .ok () ∧ k.peer.accept = .ok () := by
  simp only [accepted, hmode]
  cases k.peer.listen with
  | error e => simp
  | ok u => simp

/-- The trace of a call of `ServeOne` that serves the frame `f`. -/
structure ServedTrace (k : ServeCall η) (st : η) (f : Frame) (reply : IpcReply) (st' : η) : Prop where
  result : ∃ result, (k.serve st).result = .ok result ∧
    result.clientPid = k.peer.identity.pid ∧ result.clientSessionId = k.peer.identity.sessionId
  produced : (k.serve st).produced = [(k.request f, reply)]
  handlerState : (k.serve st).handlerState = st'

/-- One frame is answered and the call returns. -/
theorem serve_one_served (hmode : k.mode = .one) {expectedToken : WideText}
    (hhandle : ∀ request st, (k.handle request st).1 = defaultHandler expectedToken request)
    {f : Frame} (h : k.Serves st f) :
    ∃ reply, defaultHandler expectedToken (k.request f) = .ok reply ∧
      k.ServedTrace st f reply (k.handle (k.request f) st).2 := by
  obtain ⟨reply, hreply⟩ := (@defaultHandler_ok expectedToken _).mpr h.type
  have hhandled : k.handle (k.request f) (k.start st).handlerState =
      (.ok reply, (k.handle (k.request f) st).2) := by
    rw [← hreply, ← hhandle (k.request f) st]
    rfl
  have hdeliver : k.deliver (k.start st).index f.header.requestId reply = .ok () := by
    cases hd : k.deliver (k.start st).index f.header.requestId reply with
    | ok u => rfl
    | error e =>
      have := (deliver_default hreply _ _ e).mp hd
      rw [show (k.start st).index = 0 from rfl, h.taken] at this
      cases this
  have hlimit : k.LimitReached (k.advance (k.start st) f reply (k.handle (k.request f) st).2) := by
    simp [LimitReached, hmode, ServeMode.maxFrames, advance, noteReply, start]
  have hserve : k.serve st =
      (k.advance (k.start st) f reply (k.handle (k.request f) st).2).finish .clientClosed := by
    simp only [serve, (accepted_one hmode).mpr ⟨h.listens, h.comes⟩, serveFrames, serveFrame,
      h.received, h.authorized, hhandled, hdeliver, hlimit, if_true]
  refine ⟨reply, hreply, ⟨?_, ?_, ?_⟩⟩
  · rw [hserve]
    exact ⟨_, rfl, rfl, rfl⟩
  · rw [hserve]
    rfl
  · rw [hserve]
    rfl

/-- A call of `ServeOne` that returns a result has served a frame. -/
theorem serves_of_result (hmode : k.mode = .one) {expectedToken : WideText}
    (hhandle : ∀ request st, (k.handle request st).1 = defaultHandler expectedToken request)
    {result : IpcServeResult} (h : (k.serve st).result = .ok result) : ∃ f, k.Serves st f := by
  unfold serve at h
  cases haccepted : k.accepted with
  | error e => simp [haccepted] at h
  | ok u =>
    obtain ⟨hlisten, haccept⟩ := (accepted_one hmode).mp haccepted
    simp only [haccepted, serveFrames] at h
    have hturn := k.serveFrame_cases (k.start st)
    generalize k.serveFrame (k.start st) = turn at h hturn
    cases hturn with
    | finished hrecv => exact absurd hrecv (k.receive_start_ne_finished st _)
    | failed _ => cases h
    | refused _ _ => cases h
    | handlerFailed _ _ _ => cases h
    | replyFailed _ _ => cases h
    | @served f reply st' ha hdeliver =>
      have hreply : defaultHandler expectedToken (k.request f) = .ok reply := by
        rw [← hhandle (k.request f) st]
        exact congrArg Prod.fst ha.handled
      refine ⟨f, hlisten, haccept, ha.received, ha.authorized, defaultHandler_ok.mp ⟨reply, hreply⟩, ?_⟩
      cases hfault : k.peer.replyFault 0 with
      | none => rfl
      | some e =>
        have := (deliver_default hreply (k.start st).index f.header.requestId e).mpr hfault
        rw [hdeliver] at this
        cases this

end ServeCall

end Ipc

namespace Service

namespace ServiceHostDemoState

variable (s : ServiceHostDemoState) (i : TickInput)

/-! ## The record of a tick -/

def clientKey (pid sessionId : UInt32) : String := toString pid ++ ":" ++ toString sessionId

/-- The call of `Record` at the end of the tick, with its two arguments. -/
def clientRecord (result : IpcServeResult) : Option (String × Option UInt32) :=
  if s.ipcPresence.isSome = true ∧ s.lastFacts.ipcLastFactCount > 0 then
    some (clientKey result.clientPid result.clientSessionId, s.lastFacts.ipcLastUserIdleSeconds)
  else none

/-- The state in which the tick turns to a client, and the pipe it uses. -/
def serving : Option (ServiceHostDemoState × Intake) :=
  match i.memory with
  | .error _ => none
  | .ok () =>
    let s := { s with tickCount := s.tickCount + 1 }.recordHost i
    match s.intake with
    | none => none
    | some intake =>
      if s.ipcEnabled = true ∧
          (intake.ipcSafeMode.shouldAcceptClients intake.safeModeOptions i.clock.accept).1 = true then
        some (s.admitting i intake, intake)
      else none

/-- What happens on the connection of a tick that turns to a client. -/
def connection (p : ServiceHostDemoState × Intake) : ServeTrace LastFacts :=
  (p.1.serveCall i p.2).serve p.1.lastFacts

/-- The call of `Record` that the tick makes for its client, if it makes one. -/
def tickRecord : Option (String × Option UInt32) :=
  (s.serving i).bind fun p =>
    match (connection i p).result with
    | .error _ => none
    | .ok result => (p.1.noteTrace i (connection i p)).clientRecord result

/-! ## What a tick writes into the ledger -/

theorem observeVerdict_ledger (verdict : IpcClientVerdict) :
    (s.observeVerdict i verdict).ipcPresence = s.ipcPresence ∧
      (s.observeVerdict i verdict).lastFacts = s.lastFacts := by
  unfold observeVerdict
  cases s.intake with
  | none => exact ⟨rfl, rfl⟩
  | some intake =>
    dsimp only
    split
    · exact ⟨rfl, rfl⟩
    · exact ⟨rfl, rfl⟩

theorem foldl_observeVerdict_ledger (verdicts : List IpcClientVerdict) :
    (verdicts.foldl (fun s verdict => s.observeVerdict i verdict) s).ipcPresence = s.ipcPresence ∧
      (verdicts.foldl (fun s verdict => s.observeVerdict i verdict) s).lastFacts = s.lastFacts := by
  induction verdicts generalizing s with
  | nil => exact ⟨rfl, rfl⟩
  | cons verdict verdicts ih =>
    obtain ⟨h1, h2⟩ := s.observeVerdict_ledger i verdict
    obtain ⟨h3, h4⟩ := ih (s.observeVerdict i verdict)
    exact ⟨h3.trans h1, h4.trans h2⟩

/-- The observer touches neither the ledger nor the note of the facts. -/
theorem noteTrace_ledger (t : ServeTrace LastFacts) :
    (s.noteTrace i t).ipcPresence = s.ipcPresence ∧ (s.noteTrace i t).lastFacts = t.handlerState := by
  unfold noteTrace
  exact foldl_observeVerdict_ledger _ i t.verdicts

/-- The rows of the ledger, none if there is no ledger. -/
def rows : List (String × PresenceEntry) :=
  match s.ipcPresence with
  | none => []
  | some presence => presence.entries.entries

theorem mem_pruneExpired {presence : HostPresenceTracker} {now : Int}
    {q : String × PresenceEntry} (h : q ∈ (presence.pruneExpired now).entries.entries) :
    q ∈ presence.entries.entries := by
  unfold HostPresenceTracker.pruneExpired at h
  split at h
  · exact h
  · exact (List.mem_filter.mp h).1

theorem mem_record {presence : HostPresenceTracker} {now seenAt : Int} {key : String}
    {idle : Option UInt32} {q : String × PresenceEntry}
    (h : q ∈ (presence.record now seenAt key idle).2.entries.entries) :
    q ∈ presence.entries.entries ∨ (q.1 = key ∧ q.2.idleSeconds = idle) := by
  unfold HostPresenceTracker.record at h
  split at h
  · exact .inl h
  · rcases SortedMap.mem_insert.mp h with rfl | ⟨h, _⟩
    · exact .inr ⟨rfl, rfl⟩
    · exact .inl (mem_pruneExpired h)

theorem mem_publishSummary {q : String × PresenceEntry} (h : q ∈ (s.publishSummary i).rows) :
    q ∈ s.rows := by
  unfold rows publishSummary at *
  cases hp : s.ipcPresence with
  | none => simp [hp] at h
  | some presence =>
    simp only [hp, Option.map_some, HostPresenceTracker.summary] at h ⊢
    split at h
    · exact mem_pruneExpired h
    · exact mem_pruneExpired h

theorem mem_recordHost {q : String × PresenceEntry} (h : q ∈ (s.recordHost i).rows) :
    q ∈ s.rows ∨ q.1 = "host" := by
  unfold recordHost at h
  cases hp : s.ipcPresence with
  | none =>
    simp only [hp] at h
    exact .inl h
  | some presence =>
    simp only [hp] at h
    split at h
    · simp only [rows, hp] at h ⊢
      exact (mem_record h).imp_right And.left
    · exact .inl h

theorem mem_noteServed {result : IpcServeResult} {q : String × PresenceEntry}
    (h : q ∈ (s.noteServed i result).rows) :
    q ∈ s.rows ∨ s.clientRecord result = some (q.1, q.2.idleSeconds) := by
  unfold noteServed at h
  cases hp : s.ipcPresence with
  | none => simp [rows, hp] at h
  | some presence =>
    simp only [hp] at h
    split at h
    · case _ hcount =>
      simp only [rows, hp] at h ⊢
      refine (mem_record h).imp_right ?_
      rintro ⟨hkey, hidle⟩
      rw [clientRecord, hp, if_pos ⟨rfl, hcount⟩, hkey, hidle, clientKey]
    · simp only [rows, hp] at h ⊢
      exact .inl h

theorem mem_visited {intake : Intake} {q : String × PresenceEntry}
    (h : q ∈ (s.visited i intake).rows) : q ∈ s.rows := by
  unfold rows at h
  rw [visited, (noteTrace_ledger _ i _).1] at h
  exact h

/-- A row written by a tick is the host's own, or it comes from the record of the tick. -/
theorem tick_entries {q : String × PresenceEntry} (h : q ∈ (serviceWorkloadTick s i).2.rows) :
    q ∈ s.rows ∨ q.1 = "host" ∨ s.tickRecord i = some (q.1, q.2.idleSeconds) := by
  cases hmemory : i.memory with
  | error e =>
    simp only [serviceWorkloadTick, hmemory, Bool.true_eq_false, if_false] at h
    exact .inl h
  | ok u =>
    have hend := tick_end (s := s) hmemory
    have hhost : ∀ {q}, q ∈ ({ s with tickCount := s.tickCount + 1 }.recordHost i).rows →
        q ∈ s.rows ∨ q.1 = "host" := fun hq =>
      mem_recordHost { s with tickCount := s.tickCount + 1 } i hq
    unfold tickRecord serving
    simp only [hmemory]
    generalize { s with tickCount := s.tickCount + 1 }.recordHost i = s₁ at hend hhost ⊢
    generalize serviceWorkloadTick s i = out at h hend
    cases hend with
    | closed _ | paused _ _ => exact (hhost (mem_publishSummary _ i h)).imp_right .inl
    | timeout _ _ _ | refused _ _ _ | failed _ _ _ _ =>
      exact (hhost (mem_visited _ i h)).imp_right .inl
    | @served intake result hturns hresult =>
      rcases mem_noteServed _ i (mem_publishSummary _ i h) with hq | hq
      · exact (hhost (mem_visited _ i hq)).imp_right .inl
      · have hconnection : (connection i (s₁.admitting i intake, intake)).result = .ok result :=
          hresult
        simp only [hturns.found, hturns.enabled, hturns.accepts, and_self, if_true,
          Option.bind_some, hconnection]
        exact .inr (.inr hq)

/-! ## Own snapshots -/

/-- The connection of the tick consisted of one snapshot, which was acknowledged, and `idle` is the
idle time of its payload. -/
structure OwnSnapshot (i : TickInput) (p : ServiceHostDemoState × Intake) (key : String)
    (idle : Option UInt32) (request : IpcRequest) (reply : IpcReply) (facts : List IpcFact) :
    Prop where
  exchanged : (connection i p).produced = [(request, reply)]
  snapshot : request.type = .factsSnapshot
  acknowledged : reply.type = .ack
  parsed : parseFactsV1 request.payload = .ok facts
  idle_eq : idle = numericFactValue facts (ascii "user_idle_seconds")
  key_eq : key = clientKey i.peer.identity.pid i.peer.identity.sessionId

/-- A record of the tick is one of its own client's acknowledged snapshot. -/
def RecordsOwn : Prop :=
  ∀ key idle, s.tickRecord i = some (key, idle) →
    ∃ p request reply facts, s.serving i = some p ∧ OwnSnapshot i p key idle request reply facts

/-- With a ledger, a frame is answered that is no snapshot while an earlier snapshot is still noted,
or that is a snapshot with facts but without the schema or the token. -/
inductive Misrecorded : Prop where
  | ping {p : ServiceHostDemoState × Intake} {f : Frame} :
      s.serving i = some p → p.1.ipcPresence.isSome = true →
      (p.1.serveCall i p.2).Serves p.1.lastFacts f →
      ((p.1.serveCall i p.2).request f).type = .ping →
      p.1.lastFacts.ipcLastFactCount > 0 → Misrecorded
  | refused {p : ServiceHostDemoState × Intake} {f : Frame} {facts : List IpcFact} :
      s.serving i = some p → p.1.ipcPresence.isSome = true →
      (p.1.serveCall i p.2).Serves p.1.lastFacts f →
      ((p.1.serveCall i p.2).request f).type = .factsSnapshot →
      parseFactsV1 ((p.1.serveCall i p.2).request f).payload = .ok facts → facts ≠ [] →
      ¬ FactsAcked p.1.ipcExpectedToken facts → Misrecorded

/-- The handler of the tick answers as the default one. -/
theorem serveCall_handle (intake : Intake) (request : IpcRequest) (last : LastFacts) :
    ((s.serveCall i intake).handle request last).1 =
      defaultHandler s.ipcExpectedToken request := rfl

/-- What the handler has noted when the frame is not a snapshot. -/
theorem handle_ping {intake : Intake} {request : IpcRequest} {last : LastFacts}
    (h : request.type = .ping) : ((s.serveCall i intake).handle request last).2 = last := by
  simp [serveCall, ServeCall.handle, tickHandler, h]

theorem handle_parsed (intake : Intake) {request : IpcRequest} (last : LastFacts)
    {facts : List IpcFact} (h : request.type = .factsSnapshot)
    (hparse : parseFactsV1 request.payload = .ok facts) :
    (((s.serveCall i intake).handle request last).2.ipcLastFactCount = facts.length) ∧
      ((s.serveCall i intake).handle request last).2.ipcLastUserIdleSeconds =
        numericFactValue facts (ascii "user_idle_seconds") := by
  simp [serveCall, ServeCall.handle, tickHandler, h, hparse]

theorem handle_unparsed {intake : Intake} {request : IpcRequest} {last : LastFacts} {e : Error}
    (h : request.type = .factsSnapshot) (hparse : parseFactsV1 request.payload = .error e) :
    ((s.serveCall i intake).handle request last).2.ipcLastFactCount = 0 := by
  simp [serveCall, ServeCall.handle, tickHandler, h, hparse]

variable {s} {i}

/-- The record of a tick whose client's frame `f` is answered. -/
theorem tickRecord_served {p : ServiceHostDemoState × Intake} {f : Frame}
    (hserving : s.serving i = some p) (hf : (p.1.serveCall i p.2).Serves p.1.lastFacts f) :
    ∃ reply, defaultHandler p.1.ipcExpectedToken ((p.1.serveCall i p.2).request f) = .ok reply ∧
      (connection i p).produced = [((p.1.serveCall i p.2).request f, reply)] ∧
      s.tickRecord i =
        let noted := ((p.1.serveCall i p.2).handle ((p.1.serveCall i p.2).request f)
          p.1.lastFacts).2
        if p.1.ipcPresence.isSome = true ∧ noted.ipcLastFactCount > 0 then
          some (clientKey i.peer.identity.pid i.peer.identity.sessionId,
            noted.ipcLastUserIdleSeconds)
        else none := by
  obtain ⟨reply, hreply, htrace⟩ := ServeCall.serve_one_served rfl
    (p.1.serveCall_handle i p.2) hf
  obtain ⟨result, hresult, hpid, hsession⟩ := htrace.result
  refine ⟨reply, hreply, htrace.produced, ?_⟩
  obtain ⟨hledger, hnoted⟩ := p.1.noteTrace_ledger i (connection i p)
  have hstate : (connection i p).handlerState = _ := htrace.handlerState
  have hres : (connection i p).result = .ok result := hresult
  simp only [tickRecord, hserving, Option.bind_some, hres, clientRecord, hledger, hnoted, hstate]
  rw [hpid, hsession]
  rfl

/-- A tick that makes a record has answered a frame. -/
theorem serves_of_tickRecord {key : String} {idle : Option UInt32}
    (h : s.tickRecord i = some (key, idle)) :
    ∃ p f, s.serving i = some p ∧ (p.1.serveCall i p.2).Serves p.1.lastFacts f := by
  unfold tickRecord at h
  cases hserving : s.serving i with
  | none => simp [hserving] at h
  | some p =>
    rw [hserving, Option.bind_some] at h
    cases hresult : (connection i p).result with
    | error e => simp [hresult] at h
    | ok result =>
      obtain ⟨f, hf⟩ := ServeCall.serves_of_result rfl (p.1.serveCall_handle i p.2) hresult
      exact ⟨p, f, rfl, hf⟩

/-- One tick: its record is its own client's exactly if the client is of neither kind. -/
theorem recordsOwn_iff : s.RecordsOwn i ↔ ¬ s.Misrecorded i := by
  constructor
  · intro hown hmis
    cases hmis with
    | @ping p f hserving hledger hf htype hcount =>
      obtain ⟨reply, _, hproduced, hrecord⟩ := tickRecord_served hserving hf
      rw [handle_ping _ _ htype] at hrecord
      dsimp only at hrecord
      rw [if_pos ⟨hledger, hcount⟩] at hrecord
      obtain ⟨p', request, reply', facts, hserving', hsnap⟩ := hown _ _ hrecord
      rw [hserving] at hserving'
      cases hserving'
      have hsame := hproduced.symm.trans hsnap.exchanged
      cases hsame
      rw [hsnap.snapshot] at htype
      cases htype
    | @refused p f facts hserving hledger hf htype hparse hne hacked =>
      obtain ⟨reply, hreply, hproduced, hrecord⟩ := tickRecord_served hserving hf
      have hcount := (handle_parsed p.1 i p.2 p.1.lastFacts htype hparse).1
      have hpos : facts.length > 0 := List.length_pos_iff.mpr hne
      dsimp only at hrecord
      rw [hcount, if_pos ⟨hledger, hpos⟩] at hrecord
      obtain ⟨p', request, reply', facts', hserving', hsnap⟩ := hown _ _ hrecord
      rw [hserving] at hserving'
      cases hserving'
      have hsame := hproduced.symm.trans hsnap.exchanged
      cases hsame
      exact hacked ((defaultHandler_ack_iff htype hparse hreply).mp hsnap.acknowledged)
  · intro hmis key idle hrec
    obtain ⟨p, f, hserving, hf⟩ := serves_of_tickRecord hrec
    obtain ⟨reply, hreply, hproduced, hrecord⟩ := tickRecord_served hserving hf
    rw [hrec] at hrecord
    dsimp only at hrecord
    split at hrecord
    · case _ hcond =>
      obtain ⟨hkey, hidle⟩ := Prod.mk.inj (Option.some.inj hrecord)
      rcases hf.type with htype | htype
      · rw [handle_ping _ _ htype] at hcond
        exact absurd (.ping hserving hcond.1 hf htype hcond.2) hmis
      · cases hparse : parseFactsV1 ((p.1.serveCall i p.2).request f).payload with
        | error e =>
          rw [handle_unparsed _ _ htype hparse] at hcond
          exact absurd hcond.2 (Nat.lt_irrefl 0)
        | ok facts =>
          obtain ⟨hcount, hseconds⟩ := handle_parsed p.1 i p.2 p.1.lastFacts htype hparse
          rw [hcount] at hcond
          rw [hseconds] at hidle
          have hne : facts ≠ [] := List.length_pos_iff.mp hcond.2
          by_cases hacked : FactsAcked p.1.ipcExpectedToken facts
          · exact ⟨p, _, reply, facts, hserving, hproduced, htype,
              (defaultHandler_ack_iff htype hparse hreply).mpr hacked, hparse, hidle, hkey⟩
          · exact absurd (.refused hserving hcond.1 hf htype hparse hne hacked) hmis
    · cases hrecord

end ServiceHostDemoState

/-! ## Whole runs -/

/-- One tick, as a step of the host. -/
def hostTick (s : ServiceHostDemoState) (i : TickInput) : ServiceHostDemoState :=
  (serviceWorkloadTick s i).2

/-- Along every sequence of ticks, the records of clients are all of their own acknowledged snapshots
exactly if no tick answers a client of the two kinds. -/
theorem records_own_iff (s : ServiceHostDemoState) (inputs : List TickInput) :
    Steps hostTick ServiceHostDemoState.RecordsOwn s inputs ↔
      Steps hostTick (fun s i => ¬ s.Misrecorded i) s inputs :=
  steps_congr fun _ _ => ServiceHostDemoState.recordsOwn_iff

def openHost : ServiceHostDemoState :=
  { ipcEnabled := true, intake := some { ipcSession := {} }, ipcPresence := some {} }

/-- An interactive client of the given pid, session 1, that sends one frame. -/
def clientSends (pid : UInt32) (type : IpcMessageType) (payload : Bytes) : TickInput :=
  { peer := { identity := { pid := pid, sessionId := 1 }, input := makeFrame type 1 payload } }

def idleFacts : Bytes := ascii "CPOPFACTS/1\nuser_idle_seconds=5"

/-- A client pings after another one sent its facts: it is recorded with the other one's idle time. -/
theorem ping_inherits_idle :
    (hostTick openHost (clientSends 4 .factsSnapshot idleFacts)).tickRecord (clientSends 9 .ping []) =
        some ("9:1", some 5) ∧
      ¬ Steps hostTick ServiceHostDemoState.RecordsOwn openHost
        [clientSends 4 .factsSnapshot idleFacts, clientSends 9 .ping []] := by
  refine ⟨by decide +kernel, ?_⟩
  rintro ⟨_, hping, _⟩
  refine ServiceHostDemoState.recordsOwn_iff.mp hping (.ping (f := ⟨makeIpcHeader .ping 0 1, [], []⟩)
    rfl rfl ⟨rfl, rfl, ?_, rfl, .inl rfl, rfl⟩ rfl ?_)
  · rfl
  · decide +kernel

end Service

end CppOptimizer
