import CppOptimizer.Activity.Observers
import CppOptimizer.Ipc.RoundTrip
import CppOptimizer.Ipc.TokenFile
import CppOptimizer.Lib.Strings

/-!
# CppOptimizer.Ipc.AgentReport

The report of the agent from its probes to the host (`RunAgentCommand`, `DefaultHandler`).

* `buildRequest`          — the frame of one cycle, from what the probes answer.
* `AgentReported`         — what the host gets from it, and when it acknowledges it.
* `agent_report_received` — this is so for all answers, tokens and hosts.
* `provisioned_answered`  — an agent and a host over one store of the token.

The agent writes numerals of any length. The host reads 32 bits, and neither a total below 1 MiB nor
a window without a process.
-/

namespace CppOptimizer
namespace Ipc

open Common Lib Activity

/-! ## Numerals -/

/-- `std::to_string` in bytes. -/
def numeral (n : Nat) : Bytes := (decimal n).map fun c => UInt8.ofNat c.toNat

/-- One digit of `ParseUint32`. -/
def readFactDigit (acc : Nat) (c : UInt8) : Option Nat :=
  if isDigit c then
    if acc * 10 + (c.toNat - 0x30) > 0xFFFFFFFF then none else some (acc * 10 + (c.toNat - 0x30))
  else none

theorem parseUint32Digits_eq (text : Bytes) (acc : Nat) :
    parseUint32Digits text acc = (text.foldlM readFactDigit acc).map UInt32.ofNat := by
  induction text generalizing acc with
  | nil => rfl
  | cons c text ih =>
    rw [parseUint32Digits, List.foldlM_cons, readFactDigit]
    split
    · dsimp only
      split
      · rfl
      · exact ih _
    · rfl

theorem readFactDigit_digitChar {acc d : Nat} (hd : d < 10) :
    readFactDigit acc (UInt8.ofNat d.digitChar.toNat) =
      if acc * 10 + d < 2 ^ 32 then some (acc * 10 + d) else none := by
  have hdigit : isDigit (UInt8.ofNat d.digitChar.toNat) = true ∧
      (UInt8.ofNat d.digitChar.toNat).toNat - 0x30 = d := by
    revert d
    decide
  rw [readFactDigit, if_pos hdigit.1, hdigit.2]
  split
  · rw [if_neg (by omega)]
  · rw [if_pos (by omega)]

theorem foldlM_numeral (n : Nat) :
    (numeral n).foldlM readFactDigit 0 = if n < 2 ^ 32 then some n else none := by
  rw [numeral, decimal]
  -- the last digit is read after the numeral of `n / 10`
  induction n using Nat.strongRecOn with
  | ind n ih =>
    by_cases hn : n < 10
    · rw [Nat.toDigits_of_lt_base hn, List.map_singleton, List.foldlM_cons, readFactDigit_digitChar hn,
        Nat.zero_mul, Nat.zero_add, if_pos (by omega)]
      rfl
    · have hlt : n / 10 < n := Nat.div_lt_self (by omega) (by decide)
      have hsum : n / 10 * 10 + n % 10 = n := by omega
      rw [Nat.toDigits_of_base_le (by decide) (by omega), List.map_append, List.foldlM_append,
        ih (n / 10) hlt, List.map_singleton]
      by_cases hbig : n / 10 < 2 ^ 32
      · rw [if_pos hbig, Option.bind_eq_bind, Option.bind_some, List.foldlM_cons,
          readFactDigit_digitChar (Nat.mod_lt n (by decide)), hsum]
        split
        · rfl
        · rfl
      · rw [if_neg hbig, if_neg (by omega)]
        rfl

/-- The host reads a numeral exactly when it has 32 bits. -/
theorem parseUint32_numeral (n : Nat) :
    parseUint32 (numeral n) = if n < 2 ^ 32 then some (UInt32.ofNat n) else none := by
  have hne : numeral n ≠ [] := by
    intro hnil
    exact decimal_ne_nil n (List.map_eq_nil_iff.mp hnil)
  rw [parseUint32, if_neg hne, parseUint32Digits_eq, foldlM_numeral]
  split
  · rfl
  · rfl

theorem numeral_plain {n : Nat} (h : n < 10 ^ 128) : PlainValue (numeral n) := by
  refine ⟨?_, fun c hc => ?_⟩
  · rw [numeral, List.length_map, length_decimal_le (by decide)]
    exact h
  · obtain ⟨d, hd, rfl⟩ := List.mem_map.mp hc
    obtain ⟨k, hk, rfl⟩ := eq_digitChar_of_isDigit (isDigit_of_mem_decimal hd)
    clear hd hc
    revert k
    decide

/-! ## The request -/

structure MemoryStatus where
  totalPhysicalBytes : UInt64
  availablePhysicalBytes : UInt64
  usedPhysicalBytes : UInt64
  memoryLoadPercent : UInt32
  deriving DecidableEq, Repr

def buildMemoryStatus (totalPhysicalBytes availablePhysicalBytes : UInt64) (memoryLoadPercent : UInt32) :
    Result MemoryStatus :=
  if totalPhysicalBytes = 0 then
    .error (.validation "BuildMemoryStatus.totalPhysicalBytes"
      "Total physical memory must be greater than zero")
  else if availablePhysicalBytes > totalPhysicalBytes then
    .error (.validation "BuildMemoryStatus.availablePhysicalBytes"
      "Available physical memory cannot exceed total physical memory")
  else if memoryLoadPercent > 100 then
    .error (.validation "BuildMemoryStatus.memoryLoadPercent"
      "Memory load percent must be in the range 0 to 100")
  else .ok {
    totalPhysicalBytes := totalPhysicalBytes
    availablePhysicalBytes := availablePhysicalBytes
    usedPhysicalBytes := totalPhysicalBytes - availablePhysicalBytes
    memoryLoadPercent := memoryLoadPercent }

/-- `MEMORYSTATUSEX`. -/
structure NativeMemoryStatus where
  ullTotalPhys : UInt64
  ullAvailPhys : UInt64
  dwMemoryLoad : UInt32
  deriving DecidableEq, Repr

/-- `native` is the answer of `GlobalMemoryStatusEx`, or its error code. -/
def queryMemoryStatus : Except Nat NativeMemoryStatus → Result MemoryStatus
  | .error code => .error (.fromWin32 code "GlobalMemoryStatusEx")
  | .ok native => buildMemoryStatus native.ullTotalPhys native.ullAvailPhys native.dwMemoryLoad

/-- What the probes of one cycle answer. -/
structure AgentProbes where
  native : Except Nat NativeMemoryStatus
  input : Result InputActivitySample
  foreground : Result ForegroundSample

/-- A token both sides can hold. -/
abbrev AgentToken := { token : WideText // TokenText token }

/-- `--ipc-token-file`. -/
def storedAgentToken (store : TokenStore) (opened : Option Nat) (works : List Bool) : Result AgentToken :=
  match h : readAgentTokenFile store opened works with
  | .error e => .error e
  | .ok token => .ok ⟨token, tokenText_of_read h⟩

theorem storedAgentToken_ok {store : TokenStore} {opened : Option Nat} {works : List Bool}
    {token : AgentToken} (h : storedAgentToken store opened works = .ok token) :
    readAgentTokenFile store opened works = .ok token.val := by
  unfold storedAgentToken at h
  split at h
  · cases h
  · case _ hread =>
    cases h
    exact hread

structure Agent where
  processId : UInt32
  token : Option AgentToken := none
  nextRequestId : UInt32 := 0

/-- Left out when the query fails. The idle time is never negative. -/
def idleFacts : Result InputActivitySample → List IpcFact
  | .error _ => []
  | .ok sample =>
    [⟨ascii "user_idle_seconds",
      numeral ((idleMilliseconds sample.nowTick sample.lastInputTick).tdiv 1000).toNat⟩]

/-- Left out when there is no window in front, too. -/
def foregroundFacts : Result ForegroundSample → List IpcFact
  | .error _ => []
  | .ok foreground =>
    if foreground.hasWindow then [⟨ascii "foreground_pid", numeral foreground.pid.toNat⟩] else []

def tokenFacts : Option AgentToken → List IpcFact
  | none => []
  | some token => [⟨kFactsTokenKey, narrow token.val⟩]

def memoryFacts (agent : Agent) (memory : MemoryStatus) : List IpcFact :=
  [⟨ascii "client_pid", numeral agent.processId.toNat⟩,
    ⟨ascii "memory_total_mb", numeral (memory.totalPhysicalBytes.toNat / (1024 * 1024))⟩,
    ⟨ascii "memory_available_mb", numeral (memory.availablePhysicalBytes.toNat / (1024 * 1024))⟩,
    ⟨ascii "memory_load_percent", numeral memory.memoryLoadPercent.toNat⟩]

/-- All but the credential. -/
def observedFacts (agent : Agent) (memory : MemoryStatus) (probes : AgentProbes) : List IpcFact :=
  memoryFacts agent memory ++ idleFacts probes.input ++ foregroundFacts probes.foreground ++
    [⟨ascii "observer", ascii "CppOptimizer agent demo"⟩]

def agentFacts (agent : Agent) (memory : MemoryStatus) (probes : AgentProbes) : List IpcFact :=
  observedFacts agent memory probes ++ tokenFacts agent.token

/-- The request of one cycle; its id is taken only when there is one. -/
def buildRequest (agent : Agent) (probes : AgentProbes) : Result IpcFrameRequest × Agent :=
  match queryMemoryStatus probes.native with
  | .error e => (.error e, agent)
  | .ok memory =>
    match serializeFactsV1 (agentFacts agent memory probes) with
    | .error e => (.error e, agent)
    | .ok payload =>
      (.ok { type := .factsSnapshot, requestId := agent.nextRequestId + 1, payload := payload },
        { agent with nextRequestId := agent.nextRequestId + 1 })

/-! ## What the agent can write -/

section Written

variable (agent : Agent) (memory : MemoryStatus) (probes : AgentProbes)

def observedKeys : List Bytes :=
  [ascii "client_pid", ascii "memory_total_mb", ascii "memory_available_mb", ascii "memory_load_percent",
    ascii "user_idle_seconds", ascii "foreground_pid", ascii "observer"]

theorem keys_plain : ∀ key ∈ observedKeys ++ [kFactsTokenKey], PlainKey key := by
  have hnone : ∀ key ∈ observedKeys ++ [kFactsTokenKey], validateKey key = none := by decide
  exact fun key hkey => validateKey_eq_none.mp (hnone key hkey)

/-- The keys of a report, each at most once. -/
theorem observedFacts_keys : ((observedFacts agent memory probes).map (·.key)).Sublist observedKeys := by
  have hidle : ((idleFacts probes.input).map (·.key)).Sublist [ascii "user_idle_seconds"] := by
    cases probes.input with
    | error e => exact List.nil_sublist _
    | ok sample => exact List.Sublist.refl _
  have hforeground : ((foregroundFacts probes.foreground).map (·.key)).Sublist [ascii "foreground_pid"] := by
    unfold foregroundFacts
    split
    · exact List.nil_sublist _
    · split
      · exact List.Sublist.refl _
      · exact List.nil_sublist _
  unfold observedFacts
  simp only [List.map_append]
  exact (((List.Sublist.refl _).append hidle).append hforeground).append (List.Sublist.refl _)

theorem agentFacts_keys :
    ((agentFacts agent memory probes).map (·.key)).Sublist (observedKeys ++ [kFactsTokenKey]) := by
  rw [agentFacts, List.map_append]
  refine (observedFacts_keys agent memory probes).append ?_
  cases agent.token with
  | none => exact List.nil_sublist _
  | some token => exact List.Sublist.refl _

theorem agentFacts_split : agentFacts agent memory probes = memoryFacts agent memory ++
    (idleFacts probes.input ++ (foregroundFacts probes.foreground ++
      (⟨ascii "observer", ascii "CppOptimizer agent demo"⟩ :: tokenFacts agent.token))) := by
  simp only [agentFacts, observedFacts, List.append_assoc, List.singleton_append]

theorem widen_tokenChar {ch : UInt16} (h : isAsciiTokenChar ch = true) : ch.toUInt8.toUInt16 = ch := by
  have hlt : ch.toNat < 256 := by
    simp only [isAsciiTokenChar, Bool.or_eq_true, Bool.and_eq_true, decide_eq_true_eq, beq_iff_eq,
      UInt16.le_iff_toNat_le, ← UInt16.toNat_inj, UInt16.reduceToNat] at h
    omega
  rw [← UInt16.toNat_inj, UInt8.toNat_toUInt16, UInt16.toNat_toUInt8]
  exact Nat.mod_eq_of_lt hlt

/-- A token in bytes: nothing is lost, and the host may read it. -/
structure NarrowToken (token : WideText) : Prop where
  widened : (narrow token).map UInt8.toUInt16 = token
  chars : ∀ c ∈ narrow token, isAsciiKeyChar c = true
  nonempty : narrow token ≠ []
  short : (narrow token).length ≤ 64

theorem narrow_token {token : WideText} (h : TokenText token) : NarrowToken token := by
  refine ⟨?_, fun c hc => ?_, fun hnil => h.nonempty (List.map_eq_nil_iff.mp hnil), ?_⟩
  · rw [narrow, List.map_map]
    exact (List.map_congr_left fun ch hch => widen_tokenChar (h.chars ch hch)).trans (List.map_id _)
  · obtain ⟨ch, hch, rfl⟩ := List.mem_map.mp hc
    rw [← isAsciiTokenChar_toUInt16, widen_tokenChar (h.chars ch hch)]
    exact h.chars ch hch
  · rw [narrow, List.length_map]
    exact h.short

theorem NarrowToken.plain {token : WideText} (h : NarrowToken token) : PlainValue (narrow token) := by
  refine ⟨h.short.trans (by decide), fun c hc => ?_⟩
  have hchars := isAsciiKeyChar_iff.mp (h.chars c hc)
  simp only [UInt8.le_iff_toNat_le, UInt8.reduceToNat, ← UInt8.toNat_inj, ne_eq] at hchars ⊢
  omega

theorem idleMilliseconds_range (now last : UInt32) :
    0 ≤ idleMilliseconds now last ∧ idleMilliseconds now last < 2 ^ 31 := by
  unfold idleMilliseconds tickDeltaMs
  have hlt := (now - last).toInt32.toInt_lt
  dsimp only
  split
  · omega
  · omega

/-- The idle time in seconds has 32 bits. -/
theorem idleSeconds_lt (now last : UInt32) :
    ((idleMilliseconds now last).tdiv 1000).toNat < 2 ^ 32 := by
  have hrange := idleMilliseconds_range now last
  rw [Int.tdiv_eq_ediv_of_nonneg hrange.1]
  omega

theorem numeral_small {n : Nat} (h : n < 2 ^ 64) : PlainValue (numeral n) :=
  numeral_plain (h.trans (by decide))

theorem agentFacts_values : ∀ fact ∈ agentFacts agent memory probes, PlainValue fact.value := by
  intro fact hfact
  simp only [agentFacts, observedFacts, List.mem_append] at hfact
  rcases hfact with (((hmemory | hidle) | hforeground) | hobserver) | htoken
  · have htotal := memory.totalPhysicalBytes.toNat_lt
    have havailable := memory.availablePhysicalBytes.toNat_lt
    have hpid := agent.processId.toNat_lt
    have hload := memory.memoryLoadPercent.toNat_lt
    simp only [memoryFacts, List.mem_cons, List.not_mem_nil, or_false] at hmemory
    rcases hmemory with rfl | rfl | rfl | rfl
    · exact numeral_small (by omega)
    · exact numeral_small (by omega)
    · exact numeral_small (by omega)
    · exact numeral_small (by omega)
  · unfold idleFacts at hidle
    split at hidle
    · cases hidle
    · case _ sample _ =>
      have hseconds := idleSeconds_lt sample.nowTick sample.lastInputTick
      rw [List.mem_singleton] at hidle
      subst hidle
      exact numeral_small (by omega)
  · unfold foregroundFacts at hforeground
    split at hforeground
    · cases hforeground
    · case _ foreground _ =>
      split at hforeground
      · have hpid := foreground.pid.toNat_lt
        rw [List.mem_singleton] at hforeground
        subst hforeground
        exact numeral_small (by omega)
      · cases hforeground
  · rw [List.mem_singleton] at hobserver
    subst hobserver
    exact validateValue_eq_none.mp (by decide)
  · unfold tokenFacts at htoken
    split at htoken
    · cases htoken
    · case _ token _ =>
      rw [List.mem_singleton] at htoken
      subst htoken
      exact (narrow_token token.property).plain

theorem agentFacts_wellFormed : WellFormed (agentFacts agent memory probes) := by
  have hkeys := agentFacts_keys agent memory probes
  refine ⟨?_, fun fact hfact => ?_, agentFacts_values agent memory probes, ?_⟩
  · have hlength := hkeys.length_le
    rw [List.length_map] at hlength
    exact hlength.trans (by decide)
  · exact keys_plain _ (hkeys.subset (List.mem_map_of_mem hfact))
  · exact hkeys.nodup (by decide)

/-- A request is built whenever the memory query works. -/
theorem serializeFactsV1_agentFacts : ∃ payload,
    serializeFactsV1 (agentFacts agent memory probes) = .ok payload ∧
      parseFactsV1 payload = .ok (agentFacts agent memory probes) := by
  have hwell := agentFacts_wellFormed agent memory probes
  exact ⟨_, serializeFactsV1_eq_ok.mpr ⟨hwell, rfl⟩, parseFactsV1_eq_ok.mpr ⟨hwell, rfl⟩⟩

end Written

/-! ## What the host makes of it -/

section Received

theorem foldlM_still {s : SchemaState} {facts : List IpcFact}
    (h : ∀ fact ∈ facts, checkFact s fact = .ok s) : facts.foldlM checkFact s = .ok s := by
  induction facts with
  | nil => rfl
  | cons fact facts ih =>
    rw [List.foldlM_cons, h fact List.mem_cons_self]
    exact ih fun fact' hfact => h fact' (List.mem_cons_of_mem _ hfact)

variable (s : SchemaState)

/-- The schema of a numeric key, once its number is read. -/
def checkNumber (key : Bytes) (numeric : UInt32) : Result SchemaState :=
  let s := { s with hasNonCredential := true }
  if key = ascii "memory_total_mb" then
    if numeric = 0 then .error (factsValidationError "memory_total_mb 必须 >= 1")
    else .ok { s with totalMb := some numeric }
  else if key = ascii "memory_available_mb" then .ok { s with availableMb := some numeric }
  else if key = ascii "memory_load_percent" ∧ numeric > 100 then
    .error (factsValidationError "memory_load_percent 必须 0..100")
  else if key = ascii "foreground_pid" ∧ numeric = 0 then
    .error (factsValidationError "foreground_pid 必须 >= 1")
  else .ok s

theorem numericKey_other :
    ∀ key ∈ knownNumericKeys, key ≠ ascii "agent_token" ∧ key ≠ ascii "observer" := by decide

theorem checkFact_numeral {key : Bytes} (hkey : key ∈ knownNumericKeys) {n : Nat} (h : n < 2 ^ 32) :
    checkFact s ⟨key, numeral n⟩ = checkNumber s key (UInt32.ofNat n) := by
  obtain ⟨htoken, hobserver⟩ := numericKey_other key hkey
  unfold checkFact
  dsimp only
  rw [if_neg htoken, if_neg hobserver, if_neg (not_not_intro hkey), parseUint32_numeral, if_pos h]
  rfl

/-- A number of more than 32 bits. -/
theorem checkFact_numeral_big {key : Bytes} (hkey : key ∈ knownNumericKeys) {n : Nat} (h : 2 ^ 32 ≤ n) :
    ∃ e, checkFact s ⟨key, numeral n⟩ = .error e := by
  obtain ⟨htoken, hobserver⟩ := numericKey_other key hkey
  unfold checkFact
  dsimp only
  rw [if_neg htoken, if_neg hobserver, if_neg (not_not_intro hkey), parseUint32_numeral,
    if_neg (Nat.not_lt.mpr h)]
  exact ⟨_, rfl⟩

/-- The process of the agent and the idle time have no bound of their own. -/
theorem check_unbounded {key : Bytes} (hkey : key ∈ [ascii "client_pid", ascii "user_idle_seconds"])
    {n : Nat} (h : n < 2 ^ 32) :
    checkFact s ⟨key, numeral n⟩ = .ok { s with hasNonCredential := true } := by
  have hknown : ∀ key ∈ [ascii "client_pid", ascii "user_idle_seconds"], key ∈ knownNumericKeys := by
    decide
  rw [checkFact_numeral s (hknown key hkey) h]
  simp only [List.mem_cons, List.not_mem_nil, or_false] at hkey
  rcases hkey with rfl | rfl
  · rfl
  · rfl

theorem check_total {n : Nat} (h : n < 2 ^ 32) (hpos : n ≠ 0) :
    checkFact s ⟨ascii "memory_total_mb", numeral n⟩ =
      .ok { s with hasNonCredential := true, totalMb := some (UInt32.ofNat n) } := by
  have hne : UInt32.ofNat n ≠ 0 := by
    intro hzero
    have := congrArg UInt32.toNat hzero
    rw [UInt32.toNat_ofNat_of_lt' h] at this
    exact hpos this
  rw [checkFact_numeral s (by decide) h, checkNumber, if_pos rfl, if_neg hne]

/-- A total below 1 MiB, or one of 4 PiB or more. -/
theorem check_total_bad {n : Nat} (h : n = 0 ∨ 2 ^ 32 ≤ n) :
    ∃ e, checkFact s ⟨ascii "memory_total_mb", numeral n⟩ = .error e := by
  rcases h with rfl | h
  · rw [checkFact_numeral s (by decide) (by decide)]
    exact ⟨_, rfl⟩
  · exact checkFact_numeral_big s (by decide) h

theorem check_available {n : Nat} (h : n < 2 ^ 32) :
    checkFact s ⟨ascii "memory_available_mb", numeral n⟩ =
      .ok { s with hasNonCredential := true, availableMb := some (UInt32.ofNat n) } := by
  rw [checkFact_numeral s (by decide) h]
  rfl

theorem check_load {n : Nat} (h : n ≤ 100) :
    checkFact s ⟨ascii "memory_load_percent", numeral n⟩ = .ok { s with hasNonCredential := true } := by
  have hbits : n < 2 ^ 32 := by omega
  have hsmall : ¬ UInt32.ofNat n > 100 := by
    rw [gt_iff_lt, UInt32.lt_iff_toNat_lt, UInt32.toNat_ofNat_of_lt' hbits]
    exact Nat.not_lt.mpr h
  rw [checkFact_numeral s (by decide) hbits, checkNumber, if_neg (by decide), if_neg (by decide),
    if_neg (fun hload => hsmall hload.2), if_neg (fun hpid => absurd hpid.1 (by decide))]

theorem check_foreground (pid : UInt32) :
    checkFact s ⟨ascii "foreground_pid", numeral pid.toNat⟩ =
      if pid = 0 then .error (factsValidationError "foreground_pid 必须 >= 1")
      else .ok { s with hasNonCredential := true } := by
  rw [checkFact_numeral s (by decide) pid.toNat_lt, UInt32.ofNat_toNat, checkNumber, if_neg (by decide),
    if_neg (by decide), if_neg (fun hload => absurd hload.1 (by decide))]
  by_cases hpid : pid = 0
  · rw [if_pos ⟨rfl, hpid⟩, if_pos hpid]
  · rw [if_neg (fun h => hpid h.2), if_neg hpid]

theorem check_observer : checkFact s ⟨ascii "observer", ascii "CppOptimizer agent demo"⟩ =
    .ok { s with hasNonCredential := true } := by
  unfold checkFact
  dsimp only
  rw [if_neg (by decide), if_pos rfl, if_neg (by decide)]

theorem check_token {token : WideText} (h : NarrowToken token) :
    checkFact s ⟨kFactsTokenKey, narrow token⟩ = .ok s := by
  have hfits : ¬ (narrow token = [] ∨ (narrow token).length > kMaxFactsTokenBytes) := by
    rw [not_or]
    exact ⟨h.nonempty, Nat.not_lt.mpr h.short⟩
  unfold checkFact
  dsimp only
  rw [if_pos (show kFactsTokenKey = ascii "agent_token" from rfl), if_neg hfits,
    if_pos (List.all_eq_true.mpr h.chars)]

end Received

section Schema

variable (agent : Agent) {memory : MemoryStatus} (probes : AgentProbes)

/-- What the host can read of a report. -/
structure Receivable (memory : MemoryStatus) (probes : AgentProbes) : Prop where
  /-- From 1 MiB on, and below 4 PiB. -/
  total : 2 ^ 20 ≤ memory.totalPhysicalBytes.toNat ∧ memory.totalPhysicalBytes.toNat < 2 ^ 52
  foreground : ∀ sample, probes.foreground = .ok sample → sample.hasWindow = true → sample.pid ≠ 0

/-- `BuildMemoryStatus` has checked the reading. -/
structure Checked (memory : MemoryStatus) : Prop where
  available : memory.availablePhysicalBytes ≤ memory.totalPhysicalBytes
  load : memory.memoryLoadPercent ≤ 100

theorem checked_of_query {native : Except Nat NativeMemoryStatus}
    (h : queryMemoryStatus native = .ok memory) : Checked memory := by
  unfold queryMemoryStatus buildMemoryStatus at h
  split at h
  · cases h
  · split at h
    · cases h
    · split at h
      · cases h
      · case _ havailable =>
        split at h
        · cases h
        · case _ hload =>
          cases h
          exact ⟨UInt64.not_lt.mp havailable, UInt32.not_lt.mp hload⟩

/-- The state of the schema loop after the memory facts. -/
def memoryState (memory : MemoryStatus) : SchemaState where
  hasNonCredential := true
  totalMb := some (UInt32.ofNat (memory.totalPhysicalBytes.toNat / (1024 * 1024)))
  availableMb := some (UInt32.ofNat (memory.availablePhysicalBytes.toNat / (1024 * 1024)))

theorem foldlM_memoryFacts (hchecked : Checked memory) (hlow : 2 ^ 20 ≤ memory.totalPhysicalBytes.toNat)
    (hhigh : memory.totalPhysicalBytes.toNat < 2 ^ 52) (facts : List IpcFact) :
    (memoryFacts agent memory ++ facts).foldlM checkFact {} = facts.foldlM checkFact (memoryState memory) := by
  have havailable := UInt64.le_iff_toNat_le.mp hchecked.available
  have hload : memory.memoryLoadPercent.toNat ≤ 100 := UInt32.le_iff_toNat_le.mp hchecked.load
  rw [memoryFacts, List.cons_append, List.foldlM_cons, check_unbounded _ (by decide) agent.processId.toNat_lt]
  show List.foldlM _ _ _ = _
  rw [List.cons_append, List.foldlM_cons, check_total _ (by omega) (by omega)]
  show List.foldlM _ _ _ = _
  rw [List.cons_append, List.foldlM_cons, check_available _ (by omega)]
  show List.foldlM _ _ _ = _
  rw [List.cons_append, List.foldlM_cons, check_load _ hload]
  rfl

theorem foldlM_bad_total (hbad : ¬ (2 ^ 20 ≤ memory.totalPhysicalBytes.toNat ∧
      memory.totalPhysicalBytes.toNat < 2 ^ 52)) (facts : List IpcFact) :
    ∃ e, (memoryFacts agent memory ++ facts).foldlM checkFact {} = .error e := by
  obtain ⟨e, he⟩ := check_total_bad { hasNonCredential := true }
    (show memory.totalPhysicalBytes.toNat / (1024 * 1024) = 0 ∨
      2 ^ 32 ≤ memory.totalPhysicalBytes.toNat / (1024 * 1024) by omega)
  refine ⟨e, ?_⟩
  rw [memoryFacts, List.cons_append, List.foldlM_cons, check_unbounded _ (by decide) agent.processId.toNat_lt]
  show List.foldlM _ _ _ = _
  rw [List.cons_append, List.foldlM_cons, he]
  rfl

variable (memory)

theorem check_idleFacts {fact : IpcFact} (hfact : fact ∈ idleFacts probes.input) :
    checkFact (memoryState memory) fact = .ok (memoryState memory) := by
  unfold idleFacts at hfact
  split at hfact
  · cases hfact
  · case _ sample _ =>
    rw [List.mem_singleton] at hfact
    subst hfact
    exact check_unbounded _ (by decide) (idleSeconds_lt sample.nowTick sample.lastInputTick)

theorem check_tokenFacts {fact : IpcFact} (hfact : fact ∈ tokenFacts agent.token) :
    checkFact (memoryState memory) fact = .ok (memoryState memory) := by
  unfold tokenFacts at hfact
  split at hfact
  · cases hfact
  · case _ token _ =>
    rw [List.mem_singleton] at hfact
    subst hfact
    exact check_token _ (narrow_token token.property)

/-- The process in front passes the schema, unless it is process `0`. -/
theorem check_foregroundFacts {fact : IpcFact} (hfact : fact ∈ foregroundFacts probes.foreground) :
    ∃ sample, probes.foreground = .ok sample ∧ sample.hasWindow = true ∧
      checkFact (memoryState memory) fact =
        if sample.pid = 0 then .error (factsValidationError "foreground_pid 必须 >= 1")
        else .ok (memoryState memory) := by
  unfold foregroundFacts at hfact
  split at hfact
  · cases hfact
  · case _ sample hsample =>
    split at hfact
    · case _ hwindow =>
      rw [List.mem_singleton] at hfact
      subst hfact
      exact ⟨sample, hsample, hwindow, check_foreground _ sample.pid⟩
    · cases hfact

variable {memory}

theorem schema_memoryState (hchecked : Checked memory)
    (hhigh : memory.totalPhysicalBytes.toNat < 2 ^ 52) {facts : List IpcFact}
    (hfold : facts.foldlM checkFact {} = .ok (memoryState memory)) : validateFactsV1Schema facts = .ok () := by
  have havailable := UInt64.le_iff_toNat_le.mp hchecked.available
  have hle : ¬ UInt32.ofNat (memory.availablePhysicalBytes.toNat / (1024 * 1024)) >
      UInt32.ofNat (memory.totalPhysicalBytes.toNat / (1024 * 1024)) := by
    rw [gt_iff_lt, UInt32.lt_iff_toNat_lt,
      UInt32.toNat_ofNat_of_lt' (show memory.totalPhysicalBytes.toNat / (1024 * 1024) < 2 ^ 32 by omega),
      UInt32.toNat_ofNat_of_lt' (show memory.availablePhysicalBytes.toNat / (1024 * 1024) < 2 ^ 32 by omega)]
    exact Nat.not_lt.mpr (Nat.div_le_div_right havailable)
  unfold validateFactsV1Schema
  rw [hfold]
  dsimp only [memoryState]
  rw [if_neg hle, if_neg (fun h => nomatch h)]

theorem schema_error (facts : List IpcFact) {e : Error} (hfold : facts.foldlM checkFact {} = .error e) :
    ∃ e, validateFactsV1Schema facts = .error e := by
  unfold validateFactsV1Schema
  rw [hfold]
  exact ⟨e, rfl⟩

/-- The host accepts a report exactly when it can read it. -/
theorem schema_iff (hchecked : Checked memory) :
    validateFactsV1Schema (agentFacts agent memory probes) = .ok () ↔ Receivable memory probes := by
  have hsplit := agentFacts_split agent memory probes
  have hidle := foldlM_still fun fact hfact => check_idleFacts memory probes hfact
  constructor
  · intro hok
    by_cases htotal : 2 ^ 20 ≤ memory.totalPhysicalBytes.toNat ∧ memory.totalPhysicalBytes.toNat < 2 ^ 52
    · refine ⟨htotal, fun sample hsample hwindow hpid => ?_⟩
      have hforeground : foregroundFacts probes.foreground =
          [⟨ascii "foreground_pid", numeral sample.pid.toNat⟩] := by
        rw [hsample, foregroundFacts, if_pos hwindow]
      have hfold : (agentFacts agent memory probes).foldlM checkFact {} =
          .error (factsValidationError "foreground_pid 必须 >= 1") := by
        rw [hsplit, foldlM_memoryFacts agent hchecked htotal.1 htotal.2, List.foldlM_append, hidle,
          hforeground]
        show List.foldlM _ _ _ = _
        rw [List.cons_append, List.foldlM_cons, check_foreground, if_pos hpid]
        rfl
      obtain ⟨e, he⟩ := schema_error _ hfold
      rw [he] at hok
      cases hok
    · obtain ⟨e, he⟩ := foldlM_bad_total agent htotal (idleFacts probes.input ++
        (foregroundFacts probes.foreground ++ (⟨ascii "observer", ascii "CppOptimizer agent demo"⟩ ::
          tokenFacts agent.token)))
      rw [← hsplit] at he
      obtain ⟨e', he'⟩ := schema_error _ he
      rw [he'] at hok
      cases hok
  · intro hreceivable
    have hforeground : (foregroundFacts probes.foreground).foldlM checkFact (memoryState memory) =
        .ok (memoryState memory) := by
      refine foldlM_still fun fact hfact => ?_
      obtain ⟨sample, hsample, hwindow, hcheck⟩ := check_foregroundFacts memory probes hfact
      rw [hcheck, if_neg (hreceivable.foreground sample hsample hwindow)]
    have htoken := foldlM_still fun fact hfact => check_tokenFacts agent memory hfact
    refine schema_memoryState hchecked hreceivable.total.2 ?_
    rw [hsplit, foldlM_memoryFacts agent hchecked hreceivable.total.1 hreceivable.total.2,
      List.foldlM_append, hidle]
    show List.foldlM _ _ _ = _
    rw [List.foldlM_append, hforeground]
    show List.foldlM _ _ _ = _
    rw [List.foldlM_cons, check_observer]
    exact htoken

end Schema

/-! ## The token -/

section Token

theorem tokenMatches_narrow {token expected : WideText} (h : TokenText token) :
    tokenMatches (narrow token) expected = true ↔ token = expected := by
  constructor
  · intro hmatch
    rw [← (narrow_token h).widened]
    exact tokenMatches_eq hmatch
  · rintro rfl
    have hpairs : ∀ ch ∈ token, ch ≤ 0x7F ∧ ch.toUInt8.toUInt16 = ch := by
      intro ch hch
      have hchar := h.chars ch hch
      refine ⟨?_, widen_tokenChar hchar⟩
      simp only [isAsciiTokenChar, Bool.or_eq_true, Bool.and_eq_true, decide_eq_true_eq, beq_iff_eq,
        UInt16.le_iff_toNat_le, ← UInt16.toNat_inj, UInt16.reduceToNat] at hchar ⊢
      omega
    have hzip : (narrow token).zip token = token.map fun ch => (ch.toUInt8, ch) := by
      have hpair := List.zip_map' (l := token) (f := UInt16.toUInt8) (g := id)
      rwa [List.map_id] at hpair
    rw [tokenMatches, hzip, List.all_map, Bool.and_eq_true, beq_iff_eq, List.all_eq_true]
    refine ⟨List.length_map .., fun ch hch => ?_⟩
    rw [Function.comp_apply, Bool.and_eq_true, decide_eq_true_eq, beq_iff_eq]
    exact hpairs ch hch

variable (agent : Agent) (memory : MemoryStatus) (probes : AgentProbes)

/-- The token in a report is the agent's own. -/
theorem any_token_iff (expected : WideText) :
    ((agentFacts agent memory probes).any fun fact =>
        fact.key == kFactsTokenKey && tokenMatches fact.value expected) = true ↔
      agent.token.map Subtype.val = some expected := by
  have hfront : ((observedFacts agent memory probes).any fun fact =>
      fact.key == kFactsTokenKey && tokenMatches fact.value expected) = false := by
    rw [List.any_eq_false]
    intro fact hfact hmatch
    rw [Bool.and_eq_true, beq_iff_eq] at hmatch
    have hkey := (observedFacts_keys agent memory probes).subset (List.mem_map_of_mem hfact)
    rw [hmatch.1] at hkey
    exact absurd hkey (by decide)
  rw [agentFacts, List.any_append, hfront, Bool.false_or]
  cases agent.token with
  | none => simp [tokenFacts]
  | some token => simp [tokenFacts, tokenMatches_narrow token.property]

end Token

/-! ## The report -/

section Report

variable (agent : Agent) (probes : AgentProbes) (expectedToken : WideText)

/-- The fact of a key, where the rest of the report has other keys. -/
theorem numericFactValue_middle {before middle after : List IpcFact} {key : Bytes}
    (hbefore : ∀ fact ∈ before, fact.key ≠ key) (hafter : ∀ fact ∈ after, fact.key ≠ key) :
    numericFactValue (before ++ middle ++ after) key = numericFactValue middle key := by
  have hnone : ∀ facts : List IpcFact, (∀ fact ∈ facts, fact.key ≠ key) →
      facts.find? (·.key = key) = none := by
    intro facts hfacts
    rw [List.find?_eq_none]
    intro fact hfact hkey
    exact hfacts fact hfact (of_decide_eq_true hkey)
  unfold numericFactValue
  rw [List.find?_append, List.find?_append, hnone before hbefore, hnone after hafter, Option.none_or,
    Option.or_none]

/-- What the host learns of the user from the facts of a report. -/
structure Learned (facts : List IpcFact) : Prop where
  idle : numericFactValue facts (ascii "user_idle_seconds") =
    probes.input.toOption.map fun sample =>
      UInt32.ofNat ((idleMilliseconds sample.nowTick sample.lastInputTick).tdiv 1000).toNat
  foreground : numericFactValue facts (ascii "foreground_pid") =
    (probes.foreground.toOption.filter ForegroundSample.hasWindow).map ForegroundSample.pid

/-- One cycle of the agent against a host that expects a token. -/
structure AgentReported : Prop where
  /-- Without a reading of the memory there is no request, and no id is taken. -/
  silent : ∀ e, queryMemoryStatus probes.native = .error e → buildRequest agent probes = (.error e, agent)
  /-- With one there is a request under the next id, and the host reads the facts that were written. -/
  built : ∀ memory, queryMemoryStatus probes.native = .ok memory → ∃ payload,
    buildRequest agent probes =
      (.ok { type := .factsSnapshot, requestId := agent.nextRequestId + 1, payload := payload },
        { agent with nextRequestId := agent.nextRequestId + 1 }) ∧
    parseFactsV1 payload = .ok (agentFacts agent memory probes) ∧
    Learned probes (agentFacts agent memory probes) ∧
    ∀ request : IpcRequest, request.type = .factsSnapshot → request.payload = payload →
      ∃ reply, defaultHandler expectedToken request = .ok reply ∧
        (reply.type = .ack ↔ Receivable memory probes ∧
          (expectedToken = [] ∨ agent.token.map Subtype.val = some expectedToken)) ∧
        (reply.type ≠ .ack → reply.IsError)

theorem memoryFacts_key {memory : MemoryStatus} : ∀ fact ∈ memoryFacts agent memory, fact.key ∈
    [ascii "client_pid", ascii "memory_total_mb", ascii "memory_available_mb", ascii "memory_load_percent"] :=
  fun _ hfact => List.mem_map_of_mem hfact

theorem idleFacts_key {input : Result InputActivitySample} :
    ∀ fact ∈ idleFacts input, fact.key = ascii "user_idle_seconds" := by
  intro fact hfact
  unfold idleFacts at hfact
  split at hfact
  · cases hfact
  · rw [List.mem_singleton.mp hfact]

theorem foregroundFacts_key {foreground : Result ForegroundSample} :
    ∀ fact ∈ foregroundFacts foreground, fact.key = ascii "foreground_pid" := by
  intro fact hfact
  unfold foregroundFacts at hfact
  split at hfact
  · cases hfact
  · split at hfact
    · rw [List.mem_singleton.mp hfact]
    · cases hfact

/-- The observer and the token. -/
theorem closingFacts_key :
    ∀ fact ∈ ⟨ascii "observer", ascii "CppOptimizer agent demo"⟩ :: tokenFacts agent.token,
      fact.key ∈ [ascii "observer", kFactsTokenKey] := by
  intro fact hfact
  rw [List.mem_cons] at hfact
  rcases hfact with rfl | hfact
  · exact List.mem_cons_self
  · unfold tokenFacts at hfact
    split at hfact
    · cases hfact
    · rw [List.mem_singleton.mp hfact]
      exact List.mem_cons_of_mem _ List.mem_cons_self

theorem learned (memory : MemoryStatus) : Learned probes (agentFacts agent memory probes) := by
  have hmemory := @memoryFacts_key agent memory
  have hclosing := closingFacts_key agent
  constructor
  · rw [agentFacts_split, ← List.append_assoc, numericFactValue_middle]
    · cases probes.input with
      | error e => rfl
      | ok sample =>
        have hparse := parseUint32_numeral
          ((idleMilliseconds sample.nowTick sample.lastInputTick).tdiv 1000).toNat
        rw [if_pos (idleSeconds_lt sample.nowTick sample.lastInputTick)] at hparse
        simpa [numericFactValue, idleFacts, Except.toOption] using hparse
    · intro fact hfact hkey
      exact absurd (hkey ▸ hmemory fact hfact) (by decide)
    · intro fact hfact hkey
      rcases List.mem_append.mp hfact with hforeground | hclose
      · exact absurd (hkey ▸ foregroundFacts_key fact hforeground) (by decide)
      · exact absurd (hkey ▸ hclosing fact hclose) (by decide)
  · rw [agentFacts_split, ← List.append_assoc, ← List.append_assoc, numericFactValue_middle]
    · cases probes.foreground with
      | error e => rfl
      | ok sample =>
        have hparse := parseUint32_numeral sample.pid.toNat
        rw [if_pos sample.pid.toNat_lt, UInt32.ofNat_toNat] at hparse
        cases hwindow : sample.hasWindow with
        | false => simp [numericFactValue, foregroundFacts, hwindow, Except.toOption, Option.filter]
        | true =>
          simpa [numericFactValue, foregroundFacts, hwindow, Except.toOption, Option.filter] using hparse
    · intro fact hfact hkey
      rcases List.mem_append.mp hfact with hmem | hidle
      · exact absurd (hkey ▸ hmemory fact hmem) (by decide)
      · exact absurd (hkey ▸ idleFacts_key fact hidle) (by decide)
    · intro fact hfact hkey
      exact absurd (hkey ▸ hclosing fact hfact) (by decide)

/-- When the host acknowledges the facts of a report. -/
theorem report_acknowledged {memory : MemoryStatus} (hchecked : Checked memory) {request : IpcRequest}
    (htype : request.type = .factsSnapshot)
    (hparse : parseFactsV1 request.payload = .ok (agentFacts agent memory probes)) :
    ∃ reply, defaultHandler expectedToken request = .ok reply ∧
      (reply.type = .ack ↔ Receivable memory probes ∧
        (expectedToken = [] ∨ agent.token.map Subtype.val = some expectedToken)) := by
  have hschema := schema_iff agent probes hchecked
  have htoken := any_token_iff agent memory probes expectedToken
  unfold defaultHandler
  rw [htype]
  dsimp only
  rw [hparse]
  dsimp only
  cases hvalid : validateFactsV1Schema (agentFacts agent memory probes) with
  | error e =>
    rw [hvalid] at hschema
    refine ⟨_, rfl, (fun hack => nomatch hack), fun hgood => ?_⟩
    exact absurd (hschema.mpr hgood.1) (fun h => nomatch h)
  | ok u =>
    have hreceivable : Receivable memory probes := hschema.mp hvalid
    dsimp only
    split
    · case _ hrefused =>
      refine ⟨_, rfl, (fun hack => nomatch hack), fun hgood => ?_⟩
      rcases hgood.2 with hnil | hmatch
      · exact absurd hnil hrefused.1
      · exact absurd (htoken.mpr hmatch) hrefused.2
    · case _ hlet =>
      refine ⟨_, rfl, fun _ => ⟨hreceivable, ?_⟩, fun _ => rfl⟩
      by_cases hnil : expectedToken = []
      · exact .inl hnil
      · exact .inr (htoken.mp (Classical.not_not.mp fun hno => hlet ⟨hnil, hno⟩))

/-- The answer of the host to the facts of a report. -/
theorem report_answered {memory : MemoryStatus} (hchecked : Checked memory) {request : IpcRequest}
    (htype : request.type = .factsSnapshot)
    (hparse : parseFactsV1 request.payload = .ok (agentFacts agent memory probes)) :
    ∃ reply, defaultHandler expectedToken request = .ok reply ∧
      (reply.type = .ack ↔ Receivable memory probes ∧
        (expectedToken = [] ∨ agent.token.map Subtype.val = some expectedToken)) ∧
      (reply.type ≠ .ack → reply.IsError) := by
  obtain ⟨reply, hreply, hack⟩ :=
    report_acknowledged agent probes expectedToken hchecked htype hparse
  exact ⟨reply, hreply, hack, fun hne => (defaultHandler_facts hreply htype).resolve_left fun h => hne h.1⟩

/-- From the probes of the agent to the answer of the host. -/
theorem agent_report_received : AgentReported agent probes expectedToken := by
  refine ⟨fun e he => ?_, fun memory hmemory => ?_⟩
  · rw [buildRequest, he]
  · obtain ⟨payload, hwritten, hread⟩ := serializeFactsV1_agentFacts agent memory probes
    refine ⟨payload, ?_, hread, learned agent probes memory, fun request htype hpayload => ?_⟩
    · rw [buildRequest, hmemory]
      dsimp only
      rw [hwritten]
    · subst hpayload
      exact report_answered agent probes expectedToken (checked_of_query hmemory) htype hread

/-- After a provision, an agent and a host that read the store agree on the token: the host answers to
what it can read alone. -/
theorem provisioned_answered {path : WideText} {force : Bool} {before after : TokenStore}
    {cs : List TokenChoice}
    (hrun : (provisionAgentTokenFile path force).run tokenHandler before cs = (after, some (.ok ())))
    {works works' : List Bool} {token : AgentToken}
    (hagent : storedAgentToken after none (true :: works) = .ok token) (htoken : agent.token = some token)
    (hhost : readAgentTokenFile after none (true :: works') = .ok expectedToken)
    {memory : MemoryStatus} (hchecked : Checked memory) {request : IpcRequest}
    (htype : request.type = .factsSnapshot)
    (hparse : parseFactsV1 request.payload = .ok (agentFacts agent memory probes)) :
    ∃ reply, defaultHandler expectedToken request = .ok reply ∧
      (reply.type = .ack ↔ Receivable memory probes) ∧ (reply.type ≠ .ack → reply.IsError) := by
  have hdone : Provisioned (after, provisionLog path force before cs) :=
    (if_pos rfl).mp (provision_ends hrun)
  generalize provisionLog path force before cs = log at hdone
  obtain ⟨bytes, userSid, huser, hdrawn⟩ := hdone
  have hmine := storedAgentToken_ok hagent
  rw [read_whole] at hmine hhost
  have hsame : agent.token.map Subtype.val = some expectedToken := by
    rw [htoken, Option.map_some, ← Except.ok.inj hmine, Except.ok.inj hhost]
  obtain ⟨reply, hreply, hack, herror⟩ :=
    report_answered agent probes expectedToken hchecked htype hparse
  exact ⟨reply, hreply, hack.trans ⟨fun h => h.1, fun h => ⟨h, .inr hsame⟩⟩, herror⟩

end Report

end Ipc
end CppOptimizer
