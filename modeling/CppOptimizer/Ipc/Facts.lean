import CppOptimizer.Ipc.Protocol

/-!
# CppOptimizer.Ipc.Facts

The payload of a facts snapshot (`ipc_facts.cpp`): an envelope line and one `key=value` per line,
first by its syntax (`parseFactsV1`), then by the keys it may hold (`validateFactsV1Schema`), and the
summary that is sent back (`formatFactsSummary`).
-/

namespace CppOptimizer
namespace Ipc

open Common

def kFactsEnvelopeV1 : Bytes := ascii "CPOPFACTS/1"
def kFactsTokenKey : Bytes := ascii "agent_token"
def kMaxFactsTokenBytes : Nat := 64
def kMaxFactsEntries : Nat := 64
def kMaxFactsKeyBytes : Nat := 64
def kMaxFactsValueBytes : Nat := 128
def kFactsSummaryMaxBytes : Nat := 480

structure IpcFact where
  key : Bytes
  value : Bytes
  deriving DecidableEq, Repr

/-! ## Characters -/

def isDigit (c : UInt8) : Bool := 0x30 ≤ c && c ≤ 0x39

def isAsciiAlnum (c : UInt8) : Bool :=
  (0x61 ≤ c && c ≤ 0x7A) || (0x41 ≤ c && c ≤ 0x5A) || isDigit c

/-- Letters, digits, `_` and `-`. -/
def isAsciiKeyChar (c : UInt8) : Bool := isAsciiAlnum c || c == 0x5F || c == 0x2D

def hasControlByte (text : Bytes) : Bool := text.any fun c => c < 0x20 || c == 0x7F

/-- `std::wstring(key.begin(), key.end())` in a message. -/
def widen (text : Bytes) : String := String.ofList (text.map fun c => Char.ofNat c.toNat)

def factsValidationError (message : String) : Error := .validation "FactsV1" message

/-! ## Syntax -/

def validateKey (key : Bytes) : Option String :=
  if key = [] then some "键为空"
  else if key.length > kMaxFactsKeyBytes then some "键超过长度上限"
  else if hasControlByte key then some "键含控制字符"
  else if key.all isAsciiKeyChar then none
  else some "键含非法字符（仅 ASCII 字母/数字/_/-）"

def validateValue (value : Bytes) : Option String :=
  if value.length > kMaxFactsValueBytes then some "值超过长度上限"
  else if hasControlByte value then some "值含控制字符"
  else none

/-- The loop over the lines after the envelope. -/
def parseFactLines : List Bytes → List IpcFact → Result (List IpcFact)
  | [], facts => .ok facts
  | line :: lines, facts =>
    if facts.length ≥ kMaxFactsEntries then .error (factsValidationError "事实条数超过上限")
    else if ¬ line.contains 0x3D then .error (factsValidationError "事实行缺少 '='")
    else
      let key := line.takeWhile (· ≠ 0x3D)
      let fact : IpcFact := { key := key, value := line.drop (key.length + 1) }
      match validateKey fact.key with
      | some message => .error (factsValidationError message)
      | none =>
        match validateValue fact.value with
        | some message => .error (factsValidationError message)
        | none =>
          if facts.any (·.key = fact.key) then .error (factsValidationError "重复键")
          else parseFactLines lines (facts ++ [fact])

def parseFactsV1 (payload : Bytes) : Result (List IpcFact) :=
  if payload = [] then .error (factsValidationError "空载荷")
  else if payload.contains 0x0D then .error (factsValidationError "载荷含 CR（行尾只允许 LF）")
  else
    let lines := payload.splitOn 0x0A
    if lines.any (· = []) then .error (factsValidationError "载荷含空行或尾随换行")
    else
      match lines with
      | [] => .error (factsValidationError "首行信封必须为 CPOPFACTS/1")
      | front :: lines =>
        if front ≠ kFactsEnvelopeV1 then
          .error (factsValidationError "首行信封必须为 CPOPFACTS/1")
        else parseFactLines lines []

theorem parseFactLines_length {lines : List Bytes} {facts parsed : List IpcFact}
    (h : parseFactLines lines facts = .ok parsed) (hfacts : facts.length ≤ kMaxFactsEntries) :
    parsed.length ≤ kMaxFactsEntries := by
  induction lines generalizing facts with
  | nil =>
    cases h
    exact hfacts
  | cons line lines ih =>
    simp only [parseFactLines] at h
    split at h
    · cases h
    · case _ hroom =>
      split at h
      · cases h
      · split at h
        · cases h
        · split at h
          · cases h
          · split at h
            · cases h
            · refine ih h ?_
              simp only [List.length_append, List.length_singleton]
              omega

theorem parseFactsV1_length {payload : Bytes} {facts : List IpcFact}
    (h : parseFactsV1 payload = .ok facts) : facts.length ≤ kMaxFactsEntries := by
  simp only [parseFactsV1] at h
  split at h
  · cases h
  · split at h
    · cases h
    · split at h
      · cases h
      · split at h
        · cases h
        · split at h
          · cases h
          · exact parseFactLines_length h (Nat.zero_le _)

/-! ## Keys and values -/

/-- Digits only, at most `UINT32_MAX` after each of them. -/
def parseUint32Digits : Bytes → Nat → Option UInt32
  | [], acc => some (UInt32.ofNat acc)
  | c :: cs, acc =>
    if isDigit c then
      let acc := acc * 10 + (c.toNat - 0x30)
      if acc > 0xFFFFFFFF then none else parseUint32Digits cs acc
    else none

def parseUint32 (text : Bytes) : Option UInt32 :=
  if text = [] then none else parseUint32Digits text 0

/-- `NumericFactValue`: the value of the first fact with the key. -/
def numericFactValue (facts : List IpcFact) (key : Bytes) : Option UInt32 :=
  (facts.find? (·.key = key)).bind fun fact => parseUint32 fact.value

/-- What the schema loop has seen so far. -/
structure SchemaState where
  hasNonCredential : Bool := false
  totalMb : Option UInt32 := none
  availableMb : Option UInt32 := none
  deriving DecidableEq, Repr

def knownNumericKeys : List Bytes :=
  [ascii "client_pid", ascii "memory_total_mb", ascii "memory_available_mb",
    ascii "memory_load_percent", ascii "user_idle_seconds", ascii "foreground_pid"]

def checkFact (s : SchemaState) (fact : IpcFact) : Result SchemaState :=
  if fact.key = ascii "agent_token" then
    if fact.value = [] ∨ fact.value.length > kMaxFactsTokenBytes then
      .error (factsValidationError "agent_token 长度必须 1..64")
    else if fact.value.all isAsciiKeyChar then .ok s
    else .error (factsValidationError "agent_token 含非法字符")
  else if fact.key = ascii "observer" then
    if fact.value = [] then .error (factsValidationError "observer 值不能为空")
    else .ok { s with hasNonCredential := true }
  else if fact.key ∉ knownNumericKeys then
    .error (factsValidationError ("未知事实键：" ++ widen fact.key))
  else
    match parseUint32 fact.value with
    | none =>
      .error (factsValidationError ("键 " ++ widen fact.key ++ " 的值必须是十进制无符号整数"))
    | some numeric =>
      let s := { s with hasNonCredential := true }
      if fact.key = ascii "memory_total_mb" then
        if numeric = 0 then .error (factsValidationError "memory_total_mb 必须 >= 1")
        else .ok { s with totalMb := some numeric }
      else if fact.key = ascii "memory_available_mb" then
        .ok { s with availableMb := some numeric }
      else if fact.key = ascii "memory_load_percent" ∧ numeric > 100 then
        .error (factsValidationError "memory_load_percent 必须 0..100")
      else if fact.key = ascii "foreground_pid" ∧ numeric = 0 then
        .error (factsValidationError "foreground_pid 必须 >= 1")
      else .ok s

def validateFactsV1Schema (facts : List IpcFact) : Result Unit :=
  match facts.foldlM checkFact {} with
  | .error e => .error e
  | .ok s =>
    match s.totalMb, s.availableMb with
    | some totalMb, some availableMb =>
      if availableMb > totalMb then
        .error (factsValidationError "memory_available_mb 不能大于 memory_total_mb")
      else if s.hasNonCredential = false then
        .error (factsValidationError "Facts 不含任何非凭据事实（至少一条已注册键）")
      else .ok ()
    | _, _ =>
      if s.hasNonCredential = false then
        .error (factsValidationError "Facts 不含任何非凭据事实（至少一条已注册键）")
      else .ok ()

/-! ## The summary -/

/-- A blank and the ellipsis in UTF-8. -/
def summaryEllipsis : Bytes := [0x20, 0xE2, 0x80, 0xA6]

/-- The entries that fit; credentials are never shown. -/
def appendEntries : List IpcFact → Bytes → Bytes
  | [], out => out
  | fact :: facts, out =>
    if fact.key = kFactsTokenKey then appendEntries facts out
    else
      let entry := [0x20] ++ fact.key ++ [0x3D] ++ fact.value
      if out.length + entry.length + 3 > kFactsSummaryMaxBytes then out ++ summaryEllipsis
      else appendEntries facts (out ++ entry)

def formatFactsSummary (facts : List IpcFact) : Bytes :=
  let echoable := (facts.filter (·.key ≠ kFactsTokenKey)).length
  let out := ascii "facts ok (" ++ ascii (toString echoable) ++ ascii ")"
  if echoable = 0 then out else appendEntries facts (out ++ ascii ":")

/-- Three bytes are kept for the four of the ellipsis. -/
theorem appendEntries_length {facts : List IpcFact} {out : Bytes}
    (h : out.length + 3 ≤ kFactsSummaryMaxBytes) :
    (appendEntries facts out).length ≤ kFactsSummaryMaxBytes + 1 := by
  induction facts generalizing out with
  | nil =>
    simp only [appendEntries]
    omega
  | cons fact facts ih =>
    simp only [appendEntries]
    split
    · exact ih h
    · split
      · simp only [List.length_append, summaryEllipsis, List.length_cons, List.length_nil]
        omega
      · case _ hfits =>
        apply ih
        simp only [List.length_append, List.length_cons, List.length_nil] at hfits ⊢
        omega

theorem formatFactsSummary_length {facts : List IpcFact} (h : facts.length ≤ kMaxFactsEntries) :
    (formatFactsSummary facts).length ≤ kFactsSummaryMaxBytes + 1 := by
  have hdigits : ∀ n ≤ kMaxFactsEntries, (ascii (toString n)).length ≤ 2 := by decide +kernel
  have hcount : (facts.filter (·.key ≠ kFactsTokenKey)).length ≤ kMaxFactsEntries :=
    Nat.le_trans (List.length_filter_le _ _) h
  have hopen : (ascii "facts ok (").length = 10 := by decide
  have hclose : (ascii ")").length = 1 := by decide
  have hcolon : (ascii ":").length = 1 := by decide
  have hmax : kFactsSummaryMaxBytes = 480 := rfl
  have hcount2 := hdigits _ hcount
  simp only [formatFactsSummary]
  split
  · simp only [List.length_append]
    omega
  · apply appendEntries_length
    simp only [List.length_append]
    omega

end Ipc
end CppOptimizer
