import CppOptimizer.Ipc.Authorization
import CppOptimizer.Ipc.FactsCodec
import CppOptimizer.Lib.Monitor

/-!
# CppOptimizer.Ipc.TokenFile

The store of the agent token (`ipc_credentials.cpp`), which agent and host read separately.

* `provisionAgentTokenFile` — the file steps of a provision or a rotation.
* `readAgentTokenFile`      — the reader, over the `ReadFile` calls that work.
* `Drawn`                   — the answer of the random source in a run.
* `ProvisionLeaves`         — what is in the store after a run, killed or not.
* `provision_leaves`        — it is; after a success both sides read exactly the new token.

The file is truncated before the token is written, and its access list is restricted after that. A
beginning of a token reads like a token.
-/

namespace CppOptimizer
namespace Ipc

open Common Lib

/-! ## The token -/

def kTokenLength : Nat := 32
def kTokenAlphabet : Bytes := ascii "ABCDEFGHIJKLMNOPQRSTUVWXYZabcdefghijklmnopqrstuvwxyz0123456789"

/-- The random bytes, each mapped modulo the 62 letters. -/
def generateRandomToken (bytes : Fin kTokenLength → UInt8) : WideText :=
  List.ofFn fun i => (kTokenAlphabet.getD ((bytes i).toNat % 62) 0).toUInt16

def isAsciiTokenChar (ch : UInt16) : Bool :=
  (0x61 ≤ ch && ch ≤ 0x7A) || (0x41 ≤ ch && ch ≤ 0x5A) || (0x30 ≤ ch && ch ≤ 0x39) ||
    ch == 0x5F || ch == 0x2D

/-- `static_cast<char>` of every unit. -/
def narrow (token : WideText) : Bytes := token.map UInt16.toUInt8

def provisionError (message : String) : Error := .validation "IpcCredentials" message

/-! ## Provision -/

structure TokenFile where
  bytes : Bytes := []
  /-- The access list it was given, `none` where it has the one of its directory. -/
  dacl : Option String := none
  deriving DecidableEq, Repr

structure TokenStore where
  file : Option TokenFile := none
  deriving DecidableEq, Repr

inductive TokenCall where
  /-- A query that fails says no. -/
  | exists
  | createDirectories
  | random
  /-- `CREATE_ALWAYS`. -/
  | createFile
  | writeFile (bytes : Bytes)
  /-- `CurrentUserSid`, empty where one of its steps fails. -/
  | currentUserSid
  | parseSddl (sddl : String)
  | setFileSecurity (sddl : String)

def TokenCall.Answer : TokenCall → Type
  | .exists => Bool
  | .createDirectories => Bool
  | .random => Option (Fin kTokenLength → UInt8)
  | .createFile => Option Nat
  | .writeFile _ => Option Nat
  | .currentUserSid => String
  | .parseSddl _ => Option Nat
  | .setFileSecurity _ => Option Nat

abbrev TokenProg := Prog TokenCall TokenCall.Answer

namespace TokenProg

def exists? : TokenProg Bool := Prog.perform TokenCall.exists
def createDirectories : TokenProg Bool := Prog.perform TokenCall.createDirectories
def random : TokenProg (Option (Fin kTokenLength → UInt8)) := Prog.perform TokenCall.random
def createFile : TokenProg (Option Nat) := Prog.perform TokenCall.createFile
def writeFile (bytes : Bytes) : TokenProg (Option Nat) := Prog.perform (TokenCall.writeFile bytes)
def currentUserSid : TokenProg String := Prog.perform TokenCall.currentUserSid
def parseSddl (sddl : String) : TokenProg (Option Nat) := Prog.perform (TokenCall.parseSddl sddl)
def setFileSecurity (sddl : String) : TokenProg (Option Nat) :=
  Prog.perform (TokenCall.setFileSecurity sddl)

end TokenProg

open TokenProg

/-- The code of the step that fails. -/
def writeTokenFile (token : WideText) : TokenProg (Option Nat) := do
  match ← createFile with
  | some code => pure (some code)
  | none => writeFile (narrow token)

/-- Full access for the system and for the user, nothing inherited. -/
def tokenSddl (userSid : String) : String := "D:P(A;;FA;;;SY)(A;;FA;;;" ++ userSid ++ ")"

def restrictFileDacl : TokenProg (Result Unit) := do
  let userSid ← currentUserSid
  if userSid = "" then pure (.error (.validation "RestrictFileDacl" "无法解析当前用户 SID"))
  else do
    match ← parseSddl (tokenSddl userSid) with
    | some code =>
      pure (.error (.fromWin32 code "ConvertStringSecurityDescriptorToSecurityDescriptorW"))
    | none => do
      match ← setFileSecurity (tokenSddl userSid) with
      | some code => pure (.error (.fromWin32 code "SetFileSecurityW"))
      | none => pure (.ok ())

def provisionAgentTokenFile (path : WideText) (force : Bool) : TokenProg (Result Unit) := do
  if path = [] then pure (.error (provisionError "token 存储路径为空"))
  else do
    let there ← exists?
    if there = true ∧ force = false then
      pure (.error (provisionError "token 存储已存在（幂等；轮换请用 force）"))
    else do
      let created ← createDirectories
      if created = false then pure (.error (provisionError "创建 token 存储父目录失败"))
      else do
        match ← random with
        | none => pure (.error (provisionError "随机 token 生成失败"))
        | some bytes => do
          match ← writeTokenFile (generateRandomToken bytes) with
          | some code => pure (.error (.fromWin32 code "WriteFile(token)"))
          | none => restrictFileDacl

/-- What happens at a call: the code of a failure, whose process it is, what the random source gives,
how much of a write gets through before it fails. -/
structure TokenChoice where
  failure : Option Nat := none
  userSid : String := ""
  random : Option (Fin kTokenLength → UInt8) := none
  written : Nat := 0

/-- A file that is there keeps its access list when it is truncated. -/
def tokenHandler : Lib.Handler TokenCall TokenCall.Answer TokenStore TokenChoice where
  answer s
    | .exists, c => (s.file.isSome && c.failure.isNone, s)
    | .createDirectories, c => (c.failure.isNone, s)
    | .random, c => (c.random, s)
    | .createFile, c =>
      match c.failure with
      | some code => (some code, s)
      | none => (none, { file := some { bytes := [], dacl := s.file.bind TokenFile.dacl } })
    | .writeFile bytes, c =>
      match c.failure with
      | some code => (some code, { file := s.file.map fun f => { f with bytes := bytes.take c.written } })
      | none => (none, { file := s.file.map fun f => { f with bytes := bytes } })
    | .currentUserSid, c => (c.userSid, s)
    | .parseSddl _, c => (c.failure, s)
    | .setFileSecurity sddl, c =>
      match c.failure with
      | some code => (some code, s)
      | none => (none, { file := s.file.map fun f => { f with dacl := some sddl } })

/-! ## Reading -/

/-- The loop of `ReadFile` calls of 64 bytes, each with whether it works; one that fails ends it. -/
def readTokenBytes : List Bool → Bytes → Bytes → Bytes
  | true :: works, rest, out =>
    if rest = [] then out else readTokenBytes works (rest.drop 64) (out ++ rest.take 64)
  | _, _, out => out

def isTokenBlank (ch : UInt8) : Bool := ch == 0x0D || ch == 0x0A || ch == 0x20 || ch == 0x09

def popBlanks (bytes : Bytes) : Bytes := (bytes.reverse.dropWhile isTokenBlank).reverse

def tokenOfBytes (bytes : Bytes) : Result WideText :=
  let bytes := popBlanks bytes
  if bytes = [] ∨ 64 < bytes.length then .error (provisionError "token 存储内容长度非法")
  else
    let token := bytes.map UInt8.toUInt16
    if token.all isAsciiTokenChar then .ok token
    else .error (provisionError "token 存储内容含非法字符")

/-- `opened` is the code of a failing `CreateFileW`, apart from that of a file that is not there. -/
def readAgentTokenFile (s : TokenStore) (opened : Option Nat) (works : List Bool) : Result WideText :=
  match s.file, opened with
  | none, opened => .error (.fromWin32 (opened.getD 2) "CreateFileW(token)")
  | some _, some code => .error (.fromWin32 code "CreateFileW(token)")
  | some file, none => tokenOfBytes (readTokenBytes works file.bytes [])

/-! ## What is read -/

/-- A text that is a token: 1 to 64 letters, digits, `_` and `-`. -/
structure TokenText (t : WideText) : Prop where
  nonempty : t ≠ []
  short : t.length ≤ 64
  chars : ∀ ch ∈ t, isAsciiTokenChar ch = true

theorem isAsciiTokenChar_toUInt16 (c : UInt8) : isAsciiTokenChar c.toUInt16 = isAsciiKeyChar c := by
  have hiff : isAsciiTokenChar c.toUInt16 = true ↔ isAsciiKeyChar c = true := by
    simp only [isAsciiTokenChar, isAsciiKeyChar, isAsciiAlnum, isDigit, Bool.or_eq_true, Bool.and_eq_true,
      decide_eq_true_eq, beq_iff_eq, UInt16.le_iff_toNat_le, UInt8.le_iff_toNat_le, ← UInt16.toNat_inj,
      ← UInt8.toNat_inj, UInt8.toNat_toUInt16]
    exact Iff.rfl
  exact Bool.eq_iff_iff.mpr hiff

theorem tokenOfBytes_ok {bytes : Bytes} {t : WideText} (h : tokenOfBytes bytes = .ok t) :
    TokenText t ∧ t = (popBlanks bytes).map UInt8.toUInt16 := by
  unfold tokenOfBytes at h
  dsimp only at h
  split at h
  · cases h
  · case _ hlength =>
    rw [not_or, Nat.not_lt] at hlength
    split at h
    · case _ hchars =>
      cases h
      refine ⟨⟨?_, ?_, List.all_eq_true.mp hchars⟩, rfl⟩
      · simpa using hlength.1
      · rw [List.length_map]
        exact hlength.2
    · cases h

theorem tokenText_of_read {s : TokenStore} {opened : Option Nat} {works : List Bool} {t : WideText}
    (h : readAgentTokenFile s opened works = .ok t) : TokenText t := by
  unfold readAgentTokenFile at h
  split at h
  · cases h
  · cases h
  · exact (tokenOfBytes_ok h).1

/-- A failing read leaves a beginning of the file. -/
theorem readTokenBytes_isPrefix (works : List Bool) (rest out : Bytes) :
    out <+: readTokenBytes works rest out ∧ readTokenBytes works rest out <+: out ++ rest := by
  induction works generalizing rest out with
  | nil => exact ⟨List.prefix_rfl, List.prefix_append _ _⟩
  | cons work works ih =>
    cases work with
    | false => exact ⟨List.prefix_rfl, List.prefix_append _ _⟩
    | true =>
      rw [readTokenBytes]
      split
      · exact ⟨List.prefix_rfl, List.prefix_append _ _⟩
      · obtain ⟨hout, hrest⟩ := ih (rest.drop 64) (out ++ rest.take 64)
        rw [List.append_assoc, List.take_append_drop] at hrest
        exact ⟨(List.prefix_append _ _).trans hout, hrest⟩

/-! ## The new token -/

section Generated

variable (bytes : Fin kTokenLength → UInt8)

theorem alphabet_chars : ∀ c ∈ kTokenAlphabet, isAsciiKeyChar c = true :=
  List.all_eq_true.mp (by decide)

theorem narrow_generated : narrow (generateRandomToken bytes) =
    List.ofFn fun i => kTokenAlphabet.getD ((bytes i).toNat % 62) 0 := by
  unfold narrow generateRandomToken
  rw [List.map_ofFn]
  congr 1
  funext i
  exact UInt8.toUInt8_toUInt16 _

theorem widened_generated : (narrow (generateRandomToken bytes)).map UInt8.toUInt16 =
    generateRandomToken bytes := by
  rw [narrow_generated, List.map_ofFn]
  rfl

theorem narrow_generated_length : (narrow (generateRandomToken bytes)).length = kTokenLength := by
  rw [narrow_generated, List.length_ofFn]

theorem narrow_generated_chars : ∀ c ∈ narrow (generateRandomToken bytes), isAsciiKeyChar c = true := by
  intro c hc
  rw [narrow_generated, List.mem_ofFn] at hc
  obtain ⟨i, rfl⟩ := hc
  have hindex : (bytes i).toNat % 62 < kTokenAlphabet.length := by
    have hlength : kTokenAlphabet.length = 62 := by decide
    rw [hlength]
    exact Nat.mod_lt _ (by decide)
  rw [List.getD_eq_getElem?_getD, List.getElem?_eq_getElem hindex, Option.getD_some]
  exact alphabet_chars _ (List.getElem_mem hindex)

/-- Nothing is cut off the end of what was written of a token. -/
theorem popBlanks_keyChars {written : Bytes} (h : ∀ c ∈ written, isAsciiKeyChar c = true) :
    popBlanks written = written := by
  have hnone : ∀ c, isAsciiKeyChar c = true → isTokenBlank c = false := by
    intro c hc
    rw [isAsciiKeyChar_iff] at hc
    simp only [isTokenBlank, Bool.or_eq_false_iff, beq_eq_false_iff_ne, ne_eq, UInt8.le_iff_toNat_le,
      UInt8.reduceToNat, ← UInt8.toNat_inj] at hc ⊢
    omega
  have hkeep : written.reverse.dropWhile isTokenBlank = written.reverse := by
    cases hrev : written.reverse with
    | nil => rfl
    | cons c cs =>
      have hmem : c ∈ written := List.mem_reverse.mp (by rw [hrev]; exact List.mem_cons_self)
      exact List.dropWhile_cons_of_neg (by rw [hnone c (h c hmem)]; exact Bool.false_ne_true)
  rw [popBlanks, hkeep, List.reverse_reverse]

/-- A part of a token that was written is read as a beginning of it. -/
theorem read_written {n : Nat} {dacl : Option String} {opened : Option Nat} {works : List Bool} {t : WideText}
    (h : readAgentTokenFile
      { file := some { bytes := (narrow (generateRandomToken bytes)).take n, dacl := dacl } }
      opened works = .ok t) : t <+: generateRandomToken bytes := by
  unfold readAgentTokenFile at h
  split at h
  · cases h
  · cases h
  · case _ file hfile =>
    cases hfile
    obtain ⟨-, hread⟩ := readTokenBytes_isPrefix works ((narrow (generateRandomToken bytes)).take n) []
    rw [List.nil_append] at hread
    have hpart := hread.trans (List.take_prefix n _)
    obtain ⟨-, rfl⟩ := tokenOfBytes_ok h
    rw [popBlanks_keyChars fun c hc => narrow_generated_chars bytes c (hpart.subset hc)]
    have hwide := hpart.map UInt8.toUInt16
    rwa [widened_generated] at hwide

/-- A whole token is read back, if the first call works. -/
theorem read_whole {dacl : Option String} (works : List Bool) :
    readAgentTokenFile
      { file := some { bytes := narrow (generateRandomToken bytes), dacl := dacl } }
      none (true :: works) = .ok (generateRandomToken bytes) := by
  have hlength := narrow_generated_length bytes
  have hne : narrow (generateRandomToken bytes) ≠ [] := by
    intro hnil
    rw [hnil] at hlength
    cases hlength
  have hread : readTokenBytes (true :: works) (narrow (generateRandomToken bytes)) [] =
      narrow (generateRandomToken bytes) := by
    have hshort : (narrow (generateRandomToken bytes)).length ≤ 64 := by
      rw [hlength]
      decide
    rw [readTokenBytes, if_neg hne, List.take_of_length_le hshort, List.drop_of_length_le hshort,
      List.nil_append]
    cases works with
    | nil => rfl
    | cons work works =>
      cases work with
      | false => rfl
      | true => rfl
  have hchars : ((narrow (generateRandomToken bytes)).map UInt8.toUInt16).all isAsciiTokenChar = true := by
    rw [List.all_map, List.all_eq_true]
    intro c hc
    rw [Function.comp_apply, isAsciiTokenChar_toUInt16]
    exact narrow_generated_chars bytes c hc
  have hfits : ¬ (narrow (generateRandomToken bytes) = [] ∨ 64 < (narrow (generateRandomToken bytes)).length) := by
    rw [not_or, hlength]
    exact ⟨hne, by decide⟩
  simp only [readAgentTokenFile, hread, tokenOfBytes, popBlanks_keyChars (narrow_generated_chars bytes)]
  rw [if_neg hfits, if_pos hchars, widened_generated]

end Generated

/-! ## What a run leaves -/

section Runs

/-- The calls of a run with their answers. -/
abbrev TokenLog := List (Σ e : TokenCall, TokenCall.Answer e)

/-- The answer, if it is one of the random source. -/
def randomAnswer : (Σ e : TokenCall, TokenCall.Answer e) → Option (Option (Fin kTokenLength → UInt8))
  | ⟨.random, answer⟩ => some answer
  | _ => none

/-- The random source was asked once, and this is its answer. -/
def Drawn (log : TokenLog) (bytes : Fin kTokenLength → UInt8) : Prop :=
  log.filterMap randomAnswer = [some bytes]

/-- A call of another kind draws nothing. -/
theorem randomAnswer_append {log : TokenLog} {c : Σ e : TokenCall, TokenCall.Answer e}
    (hc : randomAnswer c = none) : (log ++ [c]).filterMap randomAnswer = log.filterMap randomAnswer := by
  rw [List.filterMap_append, List.filterMap_cons, hc, List.filterMap_nil, List.append_nil]

theorem Drawn.append {log : TokenLog} {bytes : Fin kTokenLength → UInt8} (h : Drawn log bytes)
    {c : Σ e : TokenCall, TokenCall.Answer e} (hc : randomAnswer c = none) : Drawn (log ++ [c]) bytes :=
  (randomAnswer_append hc).trans h

/-- The store with new bytes, under the access list there was. -/
def TokenStore.holding (s : TokenStore) (bytes : Bytes) : TokenStore :=
  { file := some { bytes := bytes, dacl := s.file.bind TokenFile.dacl } }

/-- The file is as it was, or a beginning of the token of this run. -/
inductive HalfDone (before : TokenStore) : TokenStore × TokenLog → Prop where
  | untouched (log : TokenLog) : HalfDone before (before, log)
  | begun {log : TokenLog} (bytes : Fin kTokenLength → UInt8) (n : Nat) (hdrawn : Drawn log bytes) :
      HalfDone before (before.holding ((narrow (generateRandomToken bytes)).take n), log)

/-- The whole token of this run, for the system and one user alone. -/
inductive Provisioned : TokenStore × TokenLog → Prop where
  | intro {log : TokenLog} (bytes : Fin kTokenLength → UInt8) (userSid : String) (huser : userSid ≠ "")
      (hdrawn : Drawn log bytes) :
      Provisioned
        ({ file := some { bytes := narrow (generateRandomToken bytes), dacl := some (tokenSddl userSid) } },
          log)

variable {before : TokenStore}
  {ok : TokenStore × TokenLog → TokenCall → TokenChoice → Prop}

theorem HalfDone.append {s : TokenStore} {log : TokenLog} (h : HalfDone before (s, log))
    {c : Σ e : TokenCall, TokenCall.Answer e} (hc : randomAnswer c = none) :
    HalfDone before (s, log ++ [c]) := by
  cases h with
  | untouched => exact .untouched _
  | begun bytes n hdrawn => exact .begun bytes n (hdrawn.append hc)

/-- The end of a run with its result. -/
def ProvisionEnds (before : TokenStore) (r : Result Unit) (s : TokenStore × TokenLog) : Prop :=
  if r = .ok () then Provisioned s else HalfDone before s

theorem provisionEnds_error {s : TokenStore × TokenLog} {e : Error} (h : HalfDone before s) :
    ProvisionEnds before (.error e) s := by
  rw [ProvisionEnds, if_neg fun he => nomatch he]
  exact h

/-- Nothing is done yet, and nothing is drawn. -/
structure Unstarted (before : TokenStore) (s : TokenStore × TokenLog) : Prop where
  store : s.1 = before
  undrawn : s.2.filterMap randomAnswer = []

theorem Unstarted.half {s : TokenStore × TokenLog} (h : Unstarted before s) : HalfDone before s := by
  obtain ⟨store, log⟩ := s
  obtain ⟨rfl, -⟩ := h
  exact .untouched log

/-- The token is drawn. -/
structure DrawnOnly (before : TokenStore) (bytes : Fin kTokenLength → UInt8)
    (s : TokenStore × TokenLog) : Prop where
  store : s.1 = before
  drawn : Drawn s.2 bytes

/-- The file is created and written. -/
structure Written (before : TokenStore) (bytes : Fin kTokenLength → UInt8) (r : Option Nat)
    (s : TokenStore × TokenLog) : Prop where
  half : HalfDone before s
  drawn : Drawn s.2 bytes
  whole : r = none → s.1 = before.holding (narrow (generateRandomToken bytes))

theorem writeTokenFile_spec (bytes : Fin kTokenLength → UInt8) :
    Triple tokenHandler.logged ok (DrawnOnly before bytes) (writeTokenFile (generateRandomToken bytes))
      (Written before bytes) (HalfDone before) := by
  refine Triple.bind (M := fun (r : Option Nat) s => Drawn s.2 bytes ∧
    ((r = none ∧ s.1 = before.holding []) ∨ (r ≠ none ∧ s.1 = before))) ?_ fun r => ?_
  · refine Triple.perform ?_ ?_
    · rintro ⟨s, log⟩ ⟨rfl, -⟩
      exact .untouched log
    · rintro ⟨s, log⟩ c ⟨rfl, hdrawn⟩ -
      refine ⟨hdrawn.append rfl, ?_⟩
      simp only [Lib.Handler.logged, tokenHandler]
      split
      · exact .inr ⟨Option.some_ne_none _, rfl⟩
      · exact .inl ⟨rfl, rfl⟩
  · cases r with
    | some code =>
      refine Triple.ret ?_
      rintro ⟨s, log⟩ ⟨hdrawn, ⟨hnone, -⟩ | ⟨-, rfl⟩⟩
      · cases hnone
      · exact ⟨.untouched log, hdrawn, fun hnone => by cases hnone⟩
    | none =>
      refine Triple.perform ?_ ?_
      · rintro ⟨s, log⟩ ⟨hdrawn, ⟨-, rfl⟩ | ⟨hsome, -⟩⟩
        · exact .begun bytes 0 hdrawn
        · exact absurd rfl hsome
      · rintro ⟨s, log⟩ c ⟨hdrawn, ⟨-, rfl⟩ | ⟨hsome, -⟩⟩ -
        · simp only [Lib.Handler.logged, tokenHandler]
          split
          · exact ⟨.begun bytes c.written (hdrawn.append rfl), hdrawn.append rfl,
              fun hnone => by cases hnone⟩
          · have hall : (narrow (generateRandomToken bytes)).take kTokenLength =
                narrow (generateRandomToken bytes) := by
              rw [← narrow_generated_length bytes, List.take_length]
            have hbegun : ∀ {log : TokenLog}, Drawn log bytes →
                HalfDone before (before.holding (narrow (generateRandomToken bytes)), log) := by
              intro log hlog
              have hwhole := @HalfDone.begun before log bytes kTokenLength hlog
              rwa [hall] at hwhole
            exact ⟨hbegun (hdrawn.append rfl), hdrawn.append rfl, fun _ => rfl⟩
        · exact absurd rfl hsome

/-- A call that neither draws nor writes. -/
theorem Written.append {bytes : Fin kTokenLength → UInt8} {r : Option Nat} {s : TokenStore}
    {log : TokenLog} (h : Written before bytes r (s, log)) {c : Σ e : TokenCall, TokenCall.Answer e}
    (hc : randomAnswer c = none) : Written before bytes r (s, log ++ [c]) :=
  ⟨h.half.append hc, h.drawn.append hc, h.whole⟩

theorem restrictFileDacl_spec (bytes : Fin kTokenLength → UInt8) :
    Triple tokenHandler.logged ok (Written before bytes none) restrictFileDacl (ProvisionEnds before)
      (HalfDone before) := by
  have hfail : ∀ e : Error, Triple tokenHandler.logged ok (Written before bytes none) (.ret (.error e))
      (ProvisionEnds before) (HalfDone before) := fun e =>
    Triple.ret fun s hs => provisionEnds_error hs.half
  unfold restrictFileDacl
  refine Triple.bind (M := fun _ s => Written before bytes none s)
    (Triple.perform (fun s hs => hs.half) fun s c hs _ => hs.append rfl) fun userSid => ?_
  split
  · exact hfail _
  · case _ huser =>
    refine Triple.bind (M := fun _ s => Written before bytes none s)
      (Triple.perform (fun s hs => hs.half) fun s c hs _ => hs.append rfl) fun parsed => ?_
    cases parsed with
    | some code => exact hfail _
    | none =>
      refine Triple.bind (M := fun (r : Option Nat) s =>
        (r = none ∧ Provisioned s) ∨ (r ≠ none ∧ HalfDone before s)) ?_ fun r => ?_
      · refine Triple.perform (fun s hs => hs.half) ?_
        rintro ⟨s, log⟩ c hs -
        obtain rfl : s = _ := hs.whole rfl
        simp only [Lib.Handler.logged, tokenHandler]
        split
        · exact .inr ⟨Option.some_ne_none _, hs.half.append rfl⟩
        · exact .inl ⟨rfl, .intro bytes userSid huser (hs.drawn.append rfl)⟩
      · cases r with
        | some code =>
          refine Triple.ret fun s hs => ?_
          rcases hs with ⟨hnone, -⟩ | ⟨-, hhalf⟩
          · cases hnone
          · exact provisionEnds_error hhalf
        | none =>
          refine Triple.ret fun s hs => ?_
          rcases hs with ⟨-, hdone⟩ | ⟨hsome, -⟩
          · exact (if_pos rfl).mpr hdone
          · exact absurd rfl hsome

theorem provision_spec (before : TokenStore) (path : WideText) (force : Bool) :
    Triple tokenHandler.logged ok (Unstarted before) (provisionAgentTokenFile path force)
      (ProvisionEnds before) (HalfDone before) := by
  have hquiet : ∀ s, Unstarted before s → HalfDone before s := fun s hs => hs.half
  have hfail : ∀ e : Error, Triple tokenHandler.logged ok (Unstarted before) (.ret (.error e))
      (ProvisionEnds before) (HalfDone before) := fun e =>
    Triple.ret fun s hs => provisionEnds_error hs.half
  unfold provisionAgentTokenFile
  split
  · exact hfail _
  · refine Triple.bind (M := fun _ s => Unstarted before s)
      (Triple.perform hquiet fun s c hs _ => ⟨hs.store, (randomAnswer_append rfl).trans hs.undrawn⟩)
      fun there => ?_
    split
    · exact hfail _
    · refine Triple.bind (M := fun _ s => Unstarted before s)
        (Triple.perform hquiet fun s c hs _ => ⟨hs.store, (randomAnswer_append rfl).trans hs.undrawn⟩)
        fun created => ?_
      split
      · exact hfail _
      · refine Triple.bind (M := fun random s =>
          s.1 = before ∧ s.2.filterMap randomAnswer = [random]) (Triple.perform hquiet fun s c hs _ => ?_)
          fun random => ?_
        · refine ⟨hs.store, ?_⟩
          rw [Lib.Handler.logged, List.filterMap_append, hs.undrawn]
          rfl
        · cases random with
          | none =>
            refine Triple.ret ?_
            rintro ⟨s, log⟩ ⟨rfl, -⟩
            exact provisionEnds_error (.untouched log)
          | some bytes =>
            refine Triple.pre (P := DrawnOnly before bytes) ?_ fun s hs => ⟨hs.1, hs.2⟩
            refine Triple.bind (writeTokenFile_spec bytes) fun r => ?_
            cases r with
            | some code => exact Triple.ret fun s hs => provisionEnds_error hs.half
            | none => exact restrictFileDacl_spec bytes

/-- The log of a run of `ProvisionAgentTokenFile` on `cs`. -/
def provisionLog (path : WideText) (force : Bool) (before : TokenStore) (cs : List TokenChoice) :
    TokenLog :=
  (provisionAgentTokenFile path force).trace tokenHandler before cs

theorem provision_run (path : WideText) (force : Bool) (before : TokenStore) (cs : List TokenChoice) :
    (provisionAgentTokenFile path force).run tokenHandler.logged (before, []) cs =
      ((((provisionAgentTokenFile path force).run tokenHandler before cs).1,
        provisionLog path force before cs),
      ((provisionAgentTokenFile path force).run tokenHandler before cs).2) :=
  Prog.run_logged _ before [] cs

/-- A run that returns. -/
theorem provision_ends {path : WideText} {force : Bool} {before after : TokenStore}
    {cs : List TokenChoice} {r : Result Unit}
    (hrun : (provisionAgentTokenFile path force).run tokenHandler before cs = (after, some r)) :
    ProvisionEnds before r (after, provisionLog path force before cs) := by
  have hends := provision_spec before path force (before, []) cs ⟨rfl, rfl⟩ Prog.answered_true
  rw [provision_run, hrun] at hends
  exact hends

end Runs

/-- What can be read after a run that did not succeed. -/
theorem HalfDone.read {before s : TokenStore} {log : TokenLog} (h : HalfDone before (s, log))
    {opened : Option Nat} {works : List Bool} {t : WideText}
    (hread : readAgentTokenFile s opened works = .ok t) :
    readAgentTokenFile before opened works = .ok t ∨
      ∃ bytes, Drawn log bytes ∧ t <+: generateRandomToken bytes := by
  cases h with
  | untouched => exact .inl hread
  | begun bytes n hdrawn => exact .inr ⟨bytes, hdrawn, read_written bytes hread⟩

end Ipc
end CppOptimizer
