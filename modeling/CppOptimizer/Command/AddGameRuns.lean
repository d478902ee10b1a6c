import CppOptimizer.Command.AddGame
import CppOptimizer.Lib.Monitor

/-!
# CppOptimizer.Command.AddGameRuns

What a run of `--add-game` does to the files, wherever it is cut off.

* `Untouched` — every file but the temporary one is as it was.
* `Appended`  — the local file has one rule more at its end, and so for every other file.
* `Chosen`    — the process the rule is made for is the one that was asked for.
-/

namespace CppOptimizer
namespace Command

open Common Config Lib Process AddGameProg

def Untouched (localPath : Units) (before after : Files) : Prop :=
  ∀ path, path ≠ tempPath localPath → after path = before path

structure Appended (localPath : Units) (before after : Files) (rule : GameConfig) : Prop where
  content : after localPath = some (appendGameRules ((before localPath).getD []) [rule])
  others : ∀ path, path ≠ localPath → path ≠ tempPath localPath → after path = before path

/-- The process with the pid that was given, or one of those with a window. -/
structure Chosen (a : AddGameArgs) (details : ProcessDetails) : Prop where
  given : a.pid ≠ 0 → details.pid = a.pid
  windowed : a.pid = 0 → details.hasVisibleWindow = true

/-! ## What the files hold -/

section Config

variable (toml : Toml.Reader gamesKey) (access : Toml.Access) (files : Files)

def configAt (path : Units) : Option ConfigSnapshot :=
  (documentAt toml files path).bind fun table => (loadConfig access table).toOption

/-- The configuration in force: the main one with the rules of both files. -/
def effectiveConfig (mainPath localPath : Units) : Option ConfigSnapshot :=
  (configAt toml access files mainPath).bind fun main =>
    if (files localPath).isSome = true then
      (configAt toml access files localPath).map fun other =>
        { main with games := mergeGameRules main.games other.games }
    else some main

/-- The rules in force; without a main configuration those of the local file. -/
def existingRules (mainPath localPath : Units) : Option (List GameConfig) :=
  if mainPath ≠ [] then (effectiveConfig toml access files mainPath localPath).map (·.games)
  else if (files localPath).isSome = true then
    (configAt toml access files localPath).map (·.games)
  else some []

end Config

theorem tempPath_ne (path : Units) : tempPath path ≠ path := by
  intro h
  have hlength := congrArg List.length h
  have hsuffix : (utf16 ".tmp".toList).length = 4 := by decide
  rw [tempPath, List.length_append, hsuffix] at hlength
  omega

theorem untouched_rfl (localPath : Units) (files : Files) : Untouched localPath files files :=
  fun _ _ => rfl

section Specs

variable {toml : Toml.Reader gamesKey} {access : Toml.Access}
  {ok : AddGameWorld → AddGameCall → AddGameChoice → Prop} {before : Files} {localPath : Units}

/-! ## Calls that change nothing -/

def AddGameCall.Changes : AddGameCall → Prop
  | .createFile _ | .writeFile _ _ | .deleteFile _ | .moveFile _ _ => True
  | _ => False

theorem answer_quiet (w : AddGameWorld) {e : AddGameCall} (c : AddGameChoice) (h : ¬ e.Changes) :
    ((addGameHandler toml).answer w e c).2 = w := by
  cases e with
  | parseFile path =>
    dsimp only [addGameHandler]
    split <;> rfl
  | createFile _ => exact absurd trivial h
  | writeFile _ _ => exact absurd trivial h
  | deleteFile _ => exact absurd trivial h
  | moveFile _ _ => exact absurd trivial h
  | _ => rfl

/-- A call that changes nothing, and what is known of its answer. -/
theorem quiet_spec {P : AddGameWorld → Prop} {e : AddGameCall} {φ : e.Answer → Prop}
    (h : ¬ e.Changes)
    (hφ : ∀ w c, P w → ok w e c → φ ((addGameHandler toml).answer w e c).1) :
    Triple (addGameHandler toml) ok P (Prog.perform e) (fun r w => P w ∧ φ r) P := by
  refine Triple.perform (fun _ hw => hw) fun w c hw hc => ⟨?_, hφ w c hw hc⟩
  rw [answer_quiet w c h]
  exact hw

theorem line_spec {P C : AddGameWorld → Prop} (hC : ∀ w, P w → C w) :
    Triple (addGameHandler toml) ok P writeConsoleLine (fun _ => P) C :=
  Triple.perform hC fun _ _ hw _ => hw

/-- A line on the console, and it is over. -/
theorem line_exit {P C : AddGameWorld → Prop} {α : Type} {a : α} {Q : α → AddGameWorld → Prop}
    (hC : ∀ w, P w → C w) (hQ : ∀ w, P w → Q a w) :
    Triple (addGameHandler toml) ok P (writeConsoleLine >>= fun _ => pure a) Q C :=
  Triple.bind (line_spec hC) fun _ => Triple.ret hQ

/-! ## The process -/

/-- What is known of the processes the system reports. -/
def Reports (ok : AddGameWorld → AddGameCall → AddGameChoice → Prop) (φ : ProcessDetails → Prop) :
    Prop :=
  ∀ w pid c, ok w (.queryProcessDetails pid) c → φ { c.details with pid := pid }

section Select

variable {P : AddGameWorld → Prop} {φ : ProcessDetails → Prop}

theorem result_ok {α : Type} {c : AddGameChoice} {a b : α} (h : c.result a = .ok b) : b = a := by
  unfold AddGameChoice.result at h
  split at h
  · cases h
  · cases h
    rfl

theorem query_spec (hφ : Reports ok φ) (pid : UInt32) :
    Triple (addGameHandler toml) ok P (queryProcessDetails pid)
      (fun r w => P w ∧ ∀ details, r = .ok details → details.pid = pid ∧ φ details) P := by
  refine quiet_spec id fun w c _ hc details hr => ?_
  rw [result_ok hr]
  exact ⟨rfl, hφ w pid c hc⟩

/-- A process that cannot be queried has no window. -/
theorem detailsOf_spec (hφ : Reports ok φ) (entry : ProcessEntry) :
    Triple (addGameHandler toml) ok P (detailsOf entry)
      (fun details w => P w ∧ (details.hasVisibleWindow = true → φ details)) P := by
  refine Triple.bind (query_spec hφ entry.pid) fun r => ?_
  cases r with
  | ok details => exact Triple.ret fun w hw => ⟨hw.1, fun _ => (hw.2 details rfl).2⟩
  | error e => exact Triple.ret fun w hw => ⟨hw.1, fun h => by cases h⟩

theorem detailsOfAll_spec (hφ : Reports ok φ) (entries : List ProcessEntry) :
    Triple (addGameHandler toml) ok P (detailsOfAll true entries)
      (fun list w => P w ∧ ∀ details ∈ list, details.hasVisibleWindow = true ∧ φ details) P := by
  induction entries with
  | nil => exact Triple.ret fun w hw => ⟨hw, fun details h => by cases h⟩
  | cons entry entries ih =>
    refine Triple.bind (detailsOf_spec hφ entry) fun details => ?_
    refine Triple.assume (fun w hw => hw.2) fun hdetails => ?_
    refine Triple.bind (Triple.conseq ih (fun w hw => hw.1) (fun _ _ hq => hq) fun _ hc => hc)
      fun rest => Triple.ret fun w hw => ⟨hw.1, ?_⟩
    intro other hother
    by_cases hwindow : details.hasVisibleWindow = true
    · rw [if_pos (.inr hwindow)] at hother
      rcases List.mem_cons.mp hother with rfl | hother
      · exact ⟨hwindow, hdetails hwindow⟩
      · exact hw.2 other hother
    · rw [if_neg (by simp [hwindow])] at hother
      exact hw.2 other hother

theorem enumerate_spec (hφ : Reports ok φ) :
    Triple (addGameHandler toml) ok P (enumerateProcessDetails true)
      (fun r w => P w ∧ ∀ list, r = .ok list → ∀ details ∈ list,
        details.hasVisibleWindow = true ∧ φ details) P := by
  refine Triple.bind (quiet_spec (φ := fun _ => True) id fun _ _ _ _ => trivial) fun r => ?_
  cases r with
  | error e => exact Triple.ret fun w hw => ⟨hw.1, fun list h => by cases h⟩
  | ok entries =>
    refine Triple.bind (Triple.pre (detailsOfAll_spec hφ entries) fun w hw => hw.1) fun list => ?_
    refine Triple.ret fun w hw => ⟨hw.1, fun other h => ?_⟩
    cases h
    exact hw.2

theorem mem_of_pickFromList {list : List ProcessDetails} {console rest : List Units}
    {details : ProcessDetails} (h : pickFromList list console = some (details, rest)) :
    details ∈ list := by
  induction console with
  | nil => cases h
  | cons input console ih =>
    rw [pickFromList] at h
    split at h
    · cases h
    · split at h
      · split at h
        · exact ih h
        · split at h
          · case _ hget =>
            cases h
            exact List.mem_of_getElem? hget
          · exact ih h
      · exact ih h

theorem select_spec (hφ : Reports ok φ) {a : AddGameArgs} (console : List Units) :
    Triple (addGameHandler toml) ok P (selectProcess a.pid console)
      (fun r w => P w ∧ (r = .ended 0 → a.pid = 0) ∧
        ∀ details rest, r = .selected details rest → Chosen a details ∧ φ details) P := by
  unfold selectProcess
  split
  · case _ hpid =>
    refine Triple.bind (enumerate_spec hφ) fun r => ?_
    cases r with
    | error e => exact line_exit (fun w hw => hw.1) fun w hw => ⟨hw.1, by simp, fun _ _ h => by cases h⟩
    | ok list =>
      refine Triple.bind (line_spec fun w hw => hw.1) fun _ => ?_
      split
      · exact Triple.ret fun w hw => ⟨hw.1, fun _ => hpid, fun _ _ h => by cases h⟩
      · case _ details rest hpick =>
        refine Triple.ret fun w hw => ⟨hw.1, by simp, fun other _ h => ?_⟩
        cases h
        have hmem := List.mem_mergeSort.mp (mem_of_pickFromList hpick)
        obtain ⟨hwindow, hreport⟩ := hw.2 list rfl details hmem
        exact ⟨⟨fun hgiven => absurd hpid hgiven, fun _ => hwindow⟩, hreport⟩
  · case _ hpid =>
    refine Triple.bind (query_spec hφ a.pid) fun r => ?_
    cases r with
    | error e => exact line_exit (fun w hw => hw.1) fun w hw => ⟨hw.1, by simp, fun _ _ h => by cases h⟩
    | ok details =>
      refine Triple.ret fun w hw => ⟨hw.1, by simp, fun other rest h => ?_⟩
      cases h
      obtain ⟨hgiven, hreport⟩ := hw.2 details rfl
      exact ⟨⟨fun _ => hgiven, fun hzero => absurd hzero hpid⟩, hreport⟩

end Select

/-! ## The rules there are -/

section Load

/-- Nothing but a missing file makes `exists` answer no. -/
def Truthful (ok : AddGameWorld → AddGameCall → AddGameChoice → Prop) : Prop :=
  ∀ w path c, ok w (.fileExists path) c → c.error = none

theorem parseFile_spec (path : Units) :
    Triple (addGameHandler toml) ok (fun w => w.files = before) (parseFile path)
      (fun r w => w.files = before ∧
        ∀ table, r = Except.ok table → documentAt toml before path = some table)
      (fun w => w.files = before) := by
  refine quiet_spec id fun w c hw _ table hr => ?_
  dsimp only [addGameHandler] at hr
  rw [hw] at hr
  split at hr
  · case _ hdocument =>
    cases hr
    exact hdocument
  · cases hr

theorem loadConfigFile_spec (path : Units) :
    Triple (addGameHandler toml) ok (fun w => w.files = before) (loadConfigFile access path)
      (fun r w => w.files = before ∧
        ∀ snapshot, r = .ok snapshot → configAt toml access before path = some snapshot)
      (fun w => w.files = before) := by
  refine Triple.bind (parseFile_spec path) fun r => ?_
  cases r with
  | error e => exact Triple.ret fun w hw => ⟨hw.1, fun snapshot h => by cases h⟩
  | ok table =>
    refine Triple.ret fun w hw => ⟨hw.1, fun snapshot h => ?_⟩
    rw [configAt, hw.2 table rfl, Option.bind_some, h]
    rfl

theorem fileExists_spec (path : Units) :
    Triple (addGameHandler toml) ok (fun w => w.files = before) (fileExists path)
      (fun r w => w.files = before ∧ (Truthful ok → r = (before path).isSome))
      (fun w => w.files = before) := by
  refine quiet_spec id fun w c hw hc htruth => ?_
  dsimp only [addGameHandler]
  rw [htruth w path c hc, hw]
  rfl

theorem loadConfigFiles_spec (mainPath : Units) :
    Triple (addGameHandler toml) ok (fun w => w.files = before)
      (loadConfigFiles access mainPath localPath)
      (fun r w => w.files = before ∧ ∀ snapshot, r = .ok snapshot → Truthful ok →
        effectiveConfig toml access before mainPath localPath = some snapshot)
      (fun w => w.files = before) := by
  refine Triple.bind (loadConfigFile_spec mainPath) fun r => ?_
  cases r with
  | error e => exact Triple.ret fun w hw => ⟨hw.1, fun snapshot h => by cases h⟩
  | ok main =>
    refine Triple.assume (fun w hw => hw.2 main rfl) fun hmain => ?_
    refine Triple.bind (Triple.pre (fileExists_spec localPath) fun w hw => hw.1) fun there => ?_
    refine Triple.assume (fun w hw => hw.2) fun hthere => ?_
    cases there with
    | false =>
      refine Triple.ret fun w hw => ⟨hw.1, fun snapshot h htruth => ?_⟩
      cases h
      rw [effectiveConfig, hmain, Option.bind_some, if_neg (by rw [← hthere htruth]; simp)]
    | true =>
      refine Triple.bind (Triple.pre (loadConfigFile_spec localPath) fun w hw => hw.1) fun other => ?_
      refine Triple.ret fun w hw => ⟨hw.1, fun snapshot h htruth => ?_⟩
      cases other with
      | error e => cases h
      | ok localSnapshot =>
        cases h
        rw [effectiveConfig, hmain, Option.bind_some, if_pos (hthere htruth).symm,
          hw.2 localSnapshot rfl]
        rfl

theorem loadExisting_spec (mainPath : Units) :
    Triple (addGameHandler toml) ok (fun w => w.files = before)
      (loadExistingGameRules access mainPath localPath)
      (fun r w => w.files = before ∧ ∀ games, r = .ok games → Truthful ok →
        existingRules toml access before mainPath localPath = some games)
      (fun w => w.files = before) := by
  unfold loadExistingGameRules
  split
  · case _ hmain =>
    refine Triple.bind (loadConfigFiles_spec mainPath) fun config => ?_
    refine Triple.ret fun w hw => ⟨hw.1, fun games h htruth => ?_⟩
    cases config with
    | error e => cases h
    | ok snapshot =>
      cases h
      rw [existingRules, if_pos hmain, hw.2 snapshot rfl htruth]
      rfl
  · case _ hmain =>
    refine Triple.bind (fileExists_spec localPath) fun there => ?_
    refine Triple.assume (fun w hw => hw.2) fun hthere => ?_
    cases there with
    | false =>
      refine Triple.ret fun w hw => ⟨hw.1, fun games h htruth => ?_⟩
      cases h
      rw [existingRules, if_neg hmain, if_neg (by rw [← hthere htruth]; simp)]
    | true =>
      refine Triple.bind (Triple.pre (loadConfigFile_spec localPath) fun w hw => hw.1) fun config => ?_
      refine Triple.ret fun w hw => ⟨hw.1, fun games h htruth => ?_⟩
      cases config with
      | error e => cases h
      | ok snapshot =>
        cases h
        rw [existingRules, if_neg hmain, if_pos (hthere htruth).symm, hw.2 snapshot rfl]
        rfl

end Load

/-! ## The append -/

section Append

variable {rule : GameConfig}

theorem untouched_update {files : Files} (h : Untouched localPath before files)
    (content : Option (List UInt8)) :
    Untouched localPath before (Function.update files (tempPath localPath) content) := by
  intro path hpath
  rw [Function.update_of_ne hpath]
  exact h path hpath

/-- The temporary file holds the new content. -/
structure Staged (localPath : Units) (before after : Files) (rule : GameConfig) : Prop where
  untouched : Untouched localPath before after
  content : after (tempPath localPath) = some (appendGameRules ((before localPath).getD []) [rule])

theorem Staged.moved {after : Files} (h : Staged localPath before after rule) :
    Appended localPath before
      (Function.update (Function.update after localPath (after (tempPath localPath)))
        (tempPath localPath) none) rule where
  content := by
    rw [Function.update_of_ne (tempPath_ne localPath).symm, Function.update_self, h.content]
  others := by
    intro path hlocal htemp
    rw [Function.update_of_ne htemp, Function.update_of_ne hlocal, h.untouched path htemp]

/-- What was written as a whole is the text. -/
theorem take_of_written {text : List UInt8} {n : Nat} (c : AddGameChoice)
    (h : min (text.take n).length (c.written.getD (text.take n).length) = text.length) :
    (text.take n).take (min (text.take n).length (c.written.getD (text.take n).length)) = text := by
  have hlong : text.length ≤ n := by
    have hlength := List.length_take (i := n) (l := text)
    omega
  rw [h, List.take_of_length_le hlong, List.take_length]

theorem delete_fails {C : AddGameWorld → Prop} {e : Error} {Q : Result Unit → AddGameWorld → Prop}
    (hC : ∀ w, Untouched localPath before w.files → C w)
    (hQ : ∀ w, Untouched localPath before w.files → Q (.error e) w) :
    Triple (addGameHandler toml) ok (fun w => Untouched localPath before w.files)
      (deleteFile (tempPath localPath) >>= fun _ => pure (.error e)) Q C := by
  refine Triple.bind (M := fun _ w => Untouched localPath before w.files) ?_ fun _ => Triple.ret hQ
  refine Triple.perform hC fun w c hw _ => ?_
  dsimp only [addGameHandler]
  split
  · exact untouched_update hw none
  · exact hw

/-- What the append comes to: the rule is behind the others, or no file but the temporary one has
changed. -/
def AppendEnds (localPath : Units) (before : Files) (rule : GameConfig) (r : Result Unit)
    (w : AddGameWorld) : Prop :=
  (r ≠ .ok () ∧ Untouched localPath before w.files) ∨
    (r = .ok () ∧ Appended localPath before w.files rule)

theorem untouched_of_eq {w : AddGameWorld} (h : w.files = before) :
    Untouched localPath before w.files := h ▸ untouched_rfl localPath w.files

theorem readFile_spec (path : Units) :
    Triple (addGameHandler toml) ok (fun w => w.files = before) (readFile path)
      (fun r w => w.files = before ∧ ∀ content, r = Except.ok content → content = before path)
      (fun w => w.files = before) := by
  refine quiet_spec id fun w c hw _ content hr => ?_
  rw [result_ok hr, hw]

theorem createTemp_spec :
    Triple (addGameHandler toml) ok (fun w => w.files = before) (createFile (tempPath localPath))
      (fun _ w => Untouched localPath before w.files)
      (fun w => Untouched localPath before w.files) := by
  refine Triple.perform (fun w hw => untouched_of_eq hw) fun w c hw _ => ?_
  dsimp only [addGameHandler]
  split
  · exact untouched_of_eq hw
  · exact untouched_update (untouched_of_eq hw) _

theorem writeTemp_spec {text : List UInt8}
    (htext : text = appendGameRules ((before localPath).getD []) [rule]) (n : Nat) :
    Triple (addGameHandler toml) ok (fun w => Untouched localPath before w.files)
      (writeFile (tempPath localPath) (text.take n))
      (fun report w => Untouched localPath before w.files ∧
        (report.written = text.length → Staged localPath before w.files rule))
      (fun w => Untouched localPath before w.files) := by
  refine Triple.perform (fun w hw => hw) fun w c hw _ => ?_
  dsimp only [addGameHandler]
  refine ⟨untouched_update hw _, fun hwritten => ⟨untouched_update hw _, ?_⟩⟩
  rw [Function.update_self, take_of_written c hwritten, htext]

/-- The temporary file takes the place of the old one, or is taken away. -/
theorem moveTemp_spec :
    Triple (addGameHandler toml) ok (fun w => Staged localPath before w.files rule)
      (moveFile (tempPath localPath) localPath) (AppendEnds localPath before rule)
      (fun w => Untouched localPath before w.files) := by
  refine Triple.perform (fun w hw => hw.untouched) fun w c hw _ => ?_
  have hmoved := hw.moved
  rw [hw.content] at hmoved
  dsimp only [addGameHandler]
  rw [hw.content]
  cases c.error with
  | none => exact .inr ⟨rfl, hmoved⟩
  | some e => exact .inl ⟨by simp, hw.untouched⟩

theorem append_spec :
    Triple (addGameHandler toml) ok (fun w => w.files = before)
      (appendGameRulesTo localPath [rule]) (AppendEnds localPath before rule)
      (fun w => Untouched localPath before w.files) := by
  have hfails : ∀ {w e}, Untouched localPath before w.files →
      AppendEnds localPath before rule (.error e) w := fun hw => .inl ⟨by simp, hw⟩
  unfold appendGameRulesTo
  rw [if_neg (by simp)]
  refine Triple.bind (Triple.conseq (readFile_spec localPath) (fun _ hw => hw) (fun _ _ hq => hq)
    fun w hw => untouched_of_eq hw) fun r => ?_
  cases r with
  | error e => exact Triple.ret fun w hw => hfails (untouched_of_eq hw.1)
  | ok content =>
    refine Triple.assume (fun w hw => hw.2 content rfl) fun hcontent => ?_
    subst hcontent
    refine Triple.bind (Triple.pre createTemp_spec fun w hw => hw.1) fun r => ?_
    cases r with
    | error e => exact Triple.ret fun w hw => hfails hw
    | ok _ =>
      refine Triple.bind (writeTemp_spec rfl _) fun report => ?_
      split
      · exact Triple.pre (delete_fails (fun w hw => hw) fun w hw => hfails hw) fun w hw => hw.1
      · case _ hreport =>
        rw [not_or, not_not] at hreport
        refine Triple.bind (Triple.pre moveTemp_spec fun w hw => hw.2 hreport.2) fun r => ?_
        cases r with
        | error e =>
          refine Triple.pre (delete_fails (fun w hw => hw) fun w hw => hfails hw) ?_
          rintro w (hw | ⟨hr, -⟩)
          · exact hw.2
          · cases hr
        | ok _ => exact Triple.ret fun w hw => hw

end Append

/-! ## The command -/

section Command

variable {a : AddGameArgs} {φ : ProcessDetails → Prop}

/-- A rule was made for a process, from the rules in force, and added. -/
structure AddedFor (ok : AddGameWorld → AddGameCall → AddGameChoice → Prop)
    (toml : Toml.Reader gamesKey) (access : Toml.Access) (φ : ProcessDetails → Prop) (a : AddGameArgs)
    (localPath : Units) (before after : Files) (details : ProcessDetails) (existing : List GameConfig)
    (rule : GameConfig) : Prop where
  chosen : Chosen a details
  reported : φ details
  inForce : Truthful ok → existingRules toml access before a.mainPath localPath = some existing
  built : buildGameRuleFromProcess details existing [] = some (.ok rule)
  written : a.dryRun = false
  appended : Appended localPath before after rule

/-- What a run comes to. -/
def RunEnds (ok : AddGameWorld → AddGameCall → AddGameChoice → Prop) (toml : Toml.Reader gamesKey)
    (access : Toml.Access) (φ : ProcessDetails → Prop) (a : AddGameArgs) (localPath : Units)
    (before : Files) (r : Option AddGameEnd) (w : AddGameWorld) : Prop :=
  (Untouched localPath before w.files ∧ (r = some (.exit 0) → a.dryRun = true ∨ a.pid = 0)) ∨
    ((r = none ∨ r = some (.exit 0)) ∧ ∃ details existing rule,
      AddedFor ok toml access φ a localPath before w.files details existing rule)

theorem ends_untouched {r : Option AddGameEnd} {w : AddGameWorld}
    (h : Untouched localPath before w.files) (hr : r ≠ some (.exit 0)) :
    RunEnds ok toml access φ a localPath before r w := .inl ⟨h, fun hexit => absurd hexit hr⟩

/-- The append with the lines behind it. -/
theorem appendAndReport_spec {details : ProcessDetails} {existing : List GameConfig}
    {rule : GameConfig} (hadded : ∀ w : AddGameWorld, Appended localPath before w.files rule →
      AddedFor ok toml access φ a localPath before w.files details existing rule) :
    Triple (addGameHandler toml) ok (fun w => w.files = before)
      (appendGameRulesTo localPath [rule] >>= fun
        | .error _ => writeConsoleLine >>= fun _ => pure (.exit 2)
        | .ok _ => writeConsoleLine >>= fun _ => pure (.exit 0))
      (fun e => RunEnds ok toml access φ a localPath before (some e))
      (RunEnds ok toml access φ a localPath before none) := by
  refine Triple.bind (Triple.conseq append_spec (fun _ hw => hw) (fun _ _ hq => hq)
    fun w hw => ends_untouched hw (by simp)) fun r => ?_
  cases r with
  | error e =>
    refine Triple.pre (line_exit (P := fun w => Untouched localPath before w.files)
      (fun w hw => ends_untouched hw (by simp)) fun w hw => ends_untouched hw (by simp)) ?_
    rintro w (hw | ⟨hr, -⟩)
    · exact hw.2
    · cases hr
  | ok _ =>
    refine Triple.pre (line_exit (P := fun w => Appended localPath before w.files rule)
      (fun w hw => .inr ⟨.inl rfl, details, existing, rule, hadded w hw⟩)
      fun w hw => .inr ⟨.inr rfl, details, existing, rule, hadded w hw⟩) ?_
    rintro w (⟨hr, -⟩ | hw)
    · exact absurd rfl hr
    · exact hw.2

theorem addSelected_spec {details : ProcessDetails} (hchosen : Chosen a details) (hφ : φ details)
    (console : List Units) :
    Triple (addGameHandler toml) ok (fun w => w.files = before)
      (addSelected access a localPath details console)
      (fun e => RunEnds ok toml access φ a localPath before (some e))
      (RunEnds ok toml access φ a localPath before none) := by
  have hcut : ∀ w : AddGameWorld, w.files = before →
      RunEnds ok toml access φ a localPath before none w :=
    fun w hw => ends_untouched (untouched_of_eq hw) (by simp)
  refine Triple.bind (Triple.conseq (loadExisting_spec a.mainPath) (fun _ hw => hw)
    (fun _ _ hq => hq) hcut) fun r => ?_
  cases r with
  | error e =>
    exact line_exit (fun w hw => hcut w hw.1)
      fun w hw => ends_untouched (untouched_of_eq hw.1) (by simp)
  | ok existing =>
    refine Triple.assume (fun w hw => hw.2 existing rfl) fun hexisting => ?_
    dsimp only
    split
    · exact Triple.ret fun w hw => ends_untouched (untouched_of_eq hw.1) (by simp)
    · exact line_exit (fun w hw => hcut w hw.1)
        fun w hw => ends_untouched (untouched_of_eq hw.1) (by simp)
    · case _ rule hbuilt =>
      refine Triple.bind (line_spec fun w hw => hcut w hw.1) fun _ => ?_
      split
      · case _ hdry => exact Triple.ret fun w hw => .inl ⟨untouched_of_eq hw.1, fun _ => .inl hdry⟩
      · case _ hdry =>
        split
        · case _ hask => exact Triple.ret fun w hw => .inl ⟨untouched_of_eq hw.1, fun _ => .inr hask.1⟩
        · have hadded : ∀ w : AddGameWorld, Appended localPath before w.files rule →
              AddedFor ok toml access φ a localPath before w.files details existing rule :=
            fun w hw => ⟨hchosen, hφ, hexisting, hbuilt, Bool.not_eq_true _ ▸ hdry, hw⟩
          exact Triple.pre (appendAndReport_spec hadded) fun w hw => hw.1

theorem runAddGame_spec (sibling : Units → Units) {args : List Units}
    (hargs : parseAddGameArgs args {} = some a) (hφ : Reports ok φ) (console : List Units) :
    Triple (addGameHandler toml) ok (fun w => w.files = before) (runAddGame access sibling args console)
      (fun e => RunEnds ok toml access φ a (localConfigPath sibling a.mainPath) before (some e))
      (RunEnds ok toml access φ a (localConfigPath sibling a.mainPath) before none) := by
  have hcut : ∀ w : AddGameWorld, w.files = before →
      RunEnds ok toml access φ a (localConfigPath sibling a.mainPath) before none w :=
    fun w hw => ends_untouched (untouched_of_eq hw) (by simp)
  unfold runAddGame
  rw [hargs]
  refine Triple.bind (Triple.conseq (select_spec hφ (a := a) console) (fun _ hw => hw)
    (fun _ _ hq => hq) hcut) fun selection => ?_
  cases selection with
  | ended code =>
    refine Triple.ret fun w hw => .inl ⟨untouched_of_eq hw.1, fun h => .inr (hw.2.1 ?_)⟩
    cases h
    rfl
  | selected details rest =>
    refine Triple.assume (fun w hw => hw.2.2 details rest rfl) fun hselected => ?_
    exact Triple.pre (addSelected_spec hselected.1 hselected.2 rest) fun w hw => hw.1

end Command

end Specs

/-- Arguments that do not parse: a line on the console, and exit code 2. -/
theorem runAddGame_unparsed {toml : Toml.Reader gamesKey} {access : Toml.Access}
    {sibling : Units → Units} {args : List Units} (hargs : parseAddGameArgs args {} = none)
    (console : List Units) (w : AddGameWorld) (cs : List AddGameChoice) :
    ((runAddGame access sibling args console).run (addGameHandler toml) w cs = (w, none) ∨
        (runAddGame access sibling args console).run (addGameHandler toml) w cs =
          (w, some (.exit 2))) ∧
      ∀ call ∈ (runAddGame access sibling args console).trace (addGameHandler toml) w cs,
        call.1 = .writeConsoleLine := by
  have hline : runAddGame access sibling args console =
      .call .writeConsoleLine fun _ => .ret (.exit 2) := by
    unfold runAddGame
    rw [hargs]
    rfl
  rw [hline]
  cases cs with
  | nil => exact ⟨.inl rfl, fun call hcall => absurd hcall List.not_mem_nil⟩
  | cons c cs =>
    rw [Prog.run_call_cons, Prog.run_ret]
    refine ⟨.inr rfl, fun call hcall => ?_⟩
    rw [Prog.trace, Prog.trace_ret] at hcall
    rw [List.mem_singleton.mp hcall]

/-- Whatever fails and wherever the command is cut off: arguments that do not parse end in exit code 2
with a line on the console and nothing else. With others, either no file but the temporary one has
changed, and then exit code 0 means that nothing was to be written, or the user was asked; or the local
file has the rule of the chosen process behind all it had, and then the command has not failed. -/
theorem add_game_all_or_nothing (toml : Toml.Reader gamesKey) (access : Toml.Access)
    (sibling : Units → Units) (args console : List Units) (before : Files)
    (cs : List AddGameChoice) :
    ∃ after r, (runAddGame access sibling args console).run (addGameHandler toml) ⟨before⟩ cs =
        (⟨after⟩, r) ∧
      (parseAddGameArgs args {} = none → after = before ∧ (r = none ∨ r = some (.exit 2)) ∧
        ∀ call ∈ (runAddGame access sibling args console).trace (addGameHandler toml) ⟨before⟩ cs,
          call.1 = .writeConsoleLine) ∧
      ∀ a, parseAddGameArgs args {} = some a →
        (Untouched (localConfigPath sibling a.mainPath) before after ∧
            (r = some (.exit 0) → a.dryRun = true ∨ a.pid = 0)) ∨
          ((r = none ∨ r = some (.exit 0)) ∧ a.dryRun = false ∧ ∃ details existing rule,
            Chosen a details ∧ BuiltRule details existing rule ∧
              Appended (localConfigPath sibling a.mainPath) before after rule) := by
  rcases hr : (runAddGame access sibling args console).run (addGameHandler toml) ⟨before⟩ cs
    with ⟨⟨after⟩, r⟩
  refine ⟨after, r, rfl, fun hargs => ?_, fun a hargs => ?_⟩
  · obtain ⟨hrun, hcalls⟩ := @runAddGame_unparsed toml access sibling args hargs console ⟨before⟩ cs
    rcases hrun with hrun | hrun
    · rw [hr] at hrun
      cases hrun
      exact ⟨rfl, .inl rfl, hcalls⟩
    · rw [hr] at hrun
      cases hrun
      exact ⟨rfl, .inr rfl, hcalls⟩
  · have hspec := @runAddGame_spec toml access (fun _ _ _ => True) before a (fun _ => True) sibling args
      hargs (fun _ _ _ _ => trivial) console
    have hrun := hspec ⟨before⟩ cs rfl Prog.answered_true
    rw [hr] at hrun
    have hends : RunEnds (fun _ _ _ => True) toml access (fun _ => True) a
        (localConfigPath sibling a.mainPath) before r ⟨after⟩ := by
      cases r <;> exact hrun
    rcases hends with huntouched | ⟨hend, details, existing, rule, hadded⟩
    · exact .inl huntouched
    · exact .inr ⟨hend, hadded.written, details, existing, rule, hadded.chosen,
        builtRule_of_ok hadded.built, hadded.appended⟩

def eldenRing : ProcessDetails := { name := utf16 "EldenRing.exe".toList }

theorem add_game_all_or_nothing_cut : ∃ after r,
    (runAddGame Toml.strictAccess id [utf16 "42".toList] []).run
        (addGameHandler (Toml.linesReader gamesKey)) ⟨fun _ => none⟩
        (List.replicate 5 { details := eldenRing }) = (⟨after⟩, r) ∧
      ((Untouched (localConfigPath id []) (fun _ => none) after ∧
          (r = some (.exit 0) → false = true ∨ (42 : UInt32) = 0)) ∨
        ((r = none ∨ r = some (.exit 0)) ∧ false = false ∧ ∃ details existing rule,
          Chosen { pid := 42 } details ∧ BuiltRule details existing rule ∧
            Appended (localConfigPath id []) (fun _ => none) after rule)) := by
  obtain ⟨after, r, hrun, -, hends⟩ := add_game_all_or_nothing (Toml.linesReader gamesKey)
    Toml.strictAccess id [utf16 "42".toList] [] (fun _ => none) (List.replicate 5 { details := eldenRing })
  exact ⟨after, r, hrun, hends { pid := 42 } (by decide)⟩

end Command
end CppOptimizer
