import CppOptimizer.Common.Error
import CppOptimizer.Common.Text
import CppOptimizer.Lib.Strings

/-!
# CppOptimizer.Config.Version

The schema version of a configuration, `ParseConfigVersion` and `FormatConfigVersion`.

* `scanVersionChar`    — one turn of the scanner over `MAJOR.MINOR.PATCH`, with its four variables.
* `parseConfigVersion` — the text is parted at its first dash; the part before it is scanned.
* `VersionText`        — the grammar of the accepted texts.

A character stands for a byte; one outside ASCII is neither a digit nor allowed in a prerelease.
-/

namespace CppOptimizer
namespace Config

open Common

structure ConfigVersion where
  major : Nat := 1
  minor : Nat := 0
  patch : Nat := 0
  prerelease : Text := []
  deriving DecidableEq, Repr

/-- The variables of the loop. -/
structure VersionScan where
  segments : List Nat := [0, 0, 0]
  segmentIndex : Nat := 0
  digits : Nat := 0
  segmentFirstDigitZero : Bool := false
  deriving DecidableEq, Repr

def versionFailure {α : Type} (message : String) : Result α :=
  .error (Error.validation "ParseConfigVersion" message)

/-- The digit `c` is taken into the current segment. -/
def VersionScan.takeDigit (s : VersionScan) (c : Char) (firstDigitZero : Bool) : VersionScan :=
  { s with
    segments := s.segments.modify s.segmentIndex fun n => n * 10 + (c.toNat - '0'.toNat)
    digits := s.digits + 1
    segmentFirstDigitZero := firstDigitZero }

/-- The body of the loop over the part before the dash. -/
def scanVersionChar (s : VersionScan) (c : Char) : Result VersionScan :=
  if c = '.' then
    if s.digits = 0 ∨ 2 ≤ s.segmentIndex then
      versionFailure "version must be MAJOR.MINOR.PATCH (three numeric segments)"
    else
      .ok { s with
        segmentIndex := s.segmentIndex + 1, digits := 0, segmentFirstDigitZero := false }
  else if c.isDigit = false then
    versionFailure "version must be MAJOR.MINOR.PATCH (ASCII digits and '.')"
  else if 4 ≤ s.digits then
    versionFailure "version segments must be <= 4 digits"
  else if s.digits = 0 then .ok (s.takeDigit c (c = '0'))
  else if s.segmentFirstDigitZero then
    versionFailure "version segments must not have leading zeros"
  else .ok (s.takeDigit c s.segmentFirstDigitZero)

def allowedInPrerelease (c : Char) : Bool :=
  c.isDigit || ('a' ≤ c && c ≤ 'z') || ('A' ≤ c && c ≤ 'Z') || c = '.' || c = '-'

/-- The checks of the part behind the dash. -/
def checkPrerelease (prerelease : Text) : Result Unit :=
  if prerelease = [] ∨ 32 < prerelease.length then
    versionFailure "prerelease must be 1..32 characters after '-'"
  else if prerelease.head? = some '.' ∨ prerelease.getLast? = some '.' ∨
      (Lib.cut ['.', '.'] prerelease).isSome then
    versionFailure "prerelease must not contain empty segments"
  else if prerelease.all allowedInPrerelease = false then
    versionFailure "prerelease accepts ASCII letters/digits/'.'/'-' only"
  else .ok ()

def parseConfigVersion (text : Text) : Result ConfigVersion :=
  if text = [] ∨ 48 < text.length then
    versionFailure "version must be 1..48 ASCII characters"
  else
    let dash := Lib.cut ['-'] text
    let body := dash.elim text Prod.fst
    let prerelease := dash.elim [] Prod.snd
    match body.foldlM scanVersionChar {} with
    | .error e => .error e
    | .ok scan =>
      if scan.digits = 0 ∨ scan.segmentIndex ≠ 2 then
        versionFailure "version must be MAJOR.MINOR.PATCH (three numeric segments)"
      else
        match if dash.isSome then checkPrerelease prerelease else .ok () with
        | .error e => .error e
        | .ok () =>
          .ok {
            major := scan.segments.getD 0 0
            minor := scan.segments.getD 1 0
            patch := scan.segments.getD 2 0
            prerelease := prerelease }

def formatConfigVersion (version : ConfigVersion) : Text :=
  let text := Lib.decimal version.major ++ '.' :: Lib.decimal version.minor ++
    '.' :: Lib.decimal version.patch
  if version.prerelease = [] then text else text ++ '-' :: version.prerelease

/-! ## The grammar -/

structure IsSegment (s : Text) : Prop where
  numeral : Lib.IsNumeral s
  short : s.length ≤ 4

structure IsPrerelease (p : Text) : Prop where
  nonempty : p ≠ []
  short : p.length ≤ 32
  chars : ∀ c ∈ p, allowedInPrerelease c = true
  first : p.head? ≠ some '.'
  last : p.getLast? ≠ some '.'
  single : ¬ ['.', '.'] <:+: p

/-- Nothing, or a dash and a prerelease. -/
def PrereleaseSuffix (prerelease suffix : Text) : Prop :=
  (prerelease = [] ∧ suffix = []) ∨ (IsPrerelease prerelease ∧ suffix = '-' :: prerelease)

def VersionText (text : Text) : Prop :=
  ∃ major minor patch prerelease suffix,
    IsSegment major ∧ IsSegment minor ∧ IsSegment patch ∧ PrereleaseSuffix prerelease suffix ∧
      text = major ++ '.' :: minor ++ '.' :: patch ++ suffix

/-! ## The scanner -/

/-- The value the loop builds from the digits of a segment. -/
def segmentValue (s : Text) : Nat := Nat.ofDigitChars 10 s 0

/-- The variables after the segments `done`, each with its dot, and the part `current` of the next. -/
def VersionScan.after (done : List Text) (current : Text) : VersionScan where
  segments := done.map segmentValue ++ segmentValue current :: List.replicate (2 - done.length) 0
  segmentIndex := done.length
  digits := current.length
  segmentFirstDigitZero := current.head? = some '0'

section Scan

variable {done : List Text} {current : Text} {c : Char}

theorem segmentValue_append (s : Text) (c : Char) :
    segmentValue (s ++ [c]) = segmentValue s * 10 + (c.toNat - '0'.toNat) := by
  rw [segmentValue, Nat.ofDigitChars_append, Nat.ofDigitChars_cons, Nat.ofDigitChars_nil,
    segmentValue, Nat.mul_comm]

theorem modify_append_cons (xs : List Nat) (n : Nat) (ys : List Nat) (f : Nat → Nat) :
    (xs ++ n :: ys).modify xs.length f = xs ++ f n :: ys := by
  induction xs with
  | nil => rfl
  | cons x xs ih => simp [ih]

theorem takeDigit_after {first : Bool} (h : first = decide ((current ++ [c]).head? = some '0')) :
    (VersionScan.after done current).takeDigit c first = .after done (current ++ [c]) := by
  have hmodify := modify_append_cons (done.map segmentValue) (segmentValue current)
    (List.replicate (2 - done.length) 0) fun n => n * 10 + (c.toNat - '0'.toNat)
  rw [List.length_map, ← segmentValue_append] at hmodify
  rw [VersionScan.takeDigit, h]
  simp only [VersionScan.after]
  rw [hmodify]
  simp

/-- A dot ends a segment that has digits, as long as it is not the third. -/
theorem scan_dot (hcurrent : current ≠ []) (hdone : done.length < 2) :
    scanVersionChar (.after done current) '.' = .ok (.after (done ++ [current]) []) := by
  have hgo : ¬ ((VersionScan.after done current).digits = 0 ∨
      2 ≤ (VersionScan.after done current).segmentIndex) := by
    simp only [VersionScan.after, List.length_eq_zero_iff]
    exact fun h => h.elim hcurrent (Nat.not_le.mpr hdone)
  have hrest : 2 - done.length = 2 - (done.length + 1) + 1 := by omega
  rw [scanVersionChar, if_pos rfl, if_neg hgo]
  simp [VersionScan.after, hrest, List.replicate_succ, segmentValue]

theorem scan_digit (hdigit : c.isDigit = true) (hroom : current.length < 4)
    (hzero : current.head? ≠ some '0') :
    scanVersionChar (.after done current) c = .ok (.after done (current ++ [c])) := by
  have hdot : c ≠ '.' := by
    rintro rfl
    exact absurd hdigit (by decide)
  rw [scanVersionChar, if_neg hdot, if_neg (by simp [hdigit]), if_neg (by simpa [VersionScan.after] using hroom)]
  split
  · case _ hnone =>
    have hnil : current = [] := List.length_eq_zero_iff.mp hnone
    rw [takeDigit_after (by simp [hnil])]
  · case _ hsome =>
    have hne : current ≠ [] := fun hnil => hsome (by simp [VersionScan.after, hnil])
    have hflag : (VersionScan.after done current).segmentFirstDigitZero = false := by
      simpa [VersionScan.after] using hzero
    have hhead : (current ++ [c]).head? = current.head? := List.head?_append_of_ne_nil current hne
    rw [hflag, if_neg Bool.false_ne_true, takeDigit_after (by simp [hhead, hzero])]

/-- What one turn can do. -/
theorem scan_cases {s : VersionScan} (h : scanVersionChar (.after done current) c = .ok s) :
    (c = '.' ∧ current ≠ [] ∧ done.length < 2 ∧ s = .after (done ++ [current]) []) ∨
    (c.isDigit = true ∧ current.length < 4 ∧ current.head? ≠ some '0' ∧
      s = .after done (current ++ [c])) := by
  by_cases hdot : c = '.'
  · subst hdot
    by_cases hgo : current ≠ [] ∧ done.length < 2
    · rw [scan_dot hgo.1 hgo.2] at h
      cases h
      exact .inl ⟨rfl, hgo.1, hgo.2, rfl⟩
    · have hstop : (VersionScan.after done current).digits = 0 ∨
          2 ≤ (VersionScan.after done current).segmentIndex := by
        simp only [VersionScan.after, List.length_eq_zero_iff]
        by_cases hcurrent : current = []
        · exact .inl hcurrent
        · exact .inr (Nat.not_lt.mp fun hdone => hgo ⟨hcurrent, hdone⟩)
      rw [scanVersionChar, if_pos rfl, if_pos hstop] at h
      cases h
  · right
    by_cases hgo : c.isDigit = true ∧ current.length < 4 ∧ current.head? ≠ some '0'
    · rw [scan_digit hgo.1 hgo.2.1 hgo.2.2] at h
      cases h
      exact ⟨hgo.1, hgo.2.1, hgo.2.2, rfl⟩
    · exfalso
      rw [scanVersionChar, if_neg hdot] at h
      split at h
      · cases h
      · case _ hdigit =>
        split at h
        · cases h
        · case _ hroom =>
          have hzero : current.head? = some '0' := by
            by_contra hzero
            exact hgo ⟨by simpa using hdigit, by simpa [VersionScan.after] using hroom, hzero⟩
          have hne : ¬ (VersionScan.after done current).digits = 0 := by
            intro hnone
            rw [List.length_eq_zero_iff.mp hnone] at hzero
            cases hzero
          have hflag : (VersionScan.after done current).segmentFirstDigitZero = true := by
            simp [VersionScan.after, hzero]
          rw [if_neg hne, hflag, if_pos rfl] at h
          cases h

/-- A segment grows by a digit. -/
theorem isSegment_append (hcurrent : current = [] ∨ IsSegment current) (hdigit : c.isDigit = true)
    (hroom : current.length < 4) (hzero : current.head? ≠ some '0') : IsSegment (current ++ [c]) := by
  refine ⟨⟨by simp, fun d hd => ?_, fun hhead => ?_⟩, by rw [List.length_append]; exact hroom⟩
  · rcases List.mem_append.mp hd with hd | hd
    · rcases hcurrent with rfl | hcurrent
      · cases hd
      · exact hcurrent.numeral.digits d hd
    · rw [List.mem_singleton.mp hd]
      exact hdigit
  · rcases hcurrent with rfl | hcurrent
    · simpa using hhead
    · rw [List.head?_append_of_ne_nil current hcurrent.numeral.nonempty] at hhead
      exact absurd hhead hzero

/-- Each segment with its dot. -/
def dotted (segments : List Text) : Text := segments.flatMap (· ++ ['.'])

/-- The text read so far: finished segments and the beginning of one. -/
def Scanned (text : Text) (s : VersionScan) : Prop :=
  ∃ done current, s = .after done current ∧ (∀ d ∈ done, IsSegment d) ∧
    (current = [] ∨ IsSegment current) ∧ text = dotted done ++ current

theorem scanned_nil : Scanned [] {} :=
  ⟨[], [], rfl, by simp, .inl rfl, rfl⟩

theorem scanned_step {text : Text} {s s' : VersionScan} (hs : Scanned text s)
    (h : scanVersionChar s c = .ok s') : Scanned (text ++ [c]) s' := by
  obtain ⟨done, current, rfl, hdone, hcurrent, rfl⟩ := hs
  rcases scan_cases h with ⟨rfl, hne, _, rfl⟩ | ⟨hdigit, hroom, hzero, rfl⟩
  · have hseg : IsSegment current := hcurrent.resolve_left hne
    refine ⟨done ++ [current], [], rfl, ?_, .inl rfl, by simp [dotted]⟩
    intro d hd
    rcases List.mem_append.mp hd with hd | hd
    · exact hdone d hd
    · rw [List.mem_singleton.mp hd]
      exact hseg
  · exact ⟨done, current ++ [c], rfl, hdone, .inr (isSegment_append hcurrent hdigit hroom hzero),
      (List.append_assoc _ _ _)⟩

theorem scanned_run {text body : Text} {s s' : VersionScan} (hs : Scanned text s)
    (h : body.foldlM scanVersionChar s = .ok s') : Scanned (text ++ body) s' := by
  induction body generalizing text s with
  | nil =>
    cases h
    simpa using hs
  | cons c body ih =>
    rw [List.foldlM_cons] at h
    rcases hstep : scanVersionChar s c with e | s₁
    · rw [hstep] at h
      cases h
    · rw [hstep] at h
      simpa using ih (scanned_step hs hstep) h

/-- The digits of a segment are taken one after the other. -/
theorem scan_segment {s : Text} (h : IsSegment (current ++ s)) :
    s.foldlM scanVersionChar (.after done current) = .ok (.after done (current ++ s)) := by
  induction s generalizing current with
  | nil => simp [pure, Except.pure]
  | cons c s ih =>
    have hdigit : c.isDigit = true := h.numeral.digits c (by simp)
    have hroom : current.length < 4 := by
      have hshort := h.short
      rw [List.length_append, List.length_cons] at hshort
      omega
    have hzero : current.head? ≠ some '0' := by
      intro hzero
      have hne : current ≠ [] := by
        rintro rfl
        cases hzero
      have hall := h.numeral.canonical ((List.head?_append_of_ne_nil current hne).trans hzero)
      have hlen := congrArg List.length hall
      have hpos := List.length_pos_iff.mpr hne
      rw [List.length_append, List.length_cons, List.length_singleton] at hlen
      omega
    have hnext : IsSegment (current ++ [c] ++ s) := by simpa using h
    rw [List.foldlM_cons, scan_digit hdigit hroom hzero]
    show s.foldlM scanVersionChar (.after done (current ++ [c])) = _
    rw [ih hnext, List.append_assoc, List.singleton_append]

/-- Three segments are scanned. -/
theorem scan_version {major minor patch : Text} (hmajor : IsSegment major) (hminor : IsSegment minor)
    (hpatch : IsSegment patch) :
    (major ++ '.' :: minor ++ '.' :: patch).foldlM scanVersionChar {} =
      .ok (.after [major, minor] patch) := by
  have hstart : ({} : VersionScan) = .after [] [] := rfl
  have hsegment : ∀ {done : List Text} {s : Text}, IsSegment s →
      s.foldlM scanVersionChar (.after done []) = .ok (.after done s) := fun hs => scan_segment hs
  rw [List.foldlM_append, List.foldlM_append, hstart, hsegment hmajor]
  show ('.' :: minor).foldlM scanVersionChar (.after [] major) >>= _ = _
  rw [List.foldlM_cons, scan_dot hmajor.numeral.nonempty (by simp)]
  show minor.foldlM scanVersionChar (.after [major] []) >>= _ = _
  rw [hsegment hminor]
  show ('.' :: patch).foldlM scanVersionChar (.after [major] minor) = _
  rw [List.foldlM_cons, scan_dot hminor.numeral.nonempty (by simp)]
  exact hsegment hpatch

/-- And nothing else is, up to the end of a third segment. -/
theorem scan_inv {body : Text} {s : VersionScan} (h : body.foldlM scanVersionChar {} = .ok s)
    (hdigits : s.digits ≠ 0) (hindex : s.segmentIndex = 2) :
    ∃ major minor patch, IsSegment major ∧ IsSegment minor ∧ IsSegment patch ∧
      body = major ++ '.' :: minor ++ '.' :: patch ∧ s = .after [major, minor] patch := by
  obtain ⟨done, patch, rfl, hdone, hpatch, hbody⟩ := scanned_run scanned_nil h
  obtain ⟨major, minor, rfl⟩ := List.length_eq_two.mp hindex
  have hne : patch ≠ [] := by
    rintro rfl
    exact hdigits rfl
  refine ⟨major, minor, patch, hdone major (by simp), hdone minor (by simp),
    hpatch.resolve_left hne, ?_, rfl⟩
  simpa [dotted] using hbody

end Scan

/-! ## The parser -/

theorem checkPrerelease_eq_ok_iff {p : Text} : checkPrerelease p = .ok () ↔ IsPrerelease p := by
  constructor
  · intro h
    unfold checkPrerelease versionFailure at h
    split at h
    · cases h
    · case _ hlength =>
      split at h
      · cases h
      · case _ hdots =>
        split at h
        · cases h
        · case _ hchars =>
          rw [not_or] at hlength
          rw [not_or, not_or, Lib.cut_isSome_iff] at hdots
          rw [Bool.not_eq_false, List.all_eq_true] at hchars
          exact ⟨hlength.1, Nat.not_lt.mp hlength.2, hchars, hdots.1, hdots.2.1, hdots.2.2⟩
  · intro h
    have hlength : ¬ (p = [] ∨ 32 < p.length) :=
      not_or.mpr ⟨h.nonempty, Nat.not_lt.mpr h.short⟩
    have hdots : ¬ (p.head? = some '.' ∨ p.getLast? = some '.' ∨ (Lib.cut ['.', '.'] p).isSome) := by
      rw [Lib.cut_isSome_iff]
      exact not_or.mpr ⟨h.first, not_or.mpr ⟨h.last, h.single⟩⟩
    have hchars : ¬ p.all allowedInPrerelease = false := by
      rw [Bool.not_eq_false, List.all_eq_true]
      exact h.chars
    rw [checkPrerelease, if_neg hlength, if_neg hdots, if_neg hchars]

section Parse

variable {major minor patch prerelease suffix : Text}

theorem dash_not_mem (hmajor : IsSegment major) (hminor : IsSegment minor) (hpatch : IsSegment patch) :
    '-' ∉ major ++ '.' :: minor ++ '.' :: patch := by
  have hdigits : ∀ {s : Text}, IsSegment s → '-' ∉ s := by
    intro s hs hmem
    exact absurd (hs.numeral.digits _ hmem) (by decide)
  simp [hdigits hmajor, hdigits hminor, hdigits hpatch]

/-- The first dash parts the version from its prerelease, which may hold more of them. -/
theorem cut_version (hmajor : IsSegment major) (hminor : IsSegment minor) (hpatch : IsSegment patch) :
    Lib.cut ['-'] (major ++ '.' :: minor ++ '.' :: patch ++ '-' :: prerelease) =
      some (major ++ '.' :: minor ++ '.' :: patch, prerelease) :=
  Lib.cut_of_head_not_mem (dash_not_mem hmajor hminor hpatch) prerelease

/-- The cap on the whole text follows from those on its parts. -/
theorem length_version (hmajor : IsSegment major) (hminor : IsSegment minor) (hpatch : IsSegment patch)
    (hsuffix : PrereleaseSuffix prerelease suffix) :
    ¬ (major ++ '.' :: minor ++ '.' :: patch ++ suffix = [] ∨
      48 < (major ++ '.' :: minor ++ '.' :: patch ++ suffix).length) := by
  have h₁ := hmajor.short
  have h₂ := hminor.short
  have h₃ := hpatch.short
  have h₄ : suffix.length ≤ 33 := by
    rcases hsuffix with ⟨_, rfl⟩ | ⟨hp, rfl⟩
    · simp
    · exact Nat.succ_le_succ hp.short
  simp
  omega

theorem parse_version (hmajor : IsSegment major) (hminor : IsSegment minor) (hpatch : IsSegment patch)
    (hsuffix : PrereleaseSuffix prerelease suffix) :
    parseConfigVersion (major ++ '.' :: minor ++ '.' :: patch ++ suffix) =
      .ok ⟨segmentValue major, segmentValue minor, segmentValue patch, prerelease⟩ := by
  have hscan := scan_version hmajor hminor hpatch
  have hend : ¬ ((VersionScan.after [major, minor] patch).digits = 0 ∨
      (VersionScan.after [major, minor] patch).segmentIndex ≠ 2) := by
    simp [VersionScan.after, hpatch.numeral.nonempty]
  rw [parseConfigVersion, if_neg (length_version hmajor hminor hpatch hsuffix)]
  rcases hsuffix with ⟨rfl, rfl⟩ | ⟨hp, rfl⟩
  · have hcut : Lib.cut ['-'] (major ++ '.' :: minor ++ '.' :: patch) = none :=
      Lib.cut_eq_none (dash_not_mem hmajor hminor hpatch)
    rw [List.append_nil]
    simp only [hcut, Option.elim_none, hscan]
    rw [if_neg hend]
    rfl
  · simp only [cut_version hmajor hminor hpatch, Option.elim_some, hscan]
    rw [if_neg hend, Option.isSome_some, if_pos rfl, checkPrerelease_eq_ok_iff.mpr hp]
    rfl

theorem parse_inv {text : Text} {version : ConfigVersion} (h : parseConfigVersion text = .ok version) :
    ∃ major minor patch suffix, IsSegment major ∧ IsSegment minor ∧ IsSegment patch ∧
      PrereleaseSuffix version.prerelease suffix ∧
      text = major ++ '.' :: minor ++ '.' :: patch ++ suffix ∧
      version = ⟨segmentValue major, segmentValue minor, segmentValue patch, version.prerelease⟩ := by
  rw [parseConfigVersion] at h
  split at h
  · cases h
  · simp only at h
    split at h
    · cases h
    · case _ scan hscan =>
      split at h
      · cases h
      · case _ hend =>
        rw [not_or, not_not] at hend
        obtain ⟨major, minor, patch, hmajor, hminor, hpatch, hbody, rfl⟩ :=
          scan_inv hscan hend.1 hend.2
        split at h
        · cases h
        · case _ hcheck =>
          cases h
          rcases hcut : Lib.cut ['-'] text with _ | ⟨body, prerelease⟩
          · rw [hcut, Option.elim_none] at hbody
            exact ⟨major, minor, patch, [], hmajor, hminor, hpatch, .inl ⟨rfl, rfl⟩,
              by rw [hbody, List.append_nil], rfl⟩
          · rw [hcut, Option.elim_some] at hbody
            rw [hcut, Option.isSome_some, if_pos rfl] at hcheck
            have hp : IsPrerelease prerelease := checkPrerelease_eq_ok_iff.mp hcheck
            refine ⟨major, minor, patch, '-' :: prerelease, hmajor, hminor, hpatch, .inr ⟨hp, rfl⟩, ?_, rfl⟩
            rw [Lib.eq_append_of_cut hcut, ← hbody]
            rfl

end Parse

section Format

theorem decimal_segmentValue {s : Text} (h : IsSegment s) : Lib.decimal (segmentValue s) = s :=
  Lib.decimal_ofDigitChars h.numeral

theorem segmentValue_decimal (n : Nat) : segmentValue (Lib.decimal n) = n :=
  Nat.ofDigitChars_ten_toDigits

theorem isSegment_decimal {n : Nat} (h : n ≤ 9999) : IsSegment (Lib.decimal n) :=
  ⟨Lib.isNumeral_decimal n, (Lib.length_decimal_le (by decide)).mpr (by omega)⟩

/-- The text of a version, with the suffix of its prerelease. -/
theorem format_eq {version : ConfigVersion} {suffix : Text}
    (h : PrereleaseSuffix version.prerelease suffix) :
    formatConfigVersion version = Lib.decimal version.major ++ '.' :: Lib.decimal version.minor ++
      '.' :: Lib.decimal version.patch ++ suffix := by
  rw [formatConfigVersion]
  rcases h with ⟨hnone, rfl⟩ | ⟨hp, rfl⟩
  · rw [if_pos hnone, List.append_nil]
  · rw [if_neg hp.nonempty]

end Format

/-- A version whose text the parser accepts. -/
structure ConfigVersion.Canonical (version : ConfigVersion) : Prop where
  major : version.major ≤ 9999
  minor : version.minor ≤ 9999
  patch : version.patch ≤ 9999
  prerelease : version.prerelease = [] ∨ IsPrerelease version.prerelease

/-- The parser accepts the texts of the grammar and no others, and inverts the formatter both ways. -/
theorem configVersion_grammar :
    (∀ text, (∃ version, parseConfigVersion text = .ok version) ↔ VersionText text) ∧
    (∀ text version, parseConfigVersion text = .ok version → formatConfigVersion version = text) ∧
    (∀ version : ConfigVersion, version.Canonical →
      parseConfigVersion (formatConfigVersion version) = .ok version) := by
  refine ⟨fun text => ⟨?_, ?_⟩, ?_, ?_⟩
  · rintro ⟨version, h⟩
    obtain ⟨major, minor, patch, suffix, hmajor, hminor, hpatch, hsuffix, rfl, _⟩ := parse_inv h
    exact ⟨major, minor, patch, _, suffix, hmajor, hminor, hpatch, hsuffix, rfl⟩
  · rintro ⟨major, minor, patch, prerelease, suffix, hmajor, hminor, hpatch, hsuffix, rfl⟩
    exact ⟨_, parse_version hmajor hminor hpatch hsuffix⟩
  · intro text version h
    obtain ⟨major, minor, patch, suffix, hmajor, hminor, hpatch, hsuffix, rfl, hversion⟩ := parse_inv h
    rw [format_eq hsuffix, hversion]
    simp only [decimal_segmentValue hmajor, decimal_segmentValue hminor, decimal_segmentValue hpatch]
  · intro version h
    obtain ⟨suffix, hsuffix⟩ : ∃ suffix, PrereleaseSuffix version.prerelease suffix := by
      rcases h.prerelease with hnone | hp
      · exact ⟨[], .inl ⟨hnone, rfl⟩⟩
      · exact ⟨_, .inr ⟨hp, rfl⟩⟩
    rw [format_eq hsuffix, parse_version (isSegment_decimal h.major) (isSegment_decimal h.minor)
      (isSegment_decimal h.patch) hsuffix]
    simp only [segmentValue_decimal]

theorem configVersion_grammar_beta :
    let version : ConfigVersion := ⟨1, 0, 9999, "beta-2.x".toList⟩
    version.Canonical ∧ formatConfigVersion version = "1.0.9999-beta-2.x".toList ∧
      parseConfigVersion (formatConfigVersion version) = .ok version := by
  intro version
  have hchars : version.prerelease.all allowedInPrerelease = true := by decide
  have hcanonical : version.Canonical :=
    ⟨by decide, by decide, by decide,
      .inr ⟨by decide, by decide, List.all_eq_true.mp hchars, by decide, by decide, by decide⟩⟩
  exact ⟨hcanonical, by decide, configVersion_grammar.2.2 version hcanonical⟩

end Config
end CppOptimizer
