import CppOptimizer.Lib.Run
import Mathlib.Logic.Function.Basic

/-!
# CppOptimizer.Service.TrayHost

The tray host (`tray_host.cpp`) from its one `Start` on: the thread that starts it, the UI thread
with its window and its notification icon, any number of threads that call `Stop`, and the user.

* `TrayHost.step`  — the critical sections and atomic accesses of all of them, in any order.
* `Shape`          — the window, the icon and the published fields, for each place of the UI thread.
* `TrayInv`        — what holds in every interleaving.
* `tray_lifecycle` — the icon is taken back, the exit callback comes at most once, and no stop is lost.

A stop before `Start` has cleared the flag is not heard, and is not meant to be. A `Start` that gives
up joins `worker_` without the lock. A `Stop` that moves `worker_` away under this join ends the
process: `crashed` is the state in which nothing happens any more.
-/

namespace CppOptimizer
namespace Service

open Lib

inductive TrayState where
  | idle | starting | running
  deriving DecidableEq, Repr

/-- `WM_CLOSE`, and the choice of the exit item. -/
inductive TrayMessage where
  | close | exit
  deriving DecidableEq, Repr

/-- Where the UI thread is in `Worker`. -/
inductive UiPc where
  | unborn
  | creating
  /-- The window is there, `AddIcon` is next. -/
  | windowed
  /-- The icon is there, the fields are not published. -/
  | shown
  | failing
  /-- The fields are published, `stopRequested_` is read next. -/
  | check
  | loop
  /-- In `CloseFromUiThread`: `RemoveIcon`, the flag, `DestroyWindow`. -/
  | closing | removed | flagged
  /-- `WM_QUIT` ends the loop, the last critical section is next. -/
  | quitting
  | finished
  deriving DecidableEq, Repr

/-- Where the starting thread is in `Start`. -/
inductive StartPc where
  | idle | reset | create | waiting | decide
  /-- The state is not `Running`, `worker_` is looked at next. -/
  | giveUp
  | joining
  | done (started : Bool)
  deriving DecidableEq, Repr

/-- Where a thread is in `Stop`. -/
inductive StopPc where
  | idle
  /-- The flag is set, the handle of the window is read next. -/
  | flagged
  | read (hwnd : Bool)
  | posted
  | joining
  | done (joined : Bool)
  deriving DecidableEq, Repr

structure TrayHost where
  state : TrayState := .idle
  hwnd : Bool := false
  iconAdded : Bool := false
  stopRequested : Bool := false
  exitRequested : Bool := false
  /-- `worker_` is joinable. -/
  worker : Bool := false
  /-- The window and the icon as the system has them, and the messages posted to the window. -/
  window : Bool := false
  icon : Bool := false
  queue : List TrayMessage := []
  starter : StartPc := .idle
  ui : UiPc := .unborn
  stoppers : Nat → StopPc := fun _ => .idle
  exits : Nat := 0
  added : Nat := 0
  removed : Nat := 0
  /-- Two threads have joined `worker_`. -/
  crashed : Bool := false

inductive TrayEvent where
  /-- A step of `Start`; `ok` says whether a thread can be created, `timeout` ends the wait. -/
  | start (ok timeout : Bool)
  /-- A step of the UI thread; `ok` says whether the call of this step works. -/
  | ui (ok : Bool)
  | stop (thread : Nat)
  /-- The user, or a test, chooses the exit item. -/
  | chooseExit
  deriving DecidableEq, Repr

namespace TrayHost

/-- A posted message is lost when there is no window. -/
def post (t : TrayHost) (message : TrayMessage) : TrayHost :=
  if t.window then { t with queue := t.queue ++ [message] } else t

def startStep (t : TrayHost) (ok timeout : Bool) : TrayHost :=
  match t.starter with
  | .idle => { t with state := .starting, hwnd := false, iconAdded := false, starter := .reset }
  | .reset => { t with stopRequested := false, exitRequested := false, starter := .create }
  | .create =>
    if ok then { t with worker := true, ui := .creating, starter := .waiting }
    else { t with state := .idle, starter := .done false }
  | .waiting => if t.state ≠ .starting ∨ timeout = true then { t with starter := .decide } else t
  | .decide =>
    if t.state = .running then { t with starter := .done true } else { t with starter := .giveUp }
  | .giveUp =>
    if t.worker then { t with starter := .joining } else { t with starter := .done false }
  | .joining => if t.ui = .finished then { t with worker := false, starter := .done false } else t
  | .done _ => t

/-- `RequestExitFromUiThread`. -/
def requestExit (t : TrayHost) : TrayHost :=
  let t' : TrayHost :=
    { t with exitRequested := true, exits := if t.exitRequested then t.exits else t.exits + 1 }
  if t.hwnd then t'.post .close else t'

def uiStep (t : TrayHost) (ok : Bool) : TrayHost :=
  match t.ui with
  | .unborn => t
  | .creating =>
    if ok then { t with window := true, ui := .windowed } else { t with ui := .failing }
  | .windowed =>
    if ok then { t with icon := true, added := t.added + 1, ui := .shown }
    else { t with window := false, queue := [], ui := .failing }
  | .shown => { t with hwnd := true, iconAdded := true, state := .running, ui := .check }
  | .failing => { t with hwnd := false, iconAdded := false, state := .idle, ui := .finished }
  | .check => { (if t.stopRequested then t.post .close else t) with ui := .loop }
  | .loop =>
    match t.queue with
    | [] => t
    | .close :: queue => { t with queue := queue, ui := .closing }
    | .exit :: queue => { t with queue := queue }.requestExit
  | .closing =>
    if t.iconAdded then { t with icon := false, removed := t.removed + 1, ui := .removed }
    else { t with ui := .removed }
  | .removed => { t with iconAdded := false, ui := .flagged }
  | .flagged => { t with window := false, queue := [], ui := .quitting }
  | .quitting => { t with hwnd := false, iconAdded := false, state := .idle, ui := .finished }
  | .finished => t

def stopStep (t : TrayHost) (thread : Nat) : TrayHost :=
  match t.stoppers thread with
  | .idle => { t with stopRequested := true, stoppers := Function.update t.stoppers thread .flagged }
  | .flagged => { t with stoppers := Function.update t.stoppers thread (.read t.hwnd) }
  | .read hwnd =>
    { (if hwnd then t.post .close else t) with
      stoppers := Function.update t.stoppers thread .posted }
  | .posted =>
    if t.worker then
      if t.starter = .joining then { t with crashed := true }
      else { t with worker := false, stoppers := Function.update t.stoppers thread .joining }
    else { t with stoppers := Function.update t.stoppers thread (.done false) }
  | .joining =>
    if t.ui = .finished then { t with stoppers := Function.update t.stoppers thread (.done true) }
    else t
  | .done _ => t

/-- The exit item needs the icon, or the window once it is published. -/
def chooseExitStep (t : TrayHost) : TrayHost :=
  if t.icon ∨ t.hwnd then t.post .exit else t

def step (t : TrayHost) (e : TrayEvent) : TrayHost :=
  if t.crashed then t
  else
    match e with
    | .start ok timeout => t.startStep ok timeout
    | .ui ok => t.uiStep ok
    | .stop thread => t.stopStep thread
    | .chooseExit => t.chooseExitStep

end TrayHost

/-! ## What holds in every interleaving -/

/-- What is there and what is published. -/
structure Shape where
  window : Bool := false
  icon : Bool := false
  hwnd : Bool := false
  iconAdded : Bool := false
  deriving DecidableEq, Repr

def UiPc.shape : UiPc → Shape
  | .unborn | .creating | .failing | .finished => {}
  | .windowed => { window := true }
  | .shown => { window := true, icon := true }
  | .check | .loop | .closing => { window := true, icon := true, hwnd := true, iconAdded := true }
  | .removed => { window := true, hwnd := true, iconAdded := true }
  | .flagged => { window := true, hwnd := true }
  | .quitting => { hwnd := true }

def TrayHost.shape (t : TrayHost) : Shape :=
  { window := t.window, icon := t.icon, hwnd := t.hwnd, iconAdded := t.iconAdded }

/-- The published state, while there is a UI thread. -/
def UiPc.state : UiPc → TrayState
  | .unborn | .finished => .idle
  | .creating | .windowed | .shown | .failing => .starting
  | .check | .loop | .closing | .removed | .flagged | .quitting => .running

/-- `Start` has not created the thread yet. -/
def StartPc.Before : StartPc → Prop
  | .idle | .reset | .create => True
  | _ => False

/-- A `Stop` between its flag and its message. -/
def StopPc.Midway : StopPc → Prop
  | .flagged | .read true => True
  | _ => False

structure TrayInv (t : TrayHost) : Prop where
  shape : t.shape = t.ui.shape
  state : t.ui ≠ .unborn → t.state = t.ui.state
  before : t.starter.Before → t.ui = .unborn
  starting : t.starter = .reset ∨ t.starter = .create → t.state = .starting
  unborn : t.ui = .unborn → t.exitRequested = false
  exits : t.exits = t.exitRequested.toNat
  icons : t.added = t.removed + t.icon.toNat
  /-- No stop is lost: the message is there, or on its way. -/
  heard : t.ui = .loop → t.stopRequested = true →
    .close ∈ t.queue ∨ ∃ thread, (t.stoppers thread).Midway
  /-- Somebody will join the thread. -/
  owned : t.ui = .unborn ∨ t.ui = .finished ∨ t.worker = true ∨ ∃ thread, t.stoppers thread = .joining
  started : t.starter = .done false → t.ui = .unborn ∨ t.ui = .finished ∨
    ∃ thread, t.stoppers thread = .joining
  joined : ∀ thread, t.stoppers thread = .done true → t.ui = .finished

namespace TrayHost

section Steps

variable {t : TrayHost}

@[simp] theorem post_queue (h : t.window = true) (message : TrayMessage) :
    t.post message = { t with queue := t.queue ++ [message] } := if_pos h

theorem inv_init : TrayInv {} where
  shape := rfl
  state h := absurd rfl h
  before _ := rfl
  starting h := by rcases h with h | h <;> cases h
  unborn _ := rfl
  exits := rfl
  icons := rfl
  heard h := by cases h
  owned := .inl rfl
  started h := by cases h
  joined _ h := by cases h

/-- The starting thread goes on after the creation of the UI thread. -/
theorem inv_starter (h : TrayInv t) {starter : StartPc} (hs : ¬ starter.Before)
    (hstarted : starter = .done false → t.ui = .unborn ∨ t.ui = .finished ∨
      ∃ thread, t.stoppers thread = .joining) : TrayInv { t with starter := starter } where
  shape := h.shape
  state := h.state
  before hb := absurd hb hs
  starting hb := by rcases hb with rfl | rfl <;> exact absurd trivial hs
  unborn := h.unborn
  exits := h.exits
  icons := h.icons
  heard := h.heard
  owned := h.owned
  started := hstarted
  joined := h.joined

theorem inv_startStep (h : TrayInv t) (ok timeout : Bool) : TrayInv (t.startStep ok timeout) := by
  unfold startStep
  split
  case _ hs =>
    have hui : t.ui = .unborn := h.before (by rw [hs]; trivial)
    have hshape : t.shape = {} := by rw [h.shape, hui]; rfl
    exact {
      h with
      shape := by rw [hui]; exact congrArg (fun s : Shape => { s with hwnd := false, iconAdded := false }) hshape
      state := fun hne => absurd hui hne
      before := fun _ => hui
      starting := fun _ => rfl
      started := fun hd => by cases hd }
  case _ hs =>
    have hui : t.ui = .unborn := h.before (by rw [hs]; trivial)
    have hexits : t.exits = 0 := by rw [h.exits, h.unborn hui]; rfl
    exact {
      h with
      before := fun _ => hui
      starting := fun _ => h.starting (.inl hs)
      unborn := fun _ => rfl
      exits := hexits
      heard := fun hloop => by rw [hui] at hloop; cases hloop
      started := fun hd => by cases hd }
  case _ hs =>
    have hui : t.ui = .unborn := h.before (by rw [hs]; trivial)
    have hstate := h.starting (.inr hs)
    split
    · exact {
        h with
        shape := (by rw [h.shape, hui]; rfl : t.shape = {})
        state := fun _ => hstate
        before := fun hb => hb.elim
        starting := fun hb => by rcases hb with hb | hb <;> cases hb
        unborn := fun hne => by cases hne
        heard := fun hloop => by cases hloop
        owned := .inr (.inr (.inl rfl))
        started := fun hd => by cases hd
        joined := fun thread hj => by
          have := h.joined thread hj
          rw [hui] at this
          cases this }
    · exact {
        h with
        state := fun hne => absurd hui hne
        before := fun hb => hb.elim
        starting := fun hb => by rcases hb with hb | hb <;> cases hb
        started := fun _ => .inl hui }
  case _ =>
    split
    · exact inv_starter h id fun hd => by cases hd
    · exact h
  case _ => split <;> exact inv_starter h id fun hd => by cases hd
  case _ =>
    split
    · exact inv_starter h id fun hd => by cases hd
    · case _ hworker =>
      refine inv_starter h id fun _ => ?_
      rcases h.owned with hu | hf | hw | hj
      · exact .inl hu
      · exact .inr (.inl hf)
      · exact absurd hw hworker
      · exact .inr (.inr hj)
  case _ =>
    split
    · case _ hf =>
      have hdone : TrayInv { t with starter := .done false } :=
        inv_starter h id fun _ => .inr (.inl hf)
      exact { hdone with owned := .inr (.inl hf) }
    · exact h
  case _ => exact h

/-- What the place of the UI thread says of the window, the icon and the published fields. -/
theorem fields (h : TrayInv t) : t.window = t.ui.shape.window ∧ t.icon = t.ui.shape.icon ∧
    t.hwnd = t.ui.shape.hwnd ∧ t.iconAdded = t.ui.shape.iconAdded := by
  rw [← h.shape]
  exact ⟨rfl, rfl, rfl, rfl⟩

/-- A step of the UI thread leaves the other threads where they are. -/
theorem inv_move (h : TrayInv t) (hborn : t.ui ≠ .unborn) (halive : t.ui ≠ .finished) {t' : TrayHost}
    (hstarter : t'.starter = t.starter) (hstoppers : t'.stoppers = t.stoppers)
    (hworker : t'.worker = t.worker) (hborn' : t'.ui ≠ .unborn) (hshape : t'.shape = t'.ui.shape)
    (hstate : t'.state = t'.ui.state) (hexits : t'.exits = t'.exitRequested.toNat)
    (hicons : t'.added = t'.removed + t'.icon.toNat)
    (hheard : t'.ui = .loop → t'.stopRequested = true →
      .close ∈ t'.queue ∨ ∃ thread, (t'.stoppers thread).Midway) : TrayInv t' where
  shape := hshape
  state _ := hstate
  before hb := absurd (h.before (hstarter ▸ hb)) hborn
  starting hb := by
    rw [hstarter] at hb
    have hbefore : t.starter.Before := by
      rcases hb with hb | hb <;> (rw [hb]; trivial)
    exact absurd (h.before hbefore) hborn
  unborn hu := absurd hu hborn'
  exits := hexits
  icons := hicons
  heard := hheard
  owned := by
    rw [hworker, hstoppers]
    exact .inr (.inr ((h.owned.resolve_left hborn).resolve_left halive))
  started hd := by
    rw [hstarter] at hd
    rw [hstoppers]
    exact .inr (.inr (((h.started hd).resolve_left hborn).resolve_left halive))
  joined thread hj := by
    rw [hstoppers] at hj
    exact absurd (h.joined thread hj) halive

theorem inv_requestExit (h : TrayInv t) (hui : t.ui = .loop) {queue : List TrayMessage} :
    TrayInv (requestExit { t with queue := queue }) := by
  obtain ⟨hwindow, hicon, hhwnd, hadded⟩ := fields h
  rw [hui] at hwindow hicon hhwnd hadded
  have hpost : requestExit { t with queue := queue } =
      { t with queue := queue ++ [.close], exitRequested := true
               exits := if t.exitRequested then t.exits else t.exits + 1 } :=
    (if_pos hhwnd).trans (if_pos hwindow)
  rw [hpost]
  refine inv_move h (by simp [hui]) (by simp [hui]) rfl rfl rfl (by simp [hui]) h.shape
    (h.state (by simp [hui])) ?_ h.icons fun _ _ => .inl (by simp)
  have hexits := h.exits
  cases hreq : t.exitRequested
  · simp only [Bool.false_eq_true, if_false]
    rw [hexits, hreq]
    rfl
  · simp only [if_true]
    rw [hexits, hreq]

theorem inv_uiStep (h : TrayInv t) (ok : Bool) : TrayInv (t.uiStep ok) := by
  obtain ⟨hwindow, hicon, hhwnd, hadded⟩ := fields h
  unfold uiStep
  split
  case _ => exact h
  case _ hui =>
    rw [hui] at hwindow hicon hhwnd hadded
    have hstate := h.state (by simp [hui])
    rw [hui] at hstate
    split
    · exact inv_move h (by simp [hui]) (by simp [hui]) rfl rfl rfl (by simp)
        (by simp [shape, UiPc.shape, hicon, hhwnd, hadded]) hstate h.exits h.icons
        fun hl => by cases hl
    · exact inv_move h (by simp [hui]) (by simp [hui]) rfl rfl rfl (by simp)
        (by simp [shape, UiPc.shape, hwindow, hicon, hhwnd, hadded]) hstate h.exits h.icons
        fun hl => by cases hl
  case _ hui =>
    rw [hui] at hwindow hicon hhwnd hadded
    have hstate := h.state (by simp [hui])
    rw [hui] at hstate
    have hicons := h.icons
    rw [hicon] at hicons
    split
    · exact inv_move h (by simp [hui]) (by simp [hui]) rfl rfl rfl (by simp)
        (by simp [shape, UiPc.shape, hwindow, hhwnd, hadded]) hstate h.exits
        (congrArg (· + 1) hicons) fun hl => by cases hl
    · exact inv_move h (by simp [hui]) (by simp [hui]) rfl rfl rfl (by simp)
        (by simp [shape, UiPc.shape, hicon, hhwnd, hadded]) hstate h.exits h.icons
        fun hl => by cases hl
  case _ hui =>
    rw [hui] at hwindow hicon
    exact inv_move h (by simp [hui]) (by simp [hui]) rfl rfl rfl (by simp)
      (by simp [shape, UiPc.shape, hwindow, hicon]) rfl h.exits h.icons fun hl => by cases hl
  case _ hui =>
    rw [hui] at hwindow hicon
    exact inv_move h (by simp [hui]) (by simp [hui]) rfl rfl rfl (by simp)
      (by simp [shape, UiPc.shape, hwindow, hicon]) rfl h.exits h.icons fun hl => by cases hl
  case _ hui =>
    have hshape := h.shape
    rw [hui] at hshape hwindow
    have hstate := h.state (by simp [hui])
    rw [hui] at hstate
    split
    · case _ hstop =>
      rw [post_queue hwindow]
      exact inv_move h (by simp [hui]) (by simp [hui]) rfl rfl rfl (by simp) hshape hstate h.exits
        h.icons fun _ _ => .inl (by simp)
    · case _ hstop =>
      exact inv_move h (by simp [hui]) (by simp [hui]) rfl rfl rfl (by simp) hshape hstate h.exits
        h.icons fun _ hs => absurd hs hstop
  case _ hui =>
    have hshape := h.shape
    rw [hui] at hshape
    have hstate := h.state (by simp [hui])
    rw [hui] at hstate
    split
    · exact h
    · exact inv_move h (by simp [hui]) (by simp [hui]) rfl rfl rfl (by simp) hshape hstate h.exits
        h.icons fun hl => by cases hl
    · exact inv_requestExit h hui
  case _ hui =>
    rw [hui] at hwindow hicon hhwnd hadded
    have hstate := h.state (by simp [hui])
    rw [hui] at hstate
    have hicons := h.icons
    rw [hicon] at hicons
    rw [if_pos (show t.iconAdded = true from hadded)]
    exact inv_move h (by simp [hui]) (by simp [hui]) rfl rfl rfl (by simp)
      (by simp [shape, UiPc.shape, hwindow, hhwnd, hadded]) hstate h.exits hicons
      fun hl => by cases hl
  case _ hui =>
    rw [hui] at hwindow hicon hhwnd
    have hstate := h.state (by simp [hui])
    rw [hui] at hstate
    exact inv_move h (by simp [hui]) (by simp [hui]) rfl rfl rfl (by simp)
      (by simp [shape, UiPc.shape, hwindow, hicon, hhwnd]) hstate h.exits h.icons
      fun hl => by cases hl
  case _ hui =>
    rw [hui] at hicon hhwnd hadded
    have hstate := h.state (by simp [hui])
    rw [hui] at hstate
    exact inv_move h (by simp [hui]) (by simp [hui]) rfl rfl rfl (by simp)
      (by simp [shape, UiPc.shape, hicon, hhwnd, hadded]) hstate h.exits h.icons
      fun hl => by cases hl
  case _ hui =>
    rw [hui] at hwindow hicon
    exact inv_move h (by simp [hui]) (by simp [hui]) rfl rfl rfl (by simp)
      (by simp [shape, UiPc.shape, hwindow, hicon]) rfl h.exits h.icons fun hl => by cases hl
  case _ => exact h

/-- A stopping thread moves on. -/
theorem inv_stopper (h : TrayInv t) {thread : Nat} {pc : StopPc}
    (hjoining : t.stoppers thread ≠ .joining) (hdone : pc ≠ .done true)
    (hmidway : (t.stoppers thread).Midway → pc.Midway ∨ t.ui ≠ .loop ∨ .close ∈ t.queue) :
    TrayInv { t with stoppers := Function.update t.stoppers thread pc } := by
  have hkeep : ∀ φ : StopPc → Prop, ¬ φ (t.stoppers thread) → (∃ i, φ (t.stoppers i)) →
      ∃ i, φ (Function.update t.stoppers thread pc i) := by
    rintro φ hno ⟨i, hi⟩
    have hne : i ≠ thread := fun heq => hno (heq ▸ hi)
    exact ⟨i, by rw [Function.update_of_ne hne]; exact hi⟩
  exact {
    h with
    heard := fun hloop hstop => by
      rcases h.heard hloop hstop with hclose | hmid
      · exact .inl hclose
      · by_cases hthis : (t.stoppers thread).Midway
        · rcases hmidway hthis with hpc | hno | hclose
          · refine .inr ⟨thread, ?_⟩
            show (Function.update t.stoppers thread pc thread).Midway
            rw [Function.update_self]
            exact hpc
          · exact absurd hloop hno
          · exact .inl hclose
        · exact .inr (hkeep _ hthis hmid)
    owned := h.owned.imp_right (·.imp_right (·.imp_right (hkeep (· = .joining) hjoining)))
    started := fun hd => (h.started hd).imp_right (·.imp_right (hkeep (· = .joining) hjoining))
    joined := fun i hi => by
      by_cases heq : i = thread
      · rw [heq] at hi
        simp only [Function.update_self] at hi
        exact absurd hi hdone
      · simp only [Function.update_of_ne heq] at hi
        exact h.joined i hi }

theorem inv_post (h : TrayInv t) (message : TrayMessage) : TrayInv (t.post message) := by
  unfold post
  split
  · exact { h with heard := fun hloop hstop => (h.heard hloop hstop).imp_left (List.mem_append_left _) }
  · exact h

theorem inv_stopStep (h : TrayInv t) (thread : Nat) : TrayInv (t.stopStep thread) := by
  unfold stopStep
  split
  case _ hs =>
    -- the flag is set, and the thread is midway from here on
    have hset : TrayInv { t with stoppers := Function.update t.stoppers thread .flagged } :=
      inv_stopper h (by simp [hs]) (by simp) fun hm => by rw [hs] at hm; exact hm.elim
    exact { hset with heard := fun _ _ => .inr ⟨thread, by simp [StopPc.Midway]⟩ }
  case _ hs =>
    refine inv_stopper h (by simp [hs]) (by simp) fun _ => ?_
    by_cases hloop : t.ui = .loop
    · have hhwnd : t.hwnd = true := by rw [(fields h).2.2.1, hloop]; rfl
      rw [hhwnd]
      exact .inl trivial
    · exact .inr (.inl hloop)
  case _ hwnd hs =>
    cases hwnd
    · exact inv_stopper h (by simp [hs]) (by simp) fun hm => by rw [hs] at hm; exact hm.elim
    · have hsame : (t.post .close).stoppers = t.stoppers := by
        unfold post
        split <;> rfl
      have hposted : TrayInv { t.post .close with
          stoppers := Function.update (t.post .close).stoppers thread .posted } := by
        refine inv_stopper (inv_post h .close) (by simp [hsame, hs]) (by simp) fun _ => ?_
        by_cases hloop : t.ui = .loop
        · have hwindow : t.window = true := by rw [(fields h).1, hloop]; rfl
          rw [post_queue hwindow]
          exact .inr (.inr (by simp))
        · refine .inr (.inl ?_)
          unfold post
          split <;> exact hloop
      rw [hsame] at hposted
      exact hposted
  case _ hs =>
    split
    · split
      · exact { h with shape := h.shape }
      · have htaken : TrayInv { t with stoppers := Function.update t.stoppers thread .joining } :=
          inv_stopper h (by simp [hs]) (by simp) fun hm => by rw [hs] at hm; exact hm.elim
        exact { htaken with owned := .inr (.inr (.inr ⟨thread, by simp⟩)) }
    · exact inv_stopper h (by simp [hs]) (by simp) fun hm => by rw [hs] at hm; exact hm.elim
  case _ hs =>
    split
    · case _ hf =>
      exact {
        h with
        heard := fun hloop => by
          have hloop : t.ui = .loop := hloop
          rw [hf] at hloop
          cases hloop
        owned := .inr (.inl hf)
        started := fun _ => .inr (.inl hf)
        joined := fun _ _ => hf }
    · exact h
  case _ => exact h

theorem inv_step (h : TrayInv t) (e : TrayEvent) : TrayInv (t.step e) := by
  unfold step
  split
  · exact h
  · cases e with
    | start ok timeout => exact inv_startStep h ok timeout
    | ui ok => exact inv_uiStep h ok
    | stop thread => exact inv_stopStep h thread
    | chooseExit =>
      show TrayInv t.chooseExitStep
      unfold chooseExitStep
      split
      · exact inv_post h .exit
      · exact h

theorem inv_run (h : TrayInv t) (es : List TrayEvent) : TrayInv (run step t es) := by
  induction es generalizing t with
  | nil => exact h
  | cons e es ih => exact ih (inv_step h e)

end Steps

/-! ## The end of the process -/

/-- A `Stop` is about to move `worker_` away under the join of `Start`. -/
def Overtaken (t : TrayHost) : Prop :=
  t.starter = .joining ∧ ∃ thread, t.stoppers thread = .posted

section Crash

variable {t : TrayHost}

theorem crashed_step (h : t.crashed = true) (e : TrayEvent) : t.step e = t := if_pos h

theorem crashed_run (h : t.crashed = true) (es : List TrayEvent) : run step t es = t := by
  induction es with
  | nil => rfl
  | cons e es ih => rw [run_cons, crashed_step h, ih]

theorem crashed_post (t : TrayHost) (message : TrayMessage) :
    (t.post message).crashed = t.crashed := by
  unfold post
  split <;> rfl

theorem crashed_startStep (t : TrayHost) (ok timeout : Bool) :
    (t.startStep ok timeout).crashed = t.crashed := by
  unfold startStep
  repeat' split
  all_goals rfl

theorem crashed_requestExit (t : TrayHost) : (requestExit t).crashed = t.crashed := by
  unfold requestExit
  dsimp only
  split
  · exact crashed_post _ _
  · rfl

theorem crashed_uiStep (t : TrayHost) (ok : Bool) : (t.uiStep ok).crashed = t.crashed := by
  unfold uiStep
  repeat' split
  all_goals first | rfl | exact crashed_post _ _ | exact crashed_requestExit _

/-- Only such a `Stop` ends the process, and it leaves everything else as it was. -/
theorem crashed_stopStep (hlive : t.crashed = false) {thread : Nat}
    (h : (t.stopStep thread).crashed = true) : Overtaken (t.stopStep thread) := by
  have hlive' : t.crashed ≠ true := by simp [hlive]
  unfold stopStep at h ⊢
  cases hs : t.stoppers thread with
  | posted =>
    simp only [hs] at h ⊢
    by_cases hworker : t.worker = true
    · by_cases hjoin : t.starter = .joining
      · rw [if_pos hworker, if_pos hjoin]
        exact ⟨hjoin, thread, hs⟩
      · rw [if_pos hworker, if_neg hjoin] at h
        exact absurd h hlive'
    · rw [if_neg hworker] at h
      exact absurd h hlive'
  | read hwnd =>
    have hsame : (if hwnd then t.post .close else t).crashed = t.crashed := by
      cases hwnd
      · rfl
      · exact crashed_post t .close
    simp only [hs] at h
    exact absurd (hsame.symm.trans h) hlive'
  | joining =>
    simp only [hs] at h
    split at h <;> exact absurd h hlive'
  | idle | flagged | done =>
    simp only [hs] at h
    exact absurd h hlive'

theorem crashed_cause (hlive : t.crashed = false) (e : TrayEvent)
    (h : (t.step e).crashed = true) : Overtaken (t.step e) := by
  have hlive' : t.crashed ≠ true := by simp [hlive]
  unfold step at h ⊢
  rw [if_neg hlive'] at h ⊢
  cases e with
  | start ok timeout => exact absurd ((crashed_startStep t ok timeout).symm.trans h) hlive'
  | ui ok => exact absurd ((crashed_uiStep t ok).symm.trans h) hlive'
  | stop thread => exact crashed_stopStep hlive h
  | chooseExit =>
    have hsame : t.chooseExitStep.crashed = t.crashed := by
      unfold chooseExitStep
      split
      · exact crashed_post t .exit
      · rfl
    exact absurd (hsame.symm.trans h) hlive'

theorem run_crashed_cause (hlive : t.crashed = false) (es : List TrayEvent)
    (h : (run step t es).crashed = true) : Overtaken (run step t es) := by
  induction es generalizing t with
  | nil => exact absurd h (by simp [hlive])
  | cons e es ih =>
    rw [run_cons] at h ⊢
    cases hc : (t.step e).crashed with
    | false => exact ih hc h
    | true =>
      rw [crashed_run hc]
      exact crashed_cause hlive e hc

end Crash

end TrayHost

/-! ## A stop that was heard -/

/-- The steps of the UI thread from here to its message loop. -/
def UiPc.toLoop : UiPc → Nat
  | .creating => 4
  | .windowed => 3
  | .shown => 2
  | .check | .failing => 1
  | _ => 0

def TrayEvent.isUi : TrayEvent → Bool
  | .ui _ => true
  | _ => false

namespace TrayHost

/-- The messages that the UI thread handles before the first `close`. -/
def ahead (queue : List TrayMessage) : Nat := (queue.takeWhile (· ≠ .close)).length

/-- The steps of the UI thread from its message loop to its end, if a `close` is in the queue. -/
def left (t : TrayHost) : Nat :=
  match t.ui with
  | .loop => ahead t.queue + 5
  | .closing => 4
  | .removed => 3
  | .flagged => 2
  | .quitting => 1
  | _ => 0

/-- The UI thread will come to its end. -/
structure Doomed (t : TrayHost) : Prop where
  inv : TrayInv t
  born : t.ui ≠ .unborn
  stop : t.stopRequested = true
  close : t.ui = .loop → .close ∈ t.queue

section Doomed

variable {t : TrayHost}

theorem ahead_append {queue : List TrayMessage} (h : .close ∈ queue) (late : List TrayMessage) :
    ahead (queue ++ late) = ahead queue := by
  induction queue with
  | nil => cases h
  | cons message queue ih =>
    cases message with
    | close => rfl
    | exit =>
      have hrest : .close ∈ queue := by simpa using h
      exact congrArg (· + 1) (ih hrest)

/-- What the other threads can do to the UI thread: put messages at the end of its queue. -/
structure Others (t t' : TrayHost) : Prop where
  ui : t'.ui = t.ui
  stop : t.stopRequested = true → t'.stopRequested = true
  queue : ∃ late, t'.queue = t.queue ++ late

theorem others_rfl {t' : TrayHost} (hui : t'.ui = t.ui) (hqueue : t'.queue = t.queue)
    (hstop : t.stopRequested = true → t'.stopRequested = true) : Others t t' :=
  ⟨hui, hstop, [], by rw [hqueue, List.append_nil]⟩

theorem others_post (t : TrayHost) (message : TrayMessage) : Others t (t.post message) := by
  unfold post
  split
  · exact ⟨rfl, id, [message], rfl⟩
  · exact others_rfl rfl rfl id

theorem others_startStep (h : TrayInv t) (hborn : t.ui ≠ .unborn) (ok timeout : Bool) :
    Others t (t.startStep ok timeout) := by
  have hstarter : ¬ t.starter.Before := fun hb => hborn (h.before hb)
  unfold startStep
  split
  case _ hs | _ hs | _ hs => exact absurd (by rw [hs]; trivial) hstarter
  all_goals repeat' split
  all_goals apply others_rfl <;> first | rfl | exact id

theorem others_stopStep (t : TrayHost) (thread : Nat) : Others t (t.stopStep thread) := by
  unfold stopStep
  split
  case _ => apply others_rfl <;> first | rfl | exact fun _ => rfl
  case _ => apply others_rfl <;> first | rfl | exact id
  case _ hwnd _ =>
    cases hwnd
    · apply others_rfl <;> first | rfl | exact id
    · obtain ⟨hui, hstop, hqueue⟩ := others_post t .close
      exact ⟨hui, hstop, hqueue⟩
  all_goals repeat' split
  all_goals apply others_rfl <;> first | rfl | exact id

/-- A step of another thread. -/
theorem others_step (h : TrayInv t) (hborn : t.ui ≠ .unborn) {e : TrayEvent} (he : e.isUi = false) :
    Others t (t.step e) := by
  unfold step
  split
  · exact others_rfl rfl rfl id
  · cases e with
    | ui ok => cases he
    | start ok timeout => exact others_startStep h hborn ok timeout
    | stop thread => exact others_stopStep t thread
    | chooseExit =>
      show Others t t.chooseExitStep
      unfold chooseExitStep
      split
      · exact others_post t .exit
      · exact others_rfl rfl rfl id

theorem Doomed.others {t' : TrayHost} (h : Doomed t) (hinv : TrayInv t') (ho : Others t t') :
    Doomed t' where
  inv := hinv
  born := ho.ui ▸ h.born
  stop := ho.stop h.stop
  close hloop := by
    obtain ⟨late, hlate⟩ := ho.queue
    rw [hlate]
    exact List.mem_append_left late (h.close (ho.ui ▸ hloop))

/-- Messages that come later are not ahead of the `close`. -/
theorem Doomed.left_others {t' : TrayHost} (h : Doomed t) (ho : Others t t') : left t' = left t := by
  obtain ⟨late, hlate⟩ := ho.queue
  unfold left
  rw [ho.ui, hlate]
  split
  · case _ hloop => rw [ahead_append (h.close hloop)]
  all_goals rfl

theorem left_le (t : TrayHost) : left t ≤ ahead t.queue + 5 := by
  unfold left
  split <;> omega

/-- A step of the UI thread brings it nearer to its loop, or in the loop to its end. -/
structure Nearer (t t' : TrayHost) : Prop where
  doomed : Doomed t'
  toLoop : t'.ui.toLoop ≤ t.ui.toLoop - 1
  left : t.ui.toLoop = 0 → left t' + 1 ≤ left t

/-- The thread is not in its loop afterwards, where a `close` would be needed. -/
theorem Doomed.nearer (h : Doomed t) {t' : TrayHost} (hborn : t'.ui ≠ .unborn)
    (hstop : t'.stopRequested = t.stopRequested) (hloop : t'.ui ≠ .loop)
    (htoLoop : t'.ui.toLoop ≤ t.ui.toLoop - 1) (hleft : t.ui.toLoop = 0 → left t' + 1 ≤ left t)
    (hinv : TrayInv t') : Nearer t t' :=
  ⟨⟨hinv, hborn, hstop.trans h.stop, fun hl => absurd hl hloop⟩, htoLoop, hleft⟩

theorem Doomed.uiStep (h : Doomed t) (halive : t.ui ≠ .finished) (ok : Bool) :
    Nearer t (t.uiStep ok) := by
  have hinv := inv_uiStep h.inv ok
  have hborn := h.born
  obtain ⟨hwindow, -, hhwnd, hadded⟩ := fields h.inv
  revert hinv
  unfold TrayHost.uiStep
  split
  case _ hui => exact absurd hui hborn
  case _ hui =>
    split <;> exact h.nearer (by simp) rfl (by simp) (by simp [hui, UiPc.toLoop])
      (by simp [hui, UiPc.toLoop])
  case _ hui =>
    split <;> exact h.nearer (by simp) rfl (by simp) (by simp [hui, UiPc.toLoop])
      (by simp [hui, UiPc.toLoop])
  case _ hui =>
    exact h.nearer (by simp) rfl (by simp) (by simp [hui, UiPc.toLoop]) (by simp [hui, UiPc.toLoop])
  case _ hui =>
    exact h.nearer (by simp) rfl (by simp) (by simp [hui, UiPc.toLoop]) (by simp [hui, UiPc.toLoop])
  case _ hui =>
    rw [hui] at hwindow
    rw [if_pos h.stop, post_queue hwindow]
    exact fun hinv => ⟨⟨hinv, by simp, h.stop, fun _ => by simp⟩, by simp [hui, UiPc.toLoop],
      by simp [hui, UiPc.toLoop]⟩
  case _ hui =>
    have hclose := h.close hui
    rw [hui] at hwindow hhwnd
    split
    · case _ hq =>
      rw [hq] at hclose
      cases hclose
    · case _ queue hq =>
      exact h.nearer (by simp) rfl (by simp) (by simp [UiPc.toLoop])
        fun _ => by simp [TrayHost.left, hui]
    · case _ queue hq =>
      have hrest : .close ∈ queue := by simpa [hq] using hclose
      have hpost : requestExit { t with queue := queue } =
          { t with queue := queue ++ [.close], exitRequested := true
                   exits := if t.exitRequested then t.exits else t.exits + 1 } :=
        (if_pos hhwnd).trans (if_pos hwindow)
      rw [hpost]
      refine fun hinv => ⟨⟨hinv, hborn, h.stop, fun _ => by simp⟩, by simp [hui, UiPc.toLoop],
        fun _ => ?_⟩
      simp only [TrayHost.left, hui, hq, ahead_append hrest]
      show ahead queue + 5 + 1 ≤ ahead queue + 1 + 5
      omega
  case _ hui =>
    rw [hui] at hadded
    rw [if_pos (show t.iconAdded = true from hadded)]
    exact h.nearer (by simp) rfl (by simp) (by simp [UiPc.toLoop]) (by simp [TrayHost.left, hui])
  case _ hui =>
    exact h.nearer (by simp) rfl (by simp) (by simp [UiPc.toLoop]) (by simp [TrayHost.left, hui])
  case _ hui =>
    exact h.nearer (by simp) rfl (by simp) (by simp [UiPc.toLoop]) (by simp [TrayHost.left, hui])
  case _ hui =>
    exact h.nearer (by simp) rfl (by simp) (by simp [UiPc.toLoop]) (by simp [TrayHost.left, hui])
  case _ hui => exact absurd hui halive

/-- One step of a host whose UI thread will end: of that thread, or of another. -/
theorem Doomed.advance (h : Doomed t) (hlive : t.crashed ≠ true) (halive : t.ui ≠ .finished)
    (e : TrayEvent) :
    (e.isUi = true ∧ Nearer t (t.step e)) ∨
      (e.isUi = false ∧ Doomed (t.step e) ∧ Others t (t.step e)) := by
  cases he : e.isUi with
  | true =>
    cases e with
    | ui ok =>
      have hstep : t.step (.ui ok) = t.uiStep ok := if_neg hlive
      rw [hstep]
      exact .inl ⟨rfl, h.uiStep halive ok⟩
    | _ => cases he
  | false =>
    have ho := others_step h.inv h.born he
    exact .inr ⟨rfl, h.others (inv_step h.inv e) ho, ho⟩

theorem finished_step (h : TrayInv t) (hf : t.ui = .finished) (e : TrayEvent) :
    (t.step e).ui = .finished := by
  have hborn : t.ui ≠ .unborn := by simp [hf]
  cases he : e.isUi with
  | false => rw [(others_step h hborn he).ui, hf]
  | true =>
    cases e with
    | ui ok =>
      unfold step
      split
      · exact hf
      · simp [uiStep, hf]
    | _ => cases he

theorem finished_run (h : TrayInv t) (hf : t.ui = .finished) (es : List TrayEvent) :
    (run step t es).ui = .finished := by
  induction es generalizing t with
  | nil => exact hf
  | cons e es ih => exact ih (inv_step h e) (finished_step h hf e)

/-- Over: the process has crashed, or the UI thread has ended. -/
def Over (t : TrayHost) : Prop := t.crashed = true ∨ t.ui = .finished

theorem Over.run (h : Over t) (hinv : TrayInv t) (es : List TrayEvent) : Over (run step t es) := by
  rcases h with h | h
  · rw [crashed_run h]
    exact .inl h
  · exact .inr (finished_run hinv h es)

/-- So many steps of the UI thread bring it to its loop, whatever the others do in between. -/
theorem Doomed.loops (h : Doomed t) (es : List TrayEvent)
    (hes : t.ui.toLoop ≤ es.countP TrayEvent.isUi) :
    Over (run step t es) ∨ Doomed (run step t es) ∧ (run step t es).ui.toLoop = 0 := by
  induction es generalizing t with
  | nil => exact .inr ⟨h, Nat.le_zero.mp hes⟩
  | cons e es ih =>
    by_cases hover : Over t
    · exact .inl (hover.run h.inv (e :: es))
    · obtain ⟨hlive, halive⟩ := not_or.mp hover
      rw [run_cons]
      rw [List.countP_cons] at hes
      rcases h.advance hlive halive e with ⟨he, hnear⟩ | ⟨he, hdoomed, ho⟩
      · refine ih hnear.doomed ?_
        have hloop := hnear.toLoop
        rw [if_pos he] at hes
        omega
      · refine ih hdoomed ?_
        rw [ho.ui]
        simpa [he] using hes

/-- So many more bring it from there to its end. -/
theorem Doomed.finishes (h : Doomed t) (hloop : t.ui.toLoop = 0) (es : List TrayEvent)
    (hes : left t ≤ es.countP TrayEvent.isUi) : Over (run step t es) := by
  induction es generalizing t with
  | nil =>
    have hborn := h.born
    have hleft : left t = 0 := Nat.le_zero.mp hes
    refine .inr ?_
    show t.ui = .finished
    cases hui : t.ui <;> simp_all [UiPc.toLoop, left]
  | cons e es ih =>
    by_cases hover : Over t
    · exact hover.run h.inv (e :: es)
    · obtain ⟨hlive, halive⟩ := not_or.mp hover
      rw [run_cons]
      rw [List.countP_cons] at hes
      rcases h.advance hlive halive e with ⟨he, hnear⟩ | ⟨he, hdoomed, ho⟩
      · have hleft := hnear.left hloop
        have hnext := hnear.toLoop
        rw [if_pos he] at hes
        exact ih hnear.doomed (by omega) (by omega)
      · refine ih hdoomed (by rw [ho.ui, hloop]) ?_
        rw [h.left_others ho]
        simpa [he] using hes

end Doomed

end TrayHost

open TrayHost in
/-- In every interleaving of `Start`, the UI thread, any number of `Stop` calls and the user: the exit
callback comes at most once; each icon added is taken back, and none is left with the thread; a
`Start` that fails leaves no thread that nobody joins, and a `Stop` that has joined finds it ended.
Once a stop is set and no `Stop` is between its flag and its message, the UI thread is in its loop
after four steps of its own at most, and comes to its end within five more and one for each message
that is then ahead of the first `close`, whatever the others do; also when the stop was set before the
window was published. Only a `Stop` that overtakes the join of a `Start` ends the process first. -/
theorem tray_lifecycle (es : List TrayEvent) :
    (run step {} es).exits ≤ 1 ∧
    (run step {} es).added = (run step {} es).removed + (run step {} es).icon.toNat ∧
    ((run step {} es).ui = .finished →
      (run step {} es).shape = {} ∧ (run step {} es).state = .idle) ∧
    ((run step {} es).starter = .done false → (run step {} es).ui = .unborn ∨
      (run step {} es).ui = .finished ∨ ∃ thread, (run step {} es).stoppers thread = .joining) ∧
    (∀ thread, (run step {} es).stoppers thread = .done true → (run step {} es).ui = .finished) ∧
    ((run step {} es).crashed = true → Overtaken (run step {} es)) ∧
    ((run step {} es).stopRequested = true → (run step {} es).ui ≠ .unborn →
      (∀ thread, ¬ ((run step {} es).stoppers thread).Midway) →
      (run step {} es).ui.toLoop ≤ 4 ∧
      ∀ fs, (run step {} es).ui.toLoop ≤ fs.countP TrayEvent.isUi →
        ∀ gs, ahead (run step {} (es ++ fs)).queue + 5 ≤ gs.countP TrayEvent.isUi →
          Over (run step {} (es ++ fs ++ gs))) := by
  have h := inv_run inv_init es
  refine ⟨?_, h.icons, fun hf => ⟨?_, ?_⟩, h.started, h.joined, run_crashed_cause rfl es,
    fun hstop hborn hmid => ⟨?_, fun fs hfs gs hgs => ?_⟩⟩
  · rw [h.exits]
    cases (run step {} es).exitRequested <;> decide
  · rw [h.shape, hf]
    rfl
  · rw [h.state (by simp [hf]), hf]
    rfl
  · cases (run step {} es).ui <;> decide
  · have hdoomed : Doomed (run step {} es) := ⟨h, hborn, hstop, fun hloop => by
      rcases h.heard hloop hstop with hclose | ⟨thread, hm⟩
      · exact hclose
      · exact absurd hm (hmid thread)⟩
    rw [run_append, run_append]
    rw [run_append] at hgs
    rcases hdoomed.loops fs hfs with hover | ⟨hloops, hin⟩
    · exact hover.run (inv_run h fs) gs
    · exact hloops.finishes hin gs (Nat.le_trans (left_le _) hgs)

/-- A whole `Stop` between the creation of the window and its publication. -/
def stopBeforeWindow : List TrayEvent :=
  List.replicate 3 (.start true false) ++ [.ui true, .ui true] ++ List.replicate 4 (.stop 0)

/-- The user chooses the exit item before the window is published: one message is ahead then. -/
theorem tray_lifecycle_early_stop :
    (run TrayHost.step {} (stopBeforeWindow ++ (.chooseExit :: List.replicate 2 (.ui true)) ++
      (.chooseExit :: List.replicate 6 (.ui true)))).ui = .finished := by
  have hover := ((tray_lifecycle stopBeforeWindow).2.2.2.2.2.2 (by decide) (by decide)
    fun thread => ?_).2 (.chooseExit :: List.replicate 2 (.ui true)) (by decide)
    (.chooseExit :: List.replicate 6 (.ui true)) (by decide)
  · exact hover.resolve_left (by decide)
  · have hstoppers : (run TrayHost.step {} stopBeforeWindow).stoppers =
        Function.update (Function.update (Function.update (Function.update (fun _ => .idle) 0 .flagged)
          0 (.read false)) 0 .posted) 0 .joining := rfl
    rw [hstoppers]
    by_cases heq : thread = 0
    · simp [heq, StopPc.Midway]
    · simp [Function.update_of_ne heq, StopPc.Midway]

end Service
end CppOptimizer
