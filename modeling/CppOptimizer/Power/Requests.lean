import Mathlib.Algebra.Ring.Nat
import CppOptimizer.Lib.Run
import CppOptimizer.Power.Locker

/-!
# CppOptimizer.Power.Requests

The request objects behind a locker.

* `recorded B`      — the backend `B` with a record of the handles it created and closed and of the
  requests in force. The record follows the answers of `B`: a request is in force once it is set and
  until it is cleared or its handle is closed.
* `FreshRequests B` — the backend never hands out `0` or a handle it handed out before.
* `Tracked w`       — the open handles are those in the lock states, one for each type that is
  counted, each with the request of its type in force; no handle was closed twice.

The backend may fail at any call. `RequestsInv` is kept by every call of the locker.
-/

namespace CppOptimizer
namespace Power

open Common Lib

structure Requests (τ : Type) where
  inner : τ
  created : List UInt64 := []
  closed : List UInt64 := []
  inForce : List (UInt64 × PowerLockType) := []

variable {τ : Type}

def Requests.open (r : Requests τ) (h : UInt64) : Prop := h ∈ r.created ∧ h ∉ r.closed

def recorded (B : PowerRequestBackend τ) : PowerRequestBackend (Requests τ) where
  createRequest reason r :=
    match B.createRequest reason r.inner with
    | (.error e, t) => (.error e, { r with inner := t })
    | (.ok h, t) => (.ok h, { r with inner := t, created := h :: r.created })
  setRequest h type r :=
    match B.setRequest h type r.inner with
    | (.error e, t) => (.error e, { r with inner := t })
    | (.ok (), t) => (.ok (), { r with inner := t, inForce := (h, type) :: r.inForce })
  clearRequest h type r :=
    match B.clearRequest h type r.inner with
    | (.error e, t) => (.error e, { r with inner := t })
    | (.ok (), t) => (.ok (), { r with inner := t, inForce := r.inForce.filter (· ≠ (h, type)) })
  closeRequest h r :=
    { r with inner := B.closeRequest h r.inner, closed := h :: r.closed,
             inForce := r.inForce.filter (·.1 ≠ h) }

structure FreshRequests (B : PowerRequestBackend τ) where
  used : τ → UInt64 → Prop
  create_fresh : ∀ {reason t h t'}, B.createRequest reason t = (.ok h, t') →
    h ≠ 0 ∧ ¬ used t h ∧ used t' h
  create_used : ∀ {reason t h}, used t h → used (B.createRequest reason t).2 h
  set_used : ∀ {handle type t h}, used t h → used (B.setRequest handle type t).2 h
  clear_used : ∀ {handle type t h}, used t h → used (B.clearRequest handle type t).2 h
  close_used : ∀ {handle t h}, used t h → used (B.closeRequest handle t) h

inductive LockCall where
  | acquire (type : PowerLockType) (reason : String)
  | release (type : PowerLockType)
  | releaseAll
  deriving DecidableEq, Repr

def Locker.call (B : PowerRequestBackend τ) (w : Locker τ) : LockCall → Locker τ
  | .acquire type reason => (w.acquireLock B type reason).2
  | .release type => (w.releaseLock B type).2
  | .releaseAll => w.releaseAll B

/-- `h` is an open handle whose request of this type is in force. -/
def HoldsRequest (w : Locker (Requests τ)) (type : PowerLockType) (h : UInt64) : Prop :=
  w.backend.open h ∧ (h, type) ∈ w.backend.inForce

structure Tracked (w : Locker (Requests τ)) : Prop where
  live : ∀ h, w.backend.open h ↔ ∃ type, 0 < (w.state type).count ∧ (w.state type).handle = h
  requests : ∀ h type, (h, type) ∈ w.backend.inForce ↔
    0 < (w.state type).count ∧ (w.state type).handle = h
  apart : ∀ type type', 0 < (w.state type).count → 0 < (w.state type').count →
    (w.state type).handle = (w.state type').handle → type = type'
  closedOnce : w.backend.closed.Nodup

/-- The type is counted under this handle. -/
def Counted (w : Locker (Requests τ)) (type : PowerLockType) (h : UInt64) : Prop :=
  0 < (w.state type).count ∧ (w.state type).handle = h

theorem Tracked.of_counted {w : Locker (Requests τ)}
    (hlive : ∀ h, w.backend.open h ↔ ∃ type, Counted w type h)
    (hrequests : ∀ h type, (h, type) ∈ w.backend.inForce ↔ Counted w type h)
    (hapart : ∀ h type type', Counted w type h → Counted w type' h → type = type')
    (honce : w.backend.closed.Nodup) : Tracked w :=
  ⟨hlive, hrequests, fun _ _ hc hc' heq => hapart _ _ _ ⟨hc, heq⟩ ⟨hc', rfl⟩, honce⟩

theorem Tracked.open_iff {w : Locker (Requests τ)} (hw : Tracked w) (h : UInt64) :
    w.backend.open h ↔ ∃ type, Counted w type h := hw.live h

theorem Tracked.inForce_iff {w : Locker (Requests τ)} (hw : Tracked w) (h : UInt64)
    (type : PowerLockType) : (h, type) ∈ w.backend.inForce ↔ Counted w type h := hw.requests h type

theorem Tracked.counted_unique {w : Locker (Requests τ)} (hw : Tracked w) {h : UInt64}
    {type type' : PowerLockType} (hc : Counted w type h) (hc' : Counted w type' h) : type = type' :=
  hw.apart type type' hc.1 hc'.1 (hc.2.trans hc'.2.symm)

theorem counted_setState (w : Locker (Requests τ)) (type type' : PowerLockType)
    (state : LockState) (h : UInt64) :
    Counted (w.setState type state) type' h ↔
      if type' = type then 0 < state.count ∧ state.handle = h else Counted w type' h := by
  rw [Counted, Locker.setState_state]
  split <;> rfl

structure RequestsInv {B : PowerRequestBackend τ} (F : FreshRequests B) (w : Locker (Requests τ)) :
    Prop where
  tracked : Tracked w
  used : ∀ h ∈ w.backend.created, F.used w.backend.inner h
  nonzero : 0 ∉ w.backend.created
  closedCreated : ∀ h ∈ w.backend.closed, h ∈ w.backend.created

/-- The backend moved on and remembers every handle it handed out. -/
def FreshRequests.Le {B : PowerRequestBackend τ} (F : FreshRequests B) (t t' : τ) : Prop :=
  ∀ h, F.used t h → F.used t' h

namespace RequestsInv

variable {B : PowerRequestBackend τ} {F : FreshRequests B} {w w' : Locker (Requests τ)}
  {type : PowerLockType} {h : UInt64} {t' : τ}

theorem init (F : FreshRequests B) (t : τ) : RequestsInv F { backend := { inner := t } } where
  tracked := by
    have hidle : ∀ type,
        (({ backend := { inner := t } } : Locker (Requests τ)).state type).count = 0 := by
      intro type
      cases type <;> rfl
    refine ⟨?_, ?_, ?_, List.nodup_nil⟩
    · simp [Requests.open, hidle]
    · simp [hidle]
    · simp [hidle]
  used := by simp
  nonzero := by simp
  closedCreated := by simp

theorem handle_open (hI : RequestsInv F w) (hc : 0 < (w.state type).count) :
    w.backend.open (w.state type).handle :=
  (hI.tracked.live _).mpr ⟨type, hc, rfl⟩

theorem handle_ne_zero (hI : RequestsInv F w) (hc : 0 < (w.state type).count) :
    (w.state type).handle ≠ 0 := by
  intro h0
  have hopen := hI.handle_open hc
  rw [h0] at hopen
  exact hI.nonzero hopen.1

theorem touch (hI : RequestsInv F w) (hle : F.Le w.backend.inner t') :
    RequestsInv F { w with backend := { w.backend with inner := t' } } where
  tracked := by
    obtain ⟨hlive, hrequests, hapart, honce⟩ := hI.tracked
    exact ⟨by simpa only [Locker.state_backend, Requests.open] using hlive,
      by simpa only [Locker.state_backend] using hrequests,
      by simpa only [Locker.state_backend] using hapart, honce⟩
  used h hh := hle h (hI.used h hh)
  nonzero := hI.nonzero
  closedCreated := hI.closedCreated

/-- A lock that is counted stays counted, under its handle. -/
theorem recount (hI : RequestsInv F w) {n : Nat} (hc : 0 < (w.state type).count) (hn : 0 < n) :
    RequestsInv F (w.setState type { w.state type with count := n }) := by
  have hcounted : ∀ type' h',
      Counted (w.setState type { w.state type with count := n }) type' h' ↔ Counted w type' h' := by
    intro type' h'
    rw [counted_setState]
    split
    · rename_i heq
      simp [Counted, heq, hc, hn]
    · rfl
  obtain ⟨htracked, hused, hnonzero, hclosed⟩ := hI
  refine ⟨.of_counted ?_ ?_ ?_ ?_, ?_, ?_, ?_⟩
  · simpa only [Locker.setState_backend, hcounted] using htracked.open_iff
  · simpa only [Locker.setState_backend, hcounted] using htracked.inForce_iff
  · intro h' type₁ type₂ h₁ h₂
    rw [hcounted] at h₁ h₂
    exact htracked.counted_unique h₁ h₂
  · simpa only [Locker.setState_backend] using htracked.closedOnce
  · simpa only [Locker.setState_backend] using hused
  · simpa only [Locker.setState_backend] using hnonzero
  · simpa only [Locker.setState_backend] using hclosed

/-- A handle never handed out before carries no request. -/
theorem not_inForce (hI : RequestsInv F w) (hfresh : ¬ F.used w.backend.inner h)
    (type : PowerLockType) : (h, type) ∉ w.backend.inForce := by
  intro hmem
  obtain ⟨hc, heq⟩ := (hI.tracked.requests h type).mp hmem
  have hopen := hI.handle_open hc
  rw [heq] at hopen
  exact hfresh (hI.used h hopen.1)

theorem used_cons (hI : RequestsInv F w) (hle : F.Le w.backend.inner t') (hh : F.used t' h) :
    ∀ h' ∈ h :: w.backend.created, F.used t' h' := by
  intro h' hh'
  rcases List.mem_cons.mp hh' with rfl | hh'
  · exact hh
  · exact hle h' (hI.used h' hh')

theorem nonzero_cons (hI : RequestsInv F w) (hne : h ≠ 0) : 0 ∉ h :: w.backend.created := by
  intro h0
  rcases List.mem_cons.mp h0 with h0 | h0
  · exact hne h0.symm
  · exact hI.nonzero h0

/-- A fresh handle that is closed at once is not open afterwards. -/
theorem open_close (hI : RequestsInv F w) (hfresh : ¬ F.used w.backend.inner h) (h' : UInt64) :
    (h' ∈ h :: w.backend.created ∧ h' ∉ h :: w.backend.closed) ↔ w.backend.open h' := by
  rw [List.mem_cons, List.mem_cons, not_or]
  constructor
  · rintro ⟨rfl | hcreated, hne, hclosed⟩
    · exact absurd rfl hne
    · exact ⟨hcreated, hclosed⟩
  · rintro ⟨hcreated, hclosed⟩
    refine ⟨.inr hcreated, ?_, hclosed⟩
    rintro rfl
    exact hfresh (hI.used h' hcreated)

/-- A fresh handle is created and closed again. -/
theorem openClose (hI : RequestsInv F w) (hne : h ≠ 0) (hfresh : ¬ F.used w.backend.inner h)
    (hle : F.Le w.backend.inner t') (hh : F.used t' h) :
    RequestsInv F { w with
      backend := { inner := t', created := h :: w.backend.created, closed := h :: w.backend.closed,
                   inForce := w.backend.inForce.filter (·.1 ≠ h) } } := by
  have hnc : h ∉ w.backend.closed := fun hc => hfresh (hI.used h (hI.closedCreated h hc))
  refine ⟨⟨?_, ?_, ?_, List.nodup_cons.mpr ⟨hnc, hI.tracked.closedOnce⟩⟩, hI.used_cons hle hh,
    hI.nonzero_cons hne, ?_⟩
  · intro h'
    simp only [Locker.state_backend]
    exact (hI.open_close hfresh h').trans (hI.tracked.live h')
  · intro h' type
    simp only [Locker.state_backend, ne_eq, decide_not, List.mem_filter, Bool.not_eq_eq_eq_not,
      Bool.not_true, decide_eq_false_iff_not]
    rw [← hI.tracked.requests h' type]
    constructor
    · exact fun hmem => hmem.1
    · intro hmem
      refine ⟨hmem, ?_⟩
      rintro rfl
      exact hI.not_inForce hfresh type hmem
  · simpa only [Locker.state_backend] using hI.tracked.apart
  · intro h' hh'
    rcases List.mem_cons.mp hh' with rfl | hh'
    · exact List.mem_cons_self
    · exact List.mem_cons_of_mem h (hI.closedCreated h' hh')

/-- A fresh handle is created, its request set, and both stored under a type that was idle. -/
theorem take (hI : RequestsInv F w) (hc : (w.state type).count = 0) (reason : String) (hne : h ≠ 0)
    (hfresh : ¬ F.used w.backend.inner h) (hle : F.Le w.backend.inner t') (hh : F.used t' h) :
    RequestsInv F ({ w with backend := { w.backend with
        inner := t', created := h :: w.backend.created,
        inForce := (h, type) :: w.backend.inForce } }.setState type
      { count := 1, handle := h, reason := reason }) := by
  have hnc : h ∉ w.backend.closed := fun hc => hfresh (hI.used h (hI.closedCreated h hc))
  have hnot : ∀ type', ¬ Counted w type' h := by
    rintro type' ⟨hc', rfl⟩
    exact hfresh (hI.used _ (hI.handle_open hc').1)
  have hcounted : ∀ type' h', Counted ({ w with backend := { w.backend with
        inner := t', created := h :: w.backend.created,
        inForce := (h, type) :: w.backend.inForce } }.setState type
      { count := 1, handle := h, reason := reason }) type' h' ↔
        (h' = h ∧ type' = type) ∨ Counted w type' h' := by
    intro type' h'
    rw [counted_setState]
    split
    · rename_i heq
      simp [Counted, heq, hc, eq_comm]
    · rename_i hother
      simp [Counted, Locker.state_backend, hother]
  refine ⟨.of_counted ?_ ?_ ?_ ?_, ?_, ?_, ?_⟩
  · intro h'
    simp only [hcounted, exists_or, ← hI.tracked.open_iff, exists_and_left, exists_eq, and_true, Requests.open,
      Locker.setState_backend, List.mem_cons]
    constructor
    · rintro ⟨hnew | hcreated, hclosed⟩
      · exact .inl hnew
      · exact .inr ⟨hcreated, hclosed⟩
    · rintro (rfl | ⟨hcreated, hclosed⟩)
      · exact ⟨.inl rfl, hnc⟩
      · exact ⟨.inr hcreated, hclosed⟩
  · intro h' type'
    rw [hcounted, Locker.setState_backend, List.mem_cons, Prod.mk.injEq, hI.tracked.inForce_iff]
  · intro h' type₁ type₂ h₁ h₂
    rw [hcounted] at h₁ h₂
    rcases h₁ with ⟨rfl, rfl⟩ | h₁
    · rcases h₂ with ⟨-, rfl⟩ | h₂
      · rfl
      · exact absurd h₂ (hnot type₂)
    · rcases h₂ with ⟨rfl, -⟩ | h₂
      · exact absurd h₁ (hnot type₁)
      · exact hI.tracked.counted_unique h₁ h₂
  · simpa only [Locker.setState_backend] using hI.tracked.closedOnce
  · simpa only [Locker.setState_backend] using hI.used_cons hle hh
  · simpa only [Locker.setState_backend] using hI.nonzero_cons hne
  · intro h' hh'
    simp only [Locker.setState_backend] at hh' ⊢
    exact List.mem_cons_of_mem h (hI.closedCreated h' hh')

/-- The handle of a counted type is closed and its state cleared. -/
theorem drop (hI : RequestsInv F w) (hc : 0 < (w.state type).count) (hle : F.Le w.backend.inner t')
    {inForce : List (UInt64 × PowerLockType)}
    (hforce : ∀ p, p ∈ inForce ↔ p ∈ w.backend.inForce ∧ p.1 ≠ (w.state type).handle) :
    RequestsInv F ({ w with backend := { w.backend with
        inner := t', closed := (w.state type).handle :: w.backend.closed,
        inForce := inForce } }.setState type {}) := by
  obtain ⟨hcreated, hclosed⟩ := hI.handle_open hc
  have hcounted : ∀ type' h', Counted ({ w with backend := { w.backend with
        inner := t', closed := (w.state type).handle :: w.backend.closed,
        inForce := inForce } }.setState type {}) type' h' ↔
        Counted w type' h' ∧ h' ≠ (w.state type).handle := by
    intro type' h'
    rw [counted_setState]
    split
    · rename_i heq
      simp only [heq, Counted, lt_irrefl, false_and, false_iff, not_and, not_not, and_imp]
      exact fun _ h => h.symm
    · rename_i hother
      refine ⟨fun hc' => ⟨hc', ?_⟩, fun hc' => hc'.1⟩
      rintro rfl
      exact hother (hI.tracked.counted_unique hc' ⟨hc, rfl⟩)
  refine ⟨.of_counted ?_ ?_ ?_ ?_, ?_, ?_, ?_⟩
  · intro h'
    simp only [hcounted, exists_and_right, ← hI.tracked.open_iff, Requests.open,
      Locker.setState_backend, List.mem_cons, not_or]
    constructor
    · rintro ⟨hcreated', hne, hclosed'⟩
      exact ⟨⟨hcreated', hclosed'⟩, hne⟩
    · rintro ⟨⟨hcreated', hclosed'⟩, hne⟩
      exact ⟨hcreated', hne, hclosed'⟩
  · intro h' type'
    rw [hcounted, Locker.setState_backend, hforce, hI.tracked.inForce_iff]
  · intro h' type₁ type₂ h₁ h₂
    rw [hcounted] at h₁ h₂
    exact hI.tracked.counted_unique h₁.1 h₂.1
  · simp only [Locker.setState_backend]
    exact List.nodup_cons.mpr ⟨hclosed, hI.tracked.closedOnce⟩
  · intro h' hh'
    simp only [Locker.setState_backend] at hh' ⊢
    exact hle h' (hI.used h' hh')
  · simpa only [Locker.setState_backend] using hI.nonzero
  · intro h' hh'
    simp only [Locker.setState_backend] at hh' ⊢
    rcases List.mem_cons.mp hh' with rfl | hh'
    · exact hcreated
    · exact hI.closedCreated h' hh'

end RequestsInv

/-! ## The answers of the recorded backend -/

section Answers

variable {B : PowerRequestBackend τ} (F : FreshRequests B) {r r' : Requests τ} {h : UInt64}
  {type : PowerLockType} {reason : String} {e : Error}

theorem create_error (hr : (recorded B).createRequest reason r = (.error e, r')) :
    ∃ t, F.Le r.inner t ∧ r' = { r with inner := t } := by
  have hle : F.Le r.inner (B.createRequest reason r.inner).2 := fun _ => F.create_used
  simp only [recorded] at hr
  split at hr
  · rename_i t hcreate
    cases hr
    rw [hcreate] at hle
    exact ⟨t, hle, rfl⟩
  · cases hr

theorem create_ok (hr : (recorded B).createRequest reason r = (.ok h, r')) :
    h ≠ 0 ∧ ¬ F.used r.inner h ∧ ∃ t, F.Le r.inner t ∧ F.used t h ∧
      r' = { r with inner := t, created := h :: r.created } := by
  have hle : F.Le r.inner (B.createRequest reason r.inner).2 := fun _ => F.create_used
  simp only [recorded] at hr
  split at hr
  · cases hr
  · rename_i t hcreate
    cases hr
    rw [hcreate] at hle
    obtain ⟨hne, hfresh, hused⟩ := F.create_fresh hcreate
    exact ⟨hne, hfresh, t, hle, hused, rfl⟩

theorem set_error (hr : (recorded B).setRequest h type r = (.error e, r')) :
    ∃ t, F.Le r.inner t ∧ r' = { r with inner := t } := by
  have hle : F.Le r.inner (B.setRequest h type r.inner).2 := fun _ => F.set_used
  simp only [recorded] at hr
  split at hr
  · rename_i t hset
    cases hr
    rw [hset] at hle
    exact ⟨t, hle, rfl⟩
  · cases hr

theorem set_ok (hr : (recorded B).setRequest h type r = (.ok (), r')) :
    ∃ t, F.Le r.inner t ∧ r' = { r with inner := t, inForce := (h, type) :: r.inForce } := by
  have hle : F.Le r.inner (B.setRequest h type r.inner).2 := fun _ => F.set_used
  simp only [recorded] at hr
  split at hr
  · cases hr
  · rename_i t hset
    cases hr
    rw [hset] at hle
    exact ⟨t, hle, rfl⟩

theorem clear_error (hr : (recorded B).clearRequest h type r = (.error e, r')) :
    ∃ t, F.Le r.inner t ∧ r' = { r with inner := t } := by
  have hle : F.Le r.inner (B.clearRequest h type r.inner).2 := fun _ => F.clear_used
  simp only [recorded] at hr
  split at hr
  · rename_i t hclear
    cases hr
    rw [hclear] at hle
    exact ⟨t, hle, rfl⟩
  · cases hr

theorem clear_ok (hr : (recorded B).clearRequest h type r = (.ok (), r')) :
    ∃ t, F.Le r.inner t ∧
      r' = { r with inner := t, inForce := r.inForce.filter (· ≠ (h, type)) } := by
  have hle : F.Le r.inner (B.clearRequest h type r.inner).2 := fun _ => F.clear_used
  simp only [recorded] at hr
  split at hr
  · cases hr
  · rename_i t hclear
    cases hr
    rw [hclear] at hle
    exact ⟨t, hle, rfl⟩

/-- Closing a handle ends its requests, cleared before or not. -/
theorem clear_close (r : Requests τ) (h : UInt64) (type : PowerLockType) :
    ∃ t inForce, F.Le r.inner t ∧ (∀ p, p ∈ inForce ↔ p ∈ r.inForce ∧ p.1 ≠ h) ∧
      (recorded B).closeRequest h ((recorded B).clearRequest h type r).2 =
        { r with inner := t, closed := h :: r.closed, inForce := inForce } := by
  rcases hclear : (recorded B).clearRequest h type r with ⟨e | u, r'⟩
  · obtain ⟨t, hle, rfl⟩ := clear_error F hclear
    refine ⟨B.closeRequest h t, r.inForce.filter (·.1 ≠ h), fun _ hu => F.close_used (hle _ hu), ?_,
      rfl⟩
    simp
  · obtain ⟨t, hle, rfl⟩ := clear_ok F hclear
    refine ⟨B.closeRequest h t, (r.inForce.filter (· ≠ (h, type))).filter (·.1 ≠ h),
      fun _ hu => F.close_used (hle _ hu), ?_, rfl⟩
    intro p
    simp only [List.mem_filter, decide_eq_true_eq]
    constructor
    · rintro ⟨⟨hp, -⟩, hne⟩
      exact ⟨hp, hne⟩
    · rintro ⟨hp, hne⟩
      exact ⟨⟨hp, fun heq => hne (congrArg Prod.fst heq)⟩, hne⟩

end Answers

/-! ## What one call does -/

section Calls

variable {B : PowerRequestBackend τ} {F : FreshRequests B} {w w' : Locker (Requests τ)}
  {type : PowerLockType} {reason : String} {e : Error}

/-- The lock states and the open handles are the same. -/
structure LocksUnchanged (w w' : Locker (Requests τ)) : Prop where
  states : ∀ type, w'.state type = w.state type
  handles : ∀ h, w'.backend.open h ↔ w.backend.open h

theorem acquireLock_inv (hI : RequestsInv F w) (type : PowerLockType) (reason : String) :
    RequestsInv F (w.acquireLock (recorded B) type reason).2 := by
  have hend := acquireLock_end (recorded B) w type reason
  generalize w.acquireLock (recorded B) type reason = result at hend ⊢
  cases hend with
  | nested hc => exact hI.recount hc (Nat.succ_pos _)
  | refused hc hcreate =>
    obtain ⟨t, hle, rfl⟩ := create_error F hcreate
    exact hI.touch hle
  | unset hc hcreate hset =>
    obtain ⟨hne, hfresh, t, hle, hused, rfl⟩ := create_ok F hcreate
    obtain ⟨t', hle', rfl⟩ := set_error F hset
    exact hI.openClose hne hfresh (fun _ hu => F.close_used (hle' _ (hle _ hu)))
      (F.close_used (hle' _ hused))
  | first hc hcreate hset =>
    obtain ⟨hne, hfresh, t, hle, hused, rfl⟩ := create_ok F hcreate
    obtain ⟨t', hle', rfl⟩ := set_ok F hset
    exact hI.take hc reason hne hfresh (fun _ hu => hle' _ (hle _ hu)) (hle' _ hused)

theorem releaseLock_inv (hI : RequestsInv F w) (type : PowerLockType) :
    RequestsInv F (w.releaseLock (recorded B) type).2 := by
  have hend := releaseLock_end (recorded B) w type
  generalize w.releaseLock (recorded B) type = result at hend ⊢
  cases hend with
  | idle hc => exact hI
  | nested hc => exact hI.recount (by omega) (by omega)
  | refused hc hclear =>
    obtain ⟨t, hle, rfl⟩ := clear_error F hclear
    exact hI.touch hle
  | last hc hclear =>
    obtain ⟨t, inForce, hle, hforce, hclose⟩ := clear_close F w.backend (w.state type).handle type
    rw [hclear] at hclose
    rw [hclose]
    exact hI.drop (by omega) hle hforce

theorem releaseType_inv (hI : RequestsInv F w) (type : PowerLockType) :
    RequestsInv F (w.releaseType (recorded B) type) := by
  unfold Locker.releaseType
  by_cases hc : (w.state type).count = 0
  · rw [if_pos hc]
    exact hI
  · have hpos : 0 < (w.state type).count := Nat.pos_of_ne_zero hc
    obtain ⟨t, inForce, hle, hforce, hclose⟩ := clear_close F w.backend (w.state type).handle type
    rw [if_neg hc, if_pos (hI.handle_ne_zero hpos), hclose]
    exact hI.drop hpos hle hforce

theorem call_inv (hI : RequestsInv F w) (c : LockCall) : RequestsInv F (w.call (recorded B) c) := by
  cases c with
  | acquire type reason => exact acquireLock_inv hI type reason
  | release type => exact releaseLock_inv hI type
  | releaseAll => exact releaseType_inv (releaseType_inv hI .executionRequired) .displayRequired

/-- An acquire that fails has closed what it created. -/
theorem acquireLock_failed (hI : RequestsInv F w)
    (hr : w.acquireLock (recorded B) type reason = (.error e, w')) : LocksUnchanged w w' := by
  have hend := acquireLock_end (recorded B) w type reason
  rw [hr] at hend
  cases hend with
  | refused hc hcreate =>
    obtain ⟨t, hle, rfl⟩ := create_error F hcreate
    exact ⟨fun type => Locker.state_backend .., fun _ => Iff.rfl⟩
  | unset hc hcreate hset =>
    obtain ⟨hne, hfresh, t, hle, hused, rfl⟩ := create_ok F hcreate
    obtain ⟨t', hle', rfl⟩ := set_error F hset
    exact ⟨fun type => Locker.state_backend .., fun h => hI.open_close hfresh h⟩

theorem releaseLock_failed (F : FreshRequests B)
    (hr : w.releaseLock (recorded B) type = (.error e, w')) : LocksUnchanged w w' := by
  have hend := releaseLock_end (recorded B) w type
  rw [hr] at hend
  cases hend with
  | refused hc hclear =>
    obtain ⟨t, hle, rfl⟩ := clear_error F hclear
    exact ⟨fun type => Locker.state_backend .., fun _ => Iff.rfl⟩

end Calls

/-! ## Whole runs -/

/-- One open handle with its request in force for each type that is counted, and nothing else open;
a call that fails changes nothing. -/
structure RequestsSound (B : PowerRequestBackend τ) (w : Locker (Requests τ)) : Prop where
  one : ∀ type, 0 < (w.state type).count → ∃! h, HoldsRequest w type h
  none : ∀ type, (w.state type).count = 0 → ∀ h, ¬ HoldsRequest w type h
  noLeak : ∀ h, w.backend.open h → ∃ type, HoldsRequest w type h
  closedOnce : w.backend.closed.Nodup
  apart : ∀ type type' h, HoldsRequest w type h → HoldsRequest w type' h → type = type'
  acquireFails : ∀ type reason e w', w.acquireLock (recorded B) type reason = (.error e, w') →
    LocksUnchanged w w'
  releaseFails : ∀ type e w', w.releaseLock (recorded B) type = (.error e, w') → LocksUnchanged w w'

theorem holds_iff {B : PowerRequestBackend τ} {F : FreshRequests B} {w : Locker (Requests τ)}
    (hI : RequestsInv F w) {type : PowerLockType} {h : UInt64} :
    HoldsRequest w type h ↔ 0 < (w.state type).count ∧ (w.state type).handle = h := by
  constructor
  · rintro ⟨-, hmem⟩
    exact (hI.tracked.requests h type).mp hmem
  · rintro ⟨hc, rfl⟩
    exact ⟨hI.handle_open hc, (hI.tracked.requests _ type).mpr ⟨hc, rfl⟩⟩

theorem RequestsInv.sound {B : PowerRequestBackend τ} {F : FreshRequests B}
    {w : Locker (Requests τ)} (hI : RequestsInv F w) : RequestsSound B w where
  one type hc := by
    refine ⟨(w.state type).handle, (holds_iff hI).mpr ⟨hc, rfl⟩, ?_⟩
    intro h hh
    exact ((holds_iff hI).mp hh).2.symm
  none type hc h hh := by
    have := ((holds_iff hI).mp hh).1
    omega
  noLeak h hopen := by
    obtain ⟨type, hc, heq⟩ := (hI.tracked.live h).mp hopen
    exact ⟨type, (holds_iff hI).mpr ⟨hc, heq⟩⟩
  closedOnce := hI.tracked.closedOnce
  apart type type' h hh hh' := by
    obtain ⟨hc, heq⟩ := (holds_iff hI).mp hh
    obtain ⟨hc', heq'⟩ := (holds_iff hI).mp hh'
    exact hI.tracked.apart type type' hc hc' (heq.trans heq'.symm)
  acquireFails _ _ _ _ hr := acquireLock_failed hI hr
  releaseFails _ _ _ hr := releaseLock_failed F hr

end Power
end CppOptimizer
