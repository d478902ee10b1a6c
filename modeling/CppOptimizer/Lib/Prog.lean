import Mathlib.Logic.Basic

/-!
# Lib.Prog

Programs as trees of calls to an outside world, and a Hoare logic for runs that can be cut off.

A program `Prog E R α` either returns, or makes a call `e : E` and continues with the answer of
type `R e`. A `Handler` says how the world answers: it gets the state, the call and a *choice*,
which stands for everything the caller does not control (a failure, a silent no-op). A run is fed
with a list of choices and takes one per call. When the list is empty before a call, the run is
cut off there: this is a kill of the process at that point, and the world keeps the state it had.

`Triple h ok P p Q C` says: on choices that all meet `ok`, a run of `p` from a state in `P` ends in
`Q a` when it returns `a`, and in `C` when it is cut off. `C` is the crash condition.

`Prog.exec` runs a program to its end with one and the same choice for every call.
-/

namespace Lib

/-- A program: a result, or a call and what to do with its answer. -/
inductive Prog (E : Type) (R : E → Type) (α : Type) where
  | ret (a : α)
  | call (e : E) (k : R e → Prog E R α)

namespace Prog

variable {E : Type} {R : E → Type} {α β : Type}

/-- Sequential composition. -/
def bind : Prog E R α → (α → Prog E R β) → Prog E R β
  | .ret a, f => f a
  | .call e k, f => .call e fun r => (k r).bind f

instance : Monad (Prog E R) where
  pure := .ret
  bind := bind

/-- The program that makes one call and returns its answer. -/
def perform (e : E) : Prog E R (R e) := .call e .ret

@[simp] theorem pure_eq (a : α) : (pure a : Prog E R α) = .ret a := rfl
@[simp] theorem ret_bind (a : α) (f : α → Prog E R β) : (Prog.ret a >>= f) = f a := rfl
@[simp] theorem call_bind (e : E) (k : R e → Prog E R α) (f : α → Prog E R β) :
    (Prog.call e k >>= f) = .call e fun r => k r >>= f := rfl

/-- Some run of the program, on some answers, makes a call that meets `φ`. -/
def MayCall (φ : E → Prop) : Prog E R α → Prop
  | .ret _ => False
  | .call e k => φ e ∨ ∃ r, (k r).MayCall φ

theorem mayCall_bind {φ : E → Prop} {p : Prog E R α} {f : α → Prog E R β}
    (h : (p >>= f).MayCall φ) : p.MayCall φ ∨ ∃ a, (f a).MayCall φ := by
  induction p with
  | ret a => exact .inr ⟨a, h⟩
  | call e k ih =>
    rcases h with h | ⟨r, h⟩
    · exact .inl (.inl h)
    · rcases ih r h with h | h
      · exact .inl (.inr ⟨r, h⟩)
      · exact .inr h

theorem mayCall_perform {φ : E → Prop} {e : E} :
    (perform e : Prog E R (R e)).MayCall φ ↔ φ e := by
  constructor
  · intro h
    rcases h with h | ⟨_, h⟩
    · exact h
    · exact h.elim
  · exact .inl

theorem not_mayCall_bind {φ : E → Prop} {p : Prog E R α} {f : α → Prog E R β}
    (hp : ¬ p.MayCall φ) (hf : ∀ a, ¬ (f a).MayCall φ) : ¬ (p >>= f).MayCall φ := by
  intro h
  rcases mayCall_bind h with h | ⟨a, h⟩
  · exact hp h
  · exact hf a h

/-- Whatever the answers, a result of the program meets `φ`. -/
def Returns (φ : α → Prop) : Prog E R α → Prop
  | .ret a => φ a
  | .call _ k => ∀ r, (k r).Returns φ

theorem Returns.bind {φ : β → Prop} {p : Prog E R α} {f : α → Prog E R β}
    (h : ∀ a, (f a).Returns φ) : (p >>= f).Returns φ := by
  induction p with
  | ret a => exact h a
  | call e k ih => exact fun r => ih r

theorem Returns.seq {φ : α → Prop} {ψ : β → Prop} {p : Prog E R α} {f : α → Prog E R β}
    (hp : p.Returns φ) (hf : ∀ a, φ a → (f a).Returns ψ) : (p >>= f).Returns ψ := by
  induction p with
  | ret a => exact hf a hp
  | call e k ih => exact fun r => ih r (hp r)

end Prog

/-- How the world answers a call, given a choice out of the caller's control. -/
structure Handler (E : Type) (R : E → Type) (σ χ : Type) where
  answer : σ → (e : E) → χ → R e × σ

section Run

variable {E : Type} {R : E → Type} {σ χ α β : Type}

/-- Run a program on a list of choices, one per call. The result is `none` when the choices ran
out before a call. -/
def Prog.run (h : Handler E R σ χ) : Prog E R α → σ → List χ → σ × Option α
  | .ret a, s, _ => (s, some a)
  | .call _ _, s, [] => (s, none)
  | .call e k, s, c :: cs => (k (h.answer s e c).1).run h (h.answer s e c).2 cs

@[simp] theorem Prog.run_ret (h : Handler E R σ χ) (a : α) (s : σ) (cs : List χ) :
    (Prog.ret a : Prog E R α).run h s cs = (s, some a) := by cases cs <;> rfl
@[simp] theorem Prog.run_call_nil (h : Handler E R σ χ) (e : E) (k : R e → Prog E R α) (s : σ) :
    (Prog.call e k).run h s [] = (s, none) := rfl
@[simp] theorem Prog.run_call_cons (h : Handler E R σ χ) (e : E) (k : R e → Prog E R α) (s : σ)
    (c : χ) (cs : List χ) :
    (Prog.call e k).run h s (c :: cs) = (k (h.answer s e c).1).run h (h.answer s e c).2 cs := rfl

/-- Every choice the run takes meets `ok`, given the state and the call it answers. -/
def Prog.Answered (h : Handler E R σ χ) (ok : σ → E → χ → Prop) :
    Prog E R α → σ → List χ → Prop
  | .ret _, _, _ => True
  | .call _ _, _, [] => True
  | .call e k, s, c :: cs =>
    ok s e c ∧ (k (h.answer s e c).1).Answered h ok (h.answer s e c).2 cs

theorem Prog.Answered.mono {h : Handler E R σ χ} {ok ok' : σ → E → χ → Prop} {p : Prog E R α}
    {s : σ} {cs : List χ} (hp : p.Answered h ok s cs)
    (himp : ∀ s e, ∀ c ∈ cs, ok s e c → ok' s e c) : p.Answered h ok' s cs := by
  induction p generalizing s cs with
  | ret a => cases cs <;> trivial
  | call e k ih =>
    cases cs with
    | nil => trivial
    | cons c cs =>
      exact ⟨himp s e c List.mem_cons_self hp.1,
        ih _ hp.2 fun s e c hc => himp s e c (List.mem_cons_of_mem _ hc)⟩

theorem Prog.answered_true {h : Handler E R σ χ} {p : Prog E R α} {s : σ} {cs : List χ} :
    p.Answered h (fun _ _ _ => True) s cs := by
  induction p generalizing s cs with
  | ret a => cases cs <;> trivial
  | call e k ih =>
    cases cs with
    | nil => trivial
    | cons c cs => exact ⟨trivial, ih _⟩

theorem Prog.Answered.and {h : Handler E R σ χ} {ok ok' : σ → E → χ → Prop} {p : Prog E R α}
    {s : σ} {cs : List χ} (hp : p.Answered h ok s cs) (hp' : p.Answered h ok' s cs) :
    p.Answered h (fun s e c => ok s e c ∧ ok' s e c) s cs := by
  induction p generalizing s cs with
  | ret a => cases cs <;> trivial
  | call e k ih =>
    cases cs with
    | nil => trivial
    | cons c cs => exact ⟨⟨hp.1, hp'.1⟩, ih _ hp.2 hp'.2⟩

instance Prog.decidableAnswered (h : Handler E R σ χ) {ok : σ → E → χ → Prop}
    [∀ s e c, Decidable (ok s e c)] :
    (p : Prog E R α) → (s : σ) → (cs : List χ) → Decidable (p.Answered h ok s cs)
  | .ret _, _, [] => .isTrue trivial
  | .ret _, _, _ :: _ => .isTrue trivial
  | .call _ _, _, [] => .isTrue trivial
  | .call e k, s, c :: cs =>
    @instDecidableAnd _ _ _ (decidableAnswered h (k (h.answer s e c).1) (h.answer s e c).2 cs)

/-- Run a program to its end, every call answered on the choice `c`. -/
def Prog.exec (h : Handler E R σ χ) (c : χ) : Prog E R α → σ → σ × α
  | .ret a, s => (s, a)
  | .call e k, s => (k (h.answer s e c).1).exec h c (h.answer s e c).2

@[simp] theorem Prog.exec_ret (h : Handler E R σ χ) (c : χ) (a : α) (s : σ) :
    (Prog.ret a : Prog E R α).exec h c s = (s, a) := rfl

theorem Prog.exec_bind (h : Handler E R σ χ) (c : χ) (p : Prog E R α) (f : α → Prog E R β) (s : σ) :
    (p >>= f).exec h c s = (f (p.exec h c s).2).exec h c (p.exec h c s).1 := by
  induction p generalizing s with
  | ret a => rfl
  | call e k ih => exact ih _ _

theorem Prog.Returns.exec {φ : α → Prop} {p : Prog E R α} (hp : p.Returns φ) (h : Handler E R σ χ)
    (c : χ) (s : σ) : φ (p.exec h c s).2 := by
  induction p generalizing s with
  | ret a => exact hp
  | call e k ih => exact ih _ (hp _) _

@[simp] theorem Prog.exec_perform_bind (h : Handler E R σ χ) (c : χ) (e : E) (f : R e → Prog E R β)
    (s : σ) :
    (Prog.perform e >>= f).exec h c s =
      (f (h.answer s e c).1).exec h c (h.answer s e c).2 := rfl

/-- The calls of a run to the end, in their order. -/
def Prog.calls (h : Handler E R σ χ) (c : χ) : Prog E R α → σ → List E
  | .ret _, _ => []
  | .call e k, s => e :: (k (h.answer s e c).1).calls h c (h.answer s e c).2

@[simp] theorem Prog.calls_ret (h : Handler E R σ χ) (c : χ) (a : α) (s : σ) :
    (Prog.ret a : Prog E R α).calls h c s = [] := rfl

theorem Prog.calls_bind (h : Handler E R σ χ) (c : χ) (p : Prog E R α) (f : α → Prog E R β) (s : σ) :
    (p >>= f).calls h c s = p.calls h c s ++ (f (p.exec h c s).2).calls h c (p.exec h c s).1 := by
  induction p generalizing s with
  | ret a => rfl
  | call e k ih => exact congrArg (e :: ·) (ih _ _)

/-- From `P`, on choices that meet `ok`, a run of `p` ends in `Q a` when it returns `a` and in `C`
when it is cut off. -/
def Triple (h : Handler E R σ χ) (ok : σ → E → χ → Prop) (P : σ → Prop) (p : Prog E R α)
    (Q : α → σ → Prop) (C : σ → Prop) : Prop :=
  ∀ s cs, P s → p.Answered h ok s cs →
    match p.run h s cs with
    | (s', some a) => Q a s'
    | (s', none) => C s'

variable {h : Handler E R σ χ} {ok : σ → E → χ → Prop} {P : σ → Prop} {C : σ → Prop}

theorem Triple.ret {a : α} {Q : α → σ → Prop} (hQ : ∀ s, P s → Q a s) :
    Triple h ok P (.ret a) Q C := by
  intro s cs hs _
  simpa using hQ s hs

/-- The call rule: the crash condition holds before the call, and the rest of the program meets its
triple from every state and answer the call can lead to. -/
theorem Triple.call {e : E} {k : R e → Prog E R α} {Q : α → σ → Prop} (hC : ∀ s, P s → C s)
    (hk : ∀ r, Triple h ok (fun s' => ∃ s c, P s ∧ ok s e c ∧ h.answer s e c = (r, s')) (k r) Q C) :
    Triple h ok P (.call e k) Q C := by
  intro s cs hs hans
  cases cs with
  | nil => exact hC s hs
  | cons c cs =>
    rw [Prog.run_call_cons]
    exact hk (h.answer s e c).1 (h.answer s e c).2 cs ⟨s, c, hs, hans.1, rfl⟩ hans.2

/-- One call on its own. -/
theorem Triple.perform {e : E} {Q : R e → σ → Prop} (hC : ∀ s, P s → C s)
    (hQ : ∀ s c, P s → ok s e c → Q (h.answer s e c).1 (h.answer s e c).2) :
    Triple h ok P (Prog.perform e) Q C := by
  refine Triple.call hC fun r => Triple.ret ?_
  rintro s' ⟨s, c, hs, hc, heq⟩
  have := hQ s c hs hc
  rw [heq] at this
  exact this

/-- A run of `p` and then of `f` on its result, on one list of choices. -/
theorem Prog.run_bind (h : Handler E R σ χ) (ok : σ → E → χ → Prop) (p : Prog E R α)
    (f : α → Prog E R β) :
    ∀ (s : σ) (cs : List χ), ∃ cs',
      ((p >>= f).run h s cs =
        match p.run h s cs with
        | (s', some a) => (f a).run h s' cs'
        | (s', none) => (s', none)) ∧
      ((p >>= f).Answered h ok s cs →
        p.Answered h ok s cs ∧
          ∀ s' a, p.run h s cs = (s', some a) → (f a).Answered h ok s' cs') := by
  induction p with
  | ret a =>
    intro s cs
    refine ⟨cs, by simp, fun hans => ⟨by cases cs <;> trivial, ?_⟩⟩
    intro s' a' heq
    rw [Prog.run_ret] at heq
    cases heq
    exact hans
  | call e k ih =>
    intro s cs
    cases cs with
    | nil => exact ⟨[], by simp, fun _ => ⟨trivial, fun s' a heq => by simp at heq⟩⟩
    | cons c cs =>
      obtain ⟨cs', hrun, hans⟩ := ih (h.answer s e c).1 (h.answer s e c).2 cs
      refine ⟨cs', by simpa using hrun, fun hall => ?_⟩
      obtain ⟨hp, hf⟩ := hans hall.2
      exact ⟨⟨hall.1, hp⟩, hf⟩

/-- A run that returns has returned from both parts. -/
theorem Prog.run_bind_some {h : Handler E R σ χ} {p : Prog E R α} {f : α → Prog E R β} {s s' : σ}
    {cs : List χ} {b : β} (hrun : (p >>= f).run h s cs = (s', some b)) :
    ∃ s₁ a cs', p.run h s cs = (s₁, some a) ∧ (f a).run h s₁ cs' = (s', some b) := by
  obtain ⟨cs', hcs, -⟩ := Prog.run_bind h (fun _ _ _ => True) p f s cs
  rw [hrun] at hcs
  rcases hr : p.run h s cs with ⟨s₁, _ | a⟩
  · rw [hr] at hcs
    cases hcs
  · rw [hr] at hcs
    exact ⟨s₁, a, cs', rfl, hcs.symm⟩

/-- The sequence rule. -/
theorem Triple.bind {p : Prog E R α} {f : α → Prog E R β} {M : α → σ → Prop}
    {Q : β → σ → Prop} (hp : Triple h ok P p M C) (hf : ∀ a, Triple h ok (M a) (f a) Q C) :
    Triple h ok P (p >>= f) Q C := by
  intro s cs hs hall
  obtain ⟨cs', hcs, hans⟩ := Prog.run_bind h ok p f s cs
  obtain ⟨hansp, hansf⟩ := hans hall
  have hmid := hp s cs hs hansp
  rw [hcs]
  rcases hr : p.run h s cs with ⟨s', _ | a⟩
  · simpa [hr] using hmid
  · rw [hr] at hmid
    exact hf a s' cs' hmid (hansf s' a hr)

/-- The rule of consequence. -/
theorem Triple.conseq {P' : σ → Prop} {p : Prog E R α} {Q Q' : α → σ → Prop} {C' : σ → Prop}
    (hp : Triple h ok P p Q C) (hP : ∀ s, P' s → P s) (hQ : ∀ a s, Q a s → Q' a s)
    (hC : ∀ s, C s → C' s) : Triple h ok P' p Q' C' := by
  intro s cs hs hans
  have := hp s cs (hP s hs) hans
  rcases hr : p.run h s cs with ⟨s', _ | a⟩
  · rw [hr] at this; exact hC s' this
  · rw [hr] at this; exact hQ a s' this

theorem Triple.pre {P' : σ → Prop} {p : Prog E R α} {Q : α → σ → Prop}
    (hp : Triple h ok P p Q C) (hP : ∀ s, P' s → P s) : Triple h ok P' p Q C :=
  Triple.conseq hp hP (fun _ _ hq => hq) fun _ hc => hc

theorem Triple.post {p : Prog E R α} {Q Q' : α → σ → Prop} (hp : Triple h ok P p Q C)
    (hQ : ∀ a s, Q a s → Q' a s) : Triple h ok P p Q' C :=
  Triple.conseq hp (fun _ hs => hs) hQ fun _ hc => hc

theorem Triple.and {p : Prog E R α} {Q Q' : α → σ → Prop} {C' : σ → Prop}
    (hp : Triple h ok P p Q C) (hp' : Triple h ok P p Q' C') :
    Triple h ok P p (fun a s => Q a s ∧ Q' a s) fun s => C s ∧ C' s := by
  intro s cs hs hans
  have h₁ := hp s cs hs hans
  have h₂ := hp' s cs hs hans
  rcases hr : p.run h s cs with ⟨s', _ | a⟩
  · rw [hr] at h₁ h₂
    exact ⟨h₁, h₂⟩
  · rw [hr] at h₁ h₂
    exact ⟨h₁, h₂⟩

/-- A fact that the precondition implies can be assumed. -/
theorem Triple.assume {φ : Prop} {p : Prog E R α} {Q : α → σ → Prop} (hφ : ∀ s, P s → φ)
    (hp : φ → Triple h ok P p Q C) : Triple h ok P p Q C :=
  fun s cs hs hans => hp (hφ s hs) s cs hs hans

/-- A precondition that names a value. -/
theorem Triple.exists {ι : Type} {P : ι → σ → Prop} {p : Prog E R α} {Q : α → σ → Prop}
    (hp : ∀ i, Triple h ok (P i) p Q C) : Triple h ok (fun s => ∃ i, P i s) p Q C :=
  fun s cs ⟨i, hs⟩ hans => hp i s cs hs hans

/-- Enough equal choices bring the program to its end. -/
theorem Prog.run_replicate (h : Handler E R σ χ) (c : χ) (p : Prog E R α) (s : σ) :
    ∃ n, p.run h s (List.replicate n c) = ((p.exec h c s).1, some (p.exec h c s).2) := by
  induction p generalizing s with
  | ret a => exact ⟨0, rfl⟩
  | call e k ih =>
    obtain ⟨n, hn⟩ := ih (h.answer s e c).1 (h.answer s e c).2
    exact ⟨n + 1, hn⟩

/-- What a triple says about a run to the end. -/
theorem Triple.exec {p : Prog E R α} {Q : α → σ → Prop}
    (hp : Triple h (fun _ _ _ => True) P p Q C) {s : σ} (hs : P s) (c : χ) :
    Q (p.exec h c s).2 (p.exec h c s).1 := by
  obtain ⟨n, hn⟩ := Prog.run_replicate h c p s
  have := hp s (List.replicate n c) hs Prog.answered_true
  rw [hn] at this
  exact this

theorem Prog.Returns.run {φ : α → Prop} {p : Prog E R α} (hp : p.Returns φ) {s s' : σ} {cs : List χ}
    {a : α} (hrun : p.run h s cs = (s', some a)) : φ a := by
  induction p generalizing s cs with
  | ret b =>
    rw [Prog.run_ret] at hrun
    cases hrun
    exact hp
  | call e k ih =>
    cases cs with
    | nil => cases hrun
    | cons c cs => exact ih _ (hp _) hrun

/-- What a triple says about one run, whichever way it ends. -/
theorem Triple.run {p : Prog E R α} {I : σ → Prop} (hp : Triple h ok P p (fun _ => I) I) {s : σ}
    (hs : P s) {cs : List χ} (hans : p.Answered h ok s cs) : I (p.run h s cs).1 := by
  have := hp s cs hs hans
  rcases hr : p.run h s cs with ⟨s', _ | a⟩
  · rw [hr] at this; exact this
  · rw [hr] at this; exact this

end Run

end Lib
