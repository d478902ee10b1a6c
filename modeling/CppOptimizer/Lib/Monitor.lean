import CppOptimizer.Lib.Prog

/-!
# Lib.Monitor

What a program does to its surroundings whatever the answers it gets.

* `Prog.lift` — a program over some of the calls, as a program over all of them.
* `Prog.trace` — the calls of a run with their answers; over `Handler.logged` a triple speaks of them.
* `Monitor`, `Prog.Obeys m s p Q` — an observer that reads the calls and their answers and says which
  call it allows next. From its state `s` it allows every call of `p`, and `Q` holds at the end.
* `Prog.Obeys.run` — the observer then allows every call of every run, cut off or not, and
  `Monitor.Accepts.at` reads this at one call of it.
* `Triple.of_quiet` — a program that makes no call of a kind keeps what only such calls change.
-/

namespace Lib

variable {E : Type} {R : E → Type} {α β : Type}

namespace Prog

/-- The same program where more calls can be made. -/
def lift {E' : Type} {R' : E' → Type} (f : E → E') (g : ∀ e, R' (f e) → R e) :
    Prog E R α → Prog E' R' α
  | .ret a => .ret a
  | .call e k => .call (f e) fun r => (k (g e r)).lift f g

end Prog

/-- An observer with a state: the calls it allows there, and how a call and its answer move it. -/
structure Monitor (E : Type) (R : E → Type) (S : Type) where
  allows : S → E → Prop
  next : S → (e : E) → R e → S

namespace Prog

variable {S : Type} {m : Monitor E R S}

/-- Whatever the answers, `m` allows every call, and `Q` holds at the end. -/
def Obeys (m : Monitor E R S) : S → Prog E R α → (α → S → Prop) → Prop
  | s, .ret a, Q => Q a s
  | s, .call e k, Q => m.allows s e ∧ ∀ r, (k r).Obeys m (m.next s e r) Q

theorem obeys_ret {s : S} {a : α} {Q : α → S → Prop} (h : Q a s) :
    (Prog.ret a : Prog E R α).Obeys m s Q := h

theorem Obeys.mono {s : S} {p : Prog E R α} {Q Q' : α → S → Prop} (h : p.Obeys m s Q)
    (hQ : ∀ a s, Q a s → Q' a s) : p.Obeys m s Q' := by
  induction p generalizing s with
  | ret a => exact hQ a s h
  | call e k ih => exact ⟨h.1, fun r => ih r (h.2 r)⟩

theorem Obeys.bind {s : S} {p : Prog E R α} {f : α → Prog E R β} {Q : α → S → Prop}
    {Q' : β → S → Prop} (hp : p.Obeys m s Q) (hf : ∀ a s, Q a s → (f a).Obeys m s Q') :
    (p >>= f).Obeys m s Q' := by
  induction p generalizing s with
  | ret a => exact hf a s hp
  | call e k ih => exact ⟨hp.1, fun r => ih r (hp.2 r)⟩

theorem obeys_perform {s : S} {e : E} {Q : R e → S → Prop} (ha : m.allows s e)
    (hQ : ∀ r, Q r (m.next s e r)) : (perform e : Prog E R (R e)).Obeys m s Q := ⟨ha, hQ⟩

end Prog

section Runs

variable {S σ χ : Type} {m : Monitor E R S} {h : Handler E R σ χ}

/-- The calls of a run with their answers, in their order. -/
def Prog.trace (h : Handler E R σ χ) : Prog E R α → σ → List χ → List (Σ e, R e)
  | .ret _, _, _ => []
  | .call _ _, _, [] => []
  | .call e k, s, c :: cs =>
    ⟨e, (h.answer s e c).1⟩ :: (k (h.answer s e c).1).trace h (h.answer s e c).2 cs

@[simp] theorem Prog.trace_ret (a : α) (s : σ) (cs : List χ) :
    (Prog.ret a : Prog E R α).trace h s cs = [] := by cases cs <;> rfl

/-- The same surroundings, which also write down the calls and their answers. -/
def Handler.logged (h : Handler E R σ χ) : Handler E R (σ × List (Σ e, R e)) χ where
  answer s e c :=
    ((h.answer s.1 e c).1, (h.answer s.1 e c).2, s.2 ++ [⟨e, (h.answer s.1 e c).1⟩])

theorem Prog.run_logged (p : Prog E R α) (s : σ) (log : List (Σ e, R e)) (cs : List χ) :
    p.run h.logged (s, log) cs = (((p.run h s cs).1, log ++ p.trace h s cs), (p.run h s cs).2) := by
  induction p generalizing s log cs with
  | ret a => simp
  | call e k ih =>
    cases cs with
    | nil => simp [Prog.trace]
    | cons c cs =>
      have hrest := ih (h.answer s e c).1 (h.answer s e c).2 (log ++ [⟨e, (h.answer s e c).1⟩]) cs
      rw [List.append_assoc] at hrest
      exact hrest

/-- The observer allows each call of the list, one after the other. -/
def Monitor.Accepts (m : Monitor E R S) : S → List (Σ e, R e) → Prop
  | _, [] => True
  | s, c :: cs => m.allows s c.1 ∧ m.Accepts (m.next s c.1 c.2) cs

/-- Where a list of calls takes the observer. -/
def Monitor.after (m : Monitor E R S) (s : S) (cs : List (Σ e, R e)) : S :=
  cs.foldl (fun s c => m.next s c.1 c.2) s

/-- Each call of an accepted list is allowed by what came before it. -/
theorem Monitor.Accepts.at {s : S} {tr before rest : List (Σ e, R e)} {e : E} {r : R e}
    (hm : m.Accepts s tr) (htr : tr = before ++ ⟨e, r⟩ :: rest) :
    m.allows (m.after s before) e := by
  subst htr
  induction before generalizing s with
  | nil => exact hm.1
  | cons c before ih => exact ih hm.2

theorem Prog.Obeys.run {s : S} {p : Prog E R α} {Q : α → S → Prop} (hp : p.Obeys m s Q) (t : σ)
    (cs : List χ) : m.Accepts s (p.trace h t cs) := by
  induction p generalizing s t cs with
  | ret a => simp [Monitor.Accepts]
  | call e k ih =>
    cases cs with
    | nil => trivial
    | cons c cs => exact ⟨hp.1, ih _ (hp.2 _) _ _⟩

/-- A run that returns leaves the observer where `Q` says. -/
theorem Prog.Obeys.run_some {s : S} {p : Prog E R α} {Q : α → S → Prop} (hp : p.Obeys m s Q) {t t' : σ}
    {cs : List χ} {a : α} (hrun : p.run h t cs = (t', some a)) :
    Q a (m.after s (p.trace h t cs)) := by
  induction p generalizing s t cs with
  | ret b =>
    rw [Prog.run_ret] at hrun
    cases hrun
    rw [Prog.trace_ret]
    exact hp
  | call e k ih =>
    cases cs with
    | nil => cases hrun
    | cons c cs => exact ih _ (hp.2 _) hrun

/-- What every result of a program meets. -/
theorem Triple.of_returns {ok : σ → E → χ → Prop} {φ : α → Prop} {P : σ → Prop} {p : Prog E R α}
    (hp : p.Returns φ) : Triple h ok P p (fun a _ => φ a) fun _ => True := by
  induction p generalizing P with
  | ret a => exact Triple.ret fun _ _ => hp
  | call e k ih => exact Triple.call (fun _ _ => trivial) fun r => ih r (hp r)

/-- What only calls in `φ` can change survives a program that makes none of them. -/
theorem Triple.of_quiet {ok : σ → E → χ → Prop} {φ : E → Prop} {P : σ → Prop} {p : Prog E R α}
    (hquiet : ∀ s e c, ¬ φ e → P s → P (h.answer s e c).2) (hp : ¬ p.MayCall φ) :
    Triple h ok P p (fun _ => P) P := by
  induction p with
  | ret a => exact Triple.ret fun _ hs => hs
  | call e k ih =>
    refine Triple.call (fun _ hs => hs) fun r => ?_
    refine Triple.pre (ih r fun hr => hp (.inr ⟨r, hr⟩)) ?_
    rintro s' ⟨s, c, hs, -, heq⟩
    have hkeep := hquiet s e c (fun he => hp (.inl he)) hs
    rw [heq] at hkeep
    exact hkeep

end Runs

end Lib
