import Mathlib.Data.List.Infix
import Mathlib.Logic.Relation

/-!
# Lib.Run

Runs of a deterministic machine `step : σ → ε → σ` fed with a list of events.

* `run step s es`    — the state after the events `es`.
* `Steps step ok s es` — every step of the run meets `ok`, a condition on the state before the
  step and on the event.
* `Always step P s es` — `P` holds in every state of the run, the first and the last included.

`always_of_steps` turns a step lemma into a statement about whole runs. `always_iff_steps` is its
exact form: when the steps outside `ok` break `P`, the runs on which `P` always holds are those
whose steps all meet `ok`.

For a step relation instead of a step function there are `Eventually r P s`, some state that `r`
leads to from `s` meets `P`, and `Inevitable r P s`, every run from `s` comes to an end and ends in
`P`.
-/

namespace Lib

variable {σ ε : Type*}

/-- The state reached from `s` by the events `es`. -/
def run (step : σ → ε → σ) (s : σ) (es : List ε) : σ := es.foldl step s

@[simp] theorem run_nil (step : σ → ε → σ) (s : σ) : run step s [] = s := rfl

@[simp] theorem run_cons (step : σ → ε → σ) (s : σ) (e : ε) (es : List ε) :
    run step s (e :: es) = run step (step s e) es := rfl

theorem run_append (step : σ → ε → σ) (s : σ) (es fs : List ε) :
    run step s (es ++ fs) = run step (run step s es) fs := List.foldl_append ..

/-- Every step of the run from `s` meets `ok`. -/
def Steps (step : σ → ε → σ) (ok : σ → ε → Prop) : σ → List ε → Prop
  | _, [] => True
  | s, e :: es => ok s e ∧ Steps step ok (step s e) es

theorem steps_of_forall {step : σ → ε → σ} {φ : ε → Prop} {s : σ} {es : List ε}
    (h : ∀ e ∈ es, φ e) : Steps step (fun _ e => φ e) s es := by
  induction es generalizing s with
  | nil => trivial
  | cons e es ih => exact ⟨h e List.mem_cons_self, ih fun e he => h e (List.mem_cons_of_mem _ he)⟩

theorem steps_congr {step : σ → ε → σ} {ok ok' : σ → ε → Prop} (h : ∀ s e, ok s e ↔ ok' s e) {s : σ}
    {es : List ε} : Steps step ok s es ↔ Steps step ok' s es := by
  induction es generalizing s with
  | nil => exact Iff.rfl
  | cons e es ih => exact and_congr (h s e) ih

theorem Steps.and {step : σ → ε → σ} {ok ok' : σ → ε → Prop} {s : σ} {es : List ε}
    (h : Steps step ok s es) (h' : Steps step ok' s es) :
    Steps step (fun s e => ok s e ∧ ok' s e) s es := by
  induction es generalizing s with
  | nil => trivial
  | cons e es ih => exact ⟨⟨h.1, h'.1⟩, ih h.2 h'.2⟩

theorem Steps.and_forall {step : σ → ε → σ} {ok : σ → ε → Prop} {φ : ε → Prop} {s : σ} {es : List ε}
    (h : Steps step ok s es) (hφ : ∀ e ∈ es, φ e) : Steps step (fun s e => φ e ∧ ok s e) s es :=
  (steps_of_forall hφ).and h

theorem steps_append {step : σ → ε → σ} {ok : σ → ε → Prop} {s : σ} {es fs : List ε} :
    Steps step ok s (es ++ fs) ↔ Steps step ok s es ∧ Steps step ok (run step s es) fs := by
  induction es generalizing s with
  | nil => simp [Steps]
  | cons e es ih => simp [Steps, ih, and_assoc]

/-- `P` holds in every state of the run from `s`. -/
def Always (step : σ → ε → σ) (P : σ → Prop) (s : σ) (es : List ε) : Prop :=
  ∀ pre, pre <+: es → P (run step s pre)

theorem always_nil {step : σ → ε → σ} {P : σ → Prop} {s : σ} :
    Always step P s [] ↔ P s := by
  simp [Always]

theorem always_cons {step : σ → ε → σ} {P : σ → Prop} {s : σ} {e : ε} {es : List ε} :
    Always step P s (e :: es) ↔ P s ∧ Always step P (step s e) es := by
  constructor
  · intro h
    refine ⟨h [] (List.nil_prefix), ?_⟩
    intro pre hpre
    exact h (e :: pre) (List.prefix_cons_inj e |>.mpr hpre)
  · rintro ⟨h0, h⟩ pre hpre
    cases pre with
    | nil => exact h0
    | cons d pre =>
      obtain ⟨rfl, htail⟩ := List.cons_prefix_cons.mp hpre
      exact h pre htail

/-- The end of a run is one of its states. -/
theorem Always.last {step : σ → ε → σ} {P : σ → Prop} {s : σ} {es : List ε}
    (h : Always step P s es) : P (run step s es) := h es (List.prefix_refl es)

section Rules

variable {step : σ → ε → σ} {I P : σ → Prop} {ok : σ → ε → Prop}

/-- The invariant rule: `I` holds at first, each step that meets `ok` keeps it, and it gives `P`. -/
theorem always_of_steps (hstep : ∀ s e, I s → ok s e → I (step s e)) (hP : ∀ s, I s → P s)
    {s : σ} (hI : I s) {es : List ε} (h : Steps step ok s es) : Always step P s es := by
  induction es generalizing s with
  | nil => exact always_nil.mpr (hP s hI)
  | cons e es ih => exact always_cons.mpr ⟨hP s hI, ih (hstep s e hI h.1) h.2⟩

/-- The exact invariant rule: if moreover a step outside `ok` breaks `P`, then `P` holds all along
a run exactly when each of its steps meets `ok`. The steps may be known to meet `φ`. -/
theorem always_iff_steps_of_steps {φ : σ → ε → Prop}
    (hstep : ∀ s e, φ s e → I s → ok s e → I (step s e)) (hP : ∀ s, I s → P s)
    (hbad : ∀ s e, φ s e → I s → ¬ ok s e → ¬ P (step s e)) {s : σ} (hI : I s) {es : List ε}
    (hes : Steps step φ s es) : Always step P s es ↔ Steps step ok s es := by
  constructor
  · intro h
    induction es generalizing s with
    | nil => trivial
    | cons e es ih =>
      obtain ⟨_, h⟩ := always_cons.mp h
      have hok : ok s e := by
        by_contra hn
        exact hbad s e hes.1 hI hn (h [] (List.nil_prefix))
      exact ⟨hok, ih (hstep s e hes.1 hI hok) hes.2 h⟩
  · intro h
    have hall : Steps step (fun s e => φ s e ∧ ok s e) s es := hes.and h
    exact always_of_steps (fun s e hs hok => hstep s e hok.1 hs hok.2) hP hI hall

/-- The same, with what is known of the events alone. -/
theorem always_iff_steps_of_forall {φ : ε → Prop}
    (hstep : ∀ s e, φ e → I s → ok s e → I (step s e)) (hP : ∀ s, I s → P s)
    (hbad : ∀ s e, φ e → I s → ¬ ok s e → ¬ P (step s e)) {s : σ} (hI : I s) {es : List ε}
    (hes : ∀ e ∈ es, φ e) : Always step P s es ↔ Steps step ok s es :=
  always_iff_steps_of_steps hstep hP hbad hI (steps_of_forall hes)

theorem always_iff_steps (hstep : ∀ s e, I s → ok s e → I (step s e)) (hP : ∀ s, I s → P s)
    (hbad : ∀ s e, I s → ¬ ok s e → ¬ P (step s e)) {s : σ} (hI : I s) {es : List ε} :
    Always step P s es ↔ Steps step ok s es := by
  apply always_iff_steps_of_forall (φ := fun _ => True) (I := I)
  · exact fun s e _ => hstep s e
  · exact hP
  · exact fun s e _ => hbad s e
  · exact hI
  · exact fun _ _ => trivial

end Rules

/-- `r` leads from `s` to a state that meets `P`, in any number of steps. -/
def Eventually (r : σ → σ → Prop) (P : σ → Prop) (s : σ) : Prop :=
  ∃ s', Relation.ReflTransGen r s s' ∧ P s'

/-- Now, or after one step. -/
theorem eventually_iff {r : σ → σ → Prop} {P : σ → Prop} {s : σ} :
    Eventually r P s ↔ P s ∨ ∃ s', r s s' ∧ Eventually r P s' := by
  constructor
  · rintro ⟨s', hreach, hP⟩
    rcases Relation.ReflTransGen.cases_head hreach with rfl | ⟨t, hst, hreach⟩
    · exact .inl hP
    · exact .inr ⟨t, hst, s', hreach, hP⟩
  · rintro (hP | ⟨t, hst, s', hreach, hP⟩)
    · exact ⟨s, .refl, hP⟩
    · exact ⟨s', .head hst hreach, hP⟩

/-- Where `r` makes no step, eventually is now. -/
theorem eventually_of_stuck {r : σ → σ → Prop} {P : σ → Prop} {s : σ} (h : ∀ s', ¬ r s s') :
    Eventually r P s ↔ P s := by
  rw [eventually_iff]
  simp [h]

/-- Where `r` makes exactly one step, eventually is now or from there. -/
theorem eventually_of_step {r : σ → σ → Prop} {P : σ → Prop} {s t : σ}
    (h : ∀ s', r s s' ↔ s' = t) : Eventually r P s ↔ P s ∨ Eventually r P t := by
  rw [eventually_iff]
  simp [h]

/-- Every run of `r` from `s` comes to an end, and the state where it ends meets `P`. -/
inductive Inevitable (r : σ → σ → Prop) (P : σ → Prop) : σ → Prop where
  | intro {s : σ} (hnext : ∀ s', r s s' → Inevitable r P s') (hend : (∀ s', ¬ r s s') → P s) :
      Inevitable r P s

/-- The rule with a rank: an invariant whose rank every step lowers, and that gives `P` at the end. -/
theorem inevitable_of_rank {r : σ → σ → Prop} {P : σ → Prop} {I : Nat → σ → Prop}
    (hstep : ∀ n s s', I n s → r s s' → ∃ m < n, I m s')
    (hend : ∀ n s, I n s → (∀ s', ¬ r s s') → P s) {n : Nat} {s : σ} (h : I n s) :
    Inevitable r P s := by
  induction n using Nat.strong_induction_on generalizing s with
  | _ n ih =>
    refine .intro (fun s' hs' => ?_) (hend n s h)
    obtain ⟨m, hm, hI⟩ := hstep n s s' h hs'
    exact ih m hm hI

theorem Inevitable.mono {r : σ → σ → Prop} {P Q : σ → Prop} {s : σ} (h : Inevitable r P s)
    (hPQ : ∀ s, P s → Q s) : Inevitable r Q s := by
  induction h with
  | intro _ hend ih => exact .intro ih fun hstuck => hPQ _ (hend hstuck)

/-- What is inevitable happens: some run gets to its end. -/
theorem Inevitable.exists_end {r : σ → σ → Prop} {P : σ → Prop} {s : σ} (h : Inevitable r P s) :
    ∃ t, Relation.ReflTransGen r s t ∧ ∀ t', ¬ r t t' := by
  induction h with
  | @intro s _ _ ih =>
    by_cases hstuck : ∀ s', ¬ r s s'
    · exact ⟨s, .refl, hstuck⟩
    · obtain ⟨s', hs'⟩ := not_forall_not.mp hstuck
      obtain ⟨t, hreach, hend⟩ := ih s' hs'
      exact ⟨t, .head hs' hreach, hend⟩

theorem Inevitable.at_end {r : σ → σ → Prop} {P : σ → Prop} {s t : σ} (h : Inevitable r P s)
    (hreach : Relation.ReflTransGen r s t) (hend : ∀ t', ¬ r t t') : P t := by
  induction hreach using Relation.ReflTransGen.head_induction_on with
  | refl =>
    obtain ⟨_, hP⟩ := h
    exact hP hend
  | head hstep _ ih =>
    obtain ⟨hnext, _⟩ := h
    exact ih (hnext _ hstep)

end Lib
