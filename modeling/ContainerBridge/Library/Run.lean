import Mathlib.Logic.Relation

/-! Runs of a step relation: the rule by which what each step keeps holds throughout a run, and runs
that come to a state unless they are stopped before. -/

namespace Run

open Relation

variable {σ : Type} {step : σ → σ → Prop} {start : σ}

/-- What holds at the start of a run, and what each step of it keeps, holds at its end. -/
@[elab_as_elim]
theorem preserves {I : σ → Prop} (hstart : I start)
    (hstep : ∀ s t, ReflTransGen step start s → step s t → I s → I t) {s : σ}
    (h : ReflTransGen step start s) : I s := by
  induction h with
  | refl => exact hstart
  | tail hrun hlast ih => exact hstep _ _ hrun hlast ih

/-! ### Runs that may stop on their way -/

section

variable {τ : Type} {step' : τ → τ → Prop} {stopped : σ → Prop} {stopped' : τ → Prop} {s t u : σ}

/-- A run from `s` comes to where it is stopped. -/
def Stops (step : σ → σ → Prop) (stopped : σ → Prop) (s : σ) : Prop :=
  ∃ t, ReflTransGen step s t ∧ stopped t

/-- A run from `s` comes to `t`, or to where it is stopped. -/
def Comes (step : σ → σ → Prop) (stopped : σ → Prop) (s t : σ) : Prop :=
  ReflTransGen step s t ∨ Stops step stopped s

theorem Stops.of_run (h : Stops step stopped t) (hrun : ReflTransGen step s t) :
    Stops step stopped s := by
  obtain ⟨u, hafter, hstopped⟩ := h
  exact ⟨u, hrun.trans hafter, hstopped⟩

theorem Stops.head (h : Stops step stopped t) (hstep : step s t) : Stops step stopped s :=
  h.of_run (.single hstep)

theorem Comes.refl (s : σ) : Comes step stopped s s := .inl .refl

/-- What a run comes to that stops, the run stops. -/
theorem Comes.stops (h : Comes step stopped s t) (hstops : Stops step stopped t) :
    Stops step stopped s :=
  h.elim hstops.of_run id

theorem Comes.trans (h : Comes step stopped s t) (hafter : Comes step stopped t u) :
    Comes step stopped s u := by
  rcases hafter with hrun | hstops
  · exact h.imp (·.trans hrun) id
  · exact .inr (h.stops hstops)

theorem Comes.of_run (h : Comes step stopped t u) (hrun : ReflTransGen step s t) :
    Comes step stopped s u :=
  .trans (.inl hrun) h

theorem Comes.head (h : Comes step stopped t u) (hstep : step s t) : Comes step stopped s u :=
  h.of_run (.single hstep)

/-- A run that stops does so inside whatever each of its steps is a step of. -/
theorem Stops.lift (f : σ → τ) (hstep : ∀ s t, step s t → step' (f s) (f t))
    (hstopped : ∀ s, stopped s → stopped' (f s)) (h : Stops step stopped s) :
    Stops step' stopped' (f s) := by
  obtain ⟨t, hrun, ht⟩ := h
  exact ⟨f t, hrun.lift f hstep, hstopped t ht⟩

theorem Comes.lift (f : σ → τ) (hstep : ∀ s t, step s t → step' (f s) (f t))
    (hstopped : ∀ s, stopped s → stopped' (f s)) (h : Comes step stopped s t) :
    Comes step' stopped' (f s) (f t) :=
  h.imp (·.lift f hstep) (·.lift f hstep hstopped)

end

end Run
