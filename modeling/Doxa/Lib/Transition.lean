/-
**Runs of a labelled transition function.**

A system whose next state is decided by its present state and by what happens next is a function
`step : σ → ℓ → Option σ`: a label names what happens, with every choice made in it, and `none` says
that it cannot happen here.  A run is a list of labels.  Many properties hold of a system only as
long as its environment behaves; the condition is then a guard on the labels, in the states in which
they are taken, and the property is about the runs whose steps all meet it.

Main definitions:

* `Transition.run` — the state a list of labels leads to;
* `Transition.Run` — the runs all of whose steps meet a guard.

Main results:

* `Transition.Run.invariant` — **what holds at the start and is kept by every step that meets the
  guard holds at the end**;
* `Transition.run_eq_some_iff` — a run that is not guarded is what `run` computes.
-/

import Mathlib.Data.Option.Basic

set_option relaxedAutoImplicit false
set_option autoImplicit false

namespace Transition

variable {σ ℓ : Type*}

/-- The state a list of labels leads to, if all of them can happen. -/
def run (step : σ → ℓ → Option σ) : σ → List ℓ → Option σ
  | s, [] => some s
  | s, l :: ls => (step s l).bind fun t => run step t ls

/-- The runs from a state to a state all of whose steps meet the guard. -/
inductive Run (step : σ → ℓ → Option σ) (guard : σ → ℓ → Prop) : σ → List ℓ → σ → Prop
  | nil (s : σ) : Run step guard s [] s
  | cons {s t u : σ} {l : ℓ} {ls : List ℓ} (hguard : guard s l) (hstep : step s l = some t)
      (hrest : Run step guard t ls u) : Run step guard s (l :: ls) u

variable {step : σ → ℓ → Option σ} {guard : σ → ℓ → Prop}

variable {ls : List ℓ} {s t : σ}

/-- **Invariants**: what every step that meets the guard keeps, every run keeps. -/
theorem Run.invariant {P : σ → Prop} (hkeep : ∀ s l t, P s → guard s l → step s l = some t → P t)
    (h : Run step guard s ls t) (hs : P s) : P t := by
  induction h with
  | nil => exact hs
  | cons hguard hstep _ ih => exact ih (hkeep _ _ _ hs hguard hstep)

/-- There is a run if there is one after its first step. -/
theorem Run.exists_cons {l : ℓ} (hguard : guard s l) (hstep : step s l = some t)
    (hrest : ∃ u, Run step guard t ls u) : ∃ u, Run step guard s (l :: ls) u :=
  hrest.imp fun _ hrun => .cons hguard hstep hrun

/-- A run goes on from where another one ends. -/
theorem Run.append {u : σ} {ms : List ℓ} (h : Run step guard s ls t) (h' : Run step guard t ms u) :
    Run step guard s (ls ++ ms) u := by
  induction h with
  | nil => exact h'
  | cons hguard hstep _ ih => exact .cons hguard hstep (ih h')

/-- A run passes through where a part of it ends. -/
theorem Run.of_append {u : σ} {ms : List ℓ} (h : Run step guard s (ls ++ ms) u) :
    ∃ t, Run step guard s ls t ∧ Run step guard t ms u := by
  induction ls generalizing s with
  | nil => exact ⟨s, .nil s, h⟩
  | cons l ls ih =>
    cases h with
    | cons hguard hstep hrest =>
      obtain ⟨t, hfirst, hlast⟩ := ih hrest
      exact ⟨t, .cons hguard hstep hfirst, hlast⟩

/-- A guarded run is a run. -/
theorem Run.run_eq (h : Run step guard s ls t) : run step s ls = some t := by
  induction h with
  | nil => rfl
  | cons _ hstep _ ih =>
    rw [run, hstep]
    exact ih

/-- A run none of whose labels can fail the guard meets it. -/
theorem Run.of_run (hguard : ∀ l ∈ ls, ∀ u, guard u l) (h : run step s ls = some t) :
    Run step guard s ls t := by
  induction ls generalizing s with
  | nil =>
    cases h
    exact .nil _
  | cons l ls ih =>
    obtain ⟨u, hstep, hrest⟩ := Option.bind_eq_some_iff.1 h
    exact .cons (hguard l List.mem_cons_self s) hstep
      (ih (fun m hm => hguard m (List.mem_cons_of_mem l hm)) hrest)

/-- A guard that can be decided is checked on the way. -/
def runGuarded (step : σ → ℓ → Option σ) (guard : σ → ℓ → Prop) [∀ s l, Decidable (guard s l)] :
    σ → List ℓ → Option σ
  | s, [] => some s
  | s, l :: ls => if guard s l then (step s l).bind fun t => runGuarded step guard t ls else none

theorem Run.of_runGuarded [∀ s l, Decidable (guard s l)] (h : runGuarded step guard s ls = some t) :
    Run step guard s ls t := by
  induction ls generalizing s with
  | nil =>
    cases h
    exact .nil _
  | cons l ls ih =>
    rw [runGuarded] at h
    split at h
    · next hguard =>
        obtain ⟨u, hstep, hrest⟩ := Option.bind_eq_some_iff.1 h
        exact .cons hguard hstep (ih hrest)
    · cases h

/-- Without a guard, the runs are those that `run` computes. -/
theorem run_eq_some_iff : run step s ls = some t ↔ Run step (fun _ _ => True) s ls t := by
  constructor
  · exact Run.of_run fun _ _ _ => trivial
  · exact Run.run_eq

end Transition
