/-
**Systems that answer.**

A system that answers every input with an output is a function `answer : σ → ι → σ × ο`.  What can
be seen of it is its history, the inputs with their outputs, the latest first.  What it should
answer is a function of the history and the input, without its state: a specification.  Two systems
that meet one specification cannot be told apart.

Main definitions:

* `Answering.history` — what a list of inputs makes a system answer;
* `Answering.Meets` — every answer of a history is the one that was specified;
* `Answering.Guarded` — every input of a history meets a condition on what was there before.

Main results:

* `Answering.meets_of_simulation` — **a system meets a specification when its state follows the
  history**;
* `Answering.Meets.eq` — histories that meet one specification are equal if their inputs are;
* `Answering.exists_answers_of_alike` — from states that are alike, the answers are the same;
* `Answering.history_eq_of_simulation` — a system answers like one that it simulates.
-/

import Mathlib.Data.List.Induction

set_option relaxedAutoImplicit false
set_option autoImplicit false

namespace Answering

variable {σ ι ο : Type*}

/-- The state of a system and its history. -/
structure Observed (σ ι ο : Type*) where
  state : σ
  /-- The latest answer first. -/
  history : List (ι × ο)

/-- One more input. -/
def feed (answer : σ → ι → σ × ο) (observed : Observed σ ι ο) (input : ι) : Observed σ ι ο :=
  let answered := answer observed.state input
  ⟨answered.1, (input, answered.2) :: observed.history⟩

/-- The inputs one after the other. -/
def observe (answer : σ → ι → σ × ο) (start : σ) (inputs : List ι) : Observed σ ι ο :=
  inputs.foldl (feed answer) ⟨start, []⟩

/-- The answers to the inputs, the latest first. -/
def history (answer : σ → ι → σ × ο) (start : σ) (inputs : List ι) : List (ι × ο) :=
  (observe answer start inputs).history

/-- Every answer is the one that was specified. -/
def Meets (spec : List (ι × ο) → ι → ο) : List (ι × ο) → Prop
  | [] => True
  | (input, output) :: earlier => output = spec earlier input ∧ Meets spec earlier

/-- Every input meets the condition. -/
def Guarded (guard : List (ι × ο) → ι → Prop) : List (ι × ο) → Prop
  | [] => True
  | (input, _) :: earlier => guard earlier input ∧ Guarded guard earlier

instance (guard : List (ι × ο) → ι → Prop) [∀ earlier input, Decidable (guard earlier input)] :
    ∀ earlier, Decidable (Guarded guard earlier)
  | [] => isTrue trivial
  | (_, _) :: earlier =>
    have := instDecidableGuarded guard earlier
    inferInstanceAs (Decidable (_ ∧ _))

variable {answer : σ → ι → σ × ο} {spec : List (ι × ο) → ι → ο}
  {guard guard' : List (ι × ο) → ι → Prop} {start : σ}

theorem observe_concat (inputs : List ι) (input : ι) :
    observe answer start (inputs ++ [input]) = feed answer (observe answer start inputs) input := by
  rw [observe, List.foldl_append]
  rfl

/-- The inputs of a history. -/
theorem map_fst_history (inputs : List ι) :
    (history answer start inputs).map Prod.fst = inputs.reverse := by
  induction inputs using List.reverseRecOn with
  | nil => rfl
  | append_singleton inputs input ih =>
    rw [history, observe_concat, List.reverse_append]
    exact congrArg (input :: ·) ih

/-- **Simulation**: a relation between history and state that every answer keeps. -/
theorem meets_of_simulation (spec : List (ι × ο) → ι → ο) (guard : List (ι × ο) → ι → Prop)
    (follows : List (ι × ο) → σ → Prop) (hstart : follows [] start)
    (hstep : ∀ earlier state input, follows earlier state → Meets spec earlier →
      Guarded guard earlier → guard earlier input →
      (answer state input).2 = spec earlier input ∧
        follows ((input, (answer state input).2) :: earlier) (answer state input).1)
    (inputs : List ι) (hguarded : Guarded guard (history answer start inputs)) :
    Meets spec (history answer start inputs) ∧
      follows (history answer start inputs) (observe answer start inputs).state := by
  induction inputs using List.reverseRecOn with
  | nil => exact ⟨trivial, hstart⟩
  | append_singleton inputs input ih =>
    rw [history, observe_concat] at hguarded ⊢
    obtain ⟨hinput, hearlier⟩ := hguarded
    obtain ⟨hmeets, hfollows⟩ := ih hearlier
    obtain ⟨hanswer, hnext⟩ := hstep _ _ input hfollows hmeets hearlier hinput
    exact ⟨⟨hanswer, hmeets⟩, hnext⟩

/-- What every answer keeps of history and state. -/
theorem follows_of_guarded (guard : List (ι × ο) → ι → Prop) (follows : List (ι × ο) → σ → Prop)
    (hstart : follows [] start)
    (hstep : ∀ earlier state input, follows earlier state → guard earlier input →
      follows ((input, (answer state input).2) :: earlier) (answer state input).1)
    (inputs : List ι) (hguarded : Guarded guard (history answer start inputs)) :
    follows (history answer start inputs) (observe answer start inputs).state := by
  induction inputs using List.reverseRecOn with
  | nil => exact hstart
  | append_singleton inputs input ih =>
    rw [history, observe_concat] at hguarded ⊢
    exact hstep _ _ input (ih hguarded.2) hguarded.1

/-- What every answer keeps, as long as every input meets a condition on history and state. -/
theorem follows_of_condition (condition : List (ι × ο) → σ → ι → Prop)
    (follows : List (ι × ο) → σ → Prop) (hstart : follows [] start)
    (hstep : ∀ earlier state input, follows earlier state → condition earlier state input →
      follows ((input, (answer state input).2) :: earlier) (answer state input).1)
    (inputs : List ι)
    (hinputs : ∀ before input after, inputs = before ++ input :: after →
      condition (history answer start before) (observe answer start before).state input) :
    follows (history answer start inputs) (observe answer start inputs).state := by
  induction inputs using List.reverseRecOn with
  | nil => exact hstart
  | append_singleton inputs input ih =>
    rw [history, observe_concat]
    refine hstep _ _ input (ih ?_) (hinputs inputs input [] rfl)
    intro before other after heq
    exact hinputs before other (after ++ [input]) (by rw [heq, List.append_assoc]; rfl)

variable {inputs : List ι}

/-- Inputs of which any two are related. -/
theorem guarded_of_pairwise {r : ι → ι → Prop} (h : inputs.Pairwise r) :
    Guarded (fun earlier input => ∀ event ∈ earlier, r event.1 input)
      (history answer start inputs) := by
  induction inputs using List.reverseRecOn with
  | nil => trivial
  | append_singleton inputs input ih =>
    obtain ⟨hearlier, -, hlast⟩ := List.pairwise_append.1 h
    have hrest := ih hearlier
    rw [history, observe_concat]
    refine ⟨?_, hrest⟩
    intro event hevent
    have hmem : event.1 ∈ inputs := by
      rw [← List.mem_reverse, ← @map_fst_history _ _ _ answer start]
      exact List.mem_map_of_mem hevent
    exact hlast event.1 hmem input (List.mem_singleton_self input)

/-- Inputs each of which has a property. -/
theorem guarded_of_forall {p : ι → Prop} (h : ∀ input ∈ inputs, p input) :
    Guarded (fun _ input => p input) (history answer start inputs) := by
  induction inputs using List.reverseRecOn with
  | nil => trivial
  | append_singleton inputs input ih =>
    rw [history, observe_concat]
    exact ⟨h input (List.mem_append_right _ (List.mem_singleton_self input)),
      ih fun other hother => h other (List.mem_append_left _ hother)⟩

variable {later earlier : List (ι × ο)}

/-- What comes before an answer in a history is the history of the inputs before. -/
theorem exists_of_history_eq {rest : List (ι × ο)} {input : ι} {output : ο}
    (h : history answer start inputs = later ++ (input, output) :: rest) :
    ∃ before after, inputs = before ++ input :: after ∧ rest = history answer start before ∧
      output = (answer (observe answer start before).state input).2 := by
  induction inputs using List.reverseRecOn generalizing later with
  | nil =>
    cases later with
    | nil => cases h
    | cons event later => cases h
  | append_singleton inputs last ih =>
    rw [history, observe_concat] at h
    cases later with
    | nil =>
      obtain ⟨hevent, hrest⟩ := List.cons.inj h
      cases hevent
      exact ⟨inputs, [], rfl, hrest.symm, rfl⟩
    | cons event later =>
      obtain ⟨before, after, rfl, hrest, houtput⟩ := ih (List.cons.inj h).2
      exact ⟨before, after ++ [last], by simp, hrest, houtput⟩

/-- **Bisimulation**: from states that are alike, the answers are the same. -/
theorem exists_answers_of_alike (answer : σ → ι → σ × ο) {r : ι → ι → Prop}
    (alike : ι → σ → σ → Prop)
    (hstep : ∀ input state state', alike input state state' →
      (answer state input).2 = (answer state' input).2 ∧
      ∀ next, r input next → alike next (answer state input).1 (answer state' input).1)
    (hinputs : inputs.Pairwise r) {observed observed' : Observed σ ι ο}
    (h : ∀ input ∈ inputs, alike input observed.state observed'.state) :
    ∃ answers, (inputs.foldl (feed answer) observed).history = answers ++ observed.history ∧
      (inputs.foldl (feed answer) observed').history = answers ++ observed'.history := by
  induction inputs generalizing observed observed' with
  | nil => exact ⟨[], rfl, rfl⟩
  | cons input inputs ih =>
    obtain ⟨hfirst, hrest⟩ := List.pairwise_cons.1 hinputs
    obtain ⟨hanswer, hnext⟩ := hstep input _ _ (h input List.mem_cons_self)
    obtain ⟨answers, hleft, hright⟩ := @ih hrest (feed answer observed input)
      (feed answer observed' input) fun next hmem => hnext next (hfirst next hmem)
    refine ⟨answers ++ [(input, (answer observed.state input).2)], ?_, ?_⟩
    · rw [List.foldl_cons, hleft, List.append_assoc]
      rfl
    · rw [List.foldl_cons, hright, List.append_assoc, hanswer]
      rfl

/-- Only what is said about the inputs can differ. -/
theorem Meets.eq {earlier' : List (ι × ο)} (h : Meets spec earlier) (h' : Meets spec earlier')
    (hinputs : earlier.map Prod.fst = earlier'.map Prod.fst) : earlier = earlier' := by
  induction earlier generalizing earlier' with
  | nil => exact (List.map_eq_nil_iff.1 hinputs.symm).symm
  | cons event earlier ih =>
    obtain ⟨input, output⟩ := event
    cases earlier' with
    | nil => cases hinputs
    | cons event' earlier' =>
      obtain ⟨input', output'⟩ := event'
      obtain ⟨hinput, hrest⟩ := List.cons.inj hinputs
      have heq := ih h.2 h'.2 hrest
      subst heq
      have hinput' : input = input' := hinput
      subst hinput'
      rw [h.1, h'.1]

/-- What was there before an answer. -/
theorem Meets.of_append (h : Meets spec (later ++ earlier)) : Meets spec earlier := by
  induction later with
  | nil => exact h
  | cons event later ih => exact ih h.2

theorem Guarded.of_append (h : Guarded guard (later ++ earlier)) : Guarded guard earlier := by
  induction later with
  | nil => exact h
  | cons event later ih => exact ih h.2

theorem Guarded.mono (h : Guarded guard earlier)
    (himp : ∀ earlier input, guard earlier input → guard' earlier input) :
    Guarded guard' earlier := by
  induction earlier with
  | nil => trivial
  | cons event earlier ih => exact ⟨himp _ _ h.1, ih h.2⟩

theorem Guarded.and (h : Guarded guard earlier) (h' : Guarded guard' earlier) :
    Guarded (fun earlier input => guard earlier input ∧ guard' earlier input) earlier := by
  induction earlier with
  | nil => trivial
  | cons event earlier ih => exact ⟨⟨h.1, h'.1⟩, ih h.2 h'.2⟩

/-- **Simulation of one system by another**: from states that are alike they answer the same, as
long as every input meets a condition on the state. -/
theorem history_eq_of_simulation {τ : Type*} (answer : σ → ι → σ × ο) (answer' : τ → ι → τ × ο)
    (alike : σ → τ → Prop) (condition : σ → ι → Prop) {start : σ} {start' : τ}
    (hstart : alike start start')
    (hstep : ∀ state state' input, alike state state' → condition state input →
      (answer state input).2 = (answer' state' input).2 ∧
        alike (answer state input).1 (answer' state' input).1)
    (inputs : List ι)
    (hinputs : ∀ before input after, inputs = before ++ input :: after →
      condition (observe answer start before).state input) :
    history answer start inputs = history answer' start' inputs ∧
      alike (observe answer start inputs).state (observe answer' start' inputs).state := by
  induction inputs using List.reverseRecOn with
  | nil => exact ⟨rfl, hstart⟩
  | append_singleton inputs input ih =>
    obtain ⟨hhistory, halike⟩ := ih fun before other after heq =>
      hinputs before other (after ++ [input]) (by rw [heq, List.append_assoc]; rfl)
    obtain ⟨hanswer, hnext⟩ := hstep _ _ input halike (hinputs inputs input [] rfl)
    rw [history, history, observe_concat, observe_concat]
    refine ⟨?_, hnext⟩
    change (input, _) :: history answer start inputs = (input, _) :: history answer' start' inputs
    rw [hanswer, hhistory]

end Answering
