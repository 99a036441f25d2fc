/-
**Tables that are alike row by row.**

What two runs over two tables give is compared row by row: a relation between the rows is carried
through selecting, sorting and cutting, as long as these look at rows only in ways on which related
rows agree.

Main results:

* `Alike.mergeSort` — **lists that are alike are alike when they are sorted**;
* `Alike.mapM_eq`, `Alike.map_eq` — what related rows agree on gives the same on both lists;
* `Alike.of_mapM` — a list and what an action makes of it are alike row by row;
* `Alike.cases_of_map_eq` — two computations that agree fail both, or return both.
-/

import Mathlib.Data.List.Forall2
import Mathlib.Data.List.Sort

set_option relaxedAutoImplicit false
set_option autoImplicit false

namespace Alike

universe u v

variable {α β : Type*} {R : α → β → Prop} {left : List α} {right : List β}

/-- Two lists that are alike are the two sides of one list of pairs. -/
theorem exists_pairs (h : List.Forall₂ R left right) :
    ∃ pairs : List (α × β), pairs.map Prod.fst = left ∧ pairs.map Prod.snd = right ∧
      ∀ pair ∈ pairs, R pair.1 pair.2 := by
  induction h with
  | nil => exact ⟨[], rfl, rfl, List.forall_mem_nil _⟩
  | @cons a b _ _ hab _ ih =>
    obtain ⟨pairs, rfl, rfl, hpairs⟩ := ih
    exact ⟨(a, b) :: pairs, rfl, rfl, List.forall_mem_cons.2 ⟨hab, hpairs⟩⟩

theorem of_pairs {pairs : List (α × β)} (h : ∀ pair ∈ pairs, R pair.1 pair.2) :
    List.Forall₂ R (pairs.map Prod.fst) (pairs.map Prod.snd) := by
  induction pairs with
  | nil => exact List.Forall₂.nil
  | cons pair pairs ih =>
    rw [List.forall_mem_cons] at h
    exact List.Forall₂.cons h.1 (ih h.2)

/-- **Lists that are alike are alike when they are sorted.** -/
theorem mergeSort {le : α → α → Bool} {le' : β → β → Bool} (h : List.Forall₂ R left right)
    (hle : ∀ a b a' b', R a b → R a' b' → le a a' = le' b b') :
    List.Forall₂ R (left.mergeSort le) (right.mergeSort le') := by
  obtain ⟨pairs, rfl, rfl, hpairs⟩ := exists_pairs h
  have hfst : (pairs.mergeSort fun p q => le p.1 q.1).map Prod.fst =
      (pairs.map Prod.fst).mergeSort le := List.map_mergeSort fun _ _ _ _ => rfl
  have hsnd : (pairs.mergeSort fun p q => le p.1 q.1).map Prod.snd =
      (pairs.map Prod.snd).mergeSort le' :=
    List.map_mergeSort fun p hp q hq => hle p.1 p.2 q.1 q.2 (hpairs p hp) (hpairs q hq)
  rw [← hfst, ← hsnd]
  exact of_pairs fun pair hpair => hpairs pair (List.mem_mergeSort.1 hpair)

/-- An action that related rows agree on gives the same on both lists. -/
theorem mapM_eq {m : Type u → Type v} [Monad m] [LawfulMonad m] {γ : Type u} {f : α → m γ}
    {g : β → m γ} (h : List.Forall₂ R left right) (hfg : ∀ a b, R a b → f a = g b) :
    left.mapM f = right.mapM g := by
  induction h with
  | nil => simp
  | cons hab _ ih => simp [hfg _ _ hab, ih]

/-- What is made of related rows alike is the same list. -/
theorem map_eq {γ : Type*} {f : α → γ} {g : β → γ} (h : List.Forall₂ R left right)
    (hfg : ∀ a b, R a b → f a = g b) : left.map f = right.map g := by
  induction h with
  | nil => rfl
  | cons hab _ ih => rw [List.map_cons, List.map_cons, hfg _ _ hab, ih]

/-- A list and what an action makes of it, row by row. -/
theorem of_mapM {α β : Type u} {f : α → Option β} {left : List α} {right : List β}
    (h : left.mapM f = some right) : List.Forall₂ (fun a b => f a = some b) left right := by
  induction left generalizing right with
  | nil =>
    rw [List.mapM_nil] at h
    cases h
    exact List.Forall₂.nil
  | cons a left ih =>
    rw [List.mapM_cons] at h
    obtain ⟨b, hb, h⟩ := Option.bind_eq_some_iff.1 h
    obtain ⟨rest, hrest, h⟩ := Option.bind_eq_some_iff.1 h
    cases h
    exact List.Forall₂.cons hb (ih hrest)

/-- What an action makes of a list, it makes of its rows. -/
theorem exists_of_mapM {α β : Type u} {f : α → Option β} {left : List α} {right : List β}
    (h : left.mapM f = some right) {b : β} (hb : b ∈ right) : ∃ a ∈ left, f a = some b := by
  have halike := of_mapM h
  clear h
  induction halike with
  | nil => cases hb
  | @cons a c left right hac _ ih =>
    rcases List.mem_cons.1 hb with rfl | hb
    · exact ⟨a, List.mem_cons_self, hac⟩
    · obtain ⟨found, hfound, heq⟩ := ih hb
      exact ⟨found, List.mem_cons_of_mem a hfound, heq⟩

/-- Two computations whose results are made the same of both fail, or both return. -/
theorem cases_of_map_eq {ε γ : Type*} {f : α → γ} {g : β → γ} {p : Except ε α} {q : Except ε β}
    (h : p.map f = q.map g) :
    (∃ failure, p = .error failure ∧ q = .error failure) ∨
      ∃ a b, p = .ok a ∧ q = .ok b ∧ f a = g b := by
  cases p with
  | error failure =>
    cases q with
    | error failure' =>
      exact .inl ⟨failure, rfl, congrArg Except.error (Except.error.inj h).symm⟩
    | ok b => cases h
  | ok a =>
    cases q with
    | error failure' => cases h
    | ok b => exact .inr ⟨a, b, rfl, rfl, Except.ok.inj h⟩

end Alike
