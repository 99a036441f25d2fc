/-
**Lexicographic comparators and windows of a sorted list.**

A list of comparators is compared lexicographically: the first comparator that tells two elements
apart decides.  When every comparator is transitive, so is the lexicographic one, and a list that is
sorted by it is determined by its elements.  The elements that come after a given one are then a
suffix of the list and the elements that come before it are a prefix, so a search by position can
be written as a filter.

Main definitions:

* `Lex.lexCmp` — the lexicographic comparator of a list of comparators;
* `Lex.Strict` — the list is strictly increasing.

Main results:

* `Lex.lexCmp_eq_lt_iff` — **the position predicate**: `a` comes before `b` exactly when some
  comparator puts it before `b` and all earlier ones tie;
* `Lex.eq_of_perm` — a strictly increasing list is determined by its elements;
* `Lex.filter_after`, `Lex.filter_before` — the elements after, and before, an element;
* `Lex.mergeSort_eq_reverse` — sorting by the swapped comparator reverses the list.
-/

import Mathlib.Data.List.DropRight
import Mathlib.Data.List.Sort
import Mathlib.Order.Basic

set_option relaxedAutoImplicit false
set_option autoImplicit false

namespace Lex

open Std

variable {α : Type*}

/-! ### The lexicographic comparator -/

/-- The lexicographic comparator: the first comparator that does not tie decides. -/
def lexCmp : List (α → α → Ordering) → α → α → Ordering
  | [], _, _ => Ordering.eq
  | c :: cs, a, b => (c a b).then (lexCmp cs a b)

@[simp] theorem lexCmp_nil (a b : α) : lexCmp [] a b = Ordering.eq := rfl

@[simp] theorem lexCmp_cons (c : α → α → Ordering) (cs : List (α → α → Ordering)) (a b : α) :
    lexCmp (c :: cs) a b = (c a b).then (lexCmp cs a b) := rfl

/-- Swapping every comparator swaps the lexicographic one. -/
theorem lexCmp_swap (cs : List (α → α → Ordering)) (a b : α) :
    lexCmp (cs.map fun c x y => (c x y).swap) a b = (lexCmp cs a b).swap := by
  induction cs with
  | nil => rfl
  | cons c cs ih => simp [ih, Ordering.swap_then]

/-- Comparators that agree on two elements compare them the same way. -/
theorem lexCmp_congr {β : Type*} (l : List β) (f g : β → α → α → Ordering) (a b : α)
    (h : ∀ x ∈ l, f x a b = g x a b) : lexCmp (l.map f) a b = lexCmp (l.map g) a b := by
  induction l with
  | nil => rfl
  | cons x l ih =>
    simp only [List.map_cons, lexCmp_cons, h x List.mem_cons_self]
    rw [ih fun y hy => h y (List.mem_cons_of_mem x hy)]

/-- The lexicographic comparator ties exactly when all its comparators do. -/
theorem lexCmp_eq_eq_iff (cs : List (α → α → Ordering)) (a b : α) :
    lexCmp cs a b = Ordering.eq ↔ ∀ c ∈ cs, c a b = Ordering.eq := by
  induction cs with
  | nil => simp
  | cons c cs ih => simp [Ordering.then_eq_eq, ih]

/-- **The position predicate.**  One element comes before another exactly when some comparator puts
it before the other and all earlier comparators tie. -/
theorem lexCmp_eq_lt_iff (cs : List (α → α → Ordering)) (a b : α) :
    lexCmp cs a b = Ordering.lt ↔
      ∃ i, ∃ h : i < cs.length, (∀ c ∈ cs.take i, c a b = Ordering.eq) ∧
        cs[i] a b = Ordering.lt := by
  induction cs with
  | nil => simp
  | cons c cs ih =>
    rw [lexCmp_cons, Ordering.then_eq_lt, ih]
    constructor
    · rintro (h | ⟨hc, i, hi, htake, hlt⟩)
      · exact ⟨0, by simp, by simp, by simpa using h⟩
      · refine ⟨i + 1, by simpa using hi, ?_, by simpa using hlt⟩
        intro d hd
        rcases List.mem_cons.1 (by simpa using hd) with rfl | hd
        · exact hc
        · exact htake d hd
    · rintro ⟨i, hi, htake, hlt⟩
      cases i with
      | zero => exact .inl (by simpa using hlt)
      | succ i =>
        refine .inr ⟨htake c (by simp), i, by simpa using hi, ?_, by simpa using hlt⟩
        intro d hd
        exact htake d (by simp [hd])

/-- **A lexicographic comparator of transitive comparators is transitive.** -/
theorem transCmp_lexCmp {cs : List (α → α → Ordering)} (h : ∀ c ∈ cs, TransCmp c) :
    TransCmp (lexCmp cs) := by
  induction cs with
  | nil =>
    have : OrientedCmp (lexCmp ([] : List (α → α → Ordering))) := ⟨rfl⟩
    exact ⟨fun _ _ => rfl⟩
  | cons c cs ih =>
    have hc := h c List.mem_cons_self
    have hcs := ih fun d hd => h d (List.mem_cons_of_mem c hd)
    exact inferInstanceAs (TransCmp (compareLex c (lexCmp cs)))

/-! ### Strictly increasing lists -/

/-- The list is strictly increasing for the comparator. -/
def Strict (cmp : α → α → Ordering) (l : List α) : Prop :=
  l.Pairwise fun a b => cmp a b = Ordering.lt

section Sorted

variable {cmp : α → α → Ordering} [TransCmp cmp]

variable (cmp) in
theorem cmp_swap (a b : α) : (cmp a b).swap = cmp b a := OrientedCmp.eq_swap.symm

/-- **A strictly increasing list is determined by its elements.** -/
theorem eq_of_perm {l₁ l₂ : List α} (h₁ : Strict cmp l₁) (h₂ : Strict cmp l₂)
    (hp : l₁.Perm l₂) : l₁ = l₂ := by
  refine hp.eq_of_pairwise ?_ h₁ h₂
  intro a b _ _ hab hba
  rw [← cmp_swap cmp, hba] at hab
  cases hab

/-- Sorting puts a list whose elements never tie into strictly increasing order. -/
theorem strict_mergeSort {l : List α}
    (hne : l.Pairwise fun a b => cmp a b ≠ Ordering.eq) :
    Strict cmp (l.mergeSort fun a b => (cmp a b).isLE) := by
  have htrans : ∀ a b c : α, (cmp a b).isLE = true → (cmp b c).isLE = true →
      (cmp a c).isLE = true := fun a b c hab hbc => TransCmp.isLE_trans hab hbc
  have htotal : ∀ a b : α, ((cmp a b).isLE || (cmp b a).isLE) = true := by
    intro a b
    rw [← cmp_swap cmp a b]
    cases cmp a b <;> rfl
  have hsorted : (l.mergeSort fun a b => (cmp a b).isLE).Pairwise
      fun a b => (cmp a b).isLE = true :=
    List.pairwise_mergeSort htrans htotal l
  have hsymm : ∀ {a b : α}, cmp a b ≠ Ordering.eq → cmp b a ≠ Ordering.eq := by
    intro a b hab hba
    exact hab (by rw [← cmp_swap cmp, hba]; rfl)
  have hne' : (l.mergeSort fun a b => (cmp a b).isLE).Pairwise
      fun a b => cmp a b ≠ Ordering.eq :=
    (List.Perm.pairwise_iff hsymm (List.mergeSort_perm l _)).2 hne
  refine (hsorted.and hne').imp ?_
  intro a b ⟨hle, hn⟩
  cases h : cmp a b with
  | lt => rfl
  | eq => exact absurd h hn
  | gt => rw [h] at hle; cases hle

/-- The elements after `x` are the part of the list behind it. -/
theorem filter_after {l₁ l₂ : List α} {x : α} (h : Strict cmp (l₁ ++ x :: l₂)) :
    (l₁ ++ x :: l₂).filter (fun y => cmp x y = Ordering.lt) = l₂ := by
  obtain ⟨_, h₂, hcross⟩ := List.pairwise_append.1 h
  have hl₁ : l₁.filter (fun y => cmp x y = Ordering.lt) = [] := by
    rw [List.filter_eq_nil_iff]
    intro y hy
    have hyx := hcross y hy x List.mem_cons_self
    rw [← cmp_swap cmp, hyx]
    decide
  have hx : cmp x x = Ordering.eq := ReflCmp.compare_self
  have hl₂ : l₂.filter (fun y => cmp x y = Ordering.lt) = l₂ := by
    rw [List.filter_eq_self]
    intro y hy
    simpa using (List.pairwise_cons.1 h₂).1 y hy
  simp [hl₁, hl₂, hx]

/-- The elements before `x` are the part of the list in front of it. -/
theorem filter_before {l₁ l₂ : List α} {x : α} (h : Strict cmp (l₁ ++ x :: l₂)) :
    (l₁ ++ x :: l₂).filter (fun y => cmp x y = Ordering.gt) = l₁ := by
  obtain ⟨_, h₂, hcross⟩ := List.pairwise_append.1 h
  have hl₁ : l₁.filter (fun y => cmp x y = Ordering.gt) = l₁ := by
    rw [List.filter_eq_self]
    intro y hy
    have hyx := hcross y hy x List.mem_cons_self
    rw [← cmp_swap cmp, hyx]
    rfl
  have hx : cmp x x = Ordering.eq := ReflCmp.compare_self
  have hl₂ : l₂.filter (fun y => cmp x y = Ordering.gt) = [] := by
    rw [List.filter_eq_nil_iff]
    intro y hy
    rw [(List.pairwise_cons.1 h₂).1 y hy]
    decide
  simp [hl₁, hl₂, hx]

/-- Sorting a part of a strictly increasing list gives that part in the list's order. -/
theorem mergeSort_eq_filter {l s : List α} (hs : Strict cmp s) (hp : s.Perm l) (p : α → Bool) :
    (l.filter p).mergeSort (fun a b => (cmp a b).isLE) = s.filter p := by
  have hperm : (s.filter p).Perm (l.filter p) := hp.filter p
  have hsf : Strict cmp (s.filter p) := List.Pairwise.filter p hs
  have hne : (l.filter p).Pairwise fun a b => cmp a b ≠ Ordering.eq := by
    refine (List.Perm.pairwise_iff ?_ hperm).1 (hsf.imp fun hab => by rw [hab]; decide)
    intro a b hab hba
    exact hab (by rw [← cmp_swap cmp, hba]; rfl)
  exact eq_of_perm (strict_mergeSort hne) hsf ((List.mergeSort_perm _ _).trans hperm.symm)

/-- **Sorting by the swapped comparator reverses the list.** -/
theorem mergeSort_eq_reverse {l s : List α} (hs : Strict cmp s) (hp : s.Perm l) (p : α → Bool) :
    (l.filter p).mergeSort (fun a b => ((cmp a b).swap).isLE) = (s.filter p).reverse := by
  have hrev : Strict (fun a b => cmp b a) s.reverse := List.pairwise_reverse.2 hs
  have hsort := mergeSort_eq_filter hrev (s.reverse_perm.trans hp) p
  simp only [cmp_swap cmp]
  rw [hsort, List.filter_reverse]

end Sorted

end Lex
