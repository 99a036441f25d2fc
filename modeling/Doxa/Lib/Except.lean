/-
**Computations that may throw.**

Main results:

* `Except.bind_eq_ok_iff` — what a computation that returned did first, and what then;
* `Except.bind_eq_ok` — the same, when the first part returns nothing;
* `Except.forM_eq_ok_iff` — a loop of checks passes when each check does;
* `Except.mapM_eq_ok_iff` — a list of computations returns the list of their results;
* `Except.map_mapM` — what is made of each result may be made as it comes;
* `Except.mapM_map_eq_ok_iff` — **a list that is written item by item is read back** when each of
  its items is.
-/

import Mathlib.Data.List.Forall2

set_option relaxedAutoImplicit false
set_option autoImplicit false

namespace Except

universe u

variable {ε : Type*}

theorem bind_eq_ok_iff {α β : Type u} {p : Except ε α} {k : α → Except ε β} {b : β} :
    (p >>= k) = .ok b ↔ ∃ a, p = .ok a ∧ k a = .ok b := by
  cases p with
  | error e =>
    constructor
    · rintro ⟨⟩
    · rintro ⟨a, ⟨⟩, -⟩
  | ok a =>
    constructor
    · exact fun h => ⟨a, rfl, h⟩
    · rintro ⟨a', ⟨⟩, h⟩
      exact h

theorem bind_eq_ok {β : Type} {p : Except ε Unit} {k : Unit → Except ε β} {b : β} :
    (p >>= k) = .ok b ↔ p = .ok () ∧ k () = .ok b := by
  rw [bind_eq_ok_iff]
  exact ⟨fun ⟨_, h⟩ => h, fun h => ⟨(), h⟩⟩

theorem ite_error_eq_ok_iff {α : Type*} {refused : Bool} {e : ε} {a b : α} :
    (if refused then Except.error e else Except.ok a) = Except.ok b ↔ a = b ∧ refused = false := by
  cases refused <;> simp

theorem forM_eq_ok_iff {α : Type*} (f : α → Except ε Unit) (l : List α) :
    l.forM f = .ok () ↔ ∀ x ∈ l, f x = .ok () := by
  induction l with
  | nil => simp [pure, Except.pure]
  | cons x l ih =>
    change (f x >>= fun _ => l.forM f) = .ok () ↔ _
    rw [bind_eq_ok, ih]
    simp

/-- **A loop fails just when one of its steps does.** -/
theorem exists_forM_eq_error_iff {α : Type*} (f : α → Except ε Unit) (l : List α) :
    (∃ e, l.forM f = .error e) ↔ ∃ x ∈ l, ∃ e, f x = .error e := by
  have herror : ∀ p : Except ε Unit, (∃ e, p = .error e) ↔ p ≠ .ok () := by
    intro p
    cases p <;> simp
  rw [herror, Ne, forM_eq_ok_iff]
  simp only [herror, not_forall, exists_prop]

/-- A list of computations returns the list of their results. -/
theorem mapM_eq_ok_iff {α β : Type u} {f : α → Except ε β} {items : List α} {results : List β} :
    items.mapM f = .ok results ↔
      List.Forall₂ (fun item result => f item = .ok result) items results := by
  induction items generalizing results with
  | nil =>
    rw [List.mapM_nil, List.forall₂_nil_left_iff]
    exact ⟨fun h => (Except.ok.inj h).symm, fun h => congrArg _ h.symm⟩
  | cons item items ih =>
    rw [List.mapM_cons, bind_eq_ok_iff, List.forall₂_cons_left_iff]
    simp only [bind_eq_ok_iff, ih]
    constructor
    · rintro ⟨result, hresult, rest, hrest, hok⟩
      exact ⟨result, rest, hresult, hrest, (Except.ok.inj hok).symm⟩
    · rintro ⟨result, rest, hresult, hrest, rfl⟩
      exact ⟨result, hresult, rest, hrest, rfl⟩

section ReadBack

variable {α β : Type u} {write : α → β} {read : β → Except ε α} {p : α → Prop}

/-- **A list is read back as it was written**, when each of its items is. -/
theorem mapM_map_eq_ok_iff {items result : List α}
    (h : ∀ a ∈ items, ∀ b, read (write a) = .ok b ↔ p a ∧ a = b) :
    (items.map write).mapM read = .ok result ↔ (∀ a ∈ items, p a) ∧ items = result := by
  induction items generalizing result with
  | nil =>
    rw [List.map_nil, List.mapM_nil]
    exact ⟨fun hok => ⟨List.forall_mem_nil _, Except.ok.inj hok⟩, fun hok => congrArg _ hok.2⟩
  | cons item items ih =>
    rw [List.forall_mem_cons] at h
    rw [List.map_cons, List.mapM_cons, List.forall_mem_cons, bind_eq_ok_iff]
    simp only [h.1, bind_eq_ok_iff, ih h.2]
    constructor
    · rintro ⟨_, ⟨hitem, rfl⟩, _, ⟨hitems, rfl⟩, hok⟩
      exact ⟨⟨hitem, hitems⟩, Except.ok.inj hok⟩
    · rintro ⟨⟨hitem, hitems⟩, rfl⟩
      exact ⟨item, ⟨hitem, rfl⟩, items, ⟨hitems, rfl⟩, rfl⟩

/-- What may be missing is read back as it was written. -/
theorem mapM_option_map_eq_ok_iff {value result : Option α}
    (h : ∀ a ∈ value, ∀ b, read (write a) = .ok b ↔ p a ∧ a = b) :
    (value.map write).mapM read = .ok result ↔ (∀ a ∈ value, p a) ∧ value = result := by
  cases value with
  | none => exact ⟨fun hok => ⟨nofun, Except.ok.inj hok⟩, fun hok => congrArg _ hok.2⟩
  | some a =>
    have ha := h a rfl
    rw [Option.map_some, Option.mapM_some]
    cases hread : read (write a) with
    | error e =>
      constructor
      · intro hok
        cases hok
      · rintro ⟨hp, -⟩
        have hok := (ha a).2 ⟨hp a rfl, rfl⟩
        rw [hread] at hok
        cases hok
    | ok b =>
      obtain ⟨hp, rfl⟩ := (ha b).1 hread
      refine ⟨fun hok => ⟨fun a' ha' => ?_, Except.ok.inj hok⟩, fun hok => congrArg _ hok.2⟩
      rw [← Option.some.inj ha']
      exact hp

end ReadBack

theorem exists_map_eq_error_iff {α β : Type*} {f : α → β} {p : Except ε α} :
    (∃ e, p.map f = .error e) ↔ ∃ e, p = .error e := by
  cases p <;> simp [Except.map]

/-- What is made of each result may be made as it comes. -/
theorem map_mapM {α β γ : Type*} (f : α → Except ε β) (g : β → γ) (l : List α) :
    (l.mapM f).map (List.map g) = l.mapM fun x => (f x).map g := by
  induction l with
  | nil => rfl
  | cons x l ih =>
    rw [List.mapM_cons, List.mapM_cons, ← ih]
    cases f x with
    | error e => rfl
    | ok b => cases l.mapM f <;> rfl

end Except
