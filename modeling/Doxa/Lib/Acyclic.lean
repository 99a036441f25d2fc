/-
**Relations without cycles.**

A relation has no cycle when no element leads back to itself.  An edge may be added as long as it
does not lead back, and in a finite set some element then leads to none of the set.

Main definitions:

* `Relation.Acyclic` — no element leads back to itself.

Main results:

* `Relation.Acyclic.insert` — **adding an edge that does not lead back**;
* `Relation.Acyclic.exists_sink` — **a finite set has an element that leads to none of it**.
-/

import Mathlib.Data.Fintype.Order
import Mathlib.Logic.Relation

set_option relaxedAutoImplicit false
set_option autoImplicit false

namespace Relation

variable {α : Type*} {r r' : α → α → Prop}

/-- No element leads back to itself. -/
def Acyclic (r : α → α → Prop) : Prop := ∀ a, ¬ TransGen r a a

theorem Acyclic.mono (h : Acyclic r) (hle : ∀ a b, r' a b → r a b) : Acyclic r' :=
  fun a ha => h a (TransGen.mono hle _ _ ha)

/-- What leads along the old edges and a new one leads along the old ones, or up to the new one and
on from it. -/
theorem TransGen.of_insert {a b x y : α} (hle : ∀ x y, r' x y → r x y ∨ x = a ∧ y = b)
    (h : TransGen r' x y) : TransGen r x y ∨ ReflTransGen r x a ∧ ReflTransGen r b y := by
  induction h with
  | single hxy =>
    rcases hle _ _ hxy with hold | ⟨rfl, rfl⟩
    · exact .inl (TransGen.single hold)
    · exact .inr ⟨ReflTransGen.refl, ReflTransGen.refl⟩
  | tail _ hyz ih =>
    rcases hle _ _ hyz with hold | ⟨rfl, rfl⟩
    · rcases ih with hxy | ⟨hxa, hby⟩
      · exact .inl (hxy.tail hold)
      · exact .inr ⟨hxa, hby.tail hold⟩
    · rcases ih with hxy | ⟨hxa, -⟩
      · exact .inr ⟨hxy.to_reflTransGen, ReflTransGen.refl⟩
      · exact .inr ⟨hxa, ReflTransGen.refl⟩

/-- **Adding an edge that does not lead back** makes no cycle. -/
theorem Acyclic.insert (h : Acyclic r) {a b : α} (hback : ¬ ReflTransGen r b a)
    (hle : ∀ x y, r' x y → r x y ∨ x = a ∧ y = b) : Acyclic r' := by
  intro x hx
  rcases hx.of_insert hle with hold | ⟨hxa, hbx⟩
  · exact h x hold
  · exact hback (hbx.trans hxa)

/-- **A finite set has an element that leads to none of it.** -/
theorem Acyclic.exists_sink (h : Acyclic r) {S : Finset α} (hS : S.Nonempty) :
    ∃ x ∈ S, ∀ y ∈ S, ¬ r x y := by
  classical
  let lead : S → S → Prop := fun y x => TransGen r x.val y.val
  have htrans : IsTrans S lead := ⟨fun _ _ _ hxy hyz => hyz.trans hxy⟩
  have hirrefl : Std.Irrefl lead := ⟨fun x => h x.val⟩
  obtain ⟨x, hx⟩ := hS
  obtain ⟨m, -, hm⟩ := (Finite.wellFounded_of_trans_of_irrefl lead).has_min Set.univ
    ⟨⟨x, hx⟩, trivial⟩
  exact ⟨m.val, m.property, fun y hy hmy => hm ⟨y, hy⟩ trivial (TransGen.single hmy)⟩

end Relation
