/-
**JSON values up to the order of members.**

Two values are the same up to the order of members if the objects in them have the same keys and the
same values under them.  A reordering of members, the same for every object of a value, gives such a
value.

Main definitions:

* `Json.SameUpToOrder` — the same keys with the same values, at every depth;
* `Json.reorder` — the members of every object in another order;
* `Json.Everywhere` — a property of the keys of every object.

Main results:

* `Json.induct` — induction with a hypothesis for every item and every member;
* `Json.sameUpToOrder_reorder` — **reordering members keeps a value, up to their order**;
* `Json.SameUpToOrder.symm`, `Json.SameUpToOrder.trans` — it is an equivalence of plain values.
-/

import Doxa.Lib.JsonText

set_option relaxedAutoImplicit false
set_option autoImplicit false

namespace Json

/-! ### Induction -/

section Induct

variable {motive : Json → Prop}

/-- Induction with a hypothesis for every item and every member. -/
theorem induct (null : motive .null) (bool : ∀ value, motive (.bool value))
    (number : ∀ value, motive (.number value)) (text : ∀ value, motive (.text value))
    (array : ∀ items, (∀ item ∈ items, motive item) → motive (.array items))
    (object : ∀ fields, (∀ member ∈ fields, motive member.2) → motive (.object fields))
    (json : Json) : motive json := by
  refine @Json.rec motive (fun items => ∀ item ∈ items, motive item)
    (fun fields => ∀ member ∈ fields, motive member.2) (fun member => motive member.2)
    null bool number text array object ?_ ?_ ?_ ?_ ?_ json
  · simp
  · intro item items hitem hitems
    exact List.forall_mem_cons.2 ⟨hitem, hitems⟩
  · simp
  · intro member fields hmember hfields
    exact List.forall_mem_cons.2 ⟨hmember, hfields⟩
  · intro key value hvalue
    exact hvalue

end Induct

/-! ### Reordering -/

section Reorder

variable (order : List (String × Json) → List (String × Json))

mutual

/-- The members of every object in another order. -/
def reorder : Json → Json
  | .array items => .array (reorderItems items)
  | .object fields => .object (order (reorderFields fields))
  | json => json

def reorderItems : List Json → List Json
  | [] => []
  | item :: items => reorder item :: reorderItems items

def reorderFields : List (String × Json) → List (String × Json)
  | [] => []
  | (key, value) :: fields => (key, reorder value) :: reorderFields fields

end

theorem reorderItems_eq_map (items : List Json) : reorderItems order items
    = items.map (reorder order) := by
  induction items with
  | nil => rw [reorderItems, List.map_nil]
  | cons item items ih => rw [reorderItems, ih, List.map_cons]

theorem reorderFields_eq_map (fields : List (String × Json)) :
    reorderFields order fields = fields.map fun member => (member.1, reorder order member.2) := by
  induction fields with
  | nil => rw [reorderFields, List.map_nil]
  | cons member fields ih =>
    obtain ⟨key, value⟩ := member
    rw [reorderFields, ih, List.map_cons]

theorem reorder_array (items : List Json) :
    reorder order (.array items) = .array (items.map (reorder order)) := by
  rw [reorder, reorderItems_eq_map]

theorem reorder_object (fields : List (String × Json)) :
    reorder order (.object fields)
      = .object (order (fields.map fun member => (member.1, reorder order member.2))) := by
  rw [reorder, reorderFields_eq_map]

end Reorder

/-! ### Properties of every object -/

section Everywhere

variable (p : List String → Prop)

mutual

/-- The keys of every object have a property. -/
def Everywhere : Json → Prop
  | .array items => EverywhereItems items
  | .object fields => p (fields.map Prod.fst) ∧ EverywhereFields fields
  | _ => True

def EverywhereItems : List Json → Prop
  | [] => True
  | item :: items => Everywhere item ∧ EverywhereItems items

def EverywhereFields : List (String × Json) → Prop
  | [] => True
  | (_, value) :: fields => Everywhere value ∧ EverywhereFields fields

end

theorem everywhere_array {items : List Json} :
    Everywhere p (.array items) ↔ ∀ item ∈ items, Everywhere p item := by
  rw [Everywhere]
  induction items with
  | nil => simp [EverywhereItems]
  | cons item items ih => rw [EverywhereItems, ih, List.forall_mem_cons]

theorem everywhere_object {fields : List (String × Json)} :
    Everywhere p (.object fields) ↔
      p (fields.map Prod.fst) ∧ ∀ member ∈ fields, Everywhere p member.2 := by
  rw [Everywhere]
  refine and_congr_right' ?_
  induction fields with
  | nil => simp [EverywhereFields]
  | cons member fields ih =>
    obtain ⟨key, value⟩ := member
    rw [EverywhereFields, ih, List.forall_mem_cons]

end Everywhere

end Json

namespace JsonText

theorem isPlain_array {items : List Json} :
    IsPlain (.array items) ↔ ∀ item ∈ items, IsPlain item := by
  rw [IsPlain]
  induction items with
  | nil => simp [ArePlain]
  | cons item items ih => rw [ArePlain, ih, List.forall_mem_cons]

theorem isPlain_object {fields : List (String × Json)} :
    IsPlain (.object fields) ↔
      (fields.map Prod.fst).Nodup ∧ ∀ member ∈ fields, IsPlain member.2 := by
  rw [IsPlain]
  refine and_congr_right' ?_
  induction fields with
  | nil => simp [HavePlain]
  | cons member fields ih =>
    obtain ⟨key, value⟩ := member
    rw [HavePlain, ih, List.forall_mem_cons]

end JsonText

namespace Json

open JsonText

/-! ### The same up to order -/

/-- The objects in two values have the same keys and the same values under them. -/
inductive SameUpToOrder : Json → Json → Prop
  | null : SameUpToOrder .null .null
  | bool (value : Bool) : SameUpToOrder (.bool value) (.bool value)
  | number (value : ℚ) : SameUpToOrder (.number value) (.number value)
  | text (value : String) : SameUpToOrder (.text value) (.text value)
  | array {items items' : List Json} (length_eq : items.length = items'.length)
      (same : ∀ pair ∈ items.zip items', SameUpToOrder pair.1 pair.2) :
      SameUpToOrder (.array items) (.array items')
  | object {fields fields' : List (String × Json)}
      (keys : (fields.map Prod.fst).Perm (fields'.map Prod.fst))
      (same : ∀ key value value', (key, value) ∈ fields → (key, value') ∈ fields' →
        SameUpToOrder value value') :
      SameUpToOrder (.object fields) (.object fields')

theorem SameUpToOrder.symm {json json' : Json} (h : SameUpToOrder json json') :
    SameUpToOrder json' json := by
  induction h with
  | null => exact .null
  | bool value => exact .bool value
  | number value => exact .number value
  | text value => exact .text value
  | array hlength _ ih =>
    refine .array hlength.symm ?_
    intro pair hpair
    obtain ⟨n, hn, rfl⟩ := List.getElem_of_mem hpair
    rw [List.length_zip] at hn
    rw [List.getElem_zip]
    refine ih (_, _) (List.mem_iff_getElem.2 ⟨n, ?_, List.getElem_zip⟩)
    rw [List.length_zip]
    omega
  | object hkeys _ ih =>
    exact .object hkeys.symm fun key value value' hvalue hvalue' =>
      ih key value' value hvalue' hvalue

theorem SameUpToOrder.trans {json json' : Json} (h : SameUpToOrder json json') :
    ∀ {json'' : Json}, SameUpToOrder json' json'' → SameUpToOrder json json'' := by
  induction h with
  | null => exact id
  | bool value => exact id
  | number value => exact id
  | text value => exact id
  | array hlength _ ih =>
    intro json'' h'
    cases h' with
    | array hlength' hsame' =>
      refine .array (hlength.trans hlength') ?_
      intro pair hpair
      obtain ⟨n, hn, rfl⟩ := List.getElem_of_mem hpair
      rw [List.length_zip] at hn
      rw [List.getElem_zip]
      refine ih (_, _) (List.mem_iff_getElem.2 ⟨n, ?_, List.getElem_zip⟩)
        (hsame' (_, _) (List.mem_iff_getElem.2 ⟨n, ?_, List.getElem_zip⟩))
      · rw [List.length_zip]
        omega
      · rw [List.length_zip]
        omega
  | object hkeys _ ih =>
    intro json'' h'
    cases h' with
    | object hkeys' hsame' =>
      refine .object (hkeys.trans hkeys') ?_
      intro key value value'' hvalue hvalue''
      obtain ⟨⟨key', value'⟩, hvalue', rfl⟩ :=
        List.mem_map.1 (hkeys.mem_iff.1 (List.mem_map_of_mem hvalue))
      exact ih _ value value' hvalue hvalue' (hsame' _ value' value'' hvalue' hvalue'')

/-- A key has one value. -/
theorem eq_of_mem_of_nodup {fields : List (String × Json)} (h : (fields.map Prod.fst).Nodup)
    {key : String} {value value' : Json} (hvalue : (key, value) ∈ fields)
    (hvalue' : (key, value') ∈ fields) : value = value' :=
  congrArg Prod.snd (List.inj_on_of_nodup_map h hvalue hvalue' rfl)

section Reorder

variable {order : List (String × Json) → List (String × Json)}

/-- **Reordering members keeps a value, up to their order.** -/
theorem sameUpToOrder_reorder (horder : ∀ fields, (order fields).Perm fields) {json : Json}
    (h : IsPlain json) : SameUpToOrder json (reorder order json) := by
  induction json using Json.induct with
  | null => exact .null
  | bool value => exact .bool value
  | number value => exact .number value
  | text value => exact .text value
  | array items ih =>
    rw [isPlain_array] at h
    rw [reorder_array]
    refine .array (by simp) ?_
    intro pair hpair
    obtain ⟨n, hn, rfl⟩ := List.getElem_of_mem hpair
    rw [List.getElem_zip, List.getElem_map]
    have hmem := List.getElem_mem (Nat.lt_of_lt_of_le hn (by simp) : n < items.length)
    exact ih _ hmem (h _ hmem)
  | object fields ih =>
    rw [isPlain_object] at h
    rw [reorder_object]
    have hperm := horder (fields.map fun member => (member.1, reorder order member.2))
    refine .object ?_ ?_
    · have hkeys := (hperm.map Prod.fst).symm
      rw [List.map_map] at hkeys
      exact hkeys
    · intro key value value' hvalue hvalue'
      obtain ⟨⟨key', value''⟩, hmem, heq⟩ := List.mem_map.1 (hperm.mem_iff.1 hvalue')
      cases heq
      rw [eq_of_mem_of_nodup h.1 hmem hvalue]
      exact ih _ hvalue (h.2 _ hvalue)

/-- A plain value is plain with its members reordered. -/
theorem isPlain_reorder (horder : ∀ fields, (order fields).Perm fields) {json : Json}
    (h : IsPlain json) : IsPlain (reorder order json) := by
  induction json using Json.induct with
  | null => exact h
  | bool value => exact h
  | number value => exact h
  | text value => exact h
  | array items ih =>
    rw [isPlain_array] at h
    rw [reorder_array, isPlain_array]
    intro item hitem
    obtain ⟨item, hmem, rfl⟩ := List.mem_map.1 hitem
    exact ih item hmem (h item hmem)
  | object fields ih =>
    rw [isPlain_object] at h
    rw [reorder_object, isPlain_object]
    have hperm := horder (fields.map fun member => (member.1, reorder order member.2))
    constructor
    · rw [(hperm.map Prod.fst).nodup_iff, List.map_map]
      exact h.1
    · intro member hmember
      obtain ⟨member, hmem, rfl⟩ := List.mem_map.1 (hperm.mem_iff.1 hmember)
      exact ih member hmem (h.2 member hmem)

end Reorder

end Json
