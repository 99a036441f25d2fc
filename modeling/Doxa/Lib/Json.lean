/-
**JSON values, and records with optional properties.**

A JSON value is a tree whose objects are lists of properties.  What a program writes is often a
record some of whose properties may be missing; a missing one is not written, and what reads the
value finds each property under its key again.

Main definitions:

* `Json`, `Json.field`, `Json.keys` — values, the property under a key, the keys;
* `Json.record` — the object with those properties that are there;
* `Json.assign` — an object with some properties set anew, or taken out.

Main results:

* `Json.field_record` — **a record has under each key what was written there**;
* `Json.onlyKeys_record` — a record has no other keys than those it was written with;
* `Json.SameFields.onlyKeys` — objects with the same properties have the same keys;
* `Json.field_assign` — what was set anew in an object is found, and the rest as it was;
* `Json.mapM_map` — a list that is written item by item is read item by item;
* `Json.apply_eq_of_mapM_eq` — lists that come out the same come out the same item by item.
-/

import Mathlib.Data.List.Nodup
import Mathlib.Data.Rat.Defs

set_option relaxedAutoImplicit false
set_option autoImplicit false

/-- A JSON value. -/
inductive Json
  | null
  | bool (value : Bool)
  | number (value : ℚ)
  | text (value : String)
  | array (items : List Json)
  | object (fields : List (String × Json))

namespace Json

variable (key : String)

/-- The property under a key. -/
def field : Json → Option Json
  | object fields => (fields.find? fun property => property.1 = key).map Prod.snd
  | _ => none

/-- The keys of a value: those of an object, and the positions of a text or an array. -/
def keys : Json → List String
  | object fields => fields.map Prod.fst
  | array items => (List.range items.length).map toString
  | text value => (List.range value.length).map toString
  | _ => []

/-- There are no other keys. -/
def onlyKeys (allowed : List String) (json : Json) : Bool := json.keys.all fun key => key ∈ allowed

def asText : Json → Option String
  | text value => some value
  | _ => none

def asBool : Json → Option Bool
  | bool value => some value
  | _ => none

def asNumber : Json → Option ℚ
  | number value => some value
  | _ => none

def asArray : Json → Option (List Json)
  | array items => some items
  | _ => none

def asObject : Json → Option (List (String × Json))
  | object fields => some fields
  | _ => none

/-! ### Records -/

variable {fields : List (String × Option Json)}

/-- The properties that are there. -/
def present (fields : List (String × Option Json)) : List (String × Json) :=
  fields.filterMap fun property => property.2.map fun value => (property.1, value)

/-- The object with the properties that are there. -/
def record (fields : List (String × Option Json)) : Json := object (present fields)

/-- What is to be written under a key. -/
def written (key : String) : List (String × Option Json) → Option Json
  | [] => none
  | (name, value) :: rest => if name = key then value else written key rest

theorem mem_keys_of_mem_present {property : String × Json} (h : property ∈ present fields) :
    property.1 ∈ fields.map Prod.fst := by
  obtain ⟨⟨name, value⟩, hmem, hvalue⟩ := List.mem_filterMap.1 h
  obtain ⟨json, -, rfl⟩ := Option.map_eq_some_iff.1 hvalue
  exact List.mem_map_of_mem hmem

/-- **A record has under each key what was written there.** -/
theorem field_record (h : (fields.map Prod.fst).Nodup) :
    (record fields).field key = written key fields := by
  induction fields with
  | nil => rfl
  | cons property fields ih =>
    obtain ⟨name, value⟩ := property
    rw [List.map_cons, List.nodup_cons] at h
    have hrest : (record fields).field key = written key fields := ih h.2
    rw [record, field] at hrest ⊢
    rw [written]
    split_ifs with hname
    · subst hname
      cases value with
      | some json => simp [present]
      | none =>
        rw [present, List.filterMap_cons_none rfl, Option.map_eq_none_iff, List.find?_eq_none]
        intro property hmem hkey
        exact h.1 (of_decide_eq_true hkey ▸ mem_keys_of_mem_present hmem)
    · rw [← hrest]
      cases value with
      | some json => simp [present, hname]
      | none => rfl

/-- **A record has no other keys** than those it was written with. -/
theorem onlyKeys_record {allowed : List String} (h : (fields.map Prod.fst) ⊆ allowed) :
    (record fields).onlyKeys allowed = true := by
  refine List.all_eq_true.2 fun key hkey => decide_eq_true ?_
  obtain ⟨property, hmem, rfl⟩ := List.mem_map.1 hkey
  exact h (mem_keys_of_mem_present hmem)

/-! ### Objects with the same properties -/

/-- Two objects have the same properties, in whatever order. -/
structure SameFields (json json' : Json) : Prop where
  isObject : ∃ fields, json = object fields
  isObject' : ∃ fields, json' = object fields
  field : ∀ key, json.field key = json'.field key

theorem mem_keys_iff {fields : List (String × Json)} {key : String} :
    key ∈ (object fields).keys ↔ (object fields).field key ≠ none := by
  rw [keys, field, ne_eq, Option.map_eq_none_iff, List.find?_eq_none, List.mem_map]
  simp only [decide_eq_true_eq, not_forall, not_not, exists_prop]

/-- Such objects have the same keys. -/
theorem SameFields.onlyKeys {json json' : Json} (h : SameFields json json')
    (allowed : List String) : json.onlyKeys allowed = json'.onlyKeys allowed := by
  obtain ⟨⟨fields, rfl⟩, ⟨fields', rfl⟩, hfield⟩ := h
  rw [Bool.eq_iff_iff, Json.onlyKeys, Json.onlyKeys, List.all_eq_true, List.all_eq_true]
  exact forall_congr' fun key => by rw [mem_keys_iff, mem_keys_iff, hfield]

/-- An object with some properties set anew; those that are set to nothing are taken out. -/
def assign (changes : List (String × Option Json)) : Json → Json
  | object fields =>
    object (fields.filter (fun property => property.1 ∉ changes.map Prod.fst) ++ present changes)
  | json => json

theorem find?_present_eq (h : (fields.map Prod.fst).Nodup) :
    ((present fields).find? fun property => property.1 = key).map Prod.snd = written key fields :=
  field_record key h

theorem written_eq_none {key : String} (h : key ∉ fields.map Prod.fst) :
    written key fields = none := by
  induction fields with
  | nil => rfl
  | cons property fields ih =>
    obtain ⟨name, value⟩ := property
    rw [List.map_cons, List.mem_cons, not_or] at h
    rw [written, if_neg (Ne.symm h.1), ih h.2]

/-- **What was set anew is found, and the rest as it was.** -/
theorem field_assign {changes : List (String × Option Json)} (h : (changes.map Prod.fst).Nodup)
    (fields : List (String × Json)) :
    ((object fields).assign changes).field key =
      if key ∈ changes.map Prod.fst then written key changes else (object fields).field key := by
  rw [assign, field, List.find?_append, Option.map_or, find?_present_eq key h]
  split_ifs with hkey
  · have hnone : (fields.filter fun property => property.1 ∉ changes.map Prod.fst).find?
        (fun property => property.1 = key) = none := by
      rw [List.find?_eq_none]
      intro property hmem hname
      rw [decide_eq_true_eq] at hname
      rw [List.mem_filter, decide_eq_true_eq] at hmem
      exact hmem.2 (hname ▸ hkey)
    rw [hnone, Option.map_none, Option.none_or]
  · have hkept : (fun property : String × Json =>
        decide (property.1 ∉ changes.map Prod.fst) && decide (property.1 = key)) =
          fun property => decide (property.1 = key) := by
      funext property
      by_cases hname : property.1 = key
      · simp only [hname, hkey, not_false_eq_true, decide_true, Bool.true_and]
      · simp only [hname, decide_false, Bool.and_false]
    simp only [List.find?_filter, decide_eq_true_eq, Bool.decide_and, hkept,
      written_eq_none hkey, Option.or_none, field]

/-- **A list is read as it was written**, if each of its items is. -/
theorem mapM_map {α β : Type*} {write : α → β} {read : β → Option α} {items : List α}
    (h : ∀ a ∈ items, read (write a) = some a) : (items.map write).mapM read = some items := by
  induction items with
  | nil => rfl
  | cons item items ih =>
    rw [List.forall_mem_cons] at h
    simp [h.1, ih h.2]

section MapM

variable {α β : Type*} {f g : α → Option β} {items : List α}

theorem mapM_congr (h : ∀ item ∈ items, f item = g item) : items.mapM f = items.mapM g := by
  induction items with
  | nil => rfl
  | cons item items ih =>
    rw [List.forall_mem_cons] at h
    rw [List.mapM_cons, List.mapM_cons, h.1, ih h.2]

theorem isSome_mapM :
    (items.mapM f).isSome = true ↔ ∀ item ∈ items, (f item).isSome = true := by
  induction items with
  | nil => simp
  | cons item items ih =>
    rw [List.mapM_cons, List.forall_mem_cons, ← ih]
    cases f item with
    | none => simp
    | some value => cases items.mapM f <;> simp

/-- Lists that come out the same come out the same item by item. -/
theorem apply_eq_of_mapM_eq (hsome : (items.mapM f).isSome = true)
    (heq : items.mapM f = items.mapM g) {item : α} (hmem : item ∈ items) : f item = g item := by
  have hsome' : (items.mapM g).isSome = true := heq ▸ hsome
  rw [isSome_mapM] at hsome hsome'
  induction items with
  | nil => cases hmem
  | cons item' items ih =>
    rw [List.forall_mem_cons] at hsome hsome'
    obtain ⟨value, hvalue⟩ := Option.isSome_iff_exists.1 hsome.1
    obtain ⟨value', hvalue'⟩ := Option.isSome_iff_exists.1 hsome'.1
    obtain ⟨values, hvalues⟩ := Option.isSome_iff_exists.1 (isSome_mapM.2 hsome.2)
    obtain ⟨values', hvalues'⟩ := Option.isSome_iff_exists.1 (isSome_mapM.2 hsome'.2)
    rw [List.mapM_cons, List.mapM_cons, hvalue, hvalue', hvalues, hvalues'] at heq
    obtain ⟨rfl, rfl⟩ : value = value' ∧ values = values' := by simpa using heq
    rcases List.mem_cons.1 hmem with rfl | hmem
    · exact hvalue.trans hvalue'.symm
    · exact ih hsome.2 (hvalues.trans hvalues'.symm) hmem hsome'.2

theorem exists_mem_of_mapM {values : List β} (heq : items.mapM f = some values) {item : α}
    (hmem : item ∈ items) : ∃ value ∈ values, f item = some value := by
  induction items generalizing values with
  | nil => cases hmem
  | cons item' items ih =>
    rw [List.mapM_cons] at heq
    obtain ⟨value, hvalue, heq⟩ := Option.bind_eq_some_iff.1 heq
    obtain ⟨rest, hrest, heq⟩ := Option.bind_eq_some_iff.1 heq
    cases heq
    rcases List.mem_cons.1 hmem with rfl | hmem
    · exact ⟨value, List.mem_cons_self, hvalue⟩
    · obtain ⟨value', hmem', hvalue'⟩ := ih hrest hmem
      exact ⟨value', List.mem_cons_of_mem value hmem', hvalue'⟩

/-- What is kept of each item is kept of the list. -/
theorem map_of_mapM {γ : Type*} {write : β → γ} {read : α → γ} {values : List β}
    (hf : ∀ item value, f item = some value → write value = read item)
    (heq : items.mapM f = some values) : values.map write = items.map read := by
  induction items generalizing values with
  | nil =>
    cases heq
    rfl
  | cons item items ih =>
    rw [List.mapM_cons] at heq
    obtain ⟨value, hvalue, heq⟩ := Option.bind_eq_some_iff.1 heq
    obtain ⟨rest, hrest, heq⟩ := Option.bind_eq_some_iff.1 heq
    cases heq
    rw [List.map_cons, List.map_cons, hf item value hvalue, ih hrest]

end MapM

end Json
