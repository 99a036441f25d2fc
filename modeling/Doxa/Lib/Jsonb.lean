/-
**JSON in columns of type `jsonb`.**

The database keeps the values and not the text.  Of several properties with one key it keeps the
last, and it orders the properties of an object: shorter keys first, in bytes, and keys of the same
length by their characters.

Main definitions:

* `Jsonb.Before` — the order of the keys;
* `Jsonb.store` — what is kept of a value.

Main results:

* `Jsonb.inOrder_storeFields` — **the keys of an object are in order**;
* `Jsonb.isPlain_store` — a plain value is kept as one;
* `Jsonb.field_store` — **a property is found again**, in whatever order.
-/

import Doxa.Lib.JsonText
import Mathlib.Data.String.Basic

set_option relaxedAutoImplicit false
set_option autoImplicit false

namespace Jsonb

/-- A key comes before another one. -/
def Before (key key' : String) : Prop :=
  key.utf8ByteSize < key'.utf8ByteSize ∨ key.utf8ByteSize = key'.utf8ByteSize ∧ key < key'

instance (key key' : String) : Decidable (Before key key') :=
  inferInstanceAs (Decidable (_ ∨ _))

theorem not_before_self (key : String) : ¬Before key key := by
  rintro (hlt | ⟨-, hlt⟩)
  · omega
  · exact lt_irrefl key hlt

theorem Before.trans {a b c : String} (hab : Before a b) (hbc : Before b c) : Before a c := by
  rcases hab with hab | ⟨hab, hlt⟩
  · rcases hbc with hbc | ⟨hbc, -⟩
    · exact .inl (by omega)
    · exact .inl (by omega)
  · rcases hbc with hbc | ⟨hbc, hlt'⟩
    · exact .inl (by omega)
    · exact .inr ⟨by omega, hlt.trans hlt'⟩

/-- Of two keys one comes first. -/
theorem before_or_before {a b : String} (hne : a ≠ b) : Before a b ∨ Before b a := by
  rcases Nat.lt_trichotomy a.utf8ByteSize b.utf8ByteSize with hlt | heq | hgt
  · exact .inl (.inl hlt)
  · rcases lt_or_gt_of_ne hne with hlt | hgt
    · exact .inl (.inr ⟨heq, hlt⟩)
    · exact .inr (.inr ⟨heq.symm, hgt⟩)
  · exact .inr (.inl hgt)

/-- A property is put in its place, unless there is a later one with its key. -/
def insertField (field : String × Json) : List (String × Json) → List (String × Json)
  | [] => [field]
  | other :: rest =>
    if field.1 = other.1 then other :: rest
    else if Before field.1 other.1 then field :: other :: rest
    else other :: insertField field rest

mutual

/-- What is kept of a value. -/
def store : Json → Json
  | .array items => .array (storeItems items)
  | .object fields => .object (storeFields fields)
  | json => json

def storeItems : List Json → List Json
  | [] => []
  | item :: items => store item :: storeItems items

def storeFields : List (String × Json) → List (String × Json)
  | [] => []
  | (key, value) :: fields => insertField (key, store value) (storeFields fields)

end

/-- The properties are in order. -/
def InOrder (fields : List (String × Json)) : Prop :=
  fields.Pairwise fun field other => Before field.1 other.1

variable {fields : List (String × Json)}

theorem mem_insertField {field other : String × Json} (h : other ∈ insertField field fields) :
    other = field ∨ other ∈ fields := by
  induction fields with
  | nil => exact .inl (List.mem_singleton.1 h)
  | cons first rest ih =>
    rw [insertField] at h
    split_ifs at h
    · exact .inr h
    · exact List.mem_cons.1 h
    · rcases List.mem_cons.1 h with rfl | h
      · exact .inr List.mem_cons_self
      · exact (ih h).imp_right (List.mem_cons_of_mem first)

theorem inOrder_insertField (field : String × Json) (h : InOrder fields) :
    InOrder (insertField field fields) := by
  induction fields with
  | nil => exact List.pairwise_singleton _ _
  | cons first rest ih =>
    obtain ⟨hfirst, hrest⟩ := List.pairwise_cons.1 h
    rw [insertField]
    split_ifs with hsame hbefore
    · exact h
    · refine List.pairwise_cons.2 ⟨?_, h⟩
      intro other hother
      rcases List.mem_cons.1 hother with rfl | hother
      · exact hbefore
      · exact hbefore.trans (hfirst other hother)
    · refine List.pairwise_cons.2 ⟨?_, ih hrest⟩
      intro other hother
      rcases mem_insertField hother with rfl | hother
      · exact (before_or_before hsame).resolve_left hbefore
      · exact hfirst other hother

/-- **The keys of an object are in order.** -/
theorem inOrder_storeFields (fields : List (String × Json)) : InOrder (storeFields fields) := by
  induction fields with
  | nil => exact List.Pairwise.nil
  | cons field fields ih =>
    rw [storeFields]
    exact inOrder_insertField _ ih

theorem InOrder.nodup (h : InOrder fields) : (fields.map Prod.fst).Nodup := by
  rw [List.Nodup, List.pairwise_map]
  refine h.imp ?_
  intro field other hbefore hsame
  rw [hsame] at hbefore
  exact not_before_self _ hbefore

theorem havePlain_insertField {field : String × Json} (hfield : JsonText.IsPlain field.2)
    (h : JsonText.HavePlain fields) : JsonText.HavePlain (insertField field fields) := by
  induction fields with
  | nil => exact ⟨hfield, trivial⟩
  | cons first rest ih =>
    rw [insertField]
    split_ifs
    · exact h
    · exact ⟨hfield, h⟩
    · exact ⟨h.1, ih h.2⟩

mutual

/-- **A plain value is kept as one.** -/
theorem isPlain_store : ∀ json, JsonText.IsPlain json → JsonText.IsPlain (store json)
  | .null, h => h
  | .bool _, h => h
  | .number _, h => h
  | .text _, h => h
  | .array items, h => arePlain_storeItems items h
  | .object fields, h => ⟨(inOrder_storeFields fields).nodup, havePlain_storeFields fields h.2⟩

theorem arePlain_storeItems : ∀ items, JsonText.ArePlain items →
    JsonText.ArePlain (storeItems items)
  | [], h => h
  | item :: items, h => ⟨isPlain_store item h.1, arePlain_storeItems items h.2⟩

theorem havePlain_storeFields : ∀ fields, JsonText.HavePlain fields →
    JsonText.HavePlain (storeFields fields)
  | [], h => h
  | (_, value) :: fields, h => by
    rw [storeFields]
    exact havePlain_insertField (isPlain_store value h.1) (havePlain_storeFields fields h.2)

end

/-- A property is found where it was put. -/
theorem field_insertField {field : String × Json} (h : field.1 ∉ fields.map Prod.fst)
    (key : String) :
    (Json.object (insertField field fields)).field key =
      if field.1 = key then some field.2 else (Json.object fields).field key := by
  simp only [Json.field]
  induction fields with
  | nil =>
    rw [insertField, List.find?_singleton]
    split_ifs <;> simp_all
  | cons first rest ih =>
    rw [List.map_cons, List.mem_cons, not_or] at h
    rw [insertField, if_neg h.1]
    split_ifs with hbefore hkey hkey
    · simp [hkey]
    · simp [hkey]
    · rw [if_pos hkey] at ih
      have hfirst : first.1 ≠ key := fun hsame => h.1 (hkey.trans hsame.symm)
      simp [hfirst, ih h.2]
    · rw [if_neg hkey] at ih
      by_cases hfirst : first.1 = key
      · simp [hfirst]
      · simp [hfirst, ih h.2]

theorem mem_keys_storeFields {key : String} (h : key ∈ (storeFields fields).map Prod.fst) :
    key ∈ fields.map Prod.fst := by
  induction fields with
  | nil => exact h
  | cons field fields ih =>
    obtain ⟨name, value⟩ := field
    rw [storeFields] at h
    obtain ⟨other, hother, rfl⟩ := List.mem_map.1 h
    rcases mem_insertField hother with rfl | hother
    · exact List.mem_cons_self
    · exact List.mem_cons_of_mem _ (ih (List.mem_map_of_mem hother))

/-- **A property is found again.** -/
theorem field_store (h : (fields.map Prod.fst).Nodup) (key : String) :
    (store (.object fields)).field key = ((Json.object fields).field key).map store := by
  rw [store]
  induction fields with
  | nil => rfl
  | cons field fields ih =>
    obtain ⟨name, value⟩ := field
    rw [List.map_cons, List.nodup_cons] at h
    have hnew : (name, store value).1 ∉ (storeFields fields).map Prod.fst :=
      fun hmem => h.1 (mem_keys_storeFields hmem)
    rw [storeFields, field_insertField hnew, ih h.2]
    by_cases hkey : name = key
    · simp [Json.field, hkey]
    · simp [Json.field, hkey]

end Jsonb
