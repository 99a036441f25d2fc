/-
**JSON values that are decoded without having been encoded.**

`decodeDateTimeValues` (`core/src/datetime-codec.ts`) reads any object with the property `$doxa` as
what `encodeDateTimeValues` has put there: a date, a time, or an object that was wrapped.  A value
that was never encoded is decoded to itself exactly if no object in it has this property: whatever
is made of a tagged object is less deep than the object.

PostgreSQL keeps a value as `jsonb` unless a text or a key in it has the character U+0000.

Main definitions:

* `Doxa.DoxaValue.ofJson` — a JSON value as it is;
* `Json.isUntagged` — no object has the property `$doxa`;
* `Json.hasText`, `Doxa.storeJsonb` — what is stored.

Main results:

* `Doxa.DoxaValue.decode_eq_ofJson_iff` — **a value is decoded to itself exactly if it is
  untagged**;
* `Json.hasText_record` — the texts of a record.
-/

import Doxa.DateTimeCodec

set_option relaxedAutoImplicit false
set_option autoImplicit false

namespace Json

mutual

/-- No object in the value has the property `$doxa`. -/
def isUntagged : Json → Bool
  | array items => areUntagged items
  | object fields => decide ("$doxa" ∉ fields.map Prod.fst) && haveUntagged fields
  | _ => true

def areUntagged : List Json → Bool
  | [] => true
  | json :: items => isUntagged json && areUntagged items

def haveUntagged : List (String × Json) → Bool
  | [] => true
  | (_, json) :: fields => isUntagged json && haveUntagged fields

end

mutual

/-- How deep a value is. -/
def depth : Json → ℕ
  | array items => depthItems items + 1
  | object fields => depthFields fields + 1
  | _ => 0

def depthItems : List Json → ℕ
  | [] => 0
  | json :: items => max (depth json) (depthItems items)

def depthFields : List (String × Json) → ℕ
  | [] => 0
  | (_, json) :: fields => max (depth json) (depthFields fields)

end

mutual

/-- Some text or key in the value satisfies the predicate. -/
def hasText (p : String → Bool) : Json → Bool
  | text value => p value
  | array items => itemsHaveText p items
  | object fields => fieldsHaveText p fields
  | _ => false

def itemsHaveText (p : String → Bool) : List Json → Bool
  | [] => false
  | json :: items => hasText p json || itemsHaveText p items

def fieldsHaveText (p : String → Bool) : List (String × Json) → Bool
  | [] => false
  | (key, json) :: fields => p key || hasText p json || fieldsHaveText p fields

end

theorem depth_le_depthItems {items : List Json} {json : Json} (h : json ∈ items) :
    json.depth ≤ depthItems items := by
  induction items with
  | nil => cases h
  | cons item items ih =>
    rw [depthItems]
    rcases List.mem_cons.1 h with rfl | h
    · omega
    · have hle := ih h
      omega

theorem depth_le_depthFields {fields : List (String × Json)} {key : String} {json : Json}
    (h : (key, json) ∈ fields) : json.depth ≤ depthFields fields := by
  induction fields with
  | nil => cases h
  | cons field fields ih =>
    obtain ⟨key', json'⟩ := field
    rw [depthFields]
    rcases List.mem_cons.1 h with heq | h
    · cases heq
      omega
    · have hle := ih h
      omega

/-- The texts of a record. -/
theorem hasText_record (p : String → Bool) (fields : List (String × Option Json)) :
    (record fields).hasText p =
      fields.any fun property => property.2.any fun json => p property.1 || json.hasText p := by
  rw [record, hasText]
  induction fields with
  | nil => rfl
  | cons property fields ih =>
    obtain ⟨key, value⟩ := property
    cases value with
    | none => simpa [present] using ih
    | some json =>
      rw [present] at ih
      simp [present, fieldsHaveText, ih]

theorem fieldsHaveText_append (p : String → Bool) (fields others : List (String × Json)) :
    fieldsHaveText p (fields ++ others) = (fieldsHaveText p fields || fieldsHaveText p others) := by
  induction fields with
  | nil => rfl
  | cons field fields ih =>
    obtain ⟨key, json⟩ := field
    simp [fieldsHaveText, ih, Bool.or_assoc]

theorem fieldsHaveText_filter {p : String → Bool} {fields : List (String × Json)}
    (q : String × Json → Bool) (h : fieldsHaveText p fields = false) :
    fieldsHaveText p (fields.filter q) = false := by
  induction fields with
  | nil => rfl
  | cons field fields ih =>
    obtain ⟨key, json⟩ := field
    simp only [fieldsHaveText, Bool.or_eq_false_iff] at h
    rw [List.filter_cons]
    split
    · simp only [fieldsHaveText, h.1.1, h.1.2, ih h.2, Bool.or_false]
    · exact ih h.2

/-- An object with some properties set anew has the texts of the object and of these. -/
theorem hasText_assign {p : String → Bool} {fields : List (String × Json)}
    {changes : List (String × Option Json)} (h : (object fields).hasText p = false)
    (hchanges : (record changes).hasText p = false) :
    ((object fields).assign changes).hasText p = false := by
  rw [record, hasText] at hchanges
  rw [hasText] at h
  rw [assign, hasText, fieldsHaveText_append, fieldsHaveText_filter _ h, hchanges, Bool.or_false]

end Json

namespace Doxa

/-- Whether a text has the character U+0000. -/
def hasNul (text : String) : Bool := decide ('\x00' ∈ text.toList)

/-- A value as it is kept: `jsonb` refuses the character U+0000. -/
def storeJsonb (json : Json) : Option Json := if json.hasText hasNul then none else some json

namespace DoxaValue

variable {P : Platform}

mutual

/-- A JSON value as it is. -/
def ofJson : Json → DoxaValue P
  | .null => null
  | .bool value => bool value
  | .number value => number value
  | .text value => text value
  | .array items => array (ofItems items)
  | .object fields => object (ofFields fields)

def ofItems : List Json → List (DoxaValue P)
  | [] => []
  | json :: items => ofJson json :: ofItems items

def ofFields : List (String × Json) → List (String × DoxaValue P)
  | [] => []
  | (key, json) :: fields => (key, ofJson json) :: ofFields fields

end

mutual

/-- How deep a value is. -/
def depth : DoxaValue P → ℕ
  | array items => depthItems items + 1
  | object fields => depthFields fields + 1
  | _ => 0

def depthItems : List (DoxaValue P) → ℕ
  | [] => 0
  | value :: items => max (depth value) (depthItems items)

def depthFields : List (String × DoxaValue P) → ℕ
  | [] => 0
  | (_, value) :: fields => max (depth value) (depthFields fields)

end

mutual

theorem depth_ofJson : ∀ json : Json, (ofJson json : DoxaValue P).depth = json.depth
  | .null | .bool _ | .number _ | .text _ => rfl
  | .array items => by rw [ofJson, depth, Json.depth, depth_ofItems items]
  | .object fields => by rw [ofJson, depth, Json.depth, depth_ofFields fields]

theorem depth_ofItems : ∀ items : List Json,
    depthItems (ofItems items : List (DoxaValue P)) = Json.depthItems items
  | [] => rfl
  | json :: items => by
    rw [ofItems, depthItems, Json.depthItems, depth_ofJson json, depth_ofItems items]

theorem depth_ofFields : ∀ fields : List (String × Json),
    depthFields (ofFields fields : List (String × DoxaValue P)) = Json.depthFields fields
  | [] => rfl
  | (_, json) :: fields => by
    rw [ofFields, depthFields, Json.depthFields, depth_ofJson json, depth_ofFields fields]

end

/-- A date or a time has no depth. -/
theorem depth_parseTagged {tag text : String} {value : DoxaValue P}
    (h : parseTagged tag text = some value) : value.depth = 0 := by
  rw [parseTagged] at h
  split_ifs at h
  all_goals
    obtain ⟨parsed, -, rfl⟩ := Option.map_eq_some_iff.1 h
    rfl

/-- What a tagged object is decoded to: a date or a time, or an object that was wrapped. -/
theorem decodeTagged_cases {fields : List (String × Json)} {value : DoxaValue P}
    (h : decodeTagged fields = some value) :
    value.depth = 0 ∨ ∃ key inner decoded, (key, .object inner) ∈ fields ∧
      decodeFields inner = some decoded ∧ value = object decoded := by
  unfold decodeTagged at h
  split at h
  next key tag key' inner =>
    split at h
    · obtain ⟨decoded, hdecoded, rfl⟩ := Option.map_eq_some_iff.1 h
      exact .inr ⟨key', inner, decoded, by simp, hdecoded, rfl⟩
    · cases h
  next key inner key' tag _ =>
    split at h
    · obtain ⟨decoded, hdecoded, rfl⟩ := Option.map_eq_some_iff.1 h
      exact .inr ⟨key, inner, decoded, by simp, hdecoded, rfl⟩
    · cases h
  next =>
    split_ifs at h
    · exact .inl (depth_parseTagged h)
    · exact .inl (depth_parseTagged h)
  next => cases h

theorem depth_decodeItems_le {items : List Json} {values : List (DoxaValue P)}
    (hitems : ∀ json ∈ items, ∀ value : DoxaValue P, decode json = some value →
      value.depth ≤ json.depth) (h : decodeItems items = some values) :
    depthItems values ≤ Json.depthItems items := by
  induction items generalizing values with
  | nil =>
    cases h
    exact Nat.le_refl 0
  | cons json items ih =>
    rw [decodeItems] at h
    obtain ⟨value, hvalue, hmap⟩ := Option.bind_eq_some_iff.1 h
    obtain ⟨rest, hrest, rfl⟩ := Option.map_eq_some_iff.1 hmap
    rw [List.forall_mem_cons] at hitems
    have hfirst := hitems.1 value hvalue
    have hothers := ih hitems.2 hrest
    rw [depthItems, Json.depthItems]
    omega

theorem depth_decodeFields_le {fields : List (String × Json)} {values : List (String × DoxaValue P)}
    (hfields : ∀ field ∈ fields, ∀ value : DoxaValue P, decode field.2 = some value →
      value.depth ≤ field.2.depth) (h : decodeFields fields = some values) :
    depthFields values ≤ Json.depthFields fields := by
  induction fields generalizing values with
  | nil =>
    cases h
    exact Nat.le_refl 0
  | cons field fields ih =>
    obtain ⟨key, json⟩ := field
    rw [decodeFields] at h
    obtain ⟨value, hvalue, hmap⟩ := Option.bind_eq_some_iff.1 h
    obtain ⟨rest, hrest, rfl⟩ := Option.map_eq_some_iff.1 hmap
    rw [List.forall_mem_cons] at hfields
    have hfirst : value.depth ≤ json.depth := hfields.1 value hvalue
    have hothers := ih hfields.2 hrest
    rw [depthFields, Json.depthFields]
    omega

/-- What is decoded is no deeper than what it is decoded from. -/
theorem depth_decode_le {json : Json} {value : DoxaValue P} (h : decode json = some value) :
    value.depth ≤ json.depth := by
  -- by induction on the depth, since the wrapped fields are further down than the tag
  induction hn : json.depth using Nat.strong_induction_on generalizing json value with
  | _ n ih =>
    have hfields : ∀ fields : List (String × Json), Json.depthFields fields < n →
        ∀ values : List (String × DoxaValue P), decodeFields fields = some values →
          depthFields values ≤ Json.depthFields fields := by
      intro fields hlt values hvalues
      refine depth_decodeFields_le (fun field hfield value hvalue => ?_) hvalues
      have hle := Json.depth_le_depthFields hfield
      exact ih field.2.depth (by omega) hvalue rfl
    cases json with
    | null | bool _ | number _ | text _ =>
      cases h
      exact Nat.zero_le n
    | array items =>
      rw [decode] at h
      obtain ⟨decoded, hdecoded, rfl⟩ := Option.map_eq_some_iff.1 h
      rw [Json.depth] at hn
      have hitems := depth_decodeItems_le (fun item hitem value hvalue => by
        have hle := Json.depth_le_depthItems hitem
        exact ih item.depth (by omega) hvalue rfl) hdecoded
      rw [depth]
      omega
    | object fields =>
      rw [Json.depth] at hn
      rw [decode] at h
      split at h
      · rcases decodeTagged_cases h with hzero | ⟨key, inner, decoded, hmem, hdecoded, rfl⟩
        · omega
        · have hle := Json.depth_le_depthFields hmem
          rw [Json.depth] at hle
          have hinner := hfields inner (by omega) decoded hdecoded
          rw [depth]
          omega
      · obtain ⟨decoded, hdecoded, rfl⟩ := Option.map_eq_some_iff.1 h
        have hinner := hfields fields (by omega) decoded hdecoded
        rw [depth]
        omega

/-- **What is made of a tagged object is less deep than the object.** -/
theorem depth_decodeTagged_lt {fields : List (String × Json)} {value : DoxaValue P}
    (h : decodeTagged fields = some value) : value.depth < (Json.object fields).depth := by
  rw [Json.depth]
  rcases decodeTagged_cases h with hzero | ⟨key, inner, decoded, hmem, hdecoded, rfl⟩
  · omega
  · have hle := Json.depth_le_depthFields hmem
    have hinner := depth_decodeFields_le (fun _ _ _ hvalue => depth_decode_le hvalue) hdecoded
    rw [Json.depth] at hle
    rw [depth]
    omega

mutual

/-- **A value is decoded to itself exactly if it is untagged.** -/
theorem decode_eq_ofJson_iff : ∀ json : Json,
    (decode json : Option (DoxaValue P)) = some (ofJson json) ↔ json.isUntagged
  | .null | .bool _ | .number _ | .text _ => ⟨fun _ => rfl, fun _ => rfl⟩
  | .array items => by
    rw [decode, ofJson, Json.isUntagged, ← decodeItems_eq_ofItems_iff items]
    simp
  | .object fields => by
    rw [decode, Json.isUntagged, Bool.and_eq_true, decide_eq_true_eq,
      ← decodeFields_eq_ofFields_iff fields]
    split
    next htagged =>
      refine iff_of_false (fun h => ?_) fun h => h.1 htagged
      have hlt := depth_decodeTagged_lt h
      rw [depth_ofJson] at hlt
      exact Nat.lt_irrefl _ hlt
    next huntagged => simp [ofJson, huntagged]

theorem decodeItems_eq_ofItems_iff : ∀ items : List Json,
    (decodeItems items : Option (List (DoxaValue P))) = some (ofItems items) ↔
      Json.areUntagged items
  | [] => ⟨fun _ => rfl, fun _ => rfl⟩
  | json :: items => by
    rw [decodeItems, ofItems, Json.areUntagged, Bool.and_eq_true, ← decode_eq_ofJson_iff json,
      ← decodeItems_eq_ofItems_iff items]
    simp [Option.bind_eq_some_iff]

theorem decodeFields_eq_ofFields_iff : ∀ fields : List (String × Json),
    (decodeFields fields : Option (List (String × DoxaValue P))) = some (ofFields fields) ↔
      Json.haveUntagged fields
  | [] => ⟨fun _ => rfl, fun _ => rfl⟩
  | (key, json) :: fields => by
    rw [decodeFields, ofFields, Json.haveUntagged, Bool.and_eq_true, ← decode_eq_ofJson_iff json,
      ← decodeFields_eq_ofFields_iff fields]
    simp [Option.bind_eq_some_iff]

end

end DoxaValue

end Doxa
