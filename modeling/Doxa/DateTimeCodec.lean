/-
**Values with dates and times, and how they are written.**

What goes through a queue is encoded first (`core/src/datetime-codec.ts`): a date or a time becomes
an object with the property `$doxa`, and an object that has this property by itself is wrapped.
The classes of `core/src/graphite.ts` print their values and parse them again; an instant or a
`Graphite` whose year does not have four digits is printed with a sign and six digits, and that is
not parsed.

Main definitions:

* `Doxa.Platform` — what the built-in classes answer;
* `Doxa.DoxaValue`, `Doxa.DoxaValue.encode`, `Doxa.DoxaValue.decode` — values and the codec;
* `Doxa.DoxaValue.isFourDigit` — all years have four digits.

Main results:

* `Doxa.DoxaValue.decode_encode` — **an encoded value is decoded to itself exactly if all years in
  it have four digits**.
-/

import Doxa.Lib.Json

set_option relaxedAutoImplicit false
set_option autoImplicit false

namespace Doxa

/-- The instants, in microseconds, of the years 0000 to 9999. -/
def isFourDigitYear (instant : ℤ) : Bool :=
  decide (-62167219200000000 ≤ instant) && decide (instant < 253402300800000000)

/-- What the built-in classes answer: `Temporal`, `Intl`, `JSON` and `crypto`. -/
structure Platform where
  /-- Time zones and locales that are known have a canonical name, which is its own. -/
  timeZoneOf : String → Option String
  timeZoneOf_idem : ∀ {zone zone'}, timeZoneOf zone = some zone' →
    zone' ≠ "" ∧ timeZoneOf zone' = some zone'
  canonicalLocale : String → Option String
  canonicalLocale_idem : ∀ {locale locale'}, canonicalLocale locale = some locale' →
    locale' ≠ "" ∧ canonicalLocale locale' = some locale'
  instantText : ℤ → String
  parseInstant : String → Option ℤ
  parseInstant_instantText : ∀ instant, parseInstant (instantText instant) =
    if isFourDigitYear instant then some instant else none
  parseInstant_empty : parseInstant "" = none
  /-- A date and time in a time zone. -/
  Graphite : Type
  graphiteText : Graphite → String
  graphiteYear : Graphite → ℤ
  parseGraphite : String → Option Graphite
  parseGraphite_graphiteText : ∀ graphite, parseGraphite (graphiteText graphite) =
    if 0 ≤ graphiteYear graphite ∧ graphiteYear graphite ≤ 9999 then some graphite else none
  LocalDate : Type
  localDateText : LocalDate → String
  parseLocalDate : String → Option LocalDate
  parseLocalDate_localDateText : ∀ date, parseLocalDate (localDateText date) = some date
  /-- A duration is taken for what it is printed as. -/
  Duration : Type
  durationText : Duration → String
  parseDuration : String → Option Duration
  parseDuration_durationText : ∀ duration, parseDuration (durationText duration) = some duration
  stringify : Json → String
  /-- The digest of a text, in hexadecimal digits. -/
  sha256 : String → Fin 64 → Fin 16

/-- What a program may hand over. -/
inductive DoxaValue (P : Platform)
  | null
  | bool (value : Bool)
  | number (value : ℚ)
  | text (value : String)
  | graphite (value : P.Graphite)
  | instant (value : ℤ)
  | localDate (value : P.LocalDate)
  | duration (value : P.Duration)
  | array (items : List (DoxaValue P))
  | object (fields : List (String × DoxaValue P))
  /-- `undefined`, a function, a number that is not finite, an instance of another class. -/
  | foreign

namespace DoxaValue

variable {P : Platform}

/-- A date or a time under its tag. -/
def tagged (tag value : String) : Json :=
  .object [("$doxa", .text tag), ("value", .text value)]

mutual

/-- `encodeDateTimeValues`. -/
def encode : DoxaValue P → Option Json
  | null => some .null
  | bool value => some (.bool value)
  | number value => some (.number value)
  | text value => some (.text value)
  | graphite value => some (tagged "graphite@1" (P.graphiteText value))
  | instant value => some (tagged "instant@1" (P.instantText value))
  | localDate value => some (tagged "local-date@1" (P.localDateText value))
  | duration value => some (tagged "duration@1" (P.durationText value))
  | array items => (encodeItems items).map .array
  | object fields =>
    (encodeFields fields).map fun encoded =>
      if "$doxa" ∈ fields.map Prod.fst then
        .object [("$doxa", .text "json-object@1"), ("value", .object encoded)]
      else .object encoded
  | foreign => none

def encodeItems : List (DoxaValue P) → Option (List Json)
  | [] => some []
  | value :: items =>
    (encode value).bind fun encoded => (encodeItems items).map fun rest => encoded :: rest

def encodeFields : List (String × DoxaValue P) → Option (List (String × Json))
  | [] => some []
  | (key, value) :: fields =>
    (encode value).bind fun encoded =>
      (encodeFields fields).map fun rest => (key, encoded) :: rest

end

/-- The date or time under a tag. -/
def parseTagged (tag value : String) : Option (DoxaValue P) :=
  if tag = "graphite@1" then (P.parseGraphite value).map graphite
  else if tag = "instant@1" then (P.parseInstant value).map instant
  else if tag = "local-date@1" then (P.parseLocalDate value).map localDate
  else if tag = "duration@1" then (P.parseDuration value).map duration
  else none

mutual

/-- `decodeDateTimeValues`. -/
def decode : Json → Option (DoxaValue P)
  | .null => some null
  | .bool value => some (bool value)
  | .number value => some (number value)
  | .text value => some (text value)
  | .array items => (decodeItems items).map array
  | .object fields =>
    if "$doxa" ∈ fields.map Prod.fst then decodeTagged fields
    else (decodeFields fields).map object

def decodeItems : List Json → Option (List (DoxaValue P))
  | [] => some []
  | json :: items =>
    (decode json).bind fun decoded => (decodeItems items).map fun rest => decoded :: rest

def decodeFields : List (String × Json) → Option (List (String × DoxaValue P))
  | [] => some []
  | (key, json) :: fields =>
    (decode json).bind fun decoded =>
      (decodeFields fields).map fun rest => (key, decoded) :: rest

/-- `decodeTagged`: a tag and its value, in any order. -/
def decodeTagged : List (String × Json) → Option (DoxaValue P)
  | [(key, tag), (key', .object fields)] =>
    if key = "$doxa" ∧ key' = "value" ∧ tag.asText = some "json-object@1" then
      (decodeFields fields).map object
    else none
  | [(key, .object fields), (key', tag)] =>
    if key' = "$doxa" ∧ key = "value" ∧ tag.asText = some "json-object@1" then
      (decodeFields fields).map object
    else none
  | [(key, .text first), (key', .text second)] =>
    if key = "$doxa" ∧ key' = "value" then parseTagged first second
    else if key' = "$doxa" ∧ key = "value" then parseTagged second first
    else none
  | _ => none

end

mutual

/-- **All years have four digits**, of the instants and the dates in a time zone. -/
def isFourDigit : DoxaValue P → Bool
  | graphite value => decide (0 ≤ P.graphiteYear value ∧ P.graphiteYear value ≤ 9999)
  | instant value => isFourDigitYear value
  | array items => areFourDigit items
  | object fields => haveFourDigits fields
  | _ => true

def areFourDigit : List (DoxaValue P) → Bool
  | [] => true
  | value :: items => isFourDigit value && areFourDigit items

def haveFourDigits : List (String × DoxaValue P) → Bool
  | [] => true
  | (_, value) :: fields => isFourDigit value && haveFourDigits fields

end

theorem encodeFields_keys {fields : List (String × DoxaValue P)} {encoded : List (String × Json)}
    (h : encodeFields fields = some encoded) : encoded.map Prod.fst = fields.map Prod.fst := by
  induction fields generalizing encoded with
  | nil =>
    cases h
    rfl
  | cons field fields ih =>
    obtain ⟨key, value⟩ := field
    rw [encodeFields] at h
    obtain ⟨json, -, hmap⟩ := Option.bind_eq_some_iff.1 h
    obtain ⟨rest, hrest, rfl⟩ := Option.map_eq_some_iff.1 hmap
    rw [List.map_cons, List.map_cons, ih hrest]

theorem decode_tagged (tag value : String) :
    (decode (tagged tag value) : Option (DoxaValue P)) = parseTagged tag value := by
  rw [tagged, decode, if_pos (by simp), decodeTagged]
  simp

mutual

/-- **An encoded value is decoded to itself** exactly if all years in it have four digits. -/
theorem decode_encode : ∀ (value : DoxaValue P) {json : Json}, encode value = some json →
    decode json = if isFourDigit value then some value else none
  | null, json, h => by
    cases h
    rfl
  | bool value, json, h => by
    cases h
    rfl
  | number value, json, h => by
    cases h
    rfl
  | text value, json, h => by
    cases h
    rfl
  | graphite value, json, h => by
    cases h
    rw [decode_tagged, parseTagged, if_pos rfl, P.parseGraphite_graphiteText,
      isFourDigit]
    simp only [decide_eq_true_eq]
    split_ifs <;> rfl
  | instant value, json, h => by
    cases h
    rw [decode_tagged, parseTagged, if_neg (by decide), if_pos rfl,
      P.parseInstant_instantText, isFourDigit]
    split_ifs <;> rfl
  | localDate value, json, h => by
    cases h
    rw [decode_tagged, parseTagged, if_neg (by decide), if_neg (by decide),
      if_pos rfl, P.parseLocalDate_localDateText]
    rfl
  | duration value, json, h => by
    cases h
    rw [decode_tagged, parseTagged, if_neg (by decide), if_neg (by decide),
      if_neg (by decide), if_pos rfl, P.parseDuration_durationText]
    rfl
  | array items, json, h => by
    rw [encode] at h
    obtain ⟨encoded, hencoded, rfl⟩ := Option.map_eq_some_iff.1 h
    rw [decode, decodeItems_encodeItems items hencoded, isFourDigit]
    split_ifs <;> rfl
  | object fields, json, h => by
    rw [encode] at h
    obtain ⟨encoded, hencoded, rfl⟩ := Option.map_eq_some_iff.1 h
    have hfields := decodeFields_encodeFields fields hencoded
    have hkeys := encodeFields_keys hencoded
    rw [isFourDigit]
    split_ifs with hdoxa hfour hfour
    · -- an object with the property is wrapped
      rw [decode, if_pos (by simp), decodeTagged, hfields, if_pos hfour]
      rfl
    · rw [decode, if_pos (by simp), decodeTagged, hfields, if_neg hfour]
      rfl
    · rw [decode, hkeys, if_neg hdoxa, hfields, if_pos hfour]
      rfl
    · rw [decode, hkeys, if_neg hdoxa, hfields, if_neg hfour]
      rfl
  | foreign, json, h => by cases h

theorem decodeItems_encodeItems : ∀ (items : List (DoxaValue P)) {encoded : List Json},
    encodeItems items = some encoded →
      decodeItems encoded = if areFourDigit items then some items else none
  | [], encoded, h => by
    cases h
    rfl
  | value :: items, encoded, h => by
    rw [encodeItems] at h
    obtain ⟨json, hjson, hmap⟩ := Option.bind_eq_some_iff.1 h
    obtain ⟨rest, hrest, rfl⟩ := Option.map_eq_some_iff.1 hmap
    rw [decodeItems, decode_encode value hjson, decodeItems_encodeItems items hrest, areFourDigit]
    cases isFourDigit value <;> cases areFourDigit items <;> rfl

theorem decodeFields_encodeFields : ∀ (fields : List (String × DoxaValue P))
    {encoded : List (String × Json)}, encodeFields fields = some encoded →
      decodeFields encoded = if haveFourDigits fields then some fields else none
  | [], encoded, h => by
    cases h
    rfl
  | (key, value) :: fields, encoded, h => by
    rw [encodeFields] at h
    obtain ⟨json, hjson, hmap⟩ := Option.bind_eq_some_iff.1 h
    obtain ⟨rest, hrest, rfl⟩ := Option.map_eq_some_iff.1 hmap
    rw [decodeFields, decode_encode value hjson, decodeFields_encodeFields fields hrest,
      haveFourDigits]
    cases isFourDigit value <;> cases haveFourDigits fields <;> rfl

end

end DoxaValue

/-! ### Dates and times that are whole numbers -/

/-- A sign, and so many strokes. -/
def strokes (n : ℤ) : String :=
  String.ofList ((if 0 ≤ n then '+' else '-') :: List.replicate n.natAbs 'I')

def ofStrokes (text : String) : Option ℤ :=
  match text.toList with
  | '+' :: digits => some digits.length
  | '-' :: digits => some (-digits.length)
  | _ => none

theorem ofStrokes_strokes (n : ℤ) : ofStrokes (strokes n) = some n := by
  rw [ofStrokes, strokes, String.toList_ofList]
  split_ifs with hsign
  · simp only [List.length_replicate, Option.some.injEq]
    omega
  · simp only [List.length_replicate, Option.some.injEq]
    omega

/-- The one name that is known. -/
def onlyName (known name : String) : Option String := if name = known then some name else none

theorem onlyName_idem {known name name' : String} (hknown : known ≠ "")
    (h : onlyName known name = some name') : name' ≠ "" ∧ onlyName known name' = some name' := by
  obtain ⟨rfl, hname⟩ := Option.ite_none_right_eq_some.1 h
  cases hname
  exact ⟨hknown, if_pos rfl⟩

theorem filter_ofStrokes_strokes (p : ℤ → Bool) (n : ℤ) :
    (ofStrokes (strokes n)).filter p = if p n then some n else none := by
  rw [ofStrokes_strokes, Option.filter_some]

theorem filter_ofStrokes_year (n : ℤ) :
    ((ofStrokes (strokes n)).filter fun year => decide (0 ≤ year ∧ year ≤ 9999)) =
      if 0 ≤ n ∧ n ≤ 9999 then some n else none := by
  rw [filter_ofStrokes_strokes]
  simp only [decide_eq_true_eq]

theorem ne_utc : "UTC" ≠ "" := by decide

theorem ne_english : "en" ≠ "" := by decide

theorem filter_ofStrokes_empty : (ofStrokes "").filter isFourDigitYear = none := rfl

/-- A platform with one time zone and one locale, whose dates and times are whole numbers. -/
def plainPlatform : Platform where
  timeZoneOf := onlyName "UTC"
  timeZoneOf_idem := onlyName_idem ne_utc
  canonicalLocale := onlyName "en"
  canonicalLocale_idem := onlyName_idem ne_english
  instantText := strokes
  parseInstant text := (ofStrokes text).filter isFourDigitYear
  parseInstant_instantText := filter_ofStrokes_strokes isFourDigitYear
  parseInstant_empty := filter_ofStrokes_empty
  Graphite := ℤ
  graphiteText := strokes
  graphiteYear := id
  parseGraphite text := (ofStrokes text).filter fun year => decide (0 ≤ year ∧ year ≤ 9999)
  parseGraphite_graphiteText := filter_ofStrokes_year
  LocalDate := ℤ
  localDateText := strokes
  parseLocalDate := ofStrokes
  parseLocalDate_localDateText := ofStrokes_strokes
  Duration := ℤ
  durationText := strokes
  parseDuration := ofStrokes
  parseDuration_durationText := ofStrokes_strokes
  stringify _ := "{}"
  sha256 _ _ := 0

end Doxa
