/-
**The ways `query_models` tells a redacted value.**

A filter on a sensitive attribute decides whether there is a row, an order which row comes first,
and a value of `token` that starts with `doxa:` is shown.  Each of the three is turned into two
databases that differ in one sensitive value and are answered differently.

Main definitions:

* `Doxa.printBound` — at most so many bytes a value is printed in;
* `Doxa.RecordStorage.IsDiscerning` — each attribute has values that a filter, and an order, tell
  apart.

Main results:

* `Doxa.InspectedApplication.answer_ne` — two results that are shown differently are answered
  differently;
* `Doxa.reveals_nothing_iff` — **nothing is revealed exactly if sensitive attributes are neither
  filtered nor ordered by, and `token` is not shown**;
* `Doxa.password_tested` — a filter tells a password.
-/

import Doxa.RecordPrivacy

set_option relaxedAutoImplicit false
set_option autoImplicit false

namespace Doxa

open GnosisModelQueryRequest InspectedApplication

open Inspection

variable {P : Platform} {κ : Type}

/-! ### The size of an answer -/

mutual

/-- At most so many bytes a value is printed in: a code unit in six, a number in twenty-five. -/
def printBound : Json → ℕ
  | .null => 4
  | .bool _ => 5
  | .number _ => 25
  | .text text => 6 * codeUnits text + 2
  | .array items => 2 + printBoundItems items
  | .object fields => 2 + printBoundFields fields

def printBoundItems : List Json → ℕ
  | [] => 0
  | item :: items => printBound item + 1 + printBoundItems items

def printBoundFields : List (String × Json) → ℕ
  | [] => 0
  | (key, value) :: fields =>
    6 * codeUnits key + 4 + printBound value + printBoundFields fields

end

theorem codeUnits_sliceUnits (limit : ℕ) (cs : List Char) :
    codeUnits (String.ofList (sliceUnits limit cs)) ≤ limit := by
  induction cs generalizing limit with
  | nil => simp [sliceUnits, codeUnits]
  | cons c cs ih =>
    rw [sliceUnits]
    by_cases hle : (if c.toNat < 0x10000 then 1 else 2) ≤ limit
    · have hrest := ih (limit - if c.toNat < 0x10000 then 1 else 2)
      rw [if_pos hle]
      simp only [codeUnits, String.toList_ofList, List.map_cons, List.sum_cons] at hrest ⊢
      omega
    · rw [if_neg hle]
      exact Nat.zero_le limit

/-- The result with one field and at most one row is not too large. -/
theorem printBound_result (modelId executionId : String) {field : String}
    (hfield : codeUnits field ≤ 128) (rows : List Json)
    (hrows : ∀ row ∈ rows, ∃ value, row = .object [(field, .text (shownText value))])
    (hlength : rows.length ≤ 1) (returned : ℚ) (truncated : Bool) :
    printBound (.object [("modelId", .text (shownText modelId)),
      ("fields", .array [.text (shownText field)]), ("rows", .array rows),
      ("returned", .number returned), ("truncated", .bool truncated),
      ("executionId", .text (shownText executionId))]) ≤ 1000000 := by
  have hshown : ∀ text, codeUnits (shownText text) ≤ 20000 := fun text =>
    codeUnits_sliceUnits 20000 _
  have hrowsBound : printBoundItems rows ≤ 130000 := by
    cases rows with
    | nil => exact Nat.zero_le _
    | cons row rest =>
      obtain ⟨value, rfl⟩ := hrows row List.mem_cons_self
      obtain rfl : rest = [] := by simpa using hlength
      have hvalue := hshown value
      simp only [printBoundItems, printBound, printBoundFields]
      omega
  have hmodelId := hshown modelId
  have hname := hshown field
  have hexecutionId := hshown executionId
  have hkeys : codeUnits "modelId" = 7 ∧ codeUnits "fields" = 6 ∧ codeUnits "rows" = 4 ∧
      codeUnits "returned" = 8 ∧ codeUnits "truncated" = 9 ∧ codeUnits "executionId" = 11 := by
    decide
  obtain ⟨hkey1, hkey2, hkey3, hkey4, hkey5, hkey6⟩ := hkeys
  simp only [printBound, printBoundFields, printBoundItems, hkey1, hkey2, hkey3, hkey4, hkey5,
    hkey6]
  omega

/-! ### Telling values apart -/

/-- Each attribute has values that a filter and an order tell apart, and an id or a token may be any
text. -/
structure RecordStorage.IsDiscerning (storage : RecordStorage P κ) : Prop where
  texts : ∀ attr ∈ ["id", "token"], ∀ text, ∃ cell, storage.hydrate attr (some cell) =
    .ok (some (.text text))
  filtered : ∀ attr, ∃ value x y, RecordQueryValue.isShort value ∧
    storage.compares attr .eq value (some x) = .ok (some true) ∧
    storage.compares attr .eq value (some y) = .ok (some false) ∧
    (∃ hydrated, storage.hydrate attr (some x) = .ok hydrated) ∧
    ∃ hydrated, storage.hydrate attr (some y) = .ok hydrated
  ordered : ∀ attr, ∃ x y, storage.compareField attr (some x) (some y) = Ordering.lt ∧
    storage.compareField attr (some y) (some x) = Ordering.gt ∧
    ∀ cell ∈ [x, y], storage.nullCondition attr (some cell) = false ∧
      storage.orderedField attr (some cell) = .ok () ∧
      ∃ hydrated, storage.hydrate attr (some cell) = .ok hydrated

open RecordStorage

/-! ### Answers that differ -/

namespace InspectedApplication

variable {app : InspectedApplication P κ} {executionId : String} {db db' : RecordDatabase κ}

/-- A request for one field, within what the model has. -/
structure AsksFor (app : InspectedApplication P κ) (model : InspectedModel)
    (request : GnosisModelQueryRequest) (field : String) : Prop where
  fields : request.fields = [field]
  accepted : request.Accepted
  found : app.model request.modelId = some model
  known : ∀ attr ∈ request.requestedAttributes, attr ∈ model.attributes ∧
    attr ∈ describedAttributes model

variable {request : GnosisModelQueryRequest} {field : String}

theorem AsksFor.uniqueFields {model : InspectedModel} (h : AsksFor app model request field) :
    request.uniqueFields = [field] := by
  rw [GnosisModelQueryRequest.uniqueFields, h.fields]
  rfl

/-- **What the tool makes of the rows.** -/
theorem queryModels_of_rows {model : InspectedModel} (h : AsksFor app model request field)
    {rows : List Json}
    (hrows : (app.storage request.modelId).recordRows model.attributes request
      (db request.modelId) = .ok rows) :
    app.queryModels executionId db request =
      let shown := sanitizeInspectionValue (modelQueryResult request.modelId executionId [field]
        (rows.take request.recordLimit.toNat)
        (decide (request.recordLimit.toNat < rows.length))) none 0
      if 1000000 < (P.stringify shown).utf8ByteSize then
        throw (.introspection "invalid_input"
          "Model query result exceeds 1,000,000 bytes. Request fewer fields or rows.")
      else pure shown := by
  obtain ⟨hfirst, hlast⟩ := h.accepted.modelId
  have hdescribed : app.describeModel request.modelId = .ok model := by
    rw [describeModel, if_neg (by omega), h.found]
    rfl
  have hunknown : request.requestedAttributes.find?
      (fun attr => attr ∉ describedAttributes model) = none := by
    simpa using fun attr hattr => (h.known attr hattr).2
  have hrefused : isRefused model.attributes request = false := by
    have hvalues := h.accepted.values
    have hfilters := h.accepted.filters
    have horders := h.accepted.orderBy
    obtain ⟨hlow, hhigh⟩ := h.accepted.limit
    simp only [isRefused, h.uniqueFields, Bool.or_eq_false_iff,
      List.any_eq_false, decide_eq_false_iff_not, Bool.not_eq_true, Bool.not_eq_false']
    refine ⟨⟨⟨⟨⟨⟨⟨by simp, by simp⟩, by omega⟩, hvalues⟩, by omega⟩, by omega⟩, by omega⟩, ?_⟩
    simpa using fun attr hattr => (h.known attr hattr).1
  have hresult : (app.storage request.modelId).queryModelRecords model.attributes executionId
      request (db request.modelId) = .ok (modelQueryResult request.modelId executionId [field]
        (rows.take request.recordLimit.toNat)
        (decide (request.recordLimit.toNat < rows.length))) := by
    rw [queryModelRecords, if_neg (by simp [hrefused]), hrows, h.uniqueFields]
    rfl
  rw [queryModels, hdescribed]
  simp only [bind, Except.bind, hunknown, hresult]

/-- The row that shows a text. -/
def textRow (field text : String) : Json := .object [(field, .text text)]

@[simp] theorem textRow_inj {text text' : String} :
    textRow field text = textRow field text' ↔ text = text' := by
  simp [textRow]

/-- **Two results that are shown differently are answered differently**, if one of them is small. -/
theorem answer_ne (hprints : ∀ json, (P.stringify json).utf8ByteSize ≤ printBound json)
    {model : InspectedModel} (h : AsksFor app model request field) {rows rows' : List Json}
    (hrows : (app.storage request.modelId).recordRows model.attributes request
      (db request.modelId) = .ok rows)
    (hrows' : (app.storage request.modelId).recordRows model.attributes request
      (db' request.modelId) = .ok rows')
    (hshown : ∀ row ∈ rows'.take request.recordLimit.toNat, ∃ text,
      sanitizeInspectionValue row none 2 = textRow field (shownText text))
    (hlength : (rows'.take request.recordLimit.toNat).length ≤ 1)
    (hne : (rows.take request.recordLimit.toNat).map
      (fun row => sanitizeInspectionValue row none 2) ≠
      (rows'.take request.recordLimit.toNat).map fun row => sanitizeInspectionValue row none 2) :
    app.answer executionId db request ≠ app.answer executionId db' request := by
  have hname : codeUnits field ≤ 128 := by
    refine (h.accepted.names field ?_).2
    simp [requestedAttributes, h.uniqueFields]
  obtain ⟨-, hlimit⟩ := h.accepted.limit
  have htake : ∀ rows : List Json, (rows.take request.recordLimit.toNat).take 100 =
      rows.take request.recordLimit.toNat := fun rows =>
    List.take_of_length_le ((List.length_take_le _ _).trans (by omega))
  rw [answer, answer, queryModels_of_rows h hrows, queryModels_of_rows h hrows']
  simp only [sanitize_modelQueryResult, htake, List.take_succ_cons, List.take_nil, List.map_cons,
    List.map_nil]
  have hsmall := printBound_result request.modelId executionId hname
    ((rows'.take request.recordLimit.toNat).map fun row => sanitizeInspectionValue row none 2)
    (List.forall_mem_map.2 hshown) (by simpa using hlength)
    ((rows'.take request.recordLimit.toNat).length)
    (decide (request.recordLimit.toNat < rows'.length))
  rw [if_neg (c := 1000000 < _) (Nat.not_lt.2 ((hprints _).trans hsmall))]
  split
  · intro heq
    cases heq
  · intro heq
    simp only [toolResult, pure, Except.pure, GnosisAnswer.content.injEq, Json.object.injEq,
      List.cons.injEq, Prod.mk.injEq, Json.array.injEq, true_and] at heq
    exact hne heq.1

end InspectedApplication

/-! ### Records with one text -/

namespace RecordStorage

variable {storage : RecordStorage P κ}

/-- Every attribute of a record can be hydrated, one of them as a text. -/
def Reads (storage : RecordStorage P κ) (field : String) (record : StoredRecord κ) (text : String) :
    Prop :=
  (∀ attr, ∃ value, storage.hydrate attr (record attr) = .ok value) ∧
    storage.hydrate field (record field) = .ok (some (.text text))

theorem hydrateRecord_eq_map {record : StoredRecord κ} {value : String → Option (DoxaValue P)}
    (h : ∀ attr, storage.hydrate attr (record attr) = .ok (value attr))
    (attributes : List String) :
    storage.hydrateRecord attributes record =
      .ok (attributes.map fun attr => (attr, value attr)) := by
  induction attributes with
  | nil => rfl
  | cons attr attrs ih =>
    rw [hydrateRecord_cons, h attr, ih]
    rfl

theorem getAttribute_map {attributes : List String} {field : String} (h : field ∈ attributes)
    (value : String → Option (DoxaValue P)) :
    getAttribute (attributes.map fun attr => (attr, value attr)) field = value field := by
  induction attributes with
  | nil => cases h
  | cons attr attrs ih =>
    by_cases hattr : attr = field
    · simp [getAttribute, hattr]
    · have hrest := ih ((List.mem_cons.1 h).resolve_left (Ne.symm hattr))
      simpa [getAttribute, hattr] using hrest

/-- The rows of records with one text. -/
theorem recordRows_of_select {attributes : List String} {request : GnosisModelQueryRequest}
    {field : String} (hfields : request.uniqueFields = [field]) (hfield : field ∈ attributes)
    {records selected : List (StoredRecord κ)} {texts : List String}
    (hselect : storage.select request.recordFilters request.recordOrders
      (request.recordLimit.toNat + 1) records = .ok selected)
    (hreads : List.Forall₂ (storage.Reads field) selected texts) :
    storage.recordRows attributes request records =
      .ok (texts.map (textRow field)) := by
  rw [recordRows, hselect, hfields]
  simp only [bind, Except.bind]
  clear hselect
  induction hreads with
  | nil => rfl
  | cons hread _ ih =>
    obtain ⟨hall, htext⟩ := hread
    choose value hvalue using hall
    have hfieldValue := Except.ok.inj ((hvalue field).symm.trans htext)
    rw [List.mapM_cons, ih, hydrateRecord_eq_map hvalue]
    simp [bind, Except.bind, pure, Except.pure, recordRow, getAttribute_map hfield, hfieldValue,
      serializeModelRecordValue, DoxaValue.printed, textRow]

/-- A filter on one record. -/
theorem select_filter (storage : RecordStorage P κ) (filter : RecordFilter)
    (record : StoredRecord κ) {found : Bool}
    (h : storage.compares filter.attr filter.operator filter.value (record filter.attr) =
      .ok (some found)) (limit : ℕ) :
    storage.select [filter] [] (limit + 1) [record] =
      .ok (if found then [record] else []) := by
  have htest : storage.satisfies record [filter] = .ok found := by
    rw [satisfies, h]
    cases found <;> rfl
  rw [select, List.mapM_cons, htest]
  cases found with
  | true => simp [bind, Except.bind, pure, Except.pure, orderedFields, sort]
  | false => simp [bind, Except.bind, pure, Except.pure, sort]

/-- Where neither is NULL, an ascending order is that of the field. -/
theorem compareOrder_asc {attr : String} {left right : StoredRecord κ}
    (hleft : storage.nullCondition attr (left attr) = false)
    (hright : storage.nullCondition attr (right attr) = false) :
    storage.compareOrder ⟨attr, .asc⟩ left right =
      storage.compareField attr (left attr) (right attr) := by
  rw [compareOrder]
  dsimp only
  rw [if_neg (by simp [hleft]), if_neg (by simp [hright])]
  rfl

theorem mergeSort_pair {α : Type} (le : α → α → Bool) (a b : α) :
    [a, b].mergeSort le = if le a b then [a, b] else [b, a] := by
  simp [List.mergeSort, List.MergeSort.Internal.splitInTwo, List.merge]

/-- An order on two records. -/
theorem select_order (storage : RecordStorage P κ) (attr : String) (left right : StoredRecord κ)
    (hfields : ∀ record ∈ [left, right], storage.nullCondition attr (record attr) = false ∧
      storage.orderedField attr (record attr) = .ok ()) :
    storage.select [] [⟨attr, .asc⟩] 2 [left, right] =
      .ok (if (storage.compareField attr (left attr) (right attr)).isLE then [left, right]
        else [right, left]) := by
  simp only [List.forall_mem_cons] at hfields
  obtain ⟨⟨hleft, hleftField⟩, ⟨hright, hrightField⟩, -⟩ := hfields
  have hsorted : storage.sort [⟨attr, .asc⟩] [left, right] =
      if (storage.compareField attr (left attr) (right attr)).isLE then [left, right]
      else [right, left] := by
    rw [sort, mergeSort_pair]
    simp [compareOrder_asc hleft hright]
  have htaken : (storage.sort [⟨attr, .asc⟩] [left, right]).take 2 =
      storage.sort [⟨attr, .asc⟩] [left, right] := by
    rw [hsorted]
    split <;> rfl
  rw [← hsorted, ← htaken]
  simp [select, satisfies, orderedFields, bind, Except.bind, pure, Except.pure, hleftField,
    hrightField]

variable {field text : String} {record record' : StoredRecord κ}

theorem Reads.update (h : storage.Reads field record text) {attr : String}
    (hattr : attr ≠ field) {cell : κ}
    (hcell : ∃ value, storage.hydrate attr (some cell) = .ok value) :
    storage.Reads field (Function.update record attr (some cell)) text := by
  refine ⟨fun other => ?_, ?_⟩
  · by_cases hother : other = attr
    · rw [hother, Function.update_self]
      exact hcell
    · rw [Function.update_of_ne hother]
      exact h.1 other
  · rw [Function.update_of_ne hattr.symm]
    exact h.2

/-- There is a record with each text as its id, or as its token. -/
theorem IsDiscerning.exists_reads (h : storage.IsDiscerning) (field : String)
    (hfield : field ∈ ["id", "token"]) (text : String) :
    ∃ record, storage.Reads field record text := by
  choose value x y hx using h.filtered
  obtain ⟨cell, hcell⟩ := h.texts field hfield text
  refine ⟨Function.update (fun attr => some (x attr)) field (some cell), fun attr => ?_, ?_⟩
  · by_cases hattr : attr = field
    · rw [hattr, Function.update_self]
      exact ⟨_, hcell⟩
    · rw [Function.update_of_ne hattr]
      exact (hx attr).2.2.2.1
  · rw [Function.update_self]
    exact hcell

/-- Records that can be hydrated are alike if they differ in one sensitive attribute. -/
theorem Reads.alike {field' text' : String} (h : storage.Reads field record text)
    (h' : storage.Reads field' record' text') {attr : String} (hsensitive : isSensitiveKey attr)
    (hother : ∀ other, other ≠ attr → record other = record' other) (attributes : List String) :
    AlikeRecords storage attributes record record' where
  plain other hplain := hother other fun heq => by simp [heq, hsensitive] at hplain
  left other _ _ := h.1 other
  right other _ _ := h'.1 other

end RecordStorage

/-! ### Requests for one field -/

namespace InspectedApplication

variable {app : InspectedApplication P κ} {executionId modelId attr : String}

/-- A request for one field. -/
def asking (modelId field : String) (filters : List RecordFilter) (orders : List ModelQueryOrder)
    (limit : ℤ) : GnosisModelQueryRequest where
  modelId := modelId
  fields := [field]
  filters := some filters
  orderBy := some orders
  limit := some limit

theorem asksFor_asking (field : String) (filters : List RecordFilter)
    (orders : List ModelQueryOrder) (limit : ℤ) (hfield : app.IsRequestable modelId field)
    (hfilters : filters.length ≤ 1) (horders : orders.length ≤ 1)
    (hrequestable : ∀ attr ∈ filters.map RecordFilter.attr ++ orders.map ModelQueryOrder.attr,
      app.IsRequestable modelId attr)
    (hvalues : ∀ filter ∈ filters, filter.value.isShort) (hlimit : 1 ≤ limit ∧ limit ≤ 100) :
    ∃ model, AsksFor app model (asking modelId field filters orders limit) field := by
  obtain ⟨hlength, hname, model, hmodel, hdeclared, hdescribed⟩ := hfield
  have hall : ∀ attr ∈ (asking modelId field filters orders limit).requestedAttributes,
      IsAttributeName attr ∧ attr ∈ model.attributes ∧ attr ∈ describedAttributes model := by
    intro attr hattr
    have hcases : attr = field ∨
        attr ∈ filters.map RecordFilter.attr ++ orders.map ModelQueryOrder.attr := by
      simpa [requestedAttributes, uniqueFields,
        recordFilters, recordOrders, asking]
        using hattr
    rcases hcases with rfl | hmem
    · exact ⟨hname, hdeclared, hdescribed⟩
    · obtain ⟨-, hattrName, found, hfound, hrest⟩ := hrequestable attr hmem
      rw [hmodel, Option.some.injEq] at hfound
      exact ⟨hattrName, hfound ▸ hrest⟩
  exact ⟨model, rfl, ⟨hlength, by simp [asking], fun attr hattr => (hall attr hattr).1,
    by simpa [recordFilters, asking] using hfilters.trans (by decide),
    by simpa [recordFilters, asking] using hvalues,
    by simpa [recordOrders, asking] using horders.trans (by decide),
    hlimit⟩, hmodel, fun attr hattr => (hall attr hattr).2⟩

/-- Two databases with records of one model only. -/
def oneModel (modelId : String) (records : List (StoredRecord κ)) : RecordDatabase κ :=
  fun id => if id = modelId then records else []

theorem alikeDatabases_oneModel {records records' : List (StoredRecord κ)}
    (h : ∀ attributes, List.Forall₂ (AlikeRecords (app.storage modelId) attributes) records
      records') : app.AlikeDatabases (oneModel modelId records) (oneModel modelId records') := by
  intro model _
  by_cases hid : model.id = modelId
  · simpa [oneModel, hid] using h model.attributes
  · simp [oneModel, hid]

/-- Two databases that are alike, and are answered differently. -/
def Distinguishes (app : InspectedApplication P κ) (executionId : String)
    (request : GnosisModelQueryRequest) : Prop :=
  ∃ db db' : RecordDatabase κ, app.AlikeDatabases db db' ∧ request.Accepted ∧
    app.answer executionId db request ≠ app.answer executionId db' request

/-- A row is shown with its text, if its field shows it. -/
theorem sanitize_textRow {field text : String}
    (hshown : isRedacted (some field) (.text text) = false) :
    sanitizeInspectionValue (textRow field text) none 2 = textRow field (shownText text) := by
  rw [textRow, sanitizeInspectionValue_shown (by decide) rfl]
  simp only [List.take_succ_cons, List.take_nil, maxInspectionObjectProperties, List.map_cons,
    List.map_nil, textRow]
  rw [sanitizeInspectionValue_shown (by decide) hshown]

/-! ### The three ways -/

theorem redactText_digits : shownText "1" = "1" ∧ shownText "2" = "2" ∧
    shownText "doxa:1" = "doxa:1" ∧ shownText "doxa:2" = "doxa:2" := by
  decide

/-- **A filter on a sensitive attribute tells its value.** -/
theorem exists_filter_distinguishes (executionId : String)
    (hdiscerning : (app.storage modelId).IsDiscerning)
    (hprints : ∀ json, (P.stringify json).utf8ByteSize ≤ printBound json)
    (hid : app.IsRequestable modelId "id") (hattr : app.IsRequestable modelId attr)
    (hsensitive : isSensitiveKey attr) : ∃ value,
      app.Distinguishes executionId
        (asking modelId "id" [⟨attr, .eq, value⟩] [] 1) := by
  obtain ⟨value, x, y, hshort, hx, hy, hreadX, hreadY⟩ := hdiscerning.filtered attr
  obtain ⟨record, hrecord⟩ := hdiscerning.exists_reads "id" (by simp) "1"
  have hne : attr ≠ "id" := by
    rintro rfl
    exact absurd hsensitive (by decide)
  have hleft := hrecord.update hne hreadX
  have hright := hrecord.update hne hreadY
  obtain ⟨model, hasks⟩ := asksFor_asking "id" [⟨attr, .eq, value⟩] [] 1 hid
    (by simp) (by simp) (by simpa using hattr)
    (by simpa using hshort) (by decide)
  have hmem := (hasks.known "id" (by simp [requestedAttributes,
    hasks.uniqueFields])).1
  have hselect := (app.storage modelId).select_filter ⟨attr, .eq, value⟩
    (Function.update record attr (some x)) (by simpa using hx) 1
  have hselect' := (app.storage modelId).select_filter ⟨attr, .eq, value⟩
    (Function.update record attr (some y)) (by simpa using hy) 1
  refine ⟨value, oneModel modelId [Function.update record attr (some x)],
    oneModel modelId [Function.update record attr (some y)], ?_, hasks.accepted, ?_⟩
  · refine alikeDatabases_oneModel fun attributes => List.Forall₂.cons ?_ List.Forall₂.nil
    refine hleft.alike hright hsensitive (fun other hother => ?_) attributes
    rw [Function.update_of_ne hother, Function.update_of_ne hother]
  · refine answer_ne hprints hasks
      (recordRows_of_select hasks.uniqueFields hmem
        ((congrArg _ (if_pos rfl)).trans hselect) (List.Forall₂.cons hleft List.Forall₂.nil))
      (recordRows_of_select hasks.uniqueFields hmem
        ((congrArg _ (if_pos rfl)).trans hselect') List.Forall₂.nil) (by simp) (by simp) ?_
    · intro heq
      have hlength := congrArg List.length heq
      simp [asking, recordLimit] at hlength

/-- **An order by a sensitive attribute tells which value comes first.** -/
theorem exists_order_distinguishes (executionId : String)
    (hdiscerning : (app.storage modelId).IsDiscerning)
    (hprints : ∀ json, (P.stringify json).utf8ByteSize ≤ printBound json)
    (hid : app.IsRequestable modelId "id") (hattr : app.IsRequestable modelId attr)
    (hsensitive : isSensitiveKey attr) :
    app.Distinguishes executionId
      (asking modelId "id" [] [⟨attr, .asc⟩] 1) := by
  obtain ⟨x, y, hlt, hgt, hcells⟩ := hdiscerning.ordered attr
  obtain ⟨first, hfirst⟩ := hdiscerning.exists_reads "id" (by simp) "1"
  obtain ⟨second, hsecond⟩ := hdiscerning.exists_reads "id" (by simp) "2"
  simp only [List.forall_mem_cons] at hcells
  obtain ⟨⟨hnullX, hfieldX, hreadX⟩, ⟨hnullY, hfieldY, hreadY⟩, -⟩ := hcells
  have hne : attr ≠ "id" := by
    rintro rfl
    exact absurd hsensitive (by decide)
  obtain ⟨model, hasks⟩ := asksFor_asking "id" [] [⟨attr, .asc⟩] 1 hid
    (by simp) (by simp)
    (by simpa using hattr) (by simp) (by decide)
  have hmem := (hasks.known "id" (by simp [requestedAttributes,
    hasks.uniqueFields])).1
  have hother : ∀ (record : StoredRecord κ) (cell cell' : κ) (other : String), other ≠ attr →
      Function.update record attr (some cell) other =
        Function.update record attr (some cell') other := by
    intro record cell cell' other hother
    rw [Function.update_of_ne hother, Function.update_of_ne hother]
  have hselect := (app.storage modelId).select_order attr
    (Function.update first attr (some x)) (Function.update second attr (some y))
    (by simp [hnullX, hfieldX, hnullY, hfieldY])
  have hselect' := (app.storage modelId).select_order attr
    (Function.update first attr (some y)) (Function.update second attr (some x))
    (by simp [hnullX, hfieldX, hnullY, hfieldY])
  simp only [Function.update_self, hlt, hgt, Ordering.isLE_lt, Ordering.isLE_gt, if_true,
    Bool.false_eq_true, if_false] at hselect hselect'
  have hshown : ∀ text, sanitizeInspectionValue (textRow "id" text) none 2 =
      textRow "id" (shownText text) := fun text =>
    sanitize_textRow (isRedacted_of_not_sensitive (by rfl) _)
  refine ⟨oneModel modelId [Function.update first attr (some x),
      Function.update second attr (some y)],
    oneModel modelId [Function.update first attr (some y), Function.update second attr (some x)],
    ?_, hasks.accepted, ?_⟩
  · exact alikeDatabases_oneModel fun attributes =>
      List.Forall₂.cons ((hfirst.update hne hreadX).alike (hfirst.update hne hreadY) hsensitive
        (hother first x y) attributes)
        (List.Forall₂.cons ((hsecond.update hne hreadY).alike (hsecond.update hne hreadX)
          hsensitive (hother second y x) attributes) List.Forall₂.nil)
  · refine answer_ne hprints hasks
      (recordRows_of_select hasks.uniqueFields hmem
        ((congrArg _ (if_pos rfl)).trans hselect)
        (List.Forall₂.cons (hfirst.update hne hreadX)
          (List.Forall₂.cons (hsecond.update hne hreadY) List.Forall₂.nil)))
      (recordRows_of_select hasks.uniqueFields hmem
        ((congrArg _ (if_pos rfl)).trans hselect')
        (List.Forall₂.cons (hsecond.update hne hreadX)
          (List.Forall₂.cons (hfirst.update hne hreadY) List.Forall₂.nil))) ?_ ?_ ?_
    · intro row hrow
      obtain rfl : row = textRow "id" "2" := by
        simpa [asking, recordLimit] using hrow
      exact ⟨"2", hshown "2"⟩
    · simp [asking, recordLimit]
    · obtain ⟨hone, htwo, -⟩ := redactText_digits
      simp [asking, recordLimit, hshown, hone, htwo]

/-- **A token that starts with `doxa:` is shown.** -/
theorem token_distinguishes (executionId : String)
    (hdiscerning : (app.storage modelId).IsDiscerning)
    (hprints : ∀ json, (P.stringify json).utf8ByteSize ≤ printBound json)
    (htoken : app.IsRequestable modelId "token") :
    app.Distinguishes executionId (asking modelId "token" [] [] 1) := by
  obtain ⟨x, hx⟩ := hdiscerning.texts "token" (by simp) "doxa:1"
  obtain ⟨y, hy⟩ := hdiscerning.texts "token" (by simp) "doxa:2"
  obtain ⟨record, hrecord⟩ := hdiscerning.exists_reads "token" (by simp) ""
  obtain ⟨model, hasks⟩ := asksFor_asking "token" [] [] 1 htoken (by simp)
    (by simp) (by simp) (by simp) (by decide)
  have hmem := (hasks.known "token" (by simp [requestedAttributes,
    hasks.uniqueFields])).1
  have hreads : ∀ {cell : κ} {text : String}, (app.storage modelId).hydrate "token" (some cell) =
      .ok (some (.text text)) →
      (app.storage modelId).Reads "token" (Function.update record "token" (some cell)) text := by
    intro cell text hcell
    refine ⟨fun other => ?_, by rw [Function.update_self]; exact hcell⟩
    by_cases hother : other = "token"
    · rw [hother, Function.update_self]
      exact ⟨_, hcell⟩
    · rw [Function.update_of_ne hother]
      exact hrecord.1 other
  have hshown : ∀ text, (isSafeDoxaToken "token" (.text text)) →
      sanitizeInspectionValue (textRow "token" text) none 2 = textRow "token" (shownText text) := by
    intro text hsafe
    exact sanitize_textRow (by simp [isRedacted, hsafe])
  have hsensitive : isSensitiveKey "token" = true := by rfl
  have hfirst := hshown "doxa:1" (by decide)
  have hsecond := hshown "doxa:2" (by decide)
  refine ⟨oneModel modelId [Function.update record "token" (some x)],
    oneModel modelId [Function.update record "token" (some y)], ?_, hasks.accepted, ?_⟩
  · refine alikeDatabases_oneModel fun attributes => List.Forall₂.cons ?_ List.Forall₂.nil
    refine (hreads hx).alike (hreads hy) hsensitive (fun other hother => ?_) attributes
    rw [Function.update_of_ne hother, Function.update_of_ne hother]
  · have hselect : ∀ cell : κ, (app.storage modelId).select [] [] 2
        [Function.update record "token" (some cell)] =
          .ok [Function.update record "token" (some cell)] := by
      intro cell
      simp [select, satisfies, orderedFields,
        sort, bind, Except.bind, pure, Except.pure]
    refine answer_ne hprints hasks
      (recordRows_of_select hasks.uniqueFields hmem
        ((congrArg _ (if_pos rfl)).trans (hselect x))
        (List.Forall₂.cons (hreads hx) List.Forall₂.nil))
      (recordRows_of_select hasks.uniqueFields hmem
        ((congrArg _ (if_pos rfl)).trans (hselect y))
        (List.Forall₂.cons (hreads hy) List.Forall₂.nil)) ?_ ?_ ?_
    · intro row hrow
      obtain rfl : row = textRow "token" "doxa:2" := by
        simpa [asking, recordLimit] using hrow
      exact ⟨"doxa:2", hsecond⟩
    · simp [asking, recordLimit]
    · obtain ⟨-, -, hone, htwo⟩ := redactText_digits
      simp [asking, recordLimit, hfirst, hsecond, hone, htwo]

/-! ### When nothing is revealed -/

/-- Requests that use no secrets reveal nothing. -/
theorem revealsNothing_of_usesNoSecrets {uses : RecordUses} (huses : app.UsesNoSecrets uses) :
    app.RevealsNothing executionId uses := by
  intro db db' halike requests hrequests
  refine List.map_congr_left fun request hrequest => ?_
  obtain ⟨haccepted, hwithin⟩ := hrequests request hrequest
  rw [answer, answer, queryModels_alike halike huses haccepted hwithin]

/-- A request that distinguishes two databases is one that may not be made. -/
theorem Distinguishes.not_revealsNothing {request : GnosisModelQueryRequest}
    (h : app.Distinguishes executionId request) {uses : RecordUses}
    (hwithin : request.Within uses) : ¬app.RevealsNothing executionId uses := by
  intro hreveals
  obtain ⟨db, db', halike, haccepted, hne⟩ := h
  have hsame := hreveals db db' halike [request] (by simpa using ⟨haccepted, hwithin⟩)
  exact hne (by simpa using hsame)

/-- What a request for one field uses. -/
theorem within_asking {uses : RecordUses} {field : String} {filters : List RecordFilter}
    {orders : List ModelQueryOrder} {limit : ℤ} (hfield : uses.shown modelId field)
    (hfilters : ∀ filter ∈ filters, uses.filtered modelId filter.attr)
    (horders : ∀ order ∈ orders, uses.ordered modelId order.attr) :
    (asking modelId field filters orders limit).Within uses :=
  ⟨hfilters, horders, by simpa [uniqueFields, asking] using hfield⟩

end InspectedApplication

/-- **Nothing is revealed of redacted values, by whatever sequence of requests, if sensitive
attributes are neither filtered nor ordered by and `token` is not shown; and only then**, where
values can be told apart, answers are printed as JSON and the id of a model can be shown. -/
theorem reveals_nothing_iff (app : InspectedApplication P κ) (executionId : String)
    (uses : RecordUses) :
    (app.UsesNoSecrets uses → app.RevealsNothing executionId uses) ∧
      ((∀ modelId, (app.storage modelId).IsDiscerning) →
        (∀ json, (P.stringify json).utf8ByteSize ≤ printBound json) →
        (∀ modelId attr, app.IsRequestable modelId attr →
          app.IsRequestable modelId "id" ∧ uses.shown modelId "id") →
        app.RevealsNothing executionId uses → app.UsesNoSecrets uses) := by
  refine ⟨revealsNothing_of_usesNoSecrets, ?_⟩
  intro hdiscerning hprints hid hreveals modelId attr hattr hsensitive
  obtain ⟨hidRequestable, hidShown⟩ := hid modelId attr hattr
  refine ⟨fun hfiltered => ?_, fun hordered => ?_, ?_⟩
  · obtain ⟨value, hvalue⟩ := exists_filter_distinguishes
      executionId (hdiscerning modelId) hprints hidRequestable hattr hsensitive
    exact hvalue.not_revealsNothing (within_asking hidShown
      (by simpa using hfiltered) (by simp)) hreveals
  · exact (exists_order_distinguishes executionId
      (hdiscerning modelId) hprints hidRequestable hattr hsensitive).not_revealsNothing
      (within_asking hidShown (by simp) (by simpa using hordered)) hreveals
  · rintro rfl hshown
    exact (token_distinguishes executionId
      (hdiscerning modelId) hprints hattr).not_revealsNothing
      (within_asking hshown (by simp) (by simp)) hreveals

/-! ### A table of users -/

/-- A storage of texts. -/
def textStorage : RecordStorage plainPlatform String where
  compares _ operator value cell := .ok (some (
    match operator, value with
    | .eq, .text text => cell = some text
    | _, _ => false))
  nullCondition _ cell := cell.isNone
  orderedField _ _ := .ok ()
  compareField _ left right := Ord.compare (left.getD "") (right.getD "")
  hydrate _ cell := .ok (cell.map .text)

theorem isDiscerning_textStorage : textStorage.IsDiscerning where
  texts _ _ text := ⟨text, rfl⟩
  filtered _ := ⟨.text "1", "1", "2", by decide, rfl, rfl, ⟨_, rfl⟩, ⟨_, rfl⟩⟩
  ordered attr := by
    have hlt : Ord.compare "1" "2" = Ordering.lt := by decide
    have hgt : Ord.compare "2" "1" = Ordering.gt := by decide
    exact ⟨"1", "2", hlt, hgt, fun _ _ => ⟨rfl, rfl, _, rfl⟩⟩

def userApplication : InspectedApplication plainPlatform String where
  models := [⟨"app/user", ["id", "passwordHash"]⟩]
  storage _ := textStorage

theorem two_le_printBound (json : Json) : 2 ≤ printBound json := by
  cases json <;> simp only [printBound] <;> omega

/-- Users may be filtered and ordered by their id only. -/
def idUses : RecordUses where
  filtered _ attr := attr = "id"
  ordered _ attr := attr = "id"
  shown _ _ := True

/-- Passwords may be filtered by as well. -/
def passwordUses : RecordUses where
  filtered _ _ := True
  ordered _ attr := attr = "id"
  shown _ _ := True

theorem isRequestable_user {attr : String} (hmem : attr ∈ ["id", "passwordHash"]) :
    userApplication.IsRequestable "app/user" attr := by
  simp only [List.mem_cons, List.not_mem_nil, or_false] at hmem
  rcases hmem with rfl | rfl
  · exact ⟨by decide, by decide, _, rfl, by decide, by decide⟩
  · exact ⟨by decide, by decide, _, rfl, by decide, by decide⟩

theorem usesNoSecrets_idUses : userApplication.UsesNoSecrets idUses := by
  rintro modelId attr ⟨-, -, model, hmodel, hattr, -⟩ hsensitive
  have hne : attr ≠ "id" := by
    rintro rfl
    exact absurd hsensitive (by decide)
  refine ⟨hne, hne, ?_⟩
  rintro rfl -
  obtain rfl := List.mem_singleton.1 (model_eq_some hmodel).1
  exact absurd hattr (by decide)

theorem reveals_nothing_user :
    userApplication.RevealsNothing "e" idUses ∧
      ¬userApplication.RevealsNothing "e" passwordUses := by
  refine ⟨(reveals_nothing_iff userApplication "e" idUses).1 usesNoSecrets_idUses,
    fun hreveals => ?_⟩
  refine ((reveals_nothing_iff userApplication "e" passwordUses).2
    (fun _ => isDiscerning_textStorage) two_le_printBound ?_ hreveals "app/user" "passwordHash"
    (isRequestable_user (by simp)) (by rfl)).1 trivial
  rintro modelId attr ⟨-, -, model, hmodel, -⟩
  obtain ⟨hmem, rfl⟩ := model_eq_some hmodel
  obtain rfl := List.mem_singleton.1 hmem
  exact ⟨isRequestable_user (by simp), trivial⟩

/-- A user with a password. -/
def userRecord (password : String) : StoredRecord String := fun attr =>
  if attr = "id" then some "1" else if attr = "passwordHash" then some password else none

/-- The request for the users with a password. -/
def passwordRequest : GnosisModelQueryRequest :=
  asking "app/user" "id"
    [⟨"passwordHash", .eq, .text "hunter2"⟩] [] 20

/-- **A filter tells a password**: the two databases differ in one password, and the request, which
shows the id only, is answered with one row or with none. -/
theorem password_tested :
    userApplication.AlikeDatabases
        (oneModel "app/user" [userRecord "hunter2"])
        (oneModel "app/user" [userRecord "hunter3"]) ∧
      passwordRequest.Accepted ∧
      userApplication.answer "e" (oneModel "app/user" [userRecord "hunter2"])
          passwordRequest ≠
        userApplication.answer "e" (oneModel "app/user" [userRecord "hunter3"])
          passwordRequest := by
  refine ⟨?_, ?_, ?_⟩
  · refine alikeDatabases_oneModel fun attributes =>
      List.Forall₂.cons ⟨fun attr hplain => ?_, fun _ _ _ => ⟨_, rfl⟩, fun _ _ _ => ⟨_, rfl⟩⟩
        List.Forall₂.nil
    have hne : attr ≠ "passwordHash" := by
      rintro rfl
      exact absurd hplain (by decide)
    simp [userRecord, hne]
  · exact ⟨by decide, by decide, by decide, by decide, by decide, by decide, by decide⟩
  · intro heq
    have hone : (match userApplication.answer "e"
        (oneModel "app/user" [userRecord "hunter2"]) passwordRequest with
      | .content shown => (shown.field "returned").bind Json.asNumber
      | .failure _ _ => none) = some 1 := by decide +kernel
    have hnone : (match userApplication.answer "e"
        (oneModel "app/user" [userRecord "hunter3"]) passwordRequest with
      | .content shown => (shown.field "returned").bind Json.asNumber
      | .failure _ _ => none) = some 0 := by decide +kernel
    rw [heq, hnone] at hone
    exact absurd hone (by decide)

end Doxa
