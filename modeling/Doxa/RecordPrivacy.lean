/-
**What `query_models` gives away of redacted values.**

The values of attributes with a sensitive name are redacted in the rows
(`introspection/src/index.ts`), but the filters and the orders of a request look at them before that
(`gnosis/src/index.ts`), and the value of an attribute that is named `token` is shown if it starts
with `doxa:`.  What a request may do is given by the attributes that may be filtered by, ordered by
and shown; without an attribute that is shown there is no request.

Main definitions:

* `Doxa.AlikeRecords` — records that differ at most in sensitive values, all of them legible;
* `Doxa.RecordUses` — what requests may do with the attributes of each model;
* `Doxa.InspectedApplication.RevealsNothing` — what is promised;
* `Doxa.InspectedApplication.UsesNoSecrets` — the uses it holds of.

Main results:

* `Doxa.RecordStorage.select_alike` — the rows that are selected are alike;
* `Doxa.RecordStorage.hydrateRecord_alike` — the plain values of a state are the same;
* `Doxa.InspectedApplication.queryModels_alike` — **the two runs of one request give the same**, if
  it asks for no secrets.
-/

import Doxa.Lib.Alike
import Doxa.ModelRecords

set_option relaxedAutoImplicit false
set_option autoImplicit false

namespace Doxa

open Inspection

variable {P : Platform} {κ : Type}

/-! ### What is promised -/

/-- The sensitive values of a record can be read as values of the attributes. -/
def RecordStorage.Legible (storage : RecordStorage P κ) (attributes : List String)
    (record : StoredRecord κ) : Prop :=
  ∀ attr ∈ attributes, isSensitiveKey attr → ∃ value, storage.hydrate attr (record attr) =
    .ok value

/-- Two records differ at most in sensitive values, which are legible. -/
structure AlikeRecords (storage : RecordStorage P κ) (attributes : List String)
    (record record' : StoredRecord κ) : Prop where
  plain : ∀ attr, isSensitiveKey attr = false → record attr = record' attr
  left : storage.Legible attributes record
  right : storage.Legible attributes record'

/-- The attributes of each model that may be filtered by, ordered by and shown. -/
structure RecordUses where
  filtered : String → String → Prop
  ordered : String → String → Prop
  shown : String → String → Prop

/-- A request does no more than that. -/
structure GnosisModelQueryRequest.Within (request : GnosisModelQueryRequest) (uses : RecordUses) :
    Prop where
  filtered : ∀ filter ∈ request.recordFilters, uses.filtered request.modelId filter.attr
  ordered : ∀ order ∈ request.recordOrders, uses.ordered request.modelId order.attr
  shown : ∀ field ∈ request.uniqueFields, uses.shown request.modelId field

namespace InspectedApplication

variable (app : InspectedApplication P κ)

/-- Two databases differ at most in sensitive values, which are legible. -/
def AlikeDatabases (db db' : RecordDatabase κ) : Prop :=
  ∀ model ∈ app.models, List.Forall₂
    (AlikeRecords (app.storage model.id) model.attributes) (db model.id) (db' model.id)

/-- **Nothing is revealed of redacted values** by whatever sequence of requests: on two databases
that differ in these only, the answers are the same. -/
def RevealsNothing (executionId : String) (uses : RecordUses) : Prop :=
  ∀ db db' : RecordDatabase κ, app.AlikeDatabases db db' →
    ∀ requests : List GnosisModelQueryRequest,
      (∀ request ∈ requests, request.Accepted ∧ request.Within uses) →
        requests.map (app.answer executionId db) = requests.map (app.answer executionId db')

/-- An attribute can be asked for. -/
def IsRequestable (modelId attr : String) : Prop :=
  (1 ≤ codeUnits modelId ∧ codeUnits modelId ≤ 256) ∧ IsAttributeName attr ∧
    ∃ model, app.model modelId = some model ∧ attr ∈ model.attributes ∧
      attr ∈ describedAttributes model

/-- No sensitive attribute is filtered or ordered by, and `token` is not shown. -/
def UsesNoSecrets (uses : RecordUses) : Prop :=
  ∀ modelId attr, app.IsRequestable modelId attr → isSensitiveKey attr →
    ¬uses.filtered modelId attr ∧ ¬uses.ordered modelId attr ∧
      (attr = "token" → ¬uses.shown modelId attr)

end InspectedApplication

/-! ### Selecting alike -/

namespace RecordStorage

variable {storage : RecordStorage P κ} {attributes : List String}
  {record record' : StoredRecord κ}

theorem satisfies_alike (h : ∀ attr, isSensitiveKey attr = false → record attr = record' attr)
    {filters : List RecordFilter}
    (hfilters : ∀ filter ∈ filters, isSensitiveKey filter.attr = false) :
    storage.satisfies record filters = storage.satisfies record' filters := by
  induction filters with
  | nil => rfl
  | cons filter filters ih =>
    rw [List.forall_mem_cons] at hfilters
    rw [satisfies, satisfies, h filter.attr hfilters.1, ih hfilters.2]

variable {orders : List ModelQueryOrder}

theorem orderedFields_alike (h : ∀ attr, isSensitiveKey attr = false → record attr = record' attr)
    (horders : ∀ order ∈ orders, isSensitiveKey order.attr = false) :
    storage.orderedFields orders record = storage.orderedFields orders record' := by
  induction orders with
  | nil => simp [orderedFields]
  | cons order orders ih =>
    rw [List.forall_mem_cons] at horders
    have hrest := ih horders.2
    simp only [orderedFields] at hrest ⊢
    simp [h order.attr horders.1, hrest]

theorem compareOrder_alike {left left' right right' : StoredRecord κ} {order : ModelQueryOrder}
    (hleft : left order.attr = left' order.attr) (hright : right order.attr = right' order.attr) :
    storage.compareOrder order left right = storage.compareOrder order left' right' := by
  simp only [compareOrder, hleft, hright]

theorem lexCmp_alike {left left' right right' : StoredRecord κ}
    (hleft : ∀ order ∈ orders, left order.attr = left' order.attr)
    (hright : ∀ order ∈ orders, right order.attr = right' order.attr) :
    Lex.lexCmp (orders.map storage.compareOrder) left right =
      Lex.lexCmp (orders.map storage.compareOrder) left' right' := by
  induction orders with
  | nil => rfl
  | cons order orders ih =>
    rw [List.forall_mem_cons] at hleft hright
    rw [List.map_cons, Lex.lexCmp_cons, Lex.lexCmp_cons,
      compareOrder_alike hleft.1 hright.1, ih hleft.2 hright.2]

/-- The records a filter is true of are alike. -/
theorem filter_alike {α β : Type} {R : α → β → Prop} {left : List α} {right : List β}
    (h : List.Forall₂ R left right) (tests : List Bool) :
    List.Forall₂ R (((left.zip tests).filter Prod.snd).map Prod.fst)
      (((right.zip tests).filter Prod.snd).map Prod.fst) := by
  induction h generalizing tests with
  | nil => simp
  | cons hab _ ih =>
    cases tests with
    | nil => simp
    | cons test tests =>
      cases test with
      | true => simpa [hab] using ih tests
      | false => simpa using ih tests

/-- **The rows that are selected are alike**, or the statement fails both times. -/
theorem select_alike {filters : List RecordFilter}
    (hfilters : ∀ filter ∈ filters, isSensitiveKey filter.attr = false)
    (horders : ∀ order ∈ orders, isSensitiveKey order.attr = false) (limit : ℕ)
    {records records' : List (StoredRecord κ)}
    (h : List.Forall₂ (AlikeRecords storage attributes) records records') :
    (∃ failure, storage.select filters orders limit records = .error failure ∧
        storage.select filters orders limit records' = .error failure) ∨
      ∃ selected selected', storage.select filters orders limit records = .ok selected ∧
        storage.select filters orders limit records' = .ok selected' ∧
        List.Forall₂ (AlikeRecords storage attributes) selected selected' := by
  have htests : (records.mapM fun record => storage.satisfies record filters) =
      records'.mapM fun record => storage.satisfies record filters :=
    Alike.mapM_eq h fun _ _ halike => satisfies_alike halike.plain hfilters
  rw [select, select, ← htests]
  cases records.mapM fun record => storage.satisfies record filters with
  | error failure => exact .inl ⟨failure, rfl, rfl⟩
  | ok tests =>
    have hselected := filter_alike h tests
    have hfields := Alike.mapM_eq (f := storage.orderedFields orders)
      (g := storage.orderedFields orders) hselected
      fun _ _ halike => orderedFields_alike halike.plain horders
    simp only [bind, Except.bind]
    rw [← hfields]
    cases (((records.zip tests).filter Prod.snd).map Prod.fst).mapM
        (storage.orderedFields orders) with
    | error failure => exact .inl ⟨failure, rfl, rfl⟩
    | ok _ =>
      refine .inr ⟨_, _, rfl, rfl, List.forall₂_take limit (Alike.mergeSort hselected ?_)⟩
      intro a b a' b' hab hab'
      rw [lexCmp_alike (fun order horder => hab.plain _ (horders order horder))
        fun order horder => hab'.plain _ (horders order horder)]

/-! ### Showing alike -/

/-- Two states have the same plain values. -/
def AlikeStates (state state' : List (String × Option (DoxaValue P))) : Prop :=
  List.Forall₂ (fun property property' => property.1 = property'.1 ∧
    (isSensitiveKey property.1 = false → property.2 = property'.2)) state state'

theorem hydrateRecord_cons (attr : String) (attrs : List String) (record : StoredRecord κ) :
    storage.hydrateRecord (attr :: attrs) record = (do
      let value ← storage.hydrate attr (record attr)
      let state ← storage.hydrateRecord attrs record
      pure ((attr, value) :: state)) := by
  simp [hydrateRecord, List.mapM_cons]

/-- **The states that alike records are hydrated to have the same plain values**, or the hydration
fails both times, on the same plain value. -/
theorem hydrateRecord_alike (h : AlikeRecords storage attributes record record') :
    (∃ failure, storage.hydrateRecord attributes record = .error failure ∧
        storage.hydrateRecord attributes record' = .error failure) ∨
      ∃ state state', storage.hydrateRecord attributes record = .ok state ∧
        storage.hydrateRecord attributes record' = .ok state' ∧ AlikeStates state state' := by
  obtain ⟨hplain, hleft, hright⟩ := h
  induction attributes with
  | nil => exact .inr ⟨[], [], rfl, rfl, List.Forall₂.nil⟩
  | cons attr attrs ih =>
    rw [RecordStorage.Legible, List.forall_mem_cons] at hleft hright
    have hrest := ih hleft.2 hright.2
    rw [hydrateRecord_cons, hydrateRecord_cons]
    cases hsensitive : isSensitiveKey attr with
    | false =>
      rw [← hplain attr hsensitive]
      cases storage.hydrate attr (record attr) with
      | error failure => exact .inl ⟨failure, rfl, rfl⟩
      | ok value =>
        rcases hrest with ⟨failure, hf, hf'⟩ | ⟨state, state', hs, hs', halike⟩
        · exact .inl ⟨failure, by rw [hf]; rfl, by rw [hf']; rfl⟩
        · exact .inr ⟨_, _, by rw [hs]; rfl, by rw [hs']; rfl,
            List.Forall₂.cons ⟨rfl, fun _ => rfl⟩ halike⟩
    | true =>
      obtain ⟨value, hvalue⟩ := hleft.1 hsensitive
      obtain ⟨value', hvalue'⟩ := hright.1 hsensitive
      rw [hvalue, hvalue']
      rcases hrest with ⟨failure, hf, hf'⟩ | ⟨state, state', hs, hs', halike⟩
      · exact .inl ⟨failure, by rw [hf]; rfl, by rw [hf']; rfl⟩
      · refine .inr ⟨(attr, value) :: state, (attr, value') :: state', by rw [hs]; rfl,
          by rw [hs']; rfl, List.Forall₂.cons ⟨rfl, fun hfalse => ?_⟩ halike⟩
        simp [hsensitive] at hfalse

theorem getAttribute_alike {state state' : List (String × Option (DoxaValue P))}
    (h : AlikeStates state state') {field : String} (hfield : isSensitiveKey field = false) :
    getAttribute state field = getAttribute state' field := by
  induction h with
  | nil => rfl
  | @cons property property' state state' halike _ ih =>
    obtain ⟨hkey, hvalue⟩ := halike
    by_cases hfound : property.1 = field
    · have hfound' : property'.1 = field := hkey ▸ hfound
      simp [getAttribute, hfound, hfound', hvalue (hfound ▸ hfield)]
    · have hother : property'.1 ≠ field := hkey ▸ hfound
      simpa [getAttribute, hfound, hother] using ih

/-- **The rows of alike states are shown alike.** -/
theorem sanitize_recordRow {state state' : List (String × Option (DoxaValue P))}
    (h : AlikeStates state state') {fields : List String} (htoken : "token" ∉ fields) :
    sanitizeInspectionValue (recordRow fields state) none 2 =
      sanitizeInspectionValue (recordRow fields state') none 2 := by
  rw [sanitizeInspectionValue_shown (by decide) rfl, sanitizeInspectionValue_shown (by decide) rfl]
  simp only [recordRow, Json.object.injEq, ← List.map_take, List.map_map]
  refine List.map_congr_left fun field hfield => ?_
  have hne : field ≠ "token" := fun heq => htoken (heq ▸ List.mem_of_mem_take hfield)
  cases hsensitive : isSensitiveKey field with
  | true =>
    simp only [Function.comp_apply, Prod.mk.injEq, true_and]
    exact sanitizeInspectionValue_sensitive hsensitive hne _ _ 3
  | false => simp only [Function.comp_apply, getAttribute_alike h hsensitive]

/-- The rows of a request on alike records are shown alike. -/
theorem recordRows_alike {request : GnosisModelQueryRequest}
    (hfilters : ∀ filter ∈ request.recordFilters, isSensitiveKey filter.attr = false)
    (horders : ∀ order ∈ request.recordOrders, isSensitiveKey order.attr = false)
    (htoken : "token" ∉ request.uniqueFields) {records records' : List (StoredRecord κ)}
    (h : List.Forall₂ (AlikeRecords storage attributes) records records') :
    (storage.recordRows attributes request records).map
        (List.map fun row => sanitizeInspectionValue row none 2) =
      (storage.recordRows attributes request records').map
        (List.map fun row => sanitizeInspectionValue row none 2) := by
  rw [recordRows, recordRows]
  rcases select_alike hfilters horders (request.recordLimit.toNat + 1) h with
    ⟨failure, hf, hf'⟩ | ⟨selected, selected', hs, hs', halike⟩
  · rw [hf, hf']
  · rw [hs, hs']
    simp only [bind, Except.bind, Except.map_mapM]
    refine Alike.mapM_eq halike fun _ _ hab => ?_
    rcases hydrateRecord_alike hab with ⟨failure, hf, hf'⟩ | ⟨state, state', hs, hs', hstates⟩
    · rw [hf, hf']
    · rw [hs, hs']
      exact congrArg Except.ok (sanitize_recordRow hstates htoken)

end RecordStorage

/-! ### Two runs of one request -/

/-- The names that the result of a query has of its own are not sensitive. -/
theorem isSensitiveKey_result : ∀ key ∈ ["modelId", "fields", "rows", "returned", "truncated",
    "executionId"], isSensitiveKey key = false := by
  decide

/-- **What is shown of a result.** -/
theorem sanitize_modelQueryResult (modelId executionId : String) (fields : List String)
    (rows : List Json) (truncated : Bool) :
    sanitizeInspectionValue (modelQueryResult modelId executionId fields rows truncated) none 0 =
      .object [("modelId", .text (shownText modelId)),
        ("fields", .array ((fields.take 100).map fun field => .text (shownText field))),
        ("rows", .array ((rows.take 100).map fun row => sanitizeInspectionValue row none 2)),
        ("returned", .number rows.length), ("truncated", .bool truncated),
        ("executionId", .text (shownText executionId))] := by
  have hkey : ∀ key ∈ ["modelId", "fields", "rows", "returned", "truncated", "executionId"],
      ∀ value, isRedacted (some key) value = false :=
    fun key hmem => isRedacted_of_not_sensitive (isSensitiveKey_result key hmem)
  simp only [List.forall_mem_cons] at hkey
  obtain ⟨hmodelId, hfields, hrows, hreturned, htruncated, hexecutionId, -⟩ := hkey
  have hone : 1 ≤ 12 := by decide
  have htwo : 2 ≤ 12 := by decide
  rw [sanitizeInspectionValue_shown (Nat.zero_le 12) rfl]
  simp only [modelQueryResult, maxInspectionObjectProperties, List.take_succ_cons, List.take_nil,
    List.map_cons, List.map_nil, Nat.zero_add]
  rw [sanitizeInspectionValue_shown hone (hmodelId _),
    sanitizeInspectionValue_shown hone (hfields _), sanitizeInspectionValue_shown hone (hrows _),
    sanitizeInspectionValue_shown hone (hreturned _),
    sanitizeInspectionValue_shown hone (htruncated _),
    sanitizeInspectionValue_shown hone (hexecutionId _)]
  have htext : ∀ text, sanitizeInspectionValue (.text text) none 2 =
      .text (shownText text) := fun text => sanitizeInspectionValue_shown htwo rfl
  simp [maxInspectionResults, ← List.map_take, Function.comp_def, htext]

namespace InspectedApplication

variable {app : InspectedApplication P κ} {executionId : String} {db db' : RecordDatabase κ}

theorem describeModel_eq_ok {modelId : String} {model : InspectedModel}
    (h : app.describeModel modelId = .ok model) :
    (1 ≤ codeUnits modelId ∧ codeUnits modelId ≤ 256) ∧ app.model modelId = some model := by
  rw [describeModel] at h
  split at h
  · cases h
  next hlength =>
    split at h
    · cases h
    next found hfound =>
      cases h
      exact ⟨by omega, hfound⟩

/-- The model that is found is declared under its id. -/
theorem model_eq_some {modelId : String} {model : InspectedModel}
    (h : app.model modelId = some model) : model ∈ app.models ∧ model.id = modelId :=
  ⟨List.mem_of_find?_eq_some h, by simpa using List.find?_some h⟩

/-- Rows that are shown alike make results that are shown alike. -/
theorem sanitize_result_alike {rows rows' : List Json} (modelId : String) (fields : List String)
    (bound : ℕ) (h : rows.map (fun row => sanitizeInspectionValue row none 2) =
      rows'.map fun row => sanitizeInspectionValue row none 2) :
    sanitizeInspectionValue (modelQueryResult modelId executionId fields (rows.take bound)
        (decide (bound < rows.length))) none 0 =
      sanitizeInspectionValue (modelQueryResult modelId executionId fields (rows'.take bound)
        (decide (bound < rows'.length))) none 0 := by
  have hlength : rows.length = rows'.length := by simpa using congrArg List.length h
  simp only [sanitize_modelQueryResult, List.map_take, h, List.length_take, hlength]

variable {request : GnosisModelQueryRequest}

/-- The attributes that are asked for are neither secret nor used as such. -/
theorem plain_of_usesNoSecrets {uses : RecordUses} (huses : app.UsesNoSecrets uses)
    (hwithin : request.Within uses)
    (hrequestable : ∀ attr ∈ request.requestedAttributes, app.IsRequestable request.modelId attr) :
    (∀ filter ∈ request.recordFilters, isSensitiveKey filter.attr = false) ∧
      (∀ order ∈ request.recordOrders, isSensitiveKey order.attr = false) ∧
      "token" ∉ request.uniqueFields := by
  simp only [GnosisModelQueryRequest.requestedAttributes, List.forall_mem_append,
    List.forall_mem_map] at hrequestable
  obtain ⟨⟨hfields, hfilters⟩, horders⟩ := hrequestable
  refine ⟨fun filter hfilter => ?_, fun order horder => ?_, fun htoken => ?_⟩
  · by_contra hsensitive
    exact (huses _ _ (hfilters filter hfilter) (by simpa using hsensitive)).1
      (hwithin.filtered filter hfilter)
  · by_contra hsensitive
    exact (huses _ _ (horders order horder) (by simpa using hsensitive)).2.1
      (hwithin.ordered order horder)
  · exact (huses _ _ (hfields "token" htoken) (by rfl)).2.2 rfl
      (hwithin.shown "token" htoken)

/-- A request that the runtime takes names declared attributes only. -/
theorem mem_of_not_isRefused {attributes : List String}
    (h : RecordStorage.isRefused attributes request ≠ true) :
    ∀ attr ∈ request.requestedAttributes, attr ∈ attributes := by
  simp only [RecordStorage.isRefused, ne_eq, Bool.or_eq_true, not_or, List.any_eq_true,
    not_exists, not_and, decide_eq_true_eq, not_not] at h
  exact h.2

/-- The results of one request are shown alike. -/
theorem queryModelRecords_alike (executionId : String) {model : InspectedModel}
    (hplain : (∀ attr ∈ request.requestedAttributes, attr ∈ model.attributes) →
      (∀ filter ∈ request.recordFilters, isSensitiveKey filter.attr = false) ∧
      (∀ order ∈ request.recordOrders, isSensitiveKey order.attr = false) ∧
      "token" ∉ request.uniqueFields) {storage : RecordStorage P κ}
    {records records' : List (StoredRecord κ)}
    (h : List.Forall₂ (AlikeRecords storage model.attributes) records records') :
    (storage.queryModelRecords model.attributes executionId request records).map
        (fun result => sanitizeInspectionValue result none 0) =
      (storage.queryModelRecords model.attributes executionId request records').map
        fun result => sanitizeInspectionValue result none 0 := by
  rw [RecordStorage.queryModelRecords, RecordStorage.queryModelRecords]
  split
  · rfl
  next hrefused =>
    obtain ⟨hfilters, horders, htoken⟩ := hplain (mem_of_not_isRefused hrefused)
    have hrows := RecordStorage.recordRows_alike hfilters horders htoken h
    rcases Alike.cases_of_map_eq hrows with ⟨failure, hf, hf'⟩ | ⟨rows, rows', hr, hr', halike⟩
    · rw [hf, hf']
    · rw [hr, hr']
      exact congrArg Except.ok (sanitize_result_alike _ _ _ halike)

/-- **Two runs of one request give the same**, if it asks for no secrets. -/
theorem queryModels_alike (halike : app.AlikeDatabases db db') {uses : RecordUses}
    (huses : app.UsesNoSecrets uses) (haccepted : request.Accepted)
    (hwithin : request.Within uses) :
    app.queryModels executionId db request = app.queryModels executionId db' request := by
  rw [queryModels, queryModels]
  cases hdescribed : app.describeModel request.modelId with
  | error failure => rfl
  | ok model =>
    obtain ⟨hlength, hmodel⟩ := describeModel_eq_ok hdescribed
    obtain ⟨hmem, hid⟩ := model_eq_some hmodel
    simp only [bind, Except.bind]
    cases hunknown : request.requestedAttributes.find? fun attr =>
        attr ∉ describedAttributes model with
    | some unknown => rfl
    | none =>
      have hknown : ∀ attr ∈ request.requestedAttributes, attr ∈ describedAttributes model := by
        simpa using hunknown
      have hresult := queryModelRecords_alike executionId (fun hdeclared =>
        plain_of_usesNoSecrets huses hwithin fun attr hattr =>
          ⟨hlength, haccepted.names attr hattr, model, hmodel, hdeclared attr hattr,
            hknown attr hattr⟩) (hid ▸ halike model hmem)
      rcases Alike.cases_of_map_eq hresult with
        ⟨failure, hf, hf'⟩ | ⟨result, result', hr, hr', hshown⟩
      · rw [hf, hf']
      · rw [hr, hr']
        simp only [hshown]

end InspectedApplication

end Doxa
