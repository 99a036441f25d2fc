/-
**Reading the records of a model through Gnosis.**

`query_models` (`gnosis/src/index.ts`) reads records of a declared model, for whoever works on an
application with an agent: `queryModelRecords` of the runtime (`runtime/src/runtime.ts`) filters,
orders and cuts them in the database, hydrates them as models, and the tool sanitizes what comes of
it.

What the database makes of one stored value, under a comparison, as a field of an `ORDER BY`, and as
the value of an attribute, is a parameter; how these are put together is the source's.  Records are
taken in the order the table has them, and sorted stably.  The generated id of the execution is the
same in two runs that are compared.  That the tool is not used in production, that the artifacts are
those it was started with, and the deadline are left out.

Main definitions:

* `Doxa.GnosisModelQueryRequest`, `Doxa.GnosisModelQueryRequest.Accepted` — what is asked, and the
  input schema;
* `Doxa.RecordStorage` — what the storage of a model makes of a stored value;
* `Doxa.RecordStorage.select`, `Doxa.RecordStorage.queryModelRecords` — the rows of a request;
* `Doxa.queryModels` — the answer of the tool.
-/

import Doxa.DateTimeCodec
import Doxa.InspectionSanitizer
import Doxa.Lib.Lexicographic
import Doxa.ModelQuery

set_option relaxedAutoImplicit false
set_option autoImplicit false

namespace Doxa

/-! ### Requests -/

/-- `modelQueryValueSchema`. -/
inductive RecordQueryValue
  | text (value : String)
  | number (value : ℚ)
  | bool (value : Bool)
  | null

structure RecordFilter where
  attr : String
  operator : ModelQueryOperator
  value : RecordQueryValue

structure GnosisModelQueryRequest where
  modelId : String
  fields : List String
  filters : Option (List RecordFilter)
  orderBy : Option (List ModelQueryOrder)
  limit : Option ℤ

/-- The name of an attribute that may be asked for. -/
def IsAttributeName (attr : String) : Prop := 1 ≤ codeUnits attr ∧ codeUnits attr ≤ 128

instance (attr : String) : Decidable (IsAttributeName attr) :=
  inferInstanceAs (Decidable (1 ≤ codeUnits attr ∧ codeUnits attr ≤ 128))

/-- A text is not too long to be compared with. -/
def RecordQueryValue.isShort : RecordQueryValue → Bool
  | .text value => codeUnits value ≤ 10000
  | _ => true

namespace GnosisModelQueryRequest

variable (request : GnosisModelQueryRequest)

/-- `fields`, `filters`, `orderBy` and `limit` as they are handed on. -/
def uniqueFields : List String := request.fields.eraseDups

def recordFilters : List RecordFilter :=
  request.filters.getD []

def recordOrders : List ModelQueryOrder :=
  request.orderBy.getD []

def recordLimit : ℤ := request.limit.getD 20

def requestedAttributes : List String :=
  request.uniqueFields ++ request.recordFilters.map RecordFilter.attr ++
    request.recordOrders.map ModelQueryOrder.attr

/-- `modelQueryInputSchema`. -/
structure Accepted (request : GnosisModelQueryRequest) : Prop where
  modelId : 1 ≤ codeUnits request.modelId ∧ codeUnits request.modelId ≤ 256
  fields : 1 ≤ request.fields.length ∧ request.fields.length ≤ 50
  names : ∀ attr ∈ request.requestedAttributes, IsAttributeName attr
  filters : request.recordFilters.length ≤ 20
  values : ∀ filter ∈ request.recordFilters, filter.value.isShort
  orderBy : request.recordOrders.length ≤ 5
  limit : 1 ≤ request.recordLimit ∧ request.recordLimit ≤ 100

end GnosisModelQueryRequest

/-! ### Failures -/

/-- An `IntrospectionError` tells what it is about; of any other error nothing is told. -/
inductive InspectionFailure
  | introspection (code message : String)
  | other

/-- What a tool answers. -/
inductive GnosisAnswer
  | content (structured : Json)
  | failure (code message : String)

/-- `toolResult`, with `safeFailure`. -/
def toolResult : Except InspectionFailure Json → GnosisAnswer
  | .ok structured => .content structured
  | .error (.introspection code message) =>
    .failure code (Inspection.shownText message)
  | .error .other =>
    .failure "gnosis_failure" "Gnosis could not complete the request."

/-! ### Records -/

/-- A record of a table: what is stored for each attribute, if it is not NULL or missing. -/
abbrev StoredRecord (κ : Type) := String → Option κ

/-- What the storage of a model makes of a stored value. -/
structure RecordStorage (P : Platform) (κ : Type) where
  /-- `comparisonSql`, which is neither true nor false of a NULL. -/
  compares : String → ModelQueryOperator → RecordQueryValue → Option κ →
    Except InspectionFailure (Option Bool)
  /-- `nullCondition`. -/
  nullCondition : String → Option κ → Bool
  /-- The field of an `ORDER BY` can be computed. -/
  orderedField : String → Option κ → Except InspectionFailure Unit
  compareField : String → Option κ → Option κ → Ordering
  /-- The value of an attribute, if the hydrated state has it. -/
  hydrate : String → Option κ → Except InspectionFailure (Option (DoxaValue P))

namespace RecordStorage

variable {P : Platform} {κ : Type} (storage : RecordStorage P κ)

/-- `queryWhere`: whether the conjunction is true of a record.  What comes after something false is
not computed. -/
def satisfies (record : StoredRecord κ) : List RecordFilter → Except InspectionFailure Bool
  | [] => pure true
  | filter :: rest => do
      let tested ← storage.compares filter.attr filter.operator filter.value (record filter.attr)
      if tested = some false then pure false
      else
        let others ← satisfies record rest
        pure (others && tested = some true)

/-- The fields of an order can be computed. -/
def orderedFields (orders : List ModelQueryOrder) (record : StoredRecord κ) :
    Except InspectionFailure (List Unit) :=
  orders.mapM fun order => storage.orderedField order.attr (record order.attr)

/-- `queryOrder` for one order: NULL comes first in ascending and last in descending order. -/
def compareOrder (order : ModelQueryOrder) (left right : StoredRecord κ) : Ordering :=
  let isNull record := storage.nullCondition order.attr (record order.attr)
  let field := storage.compareField order.attr (left order.attr) (right order.attr)
  match order.direction with
  | .asc =>
    (Ord.compare (if isNull left then 0 else 1) (if isNull right then 0 else 1)).then field
  | .desc =>
    (Ord.compare (if isNull left then 1 else 0) (if isNull right then 1 else 0)).then field.swap

def sort (orders : List ModelQueryOrder) (records : List (StoredRecord κ)) :
    List (StoredRecord κ) :=
  records.mergeSort fun left right =>
    (Lex.lexCmp (orders.map storage.compareOrder) left right).isLE

/-- `queryEntitiesNow`, up to the hydration. -/
def select (filters : List RecordFilter) (orders : List ModelQueryOrder) (limit : ℕ)
    (records : List (StoredRecord κ)) : Except InspectionFailure (List (StoredRecord κ)) := do
  let tests ← records.mapM fun record => storage.satisfies record filters
  let selected := ((records.zip tests).filter Prod.snd).map Prod.fst
  let _ ← selected.mapM (storage.orderedFields orders)
  pure ((storage.sort orders selected).take limit)

/-- The attributes of the model that a record is hydrated as. -/
def hydrateRecord (attributes : List String) (record : StoredRecord κ) :
    Except InspectionFailure (List (String × Option (DoxaValue P))) :=
  attributes.mapM fun attr => do
    let value ← storage.hydrate attr (record attr)
    pure (attr, value)

end RecordStorage

/-! ### Rows -/

mutual

/-- What is left of a value when it is printed as JSON, if anything. -/
def DoxaValue.printed {P : Platform} : DoxaValue P → Option Json
  | .null => some .null
  | .bool value => some (.bool value)
  | .number value => some (.number value)
  | .text value => some (.text value)
  | .graphite value => some (.text (P.graphiteText value))
  | .instant value => some (.text (P.instantText value))
  | .localDate value => some (.text (P.localDateText value))
  | .duration value => some (.text (P.durationText value))
  | .array items => some (.array (printedItems items))
  | .object fields => some (.object (printedFields fields))
  | .foreign => none

def DoxaValue.printedItems {P : Platform} : List (DoxaValue P) → List Json
  | [] => []
  | item :: items => item.printed.getD .null :: printedItems items

def DoxaValue.printedFields {P : Platform} : List (String × DoxaValue P) → List (String × Json)
  | [] => []
  | (key, value) :: fields =>
    match value.printed with
    | some json => (key, json) :: printedFields fields
    | none => printedFields fields

end

/-- `serializeModelRecordValue`. -/
def serializeModelRecordValue {P : Platform} (value : Option (DoxaValue P)) : Json :=
  (value.bind DoxaValue.printed).getD .null

/-- `getAttribute` of a hydrated model. -/
def getAttribute {P : Platform} (state : List (String × Option (DoxaValue P))) (field : String) :
    Option (DoxaValue P) :=
  (state.find? fun property => property.1 = field).bind Prod.snd

/-- The row of a model. -/
def recordRow {P : Platform} (fields : List String)
    (state : List (String × Option (DoxaValue P))) : Json :=
  .object (fields.map fun field =>
    (field, serializeModelRecordValue (getAttribute state field)))

/-- `GnosisModelQueryResult`. -/
def modelQueryResult (modelId executionId : String) (fields : List String) (rows : List Json)
    (truncated : Bool) : Json :=
  .object [("modelId", .text modelId), ("fields", .array (fields.map .text)),
    ("rows", .array rows), ("returned", .number rows.length),
    ("truncated", .bool truncated), ("executionId", .text executionId)]

namespace RecordStorage

variable {P : Platform} {κ : Type} (storage : RecordStorage P κ)

/-- A request that the runtime does not take. -/
def isRefused (attributes : List String) (request : GnosisModelQueryRequest) : Bool :=
  request.uniqueFields.length = 0 || 50 < request.uniqueFields.length ||
    20 < request.recordFilters.length || request.recordFilters.any (fun filter =>
      !filter.value.isShort) ||
    5 < request.recordOrders.length || request.recordLimit < 1 || 100 < request.recordLimit ||
    request.requestedAttributes.any fun attr => attr ∉ attributes

/-- The rows of a request, one more than it is limited to. -/
def recordRows (attributes : List String) (request : GnosisModelQueryRequest)
    (records : List (StoredRecord κ)) : Except InspectionFailure (List Json) := do
  let selected ← storage.select request.recordFilters request.recordOrders
    (request.recordLimit.toNat + 1) records
  selected.mapM fun record => do
    let state ← storage.hydrateRecord attributes record
    pure (recordRow request.uniqueFields state)

/-- `queryModelRecords`. -/
def queryModelRecords (attributes : List String) (executionId : String)
    (request : GnosisModelQueryRequest) (records : List (StoredRecord κ)) :
    Except InspectionFailure Json :=
  if isRefused attributes request then throw .other
  else do
    let rows ← storage.recordRows attributes request records
    let bound := request.recordLimit.toNat
    pure (modelQueryResult request.modelId executionId request.uniqueFields (rows.take bound)
      (decide (bound < rows.length)))

end RecordStorage

/-! ### The tool -/

/-- What a manifest says of a model, as far as it is used here. -/
structure InspectedModel where
  id : String
  attributes : List String

/-- The attributes that `describeModel` shows. -/
def describedAttributes (model : InspectedModel) : List String :=
  (model.attributes.take Inspection.maxInspectionResults).map Inspection.shownText

/-- An application: its models, and how they are stored. -/
structure InspectedApplication (P : Platform) (κ : Type) where
  models : List InspectedModel
  storage : String → RecordStorage P κ

/-- The records of each model. -/
abbrev RecordDatabase (κ : Type) := String → List (StoredRecord κ)

namespace InspectedApplication

variable {P : Platform} {κ : Type} (app : InspectedApplication P κ)

/-- `manifest.models.find`. -/
def model (modelId : String) : Option InspectedModel :=
  app.models.find? fun model => model.id = modelId

/-- `describeModel`. -/
def describeModel (modelId : String) : Except InspectionFailure InspectedModel :=
  if codeUnits modelId = 0 ∨ 256 < codeUnits modelId then
    throw (.introspection "invalid_input"
      "Model ID must contain 1 through 256 characters.")
  else
    match app.model modelId with
    | none => throw (.introspection "not_found"
        ("Model " ++ modelId ++ " is not declared."))
    | some model => pure model

/-- The handler of `query_models`. -/
def queryModels (executionId : String) (db : RecordDatabase κ) (request : GnosisModelQueryRequest) :
    Except InspectionFailure Json := do
  let model ← app.describeModel request.modelId
  match request.requestedAttributes.find? fun attr => attr ∉ describedAttributes model with
  | some unknown => throw (.introspection "invalid_input"
      (request.modelId ++ " does not declare logical attribute " ++ unknown ++ "."))
  | none => do
      let result ← (app.storage request.modelId).queryModelRecords model.attributes executionId
        request (db request.modelId)
      let shown := Inspection.sanitizeInspectionValue result none 0
      if 1000000 < (P.stringify shown).utf8ByteSize then
        throw (.introspection "invalid_input"
          "Model query result exceeds 1,000,000 bytes. Request fewer fields or rows.")
      else pure shown

/-- The answer of `query_models`. -/
def answer (executionId : String) (db : RecordDatabase κ) (request : GnosisModelQueryRequest) :
    GnosisAnswer :=
  toolResult (app.queryModels executionId db request)

end InspectedApplication

end Doxa
