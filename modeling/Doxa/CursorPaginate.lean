/-
**Cursor pagination.**

`ModelSession.cursorPaginate` reads one page of a query: it orders the rows by the plan's orders and
the id, keeps those behind (or in front of) a position, and asks for one row more than the page
holds to learn whether there are further ones.  The position is carried in a cursor, the values of
the order attributes of the last row of a page, and is turned back into constraints: one alternative
per order, in which all earlier attributes are equal and this one is beyond the value.  A backward
page reverses every order, and then the result.

A cursor's text is the base64url form of the JSON form of its document; both, and the tags that mark
datetimes in it, are read back as they were written, so a text is identified with its document here.
A page is made of models: those the session already holds, with the state they were loaded with, and
fresh ones for the other rows.

Main definitions:

* `Doxa.ModelSession`, `Doxa.hydrateAll` — the identity map and hydration;
* `Doxa.encodeCursor`, `Doxa.decodeCursor`, `Doxa.addCursorConstraint` — cursors and positions;
* `Doxa.cursorPaginate` — one page;
* `Doxa.followNextCursor` — the loop of `ModelQuery.cursor`, which follows `nextCursor`.
-/

import Doxa.ModelQuery

set_option relaxedAutoImplicit false
set_option autoImplicit false

namespace Doxa

open Js

/-! ### Sessions -/

/-- A model, as a query returns it: the state it was loaded with, its present state, and whether it
is persisted. -/
structure QueryModel where
  original : Row
  attributes : Row
  isPersisted : Bool

/-- The identity map of a session, for the model that is queried. -/
structure ModelSession where
  identityMap : JsString → Option QueryModel

/-- A new session holds no models. -/
def ModelSession.new : ModelSession := ⟨fun _ => none⟩

/-- `hydrate`: the model the session holds for the row, or a new one. -/
def hydrate (session : ModelSession) (persisted : Row) : QueryModel × ModelSession :=
  match session.identityMap persisted.id with
  | some model => (model, session)
  | none =>
    let model := { original := persisted, attributes := persisted, isPersisted := true }
    (model, ⟨Function.update session.identityMap persisted.id (some model)⟩)

/-- The loop of `ModelSession.query` over the persisted rows. -/
def hydrateAll : ModelSession → List Row → List QueryModel × ModelSession
  | session, [] => ([], session)
  | session, entity :: persisted =>
    let (model, session) := hydrate session entity
    let (models, session) := hydrateAll session persisted
    (model :: models, session)

/-- `ModelSession.query` for a plan without relationships, over a table held in memory. -/
def query (js : Runtime) (definition : ModelDefinition) (table : List Row)
    (session : ModelSession) (plan : ModelQueryPlan) :
    Except ModelError (List QueryModel × ModelSession) := do
  validateModelQueryPlan definition plan
  return hydrateAll session (applyModelQueryPlan js table plan)

/-! ### Cursors -/

/-- What a cursor says. -/
structure CursorDocument where
  version : ℕ
  model : String
  ordering : List ModelQueryOrder
  values : List ModelQueryValue
deriving DecidableEq

/-- A text given as a cursor: the empty text, a text that is not a cursor document, or one that is.
-/
inductive Cursor
  | empty
  | unreadable
  | document (document : CursorDocument)
deriving DecidableEq

/-- Whether a cursor was given: `undefined` and the empty text count as none. -/
def isGiven : Option Cursor → Bool
  | none => false
  | some .empty => false
  | some _ => true

/-- `encodeCursor`: the values of the order attributes, of the state the model was loaded with. -/
def encodeCursor (definition : ModelDefinition) (model : QueryModel)
    (orders : List ModelQueryOrder) : Cursor :=
  let attributes := if model.isPersisted then model.original else model.attributes
  .document
    { version := 2
      model := definition.id
      ordering := orders
      values := orders.map fun order =>
        (attributes.get order.attr).getD .null }

/-- `decodeCursor`: a cursor of another version, model or ordering is rejected. -/
def decodeCursor (cursor : Cursor) (definition : ModelDefinition)
    (orders : List ModelQueryOrder) : Except ModelError (List ModelQueryValue) :=
  match cursor with
  | .document decoded =>
    if decoded.version = 2 ∧ decoded.model = definition.id ∧ decoded.ordering = orders then
      pure decoded.values
    else
      throw (.invalidModelCursorError "Model cursor is invalid or unsupported.")
  | _ => throw (.invalidModelCursorError "Model cursor is invalid or unsupported.")

inductive CursorPosition
  | after | before
deriving DecidableEq

/-- `cursorPositionPredicate`: the attribute is beyond the value.  Null comes first, so what lies
beyond it depends on the direction, and whether nulls lie beyond a value does too. -/
def cursorPositionPredicate (order : ModelQueryOrder) (value : ModelQueryValue)
    (position : CursorPosition) : ModelQueryPredicate :=
  if value = .null then
    if (order.direction = .asc ∧ position = .after) ∨
        (order.direction = .desc ∧ position = .before) then
      .null order.attr true
    else
      .membership order.attr [] false
  else
    let forward :=
      if order.direction = .asc then .gt
      else .lt
    let operator :=
      if position = .after then forward
      else if forward = .gt then .lt
      else .gt
    let comparison := .comparison order.attr operator value
    if (order.direction = .asc ∧ position = .before) ∨
        (order.direction = .desc ∧ position = .after) then
      .group
        [.mk .and comparison,
          .mk .or
            (.null order.attr false)]
    else comparison

/-- The predicate of `addCursorConstraint` that holds an earlier attribute to its value. -/
def cursorEqualPredicate (order : ModelQueryOrder) (value : ModelQueryValue) :
    ModelQueryPredicate :=
  if value = .null then .null order.attr false
  else .comparison order.attr .eq value

/-- One alternative of `addCursorConstraint`: the attributes before `index` are equal to their
values, and the one at `index` is beyond its value. -/
def cursorAlternative (orders : List ModelQueryOrder) (values : List ModelQueryValue)
    (position : CursorPosition) (order : ModelQueryOrder) (value : ModelQueryValue) (index : ℕ) :
    ModelQueryPredicate :=
  .group
    (((orders.zip values).take index).map (fun previous =>
        .mk .and
          (cursorEqualPredicate previous.1 previous.2)) ++
      [.mk .and
        (cursorPositionPredicate order value position)])

/-- `addCursorConstraint`. -/
def addCursorConstraint (plan : ModelQueryPlan) (orders : List ModelQueryOrder)
    (values : List ModelQueryValue) (position : CursorPosition) :
    Except ModelError ModelQueryPlan :=
  if values.length ≠ orders.length then
    throw (.invalidModelCursorError "Model cursor does not match query ordering.")
  else
    let alternatives := (orders.zip values).mapIdx fun index entry =>
      .mk
        (if index = 0 then .and else .or)
        (cursorAlternative orders values position entry.1 entry.2 index)
    pure { plan with
      constraints := plan.constraints ++
        [.mk .and (.group alternatives)] }

/-! ### Pages -/

/-- `MODEL_QUERY_MAX_PAGE_SIZE`. -/
def modelQueryMaxPageSize : ℤ := 1000

/-- `deterministicOrders`: the id decides last. -/
def deterministicOrders (orders : List ModelQueryOrder) : List ModelQueryOrder :=
  if orders.any fun order => order.attr = "id" then orders
  else orders ++ [{ attr := "id", direction := .asc }]

/-- The opposite direction. -/
def ModelQueryOrder.reverse (order : ModelQueryOrder) : ModelQueryOrder :=
  { order with
    direction := if order.direction = .asc then .desc
      else .asc }

structure CursorInput where
  first : ℤ
  after : Option Cursor
  before : Option Cursor

structure ModelCursorPage where
  items : List QueryModel
  nextCursor : Option Cursor
  previousCursor : Option Cursor

/-- The plan of one page: positioned by the cursor, in execution order, one row longer than the
page. -/
def cursorPlan (definition : ModelDefinition) (plan : ModelQueryPlan) (input : CursorInput) :
    Except ModelError ModelQueryPlan := do
  let orders := deterministicOrders plan.orders
  let cursor := input.after.or input.before
  let reverse := input.before.isSome
  let positioned ←
    match cursor with
    | some given =>
      if isGiven cursor then do
        let values ← decodeCursor given definition orders
        addCursorConstraint plan orders values
          (if reverse then .before else .after)
      else pure plan
    | none => pure plan
  return { positioned with
    offset := none
    orders := if reverse then orders.map .reverse else orders
    limit := some (input.first + 1) }

/-- The page made of the rows that were read. -/
def cursorPage (definition : ModelDefinition) (plan : ModelQueryPlan) (input : CursorInput)
    (items : List QueryModel) : ModelCursorPage :=
  let orders := deterministicOrders plan.orders
  let reverse := input.before.isSome
  let hasMore := decide (input.first < items.length)
  let items := if hasMore then items.take input.first.toNat else items
  let items := if reverse then items.reverse else items
  { items := items
    nextCursor :=
      if (!reverse && hasMore) || isGiven input.before then
        items.getLast?.map fun last => encodeCursor definition last orders
      else none
    previousCursor :=
      if (reverse && hasMore) || isGiven input.after then
        items.head?.map fun first => encodeCursor definition first orders
      else none }

/-- **`ModelSession.cursorPaginate`**, over a table held in memory. -/
def cursorPaginate (js : Runtime) (definition : ModelDefinition) (table : List Row)
    (session : ModelSession) (plan : ModelQueryPlan) (input : CursorInput) :
    Except ModelError (ModelCursorPage × ModelSession) := do
  boundedPositiveInteger input.first "Cursor page size" modelQueryMaxPageSize
  if isGiven input.after && isGiven input.before then
    throw (.invalidModelCursorError
      "Cursor pagination accepts either after or before, not both.")
  let positioned ← cursorPlan definition plan input
  let (items, session) ← query js definition table session positioned
  return (cursorPage definition plan input items, session)

/-- The loop of `ModelQuery.cursor`: pages are read until one carries no `nextCursor`.  The result
is `none` when the fuel runs out first. -/
def followNextCursor (js : Runtime) (definition : ModelDefinition) (table : List Row)
    (plan : ModelQueryPlan) (first : ℤ) :
    ℕ → ModelSession → Option Cursor →
      Option (Except ModelError (List ModelCursorPage × ModelSession))
  | 0, _, _ => none
  | fuel + 1, session, after =>
    match cursorPaginate js definition table session plan
        { first := first, after := after, before := none } with
    | .error error => some (.error error)
    | .ok (page, session) =>
      if isGiven page.nextCursor then
        (followNextCursor js definition table plan first fuel session page.nextCursor).map
          fun rest => rest.map fun (pages, session) => (page :: pages, session)
      else some (.ok ([page], session))

end Doxa
