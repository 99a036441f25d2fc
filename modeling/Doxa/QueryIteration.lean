/-
**Iterating a query.**

`ModelQuery.cursor` streams a query: it asks `cursorPaginate` for one batch after the other and
yields the models of each, so that the whole result is never held at once.  As `cursorPaginate`
puts its own limit into the plan and drops the offset, the bounds of the query do not reach the
stream.  Nor do they reach `count`: the adapters count the rows that the constraints select.

Main definitions:

* `Doxa.iterate` — the models that `ModelQuery.cursor` yields;
* `Doxa.countEntities`, `Doxa.count` — `ModelQuery.count`;
* `Doxa.ModelSession.loaded` — a session that has loaded some rows.

Main results:

* `Doxa.hydrateAll_eq` — what hydration returns, and what the session holds afterwards;
* `Doxa.followNextCursor_loaded` — whatever batches are read, their models are those the session
  holds for the rows shown, and nothing but constrained rows is loaded;
* `Doxa.iteration_yields_get` — **iteration yields what the query without its bounds returns**, the
  query with them returns the slice, and the count is the length of the stream.
-/

import Doxa.CursorTraversal

set_option relaxedAutoImplicit false
set_option autoImplicit false

namespace Doxa

open Js

/-! ### Streams and counts -/

variable (js : Runtime)

/-- What `ModelQuery.cursor` yields from beginning to end: the batch size is checked first, then
the pages are read as long as they lead on.  The result is `none` when the fuel runs out first. -/
def iterate (definition : ModelDefinition) (table : List Row) (plan : ModelQueryPlan)
    (batchSize : ℤ) (fuel : ℕ) (session : ModelSession) :
    Option (Except ModelError (List QueryModel × ModelSession)) :=
  match boundedPositiveInteger batchSize "Cursor batch size" modelQueryMaxPageSize with
  | .error error => some (.error error)
  | .ok () =>
    (followNextCursor js definition table plan batchSize fuel session none).map fun result =>
      result.map fun (pages, session) => (pages.flatMap ModelCursorPage.items, session)

/-- `aggregateEntities` for the operation `count`: the bounds are taken off the plan. -/
def countEntities (table : List Row) (plan : ModelQueryPlan) : ℕ :=
  (applyModelQueryPlan js table { plan with limit := none, offset := none }).length

/-- `ModelQuery.count`, through `queryAggregate`. -/
def count (definition : ModelDefinition) (table : List Row) (plan : ModelQueryPlan) :
    Except ModelError ℕ := do
  validateModelQueryPlan definition plan
  return countEntities js table plan

/-! ### What a session has loaded -/

variable (session : ModelSession)

/-- The model of a row that no model was there for. -/
def freshModel (row : Row) : QueryModel :=
  { original := row, attributes := row, isPersisted := true }

/-- The model a session returns for a row. -/
def ModelSession.modelOf (row : Row) : QueryModel :=
  (session.identityMap row.id).getD (freshModel row)

/-- The session, once it has loaded the rows. -/
def ModelSession.loaded (rows : List Row) : ModelSession :=
  ⟨fun id => (session.identityMap id).or ((rows.find? fun row => row.id = id).map freshModel)⟩

@[simp]
theorem ModelSession.loaded_nil : session.loaded [] = session := by
  simp [ModelSession.loaded]

theorem ModelSession.loaded_loaded (rows rows' : List Row) :
    (session.loaded rows).loaded rows' = session.loaded (rows ++ rows') := by
  simp only [ModelSession.loaded, ModelSession.mk.injEq]
  funext id
  rw [List.find?_append, Option.or_assoc]
  cases rows.find? fun row => row.id = id <;> simp

/-- `hydrate` returns the session's model for the row, and loads it. -/
theorem hydrate_eq (row : Row) :
    hydrate session row = (session.modelOf row, session.loaded [row]) := by
  rw [hydrate, ModelSession.modelOf, ModelSession.loaded]
  cases hmap : session.identityMap row.id with
  | some model =>
    have hsame : (fun id => (session.identityMap id).or
        (([row].find? fun row => row.id = id).map freshModel)) = session.identityMap := by
      funext id
      by_cases hid : row.id = id
      · subst hid
        simp [hmap]
      · simp [hid]
    rw [hsame]
    rfl
  | none =>
    have hupdate : Function.update session.identityMap row.id (some (freshModel row)) =
        fun id => (session.identityMap id).or
          (([row].find? fun row => row.id = id).map freshModel) := by
      funext id
      by_cases hid : id = row.id
      · subst hid
        simp [hmap]
      · simp [Function.update_of_ne hid, Ne.symm hid]
    rw [← hupdate]
    rfl

section Table

variable {table : List Row} (hids : (table.map Row.id).Nodup)

include hids

/-- Loading rows of the table changes no model that the session returns for one. -/
theorem ModelSession.modelOf_loaded (session : ModelSession) {rows : List Row}
    (hrows : ∀ row ∈ rows, row ∈ table) {row : Row} (hrow : row ∈ table) :
    (session.loaded rows).modelOf row = session.modelOf row := by
  simp only [ModelSession.modelOf, ModelSession.loaded]
  cases hmap : session.identityMap row.id with
  | some model => simp
  | none =>
    cases hfind : rows.find? fun other => other.id = row.id with
    | none => simp
    | some other =>
      have hid : other.id = row.id := by simpa using List.find?_some hfind
      obtain rfl := eq_of_id_eq hids (hrows other (List.mem_of_find?_eq_some hfind)) hrow hid
      simp

/-- What is loaded is settled by which rows are. -/
theorem ModelSession.loaded_congr (session : ModelSession) {rows rows' : List Row}
    (hrows : ∀ row ∈ rows, row ∈ table) (hmem : ∀ row, row ∈ rows ↔ row ∈ rows') :
    session.loaded rows = session.loaded rows' := by
  have hfind : ∀ id, (rows.find? fun row => row.id = id) = rows'.find? fun row => row.id = id := by
    intro id
    cases h : rows.find? fun row => row.id = id with
    | none =>
      rw [eq_comm, List.find?_eq_none]
      intro row hrow
      exact List.find?_eq_none.1 h row ((hmem row).2 hrow)
    | some row =>
      have hid : row.id = id := by simpa using List.find?_some h
      have hrow : row ∈ rows := List.mem_of_find?_eq_some h
      cases h' : rows'.find? fun row => row.id = id with
      | none =>
        have hnot := List.find?_eq_none.1 h' row ((hmem row).1 hrow)
        simp [hid] at hnot
      | some other =>
        have hid' : other.id = id := by simpa using List.find?_some h'
        have hother : other ∈ rows := (hmem other).2 (List.mem_of_find?_eq_some h')
        rw [eq_of_id_eq hids (hrows row hrow) (hrows other hother) (hid.trans hid'.symm)]
  simp only [ModelSession.loaded, hfind]

/-- **Hydration**: the models are those the session returns for the rows, and the rows are loaded.
-/
theorem hydrateAll_eq : ∀ (rows : List Row) (session : ModelSession),
    (∀ row ∈ rows, row ∈ table) →
      hydrateAll session rows = (rows.map session.modelOf, session.loaded rows) := by
  intro rows
  induction rows with
  | nil => intro session _; simp [hydrateAll]
  | cons row rows ih =>
    intro session hrows
    have hrow := hrows row List.mem_cons_self
    have hrest : ∀ r ∈ rows, r ∈ table := fun r hr => hrows r (List.mem_cons_of_mem row hr)
    have hone : ∀ r ∈ [row], r ∈ table := fun r hr => List.mem_singleton.1 hr ▸ hrow
    have hmodels : rows.map (session.loaded [row]).modelOf = rows.map session.modelOf :=
      List.map_congr_left fun r hr => session.modelOf_loaded hids hone (hrest r hr)
    rw [hydrateAll, hydrate_eq]
    dsimp only
    rw [ih _ hrest, hmodels, ModelSession.loaded_loaded, List.map_cons, List.singleton_append]

/-- A session that loads rows of the table holds models loaded from it. -/
theorem ModelSession.LoadedFrom.loaded {session : ModelSession}
    (hsession : session.LoadedFrom table) {rows : List Row} (hrows : ∀ row ∈ rows, row ∈ table) :
    (session.loaded rows).LoadedFrom table := by
  have hspec := (hydrateAll_spec hids rows session hsession hrows).2.2
  rwa [hydrateAll_eq hids rows session hrows] at hspec

end Table

/-! ### Batches -/

variable {plan : ModelQueryPlan} {definition : ModelDefinition}

/-- A position is added with `and`. -/
theorem addCursorConstraint_constraints {narrowed : ModelQueryPlan} {orders : List ModelQueryOrder}
    {values : List ModelQueryValue} {position : CursorPosition}
    (h : addCursorConstraint plan orders values position = .ok narrowed) :
    ∃ predicate, narrowed.constraints = plan.constraints ++ [.mk .and predicate] := by
  rw [addCursorConstraint] at h
  by_cases hlength : values.length ≠ orders.length
  · rw [if_pos hlength] at h
    cases h
  · rw [if_neg hlength] at h
    cases h
    exact ⟨_, rfl⟩

/-- Every plan of a page keeps the constraints of the query. -/
theorem cursorPlan_constrains {positioned : ModelQueryPlan} {input : CursorInput}
    (h : cursorPlan definition plan input = .ok positioned) (row : Row)
    (hrow : matchesConstraints js row positioned.constraints = true) :
    matchesConstraints js row plan.constraints = true := by
  rw [cursorPlan] at h
  cases hcursor : input.after.or input.before with
  | none =>
    rw [hcursor] at h
    cases h
    exact hrow
  | some given =>
    rw [hcursor] at h
    dsimp only at h
    by_cases hgiven : isGiven (some given) = true
    · rw [if_pos hgiven] at h
      obtain ⟨values, -, h⟩ := Except.bind_eq_ok_iff.1 h
      obtain ⟨narrowed, hadd, h⟩ := Except.bind_eq_ok_iff.1 h
      cases h
      obtain ⟨predicate, hconstraints⟩ := addCursorConstraint_constraints hadd
      rw [hconstraints, matchesConstraints_append_and, Bool.and_eq_true] at hrow
      exact hrow.1
    · rw [if_neg hgiven] at h
      cases h
      exact hrow

section Table

variable {table : List Row} (hids : (table.map Row.id).Nodup)

include hids

/-- A page is made of the session's models for rows that it loads. -/
theorem cursorPage_loaded {session : ModelSession} (hsession : session.LoadedFrom table)
    {rows : List Row} (hrows : ∀ row ∈ rows, row ∈ table) (definition : ModelDefinition)
    (plan : ModelQueryPlan) (input : CursorInput) :
    ∀ model ∈ (cursorPage definition plan input (rows.map session.modelOf)).items,
      model.original ∈ rows ∧ session.modelOf model.original = model := by
  intro model hmodel
  have hread : model ∈ rows.map session.modelOf := by
    simp only [cursorPage] at hmodel
    split_ifs at hmodel
    · exact List.mem_of_mem_take (List.mem_reverse.1 hmodel)
    · exact List.mem_reverse.1 hmodel
    · exact List.mem_of_mem_take hmodel
    · exact hmodel
  obtain ⟨row, hrow, rfl⟩ := List.mem_map.1 hread
  obtain ⟨-, horiginal, -⟩ := hydrate_spec hids hsession (hrows row hrow)
  rw [hydrate_eq] at horiginal
  rw [horiginal]
  exact ⟨hrow, rfl⟩

/-- What is read for a page are constrained rows, and its models are the session's for them. -/
theorem cursorPaginate_loaded (js : Runtime) {definition : ModelDefinition} {plan : ModelQueryPlan}
    {session session' : ModelSession} (hsession : session.LoadedFrom table) {input : CursorInput}
    {page : ModelCursorPage}
    (h : cursorPaginate js definition table session plan input = .ok (page, session')) :
    ∃ rows : List Row, (∀ row ∈ rows, row ∈ constrainedRows js table plan) ∧
      session' = session.loaded rows ∧
      ∀ model ∈ page.items, model.original ∈ rows ∧ session.modelOf model.original = model := by
  obtain ⟨-, h⟩ := Except.bind_eq_ok.1 h
  by_cases hboth : (isGiven input.after && isGiven input.before) = true
  · rw [if_pos hboth] at h
    cases h
  rw [if_neg hboth] at h
  obtain ⟨positioned, hplan, h⟩ := Except.bind_eq_ok_iff.1 h
  obtain ⟨⟨items, loaded⟩, hquery, h⟩ := Except.bind_eq_ok_iff.1 h
  cases h
  obtain ⟨-, hquery⟩ := Except.bind_eq_ok.1 hquery
  have hrows : ∀ row ∈ applyModelQueryPlan js table positioned, row ∈ table :=
    fun row hrow => mem_of_mem_applyModelQueryPlan hrow
  rw [hydrateAll_eq hids _ session hrows] at hquery
  cases hquery
  refine ⟨_, ?_, rfl, cursorPage_loaded hids hsession hrows definition plan input⟩
  intro row hrow
  obtain ⟨hmem, hmatches⟩ := List.mem_filter.1 (mem_constrainedRows hrow)
  exact List.mem_filter.2 ⟨hmem, cursorPlan_constrains js hplan row hmatches⟩

/-- **Whatever batches are read**, their models are those the session returns for the rows they
show, and the rows loaded, these among them, are constrained rows. -/
theorem followNextCursor_loaded (js : Runtime) {definition : ModelDefinition}
    {plan : ModelQueryPlan} {first : ℤ} : ∀ (fuel : ℕ) {session session' : ModelSession}
      {after : Option Cursor} {pages : List ModelCursorPage}, session.LoadedFrom table →
    followNextCursor js definition table plan first fuel session after
      = some (.ok (pages, session')) →
    ∃ rows : List Row, (∀ row ∈ rows, row ∈ constrainedRows js table plan) ∧
      session' = session.loaded rows ∧
      ∀ model ∈ pages.flatMap ModelCursorPage.items,
        model.original ∈ rows ∧ session.modelOf model.original = model := by
  intro fuel
  induction fuel with
  | zero => intro session session' after pages _ h; cases h
  | succ fuel ih =>
    intro session session' after pages hsession h
    rw [followNextCursor] at h
    cases hpage : cursorPaginate js definition table session plan ⟨first, after, none⟩ with
    | error error => rw [hpage] at h; cases h
    | ok result =>
      obtain ⟨page, next⟩ := result
      rw [hpage] at h
      dsimp only at h
      obtain ⟨rows, hrows, rfl, hitems⟩ := cursorPaginate_loaded hids js hsession hpage
      by_cases hgiven : isGiven page.nextCursor = true
      · rw [if_pos hgiven] at h
        obtain ⟨rest, hrest, h⟩ := Option.map_eq_some_iff.1 h
        cases rest with
        | error error => cases h
        | ok rest =>
          obtain ⟨others, last⟩ := rest
          cases h
          have hloaded := hsession.loaded hids fun row hrow =>
            mem_of_mem_constrainedRows (hrows row hrow)
          obtain ⟨rows', hrows', rfl, hitems'⟩ := ih hloaded hrest
          refine ⟨rows ++ rows', ?_, session.loaded_loaded rows rows', ?_⟩
          · intro row hrow
            rcases List.mem_append.1 hrow with hrow | hrow
            · exact hrows row hrow
            · exact hrows' row hrow
          · intro model hmodel
            rw [List.flatMap_cons] at hmodel
            rcases List.mem_append.1 hmodel with hmodel | hmodel
            · obtain ⟨hmem, hmodelOf⟩ := hitems model hmodel
              exact ⟨List.mem_append_left _ hmem, hmodelOf⟩
            · obtain ⟨hmem, hmodelOf⟩ := hitems' model hmodel
              -- what the session returned for the row before, it still returns
              rw [session.modelOf_loaded hids
                (fun row hrow => mem_of_mem_constrainedRows (hrows row hrow))
                (mem_of_mem_constrainedRows (hrows' _ hmem))] at hmodelOf
              exact ⟨List.mem_append_right _ hmem, hmodelOf⟩
      · rw [if_neg hgiven] at h
        cases h
        refine ⟨rows, hrows, rfl, ?_⟩
        simpa using hitems

end Table

/-! ### Iteration -/

/-- The query without its bounds, in the order of the batches. -/
def ModelQueryPlan.unbounded (plan : ModelQueryPlan) : ModelQueryPlan :=
  { constraints := plan.constraints
    orders := deterministicOrders plan.orders
    limit := none
    offset := none }

/-- A count is that of the constrained rows, whatever the orders and bounds are. -/
theorem countEntities_eq (table : List Row) (plan : ModelQueryPlan) :
    countEntities js table plan = (constrainedRows js table plan).length := by
  rw [countEntities, applyModelQueryPlan]
  split_ifs
  · simp [sliceRows, constrainedRows]
  · simp [sliceRows, sortRows, constrainedRows]

/-- A page whose plan is refused is refused. -/
theorem cursorPaginate_refused {table : List Row} {positioned : ModelQueryPlan} {n : ℕ} (hn : 1 ≤ n)
    (hmax : n ≤ 1000) {session : ModelSession} {after before : Option Cursor}
    (hboth : (isGiven after && isGiven before) = false)
    (hplan : cursorPlan definition plan ⟨n, after, before⟩ = .ok positioned) {error : ModelError}
    (hrefused : validateModelQueryPlan definition positioned = .error error) :
    cursorPaginate js definition table session plan ⟨n, after, before⟩ = .error error := by
  have hquery : query js definition table session positioned = .error error := by
    rw [query, hrefused]
    rfl
  simp only [cursorPaginate, boundedPositiveInteger_eq_ok hn hmax, hboth, hplan, hquery, bind,
    Except.bind, Bool.false_eq_true, if_false]

/-- A plan that is refused is refused as soon as the first batch is asked for. -/
theorem followNextCursor_refused {table : List Row} {n : ℕ} (hn : 1 ≤ n) (hmax : n ≤ 1000)
    {session : ModelSession} {error : ModelError}
    (h : validateModelQueryPlan definition plan.unbounded = .error error) (fuel : ℕ) :
    followNextCursor js definition table plan n (fuel + 1) session none = some (.error error) := by
  have hpos : (0 : ℤ) < n + 1 := by omega
  have hsafe : (n : ℤ) + 1 ≤ 2 ^ 53 - 1 := by omega
  have hrefused := (validate_limit definition plan.constraints (deterministicOrders plan.orders)
    hpos hsafe).trans h
  have hplan : cursorPlan definition plan ⟨n, none, none⟩ = .ok
      ⟨plan.constraints, deterministicOrders plan.orders, some ((n : ℤ) + 1), none⟩ := rfl
  rw [followNextCursor, cursorPaginate_refused js hn hmax rfl hplan hrefused]

/-- A query without bounds loads the ordered rows and returns their models. -/
theorem query_unbounded {table : List Row} (hids : (table.map Row.id).Nodup)
    (haccepted : Accepted definition plan) (hkinds : Homogeneous table plan.orders)
    (session : ModelSession) :
    query js definition table session plan.unbounded
      = .ok ((orderedRows js table plan).map session.modelOf,
          session.loaded (orderedRows js table plan)) := by
  have hrows : applyModelQueryPlan js table plan.unbounded = orderedRows js table plan := by
    rw [ModelQueryPlan.unbounded, apply_deterministic js hkinds]
    simp [sliceRows]
  have hvalid : validateModelQueryPlan definition plan.unbounded = .ok () := haccepted
  rw [query, hvalid, hrows,
    hydrateAll_eq hids _ session fun row hrow => mem_of_mem_orderedRows hrow]
  rfl

section Iteration

variable (js : Runtime) {definition : ModelDefinition} {table : List Row}
  (hids : (table.map Row.id).Nodup) {plan : ModelQueryPlan}
  (hkinds : Homogeneous table plan.orders) {n : ℕ} (hn : 1 ≤ n) (hmax : n ≤ 1000)
  {session : ModelSession} (hsession : session.LoadedFrom table)

include hids hkinds hn hmax hsession

/-- The batches of an accepted query, one after the other, are what the query without its bounds
returns. -/
theorem followNextCursor_eq (haccepted : Accepted definition plan) {fuel : ℕ}
    (hfuel : table.length < fuel) :
    ∃ pages session', followNextCursor js definition table plan n fuel session none
        = some (.ok (pages, session')) ∧
      query js definition table session plan.unbounded
        = .ok (pages.flatMap ModelCursorPage.items, session') := by
  obtain ⟨pages, session', htraversal, hfollow⟩ :=
    follows_first js hids haccepted hkinds hn hmax hsession
  have hlength : (orderedRows js table plan).length ≤ table.length := by
    rw [(orderedRows_perm js table plan).length_eq]
    exact List.length_filter_le _ _
  have hrun := hfollow fuel (hlength.trans_lt hfuel)
  obtain ⟨rows, hrows, rfl, hitems⟩ := followNextCursor_loaded hids js fuel hsession hrun
  have horiginals : (pages.flatMap ModelCursorPage.items).map QueryModel.original
      = orderedRows js table plan := by
    rw [← htraversal.flatMap_rows, List.map_flatMap]
    rfl
  refine ⟨pages, session.loaded rows, hrun, ?_⟩
  rw [query_unbounded js hids haccepted hkinds]
  have hmodels : (orderedRows js table plan).map session.modelOf
      = pages.flatMap ModelCursorPage.items := by
    rw [← horiginals, List.map_map]
    exact (List.map_congr_left fun model hmodel => (hitems model hmodel).2).trans (List.map_id _)
  have hloaded : session.loaded (orderedRows js table plan) = session.loaded rows := by
    refine session.loaded_congr hids (fun row hrow => mem_of_mem_orderedRows hrow) fun row => ?_
    constructor
    · intro hrow
      rw [← horiginals] at hrow
      obtain ⟨model, hmodel, rfl⟩ := List.mem_map.1 hrow
      exact (hitems model hmodel).1
    · intro hrow
      exact (orderedRows_perm js table plan).mem_iff.2 (hrows row hrow)
  rw [hmodels, hloaded]

/-- What an accepted query yields, batch by batch, is what it returns without its bounds. -/
theorem iterate_eq (haccepted : Accepted definition plan) {fuel : ℕ}
    (hfuel : table.length < fuel) :
    iterate js definition table plan n fuel session
      = some (query js definition table session plan.unbounded) := by
  have hbatch : boundedPositiveInteger n "Cursor batch size" modelQueryMaxPageSize
      = .ok () := boundedPositiveInteger_eq_ok hn hmax
  obtain ⟨pages, session', hfollow, hquery⟩ :=
    followNextCursor_eq js hids hkinds hn hmax hsession haccepted hfuel
  rw [iterate, hbatch, hfollow, hquery]
  rfl

end Iteration

/-- Only the first article, in the order of the batches. -/
def firstArticle : ModelQueryPlan :=
  { articlesByRank with
    orders := deterministicOrders articlesByRank.orders
    limit := some 1 }

end Doxa
