/-
**Cursor traversal is exact.**

An application reads a long list page by page: it asks for the first page, and then, as long as a
page carries one, for the page behind its `nextCursor`.  Nothing is remembered in between but the
cursor, so each page stands on its own: the position is turned into constraints, and the plan that
results is filtered, sorted and cut like any other.  Over a table that does not change, the pages
are nevertheless exactly the chunks of the sorted rows.

The argument has three parts.  The rows are strictly increasing in the order of the pages, since the
id decides last; so the rows behind a row of the list are those the constraint selects, and sorting
what was selected gives the tail of the list again (`apply_after`, and `apply_before` for the
reversed orders).  Every plan a cursor gives rise to passes the checks the original plan passed.
And a traversal takes the list apart page by page, by induction on what is left.

Page sizes above the maximum, and plans with an unknown attribute or with an order by a duration,
are refused with an error.

Main definitions:

* `Doxa.ModelSession.LoadedFrom` — the models the session holds are those of the table;
* `Doxa.Accepted` — the plan passes the checks;
* `Doxa.orderedRows` — the rows a plan selects, in the order of the pages;
* `Doxa.IsPage`, `Doxa.Traversal` — what one page and a whole traversal show.

Main results:

* `Doxa.apply_after`, `Doxa.apply_before` — **what a page reads** is one end of a part of the list;
* `Doxa.cursorPaginate_after`, `Doxa.cursorPaginate_before` — one page;
* `Doxa.cursorPaginate_exact` — **the traversal is exact, in both directions**.
-/

import Doxa.CursorPosition

set_option relaxedAutoImplicit false
set_option autoImplicit false

namespace Doxa

open Js

/-! ### Accepted plans -/

variable (definition : ModelDefinition) {orders : List ModelQueryOrder}

/-- A plan without bounds is accepted when its orders and its constraints are. -/
theorem validate_unbounded_iff (constraints : List ModelQueryConstraint)
    (orders : List ModelQueryOrder) :
    validateModelQueryPlan definition ⟨constraints, orders, none, none⟩ = .ok () ↔
      (∀ order ∈ orders, validateOrder definition order = .ok ()) ∧
        validateConstraints definition constraints = .ok () := by
  rw [validateModelQueryPlan_eq_ok_iff, validateConstraints_eq_ok_iff]
  simp

/-- A positive limit makes no difference to whether a plan is accepted. -/
theorem validate_limit (constraints : List ModelQueryConstraint) (orders : List ModelQueryOrder)
    {limit : ℤ} (hpos : 0 < limit) (hmax : limit ≤ 2 ^ 53 - 1) :
    validateModelQueryPlan definition ⟨constraints, orders, some limit, none⟩
      = validateModelQueryPlan definition ⟨constraints, orders, none, none⟩ := by
  have hlimit : positiveInteger limit "Query limit" = .ok () := by
    have hsafe : isSafeInteger limit = true := by
      simp only [isSafeInteger, decide_eq_true_eq]
      omega
    rw [positiveInteger, hsafe, decide_eq_false (by omega)]
    rfl
  simp only [validateModelQueryPlan, hlimit]
  rfl

/-- An order that is accepted may also be used in comparisons of any kind. -/
theorem validateOrder_eq_ok_iff (order : ModelQueryOrder) :
    validateOrder definition order = .ok () ↔
      validateAttribute order.attr definition.attributes = .ok () ∧
        definition.attributeTypes order.attr ≠ some .duration := by
  rw [validateOrder, Except.bind_eq_ok]
  refine and_congr_right fun _ => ?_
  rw [rejectDurationOperation]
  split_ifs with h
  · simp [h]
  · simp [h, pure, Except.pure]

theorem validate_cursorEqual {definition : ModelDefinition} {order : ModelQueryOrder}
    (h : validateOrder definition order = .ok ()) (value : ModelQueryValue) :
    validatePredicate definition (cursorEqualPredicate order value) = .ok () := by
  obtain ⟨hattr, -⟩ := (validateOrder_eq_ok_iff definition order).1 h
  rw [cursorEqualPredicate]
  split_ifs
  · rwa [validatePredicate]
  · rw [validatePredicate, Except.bind_eq_ok]
    exact ⟨hattr, rfl⟩

theorem validate_cursorPosition {definition : ModelDefinition} {order : ModelQueryOrder}
    (h : validateOrder definition order = .ok ()) (value : ModelQueryValue)
    (position : CursorPosition) :
    validatePredicate definition (cursorPositionPredicate order value position)
      = .ok () := by
  obtain ⟨hattr, hkind⟩ := (validateOrder_eq_ok_iff definition order).1 h
  have hcomparison : ∀ operator, validatePredicate definition
      (.comparison order.attr operator value) = .ok () := by
    intro operator
    rw [validatePredicate, Except.bind_eq_ok]
    refine ⟨hattr, ?_⟩
    rw [rejectDurationOperation, if_neg hkind]
    split_ifs <;> rfl
  have hnull : ∀ negate, validatePredicate definition
      (.null order.attr negate) = .ok () := by
    intro negate
    rwa [validatePredicate]
  have hgroup : ∀ operator, validatePredicate definition
      (.group
        [.mk .and
            (.comparison order.attr operator value),
          .mk .or
            (.null order.attr false)]) = .ok () := by
    intro operator
    rw [validatePredicate, validateConstraints_eq_ok_iff]
    simp [ModelQueryConstraint.predicate, hcomparison, hnull]
  have hnone : validatePredicate definition
      (.membership order.attr [] false) = .ok () := by
    rwa [validatePredicate]
  rw [cursorPositionPredicate]
  dsimp only
  split_ifs <;> first | exact hnull _ | exact hnone | exact hgroup _ | exact hcomparison _

/-- **The constraint a cursor adds is accepted** when the orders are. -/
theorem validate_cursorAlternatives {definition : ModelDefinition}
    (h : ∀ order ∈ orders, validateOrder definition order = .ok ()) (x : Row)
    (position : CursorPosition) :
    validatePredicate definition (.group (cursorAlternatives orders x position)) = .ok () := by
  rw [validatePredicate, validateConstraints_eq_ok_iff]
  intro c hc
  obtain ⟨i, hi, rfl⟩ := List.mem_mapIdx.1 hc
  have hentry : ((orders.zip (orders.map (cursorValue x)))[i]).1 ∈ orders :=
    (List.of_mem_zip (List.getElem_mem hi)).1
  rw [ModelQueryConstraint.predicate, cursorAlternative, validatePredicate,
    validateConstraints_eq_ok_iff]
  intro c hc
  rcases List.mem_append.1 hc with hc | hc
  · obtain ⟨previous, hprevious, rfl⟩ := List.mem_map.1 hc
    have hmem : previous.1 ∈ orders := (List.of_mem_zip (List.mem_of_mem_take hprevious)).1
    exact validate_cursorEqual (h _ hmem) _
  · rw [List.mem_singleton.1 hc]
    exact validate_cursorPosition (h _ hentry) _ _

/-! ### Sessions over an unchanged table -/

variable {table : List Row} {row : Row}

/-- The models the session holds for rows of the table were loaded from it as it is. -/
def ModelSession.LoadedFrom (table : List Row) (session : ModelSession) : Prop :=
  ∀ row ∈ table, ∀ model, session.identityMap row.id = some model →
    model.isPersisted = true ∧ model.original = row

theorem ModelSession.new_loadedFrom (table : List Row) : ModelSession.new.LoadedFrom table := by
  intro row _ model h
  cases h

/-- Rows with distinct ids are told apart by them. -/
theorem eq_of_id_eq (hids : (table.map Row.id).Nodup) {x y : Row} (hx : x ∈ table) (hy : y ∈ table)
    (h : x.id = y.id) : x = y :=
  List.inj_on_of_nodup_map hids hx hy h

/-- Hydrating a row gives a model that was loaded from it. -/
theorem hydrate_spec (hids : (table.map Row.id).Nodup) {session : ModelSession}
    (hs : session.LoadedFrom table) (hrow : row ∈ table) :
    (hydrate session row).1.isPersisted = true ∧ (hydrate session row).1.original = row ∧
      (hydrate session row).2.LoadedFrom table := by
  rw [hydrate]
  cases hmap : session.identityMap row.id with
  | some model =>
    obtain ⟨hp, ho⟩ := hs row hrow model hmap
    exact ⟨hp, ho, hs⟩
  | none =>
    refine ⟨rfl, rfl, ?_⟩
    intro other hother model hmodel
    dsimp only at hmodel
    by_cases hid : other.id = row.id
    · obtain rfl := eq_of_id_eq hids hother hrow hid
      rw [Function.update_self, Option.some.injEq] at hmodel
      subst hmodel
      exact ⟨rfl, rfl⟩
    · rw [Function.update_of_ne hid] at hmodel
      exact hs other hother model hmodel

/-- Hydrating rows gives the models that were loaded from them, in the same order. -/
theorem hydrateAll_spec (hids : (table.map Row.id).Nodup) :
    ∀ (rows : List Row) (session : ModelSession), session.LoadedFrom table →
      (∀ row ∈ rows, row ∈ table) →
      (∀ model ∈ (hydrateAll session rows).1, model.isPersisted = true) ∧
        (hydrateAll session rows).1.map QueryModel.original = rows ∧
        (hydrateAll session rows).2.LoadedFrom table := by
  intro rows
  induction rows with
  | nil => intro session hs _; exact ⟨by simp [hydrateAll], rfl, hs⟩
  | cons row rows ih =>
    intro session hs hrows
    obtain ⟨hp, ho, hs'⟩ := hydrate_spec hids hs (hrows row List.mem_cons_self)
    obtain ⟨hps, hos, hs''⟩ := ih _ hs' fun r hr => hrows r (List.mem_cons_of_mem row hr)
    refine ⟨?_, ?_, hs''⟩
    · intro model hmodel
      rcases List.mem_cons.1 hmodel with rfl | hmodel
      · exact hp
      · exact hps model hmodel
    · rw [hydrateAll, List.map_cons, ho, hos]

/-! ### The rows of a page -/

variable (js : Runtime) {plan : ModelQueryPlan}

/-- The rows the plan's constraints select. -/
def constrainedRows (table : List Row) (plan : ModelQueryPlan) : List Row :=
  table.filter fun row => matchesConstraints js row plan.constraints

/-- The rows the plan selects, in the order of the pages. -/
def orderedRows (table : List Row) (plan : ModelQueryPlan) : List Row :=
  (constrainedRows js table plan).mergeSort
    fun left right => (keyCompare (deterministicOrders plan.orders) left right).isLE

theorem mem_of_mem_constrainedRows {js : Runtime} (h : row ∈ constrainedRows js table plan) :
    row ∈ table :=
  List.mem_of_mem_filter h

theorem orderedRows_perm (table : List Row) (plan : ModelQueryPlan) :
    (orderedRows js table plan).Perm (constrainedRows js table plan) :=
  List.mergeSort_perm _ _

theorem mem_of_mem_orderedRows {js : Runtime} (h : row ∈ orderedRows js table plan) : row ∈ table :=
  mem_of_mem_constrainedRows ((orderedRows_perm js table plan).mem_iff.1 h)

/-- The id is among the orders. -/
theorem exists_id_mem_deterministicOrders (orders : List ModelQueryOrder) :
    ∃ order ∈ deterministicOrders orders, order.attr = "id" := by
  rw [deterministicOrders]
  split_ifs with h
  · simpa using h
  · exact ⟨_, List.mem_append_right _ (List.mem_singleton_self _), rfl⟩

theorem deterministicOrders_ne_nil (orders : List ModelQueryOrder) :
    deterministicOrders orders ≠ [] := by
  obtain ⟨order, horder, -⟩ := exists_id_mem_deterministicOrders orders
  exact List.ne_nil_of_mem horder

theorem Homogeneous.deterministicOrders (h : Homogeneous table orders) :
    Homogeneous table (deterministicOrders orders) := by
  intro order horder
  rw [Doxa.deterministicOrders] at horder
  split_ifs at horder with hid
  · exact h order horder
  · rcases List.mem_append.1 horder with horder | horder
    · exact h order horder
    · rw [List.mem_singleton.1 horder]
      exact ⟨.string, fun row _ => .inr rfl⟩

theorem Homogeneous.reverse (h : Homogeneous table orders) :
    Homogeneous table (orders.map .reverse) := by
  intro order horder
  obtain ⟨original, horiginal, rfl⟩ := List.mem_map.1 horder
  exact h original horiginal

/-- Distinct rows never tie, because their ids do not. -/
theorem keyCompare_ne_eq (hids : (table.map Row.id).Nodup) (orders : List ModelQueryOrder)
    {x y : Row} (hx : x ∈ table) (hy : y ∈ table) (hne : x ≠ y) :
    keyCompare (deterministicOrders orders) x y ≠ Ordering.eq := by
  intro h
  obtain ⟨order, horder, hid⟩ := exists_id_mem_deterministicOrders orders
  have htie := (Lex.lexCmp_eq_eq_iff _ _ _).1 h _ (List.mem_map_of_mem horder)
  have hkey : compareKey (x.get "id") = compareKey (y.get "id") := by
    rw [← hid]
    obtain ⟨attr, direction⟩ := order
    cases direction with
    | asc => exact compare_eq_iff_eq.1 htie
    | desc => exact (compare_eq_iff_eq.1 htie).symm
  have hid : x.id = y.id := by
    simpa [compareKey, comparableValue, primitiveKey] using hkey
  exact hne (eq_of_id_eq hids hx hy hid)

/-- **The ordered rows are strictly increasing.** -/
theorem strict_orderedRows (hids : (table.map Row.id).Nodup) (plan : ModelQueryPlan) :
    Lex.Strict (keyCompare (deterministicOrders plan.orders)) (orderedRows js table plan) := by
  refine Lex.strict_mergeSort ?_
  have hnodup : (constrainedRows js table plan).Nodup := hids.of_map.filter _
  refine hnodup.pairwise_of_forall_ne fun x hx y hy hne => ?_
  exact keyCompare_ne_eq hids plan.orders (mem_of_mem_constrainedRows hx)
    (mem_of_mem_constrainedRows hy) hne

/-- Sorting rows of a homogeneous table sorts them by their keys. -/
theorem sortRows_eq (h : Homogeneous table orders) {rows : List Row}
    (hrows : ∀ row ∈ rows, row ∈ table) :
    sortRows js orders rows
      = rows.mergeSort fun left right => (keyCompare orders left right).isLE := by
  have hmap := List.map_mergeSort (f := id) (l := rows)
    (r := fun left right => (compareRows js orders left right).isLE)
    (s := fun left right => (keyCompare orders left right).isLE)
    (fun a ha b hb => by rw [compareRows_eq_keyCompare js h (hrows a ha) (hrows b hb)]; rfl)
  simpa only [sortRows, List.map_id] using hmap

/-- The plan of a page, positioned behind or in front of a row. -/
def positionedPlan (plan : ModelQueryPlan) (x : Row) (position : CursorPosition) (limit : ℤ) :
    ModelQueryPlan :=
  let orders := deterministicOrders plan.orders
  { constraints := plan.constraints ++ [.mk .and
      (.group (cursorAlternatives orders x position))]
    orders := if position = .before then orders.map .reverse
      else orders
    limit := some limit
    offset := none }

/-- The rows a plan positioned behind a row selects are those of the plan behind it. -/
theorem filter_after (hkinds : Homogeneous table plan.orders) {x : Row} (hx : x ∈ table)
    (limit : ℤ) :
    table.filter (fun row => matchesConstraints js row
        (positionedPlan plan x .after limit).constraints)
      = (constrainedRows js table plan).filter fun row =>
          keyCompare (deterministicOrders plan.orders) x row = Ordering.lt := by
  rw [constrainedRows, List.filter_filter]
  refine List.filter_congr fun row hrow => ?_
  rw [positionedPlan, matchesConstraints_append_and, matchesPredicate, Bool.and_comm,
    Bool.eq_iff_iff, Bool.and_eq_true, Bool.and_eq_true, decide_eq_true_iff,
    matches_cursorAlternatives_iff js hkinds.deterministicOrders
      (deterministicOrders_ne_nil _) hx hrow, positionCompare_after]

/-- The rows a plan positioned in front of a row selects are those of the plan in front of it. -/
theorem filter_before (hkinds : Homogeneous table plan.orders) {x : Row} (hx : x ∈ table)
    (limit : ℤ) :
    table.filter (fun row => matchesConstraints js row
        (positionedPlan plan x .before limit).constraints)
      = (constrainedRows js table plan).filter fun row =>
          keyCompare (deterministicOrders plan.orders) x row = Ordering.gt := by
  rw [constrainedRows, List.filter_filter]
  refine List.filter_congr fun row hrow => ?_
  rw [positionedPlan, matchesConstraints_append_and, matchesPredicate, Bool.and_comm,
    Bool.eq_iff_iff, Bool.and_eq_true, Bool.and_eq_true, decide_eq_true_iff,
    matches_cursorAlternatives_iff js hkinds.deterministicOrders
      (deterministicOrders_ne_nil _) hx hrow, positionCompare_before, Ordering.swap_eq_lt]

/-- Ordering by the id last, what is read is a slice of the ordered rows. -/
theorem apply_deterministic (hkinds : Homogeneous table plan.orders) (limit offset : Option ℤ) :
    applyModelQueryPlan js table
        ⟨plan.constraints, deterministicOrders plan.orders, limit, offset⟩
      = sliceRows limit offset (orderedRows js table plan) := by
  have hsort := sortRows_eq js hkinds.deterministicOrders
    fun row (hrow : row ∈ constrainedRows js table plan) => mem_of_mem_constrainedRows hrow
  have hne : (deterministicOrders plan.orders).isEmpty = false := by
    simp [deterministicOrders_ne_nil]
  rw [applyModelQueryPlan]
  change sliceRows _ _ (if (deterministicOrders plan.orders).isEmpty then
    constrainedRows js table plan else
      sortRows js (deterministicOrders plan.orders) (constrainedRows js table plan)) = _
  rw [hne, hsort]
  rfl

/-- What the first page reads. -/
theorem apply_first (hkinds : Homogeneous table plan.orders) (limit : ℕ) :
    applyModelQueryPlan js table
        ⟨plan.constraints, deterministicOrders plan.orders, some (limit : ℤ), none⟩
      = (orderedRows js table plan).take limit := by
  rw [apply_deterministic js hkinds]
  simp [sliceRows]

section Rows

variable (js : Runtime) {table : List Row} (hids : (table.map Row.id).Nodup)
  {plan : ModelQueryPlan} (hkinds : Homogeneous table plan.orders)

include hids hkinds

/-- **The rows behind a row**: what a page after a cursor reads. -/
theorem apply_after {front rest : List Row} {x : Row}
    (hsplit : orderedRows js table plan = front ++ x :: rest) (limit : ℕ) :
    applyModelQueryPlan js table (positionedPlan plan x .after limit)
      = rest.take limit := by
  have hordered : x ∈ orderedRows js table plan := by simp [hsplit]
  have hx := mem_of_mem_orderedRows hordered
  have hstrict := strict_orderedRows js hids plan
  have hne : (deterministicOrders plan.orders).isEmpty = false := by
    simp [deterministicOrders_ne_nil]
  have hsort := Lex.mergeSort_eq_filter hstrict (orderedRows_perm js table plan)
    fun row => keyCompare (deterministicOrders plan.orders) x row = Ordering.lt
  rw [applyModelQueryPlan, filter_after js hkinds hx]
  change sliceRows _ _ (if (deterministicOrders plan.orders).isEmpty then _ else
    sortRows js (deterministicOrders plan.orders) _) = _
  rw [hne, if_neg (by decide), sortRows_eq js hkinds.deterministicOrders
    (fun row hrow => mem_of_mem_constrainedRows (List.mem_of_mem_filter hrow)), hsort]
  rw [hsplit] at hstrict ⊢
  rw [Lex.filter_after hstrict]
  simp [sliceRows, positionedPlan]

/-- **The rows in front of a row**, nearest first: what a page before a cursor reads. -/
theorem apply_before {front rest : List Row} {x : Row}
    (hsplit : orderedRows js table plan = front ++ x :: rest) (limit : ℕ) :
    applyModelQueryPlan js table (positionedPlan plan x .before limit)
      = front.reverse.take limit := by
  have hordered : x ∈ orderedRows js table plan := by simp [hsplit]
  have hx := mem_of_mem_orderedRows hordered
  have hstrict := strict_orderedRows js hids plan
  have hne : ((deterministicOrders plan.orders).map ModelQueryOrder.reverse).isEmpty = false := by
    simp [deterministicOrders_ne_nil]
  have hsort := Lex.mergeSort_eq_reverse hstrict (orderedRows_perm js table plan)
    fun row => keyCompare (deterministicOrders plan.orders) x row = Ordering.gt
  rw [applyModelQueryPlan, filter_before js hkinds hx]
  change sliceRows _ _ (if ((deterministicOrders plan.orders).map
    ModelQueryOrder.reverse).isEmpty then _ else
      sortRows js ((deterministicOrders plan.orders).map .reverse) _) = _
  rw [hne, if_neg (by decide), sortRows_eq js hkinds.deterministicOrders.reverse
    (fun row hrow => mem_of_mem_constrainedRows (List.mem_of_mem_filter hrow))]
  simp only [keyCompare_reverse]
  rw [hsort]
  rw [hsplit] at hstrict ⊢
  rw [Lex.filter_before hstrict]
  simp [sliceRows, positionedPlan]

end Rows

/-! ### Pages -/

/-- The cursor of a row. -/
def rowCursor (orders : List ModelQueryOrder) (row : Row) : Cursor :=
  .document
    { version := 2
      model := definition.id
      ordering := orders
      values := orders.map (cursorValue row) }

/-- A model loaded from a row has the cursor of the row, even when it has been changed since. -/
theorem encodeCursor_eq (orders : List ModelQueryOrder) {model : QueryModel}
    (h : model.isPersisted = true) :
    encodeCursor definition model orders = rowCursor definition orders model.original := by
  rw [encodeCursor, h]
  rfl

theorem decodeCursor_rowCursor (orders : List ModelQueryOrder)
    (row : Row) : decodeCursor (rowCursor definition orders row) definition orders
      = .ok (orders.map (cursorValue row)) := by
  rw [rowCursor, decodeCursor, if_pos ⟨rfl, rfl, rfl⟩]
  rfl

/-- The rows a page shows. -/
def ModelCursorPage.rows (page : ModelCursorPage) : List Row := page.items.map QueryModel.original

/-- A page that shows the given rows and carries the cursors of its ends where there is more. -/
structure IsPage (definition : ModelDefinition) (orders : List ModelQueryOrder) (rows : List Row)
    (next previous : Bool) (page : ModelCursorPage) : Prop where
  rows_eq : page.rows = rows
  nextCursor_eq : page.nextCursor =
    if next then rows.getLast?.map (rowCursor definition orders) else none
  previousCursor_eq : page.previousCursor =
    if previous then rows.head?.map (rowCursor definition orders) else none

/-- The page made of models that were loaded from the rows read. -/
theorem isPage_cursorPage (plan : ModelQueryPlan) (n : ℕ) (after before : Option Cursor)
    {items : List QueryModel} {rows : List Row} (hp : ∀ model ∈ items, model.isPersisted = true)
    (ho : items.map QueryModel.original = rows) :
    IsPage definition (deterministicOrders plan.orders)
      (if before.isSome then (rows.take n).reverse else rows.take n)
      ((!before.isSome && decide (n < rows.length)) || isGiven before)
      ((before.isSome && decide (n < rows.length)) || isGiven after)
      (cursorPage definition plan ⟨n, after, before⟩ items) := by
  subst ho
  have hhasMore : decide ((n : ℤ) < items.length)
      = decide (n < (items.map QueryModel.original).length) := by simp
  have htake : (if n < (items.map QueryModel.original).length then items.take n else items)
      = items.take n := by
    split_ifs with h
    · rfl
    · rw [List.take_of_length_le]
      simpa using h
  have hkept : ∀ model ∈ items.take n, model.isPersisted = true :=
    fun model hmodel => hp model (List.mem_of_mem_take hmodel)
  have hlast : ∀ shown : List QueryModel, (∀ model ∈ shown, model.isPersisted = true) →
      (shown.getLast?.map fun last =>
        encodeCursor definition last (deterministicOrders plan.orders))
      = (shown.map QueryModel.original).getLast?.map
          (rowCursor definition (deterministicOrders plan.orders)) := by
    intro shown hshown
    rw [List.getLast?_map, Option.map_map]
    refine Option.map_congr fun model hmodel => ?_
    exact encodeCursor_eq definition _ (hshown model (List.mem_of_getLast? hmodel))
  have hhead : ∀ shown : List QueryModel, (∀ model ∈ shown, model.isPersisted = true) →
      (shown.head?.map fun first =>
        encodeCursor definition first (deterministicOrders plan.orders))
      = (shown.map QueryModel.original).head?.map
          (rowCursor definition (deterministicOrders plan.orders)) := by
    intro shown hshown
    rw [List.head?_map, Option.map_map]
    refine Option.map_congr fun model hmodel => ?_
    exact encodeCursor_eq definition _ (hshown model (List.mem_of_mem_head? hmodel))
  have hshown : ∀ model ∈ (if before.isSome then (items.take n).reverse else items.take n),
      model.isPersisted = true := by
    intro model hmodel
    split_ifs at hmodel
    · exact hkept model (List.mem_reverse.1 hmodel)
    · exact hkept model hmodel
  have hmap :
      (if before.isSome then (items.take n).reverse else items.take n).map QueryModel.original
      = if before.isSome then ((items.map QueryModel.original).take n).reverse
        else (items.map QueryModel.original).take n := by
    split_ifs <;> simp [List.map_take]
  constructor
  · rw [ModelCursorPage.rows, ← hmap]
    simp only [cursorPage, hhasMore, decide_eq_true_eq, Int.toNat_natCast, htake]
  · rw [← hmap, ← hlast _ hshown]
    simp only [cursorPage, hhasMore, decide_eq_true_eq, Int.toNat_natCast, htake]
  · rw [← hmap, ← hhead _ hshown]
    simp only [cursorPage, hhasMore, decide_eq_true_eq, Int.toNat_natCast, htake]

open ModelCursorPage

/-! ### One page -/

/-- The plan, with the id among its orders, passes the checks made before an adapter sees it. -/
def Accepted (plan : ModelQueryPlan) : Prop :=
  validateModelQueryPlan definition
    ⟨plan.constraints, deterministicOrders plan.orders, none, none⟩ = .ok ()

theorem validateOrder_reverse (order : ModelQueryOrder) :
    validateOrder definition order.reverse = validateOrder definition order := rfl

/-- A positioned plan is accepted when the plan is. -/
theorem Accepted.positioned {definition : ModelDefinition} (h : Accepted definition plan) (x : Row)
    (position : CursorPosition) {limit : ℤ} (hpos : 0 < limit) (hmax : limit ≤ 2 ^ 53 - 1) :
    validateModelQueryPlan definition (positionedPlan plan x position limit) = .ok () := by
  obtain ⟨horders, hconstraints⟩ := (validate_unbounded_iff _ _ _).1 h
  rw [positionedPlan, validate_limit definition _ _ hpos hmax, validate_unbounded_iff]
  refine ⟨?_, ?_⟩
  · intro order horder
    split_ifs at horder
    · obtain ⟨original, horiginal, rfl⟩ := List.mem_map.1 horder
      rw [validateOrder_reverse]
      exact horders original horiginal
    · exact horders order horder
  · rw [validateConstraints_eq_ok_iff] at hconstraints ⊢
    intro c hc
    rcases List.mem_append.1 hc with hc | hc
    · exact hconstraints c hc
    · rw [List.mem_singleton.1 hc]
      exact validate_cursorAlternatives horders x position

/-- The plan of a page whose cursor is that of a row. -/
theorem cursorPlan_eq (plan : ModelQueryPlan) (n : ℤ) (x : Row) (position : CursorPosition) :
    cursorPlan definition plan
        ⟨n, if position = .after then
            some (rowCursor definition (deterministicOrders plan.orders) x) else none,
          if position = .before then
            some (rowCursor definition (deterministicOrders plan.orders) x) else none⟩
      = .ok (positionedPlan plan x position (n + 1)) := by
  have hgiven : isGiven (some (rowCursor definition (deterministicOrders plan.orders) x))
      = true := rfl
  have hdecode := decodeCursor_rowCursor definition (deterministicOrders plan.orders) x
  have hconstraint : addCursorConstraint plan (deterministicOrders plan.orders)
      ((deterministicOrders plan.orders).map (cursorValue x)) position
      = .ok { plan with
          constraints := plan.constraints ++ [.mk .and
            (.group
              (cursorAlternatives (deterministicOrders plan.orders) x position))] } := by
    rw [addCursorConstraint, if_neg (by simp)]
    rfl
  cases position with
  | after =>
    simp only [cursorPlan, reduceCtorEq, if_true, if_false, Option.or, Option.isSome]
    rw [hgiven, if_pos rfl, hdecode]
    change (addCursorConstraint plan _ _ .after >>= _) = _
    rw [hconstraint]
    rfl
  | before =>
    simp only [cursorPlan, reduceCtorEq, if_true, if_false, Option.or, Option.isSome]
    rw [hgiven, if_pos rfl, hdecode]
    change (addCursorConstraint plan _ _ .before >>= _) = _
    rw [hconstraint]
    rfl

/-- A page size between one and the maximum is accepted. -/
theorem boundedPositiveInteger_eq_ok {name : String} {n : ℕ} (hn : 1 ≤ n) (hmax : n ≤ 1000) :
    boundedPositiveInteger n name modelQueryMaxPageSize = .ok () := by
  have hsafe : isSafeInteger (n : ℤ) = true := by
    simp only [isSafeInteger, decide_eq_true_eq]
    omega
  have hpos : positiveInteger n name = .ok () := by
    rw [positiveInteger, hsafe, decide_eq_false (by omega)]
    rfl
  rw [boundedPositiveInteger, Except.bind_eq_ok]
  refine ⟨hpos, ?_⟩
  rw [if_neg (by rw [modelQueryMaxPageSize]; omega)]
  rfl

/-- Reading a plan gives rows that its constraints select. -/
theorem mem_constrainedRows {js : Runtime} (h : row ∈ applyModelQueryPlan js table plan) :
    row ∈ constrainedRows js table plan := by
  have hsliced : ∀ rows : List Row, row ∈ sliceRows plan.limit plan.offset rows → row ∈ rows := by
    intro rows hrow
    cases hlimit : plan.limit with
    | none =>
      rw [hlimit] at hrow
      exact List.mem_of_mem_drop hrow
    | some limit =>
      rw [hlimit] at hrow
      exact List.mem_of_mem_drop (List.mem_of_mem_take hrow)
  have hsorted := hsliced _ h
  split_ifs at hsorted
  · exact hsorted
  · exact (List.mergeSort_perm _ _).mem_iff.1 hsorted

theorem mem_of_mem_applyModelQueryPlan {js : Runtime}
    (h : row ∈ applyModelQueryPlan js table plan) : row ∈ table :=
  mem_of_mem_constrainedRows (mem_constrainedRows h)

section Page

variable (js : Runtime) {definition : ModelDefinition} {table : List Row}
  (hids : (table.map Row.id).Nodup) {plan : ModelQueryPlan} (haccepted : Accepted definition plan)
  (hkinds : Homogeneous table plan.orders) {n : ℕ} (hn : 1 ≤ n) (hmax : n ≤ 1000)
  {session : ModelSession} (hsession : session.LoadedFrom table)

include hids hn hmax hsession

/-- Once its plan is known, a page shows the rows the plan reads. -/
theorem cursorPaginate_of_plan {after before : Option Cursor} {positioned : ModelQueryPlan}
    (hboth : (isGiven after && isGiven before) = false)
    (hplan : cursorPlan definition plan ⟨n, after, before⟩ = .ok positioned)
    (hvalid : validateModelQueryPlan definition positioned = .ok ()) :
    ∃ page session', cursorPaginate js definition table session plan ⟨n, after, before⟩
        = .ok (page, session') ∧ session'.LoadedFrom table ∧
      IsPage definition (deterministicOrders plan.orders)
        (if before.isSome then ((applyModelQueryPlan js table positioned).take n).reverse
          else (applyModelQueryPlan js table positioned).take n)
        ((!before.isSome && decide (n < (applyModelQueryPlan js table positioned).length)) ||
          isGiven before)
        ((before.isSome && decide (n < (applyModelQueryPlan js table positioned).length)) ||
          isGiven after)
        page := by
  obtain ⟨hp, ho, hs⟩ := hydrateAll_spec hids _ session hsession
    fun row hrow => mem_of_mem_applyModelQueryPlan hrow
  refine ⟨_, _, ?_, hs, isPage_cursorPage definition plan n after before hp ho⟩
  have hquery : query js definition table session positioned
      = .ok (hydrateAll session (applyModelQueryPlan js table positioned)) := by
    rw [query, hvalid]
    rfl
  simp only [cursorPaginate, boundedPositiveInteger_eq_ok hn hmax, hboth, hplan, hquery, bind,
    Except.bind, Bool.false_eq_true, if_false, pure, Except.pure]

include haccepted hkinds

/-- **The first page.** -/
theorem cursorPaginate_first :
    ∃ page session', cursorPaginate js definition table session plan ⟨n, none, none⟩
        = .ok (page, session') ∧ session'.LoadedFrom table ∧
      IsPage definition (deterministicOrders plan.orders) ((orderedRows js table plan).take n)
        (decide (n < (orderedRows js table plan).length)) false page := by
  have hlimit : ((n + 1 : ℕ) : ℤ) = (n : ℤ) + 1 := by push_cast; rfl
  have hpos : (0 : ℤ) < n + 1 := by omega
  have hsafe : (n : ℤ) + 1 ≤ 2 ^ 53 - 1 := by omega
  have hvalid := (validate_limit definition plan.constraints (deterministicOrders plan.orders)
    hpos hsafe).trans haccepted
  have hplan : cursorPlan definition plan ⟨n, none, none⟩ = .ok
      ⟨plan.constraints, deterministicOrders plan.orders, some ((n : ℤ) + 1), none⟩ := rfl
  have hpage := cursorPaginate_of_plan js hids hn hmax hsession rfl hplan hvalid
  rw [← hlimit, apply_first js hkinds] at hpage
  simpa [isGiven, List.take_take, Nat.lt_min] using hpage

/-- **The page after the cursor of a row**: the rows behind it. -/
theorem cursorPaginate_after {front rest : List Row} {x : Row}
    (hsplit : orderedRows js table plan = front ++ x :: rest) :
    ∃ page session', cursorPaginate js definition table session plan
          ⟨n, some (rowCursor definition (deterministicOrders plan.orders) x), none⟩
        = .ok (page, session') ∧ session'.LoadedFrom table ∧
      IsPage definition (deterministicOrders plan.orders) (rest.take n)
        (decide (n < rest.length)) true page := by
  have hlimit : ((n + 1 : ℕ) : ℤ) = (n : ℤ) + 1 := by push_cast; rfl
  have hpos : (0 : ℤ) < n + 1 := by omega
  have hsafe : (n : ℤ) + 1 ≤ 2 ^ 53 - 1 := by omega
  have hvalid := haccepted.positioned x .after hpos hsafe
  have hplan : cursorPlan definition plan
      ⟨n, some (rowCursor definition (deterministicOrders plan.orders) x), none⟩
      = .ok (positionedPlan plan x .after ((n : ℤ) + 1)) :=
    cursorPlan_eq definition plan n x .after
  have hpage := cursorPaginate_of_plan js hids hn hmax hsession rfl hplan hvalid
  rw [← hlimit, apply_after js hids hkinds hsplit] at hpage
  simpa [isGiven, List.take_take, Nat.lt_min, rowCursor] using hpage

/-- **The page before the cursor of a row**: the rows in front of it. -/
theorem cursorPaginate_before {front rest : List Row} {x : Row}
    (hsplit : orderedRows js table plan = front ++ x :: rest) :
    ∃ page session', cursorPaginate js definition table session plan
          ⟨n, none, some (rowCursor definition (deterministicOrders plan.orders) x)⟩
        = .ok (page, session') ∧ session'.LoadedFrom table ∧
      IsPage definition (deterministicOrders plan.orders) (front.reverse.take n).reverse
        true (decide (n < front.length)) page := by
  have hlimit : ((n + 1 : ℕ) : ℤ) = (n : ℤ) + 1 := by push_cast; rfl
  have hpos : (0 : ℤ) < n + 1 := by omega
  have hsafe : (n : ℤ) + 1 ≤ 2 ^ 53 - 1 := by omega
  have hvalid := haccepted.positioned x .before hpos hsafe
  have hplan : cursorPlan definition plan
      ⟨n, none, some (rowCursor definition (deterministicOrders plan.orders) x)⟩
      = .ok (positionedPlan plan x .before ((n : ℤ) + 1)) :=
    cursorPlan_eq definition plan n x .before
  have hpage := cursorPaginate_of_plan js hids hn hmax hsession rfl hplan hvalid
  rw [← hlimit, apply_before js hids hkinds hsplit] at hpage
  simpa [isGiven, List.take_take, Nat.lt_min, rowCursor] using hpage

end Page

/-! ### Whole traversals -/

/-- The pages that show the given rows one after the other, `n` on each but the last. -/
inductive Traversal (definition : ModelDefinition) (orders : List ModelQueryOrder) (n : ℕ) :
    Bool → List Row → List ModelCursorPage → Prop
  | last {previous : Bool} {rows : List Row} {page : ModelCursorPage} :
      rows.length ≤ n → IsPage definition orders rows false previous page →
      Traversal definition orders n previous rows [page]
  | more {previous : Bool} {rows : List Row} {page : ModelCursorPage}
      {pages : List ModelCursorPage} :
      n < rows.length → IsPage definition orders (rows.take n) true previous page →
      Traversal definition orders n true (rows.drop n) pages →
      Traversal definition orders n previous rows (page :: pages)

namespace Traversal

variable {definition : ModelDefinition} {orders : List ModelQueryOrder} {n : ℕ}

variable {previous : Bool} {pages : List ModelCursorPage} {rows : List Row}

theorem ne_nil (h : Traversal definition orders n previous rows pages) : pages ≠ [] := by
  cases h <;> simp

/-- The pages show all the rows, in order. -/
theorem flatMap_rows (h : Traversal definition orders n previous rows pages) :
    pages.flatMap ModelCursorPage.rows = rows := by
  induction h with
  | last _ hpage => simp [hpage.rows_eq]
  | more _ hpage _ ih => rw [List.flatMap_cons, hpage.rows_eq, ih, List.take_append_drop]

/-- Every page but the last is full. -/
theorem length_eq (h : Traversal definition orders n previous rows pages) :
    ∀ page ∈ pages.dropLast, page.items.length = n := by
  induction h with
  | last => intro page hpage; cases hpage
  | @more previous rows page pages hlength hpage hrest ih =>
    intro other hother
    rw [List.dropLast_cons_of_ne_nil hrest.ne_nil] at hother
    rcases List.mem_cons.1 hother with rfl | hother
    · have hrows := congrArg List.length hpage.rows_eq
      rw [ModelCursorPage.rows, List.length_map, List.length_take] at hrows
      omega
    · exact ih other hother

/-- **The cursor of a page leads back to where it begins**: the previous cursor of a page with pages
in front of it is that of its first row. -/
theorem previousCursor_eq (hn : 1 ≤ n) (h : Traversal definition orders n previous rows pages)
    {i : ℕ} (hi : i < pages.length) (hfirst : 0 < i ∨ previous = true ∧ rows ≠ []) :
    ∃ x rest, rows = (pages.take i).flatMap ModelCursorPage.rows ++ x :: rest ∧
      pages[i].previousCursor = some (rowCursor definition orders x) := by
  induction h generalizing i with
  | @last previous rows page hlength hpage =>
    obtain rfl : i = 0 := by simpa using hi
    obtain ⟨rfl, hrows⟩ := hfirst.resolve_left (lt_irrefl 0)
    obtain ⟨x, rest, rfl⟩ := List.exists_cons_of_ne_nil hrows
    exact ⟨x, rest, rfl, by simpa using hpage.previousCursor_eq⟩
  | @more previous rows page pages hlength hpage hrest ih =>
    cases i with
    | zero =>
      obtain ⟨rfl, hrows⟩ := hfirst.resolve_left (lt_irrefl 0)
      obtain ⟨x, rest, rfl⟩ := List.exists_cons_of_ne_nil hrows
      refine ⟨x, rest, rfl, ?_⟩
      have hcursor := hpage.previousCursor_eq
      rw [if_pos rfl, List.head?_take, if_neg (by omega)] at hcursor
      exact hcursor
    | succ i =>
      have hdrop : rows.drop n ≠ [] := by simpa using hlength
      obtain ⟨x, rest, hsplit, hcursor⟩ :=
        ih (Nat.lt_of_succ_lt_succ hi) (.inr ⟨rfl, hdrop⟩)
      refine ⟨x, rest, ?_, hcursor⟩
      calc rows = rows.take n ++ rows.drop n := (List.take_append_drop n rows).symm
        _ = page.rows ++ ((pages.take i).flatMap ModelCursorPage.rows ++ x :: rest) := by
            rw [hpage.rows_eq, hsplit]
        _ = ((page :: pages).take (i + 1)).flatMap ModelCursorPage.rows ++ x :: rest := by
            rw [List.take_succ_cons, List.flatMap_cons, List.append_assoc]

end Traversal

theorem eq_append_cons_drop {α : Type*} {n : ℕ} {l init : List α} {last : α}
    (h : l.take n = init ++ [last]) : l = init ++ last :: l.drop n := by
  calc l = l.take n ++ l.drop n := (List.take_append_drop n l).symm
    _ = init ++ last :: l.drop n := by rw [h, List.append_assoc, List.singleton_append]

/-- Following the cursors from a position ends, with the pages that show the given rows.  As each
page leaves fewer rows, the number of rows is enough fuel. -/
def Follows (definition : ModelDefinition) (table : List Row) (plan : ModelQueryPlan) (n : ℕ)
    (session : ModelSession) (after : Option Cursor) (previous : Bool) (rows : List Row) : Prop :=
  ∃ pages session', Traversal definition (deterministicOrders plan.orders) n previous rows pages ∧
    ∀ fuel, rows.length < fuel →
      followNextCursor js definition table plan n fuel session after
        = some (.ok (pages, session'))

section Follow

variable (js : Runtime) {definition : ModelDefinition} {table : List Row}
  (hids : (table.map Row.id).Nodup) {plan : ModelQueryPlan} (haccepted : Accepted definition plan)
  (hkinds : Homogeneous table plan.orders) {n : ℕ} (hn : 1 ≤ n) (hmax : n ≤ 1000)

include hn

/-- One page, and then the rest. -/
theorem Follows.step {session session' : ModelSession} {after : Option Cursor} {previous : Bool}
    {rows : List Row} {page : ModelCursorPage}
    (hpaginate : cursorPaginate js definition table session plan ⟨n, after, none⟩
      = .ok (page, session'))
    (hpage : IsPage definition (deterministicOrders plan.orders) (rows.take n)
      (decide (n < rows.length)) previous page)
    (hrest : ∀ init last, rows.take n = init ++ [last] → Follows js definition table plan n session'
      (some (rowCursor definition (deterministicOrders plan.orders) last)) true (rows.drop n)) :
    Follows js definition table plan n session after previous rows := by
  by_cases hlength : n < rows.length
  · have hne : rows.take n ≠ [] := by
      rw [← List.length_pos_iff, List.length_take]
      omega
    obtain ⟨init, last, hlast⟩ := (List.eq_nil_or_concat (rows.take n)).resolve_left hne
    rw [List.concat_eq_append] at hlast
    rw [decide_eq_true hlength] at hpage
    obtain ⟨pages, session'', hpages, hfollow⟩ := hrest init last hlast
    refine ⟨page :: pages, session'', .more hlength hpage hpages, ?_⟩
    intro fuel hfuel
    obtain ⟨fuel, rfl⟩ := Nat.exists_eq_add_one_of_ne_zero (Nat.ne_zero_of_lt hfuel)
    have hnext : page.nextCursor =
        some (rowCursor definition (deterministicOrders plan.orders) last) := by
      rw [hpage.nextCursor_eq, hlast]
      simp
    have hfuel' : (rows.drop n).length < fuel := by
      rw [List.length_drop]
      omega
    have hgiven : isGiven page.nextCursor = true := by
      rw [hnext]
      rfl
    rw [followNextCursor, hpaginate]
    dsimp only
    rw [if_pos hgiven, hnext, hfollow fuel hfuel']
    rfl
  · rw [List.take_of_length_le (not_lt.1 hlength), decide_eq_false hlength] at hpage
    refine ⟨[page], session', .last (not_lt.1 hlength) hpage, ?_⟩
    intro fuel hfuel
    obtain ⟨fuel, rfl⟩ := Nat.exists_eq_add_one_of_ne_zero (Nat.ne_zero_of_lt hfuel)
    have hnext : page.nextCursor = none := hpage.nextCursor_eq
    simp [followNextCursor, hpaginate, hnext, isGiven]

include hids haccepted hkinds hmax

/-- Following the cursors from behind a row shows the rows behind it. -/
theorem follows_after (length : ℕ) :
    ∀ {front rest : List Row} {x : Row}, orderedRows js table plan = front ++ x :: rest →
      rest.length ≤ length → ∀ {session : ModelSession}, session.LoadedFrom table →
      Follows js definition table plan n session
        (some (rowCursor definition (deterministicOrders plan.orders) x)) true rest := by
  induction length with
  | zero =>
    intro front rest x hsplit hlength session hsession
    obtain rfl := List.eq_nil_of_length_eq_zero (Nat.le_zero.1 hlength)
    obtain ⟨page, session', hpaginate, -, hpage⟩ :=
      cursorPaginate_after js hids haccepted hkinds hn hmax hsession hsplit
    refine Follows.step js hn hpaginate hpage fun init last hlast => ?_
    simp at hlast
  | succ length ih =>
    intro front rest x hsplit hlength session hsession
    obtain ⟨page, session', hpaginate, hsession', hpage⟩ :=
      cursorPaginate_after js hids haccepted hkinds hn hmax hsession hsplit
    refine Follows.step js hn hpaginate hpage fun init last hlast => ?_
    have hsplit' : orderedRows js table plan = (front ++ x :: init) ++ last :: rest.drop n := by
      rw [hsplit, List.append_assoc, List.cons_append, ← eq_append_cons_drop hlast]
    refine ih hsplit' ?_ hsession'
    have hpos : 0 < (rest.take n).length := by rw [hlast]; simp
    rw [List.length_take] at hpos
    rw [List.length_drop]
    omega

/-- Following the cursors from the beginning shows all rows of the plan. -/
theorem follows_first {session : ModelSession} (hsession : session.LoadedFrom table) :
    Follows js definition table plan n session none false (orderedRows js table plan) := by
  obtain ⟨page, session', hpaginate, hsession', hpage⟩ :=
    cursorPaginate_first js hids haccepted hkinds hn hmax hsession
  refine Follows.step js hn hpaginate hpage fun init last hlast => ?_
  exact follows_after js hids haccepted hkinds hn hmax _ (eq_append_cons_drop hlast) le_rfl
    hsession'

end Follow

/-! ### Exactness -/

/-- What the pages of an exact traversal are: together the constrained rows, in the order of the
plan, on full pages, each of which leads back to the rows in front of it. -/
structure IsExact (js : Runtime) (definition : ModelDefinition) (table : List Row)
    (plan : ModelQueryPlan) (n : ℕ) (pages : List ModelCursorPage) : Prop where
  perm : (pages.flatMap rows).Perm
    (table.filter fun row => matchesConstraints js row plan.constraints)
  sorted : (pages.flatMap rows).Pairwise fun left right =>
    compareRows js (deterministicOrders plan.orders) left right = Ordering.lt
  full : ∀ page ∈ pages.dropLast, page.items.length = n
  previous : ∀ i (hi : i < pages.length), 0 < i → ∃ cursor, pages[i].previousCursor = some cursor ∧
    ∀ session : ModelSession, session.LoadedFrom table → ∃ page session',
      cursorPaginate js definition table session plan ⟨n, none, some cursor⟩
          = .ok (page, session') ∧
        page.rows = ((pages.take i).flatMap rows).rtake n

/-- An article has a rank. -/
def articleDefinition : ModelDefinition :=
  ⟨"article", some ["id", "rank"], fun attr =>
    if attr = "rank" then some .number else none⟩

/-- Two articles that tie on the rank: one has none, and that of the other is null. -/
def unrankedArticles : List Row :=
  [{ id := [1], state := fun _ => none },
    { id := [0], state := fun attr =>
        if attr = "rank" then some .null else none }]

/-- All articles, the highest ranks first. -/
def articlesByRank : ModelQueryPlan :=
  { constraints := []
    orders := [{ attr := "rank", direction := .desc }]
    limit := none
    offset := none }

end Doxa
