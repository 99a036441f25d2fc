/-
**The cursor constraint selects the rows beyond the cursor.**

A page behind a cursor is read through a predicate: a disjunction with one alternative per order, in
which the earlier attributes are held to the cursor's values and the present one is beyond its
value.  Nulls are what makes it delicate: they come first in ascending order, so whether they lie
beyond a value, and whether anything lies beyond them, turns with the direction of the order and
with that of the page.  This module proves that the predicate selects exactly the rows that come
after the cursor's row, or before it, in the lexicographic order of the query.

The order of the rows is taken to the sort keys of `Doxa.compareKey`, where it is lawful on all
rows; on rows whose order attributes are each of one kind it is the comparator of the source.

Main definitions:

* `Doxa.Homogeneous` — each order attribute holds values of one kind, nulls aside;
* `Doxa.keyCompare` — the lexicographic order of the rows, on the sort keys;
* `Doxa.positionOrder`, `Doxa.positionCompare` — the order a page walks along.

Main results:

* `Doxa.compareRows_eq_keyCompare` — on homogeneous rows it is the comparator of the source;
* `Doxa.matches_cursorPosition_iff` — one position predicate, whichever way the nulls fall;
* `Doxa.matches_cursorAlternatives_iff` — **the cursor constraint selects the rows beyond the
  cursor's row**.
-/

import Doxa.CursorPaginate

set_option relaxedAutoImplicit false
set_option autoImplicit false

namespace Doxa

open Js
open Std (TransCmp OrientedCmp)

/-! ### The order of the rows -/

variable (orders : List ModelQueryOrder) (js : Runtime)

/-- The comparator of one order, on the sort keys. -/
def keyOrder (order : ModelQueryOrder) (left right : Row) : Ordering :=
  match order.direction with
  | .asc =>
    Ord.compare (compareKey (left.get order.attr)) (compareKey (right.get order.attr))
  | .desc =>
    Ord.compare (compareKey (right.get order.attr)) (compareKey (left.get order.attr))

/-- The lexicographic order of the rows, on the sort keys. -/
def keyCompare : Row → Row → Ordering :=
  Lex.lexCmp (orders.map keyOrder)

/-- Each order attribute holds values of one kind only, nulls and missing values aside. -/
def Homogeneous (table : List Row) (orders : List ModelQueryOrder) : Prop :=
  ∀ order ∈ orders, ∃ kind, ∀ row ∈ table, OfKind kind (row.get order.attr)

theorem ord_compare_swap {β : Type*} [LinearOrder β] (x y : β) :
    (Ord.compare x y).swap = Ord.compare y x := by
  have h : Ord.compare y x = (Ord.compare x y).swap := OrientedCmp.eq_swap
  exact h.symm

theorem compareOrder_eq_keyOrder (order : ModelQueryOrder) {kind : ModelAttributeKind}
    {left right : Row} (hl : OfKind kind (left.get order.attr))
    (hr : OfKind kind (right.get order.attr)) :
    compareOrder js order left right = keyOrder order left right := by
  rw [compareOrder, keyOrder, compare_eq_compareKey js hl hr]
  cases order.direction with
  | asc => rfl
  | desc => exact ord_compare_swap _ _

theorem compareRows_eq_keyCompare {table : List Row} {orders : List ModelQueryOrder}
    (h : Homogeneous table orders) {left right : Row} (hl : left ∈ table) (hr : right ∈ table) :
    compareRows js orders left right = keyCompare orders left right := by
  refine Lex.lexCmp_congr orders _ _ left right ?_
  intro order horder
  obtain ⟨kind, hkind⟩ := h order horder
  exact compareOrder_eq_keyOrder js order (hkind left hl) (hkind right hr)

instance transCmp_keyOrder (order : ModelQueryOrder) : TransCmp (keyOrder order) := by
  obtain ⟨attr, direction⟩ := order
  have hasc : TransCmp fun left right : Row =>
      Ord.compare (compareKey (left.get attr)) (compareKey (right.get attr)) :=
    inferInstanceAs (TransCmp (compareOn fun row : Row => compareKey (row.get attr)))
  cases direction with
  | asc => exact hasc
  | desc => exact hasc.opposite

instance transCmp_keyCompare (orders : List ModelQueryOrder) : TransCmp (keyCompare orders) :=
  Lex.transCmp_lexCmp fun c hc => by
    obtain ⟨order, -, rfl⟩ := List.mem_map.1 hc
    exact transCmp_keyOrder order

/-- The reversed orders compare the other way round. -/
theorem keyCompare_reverse (left right : Row) :
    keyCompare (orders.map .reverse) left right = (keyCompare orders left right).swap := by
  have hreverse : ∀ order : ModelQueryOrder, keyOrder order.reverse
      = fun left right => (keyOrder order left right).swap := by
    intro order
    obtain ⟨attr, direction⟩ := order
    funext left right
    cases direction with
    | asc => exact (ord_compare_swap _ _).symm
    | desc => exact (ord_compare_swap _ _).symm
  rw [keyCompare, keyCompare, ← Lex.lexCmp_swap, List.map_map, List.map_map]
  simp only [Function.comp_def, hreverse]

/-! ### What the cursor constraints select -/

theorem isDeepEqual_iff_key {kind : ModelAttributeKind} {left right : Option ModelQueryValue}
    (hl : OfKind kind left) (hr : OfKind kind right) :
    isDeepEqual left right = true ↔ compareKey left = compareKey right := by
  cases hnl : isNullish left with
  | true =>
    rw [(compareKey_eq_bot_iff left).2 hnl, eq_comm (a := ⊥), compareKey_eq_bot_iff]
    cases hnr : isNullish right with
    | true => simp [isDeepEqual, hnl, hnr]
    | false => simp [isDeepEqual, hnl, hnr, comparableValue_ne_of_nullish hnl hnr]
  | false =>
    rw [isDeepEqual_of_not_nullish hnl, decide_eq_true_iff]
    refine ⟨fun h => congrArg primitiveKey h, fun h => ?_⟩
    have hnr : isNullish right = false := by
      rw [Bool.eq_false_iff, Ne, ← compareKey_eq_bot_iff, ← h, compareKey_eq_bot_iff, hnl]
      decide
    exact (primitiveKey_inj (hl.sameType hr hnl hnr)).1 h

/-- The value a cursor carries for an order: the attribute of its row, or null. -/
def cursorValue (row : Row) (order : ModelQueryOrder) : ModelQueryValue :=
  (row.get order.attr).getD .null

/-- The value is null exactly for a null or missing attribute. -/
theorem cursorValue_eq_null_iff (row : Row) (order : ModelQueryOrder) :
    cursorValue row order = .null ↔ isNullish (row.get order.attr) = true := by
  rw [cursorValue]
  rcases row.get order.attr with _ | value
  · simp [isNullish]
  · cases value <;> simp [isNullish]

/-- A value other than null is the attribute itself. -/
theorem some_cursorValue {row : Row} {order : ModelQueryOrder}
    (h : isNullish (row.get order.attr) = false) :
    some (cursorValue row order) = row.get order.attr := by
  rw [cursorValue]
  cases hget : row.get order.attr with
  | none => rw [hget] at h; cases h
  | some value => rfl

/-- The comparator a page in the given direction walks along. -/
def positionOrder (position : CursorPosition) (order : ModelQueryOrder) (left right : Row) :
    Ordering :=
  match position with
  | .after => keyOrder order left right
  | .before => (keyOrder order left right).swap

/-- Whether the rows beyond a position have the greater values: the direction of the order and that
of the page agree. -/
def IsUpward (order : ModelQueryOrder) (position : CursorPosition) : Prop :=
  (order.direction = .asc ∧ position = .after) ∨
    (order.direction = .desc ∧ position = .before)

instance (order : ModelQueryOrder) (position : CursorPosition) :
    Decidable (IsUpward order position) :=
  inferInstanceAs (Decidable (_ ∨ _))

theorem positionOrder_eq_lt_iff (position : CursorPosition) (order : ModelQueryOrder)
    (x row : Row) :
    positionOrder position order x row = Ordering.lt ↔
      if IsUpward order position then
        compareKey (x.get order.attr) < compareKey (row.get order.attr)
      else compareKey (row.get order.attr) < compareKey (x.get order.attr) := by
  obtain ⟨attr, direction⟩ := order
  cases direction <;> cases position <;>
    simp [positionOrder, keyOrder, IsUpward, compare_lt_iff_lt, compare_gt_iff_gt]

section Position

variable (js : Runtime) {kind : ModelAttributeKind} {order : ModelQueryOrder} {x row : Row}
  (hx : OfKind kind (x.get order.attr)) (hrow : OfKind kind (row.get order.attr))

include hx hrow

/-- `cursorEqualPredicate` selects the rows that tie with the cursor's row. -/
theorem matches_cursorEqual_iff :
    matchesPredicate js row (cursorEqualPredicate order (cursorValue x order)) = true ↔
      keyOrder order x row = Ordering.eq := by
  have htie : keyOrder order x row = Ordering.eq ↔
      compareKey (row.get order.attr) = compareKey (x.get order.attr) := by
    rw [keyOrder]
    cases order.direction with
    | asc => exact compare_eq_iff_eq.trans eq_comm
    | desc => exact compare_eq_iff_eq
  rw [htie, cursorEqualPredicate]
  cases hnl : isNullish (x.get order.attr) with
  | true =>
    rw [if_pos ((cursorValue_eq_null_iff x order).2 hnl), (compareKey_eq_bot_iff _).2 hnl,
      compareKey_eq_bot_iff]
    rfl
  | false =>
    have hnull : cursorValue x order ≠ .null := by
      rw [Ne, cursorValue_eq_null_iff, hnl]
      decide
    rw [if_neg hnull, matchesPredicate, some_cursorValue hnl]
    exact isDeepEqual_iff_key hrow hx

/-- A row is below the cursor's row: it is not null and its value is smaller. -/
theorem comparisonMatches_lt_iff (hnl : isNullish (x.get order.attr) = false) :
    comparisonMatches js (row.get order.attr) .lt (x.get order.attr) = true ↔
      isNullish (row.get order.attr) = false ∧
        compareKey (row.get order.attr) < compareKey (x.get order.attr) := by
  simp [comparisonMatches, hnl, compare_eq_compareKey js hrow hx, ← compare_lt_iff_lt]

/-- A row is above the cursor's row: its value is greater, so it is not null. -/
theorem comparisonMatches_gt_iff (hnl : isNullish (x.get order.attr) = false) :
    comparisonMatches js (row.get order.attr) .gt (x.get order.attr) = true ↔
      compareKey (x.get order.attr) < compareKey (row.get order.attr) := by
  have hbot : compareKey (x.get order.attr) < compareKey (row.get order.attr) →
      isNullish (row.get order.attr) = false := by
    intro h
    rw [Bool.eq_false_iff, Ne, ← compareKey_eq_bot_iff]
    exact ne_bot_of_gt h
  simp only [comparisonMatches, hnl, compare_eq_compareKey js hrow hx, Bool.not_false,
    Bool.and_true, Bool.and_eq_true, Bool.not_eq_true', Ordering.isGT_iff_eq_gt,
    compare_gt_iff_gt]
  exact ⟨fun h => h.2, fun h => ⟨hbot h, h⟩⟩

/-- **`cursorPositionPredicate` selects the rows beyond the cursor's row**, whichever way the nulls
fall. -/
theorem matches_cursorPosition_iff (position : CursorPosition) :
    matchesPredicate js row (cursorPositionPredicate order (cursorValue x order) position) = true ↔
      positionOrder position order x row = Ordering.lt := by
  rw [positionOrder_eq_lt_iff, cursorPositionPredicate]
  cases hnl : isNullish (x.get order.attr) with
  | true =>
    -- nothing is below a null, and everything else is above it
    rw [if_pos ((cursorValue_eq_null_iff x order).2 hnl), (compareKey_eq_bot_iff _).2 hnl]
    by_cases hup : IsUpward order position
    · rw [if_pos hup, if_pos (by rwa [IsUpward] at hup), bot_lt_iff_ne_bot, Ne,
        compareKey_eq_bot_iff]
      simp [matchesPredicate]
    · rw [if_neg hup, if_neg (by rwa [IsUpward] at hup)]
      simp [matchesPredicate]
  | false =>
    have hnull : cursorValue x order ≠ .null := by
      rw [Ne, cursorValue_eq_null_iff, hnl]
      decide
    have hlt := comparisonMatches_lt_iff js hx hrow hnl
    have hgt := comparisonMatches_gt_iff js hx hrow hnl
    have hbelow : compareKey (row.get order.attr) < compareKey (x.get order.attr) ↔
        (isNullish (row.get order.attr) = false ∧
          compareKey (row.get order.attr) < compareKey (x.get order.attr)) ∨
        isNullish (row.get order.attr) = true := by
      refine ⟨fun h => ?_, ?_⟩
      · cases isNullish (row.get order.attr) with
        | true => exact .inr rfl
        | false => exact .inl ⟨rfl, h⟩
      · rintro (⟨-, h⟩ | h)
        · exact h
        · rw [(compareKey_eq_bot_iff _).2 h, bot_lt_iff_ne_bot, Ne, compareKey_eq_bot_iff, hnl]
          decide
    rw [if_neg hnull]
    cases hdirection : order.direction <;> cases position <;>
      simp [IsUpward, hdirection, matchesPredicate, matchesConstraints, matchesRest,
        some_cursorValue hnl, hlt, hgt]
    · exact hbelow.symm
    · exact hbelow.symm

end Position

/-- One alternative holds: all earlier attributes tie and this one is beyond its value. -/
theorem matches_cursorAlternative_iff {table : List Row} {orders : List ModelQueryOrder}
    (h : Homogeneous table orders) {x row : Row} (hx : x ∈ table) (hrow : row ∈ table)
    (position : CursorPosition) (index : ℕ) (hindex : index < orders.length) :
    matchesPredicate js row (cursorAlternative orders (orders.map (cursorValue x)) position
        orders[index] (cursorValue x orders[index]) index) = true ↔
      (∀ order ∈ orders.take index, positionOrder position order x row = Ordering.eq) ∧
        positionOrder position orders[index] x row = Ordering.lt := by
  have htie : ∀ order ∈ orders.take index,
      (matchesPredicate js row (cursorEqualPredicate order (cursorValue x order)) = true ↔
        positionOrder position order x row = Ordering.eq) := by
    intro order horder
    obtain ⟨kind, hkind⟩ := h order (List.mem_of_mem_take horder)
    rw [matches_cursorEqual_iff js (hkind x hx) (hkind row hrow)]
    cases position with
    | after => rfl
    | before => simp [positionOrder]
  obtain ⟨kind, hkind⟩ := h _ (List.getElem_mem hindex)
  have hbeyond := matches_cursorPosition_iff js (hkind x hx) (hkind row hrow) position
  have hzip : (orders.zip (orders.map (cursorValue x))).take index
      = (orders.take index).map fun order => (order, cursorValue x order) := by
    rw [← List.map_prod_left_eq_zip, List.map_take]
  rw [cursorAlternative, matchesPredicate, hzip, List.map_map, matchesConstraints_all]
  · simp only [List.all_append, List.all_map, Bool.and_eq_true, List.all_eq_true,
      List.all_cons, List.all_nil, Function.comp_def, ModelQueryConstraint.predicate,
      Bool.and_true]
    rw [hbeyond]
    refine and_congr_left fun _ => ?_
    exact forall₂_congr htie
  · intro c hc
    rcases List.mem_append.1 hc with hc | hc
    · obtain ⟨_, -, rfl⟩ := List.mem_map.1 hc
      rfl
    · rw [List.mem_singleton.1 hc]
      rfl

/-- The comparator of a page in the given direction. -/
def positionCompare (position : CursorPosition) : Row → Row → Ordering :=
  Lex.lexCmp (orders.map (positionOrder position))

theorem positionCompare_after (left right : Row) :
    positionCompare orders .after left right = keyCompare orders left right := rfl

theorem positionCompare_before (left right : Row) :
    positionCompare orders .before left right = (keyCompare orders left right).swap := by
  rw [keyCompare, ← Lex.lexCmp_swap, List.map_map]
  rfl

/-- The alternatives of `addCursorConstraint` for the cursor of a row. -/
def cursorAlternatives (x : Row) (position : CursorPosition) : List ModelQueryConstraint :=
  (orders.zip (orders.map (cursorValue x))).mapIdx fun index entry =>
    .mk
      (if index = 0 then .and else .or)
      (cursorAlternative orders (orders.map (cursorValue x)) position entry.1 entry.2 index)

/-- **The cursor constraint selects the rows beyond the cursor's row** in the order of the page. -/
theorem matches_cursorAlternatives_iff {table : List Row} {orders : List ModelQueryOrder}
    (h : Homogeneous table orders) (hne : orders ≠ []) {x row : Row} (hx : x ∈ table)
    (hrow : row ∈ table) (position : CursorPosition) :
    matchesConstraints js row (cursorAlternatives orders x position) = true ↔
      positionCompare orders position x row = Ordering.lt := by
  have hzip : orders.zip (orders.map (cursorValue x))
      = orders.map fun order => (order, cursorValue x order) :=
    List.map_prod_left_eq_zip.symm
  have hany : matchesConstraints js row (cursorAlternatives orders x position)
      = (cursorAlternatives orders x position).any
          fun c => matchesPredicate js row c.predicate := by
    obtain ⟨order, orders', rfl⟩ := List.exists_cons_of_ne_nil hne
    simp only [cursorAlternatives, List.map_cons, List.zip_cons_cons, List.mapIdx_cons]
    refine matchesConstraints_any js row _ _ fun c hc => ?_
    obtain ⟨i, _, rfl⟩ := List.mem_mapIdx.1 hc
    rfl
  rw [hany, List.any_eq_true, positionCompare, Lex.lexCmp_eq_lt_iff]
  constructor
  · rintro ⟨c, hc, hmatch⟩
    obtain ⟨i, hi, rfl⟩ := List.mem_mapIdx.1 hc
    have hi' : i < orders.length := by simpa using hi
    simp only [hzip, List.getElem_map, ModelQueryConstraint.predicate] at hmatch
    obtain ⟨htie, hlt⟩ := (matches_cursorAlternative_iff js h hx hrow position i hi').1 hmatch
    refine ⟨i, by simpa using hi', ?_, by simpa using hlt⟩
    intro c hc
    rw [← List.map_take] at hc
    obtain ⟨order, horder, rfl⟩ := List.mem_map.1 hc
    exact htie order horder
  · rintro ⟨i, hi, htie, hlt⟩
    have hi' : i < orders.length := by simpa using hi
    refine ⟨_, List.mem_mapIdx.2 ⟨i, by simpa using hi', rfl⟩, ?_⟩
    simp only [hzip, List.getElem_map, ModelQueryConstraint.predicate]
    refine (matches_cursorAlternative_iff js h hx hrow position i hi').2 ⟨?_, by simpa using hlt⟩
    intro order horder
    refine htie _ ?_
    rw [← List.map_take]
    exact List.mem_map_of_mem horder

end Doxa
