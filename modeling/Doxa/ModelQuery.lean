/-
**Model query plans and their in-memory evaluation.**

A model query is a plan: a list of constraints joined by `and` and `or` from left to right, a list
of orders and bounds.  The PostgreSQL adapter compiles a plan to SQL; `applyModelQueryPlan`
evaluates it on rows held in memory and is what the adapters are compared with.  This module embeds
the plan, its validation and that evaluator (`core/src/model-query.ts`).

Numbers are the finite numbers, taken as rationals; `-0` and `NaN` do not occur in them.  A datetime
is kept as what it compares as: microseconds since the epoch for `Graphite` and `Instant`, the text
for `LocalDate` and `Duration`.  The throws that reject a boolean, an operator or a direction
outside its enumeration have no counterpart, since those are inductive types here.

Main definitions:

* `Doxa.ModelQueryPlan` and its parts;
* `Doxa.Row` — a row: its id and its other attributes;
* `Doxa.compare`, `Doxa.comparisonMatches`, `Doxa.matchesConstraints` — the evaluator;
* `Doxa.validateModelQueryPlan` — the checks made before an adapter sees a plan;
* `Doxa.applyModelQueryPlan` — filter, sort, slice.

Main results:

* `Doxa.matchesConstraints_append_and` — a constraint added with `and` narrows the whole list;
* `Doxa.matchesConstraints_all`, `Doxa.matchesConstraints_any` — lists joined by one connective;
* `Doxa.compare_eq_compareKey` — **the comparison is an order on each kind of value**, with null and
  missing values first.
-/

import Doxa.JavaScript
import Doxa.Lib.Except
import Doxa.Lib.Glob
import Doxa.Lib.Lexicographic

set_option relaxedAutoImplicit false
set_option autoImplicit false

namespace Doxa

open Js

/-! ### Plans -/

inductive ModelQueryOperator
  | eq | ne | lt | le | gt | ge | like | ilike
deriving DecidableEq

inductive ModelQueryDirection
  | asc | desc
deriving DecidableEq

/-- A value an application may compare an attribute with. -/
inductive ModelQueryValue
  | string (text : JsString)
  | number (value : ℚ)
  | boolean (value : Bool)
  | graphite (epochMicroseconds : ℤ)
  | instant (epochMicroseconds : ℤ)
  | localDate (text : JsString)
  | duration (text : JsString)
  | null
deriving DecidableEq

inductive ModelQueryBoolean
  | and | or
deriving DecidableEq

mutual

inductive ModelQueryPredicate
  | comparison (attr : String) (operator : ModelQueryOperator) (value : ModelQueryValue)
  | membership (attr : String) (values : List ModelQueryValue) (negate : Bool)
  | null (attr : String) (negate : Bool)
  | between (attr : String) (low high : ModelQueryValue) (negate : Bool)
  | column (attr : String) (operator : ModelQueryOperator) (comparedAttr : String)
  | group (predicates : List ModelQueryConstraint)

/-- A predicate and the connective that joins it to the constraints on its left. -/
inductive ModelQueryConstraint
  | mk (boolean : ModelQueryBoolean) (predicate : ModelQueryPredicate)

end

/-- The connective of a constraint. -/
def ModelQueryConstraint.boolean : ModelQueryConstraint → ModelQueryBoolean
  | mk boolean _ => boolean

/-- The predicate of a constraint. -/
def ModelQueryConstraint.predicate : ModelQueryConstraint → ModelQueryPredicate
  | mk _ predicate => predicate

structure ModelQueryOrder where
  attr : String
  direction : ModelQueryDirection
deriving DecidableEq

structure ModelQueryPlan where
  constraints : List ModelQueryConstraint
  orders : List ModelQueryOrder
  limit : Option ℤ
  offset : Option ℤ

/-- The errors of the query layer, with their texts. -/
inductive ModelError
  | modelQueryError (message : String)
  | invalidModelCursorError (message : String)
deriving DecidableEq

/-! ### Rows -/

/-- A row: its id, and its other attributes, of which some may be missing. -/
structure Row where
  id : JsString
  state : String → Option ModelQueryValue

/-- `value[attribute]`; a missing attribute reads as `undefined`, here `none`. -/
def Row.get (row : Row) (attr : String) : Option ModelQueryValue :=
  if attr = "id" then some (.string row.id) else row.state attr

@[simp] theorem Row.get_id (row : Row) : row.get "id" = some (.string row.id) := rfl

/-! ### Comparison -/

variable (js : Runtime)

/-- `comparableValue`: the datetime classes compare as their epoch or their text. -/
def comparableValue : Option ModelQueryValue → Primitive
  | none => .undefined
  | some (.string text) => .string text
  | some (.number value) => .number value
  | some (.boolean value) => .boolean value
  | some (.graphite epochMicroseconds) => .bigint epochMicroseconds
  | some (.instant epochMicroseconds) => .bigint epochMicroseconds
  | some (.localDate text) => .string text
  | some (.duration text) => .string text
  | some .null => .null

/-- `value === null || value === undefined`. -/
def isNullish (value : Option ModelQueryValue) : Bool :=
  match value with
  | none | some .null => true
  | some _ => false

/-- `isDeepEqual`: null and undefined are equal, all else is compared by `Object.is`. -/
def isDeepEqual (left right : Option ModelQueryValue) : Bool :=
  (isNullish left && isNullish right) || decide (comparableValue left = comparableValue right)

/-- `<` on two primitives that are neither null nor undefined. -/
def primitiveLess : Primitive → Primitive → Bool
  | .string left, .string right => decide (left < right)
  | .number left, .number right => decide (left < right)
  | .boolean left, .boolean right => decide (left < right)
  | .bigint left, .bigint right => decide (left < right)
  | left, right => js.mixedLess left right

/-- `compare`: null and undefined come first. -/
def compare (left right : Option ModelQueryValue) : Ordering :=
  if isDeepEqual left right then Ordering.eq
  else if isNullish left then Ordering.lt
  else if isNullish right then Ordering.gt
  else if primitiveLess js (comparableValue left) (comparableValue right) then Ordering.lt
  else Ordering.gt

/-- The pattern of a `like`: `%` is a run, `_` one character, all else is literal. -/
def likePattern (pattern : JsString) : List (Glob.Item ℕ) :=
  (codePoints pattern).map fun c =>
    if c = '%'.toNat then .run
    else if c = '_'.toNat then .one
    else .lit c

/-- The regular expression of a `like`, tested against a string. -/
def likeMatches (source pattern : JsString) : Bool :=
  Glob.covers (fun c => !isLineTerminator c) (likePattern pattern) (codePoints source)

/-- `comparisonMatches`. -/
def comparisonMatches (left : Option ModelQueryValue) (operator : ModelQueryOperator)
    (right : Option ModelQueryValue) : Bool :=
  match operator with
  | .like =>
    match left, right with
    | some (.string source), some (.string pattern) =>
      likeMatches source pattern
    | _, _ => false
  | .ilike =>
    match left, right with
    | some (.string source), some (.string pattern) =>
      likeMatches (js.toLocaleLowerCase source) (js.toLocaleLowerCase pattern)
    | _, _ => false
  | .eq => isDeepEqual left right
  | .ne => !isDeepEqual left right
  | .lt =>
    !isNullish left && !isNullish right && (compare js left right).isLT
  | .le =>
    !isNullish left && !isNullish right && (compare js left right).isLE
  | .gt =>
    !isNullish left && !isNullish right && (compare js left right).isGT
  | .ge =>
    !isNullish left && !isNullish right && (compare js left right).isGE

/-! ### Constraints -/

mutual

/-- `matchesPredicate`. -/
def matchesPredicate (js : Runtime) (value : Row) : ModelQueryPredicate → Bool
  | .group predicates => matchesConstraints js value predicates
  | .null attr negate =>
    if negate then !isNullish (value.get attr) else isNullish (value.get attr)
  | .membership attr values negate =>
    let included := values.any fun candidate =>
      compare js (value.get attr) (some candidate) = Ordering.eq
    if negate then !included else included
  | .between attr low high negate =>
    let included := (compare js (value.get attr) (some low)).isGE &&
      (compare js (value.get attr) (some high)).isLE
    if negate then !included else included
  | .column attr operator comparedAttr =>
    comparisonMatches js (value.get attr) operator (value.get comparedAttr)
  | .comparison attr operator operand =>
    comparisonMatches js (value.get attr) operator (some operand)

/-- `matchesConstraints`: the first predicate is evaluated directly, its connective is not read. -/
def matchesConstraints (js : Runtime) (value : Row) : List ModelQueryConstraint → Bool
  | [] => true
  | .mk _ predicate :: rest =>
    matchesRest js value (matchesPredicate js value predicate) rest

/-- The loop of `matchesConstraints`, from left to right. -/
def matchesRest (js : Runtime) (value : Row) (result : Bool) :
    List ModelQueryConstraint → Bool
  | [] => result
  | .mk .and predicate :: rest =>
    matchesRest js value (result && matchesPredicate js value predicate) rest
  | .mk .or predicate :: rest =>
    matchesRest js value (result || matchesPredicate js value predicate) rest

end

/-! ### Validation -/

inductive ModelAttributeKind
  | string | number | boolean | graphite | instant | localDate | duration | json
deriving DecidableEq

/-- A model as the query layer sees it: its id, the names of its attributes when they are known, and
their declared kinds. -/
structure ModelDefinition where
  id : String
  attributes : Option (List String)
  attributeTypes : String → Option ModelAttributeKind

def positiveInteger (value : ℤ) (name : String) : Except ModelError Unit :=
  if !isSafeInteger value || decide (value ≤ 0) then
    throw (.modelQueryError (name ++ " must be a positive integer."))
  else pure ()

def boundedPositiveInteger (value : ℤ) (name : String) (maximum : ℤ) : Except ModelError Unit := do
  positiveInteger value name
  if value > maximum then
    throw (.modelQueryError (name ++ " must be at most " ++ toString maximum ++ "."))

def nonNegativeInteger (value : ℤ) (name : String) : Except ModelError Unit :=
  if !isSafeInteger value || decide (value < 0) then
    throw (.modelQueryError (name ++ " must be a non-negative integer."))
  else pure ()

def rejectDurationOperation (kind : Option ModelAttributeKind) (operation : String) :
    Except ModelError Unit :=
  if kind = some .duration then
    throw (.modelQueryError
      ("Duration model attributes do not support " ++ operation ++ "."))
  else pure ()

def validateAttribute (attr : String) (allowedAttributes : Option (List String)) :
    Except ModelError Unit :=
  if isBlank attr then
    throw (.modelQueryError "Model query attributes cannot be empty.")
  else
    match allowedAttributes with
    | some allowed =>
      if allowed.contains attr then pure ()
      else throw (.modelQueryError ("Unknown model query attribute " ++ attr ++ "."))
    | none => pure ()

/-- Whether the operator is one of `=` and `!=`, which every kind of attribute supports. -/
def isEquality (operator : ModelQueryOperator) : Bool :=
  operator = .eq || operator = .ne

mutual

/-- The body of the loop of `validateConstraints`. -/
def validatePredicate (definition : ModelDefinition) :
    ModelQueryPredicate → Except ModelError Unit
  | .group predicates => validateConstraints definition predicates
  | .comparison attr operator _ => do
      validateAttribute attr definition.attributes
      if !isEquality operator then
        rejectDurationOperation (definition.attributeTypes attr) "comparison"
  | .column attr operator comparedAttr => do
      validateAttribute attr definition.attributes
      validateAttribute comparedAttr definition.attributes
      if !isEquality operator then
        rejectDurationOperation (definition.attributeTypes attr) "comparison"
        rejectDurationOperation (definition.attributeTypes comparedAttr) "comparison"
  | .between attr _ _ _ => do
      validateAttribute attr definition.attributes
      rejectDurationOperation (definition.attributeTypes attr) "range queries"
  | .membership attr _ _ => validateAttribute attr definition.attributes
  | .null attr _ => validateAttribute attr definition.attributes

/-- `validateConstraints`. -/
def validateConstraints (definition : ModelDefinition) :
    List ModelQueryConstraint → Except ModelError Unit
  | [] => pure ()
  | .mk _ predicate :: rest => do
      validatePredicate definition predicate
      validateConstraints definition rest

end

/-- The checks made on one order. -/
def validateOrder (definition : ModelDefinition) (order : ModelQueryOrder) :
    Except ModelError Unit := do
  validateAttribute order.attr definition.attributes
  rejectDurationOperation (definition.attributeTypes order.attr) "ordering"

/-- `validateModelQueryPlan`. -/
def validateModelQueryPlan (definition : ModelDefinition) (plan : ModelQueryPlan) :
    Except ModelError Unit := do
  if let some limit := plan.limit then positiveInteger limit "Query limit"
  if let some offset := plan.offset then nonNegativeInteger offset "Query offset"
  plan.orders.forM (validateOrder definition)
  validateConstraints definition plan.constraints

/-! ### Evaluation -/

/-- The comparator of one order. -/
def compareOrder (order : ModelQueryOrder) (left right : Row) : Ordering :=
  let comparison := compare js (left.get order.attr) (right.get order.attr)
  match order.direction with
  | .asc => comparison
  | .desc => comparison.swap

/-- The comparator `applyModelQueryPlan` sorts by: the first order that does not tie decides. -/
def compareRows (orders : List ModelQueryOrder) : Row → Row → Ordering :=
  Lex.lexCmp (orders.map (compareOrder js))

/-- `Array.prototype.sort` with a comparator: a stable sort. -/
def sortRows (orders : List ModelQueryOrder) (rows : List Row) : List Row :=
  rows.mergeSort fun left right => (compareRows js orders left right).isLE

/-- `result.slice(start, end)` for the bounds of a valid plan. -/
def sliceRows (limit offset : Option ℤ) (rows : List Row) : List Row :=
  let tail := rows.drop (offset.getD 0).toNat
  match limit with
  | some limit => tail.take limit.toNat
  | none => tail

/-- `applyModelQueryPlan`: filter, sort, slice. -/
def applyModelQueryPlan (values : List Row) (plan : ModelQueryPlan) : List Row :=
  let result := values.filter fun value => matchesConstraints js value plan.constraints
  let result := if plan.orders.isEmpty then result else sortRows js plan.orders result
  sliceRows plan.limit plan.offset result

/-! ### Accepted plans -/

theorem validateConstraints_eq_ok_iff (definition : ModelDefinition)
    (cs : List ModelQueryConstraint) :
    validateConstraints definition cs = .ok () ↔
      ∀ c ∈ cs, validatePredicate definition c.predicate = .ok () := by
  induction cs with
  | nil => simp [validateConstraints, pure, Except.pure]
  | cons c cs ih =>
    obtain ⟨boolean, predicate⟩ := c
    rw [validateConstraints, Except.bind_eq_ok, ih]
    simp [ModelQueryConstraint.predicate]

/-- **A plan is accepted when each of its parts is.** -/
theorem validateModelQueryPlan_eq_ok_iff (definition : ModelDefinition) (plan : ModelQueryPlan) :
    validateModelQueryPlan definition plan = .ok () ↔
      (∀ limit ∈ plan.limit, positiveInteger limit "Query limit" = .ok ()) ∧
      (∀ offset ∈ plan.offset, nonNegativeInteger offset "Query offset" = .ok ()) ∧
      (∀ order ∈ plan.orders, validateOrder definition order = .ok ()) ∧
      ∀ c ∈ plan.constraints, validatePredicate definition c.predicate = .ok () := by
  obtain ⟨constraints, orders, limit, offset⟩ := plan
  have horders : forM orders (validateOrder definition) = .ok () ↔
      ∀ order ∈ orders, validateOrder definition order = .ok () :=
    Except.forM_eq_ok_iff _ _
  have hconstraints := validateConstraints_eq_ok_iff definition constraints
  cases limit <;> cases offset <;>
    simp [validateModelQueryPlan, Except.bind_eq_ok, horders, hconstraints]

/-! ### Lists of constraints -/

theorem matchesRest_append (js : Runtime) (value : Row) (cs ds : List ModelQueryConstraint) :
    ∀ result, matchesRest js value result (cs ++ ds) =
      matchesRest js value (matchesRest js value result cs) ds := by
  induction cs with
  | nil => intro result; rfl
  | cons c cs ih =>
    intro result
    obtain ⟨boolean, predicate⟩ := c
    cases boolean with
    | and => exact ih _
    | or => exact ih _

/-- **A constraint added with `and` narrows the whole list**, whatever connectives the list uses. -/
theorem matchesConstraints_append_and (js : Runtime) (value : Row)
    (cs : List ModelQueryConstraint) (predicate : ModelQueryPredicate) :
    matchesConstraints js value (cs ++ [.mk .and predicate])
      = (matchesConstraints js value cs && matchesPredicate js value predicate) := by
  cases cs with
  | nil => simp [matchesConstraints, matchesRest]
  | cons c cs =>
    obtain ⟨boolean, first⟩ := c
    simp only [List.cons_append, matchesConstraints, matchesRest_append, matchesRest]

theorem matchesRest_and (js : Runtime) (value : Row) (cs : List ModelQueryConstraint)
    (h : ∀ c ∈ cs, c.boolean = .and) : ∀ result,
    matchesRest js value result cs =
      (result && cs.all fun c => matchesPredicate js value c.predicate) := by
  induction cs with
  | nil => intro result; simp [matchesRest]
  | cons c cs ih =>
    intro result
    obtain ⟨boolean, predicate⟩ := c
    obtain rfl : boolean = .and := h _ List.mem_cons_self
    simp [matchesRest, ih fun c hc => h c (List.mem_cons_of_mem _ hc), Bool.and_assoc,
      ModelQueryConstraint.predicate]

/-- A list joined by `and` holds when all its predicates do. -/
theorem matchesConstraints_all (js : Runtime) (value : Row) (cs : List ModelQueryConstraint)
    (h : ∀ c ∈ cs, c.boolean = .and) :
    matchesConstraints js value cs = cs.all fun c => matchesPredicate js value c.predicate := by
  cases cs with
  | nil => rfl
  | cons c cs =>
    obtain ⟨boolean, predicate⟩ := c
    simp [matchesConstraints, ModelQueryConstraint.predicate,
      matchesRest_and js value cs fun c hc => h c (List.mem_cons_of_mem _ hc)]

theorem matchesRest_or (js : Runtime) (value : Row) (cs : List ModelQueryConstraint)
    (h : ∀ c ∈ cs, c.boolean = .or) : ∀ result,
    matchesRest js value result cs =
      (result || cs.any fun c => matchesPredicate js value c.predicate) := by
  induction cs with
  | nil => intro result; simp [matchesRest]
  | cons c cs ih =>
    intro result
    obtain ⟨boolean, predicate⟩ := c
    obtain rfl : boolean = .or := h _ List.mem_cons_self
    simp [matchesRest, ih fun c hc => h c (List.mem_cons_of_mem _ hc), Bool.or_assoc,
      ModelQueryConstraint.predicate]

/-- A nonempty list joined by `or` holds when one of its predicates does. -/
theorem matchesConstraints_any (js : Runtime) (value : Row) (c : ModelQueryConstraint)
    (cs : List ModelQueryConstraint) (h : ∀ d ∈ cs, d.boolean = .or) :
    matchesConstraints js value (c :: cs) =
      (c :: cs).any fun d => matchesPredicate js value d.predicate := by
  obtain ⟨boolean, predicate⟩ := c
  simp [matchesConstraints, matchesRest_or js value cs h, ModelQueryConstraint.predicate]

/-! ### The order of the values of one kind -/

variable {left right : Option ModelQueryValue}

/-- The kind of a value other than null. -/
def ModelQueryValue.kind : ModelQueryValue → Option ModelAttributeKind
  | string _ => some .string
  | number _ => some .number
  | boolean _ => some .boolean
  | graphite _ => some .graphite
  | instant _ => some .instant
  | localDate _ => some .localDate
  | duration _ => some .duration
  | null => none

/-- The value of an attribute is missing, null or of the given kind. -/
def OfKind (kind : ModelAttributeKind) : Option ModelQueryValue → Prop
  | none => True
  | some value => value = .null ∨ value.kind = some kind

instance (kind : ModelAttributeKind) (value : Option ModelQueryValue) :
    Decidable (OfKind kind value) :=
  match value with
  | none => isTrue trivial
  | some value =>
    inferInstanceAs (Decidable (value = .null ∨ value.kind = some kind))

/-- The values of the four primitive types, side by side in one linear order. -/
abbrev OrderKey := JsString ⊕ₗ (ℚ ⊕ₗ (Bool ⊕ₗ ℤ))

/-- The sort key of a primitive: null and undefined are at the bottom. -/
def primitiveKey : Primitive → WithBot OrderKey
  | .undefined => ⊥
  | .null => ⊥
  | .string text => ((.inlₗ text : OrderKey) : WithBot OrderKey)
  | .number value => ((.inrₗ (.inlₗ value) : OrderKey) : WithBot OrderKey)
  | .boolean value =>
    ((.inrₗ (.inrₗ (.inlₗ value)) : OrderKey) : WithBot OrderKey)
  | .bigint value =>
    ((.inrₗ (.inrₗ (.inrₗ value)) : OrderKey) : WithBot OrderKey)

/-- The sort key of a value. -/
def compareKey (value : Option ModelQueryValue) : WithBot OrderKey :=
  primitiveKey (comparableValue value)

/-- Both operands have the same primitive type. -/
inductive SameType : Primitive → Primitive → Prop
  | string (left right : JsString) : SameType (.string left) (.string right)
  | number (left right : ℚ) : SameType (.number left) (.number right)
  | boolean (left right : Bool) : SameType (.boolean left) (.boolean right)
  | bigint (left right : ℤ) : SameType (.bigint left) (.bigint right)

/-- On operands of one primitive type `<` is the order of the keys. -/
theorem primitiveLess_eq {left right : Primitive} (h : SameType left right) :
    primitiveLess js left right = decide (primitiveKey left < primitiveKey right) := by
  cases h <;> simp [primitiveLess, primitiveKey]

/-- On operands of one primitive type the key loses nothing. -/
theorem primitiveKey_inj {left right : Primitive} (h : SameType left right) :
    primitiveKey left = primitiveKey right ↔ left = right := by
  cases h <;> simp [primitiveKey]

theorem compareKey_eq_bot_iff (value : Option ModelQueryValue) :
    compareKey value = ⊥ ↔ isNullish value = true := by
  rcases value with _ | value
  · simp [isNullish, compareKey, comparableValue, primitiveKey]
  · cases value <;> simp [isNullish, compareKey, comparableValue, primitiveKey]

/-- Two values of one kind, neither of them null, have the same primitive type. -/
theorem OfKind.sameType {kind : ModelAttributeKind} (hl : OfKind kind left) (hr : OfKind kind right)
    (hnl : isNullish left = false) (hnr : isNullish right = false) :
    SameType (comparableValue left) (comparableValue right) := by
  rcases left with _ | left
  · simp [isNullish] at hnl
  rcases right with _ | right
  · simp [isNullish] at hnr
  obtain rfl | hl := hl
  · simp [isNullish] at hnl
  obtain rfl | hr := hr
  · simp [isNullish] at hnr
  rw [← hr] at hl
  cases left <;> cases right <;> first | constructor | simp [ModelQueryValue.kind] at hl hr

theorem isDeepEqual_of_not_nullish (h : isNullish left = false) :
    isDeepEqual left right = decide (comparableValue left = comparableValue right) := by
  simp [isDeepEqual, h]

/-- A value that is null and one that is not are not equal. -/
theorem comparableValue_ne_of_nullish (hl : isNullish left = true) (hr : isNullish right = false) :
    comparableValue left ≠ comparableValue right := by
  intro h
  have hkey : compareKey left = compareKey right := congrArg primitiveKey h
  rw [(compareKey_eq_bot_iff left).2 hl] at hkey
  rw [(compareKey_eq_bot_iff right).1 hkey.symm] at hr
  cases hr

/-- **The comparison of two values of one kind is the order of their keys**, with null and missing
values first. -/
theorem compare_eq_compareKey {kind : ModelAttributeKind} (hl : OfKind kind left)
    (hr : OfKind kind right) :
    compare js left right = Ord.compare (compareKey left) (compareKey right) := by
  cases hnl : isNullish left with
  | true =>
    rw [(compareKey_eq_bot_iff left).2 hnl]
    cases hnr : isNullish right with
    | true =>
      rw [(compareKey_eq_bot_iff right).2 hnr]
      simp [compare, isDeepEqual, hnl, hnr]
    | false =>
      have hbot : (⊥ : WithBot OrderKey) < compareKey right := by
        rw [bot_lt_iff_ne_bot, Ne, compareKey_eq_bot_iff, hnr]
        decide
      rw [compare_lt_iff_lt.2 hbot]
      simp [compare, isDeepEqual, hnl, hnr, comparableValue_ne_of_nullish hnl hnr]
  | false =>
    cases hnr : isNullish right with
    | true =>
      have hbot : compareKey right < compareKey left := by
        rw [(compareKey_eq_bot_iff right).2 hnr, bot_lt_iff_ne_bot, Ne,
          compareKey_eq_bot_iff, hnl]
        decide
      rw [compare_gt_iff_gt.2 hbot]
      simp [compare, isDeepEqual, hnl, hnr, (comparableValue_ne_of_nullish hnr hnl).symm]
    | false =>
      have hsame := hl.sameType hr hnl hnr
      rw [compare, isDeepEqual_of_not_nullish hnl, hnl, hnr, primitiveLess_eq js hsame]
      rcases lt_trichotomy (compareKey left) (compareKey right) with h | h | h
      · have hne : comparableValue left ≠ comparableValue right :=
          fun he => h.ne (congrArg primitiveKey he)
        rw [compare_lt_iff_lt.2 h]
        simpa [hne, compareKey] using h
      · have he : comparableValue left = comparableValue right := (primitiveKey_inj hsame).1 h
        simp [he, h]
      · have hne : comparableValue left ≠ comparableValue right :=
          fun he => h.ne' (congrArg primitiveKey he)
        rw [compare_gt_iff_gt.2 h]
        simpa [hne, compareKey] using h.le

end Doxa
