/-
**Relationships between models.**

A model declares relationships: to one owner, to one or many models that carry its key, or to many
models through a pivot.  A query may ask for rows by the number of their related rows, along a path
of relationships and with a callback that narrows the related query (`ModelQuery.has` and
`ModelQuery.whereHas`).  Before a plan reaches an adapter, each such constraint is turned into an
ordinary one: the related query is run, the keys it yields are counted, and the rows whose key has
a count that compares, or has none that does not, are the ones that are asked for.

Rows are those of tables held in memory.  A path is given by its segments, and a callback by what
it makes of the queries it may be given: those of a related model that follow the remaining path.

Main definitions:

* `Doxa.ModelRelationship`, `Doxa.ModelRegistry` — declared relationships, with the check made on
  their keys at boot;
* `Doxa.RelationalQuery` — a query with relationship constraints;
* `Doxa.relationshipPredicate` — the constraint a relationship constraint is turned into;
* `Doxa.RelationalQuery.resolve` — `ModelSession.resolveRelationshipConstraints`.

Main results:

* `Doxa.selects_of_linkCount`, `Doxa.linkCount_of_selects` — **the rows the constraint selects**;
* `Doxa.constrainRelationship_eq_ok_iff` — what resolving it adds to a plan.
-/

import Doxa.Lib.Except
import Doxa.Lib.OrderedMap
import Doxa.ModelQuery

set_option relaxedAutoImplicit false
set_option autoImplicit false

namespace Doxa

open Js

/-! ### Declarations -/

/-- A declared relationship of a model, with the models and attributes it goes by. -/
inductive ModelRelationship
  | belongsTo (related foreignKey ownerKey : String)
  | hasOne (related localKey foreignKey : String)
  | hasMany (related localKey foreignKey : String)
  | belongsToMany (related through localKey relatedKey foreignKey relatedForeignKey : String)
deriving DecidableEq

/-- The model it leads to. -/
def ModelRelationship.related : ModelRelationship → String
  | belongsTo related _ _ => related
  | hasOne related _ _ => related
  | hasMany related _ _ => related
  | belongsToMany related _ _ _ _ _ => related

/-- The key attributes of a relationship of the model, with the models they belong to. -/
def ModelRelationship.keys (model : String) : ModelRelationship → List (String × String)
  | belongsTo related foreignKey ownerKey => [(model, foreignKey), (related, ownerKey)]
  | hasOne related localKey foreignKey => [(model, localKey), (related, foreignKey)]
  | hasMany related localKey foreignKey => [(model, localKey), (related, foreignKey)]
  | belongsToMany related through localKey relatedKey foreignKey relatedForeignKey =>
    [(model, localKey), (related, relatedKey), (through, foreignKey),
      (through, relatedForeignKey)]

/-- The declared models and their relationships.  `assertModelRelationships` refuses to boot unless
every relationship has a name and every key is an attribute of its model. -/
structure ModelRegistry where
  definition : String → ModelDefinition
  relationships : String → String → Option ModelRelationship
  name_declared : ∀ model name relationship, relationships model name = some relationship →
    isBlank name = false
  keys_declared : ∀ model name relationship, relationships model name = some relationship →
    ∀ key ∈ relationship.keys model,
      validateAttribute key.2 (definition key.1).attributes = .ok ()

/-- The tables, by model. -/
abbrev Database := String → List Row

/-! ### Queries -/

variable (js : Runtime)

inductive RelationshipOperator
  | eq | ne | lt | le | gt | ge
deriving DecidableEq

/-- `countComparison`. -/
def countComparison (actual : ℕ) (operator : RelationshipOperator) (expected : ℕ) : Bool :=
  match operator with
  | .eq => decide (actual = expected)
  | .ne => decide (actual ≠ expected)
  | .lt => decide (actual < expected)
  | .le => decide (actual ≤ expected)
  | .gt => decide (actual > expected)
  | .ge => decide (actual ≥ expected)

/-- A query: a plan, to which relationship constraints were added one after the other.  The
callback of `whereHas` is given the query of the related model that follows the segments left of
the path. -/
inductive RelationalQuery
  | plan (plan : ModelQueryPlan)
  | has (query : RelationalQuery) (path : List String) (operator : RelationshipOperator)
      (count : ℕ)
  | whereHas (query : RelationalQuery) (path : List String)
      (constrain : List String → RelationalQuery) (operator : RelationshipOperator) (count : ℕ)

/-- `EMPTY_PLAN`. -/
def emptyPlan : ModelQueryPlan := { constraints := [], orders := [], limit := none, offset := none }

/-- The plan with one more constraint. -/
def ModelQueryPlan.constrain (plan : ModelQueryPlan) (predicate : ModelQueryPredicate) :
    ModelQueryPlan :=
  { plan with constraints :=
      plan.constraints ++ [.mk .and predicate] }

@[simp]
theorem ModelQueryPlan.constrain_constraints (plan : ModelQueryPlan)
    (predicate : ModelQueryPredicate) : (plan.constrain predicate).constraints =
      plan.constraints ++ [.mk .and predicate] := rfl

/-- The rows of a query with a resolved plan. -/
def queryRows (db : Database) (model : String) (plan : ModelQueryPlan) : List Row :=
  applyModelQueryPlan js (db model) plan

/-- `ModelQuery.pluck`, for a resolved plan. -/
def pluck (db : Database) (model : String) (plan : ModelQueryPlan) (attr : String) :
    List (Option ModelQueryValue) :=
  (queryRows js db model plan).map fun row => row.get attr

/-- `queryValue`: what is `undefined` is not a query value. -/
def queryValue : Option ModelQueryValue → Except ModelError ModelQueryValue
  | some value => pure value
  | none => throw (.modelQueryError
      "Model query values must be strings, numbers, booleans, Doxa datetime values, or null.")

/-- `countValues`: missing values are passed over, the others are told apart by `sameValue`, which
is equality here. -/
def countValues (values : List (Option ModelQueryValue)) : OrderedMap ModelQueryValue ℕ :=
  .tally values.reduceOption

/-- `relationshipKeysForCount`. -/
def relationshipKeysForCount (counts : OrderedMap ModelQueryValue ℕ)
    (operator : RelationshipOperator) (count : ℕ) : List ModelQueryValue :=
  (counts.entries.filter fun entry => countComparison entry.2 operator count).map Prod.fst

/-- The constraint on counted keys: one of those with a matching count, or, when rows without a key
are to be selected too, none of those with another. -/
def countedMembership (attributeName : String) (observedCounts : OrderedMap ModelQueryValue ℕ)
    (operator : RelationshipOperator) (count : ℕ) : ModelQueryPredicate :=
  let zeroMatches := countComparison 0 operator count
  let values :=
    if zeroMatches then
      (observedCounts.entries.filter fun entry => !countComparison entry.2 operator count).map
        Prod.fst
    else relationshipKeysForCount observedCounts operator count
  .membership attributeName values zeroMatches

/-- The constraint on the key of an owner, which is there or not; there is none when both are
asked for. -/
def ownerMembership (attributeName : String) (matchingValues : List (Option ModelQueryValue))
    (operator : RelationshipOperator) (count : ℕ) : Option ModelQueryPredicate :=
  let zeroMatches := countComparison 0 operator count
  let oneMatches := countComparison 1 operator count
  if zeroMatches = oneMatches then
    if zeroMatches then none
    else some (.membership attributeName [] false)
  else
    -- a missing key goes into the list as it is, where it compares as null does
    some (.membership attributeName
      (matchingValues.map fun value => value.getD .null)
      (zeroMatches && !oneMatches))

/-- The constraint that a relationship constraint is turned into, given the plan of the related
query. -/
def relationshipPredicate (app : ModelRegistry) (db : Database) (relationship : ModelRelationship)
    (relatedPlan : ModelQueryPlan) (operator : RelationshipOperator) (count : ℕ) :
    Except ModelError (Option ModelQueryPredicate) :=
  match relationship with
  | .belongsTo related foreignKey ownerKey =>
    pure (ownerMembership foreignKey (pluck js db related relatedPlan ownerKey) operator count)
  | .hasOne related localKey foreignKey
  | .hasMany related localKey foreignKey =>
    pure (some (countedMembership localKey
      (countValues (pluck js db related relatedPlan foreignKey)) operator count))
  | .belongsToMany related through localKey relatedKey foreignKey
      relatedForeignKey => do
      let relatedKeys ← (pluck js db related relatedPlan relatedKey).mapM queryValue
      let pivotPlan := emptyPlan.constrain
        (.membership relatedForeignKey relatedKeys false)
      validateModelQueryPlan (app.definition through) pivotPlan
      return some (countedMembership localKey
        (countValues (pluck js db through pivotPlan foreignKey)) operator count)

/-- The relationship a segment of a path names. -/
def declaredRelationship (app : ModelRegistry) (model name : String) :
    Except ModelError ModelRelationship :=
  if name = "" then throw (.modelQueryError "Relationship paths cannot be empty.")
  else
    match app.relationships model name with
    | some relationship => pure relationship
    | none => throw (.modelQueryError
        (model ++ "." ++ name ++ " is not a declared relationship."))

/-- The plan with one more relationship constraint resolved into it. -/
def constrainRelationship (app : ModelRegistry) (db : Database) (model : String)
    (resolved : ModelQueryPlan) (relationship : ModelRelationship) (relatedPlan : ModelQueryPlan)
    (operator : RelationshipOperator) (count : ℕ) : Except ModelError ModelQueryPlan := do
  let predicate ← relationshipPredicate js app db relationship relatedPlan operator count
  let constrained := predicate.elim resolved resolved.constrain
  validateModelQueryPlan (app.definition model) constrained
  return constrained

/-- What `new ModelQuery(model)` with `whereHas` along the path is resolved to; without a segment
nothing is asked for. -/
def resolvePath (js : Runtime) (app : ModelRegistry) (db : Database) :
    String → List String → Except ModelError ModelQueryPlan
  | _, [] => pure emptyPlan
  | model, name :: nested => do
      let relationship ← declaredRelationship app model name
      let relatedPlan ← resolvePath js app db relationship.related nested
      constrainRelationship js app db model emptyPlan relationship relatedPlan
        .ge 1

/-- **`ModelSession.resolveRelationshipConstraints`**: the plan an adapter is given. -/
def RelationalQuery.resolve (js : Runtime) (app : ModelRegistry) (db : Database) :
    String → RelationalQuery → Except ModelError ModelQueryPlan
  | model, plan given => do
      validateModelQueryPlan (app.definition model) given
      return given
  | model, has query path operator count => do
      let resolved ← query.resolve js app db model
      let relationship ← declaredRelationship app model (path.headD "")
      let relatedPlan ← resolvePath js app db relationship.related path.tail
      constrainRelationship js app db model resolved relationship relatedPlan operator count
  | model, whereHas query path constrain operator count => do
      let resolved ← query.resolve js app db model
      let relationship ← declaredRelationship app model (path.headD "")
      let relatedPlan ← (constrain path.tail).resolve js app db relationship.related
      constrainRelationship js app db model resolved relationship relatedPlan operator count

/-! ### Counted keys -/

variable {values : List (Option ModelQueryValue)}

/-- Whether two values compare as equal does not depend on how others compare. -/
theorem compare_eq_eq_iff (left right : Option ModelQueryValue) :
    compare js left right = Ordering.eq ↔ isDeepEqual left right = true := by
  rw [compare]
  split_ifs <;> simp_all

/-- A missing value is equal to what null is equal to. -/
theorem isDeepEqual_getD (left right : Option ModelQueryValue) :
    isDeepEqual left (some (right.getD .null)) = isDeepEqual left right := by
  cases right with
  | some value => rfl
  | none =>
    cases left with
    | none => rfl
    | some value => cases value <;> simp [isDeepEqual, isNullish, comparableValue]

/-- What a membership says of a row. -/
theorem matchesPredicate_membership (row : Row) (attr : String) (values : List ModelQueryValue)
    (negate : Bool) :
    matchesPredicate js row (.membership attr values negate) = true ↔
      if negate then ∀ value ∈ values, isDeepEqual (row.get attr) (some value) = false
      else ∃ value ∈ values, isDeepEqual (row.get attr) (some value) = true := by
  cases negate with
  | true => simp [matchesPredicate, compare_eq_eq_iff]
  | false => simp [matchesPredicate, compare_eq_eq_iff]

/-- The number that a list of keys gives for one key, when those equal to it are each borne equally
often: that, or none when no key is. -/
structure IsTally (keys : List ModelQueryValue) (key : Option ModelQueryValue) (n : ℕ) : Prop where
  count_eq : ∀ other ∈ keys, isDeepEqual key (some other) = true → keys.count other = n
  eq_zero : (∀ other ∈ keys, isDeepEqual key (some other) = false) → n = 0

/-- The rows whose key is counted as often as asked for. -/
theorem matchesPredicate_countedMembership (row : Row) (attr : String)
    (values : List (Option ModelQueryValue)) (operator : RelationshipOperator) (count : ℕ) :
    matchesPredicate js row (countedMembership attr (countValues values) operator count) = true ↔
      if countComparison 0 operator count then
        ∀ key ∈ values.reduceOption, isDeepEqual (row.get attr) (some key) = true →
          countComparison (values.reduceOption.count key) operator count = true
      else
        ∃ key ∈ values.reduceOption, isDeepEqual (row.get attr) (some key) = true ∧
          countComparison (values.reduceOption.count key) operator count = true := by
  have hentries : ∀ key n, (key, n) ∈ (countValues values).entries ↔
      key ∈ values.reduceOption ∧ values.reduceOption.count key = n :=
    fun key n => OrderedMap.mem_entries_tally
  rw [countedMembership, matchesPredicate_membership]
  cases hzero : countComparison 0 operator count with
  | true =>
    simp only [if_true, List.mem_map, List.mem_filter, Prod.exists, hentries]
    constructor
    · intro h key hkey hequal
      by_contra hnot
      have hfalse := h key ⟨key, _, ⟨⟨hkey, rfl⟩, by simpa using hnot⟩, rfl⟩
      rw [hequal] at hfalse
      cases hfalse
    · rintro h value ⟨key, n, ⟨⟨hkey, rfl⟩, hnot⟩, rfl⟩
      by_contra hequal
      have htrue := h key hkey (by simpa using hequal)
      simp [htrue] at hnot
  | false =>
    simp only [Bool.false_eq_true, if_false, relationshipKeysForCount, List.mem_map,
      List.mem_filter, Prod.exists, hentries]
    constructor
    · rintro ⟨value, ⟨key, n, ⟨⟨hkey, rfl⟩, hcount⟩, rfl⟩, hequal⟩
      exact ⟨key, hkey, hequal, hcount⟩
    · rintro ⟨key, hkey, hequal, hcount⟩
      exact ⟨key, ⟨key, _, ⟨⟨hkey, rfl⟩, hcount⟩, rfl⟩, hequal⟩

/-- A row that is selected by one number alone has the tally of its key. -/
theorem isTally_of_selects {row : Row} {attr : String} {n : ℕ}
    (h : ∀ count, matchesPredicate js row (countedMembership attr (countValues values)
      .eq count) = countComparison n .eq count) : IsTally values.reduceOption (row.get attr) n := by
  refine ⟨?_, ?_⟩
  · -- a key that compares as equal is borne at least once, so its number may be asked for
    intro key hkey hequal
    have hpos : 0 < values.reduceOption.count key := List.count_pos_iff.2 hkey
    have hzero : countComparison 0 .eq (values.reduceOption.count key)
        = false := by
      simp [countComparison]
      omega
    have hselected : matchesPredicate js row (countedMembership attr (countValues values)
        .eq (values.reduceOption.count key)) = true := by
      rw [matchesPredicate_countedMembership, hzero, if_neg (by decide)]
      exact ⟨key, hkey, hequal, by simp [countComparison]⟩
    rw [h] at hselected
    have hn : n = values.reduceOption.count key := by simpa [countComparison] using hselected
    exact hn.symm
  · intro hnone
    have hselected : matchesPredicate js row (countedMembership attr (countValues values)
        .eq 0) = true := by
      rw [matchesPredicate_countedMembership, if_pos (by simp [countComparison])]
      intro key hkey hequal
      rw [hnone key hkey] at hequal
      cases hequal
    rw [h] at hselected
    simpa [countComparison] using hselected

/-- **A row is selected by the tally of its key**, whatever number is asked for and how. -/
theorem selects_of_isTally {row : Row} {attr : String} {n : ℕ}
    (h : IsTally values.reduceOption (row.get attr) n) (operator : RelationshipOperator)
    (count : ℕ) :
    matchesPredicate js row (countedMembership attr (countValues values) operator count)
      = countComparison n operator count := by
  obtain ⟨hcount, hnone⟩ := h
  rw [Bool.eq_iff_iff, matchesPredicate_countedMembership]
  by_cases hsome : ∃ key ∈ values.reduceOption, isDeepEqual (row.get attr) (some key) = true
  · obtain ⟨key, hkey, hequal⟩ := hsome
    have hn := hcount key hkey hequal
    split_ifs
    · constructor
      · intro h
        rw [← hn]
        exact h key hkey hequal
      · intro h other hother hother'
        rw [hcount other hother hother']
        exact h
    · constructor
      · rintro ⟨other, hother, hother', h⟩
        rwa [hcount other hother hother'] at h
      · intro h
        exact ⟨key, hkey, hequal, by rwa [hn]⟩
  · have hfalse : ∀ key ∈ values.reduceOption,
        isDeepEqual (row.get attr) (some key) = false := by
      intro key hkey
      by_contra hequal
      exact hsome ⟨key, hkey, by simpa using hequal⟩
    rw [hnone hfalse]
    split_ifs with hzero
    · simp only [hzero, iff_true]
      intro key hkey hequal
      exact absurd ⟨key, hkey, hequal⟩ hsome
    · simp only [hzero, iff_false, Bool.false_eq_true]
      rintro ⟨key, hkey, hequal, -⟩
      exact hsome ⟨key, hkey, hequal⟩

/-- Whether a row is selected by a constraint, if there is one. -/
def selectedBy (row : Row) (predicate : Option ModelQueryPredicate) : Bool :=
  predicate.elim true (matchesPredicate js row)

/-- How many owners a constraint takes a row to have: one, when some owner's key is equal to its. -/
def ownerCount (key : Option ModelQueryValue) (ownerKeys : List (Option ModelQueryValue)) : ℕ :=
  if ownerKeys.any (isDeepEqual key) then 1 else 0

theorem matchesPredicate_ownerKeys (row : Row) (attr : String)
    (ownerKeys : List (Option ModelQueryValue)) (negate : Bool) :
    matchesPredicate js row (.membership attr
        (ownerKeys.map fun value => value.getD .null) negate)
      = (ownerKeys.any (isDeepEqual (row.get attr)) ^^ negate) := by
  rw [Bool.eq_iff_iff, matchesPredicate_membership]
  cases negate with
  | true => simp [isDeepEqual_getD]
  | false => simp [isDeepEqual_getD]

theorem selectedBy_ownerMembership (row : Row) (attr : String)
    (ownerKeys : List (Option ModelQueryValue)) (operator : RelationshipOperator) (count : ℕ) :
    selectedBy js row (ownerMembership attr ownerKeys operator count)
      = countComparison (ownerCount (row.get attr) ownerKeys) operator count := by
  rw [ownerMembership, ownerCount]
  by_cases hsame : countComparison 0 operator count = countComparison 1 operator count
  · rw [if_pos hsame]
    -- having an owner makes no difference
    have hcount : countComparison
        (if ownerKeys.any (isDeepEqual (row.get attr)) then 1 else 0) operator count
        = countComparison 0 operator count := by
      split_ifs
      · exact hsame.symm
      · rfl
    rw [hcount]
    cases hzero : countComparison 0 operator count with
    | true => rfl
    | false => simp [selectedBy, matchesPredicate]
  · rw [if_neg hsame, selectedBy, Option.elim_some, matchesPredicate_ownerKeys]
    cases ownerKeys.any (isDeepEqual (row.get attr)) <;>
      cases hzero : countComparison 0 operator count <;>
      cases hone : countComparison 1 operator count <;> simp_all

/-! ### The number a relationship gives -/

variable {relatedPlan resolved : ModelQueryPlan} {model name : String}
  {relationship : ModelRelationship} {db : Database} {app : ModelRegistry}

/-- The keys that the pivots carry which point to one of the related keys. -/
def pivotKeys (pivots : List Row) (foreignKey relatedForeignKey : String)
    (relatedKeys : List (Option ModelQueryValue)) : List (Option ModelQueryValue) :=
  (pivots.filter fun pivot => relatedKeys.any (isDeepEqual (pivot.get relatedForeignKey))).map
    fun pivot => pivot.get foreignKey

/-- **The number of related rows that a parent is taken to have**, given those the related query
returns: an owner counts once, rows that carry the parent's key each count, and of a relationship
through pivots the pivots do.  Null is a key like any other, and a missing one is equal to it. -/
def LinkCount (db : Database) (relationship : ModelRelationship) (rows : List Row) (parent : Row)
    (n : ℕ) : Prop :=
  match relationship with
  | .belongsTo _ foreignKey ownerKey =>
    n = ownerCount (parent.get foreignKey) (rows.map fun row => row.get ownerKey)
  | .hasOne _ localKey foreignKey
  | .hasMany _ localKey foreignKey =>
    IsTally (rows.map fun row => row.get foreignKey).reduceOption (parent.get localKey) n
  | .belongsToMany _ through localKey relatedKey foreignKey relatedForeignKey =>
    (∀ row ∈ rows, row.get relatedKey ≠ none) ∧
      IsTally (pivotKeys (db through) foreignKey relatedForeignKey
        (rows.map fun row => row.get relatedKey)).reduceOption (parent.get localKey) n

theorem map_some_reduceOption (h : ∀ value ∈ values, value ≠ none) :
    values.reduceOption.map some = values := by
  induction values with
  | nil => rfl
  | cons value values ih =>
    obtain ⟨hvalue, hvalues⟩ := List.forall_mem_cons.1 h
    obtain ⟨present, rfl⟩ := Option.ne_none_iff_exists'.1 hvalue
    rw [List.reduceOption_cons_of_some, List.map_cons, ih hvalues]

theorem mapM_queryValue_eq_ok_iff (values : List (Option ModelQueryValue)) :
    ∀ keys, values.mapM queryValue = .ok keys ↔ values = keys.map some := by
  induction values with
  | nil =>
    intro keys
    change Except.ok [] = Except.ok keys ↔ _
    cases keys <;> simp
  | cons value values ih =>
    intro keys
    rw [List.mapM_cons, Except.bind_eq_ok_iff]
    constructor
    · rintro ⟨key, hkey, hrest⟩
      obtain ⟨others, hothers, heq⟩ := Except.bind_eq_ok_iff.1 hrest
      cases heq
      cases value with
      | none => cases hkey
      | some value =>
        cases hkey
        rw [(ih others).1 hothers, List.map_cons]
    · intro h
      cases keys with
      | nil => cases h
      | cons key keys =>
        obtain ⟨rfl, hrest⟩ := List.cons.inj h
        refine ⟨key, rfl, Except.bind_eq_ok_iff.2 ⟨keys, (ih keys).2 hrest, rfl⟩⟩

/-- Adding a membership keeps a plan accepted when the attribute is. -/
theorem validate_constrain_membership {definition : ModelDefinition} {plan : ModelQueryPlan}
    (hplan : validateModelQueryPlan definition plan = .ok ()) {attr : String}
    (hattr : validateAttribute attr definition.attributes = .ok ())
    (values : List ModelQueryValue) (negate : Bool) :
    validateModelQueryPlan definition
        (plan.constrain (.membership attr values negate)) = .ok () := by
  rw [validateModelQueryPlan_eq_ok_iff] at hplan ⊢
  obtain ⟨hlimit, hoffset, horders, hconstraints⟩ := hplan
  refine ⟨hlimit, hoffset, horders, ?_⟩
  intro c hc
  rw [ModelQueryPlan.constrain_constraints, List.mem_append] at hc
  rcases hc with hc | hc
  · exact hconstraints c hc
  · rw [List.mem_singleton.1 hc]
    exact hattr

theorem validate_emptyPlan (definition : ModelDefinition) :
    validateModelQueryPlan definition emptyPlan = .ok () := by
  simp [validateModelQueryPlan_eq_ok_iff, emptyPlan]

/-- A constraint added to a plan narrows what it selects. -/
theorem matchesConstraints_constrain (row : Row) (plan : ModelQueryPlan)
    (predicate : ModelQueryPredicate) :
    matchesConstraints js row (plan.constrain predicate).constraints
      = (matchesConstraints js row plan.constraints && matchesPredicate js row predicate) := by
  rw [ModelQueryPlan.constrain_constraints, matchesConstraints_append_and]

/-- The rows of a query that asks for one constraint. -/
theorem queryRows_constrain (db : Database) (model : String) (predicate : ModelQueryPredicate) :
    queryRows js db model (emptyPlan.constrain predicate)
      = (db model).filter fun row => matchesPredicate js row predicate := by
  have hmatches : ∀ row, matchesConstraints js row (emptyPlan.constrain predicate).constraints
      = matchesPredicate js row predicate := by
    intro row
    rw [matchesConstraints_constrain]
    rfl
  simp only [queryRows, applyModelQueryPlan, hmatches]
  rfl

/-- A query that asks for nothing returns the table. -/
@[simp]
theorem queryRows_emptyPlan (db : Database) (model : String) :
    queryRows js db model emptyPlan = db model := by
  simp [queryRows, applyModelQueryPlan, emptyPlan, sliceRows, matchesConstraints]

/-- The keys of the pivots that `belongsToMany` reads. -/
theorem pluck_pivots (db : Database) (through foreignKey relatedForeignKey : String)
    (relatedKeys : List ModelQueryValue) :
    pluck js db through (emptyPlan.constrain
        (.membership relatedForeignKey relatedKeys false)) foreignKey
      = pivotKeys (db through) foreignKey relatedForeignKey (relatedKeys.map some) := by
  have hsame : ∀ row, matchesPredicate js row
      (.membership relatedForeignKey relatedKeys false)
        = (relatedKeys.map some).any (isDeepEqual (row.get relatedForeignKey)) := by
    intro row
    rw [Bool.eq_iff_iff, matchesPredicate_membership]
    simp
  rw [pluck, queryRows_constrain, pivotKeys]
  simp only [hsame]

/-- What a relationship through pivots is turned into, when no related key is missing. -/
theorem relationshipPredicate_belongsToMany (app : ModelRegistry) (db : Database)
    {related through localKey relatedKey foreignKey relatedForeignKey : String}
    (hdeclared : app.relationships model name = some (.belongsToMany related
      through localKey relatedKey foreignKey relatedForeignKey)) {keys : List ModelQueryValue}
    (hkeys : pluck js db related relatedPlan relatedKey = keys.map some)
    (operator : RelationshipOperator) (count : ℕ) :
    relationshipPredicate js app db (.belongsToMany related through localKey
        relatedKey foreignKey relatedForeignKey) relatedPlan operator count
      = .ok (some (countedMembership localKey
          (countValues (pivotKeys (db through) foreignKey relatedForeignKey
            (pluck js db related relatedPlan relatedKey))) operator count)) := by
  have hattr := app.keys_declared _ _ _ hdeclared (through, relatedForeignKey)
    (by simp [ModelRelationship.keys])
  have hvalid := validate_constrain_membership (validate_emptyPlan (app.definition through)) hattr
    keys false
  rw [relationshipPredicate, (mapM_queryValue_eq_ok_iff _ keys).2 hkeys]
  change (validateModelQueryPlan _ _ >>= _) = _
  rw [hvalid, hkeys, ← pluck_pivots js]
  rfl

/-- **The number a relationship gives selects**: a relationship constraint selects the parent by it,
whatever number is asked for and how. -/
theorem selects_of_linkCount (app : ModelRegistry) (db : Database)
    (hdeclared : app.relationships model name = some relationship) {parent : Row} {n : ℕ}
    (h : LinkCount db relationship (queryRows js db relationship.related relatedPlan) parent n)
    (operator : RelationshipOperator) (count : ℕ) :
    ∃ predicate,
      relationshipPredicate js app db relationship relatedPlan operator count
          = .ok predicate ∧
        selectedBy js parent predicate = countComparison n operator count := by
  cases relationship with
  | belongsTo related foreignKey ownerKey =>
    refine ⟨_, rfl, ?_⟩
    rw [selectedBy_ownerMembership]
    exact congrArg (countComparison · operator count) h.symm
  | hasOne related localKey foreignKey => exact ⟨_, rfl, selects_of_isTally js h operator count⟩
  | hasMany related localKey foreignKey => exact ⟨_, rfl, selects_of_isTally js h operator count⟩
  | belongsToMany related through localKey relatedKey foreignKey relatedForeignKey =>
    obtain ⟨hpresent, htally⟩ := h
    have hkeys : (pluck js db related relatedPlan relatedKey).reduceOption.map some
        = pluck js db related relatedPlan relatedKey := by
      refine map_some_reduceOption fun value hvalue => ?_
      obtain ⟨row, hrow, rfl⟩ := List.mem_map.1 hvalue
      exact hpresent row hrow
    exact ⟨_, relationshipPredicate_belongsToMany js app db hdeclared hkeys.symm operator count,
      selects_of_isTally js htally operator count⟩

/-- **Only the number a relationship gives selects**: a parent that relationship constraints select
by one number alone is given that number. -/
theorem linkCount_of_selects {js : Runtime}
    (hdeclared : app.relationships model name = some relationship) {parent : Row} {n : ℕ}
    (h : ∀ count, ∃ predicate,
      relationshipPredicate js app db relationship relatedPlan .eq count
      = .ok predicate ∧
      selectedBy js parent predicate = countComparison n .eq count) :
    LinkCount db relationship (queryRows js db relationship.related relatedPlan) parent n := by
  cases relationship with
  | belongsTo related foreignKey ownerKey =>
    obtain ⟨predicate, hpredicate, hselected⟩ := h n
    cases hpredicate
    rw [selectedBy_ownerMembership] at hselected
    have hn : ownerCount (parent.get foreignKey) (pluck js db related relatedPlan ownerKey)
        = n := by
      simpa [countComparison] using hselected
    exact hn.symm
  | hasOne related localKey foreignKey =>
    refine isTally_of_selects js fun count => ?_
    obtain ⟨predicate, hpredicate, hselected⟩ := h count
    cases hpredicate
    exact hselected
  | hasMany related localKey foreignKey =>
    refine isTally_of_selects js fun count => ?_
    obtain ⟨predicate, hpredicate, hselected⟩ := h count
    cases hpredicate
    exact hselected
  | belongsToMany related through localKey relatedKey foreignKey relatedForeignKey =>
    obtain ⟨predicate, hpredicate, -⟩ := h 0
    obtain ⟨keys, hkeys, -⟩ := Except.bind_eq_ok_iff.1 hpredicate
    have hvalues := (mapM_queryValue_eq_ok_iff _ keys).1 hkeys
    refine ⟨?_, isTally_of_selects js fun count => ?_⟩
    · intro row hrow hnone
      have hmem : row.get relatedKey ∈ keys.map some := by
        rw [← hvalues]
        exact List.mem_map_of_mem hrow
      simp [hnone] at hmem
    · obtain ⟨predicate, hpredicate, hselected⟩ := h count
      rw [relationshipPredicate_belongsToMany js app db hdeclared hvalues] at hpredicate
      cases hpredicate
      exact hselected

/-! ### Resolved plans -/

variable {operator : RelationshipOperator}

/-- What a relationship constraint is turned into reads a declared key of the parent. -/
theorem validate_relationshipPredicate {js : Runtime}
    (hdeclared : app.relationships model name = some relationship)
    (hresolved : validateModelQueryPlan (app.definition model) resolved = .ok ()) {count : ℕ}
    {predicate : Option ModelQueryPredicate}
    (h : relationshipPredicate js app db relationship relatedPlan operator count = .ok predicate) :
    validateModelQueryPlan (app.definition model) (predicate.elim resolved resolved.constrain)
      = .ok () := by
  have hkeys := app.keys_declared model name relationship hdeclared
  cases relationship with
  | belongsTo related foreignKey ownerKey =>
    have hattr := hkeys (model, foreignKey) (by simp [ModelRelationship.keys])
    cases h
    rw [ownerMembership]
    split_ifs
    · exact hresolved
    · exact validate_constrain_membership hresolved hattr _ _
    · exact validate_constrain_membership hresolved hattr _ _
  | hasOne related localKey foreignKey =>
    have hattr := hkeys (model, localKey) (by simp [ModelRelationship.keys])
    cases h
    exact validate_constrain_membership hresolved hattr _ _
  | hasMany related localKey foreignKey =>
    have hattr := hkeys (model, localKey) (by simp [ModelRelationship.keys])
    cases h
    exact validate_constrain_membership hresolved hattr _ _
  | belongsToMany related through localKey relatedKey foreignKey relatedForeignKey =>
    have hattr := hkeys (model, localKey) (by simp [ModelRelationship.keys])
    obtain ⟨keys, -, h⟩ := Except.bind_eq_ok_iff.1 h
    obtain ⟨-, h⟩ := Except.bind_eq_ok.1 h
    cases h
    exact validate_constrain_membership hresolved hattr _ _

/-- **Resolving a relationship constraint** adds what it is turned into, and nothing else. -/
theorem constrainRelationship_eq_ok_iff {js : Runtime}
    (hdeclared : app.relationships model name = some relationship)
    (hresolved : validateModelQueryPlan (app.definition model) resolved = .ok ()) {count : ℕ}
    {constrained : ModelQueryPlan} :
    constrainRelationship js app db model resolved relationship relatedPlan operator count
        = .ok constrained ↔
      ∃ predicate, relationshipPredicate js app db relationship relatedPlan operator count
          = .ok predicate ∧ predicate.elim resolved resolved.constrain = constrained := by
  rw [constrainRelationship, Except.bind_eq_ok_iff]
  refine exists_congr fun predicate => and_congr_right fun hpredicate => ?_
  dsimp only
  rw [validate_relationshipPredicate hdeclared hresolved hpredicate]
  exact ⟨Except.ok.inj, congrArg Except.ok⟩

theorem declaredRelationship_eq_ok (h : app.relationships model name = some relationship) :
    declaredRelationship app model name = .ok relationship := by
  have hname : name ≠ "" := by
    rintro rfl
    exact absurd (app.name_declared model "" relationship h) (by decide)
  rw [declaredRelationship, if_neg hname, h]
  rfl

/-- Resolving one more relationship constraint into an accepted plan keeps it accepted. -/
theorem constrainRelationship_valid {js : Runtime} {count : ℕ} {constrained : ModelQueryPlan}
    (h : constrainRelationship js app db model resolved relationship relatedPlan operator count
      = .ok constrained) : validateModelQueryPlan (app.definition model) constrained = .ok () := by
  obtain ⟨predicate, -, h⟩ := Except.bind_eq_ok_iff.1 h
  obtain ⟨hvalid, h⟩ := Except.bind_eq_ok.1 h
  cases h
  exact hvalid

/-- What a query is resolved to is accepted. -/
theorem RelationalQuery.resolve_valid {js : Runtime} {query : RelationalQuery}
    (h : query.resolve js app db model = .ok resolved) :
    validateModelQueryPlan (app.definition model) resolved = .ok () := by
  cases query with
  | plan given =>
    obtain ⟨hvalid, h⟩ := Except.bind_eq_ok.1 h
    cases h
    exact hvalid
  | has query path operator count =>
    obtain ⟨_, -, h⟩ := Except.bind_eq_ok_iff.1 h
    obtain ⟨_, -, h⟩ := Except.bind_eq_ok_iff.1 h
    obtain ⟨_, -, h⟩ := Except.bind_eq_ok_iff.1 h
    exact constrainRelationship_valid h
  | whereHas query path constrain operator count =>
    obtain ⟨_, -, h⟩ := Except.bind_eq_ok_iff.1 h
    obtain ⟨_, -, h⟩ := Except.bind_eq_ok_iff.1 h
    obtain ⟨_, -, h⟩ := Except.bind_eq_ok_iff.1 h
    exact constrainRelationship_valid h

/-- What a resolved plan selects: what it did before, if the added constraint does. -/
theorem matchesConstraints_elim_constrain (row : Row) (resolved : ModelQueryPlan)
    (predicate : Option ModelQueryPredicate) :
    matchesConstraints js row (predicate.elim resolved resolved.constrain).constraints
      = (matchesConstraints js row resolved.constraints && selectedBy js row predicate) := by
  cases predicate with
  | none => simp [selectedBy]
  | some predicate => exact matchesConstraints_constrain js row resolved predicate

end Doxa
