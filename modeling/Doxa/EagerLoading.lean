/-
**Eager loading.**

`with` attaches to each model of a result the models it is related to.  `ModelSession.eagerLoad`
reads them for all parents at once, by the keys the parents carry, and then gives each parent those
that match its own key: by `sameValue` for models that carry the key or go by a pivot, and through a
`Map` for an owner.  A `Map` tells objects apart by reference, and a datetime is an object, which
each row that is read has for itself.

Relationship constraints join the same tables another way, by the number of equal keys.

The parents are models of a fresh session, so they are as their rows are.

Main definitions:

* `Doxa.loadRelation` — what `eagerLoad` attaches for one relationship;
* `Doxa.sharesKey` — a row goes by the key of the parent;
* `Doxa.AgreesWithHas` — what is attached are the rows that share the key, and `has` sees as many;
* `Doxa.LoadsExactly` — the keys are such that it does.

Main results:

* `Doxa.loadRelation_models` — what is attached;
* `Doxa.hasRelated_eq_iff` — which number `has` sees;
* `Doxa.eager_loading_agrees` — **eager loading agrees with `has` exactly when `LoadsExactly`**.
-/

import Doxa.RelationshipConstraints

set_option relaxedAutoImplicit false
set_option autoImplicit false

namespace Doxa

open Js

/-! ### Loading -/

/-- What is attached to a parent: one model or none, or many. -/
inductive LoadedRelation
  | one (model : Option Row)
  | many (models : List Row)

/-- The models that are attached. -/
def LoadedRelation.models : LoadedRelation → List Row
  | one model => model.toList
  | many models => models

/-- A key of a `Map`: a value, or an object that is told apart by what holds it. -/
inductive MapKey
  | value (value : Option ModelQueryValue)
  | object (model : String) (id : JsString) (attr : String)
deriving DecidableEq

/-- The attribute of a model as the key of a `Map`. -/
def mapKey (model : String) (row : Row) (attr : String) : MapKey :=
  match row.get attr with
  | some (.graphite _) | some (.instant _)
  | some (.localDate _) | some (.duration _) =>
    .object model row.id attr
  | value => .value value

/-- `uniqueValues`: the first of each value, without missing ones. -/
def uniqueValues (values : List (Option ModelQueryValue)) : List ModelQueryValue :=
  values.reduceOption.eraseDups

/-- `ModelQuery.whereIn`: one more constraint on the query. -/
def RelationalQuery.whereIn (attr : String) (values : List ModelQueryValue) :
    RelationalQuery → RelationalQuery
  | plan given => plan (given.constrain (.membership attr values false))
  | has query path operator count => has (query.whereIn attr values) path operator count
  | whereHas query path constrain operator count =>
    whereHas (query.whereIn attr values) path constrain operator count

/-- `ModelQuery.get`, in a fresh session. -/
def RelationalQuery.get (js : Runtime) (app : ModelRegistry) (db : Database) (model : String)
    (query : RelationalQuery) : Except ModelError (List Row) := do
  let resolved ← query.resolve js app db model
  return queryRows js db model resolved

/-- The part of `ModelSession.eagerLoad` that is about one relationship: what it attaches to each
parent, given the related query, which the callback may have narrowed. -/
def loadRelation (js : Runtime) (app : ModelRegistry) (db : Database) (model : String)
    (relationship : ModelRelationship) (relatedQuery : RelationalQuery) (parents : List Row) :
    Except ModelError (Row → LoadedRelation) :=
  match relationship with
  | .belongsTo related foreignKey ownerKey => do
      let keys := uniqueValues (parents.map fun parent => parent.get foreignKey)
      let relatedModels ← (relatedQuery.whereIn ownerKey keys).get js app db related
      -- of models with the same key, the last one stays in the map
      return fun parent => .one (relatedModels.filter fun row =>
        mapKey related row ownerKey = mapKey model parent foreignKey).getLast?
  | .hasOne related localKey foreignKey => do
      let keys := uniqueValues (parents.map fun parent => parent.get localKey)
      let relatedModels ← (relatedQuery.whereIn foreignKey keys).get js app db related
      return fun parent => .one (relatedModels.filter fun row =>
        row.get foreignKey = parent.get localKey).head?
  | .hasMany related localKey foreignKey => do
      let keys := uniqueValues (parents.map fun parent => parent.get localKey)
      let relatedModels ← (relatedQuery.whereIn foreignKey keys).get js app db related
      return fun parent => .many (relatedModels.filter fun row =>
        row.get foreignKey = parent.get localKey)
  | .belongsToMany related through localKey relatedKey foreignKey
      relatedForeignKey => do
      let parentKeys := uniqueValues (parents.map fun parent => parent.get localKey)
      let pivots ← ((RelationalQuery.plan emptyPlan).whereIn foreignKey parentKeys).get js app db
        through
      let relatedKeys := uniqueValues (pivots.map fun pivot => pivot.get relatedForeignKey)
      let relatedModels ← (relatedQuery.whereIn relatedKey relatedKeys).get js app db related
      return fun parent =>
        let ids := (pivots.filter fun pivot => pivot.get foreignKey = parent.get localKey).map
          fun pivot => pivot.get relatedForeignKey
        .many (relatedModels.filter fun row =>
          ids.any fun id => row.get relatedKey = id)

/-- The query of `has`, asked of one row. -/
def hasRelated (js : Runtime) (app : ModelRegistry) (db : Database) (model name : String)
    (operator : RelationshipOperator) (count : ℕ) (row : Row) : Except ModelError Bool := do
  let resolved ← ((RelationalQuery.plan emptyPlan).has [name] operator count).resolve js app db
    model
  return matchesConstraints js row resolved.constraints

/-! ### What is compared -/

/-- Whether a relationship is to many models. -/
def ModelRelationship.isMany : ModelRelationship → Bool
  | hasMany .. | belongsToMany .. => true
  | _ => false

/-- Whether a row goes by the key of the parent, by `sameValue`; through pivots, by some pivot. -/
def sharesKey (db : Database) : ModelRelationship → Row → Row → Bool
  | .belongsTo _ foreignKey ownerKey, parent, row =>
    decide (row.get ownerKey = parent.get foreignKey)
  | .hasOne _ localKey foreignKey, parent, row
  | .hasMany _ localKey foreignKey, parent, row =>
    decide (row.get foreignKey = parent.get localKey)
  | .belongsToMany _ through localKey relatedKey foreignKey relatedForeignKey,
      parent, row =>
      (db through).any fun pivot => decide (pivot.get foreignKey = parent.get localKey) &&
        decide (row.get relatedKey = pivot.get relatedForeignKey)

/-- **What is attached agrees with `has`**: it is the related rows that share the parent's key,
`has` holds when there are any, and `has` with a number when that is how many there are. -/
structure AgreesWithHas (js : Runtime) (app : ModelRegistry) (db : Database) (model name : String)
    (relationship : ModelRelationship) (parent : Row) (models : List Row) : Prop where
  members : ∀ row, row ∈ models ↔
    row ∈ db relationship.related ∧ sharesKey db relationship parent row = true
  has : hasRelated js app db model name .ge 1 parent
    = .ok (!models.isEmpty)
  counts : relationship.isMany = true → ∀ n,
    hasRelated js app db model name .eq n parent
      = .ok (decide (models.length = n))

/-- All rows of the models have the keys of the relationship, if null. -/
def KeysPresent (db : Database) (model : String) (relationship : ModelRelationship) : Prop :=
  ∀ key ∈ relationship.keys model, ∀ row ∈ db key.1, row.get key.2 ≠ none

/-- The keys are those of one related row at most, and none is equal to the parent's unless one is
the same. -/
structure IsSingle (key : Option ModelQueryValue) (attr : String) (rows : List Row) : Prop where
  unique : ∀ row ∈ rows, ∀ other ∈ rows, row.get attr = key → other.get attr = key → row = other
  same : ∀ row ∈ rows, isDeepEqual key (row.get attr) = true → ∃ other ∈ rows, other.get attr = key

/-- **The keys of a parent load exactly**: of a relationship to one model they are single, and an
owner's is the same in a `Map`; of one to many, the keys equal to the parent's that are counted, on
related rows or on pivots that point to one, are each borne as often as rows share the key. -/
def LoadsExactly (db : Database) (model : String) (relationship : ModelRelationship)
    (parent : Row) : Prop :=
  match relationship with
  | .belongsTo related foreignKey ownerKey =>
    IsSingle (parent.get foreignKey) ownerKey (db related) ∧
      ∀ row ∈ db related, row.get ownerKey = parent.get foreignKey →
        mapKey related row ownerKey = mapKey model parent foreignKey
  | .hasOne related localKey foreignKey =>
    IsSingle (parent.get localKey) foreignKey (db related)
  | .hasMany .. | .belongsToMany .. =>
    LinkCount db relationship (db relationship.related) parent
      ((db relationship.related).countP (sharesKey db relationship parent))

open ModelRelationship

/-! ### What is attached -/

variable {model name : String} {db : Database} {parent : Row} {relationship : ModelRelationship}

/-- The models that a parent is given. -/
def loadedModels (db : Database) (model : String) (relationship : ModelRelationship)
    (parent : Row) : List Row :=
  match relationship with
  | .belongsTo related foreignKey ownerKey =>
    ((db related).filter fun row =>
      mapKey related row ownerKey = mapKey model parent foreignKey).getLast?.toList
  | .hasOne related .. =>
    ((db related).filter (sharesKey db relationship parent)).head?.toList
  | .hasMany .. | .belongsToMany .. =>
    (db relationship.related).filter (sharesKey db relationship parent)

/-- Reading by keys gives the rows that carry one that is equal. -/
theorem get_whereIn (js : Runtime) (app : ModelRegistry) (db : Database) {attr : String}
    (hattr : validateAttribute attr (app.definition model).attributes = .ok ())
    (values : List ModelQueryValue) :
    ((RelationalQuery.plan emptyPlan).whereIn attr values).get js app db model
      = Except.ok ((db model).filter fun row =>
          values.any fun value => isDeepEqual (row.get attr) (some value)) := by
  have hvalid := validate_constrain_membership (validate_emptyPlan (app.definition model)) hattr
    values false
  have hsame : ∀ row, matchesPredicate js row (.membership attr values false)
      = values.any fun value => isDeepEqual (row.get attr) (some value) := by
    intro row
    rw [Bool.eq_iff_iff, matchesPredicate_membership]
    simp
  rw [RelationalQuery.whereIn, RelationalQuery.get, RelationalQuery.resolve, hvalid]
  change Except.ok (queryRows js db model _) = _
  rw [queryRows_constrain]
  simp only [hsame]

/-- Reading by keys leaves out no row that carries one of them. -/
theorem filter_whereIn {rows : List Row} {attr : String} {values : List (Option ModelQueryValue)}
    {p : Row → Bool}
    (hp : ∀ row ∈ rows, p row = true → row.get attr ∈ values ∧ row.get attr ≠ none) :
    (rows.filter fun row =>
        (uniqueValues values).any fun value => isDeepEqual (row.get attr) (some value)).filter p
      = rows.filter p := by
  rw [List.filter_filter]
  refine List.filter_congr fun row hrow => ?_
  cases hrowp : p row with
  | false => rfl
  | true =>
    obtain ⟨hmem, hpresent⟩ := hp row hrow hrowp
    obtain ⟨value, hvalue⟩ := Option.ne_none_iff_exists'.1 hpresent
    have hunique : value ∈ uniqueValues values := by
      rw [uniqueValues, List.mem_eraseDups]
      exact List.reduceOption_mem_iff.2 (hvalue ▸ hmem)
    rw [Bool.true_and, List.any_eq_true]
    exact ⟨value, hunique, by rw [hvalue]; exact isDeepEqual_self _⟩

/-- Attributes that are the same in a `Map` have the same value. -/
theorem get_eq_of_mapKey_eq (hids : ∀ model, ((db model).map Row.id).Nodup)
    {related foreignKey ownerKey : String} {row : Row} (hparent : parent ∈ db model)
    (hrow : row ∈ db related) (h : mapKey related row ownerKey = mapKey model parent foreignKey) :
    row.get ownerKey = parent.get foreignKey := by
  have hobject : related = model → row.id = parent.id → ownerKey = foreignKey →
      row.get ownerKey = parent.get foreignKey := by
    rintro rfl hid rfl
    rw [List.inj_on_of_nodup_map (hids related) hrow hparent hid]
  unfold mapKey at h
  split at h <;> split at h <;> simp_all

/-- **What is attached** to one of the parents. -/
theorem loadRelation_models (js : Runtime) (app : ModelRegistry)
    (hids : ∀ model, ((db model).map Row.id).Nodup)
    (hdeclared : app.relationships model name = some relationship)
    (hkeys : KeysPresent db model relationship) {parents : List Row}
    (hparents : ∀ parent ∈ parents, parent ∈ db model) :
    ∃ load,
      loadRelation js app db model relationship (RelationalQuery.plan emptyPlan) parents
          = Except.ok load ∧
        ∀ parent ∈ parents, (load parent).models = loadedModels db model relationship parent := by
  have hattr := app.keys_declared model name relationship hdeclared
  cases relationship with
  | belongsTo related foreignKey ownerKey =>
    have hget := get_whereIn js app db
      (hattr (related, ownerKey) (by simp [keys]))
    refine ⟨_, Except.bind_eq_ok_iff.2 ⟨_, hget _, rfl⟩, ?_⟩
    intro parent hparent
    refine congrArg (fun rows => rows.getLast?.toList) (filter_whereIn fun row hrow hsame => ?_)
    have hvalue := get_eq_of_mapKey_eq hids (hparents parent hparent) hrow
      (of_decide_eq_true hsame)
    refine ⟨?_, hkeys (related, ownerKey) (by simp [keys]) row hrow⟩
    rw [hvalue]
    exact List.mem_map_of_mem hparent
  | hasOne related localKey foreignKey =>
    have hget := get_whereIn js app db
      (hattr (related, foreignKey) (by simp [keys]))
    refine ⟨_, Except.bind_eq_ok_iff.2 ⟨_, hget _, rfl⟩, ?_⟩
    intro parent hparent
    refine congrArg (fun rows => rows.head?.toList) (filter_whereIn fun row hrow hsame => ?_)
    refine ⟨?_, hkeys (related, foreignKey) (by simp [keys]) row hrow⟩
    rw [of_decide_eq_true hsame]
    exact List.mem_map_of_mem hparent
  | hasMany related localKey foreignKey =>
    have hget := get_whereIn js app db
      (hattr (related, foreignKey) (by simp [keys]))
    refine ⟨_, Except.bind_eq_ok_iff.2 ⟨_, hget _, rfl⟩, ?_⟩
    intro parent hparent
    refine filter_whereIn fun row hrow hsame => ?_
    refine ⟨?_, hkeys (related, foreignKey) (by simp [keys]) row hrow⟩
    rw [of_decide_eq_true hsame]
    exact List.mem_map_of_mem hparent
  | belongsToMany related through localKey relatedKey foreignKey relatedForeignKey =>
    have hpivots := get_whereIn js app db
      (hattr (through, foreignKey) (by simp [keys]))
    have hget := get_whereIn js app db
      (hattr (related, relatedKey) (by simp [keys]))
    refine ⟨_, Except.bind_eq_ok_iff.2 ⟨_, hpivots _, Except.bind_eq_ok_iff.2 ⟨_, hget _, rfl⟩⟩,
      ?_⟩
    intro parent hparent
    -- of the pivots that are read, those of this parent are all it has
    have hread : ∀ pivot ∈ db through,
        decide (pivot.get foreignKey = parent.get localKey) = true →
          pivot.get foreignKey ∈ (parents.map fun parent => parent.get localKey) ∧
            pivot.get foreignKey ≠ none := by
      intro pivot hpivot hsame
      refine ⟨?_, hkeys (through, foreignKey) (by simp [keys]) pivot hpivot⟩
      rw [of_decide_eq_true hsame]
      exact List.mem_map_of_mem hparent
    have hown := filter_whereIn hread
    dsimp only [LoadedRelation.models]
    rw [hown, filter_whereIn]
    · refine List.filter_congr fun row _ => ?_
      rw [List.any_map, List.any_filter]
      rfl
    · intro row hrow hany
      refine ⟨?_, hkeys (related, relatedKey) (by simp [keys]) row hrow⟩
      obtain ⟨id, hid, hsame⟩ := List.any_eq_true.1 hany
      rw [of_decide_eq_true hsame]
      rw [← hown] at hid
      exact List.map_subset _ (List.filter_subset_self _) hid

/-! ### What `has` sees -/

variable {app : ModelRegistry} {js : Runtime}

/-- The answer of `has` is what the constraint it is turned into says of the row. -/
theorem hasRelated_eq_ok_iff (hdeclared : app.relationships model name = some relationship)
    {operator : RelationshipOperator} {count : ℕ} {row : Row} {answer : Bool} :
    hasRelated js app db model name operator count row = .ok answer ↔
      ∃ predicate, relationshipPredicate js app db relationship emptyPlan operator count
          = .ok predicate ∧ selectedBy js row predicate = answer := by
  have hresolve : ∀ resolved, ((RelationalQuery.plan emptyPlan).withRelationship [name] none
      operator count).resolve js app db model = Except.ok resolved ↔ _ :=
    fun _ => RelationalQuery.resolve_withRelationship_iff hdeclared
      (resolve_emptyPlan js app db model)
  rw [hasRelated, Except.bind_eq_ok_iff]
  constructor
  · rintro ⟨resolved, hresolved, hanswer⟩
    cases hanswer
    obtain ⟨relatedPlan, hplan, predicate, hpredicate, rfl⟩ := (hresolve resolved).1 hresolved
    cases hplan
    refine ⟨predicate, hpredicate, ?_⟩
    rw [matchesConstraints_elim_constrain]
    rfl
  · rintro ⟨predicate, hpredicate, rfl⟩
    refine ⟨_, (hresolve _).2 ⟨_, rfl, predicate, hpredicate, rfl⟩, ?_⟩
    rw [matchesConstraints_elim_constrain]
    rfl

/-- A number that a relationship gives is seen by `has`, however it is asked for. -/
theorem hasRelated_of_linkCount (hdeclared : app.relationships model name = some relationship)
    {n : ℕ} (h : LinkCount db relationship (db relationship.related) parent n)
    (operator : RelationshipOperator) (count : ℕ) :
    hasRelated js app db model name operator count parent
      = .ok (countComparison n operator count) := by
  rw [hasRelated_eq_ok_iff hdeclared]
  refine selects_of_linkCount js app db hdeclared ?_ operator count
  rwa [queryRows_emptyPlan]

/-- **The number that `has` sees** is that which the relationship gives. -/
theorem hasRelated_eq_iff (hdeclared : app.relationships model name = some relationship) {n : ℕ} :
    (∀ count, hasRelated js app db model name .eq count parent
        = .ok (decide (n = count))) ↔
      LinkCount db relationship (db relationship.related) parent n := by
  constructor
  · intro h
    rw [← queryRows_emptyPlan js db relationship.related]
    exact linkCount_of_selects hdeclared fun count => (hasRelated_eq_ok_iff hdeclared).1 (h count)
  · intro h count
    exact hasRelated_of_linkCount hdeclared h .eq count

/-- `has` of an owner sees whether the key of some row is equal. -/
theorem hasRelated_belongsTo {related foreignKey ownerKey : String}
    (hdeclared : app.relationships model name = some (.belongsTo related foreignKey ownerKey))
    (parent : Row) :
    hasRelated js app db model name .ge 1 parent
      = .ok ((db related).any fun row =>
          isDeepEqual (parent.get foreignKey) (row.get ownerKey)) := by
  have hcount : LinkCount db (.belongsTo related foreignKey ownerKey) (db related)
      parent (ownerCount (parent.get foreignKey) ((db related).map fun row => row.get ownerKey)) :=
    rfl
  rw [hasRelated_of_linkCount hdeclared hcount, ownerCount, List.any_map]
  cases hany : (db related).any
      fun row => isDeepEqual (parent.get foreignKey) (row.get ownerKey) <;>
    simp [Function.comp_def, hany, countComparison]

/-- `has` of one related model sees whether the key of some row is equal. -/
theorem hasRelated_hasOne {related localKey foreignKey : String}
    (hdeclared : app.relationships model name = some (.hasOne related localKey foreignKey))
    (hpresent : ∀ row ∈ db related, row.get foreignKey ≠ none) (parent : Row) :
    hasRelated js app db model name .ge 1 parent
      = .ok ((db related).any fun row =>
          isDeepEqual (parent.get localKey) (row.get foreignKey)) := by
  rw [hasRelated_eq_ok_iff hdeclared]
  refine ⟨_, rfl, ?_⟩
  have hkeys : ∀ key, key ∈ (pluck js db related emptyPlan foreignKey).reduceOption ↔
      ∃ row ∈ db related, row.get foreignKey = some key := by
    intro key
    rw [List.reduceOption_mem_iff, pluck, queryRows_emptyPlan, List.mem_map]
  rw [selectedBy, Option.elim_some, Bool.eq_iff_iff, matchesPredicate_countedMembership,
    if_neg (by decide), List.any_eq_true]
  constructor
  · rintro ⟨key, hkey, hequal, -⟩
    obtain ⟨row, hrow, hget⟩ := (hkeys key).1 hkey
    exact ⟨row, hrow, by rwa [hget]⟩
  · rintro ⟨row, hrow, hequal⟩
    obtain ⟨key, hget⟩ := Option.ne_none_iff_exists'.1 (hpresent row hrow)
    have hkey := (hkeys key).2 ⟨row, hrow, hget⟩
    refine ⟨key, hkey, by rwa [← hget], ?_⟩
    have hpos := List.count_pos_iff.2 hkey
    simpa [countComparison] using hpos

/-! ### The result -/

/-- One row at most is attached: the one that carries the key, and one is there when the keys are
single and none of their rows is passed over. -/
theorem isSingle_iff {rows : List Row} {key : Option ModelQueryValue} {attr : String}
    {p : Row → Bool} (hp : ∀ row ∈ rows, p row = true → row.get attr = key) {model : Option Row}
    (hsome : ∀ row, model = some row → row ∈ rows.filter p)
    (hnone : model = none → rows.filter p = []) :
    ((∀ row, row ∈ model.toList ↔ row ∈ rows ∧ row.get attr = key) ∧
        (rows.any fun row => isDeepEqual key (row.get attr)) = !model.toList.isEmpty) ↔
      IsSingle key attr rows ∧ ∀ row ∈ rows, row.get attr = key → p row = true := by
  simp only [Option.mem_toList]
  constructor
  · rintro ⟨hmembers, hhas⟩
    refine ⟨⟨?_, ?_⟩, ?_⟩
    · intro row hrow other hother hrowKey hotherKey
      have hmodel := (hmembers row).2 ⟨hrow, hrowKey⟩
      rw [(hmembers other).2 ⟨hother, hotherKey⟩] at hmodel
      exact (Option.some.inj hmodel).symm
    · intro row hrow hequal
      rw [List.any_eq_true.2 ⟨row, hrow, hequal⟩] at hhas
      cases model with
      | none => cases hhas
      | some other => exact ⟨other, (hmembers other).1 rfl⟩
    · intro row hrow hrowKey
      exact List.of_mem_filter (hsome row ((hmembers row).2 ⟨hrow, hrowKey⟩))
  · rintro ⟨⟨hunique, hsame⟩, hfound⟩
    have hmembers : ∀ row, model = some row ↔ row ∈ rows ∧ row.get attr = key := by
      intro row
      constructor
      · intro hmodel
        obtain ⟨hrow, hprow⟩ := List.mem_filter.1 (hsome row hmodel)
        exact ⟨hrow, hp row hrow hprow⟩
      · rintro ⟨hrow, hrowKey⟩
        have hmem : row ∈ rows.filter p := List.mem_filter.2 ⟨hrow, hfound row hrow hrowKey⟩
        cases model with
        | none => simp [hnone rfl] at hmem
        | some other =>
          obtain ⟨hother, hpother⟩ := List.mem_filter.1 (hsome other rfl)
          rw [hunique row hrow other hother hrowKey (hp other hother hpother)]
    refine ⟨hmembers, ?_⟩
    rw [Bool.eq_iff_iff, List.any_eq_true]
    constructor
    · rintro ⟨row, hrow, hequal⟩
      obtain ⟨other, hother⟩ := hsame row hrow hequal
      rw [(hmembers other).2 hother]
      rfl
    · intro hmodel
      cases model with
      | none => cases hmodel
      | some other =>
        obtain ⟨hother, hotherKey⟩ := (hmembers other).1 rfl
        exact ⟨other, hother, by rw [hotherKey]; exact isDeepEqual_self key⟩

/-- `AgreesWithHas` of a relationship to one model: the row that carries the key, and whether a key
is equal. -/
theorem agreesWithHas_one (hone : relationship.isMany = false) {key : Option ModelQueryValue}
    {attr : String}
    (hshares : ∀ row, sharesKey db relationship parent row = true ↔ row.get attr = key)
    (hhas : hasRelated js app db model name .ge 1 parent
      = .ok ((db relationship.related).any fun row => isDeepEqual key (row.get attr)))
    (models : List Row) :
    AgreesWithHas js app db model name relationship parent models ↔
      (∀ row, row ∈ models ↔ row ∈ db relationship.related ∧ row.get attr = key) ∧
        ((db relationship.related).any fun row => isDeepEqual key (row.get attr))
          = !models.isEmpty := by
  constructor
  · rintro ⟨hmembers, hany, -⟩
    rw [hhas] at hany
    exact ⟨fun row => by rw [hmembers, hshares], Except.ok.inj hany⟩
  · rintro ⟨hmembers, hany⟩
    refine ⟨fun row => by rw [hmembers, hshares], by rw [hhas, hany], ?_⟩
    intro hmany
    rw [hone] at hmany
    cases hmany

/-- `AgreesWithHas` of a relationship to many models: the number is that of the rows that share the
key. -/
theorem agreesWithHas_many (hdeclared : app.relationships model name = some relationship)
    (hmany : relationship.isMany = true) (parent : Row) :
    AgreesWithHas js app db model name relationship parent
        ((db relationship.related).filter (sharesKey db relationship parent)) ↔
      LinkCount db relationship (db relationship.related) parent
        ((db relationship.related).countP (sharesKey db relationship parent)) := by
  have hnumber : (∀ count, hasRelated js app db model name .eq count parent
      = .ok (decide ((db relationship.related).countP
          (sharesKey db relationship parent) = count))) ↔ _ := hasRelated_eq_iff hdeclared
  rw [← hnumber, List.countP_eq_length_filter]
  constructor
  · intro h
    exact h.counts hmany
  · intro h
    refine ⟨fun row => List.mem_filter, ?_, fun _ => h⟩
    rw [hasRelated_of_linkCount hdeclared (hasRelated_eq_iff hdeclared |>.1 h)]
    cases (db relationship.related).filter (sharesKey db relationship parent) <;>
      simp [countComparison]

/-- **Eager loading agrees with relationship constraints** exactly when the keys of the parent load
exactly. -/
theorem eager_loading_agrees (js : Runtime) (app : ModelRegistry) {db : Database}
    (hids : ∀ model, ((db model).map Row.id).Nodup) {model name : String}
    {relationship : ModelRelationship}
    (hdeclared : app.relationships model name = some relationship)
    (hkeys : KeysPresent db model relationship) {parents : List Row}
    (hparents : ∀ parent ∈ parents, parent ∈ db model) {parent : Row} (hparent : parent ∈ parents) :
    ∃ load,
      loadRelation js app db model relationship (.plan emptyPlan) parents
          = .ok load ∧
        (AgreesWithHas js app db model name relationship parent (load parent).models ↔
          LoadsExactly db model relationship parent) := by
  obtain ⟨load, hload, hmodels⟩ := loadRelation_models js app hids hdeclared hkeys hparents
  refine ⟨load, hload, ?_⟩
  rw [hmodels parent hparent]
  cases relationship with
  | belongsTo related foreignKey ownerKey =>
    have hshares : ∀ row, sharesKey db (.belongsTo related foreignKey ownerKey)
        parent row = true ↔ row.get ownerKey = parent.get foreignKey :=
      fun row => decide_eq_true_iff
    have hp : ∀ row ∈ db related,
        decide (mapKey related row ownerKey = mapKey model parent foreignKey) = true →
          row.get ownerKey = parent.get foreignKey := fun row hrow hsame =>
      get_eq_of_mapKey_eq hids (hparents parent hparent) hrow (of_decide_eq_true hsame)
    rw [agreesWithHas_one rfl hshares (hasRelated_belongsTo hdeclared parent), loadedModels,
      ModelRelationship.related, isSingle_iff hp (fun row => List.mem_of_getLast?)
        List.getLast?_eq_none_iff.1]
    simp only [LoadsExactly, decide_eq_true_iff]
  | hasOne related localKey foreignKey =>
    have hshares : ∀ row, sharesKey db (.hasOne related localKey foreignKey)
        parent row = true ↔ row.get foreignKey = parent.get localKey :=
      fun row => decide_eq_true_iff
    have hpresent := hkeys (related, foreignKey) (by simp [keys])
    rw [agreesWithHas_one rfl hshares (hasRelated_hasOne hdeclared hpresent parent),
      loadedModels, ModelRelationship.related, isSingle_iff (fun row _ => (hshares row).1)
        (fun row => List.mem_of_head?) List.head?_eq_none_iff.1]
    exact and_iff_left fun row _ => (hshares row).2
  | hasMany related localKey foreignKey => exact agreesWithHas_many hdeclared rfl parent
  | belongsToMany related through localKey relatedKey foreignKey relatedForeignKey =>
    exact agreesWithHas_many hdeclared rfl parent

theorem blogTables_ids (model : String) : ((blogTables model).map Row.id).Nodup := by
  rw [blogTables]
  split_ifs <;> decide

theorem eager_loading_agrees_blog :
    ∃ load,
      loadRelation .ascii blog blogTables "user"
          (.hasMany "post" "id" "authorId") (.plan emptyPlan)
          (blogTables "user") = .ok load ∧
        (AgreesWithHas .ascii blog blogTables "user" "posts"
            (.hasMany "post" "id" "authorId") (blogRow 1 "role" 0)
            (load (blogRow 1 "role" 0)).models ↔
          LoadsExactly blogTables "user" (.hasMany "post" "id" "authorId")
            (blogRow 1 "role" 0)) :=
  eager_loading_agrees .ascii blog blogTables_ids rfl
    (by
      simp only [KeysPresent, keys, List.forall_mem_cons]
      decide)
    (fun _ h => h) (List.mem_singleton.2 rfl)

/-- Visits are on days, which go by their date. -/
def calendarRelationships (model name : String) : Option ModelRelationship :=
  if model = "visit" ∧ name = "day" then some (.belongsTo "day" "date" "date")
  else none

theorem calendarRelationships_name (model name : String) (relationship : ModelRelationship)
    (h : calendarRelationships model name = some relationship) : isBlank name = false := by
  rw [calendarRelationships] at h
  split_ifs at h with hvisit
  rw [hvisit.2]
  decide

theorem calendarRelationships_keys (model name : String) (relationship : ModelRelationship)
    (h : calendarRelationships model name = some relationship) :
    ∀ key ∈ relationship.keys model, validateAttribute key.2 none = .ok () := by
  rw [calendarRelationships] at h
  split_ifs at h
  cases h
  simp only [keys, List.forall_mem_cons]
  decide

/-- The models of a calendar. -/
def calendar : ModelRegistry where
  definition := fun model => ⟨model, none, fun _ => none⟩
  relationships := calendarRelationships
  name_declared := calendarRelationships_name
  keys_declared := calendarRelationships_keys

/-- A row with a date. -/
def datedRow (id : ℕ) : Row where
  id := [Fin.ofNat _ id]
  state := fun name =>
    if name = "date" then some (.localDate (ofAscii "2026-01-01")) else none

/-- One visit, on the only day. -/
def calendarTables : Database := fun model =>
  if model = "visit" then [datedRow 1]
  else if model = "day" then [datedRow 2]
  else []

/-- No day is attached to the visit, though it is on one, as `has` sees: a `Map` does not find one
date by another. -/
theorem owner_not_attached :
    ∃ load,
      loadRelation .ascii calendar calendarTables "visit"
          (.belongsTo "day" "date" "date") (.plan emptyPlan)
          [datedRow 1] = .ok load ∧
        ¬ AgreesWithHas .ascii calendar calendarTables "visit" "day"
          (.belongsTo "day" "date" "date") (datedRow 1)
          (load (datedRow 1)).models := by
  have hhas : hasRelated .ascii calendar calendarTables "visit" "day"
      RelationshipOperator.ge 1 (datedRow 1) = Except.ok true := by rfl
  have hloaded : (loadRelation .ascii calendar calendarTables "visit"
      (.belongsTo "day" "date" "date") (.plan emptyPlan)
      [datedRow 1]).map (fun load => (load (datedRow 1)).models.isEmpty) = .ok true := by
    rfl
  cases hload : loadRelation .ascii calendar calendarTables "visit"
      (.belongsTo "day" "date" "date") (.plan emptyPlan)
      [datedRow 1] with
  | error e =>
    rw [hload] at hloaded
    cases hloaded
  | ok load =>
    refine ⟨load, rfl, fun h => ?_⟩
    have hempty : (load (datedRow 1)).models.isEmpty = true := by
      rw [hload] at hloaded
      exact Except.ok.inj hloaded
    have hnone := h.has
    rw [hhas, hempty] at hnone
    cases hnone

end Doxa
