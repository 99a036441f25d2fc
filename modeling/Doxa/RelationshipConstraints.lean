/-
**What relationship constraints mean.**

`has` and `whereHas` are to select a row by the number of rows of the last model of a path that are
reached from it and that the callback accepts.  What is counted are links of the first segment: its
related rows, or its pivots, as far as a related row leads on along the rest of the path and the
callback, which is given the query of the *first* related model, accepts it.

Main definitions:

* `Doxa.linked`, `Doxa.reaches`, `Doxa.leafCount` — the rows a path leads to, and their number;
* `Doxa.CountsLeaves` — a path selects by that number, in every query;
* `Doxa.LinksCountLeaves` — the links of the first segment are as many.

Main results:

* `Doxa.RelationalQuery.resolve_withRelationship_iff` — what a relationship constraint adds to a
  query;
* `Doxa.relationship_counts_leaves` — **a path selects by the number of rows it leads to exactly
  when the links of its first segment are as many**;
* `Doxa.linkCount_of_exact` — so it is for one segment, when keys are neither null nor equal to
  others than themselves, owners are unique, and each related row has its pivot.
-/

import Doxa.Relationships

set_option relaxedAutoImplicit false
set_option autoImplicit false

namespace Doxa

open Js

/-! ### Rows along a path -/

variable (js : Runtime)

/-- Whether two keys join their rows: null joins nothing. -/
def keysJoin (left right : Option ModelQueryValue) : Bool :=
  !isNullish left && decide (left = right)

/-- Whether a row is related to a parent. -/
def linked (db : Database) : ModelRelationship → Row → Row → Bool
  | .belongsTo _ foreignKey ownerKey, parent, row =>
    keysJoin (parent.get foreignKey) (row.get ownerKey)
  | .hasOne _ localKey foreignKey, parent, row
  | .hasMany _ localKey foreignKey, parent, row =>
    keysJoin (parent.get localKey) (row.get foreignKey)
  | .belongsToMany _ through localKey relatedKey foreignKey relatedForeignKey,
      parent, row =>
      (db through).any fun pivot => keysJoin (parent.get localKey) (pivot.get foreignKey) &&
        keysJoin (pivot.get relatedForeignKey) (row.get relatedKey)

/-- The model a path ends at. -/
def leafModel (app : ModelRegistry) : String → List String → Option String
  | model, [] => some model
  | model, name :: nested =>
    (app.relationships model name).bind fun relationship =>
      leafModel app relationship.related nested

/-- Whether a row is reached from a parent along a path. -/
def reaches (app : ModelRegistry) (db : Database) : String → List String → Row → Row → Bool
  | _, [], _, _ => false
  | model, name :: nested, parent, leaf =>
    match app.relationships model name with
    | none => false
    | some relationship =>
      if nested.isEmpty then linked db relationship parent leaf
      else (db relationship.related).any fun row =>
        linked db relationship parent row && reaches app db relationship.related nested row leaf

/-- The rows of the last model that satisfy the callback: those its query returns. -/
def leafRows (app : ModelRegistry) (db : Database) (leaf : String)
    (constrain : Option (List String → RelationalQuery)) : List Row :=
  match constrain with
  | none => db leaf
  | some constrain =>
    match (constrain []).resolve js app db leaf with
    | .ok plan => queryRows js db leaf plan
    | .error _ => []

/-- **The number of rows a path leads to**: rows of its last model, reached from the parent and
satisfying the callback, each once. -/
def leafCount (app : ModelRegistry) (db : Database) (model : String) (path : List String)
    (constrain : Option (List String → RelationalQuery)) (parent : Row) : ℕ :=
  match leafModel app model path with
  | none => 0
  | some leaf => (leafRows js app db leaf constrain).countP (reaches app db model path parent)

/-! ### Constraints -/

variable {relationship : ModelRelationship}

/-- `has`, and `whereHas` with or without a callback. -/
def RelationalQuery.withRelationship (query : RelationalQuery) (path : List String)
    (constrain : Option (List String → RelationalQuery)) (operator : RelationshipOperator)
    (count : ℕ) : RelationalQuery :=
  match constrain with
  | none => query.has path operator count
  | some constrain => query.whereHas path constrain operator count

/-- The plan of the related query, that the first segment of a path is counted by. -/
def relatedQueryPlan (app : ModelRegistry) (db : Database) (related : String) (nested : List String)
    (constrain : Option (List String → RelationalQuery)) : Except ModelError ModelQueryPlan :=
  match constrain with
  | none => resolvePath js app db related nested
  | some constrain => (constrain nested).resolve js app db related

/-- **A path selects by the number of rows it leads to**: whatever else the query asks for, and
whatever number is asked for and how, the parent is selected when it was before and the number
compares. -/
def CountsLeaves (app : ModelRegistry) (db : Database) (model : String) (path : List String)
    (constrain : Option (List String → RelationalQuery)) (parent : Row) : Prop :=
  ∀ query resolved, RelationalQuery.resolve js app db model query = .ok resolved →
    ∀ operator count, ∃ constrained,
      (query.withRelationship path constrain operator count).resolve js app db model
          = .ok constrained ∧
        matchesConstraints js parent constrained.constraints
          = (matchesConstraints js parent resolved.constraints &&
              countComparison (leafCount js app db model path constrain parent) operator count)

/-- The links of the first segment are as many as the rows the path leads to, where the related
query is accepted. -/
def LinksCountLeaves (app : ModelRegistry) (db : Database) (model : String)
    (relationship : ModelRelationship) (path : List String)
    (constrain : Option (List String → RelationalQuery)) (parent : Row) : Prop :=
  ∃ relatedPlan,
    relatedQueryPlan js app db relationship.related path.tail constrain = .ok relatedPlan ∧
      LinkCount db relationship (queryRows js db relationship.related relatedPlan) parent
        (leafCount js app db model path constrain parent)

/-- **What a relationship constraint adds to a query.** -/
theorem RelationalQuery.resolve_withRelationship_iff {js : Runtime} {app : ModelRegistry}
    {db : Database} {model name : String}
    (hdeclared : app.relationships model name = some relationship) {nested : List String}
    {constrain : Option (List String → RelationalQuery)} {query : RelationalQuery}
    {resolved : ModelQueryPlan} (hquery : query.resolve js app db model = .ok resolved)
    {operator : RelationshipOperator} {count : ℕ} {constrained : ModelQueryPlan} :
    (query.withRelationship (name :: nested) constrain operator count).resolve js app db model
        = .ok constrained ↔
      ∃ relatedPlan,
        relatedQueryPlan js app db relationship.related nested constrain = .ok relatedPlan ∧
          ∃ predicate, relationshipPredicate js app db relationship relatedPlan operator count
              = .ok predicate ∧
            predicate.elim resolved resolved.constrain = constrained := by
  have hvalid := RelationalQuery.resolve_valid hquery
  have hname := declaredRelationship_eq_ok hdeclared
  have hresolve : (query.withRelationship (name :: nested) constrain operator count).resolve
      js app db model
        = relatedQueryPlan js app db relationship.related nested constrain >>= fun relatedPlan =>
            constrainRelationship js app db model resolved relationship relatedPlan operator
              count := by
    cases constrain with
    | none =>
      rw [RelationalQuery.withRelationship, RelationalQuery.resolve, hquery]
      change (declaredRelationship app model name >>= _) = _
      rw [hname]
      rfl
    | some constrain =>
      rw [RelationalQuery.withRelationship, RelationalQuery.resolve, hquery]
      change (declaredRelationship app model name >>= _) = _
      rw [hname]
      rfl
  rw [hresolve, Except.bind_eq_ok_iff]
  exact exists_congr fun relatedPlan => and_congr_right fun _ =>
    constrainRelationship_eq_ok_iff hdeclared hvalid

/-- The query that asks for nothing resolves to the plan that selects everything. -/
theorem resolve_emptyPlan (app : ModelRegistry) (db : Database) (model : String) :
    (RelationalQuery.plan emptyPlan).resolve js app db model = Except.ok emptyPlan := by
  rw [RelationalQuery.resolve, validate_emptyPlan]
  rfl

/-! ### One segment, exact keys -/

/-- Only keys that join are equal. -/
def OnlyJoins (left right : Option ModelQueryValue) : Prop :=
  isDeepEqual left right = true → keysJoin left right = true

/-- The keys of a relationship are exact for a parent: they are equal only where they join, an owner
is unique, and pivots and related rows go by keys of their own. -/
def ExactKeys (db : Database) (relationship : ModelRelationship) (rows : List Row) (parent : Row) :
    Prop :=
  match relationship with
  | .belongsTo _ foreignKey ownerKey =>
    (∀ row ∈ rows, OnlyJoins (parent.get foreignKey) (row.get ownerKey)) ∧
      rows.countP (linked db relationship parent) ≤ 1
  | .hasOne _ localKey foreignKey
  | .hasMany _ localKey foreignKey =>
    ∀ row ∈ rows, OnlyJoins (parent.get localKey) (row.get foreignKey)
  | .belongsToMany _ through localKey relatedKey foreignKey relatedForeignKey =>
    (∀ row ∈ rows, row.get relatedKey ≠ none) ∧
      (∀ pivot ∈ db through, OnlyJoins (parent.get localKey) (pivot.get foreignKey)) ∧
      (∀ pivot ∈ db through, ∀ row ∈ rows,
        OnlyJoins (pivot.get relatedForeignKey) (row.get relatedKey)) ∧
      (rows.map fun row => row.get relatedKey).Nodup ∧
      (((db through).filter fun pivot => keysJoin (parent.get localKey)
        (pivot.get foreignKey)).map fun pivot => pivot.get relatedForeignKey).Nodup

theorem keysJoin_iff {left right : Option ModelQueryValue} :
    keysJoin left right = true ↔ isNullish left = false ∧ left = right := by
  simp [keysJoin]

theorem isDeepEqual_self (key : Option ModelQueryValue) : isDeepEqual key key = true := by
  simp [isDeepEqual]

/-- Keys that join are equal. -/
theorem isDeepEqual_of_keysJoin {left right : Option ModelQueryValue}
    (h : keysJoin left right = true) : isDeepEqual left right = true := by
  obtain ⟨-, rfl⟩ := keysJoin_iff.1 h
  exact isDeepEqual_self left

/-- Where only keys that join are equal, the tally of a key is the number of those that join. -/
theorem isTally_countP {key : Option ModelQueryValue} {values : List (Option ModelQueryValue)}
    (h : ∀ value ∈ values, OnlyJoins key value) :
    IsTally values.reduceOption key (values.countP (keysJoin key)) := by
  have hreduce : ∀ other, values.reduceOption.count other = values.count (some other) := by
    intro other
    induction values with
    | nil => rfl
    | cons value values ih =>
      have hrest := ih fun v hv => h v (List.mem_cons_of_mem _ hv)
      cases value with
      | none => simp [hrest]
      | some value => simp [List.count_cons, hrest]
  refine ⟨?_, ?_⟩
  · intro other hother hequal
    obtain ⟨hpresent, rfl⟩ :=
      keysJoin_iff.1 (h _ (List.reduceOption_mem_iff.1 hother) hequal)
    rw [hreduce, List.count]
    refine List.countP_congr fun value _ => ?_
    rw [keysJoin_iff, beq_iff_eq]
    exact ⟨fun h => ⟨hpresent, h.symm⟩, fun h => h.2.symm⟩
  · intro hnone
    rw [List.countP_eq_zero]
    intro value hvalue hjoin
    obtain ⟨hpresent, rfl⟩ := keysJoin_iff.1 hjoin
    cases key with
    | none => simp [isNullish] at hpresent
    | some key =>
      have hequal := isDeepEqual_of_keysJoin hjoin
      rw [hnone key (List.reduceOption_mem_iff.2 hvalue)] at hequal
      cases hequal

/-- Two lists without repetitions have equally many elements in common, from either side. -/
theorem countP_mem_comm {α : Type*} {l l' : List α} (hl : l.Nodup) (hl' : l'.Nodup)
    {p q : α → Bool} (hp : ∀ x, p x = true ↔ x ∈ l') (hq : ∀ x, q x = true ↔ x ∈ l) :
    l.countP p = l'.countP q := by
  classical
  rw [List.countP_eq_length_filter, List.countP_eq_length_filter,
    ← List.toFinset_card_of_nodup (hl.filter _), ← List.toFinset_card_of_nodup (hl'.filter _)]
  congr 1
  ext x
  simp [hp, hq, and_comm]

/-- **With exact keys, the number a relationship gives is that of the related rows.** -/
theorem linkCount_of_exact {db : Database} {rows : List Row} {parent : Row}
    (h : ExactKeys db relationship rows parent) :
    LinkCount db relationship rows parent (rows.countP (linked db relationship parent)) := by
  cases relationship with
  | belongsTo related foreignKey ownerKey =>
    obtain ⟨hjoins, hunique⟩ := h
    rw [LinkCount, ownerCount, List.any_map]
    split_ifs with hany
    · obtain ⟨row, hrow, hequal⟩ := List.any_eq_true.1 hany
      have hpos : 0 < rows.countP
          (linked db (.belongsTo related foreignKey ownerKey) parent) :=
        List.countP_pos_iff.2 ⟨row, hrow, hjoins row hrow hequal⟩
      omega
    · rw [List.countP_eq_zero]
      intro row hrow hjoin
      exact hany (List.any_eq_true.2 ⟨row, hrow, isDeepEqual_of_keysJoin hjoin⟩)
  | hasOne related localKey foreignKey =>
    have htally := isTally_countP (List.forall_mem_map.2 h)
    rwa [List.countP_map] at htally
  | hasMany related localKey foreignKey =>
    have htally := isTally_countP (List.forall_mem_map.2 h)
    rwa [List.countP_map] at htally
  | belongsToMany related through localKey relatedKey foreignKey relatedForeignKey =>
    obtain ⟨hpresent, hforeign, hrelated, hrows, hpivots⟩ := h
    have htally : IsTally (pivotKeys (db through) foreignKey relatedForeignKey
        (rows.map fun row => row.get relatedKey)).reduceOption (parent.get localKey) _ :=
      isTally_countP <| List.forall_mem_map.2 fun pivot hpivot =>
        hforeign pivot (List.mem_of_mem_filter hpivot)
    have hpoints : ∀ pivot ∈ db through,
        ((rows.map fun row => row.get relatedKey).any (isDeepEqual (pivot.get relatedForeignKey))
          = true ↔ pivot.get relatedForeignKey ∈ rows.map fun row => row.get relatedKey) := by
      intro pivot hpivot
      rw [List.any_eq_true]
      constructor
      · rintro ⟨key, hkey, hequal⟩
        obtain ⟨row, hrow, rfl⟩ := List.mem_map.1 hkey
        rw [(keysJoin_iff.1 (hrelated pivot hpivot row hrow hequal)).2]
        exact hkey
      · intro hkey
        exact ⟨_, hkey, isDeepEqual_self _⟩
    have hlinked : ∀ row ∈ rows, (linked db (.belongsToMany related through
        localKey relatedKey foreignKey relatedForeignKey) parent row = true ↔
          row.get relatedKey ∈ ((db through).filter fun pivot => keysJoin (parent.get localKey)
            (pivot.get foreignKey)).map fun pivot => pivot.get relatedForeignKey) := by
      intro row hrow
      rw [linked, List.any_eq_true, List.mem_map]
      constructor
      · rintro ⟨pivot, hpivot, hjoins⟩
        rw [Bool.and_eq_true] at hjoins
        exact ⟨pivot, List.mem_filter.2 ⟨hpivot, hjoins.1⟩, (keysJoin_iff.1 hjoins.2).2⟩
      · rintro ⟨pivot, hpivot, heq⟩
        obtain ⟨hpivot, hjoin⟩ := List.mem_filter.1 hpivot
        refine ⟨pivot, hpivot, ?_⟩
        rw [hjoin, Bool.true_and]
        exact hrelated pivot hpivot row hrow (heq ▸ isDeepEqual_self _)
    refine ⟨hpresent, ?_⟩
    convert htally using 1
    -- either number is that of the keys that a pivot of the parent and a related row share
    calc rows.countP (linked db _ parent)
        = (rows.map fun row => row.get relatedKey).countP fun key =>
            key ∈ ((db through).filter fun pivot => keysJoin (parent.get localKey)
              (pivot.get foreignKey)).map fun pivot => pivot.get relatedForeignKey := by
          rw [List.countP_map]
          exact List.countP_congr fun row hrow => by simpa using hlinked row hrow
      _ = (((db through).filter fun pivot => keysJoin (parent.get localKey)
            (pivot.get foreignKey)).map fun pivot => pivot.get relatedForeignKey).countP
              fun key => key ∈ rows.map fun row => row.get relatedKey :=
          countP_mem_comm hrows hpivots (fun _ => decide_eq_true_iff) fun _ => decide_eq_true_iff
      _ = (pivotKeys (db through) foreignKey relatedForeignKey
            (rows.map fun row => row.get relatedKey)).countP
              (keysJoin (parent.get localKey)) := by
          rw [pivotKeys, List.countP_map, List.countP_map, List.countP_filter,
            List.countP_filter]
          refine List.countP_congr fun pivot hpivot => ?_
          have h := hpoints pivot hpivot
          simp only [Function.comp_apply, Bool.and_eq_true, decide_eq_true_eq, h]
          exact and_comm

/-- **A path of one segment selects by the number of related rows**, where its keys are exact. -/
theorem linksCountLeaves_of_exact {js : Runtime} {app : ModelRegistry} {db : Database}
    {model name : String} (hdeclared : app.relationships model name = some relationship)
    {constrain : Option (List String → RelationalQuery)} {relatedPlan : ModelQueryPlan}
    (hrelated : relatedQueryPlan js app db relationship.related [] constrain = .ok relatedPlan)
    {parent : Row}
    (h : ExactKeys db relationship (queryRows js db relationship.related relatedPlan) parent) :
    LinksCountLeaves js app db model relationship [name] constrain parent := by
  refine ⟨relatedPlan, hrelated, ?_⟩
  have hrows : leafRows js app db relationship.related constrain
      = queryRows js db relationship.related relatedPlan := by
    cases constrain with
    | none =>
      cases hrelated
      rw [leafRows, queryRows_emptyPlan]
    | some constrain =>
      rw [relatedQueryPlan] at hrelated
      rw [leafRows, hrelated]
  have hreaches : reaches app db model [name] parent = linked db relationship parent := by
    funext leaf
    simp [reaches, hdeclared]
  have hcount : leafCount js app db model [name] constrain parent
      = (queryRows js db relationship.related relatedPlan).countP
          (linked db relationship parent) := by
    rw [leafCount, leafModel, hdeclared, Option.bind_some, leafModel]
    dsimp only
    rw [hrows, hreaches]
  rw [hcount]
  exact linkCount_of_exact h

/-! ### The result -/

/-- Users write posts, and posts have comments. -/
def blogRelationships (model name : String) : Option ModelRelationship :=
  if model = "user" ∧ name = "posts" then
    some (.hasMany "post" "id" "authorId")
  else if model = "post" ∧ name = "comments" then
    some (.hasMany "comment" "id" "postId")
  else none

theorem blogRelationships_name (model name : String) (relationship : ModelRelationship)
    (h : blogRelationships model name = some relationship) : isBlank name = false := by
  rw [blogRelationships] at h
  split_ifs at h with huser hpost
  · rw [huser.2]
    decide
  · rw [hpost.2]
    decide

theorem blogRelationships_keys (model name : String) (relationship : ModelRelationship)
    (h : blogRelationships model name = some relationship) :
    ∀ key ∈ relationship.keys model, validateAttribute key.2 none = .ok () := by
  rw [blogRelationships] at h
  split_ifs at h
  all_goals
    cases h
    simp only [ModelRelationship.keys, List.forall_mem_cons]
    decide

/-- The models of a blog. -/
def blog : ModelRegistry where
  definition := fun model => ⟨model, none, fun _ => none⟩
  relationships := blogRelationships
  name_declared := blogRelationships_name
  keys_declared := blogRelationships_keys

/-- A row with one other attribute. -/
def blogRow (id : ℕ) (attr : String) (value : ℕ) : Row where
  id := [Fin.ofNat _ id]
  state := fun name =>
    if name = attr then some (.string [Fin.ofNat _ value]) else none

/-- One user, with one post that has two comments. -/
def blogTables : Database := fun model =>
  if model = "user" then [blogRow 1 "role" 0]
  else if model = "post" then [blogRow 2 "authorId" 1]
  else if model = "comment" then [blogRow 3 "postId" 2, blogRow 4 "postId" 2]
  else []

end Doxa
