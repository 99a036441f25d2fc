/-
**Models in memory.**

A model holds its attributes, the attributes as the store last had them, and the journal facts and
outbox messages that the next save hands over (`core/src/model.ts`).  An attribute is dirty when the
two differ.  Attributes are cloned on their way in and out, so they are values here; a value that is
`undefined` is an attribute that is not there.

Main definitions:

* `Doxa.ModelSessionDefinition`, `Doxa.Model` — the definition of a model, and one of its instances;
* `Doxa.Model.setAttribute`, `Doxa.Model.fill`, `Doxa.Model.journal`, `Doxa.Model.outbox` — what the
  application does with it;
* `Doxa.Model.saved`, `Doxa.Model.clearPending`, … — what a session does with it.

Main results:

* `Doxa.Model.get_write`, `Doxa.Model.get_writes` — what assignments change;
* `Doxa.Model.mem_changedKeys_iff` — **the changes are the dirty attributes**.
-/

import Doxa.Lib.OrderedMap
import Mathlib.Data.Int.Notation

set_option relaxedAutoImplicit false
set_option autoImplicit false

namespace Doxa

/-! ### Definitions and instances -/

/-- Where a model is stored: as one document, or in the columns of a table. -/
inductive ModelStorage
  | entityState
  | table (readOnly : Bool)
deriving DecidableEq

/-- What a session knows of a model class. -/
structure ModelSessionDefinition (α : Type*) where
  entityType : String
  storage : ModelStorage
  attributes : Option (List String)
  optionalAttributes : List String
  /-- A normalizer throws, or gives the value to store. -/
  attributeNormalizers : List (String × (Option α → Option α))
  authOwnedAttributes : List String
  clearAttributeOnChange : List (String × String)

structure PendingJournalFact (α : Type*) where
  type : String
  payload : α
deriving DecidableEq

structure PendingOutboxMessage (α : Type*) where
  type : String
  payload : α
  availableAt : Option ℤ
deriving DecidableEq

structure Model (α : Type*) where
  attributes : OrderedMap String α
  original : OrderedMap String α
  lastChanges : List (String × Option α)
  pendingJournal : List (PendingJournalFact α)
  pendingOutbox : List (PendingOutboxMessage α)
  /-- `#exists`: whether the store has it. -/
  existing : Bool
  version : Option ℕ
  recentlyCreated : Bool
  constructedAttributes : List String

namespace Model

variable {α : Type*}

/-- `attributes[key] = value`, or `delete attributes[key]`. -/
def write (key : String) (value : Option α) (model : Model α) : Model α :=
  { model with
    attributes :=
      match value with
      | none => model.attributes.delete key
      | some value => model.attributes.set key value }

/-- Assignments, one after the other. -/
def writes (assignments : List (String × Option α)) (model : Model α) : Model α :=
  assignments.foldl (fun model assignment => model.write assignment.1 assignment.2) model

theorem get_write (key : String) (value : Option α) (model : Model α) (other : String) :
    (model.write key value).attributes.get other =
      if other = key then value else model.attributes.get other := by
  cases value with
  | none => exact OrderedMap.get_delete _ _ _
  | some value => exact OrderedMap.get_set _ _ _ _

/-- Assignments change the attributes only. -/
theorem writes_eq (assignments : List (String × Option α)) :
    ∀ model : Model α,
      model.writes assignments =
        { model with attributes := (model.writes assignments).attributes } := by
  induction assignments with
  | nil => intro model; rfl
  | cons assignment assignments ih =>
    intro model
    exact ih (model.write assignment.1 assignment.2)

theorem writes_append (earlier later : List (String × Option α)) (model : Model α) :
    (model.writes earlier).writes later = model.writes (earlier ++ later) :=
  List.foldl_append.symm

/-- Assigning what is there already changes nothing. -/
theorem get_writes {values : String → Option α} {assignments : List (String × Option α)}
    (hassignments : ∀ assignment ∈ assignments, assignment.2 = values assignment.1) :
    ∀ model : Model α, (∀ key, model.attributes.get key = values key) →
      ∀ key, (model.writes assignments).attributes.get key = values key := by
  induction assignments with
  | nil => intro model hmodel; exact hmodel
  | cons assignment assignments ih =>
    intro model hmodel
    refine ih (fun later hlater => hassignments later (List.mem_cons_of_mem _ hlater)) _ ?_
    intro key
    rw [get_write]
    split_ifs with hkey
    · rw [hkey]
      exact hassignments assignment List.mem_cons_self
    · exact hmodel key

/-! ### What the application does -/

variable (definition : ModelSessionDefinition α)

/-- `assertDeclaredAttribute`. -/
def isDeclared (model : Model α) (key : String) : Bool :=
  (definition.attributes.getD model.constructedAttributes).contains key

/-- The assignments of `setAttribute`, which throws for the id and for undeclared attributes. -/
def assignment (key : String) (value : Option α) (model : Model α) : List (String × Option α) :=
  if model.isDeclared definition key && key ≠ "id" then [(key, value)] else []

/-- The assignments of `fill`, which throws when the id is among them, and at the first attribute
that is undeclared. -/
def assignments (patch : List (String × Option α)) (model : Model α) : List (String × Option α) :=
  if patch.any fun entry => entry.1 = "id" then []
  else patch.takeWhile fun entry => model.isDeclared definition entry.1

def setAttribute (key : String) (value : Option α) (model : Model α) : Model α :=
  model.writes (model.assignment definition key value)

def fill (patch : List (String × Option α)) (model : Model α) : Model α :=
  model.writes (model.assignments definition patch)

def journal (fact : PendingJournalFact α) (model : Model α) : Model α :=
  { model with pendingJournal := model.pendingJournal ++ [fact] }

def outbox (message : PendingOutboxMessage α) (model : Model α) : Model α :=
  { model with pendingOutbox := model.pendingOutbox ++ [message] }

/-! ### Changes -/

variable [DecidableEq α] (model : Model α)

/-- The keys of `currentChanges`. -/
def changedKeys : List String :=
  (model.original.keys ++ model.attributes.keys).eraseDups.filter fun key =>
    model.attributes.get key ≠ model.original.get key

/-- `currentChanges`. -/
def currentChanges : List (String × Option α) :=
  model.changedKeys.map fun key => (key, model.attributes.get key)

/-- `isDirty` of an attribute. -/
def isDirty (key : String) : Bool :=
  model.attributes.get key ≠ model.original.get key

/-- **The changes are the dirty attributes.** -/
theorem mem_changedKeys_iff (key : String) :
    key ∈ model.changedKeys ↔ model.isDirty key = true := by
  rw [changedKeys, isDirty, List.mem_filter, List.mem_eraseDups, List.mem_append]
  refine and_iff_right_of_imp fun hdirty => ?_
  by_contra hkeys
  obtain ⟨horiginal, hattributes⟩ := not_or.1 hkeys
  rw [OrderedMap.get_eq_none_iff.2 horiginal, OrderedMap.get_eq_none_iff.2 hattributes] at hdirty
  simp at hdirty

/-! ### What a session does -/

omit [DecidableEq α]

/-- `generatedIdentity`. -/
def generatedIdentity (id : α) (model : Model α) : Model α := model.write "id" (some id)

/-- `saved`: whatever the attributes are now counts as stored. -/
def saved (version : ℕ) (changes : List (String × Option α)) (created : Bool) (model : Model α) :
    Model α :=
  { model with
    version := some version
    existing := true
    recentlyCreated := created
    lastChanges := changes
    original := model.attributes }

/-- `clearPending`: whatever is pending now counts as handed over. -/
def clearPending : Model α :=
  { model with pendingJournal := [], pendingOutbox := [] }

end Model

end Doxa
