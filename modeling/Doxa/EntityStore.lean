/-
**An entity under several transactions.**

The stored state of an entity has a version, and a session hands the version of its model back when
it saves or deletes it.  In PostgreSQL the statement has the version in its condition, and waits for
a transaction that has written the row before; the memory of the tests works on a copy of what was
there when the transaction began, and compares the versions when the copy is applied.

A statement that waits is one that has not happened yet.  The error of a statement makes the whole
transaction of PostgreSQL fail (`postgres-drizzle/src/postgres-transaction-manager.ts`).  Readings
and commits are recorded; the program does not have these lists.

Main definitions:

* `Doxa.SessionEntity` — the model that a session has in its identity map;
* `Doxa.EntityTable`, `Doxa.EntityTable.step` — the row of an entity in PostgreSQL;
* `Doxa.MemoryEntities`, `Doxa.MemoryEntities.step` — the same in memory.
-/

import Mathlib
import Doxa.Lib.Transition
import Doxa.Lib.VersionedRegister

set_option relaxedAutoImplicit false
set_option autoImplicit false

namespace Doxa

open VersionedRegister

/-- `PersistedEntity`. -/
structure StoredEntity (α : Type) where
  version : ℕ
  state : α

/-- A model, with the version of what it was read from or written to. -/
structure SessionEntity (α : Type) where
  attributes : α
  version : Option ℕ

inductive SessionPhase
  | idle
  | active
  | failed
  | ended
deriving DecidableEq

/-- A save or a delete that has been committed: what the transaction had read or written last before
it, and how many changes had been committed by the time of the commit. -/
structure EntityCommit where
  reading : Option (Reading (Option ℕ))
  changes : ℕ

/-- What can happen. -/
inductive EntityLabel (α : Type)
  | begin (session : ℕ)
  | find (session : ℕ)
  | make (session : ℕ) (attributes : α)
  /-- `save`, with new attributes, or with facts and messages only. -/
  | save (session : ℕ) (attributes : Option α)
  | delete (session : ℕ)
  | commit (session : ℕ)
  | rollBack (session : ℕ)
  /-- Something else fails. -/
  | fail (session : ℕ)

variable {α : Type}

/-- The version of an entity, if there is one. -/
def versionOf (entity : Option (StoredEntity α)) : Option ℕ := entity.map StoredEntity.version

/-- How many changes there are after another one; what was absent and is absent is none. -/
def changesAfter (before after : Option (StoredEntity α)) (changes : ℕ) : ℕ :=
  if before.isNone && after.isNone then changes else changes + 1

/-! ### PostgreSQL -/

/-- A `ModelSession` over a `PostgresUnitOfWork`. -/
structure EntitySession (α : Type) where
  phase : SessionPhase
  model : Option (SessionEntity α)
  reading : Option (Reading (Option ℕ))
  /-- What was read or written last before each save and each delete. -/
  writes : List (Option (Reading (Option ℕ)))

def EntitySession.idle : EntitySession α := ⟨.idle, none, none, []⟩

/-- The row of an entity: as it is committed, and as the transaction has it that has written it. -/
structure EntityTable (α : Type) where
  committed : Option (StoredEntity α)
  pending : Option (ℕ × Option (StoredEntity α))
  changes : ℕ
  session : ℕ → EntitySession α
  commits : List EntityCommit

namespace EntityTable

variable (i : ℕ)

def setSession (session : EntitySession α) (s : EntityTable α) : EntityTable α :=
  { s with session := Function.update s.session i session }

/-- What a transaction sees. -/
def visible (s : EntityTable α) : Option (StoredEntity α) :=
  match s.pending with
  | some (holder, row) => if holder = i then row else s.committed
  | none => s.committed

/-- Another transaction has written the row. -/
def isLocked (s : EntityTable α) : Bool := s.pending.any fun written => written.1 ≠ i

/-- A statement that has written the row. -/
def write (row : Option (StoredEntity α)) (model : Option (SessionEntity α)) (s : EntityTable α) :
    EntityTable α :=
  { s with
    pending := some (i, row)
    session := Function.update s.session i
      { s.session i with
        model := model
        reading := some ⟨versionOf row, s.changes⟩
        writes := (s.session i).writes ++ [(s.session i).reading] } }

/-- `OptimisticConcurrencyError`, or another one. -/
def fail (s : EntityTable α) : EntityTable α :=
  s.setSession i { s.session i with phase := .failed }

/-- `saveEntityNow`. -/
def saveEntityNow (model : SessionEntity α) (attributes : α) (s : EntityTable α) : EntityTable α :=
  match model.version with
  | none =>
    if (s.visible i).isSome then s.fail i
    else s.write i (some ⟨1, attributes⟩) (some ⟨attributes, some 1⟩)
  | some version =>
    if versionOf (s.visible i) = some version then
      s.write i (some ⟨version + 1, attributes⟩) (some ⟨attributes, some (version + 1)⟩)
    else s.fail i

/-- `deleteEntityNow`; the model leaves the identity map. -/
def deleteEntityNow (version : ℕ) (s : EntityTable α) : EntityTable α :=
  if versionOf (s.visible i) = some version then s.write i none none else s.fail i

/-- `ModelSession.find`: what the identity map has is not read again. -/
def find (s : EntityTable α) : EntityTable α :=
  match (s.session i).model with
  | some _ => s
  | none =>
    s.setSession i { s.session i with
      model := (s.visible i).map fun entity => ⟨entity.state, some entity.version⟩
      reading := some ⟨versionOf (s.visible i), s.changes⟩ }

/-- The row as the transaction has written it becomes the committed one. -/
def commit (s : EntityTable α) : EntityTable α :=
  let logged : EntityTable α :=
    { s.setSession i { s.session i with phase := .ended } with
      commits := s.commits ++ (s.session i).writes.map fun reading => ⟨reading, s.changes⟩ }
  match s.pending with
  | some (holder, row) =>
    if holder = i then
      { logged with
        committed := row
        pending := none
        changes := changesAfter s.committed row s.changes }
    else logged
  | none => logged

def rollBack (s : EntityTable α) : EntityTable α :=
  let ended := s.setSession i { s.session i with phase := .ended }
  match s.pending with
  | some (holder, _) => if holder = i then { ended with pending := none } else ended
  | none => ended

def step (s : EntityTable α) : EntityLabel α → Option (EntityTable α)
  | .begin i =>
    if (s.session i).phase = .idle then
      some (s.setSession i { EntitySession.idle with phase := .active })
    else none
  | .find i =>
    if (s.session i).phase = .active then some (s.find i) else none
  | .make i attributes =>
    if (s.session i).phase = .active ∧ (s.session i).model.isNone then
      some (s.setSession i { s.session i with model := some ⟨attributes, none⟩ })
    else none
  | .save i attributes =>
    match (s.session i).phase, (s.session i).model with
    | .active, some model =>
      if attributes.isNone ∧ model.version.isSome then
        some (s.setSession i
          { s.session i with writes := (s.session i).writes ++ [(s.session i).reading] })
      else if s.isLocked i then none
      else some (s.saveEntityNow i model (attributes.getD model.attributes))
    | _, _ => none
  | .delete i =>
    match (s.session i).phase, ((s.session i).model).bind SessionEntity.version with
    | .active, some version =>
      if s.isLocked i then none else some (s.deleteEntityNow i version)
    | _, _ => none
  | .commit i =>
    if (s.session i).phase = .active then some (s.commit i) else none
  | .rollBack i =>
    if (s.session i).phase = .active ∨ (s.session i).phase = .failed then
      some (s.rollBack i)
    else none
  | .fail i =>
    if (s.session i).phase = .active then some (s.fail i) else none

/-- No transaction has begun. -/
structure IsInitial (s : EntityTable α) : Prop where
  pending : s.pending = none
  session : ∀ i, s.session i = .idle
  commits : s.commits = []

end EntityTable

/-! ### Memory -/

/-- A `ModelSession` over a `MemoryUnitOfWork`. -/
structure MemorySession (α : Type) where
  phase : SessionPhase
  model : Option (SessionEntity α)
  draft : Option (StoredEntity α)
  /-- `#entityBaselines`: the version that the draft had before the first write. -/
  baseline : Option (Option ℕ)
  /-- What the draft has been copied from. -/
  reading : Reading (Option ℕ)
  /-- It has saved or deleted the entity. -/
  writes : Bool

def MemorySession.idle : MemorySession α :=
  ⟨.idle, none, none, none, ⟨none, 0⟩, false⟩

structure MemoryEntities (α : Type) where
  target : Option (StoredEntity α)
  changes : ℕ
  session : ℕ → MemorySession α
  commits : List EntityCommit

/-- The draft is written. -/
def MemorySession.write (draft : Option (StoredEntity α)) (model : Option (SessionEntity α))
    (session : MemorySession α) : MemorySession α :=
  { session with
    draft := draft
    model := model
    baseline := some (session.baseline.getD (versionOf session.draft))
    writes := true }

/-- `MemoryUnitOfWork.saveEntity`; an error changes nothing. -/
def MemorySession.saveEntity (model : SessionEntity α) (attributes : α)
    (session : MemorySession α) : MemorySession α :=
  if versionOf session.draft = model.version then
    let version := (versionOf session.draft).getD 0 + 1
    session.write (some ⟨version, attributes⟩) (some ⟨attributes, some version⟩)
  else session

/-- `MemoryUnitOfWork.deleteEntity`. -/
def MemorySession.deleteEntity (version : ℕ) (session : MemorySession α) : MemorySession α :=
  if versionOf session.draft = some version then session.write none none else session

/-- `ModelSession.find`. -/
def MemorySession.find (session : MemorySession α) : MemorySession α :=
  match session.model with
  | some _ => session
  | none =>
    { session with
      model := session.draft.map fun entity => ⟨entity.state, some entity.version⟩ }

namespace MemoryEntities

def setSession (i : ℕ) (session : MemorySession α) (s : MemoryEntities α) : MemoryEntities α :=
  { s with session := Function.update s.session i session }

/-- `applyTo`: the baselines are compared, and then the draft is written. -/
def applyTo (i : ℕ) (s : MemoryEntities α) : MemoryEntities α :=
  if (s.session i).baseline.any fun version => version ≠ versionOf s.target then
    s.setSession i { s.session i with phase := .failed }
  else
    let ended := s.setSession i { s.session i with phase := .ended }
    let logged : MemoryEntities α :=
      if (s.session i).writes then
        { ended with commits := s.commits ++ [⟨some (s.session i).reading, s.changes⟩] }
      else ended
    if (s.session i).baseline.isSome then
      { logged with
        target := (s.session i).draft
        changes := changesAfter s.target (s.session i).draft s.changes }
    else logged

def step (s : MemoryEntities α) : EntityLabel α → Option (MemoryEntities α)
  | .begin i =>
    if (s.session i).phase = .idle then
      some (s.setSession i
        { MemorySession.idle with
          phase := .active
          draft := s.target
          reading := ⟨versionOf s.target, s.changes⟩ })
    else none
  | .find i =>
    if (s.session i).phase = .active then
      some (s.setSession i (s.session i).find)
    else none
  | .make i attributes =>
    if (s.session i).phase = .active ∧ (s.session i).model.isNone then
      some (s.setSession i { s.session i with model := some ⟨attributes, none⟩ })
    else none
  | .save i attributes =>
    match (s.session i).phase, (s.session i).model with
    | .active, some model =>
      if attributes.isNone ∧ model.version.isSome then
        some (s.setSession i { s.session i with writes := true })
      else
        some (s.setSession i
          ((s.session i).saveEntity model (attributes.getD model.attributes)))
    | _, _ => none
  | .delete i =>
    match (s.session i).phase, ((s.session i).model).bind SessionEntity.version with
    | .active, some version =>
      some (s.setSession i ((s.session i).deleteEntity version))
    | _, _ => none
  | .commit i =>
    if (s.session i).phase = .active then some (s.applyTo i) else none
  | .rollBack i | .fail i =>
    if (s.session i).phase = .active then
      some (s.setSession i { s.session i with phase := .ended })
    else none

/-- No transaction has begun. -/
structure IsInitial (s : MemoryEntities α) : Prop where
  session : ∀ i, s.session i = .idle
  commits : s.commits = []

end MemoryEntities

end Doxa
