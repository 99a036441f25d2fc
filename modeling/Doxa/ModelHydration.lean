/-
**Models of a session, and their hydration.**

`ModelSession` keeps its models in an identity map, and the hydrations under way in a second map, so
that whoever asks for a model meanwhile waits for the same hydration.  While the `retrieved`
observers of a hydration run, what they do is in its scope (an `AsyncLocalStorage`): a `find` there
is given the half-hydrated models of the scope instead of waiting for itself.

A step is what runs between two awaits.  What the program, the observers, the reader and the store
do is chosen by the label: which call is begun and in which scope, what the reader answers, how an
observer ends.  Objects are told apart by references, and a new object has one that is not in use.
The reader answers `findEntity` with the entity of the id it was asked for, if with any.  An entity
type has no slash after its owner, so that a type and an id are one key.  Closing the session is
left out.

Main definitions:

* `Doxa.LiveSession` — the two maps, the models, the hydrations, and the calls under way;
* `Doxa.LiveSession.lookup` — where `find` and `hydrate` look first;
* `Doxa.LiveSession.hydrate`, `Doxa.LiveSession.settleHydration`, … — the parts of the
  methods between two awaits;
* `Doxa.ModelSessionLabel`, `Doxa.LiveSession.step` — what can happen, and what it does.
-/

import Doxa.Lib.Transition
import Mathlib.Data.List.Basic
import Mathlib.Logic.Function.Basic

set_option relaxedAutoImplicit false
set_option autoImplicit false

namespace Doxa

/-! ### The state of a session -/

/-- A reference to an object. -/
abbrev Ref := ℕ

/-- What the identity map goes by: the entity type and the id of a model. -/
structure Identity where
  entityType : String
  id : String
deriving DecidableEq

/-- Whether a model exists: a made one does not yet, a deleted one no longer. -/
inductive ModelPersistence
  | made
  | stored
  | deleted
deriving DecidableEq

/-- A model that was attached to the session. -/
structure SessionModel where
  identity : Identity
  persistence : ModelPersistence
  /-- Whether it was created from persisted state. -/
  hydrated : Bool
  /-- How often `retrieved` was dispatched for it. -/
  retrieved : ℕ
  /-- Whether its hydration failed. -/
  rolledBack : Bool
deriving DecidableEq

/-- Attached and not deleted. -/
def SessionModel.live (model : SessionModel) : Bool :=
  model.persistence ≠ .deleted

/-- A model created from persisted state; its observers are dispatched at once. -/
def SessionModel.ofPersisted (identity : Identity) : SessionModel where
  identity := identity
  persistence := .stored
  hydrated := true
  retrieved := 1
  rolledBack := false

/-- A model that `make` creates. -/
def SessionModel.ofMake (identity : Identity) : SessionModel where
  identity := identity
  persistence := .made
  hydrated := false
  retrieved := 0
  rolledBack := false

/-- How far a promise is. -/
inductive HydrationStatus
  | pending
  | resolved
  | rejected
deriving DecidableEq

/-- A hydration: the model it created, if the state was accepted, and its scope, which is active
while it is pending. -/
structure Hydration where
  identity : Identity
  model : Option Ref
  /-- The hydration in whose scope it was started. -/
  parent : Option Ref
  models : Identity → Option Ref
  status : HydrationStatus

/-- What a call of `hydrate` gives: a model, or the promise of a hydration, which the call itself
started or found. -/
inductive AwaitedModel
  | model (model : Ref)
  | hydration (hydration : Ref) (owner : Bool)
deriving DecidableEq

/-- A persisted entity: its id, and whether its state is accepted as attributes. -/
structure PersistedRow where
  id : String
  accepted : Bool
deriving DecidableEq

inductive ReadRequest
  | find (identity : Identity)
  | query (entityType : String)
deriving DecidableEq

/-- The entity type that is read. -/
def ReadRequest.entityType : ReadRequest → String
  | find identity => identity.entityType
  | query entityType => entityType

/-- What a call of `find` or `query` awaits. -/
inductive CallPhase
  /-- The reader. -/
  | reading
  /-- The model of one row; the other rows come after it. -/
  | hydrating (awaited : AwaitedModel) (identity : Identity) (rest : List PersistedRow)
  /-- Only what is loaded eagerly, if anything. -/
  | loaded
deriving DecidableEq

/-- A call of `find` or `query` under way, with the models it has and the identity each was read
by. -/
structure ReadCall where
  request : ReadRequest
  scope : Option Ref
  models : List (Identity × Ref)
  phase : CallPhase

/-- A call of `save` or `delete` under way. -/
inductive ModelWrite
  /-- `saveEntity` was called, with the identity the model had, for a model with or without a
  version. -/
  | saving (model : Ref) (pendingIdentity : Identity) (inserting : Bool)
  /-- `record` and `enqueue`, and then `saved`. -/
  | storing (model : Ref)
  /-- `deleteEntity`, `record` and `enqueue`, and then `deleted`. -/
  | deleting (model : Ref)
deriving DecidableEq

structure LiveSession where
  models : Ref → Option SessionModel
  hydrations : Ref → Option Hydration
  calls : Ref → Option ReadCall
  writes : Ref → Option ModelWrite
  /-- `#identityMap`. -/
  identityMap : Identity → Option Ref
  /-- `#hydrations`. -/
  pending : Identity → Option Ref

namespace LiveSession

/-- A new session. -/
def fresh : LiveSession where
  models _ := none
  hydrations _ := none
  calls _ := none
  writes _ := none
  identityMap _ := none
  pending _ := none

/-! ### Updates -/

variable (s : LiveSession)

def setModel (ref : Ref) (model : SessionModel) : LiveSession :=
  { s with models := Function.update s.models ref (some model) }

def setHydration (ref : Ref) (hydration : Hydration) : LiveSession :=
  { s with hydrations := Function.update s.hydrations ref (some hydration) }

def setCall (ref : Ref) (call : Option ReadCall) : LiveSession :=
  { s with calls := Function.update s.calls ref call }

def setWrite (ref : Ref) (write : Option ModelWrite) : LiveSession :=
  { s with writes := Function.update s.writes ref write }

/-- `#identityMap.set` and `#identityMap.delete`. -/
def setIdentity (identity : Identity) (model : Option Ref) : LiveSession :=
  { s with identityMap := Function.update s.identityMap identity model }

/-- `#hydrations.set` and `#hydrations.delete`. -/
def setPending (identity : Identity) (hydration : Option Ref) : LiveSession :=
  { s with pending := Function.update s.pending identity hydration }

/-- Reading a map after one entry was set. -/
theorem update_eq_some_iff {α β : Type*} [DecidableEq α] {f : α → Option β} {a a' : α}
    {v : Option β} {b : β} :
    Function.update f a v a' = some b ↔ a' = a ∧ v = some b ∨ a' ≠ a ∧ f a' = some b := by
  by_cases h : a' = a
  · subst h
    simp
  · simp [h]

/-! ### Hydration -/

/-- The models of the scope, while it is active. -/
def scopeModels (scope : Option Ref) : Identity → Option Ref :=
  match scope.bind s.hydrations with
  | some hydration =>
    if hydration.status = .pending then hydration.models else fun _ => none
  | none => fun _ => none

/-- Where `find` and `hydrate` look first: at the models that are being hydrated in the scope, at
the hydrations under way, and at the identity map. -/
def lookup (scope : Option Ref) (identity : Identity) : Option AwaitedModel :=
  let hydrating := s.scopeModels scope identity
  if hydrating.isSome ∧ s.identityMap identity = hydrating then hydrating.map .model
  else
    match s.pending identity, hydrating with
    | some hydration, none => some (.hydration hydration false)
    | _, _ => (s.identityMap identity).map .model

/-- The hydration of a row, up to its first await.  The references are those of the promise and of
the model. -/
def startHydration (scope : Option Ref) (identity : Identity) (accepted : Bool)
    (hydration model : Ref) : LiveSession :=
  if accepted then
    (((s.setModel model (.ofPersisted identity)).setIdentity identity
      (some model)).setHydration hydration
        { identity := identity
          model := some model
          parent := scope
          models := Function.update (s.scopeModels scope) identity (some model)
          status := .pending }).setPending identity (some hydration)
  else
    (s.setHydration hydration
      { identity := identity
        model := none
        parent := scope
        models := s.scopeModels scope
        status := .rejected }).setPending identity (some hydration)

/-- `ModelSession.hydrate`, up to its first await. -/
def hydrate (scope : Option Ref) (identity : Identity) (accepted : Bool) (hydration model : Ref) :
    Option (LiveSession × AwaitedModel) :=
  match s.lookup scope identity with
  | some awaited => some (s, awaited)
  | none =>
    if (s.hydrations hydration).isNone ∧ (s.models model).isNone then
      some (s.startHydration scope identity accepted hydration model,
        .hydration hydration true)
    else none

/-- The rest of a hydration, when its observers are done: a failed one is taken out of the identity
map. -/
def settleHydration (ref : Ref) (hydration : Hydration) (model : Ref) (succeeded : Bool) :
    LiveSession :=
  if succeeded then s.setHydration ref { hydration with status := .resolved }
  else
    let failed := (s.models model).map fun m => { m with rolledBack := true }
    let t := { s with models := Function.update s.models model failed }.setHydration ref
      { hydration with status := .rejected }
    if s.identityMap hydration.identity = some model then t.setIdentity hydration.identity none
    else t

/-! ### Calls -/

/-- A call of `find` or `query`, with the rows it has yet to hydrate. -/
def proceed (ref : Ref) (call : ReadCall) (rows : List PersistedRow) (hydration model : Ref) :
    Option LiveSession :=
  match rows with
  | [] => some (s.setCall ref (some { call with phase := .loaded }))
  | row :: rest =>
    let identity := .mk call.request.entityType row.id
    (s.hydrate call.scope identity row.accepted hydration model).map fun (t, awaited) =>
      t.setCall ref (some { call with phase := .hydrating awaited identity rest })

/-- `ModelSession.find`, up to its first await. -/
def find (ref : Ref) (scope : Option Ref) (identity : Identity) : LiveSession :=
  let call := ReadCall.mk (.find identity) scope
  match s.lookup scope identity with
  | some (.model model) =>
    s.setCall ref (some (call [(identity, model)] .loaded))
  | some awaited => s.setCall ref (some (call [] (.hydrating awaited identity [])))
  | none => s.setCall ref (some (call [] .reading))

/-- `ModelSession.query`, up to its first await. -/
def query (ref : Ref) (scope : Option Ref) (entityType : String) : LiveSession :=
  s.setCall ref (some
    { request := .query entityType
      scope := scope
      models := []
      phase := .reading })

/-- Whether the reader may answer a request with the rows. -/
def answers : ReadRequest → List PersistedRow → Bool
  | .find identity, rows =>
    rows.length ≤ 1 && rows.all fun row => row.id = identity.id
  | .query _, _ => true

/-- `finally`: the hydration is taken out of the map, if it is still there. -/
def release (identity : Identity) (awaited : AwaitedModel) : LiveSession :=
  match awaited with
  | .hydration hydration true =>
    if s.pending identity = some hydration then s.setPending identity none else s
  | _ => s

/-- What an awaited model has come to: nothing yet, a model, or an error. -/
def awaitedRef : AwaitedModel → Option (Option Ref)
  | .model model => some (some model)
  | .hydration ref _ =>
    match s.hydrations ref with
    | none => none
    | some hydration =>
      match hydration.status with
      | .pending => none
      | .resolved => some hydration.model
      | .rejected => some none

/-- A call goes on when the model it awaits is there, or throws. -/
def resume (ref : Ref) (hydration model : Ref) : Option LiveSession :=
  match s.calls ref with
  | some call =>
    match call.phase with
    | .hydrating awaited identity rest =>
      match s.awaitedRef awaited with
      | none => none
      | some none => some ((s.release identity awaited).setCall ref none)
      | some (some found) =>
        (s.release identity awaited).proceed ref
          { call with models := call.models ++ [(identity, found)] } rest hydration model
    | _ => none
  | none => none

/-- What `hydrate` does: it finds something, or starts a hydration. -/
theorem hydrate_cases {s t : LiveSession} {scope : Option Ref} {identity : Identity}
    {accepted : Bool} {hydration model : Ref} {awaited : AwaitedModel}
    (hstep : s.hydrate scope identity accepted hydration model = some (t, awaited)) :
    s.lookup scope identity = some awaited ∧ t = s ∨
      s.lookup scope identity = none ∧ s.hydrations hydration = none ∧ s.models model = none ∧
        t = s.startHydration scope identity accepted hydration model ∧
        awaited = .hydration hydration true := by
  rw [hydrate] at hstep
  cases hlookup : s.lookup scope identity with
  | some found =>
    rw [hlookup] at hstep
    cases hstep
    exact .inl ⟨rfl, rfl⟩
  | none =>
    rw [hlookup] at hstep
    dsimp only at hstep
    split_ifs at hstep with hfree
    cases hstep
    exact .inr ⟨rfl, Option.isNone_iff_eq_none.1 hfree.1, Option.isNone_iff_eq_none.1 hfree.2,
      rfl, rfl⟩

/-- What `resume` does: the call throws what the hydration threw, or goes on with its rows. -/
theorem resume_cases {s t : LiveSession} {ref hydration model : Ref}
    (hstep : s.resume ref hydration model = some t) :
    ∃ call awaited identity rest, s.calls ref = some call ∧
      call.phase = .hydrating awaited identity rest ∧
      (t = (s.release identity awaited).setCall ref none ∨
        ∃ found, s.awaitedRef awaited = some (some found) ∧
          (s.release identity awaited).proceed ref
            { call with models := call.models ++ [(identity, found)] } rest hydration model
              = some t) := by
  rw [resume] at hstep
  cases hcall : s.calls ref with
  | none =>
    rw [hcall] at hstep
    cases hstep
  | some call =>
    rw [hcall] at hstep
    dsimp only at hstep
    split at hstep
    · next awaited identity rest hphase =>
        refine ⟨call, awaited, identity, rest, rfl, hphase, ?_⟩
        split at hstep
        · cases hstep
        · exact .inl (Option.some.inj hstep).symm
        · next found hfound => exact .inr ⟨found, hfound, hstep⟩
    · cases hstep

/-! ### Writes -/

/-- `ModelSession.make`. -/
def make (ref : Ref) (identity : Identity) : Option LiveSession :=
  if (s.models ref).isNone then
    if s.identityMap identity = none then
      some ((s.setModel ref (.ofMake identity)).setIdentity identity (some ref))
    else some s
  else none

/-- `save` calls `saveEntity`.  Only a made model has no version. -/
def save (ref model : Ref) : Option LiveSession :=
  (s.models model).map fun m => s.setWrite ref (some (.saving model m.identity
    (m.persistence = .made)))

/-- `saveEntity` has answered, with an id when the database generated it, which it does for an
insert only. -/
def saveAnswered (ref : Ref) (id : Option String) : Option LiveSession :=
  match s.writes ref with
  | some (.saving model pendingIdentity inserting) =>
    let t := s.setWrite ref (some (.storing model))
    match id with
    | none => some t
    | some id =>
      if inserting then
        if id = pendingIdentity.id then some t
        else
          (s.models model).map fun m =>
            let identity := .mk m.identity.entityType id
            ((t.setModel model { m with identity := identity }).setIdentity pendingIdentity
              none).setIdentity identity (some model)
      else none
  | _ => none

/-- The end of `save`. -/
def saved (ref : Ref) : Option LiveSession :=
  match s.writes ref with
  | some (.storing model) =>
    (s.models model).map fun m =>
      (s.setModel model { m with persistence := .stored }).setWrite ref none
  | _ => none

/-- `ModelSession.delete`, up to its first await. -/
def delete (ref model : Ref) : Option LiveSession :=
  (s.models model).bind fun m =>
    if m.persistence = .stored then
      some (s.setWrite ref (some (.deleting model)))
    else none

/-- The end of `delete`. -/
def deleted (ref : Ref) : Option LiveSession :=
  match s.writes ref with
  | some (.deleting model) =>
    (s.models model).map fun m =>
      ((s.setModel model { m with persistence := .deleted }).setIdentity
        m.identity none).setWrite ref none
  | _ => none

end LiveSession

/-! ### Steps -/

/-- What can happen, with the references of the objects that are created. -/
inductive ModelSessionLabel
  | find (call : Ref) (scope : Option Ref) (identity : Identity)
  | query (call : Ref) (scope : Option Ref) (entityType : String)
  /-- The reader answers. -/
  | read (call : Ref) (rows : List PersistedRow) (hydration model : Ref)
  /-- A call goes on. -/
  | resume (call : Ref) (hydration model : Ref)
  /-- A call returns. -/
  | settle (call : Ref)
  /-- A call throws, as the reader does or what it loads eagerly. -/
  | fail (call : Ref)
  /-- The `retrieved` observers are done. -/
  | retrieved (hydration : Ref) (succeeded : Bool)
  | make (model : Ref) (identity : Identity)
  | save (write model : Ref)
  | saveAnswered (write : Ref) (id : Option String)
  | saved (write : Ref)
  | delete (write model : Ref)
  | deleted (write : Ref)
  /-- A call of `save` or `delete` throws. -/
  | failWrite (write : Ref)
deriving DecidableEq

/-- What a label does, if it can happen. -/
def LiveSession.step (s : LiveSession) : ModelSessionLabel → Option LiveSession
  | .find call scope identity =>
    if (s.calls call).isNone ∧ (scope.all fun h => (s.hydrations h).isSome) = true then
      some (s.find call scope identity)
    else none
  | .query call scope entityType =>
    if (s.calls call).isNone ∧ (scope.all fun h => (s.hydrations h).isSome) = true then
      some (s.query call scope entityType)
    else none
  | .read ref rows hydration model =>
    (s.calls ref).bind fun call =>
      if call.phase = .reading ∧ LiveSession.answers call.request rows = true then
        s.proceed ref call rows hydration model
      else none
  | .resume call hydration model => s.resume call hydration model
  | .settle ref =>
    (s.calls ref).bind fun call =>
      if call.phase = .loaded then some (s.setCall ref none) else none
  | .fail ref =>
    (s.calls ref).bind fun call =>
      if call.phase = .reading ∨ call.phase = .loaded then
        some (s.setCall ref none)
      else none
  | .retrieved ref succeeded =>
    (s.hydrations ref).bind fun hydration =>
      if hydration.status = .pending then
        hydration.model.map fun model => s.settleHydration ref hydration model succeeded
      else none
  | .make model identity => s.make model identity
  | .save write model =>
    if (s.writes write).isNone then s.save write model else none
  | .saveAnswered write id => s.saveAnswered write id
  | .saved write => s.saved write
  | .delete write model =>
    if (s.writes write).isNone then s.delete write model else none
  | .deleted write => s.deleted write
  | .failWrite write => some (s.setWrite write none)

end Doxa
