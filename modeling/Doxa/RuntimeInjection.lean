/-
**Injection of the unit of work.**

The scope of an execution resolves the handlers of its operations and the services they are given
(`runtime/src/runtime.ts`, `ExecutionScope.resolve`).  A transient service is made whenever it is
asked for, an execution-scoped one once for the execution.  Who asks for the unit of work gets the
current one of the scope, or the read-only one if there is none, or within an authorization.

Operations of one chain are nested: an action or a job is authorized, gets its handler, and runs
it; queries run within one another, within actions and jobs, and by themselves; policies and the
source of permissions are asked within all of them.  The read-only unit of work is `none` here.

Main definitions:

* `Doxa.ServiceGraph` — the services, what they depend on, and why that comes to an end;
* `Doxa.ServiceGraph.resolve` — an instance, and the instances that are kept;
* `Doxa.InjectionState.step` — operations begin, get their handlers, and end;
* `Doxa.InjectionState.InjectionExact` — everybody has the unit of work that is due.

Main results:

* `Doxa.ServiceGraph.resolve_ne_none` — resolving does not run out of depth;
* `Doxa.injection_exact` — **where no query within an action, and no action within an
  authorization, reaches the unit of work, and no execution-scoped service that reaches it is asked
  for with another one, everybody has the unit of work that is due**;
* `Doxa.injection_not_exact` — a query has the unit of work of an action that is over.
-/

import Doxa.Lib.OrderedMap
import Doxa.Lib.Transition
import Mathlib.Logic.Relation

set_option relaxedAutoImplicit false
set_option autoImplicit false

namespace Doxa

/-! ### Services -/

/-- What a constructor is given. -/
inductive InjectionTarget
  | unitOfWork
  | service (id : String)
deriving DecidableEq

inductive ServiceScope
  | transient
  | execution
deriving DecidableEq

/-- What the compiler knows of a service, or of a handler. -/
structure ServiceManifest where
  scope : ServiceScope
  dependencies : List InjectionTarget

/-- The services of an application: all dependencies are declared, and there is no cycle. -/
structure ServiceGraph where
  manifest : String → Option ServiceManifest
  depth : String → ℕ
  depth_lt : ∀ id entry dependency, manifest id = some entry →
    .service dependency ∈ entry.dependencies → depth dependency < depth id
  declared : ∀ id entry dependency, manifest id = some entry →
    .service dependency ∈ entry.dependencies → manifest dependency ≠ none

/-- An instance, with what its constructor was given. -/
inductive ServiceInstance
  | unitOfWork (unit : Option ℕ)
  | service (id : String) (dependencies : List ServiceInstance)

mutual

/-- The units of work that can be reached from an instance. -/
def ServiceInstance.units : ServiceInstance → List (Option ℕ)
  | .unitOfWork unit => [unit]
  | .service _ dependencies => allUnits dependencies

/-- The units of work that can be reached from some instances. -/
def allUnits : List ServiceInstance → List (Option ℕ)
  | [] => []
  | first :: rest => first.units ++ allUnits rest

end

/-- The instances of an execution. -/
abbrev ServiceInstances := OrderedMap String ServiceInstance

/-- The unit of work is injected; services are resolved. -/
def resolveTarget (injected : Option ℕ)
    (resolveService : String → ServiceInstances → Option (ServiceInstance × ServiceInstances)) :
    InjectionTarget → ServiceInstances → Option (ServiceInstance × ServiceInstances)
  | .unitOfWork, instances =>
    some (.unitOfWork injected, instances)
  | .service dependency, instances => resolveService dependency instances

/-- What is asked for is resolved one after the other. -/
def resolveAll
    (resolveOne : InjectionTarget → ServiceInstances →
      Option (ServiceInstance × ServiceInstances)) :
    List InjectionTarget → ServiceInstances → Option (List ServiceInstance × ServiceInstances)
  | [], instances => some ([], instances)
  | target :: targets, instances =>
    (resolveOne target instances).bind fun resolved =>
      (resolveAll resolveOne targets resolved.2).map fun rest =>
        (resolved.1 :: rest.1, rest.2)

namespace ServiceGraph

variable (graph : ServiceGraph)

/-- `ExecutionScope.resolve`, down to some depth. -/
def resolveWithin (injected : Option ℕ) :
    ℕ → String → ServiceInstances → Option (ServiceInstance × ServiceInstances)
  | 0, _, _ => none
  | depth + 1, id, instances =>
    (graph.manifest id).bind fun entry =>
      match if entry.scope = .execution then instances.get id else none with
      | some found => some (found, instances)
      | none =>
        (resolveAll (resolveTarget injected (resolveWithin injected depth)) entry.dependencies
          instances).map fun resolved =>
            (.service id resolved.1,
              if entry.scope = .execution then
                resolved.2.set id (.service id resolved.1)
              else resolved.2)

/-- `ExecutionScope.resolve`. -/
def resolve (injected : Option ℕ) (id : String) (instances : ServiceInstances) :
    Option (ServiceInstance × ServiceInstances) :=
  graph.resolveWithin injected (graph.depth id + 1) id instances

/-- One service is given another one. -/
def DependsOn (id dependency : String) : Prop :=
  ∃ entry, graph.manifest id = some entry ∧ .service dependency ∈ entry.dependencies

/-- One service reaches another one, or is it. -/
def Reaches : String → String → Prop := Relation.ReflTransGen graph.DependsOn

/-- A service reaches the unit of work. -/
def ReachesUnitOfWork (id : String) : Prop :=
  ∃ last entry, graph.Reaches id last ∧ graph.manifest last = some entry ∧
    .unitOfWork ∈ entry.dependencies

/-- A service is kept for the execution. -/
def IsKept (id : String) : Prop :=
  ∃ entry, graph.manifest id = some entry ∧ entry.scope = .execution

variable {graph}

variable {injected : Option ℕ} {instances : ServiceInstances}

/-- **Resolving does not run out of depth.** -/
theorem resolveWithin_ne_none {depth : ℕ} {id : String} (hdeclared : graph.manifest id ≠ none)
    (hdepth : graph.depth id < depth) : graph.resolveWithin injected depth id instances ≠ none := by
  induction depth generalizing id instances with
  | zero => exact absurd hdepth (Nat.not_lt_zero _)
  | succ depth ih =>
    obtain ⟨entry, hentry⟩ := Option.ne_none_iff_exists'.1 hdeclared
    rw [resolveWithin, hentry, Option.bind_some]
    split
    · exact Option.some_ne_none _
    · rw [ne_eq, Option.map_eq_none_iff]
      -- one dependency after the other
      have hall : ∀ targets : List InjectionTarget, targets ⊆ entry.dependencies →
          ∀ instances, resolveAll (resolveTarget injected (graph.resolveWithin injected depth))
            targets instances ≠ none := by
        intro targets hsubset
        induction targets with
        | nil => exact fun instances => Option.some_ne_none _
        | cons target targets ih' =>
          intro instances
          obtain ⟨hmem, hrest⟩ := List.cons_subset.1 hsubset
          rw [resolveAll]
          have hone : ∃ resolved, resolveTarget injected (graph.resolveWithin injected depth)
              target instances = some resolved := by
            cases target with
            | unitOfWork => exact ⟨_, rfl⟩
            | service dependency =>
              refine Option.ne_none_iff_exists'.1 ?_
              refine ih (graph.declared id entry _ hentry hmem) ?_
              have hlt := graph.depth_lt id entry dependency hentry hmem
              omega
          obtain ⟨resolved, hresolved⟩ := hone
          rw [hresolved, Option.bind_some, ne_eq, Option.map_eq_none_iff]
          exact ih' hrest resolved.2
      exact hall entry.dependencies (List.Subset.refl _) instances

theorem resolve_ne_none {id : String} (hdeclared : graph.manifest id ≠ none) :
    graph.resolve injected id instances ≠ none :=
  resolveWithin_ne_none hdeclared (Nat.lt_succ_self _)

/-- **What holds of what is injected, and passes from a dependency to its dependent, holds of
everything that is resolved**, if it holds of everything that is kept. -/
theorem resolveWithin_all {root : String} {P : String → Option ℕ → Prop}
    (hunit : ∀ id entry, graph.Reaches root id → graph.manifest id = some entry →
      .unitOfWork ∈ entry.dependencies → P id injected)
    (hpass : ∀ id dependency unit, graph.Reaches root id → graph.DependsOn id dependency →
      P dependency unit → P id unit) {depth : ℕ} {id : String} {instances' : ServiceInstances}
    {found : ServiceInstance} (hreach : graph.Reaches root id)
    (hkept : ∀ id found, graph.IsKept id → instances.get id = some found →
      ∀ unit ∈ found.units, P id unit)
    (h : graph.resolveWithin injected depth id instances = some (found, instances')) :
    (∀ unit ∈ found.units, P id unit) ∧ ∀ id found, graph.IsKept id →
      instances'.get id = some found → ∀ unit ∈ found.units, P id unit := by
  induction depth generalizing id instances instances' found with
  | zero => cases h
  | succ depth ih =>
    rw [resolveWithin] at h
    obtain ⟨entry, hentry, h⟩ := Option.bind_eq_some_iff.1 h
    split at h
    · -- the instance has been kept
      rename_i old hold
      cases h
      split_ifs at hold with hscope
      exact ⟨hkept id _ ⟨entry, hentry, hscope⟩ hold, hkept⟩
    · obtain ⟨⟨dependencies, rest⟩, hall, heq⟩ := Option.map_eq_some_iff.1 h
      cases heq
      have hdependencies : ∀ (targets : List InjectionTarget)
          (instances instances' : ServiceInstances) (resolved : List ServiceInstance),
          targets ⊆ entry.dependencies →
          (∀ id found, graph.IsKept id → instances.get id = some found →
            ∀ unit ∈ found.units, P id unit) →
          resolveAll (resolveTarget injected (graph.resolveWithin injected depth)) targets
            instances = some (resolved, instances') →
          (∀ unit ∈ allUnits resolved, P id unit) ∧ ∀ id found, graph.IsKept id →
            instances'.get id = some found → ∀ unit ∈ found.units, P id unit := by
        intro targets
        induction targets with
        | nil =>
          rintro instances instances' resolved - hkept hnil
          cases hnil
          exact ⟨by rintro _ ⟨⟩, hkept⟩
        | cons target targets ih' =>
          intro instances instances' resolved hsubset hkept hcons
          obtain ⟨hmem, hrest⟩ := List.cons_subset.1 hsubset
          obtain ⟨⟨first, next⟩, hfirst, hcons⟩ := Option.bind_eq_some_iff.1 hcons
          obtain ⟨⟨others, last⟩, hothers, heq⟩ := Option.map_eq_some_iff.1 hcons
          cases heq
          have hone : (∀ unit ∈ first.units, P id unit) ∧ ∀ id found, graph.IsKept id →
              next.get id = some found → ∀ unit ∈ found.units, P id unit := by
            cases target with
            | unitOfWork =>
              cases hfirst
              refine ⟨fun unit hunit' => ?_, hkept⟩
              obtain rfl := List.mem_singleton.1 hunit'
              exact hunit id entry hreach hentry hmem
            | service dependency =>
              have hdepends : graph.DependsOn id dependency := ⟨entry, hentry, hmem⟩
              obtain ⟨hfirst', hnext⟩ := ih (hreach.tail hdepends) hkept hfirst
              exact ⟨fun unit hunit' =>
                hpass id dependency unit hreach hdepends (hfirst' unit hunit'), hnext⟩
          obtain ⟨hall, hlast⟩ := ih' next last others hrest hone.2 hothers
          refine ⟨fun unit hunit' => ?_, hlast⟩
          rcases List.mem_append.1 hunit' with hunit' | hunit'
          · exact hone.1 unit hunit'
          · exact hall unit hunit'
      obtain ⟨hunits, hrest⟩ :=
        hdependencies entry.dependencies _ _ _ (List.Subset.refl _) hkept hall
      refine ⟨hunits, ?_⟩
      intro j kept hkeeps hget
      split_ifs at hget with hscope
      · rw [OrderedMap.get_set] at hget
        split_ifs at hget with hj
        · cases hget
          rw [hj]
          exact hunits
        · exact hrest j kept hkeeps hget
      · exact hrest j kept hkeeps hget

end ServiceGraph

/-! ### Operations -/

/-- Who gets an instance. -/
inductive InjectionRole
  | action
  | job
  | query
  | policy
  | permissionSource
deriving DecidableEq

def InjectionRole.writes : InjectionRole → Bool
  | .action | .job => true
  | _ => false

/-- Policies and the source of permissions are asked in an authorization. -/
def InjectionRole.authorizes : InjectionRole → Bool
  | .policy | .permissionSource => true
  | _ => false

/-- An operation or a decision that has begun: an action or a job has a unit of work. -/
structure InjectionFrame where
  role : InjectionRole
  /-- What is resolved for it. -/
  root : String
  unit : Option ℕ
  handling : Bool
  unit_isSome : unit.isSome = role.writes

/-- An instance that was resolved, for an operation whose unit of work was due. -/
structure InjectionResolution where
  root : String
  due : Option ℕ
  found : ServiceInstance

structure InjectionState where
  /-- The field of the scope. -/
  unitOfWork : Option ℕ
  /-- The operations and decisions within one another, the innermost first. -/
  frames : List InjectionFrame
  instances : ServiceInstances
  /-- How many units of work there have been. -/
  units : ℕ
  resolutions : List InjectionResolution

/-- What can happen. -/
inductive InjectionLabel
  | enter (role : InjectionRole) (root : String)
  /-- The innermost operation gets its handler. -/
  | resolve
  | leave

namespace InjectionState

def new : InjectionState where
  unitOfWork := none
  frames := []
  instances := .empty
  units := 0
  resolutions := []

/-- Code runs that can ask for the role: where no handler is called yet, it is the authorization. -/
def canEnter (role : InjectionRole) (state : InjectionState) : Bool :=
  match state.frames with
  | [] => true
  | frame :: _ => frame.handling || role.authorizes

/-- What is injected as the unit of work. -/
def injected (state : InjectionState) : Option ℕ :=
  if state.frames.any fun frame => frame.role.authorizes then none else state.unitOfWork

/-- The operation stack is empty. -/
def isTop (state : InjectionState) : Bool := state.frames.all fun frame => frame.role.authorizes

/-- What a label does, in the states in which it can happen: actions and jobs are not nested. -/
def step (graph : ServiceGraph) (state : InjectionState) : InjectionLabel → Option InjectionState
  | .enter role root =>
    if state.canEnter role then
      if h : role.writes = true then
        if state.isTop then
          some { state with
            unitOfWork := some state.units
            frames := ⟨role, root, some state.units, false, h.symm⟩ :: state.frames
            units := state.units + 1 }
        else none
      else some { state with
        frames := ⟨role, root, none, false, (Bool.not_eq_true _ ▸ h).symm⟩ :: state.frames }
    else none
  | .resolve =>
    match state.frames with
    | [] => none
    | frame :: rest =>
      if frame.handling then none
      else (graph.resolve state.injected frame.root state.instances).map fun resolved =>
        { state with
          frames := { frame with handling := true } :: rest
          instances := resolved.2
          resolutions := ⟨frame.root, frame.unit, resolved.1⟩ :: state.resolutions }
  | .leave =>
    match state.frames with
    | [] => none
    | frame :: rest => some { state with
        unitOfWork := if frame.role.writes then none else state.unitOfWork
        frames := rest }

/-- **Injection is exact**: whoever reaches a unit of work from what was resolved for an operation
reaches the one that was due, that of the action or job, or else the read-only one. -/
def InjectionExact (state : InjectionState) : Prop :=
  ∀ resolution ∈ state.resolutions, ∀ unit ∈ resolution.found.units, unit = resolution.due

/-- The operation is where the unit of work that is due is injected: a query is not within an
action or a job, unless in an authorization, and an action or a job is not within an authorization.
-/
def IsPlaced (frame : InjectionFrame) (rest : List InjectionFrame) : Prop :=
  match frame.role with
  | .query => (∀ outer ∈ rest, outer.role.writes = false) ∨
      ∃ outer ∈ rest, outer.role.authorizes = true
  | .action | .job => ∀ outer ∈ rest, outer.role.authorizes = false
  | _ => True

/-- **Consistent steps**: when an operation gets its handler, and that reaches the unit of work, the
operation is placed where its unit of work is injected; and all earlier operations that reached an
execution-scoped service on the way to it were due the same unit of work. -/
def Consistent (graph : ServiceGraph) (state : InjectionState) : InjectionLabel → Prop
  | .resolve => ∀ frame rest, state.frames = frame :: rest →
      (graph.ReachesUnitOfWork frame.root → IsPlaced frame rest) ∧
      ∀ id, graph.Reaches frame.root id → graph.IsKept id → graph.ReachesUnitOfWork id →
        ∀ earlier ∈ state.resolutions, graph.Reaches earlier.root id → earlier.due = frame.unit
  | _ => True

/-! ### What every consistent step keeps -/

/-- Of two operations within one another, one is no action and no job. -/
def AtMostOne (frames : List InjectionFrame) : Prop :=
  frames.Pairwise fun inner outer => inner.unit = none ∨ outer.unit = none

/-- What is known of every state of a consistent run. -/
structure Kept (graph : ServiceGraph) (state : InjectionState) : Prop where
  exact : state.InjectionExact
  atMostOne : AtMostOne state.frames
  unitOfWork : state.unitOfWork = state.frames.findSome? InjectionFrame.unit
  instances : ∀ id found, graph.IsKept id → state.instances.get id = some found →
    ∀ unit ∈ found.units, graph.ReachesUnitOfWork id ∧
      ∃ resolution ∈ state.resolutions, graph.Reaches resolution.root id ∧ resolution.due = unit

theorem unit_eq_none {frame : InjectionFrame} (h : frame.role.writes = false) :
    frame.unit = none := by
  rw [← Option.isNone_iff_eq_none, ← Option.not_isSome, frame.unit_isSome, h]
  rfl

variable {graph : ServiceGraph} {state state' : InjectionState}

/-- **What is injected is what is due**, for an operation that is placed so. -/
theorem Kept.injected_eq (h : state.Kept graph) {frame : InjectionFrame}
    {rest : List InjectionFrame} (hframes : state.frames = frame :: rest)
    (hplaced : IsPlaced frame rest) : state.injected = frame.unit := by
  rw [injected, h.unitOfWork, hframes, List.any_cons, List.findSome?_cons]
  cases hrole : frame.role.authorizes with
  | true =>
    rw [Bool.true_or, if_pos rfl, unit_eq_none]
    revert hrole
    cases frame.role <;> decide
  | false =>
    rw [Bool.false_or]
    cases hunit : frame.unit with
    | some unit =>
      -- an action or a job
      have hwrites : frame.role.writes = true := by
        rw [← frame.unit_isSome, hunit]
        rfl
      have houter : ∀ outer ∈ rest, outer.role.authorizes = false := by
        rw [IsPlaced] at hplaced
        revert hplaced hwrites
        cases frame.role
        case action => exact fun hplaced _ => hplaced
        case job => exact fun hplaced _ => hplaced
        all_goals exact fun _ hwrites => absurd hwrites (by decide)
      rw [if_neg]
      rw [List.any_eq_true]
      rintro ⟨outer, hmem, hauthorizes⟩
      rw [houter outer hmem] at hauthorizes
      cases hauthorizes
    | none =>
      split_ifs with hany
      · rfl
      · -- a query by itself
        have hwrites : frame.role.writes = false := by
          rw [← frame.unit_isSome, hunit]
          rfl
        have houter : ∀ outer ∈ rest, outer.role.writes = false := by
          rw [IsPlaced] at hplaced
          revert hplaced hwrites hrole
          cases frame.role
          case query =>
            rintro (houter | ⟨outer, hmem, hauthorizes⟩) - -
            · exact houter
            · exact absurd (List.any_eq_true.2 ⟨outer, hmem, hauthorizes⟩) hany
          case action => exact fun _ _ hwrites => absurd hwrites (by decide)
          case job => exact fun _ _ hwrites => absurd hwrites (by decide)
          case policy => exact fun _ hrole => absurd hrole (by decide)
          case permissionSource => exact fun _ hrole => absurd hrole (by decide)
        exact List.findSome?_eq_none_iff.2 fun outer hmem => unit_eq_none (houter outer hmem)

/-- **A handler is resolved.** -/
theorem Kept.resolve (h : state.Kept graph) {frame : InjectionFrame} {rest : List InjectionFrame}
    {found : ServiceInstance} {instances : ServiceInstances}
    (hframes : state.frames = frame :: rest)
    (hplaced : graph.ReachesUnitOfWork frame.root → IsPlaced frame rest)
    (hshared : ∀ id, graph.Reaches frame.root id → graph.IsKept id → graph.ReachesUnitOfWork id →
      ∀ earlier ∈ state.resolutions, graph.Reaches earlier.root id → earlier.due = frame.unit)
    (hresolve : graph.resolve state.injected frame.root state.instances = some (found, instances)) :
    ({ state with
      frames := { frame with handling := true } :: rest
      instances := instances
      resolutions := ⟨frame.root, frame.unit, found⟩ :: state.resolutions } :
        InjectionState).Kept graph := by
  have hall := ServiceGraph.resolveWithin_all
    (P := fun id unit => (graph.Reaches frame.root id → unit = frame.unit) ∧
      graph.ReachesUnitOfWork id ∧ ∃ resolution ∈
        (⟨frame.root, frame.unit, found⟩ :: state.resolutions : List InjectionResolution),
        graph.Reaches resolution.root id ∧ resolution.due = unit)
    ?_ ?_ Relation.ReflTransGen.refl ?_ hresolve
  · obtain ⟨hfound, hinstances⟩ := hall
    constructor
    case exact =>
      intro resolution hmem unit hunit
      rcases List.mem_cons.1 hmem with rfl | hmem
      · exact (hfound unit hunit).1 Relation.ReflTransGen.refl
      · exact h.exact resolution hmem unit hunit
    case atMostOne =>
      have hold := h.atMostOne
      rw [AtMostOne, hframes, List.pairwise_cons] at hold
      exact List.pairwise_cons.2 hold
    case unitOfWork =>
      have hold := h.unitOfWork
      rw [hframes, List.findSome?_cons] at hold
      exact hold
    case instances =>
      exact fun id kept hkept hget unit hunit => (hinstances id kept hkept hget unit hunit).2
  · -- what is injected
    intro id entry hreach hentry hmem
    have hreaches : graph.ReachesUnitOfWork id :=
      ⟨id, entry, Relation.ReflTransGen.refl, hentry, hmem⟩
    have heq := h.injected_eq hframes (hplaced ⟨id, entry, hreach, hentry, hmem⟩)
    exact ⟨fun _ => heq, hreaches, _, List.mem_cons_self, hreach, heq.symm⟩
  · -- what is passed on
    rintro id dependency unit hreach hdepends ⟨heq, ⟨last, entry, hlast, hentry⟩, -⟩
    have heq := heq (hreach.tail hdepends)
    exact ⟨fun _ => heq, ⟨last, entry, hlast.head hdepends, hentry⟩, _, List.mem_cons_self, hreach,
      heq.symm⟩
  · -- what has been kept
    intro id kept hkept hget unit hunit
    obtain ⟨hreaches, earlier, hmem, hreach, rfl⟩ := h.instances id kept hkept hget unit hunit
    exact ⟨fun hroot => hshared id hroot hkept hreaches earlier hmem hreach, hreaches, earlier,
      List.mem_cons_of_mem _ hmem, hreach, rfl⟩

/-- **Every consistent step keeps it.** -/
theorem Kept.step {label : InjectionLabel} (h : state.Kept graph)
    (hconsistent : state.Consistent graph label) (hstep : state.step graph label = some state') :
    state'.Kept graph := by
  cases label with
  | enter role root =>
    rw [InjectionState.step] at hstep
    split_ifs at hstep with hcan hwrites htop
    · cases hstep
      -- nothing around it has a unit of work
      have hnone : ∀ outer ∈ state.frames, outer.unit = none := by
        intro outer hmem
        refine unit_eq_none ?_
        have hauthorizes := List.all_eq_true.1 htop outer hmem
        revert hauthorizes
        cases outer.role <;> decide
      refine ⟨h.exact, List.pairwise_cons.2 ⟨?_, h.atMostOne⟩, rfl, h.instances⟩
      exact fun outer hmem => .inr (hnone outer hmem)
    · cases hstep
      refine ⟨h.exact, List.pairwise_cons.2 ⟨?_, h.atMostOne⟩, ?_, h.instances⟩
      · exact fun outer _ => .inl rfl
      · exact h.unitOfWork
  | resolve =>
    rw [InjectionState.step] at hstep
    split at hstep
    · cases hstep
    · rename_i frame rest hframes
      split_ifs at hstep
      obtain ⟨⟨found, instances⟩, hresolve, rfl⟩ := Option.map_eq_some_iff.1 hstep
      obtain ⟨hplaced, hshared⟩ := hconsistent frame rest hframes
      exact h.resolve hframes hplaced hshared hresolve
  | leave =>
    rw [InjectionState.step] at hstep
    split at hstep
    · cases hstep
    · rename_i frame rest hframes
      cases hstep
      have hpairwise := h.atMostOne
      rw [AtMostOne, hframes, List.pairwise_cons] at hpairwise
      refine ⟨h.exact, hpairwise.2, ?_, h.instances⟩
      have hunitOfWork := h.unitOfWork
      rw [hframes, List.findSome?_cons] at hunitOfWork
      cases hwrites : frame.role.writes with
      | true =>
        -- it was the only one with a unit of work
        refine (List.findSome?_eq_none_iff.2 fun outer hmem => ?_).symm
        refine (hpairwise.1 outer hmem).resolve_left ?_
        rw [← Option.isNone_iff_eq_none, ← Option.not_isSome, frame.unit_isSome, hwrites]
        decide
      | false =>
        rw [unit_eq_none hwrites] at hunitOfWork
        exact hunitOfWork

theorem new_kept : new.Kept graph where
  exact := by rintro _ ⟨⟩
  atMostOne := List.Pairwise.nil
  unitOfWork := rfl
  instances := by rintro _ _ - ⟨⟩

end InjectionState

/-! ### The results -/

open InjectionState in
/-- **Injection is exact**, in every consistent run. -/
theorem injection_exact (graph : ServiceGraph) (labels : List InjectionLabel)
    (state : InjectionState)
    (h : Transition.Run (step graph) (Consistent graph) new labels state) :
    state.InjectionExact :=
  (h.invariant (fun _ _ _ hkept => hkept.step) new_kept).exact

/-- An execution-scoped service with the unit of work, and two handlers that are given it. -/
def orderServices : ServiceGraph where
  manifest := fun id =>
    if id = "orders" then some ⟨.execution, [.unitOfWork]⟩
    else if id = "place" ∨ id = "list" then
      some ⟨.transient, [.service "orders"]⟩
    else none
  depth := fun id => if id = "orders" then 0 else 1
  depth_lt := by
    intro id entry dependency hentry hmem
    split_ifs at hentry with hid
    · cases hentry
      cases List.mem_singleton.1 hmem
    · cases hentry
      cases List.mem_singleton.1 hmem
      rw [if_pos rfl, if_neg hid]
      exact Nat.one_pos
  declared := by
    intro id entry dependency hentry hmem
    split_ifs at hentry
    · cases hentry
      cases List.mem_singleton.1 hmem
    · cases hentry
      cases List.mem_singleton.1 hmem
      exact Option.some_ne_none _

theorem resolve_ne_none_place : orderServices.resolve none "place" .empty ≠ none :=
  ServiceGraph.resolve_ne_none (Option.some_ne_none _)

open InjectionState in
/-- The service of an action has the unit of work of the action. -/
theorem injection_exact_action :
    ∃ state, Transition.run (step orderServices) new
        [.enter .action "place", .resolve] = some state ∧
      state.resolutions.map (fun resolution => resolution.found.units) = [[some 0]] ∧
      state.InjectionExact := by
  refine ⟨_, rfl, rfl, injection_exact orderServices
    [.enter .action "place", .resolve] _ ?_⟩
  refine .cons trivial rfl (.cons ?_ rfl (.nil _))
  rintro frame rest ⟨⟩
  refine ⟨fun _ => ?_, ?_⟩
  · rintro _ ⟨⟩
  · rintro _ - - - _ ⟨⟩

open InjectionState in
/-- **A unit of work stays behind**: the service that was made for an action is given to the query
that comes after it. -/
theorem injection_not_exact :
    ¬ ∀ (graph : ServiceGraph) (labels : List InjectionLabel) (state : InjectionState),
      Transition.run (step graph) new labels = some state → state.InjectionExact := by
  intro h
  have hexact := h orderServices
    [.enter .action "place", .resolve,
      .leave, .enter .query "list",
      .resolve] _ rfl _ List.mem_cons_self (some 0) List.mem_cons_self
  cases hexact

end Doxa
