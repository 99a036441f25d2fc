/-
**The compiler's checks of the provider graph.**

The entries of providers and services in the manifest name what they depend on by its id.  Before a
manifest is written, the compiler checks that no provider depends on itself, that nothing kept for
the application depends on what is kept for an execution, and that nothing run within an operation
dispatches actions, or changes anything where only reading is allowed
(`compiler/src/manifest-validation.ts`).

An id that is the empty text counts as missing, as in the source.  Where two providers have one id,
the last one is looked up.

Main definitions:

* `Doxa.ProviderManifestEntry`, `Doxa.DependencyManifestEntry` — the manifest;
* `Doxa.providerGraph`, `Doxa.listedProviderGraph` — what depends on what;
* `Doxa.assertAcyclicProviderGraph`, `Doxa.assertScopeSafety`,
  `Doxa.assertNoNestedActionBusReachability` — the checks.

Main results:

* `Doxa.assertAcyclicProviderGraph_iff` — **the first check fails just when there is a cycle**;
* `Doxa.assertScopeSafety_iff` — **the second one, when a singleton reaches an execution-scoped
  provider**;
* `Doxa.assertNoNestedActionBusReachability_iff` — **the third one, when an operation reaches the
  action bus, or one that only reads a forbidden provider**.
-/

import Doxa.Lib.DepthFirst
import Doxa.Lib.Except

set_option relaxedAutoImplicit false
set_option autoImplicit false

namespace Doxa

open Relation

/-! ### The manifest -/

variable {id : String}

inductive DependencyKind
  /-- A parameter of the constructor. -/
  | constructor
  /-- A property that is `this.inject()`. -/
  | role
deriving DecidableEq

structure DependencyManifestEntry where
  kind : DependencyKind
  parameter : String
  token : String
  targetId : Option String
  optional : Bool
deriving DecidableEq

/-- The id of what is depended on, if it is there and not empty. -/
def DependencyManifestEntry.target (dependency : DependencyManifestEntry) : Option String :=
  dependency.targetId.filter fun id => id ≠ ""

inductive ProviderScope
  | singleton
  | transient
  | execution
deriving DecidableEq

inductive ProviderCapability
  | authentication
  | queues
  | transactions
  | cache
  | mail
  | sms
  | broadcasting
  | telemetry
  | observations
deriving DecidableEq

/-- The name of a capability. -/
def ProviderCapability.name : ProviderCapability → String
  | authentication => "authentication"
  | queues => "queues"
  | transactions => "transactions"
  | cache => "cache"
  | mail => "mail"
  | sms => "sms"
  | broadcasting => "broadcasting"
  | telemetry => "telemetry"
  | observations => "observations"

/-- The phases a provider takes part in. -/
structure LifecycleManifestEntry where
  start : Bool
  drain : Bool
  stop : Bool
  dispose : Bool
deriving DecidableEq

structure ProviderManifestEntry where
  id : String
  scope : ProviderScope
  capabilities : List ProviderCapability
  dependencies : List DependencyManifestEntry
  lifecycle : LifecycleManifestEntry
deriving DecidableEq

inductive HandlerRole
  | action
  | query
deriving DecidableEq

structure OperationManifestEntry where
  id : String
  role : HandlerRole
  dependencies : List DependencyManifestEntry

/-- The entry of a job or of a realtime command. -/
structure HandlerManifestEntry where
  id : String
  dependencies : List DependencyManifestEntry

/-- The targets of some dependencies. -/
def targets (dependencies : List DependencyManifestEntry) : List String :=
  dependencies.filterMap DependencyManifestEntry.target

variable (providers : List ProviderManifestEntry)

/-- `new Map(providers.map((provider) => [provider.id, provider])).get(id)`. -/
def providerById (id : String) : Option ProviderManifestEntry :=
  providers.reverse.find? fun provider => provider.id = id

variable {provider : ProviderManifestEntry}

theorem providerById_eq_some {providers : List ProviderManifestEntry}
    (h : providerById providers id = some provider) : provider ∈ providers ∧ provider.id = id := by
  have hmem := List.mem_of_find?_eq_some h
  have hid := List.find?_some h
  exact ⟨List.mem_reverse.1 hmem, by simpa using hid⟩

theorem isSome_providerById {providers : List ProviderManifestEntry} :
    (providerById providers id).isSome = true ↔ id ∈ providers.map ProviderManifestEntry.id := by
  rw [providerById, List.find?_isSome]
  simp

/-- **With distinct ids, every provider is found under its own.** -/
theorem providerById_of_mem {providers : List ProviderManifestEntry}
    (hnodup : (providers.map ProviderManifestEntry.id).Nodup) (hmem : provider ∈ providers) :
    providerById providers provider.id = some provider := by
  have hsome := isSome_providerById.2 (List.mem_map_of_mem hmem)
  obtain ⟨found, hfound⟩ := Option.isSome_iff_exists.1 hsome
  obtain ⟨hmem', hid⟩ := providerById_eq_some hfound
  rw [hfound, List.inj_on_of_nodup_map hnodup hmem' hmem hid]

/-- What a provider depends on. -/
def providerTargets (id : String) : List String :=
  match providerById providers id with
  | some provider => targets provider.dependencies
  | none => []

theorem mem_providerTargets {providers : List ProviderManifestEntry} {target : String} :
    target ∈ providerTargets providers id ↔
      ∃ provider, providerById providers id = some provider ∧
        target ∈ targets provider.dependencies := by
  unfold providerTargets
  cases providerById providers id <;> simp

theorem mem_ids_of_mem_providerTargets {providers : List ProviderManifestEntry} {target : String}
    (h : target ∈ providerTargets providers id) :
    id ∈ (providers.map ProviderManifestEntry.id).toFinset := by
  obtain ⟨provider, hprovider, -⟩ := mem_providerTargets.1 h
  rw [List.mem_toFinset]
  exact isSome_providerById.1 (Option.isSome_of_eq_some hprovider)

/-- The graph of all dependencies. -/
def providerGraph : FiniteGraph String where
  successors := providerTargets providers
  nodes := (providers.map ProviderManifestEntry.id).toFinset
  mem_nodes := mem_ids_of_mem_providerTargets

/-- The graph of the dependencies on listed providers. -/
def listedProviderGraph : FiniteGraph String where
  successors id := (providerTargets providers id).filter fun target =>
    (providerById providers target).isSome
  nodes := (providers.map ProviderManifestEntry.id).toFinset
  mem_nodes h := mem_ids_of_mem_providerTargets (List.mem_of_mem_filter h)

/-! ### The checks -/

inductive CompilationError
  | dependencyCycle (path : List String)
  | singletonOnExecution (provider target : String)
  | nestedAction (root : String) (path : List String)
  | mutableInfrastructure (root role : String) (capability : ProviderCapability)
      (path : List String)

/-- The text of an error. -/
def CompilationError.message : CompilationError → String
  | dependencyCycle path => "Dependency cycle: " ++ " -> ".intercalate path
  | singletonOnExecution provider target =>
    "[DOXA-COMPILER-SCOPE-001] Singleton " ++ provider ++
      " cannot depend on execution-scoped " ++ target ++
      ". See Gnosis guide concept.providers-provides."
  | nestedAction root path =>
    "[DOXA-COMPILER-ARCH-001] " ++ root ++ " reaches ActionBus through " ++
      " -> ".intercalate path ++
      ". Nested Action dispatch from Actions, Queries, Jobs, and RealtimeCommands is " ++
      "prohibited. Move reusable behavior into an ordinary service and let a durable " ++
      "top-level Action or Job own mutations. See Gnosis guide " ++
      "diagnostic.nested-action-dispatch."
  | mutableInfrastructure root role capability path =>
    "[DOXA-COMPILER-ARCH-002] " ++ root ++ " reaches mutable " ++ capability.name ++
      " infrastructure through " ++ " -> ".intercalate path ++ ". " ++ role ++
      " may use read-only application services, cache, and observability, but cannot reach " ++
      "transaction, queue, communication, authentication, or raw broadcasting providers. " ++
      "See Gnosis guide diagnostic.realtime-command-infrastructure."

def assertAcyclicProviderGraph : Except CompilationError Unit :=
  ((listedProviderGraph providers).findCycle
    (fun path id => .dependencyCycle (path ++ [id])) [] ∅
    (providers.map ProviderManifestEntry.id)).map fun _ => ()

def isExecutionScoped (id : String) : Bool :=
  (providerById providers id).any fun provider => provider.scope = .execution

/-- Whether a provider is, or leads to, an execution-scoped one. -/
def reachesExecutionScope (id : String) : Bool :=
  match (providerGraph providers).search (fun _ _ => none)
    (fun _ id => if isExecutionScoped providers id then some () else none) [] ∅ [id] with
  | .error _ => true
  | .ok _ => false

def assertScopeSafety : Except CompilationError Unit :=
  providers.forM fun provider =>
    if provider.scope ≠ .singleton then .ok ()
    else
      (targets provider.dependencies).forM fun target =>
        if reachesExecutionScope providers target then
          .error (.singletonOnExecution provider.id target)
        else .ok ()

/-- `forbiddenReadOnlyCapabilities`. -/
def forbiddenReadOnly : ProviderCapability → Bool
  | .authentication => true
  | .transactions => true
  | .queues => true
  | .mail => true
  | .sms => true
  | .broadcasting => true
  | _ => false

/-- `readOnlyRootIds`. -/
def readOnlyRootIds (operations : List OperationManifestEntry)
    (realtimeCommands : List HandlerManifestEntry) : List String :=
  (operations.filter fun operation => operation.role = .query).map
      OperationManifestEntry.id ++
    realtimeCommands.map HandlerManifestEntry.id

/-- All that is searched from: operations, jobs and realtime commands. -/
def executableRoots (operations : List OperationManifestEntry)
    (jobs realtimeCommands : List HandlerManifestEntry) : List HandlerManifestEntry :=
  operations.map (fun operation => ⟨operation.id, operation.dependencies⟩) ++ jobs ++
    realtimeCommands

/-- The first forbidden capability of a provider. -/
def forbiddenCapability (id : String) : Option ProviderCapability :=
  (providerById providers id).bind fun provider => provider.capabilities.find? forbiddenReadOnly

def assertNoNestedActionBusReachability (operations : List OperationManifestEntry)
    (jobs realtimeCommands : List HandlerManifestEntry) : Except CompilationError Unit :=
  (executableRoots operations jobs realtimeCommands).forM fun root =>
    ((providerGraph providers).search
      (fun path id =>
        if id = "doxa:action-bus" then
          some (.nestedAction root.id (path ++ [id]))
        else none)
      (fun path id =>
        if root.id ∈ readOnlyRootIds operations realtimeCommands then
          (forbiddenCapability providers id).map fun capability =>
            .mutableInfrastructure root.id
              (if root.id ∈ realtimeCommands.map HandlerManifestEntry.id then "RealtimeCommands"
              else "Queries") capability (path ++ [id])
        else none)
      [root.id] ∅ (targets root.dependencies)).map fun _ => ()

/-! ### What the checks find -/

/-- **The first check fails just when there is a cycle** of listed providers. -/
theorem assertAcyclicProviderGraph_iff :
    (∃ error, assertAcyclicProviderGraph providers = .error error) ↔
      ∃ id, TransGen (listedProviderGraph providers).Edge id id := by
  rw [assertAcyclicProviderGraph, Except.exists_map_eq_error_iff]
  exact FiniteGraph.isError_findCycle_iff fun id hid => List.mem_toFinset.1 hid

theorem reachesExecutionScope_iff (id : String) :
    reachesExecutionScope providers id = true ↔
      ∃ target, ReflTransGen (providerGraph providers).Edge id target ∧
        isExecutionScoped providers target = true := by
  have hsearch : reachesExecutionScope providers id = true ↔
      ∃ error, (providerGraph providers).search (fun _ _ => none)
        (fun _ id => if isExecutionScoped providers id then some () else none) [] ∅ [id] =
          .error error := by
    unfold reachesExecutionScope
    split
    · next error herror => simp [herror]
    · next found hfound => simp [hfound]
  have hbefore : ∀ (_ : List String) (_ : String), (none : Option Unit).isSome = true ↔ False := by
    simp
  have hafter : ∀ (_ : List String) (target : String),
      (if isExecutionScoped providers target then some () else none).isSome = true ↔
        isExecutionScoped providers target = true := by
    intro _ target
    split <;> simp_all
  rw [hsearch, FiniteGraph.isError_search_iff hbefore hafter]
  simp

/-- With distinct ids, what is known of a provider that is looked up is known of a listed one. -/
theorem exists_providerById_iff {providers : List ProviderManifestEntry}
    (hnodup : (providers.map ProviderManifestEntry.id).Nodup) {P : ProviderManifestEntry → Prop} :
    (∃ provider, providerById providers id = some provider ∧ P provider) ↔
      ∃ provider ∈ providers, provider.id = id ∧ P provider := by
  constructor
  · rintro ⟨provider, hfound, hP⟩
    obtain ⟨hmem, hid⟩ := providerById_eq_some hfound
    exact ⟨provider, hmem, hid, hP⟩
  · rintro ⟨provider, hmem, rfl, hP⟩
    exact ⟨provider, providerById_of_mem hnodup hmem, hP⟩

/-- What a listed provider depends on is one edge away. -/
theorem edge_iff {providers : List ProviderManifestEntry}
    (hnodup : (providers.map ProviderManifestEntry.id).Nodup) (hmem : provider ∈ providers)
    {target : String} :
    (providerGraph providers).Edge provider.id target ↔ target ∈ targets provider.dependencies := by
  change target ∈ providerTargets providers provider.id ↔ _
  rw [providerTargets, providerById_of_mem hnodup hmem]

/-- **The second check fails just when a singleton reaches an execution-scoped provider.** -/
theorem assertScopeSafety_iff {providers : List ProviderManifestEntry}
    (hnodup : (providers.map ProviderManifestEntry.id).Nodup) :
    (∃ error, assertScopeSafety providers = .error error) ↔
      ∃ provider ∈ providers, provider.scope = .singleton ∧
        ∃ target ∈ providers, target.scope = .execution ∧
          TransGen (providerGraph providers).Edge provider.id target.id := by
  have hexecution : ∀ id, isExecutionScoped providers id = true ↔
      ∃ target ∈ providers, target.id = id ∧ target.scope = .execution := by
    intro id
    rw [← exists_providerById_iff hnodup, isExecutionScoped, Option.any_eq_true]
    simp
  have hprovider : ∀ provider ∈ providers,
      (∃ error, (if provider.scope ≠ .singleton then Except.ok ()
        else (targets provider.dependencies).forM fun target =>
          if reachesExecutionScope providers target then
            Except.error (CompilationError.singletonOnExecution provider.id target)
          else Except.ok ()) = Except.error error) ↔
        provider.scope = .singleton ∧
          ∃ target ∈ providers, target.scope = .execution ∧
            TransGen (providerGraph providers).Edge provider.id target.id := by
    intro provider hmem
    by_cases hscope : provider.scope = .singleton
    · rw [if_neg (not_not.2 hscope), Except.exists_forM_eq_error_iff]
      simp only [hscope, true_and]
      constructor
      · rintro ⟨target, htarget, error, herror⟩
        split at herror
        · next hreaches =>
            obtain ⟨last, hreach, hlast⟩ := (reachesExecutionScope_iff providers target).1 hreaches
            obtain ⟨found, hfound, rfl, hfoundScope⟩ := (hexecution last).1 hlast
            exact ⟨found, hfound, hfoundScope,
              TransGen.head' ((edge_iff hnodup hmem).2 htarget) hreach⟩
        · cases herror
      · rintro ⟨found, hfound, hfoundScope, hreach⟩
        obtain ⟨target, hedge, hreach⟩ := TransGen.head'_iff.1 hreach
        refine ⟨target, (edge_iff hnodup hmem).1 hedge, ?_⟩
        have hreaches := (reachesExecutionScope_iff providers target).2
          ⟨found.id, hreach, (hexecution found.id).2 ⟨found, hfound, rfl, hfoundScope⟩⟩
        rw [if_pos hreaches]
        exact ⟨_, rfl⟩
    · simp [hscope]
  rw [assertScopeSafety, Except.exists_forM_eq_error_iff]
  exact exists_congr fun provider => and_congr_right fun hmem => hprovider provider hmem

/-- What something that is run reaches. -/
def Reaches (dependencies : List DependencyManifestEntry) (id : String) : Prop :=
  ∃ target ∈ targets dependencies, ReflTransGen (providerGraph providers).Edge target id

theorem isSome_forbiddenCapability {providers : List ProviderManifestEntry}
    (hnodup : (providers.map ProviderManifestEntry.id).Nodup) :
    (forbiddenCapability providers id).isSome = true ↔
      ∃ target ∈ providers, target.id = id ∧
        ∃ capability ∈ target.capabilities, forbiddenReadOnly capability = true := by
  rw [← exists_providerById_iff hnodup, forbiddenCapability]
  cases providerById providers id <;> simp

/-- What the search from one root finds. -/
theorem search_root_iff {providers : List ProviderManifestEntry}
    (hnodup : (providers.map ProviderManifestEntry.id).Nodup) (readOnly : List String)
    (role : String) (root : HandlerManifestEntry) :
    (∃ error, ((providerGraph providers).search
        (fun path id =>
          if id = "doxa:action-bus" then
            some (CompilationError.nestedAction root.id (path ++ [id]))
          else none)
        (fun path id =>
          if root.id ∈ readOnly then
            (forbiddenCapability providers id).map fun capability =>
              CompilationError.mutableInfrastructure root.id role capability (path ++ [id])
          else none)
        [root.id] ∅ (targets root.dependencies)) = .error error) ↔
      Reaches providers root.dependencies "doxa:action-bus" ∨
        root.id ∈ readOnly ∧ ∃ target ∈ providers,
          (∃ capability ∈ target.capabilities, forbiddenReadOnly capability = true) ∧
            Reaches providers root.dependencies target.id := by
  have hbefore : ∀ (path : List String) (id : String),
      (if id = "doxa:action-bus" then
        some (CompilationError.nestedAction root.id (path ++ [id])) else none).isSome = true ↔
        id = "doxa:action-bus" := by
    intro path id
    split <;> simp_all
  have hafter : ∀ (path : List String) (id : String),
      (if root.id ∈ readOnly then (forbiddenCapability providers id).map fun capability =>
        CompilationError.mutableInfrastructure root.id role capability (path ++ [id])
      else none).isSome = true ↔ root.id ∈ readOnly ∧ ∃ target ∈ providers, target.id = id ∧
        ∃ capability ∈ target.capabilities, forbiddenReadOnly capability = true := by
    intro path id
    rw [← isSome_forbiddenCapability hnodup]
    split <;> simp_all
  rw [FiniteGraph.isError_search_iff hbefore hafter]
  constructor
  · rintro ⟨start, hstart, last, hreach, rfl | ⟨hreadOnly, target, htarget, rfl, hforbidden⟩⟩
    · exact .inl ⟨start, hstart, hreach⟩
    · exact .inr ⟨hreadOnly, target, htarget, hforbidden, start, hstart, hreach⟩
  · rintro (⟨start, hstart, hreach⟩ | ⟨hreadOnly, target, htarget, hforbidden, start, hstart,
      hreach⟩)
    · exact ⟨start, hstart, _, hreach, .inl rfl⟩
    · exact ⟨start, hstart, _, hreach, .inr ⟨hreadOnly, target, htarget, rfl, hforbidden⟩⟩

/-- **The third check fails just when something that is run reaches the action bus, or a query or a
realtime command reaches a provider with a forbidden capability**, as long as neither an action nor
a job has the id of a query or of a realtime command. -/
theorem assertNoNestedActionBusReachability_iff {providers : List ProviderManifestEntry}
    (hnodup : (providers.map ProviderManifestEntry.id).Nodup)
    {operations : List OperationManifestEntry} {jobs realtimeCommands : List HandlerManifestEntry}
    (hactions : ∀ operation ∈ operations, operation.role = .action →
      operation.id ∉ readOnlyRootIds operations realtimeCommands)
    (hjobs : ∀ job ∈ jobs, job.id ∉ readOnlyRootIds operations realtimeCommands) :
    (∃ error, assertNoNestedActionBusReachability providers operations jobs realtimeCommands =
        .error error) ↔
      (∃ root ∈ executableRoots operations jobs realtimeCommands,
        Reaches providers root.dependencies "doxa:action-bus") ∨
      ∃ target ∈ providers,
        (∃ capability ∈ target.capabilities, forbiddenReadOnly capability = true) ∧
        ((∃ operation ∈ operations, operation.role = .query ∧
            Reaches providers operation.dependencies target.id) ∨
          ∃ command ∈ realtimeCommands, Reaches providers command.dependencies target.id) := by
  rw [assertNoNestedActionBusReachability, Except.exists_forM_eq_error_iff]
  simp only [Except.exists_map_eq_error_iff, search_root_iff hnodup]
  constructor
  · rintro ⟨root, hroot, hbus | ⟨hreadOnly, target, htarget, hforbidden, hreaches⟩⟩
    · exact .inl ⟨root, hroot, hbus⟩
    · refine .inr ⟨target, htarget, hforbidden, ?_⟩
      rcases List.mem_append.1 hroot with hroot | hcommand
      · rcases List.mem_append.1 hroot with hoperation | hjob
        · obtain ⟨operation, hlisted, rfl⟩ := List.mem_map.1 hoperation
          cases hrole : operation.role with
          | action => exact absurd hreadOnly (hactions operation hlisted hrole)
          | query => exact .inl ⟨operation, hlisted, hrole, hreaches⟩
        · exact absurd hreadOnly (hjobs root hjob)
      · exact .inr ⟨root, hcommand, hreaches⟩
  · rintro (⟨root, hroot, hbus⟩ | ⟨target, htarget, hforbidden, ⟨operation, hoperation, hrole,
      hreaches⟩ | ⟨command, hcommand, hreaches⟩⟩)
    · exact ⟨root, hroot, Or.inl hbus⟩
    · refine ⟨⟨operation.id, operation.dependencies⟩, ?_, Or.inr ⟨?_, target, htarget, hforbidden,
        hreaches⟩⟩
      · exact List.mem_append_left _ (List.mem_append_left _ (List.mem_map_of_mem hoperation))
      · refine List.mem_append_left _ (List.mem_map_of_mem ?_)
        exact List.mem_filter.2 ⟨hoperation, by simpa using hrole⟩
    · refine ⟨command, List.mem_append_right _ hcommand, Or.inr ⟨?_, target, htarget, hforbidden,
        hreaches⟩⟩
      exact List.mem_append_right _ (List.mem_map_of_mem hcommand)

end Doxa
