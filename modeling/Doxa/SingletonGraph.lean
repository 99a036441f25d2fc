/-
**The construction of the singletons.**

When an application boots, every provider that is kept for the application is made, in the order of
the ids, and before it what its constructor is given (`runtime/src/runtime.ts`,
`constructSingletonGraph`).  A provider that is overridden is not made; all it depends on is.  What
is not kept is made whenever it is asked for.  The list of the participants has each singleton in
the order in which they were made.

Objects are of any type.  The order of `localeCompare`, the constructors of the registry, what a
configuration is, and which phases an object takes part in are given; a constructor may throw.

Main definitions:

* `Doxa.SingletonSource` — what the construction is given;
* `Doxa.SingletonSource.resolve` — what is made of an id;
* `Doxa.constructSingletonGraph` — the participants;
* `Doxa.SingletonSource.Needs` — a singleton is needed, directly or for what is not kept.

Main results:

* `Doxa.SingletonSource.resolve_spec` — **what resolving an id does**;
* `Doxa.provider_checks_exact` — **the checks are exact, and boot is safe**.
-/

import Doxa.ProviderGraph

set_option relaxedAutoImplicit false
set_option autoImplicit false

namespace Doxa

open Relation

/-! ### Resolving -/

inductive SingletonError
  | undeclaredOverride (id : String)
  | dependencyCycle (id : String)
  | missingConstructor (id : String)
  | unavailable (target id : String)
  /-- A constructor has thrown. -/
  | thrown (id : String)
deriving DecidableEq

/-- The text of an error; what a constructor throws has its own. -/
def SingletonError.message : SingletonError → Option String
  | undeclaredOverride id =>
    some ("Test provider override " ++ id ++ " is not a declared singleton provider.")
  | dependencyCycle id => some ("Dependency cycle reached while constructing " ++ id ++ ".")
  | missingConstructor id => some ("Registry is missing constructor " ++ id ++ ".")
  | unavailable target id =>
    some ("Required dependency " ++ target ++ " for " ++ id ++ " is unavailable.")
  | thrown _ => none

/-- What the construction is given. -/
structure SingletonSource (α : Type*) where
  providers : List ProviderManifestEntry
  configurations : String → Option α
  /-- The objects in place of providers. -/
  overrides : List (String × α)
  logger : α
  /-- The providers that are included, if not all of them are. -/
  included : Option (String → Bool)
  /-- The constructors; one that throws gives `none`. -/
  constructors : String → Option (List (Option α) → Option α)
  /-- The methods of an object. -/
  lifecycle : α → LifecycleManifestEntry
  /-- The order of `localeCompare`. -/
  before : String → String → Bool

/-- A provider that takes part in the phases of the application. -/
structure LifecycleParticipant (α : Type*) where
  manifest : ProviderManifestEntry
  object : α

/-- The singletons that were made, in order. -/
abbrev Participants (α : Type*) := List (LifecycleParticipant α)

/-- `singletonInstances.get`. -/
def Participants.get {α : Type*} (participants : Participants α) (id : String) : Option α :=
  (participants.find? fun participant => participant.manifest.id = id).map
    LifecycleParticipant.object

namespace SingletonSource

variable {α : Type*} (source : SingletonSource α)

/-- `overrides[id]`. -/
def override (id : String) : Option α :=
  (source.overrides.find? fun entry => entry.1 = id).map Prod.snd

/-- Whether a provider is included. -/
def isIncluded (id : String) : Bool :=
  match source.included with
  | some included => included id
  | none => true

variable {source}

/-- How many providers are not being made. -/
def rest (source : SingletonSource α) (stack : List String) : ℕ :=
  ((source.providers.map ProviderManifestEntry.id).toFinset.filter fun id => id ∉ stack).card

theorem rest_cons_lt {stack : List String} {id : String} {provider : ProviderManifestEntry}
    (hprovider : providerById source.providers id = some provider) (hstack : id ∉ stack) :
    source.rest (id :: stack) < source.rest stack := by
  refine Finset.card_lt_card ?_
  rw [Finset.ssubset_iff_of_subset]
  · refine ⟨id, ?_, by simp⟩
    rw [Finset.mem_filter, List.mem_toFinset]
    exact ⟨isSome_providerById.1 (Option.isSome_of_eq_some hprovider), hstack⟩
  · intro other hother
    rw [Finset.mem_filter, List.mem_cons, not_or] at hother
    exact Finset.mem_filter.2 ⟨hother.1, hother.2.2⟩

variable (source)

mutual

/-- `resolve`, while the ids on the stack are being resolved. -/
def resolve (stack : List String) (participants : Participants α) (id : String) :
    Except SingletonError (Option α × Participants α) :=
  if id = "doxa:logger" then .ok (some source.logger, participants)
  else
    match source.configurations id with
    | some configuration => .ok (some configuration, participants)
    | none =>
      match _hprovider : providerById source.providers id with
      | none => .ok (none, participants)
      | some provider =>
        if !source.isIncluded id then .ok (none, participants)
        else
          match if provider.scope = .singleton then participants.get id
            else none with
          | some object => .ok (some object, participants)
          | none =>
            if _hstack : id ∈ stack then .error (.dependencyCycle id)
            else
              match source.override id with
              | some object =>
                match resolveDependencies (id :: stack) participants none
                    provider.dependencies with
                | .error error => .error error
                | .ok (_, participants) =>
                  .ok (some object, participants ++
                    [⟨{ provider with lifecycle := source.lifecycle object }, object⟩])
              | none =>
                match source.constructors id with
                | none => .error (.missingConstructor id)
                | some construct =>
                  match resolveDependencies (id :: stack) participants (some id)
                      (provider.dependencies.filter fun dependency =>
                        dependency.kind = .constructor) with
                  | .error error => .error error
                  | .ok (arguments, participants) =>
                    match construct arguments with
                    | none => .error (.thrown id)
                    | some object =>
                      .ok (some object,
                        if provider.scope = .singleton then
                          participants ++ [⟨provider, object⟩]
                        else participants)
termination_by (source.rest stack, 0)
decreasing_by
  all_goals exact Prod.Lex.left _ _ (rest_cons_lt _hprovider _hstack)

/-- Dependencies are resolved one after the other; what the constructor of a provider requires must
be there. -/
def resolveDependencies (stack : List String) (participants : Participants α)
    (owner : Option String) : List DependencyManifestEntry →
      Except SingletonError (List (Option α) × Participants α)
  | [] => .ok ([], participants)
  | dependency :: dependencies =>
    match dependency.target with
    | none =>
      match resolveDependencies stack participants owner dependencies with
      | .error error => .error error
      | .ok (arguments, participants) => .ok (none :: arguments, participants)
    | some target =>
      match resolve stack participants target with
      | .error error => .error error
      | .ok (resolved, participants) =>
        match if resolved.isNone && !dependency.optional then owner else none with
        | some id => .error (.unavailable target id)
        | none =>
          match resolveDependencies stack participants owner dependencies with
          | .error error => .error error
          | .ok (arguments, participants) =>
            .ok (resolved :: arguments, participants)
termination_by dependencies => (source.rest stack, dependencies.length + 1)
decreasing_by
  · exact Prod.Lex.right _ (by simp)
  · exact Prod.Lex.right _ (by simp)
  · exact Prod.Lex.right _ (by simp)

end

/-- Every override is one of a declared singleton. -/
def assertOverrides : Except SingletonError Unit :=
  source.overrides.forM fun entry =>
    if (providerById source.providers entry.1).any fun provider =>
      provider.scope = .singleton then .ok ()
    else .error (.undeclaredOverride entry.1)

/-- The singletons among some providers are made, one after the other. -/
def resolveAll (participants : Participants α) :
    List ProviderManifestEntry → Except SingletonError (Participants α)
  | [] => .ok participants
  | provider :: providers =>
    if provider.scope = .singleton && source.isIncluded provider.id then
      match source.resolve [] participants provider.id with
      | .error error => .error error
      | .ok (_, participants) => resolveAll participants providers
    else resolveAll participants providers

end SingletonSource

/-- `constructSingletonGraph`. -/
def constructSingletonGraph {α : Type*} (source : SingletonSource α) :
    Except SingletonError (Participants α) :=
  match source.assertOverrides with
  | .error error => .error error
  | .ok _ =>
    source.resolveAll []
      (source.providers.mergeSort fun left right => source.before left.id right.id)

/-! ### What is made, and what for -/

/-- The ids of the participants. -/
def Participants.ids {α : Type*} (participants : Participants α) : List String :=
  participants.map fun participant => participant.manifest.id

theorem Participants.get_eq_none {α : Type*} {participants : Participants α} {id : String}
    (h : participants.get id = none) : id ∉ participants.ids := by
  intro hmem
  obtain ⟨participant, hparticipant, hid⟩ := List.mem_map.1 hmem
  rw [Participants.get, Option.map_eq_none_iff, List.find?_eq_none] at h
  exact h participant hparticipant (by simpa using hid)

theorem Participants.get_eq_some {α : Type*} {participants : Participants α} {id : String}
    {object : α}
    (h : participants.get id = some object) : id ∈ participants.ids := by
  obtain ⟨participant, hparticipant, -⟩ := Option.map_eq_some_iff.1 h
  have hid := List.find?_some hparticipant
  exact List.mem_map.2 ⟨participant, List.mem_of_find?_eq_some hparticipant, by simpa using hid⟩

theorem Participants.ids_append {α : Type*} (participants participants' : Participants α) :
    (participants ++ participants').ids = participants.ids ++ participants'.ids :=
  List.map_append

namespace SingletonSource

variable {α : Type*} (source : SingletonSource α)

/-- The provider that is made when an id is resolved. -/
def IsMade (id : String) (provider : ProviderManifestEntry) : Prop :=
  id ≠ "doxa:logger" ∧ source.configurations id = none ∧
    providerById source.providers id = some provider ∧ source.isIncluded id = true

/-- A singleton that is made. -/
def IsSingleton (id : String) : Prop :=
  ∃ provider, source.IsMade id provider ∧ provider.scope = .singleton

/-- What is resolved for a provider: what its constructor is given, or all it depends on when it is
overridden. -/
def resolved (id : String) (provider : ProviderManifestEntry) : List DependencyManifestEntry :=
  if (source.override id).isSome then provider.dependencies
  else provider.dependencies.filter fun dependency =>
    dependency.kind = .constructor

/-- From what is made to what is resolved for it. -/
def Follows (id target : String) : Prop :=
  ∃ provider, source.IsMade id provider ∧ target ∈ targets (source.resolved id provider)

/-- A singleton is needed, directly or for what is not kept. -/
inductive Needs : String → String → Prop
  | direct {id target : String} (hfollows : source.Follows id target)
      (htarget : source.IsSingleton target) : Needs id target
  | through {id target last : String} {provider : ProviderManifestEntry}
      (hfollows : source.Follows id target) (hmade : source.IsMade target provider)
      (hscope : provider.scope ≠ .singleton) (hneeds : Needs target last) :
      Needs id last

/-- Participants in an order in which each comes after what it needs. -/
inductive BootOrder : Participants α → Prop
  | nil : BootOrder []
  | snoc {participants : Participants α} {participant : LifecycleParticipant α}
      (horder : BootOrder participants) (hnew : participant.manifest.id ∉ participants.ids)
      (hsingleton : source.IsSingleton participant.manifest.id)
      (hneeds : ∀ id, source.Needs participant.manifest.id id → id ∈ participants.ids) :
      BootOrder (participants ++ [participant])

/-- What resolving needs: the overrides are of singletons, the ids of providers are not taken, the
registry has their constructors, and what these require can be resolved. -/
structure Bootable : Prop where
  overrides : ∀ entry ∈ source.overrides, ∃ provider ∈ source.providers,
    provider.id = entry.1 ∧ provider.scope = .singleton
  ids : ∀ provider ∈ source.providers,
    provider.id ≠ "doxa:logger" ∧ source.configurations provider.id = none
  constructors : ∀ id provider, source.IsMade id provider → source.override id = none →
    source.constructors id ≠ none
  required : ∀ id provider, source.IsMade id provider → source.override id = none →
    ∀ dependency ∈ provider.dependencies, dependency.kind = .constructor →
      dependency.optional = false → ∀ target, dependency.target = some target →
        target = "doxa:logger" ∨ source.configurations target ≠ none ∨
          ∃ provider, source.IsMade target provider

variable {source}

variable {provider : ProviderManifestEntry} {id : String}

theorem IsMade.unique {provider' : ProviderManifestEntry} (h : source.IsMade id provider)
    (h' : source.IsMade id provider') : provider = provider' := by
  have hsome := h.2.2.1
  rw [h'.2.2.1] at hsome
  exact (Option.some.inj hsome).symm

theorem target_of_mem_resolved {target : String}
    (h : target ∈ targets (source.resolved id provider)) :
    target ∈ targets provider.dependencies := by
  obtain ⟨dependency, hmem, htarget⟩ := List.mem_filterMap.1 h
  refine List.mem_filterMap.2 ⟨dependency, ?_, htarget⟩
  unfold resolved at hmem
  split at hmem
  · exact hmem
  · exact List.mem_of_mem_filter hmem

theorem Follows.edge {target : String} (h : source.Follows id target)
    (hmade : source.IsMade target provider) :
    (listedProviderGraph source.providers).Edge id target := by
  obtain ⟨owner, howner, htarget⟩ := h
  refine List.mem_filter.2 ⟨?_, Option.isSome_of_eq_some hmade.2.2.1⟩
  exact mem_providerTargets.2 ⟨owner, howner.2.2.1, target_of_mem_resolved htarget⟩

theorem transGen_edge {target : String} (h : TransGen source.Follows id target)
    (hmade : source.IsMade target provider) :
    TransGen (listedProviderGraph source.providers).Edge id target := by
  induction h generalizing provider with
  | single hfollows => exact TransGen.single (hfollows.edge hmade)
  | tail _ hfollows ih =>
    have hedge := hfollows.edge hmade
    obtain ⟨owner, howner, -⟩ := hfollows
    exact (ih howner).tail hedge

/-- What is resolved has no cycle when the listed providers have none. -/
theorem acyclic_follows
    (hacyclic : ∀ id, ¬TransGen (listedProviderGraph source.providers).Edge id id) (id : String) :
    ¬TransGen source.Follows id id := by
  intro hcycle
  obtain ⟨target, ⟨provider, hmade, -⟩, -⟩ := TransGen.head'_iff.1 hcycle
  exact hacyclic id (transGen_edge hcycle hmade)

/-! ### What resolving does -/

variable (stack : List String) {participants participants' : Participants α}

variable (source)

/-- What a resolved id stands for is there: a singleton itself, and what else needs. -/
structure Provided (participants : Participants α) (id : String) : Prop where
  singleton : source.IsSingleton id → id ∈ participants.ids
  needs : ∀ provider, source.IsMade id provider → provider.scope ≠ .singleton →
    ∀ last, source.Needs id last → last ∈ participants.ids

/-- The id is given or made. -/
def Resolvable (id : String) : Prop :=
  id = "doxa:logger" ∨ source.configurations id ≠ none ∨ ∃ provider, source.IsMade id provider

/-- A constructor has thrown. -/
def HasThrown (error : SingletonError) : Prop :=
  ∃ id construct arguments, error = .thrown id ∧
    source.constructors id = some construct ∧ construct arguments = none

/-- What resolving some ids adds. -/
structure Adds (participants participants' : Participants α) (ids : List String) : Prop where
  order : source.BootOrder participants'
  added : ∃ added, participants' = participants ++ added ∧
    ∀ id ∈ added.ids, ∃ target ∈ ids, ReflTransGen source.Follows target id
  provided : ∀ id ∈ ids, source.Provided participants' id

/-- What comes of resolving an id. -/
def IsResolved (participants : Participants α) (id : String) :
    Except SingletonError (Option α × Participants α) → Prop
  | .error error => source.HasThrown error
  | .ok (resolved, participants') => source.Adds participants participants' [id] ∧
      (source.Resolvable id → resolved.isSome = true)

/-- What comes of resolving dependencies. -/
def AreResolved (participants : Participants α) (ids : List String) :
    Except SingletonError (List (Option α) × Participants α) → Prop
  | .error error => source.HasThrown error
  | .ok (_, participants') => source.Adds participants participants' ids

/-- What resolving an id does. -/
def ResolveSpec : Prop :=
  ∀ participants id, source.BootOrder participants →
    (∀ owner ∈ stack, TransGen source.Follows owner id) →
    source.IsResolved participants id (source.resolve stack participants id)

/-- What resolving dependencies does. -/
def DependenciesSpec : Prop :=
  ∀ participants owner dependencies, source.BootOrder participants →
    (∀ target ∈ targets dependencies, ∀ owner ∈ stack, TransGen source.Follows owner target) →
    (owner ≠ none → ∀ dependency ∈ dependencies, dependency.optional = false →
      ∀ target, dependency.target = some target → source.Resolvable target) →
    source.AreResolved participants (targets dependencies)
      (source.resolveDependencies stack participants owner dependencies)

variable {source}

theorem Provided.mono (h : source.Provided participants id)
    (hsub : participants.ids ⊆ participants'.ids) : source.Provided participants' id where
  singleton hsingleton := hsub (h.singleton hsingleton)
  needs provider hmade hscope last hneeds := hsub (h.needs provider hmade hscope last hneeds)

theorem Adds.ids_subset {ids : List String} (h : source.Adds participants participants' ids) :
    participants.ids ⊆ participants'.ids := by
  obtain ⟨added, rfl, -⟩ := h.added
  rw [Participants.ids_append]
  exact List.subset_append_left _ _

/-- One after the other. -/
theorem Adds.trans {first second third : Participants α} {ids ids' : List String}
    (h : source.Adds first second ids) (h' : source.Adds second third ids') :
    source.Adds first third (ids ++ ids') where
  order := h'.order
  added := by
    obtain ⟨added, rfl, hadded⟩ := h.added
    obtain ⟨added', rfl, hadded'⟩ := h'.added
    refine ⟨added ++ added', List.append_assoc _ _ _, ?_⟩
    intro id hid
    rw [Participants.ids_append, List.mem_append] at hid
    rcases hid with hid | hid
    · obtain ⟨target, htarget, hreach⟩ := hadded id hid
      exact ⟨target, List.mem_append_left _ htarget, hreach⟩
    · obtain ⟨target, htarget, hreach⟩ := hadded' id hid
      exact ⟨target, List.mem_append_right _ htarget, hreach⟩
  provided id hid := by
    rcases List.mem_append.1 hid with hid | hid
    · exact (h.provided id hid).mono h'.ids_subset
    · exact h'.provided id hid

theorem Adds.refl (h : source.BootOrder participants) {ids : List String}
    (hprovided : ∀ id ∈ ids, source.Provided participants id) :
    source.Adds participants participants ids where
  order := h
  added := ⟨[], (List.append_nil _).symm, by simp [Participants.ids]⟩
  provided := hprovided

theorem dependenciesSpec_of_resolveSpec {stack : List String} (h : source.ResolveSpec stack) :
    source.DependenciesSpec stack := by
  intro participants owner dependencies horder hstack hrequired
  induction dependencies generalizing participants with
  | nil =>
    rw [resolveDependencies]
    exact Adds.refl horder (by simp [targets])
  | cons dependency dependencies ih =>
    have hrequired' : owner ≠ none → ∀ dependency ∈ dependencies, dependency.optional = false →
        ∀ target, dependency.target = some target → source.Resolvable target :=
      fun howner dependency' hmem =>
        hrequired howner dependency' (List.mem_cons_of_mem dependency hmem)
    rw [resolveDependencies]
    cases htarget : dependency.target with
    | none =>
      have htargets : targets (dependency :: dependencies) = targets dependencies := by
        rw [targets, List.filterMap_cons_none htarget]
        rfl
      rw [htargets] at hstack ⊢
      have hrest := ih participants horder hstack hrequired'
      simp only
      cases hresolved : source.resolveDependencies stack participants owner dependencies with
      | error error => rwa [hresolved] at hrest
      | ok result => rwa [hresolved] at hrest
    | some target =>
      have htargets : targets (dependency :: dependencies) =
          [target] ++ targets dependencies := by
        rw [targets, List.filterMap_cons_some htarget]
        rfl
      rw [htargets] at hstack ⊢
      have hfirst := h participants target horder
        (hstack target (List.mem_append_left _ (List.mem_singleton_self target)))
      simp only
      cases hresolve : source.resolve stack participants target with
      | error error => rwa [hresolve] at hfirst
      | ok result =>
        obtain ⟨resolved, participants'⟩ := result
        rw [hresolve] at hfirst
        obtain ⟨hadds, hsome⟩ := hfirst
        have hthere : (if resolved.isNone && !dependency.optional then owner else none) =
            none := by
          cases howner : owner with
          | none => simp
          | some id =>
            refine if_neg ?_
            rw [Bool.and_eq_true, not_and, Option.isNone_iff_eq_none]
            intro hnone hoptional
            have hresolvable := hrequired (by simp [howner]) dependency
              List.mem_cons_self (by simpa using hoptional) target htarget
            simpa [hnone] using hsome hresolvable
        have hrest := ih participants' hadds.order
          (fun target' hmem => hstack target' (List.mem_append_right _ hmem)) hrequired'
        simp only [hthere]
        cases hresolved :
            source.resolveDependencies stack participants' owner dependencies with
        | error error => rwa [hresolved] at hrest
        | ok result =>
          rw [hresolved] at hrest
          exact hadds.trans hrest

/-- What is needed has been made when all that is resolved is provided. -/
theorem mem_of_needs {last : String} (hmade : source.IsMade id provider)
    (hprovided : ∀ target ∈ targets (source.resolved id provider),
      source.Provided participants target) (hneeds : source.Needs id last) :
    last ∈ participants.ids := by
  cases hneeds with
  | direct hfollows htarget =>
    obtain ⟨provider', hmade', hmem⟩ := hfollows
    cases hmade.unique hmade'
    exact (hprovided last hmem).singleton htarget
  | through hfollows htarget hscope hneeds =>
    obtain ⟨provider', hmade', hmem⟩ := hfollows
    cases hmade.unique hmade'
    exact (hprovided _ hmem).needs _ htarget hscope last hneeds

/-- What needs not be made is there. -/
theorem Adds.of_not_made (horder : source.BootOrder participants)
    (hnot : ∀ provider, ¬source.IsMade id provider) :
    source.Adds participants participants [id] := by
  refine Adds.refl horder ?_
  intro id' hid
  rw [List.mem_singleton] at hid
  subst hid
  exact ⟨fun ⟨provider, hmade, _⟩ => absurd hmade (hnot provider),
    fun provider hmade => absurd hmade (hnot provider)⟩

/-- A provider that is made after what is resolved for it. -/
theorem Adds.snoc (hmade : source.IsMade id provider) (hscope : provider.scope = .singleton)
    (hacyclic : ∀ id, ¬TransGen source.Follows id id) (hnew : id ∉ participants.ids)
    (h : source.Adds participants participants' (targets (source.resolved id provider)))
    {participant : LifecycleParticipant α} (hid : participant.manifest.id = id) :
    source.Adds participants (participants' ++ [participant]) [id] := by
  obtain ⟨added, hadded, hreach⟩ := h.added
  have hfollows : ∀ other ∈ added.ids, TransGen source.Follows id other := by
    intro other hother
    obtain ⟨target, htarget, hreach⟩ := hreach other hother
    exact TransGen.head' ⟨provider, hmade, htarget⟩ hreach
  have hids : (participants' ++ [participant]).ids = participants'.ids ++ [id] := by
    rw [Participants.ids_append, ← hid]
    rfl
  constructor
  · refine .snoc h.order ?_ ?_ ?_
    · rw [hid, hadded, Participants.ids_append, List.mem_append, not_or]
      exact ⟨hnew, fun hmem => hacyclic id (hfollows id hmem)⟩
    · rw [hid]
      exact ⟨provider, hmade, hscope⟩
    · rw [hid]
      exact fun last hneeds => mem_of_needs hmade h.provided hneeds
  · refine ⟨added ++ [participant], by rw [hadded, List.append_assoc], ?_⟩
    intro other hother
    refine ⟨id, List.mem_singleton_self id, ?_⟩
    rw [Participants.ids_append, List.mem_append] at hother
    rcases hother with hother | hother
    · exact (hfollows other hother).to_reflTransGen
    · have heq : other = participant.manifest.id := by simpa [Participants.ids] using hother
      rw [heq, hid]
  · intro id' hid'
    rw [List.mem_singleton] at hid'
    subst hid'
    refine ⟨fun _ => by simp [hids], ?_⟩
    intro provider' hmade' hscope'
    cases hmade.unique hmade'
    exact absurd hscope hscope'

/-- What is not kept is made after what is resolved for it. -/
theorem Adds.of_resolved (hmade : source.IsMade id provider) (hscope : provider.scope ≠ .singleton)
    (h : source.Adds participants participants' (targets (source.resolved id provider))) :
    source.Adds participants participants' [id] := by
  obtain ⟨added, hadded, hreach⟩ := h.added
  refine ⟨h.order, ⟨added, hadded, ?_⟩, ?_⟩
  · intro other hother
    obtain ⟨target, htarget, hreach⟩ := hreach other hother
    exact ⟨id, List.mem_singleton_self id, hreach.head ⟨provider, hmade, htarget⟩⟩
  · intro id' hid'
    rw [List.mem_singleton] at hid'
    subst hid'
    refine ⟨?_, ?_⟩
    · rintro ⟨provider', hmade', hscope'⟩
      cases hmade.unique hmade'
      exact absurd hscope' hscope
    · intro provider' hmade' _ last hneeds
      exact mem_of_needs hmade h.provided hneeds

/-- What is overridden is a singleton. -/
theorem scope_of_override {object : α} (hboot : source.Bootable)
    (hnodup : (source.providers.map ProviderManifestEntry.id).Nodup)
    (hmade : source.IsMade id provider) (hoverride : source.override id = some object) :
    provider.scope = .singleton := by
  obtain ⟨entry, hentry, -⟩ := Option.map_eq_some_iff.1 hoverride
  have hid : entry.1 = id := by simpa using List.find?_some hentry
  obtain ⟨provider', hmem, hid', hscope⟩ := hboot.overrides entry (List.mem_of_find?_eq_some hentry)
  have hfound := providerById_of_mem hnodup hmem
  rw [hid', hid, hmade.2.2.1] at hfound
  rw [Option.some.inj hfound]
  exact hscope

/-- What becomes of a provider that is to be made. -/
theorem resolve_of_isMade (participants : Participants α) (hmade : source.IsMade id provider) :
    source.resolve stack participants id =
      (match if provider.scope = .singleton then participants.get id else none with
      | some object => .ok (some object, participants)
      | none =>
        if _hstack : id ∈ stack then .error (.dependencyCycle id)
        else
          match source.override id with
          | some object =>
            match source.resolveDependencies (id :: stack) participants none
                provider.dependencies with
            | .error error => .error error
            | .ok (_, participants) =>
              .ok (some object, participants ++
                [⟨{ provider with lifecycle := source.lifecycle object }, object⟩])
          | none =>
            match source.constructors id with
            | none => .error (.missingConstructor id)
            | some construct =>
              match source.resolveDependencies (id :: stack) participants (some id)
                  (provider.dependencies.filter fun dependency =>
                    dependency.kind = .constructor) with
              | .error error => .error error
              | .ok (arguments, participants) =>
                match construct arguments with
                | none => .error (.thrown id)
                | some object =>
                  .ok (some object,
                    if provider.scope = .singleton then
                      participants ++ [⟨provider, object⟩]
                    else participants)) := by
  obtain ⟨hlogger, hconfiguration, hprovider, hincluded⟩ := hmade
  rw [resolve, if_neg hlogger, hconfiguration]
  simp only [hincluded, Bool.not_true, Bool.false_eq_true, if_false]
  split
  · next hnone =>
      rw [hprovider] at hnone
      cases hnone
  · next provider' hprovider' =>
      rw [hprovider] at hprovider'
      cases hprovider'
      rfl

/-- **Making a provider**, when its dependencies are resolved. -/
theorem isResolved_made {stack : List String} (hboot : source.Bootable)
    (hnodup : (source.providers.map ProviderManifestEntry.id).Nodup)
    (hacyclic : ∀ id, ¬TransGen source.Follows id id) (horder : source.BootOrder participants)
    (hstack : ∀ owner ∈ stack, TransGen source.Follows owner id) (hmade : source.IsMade id provider)
    (h : id ∉ stack → source.DependenciesSpec (id :: stack)) :
    source.IsResolved participants id (source.resolve stack participants id) := by
  rw [resolve_of_isMade stack participants hmade]
  have hid : provider.id = id := (providerById_eq_some hmade.2.2.1).2
  split
  · next object hobject =>
      obtain ⟨hscope, hget⟩ := Option.ite_none_right_eq_some.1 hobject
      refine ⟨Adds.refl horder ?_, fun _ => rfl⟩
      intro id' hid'
      rw [List.mem_singleton] at hid'
      subst hid'
      refine ⟨fun _ => Participants.get_eq_some hget, ?_⟩
      intro provider' hmade' hscope'
      cases hmade.unique hmade'
      exact absurd hscope hscope'
  · next hnone =>
      have hnew : provider.scope = .singleton → id ∉ participants.ids := by
        intro hscope
        rw [if_pos hscope] at hnone
        exact Participants.get_eq_none hnone
      by_cases hmem : id ∈ stack
      · exact absurd (hstack id hmem) (hacyclic id)
      rw [dif_neg hmem]
      have hdependencies : ∀ target ∈ targets (source.resolved id provider),
          ∀ owner ∈ id :: stack, TransGen source.Follows owner target := by
        intro target htarget owner howner
        have hfollows : source.Follows id target := ⟨provider, hmade, htarget⟩
        rcases List.mem_cons.1 howner with rfl | howner
        · exact TransGen.single hfollows
        · exact (hstack owner howner).tail hfollows
      cases hoverride : source.override id with
      | some object =>
        have hresolved : source.resolved id provider = provider.dependencies := by
          simp [SingletonSource.resolved, hoverride]
        rw [hresolved] at hdependencies
        have hspec := h hmem participants none provider.dependencies horder hdependencies
          (fun hnone => absurd rfl hnone)
        simp only
        cases hresult : source.resolveDependencies (id :: stack) participants none
            provider.dependencies with
        | error error => rwa [hresult] at hspec
        | ok result =>
          rw [hresult] at hspec
          have hscope := scope_of_override hboot hnodup hmade hoverride
          refine ⟨Adds.snoc hmade hscope hacyclic (hnew hscope) ?_ hid, fun _ => rfl⟩
          rw [hresolved]
          exact hspec
      | none =>
        have hresolved : source.resolved id provider = provider.dependencies.filter
            fun dependency => dependency.kind = .constructor := by
          simp [SingletonSource.resolved, hoverride]
        rw [hresolved] at hdependencies
        cases hconstruct : source.constructors id with
        | none => exact absurd hconstruct (hboot.constructors id provider hmade hoverride)
        | some construct =>
          have hspec := h hmem participants (some id) _ horder hdependencies (by
            intro _ dependency hdependency hoptional target htarget
            obtain ⟨hdependency, hkind⟩ := List.mem_filter.1 hdependency
            exact hboot.required id provider hmade hoverride dependency hdependency
              (by simpa using hkind) hoptional target htarget)
          simp only
          cases hresult : source.resolveDependencies (id :: stack) participants (some id)
              (provider.dependencies.filter fun dependency =>
                dependency.kind = .constructor) with
          | error error => rwa [hresult] at hspec
          | ok result =>
            obtain ⟨arguments, participants'⟩ := result
            rw [hresult] at hspec
            cases hobject : construct arguments with
            | none =>
              simp only [hobject]
              exact ⟨id, construct, arguments, rfl, hconstruct, hobject⟩
            | some object =>
              simp only [hobject]
              have hadds : source.Adds participants participants'
                  (targets (source.resolved id provider)) := by
                rw [hresolved]
                exact hspec
              by_cases hscope : provider.scope = .singleton
              · rw [if_pos hscope]
                exact ⟨Adds.snoc hmade hscope hacyclic (hnew hscope) hadds hid,
                  fun _ => rfl⟩
              · rw [if_neg hscope]
                exact ⟨Adds.of_resolved hmade hscope hadds, fun _ => rfl⟩

/-- What is not made is given, or not there. -/
theorem resolve_of_not_made (participants : Participants α)
    (hnot : ∀ provider, ¬source.IsMade id provider) :
    ∃ resolved, source.resolve stack participants id = .ok (resolved, participants) ∧
      (source.Resolvable id → resolved.isSome = true) := by
  rw [resolve]
  by_cases hlogger : id = "doxa:logger"
  · exact ⟨_, by rw [if_pos hlogger], fun _ => rfl⟩
  rw [if_neg hlogger]
  cases hconfiguration : source.configurations id with
  | some configuration => exact ⟨_, rfl, fun _ => rfl⟩
  | none =>
    have hresolvable : ¬source.Resolvable id := by
      rintro (hold | hold | ⟨provider, hmade⟩)
      · exact hlogger hold
      · exact hold hconfiguration
      · exact hnot provider hmade
    refine ⟨none, ?_, fun hold => absurd hold hresolvable⟩
    simp only
    split
    · rfl
    · next provider hprovider =>
        have hexcluded : source.isIncluded id = false := by
          rw [← Bool.not_eq_true]
          exact fun hincluded => hnot provider ⟨hlogger, hconfiguration, hprovider, hincluded⟩
        rw [if_pos (by simp [hexcluded])]

/-- **Resolving an id**, when the dependencies of what is not on the stack are resolved. -/
theorem resolveSpec_of_dependenciesSpec {stack : List String} (hboot : source.Bootable)
    (hnodup : (source.providers.map ProviderManifestEntry.id).Nodup)
    (hacyclic : ∀ id, ¬TransGen source.Follows id id)
    (h : ∀ id provider, providerById source.providers id = some provider → id ∉ stack →
      source.DependenciesSpec (id :: stack)) : source.ResolveSpec stack := by
  intro participants id horder hstack
  by_cases hmade : ∃ provider, source.IsMade id provider
  · obtain ⟨provider, hmade⟩ := hmade
    exact isResolved_made hboot hnodup hacyclic horder hstack hmade (h id provider hmade.2.2.1)
  · rw [not_exists] at hmade
    obtain ⟨resolved, heq, hsome⟩ := resolve_of_not_made stack participants hmade
    rw [heq]
    exact ⟨Adds.of_not_made horder hmade, hsome⟩

/-- **One after the other**: every id is resolved as it should be. -/
theorem resolve_spec (hboot : source.Bootable)
    (hnodup : (source.providers.map ProviderManifestEntry.id).Nodup)
    (hacyclic : ∀ id, ¬TransGen source.Follows id id) (stack : List String) :
    source.ResolveSpec stack := by
  induction hrest : source.rest stack using Nat.strong_induction_on generalizing stack with
  | _ rest ih =>
    refine resolveSpec_of_dependenciesSpec hboot hnodup hacyclic ?_
    intro id provider hprovider hstack
    exact dependenciesSpec_of_resolveSpec
      (ih _ (hrest ▸ rest_cons_lt hprovider hstack) _ rfl)

/-- The singletons among some providers, made one after the other. -/
theorem resolveAll_spec (hboot : source.Bootable)
    (hnodup : (source.providers.map ProviderManifestEntry.id).Nodup)
    (hacyclic : ∀ id, ¬TransGen source.Follows id id) (horder : source.BootOrder participants)
    {providers : List ProviderManifestEntry}
    (hlisted : ∀ provider ∈ providers, provider ∈ source.providers) :
    (∀ error, source.resolveAll participants providers = .error error →
      source.HasThrown error) ∧
    ∀ participants', source.resolveAll participants providers = .ok participants' →
      source.BootOrder participants' ∧ participants.ids ⊆ participants'.ids ∧
        ∀ provider ∈ providers, source.IsSingleton provider.id →
          provider.id ∈ participants'.ids := by
  induction providers generalizing participants with
  | nil =>
    constructor
    · intro error herror
      cases herror
    · intro participants' heq
      cases heq
      exact ⟨horder, List.Subset.refl _, by simp⟩
  | cons provider providers ih =>
    rw [List.forall_mem_cons] at hlisted
    rw [resolveAll]
    by_cases hkept : (provider.scope = .singleton &&
        source.isIncluded provider.id) = true
    · rw [if_pos hkept]
      have hspec :=
        resolve_spec hboot hnodup hacyclic [] participants provider.id horder (by simp)
      cases hresolve : source.resolve [] participants provider.id with
      | error error =>
        rw [hresolve] at hspec
        constructor
        · intro error' herror
          cases herror
          exact hspec
        · intro participants' heq
          cases heq
      | ok result =>
        rw [hresolve] at hspec
        obtain ⟨hadds, -⟩ := hspec
        obtain ⟨herror, hok⟩ := ih hadds.order hlisted.2
        refine ⟨herror, ?_⟩
        intro participants' heq
        obtain ⟨horder', hsub, hmem⟩ := hok participants' heq
        refine ⟨horder', List.Subset.trans hadds.ids_subset hsub, ?_⟩
        intro provider' hprovider' hsingleton
        rcases List.mem_cons.1 hprovider' with rfl | hprovider'
        · exact hsub ((hadds.provided _ (List.mem_singleton_self _)).singleton hsingleton)
        · exact hmem provider' hprovider' hsingleton
    · rw [if_neg hkept]
      obtain ⟨herror, hok⟩ := ih horder hlisted.2
      refine ⟨herror, ?_⟩
      intro participants' heq
      obtain ⟨horder', hsub, hmem⟩ := hok participants' heq
      refine ⟨horder', hsub, ?_⟩
      intro provider' hprovider' hsingleton
      rcases List.mem_cons.1 hprovider' with rfl | hprovider'
      · obtain ⟨found, hmade, hscope⟩ := hsingleton
        have hfound := providerById_of_mem hnodup hlisted.1
        rw [hmade.2.2.1] at hfound
        cases hfound
        simp [hscope, hmade.2.2.2] at hkept
      · exact hmem provider' hprovider' hsingleton

theorem BootOrder.nodup (h : source.BootOrder participants) : participants.ids.Nodup := by
  induction h with
  | nil => exact List.nodup_nil
  | snoc _ hnew _ _ ih =>
    rw [Participants.ids_append]
    exact List.Nodup.append ih (List.nodup_singleton _) (by simpa [Participants.ids] using hnew)

theorem BootOrder.isSingleton (h : source.BootOrder participants) (hid : id ∈ participants.ids) :
    source.IsSingleton id := by
  induction h with
  | nil => cases hid
  | snoc _ _ hsingleton _ ih =>
    rw [Participants.ids_append, List.mem_append] at hid
    rcases hid with hid | hid
    · exact ih hid
    · rw [List.mem_singleton.1 hid]
      exact hsingleton

/-- **Each singleton comes after those it needs.** -/
theorem BootOrder.needs_before (h : source.BootOrder participants) {before after : Participants α}
    {participant : LifecycleParticipant α} (heq : participants = before ++ participant :: after)
    (hneeds : source.Needs participant.manifest.id id) : id ∈ before.ids := by
  induction h generalizing after with
  | nil => simp at heq
  | @snoc participants' last _ _ _ hlast ih =>
    rcases List.eq_nil_or_concat after with rfl | ⟨after', last', rfl⟩
    · obtain ⟨rfl, hsame⟩ := List.append_inj' heq rfl
      rw [List.singleton_inj.1 hsame] at hlast
      exact hlast id hneeds
    · rw [List.concat_eq_append, ← List.cons_append, ← List.append_assoc] at heq
      exact ih (List.append_inj' heq rfl).1

end SingletonSource

/-! ### The checks, and the boot -/

/-- **The checks are exact, and boot is safe.**  For providers with distinct ids, each check fails
just when the graph has what it looks for; and when there is no cycle, the construction of the
singletons fails only when a constructor throws, makes every singleton that is included once, and
lists it after all singletons that are resolved for it, directly or for what is not kept. -/
theorem provider_checks_exact {providers : List ProviderManifestEntry}
    (hnodup : (providers.map ProviderManifestEntry.id).Nodup) :
    ((∃ error, assertAcyclicProviderGraph providers = .error error) ↔
      ∃ id, TransGen (listedProviderGraph providers).Edge id id) ∧
    ((∃ error, assertScopeSafety providers = .error error) ↔
      ∃ provider ∈ providers, provider.scope = .singleton ∧
        ∃ target ∈ providers, target.scope = .execution ∧
          TransGen (providerGraph providers).Edge provider.id target.id) ∧
    (∀ operations jobs realtimeCommands,
      (∀ operation ∈ operations, operation.role = .action →
        operation.id ∉ readOnlyRootIds operations realtimeCommands) →
      (∀ job ∈ jobs, job.id ∉ readOnlyRootIds operations realtimeCommands) →
      ((∃ error, assertNoNestedActionBusReachability providers operations jobs realtimeCommands =
          .error error) ↔
        (∃ root ∈ executableRoots operations jobs realtimeCommands,
          Reaches providers root.dependencies "doxa:action-bus") ∨
        ∃ target ∈ providers,
          (∃ capability ∈ target.capabilities, forbiddenReadOnly capability = true) ∧
          ((∃ operation ∈ operations, operation.role = .query ∧
              Reaches providers operation.dependencies target.id) ∨
            ∃ command ∈ realtimeCommands, Reaches providers command.dependencies target.id))) ∧
    ∀ {α : Type*} (source : SingletonSource α), source.providers = providers →
      assertAcyclicProviderGraph providers = .ok () →
      assertScopeSafety providers = .ok () → source.Bootable →
      (∀ error, constructSingletonGraph source = .error error → source.HasThrown error) ∧
      ∀ participants, constructSingletonGraph source = .ok participants →
        participants.ids.Nodup ∧
        (∀ id, id ∈ participants.ids ↔ ∃ provider ∈ source.providers, provider.id = id ∧
          provider.scope = .singleton ∧ source.isIncluded id = true) ∧
        ∀ before participant after, participants = before ++ participant :: after →
          ∀ id, source.Needs participant.manifest.id id → id ∈ Participants.ids before := by
  refine ⟨assertAcyclicProviderGraph_iff providers, assertScopeSafety_iff hnodup,
    fun operations jobs realtimeCommands hactions hjobs =>
      assertNoNestedActionBusReachability_iff hnodup hactions hjobs, ?_⟩
  intro α source hproviders haccepted _ hboot
  subst hproviders
  have hacyclic : ∀ id, ¬TransGen (listedProviderGraph source.providers).Edge id id := by
    intro id hcycle
    obtain ⟨error, herror⟩ := (assertAcyclicProviderGraph_iff source.providers).2 ⟨id, hcycle⟩
    rw [haccepted] at herror
    cases herror
  have hoverrides : source.assertOverrides = .ok () := by
    rw [SingletonSource.assertOverrides, Except.forM_eq_ok_iff]
    intro entry hentry
    obtain ⟨provider, hmem, hid, hscope⟩ := hboot.overrides entry hentry
    rw [← hid, providerById_of_mem hnodup hmem]
    simp [hscope]
  have hlisted : ∀ provider ∈ source.providers.mergeSort fun left right =>
      source.before left.id right.id, provider ∈ source.providers :=
    fun provider => List.mem_mergeSort.1
  obtain ⟨herror, hok⟩ := SingletonSource.resolveAll_spec hboot hnodup
    (SingletonSource.acyclic_follows hacyclic) .nil hlisted
  rw [constructSingletonGraph, hoverrides]
  refine ⟨herror, ?_⟩
  intro participants heq
  obtain ⟨horder, -, hmem⟩ := hok participants heq
  refine ⟨horder.nodup, ?_, fun before participant after hsplit id => horder.needs_before hsplit⟩
  intro id
  constructor
  · intro hid
    obtain ⟨provider, hmade, hscope⟩ := horder.isSingleton hid
    obtain ⟨hprovider, hsame⟩ := providerById_eq_some hmade.2.2.1
    exact ⟨provider, hprovider, hsame, hscope, hmade.2.2.2⟩
  · rintro ⟨provider, hprovider, rfl, hscope, hincluded⟩
    obtain ⟨hlogger, hconfiguration⟩ := hboot.ids provider hprovider
    refine hmem provider (List.mem_mergeSort.2 hprovider) ⟨provider, ⟨hlogger, hconfiguration, ?_,
      hincluded⟩, hscope⟩
    exact providerById_of_mem hnodup hprovider

/-! ### A mailer and its clock -/

variable (kind : DependencyKind)

def noLifecycle : LifecycleManifestEntry := ⟨false, false, false, false⟩

/-- A singleton that depends on another one, by a parameter of its constructor or by a property. -/
def mailerProviders : List ProviderManifestEntry :=
  [{ id := "provider:app/mailer"
     scope := .singleton
     capabilities := []
     dependencies := [⟨kind, "time", "Time", some "provider:app/time", false⟩]
     lifecycle := noLifecycle },
   { id := "provider:app/time"
     scope := .singleton
     capabilities := []
     dependencies := []
     lifecycle := noLifecycle }]

/-- Objects are the ids of what they are made for. -/
def mailerSource : SingletonSource String where
  providers := mailerProviders kind
  configurations _ := none
  overrides := []
  logger := "doxa:logger"
  included := none
  constructors id := some fun _ => some id
  lifecycle _ := noLifecycle
  before left right := left ≤ right

theorem edge_mailer {kind : DependencyKind} {id target : String}
    (h : (listedProviderGraph (mailerProviders kind)).Edge id target) :
    id = "provider:app/mailer" ∧ target = "provider:app/time" := by
  obtain ⟨provider, hfound, htarget⟩ := mem_providerTargets.1 (List.mem_of_mem_filter h)
  obtain ⟨hmem, rfl⟩ := providerById_eq_some hfound
  simp only [mailerProviders, List.mem_cons, List.not_mem_nil, or_false] at hmem
  rcases hmem with rfl | rfl
  · simp [targets, DependencyManifestEntry.target] at htarget
    exact ⟨rfl, htarget.1.symm⟩
  · simp [targets] at htarget

theorem accepts_mailer :
    assertAcyclicProviderGraph (mailerProviders kind) = .ok () ∧
      assertScopeSafety (mailerProviders kind) = .ok () := by
  constructor
  · cases hresult : assertAcyclicProviderGraph (mailerProviders kind) with
    | ok => rfl
    | error error =>
      obtain ⟨id, hcycle⟩ := (assertAcyclicProviderGraph_iff _).1 ⟨error, hresult⟩
      obtain ⟨target, hfirst, hback⟩ := TransGen.head'_iff.1 hcycle
      obtain ⟨rfl, rfl⟩ := edge_mailer hfirst
      rcases hback.cases_head with heq | ⟨_, hnext, -⟩
      · simp at heq
      · simpa using (edge_mailer hnext).1
  · cases hresult : assertScopeSafety (mailerProviders kind) with
    | ok => rfl
    | error error =>
      obtain ⟨_, _, _, target, htarget, hscope, -⟩ :=
        (assertScopeSafety_iff (by simp [mailerProviders])).1 ⟨error, hresult⟩
      simp only [mailerProviders, List.mem_cons, List.not_mem_nil, or_false] at htarget
      rcases htarget with rfl | rfl <;> cases hscope

theorem bootable_mailer : (mailerSource kind).Bootable where
  overrides := by simp [mailerSource]
  ids := by simp [mailerSource, mailerProviders]
  constructors := by simp [mailerSource]
  required id provider hmade _ dependency hdependency _ _ target htarget := by
    obtain ⟨hmem, rfl⟩ := providerById_eq_some hmade.2.2.1
    simp only [mailerSource, mailerProviders, List.mem_cons, List.not_mem_nil, or_false] at hmem
    right; right
    rcases hmem with rfl | rfl
    · simp only [List.mem_singleton] at hdependency
      subst hdependency
      simp [DependencyManifestEntry.target] at htarget
      obtain ⟨rfl, -⟩ := htarget
      exact ⟨_, by simp, rfl, rfl, rfl⟩
    · simp at hdependency

theorem mergeSort_mailer :
    ((mailerProviders kind).mergeSort fun left right =>
      (mailerSource kind).before left.id right.id) = mailerProviders kind := by
  refine List.mergeSort_of_pairwise ?_
  cases kind <;> decide

theorem isMade_time : ∃ provider,
    (mailerSource kind).IsMade "provider:app/time" provider ∧ provider.dependencies = [] ∧
      provider.id = "provider:app/time" ∧ provider.scope = .singleton :=
  ⟨_, ⟨by simp, rfl, rfl, rfl⟩, rfl, rfl, rfl⟩

theorem isMade_mailer : ∃ provider,
    (mailerSource kind).IsMade "provider:app/mailer" provider ∧
      provider.dependencies = [⟨kind, "time", "Time", some "provider:app/time", false⟩] ∧
      provider.id = "provider:app/mailer" ∧ provider.scope = .singleton :=
  ⟨_, ⟨by simp, rfl, rfl, rfl⟩, rfl, rfl, rfl⟩

/-- The time is made before the mailer whose constructor is given it. -/
theorem provider_checks_exact_mailer : ∃ participants before participant after,
    constructSingletonGraph (mailerSource .constructor) = .ok participants ∧
      participants = before ++ participant :: after ∧
      participant.manifest.id = "provider:app/mailer" ∧
      "provider:app/time" ∈ Participants.ids before := by
  have hnodup : ((mailerProviders .constructor).map
      ProviderManifestEntry.id).Nodup := by simp [mailerProviders]
  obtain ⟨hacyclic, hscope⟩ := accepts_mailer .constructor
  obtain ⟨herror, hok⟩ := (provider_checks_exact hnodup).2.2.2
    (mailerSource .constructor) rfl hacyclic hscope
    (bootable_mailer .constructor)
  cases hresult : constructSingletonGraph (mailerSource .constructor) with
  | error error =>
    obtain ⟨id, construct, arguments, -, hconstruct, hthrown⟩ := herror error hresult
    cases hconstruct
    cases hthrown
  | ok participants =>
    obtain ⟨-, hids, horder⟩ := hok participants hresult
    have hmem : "provider:app/mailer" ∈ participants.ids :=
      (hids _).2 ⟨_, List.mem_cons_self, rfl, rfl, rfl⟩
    obtain ⟨participant, hparticipant, hid⟩ := List.mem_map.1 hmem
    obtain ⟨before, after, hsplit⟩ := List.append_of_mem hparticipant
    refine ⟨participants, before, participant, after, rfl, hsplit, hid, ?_⟩
    refine horder before participant after hsplit _ ?_
    obtain ⟨mailer, hmailer, hdependencies, -, -⟩ := isMade_mailer .constructor
    obtain ⟨time, htime, -, -, htimeScope⟩ := isMade_time .constructor
    rw [hid]
    refine .direct ⟨mailer, hmailer, ?_⟩ ⟨time, htime, htimeScope⟩
    simp [SingletonSource.resolved, SingletonSource.override, mailerSource, hdependencies,
      targets, DependencyManifestEntry.target]

/-- What a singleton depends on by a property is not made before it. -/
theorem role_dependency_made_later :
    assertAcyclicProviderGraph (mailerProviders .role) = .ok () ∧
      assertScopeSafety (mailerProviders .role) = .ok () ∧
      (mailerSource .role).Bootable ∧
      (listedProviderGraph (mailerProviders .role)).Edge "provider:app/mailer"
        "provider:app/time" ∧
      (constructSingletonGraph (mailerSource .role)).map Participants.ids =
        .ok ["provider:app/mailer", "provider:app/time"] := by
  obtain ⟨hacyclic, hscope⟩ := accepts_mailer .role
  refine ⟨hacyclic, hscope, bootable_mailer .role, ?_, ?_⟩
  · change "provider:app/time" ∈ List.filter _ _
    decide
  · obtain ⟨mailer, hmailer, hmailerDependencies, hmailerId, hmailerScope⟩ :=
      isMade_mailer .role
    obtain ⟨time, htime, htimeDependencies, htimeId, htimeScope⟩ := isMade_time .role
    have hproviders : (mailerSource .role).providers =
        mailerProviders .role := rfl
    rw [constructSingletonGraph, hproviders, mergeSort_mailer]
    have hfirst : (mailerSource .role).resolve [] [] "provider:app/mailer" =
        .ok (some "provider:app/mailer", [⟨mailer, "provider:app/mailer"⟩]) := by
      rw [SingletonSource.resolve_of_isMade _ _ hmailer]
      simp [hmailerScope, hmailerDependencies, Participants.get, SingletonSource.override,
        mailerSource, SingletonSource.resolveDependencies]
    have hsecond : (mailerSource .role).resolve []
        [⟨mailer, "provider:app/mailer"⟩] "provider:app/time" =
        .ok (some "provider:app/time", [⟨mailer, "provider:app/mailer"⟩,
          ⟨time, "provider:app/time"⟩]) := by
      rw [SingletonSource.resolve_of_isMade _ _ htime]
      simp [htimeScope, htimeDependencies, hmailerId, Participants.get, SingletonSource.override,
        mailerSource, SingletonSource.resolveDependencies]
    have hoverrides : (mailerSource .role).assertOverrides = .ok () := rfl
    have hincluded : ∀ id, (mailerSource .role).isIncluded id = true := fun _ => rfl
    simp [hoverrides, mailerProviders, SingletonSource.resolveAll, hincluded, hfirst, hsecond,
      Except.map, Participants.ids, hmailerId, htimeId]

end Doxa
