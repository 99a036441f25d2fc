/-
**The identity map.**

For each identity there is to be one model of the session that is attached and not deleted; whoever
asks for the identity is given it, and `retrieved` is dispatched once for each model that comes from
the store.

The identity map sees to it as long as it has every such model.  It loses one in four ways: when an
observer of its hydration fails, it is taken out of the map and stays attached; when the identity
that the database generates for a saved model has been read meanwhile, one of the two models
replaces the other; when a model is saved that was deleted meanwhile, it exists and is not put back;
and when a model is deleted twice, the second time takes out what has come in its place.  And a
model may be deleted, or be given its identity, while a call holds it that returns it later.

Main definitions:

* `Doxa.LiveSession.Carries`, `Doxa.LiveSession.SingleValued` — the models of an
  identity;
* `Doxa.LiveSession.Holds` — a call under way is to return the model;
* `Doxa.LiveSession.Orphaned` — the model of an identity was taken out of the map;
* `Doxa.LiveSession.Undisturbed` — the condition on a step;
* `Doxa.LiveSession.Kept` — the invariant.

Main results:

* `Doxa.LiveSession.Kept.step` — **a step keeps the invariant**;
* `Doxa.identity_map_single_valued` — **the identity map is single-valued in every undisturbed
  run**.
-/

import Doxa.ModelHydration

set_option relaxedAutoImplicit false
set_option autoImplicit false

namespace Doxa

open LiveSession

namespace LiveSession

/-! ### The models of an identity -/

/-- The model is attached, not deleted, and carries the identity. -/
def Carries (s : LiveSession) (identity : Identity) (ref : Ref) : Prop :=
  ∃ model, s.models ref = some model ∧ model.identity = identity ∧ model.live = true

/-- **The attached models of one identity that are not deleted are one.** -/
def SingleValued (s : LiveSession) : Prop :=
  ∀ identity ref other, s.Carries identity ref → s.Carries identity other → ref = other

/-- The one model that carries the identity. -/
def IsTheModel (s : LiveSession) (identity : Identity) (ref : Ref) : Prop :=
  s.Carries identity ref ∧ ∀ other, s.Carries identity other → other = ref

/-- The model that is awaited, unless an error is. -/
def Promises (s : LiveSession) : AwaitedModel → Ref → Prop
  | .model model, ref => model = ref
  | .hydration h _, ref =>
    ∃ hydration, s.hydrations h = some hydration ∧ hydration.model = some ref ∧
      hydration.status ≠ .rejected

/-- A call under way is to return the model: it has it or awaits it, or those to come will await it.
-/
def Holds (s : LiveSession) (ref : Ref) : Prop :=
  (∃ r call, s.calls r = some call ∧
    ((∃ identity, (identity, ref) ∈ call.models) ∨
      ∃ awaited identity rest, call.phase = .hydrating awaited identity rest ∧
        s.Promises awaited ref)) ∨
    ∃ identity h, s.pending identity = some h ∧ s.Promises (.hydration h false) ref

/-- A model of the identity was taken out of the map when its hydration failed, and is not deleted.
-/
def Orphaned (s : LiveSession) (identity : Identity) : Prop :=
  ∃ ref model, s.models ref = some model ∧ model.identity = identity ∧ model.live = true ∧
    model.rolledBack = true

/-- No model is hydrated for the first of the rows while one of its identity is orphaned. -/
def HydratesAnew (s : LiveSession) (call : ReadCall) (rows : List PersistedRow) : Prop :=
  ∀ row ∈ rows.head?, s.lookup call.scope ⟨call.request.entityType, row.id⟩ = none →
    ¬ s.Orphaned ⟨call.request.entityType, row.id⟩

/-- **The condition on a step**: no model is created for an identity of which one is orphaned; the
identity that the database generated is not in the map, nor has another save given the model its
identity; a model that is given an identity or that is deleted is not held; and what is deleted or
saved was not deleted meanwhile. -/
def Undisturbed (s : LiveSession) : ModelSessionLabel → Prop
  | .read ref rows _ _ =>
    ∀ call, s.calls ref = some call → s.HydratesAnew call rows
  | .resume ref _ _ =>
    ∀ call awaited identity rest, s.calls ref = some call →
      call.phase = .hydrating awaited identity rest →
        (s.release identity awaited).HydratesAnew call rest
  | .make _ identity => ¬ s.Orphaned identity
  | .saveAnswered ref (some id) =>
    ∀ model identity, s.writes ref = some (.saving model identity true) →
      id ≠ identity.id →
        s.Carries identity model ∧ ¬ s.Holds model ∧
          s.identityMap ⟨identity.entityType, id⟩ = none ∧
          ¬ s.Orphaned ⟨identity.entityType, id⟩
  | .saved ref =>
    ∀ model, s.writes ref = some (.storing model) →
      ∃ identity, s.Carries identity model
  | .deleted ref =>
    ∀ model, s.writes ref = some (.deleting model) →
      (∃ identity, s.Carries identity model) ∧ ¬ s.Holds model
  | _ => True

/-! ### The invariant -/

/-- The map has the models that are not deleted, other than those that were rolled back, which are
the only ones of their identity. -/
structure MapKept (s : LiveSession) : Prop where
  mapped : ∀ identity ref, s.identityMap identity = some ref →
    ∃ model, s.models ref = some model ∧ model.identity = identity ∧ model.live = true ∧
      model.rolledBack = false
  found : ∀ ref model, s.models ref = some model → model.live = true →
    model.rolledBack = false → s.identityMap model.identity = some ref
  alone : ∀ ref model, s.models ref = some model → model.live = true →
    model.rolledBack = true → ∀ other, s.Carries model.identity other → other = ref

/-- What is known of the models, hydrations and writes one by one. -/
structure ObjectsKept (s : LiveSession) : Prop where
  dispatched : ∀ ref model, s.models ref = some model →
    model.retrieved = if model.hydrated then 1 else 0
  made : ∀ ref model, s.models ref = some model →
    model.persistence = .made → model.hydrated = false
  rolled : ∀ ref model, s.models ref = some model → model.rolledBack = true →
    model.hydrated = true
  hydrates : ∀ h hydration ref, s.hydrations h = some hydration → hydration.model = some ref →
    ∃ model, s.models ref = some model ∧ model.hydrated = true ∧
      model.identity = hydration.identity
  inserts : ∀ w ref identity, s.writes w = some (.saving ref identity true) →
    ∃ model, s.models ref = some model ∧ model.hydrated = false

/-- What is awaited for an identity carries it. -/
def Promised (s : LiveSession) (identity : Identity) (awaited : AwaitedModel) : Prop :=
  (∀ ref, s.Promises awaited ref → s.Carries identity ref) ∧
    ∀ h owner, awaited = .hydration h owner →
      ∃ hydration, s.hydrations h = some hydration ∧ hydration.identity = identity

/-- What a call has and awaits carries the identities it was read by; a `find` has one only. -/
structure CallKept (s : LiveSession) (call : ReadCall) : Prop where
  models : ∀ result ∈ call.models, s.Carries result.1 result.2
  awaits : ∀ awaited identity rest, call.phase = .hydrating awaited identity rest →
    s.Promised identity awaited
  finds : ∀ identity, call.request = .find identity →
    (∀ result ∈ call.models, result.1 = identity) ∧
      ∀ awaited other rest, call.phase = .hydrating awaited other rest →
        other = identity ∧ rest = []

structure CallsKept (s : LiveSession) : Prop where
  pending : ∀ identity h, s.pending identity = some h →
    s.Promised identity (.hydration h false)
  calls : ∀ ref call, s.calls ref = some call → s.CallKept call

/-- **The invariant.** -/
structure Kept (s : LiveSession) : Prop where
  map : s.MapKept
  objects : s.ObjectsKept
  calls : s.CallsKept

theorem kept_fresh : fresh.Kept where
  map := ⟨nofun, nofun, nofun⟩
  objects := ⟨nofun, nofun, nofun, nofun, nofun⟩
  calls := ⟨nofun, nofun⟩

/-- The invariant gives the result. -/
theorem MapKept.singleValued {s : LiveSession} (h : s.MapKept) : s.SingleValued := by
  rintro identity ref other ⟨model, hmodel, rfl, hlive⟩ hother
  cases hrolled : model.rolledBack with
  | true => exact (h.alone ref model hmodel hlive hrolled other hother).symm
  | false =>
    obtain ⟨model', hmodel', hidentity, hlive'⟩ := hother
    have hfound := h.found ref model hmodel hlive hrolled
    cases hrolled' : model'.rolledBack with
    | true =>
      exact h.alone other model' hmodel' hlive' hrolled' ref
        ⟨model, hmodel, hidentity.symm, hlive⟩
    | false =>
      have hfound' := h.found other model' hmodel' hlive' hrolled'
      rw [hidentity, hfound] at hfound'
      exact Option.some.inj hfound'

/-! ### What leaves the invariant alone -/

variable {awaited : AwaitedModel} {identity : Identity}

variable {s t : LiveSession}

theorem MapKept.congr (h : s.MapKept) (hmodels : t.models = s.models)
    (hmap : t.identityMap = s.identityMap) : t.MapKept := by
  refine ⟨?_, ?_, ?_⟩
  · rw [hmodels, hmap]
    exact h.mapped
  · rw [hmodels, hmap]
    exact h.found
  · simp only [Carries, hmodels]
    exact h.alone

theorem ObjectsKept.congr (h : s.ObjectsKept) (hmodels : t.models = s.models)
    (hhydrations : t.hydrations = s.hydrations) (hwrites : t.writes = s.writes) :
    t.ObjectsKept := by
  refine ⟨?_, ?_, ?_, ?_, ?_⟩
  · rw [hmodels]
    exact h.dispatched
  · rw [hmodels]
    exact h.made
  · rw [hmodels]
    exact h.rolled
  · rw [hmodels, hhydrations]
    exact h.hydrates
  · rw [hmodels, hwrites]
    exact h.inserts

/-- What is held carries its identity as before, and hydrations go on as they are. -/
structure Advances (s t : LiveSession) : Prop where
  carries : ∀ identity ref, s.Holds ref → s.Carries identity ref → t.Carries identity ref
  hydrations : ∀ h hydration, s.hydrations h = some hydration →
    ∃ next, t.hydrations h = some next ∧ next.identity = hydration.identity ∧
      next.model = hydration.model ∧
      (hydration.status = .rejected → next.status = .rejected)

theorem Promised.advance (hadvances : s.Advances t) (h : s.Promised identity awaited)
    (hholds : ∀ ref, s.Promises awaited ref → s.Holds ref) : t.Promised identity awaited := by
  obtain ⟨hcarries, hhydration⟩ := h
  have hback : ∀ ref, t.Promises awaited ref → s.Promises awaited ref := by
    cases awaited with
    | model model => exact fun _ => id
    | hydration h owner =>
      rintro ref ⟨next, hnext, hmodel, hstatus⟩
      obtain ⟨hydration, hh, -⟩ := hhydration h owner rfl
      obtain ⟨next', hnext', -, hmodel', hstatus'⟩ := hadvances.hydrations h hydration hh
      cases hnext.symm.trans hnext'
      exact ⟨hydration, hh, hmodel' ▸ hmodel, fun hrejected => hstatus (hstatus' hrejected)⟩
  refine ⟨?_, ?_⟩
  · intro ref hpromises
    have hpromised := hback ref hpromises
    exact hadvances.carries identity ref (hholds ref hpromised) (hcarries ref hpromised)
  · intro h owner hawaited
    obtain ⟨hydration, hh, hidentity⟩ := hhydration h owner hawaited
    obtain ⟨next, hnext, hidentity', -⟩ := hadvances.hydrations h hydration hh
    exact ⟨next, hnext, hidentity'.trans hidentity⟩

theorem CallsKept.advance (h : s.CallsKept) (hadvances : s.Advances t)
    (hcalls : t.calls = s.calls) (hpending : t.pending = s.pending) : t.CallsKept := by
  refine ⟨?_, ?_⟩
  · intro identity ref hp
    rw [hpending] at hp
    exact (h.pending identity ref hp).advance hadvances
      fun _ hpromises => .inr ⟨identity, ref, hp, hpromises⟩
  · intro ref call hc
    rw [hcalls] at hc
    have hcall := h.calls ref call hc
    refine ⟨?_, ?_, hcall.finds⟩
    · intro result hresult
      exact hadvances.carries _ _ (.inl ⟨ref, call, hc, .inl ⟨result.1, hresult⟩⟩)
        (hcall.models result hresult)
    · intro awaited identity rest hphase
      exact (hcall.awaits awaited identity rest hphase).advance hadvances
        fun _ hpromises =>
          .inl ⟨ref, call, hc, .inr ⟨awaited, identity, rest, hphase, hpromises⟩⟩

/-- A call is added or goes on. -/
theorem Kept.setCall (h : s.Kept) (ref : Ref) {call : Option ReadCall}
    (hcall : ∀ c, call = some c → s.CallKept c) : (s.setCall ref call).Kept := by
  refine ⟨h.map.congr rfl rfl, h.objects.congr rfl rfl rfl, ⟨h.calls.pending, ?_⟩⟩
  intro r c hc
  rcases update_eq_some_iff.1 hc with ⟨-, hnew⟩ | ⟨-, hold⟩
  · have hkept := hcall c hnew
    exact ⟨hkept.models, hkept.awaits, hkept.finds⟩
  · have hkept := h.calls.calls r c hold
    exact ⟨hkept.models, hkept.awaits, hkept.finds⟩

/-- A write is added or goes on. -/
theorem Kept.setWrite (h : s.Kept) (ref : Ref) {write : Option ModelWrite}
    (hwrite : ∀ model identity, write = some (.saving model identity true) →
      ∃ m, s.models model = some m ∧ m.hydrated = false) : (s.setWrite ref write).Kept := by
  refine ⟨h.map.congr rfl rfl,
    ⟨h.objects.dispatched, h.objects.made, h.objects.rolled, h.objects.hydrates, ?_⟩, ?_⟩
  · intro w model identity hw
    rcases update_eq_some_iff.1 hw with ⟨-, hnew⟩ | ⟨-, hold⟩
    · exact hwrite model identity hnew
    · exact h.objects.inserts w model identity hold
  · exact h.calls.advance ⟨fun _ _ _ => id, fun _ y hy => ⟨y, hy, rfl, rfl, id⟩⟩ rfl rfl

/-- A settled hydration is taken out of the map of those under way. -/
theorem Kept.release (h : s.Kept) (identity : Identity) (awaited : AwaitedModel) :
    (s.release identity awaited).Kept := by
  unfold LiveSession.release
  split
  · split_ifs
    · refine ⟨h.map.congr rfl rfl, h.objects.congr rfl rfl rfl, ⟨?_, ?_⟩⟩
      · intro k ref hp
        rcases update_eq_some_iff.1 hp with ⟨-, hnew⟩ | ⟨-, hold⟩
        · cases hnew
        · exact h.calls.pending k ref hold
      · intro ref call hc
        have hkept := h.calls.calls ref call hc
        exact ⟨hkept.models, hkept.awaits, hkept.finds⟩
    · exact h
  · exact h

/-! ### Hydration -/

variable {scope : Option Ref} {ref model : Ref} {hydration : Hydration}

/-- What is found carries the identity. -/
theorem Kept.promised_lookup (h : s.Kept) (hlookup : s.lookup scope identity = some awaited) :
    s.Promised identity awaited := by
  have hmapped : ∀ ref, s.identityMap identity = some ref →
      s.Promised identity (.model ref) := by
    intro ref hmap
    obtain ⟨model, hmodel, hidentity, hlive, -⟩ := h.map.mapped identity ref hmap
    refine ⟨?_, fun _ _ => nofun⟩
    rintro _ rfl
    exact ⟨model, hmodel, hidentity, hlive⟩
  unfold lookup at hlookup
  dsimp only at hlookup
  split_ifs at hlookup with hown
  · -- what is being hydrated in the scope is in the map
    obtain ⟨ref, href, rfl⟩ := Option.map_eq_some_iff.1 hlookup
    exact hmapped ref (hown.2.trans href)
  · split at hlookup
    · next hydration hp _ =>
        cases hlookup
        exact h.calls.pending identity hydration hp
    · obtain ⟨ref, href, rfl⟩ := Option.map_eq_some_iff.1 hlookup
      exact hmapped ref href

/-- Nothing is found of what is not in the map. -/
theorem identityMap_eq_none_of_lookup (hlookup : s.lookup scope identity = none) :
    s.identityMap identity = none := by
  unfold lookup at hlookup
  dsimp only at hlookup
  split_ifs at hlookup with hown
  · rw [Option.map_eq_none_iff] at hlookup
    rw [hlookup] at hown
    exact absurd hown.1 (by simp)
  · split at hlookup
    · cases hlookup
    · exact Option.map_eq_none_iff.1 hlookup

/-- A new model is the only one of its identity, when none is in the map or orphaned. -/
theorem MapKept.insert (h : s.MapKept) {model : SessionModel}
    (hunmapped : s.identityMap identity = none) (horphaned : ¬ s.Orphaned identity)
    (hnew : s.models ref = none) (hidentity : model.identity = identity) (hlive : model.live = true)
    (hrolled : model.rolledBack = false) :
    ((s.setModel ref model).setIdentity identity (some ref)).MapKept := by
  refine ⟨?_, ?_, ?_⟩
  · intro k r hmap
    rcases update_eq_some_iff.1 hmap with ⟨rfl, hr⟩ | ⟨-, hold⟩
    · cases hr
      exact ⟨model, Function.update_self .., hidentity, hlive, hrolled⟩
    · obtain ⟨m, hm, hrest⟩ := h.mapped k r hold
      have hne : r ≠ ref := by
        rintro rfl
        rw [hnew] at hm
        cases hm
      exact ⟨m, by rw [← hm]; exact Function.update_of_ne hne .., hrest⟩
  · intro r m hm hmlive hmrolled
    rcases update_eq_some_iff.1 hm with ⟨rfl, heq⟩ | ⟨-, hold⟩
    · cases heq
      rw [hidentity]
      exact Function.update_self ..
    · have hfound := h.found r m hold hmlive hmrolled
      have hne : m.identity ≠ identity := by
        rintro rfl
        rw [hunmapped] at hfound
        cases hfound
      rw [← hfound]
      exact Function.update_of_ne hne ..
  · intro r m hm hmlive hmrolled other hother
    rcases update_eq_some_iff.1 hm with ⟨rfl, heq⟩ | ⟨-, hold⟩
    · cases heq
      rw [hrolled] at hmrolled
      cases hmrolled
    · obtain ⟨m', hm', hsame, hlive'⟩ := hother
      rcases update_eq_some_iff.1 hm' with ⟨rfl, heq⟩ | ⟨-, hold'⟩
      · cases heq
        exact absurd ⟨r, m, hold, by rw [← hsame, hidentity], hmlive, hmrolled⟩ horphaned
      · exact h.alone r m hold hmlive hmrolled other ⟨m', hold', hsame, hlive'⟩

/-- A new model leaves the others as they are. -/
theorem Carries.setModel {other : Ref} {model : SessionModel} (hnew : s.models ref = none)
    (h : s.Carries identity other) : (s.setModel ref model).Carries identity other := by
  obtain ⟨m, hm, hrest⟩ := h
  have hne : other ≠ ref := by
    rintro rfl
    rw [hnew] at hm
    cases hm
  exact ⟨m, by rw [← hm]; exact Function.update_of_ne hne .., hrest⟩

theorem ObjectsKept.setModel (h : s.ObjectsKept) {model : SessionModel} (hnew : s.models ref = none)
    (hretrieved : model.retrieved = if model.hydrated then 1 else 0)
    (hmade : model.persistence = .made → model.hydrated = false)
    (hrolled : model.rolledBack = false) : (s.setModel ref model).ObjectsKept := by
  have hold : ∀ r m, s.models r = some m → (s.setModel ref model).models r = some m := by
    intro r m hm
    have hne : r ≠ ref := by
      rintro rfl
      rw [hnew] at hm
      cases hm
    rw [← hm]
    exact Function.update_of_ne hne ..
  refine ⟨?_, ?_, ?_, ?_, ?_⟩
  · intro r m hm
    rcases update_eq_some_iff.1 hm with ⟨-, hm⟩ | ⟨-, hm⟩
    · cases hm
      exact hretrieved
    · exact h.dispatched r m hm
  · intro r m hm
    rcases update_eq_some_iff.1 hm with ⟨-, hm⟩ | ⟨-, hm⟩
    · cases hm
      exact hmade
    · exact h.made r m hm
  · intro r m hm
    rcases update_eq_some_iff.1 hm with ⟨-, hm⟩ | ⟨-, hm⟩
    · cases hm
      rw [hrolled]
      exact nofun
    · exact h.rolled r m hm
  · intro r hydration model' hh hmodel
    obtain ⟨m, hm, hrest⟩ := h.hydrates r hydration model' hh hmodel
    exact ⟨m, hold model' m hm, hrest⟩
  · intro w model' identity hw
    obtain ⟨m, hm, hrest⟩ := h.inserts w model' identity hw
    exact ⟨m, hold model' m hm, hrest⟩

/-- Another hydration leaves those there are. -/
theorem Kept.setHydration (h : s.Kept) (hnew : s.hydrations ref = none)
    (hmodel : ∀ model, hydration.model = some model →
      ∃ m, s.models model = some m ∧ m.hydrated = true ∧ m.identity = hydration.identity) :
    (s.setHydration ref hydration).Kept := by
  refine ⟨h.map.congr rfl rfl,
    ⟨h.objects.dispatched, h.objects.made, h.objects.rolled, ?_, h.objects.inserts⟩, ?_⟩
  · intro r y model hy hm
    rcases update_eq_some_iff.1 hy with ⟨-, heq⟩ | ⟨-, hold⟩
    · cases heq
      exact hmodel model hm
    · exact h.objects.hydrates r y model hold hm
  · refine h.calls.advance ⟨fun _ _ _ => id, ?_⟩ rfl rfl
    intro r y hy
    have hne : r ≠ ref := by
      rintro rfl
      rw [hnew] at hy
      cases hy
    exact ⟨y, by rw [← hy]; exact Function.update_of_ne hne .., rfl, rfl, id⟩

/-- A hydration is put into the map of those under way. -/
theorem Kept.setPending (h : s.Kept) (hpromised : s.Promised identity (.hydration ref false)) :
    (s.setPending identity (some ref)).Kept := by
  refine ⟨h.map.congr rfl rfl, h.objects.congr rfl rfl rfl, ⟨?_, ?_⟩⟩
  · intro k r hp
    rcases update_eq_some_iff.1 hp with ⟨rfl, heq⟩ | ⟨-, hold⟩
    · cases heq
      exact hpromised
    · exact h.calls.pending k r hold
  · intro r call hc
    have hkept := h.calls.calls r call hc
    exact ⟨hkept.models, hkept.awaits, hkept.finds⟩

/-- A new model, put into the map. -/
theorem Kept.insert (h : s.Kept) {model : SessionModel}
    (hunmapped : s.identityMap model.identity = none) (horphaned : ¬ s.Orphaned model.identity)
    (hnew : s.models ref = none) (hlive : model.live = true) (hrolled : model.rolledBack = false)
    (hretrieved : model.retrieved = if model.hydrated then 1 else 0)
    (hmade : model.persistence = .made → model.hydrated = false) :
    ((s.setModel ref model).setIdentity model.identity (some ref)).Kept where
  map := h.map.insert hunmapped horphaned hnew rfl hlive hrolled
  objects := (h.objects.setModel hnew hretrieved hmade hrolled).congr rfl rfl rfl
  calls := h.calls.advance ⟨fun _ _ _ => Carries.setModel hnew, fun _ y hy => ⟨y, hy, rfl, rfl, id⟩⟩
    rfl rfl

/-- A hydration is added, and put into the map of those under way. -/
theorem Kept.addHydration (h : s.Kept) (hnew : s.hydrations ref = none)
    (hmodel : ∀ model, hydration.model = some model →
      ∃ m, s.models model = some m ∧ m.hydrated = true ∧ m.identity = hydration.identity ∧
      m.live = true) (owner : Bool) :
    ((s.setHydration ref hydration).setPending hydration.identity (some ref)).Kept ∧
      ((s.setHydration ref hydration).setPending hydration.identity (some ref)).Promised
        hydration.identity (.hydration ref owner) := by
  have hpromised : ∀ owner, (s.setHydration ref hydration).Promised hydration.identity
      (.hydration ref owner) := by
    intro owner
    refine ⟨?_, ?_⟩
    · rintro model ⟨y, hy, href, -⟩
      rcases update_eq_some_iff.1 hy with ⟨-, heq⟩ | ⟨hne, -⟩
      · cases heq
        obtain ⟨m, hm, -, hidentity, hlive⟩ := hmodel model href
        exact ⟨m, hm, hidentity, hlive⟩
      · exact absurd rfl hne
    · rintro _ _ ⟨⟩
      exact ⟨hydration, Function.update_self .., rfl⟩
  have hset := h.setHydration hnew fun model href => by
    obtain ⟨m, hm, hhydrated, hidentity, -⟩ := hmodel model href
    exact ⟨m, hm, hhydrated, hidentity⟩
  exact ⟨hset.setPending (hpromised false), hpromised owner⟩

/-- **A hydration is started** for an identity that is neither in the map nor orphaned. -/
theorem Kept.startHydration (h : s.Kept) (hunmapped : s.identityMap identity = none)
    (horphaned : ¬ s.Orphaned identity) {accepted : Bool} {hydration : Ref}
    (hhydration : s.hydrations hydration = none) (hmodel : s.models model = none) :
    (s.startHydration scope identity accepted hydration model).Kept ∧
      (s.startHydration scope identity accepted hydration model).Promised identity
        (.hydration hydration true) := by
  cases accepted with
  | true =>
    have hinsert : ((s.setModel model (.ofPersisted identity)).setIdentity identity
        (some model)).Kept :=
      h.insert hunmapped horphaned hmodel rfl rfl rfl nofun
    refine hinsert.addHydration hhydration ?_ true
    rintro _ ⟨⟩
    exact ⟨_, Function.update_self .., rfl, rfl, rfl⟩
  | false => exact h.addHydration hhydration (fun _ h => by cases h) true

/-- **`hydrate`** gives what carries the identity. -/
theorem Kept.hydrate (h : s.Kept) {accepted : Bool} {hydration : Ref}
    (hanew : s.lookup scope identity = none → ¬ s.Orphaned identity)
    (hstep : s.hydrate scope identity accepted hydration model = some (t, awaited)) :
    t.Kept ∧ t.Promised identity awaited ∧ ∀ k ref, s.Carries k ref → t.Carries k ref := by
  rcases hydrate_cases hstep with ⟨hlookup, rfl⟩ | ⟨hlookup, hhydration, hmodel, rfl, rfl⟩
  · exact ⟨h, h.promised_lookup hlookup, fun _ _ => id⟩
  · have hstarted : (s.startHydration scope identity accepted hydration model).Kept ∧ _ :=
      h.startHydration (identityMap_eq_none_of_lookup hlookup) (hanew hlookup) hhydration hmodel
    refine ⟨hstarted.1, hstarted.2, ?_⟩
    intro k ref hcarries
    cases accepted with
    | true => exact hcarries.setModel hmodel
    | false => exact hcarries

/-! ### Calls -/

/-- What a call has, and the rows it has yet to hydrate, carry the identities asked for. -/
structure Gathered (s : LiveSession) (call : ReadCall) (rows : List PersistedRow) : Prop where
  models : ∀ result ∈ call.models, s.Carries result.1 result.2
  finds : ∀ identity, call.request = .find identity →
    (∀ result ∈ call.models, result.1 = identity) ∧
      ∀ row rest, rows = row :: rest → row.id = identity.id ∧ rest = []

/-- **A call goes on with its rows.** -/
theorem Kept.proceed (h : s.Kept) {call : ReadCall} {rows : List PersistedRow} {hydration : Ref}
    (hcall : s.Gathered call rows) (hanew : s.HydratesAnew call rows)
    (hstep : s.proceed ref call rows hydration model = some t) : t.Kept := by
  cases rows with
  | nil =>
    cases hstep
    refine h.setCall ref ?_
    rintro _ ⟨⟩
    exact ⟨hcall.models, fun _ _ _ => nofun,
      fun identity hfind => ⟨(hcall.finds identity hfind).1, fun _ _ _ => nofun⟩⟩
  | cons row rest =>
    obtain ⟨⟨u, awaited⟩, hhydrate, rfl⟩ := Option.map_eq_some_iff.1 hstep
    obtain ⟨hkept, hpromised, hcarries⟩ := h.hydrate (hanew row rfl) hhydrate
    refine hkept.setCall ref ?_
    rintro _ ⟨⟩
    refine ⟨fun result hresult => hcarries _ _ (hcall.models result hresult), ?_, ?_⟩
    · rintro _ _ _ ⟨⟩
      exact hpromised
    · intro identity hfind
      obtain ⟨hmodels, hrows⟩ := hcall.finds identity hfind
      refine ⟨hmodels, ?_⟩
      rintro _ _ _ ⟨⟩
      obtain ⟨hid, hrest⟩ := hrows row rest rfl
      refine ⟨?_, hrest⟩
      change call.request = _ at hfind
      rw [hfind, hid]
      rfl

theorem Kept.find (h : s.Kept) (ref : Ref) (scope : Option Ref) (identity : Identity) :
    (s.find ref scope identity).Kept := by
  unfold LiveSession.find
  dsimp only
  split
  · next model hlookup =>
      refine h.setCall ref ?_
      rintro _ ⟨⟩
      refine ⟨?_, fun _ _ _ => nofun, ?_⟩
      · intro result hresult
        rw [List.mem_singleton.1 hresult]
        exact (h.promised_lookup hlookup).1 model rfl
      · rintro _ ⟨⟩
        refine ⟨fun result hresult => ?_, fun _ _ _ => nofun⟩
        rw [List.mem_singleton.1 hresult]
  · next awaited _ hlookup =>
      refine h.setCall ref ?_
      rintro _ ⟨⟩
      refine ⟨nofun, ?_, ?_⟩
      · rintro _ _ _ ⟨⟩
        exact h.promised_lookup hlookup
      · rintro _ ⟨⟩
        refine ⟨nofun, ?_⟩
        rintro _ _ _ ⟨⟩
        exact ⟨rfl, rfl⟩
  · refine h.setCall ref ?_
    rintro _ ⟨⟩
    exact ⟨nofun, fun _ _ _ => nofun, fun _ _ => ⟨nofun, fun _ _ _ => nofun⟩⟩

/-- What an awaited hydration has come to is what it promised. -/
theorem promises_of_awaitedRef (h : s.awaitedRef awaited = some (some ref)) :
    s.Promises awaited ref := by
  cases awaited with
  | model model => exact Option.some.inj (Option.some.inj h)
  | hydration r owner =>
    rw [awaitedRef] at h
    cases hr : s.hydrations r with
    | none =>
      rw [hr] at h
      cases h
    | some hydration =>
      rw [hr] at h
      dsimp only at h
      cases hstatus : hydration.status with
      | pending =>
        rw [hstatus] at h
        cases h
      | resolved =>
        rw [hstatus] at h
        exact ⟨hydration, hr, Option.some.inj h, by rw [hstatus]; decide⟩
      | rejected =>
        rw [hstatus] at h
        cases h

theorem release_models (identity : Identity) (awaited : AwaitedModel) :
    (s.release identity awaited).models = s.models := by
  unfold release
  split
  · split_ifs <;> rfl
  · rfl

theorem Kept.resume (h : s.Kept) {hydration : Ref}
    (hanew : ∀ call awaited identity rest, s.calls ref = some call →
      call.phase = .hydrating awaited identity rest →
      (s.release identity awaited).HydratesAnew call rest)
    (hstep : s.resume ref hydration model = some t) : t.Kept := by
  obtain ⟨call, awaited, identity, rest, hcall, hphase, hnext⟩ := resume_cases hstep
  have hreleased := h.release identity awaited
  rcases hnext with rfl | ⟨found, hfound, hnext⟩
  · exact hreleased.setCall ref (fun _ h => by cases h)
  · have hkept := h.calls.calls ref call hcall
    have hcarries := (hkept.awaits awaited identity rest hphase).1 found
      (promises_of_awaitedRef hfound)
    have hmodels : ∀ result ∈ call.models ++ [(identity, found)],
        s.Carries result.1 result.2 := by
      intro result hresult
      rcases List.mem_append.1 hresult with hresult | hresult
      · exact hkept.models result hresult
      · rw [List.mem_singleton.1 hresult]
        exact hcarries
    refine hreleased.proceed ⟨?_, ?_⟩ ?_ hnext
    · simp only [Carries, release_models]
      exact hmodels
    · intro k hfind
      obtain ⟨hold, hawaits⟩ := hkept.finds k hfind
      obtain ⟨hidentity, hrest⟩ := hawaits awaited identity rest hphase
      refine ⟨?_, ?_⟩
      · intro result hresult
        rcases List.mem_append.1 hresult with hresult | hresult
        · exact hold result hresult
        · rw [List.mem_singleton.1 hresult]
          exact hidentity
      · rw [hrest]
        exact fun _ _ => nofun
    · exact hanew call awaited identity rest hcall hphase

/-! ### Models that change -/

variable {m : SessionModel}

/-- A model that keeps its identity, and stays deleted or not, carries what it did. -/
theorem carries_setModel_iff {m' : SessionModel} (hm : s.models ref = some m)
    (hidentity : m'.identity = m.identity) (hlive : m'.live = m.live) {other : Ref} :
    (s.setModel ref m').Carries identity other ↔ s.Carries identity other := by
  constructor
  · rintro ⟨x, hx, hsame, hxlive⟩
    rcases update_eq_some_iff.1 hx with ⟨rfl, heq⟩ | ⟨-, hold⟩
    · cases heq
      exact ⟨m, hm, hidentity ▸ hsame, hlive ▸ hxlive⟩
    · exact ⟨x, hold, hsame, hxlive⟩
  · rintro ⟨x, hx, hsame, hxlive⟩
    by_cases hother : other = ref
    · subst hother
      cases hm.symm.trans hx
      exact ⟨m', Function.update_self .., hidentity.trans hsame, hlive.trans hxlive⟩
    · exact ⟨x, by rw [← hx]; exact Function.update_of_ne hother .., hsame, hxlive⟩

theorem ObjectsKept.modify (h : s.ObjectsKept) {m' : SessionModel} (hm : s.models ref = some m)
    (hhydrated : m'.hydrated = m.hydrated) (hretrieved : m'.retrieved = m.retrieved)
    (hidentity : m.hydrated = true → m'.identity = m.identity)
    (hmade : m'.persistence = .made → m.hydrated = false)
    (hrolled : m'.rolledBack = true → m.hydrated = true) : (s.setModel ref m').ObjectsKept := by
  have hnext : ∀ r x, s.models r = some x → ∃ y, (s.setModel ref m').models r = some y ∧
      y.hydrated = x.hydrated ∧ (x.hydrated = true → y.identity = x.identity) := by
    intro r x hx
    by_cases hr : r = ref
    · subst hr
      cases hm.symm.trans hx
      exact ⟨m', Function.update_self .., hhydrated, hidentity⟩
    · exact ⟨x, by rw [← hx]; exact Function.update_of_ne hr .., rfl, fun _ => rfl⟩
  refine ⟨?_, ?_, ?_, ?_, ?_⟩
  · intro r x hx
    rcases update_eq_some_iff.1 hx with ⟨-, heq⟩ | ⟨-, hold⟩
    · cases heq
      rw [hretrieved, hhydrated]
      exact h.dispatched ref m hm
    · exact h.dispatched r x hold
  · intro r x hx hpersistence
    rcases update_eq_some_iff.1 hx with ⟨-, heq⟩ | ⟨-, hold⟩
    · cases heq
      rw [hhydrated]
      exact hmade hpersistence
    · exact h.made r x hold hpersistence
  · intro r x hx hxrolled
    rcases update_eq_some_iff.1 hx with ⟨-, heq⟩ | ⟨-, hold⟩
    · cases heq
      rw [hhydrated]
      exact hrolled hxrolled
    · exact h.rolled r x hold hxrolled
  · intro r hydration model hr hmodel
    obtain ⟨x, hx, hxhydrated, hxidentity⟩ := h.hydrates r hydration model hr hmodel
    obtain ⟨y, hy, hyhydrated, hyidentity⟩ := hnext model x hx
    exact ⟨y, hy, hyhydrated.trans hxhydrated, (hyidentity hxhydrated).trans hxidentity⟩
  · intro w model identity hw
    obtain ⟨x, hx, hxhydrated⟩ := h.inserts w model identity hw
    obtain ⟨y, hy, hyhydrated, -⟩ := hnext model x hx
    exact ⟨y, hy, hyhydrated.trans hxhydrated⟩

/-- A pending hydration is settled. -/
theorem Kept.settle (h : s.Kept) (hh : s.hydrations ref = some hydration) (status : HydrationStatus)
    (hpending : hydration.status = .pending) :
    (s.setHydration ref { hydration with status := status }).Kept := by
  refine ⟨h.map.congr rfl rfl,
    ⟨h.objects.dispatched, h.objects.made, h.objects.rolled, ?_, h.objects.inserts⟩, ?_⟩
  · intro r y model hy hmodel
    rcases update_eq_some_iff.1 hy with ⟨-, heq⟩ | ⟨-, hold⟩
    · cases heq
      exact h.objects.hydrates ref hydration model hh hmodel
    · exact h.objects.hydrates r y model hold hmodel
  · refine h.calls.advance ⟨fun _ _ _ => id, ?_⟩ rfl rfl
    intro r y hy
    by_cases hr : r = ref
    · subst hr
      cases hh.symm.trans hy
      refine ⟨_, Function.update_self .., rfl, rfl, ?_⟩
      rw [hpending]
      exact nofun
    · exact ⟨y, by rw [← hy]; exact Function.update_of_ne hr .., rfl, rfl, id⟩

/-- **A model is rolled back**, and taken out of the map, if it is there. -/
theorem MapKept.rollBack (h : s.MapKept) (hm : s.models ref = some m)
    (hmodels : t.models = (s.setModel ref { m with rolledBack := true }).models)
    (hmap : t.identityMap = if s.identityMap m.identity = some ref then
      Function.update s.identityMap m.identity none else s.identityMap) : t.MapKept := by
  have hcarries : ∀ k r, t.Carries k r ↔ s.Carries k r := by
    intro k r
    have hsame : (s.setModel ref { m with rolledBack := true }).Carries k r ↔ s.Carries k r := by
      refine carries_setModel_iff hm ?_ ?_
      · rfl
      · rfl
    rw [← hsame]
    simp only [Carries, hmodels]
  have hentry : ∀ k r, t.identityMap k = some r → s.identityMap k = some r ∧ r ≠ ref := by
    intro k r hk
    have hold : s.identityMap k = some r ∧ (s.identityMap m.identity = some ref →
        k ≠ m.identity) := by
      rw [hmap] at hk
      split_ifs at hk with hsame
      · rcases update_eq_some_iff.1 hk with ⟨-, heq⟩ | ⟨hne, hk⟩
        · cases heq
        · exact ⟨hk, fun _ => hne⟩
      · exact ⟨hk, fun h => absurd h hsame⟩
    refine ⟨hold.1, ?_⟩
    rintro rfl
    obtain ⟨x, hx, hidentity, -⟩ := h.mapped k r hold.1
    cases hm.symm.trans hx
    exact hold.2 (by rw [hidentity]; exact hold.1) hidentity.symm
  refine ⟨?_, ?_, ?_⟩
  · intro k r hk
    obtain ⟨hold, hne⟩ := hentry k r hk
    obtain ⟨x, hx, hrest⟩ := h.mapped k r hold
    refine ⟨x, ?_, hrest⟩
    rw [hmodels, ← hx]
    exact Function.update_of_ne hne ..
  · intro r x hx hlive hrolled
    rw [hmodels] at hx
    rcases update_eq_some_iff.1 hx with ⟨-, heq⟩ | ⟨hne, hold⟩
    · cases heq
      cases hrolled
    · have hfound := h.found r x hold hlive hrolled
      rw [hmap]
      split_ifs with hsame
      · have hidentity : x.identity ≠ m.identity := by
          intro hidentity
          rw [hidentity, hsame] at hfound
          exact hne (Option.some.inj hfound).symm
        rw [← hfound]
        exact Function.update_of_ne hidentity ..
      · exact hfound
  · intro r x hx hlive _ other hother
    exact h.singleValued _ _ _ ((hcarries _ _).1 hother) ((hcarries _ _).1 ⟨x, hx, rfl, hlive⟩)

/-- **The observers of a hydration are done.** -/
theorem Kept.settleHydration (h : s.Kept) (hh : s.hydrations ref = some hydration)
    (hmodel : hydration.model = some model) (hpending : hydration.status = .pending)
    (succeeded : Bool) : (s.settleHydration ref hydration model succeeded).Kept := by
  cases succeeded with
  | true => exact h.settle hh .resolved hpending
  | false =>
    obtain ⟨m, hm, hhydrated, hidentity⟩ := h.objects.hydrates ref hydration model hh hmodel
    have hmodify : (s.setModel model { m with rolledBack := true }).ObjectsKept :=
      h.objects.modify hm rfl rfl (fun _ => rfl) (h.objects.made model m hm) fun _ => hhydrated
    have hcarries : ∀ k r, s.Carries k r →
        (s.setModel model { m with rolledBack := true }).Carries k r := by
      intro k r hr
      refine (carries_setModel_iff hm ?_ ?_).2 hr
      · rfl
      · rfl
    have hcalls : (s.setModel model { m with rolledBack := true }).CallsKept :=
      h.calls.advance ⟨fun k r _ => hcarries k r, fun _ y hy => ⟨y, hy, rfl, rfl, id⟩⟩ rfl rfl
    unfold LiveSession.settleHydration
    dsimp only
    rw [if_neg (by decide), hm]
    split_ifs with hentry
    · have hrolled : ((s.setModel model { m with rolledBack := true }).setIdentity
          hydration.identity none).Kept :=
        ⟨h.map.rollBack hm rfl (by rw [hidentity, if_pos hentry]; rfl),
          hmodify.congr rfl rfl rfl,
          ⟨hcalls.pending, fun r c hc => ⟨(hcalls.calls r c hc).models,
            (hcalls.calls r c hc).awaits, (hcalls.calls r c hc).finds⟩⟩⟩
      exact hrolled.settle hh .rejected hpending
    · have hrolled : (s.setModel model { m with rolledBack := true }).Kept :=
        ⟨h.map.rollBack hm rfl (by rw [hidentity, if_neg hentry]; rfl), hmodify, hcalls⟩
      exact hrolled.settle hh .rejected hpending

theorem Kept.make (h : s.Kept) (horphaned : ¬ s.Orphaned identity)
    (hstep : s.make ref identity = some t) : t.Kept := by
  rw [LiveSession.make] at hstep
  split_ifs at hstep with hnew hunmapped
  · cases hstep
    have hinsert : ((s.setModel ref (.ofMake identity)).setIdentity identity
        (some ref)).Kept :=
      h.insert hunmapped horphaned (Option.isNone_iff_eq_none.1 hnew) rfl rfl rfl fun _ => rfl
    exact hinsert
  · cases hstep
    exact h

/-- Two models that are not deleted have different identities. -/
theorem MapKept.identity_ne (h : s.MapKept) (hm : s.models ref = some m) (hlive : m.live = true)
    {other : Ref} {x : SessionModel} (hx : s.models other = some x) (hxlive : x.live = true)
    (hne : other ≠ ref) : x.identity ≠ m.identity := by
  intro hidentity
  exact hne (h.singleValued m.identity other ref ⟨x, hx, hidentity, hxlive⟩ ⟨m, hm, rfl, hlive⟩)

/-- A model that keeps its identity, and stays deleted or not and rolled back or not. -/
theorem MapKept.modify (h : s.MapKept) {m' : SessionModel} (hm : s.models ref = some m)
    (hidentity : m'.identity = m.identity) (hlive : m'.live = m.live)
    (hrolled : m'.rolledBack = m.rolledBack) : (s.setModel ref m').MapKept := by
  have hback : ∀ r x, (s.setModel ref m').models r = some x → ∃ y, s.models r = some y ∧
      x.identity = y.identity ∧ x.live = y.live ∧ x.rolledBack = y.rolledBack := by
    intro r x hx
    rcases update_eq_some_iff.1 hx with ⟨rfl, heq⟩ | ⟨-, hold⟩
    · cases heq
      exact ⟨m, hm, hidentity, hlive, hrolled⟩
    · exact ⟨x, hold, rfl, rfl, rfl⟩
  refine ⟨?_, ?_, ?_⟩
  · intro k r hk
    obtain ⟨x, hx, hxidentity, hxlive, hxrolled⟩ := h.mapped k r hk
    by_cases hr : r = ref
    · subst hr
      cases hm.symm.trans hx
      exact ⟨m', Function.update_self .., hidentity.trans hxidentity, hlive.trans hxlive,
        hrolled.trans hxrolled⟩
    · exact ⟨x, by rw [← hx]; exact Function.update_of_ne hr .., hxidentity, hxlive, hxrolled⟩
  · intro r x hx hxlive hxrolled
    obtain ⟨y, hy, hi, hl, hr⟩ := hback r x hx
    rw [hi]
    exact h.found r y hy (hl ▸ hxlive) (hr ▸ hxrolled)
  · intro r x hx hxlive hxrolled other hother
    obtain ⟨y, hy, hi, hl, hr⟩ := hback r x hx
    rw [carries_setModel_iff hm hidentity hlive, hi] at hother
    exact h.alone r y hy (hl ▸ hxlive) (hr ▸ hxrolled) other hother

/-- Another identity for a model, which takes its place in the map. -/
theorem MapKept.rekey (h : s.MapKept) (hm : s.models ref = some m) (hlive : m.live = true)
    (hrolled : m.rolledBack = false) (hunmapped : s.identityMap identity = none)
    (horphaned : ¬ s.Orphaned identity) :
    (((s.setModel ref { m with identity := identity }).setIdentity m.identity none).setIdentity
      identity (some ref)).MapKept := by
  refine ⟨?_, ?_, ?_⟩
  · intro k r hk
    rcases update_eq_some_iff.1 hk with ⟨rfl, heq⟩ | ⟨-, hk⟩
    · cases heq
      exact ⟨_, Function.update_self .., rfl, hlive, hrolled⟩
    · rcases update_eq_some_iff.1 hk with ⟨-, heq⟩ | ⟨hne, hold⟩
      · cases heq
      · obtain ⟨x, hx, hidentity, hrest⟩ := h.mapped k r hold
        have hr : r ≠ ref := by
          rintro rfl
          cases hm.symm.trans hx
          exact hne hidentity.symm
        exact ⟨x, by rw [← hx]; exact Function.update_of_ne hr .., hidentity, hrest⟩
  · intro r x hx hxlive hxrolled
    rcases update_eq_some_iff.1 hx with ⟨rfl, heq⟩ | ⟨hne, hold⟩
    · cases heq
      exact Function.update_self ..
    · have hfound := h.found r x hold hxlive hxrolled
      have hnew : x.identity ≠ identity := by
        rintro rfl
        rw [hunmapped] at hfound
        cases hfound
      have hother := h.identity_ne hm hlive hold hxlive hne
      rw [← hfound]
      exact (Function.update_of_ne hnew ..).trans (Function.update_of_ne hother ..)
  · intro r x hx hxlive hxrolled other hother
    rcases update_eq_some_iff.1 hx with ⟨rfl, heq⟩ | ⟨-, hold⟩
    · cases heq
      cases hrolled.symm.trans hxrolled
    · obtain ⟨y, hy, hsame, hylive⟩ := hother
      rcases update_eq_some_iff.1 hy with ⟨rfl, heq⟩ | ⟨-, hold'⟩
      · cases heq
        exact absurd ⟨r, x, hold, hsame.symm, hxlive, hxrolled⟩ horphaned
      · exact h.alone r x hold hxlive hxrolled other ⟨y, hold', hsame, hylive⟩

/-- A deleted model leaves the map. -/
theorem MapKept.delete (h : s.MapKept) (hm : s.models ref = some m) (hlive : m.live = true) :
    ((s.setModel ref { m with persistence := .deleted }).setIdentity m.identity none).MapKept := by
  have hcarries : ∀ k r, ((s.setModel ref { m with persistence := .deleted }
      ).setIdentity m.identity none).Carries k r → s.Carries k r := by
    rintro k r ⟨x, hx, hsame, hxlive⟩
    rcases update_eq_some_iff.1 hx with ⟨-, heq⟩ | ⟨-, hold⟩
    · cases heq
      cases hxlive
    · exact ⟨x, hold, hsame, hxlive⟩
  refine ⟨?_, ?_, ?_⟩
  · intro k r hk
    rcases update_eq_some_iff.1 hk with ⟨-, heq⟩ | ⟨hne, hold⟩
    · cases heq
    · obtain ⟨x, hx, hidentity, hrest⟩ := h.mapped k r hold
      have hr : r ≠ ref := by
        rintro rfl
        cases hm.symm.trans hx
        exact hne hidentity.symm
      exact ⟨x, by rw [← hx]; exact Function.update_of_ne hr .., hidentity, hrest⟩
  · intro r x hx hxlive hxrolled
    rcases update_eq_some_iff.1 hx with ⟨-, heq⟩ | ⟨hne, hold⟩
    · cases heq
      cases hxlive
    · rw [← h.found r x hold hxlive hxrolled]
      exact Function.update_of_ne (h.identity_ne hm hlive hold hxlive hne) ..
  · intro r x hx hxlive _ other hother
    exact h.singleValued _ _ _ (hcarries _ _ hother) (hcarries _ _ ⟨x, hx, rfl, hxlive⟩)

/-- What is not held may change without a call noticing. -/
theorem carries_setModel_of_holds {other : Ref} (hfree : ¬ s.Holds ref) (hholds : s.Holds other)
    (h : s.Carries identity other) : (s.setModel ref m).Carries identity other := by
  obtain ⟨x, hx, hrest⟩ := h
  have hne : other ≠ ref := by
    rintro rfl
    exact hfree hholds
  exact ⟨x, by rw [← hx]; exact Function.update_of_ne hne .., hrest⟩

theorem Kept.save (h : s.Kept) (hstep : s.save ref model = some t) : t.Kept := by
  obtain ⟨m, hm, rfl⟩ := Option.map_eq_some_iff.1 hstep
  refine h.setWrite ref ?_
  intro r identity hwrite
  obtain ⟨rfl, -, hmade⟩ := ModelWrite.saving.inj (Option.some.inj hwrite)
  exact ⟨m, hm, h.objects.made model m hm (of_decide_eq_true hmade)⟩

theorem Kept.saveAnswered (h : s.Kept) {id : Option String}
    (hguard : s.Undisturbed (.saveAnswered ref id)) (hstep : s.saveAnswered ref id = some t) :
    t.Kept := by
  unfold LiveSession.saveAnswered at hstep
  split at hstep
  · next model pendingIdentity inserting hwrite =>
      have hstored : (s.setWrite ref (some (.storing model))).Kept := h.setWrite ref nofun
      cases id with
      | none =>
        cases hstep
        exact hstored
      | some id =>
        dsimp only at hstep
        split_ifs at hstep with hinserting hsame
        · cases hstep
          exact hstored
        · subst hinserting
          obtain ⟨m, hm, rfl⟩ := Option.map_eq_some_iff.1 hstep
          obtain ⟨⟨x, hx, rfl, hlive⟩, hfree, hunmapped, horphaned⟩ :=
            hguard model pendingIdentity hwrite hsame
          cases hm.symm.trans hx
          obtain ⟨x, hx, hmade⟩ := h.objects.inserts ref model m.identity hwrite
          cases hm.symm.trans hx
          have hrolled : m.rolledBack = false := by
            by_contra hrolled
            rw [h.objects.rolled model m hm (by simpa using hrolled)] at hmade
            cases hmade
          have hobjects : (s.setModel model
              { m with identity := ⟨m.identity.entityType, id⟩ }).ObjectsKept :=
            h.objects.modify hm rfl rfl (fun hhydrated => by cases hmade.symm.trans hhydrated)
              (h.objects.made model m hm) (h.objects.rolled model m hm)
          have hkept : (((s.setModel model { m with identity := ⟨m.identity.entityType, id⟩
              }).setIdentity m.identity none).setIdentity ⟨m.identity.entityType, id⟩
                (some model)).Kept :=
            ⟨h.map.rekey hm hlive hrolled hunmapped horphaned, hobjects.congr rfl rfl rfl,
              h.calls.advance ⟨fun _ _ hholds hcarries =>
                carries_setModel_of_holds hfree hholds hcarries,
                  fun _ y hy => ⟨y, hy, rfl, rfl, fun h => h⟩⟩ rfl rfl⟩
          exact hkept.setWrite ref nofun
  · cases hstep

theorem Kept.saved (h : s.Kept) (hguard : s.Undisturbed (.saved ref))
    (hstep : s.saved ref = some t) : t.Kept := by
  unfold LiveSession.saved at hstep
  split at hstep
  · next model hwrite =>
      obtain ⟨m, hm, rfl⟩ := Option.map_eq_some_iff.1 hstep
      obtain ⟨k, x, hx, -, hlive⟩ := hguard model hwrite
      cases hm.symm.trans hx
      have hobjects : (s.setModel model { m with persistence := .stored
          }).ObjectsKept :=
        h.objects.modify hm rfl rfl (fun _ => rfl) nofun (h.objects.rolled model m hm)
      have hcarries : ∀ k r, s.Carries k r → (s.setModel model
          { m with persistence := .stored }).Carries k r := by
        intro k r hr
        refine (carries_setModel_iff hm ?_ ?_).2 hr
        · rfl
        · exact hlive.symm
      have hkept : (s.setModel model { m with persistence := .stored }).Kept :=
        ⟨h.map.modify hm rfl hlive.symm rfl, hobjects,
          h.calls.advance ⟨fun k r _ => hcarries k r, fun _ y hy => ⟨y, hy, rfl, rfl, id⟩⟩ rfl rfl⟩
      exact hkept.setWrite ref nofun
  · cases hstep

theorem Kept.deleted (h : s.Kept) (hguard : s.Undisturbed (.deleted ref))
    (hstep : s.deleted ref = some t) : t.Kept := by
  unfold LiveSession.deleted at hstep
  split at hstep
  · next model hwrite =>
      obtain ⟨m, hm, rfl⟩ := Option.map_eq_some_iff.1 hstep
      obtain ⟨⟨k, x, hx, -, hlive⟩, hfree⟩ := hguard model hwrite
      cases hm.symm.trans hx
      have hobjects : (s.setModel model { m with persistence := .deleted
          }).ObjectsKept :=
        h.objects.modify hm rfl rfl (fun _ => rfl) nofun (h.objects.rolled model m hm)
      have hkept : ((s.setModel model { m with persistence := .deleted
          }).setIdentity m.identity none).Kept :=
        ⟨h.map.delete hm hlive, hobjects.congr rfl rfl rfl,
          h.calls.advance
            ⟨fun _ _ hholds hcarries => carries_setModel_of_holds hfree hholds hcarries,
              fun _ y hy => ⟨y, hy, rfl, rfl, id⟩⟩ rfl rfl⟩
      exact hkept.setWrite ref nofun
  · cases hstep

/-! ### The result -/

/-- **A step keeps the invariant**, if it meets the condition. -/
theorem Kept.step (h : s.Kept) {label : ModelSessionLabel} (hguard : s.Undisturbed label)
    (hstep : s.step label = some t) : t.Kept := by
  cases label with
  | find call scope identity =>
    rw [LiveSession.step] at hstep
    split_ifs at hstep
    cases hstep
    exact h.find call scope identity
  | query call scope entityType =>
    rw [LiveSession.step] at hstep
    split_ifs at hstep
    cases hstep
    refine h.setCall call ?_
    rintro _ ⟨⟩
    exact ⟨nofun, fun _ _ _ => nofun, fun _ => nofun⟩
  | read ref rows hydration model =>
    obtain ⟨call, hcall, hstep⟩ := Option.bind_eq_some_iff.1 hstep
    split_ifs at hstep with hreading
    have hkept := h.calls.calls ref call hcall
    refine h.proceed ⟨hkept.models, ?_⟩ (hguard call hcall) hstep
    intro identity hfind
    refine ⟨(hkept.finds identity hfind).1, ?_⟩
    rintro row rest rfl
    have hanswers := hreading.2
    rw [hfind] at hanswers
    simp only [answers, List.length_cons, List.all_cons, Bool.and_eq_true, decide_eq_true_eq]
      at hanswers
    exact ⟨hanswers.2.1, List.length_eq_zero_iff.1 (by omega)⟩
  | resume call hydration model => exact h.resume hguard hstep
  | settle ref =>
    obtain ⟨call, -, hstep⟩ := Option.bind_eq_some_iff.1 hstep
    split_ifs at hstep
    cases hstep
    exact h.setCall ref (fun _ h => by cases h)
  | fail ref =>
    obtain ⟨call, -, hstep⟩ := Option.bind_eq_some_iff.1 hstep
    split_ifs at hstep
    cases hstep
    exact h.setCall ref (fun _ h => by cases h)
  | retrieved ref succeeded =>
    obtain ⟨hydration, hh, hstep⟩ := Option.bind_eq_some_iff.1 hstep
    split_ifs at hstep with hpending
    obtain ⟨model, hmodel, rfl⟩ := Option.map_eq_some_iff.1 hstep
    exact h.settleHydration hh hmodel hpending succeeded
  | make model identity => exact h.make hguard hstep
  | save write model =>
    rw [LiveSession.step] at hstep
    split_ifs at hstep
    exact h.save hstep
  | saveAnswered write id => exact h.saveAnswered hguard hstep
  | saved write => exact h.saved hguard hstep
  | delete write model =>
    rw [LiveSession.step] at hstep
    split_ifs at hstep
    obtain ⟨m, -, hstep⟩ := Option.bind_eq_some_iff.1 hstep
    split_ifs at hstep
    cases hstep
    exact h.setWrite write nofun
  | deleted write => exact h.deleted hguard hstep
  | failWrite write =>
    cases hstep
    exact h.setWrite write nofun

/-- What a call is to return are the models of the identities it read. -/
def ReturnsTheModels (s : LiveSession) : Prop :=
  ∀ ref call, s.calls ref = some call → ∀ result ∈ call.models,
    s.IsTheModel result.1 result.2 ∧
      ∀ identity, call.request = .find identity → result.1 = identity

/-- `retrieved` is dispatched once for each model that was created from persisted state, and never
for others. -/
def RetrievedOnce (s : LiveSession) : Prop :=
  ∀ ref model, s.models ref = some model → model.retrieved = if model.hydrated then 1 else 0

end LiveSession

/-- **The identity map is single-valued** in every run whose steps are undisturbed: the models of
one identity that are attached and not deleted are one, calls of `find` and `query` return it, and
`retrieved` is dispatched once for each that comes from the store. -/
theorem identity_map_single_valued {labels : List ModelSessionLabel} {s : LiveSession}
    (h : Transition.Run step Undisturbed .fresh labels s) :
    s.SingleValued ∧ s.ReturnsTheModels ∧ s.RetrievedOnce := by
  have hkept : s.Kept :=
    h.invariant (fun _ _ _ hkept hguard hstep => hkept.step hguard hstep) kept_fresh
  refine ⟨hkept.map.singleValued, ?_, hkept.objects.dispatched⟩
  intro ref call hcall result hresult
  have hcallKept := hkept.calls.calls ref call hcall
  have hcarries := hcallKept.models result hresult
  refine ⟨⟨hcarries, ?_⟩, fun identity hfind => (hcallKept.finds identity hfind).1 result hresult⟩
  intro other hother
  exact hkept.map.singleValued result.1 other result.2 hother hcarries

/-- An article in the store. -/
def storedArticleIdentity : Identity := ⟨"model:blog/article", "1"⟩

/-- An article is found. -/
def findingArticle : List ModelSessionLabel :=
  [.find 0 none storedArticleIdentity, .read 0 [⟨"1", true⟩] 0 0,
    .retrieved 0 true, .resume 0 1 1]

theorem identity_map_single_valued_article :
    ∃ s, Transition.Run step Undisturbed .fresh findingArticle
        s ∧ s.SingleValued ∧ s.ReturnsTheModels ∧ s.RetrievedOnce := by
  have hrun : ∃ s, Transition.Run step Undisturbed .fresh
      findingArticle s := by
    refine ⟨_, .cons trivial rfl (.cons ?_ rfl
      (.cons trivial rfl (.cons ?_ rfl (.nil _))))⟩
    · rintro call - row - - ⟨ref, model, hmodel, -⟩
      cases hmodel
    · rintro call awaited identity rest hcall hphase row hrow
      cases hcall
      obtain ⟨-, -, rfl⟩ := CallPhase.hydrating.inj hphase
      cases hrow
  obtain ⟨s, hs⟩ := hrun
  exact ⟨s, hs, identity_map_single_valued hs⟩

/-- The observers of an article fail, and it is found once more. -/
def findingArticleAgain : List ModelSessionLabel :=
  [.find 0 none storedArticleIdentity, .read 0 [⟨"1", true⟩] 0 0,
    .retrieved 0 false, .resume 0 1 1,
    .find 0 none storedArticleIdentity, .read 0 [⟨"1", true⟩] 1 1,
    .retrieved 1 true, .resume 0 2 2]

/-- There are two models of the article then: the one its observers were given stays attached. -/
theorem article_attached_twice :
    ∃ s, Transition.run step .fresh findingArticleAgain = some s ∧
      ¬ s.SingleValued := by
  refine ⟨_, rfl, fun h => ?_⟩
  have hsame := h storedArticleIdentity 0 1 ⟨_, rfl, rfl, rfl⟩ ⟨_, rfl, rfl, rfl⟩
  cases hsame

end Doxa
