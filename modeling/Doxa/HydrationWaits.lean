/-
**Hydrations that wait for each other.**

An observer of a hydration may ask for other models, and then waits for their hydrations, if they
are under way.  It is given the models of its own scope without waiting; a model that another chain
of hydrations has under way it waits for, also when that chain waits for it.

Main definitions:

* `Doxa.LiveSession.WaitsFor` — a call in the scope of one hydration awaits the other;
* `Doxa.LiveSession.Deadlocked` — some hydrations each wait for another of them;
* `Doxa.LiveSession.ClosesNoCycle` — the condition on a step.

Main results:

* `Doxa.LiveSession.Waits.step` — **a step keeps the relation free of cycles**;
* `Doxa.hydration_never_deadlocks` — **no hydrations deadlock** as long as no call closes a cycle.
-/

import Doxa.Lib.Acyclic
import Doxa.ModelHydration

set_option relaxedAutoImplicit false
set_option autoImplicit false

namespace Doxa

open LiveSession

open Relation

namespace LiveSession

/-! ### Waiting -/

/-- A hydration under way. -/
def IsPending (s : LiveSession) (h : Ref) : Prop :=
  ∃ hydration, s.hydrations h = some hydration ∧ hydration.status = .pending

/-- A hydration waits for another: a call in its scope awaits it. -/
def WaitsFor (s : LiveSession) (h other : Ref) : Prop :=
  s.IsPending h ∧ s.IsPending other ∧
    ∃ ref call owner identity rest, s.calls ref = some call ∧ call.scope = some h ∧
      call.phase = .hydrating (.hydration other owner) identity rest

/-- **Some hydrations each wait for another of them.** -/
def Deadlocked (s : LiveSession) : Prop :=
  ∃ waiting : Finset Ref, waiting.Nonempty ∧ ∀ h ∈ waiting, ∃ other ∈ waiting, s.WaitsFor h other

/-- A call does not come to await a hydration that leads, by what it waits for, to the one in whose
scope the call is. -/
def ClosesNone (s : LiveSession) (scope : Option Ref) (awaited : Option AwaitedModel) : Prop :=
  ∀ h other owner, scope = some h → awaited = some (.hydration other owner) →
    s.IsPending h → ¬ ReflTransGen s.WaitsFor other h

/-- What a call looks for when it goes on with its rows. -/
def nextLookup (s : LiveSession) (call : ReadCall) (rows : List PersistedRow) :
    Option AwaitedModel :=
  rows.head?.bind fun row => s.lookup call.scope ⟨call.request.entityType, row.id⟩

/-- **The condition on a step**: a call in the scope of a hydration does not come to await one that
itself waits for it, directly or through others. -/
def ClosesNoCycle (s : LiveSession) : ModelSessionLabel → Prop
  | .find _ scope identity => s.ClosesNone scope (s.lookup scope identity)
  | .read ref rows _ _ =>
    ∀ call, s.calls ref = some call → s.ClosesNone call.scope (s.nextLookup call rows)
  | .resume ref _ _ =>
    ∀ call awaited identity rest, s.calls ref = some call →
      call.phase = .hydrating awaited identity rest →
        s.ClosesNone call.scope ((s.release identity awaited).nextLookup call rest)
  | _ => True

/-- Scopes, awaited hydrations and those of the map are hydrations that were started. -/
structure Started (s : LiveSession) : Prop where
  scopes : ∀ ref call h, s.calls ref = some call → call.scope = some h →
    (s.hydrations h).isSome = true
  awaits : ∀ ref call h owner identity rest, s.calls ref = some call →
    call.phase = .hydrating (.hydration h owner) identity rest →
      (s.hydrations h).isSome = true
  pending : ∀ identity h, s.pending identity = some h → (s.hydrations h).isSome = true

/-- **The invariant**: no hydration leads to itself by what it waits for. -/
structure Waits (s : LiveSession) : Prop where
  acyclic : Acyclic s.WaitsFor
  started : s.Started

variable {s t : LiveSession}

theorem Waits.not_deadlocked (h : s.Waits) : ¬ s.Deadlocked := by
  rintro ⟨waiting, hnonempty, hwaits⟩
  obtain ⟨x, hx, hsink⟩ := h.acyclic.exists_sink hnonempty
  obtain ⟨y, hy, hxy⟩ := hwaits x hx
  exact hsink y hy hxy

/-! ### Calls -/

variable {scope : Option Ref} {identity : Identity} {ref hydration : Ref}

/-- A call that comes to await nothing that leads back to its scope. -/
theorem Waits.setCall (h : s.Waits) (ref : Ref) {call : ReadCall}
    (hscope : ∀ x, call.scope = some x → (s.hydrations x).isSome = true)
    (hawaits : ∀ y owner identity rest,
      call.phase = .hydrating (.hydration y owner) identity rest →
        (s.hydrations y).isSome = true ∧
          ∀ x, call.scope = some x → s.IsPending x → ¬ ReflTransGen s.WaitsFor y x) :
    (s.setCall ref (some call)).Waits := by
  have hself : ∀ r c, (s.setCall ref (some call)).calls r = some c →
      c = call ∨ s.calls r = some c := by
    intro r c hc
    rcases update_eq_some_iff.1 hc with ⟨-, hnew⟩ | ⟨-, hold⟩
    · exact .inl (Option.some.inj hnew).symm
    · exact .inr hold
  have hold : ∀ x y, (s.setCall ref (some call)).WaitsFor x y → s.WaitsFor x y ∨
      s.IsPending x ∧ call.scope = some x ∧ ∃ owner identity rest,
        call.phase = .hydrating (.hydration y owner) identity rest := by
    rintro x y ⟨hx, hy, r, c, owner, identity, rest, hc, hcscope, hphase⟩
    rcases hself r c hc with rfl | hc
    · exact .inr ⟨hx, hcscope, owner, identity, rest, hphase⟩
    · exact .inl ⟨hx, hy, r, c, owner, identity, rest, hc, hcscope, hphase⟩
  refine ⟨?_, ?_, ?_, h.started.pending⟩
  · by_cases hnew : ∃ x y owner identity rest, s.IsPending x ∧ call.scope = some x ∧
        call.phase = .hydrating (.hydration y owner) identity rest
    · obtain ⟨x, y, owner, identity, rest, hx, hcscope, hphase⟩ := hnew
      refine h.acyclic.insert ((hawaits y owner identity rest hphase).2 x hcscope hx) ?_
      intro a b hab
      rcases hold a b hab with hab | ⟨-, ha, owner', identity', rest', hb⟩
      · exact .inl hab
      · rw [hcscope] at ha
        rw [hphase] at hb
        obtain ⟨hb, -, -⟩ := CallPhase.hydrating.inj hb
        exact .inr ⟨(Option.some.inj ha).symm, (AwaitedModel.hydration.inj hb).1.symm⟩
    · refine h.acyclic.mono fun a b hab => ?_
      rcases hold a b hab with hab | ⟨ha, hcscope, owner, identity, rest, hphase⟩
      · exact hab
      · exact absurd ⟨a, b, owner, identity, rest, ha, hcscope, hphase⟩ hnew
  · intro r c x hc hx
    rcases hself r c hc with rfl | hc
    · exact hscope x hx
    · exact h.started.scopes r c x hc hx
  · intro r c y owner identity rest hc hphase
    rcases hself r c hc with rfl | hc
    · exact (hawaits y owner identity rest hphase).1
    · exact h.started.awaits r c y owner identity rest hc hphase

/-- Fewer calls, fewer entries of the map and hydrations that are settled: none waits anew. -/
theorem Waits.of_le (h : s.Waits)
    (hcalls : ∀ r c, t.calls r = some c → s.calls r = some c)
    (hpending : ∀ k r, t.pending k = some r → s.pending k = some r)
    (hsome : ∀ r, (s.hydrations r).isSome = true → (t.hydrations r).isSome = true)
    (hback : ∀ r, t.IsPending r → s.IsPending r) : t.Waits := by
  refine ⟨h.acyclic.mono ?_, ?_, ?_, ?_⟩
  · rintro x y ⟨hx, hy, r, c, owner, identity, rest, hc, hrest⟩
    exact ⟨hback x hx, hback y hy, r, c, owner, identity, rest, hcalls r c hc, hrest⟩
  · exact fun r c x hc hx => hsome x (h.started.scopes r c x (hcalls r c hc) hx)
  · exact fun r c y owner identity rest hc hphase =>
      hsome y (h.started.awaits r c y owner identity rest (hcalls r c hc) hphase)
  · exact fun k r hk => hsome r (h.started.pending k r (hpending k r hk))

/-- A call ends. -/
theorem Waits.clearCall (h : s.Waits) (ref : Ref) : (s.setCall ref none).Waits := by
  refine h.of_le ?_ (fun _ _ => id) (fun _ => id) fun _ => id
  intro r c hc
  rcases update_eq_some_iff.1 hc with ⟨-, hnew⟩ | ⟨-, hold⟩
  · cases hnew
  · exact hold

theorem Waits.release (h : s.Waits) (identity : Identity) (awaited : AwaitedModel) :
    (s.release identity awaited).Waits := by
  unfold LiveSession.release
  split
  · split_ifs
    · refine h.of_le (fun _ _ => id) ?_ (fun _ => id) fun _ => id
      intro k r hk
      rcases update_eq_some_iff.1 hk with ⟨-, hnew⟩ | ⟨-, hold⟩
      · cases hnew
      · exact hold
    · exact h
  · exact h

/-- What is taken out of the map is still waited for as before. -/
theorem ClosesNone.release {found : Option AwaitedModel} (h : s.ClosesNone scope found)
    (identity : Identity) (awaited : AwaitedModel) :
    (s.release identity awaited).ClosesNone scope found := by
  unfold LiveSession.release
  split
  · split_ifs
    · exact h
    · exact h
  · exact h

/-- What is found was started. -/
theorem Started.of_lookup (h : s.Started) {y : Ref} {owner : Bool}
    (hlookup : s.lookup scope identity = some (.hydration y owner)) :
    (s.hydrations y).isSome = true := by
  unfold lookup at hlookup
  dsimp only at hlookup
  split_ifs at hlookup
  · obtain ⟨_, -, hmodel⟩ := Option.map_eq_some_iff.1 hlookup
    cases hmodel
  · split at hlookup
    · next hydration hpending _ =>
        obtain ⟨rfl, -⟩ := AwaitedModel.hydration.inj (Option.some.inj hlookup)
        exact h.pending identity hydration hpending
    · obtain ⟨_, -, hmodel⟩ := Option.map_eq_some_iff.1 hlookup
      cases hmodel

/-- **A hydration that is started** waits for nothing, and nothing waits for it yet. -/
theorem Waits.addHydration (h : s.Waits) {hydration : Hydration} (hnew : s.hydrations ref = none)
    (hcalls : t.calls = s.calls)
    (hhydrations : t.hydrations = (s.setHydration ref hydration).hydrations)
    (hpending : t.pending = (s.setPending identity (some ref)).pending) :
    t.Waits ∧ (t.hydrations ref).isSome = true ∧ ∀ x, (s.hydrations x).isSome = true →
      (t.hydrations x).isSome = true ∧ ¬ ReflTransGen t.WaitsFor ref x := by
  have hne : ∀ x, (s.hydrations x).isSome = true → x ≠ ref := by
    rintro x hx rfl
    rw [hnew] at hx
    cases hx
  have hself : (t.hydrations ref).isSome = true := by
    rw [hhydrations]
    simp [setHydration]
  have hsome : ∀ x, (s.hydrations x).isSome = true → t.hydrations x = s.hydrations x := by
    intro x hx
    rw [hhydrations]
    exact Function.update_of_ne (hne x hx) ..
  have hscope : ∀ r c x, t.calls r = some c → c.scope = some x →
      (s.hydrations x).isSome = true := by
    rw [hcalls]
    exact h.started.scopes
  have hawaits : ∀ r c y owner k rest, t.calls r = some c →
      c.phase = .hydrating (.hydration y owner) k rest →
        (s.hydrations y).isSome = true := by
    rw [hcalls]
    exact h.started.awaits
  have hle : ∀ x y, t.WaitsFor x y → s.WaitsFor x y := by
    rintro x y ⟨hx, hy, r, c, owner, k, rest, hc, hcscope, hphase⟩
    have hxs := hscope r c x hc hcscope
    have hys := hawaits r c y owner k rest hc hphase
    rw [IsPending, hsome x hxs] at hx
    rw [IsPending, hsome y hys] at hy
    exact ⟨hx, hy, r, c, owner, k, rest, by rw [← hcalls]; exact hc, hcscope, hphase⟩
  refine ⟨⟨h.acyclic.mono hle, ?_, ?_, ?_⟩, hself, ?_⟩
  · intro r c x hc hx
    have hxs := hscope r c x hc hx
    rw [hsome x hxs]
    exact hxs
  · intro r c y owner k rest hc hphase
    have hys := hawaits r c y owner k rest hc hphase
    rw [hsome y hys]
    exact hys
  · intro k r hk
    rw [hpending] at hk
    rcases update_eq_some_iff.1 hk with ⟨-, heq⟩ | ⟨-, hold⟩
    · cases heq
      exact hself
    · have hrs := h.started.pending k r hold
      rw [hsome r hrs]
      exact hrs
  · intro x hx
    refine ⟨by rw [hsome x hx]; exact hx, ?_⟩
    intro hleads
    rcases hleads.cases_head with rfl | ⟨y, hy, -⟩
    · exact hne ref hx rfl
    · obtain ⟨-, -, r, c, owner, k, rest, hc, hcscope, -⟩ := hy
      exact hne ref (hscope r c ref hc hcscope) rfl

theorem Waits.startHydration (h : s.Waits) (scope : Option Ref) (identity : Identity)
    (accepted : Bool) (model : Ref) (hnew : s.hydrations hydration = none) :
    (s.startHydration scope identity accepted hydration model).Waits ∧
      ((s.startHydration scope identity accepted hydration model).hydrations hydration).isSome
        = true ∧
      ∀ x, (s.hydrations x).isSome = true →
        ((s.startHydration scope identity accepted hydration model).hydrations x).isSome = true ∧
          ¬ ReflTransGen (s.startHydration scope identity accepted hydration model).WaitsFor
            hydration x := by
  cases accepted with
  | true => exact h.addHydration hnew rfl rfl rfl
  | false => exact h.addHydration hnew rfl rfl rfl

/-- **`hydrate`** gives nothing to await that leads back to the scope. -/
theorem Waits.hydrate (h : s.Waits) {accepted : Bool} {model : Ref} {awaited : AwaitedModel}
    (hcloses : s.ClosesNone scope (s.lookup scope identity))
    (hscope : ∀ x, scope = some x → (s.hydrations x).isSome = true)
    (hstep : s.hydrate scope identity accepted hydration model = some (t, awaited)) :
    t.Waits ∧ (∀ x, scope = some x → (t.hydrations x).isSome = true) ∧
      ∀ y owner, awaited = .hydration y owner → (t.hydrations y).isSome = true ∧
        ∀ x, scope = some x → t.IsPending x → ¬ ReflTransGen t.WaitsFor y x := by
  rcases hydrate_cases hstep with ⟨hlookup, rfl⟩ | ⟨-, hnew, -, rfl, rfl⟩
  · refine ⟨h, hscope, ?_⟩
    rintro y owner rfl
    exact ⟨h.started.of_lookup hlookup,
      fun x hx hpending => hcloses x y owner hx hlookup hpending⟩
  · obtain ⟨hwaits, hself, hleads⟩ := h.startHydration scope identity accepted model hnew
    refine ⟨hwaits, fun x hx => (hleads x (hscope x hx)).1, ?_⟩
    rintro _ _ ⟨⟩
    exact ⟨hself, fun x hx _ => (hleads x (hscope x hx)).2⟩

/-- **A call goes on with its rows.** -/
theorem Waits.proceed (h : s.Waits) {call : ReadCall} {rows : List PersistedRow} {model : Ref}
    (hcloses : s.ClosesNone call.scope (s.nextLookup call rows))
    (hscope : ∀ x, call.scope = some x → (s.hydrations x).isSome = true)
    (hstep : s.proceed ref call rows hydration model = some t) : t.Waits := by
  cases rows with
  | nil =>
    cases hstep
    exact h.setCall ref hscope (fun _ _ _ _ => nofun)
  | cons row rest =>
    obtain ⟨⟨u, awaited⟩, hhydrate, rfl⟩ := Option.map_eq_some_iff.1 hstep
    obtain ⟨hwaits, hscopes, hleads⟩ := h.hydrate hcloses hscope hhydrate
    refine hwaits.setCall ref hscopes ?_
    rintro y owner _ _ ⟨⟩
    exact hleads y owner rfl

theorem Waits.find (h : s.Waits) (ref : Ref)
    (hcloses : s.ClosesNone scope (s.lookup scope identity))
    (hscope : ∀ x, scope = some x → (s.hydrations x).isSome = true) :
    (s.find ref scope identity).Waits := by
  unfold LiveSession.find
  dsimp only
  split
  · exact h.setCall ref hscope (fun _ _ _ _ => nofun)
  · next awaited _ hlookup =>
      refine h.setCall ref hscope ?_
      rintro y owner _ _ ⟨⟩
      exact ⟨h.started.of_lookup hlookup,
        fun x hx hpending => hcloses x y owner hx hlookup hpending⟩
  · exact h.setCall ref hscope (fun _ _ _ _ => nofun)

theorem Waits.resume (h : s.Waits) {model : Ref}
    (hcloses : s.ClosesNoCycle (.resume ref hydration model))
    (hstep : s.resume ref hydration model = some t) : t.Waits := by
  obtain ⟨call, awaited, identity, rest, hcall, hphase, hnext⟩ := resume_cases hstep
  have hreleased := h.release identity awaited
  rcases hnext with rfl | ⟨found, -, hnext⟩
  · exact hreleased.clearCall ref
  · refine hreleased.proceed ?_ ?_ hnext
    · exact (hcloses call awaited identity rest hcall hphase).release identity awaited
    · intro x hx
      have hsome := h.started.scopes ref call x hcall hx
      unfold LiveSession.release
      split
      · split_ifs
        · exact hsome
        · exact hsome
      · exact hsome

/-! ### The result -/

/-- A hydration is settled. -/
theorem Waits.settle (h : s.Waits) {hydration : Hydration} {status : HydrationStatus}
    (hstatus : status ≠ .pending) (hcalls : t.calls = s.calls) (hpending : t.pending = s.pending)
    (hhydrations : t.hydrations
      = (s.setHydration ref { hydration with status := status }).hydrations) : t.Waits := by
  refine h.of_le (by rw [hcalls]; exact fun _ _ => id) (by rw [hpending]; exact fun _ _ => id)
    ?_ ?_
  · intro r hr
    rw [hhydrations]
    by_cases hsame : r = ref
    · subst hsame
      simp [setHydration]
    · simpa [setHydration, Function.update_of_ne hsame] using hr
  · rintro r ⟨y, hy, hypending⟩
    rw [hhydrations] at hy
    rcases update_eq_some_iff.1 hy with ⟨-, heq⟩ | ⟨-, hold⟩
    · cases heq
      exact absurd hypending hstatus
    · exact ⟨y, hold, hypending⟩

theorem Waits.settleHydration (h : s.Waits) (ref model : Ref) (hydration : Hydration)
    (succeeded : Bool) : (s.settleHydration ref hydration model succeeded).Waits := by
  unfold LiveSession.settleHydration
  dsimp only
  split_ifs
  · have hsettled : HydrationStatus.resolved ≠ HydrationStatus.pending := nofun
    exact h.settle hsettled rfl rfl rfl
  · have hsettled : HydrationStatus.rejected ≠ HydrationStatus.pending := nofun
    exact h.settle hsettled rfl rfl rfl
  · have hsettled : HydrationStatus.rejected ≠ HydrationStatus.pending := nofun
    exact h.settle hsettled rfl rfl rfl

/-- A step that leaves the calls and the hydrations as they are. -/
theorem Waits.of_eq (h : s.Waits)
    (hsame : (t.calls, t.pending, t.hydrations) = (s.calls, s.pending, s.hydrations)) :
    t.Waits := by
  obtain ⟨hcalls, hrest⟩ := Prod.mk.inj hsame
  obtain ⟨hpending, hhydrations⟩ := Prod.mk.inj hrest
  refine h.of_le ?_ ?_ ?_ ?_
  · rw [hcalls]
    exact fun _ _ => id
  · rw [hpending]
    exact fun _ _ => id
  · rw [hhydrations]
    exact fun _ => id
  · simp only [IsPending, hhydrations]
    exact fun _ => id

/-- Writes leave the calls and the hydrations as they are. -/
theorem Waits.saveAnswered (h : s.Waits) {id : Option String}
    (hstep : s.saveAnswered ref id = some t) : t.Waits := by
  unfold LiveSession.saveAnswered at hstep
  split at hstep
  · cases id with
    | none =>
      cases hstep
      exact h.of_eq rfl
    | some id =>
      dsimp only at hstep
      split_ifs at hstep
      · cases hstep
        exact h.of_eq rfl
      · obtain ⟨m, -, rfl⟩ := Option.map_eq_some_iff.1 hstep
        exact h.of_eq rfl
  · cases hstep

/-- **A step keeps the invariant**, if no call closes a cycle. -/
theorem Waits.step (h : s.Waits) {label : ModelSessionLabel} (hguard : s.ClosesNoCycle label)
    (hstep : s.step label = some t) : t.Waits := by
  cases label with
  | find call scope identity =>
    rw [LiveSession.step] at hstep
    split_ifs at hstep with hfree
    cases hstep
    refine h.find call hguard ?_
    rintro x rfl
    simpa using hfree.2
  | query call scope entityType =>
    rw [LiveSession.step] at hstep
    split_ifs at hstep with hfree
    cases hstep
    refine h.setCall call ?_ (fun _ _ _ _ => nofun)
    rintro x rfl
    simpa using hfree.2
  | read ref rows hydration model =>
    obtain ⟨call, hcall, hstep⟩ := Option.bind_eq_some_iff.1 hstep
    split_ifs at hstep
    exact h.proceed (hguard call hcall) (fun x hx => h.started.scopes ref call x hcall hx) hstep
  | resume call hydration model => exact h.resume hguard hstep
  | settle ref =>
    obtain ⟨call, -, hstep⟩ := Option.bind_eq_some_iff.1 hstep
    split_ifs at hstep
    cases hstep
    exact h.clearCall ref
  | fail ref =>
    obtain ⟨call, -, hstep⟩ := Option.bind_eq_some_iff.1 hstep
    split_ifs at hstep
    cases hstep
    exact h.clearCall ref
  | retrieved ref succeeded =>
    obtain ⟨hydration, -, hstep⟩ := Option.bind_eq_some_iff.1 hstep
    split_ifs at hstep
    obtain ⟨model, -, rfl⟩ := Option.map_eq_some_iff.1 hstep
    exact h.settleHydration ref model hydration succeeded
  | make model identity =>
    rw [LiveSession.step, make] at hstep
    split_ifs at hstep
    · cases hstep
      exact h.of_eq rfl
    · cases hstep
      exact h
  | save write model =>
    rw [LiveSession.step] at hstep
    split_ifs at hstep
    obtain ⟨m, -, rfl⟩ := Option.map_eq_some_iff.1 hstep
    exact h.of_eq rfl
  | saveAnswered write id => exact h.saveAnswered hstep
  | saved write =>
    rw [LiveSession.step, saved] at hstep
    split at hstep
    · obtain ⟨m, -, rfl⟩ := Option.map_eq_some_iff.1 hstep
      exact h.of_eq rfl
    · cases hstep
  | delete write model =>
    rw [LiveSession.step] at hstep
    split_ifs at hstep
    obtain ⟨m, -, hstep⟩ := Option.bind_eq_some_iff.1 hstep
    split_ifs at hstep
    cases hstep
    exact h.of_eq rfl
  | deleted write =>
    rw [LiveSession.step, deleted] at hstep
    split at hstep
    · obtain ⟨m, -, rfl⟩ := Option.map_eq_some_iff.1 hstep
      exact h.of_eq rfl
    · cases hstep
  | failWrite write =>
    cases hstep
    exact h.of_eq rfl

theorem waits_fresh : fresh.Waits where
  acyclic a h := by
    obtain ⟨b, ⟨⟨y, hy, -⟩, -⟩, -⟩ := TransGen.head'_iff.1 h
    cases hy
  started := ⟨nofun, nofun, nofun⟩

end LiveSession

/-- Two authors, found at the same time. -/
def findingAuthors : List ModelSessionLabel :=
  [.find 0 none ⟨"model:blog/author", "1"⟩,
    .find 1 none ⟨"model:blog/author", "2"⟩,
    .read 0 [⟨"1", true⟩] 0 0, .read 1 [⟨"2", true⟩] 1 1]

/-- The observers of either author find the other. -/
def findingEachOther : List ModelSessionLabel :=
  findingAuthors ++ [.find 2 (some 0) ⟨"model:blog/author", "2"⟩,
    .find 3 (some 1) ⟨"model:blog/author", "1"⟩]

end Doxa
