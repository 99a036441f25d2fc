/-
**The trace of an execution is a tree.**

A scope that takes the context it has proposed is a child of the span that is active in its chain,
and its identifier is new.  An adapter may answer with another context, of which the runtime checks
that it belongs to the trace and to the parent, but not that it is a span of its own: a tracer that
records nothing answers with the span of the parent, and the runtime takes it for the scope's.

Main results:

* `Doxa.execution_traced` — **as long as no adapter answers with the parent's span or the inbound
  one, nor with another trace, and every error can be described, the trace is a tree**;
* `Doxa.parent_reused` — the answer of a tracer that records nothing.
-/

import Doxa.TraceScopes

set_option relaxedAutoImplicit false
set_option autoImplicit false

namespace Doxa

namespace TracedExecution

/-! ### Contexts -/

variable {s t : TracedExecution}

/-- An identifier that is there. -/
def IsPresent (id : Option String) : Prop := ∃ text : String, text ≠ "" ∧ id = some text

theorem IsPresent.ne_none {id : Option String} (h : IsPresent id) : id ≠ none := by
  obtain ⟨text, -, rfl⟩ := h
  exact Option.some_ne_none text

theorem IsPresent.truthy {id : Option String} (h : IsPresent id) : Doxa.truthy id = id := by
  obtain ⟨text, htext, rfl⟩ := h
  exact truthy_some htext

theorem isPresent_of_truthy {id : Option String} {p : String → Bool}
    (h : (Doxa.truthy id).any p = true) : IsPresent id := by
  cases htruthy : Doxa.truthy id with
  | none => simp [htruthy] at h
  | some text =>
    obtain ⟨hid, htext⟩ := truthy_eq_some_iff.1 htruthy
    exact ⟨text, htext, hid⟩

/-- What the check of a handle makes sure of. -/
theorem startTelemetrySpan_eq_some {proposed context : TraceContext} {answer : SpanAnswer}
    (h : startTelemetrySpan proposed answer = some context) :
    IsPresent context.traceId ∧ IsPresent context.spanId ∧
      (proposed.parentSpanId ≠ none → context.traceId = proposed.traceId) ∧
        context.parentSpanId = proposed.parentSpanId := by
  cases answer with
  | handle answered =>
    obtain ⟨⟨htrace, hspan, hsame, hparent⟩, h⟩ := Option.ite_none_right_eq_some.1 h
    obtain rfl : answered = context := Option.some.inj h
    exact ⟨isPresent_of_truthy htrace, isPresent_of_truthy hspan, hsame, hparent⟩
  | _ => cases h

/-- The condition for the context of a handle: it is neither the parent's span nor the inbound one.
-/
def IsOwnSpan (s : TracedExecution) (context : TraceContext) : Prop :=
  context.spanId ≠ context.parentSpanId ∧ context.spanId ≠ s.inbound.spanId

instance (s : TracedExecution) (context : TraceContext) : Decidable (s.IsOwnSpan context) :=
  inferInstanceAs (Decidable (context.spanId ≠ context.parentSpanId ∧
    context.spanId ≠ s.inbound.spanId))

/-- The span of a scope that is begun where another one is active. -/
theorem newScope_spec {active : TraceContext} (parent : Option ℕ) {request : ScopeRequest}
    {fresh : FreshSpan} {answer : SpanAnswer} (htrace : active.traceId ≠ none)
    (hspan : IsPresent active.spanId) (hknown : active.spanId ∈ s.knownIds)
    (hfresh : fresh.spanId ≠ "") (hnew : some fresh.spanId ∉ s.knownIds)
    (hown : ∀ context ∈ startTelemetrySpan (childTraceContext fresh active request.links) answer,
      s.IsOwnSpan context) : let context := (newScope active parent request fresh answer).context
    context.traceId = active.traceId ∧ IsPresent context.spanId ∧
      context.parentSpanId = active.spanId ∧ s.IsOwnSpan context := by
  have hproposed : (childTraceContext fresh active request.links).traceId = active.traceId := by
    obtain ⟨traceId, htraceId⟩ := Option.ne_none_iff_exists'.1 htrace
    simp [childTraceContext, htraceId]
  have hparent : (childTraceContext fresh active request.links).parentSpanId = active.spanId :=
    hspan.truthy
  dsimp only [newScope]
  cases hanswer : startTelemetrySpan (childTraceContext fresh active request.links) answer with
  | some context =>
    obtain ⟨-, hpresent, hsame, hcontext⟩ := startTelemetrySpan_eq_some hanswer
    rw [hparent] at hsame hcontext
    exact ⟨(hsame hspan.ne_none).trans hproposed, hpresent, hcontext, hown context hanswer⟩
  | none =>
    refine ⟨hproposed, ⟨fresh.spanId, hfresh, rfl⟩, hparent, ?_, ?_⟩
    · intro heq
      have hsame : some fresh.spanId = active.spanId := heq.trans hparent
      exact hnew (hsame ▸ hknown)
    · intro heq
      have hsame : some fresh.spanId = s.inbound.spanId := heq
      exact hnew (hsame ▸ List.mem_cons_self)

/-! ### What is recorded -/

/-- The observations of a scope once there is one more. -/
theorem observed_append {observation : ScopeObservation}
    (h : t.observations = s.observations ++ [observation]) (i : ℕ)
    (phases : List ObservationPhase) :
    t.observed i phases = s.observed i phases ++
      if observation.scope = i ∧ observation.phase ∈ phases then [observation] else [] := by
  rw [observed, h, List.filter_append]
  congr 1
  by_cases hmem : observation.scope = i ∧ observation.phase ∈ phases
  · rw [if_pos hmem, List.filter_cons_of_pos (by simpa using hmem), List.filter_nil]
  · rw [if_neg hmem, List.filter_cons_of_neg (by simpa using hmem), List.filter_nil]

theorem truthy_truthy (id : Option String) : truthy (truthy id) = truthy id := by
  simp [truthy, Option.filter_filter]

/-- The observation of a scope is the scope's. -/
theorem identity_observation (s : TracedExecution) (i : ℕ) (scope : InstrumentedScope)
    (kind : ObservationKind) (name : String) (phase : ObservationPhase) :
    let context := (s.observation i scope kind name phase).context
    identity context.traceId context.spanId context.parentSpanId = traceIdentity scope.context := by
  simp [observation, observationContext, identity, traceIdentity, truthy_truthy]

theorem identity_completedSpan (i : ℕ) (scope : InstrumentedScope) (status : SpanStatus) :
    let span := completedSpan i scope status
    identity span.traceId span.spanId span.parentSpanId = traceIdentity scope.context := by
  by_cases hlive : scope.live = true <;>
    simp [completedSpan, identity, traceIdentity, hlive, truthy_truthy]

/-! ### The invariant -/

variable {scope : InstrumentedScope} {i : ℕ}

/-- Every error that is to be noted can be described, and nothing has been thrown in between. -/
def IsWhole (phase : ScopePhase) : Prop :=
  phase ≠ .broken ∧
    ∀ thrown, phase = .noting thrown → thrown.safeDiagnostic.message ≠ none

/-- What every step that meets the condition keeps. -/
structure Sound (s : TracedExecution) : Prop where
  inbound : ∀ traceId ∈ s.inbound.traceId, s.trace.traceId = some traceId
  traceId : s.trace.traceId ≠ none
  spanId : IsPresent s.trace.spanId
  recorded : ∀ (i : ℕ) (scope : InstrumentedScope), s.scopes[i]? = some scope →
    s.IsRecorded i scope
  identified : ∀ scope ∈ s.scopes, s.IsIdentified scope
  present : ∀ scope ∈ s.scopes, IsPresent scope.context.spanId
  whole : ∀ scope ∈ s.scopes, IsWhole scope.phase
  observations : ∀ observation ∈ s.observations, observation.scope < s.scopes.length
  spans : ∀ span ∈ s.spans, span.scope < s.scopes.length

/-- What is active in a chain belongs to the trace, and is known. -/
theorem Sound.active (h : s.Sound) {parent : Option ℕ} {active : TraceContext}
    (hactive : s.active parent = some active) :
    active.traceId = s.trace.traceId ∧ IsPresent active.spanId ∧ active.spanId ∈ s.knownIds := by
  cases parent with
  | none =>
    obtain rfl : s.trace = active := Option.some.inj hactive
    exact ⟨rfl, h.spanId, List.mem_cons_of_mem _ List.mem_cons_self⟩
  | some i =>
    obtain ⟨scope, hscope, rfl⟩ := Option.map_eq_some_iff.1 hactive
    have hmem := List.mem_of_getElem? hscope
    exact ⟨(h.identified scope hmem).traceId, h.present scope hmem,
      List.mem_cons_of_mem _ (List.mem_cons_of_mem _ (List.mem_map_of_mem hmem))⟩

/-- A scope remains who it is as long as the contexts of the others remain. -/
theorem IsIdentified.mono (h : s.IsIdentified scope) (htrace : t.trace = s.trace)
    (hinbound : t.inbound = s.inbound)
    (hactive : ∀ parent active, s.active parent = some active → t.active parent = some active) :
    t.IsIdentified scope where
  traceId := h.traceId.trans (congrArg TraceContext.traceId htrace.symm)
  spanId := h.spanId
  parent := by
    obtain ⟨parent, hparent, hsame⟩ := h.parent
    exact ⟨parent, hactive _ _ hparent, hsame⟩
  ne_parent := h.ne_parent
  ne_inbound := by
    rw [hinbound]
    exact h.ne_inbound

/-- What is recorded of a scope remains as long as nothing is recorded of it. -/
theorem IsRecorded.mono (h : s.IsRecorded i scope)
    (hobserved : ∀ phases, t.observed i phases = s.observed i phases)
    (hcompleted : t.completed i = s.completed i) : t.IsRecorded i scope where
  started := by
    rw [hobserved]
    exact h.started
  ended := by
    rw [hobserved]
    exact h.ended
  working := by
    rw [hobserved]
    exact h.working
  completed := by
    rw [hcompleted]
    exact h.completed
  pending := by
    rw [hcompleted]
    exact h.pending

/-! ### A scope is begun -/

theorem Sound.enterScope (h : s.Sound) (hphase : scope.phase = .working)
    (hidentified : s.IsIdentified scope) (hpresent : IsPresent scope.context.spanId) :
    (s.enterScope scope).Sound := by
  have hobserved := observed_append (s := s) (t := s.enterScope scope) rfl
  have hnone : ∀ phases, s.observed s.scopes.length phases = [] := fun phases =>
    List.filter_eq_nil_iff.2 fun observation hmem => by
      have hlt := h.observations observation hmem
      simp only [decide_eq_true_eq]
      omega
  have hnoSpan : (s.enterScope scope).completed s.scopes.length = [] :=
    List.filter_eq_nil_iff.2 fun span hmem => by
      have hlt := h.spans span hmem
      simp only [decide_eq_true_eq]
      omega
  have hactive : ∀ parent active, s.active parent = some active →
      (s.enterScope scope).active parent = some active := by
    intro parent active hparent
    cases parent with
    | none => exact hparent
    | some i =>
      obtain ⟨other, hother, rfl⟩ := Option.map_eq_some_iff.1 hparent
      have hlt := (List.getElem?_eq_some_iff.1 hother).1
      simp only [TracedExecution.active, TracedExecution.enterScope,
        List.getElem?_append_left hlt, hother, Option.map_some]
  have hmem : ∀ other ∈ (s.enterScope scope).scopes, other ∈ s.scopes ∨ other = scope := by
    intro other hother
    simpa [TracedExecution.enterScope] using hother
  refine ⟨h.inbound, h.traceId, h.spanId, ?_, ?_, ?_, ?_, ?_, ?_⟩
  · intro i other hother
    obtain hlt | hge := Nat.lt_or_ge i s.scopes.length
    · rw [TracedExecution.enterScope, List.getElem?_append_left hlt] at hother
      refine (h.recorded i other hother).mono (fun phases => ?_) rfl
      rw [hobserved, if_neg (fun hsame => absurd hsame.1 (Nat.ne_of_gt hlt)), List.append_nil]
    · rw [TracedExecution.enterScope, List.getElem?_append_right hge,
        List.getElem?_singleton] at hother
      obtain ⟨hi, hother⟩ := Option.ite_none_right_eq_some.1 hother
      obtain rfl : scope = other := Option.some.inj hother
      obtain rfl : i = s.scopes.length := by omega
      refine ⟨?_, fun hover => ?_, fun _ => ?_, fun hover => ?_, fun _ => hnoSpan⟩
      · rw [hobserved, hnone, if_pos ⟨rfl, List.mem_singleton_self _⟩]
        exact ⟨_, rfl, rfl, rfl, identity_observation s _ scope _ _ _⟩
      · rw [hphase] at hover
        exact hover.elim
      · rw [hobserved, hnone, if_neg (by simp [observation, endPhases]), List.append_nil]
      · rw [hphase] at hover
        exact hover.elim
  · intro other hother
    obtain hold | rfl := hmem other hother
    · exact (h.identified other hold).mono rfl rfl hactive
    · exact hidentified.mono rfl rfl hactive
  · intro other hother
    obtain hold | rfl := hmem other hother
    · exact h.present other hold
    · exact hpresent
  · intro other hother
    obtain hold | rfl := hmem other hother
    · exact h.whole other hold
    · rw [hphase]
      exact ⟨nofun, nofun⟩
  · intro observation hobservation
    rw [TracedExecution.enterScope, List.length_append, List.length_singleton]
    obtain hold | rfl := by simpa [TracedExecution.enterScope] using hobservation
    · exact Nat.lt_succ_of_lt (h.observations observation hold)
    · exact Nat.lt_succ_self _
  · intro span hspan
    rw [TracedExecution.enterScope, List.length_append, List.length_singleton]
    exact Nat.lt_succ_of_lt (h.spans span hspan)

/-! ### A scope comes further -/

/-- What a step of a scope that has begun changes: its phase, and what is recorded of it. -/
structure Advances (s t : TracedExecution) (i : ℕ) (scope : InstrumentedScope)
    (phase : ScopePhase) : Prop where
  scopes : t.scopes = s.scopes.set i { scope with phase := phase }
  trace : t.trace = s.trace
  inbound : t.inbound = s.inbound
  observations : ∃ added, t.observations = s.observations ++ added ∧
    ∀ observation ∈ added, observation.scope = i
  spans : ∃ added, t.spans = s.spans ++ added ∧ ∀ span ∈ added, span.scope = i

/-- Nothing is recorded of the other scopes. -/
theorem Advances.other {j : ℕ} {phase : ScopePhase} (h : Advances s t i scope phase) (hne : i ≠ j) :
    (∀ phases, t.observed j phases = s.observed j phases) ∧ t.completed j = s.completed j := by
  obtain ⟨observations, hobservations, hscope⟩ := h.observations
  obtain ⟨spans, hspans, hscope'⟩ := h.spans
  constructor
  · intro phases
    have hnone : observations.filter
        (fun observation => observation.scope = j ∧ observation.phase ∈ phases) = [] :=
      List.filter_eq_nil_iff.2 fun observation hmem => by simp [hscope observation hmem, hne]
    rw [observed, hobservations, List.filter_append, hnone, List.append_nil, observed]
  · have hnone : spans.filter (fun span => span.scope = j) = [] :=
      List.filter_eq_nil_iff.2 fun span hmem => by simp [hscope' span hmem, hne]
    rw [completed, hspans, List.filter_append, hnone, List.append_nil, completed]

theorem Sound.advance {phase : ScopePhase} (h : s.Sound) (hscope : s.scopes[i]? = some scope)
    (hadvance : Advances s t i scope phase) (hwhole : IsWhole phase)
    (hrecorded : t.IsRecorded i { scope with phase := phase }) : t.Sound := by
  have hlt := (List.getElem?_eq_some_iff.1 hscope).1
  have hlength : t.scopes.length = s.scopes.length := by rw [hadvance.scopes, List.length_set]
  have hactive : ∀ parent active, s.active parent = some active →
      t.active parent = some active := by
    intro parent active hparent
    cases parent with
    | none => exact (congrArg some hadvance.trace).trans hparent
    | some j =>
      simp only [TracedExecution.active, hadvance.scopes] at hparent ⊢
      by_cases hij : i = j
      · subst hij
        simpa [hscope, List.getElem?_set_self hlt] using hparent
      · rwa [List.getElem?_set_ne hij]
  have hmem : ∀ other ∈ t.scopes, other ∈ s.scopes ∨ other = { scope with phase := phase } := by
    intro other hother
    rw [hadvance.scopes] at hother
    exact List.mem_or_eq_of_mem_set hother
  have hscopeMem := List.mem_of_getElem? hscope
  refine ⟨?_, ?_, ?_, ?_, ?_, ?_, ?_, ?_, ?_⟩
  · rw [hadvance.trace, hadvance.inbound]
    exact h.inbound
  · rw [hadvance.trace]
    exact h.traceId
  · rw [hadvance.trace]
    exact h.spanId
  · intro j other hother
    rw [hadvance.scopes] at hother
    by_cases hij : i = j
    · subst hij
      rw [List.getElem?_set_self hlt] at hother
      cases hother
      exact hrecorded
    · rw [List.getElem?_set_ne hij] at hother
      obtain ⟨hobserved, hcompleted⟩ := hadvance.other hij
      exact (h.recorded j other hother).mono hobserved hcompleted
  · intro other hother
    obtain hold | rfl := hmem other hother
    · exact (h.identified other hold).mono hadvance.trace hadvance.inbound hactive
    · have hidentified := (h.identified scope hscopeMem).mono hadvance.trace hadvance.inbound
        hactive
      exact ⟨hidentified.traceId, hidentified.spanId, hidentified.parent, hidentified.ne_parent,
        hidentified.ne_inbound⟩
  · intro other hother
    obtain hold | rfl := hmem other hother
    · exact h.present other hold
    · exact h.present scope hscopeMem
  · intro other hother
    obtain hold | rfl := hmem other hother
    · exact h.whole other hold
    · exact hwhole
  · intro observation hobservation
    obtain ⟨added, hadded, hown⟩ := hadvance.observations
    rw [hadded, List.mem_append] at hobservation
    rw [hlength]
    obtain hold | hnew := hobservation
    · exact h.observations observation hold
    · rwa [hown observation hnew]
  · intro span hspan
    obtain ⟨added, hadded, hown⟩ := hadvance.spans
    rw [hadded, List.mem_append] at hspan
    rw [hlength]
    obtain hold | hnew := hspan
    · exact h.spans span hold
    · rwa [hown span hnew]

/-- The end of a scope is observed. -/
theorem Sound.observeEnd {phase : ScopePhase} {ended : ObservationPhase} (h : s.Sound)
    (hscope : s.scopes[i]? = some scope) (hworking : scope.phase = .working)
    (hended : ended ∈ endPhases) (hwhole : IsWhole phase) (hobserved : phase.IsObserved)
    (hover : ¬ phase.IsOver) :
    ((s.observe (s.observation i scope scope.request.kind scope.request.name ended)).setPhase i
      scope phase).Sound := by
  have hrecorded := h.recorded i scope hscope
  have hunobserved : ¬ scope.phase.IsObserved := by
    rw [hworking]
    exact not_false
  have hopen : ¬ scope.phase.IsOver := by
    rw [hworking]
    exact not_false
  have hends := observed_append (s := s) (t := (s.observe (s.observation i scope
    scope.request.kind scope.request.name ended)).setPhase i scope phase) rfl i
  have hnotStarted : ended ≠ .started := by
    rintro rfl
    simp [endPhases] at hended
  refine h.advance hscope ⟨rfl, rfl, rfl, ⟨_, rfl, ?_⟩,
      ⟨[], (List.append_nil _).symm, List.forall_mem_nil _⟩⟩
    hwhole ⟨?_, fun _ => ?_, fun hworking => absurd hobserved hworking,
      fun hdone => absurd hdone hover, fun _ => hrecorded.pending hopen⟩
  · intro observation hmem
    rw [List.mem_singleton.1 hmem]
    rfl
  · rw [hends, if_neg, List.append_nil]
    · exact hrecorded.started
    · intro hmem
      exact hnotStarted (List.mem_singleton.1 hmem.2)
  · rw [hends, if_pos ⟨rfl, hended⟩, hrecorded.working hunobserved, List.nil_append]
    exact ⟨_, rfl, rfl, rfl, identity_observation s i scope _ _ _⟩

/-- The condition for what the work of a scope throws: it can be described. -/
def IsDescribable (scope : InstrumentedScope) (thrown : Thrown) : Prop :=
  (thrown.markPrivacySensitive scope.request.kind).safeDiagnostic.message ≠ none

theorem Sound.finishScope (h : s.Sound) (hscope : s.scopes[i]? = some scope)
    (hworking : scope.phase = .working) {outcome : Option Thrown}
    (hdescribable : ∀ thrown ∈ outcome, IsDescribable scope thrown) :
    (s.finishScope i scope outcome).Sound := by
  have hclosing : ∀ status, IsWhole (.closing status) := fun _ => ⟨nofun, nofun⟩
  cases outcome with
  | none =>
    exact h.observeEnd hscope hworking (by simp [endPhases]) (hclosing _) trivial not_false
  | some thrown =>
    have hnoting : IsWhole
        (.noting (thrown.markPrivacySensitive scope.request.kind)) := by
      refine ⟨nofun, fun other hother => ?_⟩
      obtain rfl := ScopePhase.noting.inj hother
      exact hdescribable thrown rfl
    cases thrown with
    | undefined =>
      exact h.observeEnd hscope hworking (by simp [endPhases]) (hclosing _) trivial not_false
    | primitive text =>
      exact h.observeEnd hscope hworking (by simp [endPhases]) hnoting trivial not_false
    | object mark description =>
      exact h.observeEnd hscope hworking (by simp [endPhases]) hnoting trivial not_false

theorem Sound.noteException {thrown : Thrown} (h : s.Sound) (hscope : s.scopes[i]? = some scope)
    (hnoting : scope.phase = .noting thrown) : (s.noteException i scope thrown).Sound := by
  have hdescribable := (h.whole scope (List.mem_of_getElem? hscope)).2 thrown hnoting
  obtain ⟨message, hmessage⟩ := Option.ne_none_iff_exists'.1 hdescribable
  have hrecorded := h.recorded i scope hscope
  have hnote : s.noteException i scope thrown =
      (s.observe (s.observation i scope .exception message
        .occurred)).setPhase i scope (.closing .error) := by
    rw [TracedExecution.noteException, hmessage]
  have hobserved : ∀ phases, .occurred ∉ phases →
      (s.noteException i scope thrown).observed i phases = s.observed i phases := by
    intro phases hmem
    rw [hnote, observed_append (s := s) rfl, if_neg, List.append_nil]
    exact fun hsame => hmem hsame.2
  have hclosed : ¬ scope.phase.IsOver := by
    rw [hnoting]
    exact not_false
  have hadvance : Advances s (s.noteException i scope thrown) i scope
      (.closing .error) := by
    rw [hnote]
    refine ⟨rfl, rfl, rfl, ⟨_, rfl, fun observation hmem => ?_⟩,
      ⟨[], (List.append_nil _).symm, List.forall_mem_nil _⟩⟩
    rw [List.mem_singleton.1 hmem]
    rfl
  refine h.advance hscope hadvance ⟨nofun, nofun⟩ ⟨?_, fun _ => ?_,
    fun hworking => absurd trivial hworking, fun hdone => hdone.elim, fun _ => ?_⟩
  · rw [hobserved _ (by simp)]
    exact hrecorded.started
  · rw [hobserved _ (by simp [endPhases])]
    exact hrecorded.ended (by
      rw [hnoting]
      trivial)
  · rw [hnote]
    exact hrecorded.pending hclosed

theorem Sound.closeScope {status : SpanStatus} (h : s.Sound) (hscope : s.scopes[i]? = some scope)
    (hclosing : scope.phase = .closing status) : (s.closeScope i scope status).Sound := by
  have hrecorded := h.recorded i scope hscope
  have hclosed : ¬ scope.phase.IsOver := by
    rw [hclosing]
    exact not_false
  have hcompleted : (s.closeScope i scope status).completed i = [completedSpan i scope status] := by
    have hsplit : (s.closeScope i scope status).completed i =
        s.completed i ++ [completedSpan i scope status].filter fun span => span.scope = i :=
      List.filter_append _ _
    rw [hsplit, hrecorded.pending hclosed, List.nil_append,
      List.filter_cons_of_pos (by simp [completedSpan]), List.filter_nil]
  have hadvance : Advances s (s.closeScope i scope status) i scope .done := by
    refine ⟨rfl, rfl, rfl, ⟨[], (List.append_nil _).symm, List.forall_mem_nil _⟩,
      ⟨[completedSpan i scope status], rfl, fun span hmem => ?_⟩⟩
    rw [List.mem_singleton.1 hmem]
    rfl
  refine h.advance hscope hadvance ⟨nofun, nofun⟩ ⟨hrecorded.started, fun _ => ?_,
    fun hworking => absurd trivial hworking, fun _ => ?_, fun hopen => absurd trivial hopen⟩
  · exact hrecorded.ended (by
      rw [hclosing]
      trivial)
  · rw [hcompleted]
    exact ⟨_, rfl, rfl, identity_completedSpan i scope status⟩

/-! ### Steps -/

/-- **The condition**: the span of a handle that is accepted is the scope's own, and whatever the
work of a scope throws can be described. -/
def Guard (s : TracedExecution) : ScopeLabel → Prop
  | .enter parent request fresh answer =>
    ∀ active ∈ s.active parent,
      ∀ context ∈ startTelemetrySpan (childTraceContext fresh active request.links) answer,
        s.IsOwnSpan context
  | .finish i outcome =>
    ∀ scope ∈ s.scopes[i]?, ∀ thrown ∈ outcome, IsDescribable scope thrown
  | _ => True

/-- **Every step that meets the condition keeps the invariant.** -/
theorem Sound.step {label : ScopeLabel} (h : s.Sound) (hguard : s.Guard label)
    (hstep : s.step label = some t) : t.Sound := by
  cases label with
  | enter parent request fresh answer =>
    simp only [TracedExecution.step] at hstep
    split at hstep
    · next active hactive =>
        obtain ⟨⟨hfresh, hnew⟩, hstep⟩ := Option.ite_none_right_eq_some.1 hstep
        cases hstep
        obtain ⟨htrace, hpresent, hknown⟩ := h.active hactive
        have hsome : active.traceId ≠ none := by
          rw [htrace]
          exact h.traceId
        obtain ⟨hsame, hspan, hparent, hne, hinbound⟩ := newScope_spec parent hsome
          hpresent hknown hfresh hnew (hguard active hactive)
        exact h.enterScope rfl
          ⟨hsame.trans htrace, hspan.ne_none, ⟨active, hactive, hparent⟩, hne, hinbound⟩ hspan
    · cases hstep
  | finish i outcome =>
    simp only [TracedExecution.step] at hstep
    split at hstep
    · next scope hscope =>
        split at hstep
        · next hworking =>
            cases hstep
            exact h.finishScope hscope hworking (hguard scope hscope)
        · cases hstep
    · cases hstep
  | note i =>
    simp only [TracedExecution.step] at hstep
    split at hstep
    · next scope hscope =>
        split at hstep
        · next thrown hnoting =>
            cases hstep
            exact h.noteException hscope hnoting
        · cases hstep
    · cases hstep
  | close i =>
    simp only [TracedExecution.step] at hstep
    split at hstep
    · next scope hscope =>
        split at hstep
        · next status hclosing =>
            cases hstep
            exact h.closeScope hscope hclosing
        · cases hstep
    · cases hstep

/-- What a scope still has to do when its end is observed, it can do. -/
theorem proceeds (hscope : s.scopes[i]? = some scope) (hobserved : scope.phase.IsObserved)
    (hopen : ¬ scope.phase.IsOver) : (s.step (.note i)).isSome ∨ (s.step (.close i)).isSome := by
  cases hphase : scope.phase with
  | working =>
    rw [hphase] at hobserved
    exact hobserved.elim
  | noting thrown => exact .inl (by simp [TracedExecution.step, hscope, hphase])
  | closing status => exact .inr (by simp [TracedExecution.step, hscope, hphase])
  | done =>
    rw [hphase] at hopen
    exact absurd trivial hopen
  | broken =>
    rw [hphase] at hopen
    exact absurd trivial hopen

theorem sound_admitted {fresh : FreshIds} {executionSpanId : Option String}
    {correlationId : String} {inbound : TraceContext} {answer : SpanAnswer}
    (hfresh : executionSpanId.getD fresh.spanId ≠ "")
    (hkept : ∀ context ∈ startTelemetrySpan (admittedTrace fresh executionSpanId inbound) answer,
      ∀ traceId ∈ inbound.traceId, context.traceId = some traceId) :
    (admitted fresh executionSpanId correlationId inbound answer).Sound := by
  obtain ⟨trace, htrace, hinbound, hsome, hpresent⟩ : ∃ trace : TraceContext,
      (admitted fresh executionSpanId correlationId inbound answer).trace = trace ∧
        (∀ traceId ∈ inbound.traceId, trace.traceId = some traceId) ∧
          trace.traceId ≠ none ∧ IsPresent trace.spanId := by
    refine ⟨_, rfl, ?_⟩
    simp only [admitted]
    cases hanswer : startTelemetrySpan (admittedTrace fresh executionSpanId inbound) answer with
    | none =>
      refine ⟨fun traceId htraceId => ?_, Option.some_ne_none _, ⟨_, hfresh, rfl⟩⟩
      simp [admittedTrace, Option.mem_def.1 htraceId]
    | some context =>
      obtain ⟨htrace, hspan, -, -⟩ := startTelemetrySpan_eq_some hanswer
      exact ⟨hkept context hanswer, htrace.ne_none, hspan⟩
  exact ⟨by rwa [htrace], by rwa [htrace], by rwa [htrace], by simp [admitted],
    List.forall_mem_nil _, List.forall_mem_nil _, List.forall_mem_nil _, List.forall_mem_nil _,
    List.forall_mem_nil _⟩

end TracedExecution

/-! ### The promise -/

open TracedExecution

/-- **The trace of an execution is a tree**: whatever scopes are begun in its chains, and however
they end, as long as an adapter keeps the trace that the execution came with, answers with no span
that is the parent's or the inbound one, and every error can be described. -/
theorem execution_traced {fresh : FreshIds} {executionSpanId : Option String}
    {correlationId : String} {inbound : TraceContext} {answer : SpanAnswer}
    {labels : List ScopeLabel} {t : TracedExecution}
    (hfresh : executionSpanId.getD fresh.spanId ≠ "")
    (hkept : ∀ context ∈ startTelemetrySpan (admittedTrace fresh executionSpanId inbound) answer,
      ∀ traceId ∈ inbound.traceId, context.traceId = some traceId)
    (hrun : Transition.Run step Guard
      (admitted fresh executionSpanId correlationId inbound answer) labels t) : t.IsTraced := by
  have h : t.Sound := hrun.invariant (fun _ _ _ h hguard hstep => h.step hguard hstep)
    (sound_admitted hfresh hkept)
  exact ⟨h.inbound, h.recorded, h.identified, fun _ _ => proceeds⟩

/-- An identifier of sixteen digits. -/
def spanIdOf (digit : Char) : String := String.ofList (List.replicate 16 digit)

/-- An identifier of thirty-two digits. -/
def traceIdOf (digit : Char) : String := String.ofList (List.replicate 32 digit)

/-- An inbound trace context. -/
def inboundTrace : TraceContext where
  traceId := some (traceIdOf 'a')
  spanId := some (spanIdOf '1')
  parentSpanId := none
  isRemote := some true
  parentIsRemote := none
  traceFlags := none
  links := none

/-- What is drawn for the execution. -/
def freshExecution : FreshIds where
  executionId := ⟨"00000000-0000-4000-8000-000000000000", by rfl⟩
  traceId := traceIdOf 'b'
  spanId := spanIdOf '2'

/-- The handle of a span of its own, or of another one. -/
def spanHandle (spanId parentSpanId : String) : SpanAnswer :=
  .handle
    { traceId := some (traceIdOf 'a')
      spanId := some spanId
      parentSpanId := some parentSpanId
      isRemote := none
      parentIsRemote := none
      traceFlags := some 1
      links := none }

/-- An action. -/
def actionRequest : ScopeRequest := ⟨.action, "orders.place", none, none⟩

/-- The execution of a request, with a span of the adapter. -/
def tracedRequest : TracedExecution :=
  admitted freshExecution none "order-1" inboundTrace (spanHandle (spanIdOf '3') (spanIdOf '1'))

/-- An action that the adapter has a span for fails, with one in it that it has none for. -/
def actionRun : List ScopeLabel :=
  [.enter none actionRequest ⟨traceIdOf 'b', spanIdOf '4'⟩
      (spanHandle (spanIdOf '5') (spanIdOf '3')),
    .enter (some 0) actionRequest ⟨traceIdOf 'b', spanIdOf '6'⟩ .throws,
    .finish 0 (some (.object none (some "Order refused."))),
    .finish 1 none, .note 0, .close 1, .close 0]

instance (scope : InstrumentedScope) (thrown : Thrown) : Decidable (IsDescribable scope thrown) :=
  inferInstanceAs (Decidable
    ((thrown.markPrivacySensitive scope.request.kind).safeDiagnostic.message ≠ none))

instance (s : TracedExecution) (label : ScopeLabel) : Decidable (s.Guard label) := by
  cases label <;> unfold Guard <;> infer_instance

theorem action_traced :
    ∃ t : TracedExecution, t.IsTraced ∧ t.spans.map (fun span => (span.scope, span.ended)) =
      [(1, false), (0, true)] ∧ t.observations.length = 5 := by
  have hrun : (Transition.runGuarded step Guard tracedRequest actionRun).map (fun t =>
      (t.spans.map (fun span => (span.scope, span.ended)), t.observations.length)) =
        some ([(1, false), (0, true)], 5) := by decide +kernel
  obtain ⟨t, hrun, hrecorded⟩ := Option.map_eq_some_iff.1 hrun
  obtain ⟨hspans, hobservations⟩ := Prod.mk.inj hrecorded
  have hkept : ∀ context ∈ startTelemetrySpan (admittedTrace freshExecution none inboundTrace)
      (spanHandle (spanIdOf '3') (spanIdOf '1')),
      ∀ traceId ∈ inboundTrace.traceId, context.traceId = some traceId := by
    decide
  exact ⟨t, execution_traced (by decide) hkept (Transition.Run.of_runGuarded hrun),
    hspans, hobservations⟩

/-- The execution of a request, with a tracer that records nothing. -/
def untracedRequest : TracedExecution :=
  admitted freshExecution none "order-1" inboundTrace (spanHandle (spanIdOf '1') (spanIdOf '1'))

/-- **A tracer that records nothing answers with the span of the parent**, which passes the check:
the action is its own parent, and the inbound span besides. -/
theorem parent_reused :
    ¬ ∀ (fresh : FreshIds) (executionSpanId : Option String) (correlationId : String)
      (inbound : TraceContext) (answer : SpanAnswer) (labels : List ScopeLabel)
      (t : TracedExecution), executionSpanId.getD fresh.spanId ≠ "" →
      Transition.run step (admitted fresh executionSpanId correlationId inbound answer) labels =
        some t → t.IsTraced := by
  intro hclaim
  have hrun : (Transition.run step untracedRequest
      [.enter none actionRequest ⟨traceIdOf 'b', spanIdOf '4'⟩
        (spanHandle (spanIdOf '1') (spanIdOf '1'))]).map (fun t =>
          t.scopes.map fun scope => (scope.context.spanId, scope.context.parentSpanId)) =
            some [(some (spanIdOf '1'), some (spanIdOf '1'))] := by rfl
  obtain ⟨t, hrun, hscopes⟩ := Option.map_eq_some_iff.1 hrun
  obtain ⟨scope, hscope, hids⟩ := List.map_eq_singleton_iff.1 hscopes
  obtain ⟨hspan, hparent⟩ := Prod.mk.inj hids
  have htraced := hclaim freshExecution none "order-1" inboundTrace
    (spanHandle (spanIdOf '1') (spanIdOf '1')) _ t (by decide) hrun
  exact (htraced.identified scope (hscope ▸ List.mem_singleton_self scope)).ne_parent
    (hspan.trans hparent.symm)

end Doxa
