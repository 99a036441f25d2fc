/-
**Instrumented scopes.**

Whatever the runtime does on behalf of an execution it does in a scope (`runtime/src/runtime.ts`): a
scope proposes a trace context, which is a child of the one that is active in its asynchronous
chain; a telemetry adapter may answer with a span of its own, whose context takes the place of the
proposed one if it is plausible.  Observations tell that the scope has started and how it has ended,
and a span is completed, through the handle of the adapter or as a record.

Scopes are begun by the execution and by one another in any order; a scope that is over may still
have work in its chain.  What is recorded carries the number of its scope, for the proofs.

Main definitions:

* `Doxa.childTraceContext`, `Doxa.startTelemetrySpan` — the context of a scope;
* `Doxa.TracedExecution`, `Doxa.ScopeLabel`, `Doxa.TracedExecution.step` — an execution with its
  scopes, and what may happen;
* `Doxa.TracedExecution.IsTraced` — what is promised of the trace.
-/

import Doxa.Lib.Transition
import Doxa.Observation
import Doxa.RuntimeContext

set_option relaxedAutoImplicit false
set_option autoImplicit false

namespace Doxa

/-! ### Trace contexts -/

/-- The characters `[0-9a-f]`. -/
def isLowerHexDigit (c : Char) : Bool := isOneOf "0123456789abcdef" c

/-- So many of these characters, not all of which are zeros. -/
def isHexId (count : ℕ) (text : String) : Bool :=
  meets (List.replicate count isLowerHexDigit) text.toList && !text.toList.all (· = '0')

/-- What is drawn at random for a scope. -/
structure FreshSpan where
  traceId : String
  spanId : String

def childTraceContext (fresh : FreshSpan) (parent : TraceContext)
    (links : Option (List SpanLink)) : TraceContext where
  traceId := some (parent.traceId.getD fresh.traceId)
  spanId := some fresh.spanId
  parentSpanId := truthy parent.spanId
  isRemote := none
  parentIsRemote := (truthy parent.spanId).map fun _ => false
  traceFlags := some (parent.traceFlags.getD 1)
  links := (links.filter fun links => !links.isEmpty).map freezeSpanLinks

/-- What an adapter does when a span is started. -/
inductive SpanAnswer
  /-- It has no `startSpan`. -/
  | absent
  | throws
  | nothing
  | handle (context : TraceContext)

/-- The context of the handle, if it is plausible. -/
def startTelemetrySpan (proposed : TraceContext) : SpanAnswer → Option TraceContext
  | .handle context =>
    if (truthy context.traceId).any (isHexId 32) ∧ (truthy context.spanId).any (isHexId 16) ∧
        (proposed.parentSpanId ≠ none → context.traceId = proposed.traceId) ∧
          context.parentSpanId = proposed.parentSpanId then
      some context
    else none
  | _ => none

/-! ### Errors -/

/-- What may be thrown: an object may be marked as sensitive, and may refuse to be described. -/
inductive Thrown
  | undefined
  | primitive (text : String)
  | object (mark : Option String) (description : Option String)

namespace Thrown

/-- What is thrown by an AI operation is sensitive. -/
def markPrivacySensitive (kind : ObservationKind) : Thrown → Thrown
  | object mark description =>
    if kind.toText.startsWith "ai." then object (some "AI operation failed.") description
    else object mark description
  | thrown => thrown

def safeDiagnostic : Thrown → Thrown
  | object (some mark) _ => primitive mark
  | thrown => thrown

/-- `errorMessage`, which throws if there is none. -/
def message : Thrown → Option String
  | undefined => some "undefined"
  | primitive text => some text
  | object _ description => description

end Thrown

/-! ### Scopes -/

inductive SpanStatus
  | ok
  | error
deriving DecidableEq

/-- What a scope is asked to instrument. -/
structure ScopeRequest where
  kind : ObservationKind
  name : String
  roleId : Option String
  links : Option (List SpanLink)

/-- Where a scope is. -/
inductive ScopePhase
  | working
  /-- It has failed, and the exception is to be recorded. -/
  | noting (thrown : Thrown)
  | closing (status : SpanStatus)
  | done
  /-- What it does when it is over has thrown. -/
  | broken

namespace ScopePhase

/-- Its end has been observed. -/
def IsObserved : ScopePhase → Prop
  | working => False
  | _ => True

/-- It does nothing any more. -/
def IsOver : ScopePhase → Prop
  | done | broken => True
  | _ => False

end ScopePhase

structure InstrumentedScope where
  /-- The scope in whose chain it was begun, if it was not that of the execution. -/
  parent : Option ℕ
  request : ScopeRequest
  context : TraceContext
  /-- The adapter has given a handle. -/
  live : Bool
  phase : ScopePhase

/-- An observation, with the number of its scope. -/
structure ScopeObservation where
  scope : ℕ
  kind : ObservationKind
  name : String
  phase : ObservationPhase
  roleId : Option String
  context : ObservationContext

/-- A span that is completed, with the number of its scope. -/
structure CompletedSpan where
  scope : ℕ
  /-- The handle of the adapter has been told; otherwise there is a record. -/
  ended : Bool
  name : String
  traceId : Option String
  spanId : Option String
  parentSpanId : Option String
  links : Option (List SpanLink)
  status : SpanStatus

structure TracedExecution where
  executionId : String
  correlationId : String
  /-- The trace context of the seed. -/
  inbound : TraceContext
  /-- The span of the execution itself. -/
  trace : TraceContext
  scopes : List InstrumentedScope
  observations : List ScopeObservation
  spans : List CompletedSpan

inductive ScopeLabel
  | enter (parent : Option ℕ) (request : ScopeRequest) (fresh : FreshSpan) (answer : SpanAnswer)
  /-- The work of a scope returns, or throws. -/
  | finish (scope : ℕ) (outcome : Option Thrown)
  /-- The exception is recorded. -/
  | note (scope : ℕ)
  /-- The span is completed. -/
  | close (scope : ℕ)

/-- What of a context makes up an observation. -/
def observationContext (executionId correlationId : String) (trace : TraceContext) :
    ObservationContext where
  executionId := some executionId
  correlationId := some correlationId
  traceId := truthy trace.traceId
  spanId := truthy trace.spanId
  parentSpanId := truthy trace.parentSpanId

namespace TracedExecution

/-- The execution, once it is admitted. -/
def admitted (fresh : FreshIds) (executionSpanId : Option String) (correlationId : String)
    (inbound : TraceContext) (answer : SpanAnswer) : TracedExecution where
  executionId := fresh.executionId.text
  correlationId := correlationId
  inbound := inbound
  trace :=
    let trace := admittedTrace fresh executionSpanId inbound
    (startTelemetrySpan trace answer).getD trace
  scopes := []
  observations := []
  spans := []

variable (s : TracedExecution)

/-- The trace context that is active in a chain. -/
def active : Option ℕ → Option TraceContext
  | none => some s.trace
  | some scope => s.scopes[scope]?.map InstrumentedScope.context

/-- The identifiers of spans that are known. -/
def knownIds : List (Option String) :=
  s.inbound.spanId :: s.trace.spanId :: s.scopes.map fun scope => scope.context.spanId

/-- An observation of a scope. -/
def observation (i : ℕ) (scope : InstrumentedScope) (kind : ObservationKind) (name : String)
    (phase : ObservationPhase) : ScopeObservation where
  scope := i
  kind := kind
  name := name
  phase := phase
  roleId := truthy scope.request.roleId
  context := observationContext s.executionId s.correlationId scope.context

/-- The scope that is begun in a chain. -/
def newScope (active : TraceContext) (parent : Option ℕ) (request : ScopeRequest)
    (fresh : FreshSpan) (answer : SpanAnswer) : InstrumentedScope where
  parent := parent
  request := request
  context :=
    let proposed := childTraceContext fresh active request.links
    (startTelemetrySpan proposed answer).getD proposed
  live := (startTelemetrySpan (childTraceContext fresh active request.links) answer).isSome
  phase := .working

/-- A scope is begun, and its start is observed. -/
def enterScope (scope : InstrumentedScope) : TracedExecution :=
  { s with
    scopes := s.scopes ++ [scope]
    observations := s.observations ++
      [s.observation s.scopes.length scope scope.request.kind scope.request.name
        .started] }

def setPhase (i : ℕ) (scope : InstrumentedScope) (phase : ScopePhase) : TracedExecution :=
  { s with scopes := s.scopes.set i { scope with phase := phase } }

def observe (observation : ScopeObservation) : TracedExecution :=
  { s with observations := s.observations ++ [observation] }

/-- The end of a scope is observed. -/
def finishScope (i : ℕ) (scope : InstrumentedScope) : Option Thrown → TracedExecution
  | none =>
    (s.observe (s.observation i scope scope.request.kind scope.request.name
      .completed)).setPhase i scope (.closing .ok)
  | some thrown =>
    let s := s.observe (s.observation i scope scope.request.kind scope.request.name
      .failed)
    match thrown with
    | .undefined => s.setPhase i scope (.closing .error)
    | thrown =>
      s.setPhase i scope (.noting (thrown.markPrivacySensitive scope.request.kind))

/-- The exception is observed, unless it cannot be described. -/
def noteException (i : ℕ) (scope : InstrumentedScope) (thrown : Thrown) : TracedExecution :=
  match thrown.safeDiagnostic.message with
  | some message =>
    (s.observe (s.observation i scope .exception message
      .occurred)).setPhase i scope (.closing .error)
  | none => s.setPhase i scope .broken

/-- The span of a scope: the one of the handle, or the one that is recorded. -/
def completedSpan (i : ℕ) (scope : InstrumentedScope) (status : SpanStatus) : CompletedSpan where
  scope := i
  ended := scope.live
  name := scope.request.name
  traceId := scope.context.traceId
  spanId := scope.context.spanId
  parentSpanId :=
    if scope.live then scope.context.parentSpanId else truthy scope.context.parentSpanId
  links :=
    if scope.live then scope.context.links
    else scope.context.links.filter fun links => !links.isEmpty
  status := status

def closeScope (i : ℕ) (scope : InstrumentedScope) (status : SpanStatus) : TracedExecution :=
  { s with spans := s.spans ++ [completedSpan i scope status] }.setPhase i scope .done

/-- What happens.  An identifier that is drawn at random is not known yet. -/
def step : ScopeLabel → Option TracedExecution
  | .enter parent request fresh answer =>
    match s.active parent with
    | some active =>
      if fresh.spanId ≠ "" ∧ some fresh.spanId ∉ s.knownIds then
        some (s.enterScope (newScope active parent request fresh answer))
      else none
    | none => none
  | .finish i outcome =>
    match s.scopes[i]? with
    | some scope =>
      match scope.phase with
      | .working => some (s.finishScope i scope outcome)
      | _ => none
    | none => none
  | .note i =>
    match s.scopes[i]? with
    | some scope =>
      match scope.phase with
      | .noting thrown => some (s.noteException i scope thrown)
      | _ => none
    | none => none
  | .close i =>
    match s.scopes[i]? with
    | some scope =>
      match scope.phase with
      | .closing status => some (s.closeScope i scope status)
      | _ => none
    | none => none

/-! ### What is promised -/

/-- Who a span is: an empty text is no identifier. -/
def identity (traceId spanId parentSpanId : Option String) : List (Option String) :=
  [truthy traceId, truthy spanId, truthy parentSpanId]

def traceIdentity (trace : TraceContext) : List (Option String) :=
  identity trace.traceId trace.spanId trace.parentSpanId

/-- The observations of a scope in some phases. -/
def observed (i : ℕ) (phases : List ObservationPhase) : List ScopeObservation :=
  s.observations.filter fun observation => observation.scope = i ∧ observation.phase ∈ phases

/-- The phases that a scope may end in. -/
def endPhases : List ObservationPhase := [.completed, .failed]

def completed (i : ℕ) : List CompletedSpan :=
  s.spans.filter fun span => span.scope = i

/-- There is one, and it is the scope's. -/
def IsOneObservation (scope : InstrumentedScope) (observations : List ScopeObservation) : Prop :=
  ∃ observation, observations = [observation] ∧ observation.kind = scope.request.kind ∧
    observation.name = scope.request.name ∧
      identity observation.context.traceId observation.context.spanId
        observation.context.parentSpanId = traceIdentity scope.context

/-- There is one, and it is the scope's. -/
def IsOneSpan (scope : InstrumentedScope) (spans : List CompletedSpan) : Prop :=
  ∃ span, spans = [span] ∧ span.name = scope.request.name ∧
    identity span.traceId span.spanId span.parentSpanId = traceIdentity scope.context

/-- **What is recorded of a scope**: that it has started, once; how it has ended, once it has; and a
span, once it is over. -/
structure IsRecorded (s : TracedExecution) (i : ℕ) (scope : InstrumentedScope) : Prop where
  started : IsOneObservation scope (s.observed i [.started])
  ended : scope.phase.IsObserved → IsOneObservation scope (s.observed i endPhases)
  working : ¬ scope.phase.IsObserved → s.observed i endPhases = []
  completed : scope.phase.IsOver → IsOneSpan scope (s.completed i)
  pending : ¬ scope.phase.IsOver → s.completed i = []

/-- **Who a scope is**: it belongs to the trace of the execution, it is another span than its parent
and the inbound one, and its parent is the span that is active where it was begun. -/
structure IsIdentified (s : TracedExecution) (scope : InstrumentedScope) : Prop where
  traceId : scope.context.traceId = s.trace.traceId
  spanId : scope.context.spanId ≠ none
  parent : ∃ parent ∈ s.active scope.parent, scope.context.parentSpanId = parent.spanId
  ne_parent : scope.context.spanId ≠ scope.context.parentSpanId
  ne_inbound : scope.context.spanId ≠ s.inbound.spanId

/-- **What is promised of the trace of an execution**: it is the inbound trace, if there was one;
its scopes are recorded and are who they are; and a scope whose end is observed goes on until it is
over. -/
structure IsTraced (s : TracedExecution) : Prop where
  inbound : ∀ traceId ∈ s.inbound.traceId, s.trace.traceId = some traceId
  recorded : ∀ (i : ℕ) (scope : InstrumentedScope), s.scopes[i]? = some scope →
    s.IsRecorded i scope
  identified : ∀ scope ∈ s.scopes, s.IsIdentified scope
  proceeds : ∀ (i : ℕ) (scope : InstrumentedScope), s.scopes[i]? = some scope →
    scope.phase.IsObserved → ¬ scope.phase.IsOver →
      (s.step (.note i)).isSome ∨ (s.step (.close i)).isSome

end TracedExecution

end Doxa
