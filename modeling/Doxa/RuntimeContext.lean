/-
**The context of an execution.**

Whatever is executed is admitted with a seed, from which `createExecutionContext` makes the context
(`runtime/src/runtime.ts`).  The actor and the initiator are checked; a delegation, a tenant and an
authentication are taken as they are.  The deadline and the cancellation do not go into a queue and
are left out.

Main definitions:

* `Doxa.ExecutionContext`, `Doxa.ExecutionContextSeed`;
* `Doxa.createExecutionContext` — the context that is made of a seed.
-/

import Doxa.DateTimeCodec
import Doxa.ExecutionContext

set_option relaxedAutoImplicit false
set_option autoImplicit false

namespace Doxa

structure TenantRef where
  id : String

inductive TransportKind
  | http | job | schedule | console | websocket | test | internal
deriving DecidableEq

structure TransportContext where
  kind : TransportKind
  name : Option String

structure SpanLink where
  traceId : String
  spanId : String
  attributes : Option (List (String × Json))

structure TraceContext where
  traceId : Option String
  spanId : Option String
  parentSpanId : Option String
  isRemote : Option Bool
  parentIsRemote : Option Bool
  traceFlags : Option ℚ
  links : Option (List SpanLink)

structure ExecutionContext where
  executionId : String
  sourceExecutionId : Option String
  correlationId : String
  causationId : Option String
  actor : ActorRef
  initiator : ActorRef
  delegation : List DelegationHop
  tenant : Option TenantRef
  authentication : AuthenticationContext
  transport : TransportContext
  trace : TraceContext
  locale : String
  timeZone : String

structure ExecutionContextSeed where
  sourceExecutionId : Option String
  correlationId : Option String
  causationId : Option String
  actor : ActorRef
  initiator : Option ActorRef
  delegation : Option (List DelegationHop)
  tenant : Option TenantRef
  authentication : Option AuthenticationContext
  transport : TransportContext
  trace : Option TraceContext
  locale : Option String
  timeZone : Option String

/-! ### UUIDs -/

/-- The characters meet the predicates one by one. -/
def meets : List (Char → Bool) → List Char → Bool
  | [], [] => true
  | p :: ps, c :: cs => p c && meets ps cs
  | _, _ => false

def isOneOf (allowed : String) (c : Char) : Bool := decide (c ∈ allowed.toList)

def isHexDigit (c : Char) : Bool := isOneOf "0123456789abcdefABCDEF" c

/-- The pattern of a UUID. -/
def uuidPattern : List (Char → Bool) :=
  List.replicate 8 isHexDigit ++ [isOneOf "-"] ++ List.replicate 4 isHexDigit ++ [isOneOf "-"] ++
    [isOneOf "12345678"] ++ List.replicate 3 isHexDigit ++ [isOneOf "-"] ++ [isOneOf "89abAB"] ++
      List.replicate 3 isHexDigit ++ [isOneOf "-"] ++ List.replicate 12 isHexDigit

def uuid (text : String) : Bool := meets uuidPattern text.toList

theorem meets_append {ps qs : List (Char → Bool)} {cs ds : List Char} (h : ps.length = cs.length) :
    meets (ps ++ qs) (cs ++ ds) = (meets ps cs && meets qs ds) := by
  induction ps generalizing cs with
  | nil =>
    cases cs with
    | nil => rfl
    | cons c cs => cases h
  | cons p ps ih =>
    cases cs with
    | nil => cases h
    | cons c cs =>
      rw [List.cons_append, List.cons_append, meets, meets, ih (Nat.succ.inj h), Bool.and_assoc]

theorem meets_replicate {p : Char → Bool} {cs : List Char} (h : ∀ c ∈ cs, p c) :
    meets (List.replicate cs.length p) cs := by
  induction cs with
  | nil => rfl
  | cons c cs ih =>
    rw [List.length_cons, List.replicate_succ, meets, h c List.mem_cons_self, Bool.true_and]
    exact ih fun d hd => h d (List.mem_cons_of_mem c hd)

theorem length_of_meets {ps : List (Char → Bool)} {cs : List Char} (h : meets ps cs = true) :
    cs.length = ps.length := by
  induction ps generalizing cs with
  | nil =>
    cases cs with
    | nil => rfl
    | cons c cs => cases h
  | cons p ps ih =>
    cases cs with
    | nil => cases h
    | cons c cs =>
      rw [meets, Bool.and_eq_true] at h
      rw [List.length_cons, List.length_cons, ih h.2]

theorem length_uuid {text : String} (h : uuid text = true) : text.toList.length = 36 :=
  length_of_meets h

theorem ne_empty_of_uuid {text : String} (h : uuid text = true) : text ≠ "" := by
  rintro rfl
  cases length_uuid h

/-- A UUID is not long. -/
theorem codeUnits_uuid_le {text : String} (h : uuid text = true) : codeUnits text ≤ 72 := by
  have hlength := length_uuid h
  have hunits := codeUnits_le text
  omega

/-- What `randomUUID` answers. -/
structure RandomUuid where
  text : String
  isUuid : uuid text

/-! ### Admission -/

/-- What is drawn at random for a context. -/
structure FreshIds where
  executionId : RandomUuid
  traceId : String
  spanId : String

/-- The time zone and the locale of the application. -/
structure TimeDefaults where
  timeZone : String
  locale : String

def validateActor (actor : ActorRef) (label : String) : Except String Unit :=
  if actor.kind = .anonymous then
    if actor.id ≠ none then throw ("Anonymous " ++ label ++ " must not have an ID.") else pure ()
  else if truthy actor.id = none then
    throw (label ++ " kind " ++ actor.kind.text ++ " requires an opaque ID.")
  else pure ()

def freezeSpanLinks (links : List SpanLink) : List SpanLink := links.take 32

/-- The trace of a context. -/
def admittedTrace (fresh : FreshIds) (executionSpanId : Option String) (trace : TraceContext) :
    TraceContext where
  traceId := some (trace.traceId.getD fresh.traceId)
  spanId := some (executionSpanId.getD fresh.spanId)
  parentSpanId := truthy trace.spanId
  isRemote := none
  parentIsRemote := (truthy trace.spanId).map fun _ => decide (trace.isRemote = some true)
  traceFlags := some (trace.traceFlags.getD 1)
  links := (trace.links.filter fun links => !links.isEmpty).map freezeSpanLinks

/-- The authentication of a seed that has none. -/
def defaultAuthentication (actor : ActorRef) : AuthenticationContext where
  state :=
    if actor.kind = .anonymous then .anonymous
    else .authenticated
  identityId := none
  method := none
  assurance := none
  authenticatedAt := none
  sessionId := none
  impersonationGrantId := none
  credentialId := none
  constraints := none

def createExecutionContext (P : Platform) (fresh : FreshIds) (executionSpanId : Option String)
    (defaults : TimeDefaults) (seed : ExecutionContextSeed) : Except String ExecutionContext := do
  validateActor seed.actor "actor"
  let initiator := seed.initiator.getD seed.actor
  validateActor initiator "initiator"
  match P.timeZoneOf (seed.timeZone.getD defaults.timeZone),
      P.canonicalLocale (seed.locale.getD defaults.locale) with
  | some timeZone, some locale =>
    pure
      { executionId := fresh.executionId.text
        sourceExecutionId := truthy seed.sourceExecutionId
        correlationId := seed.correlationId.getD fresh.executionId.text
        causationId := truthy seed.causationId
        actor := seed.actor
        initiator := initiator
        delegation := seed.delegation.getD []
        tenant := seed.tenant
        authentication := seed.authentication.getD (defaultAuthentication seed.actor)
        transport := seed.transport
        trace := admittedTrace fresh executionSpanId
          (seed.trace.getD ⟨none, none, none, none, none, none, none⟩)
        locale := locale
        timeZone := timeZone }
  | _, _ => throw "Execution locale or timeZone is invalid."

end Doxa
