/-
**Observations.**

What an application does is told to a recorder as observations (`core/src/observation.ts`): a span
has started, or completed, or failed, or something has occurred at once.

Main definitions:

* `Doxa.ObservationKind`, `Doxa.ObservationPhase`;
* `Doxa.Observation` — an observation, with the context that it was made in.
-/

import Mathlib.Data.Rat.Defs

set_option relaxedAutoImplicit false
set_option autoImplicit false

namespace Doxa

inductive ObservationKind
  | execution | http | action | query | transaction | model | event | broadcast
  | realtimeCommand | listener | reaction | signal | job | schedule | authorization | cache
  | mail | sms | log | aiOperation | aiTool | aiCritic | aiRetry | exception
deriving DecidableEq

namespace ObservationKind

def toText : ObservationKind → String
  | execution => "execution"
  | http => "http"
  | action => "action"
  | query => "query"
  | transaction => "transaction"
  | model => "model"
  | event => "event"
  | broadcast => "broadcast"
  | realtimeCommand => "realtime-command"
  | listener => "listener"
  | reaction => "reaction"
  | signal => "signal"
  | job => "job"
  | schedule => "schedule"
  | authorization => "authorization"
  | cache => "cache"
  | mail => "mail"
  | sms => "sms"
  | log => "log"
  | aiOperation => "ai.operation"
  | aiTool => "ai.tool"
  | aiCritic => "ai.critic"
  | aiRetry => "ai.retry"
  | exception => "exception"

end ObservationKind

inductive ObservationPhase
  | started
  | completed
  | failed
  | occurred
deriving DecidableEq

/-- The execution and the span that an observation belongs to. -/
structure ObservationContext where
  executionId : Option String
  correlationId : Option String
  traceId : Option String
  spanId : Option String
  parentSpanId : Option String
deriving DecidableEq

structure Observation where
  id : String
  kind : ObservationKind
  name : String
  phase : ObservationPhase
  roleId : Option String
  durationMilliseconds : Option ℚ
  context : ObservationContext

end Doxa
