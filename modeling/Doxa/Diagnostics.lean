/-
**Errors in observations and in log records.**

An error that is marked as privacy-sensitive has a diagnostic message, which is to stand in
diagnostics in place of what the error says itself.  What is thrown or logged is a graph of objects:
an error has a cause, and the attributes of a log record are arrays and objects of any depth, which
may lead back to themselves.  `sanitizeObservationError` makes an observation's error of such a
graph; `Logger` makes a record of a message, attributes and an error.  Reading a property of an
object may throw: an observation then says that it is unavailable, and a log record is not written.

Of an object's properties those are kept that the code reads, and the texts that `String` and
`toISOString` make of it.  The stack of the error that stands for an unreadable cause is given.

Main definitions:

* `Doxa.ErrorGraph` — the objects, and the marks of `markPrivacySensitiveError`;
* `Doxa.ErrorGraph.sanitizeObservationError` — the error of an observation;
* `Doxa.Logging.sanitizeValue`, `Doxa.Logging.sanitizeError` — an attribute, the error of a record;
* `Doxa.Logger.log` — `debug`, `info`, `warn`, `error` and `fatal`.
-/

import Doxa.JavaScript
import Doxa.Lib.Json
import Doxa.Lib.OrderedMap
import Doxa.Lib.TextPattern
import Mathlib.Data.Fintype.Card
import Mathlib.Data.Fintype.Fin

set_option relaxedAutoImplicit false
set_option autoImplicit false

namespace Doxa

/-! ### Values and objects -/

/-- A value, in a graph of `n` objects. -/
inductive DiagnosticValue (n : ℕ)
  | undefined
  | null
  | boolean (value : Bool)
  /-- A finite number, and what `String` makes of it. -/
  | number (value : ℚ) (text : String)
  | text (value : String)
  /-- A number that is not finite, a bigint or a symbol: what `String` makes of it. -/
  | primitive (text : String)
  | reference (address : Fin n)

/-- What reading a text property gives. -/
inductive PropertyRead
  | text (value : String)
  | absent
  | throws
deriving DecidableEq

structure ErrorObject (n : ℕ) where
  name : PropertyRead
  message : PropertyRead
  stack : PropertyRead
  /-- `undefined` when there is none, and `none` when reading it throws. -/
  cause : Option (DiagnosticValue n)

inductive HeapObject (n : ℕ)
  | error (error : ErrorObject n)
  /-- What `String` makes of the object; `none` when it throws. -/
  | function (text : Option String)
  /-- A `SecretString`. -/
  | secret
  /-- `toISOString`, which throws when the date is invalid, and `String`. -/
  | date (iso : Option String) (text : String)
  | array (items : List (DiagnosticValue n)) (text : Option String)
  | object (entries : OrderedMap String (DiagnosticValue n)) (text : Option String)

structure ErrorGraph (n : ℕ) where
  objects : Fin n → HeapObject n
  /-- `privacySensitiveErrors`. -/
  marked : Fin n → Option String

namespace ErrorGraph

variable {n : ℕ} (graph : ErrorGraph n)

/-- `value instanceof Error`. -/
def error? : DiagnosticValue n → Option (Fin n × ErrorObject n)
  | .reference address =>
    match graph.objects address with
    | .error error => some (address, error)
    | _ => none
  | _ => none

/-- `String(value)` of a value that is not an error; `none` when it throws. -/
def string : DiagnosticValue n → Option String
  | .undefined => some "undefined"
  | .null => some "null"
  | .boolean value => some (if value then "true" else "false")
  | .number _ text => some text
  | .text value => some value
  | .primitive text => some text
  | .reference address =>
    match graph.objects address with
    | .error _ => none
    | .function text => text
    | .secret => some "[REDACTED]"
    | .date _ text => some text
    | .array _ text => text
    | .object _ text => text

/-- A marked error is replaced by its diagnostic message. -/
def safeDiagnosticError : DiagnosticValue n → DiagnosticValue n
  | .reference address =>
    match graph.marked address with
    | some diagnosticMessage => .text diagnosticMessage
    | none => .reference address
  | value => value

end ErrorGraph

/-- The error of an observation or of a log record. -/
inductive DiagnosticError
  | mk (name : Option String) (message : String) (stack : Option String)
      (cause : Option DiagnosticError)

theorem card_insert_lt {n : ℕ} {seen : Finset (Fin n)} {address : Fin n} (h : address ∉ seen) :
    n - (insert address seen).card < n - seen.card := by
  have hcard : (insert address seen).card = seen.card + 1 := Finset.card_insert_of_notMem h
  have hle : (insert address seen).card ≤ n := by
    simpa using Finset.card_le_univ (insert address seen)
  omega

/-! ### Observations -/

namespace Observation

open TextPattern

/-- `redactText` of `observation.ts`. -/
def redactText (text : String) : String :=
  let connection := inOrder [literal "postgres", optional (literal "ql"), literal "://",
    oneOrMore fun c => !(c = ':' || c = '/' || c = '@' || Js.isWhiteSpace c),
    literal ":",
    replaced (oneOrMore fun c => !(c = '/' || c = '@' || Js.isWhiteSpace c)) "[REDACTED]",
    literal "@"]
  let bearer := inOrder [boundary, literal "bearer", oneOrMore Js.isWhiteSpace,
    replaced (sequence
      (oneOrMore fun c => c.isAlphanum || "._~+/-".toList.contains c) (many fun c => c = '='))
      "[REDACTED]"]
  let assignment := inOrder [boundary,
    anyOf [literal "token", literal "password", literal "secret",
      inOrder [literal "api", optional (one fun c => c = '-' || c = '_'), literal "key"],
      literal "authorization"],
    literal "=",
    replaced (oneOrMore fun c => !(c = '&' || Js.isWhiteSpace c)) "[REDACTED]"]
  String.ofList (assignment.replaceAll none 0
    (bearer.replaceAll none 0 (connection.replaceAll none 0 text.toList)))

/-- `safeErrorProperty`. -/
def safeErrorProperty : PropertyRead → Option String
  | .text value => some value
  | _ => none

/-- `safeErrorName`. -/
def safeErrorName {n : ℕ} (error : ErrorObject n) : String :=
  match safeErrorProperty error.name with
  | some name => if name = "" then "Error" else name
  | none => "Error"

/-- A text property that is there and not empty, redacted. -/
def redactStack (stack : Option String) : Option String :=
  (stack.filter fun text => text ≠ "").map redactText

/-- What becomes of `new Error('[UNAVAILABLE CAUSE]')`, whose stack is given. -/
def unavailableCause (stack : String) : DiagnosticError :=
  .mk (some "Error") (redactText "[UNAVAILABLE CAUSE]")
    (redactStack (some stack)) none

/-- `sanitizeError` of `observation.ts`; `causeStack` is the stack of the error that stands for a
cause that cannot be read. -/
def sanitizeError {n : ℕ} (graph : ErrorGraph n) (causeStack : String) (value : DiagnosticValue n)
    (seen : Finset (Fin n)) : DiagnosticError :=
  match graph.error? value with
  | none =>
    .mk (some "Error")
      (redactText ((graph.string value).getD "[UNAVAILABLE ERROR]")) none none
  | some (address, error) =>
    if _h : address ∈ seen then
      .mk (some (safeErrorName error)) "[CIRCULAR CAUSE]" none none
    else
      .mk (some (safeErrorName error))
        (redactText ((safeErrorProperty error.message).getD "[UNAVAILABLE ERROR MESSAGE]"))
        (redactStack (safeErrorProperty error.stack))
        (match error.cause with
        | none => some (unavailableCause causeStack)
        | some .undefined => none
        | some cause => some (sanitizeError graph causeStack cause (insert address seen)))
termination_by n - seen.card
decreasing_by exact card_insert_lt _h

end Observation

/-- `sanitizeObservationError`. -/
def ErrorGraph.sanitizeObservationError {n : ℕ} (graph : ErrorGraph n) (causeStack : String)
    (error : DiagnosticValue n) : DiagnosticError :=
  Observation.sanitizeError graph causeStack (graph.safeDiagnosticError error) ∅

/-! ### Log records -/

namespace Logging

open TextPattern

/-- `redactText` of `logging.ts`. -/
def redactText (text : String) : String :=
  let bearer := inOrder [boundary,
    replaced (sequence (literal "bearer") (oneOrMore Js.isWhiteSpace)) "Bearer ",
    replaced (oneOrMore fun c => !(c = ',' || c = ';' || Js.isWhiteSpace c)) "[REDACTED]"]
  let connection := inOrder [boundary,
    anyOf [sequence (literal "postgres") (optional (literal "ql")), literal "mysql",
      literal "mariadb", sequence (literal "mongodb") (optional (literal "+srv")), literal "redis"],
    literal "://", oneOrMore fun c => !(c = ':' || c = '/' || c = '@' || Js.isWhiteSpace c),
    literal ":",
    replaced (oneOrMore fun c => !(c = '/' || c = '@' || Js.isWhiteSpace c)) "[REDACTED]",
    literal "@"]
  let assignment := inOrder [boundary,
    anyOf [literal "password", literal "passphrase", literal "secret", literal "token",
      inOrder [literal "api", optional (one fun c => c = '-' || c = '_'), literal "key"]],
    literal "=",
    replaced (oneOrMore fun c => !(c = ',' || c = ';' || Js.isWhiteSpace c)) "[REDACTED]"]
  String.ofList (assignment.replaceAll none 0
    (connection.replaceAll none 0 (bearer.replaceAll none 0 text.toList)))

/-- `key.replace(/([a-z0-9])([A-Z])/g, '$1_$2')`. -/
def segmented : List Char → List Char
  | c :: d :: rest =>
    if (c.isLower || c.isDigit) && d.isUpper then c :: '_' :: segmented (d :: rest)
    else c :: segmented (d :: rest)
  | text => text

/-- `isSensitiveKey` of `logging.ts`. -/
def isSensitiveKey (key : String) : Bool :=
  let separator := one fun c => c = '-' || c = '_' || c = '.'
  let joint := optional (one fun c => c = '-' || c = '_')
  (inOrder [either start separator,
    anyOf [literal "password", literal "passphrase", literal "secret", literal "token",
      literal "authorization", literal "cookie", literal "set-cookie",
      inOrder [literal "api", joint, literal "key"],
      inOrder [literal "private", joint, literal "key"]],
    either separator finish]).test none (segmented key.toList)

/-- The text of a property as a template literal has it. -/
def PropertyRead.interpolated : PropertyRead → Option String
  | .text value => some value
  | .absent => some "undefined"
  | .throws => none

/-- An entry of an object, whose value is not read when the key is sensitive. -/
def sanitizeEntry {α : Type*} (sanitize : α → Option Json) (entry : String × α) :
    Option (String × Json) :=
  if isSensitiveKey entry.1 then some (entry.1, .text "[REDACTED]")
  else (sanitize entry.2).map fun value => (entry.1, value)

/-- `sanitizeValue`, `remaining` levels above the maximal depth; `none` when it throws. -/
def sanitizeValue {n : ℕ} (graph : ErrorGraph n) :
    ℕ → Finset (Fin n) → DiagnosticValue n → Option Json
  | _, _, .undefined => some (.text "[undefined]")
  | _, _, .null => some .null
  | _, _, .boolean value => some (.bool value)
  | _, _, .number value _ => some (.number value)
  | _, _, .text value => some (.text value)
  | _, _, .primitive text => some (.text text)
  | remaining, seen, .reference address =>
    match graph.objects address with
    | .secret => some (.text "[REDACTED]")
    | .function text => text.map .text
    | .date iso _ => iso.map .text
    | .error error => do
        let name ← PropertyRead.interpolated error.name
        let message ← PropertyRead.interpolated error.message
        return .text (name ++ ": " ++ message)
    | .array items _ =>
      match remaining with
      | 0 => some (.text "[MAX_DEPTH]")
      | remaining + 1 =>
        if address ∈ seen then some (.text "[CIRCULAR]")
        else
          (items.mapM (sanitizeValue graph remaining (insert address seen))).map .array
    | .object entries _ =>
      match remaining with
      | 0 => some (.text "[MAX_DEPTH]")
      | remaining + 1 =>
        if address ∈ seen then some (.text "[CIRCULAR]")
        else
          (entries.entries.mapM
            (sanitizeEntry (sanitizeValue graph remaining (insert address seen)))).map
            .object

/-- `sanitizeAttributes`. -/
def sanitizeAttributes {n : ℕ} (graph : ErrorGraph n)
    (entries : List (String × DiagnosticValue n)) : Option (List (String × Json)) :=
  entries.mapM (sanitizeEntry (sanitizeValue graph 8 ∅))

/-- The name of an error, which may be missing. -/
def readName : PropertyRead → Option (Option String)
  | .text value => some (some value)
  | .absent => some none
  | .throws => none

/-- `redactText(error.message)`, which throws when there is no message. -/
def readMessage : PropertyRead → Option String
  | .text value => some (redactText value)
  | _ => none

/-- The stack of an error, if there is one. -/
def readStack : PropertyRead → Option (Option String)
  | .text value => some (if value = "" then none else some (redactText value))
  | .absent => some none
  | .throws => none

/-- `sanitizeError` of `logging.ts`; `none` when it throws. -/
def sanitizeError {n : ℕ} (graph : ErrorGraph n) (value : DiagnosticValue n)
    (seen : Finset (Fin n)) : Option DiagnosticError :=
  match graph.error? (graph.safeDiagnosticError value) with
  | none =>
    (graph.string (graph.safeDiagnosticError value)).map fun text =>
      .mk (some "Error") (redactText text) none none
  | some (address, error) =>
    if _h : address ∈ seen then
      (readName error.name).map fun name => .mk name "[CIRCULAR CAUSE]" none none
    else do
      let name ← readName error.name
      let message ← readMessage error.message
      let stack ← readStack error.stack
      let cause ← match error.cause with
        | none => none
        | some .undefined => some none
        | some cause => (sanitizeError graph cause (insert address seen)).map some
      return .mk name message stack cause
termination_by n - seen.card
decreasing_by exact card_insert_lt _h

/-- The error of a record, if the call has one. -/
def recordedError {n : ℕ} (graph : ErrorGraph n) :
    DiagnosticValue n → Option (Option DiagnosticError)
  | .undefined => some none
  | error => (sanitizeError graph error ∅).map some

end Logging

inductive LogLevel
  | debug
  | info
  | warn
  | error
  | fatal
deriving DecidableEq

/-- `LEVEL_PRIORITY`. -/
def LogLevel.priority : LogLevel → ℕ
  | debug => 10
  | info => 20
  | warn => 30
  | error => 40
  | fatal => 50

structure LogRecord where
  timestamp : String
  level : LogLevel
  channel : String
  message : String
  attributes : OrderedMap String Json
  /-- The fields of the context that are there. -/
  context : List (String × String)
  error : Option DiagnosticError

structure Logger where
  level : LogLevel
  channel : String
  /-- The attributes of the logger, sanitized. -/
  attributes : OrderedMap String Json

/-- What a record says of when and where it was written. -/
structure LogMoment where
  timestamp : String
  context : List (String × String)

/-- A call of one of the methods; what is not given is `undefined`. -/
inductive LogCall (n : ℕ)
  | debug (message : String) (attributes : DiagnosticValue n)
  | info (message : String) (attributes : DiagnosticValue n)
  | warn (message : String) (attributes : DiagnosticValue n)
  | error (message : String) (errorOrAttributes attributes : DiagnosticValue n)
  | fatal (message : String) (errorOrAttributes attributes : DiagnosticValue n)

namespace ErrorGraph

variable {n : ℕ} (graph : ErrorGraph n)

/-- `Object.entries(attributes)`, with `undefined` standing for no attributes; `none` when it
throws. -/
def attributeEntries : DiagnosticValue n → Option (List (String × DiagnosticValue n))
  | .undefined => some []
  | .null => none
  | .text value =>
    some (value.toList.zipIdx.map fun c => (toString c.2, .text c.1.toString))
  | .reference address =>
    match graph.objects address with
    | .object entries _ => some entries.entries
    | .array items _ => some (items.zipIdx.map fun item => (toString item.2, item.1))
    | _ => some []
  | _ => some []

end ErrorGraph

/-- The arguments of `write`. -/
structure WriteArguments (n : ℕ) where
  level : LogLevel
  message : String
  attributes : DiagnosticValue n
  error : DiagnosticValue n

/-- How `error` and `fatal` read their arguments. -/
def writeError {n : ℕ} (graph : ErrorGraph n) (level : LogLevel) (message : String)
    (errorOrAttributes attributes : DiagnosticValue n) : WriteArguments n :=
  if attributes matches .undefined ∧ (graph.error? errorOrAttributes).isNone then
    ⟨level, message, errorOrAttributes, .undefined⟩
  else ⟨level, message, attributes, errorOrAttributes⟩

/-- What a call passes to `write`. -/
def LogCall.arguments {n : ℕ} (graph : ErrorGraph n) : LogCall n → WriteArguments n
  | debug message attributes => ⟨.debug, message, attributes, .undefined⟩
  | info message attributes => ⟨.info, message, attributes, .undefined⟩
  | warn message attributes => ⟨.warn, message, attributes, .undefined⟩
  | error message errorOrAttributes attributes =>
    writeError graph .error message errorOrAttributes attributes
  | fatal message errorOrAttributes attributes =>
    writeError graph .fatal message errorOrAttributes attributes

/-- `write`: the record that the sink is given, if any. -/
def Logger.write {n : ℕ} (logger : Logger) (moment : LogMoment) (graph : ErrorGraph n)
    (arguments : WriteArguments n) : Option LogRecord :=
  if arguments.level.priority < logger.level.priority then none
  else do
    let entries ← graph.attributeEntries arguments.attributes
    let attributes ← Logging.sanitizeAttributes graph entries
    let error ← Logging.recordedError graph arguments.error
    return {
      timestamp := moment.timestamp
      level := arguments.level
      channel := logger.channel
      message := Logging.redactText arguments.message
      attributes := logger.attributes.setAll attributes
      context := moment.context
      error := error }

/-- What a call writes. -/
def Logger.log {n : ℕ} (logger : Logger) (moment : LogMoment) (graph : ErrorGraph n)
    (call : LogCall n) : Option LogRecord :=
  logger.write moment graph (call.arguments graph)

end Doxa
