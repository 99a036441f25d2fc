/-
**What marked errors leave in diagnostics.**

The texts of a marked error are its message and its stack.  Diagnostics keep them private when they
come out the same for every graph that differs from the given one in the texts of marked errors
only.  The error of a log record does: a marked error is replaced wherever it is found on the way
from cause to cause.  The error of an observation is replaced at the top only, and an attribute that
is an error is written with its message.

Main definitions:

* `Doxa.ErrorGraph.Alike` — two graphs differ in the texts of marked errors only;
* `Doxa.ErrorGraph.CauseStep` — from an error to its cause;
* `Doxa.Logging.Shows` — what is read of an attribute;
* `Doxa.Logging.Readable` — nothing else than a text of a marked error keeps a record from being
  written.

Main results:

* `Doxa.Logging.sanitizeError_alike` — **the error of a log record is private**;
* `Doxa.Observation.private_iff`, `Doxa.Logger.private_iff` — **when an observation's error and a
  log record are**;
* `Doxa.diagnostics_private_iff` — both.
-/

import Doxa.Diagnostics
import Mathlib.Logic.Relation

set_option relaxedAutoImplicit false
set_option autoImplicit false

namespace Doxa

open ErrorGraph Logging

open Relation

namespace ErrorGraph

variable {n : ℕ} {graph graph' : ErrorGraph n}

/-! ### Graphs that differ in the texts of marked errors -/

variable {value : DiagnosticValue n}

/-- The second graph differs from the first one in messages and stacks of marked errors only. -/
structure Alike (graph graph' : ErrorGraph n) : Prop where
  marked : graph'.marked = graph.marked
  objects : ∀ address, graph'.objects address = graph.objects address ∨
    (graph.marked address).isSome = true ∧ ∃ error message stack,
      graph.objects address = .error error ∧
      graph'.objects address = .error { error with message := message, stack := stack }

/-- The value is an error that is marked. -/
def IsMarkedError (graph : ErrorGraph n) (value : DiagnosticValue n) : Prop :=
  ∃ address error, graph.error? value = some (address, error) ∧
    (graph.marked address).isSome = true

/-- Every marked error with the message. -/
def withMessages (graph : ErrorGraph n) (message : String) : ErrorGraph n where
  objects address :=
    match graph.objects address with
    | .error error =>
      if (graph.marked address).isSome then
        .error { error with message := .text message }
      else .error error
    | object => object
  marked := graph.marked

theorem error?_eq_some_iff {address : Fin n} {error : ErrorObject n} :
    graph.error? value = some (address, error) ↔
      value = .reference address ∧
        graph.objects address = .error error := by
  cases value with
  | reference address' =>
    rw [error?]
    constructor
    · intro h
      split at h
      · next error' herror =>
          cases h
          exact ⟨rfl, herror⟩
      · cases h
    · rintro ⟨heq, herror⟩
      cases heq
      rw [herror]
  | _ => simp [error?]

theorem alike_withMessages (graph : ErrorGraph n) (message : String) :
    graph.Alike (graph.withMessages message) where
  marked := rfl
  objects address := by
    unfold withMessages
    simp only
    split
    · next error herror =>
        split
        · next hmarked => exact .inr ⟨hmarked, error, _, error.stack, herror, rfl⟩
        · exact .inl herror.symm
    · exact .inl rfl

/-- An object that is not a marked error is the same. -/
theorem Alike.objects_eq (h : graph.Alike graph') {address : Fin n}
    (hmarked : ¬graph.IsMarkedError (.reference address)) :
    graph'.objects address = graph.objects address := by
  rcases h.objects address with heq | ⟨hsome, error, message, stack, herror, -⟩
  · exact heq
  · exact absurd ⟨address, error, error?_eq_some_iff.2 ⟨rfl, herror⟩, hsome⟩ hmarked

theorem Alike.error?_eq (h : graph.Alike graph') (hmarked : ¬graph.IsMarkedError value) :
    graph'.error? value = graph.error? value := by
  cases value with
  | reference address => simp only [error?, h.objects_eq hmarked]
  | _ => rfl

theorem Alike.string_eq (h : graph.Alike graph') (value : DiagnosticValue n) :
    graph'.string value = graph.string value := by
  cases value with
  | reference address =>
    rcases h.objects address with heq | ⟨-, error, message, stack, herror, herror'⟩
    · simp only [string, heq]
    · simp only [string, herror, herror']
  | _ => rfl

theorem Alike.safeDiagnosticError_eq (h : graph.Alike graph') (value : DiagnosticValue n) :
    graph'.safeDiagnosticError value = graph.safeDiagnosticError value := by
  cases value with
  | reference address => simp only [safeDiagnosticError, h.marked]
  | _ => rfl

/-- A marked error is no error any more when it is replaced. -/
theorem not_isMarkedError_safeDiagnosticError (value : DiagnosticValue n) :
    ¬graph.IsMarkedError (graph.safeDiagnosticError value) := by
  rintro ⟨address, error, herror, hmarked⟩
  obtain ⟨heq, -⟩ := error?_eq_some_iff.1 herror
  cases value with
  | reference address' =>
    rw [safeDiagnosticError] at heq
    split at heq
    · cases heq
    · next hnone =>
        cases heq
        rw [hnone] at hmarked
        cases hmarked
  | _ => cases heq

theorem safeDiagnosticError_cases (value : DiagnosticValue n) :
    graph.safeDiagnosticError value = value ∨
      ∃ message, graph.safeDiagnosticError value = .text message := by
  cases value with
  | reference address =>
    rw [safeDiagnosticError]
    cases graph.marked address with
    | some message => exact .inr ⟨message, rfl⟩
    | none => exact .inl rfl
  | _ => exact .inl rfl

theorem error?_eq_none_of_safeDiagnosticError {message : String}
    (hsafe : graph.safeDiagnosticError value = .text message)
    (hmarked : ¬graph.IsMarkedError value) : graph.error? value = none := by
  cases hvalue : graph.error? value with
  | none => rfl
  | some entry =>
    obtain ⟨address, error⟩ := entry
    obtain ⟨rfl, -⟩ := error?_eq_some_iff.1 hvalue
    refine absurd ⟨address, error, hvalue, ?_⟩ hmarked
    rw [safeDiagnosticError] at hsafe
    split at hsafe
    · next hsome => rw [hsome]; rfl
    · cases hsafe

/-- What the errors of the graph with other messages are. -/
theorem error?_withMessages {message : String} :
    (graph.withMessages message).error? value = (graph.error? value).map fun entry =>
      (entry.1, if (graph.marked entry.1).isSome then
        { entry.2 with message := .text message } else entry.2) := by
  cases value with
  | reference address =>
    simp only [error?, withMessages]
    cases graph.objects address with
    | error error => by_cases hmarked : (graph.marked address).isSome = true <;> simp [hmarked]
    | _ => rfl
  | _ => rfl

/-! ### Causes -/

/-- From an error to its cause. -/
def CauseStep (graph : ErrorGraph n) (value cause : DiagnosticValue n) : Prop :=
  ∃ address error, graph.error? value = some (address, error) ∧ error.cause = some cause ∧
    cause ≠ .undefined

/-- What is no error leads nowhere. -/
theorem not_isMarkedError_of_error?_eq_none {value' : DiagnosticValue n}
    (hvalue : graph.error? value = none) (hreach : ReflTransGen graph.CauseStep value value') :
    ¬graph.IsMarkedError value' := by
  rcases hreach.cases_head with rfl | ⟨cause, ⟨address, error, herror, -⟩, -⟩
  · rintro ⟨address, error, herror, -⟩
    rw [hvalue] at herror
    cases herror
  · rw [hvalue] at herror
    cases herror

end ErrorGraph

/-- To show something of the errors seen, it may be taken for granted when one more is seen. -/
theorem seen_induction {n : ℕ} {P : Finset (Fin n) → Prop}
    (insert : ∀ seen, (∀ address ∉ seen, P (insert address seen)) → P seen)
    (seen : Finset (Fin n)) : P seen := by
  induction hcard : n - seen.card using Nat.strong_induction_on generalizing seen with
  | _ k ih =>
    refine insert seen ?_
    intro address hnot
    exact ih _ (hcard ▸ card_insert_lt hnot) _ rfl

/-- The errors that were seen have a property, and lead to one another or to the value. -/
structure Seen {n : ℕ} (step : DiagnosticValue n → DiagnosticValue n → Prop)
    (P : DiagnosticValue n → Prop) (value : DiagnosticValue n) (seen : Finset (Fin n)) : Prop where
  holds : ∀ address ∈ seen, P (.reference address)
  closed : ∀ address ∈ seen, ∀ cause, step (.reference address) cause →
    cause = value ∨ ∃ address' ∈ seen, cause = .reference address'

section Seen

variable {n : ℕ} {step : DiagnosticValue n → DiagnosticValue n → Prop}
  {P : DiagnosticValue n → Prop} {seen : Finset (Fin n)} {address : Fin n}

/-- Whatever an error that was seen leads to was seen. -/
theorem Seen.of_mem (h : Seen step P (.reference address) seen)
    (hmem : address ∈ seen) {value : DiagnosticValue n}
    (hreach : ReflTransGen step (.reference address) value) : P value := by
  have hvalue : ∃ address' ∈ seen, value = .reference address' := by
    induction hreach with
    | refl => exact ⟨address, hmem, rfl⟩
    | tail _ hstep ih =>
      obtain ⟨address', hmem', rfl⟩ := ih
      rcases h.closed address' hmem' _ hstep with rfl | hcause
      · exact ⟨address, hmem, rfl⟩
      · exact hcause
  obtain ⟨address', hmem', rfl⟩ := hvalue
  exact h.holds address' hmem'

/-- One more error is seen, and its cause is next. -/
theorem Seen.insert (h : Seen step P (.reference address) seen)
    (haddress : P (.reference address)) {cause : DiagnosticValue n}
    (hcause : ∀ cause', step (.reference address) cause' → cause' = cause) :
    Seen step P cause (insert address seen) where
  holds address' hmem' := by
    rcases Finset.mem_insert.1 hmem' with rfl | hold
    · exact haddress
    · exact h.holds address' hold
  closed address' hmem' cause' hstep := by
    rcases Finset.mem_insert.1 hmem' with rfl | hold
    · exact .inl (hcause cause' hstep)
    · right
      rcases h.closed address' hold cause' hstep with rfl | ⟨address'', hmem'', rfl⟩
      · exact ⟨address, Finset.mem_insert_self _ _, rfl⟩
      · exact ⟨address'', Finset.mem_insert_of_mem hmem'', rfl⟩

end Seen

/-! ### Observations -/

namespace Observation

variable {n : ℕ} {graph graph' : ErrorGraph n}

theorem redactText_ne : redactText "a" ≠ redactText "b" := by decide

/-- **An error that leads to no marked one** is the same in an observation, whatever marked errors
say. -/
theorem sanitizeError_alike (h : graph.Alike graph') (causeStack : String)
    (value : DiagnosticValue n) (seen : Finset (Fin n))
    (hclean : ∀ value', ReflTransGen graph.CauseStep value value' →
      ¬graph.IsMarkedError value') :
    sanitizeError graph' causeStack value seen = sanitizeError graph causeStack value seen := by
  induction seen using seen_induction generalizing value with
  | insert seen ih =>
    have herror := h.error?_eq (hclean value ReflTransGen.refl)
    rw [sanitizeError, sanitizeError.eq_1 graph, herror, h.string_eq]
    cases hvalue : graph.error? value with
    | none => rfl
    | some entry =>
      obtain ⟨address, error⟩ := entry
      simp only
      split
      · rfl
      · next hseen =>
          congr 1
          have hcause : ∀ cause, error.cause = some cause → cause ≠ .undefined →
              sanitizeError graph' causeStack cause (insert address seen) =
                sanitizeError graph causeStack cause (insert address seen) := by
            intro cause hcause hundefined
            refine ih address hseen cause ?_
            intro value' hreach
            exact hclean value' (hreach.head ⟨address, error, hvalue, hcause, hundefined⟩)
          split
          · rfl
          · rfl
          · next cause hne hcause' =>
              rw [hcause cause hcause' hne]

/-- **An observation's error that two messages leave the same** comes from an error that leads to no
marked one. -/
theorem clean_of_sanitizeError_eq (causeStack : String) (value : DiagnosticValue n)
    (seen : Finset (Fin n))
    (hseen : Seen graph.CauseStep (fun value => ¬graph.IsMarkedError value) value seen)
    (heq : sanitizeError (graph.withMessages "a") causeStack value seen =
      sanitizeError (graph.withMessages "b") causeStack value seen)
    {value' : DiagnosticValue n} (hreach : ReflTransGen graph.CauseStep value value') :
    ¬graph.IsMarkedError value' := by
  induction seen using seen_induction generalizing value with
  | insert seen ih =>
    rw [sanitizeError, sanitizeError.eq_1 (graph.withMessages "b"),
      error?_withMessages, error?_withMessages] at heq
    cases hvalue : graph.error? value with
    | none => exact not_isMarkedError_of_error?_eq_none hvalue hreach
    | some entry =>
      obtain ⟨address, error⟩ := entry
      obtain ⟨rfl, hobject⟩ := ErrorGraph.error?_eq_some_iff.1 hvalue
      by_cases hmem : address ∈ seen
      · exact hseen.of_mem hmem hreach
      · simp only [hvalue, Option.map_some, dif_neg hmem] at heq
        injection heq with _ hmessage _ hcause
        have hclean : ¬graph.IsMarkedError (.reference address) := by
          rintro ⟨address', error', herror', hmarked⟩
          rw [hvalue] at herror'
          cases herror'
          rw [if_pos hmarked, if_pos hmarked] at hmessage
          exact redactText_ne hmessage
        have hmarked : (graph.marked address).isSome = false := by
          rw [← Bool.not_eq_true]
          exact fun hmarked => hclean ⟨address, error, hvalue, hmarked⟩
        rcases hreach.cases_head with rfl | ⟨cause, hstep, hreach⟩
        · exact hclean
        · obtain ⟨address', error', herror', hcause', hundefined⟩ := id hstep
          rw [hvalue] at herror'
          cases herror'
          refine ih address hmem cause (hseen.insert hclean ?_) ?_ hreach
          · rintro cause' ⟨address'', error', herror', hcause'', -⟩
            rw [hvalue] at herror'
            cases herror'
            exact Option.some.inj (hcause''.symm.trans hcause')
          · simp only [hmarked, Bool.false_eq_true, if_false] at hcause
            rw [hcause'] at hcause
            cases cause with
            | undefined => exact absurd rfl hundefined
            | _ => simpa using hcause

/-- **When the error of an observation is private**: when the error is marked itself, or leads to no
marked one. -/
theorem private_iff (graph : ErrorGraph n) (causeStack : String) (value : DiagnosticValue n) :
    (∀ graph', graph.Alike graph' → graph'.sanitizeObservationError causeStack value =
        graph.sanitizeObservationError causeStack value) ↔
      graph.IsMarkedError value ∨
        ∀ value', ReflTransGen graph.CauseStep value value' → ¬graph.IsMarkedError value' := by
  constructor
  · intro h
    by_cases hmarked : graph.IsMarkedError value
    · exact .inl hmarked
    · right
      intro value' hreach
      rcases graph.safeDiagnosticError_cases value with hsafe | ⟨message, hsafe⟩
      · have heq := (h _ (graph.alike_withMessages "a")).trans
          (h _ (graph.alike_withMessages "b")).symm
        unfold sanitizeObservationError at heq
        rw [(graph.alike_withMessages "a").safeDiagnosticError_eq,
          (graph.alike_withMessages "b").safeDiagnosticError_eq, hsafe] at heq
        exact clean_of_sanitizeError_eq causeStack value ∅ ⟨by simp, by simp⟩ heq hreach
      · -- what is replaced and no marked error is no error
        exact not_isMarkedError_of_error?_eq_none
          (error?_eq_none_of_safeDiagnosticError hsafe hmarked) hreach
  · intro h graph' halike
    unfold sanitizeObservationError
    rw [halike.safeDiagnosticError_eq]
    refine sanitizeError_alike halike causeStack _ ∅ ?_
    rcases graph.safeDiagnosticError_cases value with hsafe | ⟨message, hsafe⟩
    · rw [hsafe]
      rcases h with hmarked | hclean
      · rw [← hsafe] at hmarked
        exact absurd hmarked (not_isMarkedError_safeDiagnosticError value)
      · exact hclean
    · rw [hsafe]
      intro value' hreach
      exact not_isMarkedError_of_error?_eq_none rfl hreach

end Observation

/-! ### The error of a log record -/

namespace Logging

variable {n : ℕ} {graph graph' : ErrorGraph n}

/-- **The error of a log record is private.** -/
theorem sanitizeError_alike (h : graph.Alike graph') (value : DiagnosticValue n)
    (seen : Finset (Fin n)) : sanitizeError graph' value seen = sanitizeError graph value seen := by
  induction seen using seen_induction generalizing value with
  | insert seen ih =>
    have herror := h.error?_eq (graph.not_isMarkedError_safeDiagnosticError value)
    rw [sanitizeError, sanitizeError.eq_1 graph, h.safeDiagnosticError_eq, herror, h.string_eq]
    cases hvalue : graph.error? (graph.safeDiagnosticError value) with
    | none => rfl
    | some entry =>
      obtain ⟨address, error⟩ := entry
      by_cases hseen : address ∈ seen
      · simp only [dif_pos hseen]
      · simp only [dif_neg hseen, ih address hseen]

/-- From an error to its cause, past what is replaced. -/
def CauseStep (graph : ErrorGraph n) (value cause : DiagnosticValue n) : Prop :=
  graph.CauseStep (graph.safeDiagnosticError value) cause

/-- What is read of an error, or of something else that was thrown, can be read. -/
def ErrorReads (graph : ErrorGraph n) (value : DiagnosticValue n) : Prop :=
  match graph.error? (graph.safeDiagnosticError value) with
  | none => (graph.string (graph.safeDiagnosticError value)).isSome = true
  | some (_, error) =>
    error.name ≠ .throws ∧ (∃ message, error.message = .text message) ∧
      error.stack ≠ .throws ∧ error.cause ≠ none

/-- The error and all its causes can be read. -/
def ErrorReadable (graph : ErrorGraph n) (value : DiagnosticValue n) : Prop :=
  ∀ value', ReflTransGen (CauseStep graph) value value' → ErrorReads graph value'

variable {value : DiagnosticValue n} {seen : Finset (Fin n)}

/-- What an error that was not seen takes to be read. -/
theorem isSome_sanitizeError {address : Fin n} {error : ErrorObject n}
    (hvalue : graph.error? (graph.safeDiagnosticError value) = some (address, error))
    (hseen : address ∉ seen) :
    (sanitizeError graph value seen).isSome = true ↔
      ErrorReads graph value ∧ ∀ cause, error.cause = some cause →
        cause ≠ .undefined →
        (sanitizeError graph cause (insert address seen)).isSome = true := by
  rw [sanitizeError, ErrorReads, hvalue]
  simp only [dif_neg hseen]
  obtain ⟨name, message, stack, cause⟩ := error
  have hname : (readName name).isSome = true ↔ name ≠ .throws := by
    cases name <;> simp [readName]
  have hmessage : (readMessage message).isSome = true ↔
      ∃ text, message = .text text := by
    cases message <;> simp [readMessage]
  have hstack : (readStack stack).isSome = true ↔ stack ≠ .throws := by
    cases stack <;> simp [readStack]
  rw [← hname, ← hmessage, ← hstack]
  cases readName name with
  | none => simp
  | some name =>
    cases readMessage message with
    | none => simp
    | some message =>
      cases readStack stack with
      | none => simp
      | some stack =>
        have hmap : ∀ read : Option DiagnosticError,
            ((read.map some).bind fun cause =>
              some (DiagnosticError.mk name message stack cause)).isSome = read.isSome := by
          intro read
          cases read <;> rfl
        rcases cause with _ | cause
        · simp
        · cases cause <;> simp [hmap]

theorem isSome_sanitizeError_of_readable (value : DiagnosticValue n) (seen : Finset (Fin n))
    (h : ErrorReadable graph value) : (sanitizeError graph value seen).isSome = true := by
  induction seen using seen_induction generalizing value with
  | insert seen ih =>
    have hreads := h value ReflTransGen.refl
    cases hvalue : graph.error? (graph.safeDiagnosticError value) with
    | none =>
      rw [sanitizeError, hvalue]
      rw [ErrorReads, hvalue] at hreads
      simpa using hreads
    | some entry =>
      obtain ⟨address, error⟩ := entry
      by_cases hseen : address ∈ seen
      · rw [sanitizeError, hvalue]
        rw [ErrorReads, hvalue] at hreads
        simp only [dif_pos hseen]
        cases hname : error.name <;> simp_all [readName]
      · rw [isSome_sanitizeError hvalue hseen]
        refine ⟨hreads, ?_⟩
        intro cause hcause hundefined
        refine ih address hseen cause ?_
        intro value' hreach
        exact h value' (hreach.head ⟨address, error, hvalue, hcause, hundefined⟩)

theorem readable_of_isSome_sanitizeError (value : DiagnosticValue n) (seen : Finset (Fin n))
    (hseen : Seen (CauseStep graph) (ErrorReads graph) value seen)
    (hsome : (sanitizeError graph value seen).isSome = true) : ErrorReadable graph value := by
  intro value' hreach
  induction seen using seen_induction generalizing value with
  | insert seen ih =>
    cases hvalue : graph.error? (graph.safeDiagnosticError value) with
    | none =>
      rcases hreach.cases_head with rfl | ⟨cause, ⟨address, error, herror, -⟩, -⟩
      · rw [sanitizeError, hvalue] at hsome
        rw [ErrorReads, hvalue]
        simpa using hsome
      · rw [hvalue] at herror
        cases herror
    | some entry =>
      obtain ⟨address, error⟩ := entry
      have heq : value = .reference address := by
        obtain ⟨hreference, -⟩ := ErrorGraph.error?_eq_some_iff.1 hvalue
        rcases graph.safeDiagnosticError_cases value with hsafe | ⟨message, hsafe⟩
        · rw [← hsafe, hreference]
        · rw [hsafe] at hreference
          cases hreference
      subst heq
      by_cases hmem : address ∈ seen
      · exact hseen.of_mem hmem hreach
      · obtain ⟨hreads, hcauses⟩ := (isSome_sanitizeError hvalue hmem).1 hsome
        rcases hreach.cases_head with rfl | ⟨cause, hstep, hreach⟩
        · exact hreads
        · obtain ⟨address', error', herror', hcause', hundefined⟩ := id hstep
          rw [hvalue] at herror'
          cases herror'
          refine ih address hmem cause (hseen.insert hreads ?_)
            (hcauses cause hcause' hundefined) hreach
          rintro cause' ⟨address'', error', herror', hcause'', -⟩
          rw [hvalue] at herror'
          cases herror'
          exact Option.some.inj (hcause''.symm.trans hcause')

/-! ### The attributes of a log record -/

variable {remaining : ℕ}

/-- What is read of an attribute: from `remaining` levels above the maximal depth, through objects
that are not on the way already. -/
inductive Shows (graph : ErrorGraph n) :
    ℕ → Finset (Fin n) → DiagnosticValue n → Fin n → Prop
  | here (remaining : ℕ) (seen : Finset (Fin n)) (address : Fin n) :
      Shows graph remaining seen (.reference address) address
  | item {remaining : ℕ} {seen : Finset (Fin n)} {address address' : Fin n}
      {items : List (DiagnosticValue n)} {text : Option String} {value : DiagnosticValue n}
      (hobject : graph.objects address = .array items text) (hseen : address ∉ seen)
      (hvalue : value ∈ items)
      (hshows : Shows graph remaining (insert address seen) value address') :
      Shows graph (remaining + 1) seen (.reference address) address'
  | entry {remaining : ℕ} {seen : Finset (Fin n)} {address address' : Fin n}
      {entries : OrderedMap String (DiagnosticValue n)} {text : Option String} {key : String}
      {value : DiagnosticValue n} (hobject : graph.objects address = .object entries text)
      (hseen : address ∉ seen) (hkey : isSensitiveKey key = false)
      (hvalue : (key, value) ∈ entries.entries)
      (hshows : Shows graph remaining (insert address seen) value address') :
      Shows graph (remaining + 1) seen (.reference address) address'

/-- What is written of an object in one piece can be read. -/
def ValueReads : HeapObject n → Prop
  | .error error =>
    error.name ≠ .throws ∧ error.message ≠ .throws
  | .function text => text.isSome = true
  | .date iso _ => iso.isSome = true
  | _ => True

/-- What is not read does not matter. -/
theorem sanitizeValue_congr
    (h : ∀ address, Shows graph remaining seen value address →
      graph'.objects address = graph.objects address) :
    sanitizeValue graph' remaining seen value = sanitizeValue graph remaining seen value := by
  induction remaining generalizing seen value with
  | zero =>
    cases value with
    | reference address => simp only [sanitizeValue, h address (.here _ _ _)]
    | _ => rfl
  | succ remaining ih =>
    cases value with
    | reference address =>
      simp only [sanitizeValue, h address (.here _ _ _)]
      cases hobject : graph.objects address with
      | array items text =>
        simp only
        split
        · rfl
        · next hseen =>
            congr 1
            refine Json.mapM_congr ?_
            intro item hitem
            refine ih ?_
            intro address' hshows
            exact h address' (.item hobject hseen hitem hshows)
      | object entries text =>
        simp only
        split
        · rfl
        · next hseen =>
            congr 1
            refine Json.mapM_congr ?_
            rintro ⟨key, value⟩ hentry
            unfold sanitizeEntry
            split
            · rfl
            · next hkey =>
                rw [ih]
                intro address' hshows
                exact h address'
                  (.entry hobject hseen (Bool.not_eq_true _ ▸ hkey) hentry hshows)
      | _ => rfl
    | _ => rfl

theorem isSome_sanitizeEntry {α : Type*} {sanitize : α → Option Json} {entry : String × α} :
    (sanitizeEntry sanitize entry).isSome = true ↔
      (isSensitiveKey entry.1 = false → (sanitize entry.2).isSome = true) := by
  unfold sanitizeEntry
  split
  · next hkey => simp [hkey]
  · next hkey => simp [hkey]

theorem sanitizeEntry_inj {α : Type*} {sanitize sanitize' : α → Option Json} {key : String}
    {value : α}
    (hkey : isSensitiveKey key = false)
    (heq : sanitizeEntry sanitize (key, value) = sanitizeEntry sanitize' (key, value)) :
    sanitize value = sanitize' value := by
  simp only [sanitizeEntry, hkey, Bool.false_eq_true, if_false] at heq
  exact Option.map_injective (Prod.mk_right_injective key) heq

theorem isSome_interpolated {property : PropertyRead} :
    (PropertyRead.interpolated property).isSome = true ↔ property ≠ .throws := by
  cases property <;> simp [PropertyRead.interpolated]

/-- An error is written with its name and its message. -/
theorem isSome_errorText (error : ErrorObject n) :
    (do
      let name ← PropertyRead.interpolated error.name
      let message ← PropertyRead.interpolated error.message
      return .text (name ++ ": " ++ message) : Option Json).isSome = true ↔
      ValueReads (.error error) := by
  rw [ValueReads, ← isSome_interpolated, ← isSome_interpolated]
  cases PropertyRead.interpolated error.name with
  | none => simp
  | some name => cases PropertyRead.interpolated error.message <;> simp

/-- Of an object that is written in one piece nothing else is read. -/
theorem forall_shows_iff {address : Fin n} {P : Fin n → Prop}
    (hitems : ∀ items text, graph.objects address = .array items text →
      remaining = 0 ∨ address ∈ seen)
    (hentries : ∀ entries text, graph.objects address = .object entries text →
      remaining = 0 ∨ address ∈ seen) :
    (∀ address', Shows graph remaining seen (.reference address) address' →
      P address') ↔ P address := by
  constructor
  · intro h
    exact h address (.here _ _ _)
  · intro h address' hshows
    cases hshows with
    | here => exact h
    | item hobject hseen hvalue hshows =>
      rcases hitems _ _ hobject with hzero | hmem
      · cases hzero
      · exact absurd hmem hseen
    | entry hobject hseen hkey hvalue hshows =>
      rcases hentries _ _ hobject with hzero | hmem
      · cases hzero
      · exact absurd hmem hseen

/-- **An attribute is written when all that is read of it can be read.** -/
theorem isSome_sanitizeValue :
    (sanitizeValue graph remaining seen value).isSome = true ↔
      ∀ address, Shows graph remaining seen value address → ValueReads (graph.objects address) := by
  induction remaining generalizing seen value with
  | zero =>
    cases value with
    | reference address =>
      rw [forall_shows_iff (fun _ _ _ => .inl rfl) (fun _ _ _ => .inl rfl)]
      simp only [sanitizeValue]
      cases hobject : graph.objects address with
      | error error => exact isSome_errorText error
      | _ => simp [ValueReads]
    | _ => exact iff_of_true rfl fun _ hshows => by cases hshows
  | succ remaining ih =>
    cases value with
    | reference address =>
      simp only [sanitizeValue]
      cases hobject : graph.objects address with
      | array items text =>
        by_cases hseen : address ∈ seen
        · rw [forall_shows_iff (fun _ _ _ => .inr hseen) (fun _ _ _ => .inr hseen),
            hobject]
          simp [hseen, ValueReads]
        · simp only [hseen, if_false, Option.isSome_map, Json.isSome_mapM, ih]
          constructor
          · intro h address' hshows
            cases hshows with
            | here => rw [hobject]; trivial
            | item hobject' _ hvalue hshows =>
              rw [hobject] at hobject'
              cases hobject'
              exact h _ hvalue address' hshows
            | entry hobject' =>
              rw [hobject] at hobject'
              cases hobject'
          · intro h item hitem address' hshows
            exact h address' (.item hobject hseen hitem hshows)
      | object entries text =>
        by_cases hseen : address ∈ seen
        · rw [forall_shows_iff (fun _ _ _ => .inr hseen) (fun _ _ _ => .inr hseen),
            hobject]
          simp [hseen, ValueReads]
        · simp only [hseen, if_false, Option.isSome_map, Json.isSome_mapM,
            isSome_sanitizeEntry, ih]
          constructor
          · intro h address' hshows
            cases hshows with
            | here => rw [hobject]; trivial
            | item hobject' =>
              rw [hobject] at hobject'
              cases hobject'
            | entry hobject' _ hkey hvalue hshows =>
              rw [hobject] at hobject'
              cases hobject'
              exact h _ hvalue hkey address' hshows
          · rintro h ⟨key, value⟩ hentry hkey address' hshows
            exact h address' (.entry hobject hseen hkey hentry hshows)
      | error error =>
        rw [forall_shows_iff (by simp [hobject]) (by simp [hobject]), hobject]
        exact isSome_errorText error
      | _ =>
        rw [forall_shows_iff (by simp [hobject]) (by simp [hobject]), hobject]
        simp [ValueReads]
    | _ => exact iff_of_true rfl fun _ hshows => by cases hshows

/-- **Two messages of a marked error that is read are told apart.** -/
theorem sanitizeValue_ne {address : Fin n} (hshows : Shows graph remaining seen value address)
    (hmarked : graph.IsMarkedError (.reference address))
    (hsome : (sanitizeValue (graph.withMessages "a") remaining seen value).isSome = true) :
    sanitizeValue (graph.withMessages "a") remaining seen value ≠
      sanitizeValue (graph.withMessages "b") remaining seen value := by
  induction hshows with
  | here remaining seen address =>
    obtain ⟨address', error, herror, hmark⟩ := hmarked
    obtain ⟨heq, hobject⟩ := ErrorGraph.error?_eq_some_iff.1 herror
    cases heq
    simp only [sanitizeValue, withMessages, hobject, hmark, if_true] at hsome ⊢
    intro heq
    cases hname : PropertyRead.interpolated error.name with
    | none => simp [hname] at hsome
    | some name =>
      rw [hname] at heq
      simp [PropertyRead.interpolated] at heq
  | @item remaining seen address address' items text value hobject hseen hvalue hshows ih =>
    simp only [sanitizeValue, withMessages, hobject, hseen, if_false] at hsome ⊢
    intro heq
    rw [Option.isSome_map] at hsome
    have hitems := Option.map_injective (fun _ _ h => by injection h) heq
    exact ih hmarked (Json.isSome_mapM.1 hsome value hvalue)
      (Json.apply_eq_of_mapM_eq hsome hitems hvalue)
  | @entry remaining seen address address' entries text key value hobject hseen hkey hvalue hshows
      ih =>
      simp only [sanitizeValue, withMessages, hobject, hseen, if_false] at hsome ⊢
      intro heq
      rw [Option.isSome_map] at hsome
      have hentries := Option.map_injective (fun _ _ h => by injection h) heq
      refine ih hmarked (isSome_sanitizeEntry.1 (Json.isSome_mapM.1 hsome _ hvalue) hkey) ?_
      exact sanitizeEntry_inj hkey (Json.apply_eq_of_mapM_eq hsome hentries hvalue)

/-! ### Log records -/

/-- What is read of the attributes that a call is given. -/
def Shown (graph : ErrorGraph n) (attributes : DiagnosticValue n) (address : Fin n) : Prop :=
  ∃ entries, graph.attributeEntries attributes = some entries ∧
    ∃ key value, (key, value) ∈ entries ∧ isSensitiveKey key = false ∧
      Shows graph 8 ∅ value address

/-- What is written of an object in one piece can be read, the texts of marked errors apart. -/
def ReadsUnmarked (graph : ErrorGraph n) (address : Fin n) : Prop :=
  match graph.objects address with
  | .error error =>
    error.name ≠ .throws ∧
      (graph.marked address = none → error.message ≠ .throws)
  | object => ValueReads object

/-- **Nothing else than a text of a marked error keeps a record from being written.** -/
structure Readable (graph : ErrorGraph n) (arguments : WriteArguments n) : Prop where
  entries : graph.attributeEntries arguments.attributes ≠ none
  attributes : ∀ address, Shown graph arguments.attributes address → ReadsUnmarked graph address
  error : ErrorReadable graph arguments.error

theorem nodup_map_toString_zipIdx {α β : Type*} (items : List α) (f : α × ℕ → β) :
    ((items.zipIdx.map fun item => (toString item.2, f item)).map Prod.fst).Nodup := by
  have hkeys : (items.zipIdx.map fun item => (toString item.2, f item)).map Prod.fst =
      (items.zipIdx.map Prod.snd).map Nat.repr := by
    rw [List.map_map, List.map_map]
    rfl
  rw [hkeys, List.zipIdx_map_snd]
  exact List.Nodup.map (fun _ _ => Nat.repr_injective) List.nodup_range'

/-- The keys of attributes are distinct. -/
theorem nodup_attributeEntries {attributes : DiagnosticValue n}
    {entries : List (String × DiagnosticValue n)}
    (hentries : graph.attributeEntries attributes = some entries) :
    (entries.map Prod.fst).Nodup := by
  cases attributes with
  | text value =>
    cases hentries
    exact nodup_map_toString_zipIdx _ _
  | reference address =>
    rw [attributeEntries] at hentries
    split at hentries
    · next entries _ _ =>
        cases hentries
        exact entries.nodup_keys
    · cases hentries
      exact nodup_map_toString_zipIdx _ _
    · cases hentries
      exact List.nodup_nil
  | null => cases hentries
  | _ =>
    cases hentries
    exact List.nodup_nil

theorem map_fst_of_sanitizeAttributes {entries : List (String × DiagnosticValue n)}
    {attributes : List (String × Json)} (h : sanitizeAttributes graph entries = some attributes) :
    attributes.map Prod.fst = entries.map Prod.fst := by
  refine Json.map_of_mapM ?_ h
  intro entry written hwritten
  unfold sanitizeEntry at hwritten
  split at hwritten
  · cases hwritten
    rfl
  · obtain ⟨value, -, rfl⟩ := Option.map_eq_some_iff.1 hwritten
    rfl

theorem isSome_recordedError {error : DiagnosticValue n} :
    (recordedError graph error).isSome = true ↔ ErrorReadable graph error := by
  have hread : (recordedError graph error).isSome = true ↔
      (sanitizeError graph error ∅).isSome = true := by
    cases error with
    | undefined => rw [sanitizeError]; exact iff_of_true rfl rfl
    | _ => simp only [recordedError, Option.isSome_map]
  rw [hread]
  constructor
  · exact readable_of_isSome_sanitizeError error ∅ ⟨by simp, by simp⟩
  · exact isSome_sanitizeError_of_readable error ∅

theorem recordedError_alike (h : graph.Alike graph') (error : DiagnosticValue n) :
    recordedError graph' error = recordedError graph error := by
  cases error with
  | undefined => rfl
  | _ => simp only [recordedError, sanitizeError_alike h]

theorem isSome_sanitizeAttributes {entries : List (String × DiagnosticValue n)} :
    (sanitizeAttributes graph entries).isSome = true ↔ ∀ key value, (key, value) ∈ entries →
      isSensitiveKey key = false → ∀ address, Shows graph 8 ∅ value address →
        ValueReads (graph.objects address) := by
  simp only [sanitizeAttributes, Json.isSome_mapM, isSome_sanitizeEntry, isSome_sanitizeValue,
    Prod.forall]

end Logging

namespace ErrorGraph

/-! ### The same graph but for the texts of marked errors -/

variable {n : ℕ} {graph graph' : ErrorGraph n}

theorem Alike.symm (h : graph.Alike graph') : graph'.Alike graph where
  marked := h.marked.symm
  objects address := by
    rcases h.objects address with heq | ⟨hmarked, error, message, stack, herror, herror'⟩
    · exact .inl heq.symm
    · rw [← h.marked] at hmarked
      exact .inr ⟨hmarked, _, error.message, error.stack, herror', herror⟩

theorem Alike.objects_of_ne (h : graph.Alike graph') {address : Fin n}
    (hne : ∀ error, graph.objects address ≠ .error error) :
    graph'.objects address = graph.objects address := by
  rcases h.objects address with heq | ⟨-, error, -, -, herror, -⟩
  · exact heq
  · exact absurd herror (hne error)

theorem Alike.attributeEntries_eq (h : graph.Alike graph') (attributes : DiagnosticValue n) :
    graph'.attributeEntries attributes = graph.attributeEntries attributes := by
  cases attributes with
  | reference address =>
    rcases h.objects address with heq | ⟨-, error, message, stack, herror, herror'⟩
    · simp only [attributeEntries, heq]
    · simp only [attributeEntries, herror, herror']
  | _ => rfl

theorem Alike.isNone_error?_eq (h : graph.Alike graph') (value : DiagnosticValue n) :
    (graph'.error? value).isNone = (graph.error? value).isNone := by
  cases value with
  | reference address =>
    rcases h.objects address with heq | ⟨-, error, message, stack, herror, herror'⟩
    · simp only [error?, heq]
    · simp only [error?, herror, herror', Option.isNone_some]
  | _ => rfl

theorem Alike.arguments_eq (h : graph.Alike graph') (call : LogCall n) :
    call.arguments graph' = call.arguments graph := by
  cases call with
  | error message errorOrAttributes attributes =>
    simp only [LogCall.arguments, writeError, h.isNone_error?_eq]
  | fatal message errorOrAttributes attributes =>
    simp only [LogCall.arguments, writeError, h.isNone_error?_eq]
  | _ => rfl

theorem Alike.shows (h : graph.Alike graph') {remaining : ℕ} {seen : Finset (Fin n)}
    {value : DiagnosticValue n} {address : Fin n}
    (hshows : Shows graph remaining seen value address) :
    Shows graph' remaining seen value address := by
  induction hshows with
  | here => exact .here _ _ _
  | item hobject hseen hvalue _ ih =>
    have heq := h.objects_of_ne fun error herror => by rw [hobject] at herror; cases herror
    exact .item (heq.trans hobject) hseen hvalue ih
  | entry hobject hseen hkey hvalue _ ih =>
    have heq := h.objects_of_ne fun error herror => by rw [hobject] at herror; cases herror
    exact .entry (heq.trans hobject) hseen hkey hvalue ih

theorem Alike.shown (h : graph.Alike graph') {attributes : DiagnosticValue n} {address : Fin n}
    (hshown : Shown graph attributes address) :
    Shown graph' attributes address := by
  obtain ⟨entries, hentries, key, value, hmem, hkey, hshows⟩ := hshown
  exact ⟨entries, (h.attributeEntries_eq attributes).trans hentries, key, value, hmem, hkey,
    h.shows hshows⟩

theorem Alike.readsUnmarked (h : graph.Alike graph') {address : Fin n}
    (hreads : ReadsUnmarked graph address) : ReadsUnmarked graph' address := by
  rcases h.objects address with heq | ⟨hmarked, error, message, stack, herror, herror'⟩
  · simpa only [ReadsUnmarked, heq, h.marked] using hreads
  · simp only [ReadsUnmarked, herror] at hreads
    simp only [ReadsUnmarked, herror', h.marked]
    refine ⟨hreads.1, ?_⟩
    intro hnone
    rw [hnone] at hmarked
    cases hmarked

theorem Alike.errorReadable (h : graph.Alike graph') {value : DiagnosticValue n}
    (hreadable : ErrorReadable graph value) : ErrorReadable graph' value := by
  rw [← isSome_recordedError] at hreadable ⊢
  rw [recordedError_alike h]
  exact hreadable

theorem Alike.readable (h : graph.Alike graph') {arguments : WriteArguments n}
    (hreadable : Readable graph arguments) : Readable graph' arguments where
  entries := by
    rw [h.attributeEntries_eq]
    exact hreadable.entries
  attributes address hshown := h.readsUnmarked (hreadable.attributes address (h.symm.shown hshown))
  error := h.errorReadable hreadable.error

theorem valueReads_withMessages {address : Fin n} {message : String}
    (hreads : ReadsUnmarked graph address) :
    ValueReads ((graph.withMessages message).objects address) := by
  unfold ReadsUnmarked at hreads
  unfold withMessages
  simp only
  cases hobject : graph.objects address with
  | error error =>
    rw [hobject] at hreads
    simp only
    split
    · exact ⟨hreads.1, nofun⟩
    · next hmarked => exact ⟨hreads.1, hreads.2 (Option.not_isSome_iff_eq_none.1 hmarked)⟩
  | _ => simpa only [hobject] using hreads

end ErrorGraph

namespace Logger

variable {n : ℕ} {graph graph' : ErrorGraph n}

/-! ### When a log record is private -/

variable {arguments : WriteArguments n}

/-- What is written can be read. -/
theorem readable_of_isSome_write {logger : Logger} {moment : LogMoment}
    (h : (logger.write moment graph arguments).isSome = true) : Readable graph arguments := by
  unfold write at h
  split at h
  · cases h
  · obtain ⟨record, hrecord⟩ := Option.isSome_iff_exists.1 h
    obtain ⟨entries, hentries, hrecord⟩ := Option.bind_eq_some_iff.1 hrecord
    obtain ⟨written, hwritten, hrecord⟩ := Option.bind_eq_some_iff.1 hrecord
    obtain ⟨error, herror, -⟩ := Option.bind_eq_some_iff.1 hrecord
    refine ⟨by simp [hentries], ?_, ?_⟩
    · rintro address ⟨entries', hentries', key, value, hmem, hkey, hshows⟩
      rw [hentries] at hentries'
      cases hentries'
      have hreads := Logging.isSome_sanitizeAttributes.1 (Option.isSome_of_eq_some hwritten) key
        value hmem hkey address hshows
      rw [ReadsUnmarked]
      cases hobject : graph.objects address with
      | error error =>
        rw [hobject] at hreads
        exact ⟨hreads.1, fun _ => hreads.2⟩
      | _ => simpa only [hobject] using hreads
    · exact Logging.isSome_recordedError.1 (Option.isSome_of_eq_some herror)

/-- **A record that shows no marked error is the same**, whatever marked errors say. -/
theorem write_alike (h : graph.Alike graph') (logger : Logger) (moment : LogMoment)
    (hclean : ∀ address, Shown graph arguments.attributes address →
      ¬graph.IsMarkedError (.reference address)) :
    logger.write moment graph' arguments = logger.write moment graph arguments := by
  unfold write
  rw [h.attributeEntries_eq, recordedError_alike h]
  cases hentries : graph.attributeEntries arguments.attributes with
  | none => rfl
  | some entries =>
    have hattributes : sanitizeAttributes graph' entries =
        sanitizeAttributes graph entries := by
      refine Json.mapM_congr ?_
      rintro ⟨key, value⟩ hentry
      unfold sanitizeEntry
      split
      · rfl
      · next hkey =>
          rw [sanitizeValue_congr]
          intro address hshows
          refine h.objects_eq (hclean address ?_)
          exact ⟨entries, hentries, key, value, hentry, Bool.not_eq_true _ ▸ hkey, hshows⟩
    simp only [Option.bind_eq_bind, Option.bind_some, hattributes]

/-- What is written of an attribute that is read. -/
theorem exists_written {entries : List (String × DiagnosticValue n)}
    {written : List (String × Json)}
    (hwritten : sanitizeAttributes graph entries = some written) {key : String}
    {value : DiagnosticValue n} (hmem : (key, value) ∈ entries)
    (hkey : isSensitiveKey key = false) :
    ∃ json, (key, json) ∈ written ∧ sanitizeValue graph 8 ∅ value = some json := by
  obtain ⟨entry, hentry, heq⟩ := Json.exists_mem_of_mapM hwritten hmem
  simp only [sanitizeEntry, hkey, Bool.false_eq_true, if_false] at heq
  obtain ⟨json, hjson, rfl⟩ := Option.map_eq_some_iff.1 heq
  exact ⟨json, hentry, hjson⟩

/-- A readable record is written when marked errors have messages. -/
theorem exists_write_withMessages (logger : Logger) (moment : LogMoment) (message : String)
    (hlevel : ¬arguments.level.priority < logger.level.priority)
    (hreadable : Readable graph arguments) {entries : List (String × DiagnosticValue n)}
    (hentries : graph.attributeEntries arguments.attributes = some entries) :
    ∃ written record,
      sanitizeAttributes (graph.withMessages message) entries = some written ∧
        logger.write moment (graph.withMessages message) arguments = some record ∧
        record.attributes = logger.attributes.setAll written := by
  have halike := graph.alike_withMessages message
  have hwritten : (sanitizeAttributes (graph.withMessages message) entries).isSome =
      true := by
    rw [isSome_sanitizeAttributes]
    intro key value hmem hkey address hshows
    refine valueReads_withMessages (hreadable.attributes address ?_)
    exact ⟨entries, hentries, key, value, hmem, hkey, halike.symm.shows hshows⟩
  have herror := Logging.isSome_recordedError.2 (halike.errorReadable hreadable.error)
  obtain ⟨written, hwritten⟩ := Option.isSome_iff_exists.1 hwritten
  obtain ⟨error, herror⟩ := Option.isSome_iff_exists.1 herror
  refine ⟨written,
    { timestamp := moment.timestamp
      level := arguments.level
      channel := logger.channel
      message := redactText arguments.message
      attributes := logger.attributes.setAll written
      context := moment.context
      error := error }, hwritten, ?_, rfl⟩
  unfold write
  rw [if_neg hlevel, halike.attributeEntries_eq, hentries]
  simp only [Option.bind_eq_bind, Option.bind_some, hwritten, herror]
  rfl

/-- **Records of two messages of a marked error that is shown are told apart.** -/
theorem write_ne {logger : Logger} {moment : LogMoment}
    (hlevel : ¬arguments.level.priority < logger.level.priority)
    (hreadable : Readable graph arguments) {address : Fin n}
    (hshown : Shown graph arguments.attributes address)
    (hmarked : graph.IsMarkedError (.reference address)) :
    logger.write moment (graph.withMessages "a") arguments ≠
      logger.write moment (graph.withMessages "b") arguments := by
  obtain ⟨entries, hentries, key, value, hmem, hkey, hshows⟩ := hshown
  obtain ⟨written, record, hwritten, hrecord, hattributes⟩ :=
    exists_write_withMessages logger moment "a" hlevel hreadable hentries
  obtain ⟨written', record', hwritten', hrecord', hattributes'⟩ :=
    exists_write_withMessages logger moment "b" hlevel hreadable hentries
  rw [hrecord, hrecord']
  intro heq
  obtain ⟨json, hmemJson, hjson⟩ := exists_written hwritten hmem hkey
  obtain ⟨json', hmemJson', hjson'⟩ := exists_written hwritten' hmem hkey
  have hnodup := nodup_attributeEntries hentries
  have hget := OrderedMap.get_setAll_of_mem
    ((map_fst_of_sanitizeAttributes hwritten).symm ▸ hnodup) logger.attributes hmemJson
  have hget' := OrderedMap.get_setAll_of_mem
    ((map_fst_of_sanitizeAttributes hwritten').symm ▸ hnodup) logger.attributes hmemJson'
  rw [← hattributes, Option.some.inj heq, hattributes', hget'] at hget
  refine sanitizeValue_ne hshows hmarked (Option.isSome_of_eq_some hjson) ?_
  rw [hjson, hjson', hget]

/-- **When a log record is private**: when none is written, be it because of the level or because
something else cannot be read, or when no marked error is shown among the attributes. -/
theorem private_iff (logger : Logger) (moment : LogMoment) (graph : ErrorGraph n)
    (call : LogCall n) :
    (∀ graph', graph.Alike graph' → logger.log moment graph' call = logger.log moment graph call) ↔
      (call.arguments graph).level.priority < logger.level.priority ∨
        ¬Readable graph (call.arguments graph) ∨
        ∀ address, Shown graph (call.arguments graph).attributes address →
          ¬graph.IsMarkedError (.reference address) := by
  constructor
  · intro h
    by_contra hnot
    push Not at hnot
    obtain ⟨hlevel, hreadable, address, hshown, hmarked⟩ := hnot
    have heq := (h _ (graph.alike_withMessages "a")).trans
      (h _ (graph.alike_withMessages "b")).symm
    unfold log at heq
    rw [(graph.alike_withMessages "a").arguments_eq,
      (graph.alike_withMessages "b").arguments_eq] at heq
    exact write_ne (by omega) hreadable hshown hmarked heq
  · intro h graph' halike
    unfold log
    rw [halike.arguments_eq]
    rcases h with hlevel | hunreadable | hclean
    · unfold write
      rw [if_pos hlevel, if_pos hlevel]
    · have hnone : ∀ graph'', graph.Alike graph'' →
          logger.write moment graph'' (call.arguments graph) = none := by
        intro graph'' halike'
        rw [← Option.not_isSome_iff_eq_none]
        intro hsome
        exact hunreadable (halike'.symm.readable (readable_of_isSome_write hsome))
      rw [hnone graph' halike, hnone graph ⟨rfl, fun _ => .inl rfl⟩]
    · exact write_alike halike logger moment hclean

end Logger

/-- An error whose cause is marked. -/
def wrappedFailure (message : String) : ErrorGraph 2 where
  objects
    | 0 => .error
        { name := .text "Error"
          message := .text "Request failed."
          stack := .absent
          cause := some (.reference 1) }
    | 1 => .error
        { name := .text "Error"
          message := .text message
          stack := .absent
          cause := some .undefined }
  marked
    | 0 => none
    | 1 => some "AI operation failed."

end Doxa
