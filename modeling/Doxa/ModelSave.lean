/-
**Saving a model.**

`ModelSession.save` looks at the model several times: it takes the changes after the observers have
run, sends the attributes to `saveEntity`, hands over the pending facts and messages one by one, and
at the end takes the attributes as stored and the pending ones as handed over.  It awaits something
in between each time, and the application may change the model meanwhile.

The loops over pending facts and messages see what is added while they run.  What they do not see is
a fact that is added after the loop over the facts, and nothing sees an attribute that is assigned
after the attributes were sent: `saved` takes the attributes as they are then.  In runs in which
neither happens, nothing is lost.

Main definitions:

* `Doxa.Save`, `Doxa.SavePhase` — one call of `save`, and what it awaits;
* `Doxa.Save.begin`, `Doxa.Save.prepare`, … — the parts of `save` between two awaits;
* `Doxa.SaveLabel`, `Doxa.Save.step` — what can happen, and what it does;
* `Doxa.Save.KeepsSent` — the condition on a step.

Main results:

* `Doxa.Save.Kept.step` — **a step keeps the invariant**;
* `Doxa.save_keeps_changes` — **saving loses no change**.
-/

import Doxa.Lib.Transition
import Doxa.Model

set_option relaxedAutoImplicit false
set_option autoImplicit false

namespace Doxa

variable {α : Type*}

/-! ### One call of `save` -/

/-- What `saveEntity` is given. -/
structure SaveEntity (α : Type*) where
  type : String
  id : Option α
  expectedVersion : Option ℕ
  state : OrderedMap String α
  patch : Option (OrderedMap String α)
  removedAttributes : List String
  storage : ModelStorage

structure JournalFact (α : Type*) where
  fact : PendingJournalFact α
  entityType : String
  entityId : Option α

/-- What a session brings along: the definition of the model, how null and an id are attributes,
whether it may write, and whether operations are observed, so that observing one comes first. -/
structure SavingSession (α : Type*) where
  definition : ModelSessionDefinition α
  null : α
  text : String → α
  writable : Bool
  observed : Bool

/-- What `save` awaits. -/
inductive SavePhase
  | idle
  /-- `dispatch('saving')`. -/
  | saving
  /-- `dispatch('creating')` or `dispatch('updating')`. -/
  | creating
  /-- The observation of the operation, before it calls `saveEntity`. -/
  | observing
  /-- `saveEntity`. -/
  | writing
  /-- `record` of the fact with the given index. -/
  | recording (index : ℕ)
  /-- `enqueue` of the message with the given index. -/
  | enqueuing (index : ℕ)
  /-- `dispatch('created')` or `dispatch('updated')`. -/
  | created
  /-- `dispatch('saved')`. -/
  | saved
  | finished (result : Bool)
  | failed
deriving DecidableEq

structure Save (α : Type*) where
  model : Model α
  phase : SavePhase
  created : Bool
  changes : List (String × Option α)
  patch : OrderedMap String α
  removedAttributes : List String
  pendingIdentity : Option α
  savedVersion : ℕ
  /-- What `saveEntity` was given, if it was called. -/
  request : Option (SaveEntity α)
  /-- The attributes as the store has them, by what was sent and what it answered. -/
  sent : String → Option α
  /-- What was handed to the unit of work. -/
  recorded : List (JournalFact α)
  enqueued : List (PendingOutboxMessage α)
  /-- Whether `dispatch('committed')` is to follow the commit. -/
  afterCommit : Bool
  /-- All facts and messages that were added to the model. -/
  journaled : List (PendingJournalFact α)
  outboxed : List (PendingOutboxMessage α)

namespace Save

/-- Before the call. -/
def ofModel (model : Model α) : Save α where
  model := model
  phase := .idle
  created := false
  changes := []
  patch := .empty
  removedAttributes := []
  pendingIdentity := none
  savedVersion := 0
  request := none
  sent := model.original.get
  recorded := []
  enqueued := []
  afterCommit := false
  journaled := model.pendingJournal
  outboxed := model.pendingOutbox

def await (phase : SavePhase) (save : Save α) : Save α := { save with phase := phase }

def fail (save : Save α) : Save α := save.await .failed

/-- What the store has for an attribute after the present patch: an update of a table sets what is
in the patch, clears what was removed and leaves the rest. -/
def patched (save : Save α) (key : String) : Option α :=
  if key ∈ save.removedAttributes then none
  else save.patch.get key <|> save.model.original.get key

/-- Whether the request is an update of a table. -/
def updatesTable (session : SavingSession α) (save : Save α) : Bool :=
  session.definition.storage ≠ .entityState && save.model.version.isSome

/-- `validatedAttributes`, which throws for undeclared attributes and for missing ones. -/
def isValid (definition : ModelSessionDefinition α) (model : Model α) : Bool :=
  match definition.attributes with
  | none => true
  | some attributes =>
    model.attributes.keys.all (fun key => attributes.contains key) &&
      attributes.all fun key =>
        (model.attributes.get key).isSome || definition.optionalAttributes.contains key

/-- `save`, from after the loops on. -/
def finishWriting (save : Save α) : Save α :=
  { save with
    model := (save.model.saved save.savedVersion save.changes save.created).clearPending
    phase := .created }

/-- The loop over the pending messages, from an index on. -/
def enqueueFrom (index : ℕ) (save : Save α) : Save α :=
  match save.model.pendingOutbox[index]? with
  | some message =>
    { save with enqueued := save.enqueued ++ [message], phase := .enqueuing index }
  | none => save.finishWriting

/-- The loop over the pending facts, from an index on. -/
def recordFrom (definition : ModelSessionDefinition α) (index : ℕ) (save : Save α) : Save α :=
  match save.model.pendingJournal[index]? with
  | some fact =>
    { save with
      recorded := save.recorded ++
        [⟨fact, definition.entityType, save.model.attributes.get "id"⟩]
      phase := .recording index }
  | none => save.enqueueFrom 0

/-- `saveEntity` is called. -/
def callSaveEntity (session : SavingSession α) (save : Save α) : Save α :=
  { save with
    request := some
      { type := session.definition.entityType
        id := save.model.attributes.get "id"
        expectedVersion := save.model.version
        state := save.model.attributes
        patch := save.model.version.map fun _ => save.patch
        removedAttributes := save.removedAttributes
        storage := session.definition.storage }
    sent := if save.updatesTable session then save.patched else save.model.attributes.get
    phase := .writing }

/-- The part after `saveEntity`: the store may have chosen another id. -/
def afterSaveEntity [DecidableEq α] (session : SavingSession α) (version : ℕ)
    (id : Option String) (save : Save α) : Save α :=
  let save := { save with savedVersion := version }
  match id with
  | none => save.recordFrom session.definition 0
  | some id =>
    if id = "" ∨ some (session.text id) = save.pendingIdentity then
      save.recordFrom session.definition 0
    else
      { save with
        model := save.model.generatedIdentity (session.text id)
        changes := save.changes ++ [("id", some (session.text id))]
        sent := Function.update save.sent "id" (some (session.text id)) }.recordFrom
          session.definition 0

section

variable [DecidableEq α]

variable (session : SavingSession α)

/-- `save`, until it awaits the first observers. -/
def begin (save : Save α) : Save α :=
  if session.definition.storage = .table true ∨ !session.writable ∨
      !isValid session.definition save.model then
    save.fail
  else if save.model.changedKeys.isEmpty && save.model.pendingJournal.isEmpty &&
      save.model.pendingOutbox.isEmpty then
    save.await (.finished false)
  else { save with created := !save.model.existing, phase := .saving }

/-- Whether a change of an attribute that the framework owns is refused. -/
def refusesChange (changed : List String) (save : Save α) : Bool :=
  session.definition.authOwnedAttributes.any fun key =>
    changed.contains key && (!save.created || save.model.attributes.get key ≠ some session.null)

/-- The loop over the normalizers. -/
def normalize (normalizers : List (String × (Option α → Option α))) (changed : List String)
    (model : Model α) : Option (Model α) :=
  normalizers.foldlM (fun model normalizer =>
    if changed.contains normalizer.1 then
      (normalizer.2 (model.attributes.get normalizer.1)).map fun value =>
        model.write normalizer.1 (some value)
    else some model) model

/-- The loop over the attributes that are cleared when another one changes. -/
def clearChanged (changed : List String) (model : Model α) : Model α :=
  session.definition.clearAttributeOnChange.foldl (fun model clear =>
    if changed.contains clear.1 then model.write clear.2 (some session.null) else model) model

/-- The changes, as they are to be sent. -/
def takeChanges (model : Model α) (save : Save α) : Save α :=
  { save with
    model := model
    changes := model.currentChanges
    patch := model.attributes.filter fun key _ => model.changedKeys.contains key
    removedAttributes := model.changedKeys.filter fun key => (model.attributes.get key).isNone
    pendingIdentity := model.attributes.get "id" }

/-- `save`, from after the observers until it awaits `saveEntity`.  Without changes to a stored
model `saveEntity` is not called. -/
def prepare (save : Save α) : Save α :=
  let changed := save.model.changedKeys
  if save.refusesChange session changed then save.fail
  else
    match normalize session.definition.attributeNormalizers changed save.model with
    | none => save.fail
    | some normalized =>
      let save := save.takeChanges (clearChanged session changed normalized)
      if !isValid session.definition save.model then save.fail
      else if !save.created && save.model.changedKeys.isEmpty then
        { save with
          savedVersion := save.model.version.getD 0
          sent := save.model.original.get }.recordFrom session.definition 0
      else if session.observed then save.await .observing
      else save.callSaveEntity session

end

end Save

open Save

/-! ### Runs -/

/-- What an await comes to. -/
inductive Awaited
  | done
  | rejected
  /-- `saveEntity` answers with a version, and with an id if it chose one. -/
  | saved (version : ℕ) (id : Option String)

/-- What can happen. -/
inductive SaveLabel (α : Type*)
  | setAttribute (key : String) (value : Option α)
  | fill (patch : List (String × Option α))
  | journal (fact : PendingJournalFact α)
  | outbox (message : PendingOutboxMessage α)
  | save
  /-- The observation of the operation calls it. -/
  | callSaveEntity
  | resume (awaited : Awaited)

/-- `save` goes on after an await. -/
def Save.resume [DecidableEq α] (session : SavingSession α) (awaited : Awaited) (save : Save α) :
    Option (Save α) :=
  match awaited with
  | .rejected =>
    match save.phase with
    | .idle | .finished _ | .failed => none
    | _ => some save.fail
  | .saved version id =>
    match save.phase with
    | .writing => some (save.afterSaveEntity session version id)
    | _ => none
  | .done =>
    match save.phase with
    | .saving => some (save.await .creating)
    | .creating => some (save.prepare session)
    | .recording index => some (save.recordFrom session.definition (index + 1))
    | .enqueuing index => some (save.enqueueFrom (index + 1))
    | .created => some (save.await .saved)
    | .saved => some { save with afterCommit := true, phase := .finished true }
    | _ => none

/-- What a label does, in the states in which it can happen. -/
def Save.step [DecidableEq α] (session : SavingSession α) (save : Save α) :
    SaveLabel α → Option (Save α)
  | .setAttribute key value =>
    some { save with model := save.model.setAttribute session.definition key value }
  | .fill patch => some { save with model := save.model.fill session.definition patch }
  | .journal fact =>
    some { save with model := save.model.journal fact, journaled := save.journaled ++ [fact] }
  | .outbox message =>
    some { save with
      model := save.model.outbox message
      outboxed := save.outboxed ++ [message] }
  | .save => if save.phase = .idle then some (save.begin session) else none
  | .callSaveEntity =>
    if save.phase = .observing then some (save.callSaveEntity session) else none
  | .resume awaited => save.resume session awaited

/-! ### What is lost and what is not -/

namespace Save

variable {session : SavingSession α}

/-- The attributes as they have been sent or are about to be, between the moment they are taken and
the moment they count as stored. -/
def fixed (session : SavingSession α) (save : Save α) : Option (String → Option α) :=
  match save.phase with
  | .observing => if save.updatesTable session then some save.patched else none
  | .writing | .recording _ | .enqueuing _ => some save.sent
  | _ => none

/-- The condition: an attribute is not assigned another value than was sent, between the moment the
attributes are taken and `saved`, and no fact is added during the loop over the messages. -/
def KeepsSent (session : SavingSession α) (save : Save α) : SaveLabel α → Prop
  | .setAttribute key value =>
    ∀ values, save.fixed session = some values →
      ∀ assignment ∈ save.model.assignment session.definition key value,
        assignment.2 = values assignment.1
  | .fill patch =>
    ∀ values, save.fixed session = some values →
      ∀ assignment ∈ save.model.assignments session.definition patch,
        assignment.2 = values assignment.1
  | .journal _ => ∀ index, save.phase ≠ .enqueuing index
  | _ => True

/-- All facts and messages are pending, and as many as given were handed over. -/
def HandingOver (save : Save α) (facts messages : ℕ) : Prop :=
  (save.recorded.map JournalFact.fact = save.model.pendingJournal.take facts ∧
    save.model.pendingJournal = save.journaled) ∧
  save.enqueued = save.model.pendingOutbox.take messages ∧
    save.model.pendingOutbox = save.outboxed

/-- How far the loops over the pending facts and messages have come. -/
def HandedOver (save : Save α) : Prop :=
  match save.phase with
  | .recording index =>
    index < save.model.pendingJournal.length ∧ save.HandingOver (index + 1) 0
  | .enqueuing index =>
    index < save.model.pendingOutbox.length ∧
      save.HandingOver save.model.pendingJournal.length (index + 1)
  | .created | .saved | .finished _ =>
    save.recorded.map JournalFact.fact ++ save.model.pendingJournal = save.journaled ∧
      save.enqueued ++ save.model.pendingOutbox = save.outboxed
  | .failed => True
  | _ => save.HandingOver 0 0

/-- What the model takes as stored is what the store has. -/
def StoredAsSent (save : Save α) : Prop :=
  match save.phase with
  | .idle | .created | .saved | .finished _ =>
    ∀ key, save.model.original.get key = save.sent key
  | _ => True

/-- **The invariant.** -/
structure Kept (session : SavingSession α) (save : Save α) : Prop where
  fixed : ∀ values, save.fixed session = some values →
    ∀ key, save.model.attributes.get key = values key
  stored : save.StoredAsSent
  handed : save.HandedOver

/-! ### The application's part -/

variable {save : Save α}

/-- **Assignments** of what was sent. -/
theorem Kept.writes (h : save.Kept session) {assignments : List (String × Option α)}
    (hassignments : ∀ values, save.fixed session = some values →
      ∀ assignment ∈ assignments, assignment.2 = values assignment.1) :
    Kept session { save with model := save.model.writes assignments } := by
  rw [Model.writes_eq]
  exact
    { fixed := fun values hvalues =>
        Model.get_writes (hassignments values hvalues) save.model (h.fixed values hvalues)
      stored := h.stored
      handed := h.handed }

/-- **A fact is added**, but not during the loop over the messages. -/
theorem Kept.journal (h : save.Kept session) (fact : PendingJournalFact α)
    (hphase : ∀ index, save.phase ≠ .enqueuing index) :
    Kept session
      { save with model := save.model.journal fact, journaled := save.journaled ++ [fact] } := by
  refine { fixed := h.fixed, stored := h.stored, handed := ?_ }
  have hadded : ∀ {facts messages}, facts ≤ save.model.pendingJournal.length →
      save.HandingOver facts messages →
        HandingOver
          { save with model := save.model.journal fact, journaled := save.journaled ++ [fact] }
          facts messages := by
    intro facts messages hle hhanding
    obtain ⟨⟨hrecorded, hjournaled⟩, hmessages⟩ := hhanding
    exact ⟨⟨hrecorded.trans (List.take_append_of_le_length hle).symm,
      congrArg (· ++ [fact]) hjournaled⟩, hmessages⟩
  have hhanded := h.handed
  obtain ⟨model, phase⟩ := save
  cases phase with
  | idle | saving | creating | observing | writing => exact hadded (Nat.zero_le _) hhanded
  | recording index =>
    refine ⟨?_, hadded hhanded.1 hhanded.2⟩
    exact Nat.lt_of_lt_of_le hhanded.1 (by simp [Model.journal])
  | enqueuing index => exact absurd rfl (hphase index)
  | created | saved | finished result =>
    refine ⟨?_, hhanded.2⟩
    rw [← hhanded.1]
    exact (List.append_assoc _ _ _).symm
  | failed => trivial

/-- **A message is added.** -/
theorem Kept.outbox (h : save.Kept session) (message : PendingOutboxMessage α) :
    Kept session
      { save with
        model := save.model.outbox message
        outboxed := save.outboxed ++ [message] } := by
  refine { fixed := h.fixed, stored := h.stored, handed := ?_ }
  have hadded : ∀ {facts messages}, messages ≤ save.model.pendingOutbox.length →
      save.HandingOver facts messages →
        HandingOver
          { save with
            model := save.model.outbox message
            outboxed := save.outboxed ++ [message] } facts messages := by
    intro facts messages hle hhanding
    obtain ⟨hfacts, henqueued, houtboxed⟩ := hhanding
    exact ⟨hfacts, henqueued.trans (List.take_append_of_le_length hle).symm,
      congrArg (· ++ [message]) houtboxed⟩
  have hhanded := h.handed
  obtain ⟨model, phase⟩ := save
  cases phase with
  | idle | saving | creating | observing | writing => exact hadded (Nat.zero_le _) hhanded
  | recording index => exact ⟨hhanded.1, hadded (Nat.zero_le _) hhanded.2⟩
  | enqueuing index =>
    refine ⟨?_, hadded hhanded.1 hhanded.2⟩
    exact Nat.lt_of_lt_of_le hhanded.1 (by simp [Model.outbox])
  | created | saved | finished result =>
    refine ⟨hhanded.1, ?_⟩
    rw [← hhanded.2]
    exact (List.append_assoc _ _ _).symm
  | failed => trivial

/-! ### The parts of `save` -/

theorem kept_fail (save : Save α) : save.fail.Kept session where
  fixed := nofun
  stored := trivial
  handed := trivial

/-- **The end of the loops**: the attributes are still what was sent. -/
theorem kept_finishWriting (hattributes : ∀ key, save.model.attributes.get key = save.sent key)
    (hhanding : save.HandingOver save.model.pendingJournal.length save.model.pendingOutbox.length) :
    save.finishWriting.Kept session where
  fixed := nofun
  stored := hattributes
  handed := by
    obtain ⟨⟨hrecorded, hjournaled⟩, henqueued, houtboxed⟩ := hhanding
    rw [List.take_length] at hrecorded henqueued
    exact ⟨(List.append_nil _).trans (hrecorded.trans hjournaled),
      (List.append_nil _).trans (henqueued.trans houtboxed)⟩

/-- **The loop over the messages.** -/
theorem kept_enqueueFrom {index : ℕ}
    (hattributes : ∀ key, save.model.attributes.get key = save.sent key)
    (hhanding : save.HandingOver save.model.pendingJournal.length index) :
    (save.enqueueFrom index).Kept session := by
  rw [enqueueFrom]
  cases hmessage : save.model.pendingOutbox[index]? with
  | some message =>
    obtain ⟨hlt, hget⟩ := List.getElem?_eq_some_iff.1 hmessage
    refine ⟨fun values hvalues => Option.some.inj hvalues ▸ hattributes, trivial, hlt,
      hhanding.1, ?_, hhanding.2.2⟩
    dsimp only
    rw [hhanding.2.1, List.take_add_one, hmessage]
    rfl
  | none =>
    have hle := List.getElem?_eq_none_iff.1 hmessage
    refine kept_finishWriting hattributes ⟨hhanding.1, ?_, hhanding.2.2⟩
    rw [hhanding.2.1, List.take_of_length_le hle, List.take_length]

/-- **The loop over the facts.** -/
theorem kept_recordFrom {index : ℕ}
    (hattributes : ∀ key, save.model.attributes.get key = save.sent key)
    (hhanding : save.HandingOver index 0) :
    (save.recordFrom session.definition index).Kept session := by
  rw [recordFrom]
  cases hfact : save.model.pendingJournal[index]? with
  | some fact =>
    obtain ⟨hlt, hget⟩ := List.getElem?_eq_some_iff.1 hfact
    refine ⟨fun values hvalues => Option.some.inj hvalues ▸ hattributes, trivial, hlt,
      ⟨?_, hhanding.1.2⟩, hhanding.2⟩
    dsimp only
    rw [List.map_append, hhanding.1.1, List.take_add_one, hfact]
    rfl
  | none =>
    have hle := List.getElem?_eq_none_iff.1 hfact
    refine kept_enqueueFrom hattributes ⟨⟨?_, hhanding.1.2⟩, hhanding.2⟩
    rw [hhanding.1.1, List.take_of_length_le hle, List.take_length]

theorem kept_callSaveEntity
    (hattributes : save.updatesTable session = true →
      ∀ key, save.model.attributes.get key = save.patched key) (hhanding : save.HandingOver 0 0) :
    (save.callSaveEntity session).Kept session where
  fixed values hvalues := by
    cases hvalues
    intro key
    rw [callSaveEntity]
    dsimp only
    split_ifs with hupdates
    · exact hattributes hupdates key
    · rfl
  stored := trivial
  handed := hhanding

/-- **`saveEntity` answers.** -/
theorem Kept.afterSaveEntity [DecidableEq α] (h : save.Kept session)
    (hphase : save.phase = .writing) (version : ℕ) (id : Option String) :
    (save.afterSaveEntity session version id).Kept session := by
  have hattributes : ∀ key, save.model.attributes.get key = save.sent key := by
    refine h.fixed save.sent ?_
    rw [Save.fixed, hphase]
  have hhanding : save.HandingOver 0 0 := by
    have hhanded := h.handed
    rwa [HandedOver, hphase] at hhanded
  have hsame : (recordFrom session.definition 0
      { save with savedVersion := version }).Kept session :=
    kept_recordFrom hattributes hhanding
  cases id with
  | none => exact hsame
  | some id =>
    rw [Save.afterSaveEntity]
    split_ifs
    · exact hsame
    · refine kept_recordFrom (fun key => ?_) ⟨hhanding.1, hhanding.2⟩
      dsimp only
      rw [Model.generatedIdentity, Model.get_write, Function.update_apply, hattributes]

theorem Kept.begin [DecidableEq α] (h : save.Kept session) (hphase : save.phase = .idle) :
    (save.begin session).Kept session := by
  have hhanding : save.HandingOver 0 0 := by
    have hhanded := h.handed
    rwa [HandedOver, hphase] at hhanded
  have hstored : ∀ key, save.model.original.get key = save.sent key := by
    have hstored := h.stored
    rwa [StoredAsSent, hphase] at hstored
  rw [Save.begin]
  split_ifs
  · exact kept_fail save
  · obtain ⟨⟨hrecorded, hjournaled⟩, henqueued, houtboxed⟩ := hhanding
    exact ⟨nofun, hstored, (congrArg (· ++ save.model.pendingJournal) hrecorded).trans hjournaled,
      (congrArg (· ++ save.model.pendingOutbox) henqueued).trans houtboxed⟩
  · exact ⟨nofun, trivial, hhanding⟩

/-- The loop over the normalizers assigns attributes. -/
theorem normalize_eq_some {normalizers : List (String × (Option α → Option α))}
    {changed : List String} :
    ∀ {model normalized : Model α}, normalize normalizers changed model = some normalized →
      ∃ assignments, normalized = model.writes assignments := by
  induction normalizers with
  | nil =>
    intro model normalized h
    exact ⟨[], (Option.some.inj h).symm⟩
  | cons normalizer normalizers ih =>
    intro model normalized h
    obtain ⟨next, hnext, hrest⟩ := Option.bind_eq_some_iff.1 h
    obtain ⟨later, rfl⟩ := ih hrest
    dsimp only at hnext
    split_ifs at hnext with hchanged
    · obtain ⟨value, -, rfl⟩ := Option.map_eq_some_iff.1 hnext
      exact ⟨(normalizer.1, some value) :: later, rfl⟩
    · cases hnext
      exact ⟨later, rfl⟩

/-- The loop over the attributes to clear assigns attributes. -/
theorem clearChanged_eq (session : SavingSession α) (changed : List String) (model : Model α) :
    ∃ assignments, clearChanged session changed model = model.writes assignments := by
  rw [clearChanged]
  generalize session.definition.clearAttributeOnChange = clears
  induction clears generalizing model with
  | nil => exact ⟨[], rfl⟩
  | cons clear clears ih =>
    rw [List.foldl_cons]
    split_ifs
    · obtain ⟨later, hlater⟩ := ih (model.write clear.2 (some session.null))
      exact ⟨(clear.2, some session.null) :: later, hlater⟩
    · exact ih model

section

variable [DecidableEq α]

/-- What a patch gives an attribute is what the attribute is when the changes are taken. -/
theorem get_eq_patched (save : Save α) (model : Model α) (key : String) :
    model.attributes.get key = (save.takeChanges model).patched key := by
  have hremoved : key ∈ (save.takeChanges model).removedAttributes ↔
      key ∈ model.changedKeys ∧ (model.attributes.get key).isNone = true := List.mem_filter
  have hpatch : (save.takeChanges model).patch.get key =
      (model.attributes.get key).filter fun _ => model.changedKeys.contains key :=
    OrderedMap.get_filter _ _ _
  rw [patched, hpatch]
  by_cases hchanged : key ∈ model.changedKeys
  · cases hget : model.attributes.get key with
    | none =>
      rw [hget] at hremoved
      exact (if_pos (hremoved.2 ⟨hchanged, rfl⟩)).symm
    | some value =>
      rw [hget] at hremoved
      rw [if_neg fun h => Bool.false_ne_true (hremoved.1 h).2,
        List.contains_iff_mem.2 hchanged]
      rfl
  · have hclean : model.attributes.get key = model.original.get key := by
      by_contra hne
      exact hchanged ((model.mem_changedKeys_iff key).2 (decide_eq_true hne))
    have hcontains : model.changedKeys.contains key = false := by
      simpa using hchanged
    rw [if_neg fun h => hchanged (hremoved.1 h).1, hclean, hcontains]
    cases horiginal : model.original.get key <;> exact horiginal.symm

variable {save : Save α}

/-- **The part after the observers.** -/
theorem Kept.prepare (h : save.Kept session) (hphase : save.phase = .creating) :
    (save.prepare session).Kept session := by
  have hhanding : save.HandingOver 0 0 := by
    have hhanded := h.handed
    rwa [HandedOver, hphase] at hhanded
  rw [Save.prepare]
  dsimp only
  by_cases hrefused : save.refusesChange session save.model.changedKeys = true
  · rw [if_pos hrefused]
    exact kept_fail save
  · rw [if_neg hrefused]
    cases hnormalize : normalize session.definition.attributeNormalizers save.model.changedKeys
        save.model with
    | none => exact kept_fail save
    | some normalized =>
      obtain ⟨earlier, rfl⟩ := normalize_eq_some hnormalize
      obtain ⟨later, hlater⟩ := clearChanged_eq session save.model.changedKeys
        (save.model.writes earlier)
      dsimp only
      rw [hlater, Model.writes_append, Model.writes_eq]
      have htaken := get_eq_patched save { save.model with
        attributes := (save.model.writes (earlier ++ later)).attributes }
      split_ifs with hvalid hclean hobserved
      · exact kept_fail _
      · refine kept_recordFrom (fun key => ?_) hhanding
        obtain ⟨-, hunchanged⟩ := (Bool.and_eq_true_iff).1 hclean
        by_contra hdirty
        have hmem := (Model.mem_changedKeys_iff _ key).2 (decide_eq_true hdirty)
        rw [List.isEmpty_iff.1 hunchanged] at hmem
        cases hmem
      · refine ⟨fun values hvalues => ?_, trivial, hhanding⟩
        obtain ⟨-, hpatched⟩ := Option.ite_none_right_eq_some.1 hvalues
        cases hpatched
        exact htaken
      · exact kept_callSaveEntity (fun _ => htaken) hhanding

omit [DecidableEq α] in
theorem Kept.callSaveEntity (h : save.Kept session) (hphase : save.phase = .observing) :
    (save.callSaveEntity session).Kept session := by
  refine kept_callSaveEntity (fun hupdates => h.fixed save.patched ?_) ?_
  · rw [Save.fixed, hphase]
    exact if_pos hupdates
  · have hhanded := h.handed
    rwa [HandedOver, hphase] at hhanded

/-- **`save` goes on.** -/
theorem Kept.resume {save' : Save α} (h : save.Kept session) {awaited : Awaited}
    (hresume : save.resume session awaited = some save') : save'.Kept session := by
  have hhanded := h.handed
  have hfixed := h.fixed
  have hstored := h.stored
  cases awaited with
  | rejected =>
    rw [Save.resume] at hresume
    split at hresume
    · cases hresume
    · cases hresume
    · cases hresume
    · cases hresume
      exact kept_fail save
  | saved version id =>
    rw [Save.resume] at hresume
    cases hphase : save.phase <;> rw [hphase] at hresume <;> cases hresume
    exact h.afterSaveEntity hphase version id
  | done =>
    rw [Save.resume] at hresume
    cases hphase : save.phase with
    | saving =>
      rw [hphase] at hresume
      cases hresume
      rw [HandedOver, hphase] at hhanded
      exact ⟨nofun, trivial, hhanded⟩
    | creating =>
      rw [hphase] at hresume
      cases hresume
      exact h.prepare hphase
    | recording index =>
      rw [hphase] at hresume
      cases hresume
      rw [HandedOver, hphase] at hhanded
      refine kept_recordFrom (hfixed save.sent ?_) hhanded.2
      rw [Save.fixed, hphase]
    | enqueuing index =>
      rw [hphase] at hresume
      cases hresume
      rw [HandedOver, hphase] at hhanded
      refine kept_enqueueFrom (hfixed save.sent ?_) hhanded.2
      rw [Save.fixed, hphase]
    | created =>
      rw [hphase] at hresume
      cases hresume
      rw [HandedOver, hphase] at hhanded
      rw [StoredAsSent, hphase] at hstored
      exact ⟨nofun, hstored, hhanded⟩
    | saved =>
      rw [hphase] at hresume
      cases hresume
      rw [HandedOver, hphase] at hhanded
      rw [StoredAsSent, hphase] at hstored
      exact ⟨nofun, hstored, hhanded⟩
    | idle | observing | writing | finished result | failed =>
      rw [hphase] at hresume
      cases hresume

/-- **A step keeps the invariant.** -/
theorem Kept.step {save' : Save α} {label : SaveLabel α} (h : save.Kept session)
    (hkeeps : save.KeepsSent session label) (hstep : save.step session label = some save') :
    save'.Kept session := by
  cases label with
  | setAttribute key value =>
    cases hstep
    exact h.writes hkeeps
  | fill patch =>
    cases hstep
    exact h.writes hkeeps
  | journal fact =>
    cases hstep
    exact h.journal fact hkeeps
  | outbox message =>
    cases hstep
    exact h.outbox message
  | save =>
    rw [Save.step] at hstep
    split_ifs at hstep with hphase
    cases hstep
    exact h.begin hphase
  | callSaveEntity =>
    rw [Save.step] at hstep
    split_ifs at hstep with hphase
    cases hstep
    exact h.callSaveEntity hphase
  | resume awaited => exact h.resume hstep

end

theorem kept_ofModel (model : Model α) : (ofModel model).Kept session where
  fixed := nofun
  stored _ := rfl
  handed := ⟨⟨rfl, rfl⟩, rfl, rfl⟩

end Save

/-- **Saving loses no change**, in every run in which, between the moment the attributes are taken
and the moment they count as stored, none is assigned another value than was sent, and no fact is
added while messages are handed over.  When `save` is done, an attribute that is not what was sent
is dirty; and of the facts and messages that were added to the model, each was handed over once or
is still pending. -/
theorem save_keeps_changes [DecidableEq α] {session : SavingSession α} {model : Model α}
    {labels : List (SaveLabel α)} {save : Save α} {result : Bool}
    (h : Transition.Run (step session) (KeepsSent session) (.ofModel model) labels
      save)
    (hfinished : save.phase = .finished result) :
    (∀ key, save.model.attributes.get key ≠ save.sent key → save.model.isDirty key = true) ∧
      save.recorded.map JournalFact.fact ++ save.model.pendingJournal = save.journaled ∧
      save.enqueued ++ save.model.pendingOutbox = save.outboxed := by
  have hkept : save.Kept session :=
    h.invariant (P := Kept session) (fun _ _ _ hkept hkeeps hstep => hkept.step hkeeps hstep)
      (kept_ofModel model)
  have hstored := hkept.stored
  have hhanded := hkept.handed
  rw [StoredAsSent, hfinished] at hstored
  rw [HandedOver, hfinished] at hhanded
  refine ⟨fun key hne => ?_, hhanded⟩
  rw [Model.isDirty, hstored key]
  exact decide_eq_true hne

/-! ### Saving an article -/

/-- Articles are stored as documents. -/
def articleSession : SavingSession String where
  definition :=
    { entityType := "article"
      storage := .entityState
      attributes := some ["id", "title"]
      optionalAttributes := []
      attributeNormalizers := []
      authOwnedAttributes := []
      clearAttributeOnChange := [] }
  null := "null"
  text := id
  writable := true
  observed := false

/-- A stored article. -/
def storedArticle : Model String where
  attributes := (OrderedMap.empty.set "id" "a").set "title" "first"
  original := (OrderedMap.empty.set "id" "a").set "title" "first"
  lastChanges := []
  pendingJournal := []
  pendingOutbox := []
  existing := true
  version := some 1
  recentlyCreated := false
  constructedAttributes := ["id", "title"]

/-- The title is changed, and the model saved, up to the call of `saveEntity`. -/
def retitling : List (SaveLabel String) :=
  [.setAttribute "title" (some "second"), .save,
    .resume .done, .resume .done]

def renamed : PendingJournalFact String := ⟨"article.renamed", "second"⟩

/-- A fact that is added before the save is recorded. -/
theorem save_keeps_changes_article : ∃ save,
    Transition.run (step articleSession) (.ofModel storedArticle)
        (.journal renamed :: (retitling ++ [.resume (.saved 2 none),
          .resume .done, .resume .done,
          .resume .done])) = some save ∧
      save.recorded.map JournalFact.fact = [renamed] ∧
      (∀ key, save.model.attributes.get key ≠ save.sent key → save.model.isDirty key = true) ∧
      save.recorded.map JournalFact.fact ++ save.model.pendingJournal = save.journaled ∧
      save.enqueued ++ save.model.pendingOutbox = save.outboxed := by
  let saving : List (SaveLabel String) := retitling.tail ++
    [.resume (.saved 2 none), .resume .done,
      .resume .done, .resume .done]
  obtain ⟨save, hrun, hrecorded, hfinished⟩ : ∃ save,
      Transition.run (step articleSession) (.ofModel storedArticle)
          (.journal renamed :: .setAttribute "title" (some "second") ::
            saving) = some save ∧
        save.recorded.map JournalFact.fact = [renamed] ∧
        save.phase = .finished true := ⟨_, rfl, rfl, rfl⟩
  obtain ⟨journaled, hjournaled, hrest⟩ := Option.bind_eq_some_iff.1 hrun
  obtain ⟨retitled, hretitled, hrest⟩ := Option.bind_eq_some_iff.1 hrest
  have hjournal : (ofModel storedArticle).KeepsSent articleSession
      (.journal renamed) := nofun
  have hset : journaled.KeepsSent articleSession
      (.setAttribute "title" (some "second")) := by
    cases hjournaled
    exact nofun
  have hguard : ∀ label ∈ saving, ∀ save : Save String,
      save.KeepsSent articleSession label := by
    intro label hlabel save
    simp only [saving, retitling, List.tail_cons, List.cons_append, List.nil_append,
      List.mem_cons, List.not_mem_nil, or_false] at hlabel
    rcases hlabel with rfl | rfl | rfl | rfl | rfl | rfl | rfl <;> trivial
  exact ⟨save, hrun, hrecorded, save_keeps_changes
    (.cons hjournal hjournaled (.cons hset hretitled
      (Transition.Run.of_run hguard hrest))) hfinished⟩

/-- A title that is assigned while the entity is saved is not saved, and not dirty. -/
theorem change_lost :
    (Transition.run (step articleSession) (.ofModel storedArticle)
        (retitling ++ [.setAttribute "title" (some "third"),
          .resume (.saved 2 none), .resume .done,
          .resume .done])).map (fun save =>
      (save.phase, save.model.attributes.get "title", save.sent "title",
        save.model.isDirty "title")) =
      some (.finished true, some "third", some "second", false) ∧
    (Transition.run (step articleSession) (.ofModel storedArticle)
        (retitling ++ [.outbox ⟨"article.renamed", "second", none⟩,
          .resume (.saved 2 none), .journal renamed,
          .resume .done, .resume .done,
          .resume .done])).map (fun save =>
      (save.phase, save.journaled, save.recorded.map JournalFact.fact,
        save.model.pendingJournal)) =
      some (.finished true, [renamed], [], []) :=
  ⟨rfl, rfl⟩

end Doxa
