/-
**Operations settle before the work returns.**

The queue runs the operations one at a time, in the order in which they were accepted: each callback
waits for the tail that the operation before it leaves, and a tail is settled only behind the
result, the callback and the operation itself.  So when the tail that `drain` awaited is still the
last one, all operations have settled, and `drain` fails if one of them did.

That is the last time `drain` looks.  Its result takes two more jobs to get to `close`, through the
`drain` of the unit of work and back to `runTransactionWork`, and what is accepted in between is not
waited for.  In runs in which nothing is, every accepted operation has settled when
`runTransactionWork` does.

Main definitions:

* `Doxa.TransactionWork.Sound` — the invariant of the queue;
* `Doxa.TransactionWork.AcceptsInTime` — the condition on a step.

Main results:

* `Doxa.TransactionWork.Sound.settle`, `Doxa.TransactionWork.Sound.react` — what keeps the
  invariant;
* `Doxa.TransactionWork.Sound.step` — **a step keeps the invariant**;
* `Doxa.operations_settle` — **operations run in order, and settle before the work returns**.
-/

import Doxa.PostgresTransaction

set_option relaxedAutoImplicit false
set_option autoImplicit false

namespace Doxa

open EventLoop TransactionWork

/-! ### The order of the operations -/

/-- When an operation is called, those called before it have smaller numbers, and have finished. -/
def RunInOrder (log : List TransactionEvent) : Prop :=
  ∀ newer operation older, log = newer ++ .called operation :: older →
    ∀ earlier, .called earlier ∈ older →
      earlier < operation ∧ .finished earlier ∈ older

theorem RunInOrder.cons {event : TransactionEvent} {log : List TransactionEvent}
    (h : RunInOrder log)
    (hevent : ∀ operation, event = .called operation →
      ∀ earlier, .called earlier ∈ log →
        earlier < operation ∧ .finished earlier ∈ log) :
    RunInOrder (event :: log) := by
  intro newer operation older hlog earlier hearlier
  cases newer with
  | nil =>
    cases hlog
    exact hevent operation rfl earlier hearlier
  | cons first newer => exact h newer operation older (List.cons.inj hlog).2 earlier hearlier

variable {ε : Type*} {inTime : Prop}

/-! ### The invariant of the queue -/

namespace TransactionWork

/-- What may wait for what. -/
inductive Expected (operations : ℕ) (log : List TransactionEvent) :
    TransactionPromise → TransactionReaction → Prop
  | start (n : ℕ) (haccepted : n < operations) :
      Expected operations log (.tail n) (.start n)
  | check (n : ℕ) :
      Expected operations log (.tail n) (.check n)
  | resume (n : ℕ) (hcalled : .called n ∈ log) :
      Expected operations log (.operation n) (.resume n)
  | settleResult (n : ℕ) :
      Expected operations log (.body n) (.settleResult n)
  | forget (n : ℕ) :
      Expected operations log (.result n) (.forget n)
  | resumeDrain : Expected operations log .drained .resumeDrain
  | close : Expected operations log .unitDrained .close
  | resumeWork : Expected operations log .work .resumeWork
  | resumeRace : Expected operations log .race .resumeWork
  | settleBegun : Expected operations log .work .settleBegun
  | win : Expected operations log .begun .win
  | cancel : Expected operations log .cancelled .win

variable {promise : TransactionPromise} {reaction : TransactionReaction}

theorem Expected.mono {operations operations' : ℕ} {log log' : List TransactionEvent}
    (h : Expected operations log promise reaction) (hoperations : operations ≤ operations')
    (hlog : log ⊆ log') : Expected operations' log' promise reaction := by
  cases h with
  | start n haccepted => exact .start n (Nat.lt_of_lt_of_le haccepted hoperations)
  | resume n hcalled => exact .resume n (hlog hcalled)
  | _ => constructor

/-- A promise is settled. -/
def IsSettled (work : TransactionWork ε) (promise : TransactionPromise) : Prop :=
  (work.loop.settled promise).isSome = true

/-- How often the callback of an operation waits for its turn. -/
def startsWaiting (work : TransactionWork ε) (n : ℕ) : ℕ :=
  work.loop.waiting (.tail n) (.start n)

/-- All accepted operations have settled; and when the settlement is not a failure, none has failed.
-/
def AllSettled (work : TransactionWork ε) (settlement : Settlement ε) : Prop :=
  ∀ n < work.operations, ∃ result,
    work.loop.settled (.result n) = some result ∧
      (settlement = .fulfilled → result = .fulfilled)

/-- The unit of work is closed, and its queue was drained; and when the settlement is not a failure,
draining it was none. -/
def Closed (work : TransactionWork ε) (settlement : Settlement ε) : Prop :=
  work.active = false ∧ ∃ drained,
    work.loop.settled .unitDrained = some drained ∧
      (settlement = .fulfilled → drained = .fulfilled)

/-- **The invariant.**  A tail is settled behind the result, the result like the body, and the body
behind the tail before it; a callback waits at most once, and not after it has run; the calls come
in order; and when operations are accepted in time, the queue is drained behind all results. -/
structure Sound (inTime : Prop) (work : TransactionWork ε) : Prop where
  loop : work.loop.Sound
  expected : ∀ promise reaction, 0 < work.loop.waiting promise reaction →
    Expected work.operations work.log promise reaction
  calling : ∀ n, work.calling = some (.operation n) → .called n ∈ work.log
  tail : ∀ n, work.IsSettled (.tail (n + 1)) →
    work.IsSettled (.result n)
  result : ∀ n settlement, work.loop.settled (.result n) = some settlement →
    work.loop.settled (.body n) = some settlement
  body : ∀ n, work.IsSettled (.body n) →
    work.IsSettled (.tail n)
  failure : ∀ n error,
    work.loop.settled (.body n) = some (.rejected error) →
      work.failure.isSome = true
  waits : ∀ n, work.startsWaiting n ≤ 1
  started : ∀ n, .called n ∈ work.log ∨
      work.IsSettled (.body n) → n < work.operations ∧ work.startsWaiting n = 0
  called : ∀ n, .called n ∈ work.log → work.IsSettled (.tail n)
  operation : ∀ n, work.IsSettled (.operation n) →
    .finished n ∈ work.log
  finished : ∀ n, .called n ∈ work.log →
    work.IsSettled (.body n) → .finished n ∈ work.log
  order : RunInOrder work.log
  drained : inTime → ∀ settlement,
    work.loop.settled .drained = some settlement → work.AllSettled settlement
  unitDrained : ∀ settlement, work.loop.settled .unitDrained = some settlement →
    work.loop.settled .drained = some settlement
  closed : ∀ settlement, work.loop.settled .settled = some settlement →
    work.Closed settlement

variable {work : TransactionWork ε}

/-- Behind a settled tail all operations have settled. -/
theorem Sound.settled_before (h : work.Sound inTime) {n : ℕ} (htail : work.IsSettled (.tail n)) :
    ∀ m < n, work.IsSettled (.result m) ∧ work.IsSettled (.body m) := by
  induction n with
  | zero => intro m hm; omega
  | succ n ih =>
    have hresult := h.tail n htail
    obtain ⟨settlement, hsettlement⟩ := Option.isSome_iff_exists.1 hresult
    have hbody : work.IsSettled (.body n) := by
      rw [IsSettled, h.result n settlement hsettlement]
      rfl
    intro m hm
    rcases Nat.lt_succ_iff_lt_or_eq.1 hm with hm | rfl
    · exact ih (h.body n hbody) m hm
    · exact ⟨hresult, hbody⟩

theorem Sound.note (h : work.Sound inTime) (event : TransactionEvent)
    (hevent : ∀ n, event = .called n →
      work.IsSettled (.tail n) ∧
      (n < work.operations ∧ work.startsWaiting n = 0) ∧
      ¬ work.IsSettled (.body n) ∧
      ∀ m, .called m ∈ work.log →
      m < n ∧ .finished m ∈ work.log) : (work.note event).Sound inTime where
  loop := h.loop
  expected promise reaction hwaiting :=
    (h.expected promise reaction hwaiting).mono (Nat.le_refl _) (List.subset_cons_self _ _)
  calling n hcalling := List.mem_cons_of_mem _ (h.calling n hcalling)
  tail := h.tail
  result := h.result
  body := h.body
  failure := h.failure
  waits := h.waits
  started n hn := by
    rcases hn with hmem | hbody
    · rcases List.mem_cons.1 hmem with heq | hmem
      · exact (hevent n heq.symm).2.1
      · exact h.started n (.inl hmem)
    · exact h.started n (.inr hbody)
  called n hmem := by
    rcases List.mem_cons.1 hmem with heq | hmem
    · exact (hevent n heq.symm).1
    · exact h.called n hmem
  operation n hn := List.mem_cons_of_mem _ (h.operation n hn)
  finished n hmem hbody := by
    rcases List.mem_cons.1 hmem with heq | hmem
    · exact absurd hbody (hevent n heq.symm).2.2.1
    · exact List.mem_cons_of_mem _ (h.finished n hmem hbody)
  order := h.order.cons fun n heq => (hevent n heq).2.2.2
  drained := h.drained
  unitDrained := h.unitDrained
  closed := h.closed

/-- What must be known when a promise is settled. -/
def MaySettle (inTime : Prop) (work : TransactionWork ε) (settlement : Settlement ε) :
    TransactionPromise → Prop
  | .tail 0 => False
  | .tail (n + 1) => work.IsSettled (.result n)
  | .body n =>
    work.IsSettled (.tail n) ∧
      (n < work.operations ∧ work.startsWaiting n = 0) ∧
      (∀ error, settlement = .rejected error → work.failure.isSome = true) ∧
      (.called n ∈ work.log → .finished n ∈ work.log)
  | .operation n => .finished n ∈ work.log
  | .result n =>
    work.loop.settled (.body n) = some settlement
  | .drained => inTime → work.AllSettled settlement
  | .unitDrained =>
    work.loop.settled .drained = some settlement
  | .settled => work.Closed settlement
  | _ => True

theorem IsSettled.settle {other : TransactionPromise} (h : work.IsSettled other)
    (promise : TransactionPromise) (settlement : Settlement ε) :
    (work.settle promise settlement).IsSettled other := by
  obtain ⟨before, hbefore⟩ := Option.isSome_iff_exists.1 h
  rw [IsSettled, TransactionWork.settle, EventLoop.settled_settle_of_eq_some hbefore]
  rfl

theorem IsSettled.of_settle {other : TransactionPromise} {settlement : Settlement ε}
    (h : (work.settle promise settlement).IsSettled other) :
    work.IsSettled other ∨ other = promise := by
  obtain ⟨after, hafter⟩ := Option.isSome_iff_exists.1 h
  rcases settled_of_settle hafter with hbefore | ⟨rfl, -⟩
  · rw [IsSettled, hbefore]
    exact .inl rfl
  · exact .inr rfl

@[simp] theorem startsWaiting_settle (work : TransactionWork ε) (promise : TransactionPromise)
    (settlement : Settlement ε) (n : ℕ) :
    (work.settle promise settlement).startsWaiting n = work.startsWaiting n :=
  waiting_settle _ _ _ _ _

theorem AllSettled.settle {drained : Settlement ε} (h : work.AllSettled drained)
    (promise : TransactionPromise) (settlement : Settlement ε) :
    (work.settle promise settlement).AllSettled drained := by
  intro n hn
  obtain ⟨result, hresult, hfulfilled⟩ := h n hn
  exact ⟨result, settled_settle_of_eq_some hresult, hfulfilled⟩

theorem Closed.settle {closed : Settlement ε} (h : work.Closed closed)
    (promise : TransactionPromise) (settlement : Settlement ε) :
    (work.settle promise settlement).Closed closed := by
  obtain ⟨hactive, drained, hdrained, hfulfilled⟩ := h
  exact ⟨hactive, drained, settled_settle_of_eq_some hdrained, hfulfilled⟩

/-- **Settling a promise** behind what it stands for. -/
theorem Sound.settle (h : work.Sound inTime) (promise : TransactionPromise)
    (settlement : Settlement ε) (hmay : work.MaySettle inTime settlement promise) :
    (work.settle promise settlement).Sound inTime where
  loop := h.loop.settle promise settlement
  expected other reaction hwaiting := by
    rw [TransactionWork.settle, waiting_settle] at hwaiting
    exact h.expected other reaction hwaiting
  calling := h.calling
  tail n hn := by
    rcases hn.of_settle with hbefore | rfl
    · exact (h.tail n hbefore).settle _ _
    · exact IsSettled.settle hmay _ _
  result n result hresult := by
    rcases settled_of_settle hresult with hbefore | ⟨rfl, rfl⟩
    · exact settled_settle_of_eq_some (h.result n result hbefore)
    · exact settled_settle_of_eq_some hmay
  body n hn := by
    rcases hn.of_settle with hbefore | rfl
    · exact (h.body n hbefore).settle _ _
    · exact hmay.1.settle _ _
  failure n error hbody := by
    rcases settled_of_settle hbody with hbefore | ⟨rfl, heq⟩
    · exact h.failure n error hbefore
    · exact hmay.2.2.1 error heq.symm
  waits n := by
    rw [startsWaiting_settle]
    exact h.waits n
  started n hn := by
    rw [startsWaiting_settle]
    rcases hn with hcalled | hbody
    · exact h.started n (.inl hcalled)
    · rcases hbody.of_settle with hbefore | rfl
      · exact h.started n (.inr hbefore)
      · exact hmay.2.1
  called n hn := (h.called n hn).settle _ _
  operation n hn := by
    rcases hn.of_settle with hbefore | rfl
    · exact h.operation n hbefore
    · exact hmay
  finished n hcalled hbody := by
    rcases hbody.of_settle with hbefore | rfl
    · exact h.finished n hcalled hbefore
    · exact hmay.2.2.2 hcalled
  order := h.order
  drained hinTime drained hdrained := by
    rcases settled_of_settle hdrained with hbefore | ⟨rfl, rfl⟩
    · exact (h.drained hinTime drained hbefore).settle _ _
    · exact (hmay hinTime).settle _ _
  unitDrained drained hdrained := by
    rcases settled_of_settle hdrained with hbefore | ⟨rfl, rfl⟩
    · exact settled_settle_of_eq_some (h.unitDrained drained hbefore)
    · exact settled_settle_of_eq_some hmay
  closed closed hclosed := by
    rcases settled_of_settle hclosed with hbefore | ⟨rfl, rfl⟩
    · exact (h.closed closed hbefore).settle _ _
    · exact Closed.settle hmay _ _

@[simp] theorem isSettled_react (work : TransactionWork ε) (promise : TransactionPromise)
    (reaction : TransactionReaction) (other : TransactionPromise) :
    (work.react promise reaction).IsSettled other ↔ work.IsSettled other := by
  rw [IsSettled, react, settled_react, IsSettled]

theorem startsWaiting_react (work : TransactionWork ε) (promise : TransactionPromise)
    (reaction : TransactionReaction) (n : ℕ) :
    (work.react promise reaction).startsWaiting n = work.startsWaiting n +
      if promise = .tail n ∧ reaction = .start n then 1
      else 0 :=
  waiting_react _ _ _ _ _

/-- **Registering a reaction.**  The callback of an operation is registered once, before it runs. -/
theorem Sound.react (h : work.Sound inTime)
    (hexpected : Expected work.operations work.log promise reaction)
    (hstart : ∀ n, reaction = .start n → work.startsWaiting n = 0 ∧
      ¬ (.called n ∈ work.log ∨ work.IsSettled (.body n))) :
    (work.react promise reaction).Sound inTime := by
  have hsettled : (work.react promise reaction).loop.settled = work.loop.settled :=
    settled_react _ _ _
  exact
    { loop := h.loop.react promise reaction
      expected := fun other waiting hwaiting => by
        rw [TransactionWork.react, waiting_react] at hwaiting
        split_ifs at hwaiting with heq
        · exact heq.1 ▸ heq.2 ▸ hexpected
        · exact h.expected other waiting hwaiting
      calling := h.calling
      tail := fun n hn => (isSettled_react ..).2 (h.tail n ((isSettled_react ..).1 hn))
      result := fun n result hresult => by
        rw [hsettled] at hresult ⊢
        exact h.result n result hresult
      body := fun n hn => (isSettled_react ..).2 (h.body n ((isSettled_react ..).1 hn))
      failure := fun n error hbody => by
        rw [hsettled] at hbody
        exact h.failure n error hbody
      waits := fun n => by
        rw [startsWaiting_react]
        split_ifs with heq
        · exact Nat.le_of_eq (congrArg (· + 1) (hstart n heq.2).1)
        · exact h.waits n
      started := fun n hn => by
        have hbefore := hn.imp id (isSettled_react ..).1
        rw [startsWaiting_react, if_neg fun heq => (hstart n heq.2).2 hbefore]
        exact h.started n hbefore
      called := fun n hn => (isSettled_react ..).2 (h.called n hn)
      operation := fun n hn => h.operation n ((isSettled_react ..).1 hn)
      finished := fun n hcalled hbody => h.finished n hcalled ((isSettled_react ..).1 hbody)
      order := h.order
      drained := fun hinTime drained hdrained => by
        rw [hsettled] at hdrained
        rw [AllSettled, hsettled]
        exact h.drained hinTime drained hdrained
      unitDrained := fun drained hdrained => by
        rw [hsettled] at hdrained ⊢
        exact h.unitDrained drained hdrained
      closed := fun closed hclosed => by
        rw [hsettled] at hclosed
        rw [Closed, hsettled]
        exact h.closed closed hclosed }

@[simp] theorem startsWaiting_queue (work : TransactionWork ε) (task : TransactionTask) (n : ℕ) :
    (work.queue task).startsWaiting n = work.startsWaiting n :=
  waiting_queue _ _ _ _

theorem Sound.queue (h : work.Sound inTime) (task : TransactionTask) :
    (work.queue task).Sound inTime :=
  { h with
    loop := h.loop.queue task
    expected := fun promise reaction hwaiting => by
      rw [TransactionWork.queue, waiting_queue] at hwaiting
      exact h.expected promise reaction hwaiting
    waits := fun n => by
      rw [startsWaiting_queue]
      exact h.waits n
    started := fun n hn => by
      rw [startsWaiting_queue]
      exact h.started n hn }

/-- A callback does not wait before its operation is accepted. -/
theorem Sound.startsWaiting_eq_zero (h : work.Sound inTime) {n : ℕ} (hn : work.operations ≤ n) :
    work.startsWaiting n = 0 := by
  by_contra hwaiting
  cases h.expected _ _ (Nat.pos_of_ne_zero hwaiting) with
  | start n haccepted => omega

/-- **An operation is accepted.** -/
theorem Sound.runQueued (h : work.Sound inTime) (hdrained : inTime → ¬ work.IsSettled .drained) :
    work.runQueued.Sound inTime := by
  have hcounted : Sound inTime { work with operations := work.operations + 1 } :=
    { h with
      drained := fun hinTime settlement hsettlement => by
        refine absurd ?_ (hdrained hinTime)
        rw [IsSettled, hsettlement]
        rfl
      expected := fun promise reaction hwaiting =>
        (h.expected promise reaction hwaiting).mono (Nat.le_succ _) (List.Subset.refl _)
      started := fun n hn => ⟨Nat.lt_succ_of_lt (h.started n hn).1, (h.started n hn).2⟩ }
  have hstart : ∀ n, TransactionReaction.start work.operations = TransactionReaction.start n →
      work.startsWaiting n = 0 ∧ ¬ (.called n ∈ work.log ∨
        work.IsSettled (.body n)) := by
    intro n heq
    obtain rfl := TransactionReaction.start.inj heq
    exact ⟨h.startsWaiting_eq_zero (Nat.le_refl _), fun hn =>
      Nat.lt_irrefl _ (h.started _ hn).1⟩
  exact (hcounted.react (.start _ (Nat.lt_succ_self _)) hstart).react (.forget _)
    nofun

theorem Sound.runOperation (h : work.Sound inTime)
    (hdrained : inTime → work.active = true → ¬ work.IsSettled .drained) :
    work.runOperation.Sound inTime := by
  rw [TransactionWork.runOperation]
  split_ifs with hactive
  · exact h.runQueued fun hinTime => hdrained hinTime hactive
  · exact h

/-! ### Steps of the queue -/

/-- **The callback of an operation comes to an end.** -/
theorem Sound.finishOperation (h : work.Sound inTime) {n : ℕ} (htail : work.IsSettled (.tail n))
    (hstarted : n < work.operations ∧ work.startsWaiting n = 0)
    (hfinished : .called n ∈ work.log → .finished n ∈ work.log) (settlement : Settlement ε) :
    (work.finishOperation n settlement).Sound inTime := by
  cases settlement with
  | fulfilled => exact h.settle (.body n) _ ⟨htail, hstarted, nofun, hfinished⟩
  | rejected error =>
    have hfailed : Sound inTime { work with failure := some error } :=
      { h with failure := fun _ _ _ => rfl }
    exact hfailed.settle (.body n) _
      ⟨htail, hstarted, fun _ _ => rfl, hfinished⟩

/-- **The callback of an operation runs.** -/
theorem Sound.startOperation (h : work.Sound inTime) {n : ℕ} (htail : work.IsSettled (.tail n))
    (hstarted : n < work.operations ∧ work.startsWaiting n = 0) (hcalled : .called n ∉ work.log)
    (hbody : ¬ work.IsSettled (.body n)) : (work.startOperation n).Sound inTime := by
  rw [TransactionWork.startOperation]
  cases hfailure : work.failure with
  | some error =>
    have hfailed : work.failure.isSome = true := by
      rw [hfailure]
      rfl
    exact (h.settle (.body n) (.rejected error)
      ⟨htail, hstarted, fun _ _ => hfailed, fun hmem => absurd hmem hcalled⟩).queue _
  | none =>
    -- whatever was called before stands before, and has finished
    have hbefore : ∀ m, .called m ∈ work.log →
        m < n ∧ .finished m ∈ work.log := by
      intro m hmem
      have hlt : m < n := by
        by_contra hle
        rcases Nat.lt_or_eq_of_le (Nat.le_of_not_lt hle) with hlt | rfl
        · exact hbody (h.settled_before (h.called m hmem) n hlt).2
        · exact hcalled hmem
      exact ⟨hlt, h.finished m hmem (h.settled_before htail m hlt).2⟩
    have hnoted : (work.note (.called n)).Sound inTime := by
      refine h.note _ fun m heq => ?_
      obtain rfl := TransactionEvent.called.inj heq
      exact ⟨htail, hstarted, hbody, hbefore⟩
    refine { hnoted with calling := fun m heq => ?_ }
    obtain rfl := WorkCall.operation.inj (Option.some.inj heq)
    exact List.mem_cons_self

theorem Sound.awaitTail (h : work.Sound inTime) : work.awaitTail.Sound inTime :=
  h.react (.check _) nofun

/-- **The last look of `drain`**: behind the tail everything has settled. -/
theorem Sound.checkTail (h : work.Sound inTime) {drained : ℕ}
    (htail : work.IsSettled (.tail drained)) : (work.checkTail drained).Sound inTime := by
  rw [TransactionWork.checkTail]
  split_ifs with heq
  · have hall : ∀ settlement : Settlement ε,
        (settlement = .fulfilled → work.failure = none) →
          work.AllSettled settlement := by
      intro settlement hfulfilled n hn
      obtain ⟨result, hresult⟩ :=
        Option.isSome_iff_exists.1 (h.settled_before htail n (heq ▸ hn)).1
      refine ⟨result, hresult, fun hsettlement => ?_⟩
      cases result with
      | fulfilled => rfl
      | rejected error =>
        have hfailure := h.failure n error (h.result n _ hresult)
        rw [hfulfilled hsettlement] at hfailure
        cases hfailure
    cases hfailure : work.failure with
    | none => exact h.settle .drained _ fun _ => hall _ fun _ => hfailure
    | some error =>
      exact h.settle .drained (.rejected error) fun _ => hall _ nofun
  · exact h.awaitTail

theorem Sound.drain (h : work.Sound inTime) : work.drain.Sound inTime :=
  (h.awaitTail.react .resumeDrain nofun).react .close nofun

theorem Sound.drainAfter (h : work.Sound inTime) (settlement : Settlement ε) :
    (work.drainAfter settlement).Sound inTime := by
  cases settlement with
  | fulfilled => exact h.drain
  | rejected error =>
    have hfailed : Sound inTime { work with workFailure := some error } := { h with }
    exact hfailed.drain

theorem Sound.finish (h : work.Sound inTime) {drained : Settlement ε}
    (hdrained : work.loop.settled .unitDrained = some drained) :
    (work.finish drained).Sound inTime := by
  have hclosed : Sound inTime { work with
      active := false
      listening := false
      workFailure := work.workFailure <|> work.cancellationFailure } :=
    { h with closed := fun settlement hsettled => ⟨rfl, (h.closed settlement hsettled).2⟩ }
  refine hclosed.settle .settled _ ⟨rfl, drained, hdrained, ?_⟩
  cases work.workFailure <|> work.cancellationFailure with
  | none => exact id
  | some error => exact nofun

theorem Sound.abort (h : work.Sound inTime) (error : ε) : (work.abort error).Sound inTime := by
  rw [TransactionWork.abort]
  split_ifs
  · exact h
  · have hclosed : Sound inTime
        { work with cancellationFailure := some error, active := false } :=
      { h with closed := fun settlement hsettled => ⟨rfl, (h.closed settlement hsettled).2⟩ }
    exact hclosed.settle _ _ trivial

/-- **A call comes to an end.** -/
theorem Sound.afterCall (h : work.Sound inTime) {call : WorkCall}
    (hcalling : work.calling = some call) (outcome : CallOutcome ε) :
    (work.afterCall call outcome).Sound inTime := by
  have hended : Sound inTime { work with calling := none } := { h with calling := nofun }
  cases call with
  | transaction =>
    have hreturned : (if work.cancellable then
        { work with calling := none }.queue .followWork
      else { work with calling := none }.react .work
        .resumeWork).Sound inTime := by
      split_ifs
      · exact hended.queue _
      · exact hended.react .resumeWork nofun
    cases outcome with
    | promise => exact hreturned
    | settledPromise settlement => exact hreturned
    | thrown error =>
      rw [TransactionWork.afterCall]
      dsimp only
      split_ifs
      · exact hended.settle _ _ trivial
      · exact hended.drainAfter _
  | operation n =>
    have hcalled := h.calling n hcalling
    have hreturned : ((({ work with calling := none } : TransactionWork ε).react
        (.operation n) (.resume n)).queue
          (.follow n)).Sound inTime :=
      (hended.react (.resume n hcalled) nofun).queue _
    cases outcome with
    | promise => exact hreturned
    | settledPromise settlement => exact hreturned
    | thrown error =>
      have hnoted := hended.note (.finished n) nofun
      exact (hnoted.finishOperation (h.called n hcalled) (h.started n (.inl hcalled))
        (fun _ => List.mem_cons_self) _).queue _

theorem Sound.settleCall (h : work.Sound inTime) (call : WorkCall) (settlement : Settlement ε) :
    (work.settleCall call settlement).Sound inTime := by
  cases call with
  | transaction => exact h.settle _ _ trivial
  | operation n =>
    have hnoted := h.note (.finished n) nofun
    exact hnoted.settle (.operation n) settlement List.mem_cons_self

theorem Sound.endCall (h : work.Sound inTime) {call : WorkCall}
    (hcalling : work.calling = some call) (outcome : CallOutcome ε) :
    (work.endCall call outcome).Sound inTime := by
  have hreturned : Sound inTime { work with returned := call :: work.returned } := { h with }
  cases outcome with
  | promise => exact hreturned.afterCall hcalling _
  | settledPromise settlement =>
    refine (hreturned.settleCall call settlement).afterCall ?_ _
    cases call <;> exact hcalling
  | thrown error => exact h.afterCall hcalling _

/-- **A reaction runs**: the promise it waited for is settled, and it waits no longer. -/
theorem Sound.runReaction (h : work.Sound inTime) {source : TransactionPromise}
    {settlement : Settlement ε} (hsource : work.loop.settled source = some settlement)
    (hexpected : Expected work.operations work.log source reaction)
    (hstart : ∀ n, reaction = .start n →
      work.startsWaiting n = 0 ∧ .called n ∉ work.log ∧
      ¬ work.IsSettled (.body n)) : (work.runReaction settlement reaction).Sound inTime := by
  have hsettled : work.IsSettled source := by
    rw [IsSettled, hsource]
    rfl
  cases hexpected with
  | start n haccepted =>
    obtain ⟨hwaiting, hcalled, hbody⟩ := hstart n rfl
    exact h.startOperation hsettled ⟨haccepted, hwaiting⟩ hcalled hbody
  | check n => exact h.checkTail hsettled
  | resume n hcalled =>
    exact h.finishOperation (h.called n hcalled) (h.started n (.inl hcalled))
      (fun _ => h.operation n hsettled) settlement
  | settleResult n => exact h.settle (.result n) _ hsource
  | forget n => exact h.settle (.tail (n + 1)) _ hsettled
  | resumeDrain => exact h.settle .unitDrained _ hsource
  | close => exact h.finish hsource
  | resumeWork => exact h.drainAfter settlement
  | resumeRace => exact h.drainAfter settlement
  | settleBegun => exact h.settle _ _ trivial
  | win => exact h.settle _ _ trivial
  | cancel => exact h.settle _ _ trivial

theorem Sound.runTask (h : work.Sound inTime) (task : TransactionTask) :
    (work.runTask task).Sound inTime := by
  cases task with
  | begin => exact { h with calling := nofun }
  | followWork => exact h.react .settleBegun nofun
  | follow n => exact h.react (.settleResult n) nofun

/-- The first job is taken off the queue. -/
theorem Sound.dequeue (h : work.Sound inTime)
    {job : Job TransactionPromise TransactionReaction TransactionTask (Settlement ε)}
    {jobs : List (Job TransactionPromise TransactionReaction TransactionTask (Settlement ε))}
    (hjobs : work.loop.jobs = job :: jobs) :
    Sound inTime { work with loop := { work.loop with jobs := jobs } } := by
  have hle : ∀ promise reaction,
      ({ work.loop with jobs := jobs } : EventLoop _ _ _ _).waiting promise reaction ≤
        work.loop.waiting promise reaction := by
    intro promise reaction
    rw [waiting_of_cons hjobs]
    exact Nat.le_add_right _ _
  exact
    { h with
      loop := fun source outcome reaction hmem => by
        refine h.loop source outcome reaction ?_
        rw [hjobs]
        exact List.mem_cons_of_mem _ hmem
      expected := fun promise reaction hwaiting =>
        h.expected promise reaction (Nat.lt_of_lt_of_le hwaiting (hle promise reaction))
      waits := fun n => Nat.le_trans (hle _ _) (h.waits n)
      started := fun n hn => ⟨(h.started n hn).1,
        Nat.le_zero.1 ((h.started n hn).2 ▸ hle _ _)⟩ }

/-- **A job runs.** -/
theorem Sound.runJob {work' : TransactionWork ε} (h : work.Sound inTime)
    (hrun : work.runJob = some work') : work'.Sound inTime := by
  rw [TransactionWork.runJob] at hrun
  cases hjobs : work.loop.jobs with
  | nil =>
    rw [hjobs] at hrun
    cases hrun
  | cons job jobs =>
    rw [hjobs] at hrun
    have hdequeued := h.dequeue hjobs
    cases job with
    | task task =>
      cases hrun
      exact hdequeued.runTask task
    | reaction source settlement reaction =>
      cases hrun
      have hwaiting := waiting_of_cons hjobs source reaction
      rw [EventLoop.Job.isReaction, decide_eq_true rfl, decide_eq_true rfl] at hwaiting
      have hexpected := h.expected source reaction (hwaiting ▸ Nat.succ_pos _)
      have hsource : work.loop.settled source = some settlement := by
        refine h.loop source settlement reaction ?_
        rw [hjobs]
        exact List.mem_cons_self
      refine hdequeued.runReaction hsource hexpected fun n heq => ?_
      subst heq
      cases hexpected with
      | start n haccepted =>
        -- the only callback of the operation that waited is the one that runs
        have hwaits := h.waits n
        rw [startsWaiting, hwaiting] at hwaits
        have hstarted : ¬ (.called n ∈ work.log ∨
            work.IsSettled (.body n)) := by
          intro hn
          have hzero := (h.started n hn).2
          rw [startsWaiting, hwaiting] at hzero
          cases hzero
        exact ⟨Nat.le_zero.1 (Nat.le_of_succ_le_succ hwaits), not_or.1 hstarted⟩

/-- The condition: no operation is accepted once `drain` has looked for the last time. -/
def AcceptsInTime (work : TransactionWork ε) : TransactionLabel ε → Prop
  | .runOperation =>
    work.active = true → ¬ work.IsSettled .drained
  | _ => True

/-- **A step keeps the invariant.** -/
theorem Sound.step {work' : TransactionWork ε} {label : TransactionLabel ε} (h : work.Sound inTime)
    (hlabel : inTime → work.AcceptsInTime label) (hstep : work.step label = some work') :
    work'.Sound inTime := by
  cases label with
  | runOperation =>
    cases hstep
    exact h.runOperation hlabel
  | endCall outcome =>
    obtain ⟨call, hcalling, rfl⟩ := Option.map_eq_some_iff.1 hstep
    exact h.endCall hcalling outcome
  | settle call settlement =>
    rw [TransactionWork.step] at hstep
    split_ifs at hstep
    cases hstep
    exact h.settleCall call settlement
  | abort error =>
    rw [TransactionWork.step] at hstep
    split_ifs at hstep
    cases hstep
    exact h.abort error
  | job =>
    rw [TransactionWork.step] at hstep
    split_ifs at hstep
    exact h.runJob hstep

theorem sound_new (cancellable : Bool) : (new cancellable : TransactionWork ε).Sound inTime := by
  have hsettled : ∀ promise settlement,
      (new cancellable : TransactionWork ε).loop.settled promise = some settlement →
        promise = .tail 0 := by
    intro promise settlement h
    by_contra hne
    rw [new] at h
    dsimp only at h
    rw [if_neg hne] at h
    cases h
  have hunsettled : ∀ promise, promise ≠ .tail 0 →
      ¬ (new cancellable : TransactionWork ε).IsSettled promise := by
    intro promise hne h
    obtain ⟨settlement, hsettlement⟩ := Option.isSome_iff_exists.1 h
    exact hne (hsettled promise settlement hsettlement)
  exact
    { loop := nofun
      expected := fun _ _ hwaiting => absurd hwaiting (Nat.lt_irrefl 0)
      calling := nofun
      tail := fun n hn => absurd hn (hunsettled _ nofun)
      result := fun n settlement hn => absurd (hsettled _ settlement hn) nofun
      body := fun n hn => absurd hn (hunsettled _ nofun)
      failure := fun n error hn => absurd (hsettled _ _ hn) nofun
      waits := fun _ => Nat.zero_le 1
      started := fun n hn => hn.elim nofun fun hbody => absurd hbody (hunsettled _ nofun)
      called := nofun
      operation := fun n hn => absurd hn (hunsettled _ nofun)
      finished := nofun
      order := fun newer operation older hlog => by
        cases newer <;> cases hlog
      drained := fun _ settlement hn => absurd (hsettled _ settlement hn) nofun
      unitDrained := fun settlement hn => absurd (hsettled _ settlement hn) nofun
      closed := fun settlement hn => absurd (hsettled _ settlement hn) nofun }

theorem sound_runTransactionWork (cancellation : Option (Option ε)) :
    (runTransactionWork cancellation).Sound inTime := by
  cases cancellation with
  | none => exact { sound_new false with calling := nofun }
  | some aborted =>
    have hracing : ∀ work : TransactionWork ε, work.Sound inTime →
        ((((work.queue .begin).react .begun
            .win).react .cancelled
          .win).react .race
            .resumeWork).Sound inTime := fun work h =>
      (((h.queue _).react .win nofun).react .cancel nofun).react
        .resumeRace nofun
    cases aborted with
    | none => exact hracing _ (sound_new true)
    | some error => exact hracing _ ((sound_new true).abort error)

end TransactionWork

/-! ### Runs -/

/-- **Operations settle before the work returns**, in every run in which none is accepted once
`drain` has looked for the last time.  Operations run one at a time, in the order in which they were
accepted; when `runTransactionWork` settles, all of them have settled, and it rejects if one of them
was rejected. -/
theorem operations_settle {cancellation : Option (Option ε)} {labels : List (TransactionLabel ε)}
    {work : TransactionWork ε}
    (h : Transition.Run step AcceptsInTime
      (.runTransactionWork cancellation) labels work) :
    RunInOrder work.log ∧
    ∀ settlement, work.loop.settled .settled = some settlement →
      ∀ n < work.operations, ∃ result,
        work.loop.settled (.result n) = some result ∧
          (settlement = .fulfilled → result = .fulfilled) := by
  have hsound : work.Sound True :=
    h.invariant (P := Sound True)
      (fun _ _ _ hsound haccepts hstep => hsound.step (fun _ => haccepts) hstep)
      (sound_runTransactionWork cancellation)
  refine ⟨hsound.order, fun settlement hsettled n hn => ?_⟩
  obtain ⟨-, drained, hdrained, hfulfilled⟩ := hsound.closed settlement hsettled
  obtain ⟨result, hresult, hall⟩ :=
    hsound.drained trivial drained (hsound.unitDrained drained hdrained) n hn
  exact ⟨result, hresult, fun heq => hall (hfulfilled heq)⟩

/-- Operations run one at a time and in order in every run. -/
theorem operations_run_in_order {cancellation : Option (Option ε)}
    {labels : List (TransactionLabel ε)} {work : TransactionWork ε}
    (h : Transition.run step (.runTransactionWork cancellation)
      labels = some work) : RunInOrder work.log := by
  have hsound : work.Sound False :=
    (Transition.run_eq_some_iff.1 h).invariant (P := Sound False)
      (fun _ _ _ hsound _ hstep => hsound.step nofun hstep)
      (sound_runTransactionWork cancellation)
  exact hsound.order

/-- The work leaves an operation behind, which fails. -/
def operationLeftBehind : List (TransactionLabel String) :=
  [.runOperation, .endCall .promise,
    .job, .endCall .promise, .job,
    .settle .transaction .fulfilled, .job,
    .settle (.operation 0) (.rejected "deadlock detected"),
    .job, .job, .job, .job,
    .job, .job]

theorem operations_run_in_order_left_behind : ∃ work,
    Transition.run step (.runTransactionWork none) operationLeftBehind = some work ∧
      work.operations = 1 ∧ RunInOrder work.log := by
  obtain ⟨work, hrun, hone⟩ : ∃ work,
      Transition.run step (.runTransactionWork none) operationLeftBehind = some work ∧
        work.operations = 1 := ⟨_, rfl, rfl⟩
  exact ⟨work, hrun, hone, operations_run_in_order hrun⟩

theorem operations_settle_left_behind : ∃ work,
    Transition.run step (.runTransactionWork none)
        operationLeftBehind = some work ∧
      work.loop.settled .settled =
        some (.rejected "deadlock detected") ∧
      RunInOrder work.log ∧
      ∀ settlement, work.loop.settled .settled = some settlement →
        ∀ n < work.operations, ∃ result,
          work.loop.settled (.result n) = some result ∧
            (settlement = .fulfilled → result = .fulfilled) := by
  obtain ⟨work, hrun, hsettled⟩ : ∃ work,
      Transition.run step (.runTransactionWork none)
          operationLeftBehind = some work ∧
        work.loop.settled .settled =
          some (.rejected "deadlock detected") := ⟨_, rfl, rfl⟩
  obtain ⟨accepting, haccepting, hrest⟩ := Option.bind_eq_some_iff.1 hrun
  have hguard : ∀ label ∈ operationLeftBehind.tail, ∀ work : TransactionWork String,
      work.AcceptsInTime label := by
    intro label hlabel work
    cases label with
    | runOperation => simp [operationLeftBehind] at hlabel
    | _ => trivial
  have hnew : (runTransactionWork none).AcceptsInTime
      (.runOperation : TransactionLabel String) := nofun
  exact ⟨work, hrun, hsettled, operations_settle
    (.cons hnew haccepting (Transition.Run.of_run hguard hrest))⟩

/-- An operation is accepted while the result of `drain` is on its way. -/
def lateOperation : List (TransactionLabel String) :=
  [.endCall .promise,
    .settle .transaction .fulfilled, .job,
    .job, .runOperation, .job,
    .job, .endCall .promise, .job]

/-- It has not settled when the transaction work is done, and may then fail. -/
theorem operation_unsettled :
    (Transition.run step (.runTransactionWork none)
        lateOperation).map (fun work =>
      (work.operations, work.loop.settled .settled,
        work.loop.settled (.result 0))) =
      some (1, some .fulfilled, none) ∧
    (Transition.run step (.runTransactionWork none)
        (lateOperation ++
          [.settle (.operation 0)
              (.rejected "deadlock detected"),
            .job, .job, .job])).map (fun work =>
      (work.operations, work.loop.settled .settled,
        work.loop.settled (.result 0))) =
      some (1, some .fulfilled, some (.rejected "deadlock detected")) :=
  ⟨rfl, rfl⟩

end Doxa
