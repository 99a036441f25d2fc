/-
**Promises and their jobs.**

Promises settle once.  What is to happen when one does is a reaction; a reaction registered before
waits, and one registered afterwards is a job at once.  Jobs are run in the order in which they were
queued, one at a time.  Here promises and reactions are names, and what a reaction does is left to
whoever runs the jobs: the loop only keeps which promises are settled, which reactions wait for
them, and the queue.  A job that is not a reaction is a task.

Main definitions:

* `EventLoop` — settled promises, reactions and the queue of jobs;
* `EventLoop.settle`, `EventLoop.react`, `EventLoop.queue` — what a job may do to the loop;
* `EventLoop.waiting` — how often a reaction waits on a promise, in its list or as a job;
* `EventLoop.Sound` — the promise of every queued reaction is settled.

Main results:

* `EventLoop.settled_settle`, `EventLoop.waiting_settle`, `EventLoop.waiting_react` — **settling
  moves no reaction away, and registering adds one**;
* `EventLoop.Sound.settle`, `EventLoop.Sound.react` — what is done to the loop keeps it sound.
-/

import Mathlib.Data.List.Basic
import Mathlib.Logic.Function.Basic

set_option relaxedAutoImplicit false
set_option autoImplicit false

/-- A queued job: a reaction to a promise that settled, or a task. -/
inductive EventLoop.Job (π ρ τ ο : Type*)
  | reaction (source : π) (outcome : ο) (reaction : ρ)
  | task (task : τ)

structure EventLoop (π ρ τ ο : Type*) where
  settled : π → Option ο
  reactions : π → List ρ
  jobs : List (EventLoop.Job π ρ τ ο)

namespace EventLoop

variable {π ρ τ ο : Type*} [DecidableEq π]

/-! ### What a job may do -/

variable (promise : π)

/-- Settle a promise; nothing happens when it is settled already. -/
def settle (outcome : ο) (loop : EventLoop π ρ τ ο) : EventLoop π ρ τ ο :=
  match loop.settled promise with
  | some _ => loop
  | none =>
    { settled := Function.update loop.settled promise (some outcome)
      reactions := Function.update loop.reactions promise []
      jobs := loop.jobs ++ (loop.reactions promise).map (.reaction promise outcome) }

/-- Register a reaction. -/
def react (reaction : ρ) (loop : EventLoop π ρ τ ο) : EventLoop π ρ τ ο :=
  match loop.settled promise with
  | some outcome => { loop with jobs := loop.jobs ++ [.reaction promise outcome reaction] }
  | none =>
    { loop with
      reactions := Function.update loop.reactions promise (loop.reactions promise ++ [reaction]) }

/-- Queue a task. -/
def queue (task : τ) (loop : EventLoop π ρ τ ο) : EventLoop π ρ τ ο :=
  { loop with jobs := loop.jobs ++ [.task task] }

/-! ### Settled promises -/

variable {loop : EventLoop π ρ τ ο}

theorem settled_settle (outcome : ο) (loop : EventLoop π ρ τ ο) (other : π) :
    (loop.settle promise outcome).settled other =
      if other = promise then some ((loop.settled promise).getD outcome)
      else loop.settled other := by
  rw [settle]
  cases hsettled : loop.settled promise with
  | some settled =>
    by_cases hother : other = promise
    · rw [if_pos hother, hother]
      exact hsettled
    · rw [if_neg hother]
  | none => simp [Function.update_apply]

@[simp] theorem settled_react (reaction : ρ) (loop : EventLoop π ρ τ ο) :
    (loop.react promise reaction).settled = loop.settled := by
  rw [react]
  split <;> rfl

omit [DecidableEq π] in
@[simp] theorem settled_queue (task : τ) (loop : EventLoop π ρ τ ο) :
    (loop.queue task).settled = loop.settled := rfl

/-- A settled promise stays as it is. -/
theorem settled_settle_of_eq_some {promise other : π} {outcome settled : ο}
    (h : loop.settled other = some settled) :
    (loop.settle promise outcome).settled other = some settled := by
  rw [settled_settle]
  split_ifs with hother
  · rw [← hother, h]
    rfl
  · exact h

/-- A settled promise was settled before, or is the one that is settled now. -/
theorem settled_of_settle {promise other : π} {outcome settled : ο}
    (h : (loop.settle promise outcome).settled other = some settled) :
    loop.settled other = some settled ∨ other = promise ∧ settled = outcome := by
  rw [settled_settle] at h
  split_ifs at h with hother
  · cases hsettled : loop.settled promise with
    | none =>
      rw [hsettled] at h
      exact .inr ⟨hother, (Option.some.inj h).symm⟩
    | some before =>
      rw [hsettled] at h
      rw [hother, hsettled]
      exact .inl h
  · exact .inl h

/-! ### Waiting reactions -/

variable [DecidableEq ρ]

/-- Whether a job is the reaction to the promise. -/
def Job.isReaction (reaction : ρ) : Job π ρ τ ο → Bool
  | .reaction source _ queued => source = promise && queued = reaction
  | .task _ => false

/-- How often a reaction waits on a promise. -/
def waiting (reaction : ρ) (loop : EventLoop π ρ τ ο) : ℕ :=
  (loop.reactions promise).count reaction + loop.jobs.countP (Job.isReaction promise reaction)

/-- Settling a promise turns its reactions into jobs. -/
@[simp] theorem waiting_settle (outcome : ο) (loop : EventLoop π ρ τ ο) (other : π) (reaction : ρ) :
    (loop.settle promise outcome).waiting other reaction = loop.waiting other reaction := by
  rw [settle]
  cases loop.settled promise with
  | some settled => rfl
  | none =>
    have hmoved : ((loop.reactions promise).map (.reaction promise outcome)).countP
        (Job.isReaction (τ := τ) other reaction) =
          if promise = other then (loop.reactions promise).count reaction else 0 := by
      rw [List.countP_map]
      split_ifs with hother
      · rw [List.count]
        refine List.countP_congr fun queued _ => ?_
        simp [Job.isReaction, hother]
      · rw [List.countP_eq_zero]
        intro queued _
        simp [Job.isReaction, hother]
    rw [waiting, waiting, List.countP_append, hmoved]
    by_cases hother : promise = other
    · subst hother
      simp [Nat.add_comm]
    · simp [hother, Function.update_of_ne (Ne.symm hother)]

theorem waiting_react (registered : ρ) (loop : EventLoop π ρ τ ο) (other : π) (reaction : ρ) :
    (loop.react promise registered).waiting other reaction =
      loop.waiting other reaction + if promise = other ∧ registered = reaction then 1 else 0 := by
  rw [react]
  cases loop.settled promise with
  | some outcome =>
    simp only [waiting, List.countP_append, List.countP_singleton, Job.isReaction]
    by_cases hother : promise = other <;> by_cases hreaction : registered = reaction <;>
      simp [hother, hreaction, Nat.add_assoc]
  | none =>
    by_cases hother : promise = other
    · subst hother
      simp only [waiting, Function.update_self, List.count_append, List.count_singleton]
      by_cases hreaction : registered = reaction
      · simp [hreaction]
        omega
      · simp [hreaction]
    · simp [waiting, hother, Function.update_of_ne (Ne.symm hother)]

@[simp] theorem waiting_queue (task : τ) (loop : EventLoop π ρ τ ο) (other : π) (reaction : ρ) :
    (loop.queue task).waiting other reaction = loop.waiting other reaction := by
  simp [waiting, queue, Job.isReaction]

/-- Taking the first job off the queue. -/
theorem waiting_of_cons {job : Job π ρ τ ο} {jobs : List (Job π ρ τ ο)}
    (h : loop.jobs = job :: jobs) (promise : π) (reaction : ρ) :
    loop.waiting promise reaction = { loop with jobs := jobs }.waiting promise reaction +
      if job.isReaction promise reaction then 1 else 0 := by
  rw [waiting, waiting, h, List.countP_cons, Nat.add_assoc]

/-! ### Sound queues -/

omit [DecidableEq ρ]

/-- A reaction is queued with the outcome of its promise. -/
def Sound (loop : EventLoop π ρ τ ο) : Prop :=
  ∀ source outcome reaction, .reaction source outcome reaction ∈ loop.jobs →
    loop.settled source = some outcome

theorem Sound.settle (h : loop.Sound) (promise : π) (outcome : ο) :
    (loop.settle promise outcome).Sound := by
  intro source settled reaction hmem
  cases hsettled : loop.settled promise with
  | some before =>
    rw [EventLoop.settle, hsettled] at hmem ⊢
    exact h source settled reaction hmem
  | none =>
    rw [EventLoop.settle, hsettled] at hmem
    rcases List.mem_append.1 hmem with hmem | hmem
    · exact settled_settle_of_eq_some (h source settled reaction hmem)
    · obtain ⟨queued, -, heq⟩ := List.mem_map.1 hmem
      obtain ⟨rfl, rfl, rfl⟩ := Job.reaction.inj heq
      rw [settled_settle, if_pos rfl, hsettled]
      rfl

theorem Sound.react (h : loop.Sound) (promise : π) (registered : ρ) :
    (loop.react promise registered).Sound := by
  intro source settled reaction hmem
  rw [settled_react]
  cases hsettled : loop.settled promise with
  | some outcome =>
    rw [EventLoop.react, hsettled] at hmem
    rcases List.mem_append.1 hmem with hmem | hmem
    · exact h source settled reaction hmem
    · obtain ⟨rfl, rfl, rfl⟩ := Job.reaction.inj (List.mem_singleton.1 hmem)
      exact hsettled
  | none =>
    rw [EventLoop.react, hsettled] at hmem
    exact h source settled reaction hmem

omit [DecidableEq π] in
theorem Sound.queue (h : loop.Sound) (task : τ) : (loop.queue task).Sound := by
  intro source settled reaction hmem
  rcases List.mem_append.1 hmem with hmem | hmem
  · exact h source settled reaction hmem
  · cases List.mem_singleton.1 hmem

end EventLoop
