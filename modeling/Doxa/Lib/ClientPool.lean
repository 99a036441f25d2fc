/-
**A pool of clients.**

Operations share a fixed number of clients.  Who asks for one waits for it, first come, first
served, and without a limit of time; who has one gives it back, or fails and gives back all it has.
What an operation does with clients is a program: what it finds on its way decides between two
continuations, and at the end of one round it may begin again.

An operation that has a client may ask for another one.  If all the clients are in the hands of
such operations, and all of them wait, then none of them goes on.

Main definitions:

* `ClientPool.Program` — what an operation does with clients;
* `ClientPool.Program.Within` — it never has more than so many of them;
* `ClientPool.Pool`, `ClientPool.Pool.step` — a pool and the operations that use it;
* `ClientPool.Pool.Deadlocked` — everybody who has a client waits for another one;
* `ClientPool.Pool.Orderly` — fewer operations than there are clients ask for a second one.

Main results:

* `ClientPool.Pool.Kept.step` — what an orderly step keeps;
* `ClientPool.Pool.Kept.not_deadlocked` — **where no operation takes more than two clients, an
  orderly run does not end in a deadlock**.
-/

import Doxa.Lib.OrderedMap
import Mathlib.Data.Finset.Card

set_option relaxedAutoImplicit false
set_option autoImplicit false

namespace ClientPool

/-! ### Programs -/

/-- What an operation does with clients. -/
inductive Program
  | done
  /-- The operation fails: it gives back what it has. -/
  | throw
  /-- A client is asked for. -/
  | connect (next : Program)
  /-- A statement on the client that was got last. -/
  | statement (next : Program)
  /-- That client is given back. -/
  | release (next : Program)
  | choose (left right : Program)
  /-- The operation begins again. -/
  | again

namespace Program

/-- Beginning with some clients, an operation never has more than the bound, and none at its end. -/
def Within (bound : ℕ) : ℕ → Program → Prop
  | held, done => held = 0
  | held, throw => held ≤ bound
  | held, connect next => held < bound ∧ Within bound (held + 1) next
  | held, statement next => 0 < held ∧ Within bound held next
  | 0, release _ => False
  | held + 1, release next => held < bound ∧ Within bound held next
  | held, choose left right => Within bound held left ∧ Within bound held right
  | held, again => held = 0

theorem Within.le {bound held : ℕ} {program : Program} (h : program.Within bound held) :
    held ≤ bound := by
  induction program generalizing held with
  | done =>
    obtain rfl : held = 0 := h
    exact Nat.zero_le _
  | throw => exact h
  | connect next ih => exact Nat.le_of_lt h.1
  | statement next ih => exact ih h.2
  | release next ih =>
    cases held with
    | zero => exact h.elim
    | succ held => exact h.1
  | choose left right ihl ihr => exact ihl h.1
  | again =>
    obtain rfl : held = 0 := h
    exact Nat.zero_le _

end Program

/-! ### The pool -/

/-- An operation that was called, and what it still does. -/
structure Operation (τ : Type*) where
  request : τ
  program : Program

structure Pool (τ : Type*) where
  size : ℕ
  /-- Who has a client, as often as it has one. -/
  clients : List ℕ
  /-- Who waits for one, in order. -/
  waiting : List ℕ
  operations : OrderedMap ℕ (Operation τ)

/-- What can happen. -/
inductive Label (τ : Type*)
  | call (operation : ℕ) (request : τ)
  /-- An operation goes on; where it has a choice, it takes the left one or not. -/
  | proceed (operation : ℕ) (left : Bool)
  /-- Who has waited longest gets a client. -/
  | grant
  | fail (operation : ℕ)

namespace Pool

variable {τ : Type*}

/-- Nobody uses the pool. -/
def new (size : ℕ) : Pool τ := ⟨size, [], [], .empty⟩

/-- An operation goes on with a program. -/
def resume (operation : ℕ) (request : τ) (program : Program) (pool : Pool τ) : Pool τ :=
  { pool with operations := pool.operations.set operation ⟨request, program⟩ }

/-- An operation fails. -/
def fail (operation : ℕ) (request : τ) (pool : Pool τ) : Pool τ :=
  { pool with clients := pool.clients.filter fun holder => holder ≠ operation }.resume operation
    request .done

/-- The next step of an operation. -/
def proceed (programs : τ → Program) (operation : ℕ) (left : Bool) (current : Operation τ)
    (pool : Pool τ) : Option (Pool τ) :=
  match current.program with
  | .done => none
  | .throw => some (pool.fail operation current.request)
  | .connect next =>
    some ({ pool with waiting := pool.waiting ++ [operation] }.resume operation current.request
      next)
  | .statement next => some (pool.resume operation current.request next)
  | .release next =>
    some ({ pool with clients := pool.clients.erase operation }.resume operation current.request
      next)
  | .choose first second =>
    some (pool.resume operation current.request (if left then first else second))
  | .again => some (pool.resume operation current.request (programs current.request))

/-- What a label does, in the states in which it can happen: who waits does nothing else. -/
def step (programs : τ → Program) (pool : Pool τ) : Label τ → Option (Pool τ)
  | .call operation request =>
    if (pool.operations.get operation).isNone then
      some (pool.resume operation request (programs request))
    else none
  | .proceed operation left =>
    if operation ∈ pool.waiting then none
    else (pool.operations.get operation).bind fun current =>
      pool.proceed programs operation left current
  | .grant =>
    match pool.waiting with
    | [] => none
    | operation :: waiting =>
      if pool.clients.length < pool.size then
        some { pool with clients := operation :: pool.clients, waiting := waiting }
      else none
  | .fail operation =>
    if operation ∈ pool.waiting then none
    else (pool.operations.get operation).map fun current =>
      pool.fail operation current.request

/-- How many clients an operation has or waits for. -/
def load (pool : Pool τ) (operation : ℕ) : ℕ :=
  pool.clients.count operation + pool.waiting.count operation

/-- The operations that have a client and have asked for another one. -/
def nested (pool : Pool τ) : Finset ℕ :=
  (pool.clients ++ pool.waiting).toFinset.filter fun operation => 2 ≤ pool.load operation

/-- **A deadlock**: all clients are in use, and whoever has one waits for another one. -/
def Deadlocked (pool : Pool τ) : Prop :=
  pool.clients.length = pool.size ∧ ∀ operation ∈ pool.clients, operation ∈ pool.waiting

/-- **Orderly steps**: when an operation that has a client, and may have two, asks for the second
one, fewer operations than there are clients have done so, itself included. -/
def Orderly (bound : τ → ℕ) (pool : Pool τ) : Label τ → Prop
  | .proceed operation _ => ∀ request next,
      pool.operations.get operation = some ⟨request, .connect next⟩ →
        1 < bound request → operation ∈ pool.clients → pool.nested.card + 1 < pool.size
  | _ => True

/-! ### What every orderly step keeps -/

/-- What is known of every state of an orderly run. -/
structure Kept (bound : τ → ℕ) (pool : Pool τ) : Prop where
  within : ∀ operation current, pool.operations.get operation = some current →
    current.program.Within (bound current.request) (pool.load operation)
  strangers : ∀ operation, pool.operations.get operation = none → pool.load operation = 0
  nested : pool.nested.card < pool.size

variable {bound : τ → ℕ} {programs : τ → Program} {pool pool' : Pool τ} {operation : ℕ}

theorem mem_nested : operation ∈ pool.nested ↔ 2 ≤ pool.load operation := by
  rw [nested, Finset.mem_filter, and_iff_right_iff_imp]
  intro hload
  rw [List.mem_toFinset, ← List.count_pos_iff, List.count_append]
  exact Nat.lt_of_lt_of_le Nat.two_pos hload

/-- Who does not wait has what it has. -/
theorem load_of_not_mem (h : operation ∉ pool.waiting) :
    pool.load operation = pool.clients.count operation := by
  rw [load, List.count_eq_zero_of_not_mem h, Nat.add_zero]

/-- **An operation goes on**: the others have what they have, and as many are nested as before. -/
theorem Kept.resume (h : pool.Kept bound) {request : τ} {program : Program}
    (hoperations : pool'.operations = pool.operations.set operation ⟨request, program⟩)
    (hsize : pool'.size = pool.size)
    (hload : ∀ j, j ≠ operation → pool'.load j = pool.load j)
    (hwithin : program.Within (bound request) (pool'.load operation))
    (hnested : operation ∈ pool'.nested → operation ∈ pool.nested ∨
      pool.nested.card + 1 < pool.size) : pool'.Kept bound := by
  constructor
  case within =>
    intro j current hcurrent
    rw [hoperations, OrderedMap.get_set] at hcurrent
    split_ifs at hcurrent with hj
    · cases hcurrent
      rw [hj]
      exact hwithin
    · rw [hload j hj]
      exact h.within j current hcurrent
  case strangers =>
    intro j hnone
    rw [hoperations, OrderedMap.get_set] at hnone
    split_ifs at hnone with hj
    rw [hload j hj]
    exact h.strangers j hnone
  case nested =>
    have hsubset : pool'.nested ⊆ insert operation pool.nested := by
      intro j hmem
      by_cases hj : j = operation
      · exact Finset.mem_insert.2 (.inl hj)
      · rw [mem_nested, hload j hj, ← mem_nested] at hmem
        exact Finset.mem_insert_of_mem hmem
    have hcard := Finset.card_le_card hsubset
    have hkept := h.nested
    rw [hsize]
    by_cases hmem : operation ∈ pool'.nested
    · rcases hnested hmem with hold | hroom
      · rw [Finset.insert_eq_of_mem hold] at hcard
        omega
      · have hinsert := Finset.card_insert_le operation pool.nested
        omega
    · have hcard' : pool'.nested.card ≤ pool.nested.card := by
        refine Finset.card_le_card fun j hj => (Finset.mem_insert.1 (hsubset hj)).resolve_left ?_
        rintro rfl
        exact hmem hj
      omega

/-- **An operation fails.** -/
theorem Kept.fail (h : pool.Kept bound) {request : τ} (hwaiting : operation ∉ pool.waiting) :
    (pool.fail operation request).Kept bound := by
  have hzero : Pool.load { pool with
      clients := pool.clients.filter fun holder => holder ≠ operation } operation = 0 := by
    rw [load, List.count_eq_zero_of_not_mem hwaiting, List.count_eq_zero_of_not_mem]
    simp
  refine h.resume rfl rfl ?_ hzero ?_
  · intro j hj
    change Pool.load { pool with clients := pool.clients.filter _ } j = _
    rw [load, load, List.count_filter (by simpa using hj)]
  · intro hmem
    have hmem := (mem_nested.1 hmem).trans_eq hzero
    exact absurd hmem (by omega)

/-- **Every orderly step keeps it.** -/
theorem Kept.step (hprograms : ∀ request, (programs request).Within (bound request) 0)
    {label : Label τ} (h : pool.Kept bound) (horderly : pool.Orderly bound label)
    (hstep : pool.step programs label = some pool') : pool'.Kept bound := by
  cases label with
  | call operation request =>
    rw [Pool.step] at hstep
    split_ifs at hstep with hnone
    cases hstep
    have hload : (pool.resume operation request (programs request)).load operation = 0 :=
      h.strangers operation (Option.isNone_iff_eq_none.1 hnone)
    refine h.resume rfl rfl (fun _ _ => rfl) ?_ fun hmem => .inl hmem
    rw [hload]
    exact hprograms request
  | proceed operation left =>
    rw [Pool.step] at hstep
    split_ifs at hstep with hwaiting
    obtain ⟨⟨request, program⟩, hcurrent, hproceed⟩ := Option.bind_eq_some_iff.1 hstep
    have hwithin := h.within operation _ hcurrent
    have hload := load_of_not_mem hwaiting
    cases program with
    | done => cases hproceed
    | throw =>
      cases hproceed
      exact h.fail hwaiting
    | connect next =>
      cases hproceed
      have hmore : Pool.load { pool with waiting := pool.waiting ++ [operation] } operation =
          pool.load operation + 1 := by
        rw [load, load, List.count_append, List.count_singleton_self, ← Nat.add_assoc]
      refine h.resume rfl rfl ?_ ?_ ?_
      · intro j hj
        change Pool.load { pool with waiting := pool.waiting ++ [operation] } j = _
        rw [load, load, List.count_append, List.count_singleton, if_neg, Nat.add_zero]
        simpa using Ne.symm hj
      · change next.Within _ (Pool.load { pool with waiting := pool.waiting ++ [operation] } _)
        rw [hmore]
        exact hwithin.2
      · -- it is nested from now on if it has a client already
        intro hmem
        have hmem := (mem_nested.1 hmem).trans_eq hmore
        refine .inr (horderly request next hcurrent ?_ ?_)
        · have hlt := hwithin.1
          dsimp only at hlt
          omega
        · rw [hload] at hmem
          exact List.count_pos_iff.1 (Nat.lt_of_succ_lt_succ hmem)
    | statement next =>
      cases hproceed
      exact h.resume rfl rfl (fun _ _ => rfl) hwithin.2 fun hmem => .inl hmem
    | release next =>
      cases hproceed
      have hless : Pool.load { pool with clients := pool.clients.erase operation } operation =
          pool.load operation - 1 := by
        rw [hload, load, List.count_eq_zero_of_not_mem hwaiting, List.count_erase_self,
          Nat.add_zero]
      refine h.resume rfl rfl ?_ ?_ ?_
      · intro j hj
        change Pool.load { pool with clients := pool.clients.erase operation } j = _
        rw [load, load, List.count_erase_of_ne hj]
      · change next.Within _ (Pool.load { pool with clients := pool.clients.erase operation } _)
        rw [hless]
        dsimp only at hwithin
        cases hhas : pool.load operation with
        | zero =>
          rw [hhas] at hwithin
          exact hwithin.elim
        | succ held =>
          rw [hhas] at hwithin
          exact hwithin.2
      · intro hmem
        have hmem := (mem_nested.1 hmem).trans_eq hless
        exact .inl (mem_nested.2 (by omega))
    | choose first second =>
      cases hproceed
      refine h.resume rfl rfl (fun _ _ => rfl) ?_ fun hmem => .inl hmem
      cases left
      · exact hwithin.2
      · exact hwithin.1
    | again =>
      cases hproceed
      refine h.resume rfl rfl (fun _ _ => rfl) ?_ fun hmem => .inl hmem
      have hzero : pool.load operation = 0 := hwithin
      change (programs request).Within _ (pool.load operation)
      rw [hzero]
      exact hprograms request
  | grant =>
    rw [Pool.step] at hstep
    cases hqueue : pool.waiting with
    | nil =>
      rw [hqueue] at hstep
      cases hstep
    | cons operation waiting =>
      rw [hqueue] at hstep
      dsimp only at hstep
      split_ifs at hstep
      cases hstep
      -- who has waited has it now
      have hload : ∀ j, Pool.load { pool with
          clients := operation :: pool.clients, waiting := waiting } j = pool.load j := by
        intro j
        rw [load, load, hqueue, List.count_cons, List.count_cons]
        dsimp only
        omega
      constructor
      case within =>
        intro j current hcurrent
        rw [hload j]
        exact h.within j current hcurrent
      case strangers =>
        intro j hnone
        rw [hload j]
        exact h.strangers j hnone
      case nested =>
        refine Nat.lt_of_le_of_lt (Finset.card_le_card fun j hmem => ?_) h.nested
        rw [mem_nested, hload j, ← mem_nested] at hmem
        exact hmem
  | fail operation =>
    rw [Pool.step] at hstep
    split_ifs at hstep with hwaiting
    obtain ⟨⟨request, program⟩, hcurrent, rfl⟩ := Option.map_eq_some_iff.1 hstep
    exact h.fail hwaiting

theorem new_kept {size : ℕ} (hsize : 0 < size) : (new size : Pool τ).Kept bound where
  within := by rintro _ _ ⟨⟩
  strangers := fun _ _ => rfl
  nested := hsize

/-- **No deadlock**: were all clients in the hands of operations that wait, then as many operations
would be nested. -/
theorem Kept.not_deadlocked (h : pool.Kept bound) (hbound : ∀ request, bound request ≤ 2) :
    ¬ pool.Deadlocked := by
  rintro ⟨hfull, hwaits⟩
  have hone : ∀ j ∈ pool.clients, pool.clients.count j = 1 ∧ 2 ≤ pool.load j := by
    intro j hj
    have hclients := List.count_pos_iff.2 hj
    have hwaiting := List.count_pos_iff.2 (hwaits j hj)
    have hle : pool.load j ≤ 2 := by
      cases hcurrent : pool.operations.get j with
      | none => exact (Nat.le_of_eq (h.strangers j hcurrent)).trans (Nat.zero_le 2)
      | some current => exact (h.within j current hcurrent).le.trans (hbound _)
    rw [load] at hle
    rw [load]
    omega
  have hnodup : pool.clients.Nodup :=
    List.nodup_iff_count_eq_one.2 fun j hj => (hone j hj).1
  have hcard := h.nested
  have hle : pool.clients.toFinset.card ≤ pool.nested.card := by
    refine Finset.card_le_card fun j hj => mem_nested.2 ?_
    exact (hone j (List.mem_toFinset.1 hj)).2
  rw [List.toFinset_card_of_nodup hnodup] at hle
  omega

end Pool

end ClientPool
