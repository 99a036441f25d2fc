/-
**The stack of operations.**

All operations of an execution push and pop on one stack (`Doxa.RuntimeExecution`).  A query that
runs beside an action covers the role of the action, so the action finds the role of the query when
it asks for its own; and when the action is over, it pops the role of the query.

Main definitions:

* `Doxa.ExecutionState.StackSound` — operations see their own roles;
* `Doxa.ExecutionState.Sequential` — actions and jobs turn to the stack only while no other
  operation runs.

Main results:

* `Doxa.stack_sound` — **in a sequential run operations see their own roles, no action is rejected
  that is not nested, and the stack is empty at last**;
* `Doxa.stack_not_sound` — an action fails since a query is dispatched before it is authorized.
-/

import Doxa.RuntimeExecution
import Doxa.Lib.Transition

set_option relaxedAutoImplicit false
set_option autoImplicit false

namespace Doxa

namespace ExecutionState

/-- The role of an operation is on the stack. -/
def IsRunning (operation : ℕ) (state : ExecutionState) : Prop :=
  ∃ current, state.operations.get operation = some current ∧
    current.phase ≠ .settled ∧ current.phase ≠ .rejected

/-- **The stack is sound**: who reads the top of the stack sees its own role; an action is rejected
only if it is dispatched in the chain of a handler; no operation is refused its writable session;
and when all operations are over, the stack is empty. -/
structure StackSound (state : ExecutionState) : Prop where
  reads : ∀ operation seen, (operation, seen) ∈ state.reads → ∃ current,
    state.operations.get operation = some current ∧ seen = some current.role
  nested : ∀ operation ∈ state.nested, ∃ current,
    state.operations.get operation = some current ∧ current.parent ≠ none
  unwritable : state.unwritable = []
  empty : (∀ operation, ¬ state.IsRunning operation) → state.operationStack = []

/-- No operation runs but the one, or it is a query. -/
def IsAlone (operation : ℕ) (state : ExecutionState) : Prop :=
  ∀ current, state.operations.get operation = some current → current.role.writes = true →
    ∀ other, state.IsRunning other → other = operation

/-- **Steps are sequential**: an action that is not nested, and every job, is dispatched while no
operation runs; actions and jobs get their sessions, read the stack, and are over while no other
operation runs; and no operation reads the stack once it is over. -/
def Sequential (state : ExecutionState) : ExecutionLabel → Prop
  | .dispatch _ .action none => ∀ other, ¬ state.IsRunning other
  | .dispatch _ .job _ => ∀ other, ¬ state.IsRunning other
  | .enter operation => state.IsAlone operation
  | .read operation => state.IsRunning operation ∧ state.IsAlone operation
  | .settle operation => state.IsAlone operation
  | _ => True

/-! ### What every sequential step keeps -/

variable {phase : OperationPhase}

/-- The role of an operation. -/
def roleOf (state : ExecutionState) (operation : ℕ) : Option OperationRole :=
  (state.operations.get operation).map RuntimeOperation.role

/-- What is known of every state of a sequential run: the stack has the roles of the operations that
run, and only the lowest one can be other than a query. -/
structure Layered (state : ExecutionState) : Prop where
  running : ∀ operation, operation ∈ state.running ↔ state.IsRunning operation
  nodup : state.running.Nodup
  roles : state.operationStack.map some = state.running.map state.roleOf
  layered : ∀ role ∈ state.operationStack.dropLast, role = .query
  reads : ∀ operation seen, (operation, seen) ∈ state.reads → ∃ current,
    state.operations.get operation = some current ∧ seen = some current.role
  nested : ∀ operation ∈ state.nested, ∃ current,
    state.operations.get operation = some current ∧ current.parent ≠ none
  unwritable : state.unwritable = []

theorem Layered.stackSound {state : ExecutionState} (h : state.Layered) : state.StackSound where
  reads := h.reads
  nested := h.nested
  unwritable := h.unwritable
  empty := by
    intro hnone
    have hrunning : state.running = [] :=
      List.eq_nil_iff_forall_not_mem.2 fun j hj => hnone j ((h.running j).1 hj)
    have hroles := h.roles
    rw [hrunning] at hroles
    exact List.map_eq_nil_iff.1 hroles

/-- Popping a role is as good as taking away any of the queries on the top. -/
theorem roles_erase {role : ℕ → Option OperationRole} {running : List ℕ}
    {stack : List OperationRole} {operation : ℕ} (hroles : stack.map some = running.map role)
    (hlayered : ∀ role ∈ stack.dropLast, role = .query) (hmem : operation ∈ running)
    (hquery : role operation = some .query) :
    stack.tail.map some = (running.erase operation).map role := by
  induction running generalizing stack with
  | nil => cases hmem
  | cons j running ih =>
    cases stack with
    | nil => cases hroles
    | cons top stack =>
      obtain ⟨htop, hrest⟩ := List.cons.inj hroles
      by_cases hj : j = operation
      · rw [hj, List.erase_cons_head]
        exact hrest
      · rw [List.erase_cons_tail (by simpa using hj)]
        have hmem : operation ∈ running := List.mem_of_ne_of_mem (Ne.symm hj) hmem
        cases stack with
        | nil =>
          rw [List.map_eq_nil_iff.1 hrest.symm] at hmem
          cases hmem
        | cons next stack =>
          have hbelow := ih hrest
            (fun role hrole => hlayered role (List.mem_cons_of_mem top hrole)) hmem
          have hnext : next = .query := by
            cases stack with
            | nil =>
              -- the last one is the operation itself
              obtain ⟨i, hi, hlast⟩ := List.map_eq_singleton_iff.1 hrest.symm
              rw [hi, List.mem_singleton] at hmem
              rw [← hmem, hquery] at hlast
              exact (Option.some.inj hlast).symm
            | cons _ _ =>
              exact hlayered next (List.mem_cons_of_mem top List.mem_cons_self)
          rw [List.map_cons, ← htop, hlayered top List.mem_cons_self, ← hbelow, hnext]
          rfl

variable {state state' : ExecutionState} {operation : ℕ} {current : RuntimeOperation}

theorem isRunning_of_get (hcurrent : state.operations.get operation = some current) :
    state.IsRunning operation ↔
      current.phase ≠ .settled ∧ current.phase ≠ .rejected := by
  constructor
  · rintro ⟨found, hfound, hphase⟩
    cases hcurrent.symm.trans hfound
    exact hphase
  · exact fun hphase => ⟨current, hcurrent, hphase⟩

/-- An action or job that is alone is the only operation that runs. -/
theorem Layered.running_eq (h : state.Layered)
    (hcurrent : state.operations.get operation = some current)
    (hrunning : state.IsRunning operation) (halone : state.IsAlone operation)
    (hwrites : current.role.writes = true) : state.running = [operation] := by
  have hmem := (h.running operation).2 hrunning
  have hsame : ∀ j ∈ state.running, j = operation := fun j hj =>
    halone current hcurrent hwrites j ((h.running j).1 hj)
  have hnodup := h.nodup
  cases hlist : state.running with
  | nil =>
    rw [hlist] at hmem
    cases hmem
  | cons first rest =>
    rw [hlist] at hsame hnodup
    obtain rfl := hsame first List.mem_cons_self
    have hrest : rest = [] := List.eq_nil_iff_forall_not_mem.2 fun j hj => by
      obtain rfl := hsame j (List.mem_cons_of_mem _ hj)
      exact (List.nodup_cons.1 hnodup).1 hj
    rw [hrest]

/-- **The top of the stack** is a query, or the role of the only operation that runs. -/
theorem Layered.head?_eq (h : state.Layered)
    (hcurrent : state.operations.get operation = some current)
    (hrunning : state.IsRunning operation) (halone : state.IsAlone operation) :
    state.operationStack.head? = some current.role := by
  have hmem := (h.running operation).2 hrunning
  have hroles := h.roles
  cases hstack : state.operationStack with
  | nil =>
    rw [hstack] at hroles
    rw [List.map_eq_nil_iff.1 hroles.symm] at hmem
    cases hmem
  | cons top stack =>
    rw [List.head?_cons]
    cases hrest : stack with
    | nil =>
      -- it is the only one
      rw [hstack, hrest] at hroles
      obtain ⟨j, hj, htop⟩ := List.map_eq_singleton_iff.1 hroles.symm
      rw [hj, List.mem_singleton] at hmem
      rw [← hmem, roleOf, hcurrent] at htop
      exact htop.symm
    | cons next rest =>
      have htop : top = .query := by
        refine h.layered top ?_
        rw [hstack, hrest]
        exact List.mem_cons_self
      rw [htop]
      cases hrole : current.role with
      | query => rfl
      | action | job =>
        -- it would be alone
        have hwrites : current.role.writes = true := by rw [hrole]; rfl
        rw [h.running_eq hcurrent hrunning halone hwrites, hstack, hrest] at hroles
        cases (List.cons.inj hroles).2

theorem roleOf_set (hcurrent : state.operations.get operation = some current)
    (hoperations : state'.operations =
      state.operations.set operation { current with phase := phase }) (j : ℕ) :
    state'.roleOf j = state.roleOf j := by
  rw [roleOf, roleOf, hoperations, OrderedMap.get_set]
  split_ifs with hj
  · rw [hj, hcurrent]
    rfl
  · rfl

/-- What is known of an operation is known of it in its next phase. -/
theorem known_set {P : RuntimeOperation → Prop}
    (hP : ∀ current, P current → P { current with phase := phase })
    (hcurrent : state.operations.get operation = some current)
    (hoperations : state'.operations =
      state.operations.set operation { current with phase := phase }) {j : ℕ}
    (h : ∃ found, state.operations.get j = some found ∧ P found) :
    ∃ found, state'.operations.get j = some found ∧ P found := by
  obtain ⟨found, hfound, hknown⟩ := h
  rw [hoperations, OrderedMap.get_set]
  split_ifs with hj
  · subst hj
    cases hcurrent.symm.trans hfound
    exact ⟨_, rfl, hP _ hknown⟩
  · exact ⟨found, hfound, hknown⟩

theorem isRunning_set
    (hoperations : state'.operations =
      state.operations.set operation { current with phase := phase }) {j : ℕ} : state'.IsRunning j ↔
      if j = operation then phase ≠ .settled ∧ phase ≠ .rejected
      else state.IsRunning j := by
  rw [IsRunning, hoperations]
  simp only [OrderedMap.get_set]
  split_ifs with hj
  · constructor
    · rintro ⟨_, ⟨⟩, hphase⟩
      exact hphase
    · exact fun hphase => ⟨_, rfl, hphase⟩
  · rfl

/-- **An operation goes on** and leaves the stack alone; it may have read its role. -/
theorem Layered.proceed (h : state.Layered)
    (hcurrent : state.operations.get operation = some current)
    (hoperations : state'.operations =
      state.operations.set operation { current with phase := phase })
    (hrunning : state.IsRunning operation) (hphase : phase ≠ .settled ∧ phase ≠ .rejected)
    (hrunning' : state'.running = state.running)
    (hstack : state'.operationStack = state.operationStack)
    (hreads : ∀ j seen, (j, seen) ∈ state'.reads → (j, seen) ∈ state.reads ∨
      j = operation ∧ seen = some current.role) (hnested : state'.nested = state.nested)
    (hunwritable : state'.unwritable = []) : state'.Layered := by
  constructor
  case running =>
    intro j
    rw [hrunning', h.running j, isRunning_set hoperations]
    split_ifs with hj
    · rw [hj]
      exact iff_of_true hrunning hphase
    · rfl
  case nodup =>
    rw [hrunning']
    exact h.nodup
  case roles =>
    rw [hstack, hrunning', h.roles]
    exact List.map_congr_left fun j _ => (roleOf_set hcurrent hoperations j).symm
  case layered =>
    rw [hstack]
    exact h.layered
  case reads =>
    intro j seen hmem
    rcases hreads j seen hmem with hold | ⟨rfl, rfl⟩
    · exact known_set (fun _ => id) hcurrent hoperations (h.reads j seen hold)
    · exact known_set (P := fun found => some current.role = some found.role) (fun _ => id)
        hcurrent hoperations ⟨current, hcurrent, rfl⟩
  case nested =>
    rw [hnested]
    exact fun j hj => known_set (fun _ => id) hcurrent hoperations (h.nested j hj)
  case unwritable => exact hunwritable

/-- **A role is popped.** -/
theorem Layered.settle (h : state.Layered)
    (hcurrent : state.operations.get operation = some current)
    (hphase : current.phase = .ended) (halone : state.IsAlone operation) :
    (state.settle operation current).Layered := by
  have hrunning : state.IsRunning operation := by
    rw [isRunning_of_get hcurrent, hphase]
    decide
  have hoperations : (state.settle operation current).operations =
      state.operations.set operation { current with phase := .settled } := rfl
  have hroles : state.operationStack.tail.map some =
      (state.running.erase operation).map state.roleOf := by
    cases hrole : current.role with
    | query =>
      refine roles_erase h.roles h.layered ((h.running operation).2 hrunning) ?_
      rw [roleOf, hcurrent, Option.map_some, hrole]
    | action | job =>
      have heq := h.running_eq hcurrent hrunning halone (by rw [hrole]; rfl)
      have hold := h.roles
      rw [heq] at hold
      obtain ⟨top, hstack, -⟩ := List.map_eq_singleton_iff.1 hold
      rw [heq, hstack, List.erase_cons_head]
      rfl
  constructor
  case running =>
    intro j
    rw [isRunning_set hoperations]
    change j ∈ state.running.erase operation ↔ _
    rw [h.nodup.mem_erase_iff, h.running j]
    split_ifs with hj
    · exact iff_of_false (fun hmem => hmem.1 hj) (fun hnext => hnext.1 rfl)
    · exact and_iff_right hj
  case nodup => exact h.nodup.erase operation
  case roles =>
    refine Eq.trans hroles (List.map_congr_left fun j _ => ?_)
    exact (roleOf_set hcurrent hoperations j).symm
  case layered =>
    intro role hmem
    refine h.layered role ?_
    change role ∈ state.operationStack.tail.dropLast at hmem
    rw [← List.tail_dropLast] at hmem
    exact List.mem_of_mem_tail hmem
  case reads =>
    exact fun j seen hmem => known_set (fun _ => id) hcurrent hoperations (h.reads j seen hmem)
  case nested =>
    exact fun j hmem => known_set (fun _ => id) hcurrent hoperations (h.nested j hmem)
  case unwritable => exact h.unwritable

/-- What is known of an operation is known of it when another one is new. -/
theorem known_new {next : RuntimeOperation} {P : RuntimeOperation → Prop}
    (hnew : state.operations.get operation = none)
    (hoperations : state'.operations = state.operations.set operation next) {j : ℕ}
    (h : ∃ found, state.operations.get j = some found ∧ P found) :
    ∃ found, state'.operations.get j = some found ∧ P found := by
  obtain ⟨found, hfound, hknown⟩ := h
  refine ⟨found, ?_, hknown⟩
  rw [hoperations, OrderedMap.get_set, if_neg, hfound]
  rintro rfl
  cases hnew.symm.trans hfound

/-- **An operation is new.** -/
theorem Layered.add (h : state.Layered) {next : RuntimeOperation}
    (hnew : state.operations.get operation = none)
    (hoperations : state'.operations = state.operations.set operation next)
    (hrunning : ∀ j, j ∈ state'.running ↔ j ∈ state.running ∨
      j = operation ∧ next.phase ≠ .settled ∧ next.phase ≠ .rejected)
    (hnodup : operation ∉ state.running → state'.running.Nodup)
    (hroles : (∀ j ∈ state.running, state'.roleOf j = state.roleOf j) →
      state'.operationStack.map some = state'.running.map state'.roleOf)
    (hlayered : ∀ role ∈ state'.operationStack.dropLast, role = .query)
    (hreads : state'.reads = state.reads)
    (hnested : ∀ j ∈ state'.nested, j ∈ state.nested ∨ j = operation ∧ next.parent ≠ none)
    (hunwritable : state'.unwritable = state.unwritable) : state'.Layered := by
  have hnot : operation ∉ state.running := by
    rw [h.running operation]
    rintro ⟨current, hcurrent, -⟩
    cases hnew.symm.trans hcurrent
  have hget : ∀ j, state'.operations.get j =
      if j = operation then some next else state.operations.get j := by
    intro j
    rw [hoperations, OrderedMap.get_set]
  constructor
  case running =>
    intro j
    rw [hrunning j, IsRunning, hget j]
    split_ifs with hj
    · rw [hj]
      constructor
      · rintro (hmem | ⟨-, hphase⟩)
        · exact absurd hmem hnot
        · exact ⟨next, rfl, hphase⟩
      · rintro ⟨_, ⟨⟩, hphase⟩
        exact .inr ⟨rfl, hphase⟩
    · rw [or_iff_left fun hnext => hj hnext.1]
      exact h.running j
  case nodup => exact hnodup hnot
  case roles =>
    refine hroles fun j hj => ?_
    rw [roleOf, roleOf, hget j, if_neg]
    rintro rfl
    exact hnot hj
  case layered => exact hlayered
  case reads =>
    rw [hreads]
    exact fun j seen hmem => known_new hnew hoperations (h.reads j seen hmem)
  case nested =>
    intro j hmem
    rcases hnested j hmem with hold | ⟨rfl, hparent⟩
    · exact known_new hnew hoperations (h.nested j hold)
    · exact ⟨next, by rw [hget j, if_pos rfl], hparent⟩
  case unwritable => exact hunwritable.trans h.unwritable

/-- **An operation is dispatched**: it is rejected since it is nested, or it is a query, or it is
alone. -/
theorem Layered.dispatch (h : state.Layered) {role : OperationRole} {parent : Option ℕ}
    (hnew : state.operations.get operation = none)
    (hsequential : state.Sequential (.dispatch operation role parent)) :
    (state.dispatch operation role parent).Layered := by
  have hempty : (∀ other, ¬ state.IsRunning other) → state.operationStack = [] :=
    h.stackSound.empty
  rw [ExecutionState.dispatch]
  split_ifs with hrejected
  · obtain ⟨rfl, hstack⟩ := hrejected
    have hparent : parent ≠ none := by
      rintro rfl
      exact hstack (hempty hsequential)
    refine h.add hnew rfl (fun j => ?_) (fun _ => h.nodup) (fun hroles => ?_) h.layered rfl ?_ rfl
    · exact (or_iff_left fun hnext => hnext.2.2 rfl).symm
    · exact h.roles.trans (List.map_congr_left fun j hj => (hroles j hj).symm)
    · intro j hj
      rcases List.mem_cons.1 hj with rfl | hj
      · exact .inr ⟨rfl, hparent⟩
      · exact .inl hj
  · refine h.add hnew rfl (fun j => ?_) (fun hnot => List.nodup_cons.2 ⟨hnot, h.nodup⟩)
      (fun hroles => ?_) ?_ rfl (fun j hj => .inl hj) rfl
    · refine List.mem_cons.trans (or_comm.trans (or_congr_right ?_))
      exact (and_iff_left ⟨by simp, by simp⟩).symm
    · refine List.cons_eq_cons.2 ⟨?_, h.roles.trans (List.map_congr_left fun j hj => ?_)⟩
      · rw [roleOf, OrderedMap.get_set, if_pos rfl]
        rfl
      · exact (hroles j hj).symm
    · -- there is nothing above an action or a job
      have hrole : role = .query ∨ state.operationStack = [] := by
        cases role with
        | query => exact .inl rfl
        | job => exact .inr (hempty hsequential)
        | action => exact .inr (not_not.1 fun hstack => hrejected ⟨rfl, hstack⟩)
      intro found hfound
      cases hstack : state.operationStack with
      | nil =>
        rw [hstack] at hfound
        cases hfound
      | cons top stack =>
        rw [hstack] at hrole hfound
        have hquery := hrole.resolve_right (List.cons_ne_nil top stack)
        rcases List.mem_cons.1 hfound with rfl | hmem
        · exact hquery
        · refine h.layered found ?_
          rw [hstack]
          exact hmem

/-- **Every sequential step keeps it.** -/
theorem Layered.step {label : ExecutionLabel} (h : state.Layered)
    (hsequential : state.Sequential label) (hstep : state.step label = some state') :
    state'.Layered := by
  cases label with
  | dispatch operation role parent =>
    rw [ExecutionState.step] at hstep
    split_ifs at hstep with hguard
    cases hstep
    exact h.dispatch (Option.isNone_iff_eq_none.1 (Bool.and_eq_true_iff.1 hguard).1) hsequential
  | begin operation =>
    obtain ⟨current, hcurrent, hbegin⟩ := Option.bind_eq_some_iff.1 hstep
    split_ifs at hbegin with hphase
    cases hbegin
    have hrunning : state.IsRunning operation := by
      rw [isRunning_of_get hcurrent, hphase]
      decide
    rw [ExecutionState.begin]
    split_ifs
    all_goals
      exact h.proceed hcurrent rfl hrunning (by decide) rfl rfl (fun _ _ => .inl) rfl
        h.unwritable
  | enter operation =>
    obtain ⟨current, hcurrent, henter⟩ := Option.bind_eq_some_iff.1 hstep
    split_ifs at henter with hguard
    obtain ⟨hphase, hwrites⟩ := hguard
    cases henter
    have hrunning : state.IsRunning operation := by
      rw [isRunning_of_get hcurrent, hphase]
      decide
    have htop := h.head?_eq hcurrent hrunning hsequential
    rw [ExecutionState.enter, htop, Option.any_some, if_pos hwrites]
    refine h.proceed hcurrent rfl hrunning (by decide) rfl rfl ?_ rfl h.unwritable
    intro j seen hmem
    rcases List.mem_cons.1 hmem with heq | hmem
    · exact .inr (Prod.mk.inj heq)
    · exact .inl hmem
  | read operation =>
    rw [ExecutionState.step] at hstep
    split_ifs at hstep
    cases hstep
    obtain ⟨hrunning, halone⟩ := hsequential
    obtain ⟨current, hcurrent, -⟩ := id hrunning
    refine ⟨h.running, h.nodup, h.roles, h.layered, ?_, h.nested, h.unwritable⟩
    intro j seen hmem
    rcases List.mem_cons.1 hmem with heq | hmem
    · cases heq
      exact ⟨current, hcurrent, h.head?_eq hcurrent hrunning halone⟩
    · exact h.reads j seen hmem
  | finish operation =>
    obtain ⟨current, hcurrent, hfinish⟩ := Option.bind_eq_some_iff.1 hstep
    have hended : ∀ unitOfWork, (current.phase ≠ .settled ∧
        current.phase ≠ .rejected) →
        (ExecutionState.proceed operation current .ended
          { state with unitOfWork := unitOfWork }).Layered := by
      intro unitOfWork hphase
      exact h.proceed hcurrent rfl ((isRunning_of_get hcurrent).2 hphase) (by decide) rfl rfl
        (fun _ _ => .inl) rfl h.unwritable
    have hfinished : (current.phase ≠ .settled ∧
        current.phase ≠ .rejected) → (state.finish operation current).Layered := by
      intro hphase
      rw [ExecutionState.finish]
      split_ifs
      · exact hended none hphase
      · exact hended state.unitOfWork hphase
    split at hfinish
    · rename_i hphase
      cases hfinish
      exact hended state.unitOfWork (by rw [hphase]; decide)
    · rename_i hphase
      cases hfinish
      exact hfinished (by rw [hphase]; decide)
    · rename_i hphase
      cases hfinish
      exact hfinished (by rw [hphase]; decide)
    · cases hfinish
  | settle operation =>
    obtain ⟨current, hcurrent, hsettle⟩ := Option.bind_eq_some_iff.1 hstep
    split_ifs at hsettle with hphase
    cases hsettle
    exact h.settle hcurrent hphase hsequential
  | work dispatch parent work =>
    rw [ExecutionState.step] at hstep
    split_ifs at hstep
    obtain ⟨rest, -, rfl⟩ := Option.map_eq_some_iff.1 hstep
    exact ⟨h.running, h.nodup, h.roles, h.layered, h.reads, h.nested, h.unwritable⟩
  | enlist dispatch =>
    obtain ⟨current, -, henlist⟩ := Option.bind_eq_some_iff.1 hstep
    split at henlist
    · cases henlist
    · cases henlist
      exact ⟨h.running, h.nodup, h.roles, h.layered, h.reads, h.nested, h.unwritable⟩

theorem new_layered : new.Layered where
  running := by
    intro operation
    refine iff_of_false List.not_mem_nil ?_
    rintro ⟨_, ⟨⟩, -⟩
  nodup := List.nodup_nil
  roles := rfl
  layered := by rintro _ ⟨⟩
  reads := by rintro _ _ ⟨⟩
  nested := by rintro _ ⟨⟩
  unwritable := rfl

end ExecutionState

/-! ### The results -/

open ExecutionState in
/-- **The stack is sound**, in every sequential run. -/
theorem stack_sound (labels : List ExecutionLabel) (state : ExecutionState)
    (h : Transition.Run step Sequential new labels state) : state.StackSound :=
  (h.invariant (fun _ _ _ hlayered => hlayered.step) new_layered).stackSound

/-- An action with a query, and both ask for their mode. -/
def queryWithinAction : List ExecutionLabel :=
  [.dispatch 0 .action none, .begin 0,
    .enter 0, .dispatch 1 .query (some 0),
    .begin 1, .read 1, .finish 1,
    .settle 1, .read 0, .finish 0,
    .settle 0]

/-- An operation is alone when the others are over. -/
theorem isAlone_of_entries {state : ExecutionState} {operation : ℕ}
    (h : ∀ entry ∈ state.operations.entries, entry.1 = operation ∨
      entry.2.phase = .settled ∨ entry.2.phase = .rejected) :
    state.IsAlone operation := by
  rintro - - - other ⟨current, hcurrent, hsettled, hrejected⟩
  rcases h _ (OrderedMap.get_eq_some_iff.1 hcurrent) with hsame | hphase | hphase
  · exact hsame
  · exact absurd hphase hsettled
  · exact absurd hphase hrejected

open ExecutionState in
/-- Both see their own role, and the stack is empty at last. -/
theorem stack_sound_queryWithinAction :
    ∃ state, Transition.run step new queryWithinAction = some state ∧
      state.reads = [(0, some .action), (1, some .query),
        (0, some .action)] ∧ state.operationStack = [] ∧ state.StackSound := by
  refine ⟨_, rfl, rfl, rfl, stack_sound queryWithinAction _ ?_⟩
  refine .cons ?_ rfl (.cons trivial rfl (.cons ?_ rfl (.cons trivial rfl (.cons trivial rfl ?_))))
  · rintro _ ⟨_, ⟨⟩, -⟩
  · exact isAlone_of_entries (by decide)
  refine .cons ⟨⟨_, rfl, by decide⟩, ?_⟩ rfl (.cons trivial rfl (.cons ?_ rfl ?_))
  · rintro _ ⟨⟩ ⟨⟩
  · rintro _ ⟨⟩ ⟨⟩
  refine .cons ⟨⟨_, rfl, by decide⟩, ?_⟩ rfl (.cons trivial rfl (.cons ?_ rfl (.nil _)))
  · exact isAlone_of_entries (by decide)
  · exact isAlone_of_entries (by decide)

open ExecutionState in
/-- **A query beside an action**: the query is dispatched while the transaction of the action has
begun and the action is not authorized as yet. -/
theorem stack_not_sound :
    ¬ ∀ (labels : List ExecutionLabel) (state : ExecutionState),
      Transition.run step new labels = some state → state.StackSound := by
  intro h
  have hsound := h
    [.dispatch 0 .action none, .begin 0,
      .dispatch 1 .query none, .enter 0] _ rfl
  cases hsound.unwritable

end Doxa
