/-
**Units of work and call chains.**

The current unit of work is one field of an execution (`Doxa.RuntimeExecution`), while the handlers
of the execution run in chains of their own.  Work that is dispatched beside an action, while the
handler of the action runs, is enlisted in the unit of work of that action, and is lost when that
is rolled back.

Main definitions:

* `Doxa.ExecutionState.Enlists` — work is enlisted where its chain belongs;
* `Doxa.ExecutionState.Unaccompanied` — no work beside a handler, and none after its own.

Main results:

* `Doxa.work_enlisted` — **in a run in which no work is dispatched beside the handler of an action
  or a job, or after its own handler, all work is enlisted where its chain belongs**;
* `Doxa.work_not_enlisted` — a job that is dispatched beside an action is enlisted in the action.
-/

import Doxa.RuntimeExecution
import Doxa.Lib.Transition

set_option relaxedAutoImplicit false
set_option autoImplicit false

namespace Doxa

namespace ExecutionState

/-- **Work follows its chain**: it is enlisted in the unit of work of an action or a job just when
it is dispatched from the chain of its handler, and before that is over. -/
def Enlists (state : ExecutionState) : Prop :=
  ∀ enlistment ∈ state.enlisted,
    enlistment.unitOfWork = enlistment.owner ∧ enlistment.stale = false

/-- **Work is unaccompanied**: when it is dispatched, and whenever it turns to a unit of work, the
handler of the action or job whose chain it belongs to runs, and no other one does. -/
def Unaccompanied (state : ExecutionState) : ExecutionLabel → Prop
  | .work _ parent _ => ∀ operation,
      state.IsBound operation ↔ state.ownerOf parent = some operation
  | .enlist dispatch => ∀ current, state.dispatches.get dispatch = some current →
      ∀ operation, state.IsBound operation ↔ current.owner = some operation
  | _ => True

/-- What is known of every state of such a run. -/
structure Follows (state : ExecutionState) : Prop where
  current : ∀ operation, state.unitOfWork = some operation ↔ state.IsBound operation
  captured : ∀ dispatch current, state.dispatches.get dispatch = some current →
    current.captured = current.owner
  enlists : state.Enlists

variable {state state' : ExecutionState} {operation : ℕ} {current : RuntimeOperation}

/-- Who is bound when an operation goes on. -/
theorem isBound_iff {phase : OperationPhase}
    (hoperations : state'.operations =
      state.operations.set operation { current with phase := phase })
    {j : ℕ} : state'.IsBound j ↔
      if j = operation then
        current.role.writes = true ∧
          (phase = .bound ∨ phase = .handling)
      else state.IsBound j := by
  rw [IsBound, hoperations]
  simp only [OrderedMap.get_set]
  split_ifs with hj
  · constructor
    · rintro ⟨_, ⟨⟩, hbound⟩
      exact hbound
    · exact fun hbound => ⟨_, rfl, hbound⟩
  · rfl

/-- A step that leaves the dispatched work alone. -/
theorem Follows.of_current (h : state.Follows) (hdispatches : state'.dispatches = state.dispatches)
    (henlisted : state'.enlisted = state.enlisted)
    (hcurrent : ∀ operation, state'.unitOfWork = some operation ↔ state'.IsBound operation) :
    state'.Follows := by
  refine ⟨hcurrent, ?_, ?_⟩
  · rw [hdispatches]
    exact h.captured
  · rw [Enlists, henlisted]
    exact h.enlists

/-- **An operation goes on** and is bound as before. -/
theorem Follows.proceed (h : state.Follows) (current : RuntimeOperation) {phase : OperationPhase}
    (hdispatches : state'.dispatches = state.dispatches)
    (henlisted : state'.enlisted = state.enlisted)
    (hunitOfWork : state'.unitOfWork = state.unitOfWork)
    (hoperations : state'.operations =
      state.operations.set operation { current with phase := phase })
    (hbound : state.IsBound operation ↔ current.role.writes = true ∧
      (phase = .bound ∨ phase = .handling)) : state'.Follows := by
  refine h.of_current hdispatches henlisted fun j => ?_
  rw [hunitOfWork, h.current j, isBound_iff hoperations]
  split_ifs with hj
  · rw [hj]
    exact hbound
  · rfl

/-- **An operation is not bound any more**, and takes its unit of work away. -/
theorem Follows.unbind (h : state.Follows) {phase : OperationPhase}
    (hdispatches : state'.dispatches = state.dispatches)
    (henlisted : state'.enlisted = state.enlisted) (hunitOfWork : state'.unitOfWork = none)
    (hoperations : state'.operations =
      state.operations.set operation { current with phase := phase })
    (hbound : state.IsBound operation)
    (hphase : phase ≠ .bound ∧ phase ≠ .handling) :
    state'.Follows := by
  refine h.of_current hdispatches henlisted fun j => ?_
  rw [hunitOfWork, isBound_iff hoperations]
  refine iff_of_false (by simp) ?_
  split_ifs with hj
  · rintro ⟨-, hnext | hnext⟩
    · exact hphase.1 hnext
    · exact hphase.2 hnext
  · intro hother
    -- the unit of work has been that of the operation
    have heq := ((h.current j).2 hother).symm.trans ((h.current operation).2 hbound)
    exact hj (Option.some.inj heq)

theorem isBound_of_get (hcurrent : state.operations.get operation = some current) :
    state.IsBound operation ↔ current.role.writes = true ∧
      (current.phase = .bound ∨ current.phase = .handling) := by
  constructor
  · rintro ⟨found, hfound, hbound⟩
    cases hcurrent.symm.trans hfound
    exact hbound
  · exact fun hbound => ⟨current, hcurrent, hbound⟩

theorem Follows.dispatch (h : state.Follows) {role : OperationRole} {parent : Option ℕ}
    (hnew : state.operations.get operation = none) :
    (state.dispatch operation role parent).Follows := by
  have hnot : ¬ state.IsBound operation := by
    rintro ⟨current, hcurrent, -⟩
    cases hnew.symm.trans hcurrent
  rw [ExecutionState.dispatch]
  split_ifs
  · exact h.proceed ⟨role, parent, _, .rejected⟩ rfl rfl rfl rfl
      (iff_of_false hnot (by simp))
  · exact h.proceed ⟨role, parent, _, .started⟩ rfl rfl rfl rfl
      (iff_of_false hnot (by simp))

/-- **Work turns to a unit of work**, its own. -/
theorem Follows.enlist (h : state.Follows) {dispatch : ℕ} {work : WorkDispatch} {step : EnlistStep}
    {rest : List EnlistStep} (hcurrent : state.dispatches.get dispatch = some work)
    (hown : ∀ operation, state.IsBound operation ↔ work.owner = some operation) :
    (state.enlist dispatch work step rest).Follows := by
  have hunitOfWork : state.unitOfWork = work.owner :=
    Option.ext fun operation => (h.current operation).trans (hown operation)
  have hfound : state.turnsTo work step = work.owner := by
    cases step
    · exact hunitOfWork
    · exact h.captured dispatch work hcurrent
  refine ⟨h.current, ?_, ?_⟩
  · intro j found hfound'
    change (state.dispatches.set dispatch { work with rest := rest }).get j = _ at hfound'
    rw [OrderedMap.get_set] at hfound'
    split_ifs at hfound' with hj
    · cases hfound'
      exact h.captured dispatch work hcurrent
    · exact h.captured j found hfound'
  · intro enlistment hmem
    rcases List.mem_cons.1 hmem with rfl | hmem
    · dsimp only
      rw [hfound]
      refine ⟨rfl, ?_⟩
      cases howner : work.owner with
      | none => rfl
      | some operation =>
        obtain ⟨current, hget, -, hphase⟩ := (hown operation).2 howner
        rw [isStale, Option.any_some, hget, Option.all_some]
        rcases hphase with hphase | hphase <;> rw [hphase] <;> decide
    · exact h.enlists enlistment hmem

/-- **Every step of unaccompanied work keeps it.** -/
theorem Follows.step {label : ExecutionLabel} (h : state.Follows)
    (hunaccompanied : state.Unaccompanied label) (hstep : state.step label = some state') :
    state'.Follows := by
  cases label with
  | dispatch operation role parent =>
    rw [ExecutionState.step] at hstep
    split_ifs at hstep with hguard
    cases hstep
    exact h.dispatch (Option.isNone_iff_eq_none.1 (Bool.and_eq_true_iff.1 hguard).1)
  | begin operation =>
    obtain ⟨current, hcurrent, hbegin⟩ := Option.bind_eq_some_iff.1 hstep
    split_ifs at hbegin with hphase
    cases hbegin
    have hbound := isBound_of_get hcurrent
    rw [hphase] at hbound
    have hnot : ¬ state.IsBound operation := by
      rw [hbound]
      rintro ⟨-, hnext | hnext⟩ <;> cases hnext
    rw [ExecutionState.begin]
    split_ifs with hwrites hcurrentUnit
    · exact h.proceed _ rfl rfl rfl rfl (iff_of_false hnot (by simp))
    · -- nobody is bound as yet
      have hnone := Option.not_isSome_iff_eq_none.1 hcurrentUnit
      refine h.of_current rfl rfl fun j => ?_
      refine Iff.trans ?_ (isBound_iff rfl).symm
      change some operation = some j ↔ _
      split_ifs with hj
      · exact iff_of_true (congrArg some hj.symm) ⟨hwrites, .inl rfl⟩
      · refine iff_of_false (fun heq => hj (Option.some.inj heq).symm) fun hother => ?_
        cases hnone.symm.trans ((h.current j).2 hother)
    · exact h.proceed _ rfl rfl rfl rfl (iff_of_false hnot fun hnext => hwrites hnext.1)
  | enter operation =>
    obtain ⟨current, hcurrent, henter⟩ := Option.bind_eq_some_iff.1 hstep
    split_ifs at henter with hguard
    obtain ⟨hphase, hwrites⟩ := hguard
    cases henter
    have hbound := isBound_of_get hcurrent
    rw [ExecutionState.enter]
    split_ifs
    · refine h.proceed _ rfl rfl rfl rfl (hbound.trans ?_)
      simp [hphase]
    · exact h.unbind rfl rfl rfl rfl (hbound.2 ⟨hwrites, .inl hphase⟩) (by decide)
  | read operation =>
    rw [ExecutionState.step] at hstep
    split_ifs at hstep
    cases hstep
    exact ⟨h.current, h.captured, h.enlists⟩
  | finish operation =>
    obtain ⟨current, hcurrent, hfinish⟩ := Option.bind_eq_some_iff.1 hstep
    have hbound := isBound_of_get hcurrent
    have hhandler : current.phase = .bound ∨
        current.phase = .handling → (state.finish operation current).Follows := by
      intro hphase
      rw [ExecutionState.finish]
      split_ifs with hwrites
      · exact h.unbind rfl rfl rfl rfl (hbound.2 ⟨hwrites, hphase⟩) (by decide)
      · refine h.proceed _ rfl rfl rfl rfl (iff_of_false ?_ (by simp))
        exact fun hold => hwrites (hbound.1 hold).1
    split at hfinish
    · rename_i hphase
      cases hfinish
      refine h.proceed _ rfl rfl rfl rfl (hbound.trans ?_)
      simp [hphase]
    · rename_i hphase
      cases hfinish
      exact hhandler (.inl hphase)
    · rename_i hphase
      cases hfinish
      exact hhandler (.inr hphase)
    · cases hfinish
  | settle operation =>
    obtain ⟨current, hcurrent, hsettle⟩ := Option.bind_eq_some_iff.1 hstep
    split_ifs at hsettle with hphase
    cases hsettle
    refine h.proceed _ rfl rfl rfl rfl ((isBound_of_get hcurrent).trans ?_)
    simp [hphase]
  | work dispatch parent work =>
    rw [ExecutionState.step] at hstep
    split_ifs at hstep with hguard
    obtain ⟨rest, -, rfl⟩ := Option.map_eq_some_iff.1 hstep
    refine ⟨h.current, ?_, h.enlists⟩
    intro j found hfound
    change (state.dispatches.set dispatch _).get j = _ at hfound
    rw [OrderedMap.get_set] at hfound
    split_ifs at hfound with hj
    · cases hfound
      exact Option.ext fun operation =>
        (h.current operation).trans (hunaccompanied operation)
    · exact h.captured j found hfound
  | enlist dispatch =>
    obtain ⟨current, hcurrent, henlist⟩ := Option.bind_eq_some_iff.1 hstep
    split at henlist
    · cases henlist
    · cases henlist
      exact h.enlist hcurrent (hunaccompanied current hcurrent)

theorem new_follows : new.Follows where
  current := by
    intro operation
    refine iff_of_false (fun heq => nomatch heq) ?_
    rintro ⟨_, ⟨⟩, -⟩
  captured := by rintro _ _ ⟨⟩
  enlists := by rintro _ ⟨⟩

end ExecutionState

/-! ### The results -/

open ExecutionState in
/-- **Work follows its chain**, in every run in which it is unaccompanied. -/
theorem work_enlisted (labels : List ExecutionLabel) (state : ExecutionState)
    (h : Transition.Run step Unaccompanied new labels state) : state.Enlists :=
  (h.invariant (fun _ _ _ hfollows => hfollows.step) new_follows).enlists

/-- An action dispatches a job; another job is dispatched after the action. -/
def jobWithinAction : List ExecutionLabel :=
  [.dispatch 0 .action none, .begin 0,
    .enter 0, .work 0 (some 0) .job,
    .enlist 0, .finish 0, .settle 0,
    .work 1 none .job, .enlist 1]

/-- With one operation, it is the only one that can be bound. -/
theorem isBound_of_single {state : ExecutionState} {current : RuntimeOperation}
    (h : state.operations.entries = [(0, current)]) (operation : ℕ) :
    state.IsBound operation ↔ operation = 0 ∧ current.role.writes = true ∧
      (current.phase = .bound ∨ current.phase = .handling) := by
  constructor
  · rintro ⟨found, hfound, hbound⟩
    have hmem := OrderedMap.get_eq_some_iff.1 hfound
    rw [h, List.mem_singleton] at hmem
    cases hmem
    exact ⟨rfl, hbound⟩
  · rintro ⟨rfl, hbound⟩
    refine ⟨current, OrderedMap.get_eq_some_iff.2 ?_, hbound⟩
    rw [h]
    exact List.mem_singleton_self _

open ExecutionState in
/-- The first job is enlisted in the action, the second one in no unit of work. -/
theorem work_enlisted_within :
    ∃ state, Transition.run step new jobWithinAction = some state ∧
      state.enlisted = [⟨none, none, false⟩, ⟨some 0, some 0, false⟩] ∧ state.Enlists := by
  have hwithin : ∀ (state : ExecutionState) (current : RuntimeOperation),
      state.operations.entries = [(0, current)] → current.role.writes = true →
      current.phase = .handling →
        ∀ operation, state.IsBound operation ↔ some 0 = some operation := by
    intro state current hentries hwrites hphase operation
    rw [isBound_of_single hentries]
    refine ⟨fun h => congrArg some h.1.symm, fun h => ⟨(Option.some.inj h).symm, hwrites, ?_⟩⟩
    exact .inr hphase
  have hafter : ∀ (state : ExecutionState) (current : RuntimeOperation),
      state.operations.entries = [(0, current)] → current.phase = .settled →
        ∀ operation, state.IsBound operation ↔ none = some operation := by
    intro state current hentries hphase operation
    rw [isBound_of_single hentries, hphase]
    refine iff_of_false ?_ (fun h => nomatch h)
    rintro ⟨-, -, hbound | hbound⟩ <;> cases hbound
  refine ⟨_, rfl, rfl, work_enlisted jobWithinAction _ ?_⟩
  refine .cons trivial rfl (.cons trivial rfl (.cons trivial rfl (.cons ?_ rfl (.cons ?_ rfl ?_))))
  · exact hwithin _ _ rfl rfl rfl
  · rintro _ ⟨⟩
    exact hwithin _ _ rfl rfl rfl
  refine .cons trivial rfl (.cons trivial rfl (.cons ?_ rfl (.cons ?_ rfl (.nil _))))
  · exact hafter _ _ rfl rfl
  · rintro _ ⟨⟩
    exact hafter _ _ rfl rfl

open ExecutionState in
/-- **Work beside an action**: the job is dispatched by the execution itself, while the handler of
an action runs. -/
theorem work_not_enlisted :
    ¬ ∀ (labels : List ExecutionLabel) (state : ExecutionState),
      Transition.run step new labels = some state → state.Enlists := by
  intro h
  have henlists := h
    [.dispatch 0 .action none, .begin 0,
      .enter 0, .work 0 none .job,
      .enlist 0] _ rfl ⟨none, some 0, false⟩ List.mem_cons_self
  cases henlists.1

end Doxa
