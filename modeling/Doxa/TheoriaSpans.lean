/-
**Both ends of a span.**

With a filter on durations, the recorder holds the start of a span back until the span ends, and
then queues both or rejects both.  The documentation promises that both ends are kept or rejected
together.  They are, as long as neither is lost on the way: a start that is held back gives way when
too much is held, and is let go when the recorder is drained; the end of its span is then queued
alone.  And the oldest that gives way in the queue is often the start of a span, whose end remains.

What has been recorded is kept beside the state of the recorder, for the proofs, with the number of
each observation that was captured.

Main definitions:

* `Doxa.SpanLog`, `Doxa.SpanLog.step` — the recorder with what has been recorded;
* `Doxa.SpanLog.InOrder` — a span starts once and ends once, in this order;
* `Doxa.SpanLog.Unbroken` — no end loses its start, and no half of a span gives way;
* `Doxa.SpanLog.KeepsSpans` — both ends of a span are in the table, or neither is.

Main results:

* `Doxa.SpanLog.Invariant.step` — what every step keeps;
* `Doxa.spans_kept_together` — **as long as no step breaks a span, a drained recorder has persisted
  both ends of each span or neither**;
* `Doxa.end_kept_alone` — an end in the table without its start.
-/

import Doxa.TheoriaAccounting

set_option relaxedAutoImplicit false
set_option autoImplicit false

namespace Doxa

open TheoriaState

/-- The observation ends a span. -/
def ObservationPhase.IsTerminal : ObservationPhase → Prop
  | .completed | .failed => True
  | _ => False

instance (phase : ObservationPhase) : Decidable phase.IsTerminal := by
  cases phase <;> unfold ObservationPhase.IsTerminal <;> infer_instance

namespace TheoriaState

/-! ### What is persisted, or on its way -/

/-- What is persisted, being written or queued, by numbers. -/
def alive (s : TheoriaState) : List ℕ :=
  s.account.persisted ++ (s.batch ++ s.queue).map Captured.index

/-- What has left the queue, by numbers. -/
def written (s : TheoriaState) : List ℕ := s.account.persisted ++ s.batch.map Captured.index

theorem alive_eq (s : TheoriaState) : s.alive = s.written ++ s.queue.map Captured.index := by
  rw [alive, written, List.map_append, List.append_assoc]

/-- No more has been captured, and no more starts are staged. -/
structure Fewer (s t : TheoriaState) : Prop where
  captured : t.account.captured = s.account.captured
  staged : ∀ entry ∈ t.pendingStarts.entries, entry ∈ s.pendingStarts.entries

theorem Fewer.refl (s : TheoriaState) : Fewer s s := ⟨rfl, fun _ h => h⟩

theorem Fewer.trans {s t u : TheoriaState} (h : Fewer s t) (h' : Fewer t u) : Fewer s u :=
  ⟨h'.captured.trans h.captured, fun entry hentry => h.staged entry (h'.staged entry hentry)⟩

variable {options : TheoriaOptions} {s : TheoriaState}

theorem alive_flush (options : TheoriaOptions) (s : TheoriaState) :
    (s.flush options).alive = s.alive ∧ Fewer s (s.flush options) := by
  obtain ⟨hsame, -⟩ | ⟨hidle, -, -, hflush⟩ := flush_cases options s
  · rw [hsame]
    exact ⟨rfl, Fewer.refl s⟩
  · rw [hflush]
    refine ⟨?_, rfl, fun _ h => h⟩
    simp [alive, batch, hidle]

theorem alive_scheduleFlush (s : TheoriaState) :
    s.scheduleFlush.alive = s.alive ∧ Fewer s s.scheduleFlush := by
  unfold scheduleFlush
  split
  · exact ⟨rfl, Fewer.refl s⟩
  · exact ⟨rfl, rfl, fun _ h => h⟩

theorem alive_push (options : TheoriaOptions) (s : TheoriaState) (retained : List Captured) :
    (s.push options retained).alive = s.alive ++ retained.map Captured.index ∧
      Fewer s (s.push options retained) := by
  have hjoined : (s.joined retained).alive = s.alive ++ retained.map Captured.index := by
    rw [alive_eq, alive_eq]
    simp [joined, written, batch]
  have hfewer : Fewer s (s.joined retained) := ⟨rfl, fun _ h => h⟩
  simp only [push]
  split
  · obtain ⟨halive, hflush⟩ := alive_flush options (s.joined retained)
    exact ⟨halive.trans hjoined, hfewer.trans hflush⟩
  · obtain ⟨halive, hflush⟩ := alive_scheduleFlush (s.joined retained)
    exact ⟨halive.trans hjoined, hfewer.trans hflush⟩

/-- What dropping the oldest does to the queue. -/
theorem dropOldest_spec (s : TheoriaState) :
    s.dropOldest.queue = s.queue.drop 1 ∧ s.dropOldest.written = s.written ∧
      Fewer s s.dropOldest := by
  unfold dropOldest
  cases hqueue : s.queue with
  | cons oldest queue => exact ⟨rfl, rfl, rfl, fun _ h => h⟩
  | nil =>
    cases hstarts : s.pendingStarts.entries with
    | nil => exact ⟨by simp, rfl, rfl, fun _ h => h⟩
    | cons first rest =>
      dsimp only
      split
      · refine ⟨by simp [drop], rfl, rfl, ?_⟩
        intro entry hentry
        exact (List.mem_filter.1 hentry).1
      · exact ⟨by simp, rfl, rfl, fun _ h => h⟩

/-- As many give way in the queue as there is no room for. -/
theorem makeRoom_spec (n : ℕ) : ∀ (fuel : ℕ) (s : TheoriaState), s.queue.length ≤ fuel →
    ∃ gone, gone ≤ s.queuedCount + n - options.pendingLimit ∧
      (s.makeRoom options n fuel).queue = s.queue.drop gone ∧
        (s.makeRoom options n fuel).written = s.written ∧
          Fewer s (s.makeRoom options n fuel) := by
  intro fuel
  induction fuel with
  | zero =>
    intro s _
    exact ⟨0, Nat.zero_le _, rfl, rfl, Fewer.refl s⟩
  | succ fuel ih =>
    intro s hfuel
    rw [makeRoom]
    by_cases hroom : s.queuedCount + n ≤ options.pendingLimit
    · rw [if_pos hroom]
      exact ⟨0, Nat.zero_le _, rfl, rfl, Fewer.refl s⟩
    · rw [if_neg hroom]
      obtain ⟨hqueue, hwritten, hfewer⟩ := dropOldest_spec s
      have hlength : s.dropOldest.queue.length ≤ fuel := by
        rw [hqueue, List.length_drop]
        omega
      obtain ⟨gone, hgone, hqueue', hwritten', hfewer'⟩ := ih s.dropOldest hlength
      by_cases hempty : s.queue = []
      · refine ⟨0, Nat.zero_le _, ?_, hwritten'.trans hwritten, hfewer.trans hfewer'⟩
        rw [hqueue', hqueue, hempty]
        simp
      · have hcount : s.dropOldest.queuedCount + 1 = s.queuedCount := by
          obtain ⟨oldest, queue, hcons⟩ := List.exists_cons_of_ne_nil hempty
          have hdrop : s.dropOldest = { s with queue := queue }.drop [oldest] := by
            rw [dropOldest, hcons]
          rw [hdrop, queuedCount_drop]
          simp only [queuedCount, hcons, List.length_cons]
          omega
        refine ⟨gone + 1, by omega, ?_, hwritten'.trans hwritten, hfewer.trans hfewer'⟩
        rw [hqueue', hqueue, List.drop_drop, Nat.add_comm]

/-- What becomes of the observations that are queued: all are let go, or they come to those that are
alive, of which the oldest in the queue may give way. -/
theorem alive_enqueue {observations : List Captured}
    (h : observations.length ≤ options.pendingLimit) :
    ((s.enqueue options observations).alive = s.alive ∨
      ∃ gone, gone ≤ s.queuedCount + observations.length - options.pendingLimit ∧
        (0 < gone → options.policy = .dropOldest) ∧
          (s.enqueue options observations).alive
            = s.written ++ (s.queue.drop gone ++ observations).map Captured.index) ∧
      Fewer s (s.enqueue options observations) := by
  have hexcess : observations.length - options.pendingLimit = 0 := by omega
  have hdrop : s.drop [] = s := by
    cases s
    simp [drop]
  simp only [enqueue, hexcess, List.take_zero, List.drop_zero, hdrop]
  split
  · obtain ⟨halive, hfewer⟩ := alive_push options s observations
    refine ⟨.inr ⟨0, Nat.zero_le _, fun hpos => absurd hpos (lt_irrefl 0), ?_⟩, hfewer⟩
    rw [halive, alive_eq, List.drop_zero, List.map_append, List.append_assoc]
  · cases hpolicy : options.policy with
    | dropNewest => exact ⟨.inl rfl, rfl, fun _ hentry => hentry⟩
    | dropOldest =>
      obtain ⟨gone, hgone, hqueue, hwritten, hfewer⟩ :=
        makeRoom_spec observations.length s.queuedCount s (Nat.le_add_right _ _)
      obtain ⟨halive, hfewer'⟩ := alive_push options
        (s.makeRoom options observations.length s.queuedCount) observations
      refine ⟨.inr ⟨gone, hgone, fun _ => rfl, ?_⟩, hfewer.trans hfewer'⟩
      rw [halive, alive_eq, hqueue, hwritten, List.map_append, List.append_assoc]

/-! ### What recording an observation does -/

/-- What recording makes of those that are alive: some of the queue give way, some are added. -/
structure Effect (s t : TheoriaState) (recorded : Captured) (gone : List Captured)
    (added : List ℕ) : Prop where
  captured : t.account.captured = s.account.captured
  sub : ∀ n ∈ t.alive, n ∈ s.alive ∨ n ∈ added
  added : ∀ n ∈ added, n ∈ t.alive
  kept : ∀ n ∈ s.alive, (∀ oldest ∈ gone, oldest.index ≠ n) → n ∈ t.alive
  staged : ∀ entry ∈ t.pendingStarts.entries, entry ∈ s.pendingStarts.entries ∨
    (entry.2 = recorded ∧ recorded.observation.phase = .started ∧
      observationSpanKey recorded.observation = some entry.1)

/-- Nothing gives way and nothing is added. -/
theorem Effect.of_alive_eq {t : TheoriaState} (halive : t.alive = s.alive) (hfewer : Fewer s t)
    (recorded : Captured) : Effect s t recorded [] [] where
  captured := hfewer.captured
  sub := fun _ hn => .inl (halive ▸ hn)
  added := fun _ hn => absurd hn List.not_mem_nil
  kept := fun _ hn _ => halive ▸ hn
  staged := fun entry hentry => .inl (hfewer.staged entry hentry)

/-- What is done after others have been let go of. -/
theorem Effect.of_fewer {s' t : TheoriaState} {recorded : Captured} {gone : List Captured}
    {added : List ℕ} (h : Effect s' t recorded gone added) (halive : s'.alive = s.alive)
    (hfewer : Fewer s s') : Effect s t recorded gone added where
  captured := h.captured.trans hfewer.captured
  sub := fun n hn => halive ▸ h.sub n hn
  added := h.added
  kept := fun n hn => h.kept n (halive.symm ▸ hn)
  staged := fun entry hentry => (h.staged entry hentry).imp_left (hfewer.staged entry)

theorem fewer_unstage (s : TheoriaState) (key : Option String) : Fewer s (s.unstage key) := by
  cases key with
  | none => exact Fewer.refl s
  | some key => exact ⟨rfl, fun _ hentry => (List.mem_filter.1 hentry).1⟩

theorem alive_unstage (s : TheoriaState) (key : Option String) :
    (s.unstage key).alive = s.alive ∧ (s.unstage key).queue = s.queue := by
  cases key <;> exact ⟨rfl, rfl⟩

/-- Observations that are queued are let go, or are added to those that are alive. -/
theorem effect_enqueue {observations : List Captured}
    (h : observations.length ≤ options.pendingLimit) (recorded : Captured) :
    Effect s (s.enqueue options observations) recorded [] [] ∨
      ∃ gone, gone ≤ s.queuedCount + observations.length - options.pendingLimit ∧
        (0 < gone → options.policy = .dropOldest) ∧
          Effect s (s.enqueue options observations) recorded (s.queue.take gone)
            (observations.map Captured.index) := by
  obtain ⟨halive | ⟨gone, hgone, hpolicy, halive⟩, hfewer⟩ := alive_enqueue (s := s) h
  · exact .inl (Effect.of_alive_eq halive hfewer recorded)
  · refine .inr ⟨gone, hgone, hpolicy, hfewer.captured, ?_, ?_, ?_, fun entry hentry =>
      .inl (hfewer.staged entry hentry)⟩
    · intro n hn
      rw [halive, List.map_append, List.mem_append, List.mem_append] at hn
      rw [alive_eq, List.mem_append]
      rcases hn with hwritten | hqueued | hadded
      · exact .inl (.inl hwritten)
      · exact .inl (.inr (List.map_subset _ (List.drop_subset gone _) hqueued))
      · exact .inr hadded
    · intro n hn
      rw [halive, List.map_append]
      exact List.mem_append_right _ (List.mem_append_right _ hn)
    · intro n hn hkept
      rw [alive_eq, List.mem_append] at hn
      rw [halive, List.map_append, List.mem_append, List.mem_append]
      rcases hn with hwritten | hqueued
      · exact .inl hwritten
      · obtain ⟨captured, hcaptured, rfl⟩ := List.mem_map.1 hqueued
        rw [← List.take_append_drop gone s.queue, List.mem_append] at hcaptured
        rcases hcaptured with htaken | hleft
        · exact absurd rfl (hkept captured htaken)
        · exact .inr (.inl (List.mem_map_of_mem hleft))

/-- A start is let go, or is staged, and the oldest gives way for it. -/
theorem effect_stageStart {key : String} {captured : Captured}
    (hphase : captured.observation.phase = .started)
    (hkey : observationSpanKey captured.observation = some key) :
    ∃ gone, gone ≤ s.queuedCount + 1 - options.pendingLimit ∧
      (0 < gone → options.policy = .dropOldest) ∧
        Effect s (s.stageStart options key captured) captured (s.queue.take gone) [] := by
  have hset : ∀ room : TheoriaState, ∀ entry ∈ (room.pendingStarts.set key captured).entries,
      entry ∈ room.pendingStarts.entries ∨ entry = (key, captured) := by
    intro room entry hentry
    by_cases hsame : entry.1 = key
    · have hget := OrderedMap.get_eq_some_iff.2 (show (entry.1, entry.2) ∈ _ from hentry)
      rw [OrderedMap.get_set, if_pos hsame, Option.some.injEq] at hget
      exact .inr (Prod.ext hsame hget.symm)
    · have hget := OrderedMap.get_eq_some_iff.2 (show (entry.1, entry.2) ∈ _ from hentry)
      rw [OrderedMap.get_set, if_neg hsame] at hget
      exact .inl (OrderedMap.get_eq_some_iff.1 hget)
  have hstaged : ∀ room : TheoriaState, Fewer s room →
      ∀ entry ∈ (room.pendingStarts.set key captured).entries,
        entry ∈ s.pendingStarts.entries ∨
          (entry.2 = captured ∧ captured.observation.phase = .started ∧
            observationSpanKey captured.observation = some entry.1) := by
    intro room hfewer entry hentry
    rcases hset room entry hentry with hold | rfl
    · exact .inl (hfewer.staged entry hold)
    · exact .inr ⟨rfl, hphase, hkey⟩
  unfold stageStart stagingRoom
  split_ifs with hfull
  · cases hpolicy : options.policy with
    | dropNewest =>
      have heffect : Effect s (s.drop [captured]) captured [] [] :=
        @Effect.of_alive_eq s (s.drop [captured]) rfl ⟨rfl, fun _ hentry => hentry⟩ captured
      exact ⟨0, Nat.zero_le _, fun hpos => absurd hpos (lt_irrefl 0), heffect⟩
    | dropOldest =>
      obtain ⟨hqueue, hwritten, hfewer⟩ := dropOldest_spec s
      have halive : s.dropOldest.alive = s.written ++ (s.queue.drop 1).map Captured.index := by
        rw [alive_eq, hwritten, hqueue]
      refine ⟨1, by omega, fun _ => rfl, hfewer.captured, ?_, ?_, ?_, hstaged _ hfewer⟩
      · intro n hn
        replace hn : n ∈ s.dropOldest.alive := hn
        rw [halive, List.mem_append] at hn
        rw [alive_eq, List.mem_append]
        exact .inl (hn.imp_right fun hqueued =>
          List.map_subset _ (List.drop_subset 1 _) hqueued)
      · intro n hn
        exact absurd hn List.not_mem_nil
      · intro n hn hkept
        change n ∈ s.dropOldest.alive
        rw [alive_eq, List.mem_append] at hn
        rw [halive, List.mem_append]
        rcases hn with hleft | hqueued
        · exact .inl hleft
        · obtain ⟨other, hother, rfl⟩ := List.mem_map.1 hqueued
          rw [← List.take_append_drop 1 s.queue, List.mem_append] at hother
          rcases hother with htaken | hleft
          · exact absurd rfl (hkept other htaken)
          · exact .inr (List.mem_map_of_mem hleft)
  · refine ⟨0, Nat.zero_le _, fun hpos => absurd hpos (lt_irrefl 0), rfl, ?_, ?_, ?_,
      hstaged s (Fewer.refl s)⟩
    · exact fun n hn => .inl hn
    · exact fun n hn => absurd hn List.not_mem_nil
    · exact fun n hn _ => hn

end TheoriaState

/-! ### What has been recorded -/

/-- The recorder, with what has been recorded, and the number of what has been captured. -/
structure SpanLog where
  state : TheoriaState
  recorded : List (Observation × Option ℕ)

namespace SpanLog

/-- The recorder once it is started. -/
def initial : SpanLog := ⟨.initial, []⟩

/-- The number that an observation gets, if it is captured. -/
def numberOf (bucket : String → ℚ) (options : TheoriaOptions) (log : SpanLog)
    (observation : Observation) : Option ℕ :=
  if log.state.pool ∧ shouldCaptureBase bucket options observation then
    some log.state.account.captured
  else none

/-- What is recorded is noted. -/
def noted (bucket : String → ℚ) (options : TheoriaOptions) (log : SpanLog) :
    TheoriaLabel → List (Observation × Option ℕ)
  | .record observation =>
    log.recorded ++ [(observation, log.numberOf bucket options observation)]
  | _ => log.recorded

def step (bucket : String → ℚ) (options : TheoriaOptions) (log : SpanLog)
    (label : TheoriaLabel) : Option SpanLog :=
  (log.state.step bucket options label).map fun s => ⟨s, log.noted bucket options label⟩

/-- The start and the end of a span. -/
def IsSpan (start terminal : Observation × Option ℕ) : Prop :=
  start.1.phase = .started ∧ terminal.1.phase.IsTerminal ∧
    ∃ key, observationSpanKey start.1 = some key ∧ observationSpanKey terminal.1 = some key

variable (log : SpanLog)

/-- It is in the table. -/
def IsPersisted (entry : Observation × Option ℕ) : Prop :=
  ∃ n ∈ entry.2, n ∈ log.state.account.persisted

/-- **Both ends of a span are in the table, or neither is.** -/
def KeepsSpans : Prop :=
  ∀ start ∈ log.recorded, ∀ terminal ∈ log.recorded, IsSpan start terminal →
    (log.IsPersisted start ↔ log.IsPersisted terminal)

/-- The recorder has nothing queued, and nothing is being written. -/
def IsDrained : Prop := log.state.queue = [] ∧ log.state.flushPromise = none

/-! ### What is assumed, and the condition -/

/-- With this observation too, each span starts at most once, and then ends at most once. -/
def InOrder (observation : Observation) : Prop :=
  ∀ entry ∈ log.recorded, ∀ key, observationSpanKey entry.1 = some key →
    observationSpanKey observation = some key →
      (observation.phase = .started → entry.1.phase = .occurred) ∧
        (observation.phase.IsTerminal → ¬ entry.1.phase.IsTerminal)

/-- Spans are in order, and what is inserted is inserted. -/
def Assumed : TheoriaLabel → Prop
  | .record observation => log.InOrder observation
  | .inserted succeeds => succeeds = true
  | _ => True

/-- It is the start or the end of a span that has been recorded. -/
def IsHalf (captured : Captured) : Prop :=
  ∃ start ∈ log.recorded, ∃ terminal ∈ log.recorded, IsSpan start terminal ∧
    (start.2 = some captured.index ∨ terminal.2 = some captured.index)

/-- The filter on durations lets it pass. -/
def IsLong (options : TheoriaOptions) (observation : Observation) : Prop :=
  ∀ minimum ∈ options.minimumDurationMilliseconds,
    minimum ≤ observation.durationMilliseconds.getD 0

/-- The end of a span is queued together with its start: the start is staged, and there may be two
in the queue. -/
def KeepsStart (options : TheoriaOptions) (log : SpanLog) (observation : Observation) : Prop :=
  ∀ start ∈ log.recorded, IsSpan start (observation, none) → 2 ≤ options.pendingLimit ∧
    ∀ key ∈ observationSpanKey observation, log.state.pendingStarts.get key ≠ none

/-- No half of a span is among the oldest in the queue that there is no room for. -/
def KeepsHalves (options : TheoriaOptions) (log : SpanLog) : Prop :=
  options.policy = .dropOldest →
    ∀ oldest ∈ log.state.queue.take (log.state.queuedCount + 1 - options.pendingLimit),
      ¬ log.IsHalf oldest

/-- **The condition**: when a long span ends its start is still staged, and where the oldest gives
way to an observation that is held, it is not half of a span. -/
def Unbroken (bucket : String → ℚ) (options : TheoriaOptions) (log : SpanLog) :
    TheoriaLabel → Prop
  | .record observation =>
    log.numberOf bucket options observation ≠ none →
      (observation.phase.IsTerminal → IsLong options observation →
        log.KeepsStart options observation ∧ log.KeepsHalves options) ∧
      (observation.phase = .started → log.KeepsHalves options)
  | _ => True

/-! ### What every step keeps -/

/-- It is persisted, or on its way. -/
def IsAlive (entry : Observation × Option ℕ) : Prop :=
  ∃ n ∈ entry.2, n ∈ log.state.alive

structure Invariant (log : SpanLog) : Prop where
  number_lt : ∀ entry ∈ log.recorded, ∀ n ∈ entry.2, n < log.state.account.captured
  unique : ∀ entry ∈ log.recorded, ∀ other ∈ log.recorded, ∀ n ∈ entry.2, n ∈ other.2 →
    entry = other
  one_start : ∀ start ∈ log.recorded, ∀ other ∈ log.recorded,
    start.1.phase = .started → other.1.phase = .started →
      ∀ key, observationSpanKey start.1 = some key → observationSpanKey other.1 = some key →
        start = other
  alive_lt : ∀ n ∈ log.state.alive, n < log.state.account.captured
  /-- A start that is staged has been recorded. -/
  staged : ∀ entry ∈ log.state.pendingStarts.entries,
    (entry.2.observation, some entry.2.index) ∈ log.recorded ∧
      entry.2.observation.phase = .started ∧
        observationSpanKey entry.2.observation = some entry.1
  /-- A start that is on its way has its end recorded. -/
  ended : ∀ start ∈ log.recorded, start.1.phase = .started →
    observationSpanKey start.1 ≠ none → log.IsAlive start →
      ∃ terminal ∈ log.recorded, IsSpan start terminal
  together : ∀ start ∈ log.recorded, ∀ terminal ∈ log.recorded, IsSpan start terminal →
    (log.IsAlive start ↔ log.IsAlive terminal)

theorem invariant_initial : initial.Invariant where
  number_lt := fun _ h => absurd h List.not_mem_nil
  unique := fun _ h => absurd h List.not_mem_nil
  one_start := fun _ h => absurd h List.not_mem_nil
  alive_lt := fun _ h => absurd h List.not_mem_nil
  staged := fun _ h => absurd h List.not_mem_nil
  ended := fun _ h => absurd h List.not_mem_nil
  together := fun _ h => absurd h List.not_mem_nil

/-- In a drained recorder what is on its way is persisted. -/
theorem Invariant.keepsSpans {log : SpanLog} (h : log.Invariant) (hdrained : log.IsDrained) :
    log.KeepsSpans := by
  have halive : log.state.alive = log.state.account.persisted := by
    rw [alive, batch, hdrained.1, hdrained.2]
    simp
  have htogether := h.together
  simp only [IsAlive, halive] at htogether
  exact htogether

/-- What steps other than recording do. -/
theorem Invariant.unrecorded {log : SpanLog} (h : log.Invariant) {t : TheoriaState}
    (halive : t.alive = log.state.alive) (hfewer : Fewer log.state t) :
    (⟨t, log.recorded⟩ : SpanLog).Invariant where
  number_lt := fun entry hentry n hn => by
    rw [hfewer.captured]
    exact h.number_lt entry hentry n hn
  unique := h.unique
  one_start := h.one_start
  alive_lt := fun n hn => by
    rw [hfewer.captured]
    exact h.alive_lt n (halive ▸ hn)
  staged := fun entry hentry => h.staged entry (hfewer.staged entry hentry)
  ended := fun start hstart hphase hkey hlive =>
    h.ended start hstart hphase hkey (by simpa only [IsAlive, halive] using hlive)
  together := fun start hstart terminal hterminal hspan => by
    have htogether := h.together start hstart terminal hterminal hspan
    simpa only [IsAlive, halive] using htogether

/-- With another observation in order, a span still starts once. -/
theorem Invariant.one_start_append {log : SpanLog} (h : log.Invariant)
    {entry : Observation × Option ℕ} (horder : log.InOrder entry.1) :
    ∀ start ∈ log.recorded ++ [entry], ∀ other ∈ log.recorded ++ [entry],
      start.1.phase = .started → other.1.phase = .started →
        ∀ key, observationSpanKey start.1 = some key → observationSpanKey other.1 = some key →
          start = other := by
  intro start hmem other hmem' hphase hphase' key hkey hkey'
  rw [List.mem_append, List.mem_singleton] at hmem hmem'
  rcases hmem with hmem | rfl
  · rcases hmem' with hmem' | rfl
    · exact h.one_start start hmem other hmem' hphase hphase' key hkey hkey'
    · have hoccurred := (horder start hmem key hkey hkey').1 hphase'
      rw [hphase] at hoccurred
      cases hoccurred
  · rcases hmem' with hmem' | rfl
    · have hoccurred := (horder other hmem' key hkey' hkey).1 hphase
      rw [hphase'] at hoccurred
      cases hoccurred
    · rfl

/-- **What recording does**: an observation is noted, some that are no halves give way, and some are
added: the observation itself, and with the end of a span its start. -/
theorem Invariant.recorded {log : SpanLog} (h : log.Invariant) {t : TheoriaState}
    {captured : Captured} {gone : List Captured} {added : List ℕ}
    {entry : Observation × Option ℕ}
    (heffect : Effect log.state.counted t captured gone added)
    (hobservation : captured.observation = entry.1)
    (hnumber : entry.2 = some captured.index)
    (hindex : captured.index = log.state.account.captured)
    (horder : log.InOrder entry.1) (hgone : ∀ oldest ∈ gone, ¬ log.IsHalf oldest)
    (hadded : ∀ n ∈ added, n ∈ entry.2 ∨ ∃ start ∈ log.recorded, n ∈ start.2 ∧ IsSpan start entry)
    (hboth : ∀ start ∈ log.recorded, IsSpan start entry →
      ((∃ n ∈ start.2, n ∈ added) ↔ ∃ n ∈ entry.2, n ∈ added))
    (hstart : entry.1.phase = .started → observationSpanKey entry.1 ≠ none →
      ∀ n ∈ entry.2, n ∉ added) :
    (⟨t, log.recorded ++ [entry]⟩ : SpanLog).Invariant := by
  have hcaptured : t.account.captured = log.state.account.captured + 1 := heffect.captured
  have hsub : ∀ n ∈ t.alive, n ∈ log.state.alive ∨ n ∈ added := heffect.sub
  have hkept : ∀ n ∈ log.state.alive, (∀ oldest ∈ gone, oldest.index ≠ n) → n ∈ t.alive :=
    heffect.kept
  have hnew : ∀ n ∈ entry.2, n = log.state.account.captured := by
    intro n hn
    rw [hnumber, Option.mem_some_iff] at hn
    omega
  have hfresh : ∀ n ∈ entry.2, n ∉ log.state.alive := by
    intro n hn hmem
    have hlt := h.alive_lt n hmem
    rw [hnew n hn] at hlt
    omega
  -- an old entry that is added is the start of the span that ends
  have hold : ∀ other ∈ log.recorded, ∀ n ∈ other.2, n ∈ added → IsSpan other entry := by
    intro other hother n hn hmem
    rcases hadded n hmem with hself | ⟨start, hstart, hn', hspan⟩
    · have hlt := h.number_lt other hother n hn
      rw [hnew n hself] at hlt
      omega
    · rwa [h.unique other hother start hstart n hn hn']
  refine ⟨?_, ?_, h.one_start_append horder, ?_, ?_, ?_, ?_⟩
  · intro other hother n hn
    rw [List.mem_append, List.mem_singleton] at hother
    rw [hcaptured]
    rcases hother with hother | rfl
    · exact (h.number_lt other hother n hn).trans (Nat.lt_succ_self _)
    · rw [hnew n hn]
      omega
  · intro other hother other' hother' n hn hn'
    rw [List.mem_append, List.mem_singleton] at hother hother'
    rcases hother with hother | rfl
    · rcases hother' with hother' | rfl
      · exact h.unique other hother other' hother' n hn hn'
      · have hlt := h.number_lt other hother n hn
        rw [hnew n hn'] at hlt
        omega
    · rcases hother' with hother' | rfl
      · have hlt := h.number_lt other' hother' n hn'
        rw [hnew n hn] at hlt
        omega
      · rfl
  · intro n hn
    rw [hcaptured]
    rcases hsub n hn with hlive | hmem
    · exact (h.alive_lt n hlive).trans (Nat.lt_succ_self _)
    · rcases hadded n hmem with hself | ⟨start, hstart, hn', -⟩
      · rw [hnew n hself]
        omega
      · exact (h.number_lt start hstart n hn').trans (Nat.lt_succ_self _)
  · intro other hother
    rcases heffect.staged other hother with hstaged | ⟨hsame, hphase, hkey⟩
    · obtain ⟨hmem, hrest⟩ := h.staged other hstaged
      exact ⟨List.mem_append_left _ hmem, hrest⟩
    · rw [hsame]
      refine ⟨List.mem_append_right _ (List.mem_singleton.2 ?_), hphase, hkey⟩
      rw [hobservation, ← hnumber]
  · rintro start hmem hphase hkey ⟨n, hn, hlive⟩
    rw [List.mem_append, List.mem_singleton] at hmem
    rcases hmem with hmem | rfl
    · rcases hsub n hlive with hlive | hadd
      · obtain ⟨terminal, hterminal, hspan⟩ := h.ended start hmem hphase hkey ⟨n, hn, hlive⟩
        exact ⟨terminal, List.mem_append_left _ hterminal, hspan⟩
      · exact ⟨entry, by simp, hold start hmem n hn hadd⟩
    · rcases hsub n hlive with hlive | hadd
      · exact absurd hlive (hfresh n hn)
      · exact absurd hadd (hstart hphase hkey n hn)
  · intro start hmem terminal hmem' hspan
    obtain ⟨hphase, hterminal, key, hkey, hkey'⟩ := hspan
    rw [List.mem_append, List.mem_singleton] at hmem hmem'
    rcases hmem with hmem | rfl
    · rcases hmem' with hmem' | rfl
      · -- both are old: neither gives way, and neither is added
        have hhalf : ∀ n, start.2 = some n ∨ terminal.2 = some n →
            ∀ oldest ∈ gone, oldest.index ≠ n := by
          rintro n hn oldest holdest rfl
          exact hgone oldest holdest ⟨start, hmem, terminal, hmem',
            ⟨hphase, hterminal, key, hkey, hkey'⟩, hn⟩
        have hnone : ∀ n ∈ start.2, n ∉ added := by
          intro n hn hadd
          obtain ⟨-, hends, key', hkeyStart, hkeyEntry⟩ := hold start hmem n hn hadd
          rw [hkey, Option.some.injEq] at hkeyStart
          exact (horder terminal hmem' key' (hkeyStart ▸ hkey') hkeyEntry).2 hends hterminal
        have hnone' : ∀ n ∈ terminal.2, n ∉ added := by
          intro n hn hadd
          have hstarted := (hold terminal hmem' n hn hadd).1
          rw [hstarted] at hterminal
          exact hterminal
        have htogether := h.together start hmem terminal hmem' ⟨hphase, hterminal, key, hkey, hkey'⟩
        constructor
        · rintro ⟨n, hn, hlive⟩
          obtain ⟨m, hm, hlive'⟩ := htogether.1
            ⟨n, hn, (hsub n hlive).resolve_right (hnone n hn)⟩
          exact ⟨m, hm, hkept m hlive' (hhalf m (.inr hm))⟩
        · rintro ⟨n, hn, hlive⟩
          obtain ⟨m, hm, hlive'⟩ := htogether.2
            ⟨n, hn, (hsub n hlive).resolve_right (hnone' n hn)⟩
          exact ⟨m, hm, hkept m hlive' (hhalf m (.inl hm))⟩
      · -- the span ends with the entry: its start was not on its way
        have hspan : IsSpan start terminal := ⟨hphase, hterminal, key, hkey, hkey'⟩
        have hnone : ∀ n ∈ start.2, n ∉ log.state.alive := by
          intro n hn hlive
          obtain ⟨other, hother, -, hends, key', hkeyStart, hkeyOther⟩ :=
            h.ended start hmem hphase (by rw [hkey]; exact Option.some_ne_none key) ⟨n, hn, hlive⟩
          rw [hkey, Option.some.injEq] at hkeyStart
          exact (horder other hother key' hkeyOther (hkeyStart ▸ hkey')).2 hterminal hends
        constructor
        · rintro ⟨n, hn, hlive⟩
          obtain ⟨m, hm, hadd⟩ := (hboth start hmem hspan).1
            ⟨n, hn, (hsub n hlive).resolve_left (hnone n hn)⟩
          exact ⟨m, hm, heffect.added m hadd⟩
        · rintro ⟨n, hn, hlive⟩
          obtain ⟨m, hm, hadd⟩ := (hboth start hmem hspan).2
            ⟨n, hn, (hsub n hlive).resolve_left (hfresh n hn)⟩
          exact ⟨m, hm, heffect.added m hadd⟩
    · rcases hmem' with hmem' | rfl
      · -- a span does not start after it has ended
        have hoccurred := (horder terminal hmem' key hkey' hkey).1 hphase
        rw [hoccurred] at hterminal
        exact hterminal.elim
      · rw [hphase] at hterminal

/-- An observation that is not captured is noted. -/
theorem Invariant.passed {log : SpanLog} (h : log.Invariant) {observation : Observation}
    (horder : log.InOrder observation) :
    (⟨log.state, log.recorded ++ [(observation, none)]⟩ : SpanLog).Invariant where
  number_lt := by
    intro entry hentry n hn
    rw [List.mem_append, List.mem_singleton] at hentry
    rcases hentry with hentry | rfl
    · exact h.number_lt entry hentry n hn
    · cases hn
  unique := by
    intro entry hentry other hother n hn hn'
    rw [List.mem_append, List.mem_singleton] at hentry hother
    rcases hentry with hentry | rfl
    · rcases hother with hother | rfl
      · exact h.unique entry hentry other hother n hn hn'
      · cases hn'
    · cases hn
  one_start := h.one_start_append horder
  alive_lt := h.alive_lt
  staged := fun entry hentry =>
    ⟨List.mem_append_left _ (h.staged entry hentry).1, (h.staged entry hentry).2⟩
  ended := by
    rintro start hmem hphase hkey ⟨n, hn, hlive⟩
    rw [List.mem_append, List.mem_singleton] at hmem
    rcases hmem with hmem | rfl
    · obtain ⟨terminal, hterminal, hspan⟩ := h.ended start hmem hphase hkey ⟨n, hn, hlive⟩
      exact ⟨terminal, List.mem_append_left _ hterminal, hspan⟩
    · cases hn
  together := by
    rintro start hmem terminal hmem' ⟨hphase, hterminal, key, hkey, hkey'⟩
    rw [List.mem_append, List.mem_singleton] at hmem hmem'
    rcases hmem with hmem | rfl
    · rcases hmem' with hmem' | rfl
      · exact h.together start hmem terminal hmem' ⟨hphase, hterminal, key, hkey, hkey'⟩
      · constructor
        · intro hlive
          obtain ⟨other, hother, -, hends, key', hkeyStart, hkeyOther⟩ :=
            h.ended start hmem hphase (by rw [hkey]; exact Option.some_ne_none key) hlive
          rw [hkey, Option.some.injEq] at hkeyStart
          exact absurd hends
            ((horder other hother key' hkeyOther (hkeyStart ▸ hkey')).2 hterminal)
        · rintro ⟨n, hn, -⟩
          cases hn
    · rcases hmem' with hmem' | rfl
      · have hoccurred := (horder terminal hmem' key hkey' hkey).1 hphase
        rw [hoccurred] at hterminal
        exact hterminal.elim
      · rw [hphase] at hterminal

/-! ### Recording -/

section Accept

variable {options : TheoriaOptions} {log : SpanLog} {observation : Observation}

/-- The entry of an observation that is captured. -/
def newEntry (log : SpanLog) (observation : Observation) : Observation × Option ℕ :=
  (observation, some log.state.account.captured)

/-- Those that give way are no halves. -/
theorem KeepsHalves.of_le (hkeeps : log.KeepsHalves options) {gone : ℕ}
    (hgone : gone ≤ log.state.queuedCount + 1 - options.pendingLimit)
    (hpolicy : 0 < gone → options.policy = .dropOldest) :
    ∀ oldest ∈ log.state.queue.take gone, ¬ log.IsHalf oldest := by
  intro oldest holdest
  have hpos : 0 < gone := by
    by_contra hzero
    have hgone : gone = 0 := by omega
    simp [hgone] at holdest
  exact hkeeps (hpolicy hpos) oldest (List.take_subset_take_left _ hgone holdest)

/-- Nothing is added. -/
theorem Invariant.acceptNone (h : log.Invariant) (horder : log.InOrder observation)
    {t : TheoriaState} {gone : List Captured}
    (heffect : Effect log.state.counted t (log.state.capture observation) gone [])
    (hgone : ∀ oldest ∈ gone, ¬ log.IsHalf oldest) :
    (⟨t, log.recorded ++ [log.newEntry observation]⟩ : SpanLog).Invariant :=
  h.recorded heffect rfl rfl rfl horder hgone (by simp) (by simp) (by simp)

/-- An observation that neither starts nor ends a span that has been recorded is queued. -/
theorem Invariant.acceptOne (h : log.Invariant) (horder : log.InOrder observation)
    {t : TheoriaState} {gone : List Captured}
    (heffect : Effect log.state.counted t (log.state.capture observation) gone
      [log.state.account.captured])
    (hgone : ∀ oldest ∈ gone, ¬ log.IsHalf oldest)
    (hnone : ∀ start ∈ log.recorded, ¬ IsSpan start (observation, none))
    (hstart : observation.phase = .started →
      observationSpanKey observation = none) :
    (⟨t, log.recorded ++ [log.newEntry observation]⟩ : SpanLog).Invariant := by
  refine h.recorded heffect rfl rfl rfl horder hgone ?_ ?_ ?_
  · intro n hn
    rw [List.mem_singleton] at hn
    exact .inl (by rw [hn, newEntry, Option.mem_some_iff])
  · intro start hmem hspan
    exact absurd hspan (hnone start hmem)
  · intro hphase hkey
    exact absurd (hstart hphase) hkey

/-- The end of a span is queued with its start. -/
theorem Invariant.acceptBoth (h : log.Invariant) (horder : log.InOrder observation)
    (hterminal : observation.phase.IsTerminal) {key : String}
    (hkey : observationSpanKey observation = some key) {started : Captured}
    (hstaged : (key, started) ∈ log.state.pendingStarts.entries) {t : TheoriaState}
    {gone : List Captured}
    (heffect : Effect log.state.counted t (log.state.capture observation) gone
      [started.index, log.state.account.captured])
    (hgone : ∀ oldest ∈ gone, ¬ log.IsHalf oldest) :
    (⟨t, log.recorded ++ [log.newEntry observation]⟩ : SpanLog).Invariant := by
  obtain ⟨hrecorded, hphase, hkeyStart⟩ := h.staged _ hstaged
  refine h.recorded heffect rfl rfl rfl horder hgone ?_ ?_ ?_
  · intro n hn
    rw [List.mem_cons, List.mem_singleton] at hn
    rcases hn with rfl | rfl
    · exact .inr ⟨_, hrecorded, rfl, hphase, hterminal, key, hkeyStart, hkey⟩
    · exact .inl rfl
  · rintro start hmem ⟨hphase', -, key', hkey', hkeyEntry⟩
    -- the span has one start, and it is the one that was staged
    have hsame : key' = key := by
      have hboth := hkeyEntry.symm.trans hkey
      exact Option.some.inj hboth
    have hstart := h.one_start start hmem _ hrecorded hphase' hphase key (hsame ▸ hkey') hkeyStart
    rw [hstart]
    exact iff_of_true ⟨_, rfl, by simp⟩ ⟨_, rfl, by simp⟩
  · intro hphase'
    replace hphase' : observation.phase = .started := hphase'
    rw [hphase'] at hterminal
    exact hterminal.elim

/-- The end of a span is rejected, or queued with its start. -/
theorem Invariant.endSpan (h : log.Invariant) (hlimit : 1 ≤ options.pendingLimit) {minimum : ℚ}
    (hminimum : options.minimumDurationMilliseconds = some minimum)
    (horder : log.InOrder observation) (hterminal : observation.phase.IsTerminal)
    (hunbroken : IsLong options observation →
      log.KeepsStart options observation ∧ log.KeepsHalves options) :
    (⟨log.state.counted.endSpan options minimum (observationSpanKey observation)
        (log.state.capture observation), log.recorded ++ [log.newEntry observation]⟩ :
      SpanLog).Invariant := by
  have hfewer := fewer_unstage log.state.counted (observationSpanKey observation)
  obtain ⟨halive, hqueue⟩ :=
    alive_unstage log.state.counted (observationSpanKey observation)
  have hnostart : observation.phase ≠ .started := by
    intro hphase
    rw [hphase] at hterminal
    exact hterminal
  rw [TheoriaState.endSpan]
  split_ifs with hshort
  · refine h.acceptNone horder (TheoriaState.Effect.of_alive_eq ?_ ?_ _) (by simp)
    · exact halive
    · exact ⟨hfewer.captured, hfewer.staged⟩
  · obtain ⟨hkeepsStart, hkeepsHalves⟩ := hunbroken (by
      intro limit hmem
      rw [hminimum, Option.mem_some_iff] at hmem
      rw [← hmem]
      exact not_lt.1 hshort)
    cases hstarted : (observationSpanKey observation).bind log.state.counted.pendingStarts.get with
    | none =>
      have hnone : ∀ start ∈ log.recorded, ¬ IsSpan start (observation, none) := by
        intro start hmem hspan
        obtain ⟨-, -, key, -, hkey⟩ := id hspan
        refine (hkeepsStart start hmem hspan).2 key hkey ?_
        replace hkey : observationSpanKey observation = some key := hkey
        rw [hkey, Option.bind_some] at hstarted
        exact hstarted
      have hcount : (log.state.counted.unstage (observationSpanKey observation)).queuedCount
          ≤ log.state.queuedCount := by
        cases hkey : observationSpanKey observation with
        | none => exact le_rfl
        | some key =>
          have hentries : (log.state.pendingStarts.delete key).size
              ≤ log.state.pendingStarts.size := List.length_filter_le _ _
          simp only [unstage, queuedCount, counted]
          omega
      rcases effect_enqueue
          (s := log.state.counted.unstage (observationSpanKey observation))
          (show [log.state.capture observation].length ≤ options.pendingLimit from hlimit)
          (log.state.capture observation) with heffect | ⟨gone, hgone, hpolicy, heffect⟩
      · exact h.acceptNone horder (heffect.of_fewer halive hfewer) (by simp)
      · refine h.acceptOne horder (heffect.of_fewer halive hfewer) ?_ hnone
          (fun hphase => absurd hphase hnostart)
        rw [hqueue]
        refine hkeepsHalves.of_le ?_ hpolicy
        simp only [List.length_singleton] at hgone
        omega
    | some started =>
      obtain ⟨key, hkey, hget⟩ := Option.bind_eq_some_iff.1 hstarted
      have hentry : (key, started) ∈ log.state.pendingStarts.entries :=
        OrderedMap.get_eq_some_iff.1 hget
      obtain ⟨hrecorded, hphase, hkeyStart⟩ := h.staged _ hentry
      have htwo : 2 ≤ options.pendingLimit :=
        (hkeepsStart _ hrecorded ⟨hphase, hterminal, key, hkeyStart, hkey⟩).1
      have hcount : (log.state.counted.unstage (observationSpanKey observation)).queuedCount + 1
          = log.state.queuedCount := by
        have hsize := size_delete (s := log.state) hget
        rw [hkey]
        simp only [unstage, queuedCount, counted]
        omega
      rcases effect_enqueue
          (s := log.state.counted.unstage (observationSpanKey observation))
          (show [started, log.state.capture observation].length ≤ options.pendingLimit from htwo)
          (log.state.capture observation) with heffect | ⟨gone, hgone, hpolicy, heffect⟩
      · exact h.acceptNone horder (heffect.of_fewer halive hfewer) (by simp)
      · refine h.acceptBoth horder hterminal hkey hentry (heffect.of_fewer halive hfewer) ?_
        rw [hqueue]
        refine hkeepsHalves.of_le ?_ hpolicy
        simp only [List.length_cons, List.length_nil] at hgone
        omega

/-- **An observation that is captured is taken in.** -/
theorem Invariant.accept (h : log.Invariant) (hlimit : 1 ≤ options.pendingLimit) {minimum : ℚ}
    (hminimum : options.minimumDurationMilliseconds = some minimum)
    (horder : log.InOrder observation)
    (hterminal : observation.phase.IsTerminal → IsLong options observation →
      log.KeepsStart options observation ∧ log.KeepsHalves options)
    (hstarted : observation.phase = .started → log.KeepsHalves options) :
    (⟨log.state.counted.accept options (log.state.capture observation),
      log.recorded ++ [log.newEntry observation]⟩ : SpanLog).Invariant := by
  have hnone : ∀ start, observation.phase = .started →
      ¬ IsSpan start (observation, none) := by
    rintro start hphase ⟨-, hends, -⟩
    replace hends : observation.phase.IsTerminal := hends
    rw [hphase] at hends
    exact hends
  unfold TheoriaState.accept
  rw [hminimum]
  dsimp only
  split
  · next key hphase hkey =>
      obtain ⟨gone, hgone, hpolicy, heffect⟩ := effect_stageStart
        (s := log.state.counted) hphase hkey
      exact h.acceptNone horder heffect ((hstarted hphase).of_le hgone hpolicy)
  · next hphase hkey =>
      rcases effect_enqueue (s := log.state.counted)
          (show [log.state.capture observation].length ≤ options.pendingLimit from hlimit)
          (log.state.capture observation) with heffect | ⟨gone, hgone, hpolicy, heffect⟩
      · exact h.acceptNone horder heffect (by simp)
      · exact h.acceptOne horder heffect ((hstarted hphase).of_le hgone hpolicy)
          (fun start _ => hnone start hphase) (fun _ => hkey)
  · next hphase =>
      have hends : observation.phase.IsTerminal := by
        rw [show observation.phase = .completed from hphase]
        trivial
      exact h.endSpan hlimit hminimum horder hends (hterminal hends)
  · next hphase =>
      have hends : observation.phase.IsTerminal := by
        rw [show observation.phase = .failed from hphase]
        trivial
      exact h.endSpan hlimit hminimum horder hends (hterminal hends)
  · have hfewer : Fewer log.state.counted
        (log.state.counted.reject [log.state.capture observation]) :=
      ⟨rfl, fun _ hentry => hentry⟩
    have halive : (log.state.counted.reject [log.state.capture observation]).alive
        = log.state.counted.alive := rfl
    exact h.acceptNone horder (TheoriaState.Effect.of_alive_eq halive hfewer _)
      fun _ hmem => absurd hmem List.not_mem_nil

end Accept

/-! ### Steps -/

variable {bucket : String → ℚ} {options : TheoriaOptions}

theorem alive_drainLoop (s : TheoriaState) : (s.drainLoop options).1.alive = s.alive ∧
    Fewer s (s.drainLoop options).1 := by
  unfold drainLoop
  split
  · exact ⟨rfl, TheoriaState.Fewer.refl s⟩
  · exact alive_flush options s

/-- What the steps do that record nothing. -/
theorem alive_of_step {s t : TheoriaState} {label : TheoriaLabel}
    (hlabel : ∀ observation, label ≠ .record observation)
    (hinserted : label ≠ .inserted false)
    (hstep : s.step bucket options label = some t) :
    t.alive = s.alive ∧ Fewer s t := by
  cases does_of_step hstep with
  | record observation => exact absurd rfl (hlabel observation)
  | fire htimer =>
    obtain ⟨halive, hfewer⟩ := alive_flush options { s with flushTimer := false }
    exact ⟨halive, hfewer.captured, hfewer.staged⟩
  | @inserted batch succeeds hflush =>
    cases succeeds with
    | false => exact absurd rfl hinserted
    | true =>
      refine ⟨?_, rfl, fun _ hentry => hentry⟩
      have hbatch : (s.writeSucceeds batch).batch = [] := by
        simp only [writeSucceeds, TheoriaState.batch]
        split_ifs <;> rfl
      rw [insertSettles, alive, hbatch, alive,
        TheoriaState.batch, hflush]
      simp [writeSucceeds]
  | @pruned batch succeeds hflush =>
    refine ⟨?_, ?_, ?_⟩
    · cases succeeds <;> simp [pruneSettles, writeFails,
        alive, TheoriaState.batch, hflush]
    · cases succeeds <;> rfl
    · cases succeeds <;> exact fun _ hentry => hentry
  | settle hflush =>
    have hidle : ({ s with flushPromise := none, drains := s.drains.map .wake } :
        TheoriaState).alive = s.alive := by
      simp [alive, batch, hflush]
    simp only [settleFlush]
    split
    · exact ⟨hidle, rfl, fun _ hentry => hentry⟩
    · obtain ⟨halive, hfewer⟩ := alive_scheduleFlush
        { s with flushPromise := none, drains := s.drains.map .wake }
      exact ⟨halive.trans hidle, hfewer.captured, hfewer.staged⟩
  | drain disposes =>
    obtain ⟨halive, hfewer⟩ := alive_drainLoop s.clearStarts
    refine ⟨halive, hfewer.captured, ?_⟩
    intro entry hentry
    exact absurd (hfewer.staged entry hentry) List.not_mem_nil
  | @resume i call hcall hphase =>
    obtain ⟨halive, hfewer⟩ := alive_drainLoop s
    exact ⟨halive, hfewer.captured, hfewer.staged⟩
  | close hcall hphase hdisposes hopen => exact ⟨rfl, rfl, fun _ hentry => hentry⟩

theorem Invariant.quiet {log : SpanLog} (h : log.Invariant) {t : TheoriaState}
    {label : TheoriaLabel} (hlabel : ∀ observation, label ≠ .record observation)
    (hinserted : label ≠ .inserted false)
    (hstate : log.state.step bucket options label = some t) :
    (⟨t, log.recorded⟩ : SpanLog).Invariant := by
  obtain ⟨halive, hfewer⟩ := alive_of_step hlabel hinserted hstate
  exact h.unrecorded halive hfewer

/-- **Every step keeps the invariant**, if it breaks no span. -/
theorem Invariant.step {log next : SpanLog} {label : TheoriaLabel} (h : log.Invariant)
    (hlimit : 1 ≤ options.pendingLimit) (hminimum : options.minimumDurationMilliseconds ≠ none)
    (hassumed : log.Assumed label) (hunbroken : log.Unbroken bucket options label)
    (hstep : log.step bucket options label = some next) : next.Invariant := by
  obtain ⟨t, hstate, rfl⟩ := Option.map_eq_some_iff.1 hstep
  cases label with
  | record observation =>
    obtain ⟨minimum, hminimum⟩ := Option.ne_none_iff_exists'.1 hminimum
    have hrecord : t = log.state.record bucket options observation :=
      (Option.some.inj hstate).symm
    rw [hrecord, noted, record, numberOf]
    by_cases hcaptured : log.state.pool = true ∧
        shouldCaptureBase bucket options observation = true
    · rw [if_pos hcaptured, if_pos hcaptured]
      obtain ⟨hterminal, hstarted⟩ := hunbroken (by simp [numberOf, hcaptured])
      exact h.accept hlimit hminimum hassumed hterminal hstarted
    · rw [if_neg hcaptured, if_neg hcaptured]
      exact h.passed hassumed
  | inserted succeeds =>
    obtain rfl : succeeds = true := hassumed
    exact h.quiet (by simp) (by simp) hstate
  | fire => exact h.quiet (by simp) (by simp) hstate
  | pruned succeeds => exact h.quiet (by simp) (by simp) hstate
  | settle => exact h.quiet (by simp) (by simp) hstate
  | drain disposes => exact h.quiet (by simp) (by simp) hstate
  | resume i => exact h.quiet (by simp) (by simp) hstate
  | close i => exact h.quiet (by simp) (by simp) hstate

/-! ### Checking a run -/

instance (start terminal : Observation × Option ℕ) : Decidable (IsSpan start terminal) :=
  decidable_of_iff (start.1.phase = .started ∧ terminal.1.phase.IsTerminal ∧
    observationSpanKey start.1 = observationSpanKey terminal.1 ∧
      (observationSpanKey start.1).isSome = true) <| by
    rw [IsSpan, Option.isSome_iff_exists]
    refine and_congr_right' (and_congr_right' ?_)
    constructor
    · rintro ⟨heq, key, hkey⟩
      exact ⟨key, hkey, heq ▸ hkey⟩
    · rintro ⟨key, hkey, hkey'⟩
      exact ⟨hkey.trans hkey'.symm, key, hkey⟩

instance (log : SpanLog) (observation : Observation) : Decidable (log.InOrder observation) :=
  decidable_of_iff (∀ entry ∈ log.recorded, (observationSpanKey entry.1).isSome = true →
    observationSpanKey entry.1 = observationSpanKey observation →
      (observation.phase = .started →
        entry.1.phase = .occurred) ∧
        (observation.phase.IsTerminal → ¬ entry.1.phase.IsTerminal)) <| by
    refine forall₂_congr fun entry _ => ?_
    constructor
    · intro h key hkey hkey'
      exact h (by rw [hkey]; rfl) (hkey.trans hkey'.symm)
    · intro h hsome heq
      obtain ⟨key, hkey⟩ := Option.isSome_iff_exists.1 hsome
      exact h key hkey (heq ▸ hkey)

instance (log : SpanLog) (label : TheoriaLabel) : Decidable (log.Assumed label) := by
  refine label.casesOn ?_ ?_ ?_ ?_ ?_ ?_ ?_ ?_ <;> intros <;> unfold Assumed <;> infer_instance

instance (log : SpanLog) (captured : Captured) : Decidable (log.IsHalf captured) := by
  unfold IsHalf
  infer_instance

instance (observation : Observation) : Decidable (IsLong options observation) := by
  unfold IsLong
  infer_instance

instance (log : SpanLog) (observation : Observation) :
    Decidable (log.KeepsStart options observation) :=
  decidable_of_iff (∀ start ∈ log.recorded, IsSpan start (observation, none) →
    2 ≤ options.pendingLimit ∧ ∀ key ∈ observationSpanKey observation,
      (log.state.pendingStarts.get key).isSome = true) <| by
    simp only [KeepsStart, Option.isSome_iff_ne_none]

instance (log : SpanLog) : Decidable (log.KeepsHalves options) := by
  unfold KeepsHalves
  infer_instance

instance (log : SpanLog) (label : TheoriaLabel) :
    Decidable (log.Unbroken bucket options label) := by
  refine label.casesOn ?_ ?_ ?_ ?_ ?_ ?_ ?_ ?_ <;> intros <;> unfold Unbroken <;> infer_instance

end SpanLog

/-! ### The promise -/

open SpanLog

/-- **Both ends of a span are persisted, or neither is**: in every run in which a long span ends
while its start is staged, and no half of a span gives way to another observation. -/
theorem spans_kept_together (bucket : String → ℚ) {options : TheoriaOptions}
    (hvalid : validateCapture options = .ok ())
    (hminimum : options.minimumDurationMilliseconds ≠ none) {labels : List TheoriaLabel}
    {log : SpanLog}
    (hrun : Transition.Run (SpanLog.step bucket options)
      (fun log label => log.Assumed label ∧ log.Unbroken bucket options label)
      .initial labels log) (hdrained : log.IsDrained) : log.KeepsSpans := by
  have hlimit := (limits_of_validateCapture hvalid).1
  have h : log.Invariant := hrun.invariant (fun _ _ _ h hguard hstep =>
    h.step hlimit hminimum hguard.1 hguard.2 hstep) SpanLog.invariant_initial
  exact h.keepsSpans hdrained

/-- A span that ends late, and one that ends soon. -/
def twoSpans : List TheoriaLabel :=
  [.record (spanObservation "a" .started none),
    .record (spanObservation "b" .started none),
    .record (spanObservation "a" .completed (some 50)),
    .record (spanObservation "b" .completed (some 5)),
    .inserted true, .settle, .drain true]

theorem twoSpans_kept_together :
    ∃ log : SpanLog, log.KeepsSpans ∧ log.state.account.persisted = [0, 2] := by
  have hrun : ∃ log, Transition.runGuarded (SpanLog.step (fun _ => 0) spanOptions)
      (fun log label => log.Assumed label ∧ log.Unbroken (fun _ => 0) spanOptions label)
        .initial twoSpans = some log ∧ log.IsDrained ∧
          log.state.account.persisted = [0, 2] := ⟨_, rfl, ⟨rfl, rfl⟩, rfl⟩
  obtain ⟨log, hrun, hdrained, hpersisted⟩ := hrun
  exact ⟨log, spans_kept_together (fun _ => 0) rfl (by simp [spanOptions])
    (Transition.Run.of_runGuarded hrun) hdrained, hpersisted⟩

/-- Four spans start, for three of which there is room, the first ends late, and the recorder is
drained. -/
def crowdedRun : List TheoriaLabel :=
  (["a", "b", "c", "d"].map fun spanId =>
    .record (spanObservation spanId .started none)) ++
  [.record (spanObservation "a" .completed (some 50)),
    .drain false, .inserted true, .settle,
    .resume 0]

/-- **An end in the table without its start**: the first start has given way to the last. -/
theorem end_kept_alone :
    ¬ ∀ (bucket : String → ℚ) (options : TheoriaOptions) (labels : List TheoriaLabel)
      (log : SpanLog), validateCapture options = .ok () →
        options.minimumDurationMilliseconds ≠ none →
          Transition.Run (SpanLog.step bucket options) (fun log label => log.Assumed label)
            .initial labels log → log.IsDrained → log.KeepsSpans := by
  intro hclaim
  have hrun : ∃ log, Transition.runGuarded (SpanLog.step (fun _ => 0) spanOptions)
      (fun log label => log.Assumed label) .initial crowdedRun = some log ∧
        log.IsDrained ∧ log.state.account.persisted = [4] ∧
          log.recorded[0]? = some (spanObservation "a" .started none, some 0) ∧
            log.recorded[4]? =
              some (spanObservation "a" .completed (some 50), some 4) :=
    ⟨_, rfl, ⟨rfl, rfl⟩, rfl, rfl, rfl⟩
  obtain ⟨log, hrun, hdrained, hpersisted, hstart, hterminal⟩ := hrun
  have hspans := hclaim (fun _ => 0) spanOptions crowdedRun log rfl (by simp [spanOptions])
    (Transition.Run.of_runGuarded hrun) hdrained
  obtain ⟨n, hn, hmem⟩ := (hspans _ (List.mem_of_getElem? hstart) _
    (List.mem_of_getElem? hterminal) ⟨rfl, trivial, _, rfl, rfl⟩).2 ⟨4, rfl, by simp [hpersisted]⟩
  rw [hpersisted] at hmem
  cases hn
  simp at hmem

end Doxa
