/-
**Every observation is accounted for.**

Observations move from place to place in six operations of the recorder, and the counters move with
them.  Each operation is proved to take them over from those that have just arrived: the places of
the recorder and the arrivals together hold every observation that has been captured once.

A prune that fails counts as dropped what is persisted already, and a staged start that is replaced
is gone without a trace.  Nor does a `drain` return when the pool is let go over a queue that is not
empty: it asks for a flush over and over again.

Main results:

* `Doxa.observations_accounted` — **as long as none of the three happens, every observation is in
  one place, the counters agree, what is held back is bounded, and every call of `drain` returns**;
* `Doxa.persisted_dropped` — a batch that is both persisted and dropped.
-/

import Doxa.TheoriaRecorder

set_option relaxedAutoImplicit false
set_option autoImplicit false

namespace Doxa

/-! ### Options that pass -/

theorem le_num_of_validateCount {name : String} {value : Option ℚ} {fallback : ℚ}
    (h : validateCount name value = .ok ()) (hfallback : 1 ≤ fallback.num) :
    1 ≤ (value.getD fallback).num := by
  cases value with
  | none => exact hfallback
  | some value =>
    simp only [validateCount, refuseIf, Option.any_some] at h
    split at h
    · cases h
    · next hvalid =>
        have hpos : isSafeInteger value = true ∧ 0 < value := by simpa using hvalid
        exact Rat.num_pos.2 hpos.2

/-- The two limits are at least one. -/
theorem limits_of_validateCapture {options : TheoriaOptions}
    (h : validateCapture options = .ok ()) :
    1 ≤ options.pendingLimit ∧ 1 ≤ options.batchLimit := by
  obtain ⟨-, h⟩ := Except.bind_eq_ok.1 h
  obtain ⟨-, h⟩ := Except.bind_eq_ok.1 h
  obtain ⟨-, h⟩ := Except.bind_eq_ok.1 h
  obtain ⟨hpending, h⟩ := Except.bind_eq_ok.1 h
  obtain ⟨hbatch, -⟩ := Except.bind_eq_ok.1 h
  have hpending := le_num_of_validateCount hpending (show 1 ≤ (10000 : ℚ).num by decide)
  have hbatch := le_num_of_validateCount hbatch (show 1 ≤ (100 : ℚ).num by decide)
  simp only [TheoriaOptions.pendingLimit, TheoriaOptions.batchLimit]
  omega

namespace TheoriaState

/-! ### The places of an observation -/

variable {s t : TheoriaState}

theorem count_places (s : TheoriaState) (n : ℕ) :
    s.places.count n =
      (s.queue.map Captured.index).count n + (s.staged.map Captured.index).count n +
        (s.batch.map Captured.index).count n + s.account.persisted.count n +
          s.account.dropped.count n + s.account.rejected.count n := by
  simp only [places, List.map_append, List.count_append]

/-- The places of the recorder and those that have just arrived hold every observation once; the
counters agree. -/
structure Sound (s : TheoriaState) (arriving : List Captured) : Prop where
  places : ∀ n, s.places.count n + (arriving.map Captured.index).count n =
    (List.range s.account.captured).count n
  persisted : s.persisted = s.account.persisted.length
  dropped : s.dropped = s.account.dropped.length
  keys : s.pendingStarts.get "" = none

/-- What no operation on observations changes: the calls of `drain`, the pool, and a flush that is
going on. -/
structure Frame (s t : TheoriaState) : Prop where
  drains : t.drains = s.drains
  pool : t.pool = s.pool
  flushing : s.flushPromise ≠ none → t.flushPromise = s.flushPromise

theorem Frame.refl (s : TheoriaState) : Frame s s := ⟨rfl, rfl, fun _ => rfl⟩

theorem Frame.trans {u : TheoriaState} (h : Frame s t) (h' : Frame t u) : Frame s u where
  drains := h'.drains.trans h.drains
  pool := h'.pool.trans h.pool
  flushing := fun hflush => by
    have hsame := h.flushing hflush
    exact (h'.flushing (by rwa [hsame])).trans hsame

/-! ### Dropping and rejecting -/

variable {observations arriving : List Captured}

theorem Sound.drop (h : s.Sound (observations ++ arriving)) :
    (s.drop observations).Sound arriving where
  places := fun n => by
    have hplaces := h.places n
    rw [count_places, List.map_append, List.count_append] at hplaces
    rw [count_places]
    simp only [TheoriaState.drop, staged, batch, List.count_append] at hplaces ⊢
    omega
  persisted := h.persisted
  dropped := by simp [TheoriaState.drop, h.dropped]
  keys := h.keys

theorem Sound.reject (h : s.Sound (observations ++ arriving)) :
    (s.reject observations).Sound arriving where
  places := fun n => by
    have hplaces := h.places n
    rw [count_places, List.map_append, List.count_append] at hplaces
    rw [count_places]
    simp only [TheoriaState.reject, staged, batch, List.count_append] at hplaces ⊢
    omega
  persisted := h.persisted
  dropped := h.dropped
  keys := h.keys

theorem frame_drop (s : TheoriaState) (observations : List Captured) :
    Frame s (s.drop observations) := ⟨rfl, rfl, fun _ => rfl⟩

theorem queuedCount_drop (s : TheoriaState) (observations : List Captured) :
    (s.drop observations).queuedCount = s.queuedCount := rfl

/-- An observation that has been taken from the starts has just arrived. -/
theorem Sound.delete (h : s.Sound arriving) {key : String} {observation : Captured}
    (hget : s.pendingStarts.get key = some observation) :
    ({ s with pendingStarts := s.pendingStarts.delete key } : TheoriaState).Sound
      (observation :: arriving) where
  places := fun n => by
    have hplaces := h.places n
    have hperm := ((OrderedMap.perm_delete hget).map fun entry => entry.2.index).count_eq n
    rw [count_places] at hplaces ⊢
    simp only [staged, batch, List.map_map, List.map_cons, List.count_cons, Function.comp_def]
      at hplaces hperm ⊢
    omega
  persisted := h.persisted
  dropped := h.dropped
  keys := by rw [OrderedMap.get_delete, h.keys, ite_self]

theorem size_delete {key : String} {observation : Captured}
    (hget : s.pendingStarts.get key = some observation) :
    (s.pendingStarts.delete key).size + 1 = s.pendingStarts.size := by
  have hlength := (OrderedMap.perm_delete hget).length_eq
  simp only [OrderedMap.size, List.length_cons] at hlength ⊢
  omega

/-- What dropping the oldest does: it was there, it is dropped, and there is room for one more. -/
theorem Sound.dropOldest (h : s.Sound arriving) (hcount : 0 < s.queuedCount) :
    s.dropOldest.Sound arriving ∧ s.dropOldest.queuedCount + 1 = s.queuedCount ∧
      Frame s s.dropOldest := by
  cases hqueue : s.queue with
  | cons oldest queue =>
    have hdrop : s.dropOldest = { s with queue := queue }.drop [oldest] := by
      rw [TheoriaState.dropOldest, hqueue]
    have htaken : ({ s with queue := queue } : TheoriaState).Sound ([oldest] ++ arriving) :=
      { h with
        places := fun n => by
          have hplaces := h.places n
          rw [count_places, hqueue] at hplaces
          rw [count_places]
          simp only [staged, batch, List.map_cons, List.count_cons, List.cons_append,
            List.nil_append] at hplaces ⊢
          omega }
    rw [hdrop]
    refine ⟨htaken.drop, ?_, rfl, rfl, fun _ => rfl⟩
    rw [queuedCount_drop]
    simp only [queuedCount, hqueue, List.length_cons]
    omega
  | nil =>
    cases hstarts : s.pendingStarts.entries with
    | nil => simp [queuedCount, hqueue, OrderedMap.size, hstarts] at hcount
    | cons first rest =>
      obtain ⟨key, oldest⟩ := first
      have hget : s.pendingStarts.get key = some oldest :=
        OrderedMap.get_eq_some_iff.2 (by simp [hstarts])
      have hkey : key ≠ "" := by
        rintro rfl
        rw [h.keys] at hget
        cases hget
      have hdrop : s.dropOldest =
          { s with pendingStarts := s.pendingStarts.delete key }.drop [oldest] := by
        simp only [TheoriaState.dropOldest, hqueue, hstarts, if_pos hkey]
      rw [hdrop]
      refine ⟨(h.delete hget).drop, ?_, rfl, rfl, fun _ => rfl⟩
      have hsize := size_delete hget
      rw [queuedCount_drop]
      simp only [queuedCount]
      omega

/-- The oldest are dropped until there is room, if there can be. -/
theorem Sound.makeRoom {options : TheoriaOptions} {n : ℕ}
    (hn : n ≤ options.pendingLimit) : ∀ {fuel : ℕ} {s : TheoriaState}, s.Sound arriving →
      s.queuedCount ≤ fuel → (s.makeRoom options n fuel).Sound arriving ∧
        (s.makeRoom options n fuel).queuedCount + n ≤ options.pendingLimit ∧
          Frame s (s.makeRoom options n fuel) := by
  intro fuel
  induction fuel with
  | zero =>
    intro s h hfuel
    exact ⟨h, by rw [TheoriaState.makeRoom]; omega, Frame.refl s⟩
  | succ fuel ih =>
    intro s h hfuel
    rw [TheoriaState.makeRoom]
    by_cases hroom : s.queuedCount + n ≤ options.pendingLimit
    · rw [if_pos hroom]
      exact ⟨h, hroom, Frame.refl s⟩
    · rw [if_neg hroom]
      obtain ⟨hsound, hcount, hframe⟩ := h.dropOldest (by omega)
      obtain ⟨hsound, hlimit, hframe'⟩ := ih hsound (by omega)
      exact ⟨hsound, hlimit, hframe.trans hframe'⟩

/-! ### Flushes -/

theorem queuedCount_scheduleFlush (s : TheoriaState) :
    s.scheduleFlush.queuedCount = s.queuedCount := by
  unfold scheduleFlush
  split <;> rfl

theorem Sound.scheduleFlush (h : s.Sound arriving) : s.scheduleFlush.Sound arriving := by
  unfold TheoriaState.scheduleFlush
  split
  · exact h
  · exact ⟨h.places, h.persisted, h.dropped, h.keys⟩

theorem frame_scheduleFlush (s : TheoriaState) : Frame s s.scheduleFlush := by
  unfold scheduleFlush
  split <;> exact ⟨rfl, rfl, fun _ => rfl⟩

/-- What a flush does: nothing, or it takes a batch from the queue. -/
theorem flush_cases (options : TheoriaOptions) (s : TheoriaState) :
    (s.flush options = s ∧ (s.flushPromise.isSome ∨ s.pool = false ∨ s.queue = [])) ∨
      s.flushPromise = none ∧ s.pool = true ∧ s.queue ≠ [] ∧ s.flush options =
        { s with
          flushTimer := false
          queue := s.queue.drop options.batchLimit
          flushPromise :=
            some (.inserting (s.queue.take options.batchLimit)) } := by
  unfold TheoriaState.flush
  split
  · next h => exact .inl ⟨rfl, h⟩
  · next h => exact .inr (by simpa [not_or] using h)

theorem Sound.flush {options : TheoriaOptions} (h : s.Sound arriving) :
    (s.flush options).Sound arriving := by
  obtain ⟨hsame, -⟩ | ⟨hidle, -, -, hflush⟩ := flush_cases options s
  · rwa [hsame]
  · rw [hflush]
    refine ⟨fun n => ?_, h.persisted, h.dropped, h.keys⟩
    have hplaces := h.places n
    have hbatch : (s.queue.map Captured.index).count n =
        ((s.queue.take options.batchLimit).map Captured.index).count n +
          ((s.queue.drop options.batchLimit).map Captured.index).count n := by
      rw [← List.count_append, ← List.map_append, List.take_append_drop]
    rw [count_places] at hplaces ⊢
    simp only [staged, batch, hidle, List.map_nil, List.count_nil] at hplaces ⊢
    omega

theorem frame_flush (options : TheoriaOptions) (s : TheoriaState) :
    Frame s (s.flush options) := by
  obtain ⟨hsame, -⟩ | ⟨hidle, -, -, hflush⟩ := flush_cases options s
  · rw [hsame]
    exact Frame.refl s
  · rw [hflush]
    exact ⟨rfl, rfl, fun hflushing => absurd hidle hflushing⟩

theorem queuedCount_flush_le (options : TheoriaOptions) (s : TheoriaState) :
    (s.flush options).queuedCount ≤ s.queuedCount := by
  obtain ⟨hsame, -⟩ | ⟨-, -, -, hflush⟩ := flush_cases options s
  · rw [hsame]
  · rw [hflush]
    simp only [queuedCount, List.length_drop]
    omega

/-! ### Observations are recorded -/

/-- What an operation makes of a sound recorder: it has taken in what has arrived, within the bound,
and has left the calls of `drain` alone. -/
structure Takes (options : TheoriaOptions) (s t : TheoriaState) : Prop where
  sound : t.Sound []
  bounded : t.queuedCount ≤ options.pendingLimit
  frame : Frame s t

variable {options : TheoriaOptions}

theorem Sound.push {retained : List Captured} (h : s.Sound retained)
    (hroom : s.queuedCount + retained.length ≤ options.pendingLimit) :
    Takes options s (s.push options retained) := by
  have hpushed : (s.joined retained).Sound [] :=
    { h with
      places := fun n => by
        have hplaces := h.places n
        rw [count_places] at hplaces ⊢
        simp only [joined, staged, batch, List.map_append, List.count_append, List.map_nil,
          List.count_nil] at hplaces ⊢
        omega }
  have hcount : (s.joined retained).queuedCount ≤ options.pendingLimit := by
    simp only [joined, queuedCount, List.length_append] at hroom ⊢
    omega
  have hframe : Frame s (s.joined retained) := ⟨rfl, rfl, fun _ => rfl⟩
  simp only [TheoriaState.push]
  split
  · refine ⟨hpushed.flush, (queuedCount_flush_le _ _).trans hcount, ?_⟩
    exact hframe.trans (frame_flush options _)
  · refine ⟨hpushed.scheduleFlush, (queuedCount_scheduleFlush _).trans_le hcount, ?_⟩
    exact hframe.trans (frame_scheduleFlush _)

/-- Observations that arrive are queued or dropped. -/
theorem Sound.enqueue (h : s.Sound observations) (hbounded : s.queuedCount ≤ options.pendingLimit) :
    Takes options s (s.enqueue options observations) := by
  have hsplit : s.Sound (observations.take (observations.length - options.pendingLimit) ++
      observations.drop (observations.length - options.pendingLimit)) := by
    rwa [List.take_append_drop]
  have hsound := hsplit.drop
  have hlength : (observations.drop (observations.length - options.pendingLimit)).length ≤
      options.pendingLimit := by
    rw [List.length_drop]
    omega
  have hframe := frame_drop s (observations.take (observations.length - options.pendingLimit))
  simp only [TheoriaState.enqueue]
  split
  · next hroom =>
      obtain ⟨htaken, hcount, hpush⟩ := hsound.push hroom
      exact ⟨htaken, hcount, hframe.trans hpush⟩
  · cases options.policy with
    | dropNewest =>
      refine ⟨?_, hbounded, hframe.trans (frame_drop _ _)⟩
      exact Sound.drop (by rwa [List.append_nil])
    | dropOldest =>
      obtain ⟨hroomy, hcount, hmake⟩ := hsound.makeRoom hlength le_rfl
      obtain ⟨htaken, hcount', hpush⟩ := hroomy.push hcount
      exact ⟨htaken, hcount', (hframe.trans hmake).trans hpush⟩

/-- A start that replaces none is staged, or dropped. -/
theorem Sound.stageStart {key : String} {captured : Captured} (h : s.Sound [captured])
    (hbounded : s.queuedCount ≤ options.pendingLimit) (hlimit : 1 ≤ options.pendingLimit)
    (hkey : key ≠ "") (hnew : ∀ room ∈ s.stagingRoom options, room.pendingStarts.get key = none) :
    Takes options s (s.stageStart options key captured) := by
  unfold TheoriaState.stageStart
  cases hroom : s.stagingRoom options with
  | none => exact ⟨Sound.drop h, hbounded, frame_drop _ _⟩
  | some room =>
    have hmade : room.Sound [captured] ∧ room.queuedCount + 1 ≤ options.pendingLimit ∧
        Frame s room := by
      unfold stagingRoom at hroom
      split at hroom
      · next hfull =>
          cases hpolicy : options.policy with
          | dropNewest =>
            rw [hpolicy] at hroom
            cases hroom
          | dropOldest =>
            rw [hpolicy] at hroom
            cases hroom
            obtain ⟨hsound, hcount, hframe⟩ := h.dropOldest (by omega)
            exact ⟨hsound, by omega, hframe⟩
      · next hfree =>
          cases hroom
          exact ⟨h, by omega, Frame.refl s⟩
    obtain ⟨hsound, hcount, hframe⟩ := hmade
    have hentries := OrderedMap.entries_set_of_get_eq_none (hnew room hroom) captured
    refine ⟨⟨fun n => ?_, hsound.persisted, hsound.dropped, ?_⟩, ?_,
      hframe.trans ⟨rfl, rfl, fun _ => rfl⟩⟩
    · have hplaces := hsound.places n
      rw [count_places] at hplaces ⊢
      simp only [staged, batch, hentries, List.map_append, List.map_cons, List.map_nil,
        List.count_append, List.count_nil] at hplaces ⊢
      omega
    · rw [OrderedMap.get_set, if_neg (Ne.symm hkey)]
      exact hsound.keys
    · simp only [queuedCount, OrderedMap.size, hentries, List.length_append,
        List.length_singleton] at hcount ⊢
      omega

/-- With the end of a span arrives the start that is staged for it. -/
theorem Sound.unstage {captured : Captured} (h : s.Sound [captured]) (key : Option String) :
    (s.unstage key).Sound ((key.bind s.pendingStarts.get).toList ++ [captured]) ∧
      (s.unstage key).queuedCount ≤ s.queuedCount ∧ Frame s (s.unstage key) := by
  cases key with
  | none => exact ⟨h, le_rfl, Frame.refl s⟩
  | some key =>
    cases hget : s.pendingStarts.get key with
    | none =>
      have hentries := OrderedMap.entries_delete_of_get_eq_none hget
      refine ⟨⟨fun n => ?_, h.persisted, h.dropped, ?_⟩, ?_, rfl, rfl, fun _ => rfl⟩
      · have hplaces := h.places n
        rw [count_places] at hplaces ⊢
        simp only [TheoriaState.unstage, staged, batch, hentries, Option.bind_some, hget,
          Option.toList_none, List.nil_append] at hplaces ⊢
        omega
      · rw [TheoriaState.unstage, OrderedMap.get_delete, h.keys, ite_self]
      · simp only [TheoriaState.unstage, queuedCount, OrderedMap.size, hentries, le_refl]
    | some started =>
      have hsize := size_delete hget
      refine ⟨?_, ?_, rfl, rfl, fun _ => rfl⟩
      · rw [Option.bind_some, hget]
        exact h.delete hget
      · simp only [TheoriaState.unstage, queuedCount]
        omega

theorem Sound.endSpan {minimumDuration : ℚ} {key : Option String} {captured : Captured}
    (h : s.Sound [captured]) (hbounded : s.queuedCount ≤ options.pendingLimit) :
    Takes options s (s.endSpan options minimumDuration key captured) := by
  obtain ⟨hsound, hcount, hframe⟩ := h.unstage key
  simp only [TheoriaState.endSpan]
  split
  · refine ⟨Sound.reject (by rwa [List.append_nil]), hcount.trans hbounded, ?_⟩
    exact hframe.trans ⟨rfl, rfl, fun _ => rfl⟩
  · obtain ⟨htaken, hcount', henqueue⟩ := hsound.enqueue (hcount.trans hbounded)
    exact ⟨htaken, hcount', hframe.trans henqueue⟩

/-- The start of a span that is staged would replace another one. -/
def ReplacesStart (bucket : String → ℚ) (options : TheoriaOptions) (s : TheoriaState)
    (observation : Observation) : Prop :=
  s.pool = true ∧ shouldCaptureBase bucket options observation = true ∧
    options.minimumDurationMilliseconds.isSome ∧
      observation.phase = .started ∧
        ∃ key ∈ observationSpanKey observation, ∃ room ∈ s.counted.stagingRoom options,
          (room.pendingStarts.get key).isSome

theorem ne_empty_of_observationSpanKey {observation : Observation} {key : String}
    (h : observationSpanKey observation = some key) : key ≠ "" := by
  unfold observationSpanKey at h
  split at h
  · cases h
    intro hempty
    have hlength := congrArg String.length hempty
    simp [String.length_append] at hlength
  · cases h

/-- The observation has just arrived. -/
theorem Sound.counted (h : s.Sound []) (observation : Observation) :
    s.counted.Sound [s.capture observation] where
  places := fun n => by
    have hplaces := h.places n
    rw [count_places] at hplaces ⊢
    simp only [TheoriaState.counted, capture, staged, batch, List.range_succ, List.count_append,
      List.map_cons, List.map_nil, List.count_nil] at hplaces ⊢
    omega
  persisted := h.persisted
  dropped := h.dropped
  keys := h.keys

/-- **An observation is taken in**, unless it replaces a start. -/
theorem Sound.record {bucket : String → ℚ} {observation : Observation} (h : s.Sound [])
    (hbounded : s.queuedCount ≤ options.pendingLimit) (hlimit : 1 ≤ options.pendingLimit)
    (hguard : ¬ ReplacesStart bucket options s observation) :
    Takes options s (s.record bucket options observation) := by
  unfold TheoriaState.record
  split
  · next hcaptured =>
      have hsound := h.counted observation
      have hframe : Frame s s.counted := ⟨rfl, rfl, fun _ => rfl⟩
      suffices haccept : Takes options s.counted
          (s.counted.accept options (s.capture observation)) from
        ⟨haccept.sound, haccept.bounded, hframe.trans haccept.frame⟩
      unfold accept
      cases hminimum : options.minimumDurationMilliseconds with
      | none => exact hsound.enqueue hbounded
      | some minimumDuration =>
        dsimp only
        split
        · next key hphase hkey =>
            refine hsound.stageStart hbounded hlimit (ne_empty_of_observationSpanKey hkey) ?_
            intro room hroom
            by_contra hstaged
            exact hguard ⟨hcaptured.1, hcaptured.2, by simp [hminimum], hphase, key, hkey, room,
              hroom, Option.isSome_iff_ne_none.2 hstaged⟩
        · exact hsound.enqueue hbounded
        · exact hsound.endSpan hbounded
        · exact hsound.endSpan hbounded
        · exact ⟨Sound.reject hsound, hbounded, rfl, rfl, fun _ => rfl⟩
  · exact ⟨h, hbounded, Frame.refl s⟩

/-! ### The invariant -/

variable {call : DrainCall}

/-- What holds of a call of `drain` between the steps of a recorder. -/
structure Fits (s : TheoriaState) (call : DrainCall) : Prop where
  awaited : call.phase = .awaiting → s.flushPromise ≠ none
  served : call.phase ≠ .looping
  emptied : ∀ left, call.phase = .returned left → left = 0

/-- What every step that meets the conditions keeps. -/
structure Invariant (options : TheoriaOptions) (s : TheoriaState) : Prop where
  sound : s.Sound []
  bounded : s.queuedCount ≤ options.pendingLimit
  fits : ∀ call ∈ s.drains, s.Fits call

theorem Invariant.isAccounted (h : s.Invariant options) : s.IsAccounted options where
  bounded := h.bounded
  places := List.perm_iff_count.2 fun n => by simpa using h.sound.places n
  persisted := h.sound.persisted
  dropped := h.sound.dropped
  awaited := fun call hcall => (h.fits call hcall).awaited
  served := fun call hcall => (h.fits call hcall).served
  emptied := fun call hcall => (h.fits call hcall).emptied

/-- A call of `drain` does not mind a flush that goes on. -/
theorem Fits.frame (h : s.Fits call) (hframe : Frame s t) : t.Fits call where
  awaited := fun hphase => by
    rw [hframe.flushing (h.awaited hphase)]
    exact h.awaited hphase
  served := h.served
  emptied := h.emptied

theorem Takes.invariant (htakes : Takes options s t) (h : s.Invariant options) :
    t.Invariant options where
  sound := htakes.sound
  bounded := htakes.bounded
  fits := fun call hcall => by
    rw [htakes.frame.drains] at hcall
    exact (h.fits call hcall).frame htakes.frame

theorem invariant_initial : initial.Invariant options where
  sound := ⟨fun _ => rfl, rfl, rfl, rfl⟩
  bounded := Nat.zero_le _
  fits := fun _ hcall => absurd hcall List.not_mem_nil

/-- What remains of the invariant when a flush has come further. -/
theorem Invariant.advance (h : s.Invariant options) (hsound : t.Sound [])
    (hqueue : t.queue = s.queue) (hstarts : t.pendingStarts = s.pendingStarts)
    (hdrains : t.drains = s.drains) (hflush : t.flushPromise ≠ none) : t.Invariant options where
  sound := hsound
  bounded := by
    have hbounded := h.bounded
    rwa [queuedCount, ← hqueue, ← hstarts] at hbounded
  fits := fun call hcall => by
    rw [hdrains] at hcall
    exact ⟨fun _ => hflush, (h.fits call hcall).served, (h.fits call hcall).emptied⟩

/-! ### A batch is written -/

theorem Invariant.insertSettles {batch : List Captured} (h : s.Invariant options)
    (hflush : s.flushPromise = some (.inserting batch)) (succeeds : Bool) :
    (s.insertSettles batch succeeds).Invariant options := by
  have hbatch : s.batch = batch := by rw [TheoriaState.batch, hflush]
  cases succeeds with
  | true =>
    have hflush' : (s.insertSettles batch true).flushPromise ≠ none := by
      simp only [TheoriaState.insertSettles, writeSucceeds]
      split <;> exact Option.some_ne_none _
    have hnone : (s.insertSettles batch true).batch = [] := by
      simp only [TheoriaState.insertSettles, writeSucceeds, TheoriaState.batch]
      split_ifs <;> rfl
    refine h.advance ⟨fun n => ?_, ?_, h.sound.dropped, h.sound.keys⟩ rfl rfl rfl hflush'
    · have hplaces := h.sound.places n
      rw [count_places, hbatch] at hplaces
      rw [count_places, hnone]
      simp only [TheoriaState.insertSettles, writeSucceeds, staged, List.count_append,
        List.map_nil, List.count_nil] at hplaces ⊢
      omega
    · simp [TheoriaState.insertSettles, writeSucceeds, h.sound.persisted]
  | false =>
    refine h.advance ⟨fun n => ?_, h.sound.persisted, ?_, h.sound.keys⟩ rfl rfl rfl
      (Option.some_ne_none _)
    · have hplaces := h.sound.places n
      rw [count_places, hbatch] at hplaces
      rw [count_places]
      simp only [TheoriaState.insertSettles, writeFails, staged, TheoriaState.batch,
        List.count_append, List.map_nil, List.count_nil] at hplaces ⊢
      omega
    · simp [TheoriaState.insertSettles, writeFails, h.sound.dropped]

theorem Invariant.pruneSettles {batch : List Captured} (h : s.Invariant options)
    (hflush : s.flushPromise = some (.pruning batch)) :
    (s.pruneSettles batch true).Invariant options := by
  refine h.advance ⟨fun n => ?_, h.sound.persisted, h.sound.dropped, h.sound.keys⟩ rfl rfl rfl
    (Option.some_ne_none _)
  have hplaces := h.sound.places n
  rw [count_places] at hplaces ⊢
  simp only [TheoriaState.pruneSettles, staged, TheoriaState.batch, hflush] at hplaces ⊢
  exact hplaces

theorem Fits.wake (h : s.Fits call) (t : TheoriaState) : t.Fits call.wake := by
  obtain ⟨-, hserved, hemptied⟩ := h
  obtain ⟨disposes, phase, closed⟩ := call
  cases phase with
  | awaiting => exact ⟨nofun, nofun, nofun⟩
  | ready => exact ⟨nofun, nofun, nofun⟩
  | looping => exact absurd rfl hserved
  | returned left => exact ⟨nofun, nofun, hemptied⟩

theorem Invariant.settleFlush (h : s.Invariant options) (hflush : s.flushPromise = some .settling) :
    s.settleFlush.Invariant options := by
  have hwoken : ({ s with
      flushPromise := none
      drains := s.drains.map .wake } : TheoriaState).Invariant options := by
    refine ⟨⟨fun n => ?_, h.sound.persisted, h.sound.dropped, h.sound.keys⟩, h.bounded, ?_⟩
    · have hplaces := h.sound.places n
      rw [count_places] at hplaces ⊢
      simp only [staged, TheoriaState.batch, hflush] at hplaces ⊢
      exact hplaces
    · simp only [List.mem_map]
      rintro _ ⟨call, hcall, rfl⟩
      exact (h.fits call hcall).wake _
  simp only [TheoriaState.settleFlush]
  split
  · exact hwoken
  · exact Takes.invariant ⟨hwoken.sound.scheduleFlush,
      (queuedCount_scheduleFlush _).trans_le hwoken.bounded, frame_scheduleFlush _⟩ hwoken

/-! ### Drains -/

/-- The pool has been let go while observations are queued, and no flush goes on. -/
def IsStranded (s : TheoriaState) : Prop :=
  s.pool = false ∧ s.queue ≠ [] ∧ s.flushPromise = none

instance (s : TheoriaState) : Decidable s.IsStranded := by
  unfold IsStranded
  have : Decidable (s.flushPromise = none) :=
    decidable_of_iff (s.flushPromise.isNone = true) Option.isNone_iff_eq_none
  have : Decidable (s.queue ≠ []) :=
    decidable_of_iff (s.queue.isEmpty = false) (by simp)
  infer_instance

/-- What a call of `drain` makes of the recorder when it looks at the queue. -/
theorem drainLoop_spec (options : TheoriaOptions) (h : s.Sound []) (hguard : ¬ s.IsStranded)
    (disposes closed : Bool) :
    (s.drainLoop options).1.Sound [] ∧
      (s.drainLoop options).1.queuedCount ≤ s.queuedCount ∧
        Frame s (s.drainLoop options).1 ∧
          (s.drainLoop options).1.Fits ⟨disposes, (s.drainLoop options).2, closed⟩ := by
  unfold drainLoop
  split
  · next hempty =>
      refine ⟨h, le_rfl, Frame.refl s, nofun, nofun, fun left hleft => ?_⟩
      obtain rfl : s.queue.length = left := by simpa using hleft
      simp [hempty.1]
  · next hleft =>
      have hflushing : (s.flush options).flushPromise.isSome = true := by
        obtain ⟨hsame, hreason⟩ | ⟨-, -, -, hflush⟩ := flush_cases options s
        · rw [hsame]
          by_contra hidle
          have hnone : s.flushPromise = none := by simpa using hidle
          obtain hsome | hpool | hqueue := hreason
          · exact hidle hsome
          · exact hguard ⟨hpool, fun hqueue => hleft ⟨hqueue, hnone⟩, hnone⟩
          · exact hleft ⟨hqueue, hnone⟩
        · rw [hflush]
          rfl
      simp only [hflushing, if_true]
      exact ⟨h.flush, queuedCount_flush_le options s, frame_flush options s,
        fun _ => Option.isSome_iff_ne_none.1 hflushing, nofun, nofun⟩

/-- The starts that are staged are dropped. -/
theorem Invariant.clearStarts (h : s.Invariant options) : Takes options s s.clearStarts where
  sound := by
    have hcleared : ({ s with
        flushTimer := false
        pendingStarts := .empty } : TheoriaState).Sound (s.staged ++ []) :=
      ⟨fun n => by
        have hplaces := h.sound.places n
        rw [count_places] at hplaces ⊢
        simp only [staged, TheoriaState.batch, OrderedMap.empty, List.append_nil, List.map_nil,
          List.count_nil] at hplaces ⊢
        omega, h.sound.persisted, h.sound.dropped, rfl⟩
    exact hcleared.drop
  bounded := by
    have hbounded := h.bounded
    simp only [TheoriaState.clearStarts, queuedCount_drop]
    simp only [queuedCount, OrderedMap.size, OrderedMap.empty, List.length_nil] at hbounded ⊢
    omega
  frame := ⟨rfl, rfl, fun _ => rfl⟩

/-- A call of `drain` is put on the list, or goes on, where the others remain as they are. -/
theorem Invariant.put (h : s.Invariant options) (htakes : Takes options s t) (hcall : t.Fits call)
    {drains : List DrainCall} (hdrains : ∀ other ∈ drains, other ∈ s.drains ∨ other = call) :
    ({ t with drains := drains } : TheoriaState).Invariant options where
  sound := ⟨htakes.sound.places, htakes.sound.persisted, htakes.sound.dropped, htakes.sound.keys⟩
  bounded := htakes.bounded
  fits := fun other hother => by
    obtain hold | rfl := hdrains other hother
    · have hfits := (h.fits other hold).frame htakes.frame
      exact ⟨hfits.awaited, hfits.served, hfits.emptied⟩
    · exact ⟨hcall.awaited, hcall.served, hcall.emptied⟩

theorem Invariant.beginDrain (h : s.Invariant options) (hguard : ¬ s.IsStranded) (disposes : Bool) :
    (s.beginDrain options disposes).Invariant options := by
  have hclear := h.clearStarts
  obtain ⟨hsound, hcount, hframe, hfits⟩ :=
    drainLoop_spec options hclear.sound hguard disposes false
  refine h.put ⟨hsound, hcount.trans hclear.bounded, hclear.frame.trans hframe⟩ hfits ?_
  intro other hother
  replace hother : other ∈ (s.clearStarts.drainLoop options).1.drains ++
      [⟨disposes, (s.clearStarts.drainLoop options).2, false⟩] := hother
  rw [hframe.drains, hclear.frame.drains, List.mem_append, List.mem_singleton] at hother
  exact hother

theorem Invariant.resumeDrain (h : s.Invariant options) (hguard : ¬ s.IsStranded) (i : ℕ)
    (call : DrainCall) : (s.resumeDrain options i call).Invariant options := by
  obtain ⟨hsound, hcount, hframe, hfits⟩ :=
    drainLoop_spec options h.sound hguard call.disposes call.closed
  refine h.put ⟨hsound, hcount.trans h.bounded, hframe⟩ hfits ?_
  intro other hother
  replace hother : other ∈ (s.drainLoop options).1.drains.set i
      { call with phase := (s.drainLoop options).2 } := hother
  rw [hframe.drains] at hother
  exact List.mem_or_eq_of_mem_set hother

theorem Invariant.closePool (h : s.Invariant options) {i : ℕ} (hcall : s.drains[i]? = some call) :
    (s.closePool i call).Invariant options where
  sound := ⟨h.sound.places, h.sound.persisted, h.sound.dropped, h.sound.keys⟩
  bounded := h.bounded
  fits := fun other hother => by
    have hfits : s.Fits other ∨ other = { call with closed := true } :=
      (List.mem_or_eq_of_mem_set hother).imp_left (h.fits other)
    obtain hfits | rfl := hfits
    · exact ⟨hfits.awaited, hfits.served, hfits.emptied⟩
    · have hfits := h.fits call (List.mem_of_getElem? hcall)
      exact ⟨hfits.awaited, hfits.served, hfits.emptied⟩

/-! ### Steps -/

/-- **The condition**: no start that is staged replaces another one, no prune fails, and no call of
`drain` looks at a queue that the pool has been let go over. -/
def Guard (bucket : String → ℚ) (options : TheoriaOptions) (s : TheoriaState) :
    TheoriaLabel → Prop
  | .record observation => ¬ ReplacesStart bucket options s observation
  | .pruned succeeds => succeeds = true
  | .drain _ | .resume _ => ¬ s.IsStranded
  | _ => True

/-- What a label does where it can happen. -/
inductive Does (bucket : String → ℚ) (options : TheoriaOptions) (s : TheoriaState) :
    TheoriaLabel → TheoriaState → Prop
  | record (observation : Observation) :
      Does bucket options s (.record observation) (s.record bucket options observation)
  | fire (htimer : s.flushTimer = true) :
      Does bucket options s .fire ({ s with flushTimer := false }.flush options)
  | inserted {batch : List Captured} (succeeds : Bool)
      (hflush : s.flushPromise = some (.inserting batch)) :
      Does bucket options s (.inserted succeeds) (s.insertSettles batch succeeds)
  | pruned {batch : List Captured} (succeeds : Bool)
      (hflush : s.flushPromise = some (.pruning batch)) :
      Does bucket options s (.pruned succeeds) (s.pruneSettles batch succeeds)
  | settle (hflush : s.flushPromise = some .settling) :
      Does bucket options s .settle s.settleFlush
  | drain (disposes : Bool) :
      Does bucket options s (.drain disposes) (s.beginDrain options disposes)
  | resume {i : ℕ} {call : DrainCall} (hcall : s.drains[i]? = some call)
      (hphase : call.phase = .ready ∨ call.phase = .looping) :
      Does bucket options s (.resume i) (s.resumeDrain options i call)
  | close {i left : ℕ} {call : DrainCall} (hcall : s.drains[i]? = some call)
      (hphase : call.phase = .returned left) (hdisposes : call.disposes = true)
      (hopen : call.closed = false) :
      Does bucket options s (.close i) (s.closePool i call)

theorem does_of_step {bucket : String → ℚ} {label : TheoriaLabel}
    (h : s.step bucket options label = some t) : Does bucket options s label t := by
  cases label with
  | record observation =>
    cases h
    exact .record observation
  | fire =>
    obtain ⟨htimer, h⟩ := Option.ite_none_right_eq_some.1 h
    cases h
    exact .fire htimer
  | inserted succeeds =>
    simp only [step] at h
    split at h
    · next batch hflush =>
        cases h
        exact .inserted succeeds hflush
    · cases h
  | pruned succeeds =>
    simp only [step] at h
    split at h
    · next batch hflush =>
        cases h
        exact .pruned succeeds hflush
    · cases h
  | settle =>
    simp only [step] at h
    split at h
    · next hflush =>
        cases h
        exact .settle hflush
    · cases h
  | drain disposes =>
    cases h
    exact .drain disposes
  | resume i =>
    simp only [step] at h
    split at h
    · next call hcall =>
        split at h
        · next hphase =>
            cases h
            exact .resume hcall (.inl hphase)
        · next hphase =>
            cases h
            exact .resume hcall (.inr hphase)
        · cases h
    · cases h
  | close i =>
    simp only [step] at h
    split at h
    · next call hcall =>
        split at h
        · next left hphase =>
            obtain ⟨⟨hdisposes, hopen⟩, h⟩ := Option.ite_none_right_eq_some.1 h
            cases h
            exact .close hcall hphase hdisposes (by simpa using hopen)
        · cases h
    · cases h

variable {bucket : String → ℚ}

/-- **Every step that meets the condition keeps the invariant.** -/
theorem Invariant.step {label : TheoriaLabel} (hlimit : 1 ≤ options.pendingLimit)
    (h : s.Invariant options) (hguard : Guard bucket options s label)
    (hstep : s.step bucket options label = some t) : t.Invariant options := by
  cases does_of_step hstep with
  | record observation => exact (h.sound.record h.bounded hlimit hguard).invariant h
  | fire htimer =>
    have hsound : ({ s with flushTimer := false } : TheoriaState).Sound [] :=
      ⟨h.sound.places, h.sound.persisted, h.sound.dropped, h.sound.keys⟩
    have hframe : Frame s { s with flushTimer := false } := ⟨rfl, rfl, fun _ => rfl⟩
    have htakes : Takes options s ({ s with flushTimer := false }.flush options) :=
      ⟨hsound.flush, (queuedCount_flush_le _ _).trans h.bounded,
        hframe.trans (frame_flush options _)⟩
    exact htakes.invariant h
  | inserted succeeds hflush => exact h.insertSettles hflush succeeds
  | pruned succeeds hflush =>
    obtain rfl : succeeds = true := hguard
    exact h.pruneSettles hflush
  | settle hflush => exact h.settleFlush hflush
  | drain disposes => exact h.beginDrain hguard disposes
  | resume hcall hphase => exact h.resumeDrain hguard _ _
  | close hcall hphase hdisposes hopen => exact h.closePool hcall

/-! ### Drains return -/

/-- How many steps a flush takes that has come so far. -/
def flushRank : Option FlushPromise → ℕ
  | none => 0
  | some .settling => 1
  | some (.pruning _) => 2
  | some (.inserting _) => 3

/-- How many steps a call of `drain` takes before the next flush is over, if it asks for none. -/
def drainRank (call : DrainCall) : ℕ :=
  match call.phase with
  | .awaiting => 2
  | .ready | .looping => 3
  | .returned _ => if call.disposes = true ∧ call.closed = false then 1 else 0

def drainRanks (calls : List DrainCall) : ℕ := (calls.map drainRank).sum

/-- How many steps of flushes are left, if nothing more is recorded. -/
def flushWork (s : TheoriaState) : ℕ := 4 * s.queue.length + flushRank s.flushPromise

/-- A bound on the steps that are left: each of a flush may wake all calls of `drain`. -/
def potential (s : TheoriaState) : ℕ :=
  (s.drains.length + 2) * s.flushWork + s.flushTimer.toNat + drainRanks s.drains

theorem drainRanks_set {calls : List DrainCall} {i : ℕ} (hcall : calls[i]? = some call)
    (next : DrainCall) :
    drainRanks (calls.set i next) + drainRank call = drainRanks calls + drainRank next := by
  induction calls generalizing i with
  | nil => simp at hcall
  | cons first calls ih =>
    cases i with
    | zero =>
      obtain rfl : first = call := by simpa using hcall
      simp only [drainRanks, List.set_cons_zero, List.map_cons, List.sum_cons]
      omega
    | succ i =>
      have hrest := ih (by simpa using hcall)
      simp only [drainRanks, List.set_cons_succ, List.map_cons, List.sum_cons] at hrest ⊢
      omega

theorem drainRanks_wake (calls : List DrainCall) :
    drainRanks (calls.map .wake) ≤ drainRanks calls + calls.length := by
  induction calls with
  | nil => simp [drainRanks]
  | cons call calls ih =>
    have hwake : drainRank call.wake ≤ drainRank call + 1 := by
      obtain ⟨disposes, phase, closed⟩ := call
      cases phase with
      | returned left => exact Nat.le_succ _
      | _ => simp [drainRank, DrainCall.wake, DrainPhase.wake]
    simp only [drainRanks, List.map_cons, List.sum_cons, List.length_cons] at ih ⊢
    omega

/-- A step of a flush counts for more than what the calls of `drain` gain by it. -/
theorem potential_lt_of_work (hdrains : t.drains.length = s.drains.length)
    (hwork : t.flushWork < s.flushWork) (htimer : t.flushTimer.toNat ≤ s.flushTimer.toNat + 1)
    (hranks : drainRanks t.drains ≤ drainRanks s.drains + s.drains.length) :
    t.potential < s.potential := by
  have hmul := Nat.mul_le_mul_left (s.drains.length + 2) (Nat.succ_le_of_lt hwork)
  rw [Nat.mul_succ] at hmul
  simp only [potential, hdrains]
  omega

/-- To begin a flush adds nothing to what is left. -/
theorem flush_work_le (hbatch : 1 ≤ options.batchLimit) (s : TheoriaState) :
    (s.flush options).flushWork ≤ s.flushWork ∧
      (s.flush options).flushTimer.toNat ≤ s.flushTimer.toNat := by
  obtain ⟨hsame, -⟩ | ⟨hidle, -, hqueue, hflush⟩ := flush_cases options s
  · rw [hsame]
    exact ⟨le_rfl, le_rfl⟩
  · have hlength := List.length_pos_iff.2 hqueue
    rw [hflush]
    simp only [flushWork, hidle, flushRank, List.length_drop, Bool.toNat_false]
    omega

theorem drainLoop_work_le (hbatch : 1 ≤ options.batchLimit) (s : TheoriaState) :
    (s.drainLoop options).1.flushWork ≤ s.flushWork ∧
      (s.drainLoop options).1.flushTimer.toNat ≤ s.flushTimer.toNat := by
  unfold drainLoop
  split
  · exact ⟨le_rfl, le_rfl⟩
  · exact flush_work_le hbatch s

/-- A call of `drain` that has looked at the queue has returned, or awaits a flush. -/
theorem drainRank_le_of_served {disposes closed : Bool} (h : (s.drainLoop options).2 ≠ .looping) :
    drainRank ⟨disposes, (s.drainLoop options).2, closed⟩ ≤ 2 := by
  unfold drainLoop at h ⊢
  split at h
  · next hempty =>
      rw [if_pos hempty]
      simp only [drainRank]
      split <;> omega
  · next hleft =>
      rw [if_neg hleft]
      by_cases hflush : (s.flush options).flushPromise.isSome = true
      · simp [drainRank, hflush]
      · simp [hflush] at h

theorem settleFlush_drains (s : TheoriaState) :
    s.settleFlush.drains = s.drains.map .wake := by
  simp only [settleFlush]
  split
  · rfl
  · exact (frame_scheduleFlush _).drains

theorem settleFlush_queue (s : TheoriaState) :
    s.settleFlush.queue = s.queue ∧ s.settleFlush.flushPromise = none := by
  simp only [settleFlush, scheduleFlush]
  split_ifs <;> exact ⟨rfl, rfl⟩

/-- **Once nothing more is recorded, every step leaves less to do.** -/
theorem potential_lt (hbatch : 1 ≤ options.batchLimit) {label : TheoriaLabel}
    (h : s.Invariant options) (hquiet : label.IsQuiet) (hguard : Guard bucket options s label)
    (hstep : s.step bucket options label = some t) : t.potential < s.potential := by
  cases does_of_step hstep with
  | record observation => exact hquiet.elim
  | drain disposes => exact hquiet.elim
  | fire htimer =>
    obtain ⟨hwork, htimer'⟩ := flush_work_le hbatch { s with flushTimer := false }
    have hdrains := (frame_flush options { s with flushTimer := false }).drains
    have hmul := Nat.mul_le_mul_left (s.drains.length + 2) hwork
    have hsame : ({ s with flushTimer := false } : TheoriaState).flushWork = s.flushWork := rfl
    simp only [potential, hdrains, htimer, Bool.toNat_true, Bool.toNat_false] at htimer' ⊢
    rw [hsame] at hmul
    omega
  | @inserted batch succeeds hflush =>
    cases succeeds with
    | true =>
      refine potential_lt_of_work rfl ?_ (Nat.le_succ _) (Nat.le_add_right _ _)
      simp only [flushWork, insertSettles, writeSucceeds, hflush]
      split <;> simp [flushRank]
    | false =>
      refine potential_lt_of_work rfl ?_ (Nat.le_succ _) (Nat.le_add_right _ _)
      simp [flushWork, insertSettles, writeFails, hflush, flushRank]
  | @pruned batch succeeds hflush =>
    obtain rfl : succeeds = true := hguard
    refine potential_lt_of_work rfl ?_ (Nat.le_succ _) (Nat.le_add_right _ _)
    simp [flushWork, pruneSettles, hflush, flushRank]
  | settle hflush =>
    obtain ⟨hqueue, hover⟩ := settleFlush_queue s
    refine potential_lt_of_work ?_ ?_ ?_ ?_
    · rw [settleFlush_drains, List.length_map]
    · simp [flushWork, hqueue, hover, hflush, flushRank]
    · exact (Bool.toNat_le _).trans (Nat.le_add_left _ _)
    · rw [settleFlush_drains]
      exact drainRanks_wake s.drains
  | @resume i call hcall hphase =>
    obtain ⟨hwork, htimer⟩ := drainLoop_work_le hbatch s
    obtain ⟨-, -, hframe, hfits⟩ :=
      drainLoop_spec options h.sound hguard call.disposes call.closed
    have hmul := Nat.mul_le_mul_left (s.drains.length + 2) hwork
    have hranks := drainRanks_set hcall { call with phase := (s.drainLoop options).2 }
    have hready : drainRank call = 3 := by
      unfold drainRank
      obtain hphase | hphase := hphase <;> rw [hphase]
    have hnext : drainRank { call with phase := (s.drainLoop options).2 } ≤ 2 :=
      drainRank_le_of_served hfits.served
    have hdrains : (s.resumeDrain options i call).drains =
        s.drains.set i { call with phase := (s.drainLoop options).2 } :=
      congrArg (fun drains => List.set drains i _) hframe.drains
    have hsame : (s.resumeDrain options i call).flushWork =
        (s.drainLoop options).1.flushWork := rfl
    have hsame' : (s.resumeDrain options i call).flushTimer =
        (s.drainLoop options).1.flushTimer := rfl
    simp only [potential, hsame, hsame', hdrains, List.length_set]
    omega
  | @close i left call hcall hphase hdisposes hopen =>
    have hranks := drainRanks_set hcall { call with closed := true }
    have hrank : drainRank call = 1 := by simp [drainRank, hphase, hdisposes, hopen]
    have hclosed : drainRank { call with closed := true } = 0 := by simp [drainRank, hphase]
    have hsame : (s.closePool i call).flushWork = s.flushWork := rfl
    simp only [potential, hsame]
    simp only [closePool, List.length_set]
    omega

/-- Where nothing happens by itself any more, every call of `drain` has returned. -/
theorem Invariant.isOver (h : s.Invariant options)
    (hstill : ∀ label : TheoriaLabel, label.IsQuiet → s.step bucket options label = none)
    (hcall : call ∈ s.drains) : call.IsOver := by
  have hfits := h.fits call hcall
  cases hphase : call.phase with
  | returned left => exact ⟨left, hphase⟩
  | looping => exact absurd hphase hfits.served
  | ready =>
    obtain ⟨i, hi⟩ := List.getElem?_of_mem hcall
    have hresume := hstill (.resume i) trivial
    simp only [TheoriaState.step, hi, hphase] at hresume
    cases hresume
  | awaiting =>
    -- Whatever it waits for, the promise of the flush can come further.
    cases hflush : s.flushPromise with
    | none => exact absurd hflush (hfits.awaited hphase)
    | some promise =>
      exfalso
      cases promise with
      | inserting batch =>
        have hnext := hstill (.inserted true) trivial
        simp [TheoriaState.step, hflush] at hnext
      | pruning batch =>
        have hnext := hstill (.pruned true) trivial
        simp [TheoriaState.step, hflush] at hnext
      | settling =>
        have hnext := hstill .settle trivial
        simp [TheoriaState.step, hflush] at hnext

/-- Once nothing more is recorded, a run takes so many steps at most. -/
theorem Invariant.length_le_potential (hlimit : 1 ≤ options.pendingLimit)
    (hbatch : 1 ≤ options.batchLimit) {labels : List TheoriaLabel}
    (hrun : Transition.Run (TheoriaState.step bucket options)
      (fun s label => label.IsQuiet ∧ Guard bucket options s label) s labels t)
    (h : s.Invariant options) : t.Invariant options ∧ labels.length ≤ s.potential := by
  induction hrun with
  | nil s => exact ⟨h, Nat.zero_le _⟩
  | cons hguard hstep _ ih =>
    have hlt := potential_lt hbatch h hguard.1 hguard.2 hstep
    obtain ⟨hlast, hlength⟩ := ih (h.step hlimit hguard.2 hstep)
    refine ⟨hlast, ?_⟩
    rw [List.length_cons]
    omega

instance (observation : Observation) (s : TheoriaState) :
    Decidable (ReplacesStart bucket options s observation) := by
  unfold ReplacesStart
  infer_instance

instance (s : TheoriaState) (label : TheoriaLabel) : Decidable (Guard bucket options s label) := by
  cases label <;> unfold Guard <;> infer_instance

end TheoriaState

/-! ### The promise -/

open TheoriaState

/-- **Every observation is accounted for, and every call of `drain` returns**: whatever is recorded,
inserted, pruned and drained, as long as no staged start is replaced, no prune fails and no call of
`drain` looks at a queue that the pool has been let go over, what is held back is bounded, every
observation is in one place, and the counters agree; and once nothing more is recorded, so many
steps are left at most, after which every call of `drain` has returned. -/
theorem observations_accounted (bucket : String → ℚ) {options : TheoriaOptions}
    (hvalid : validateCapture options = .ok ()) {labels : List TheoriaLabel}
    {s : TheoriaState}
    (hrun : Transition.Run (step bucket options) (Guard bucket options) initial labels s) :
    s.IsAccounted options ∧ ∃ bound : ℕ, ∀ (later : List TheoriaLabel) (t : TheoriaState),
      Transition.Run (step bucket options)
        (fun s label => label.IsQuiet ∧ Guard bucket options s label) s later t →
      later.length ≤ bound ∧
        ((∀ label : TheoriaLabel, label.IsQuiet → t.step bucket options label = none) →
          ∀ call ∈ t.drains, call.IsOver) := by
  obtain ⟨hlimit, hbatch⟩ := limits_of_validateCapture hvalid
  have h : s.Invariant options :=
    hrun.invariant (fun _ _ _ h hguard hstep => h.step hlimit hguard hstep) invariant_initial
  refine ⟨h.isAccounted, s.potential, ?_⟩
  intro later t hlater
  obtain ⟨hlast, hlength⟩ := Invariant.length_le_potential hlimit hbatch hlater h
  exact ⟨hlength, fun hstill _ hcall => hlast.isOver hstill hcall⟩

/-- A filter on durations, and little room. -/
def spanOptions : TheoriaOptions where
  sampleRate := none
  includeKinds := none
  includePhases := none
  includeNames := none
  minimumDurationMilliseconds := some 10
  maximumPending := some 3
  overflowPolicy := some .dropOldest
  batchSize := some 2
  flushIntervalMilliseconds := none
  poolMaximum := none

/-- An observation of a span. -/
def spanObservation (spanId : String) (phase : ObservationPhase) (duration : Option ℚ) :
    Observation where
  id := spanId
  kind := .action
  name := "orders.place"
  phase := phase
  roleId := none
  durationMilliseconds := duration
  context := ⟨none, none, some "trace", some spanId, none⟩

/-- Four spans start, for three of which there is room; one ends soon and one late, and the recorder
is drained. -/
def spanRun : List TheoriaLabel :=
  (["a", "b", "c", "d"].map fun spanId =>
    .record (spanObservation spanId .started none)) ++
  [.record (spanObservation "b" .completed (some 5)),
    .record (spanObservation "c" .failed (some 50)),
    .drain true, .inserted true, .settle,
    .resume 0, .close 0]

theorem spans_accounted :
    ∃ s : TheoriaState, s.IsAccounted spanOptions ∧ (s.persisted, s.dropped) = (2, 2) ∧
      s.drains = [⟨true, .returned 0, true⟩] := by
  have hrun : ∃ s, Transition.runGuarded (step (fun _ => 0) spanOptions)
      (Guard (fun _ => 0) spanOptions) initial spanRun = some s ∧
        (s.persisted, s.dropped) = (2, 2) ∧
          s.drains = [⟨true, .returned 0, true⟩] :=
    ⟨_, rfl, by decide +kernel, by decide +kernel⟩
  obtain ⟨s, hrun, hcounters, hdrains⟩ := hrun
  exact ⟨s, (observations_accounted (fun _ => 0) rfl
    (Transition.Run.of_runGuarded hrun)).1, hcounters, hdrains⟩

/-- Twenty observations to a batch. -/
def batchOptions : TheoriaOptions where
  sampleRate := none
  includeKinds := none
  includePhases := none
  includeNames := none
  minimumDurationMilliseconds := none
  maximumPending := none
  overflowPolicy := none
  batchSize := some 20
  flushIntervalMilliseconds := none
  poolMaximum := none

/-- A batch is recorded and inserted. -/
def batchRun : List TheoriaLabel :=
  List.replicate 20 (.record (spanObservation "a" .occurred none)) ++
    [.inserted true]

/-- Twenty-five batches are persisted, and the prune that follows the last one fails. -/
def failingPruneRun : List TheoriaLabel :=
  (List.replicate 24 (batchRun ++ [.settle])).flatten ++ batchRun ++
    [.pruned false]

/-- **What is persisted counts as dropped**: all of the five hundred observations are in the table,
and the handler of errors counts the last twenty once more. -/
theorem persisted_dropped :
    ¬ ∀ (bucket : String → ℚ) (options : TheoriaOptions) (labels : List TheoriaLabel)
      (s : TheoriaState), validateCapture options = .ok () →
      Transition.run (step bucket options) initial labels = some s → s.IsAccounted options := by
  intro hclaim
  have hrun : ∃ s, Transition.run (step (fun _ => 0) batchOptions) initial failingPruneRun =
      some s ∧ s.persisted = 500 ∧ s.dropped = 20 ∧ s.account.dropped = [] := by
    have hcounters : (Transition.run (step (fun _ => 0) batchOptions) initial
        failingPruneRun).map (fun s => (s.persisted, s.dropped, s.account.dropped)) =
          some (500, 20, []) := by decide +kernel
    obtain ⟨s, hs, hcounters⟩ := Option.map_eq_some_iff.1 hcounters
    simp only [Prod.mk.injEq] at hcounters
    exact ⟨s, hs, hcounters⟩
  obtain ⟨s, hs, -, hdropped, hnone⟩ := hrun
  have haccounted := (hclaim _ _ _ s rfl hs).dropped
  rw [hdropped, hnone] at haccounted
  cases haccounted

end Doxa
