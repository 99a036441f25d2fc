/-
**Every migration is applied once, in order, by any number of runs.**

A run that executes statements holds the lock, so that the rows are those it has read and those it
has added itself.  What a run has yet to do, after what it has applied, is a part of the list; it
gets shorter with every statement.

Main definitions:

* `Doxa.MigrationState.SoundRun`, `Doxa.MigrationState.Sound` — what holds of a run, and of all of
  them;
* `Doxa.MigrationState.rank` — how many statements are left.

Main results:

* `Doxa.migrations_applied` — **in every run whose steps all meet the condition, what is promised
  holds, some run can go on until all have ended, and this takes a bounded number of statements**;
* `Doxa.table_made_twice` — two runs that both have found no table: one of them fails.
-/

import Doxa.Migrations

set_option relaxedAutoImplicit false
set_option autoImplicit false

namespace Doxa

open MigrationFile MigrationRun MigrationState

namespace MigrationPhase

/-- The run holds the lock, and has not begun to give it back. -/
def IsLocked : MigrationPhase → Prop
  | reading | batching | migrating _ | executing _ _ | inserting _ _ | committing _ _
  | rollingBack => True
  | _ => False

/-- The rows have been read, and may have been added to. -/
def HasRead : MigrationPhase → Prop
  | batching | migrating _ | executing _ _ | inserting _ _ | committing _ _ => True
  | _ => False

/-- The table is there. -/
def HasTable : MigrationPhase → Prop
  | locking | reading | batching | migrating _ | executing _ _ | inserting _ _
  | committing _ _ => True
  | _ => False

/-- The lock is held, or is about to be given back. -/
def MayHold (phase : MigrationPhase) : Prop :=
  phase.IsLocked ∨ ∃ outcome, phase = unlocking false outcome

/-- What has yet to be applied, of all migrations. -/
def remaining (migrations : List MigrationFile) : MigrationPhase → List MigrationFile
  | ready | creating | locking | reading | batching => migrations
  | migrating remaining => remaining
  | executing migration remaining | inserting migration remaining
  | committing migration remaining => migration :: remaining
  | rollingBack | unlocking _ _ | ended _ => []

/-- The migration in the transaction. -/
def current : MigrationPhase → Option MigrationFile
  | executing migration _ | inserting migration _ | committing migration _ => some migration
  | _ => none

/-- How the run will end, or has ended. -/
def outcome : MigrationPhase → Option MigrationOutcome
  | rollingBack => some .failed
  | unlocking _ outcome | ended outcome => some outcome
  | _ => none

/-- How many statements are left at most. -/
def rank (migrations : List MigrationFile) : MigrationPhase → ℕ
  | ready => 4 * migrations.length + 8
  | creating => 4 * migrations.length + 7
  | locking => 4 * migrations.length + 6
  | reading => 4 * migrations.length + 5
  | batching => 4 * migrations.length + 4
  | migrating remaining => 4 * remaining.length + 3
  | executing _ remaining => 4 * remaining.length + 6
  | inserting _ remaining => 4 * remaining.length + 5
  | committing _ remaining => 4 * remaining.length + 4
  | rollingBack => 2
  | unlocking _ _ => 1
  | ended _ => 0

end MigrationPhase

namespace MigrationState

variable {migrations : List MigrationFile} {s t : MigrationState} {index : ℕ} {run : MigrationRun}
  {label : MigrationLabel}

/-- What holds of a run. -/
structure SoundRun (migrations : List MigrationFile) (s : MigrationState) (index : ℕ)
    (run : MigrationRun) : Prop where
  creating : run.phase = .creating → s.table = none
  table : run.phase.HasTable → s.table ≠ none
  locked : run.phase.IsLocked → s.lock = some index
  rows : run.phase.HasRead →
    s.rows.map MigrationRow.id = run.existing.map MigrationRow.id ++ run.applied
  order : (run.applied ++ (run.phase.remaining migrations).map MigrationFile.id).Sublist
    (migrations.map MigrationFile.id)
  fresh : ∀ migration ∈ run.phase.current, ¬ run.Has migration.id
  unread : run.phase.outcome = none → ¬ run.phase.HasRead → run.existing = []
  changed : run.HasChanged migrations → run.applied = [] ∧ run.phase.outcome ≠ none
  outcome : run.hit = false → ∀ outcome ∈ run.phase.outcome,
    outcome = .succeeded ∨ run.HasChanged migrations
  clean : ∀ outcome, run.phase ≠ .unlocking true outcome

/-- What holds in every run. -/
structure Sound (migrations : List MigrationFile) (s : MigrationState) : Prop where
  once : ∀ migration ∈ migrations, s.effects.count migration.id =
    if migration.id ∈ s.rows.map MigrationRow.id then 1 else 0
  runs : ∀ index run, s.runs[index]? = some run → SoundRun migrations s index run
  holder : ∀ index ∈ s.lock, ∃ run, s.runs[index]? = some run ∧ run.phase.MayHold
  creator : ∀ (index other : ℕ) (run run' : MigrationRun), s.runs[index]? = some run →
    s.runs[other]? = some run' → run.phase = .creating →
      run'.phase = .creating → index = other

theorem IsInitial.sound (h : s.IsInitial migrations) : s.Sound migrations where
  once := h.effects
  runs := by
    intro index run hrun
    obtain rfl := h.runs run (List.mem_of_getElem? hrun)
    refine ⟨?_, ?_, ?_, ?_, ?_, ?_, ?_, ?_, ?_, ?_⟩ <;>
      simp [fresh, MigrationPhase.IsLocked, MigrationPhase.HasRead,
        MigrationPhase.HasTable,
        MigrationPhase.remaining, MigrationPhase.current, MigrationPhase.outcome,
        HasChanged, MigrationRun.checksum]
  holder := by simp [h.lock]
  creator := by
    intro index other run run' hrun _ hcreating _
    obtain rfl := h.runs run (List.mem_of_getElem? hrun)
    cases hcreating

/-! ### A run goes on -/

variable {run' : MigrationRun} {outcome : MigrationOutcome}

/-- The runs after one of them has gone on. -/
theorem getElem?_put {other : ℕ} (h : (s.put index run).runs[other]? = some run') :
    other = index ∧ run' = run ∨ other ≠ index ∧ s.runs[other]? = some run' := by
  rw [put] at h
  by_cases hother : index = other
  · subst hother
    rw [List.getElem?_set_self'] at h
    obtain ⟨-, -, rfl⟩ := Option.map_eq_some_iff.1 h
    exact .inl ⟨rfl, rfl⟩
  · rw [List.getElem?_set_ne hother] at h
    exact .inr ⟨Ne.symm hother, h⟩

/-- What holds of a run holds of it still while it does nothing itself. -/
theorem SoundRun.keep (h : SoundRun migrations s index run)
    (hcreating : run.phase = .creating → t.table = s.table)
    (htable : s.table ≠ none → t.table ≠ none) (hlock : run.phase.IsLocked → t.lock = s.lock)
    (hrows : run.phase.IsLocked → t.rows = s.rows) : SoundRun migrations t index run where
  creating := fun hphase => (hcreating hphase).trans (h.creating hphase)
  table := fun hphase => htable (h.table hphase)
  locked := fun hphase => (hlock hphase).trans (h.locked hphase)
  rows := by
    intro hphase
    have hlocked : run.phase.IsLocked := by
      cases hrun : run.phase <;> simp_all [MigrationPhase.HasRead, MigrationPhase.IsLocked]
    rw [hrows hlocked]
    exact h.rows hphase
  order := h.order
  fresh := h.fresh
  unread := h.unread
  changed := h.changed
  outcome := h.outcome
  clean := h.clean

/-- One run holds the lock. -/
theorem Sound.index_eq (h : s.Sound migrations) {other : ℕ} (hlock : s.lock = some index)
    (hother : s.runs[other]? = some run') (hlocked : run'.phase.IsLocked) : other = index := by
  have hheld := (h.runs other run' hother).locked hlocked
  rw [hlock] at hheld
  exact (Option.some.inj hheld).symm

/-- **A run goes on**: what holds is to be checked of this run, and of what the others rely on. -/
theorem Sound.put (h : s.Sound migrations) (hrun : s.runs[index]? = some run)
    (hruns : t.runs = s.runs)
    (honce : ∀ migration ∈ migrations, t.effects.count migration.id =
      if migration.id ∈ t.rows.map MigrationRow.id then 1 else 0)
    (hsound : SoundRun migrations t index run')
    (hothers : ∀ other run'', other ≠ index → s.runs[other]? = some run'' →
      SoundRun migrations t other run'')
    (hholder : ∀ other ∈ t.lock, other = index ∧ run'.phase.MayHold ∨
      other ≠ index ∧ s.lock = some other)
    (hcreator : run'.phase = .creating → ∀ (other : ℕ) (run'' : MigrationRun),
      s.runs[other]? = some run'' → run''.phase ≠ .creating) :
    (t.put index run').Sound migrations where
  once := honce
  runs := by
    intro other run'' hother
    have hkeep : ∀ other run'', SoundRun migrations t other run'' →
        SoundRun migrations (t.put index run') other run'' :=
      fun _ _ hsound => hsound.keep (fun _ => rfl) id (fun _ => rfl) fun _ => rfl
    obtain ⟨rfl, rfl⟩ | ⟨hne, hbefore⟩ := getElem?_put hother
    · exact hkeep _ _ hsound
    · exact hkeep _ _ (hothers other run'' hne (hruns ▸ hbefore))
  holder := by
    intro other hlock
    obtain ⟨rfl, hhold⟩ | ⟨hne, hbefore⟩ := hholder other hlock
    · refine ⟨run', ?_, hhold⟩
      rw [MigrationState.put, hruns]
      exact List.getElem?_set_self (List.getElem?_eq_some_iff.1 hrun).1
    · obtain ⟨run'', hother, hhold⟩ := h.holder other hbefore
      refine ⟨run'', ?_, hhold⟩
      rw [MigrationState.put, hruns, List.getElem?_set_ne hne.symm]
      exact hother
  creator := by
    intro one other run₁ run₂ hone hother hcreating hcreating'
    obtain ⟨rfl, rfl⟩ | ⟨-, hbefore⟩ := getElem?_put hone
    · obtain ⟨rfl, -⟩ | ⟨-, hbefore'⟩ := getElem?_put hother
      · rfl
      · exact absurd hcreating' (hcreator hcreating other run₂ (hruns ▸ hbefore'))
    · obtain ⟨rfl, rfl⟩ | ⟨-, hbefore'⟩ := getElem?_put hother
      · exact absurd hcreating (hcreator hcreating' one run₁ (hruns ▸ hbefore))
      · exact h.creator one other run₁ run₂ (hruns ▸ hbefore) (hruns ▸ hbefore') hcreating
          hcreating'

/-- A run goes on, and the database stays as it is. -/
theorem Sound.advance (h : s.Sound migrations) (hrun : s.runs[index]? = some run)
    (hsound : SoundRun migrations s index run') (hholder : s.lock = some index → run'.phase.MayHold)
    (hcreator : run'.phase = .creating → ∀ (other : ℕ) (run'' : MigrationRun),
      s.runs[other]? = some run'' → run''.phase ≠ .creating) :
    (s.put index run').Sound migrations := by
  refine h.put hrun rfl h.once hsound (fun other run'' _ hother => h.runs other run'' hother)
    (fun other hlock => ?_) hcreator
  by_cases hother : other = index
  · subst hother
    exact .inl ⟨rfl, hholder hlock⟩
  · exact .inr ⟨hother, hlock⟩

theorem MigrationPhase.not_hasRead {phase : MigrationPhase} (h : phase.outcome = some outcome) :
    ¬ phase.HasRead := by
  cases phase <;> simp_all [MigrationPhase.outcome, MigrationPhase.HasRead]

/-- Nothing has been read yet, and nothing has been applied. -/
theorem SoundRun.early (h : SoundRun migrations s index run)
    (hbefore : run.phase.outcome = none ∧ ¬ run.phase.HasRead)
    (hremaining : run.phase.remaining migrations = migrations)
    (hsame : run'.existing = run.existing ∧ run'.applied = run.applied)
    (hafter : run'.phase.outcome = none ∧ ¬ run'.phase.HasRead)
    (hremaining' : run'.phase.remaining migrations = migrations)
    (hcreating : run'.phase = .creating → t.table = none)
    (htable : run'.phase.HasTable → t.table ≠ none)
    (hlocked : run'.phase.IsLocked → t.lock = some index) : SoundRun migrations t index run' where
  creating := hcreating
  table := htable
  locked := hlocked
  rows := fun hread => absurd hread hafter.2
  order := by
    have horder := h.order
    rw [hremaining] at horder
    rwa [hsame.2, hremaining']
  fresh := by
    intro migration hcurrent
    rw [Has, hsame.1, h.unread hbefore.1 hbefore.2]
    simp
  unread := fun _ _ => hsame.1.trans (h.unread hbefore.1 hbefore.2)
  changed := by
    rintro ⟨migration, -, checksum, hchecksum, -⟩
    rw [MigrationRun.checksum, hsame.1, h.unread hbefore.1 hbefore.2] at hchecksum
    cases hchecksum
  outcome := by simp [hafter.1]
  clean := by
    intro outcome hphase
    rw [hphase] at hafter
    cases hafter.1

/-- A run that is about to end has applied what it has applied. -/
theorem SoundRun.over (h : SoundRun migrations s index run)
    (hsame : run'.existing = run.existing ∧ run'.applied = run.applied)
    (houtcome : run'.phase.outcome = some outcome)
    (hlocked : run'.phase.IsLocked → t.lock = some index)
    (hok : run'.hit = false → outcome = .succeeded ∨ run.HasChanged migrations)
    (hclean : ∀ outcome, run'.phase ≠ .unlocking true outcome) :
    SoundRun migrations t index run' := by
  have hchanged : run'.HasChanged migrations ↔ run.HasChanged migrations := by
    rw [HasChanged, HasChanged]
    simp only [MigrationRun.checksum, hsame.1]
  refine ⟨?_, ?_, hlocked, fun hread => ?_, ?_, ?_, ?_, ?_, ?_, hclean⟩
  · intro hphase
    rw [hphase] at houtcome
    cases houtcome
  · intro htable
    cases hphase : run'.phase <;>
      simp_all [MigrationPhase.outcome, MigrationPhase.HasTable]
  · exact absurd hread (MigrationPhase.not_hasRead houtcome)
  · have hremaining : run'.phase.remaining migrations = [] := by
      cases hphase : run'.phase <;>
        simp_all [MigrationPhase.outcome, MigrationPhase.remaining]
    rw [hremaining, List.map_nil, List.append_nil, hsame.2]
    exact (List.sublist_append_left _ _).trans h.order
  · intro migration hcurrent
    cases hphase : run'.phase <;>
      simp_all [MigrationPhase.outcome, MigrationPhase.current]
  · simp [houtcome]
  · intro hhas
    exact ⟨hsame.2.trans (h.changed (hchanged.1 hhas)).1, by simp [houtcome]⟩
  · intro hhit found hfound
    rw [houtcome, Option.mem_some_iff] at hfound
    rw [← hfound, hchanged]
    exact hok hhit

/-- A run that has read the rows, and goes on to work. -/
theorem SoundRun.work (h : SoundRun migrations s index run) (hread : run.phase.HasRead)
    (hsame : run'.existing = run.existing ∧ run'.applied = run.applied)
    (hread' : run'.phase.HasRead)
    (horder : ((run'.phase.remaining migrations).map MigrationFile.id).Sublist
      ((run.phase.remaining migrations).map MigrationFile.id))
    (hfresh : ∀ migration ∈ run'.phase.current, ¬ run.Has migration.id) :
    SoundRun migrations s index run' := by
  have hnone : run.phase.outcome = none ∧ run'.phase.outcome = none := by
    cases hphase : run.phase <;> cases hphase' : run'.phase <;>
      simp_all [MigrationPhase.outcome, MigrationPhase.HasRead]
  have hlocked : run.phase.IsLocked := by
    cases hphase : run.phase <;> simp_all [MigrationPhase.HasRead, MigrationPhase.IsLocked]
  have htable : run.phase.HasTable := by
    cases hphase : run.phase <;> simp_all [MigrationPhase.HasRead, MigrationPhase.HasTable]
  refine ⟨?_, fun _ => h.table htable, fun _ => h.locked hlocked, fun _ => ?_, ?_, ?_, ?_, ?_, ?_,
    ?_⟩
  · intro hphase
    rw [hphase] at hread'
    cases hread'
  · rw [hsame.1, hsame.2]
    exact h.rows hread
  · rw [hsame.2]
    exact ((List.Sublist.refl _).append horder).trans h.order
  · intro migration hcurrent
    rw [Has, hsame.1]
    exact hfresh migration hcurrent
  · intro _ hnot
    exact absurd hread' hnot
  · rintro ⟨migration, hmem, checksum, hchecksum, hne⟩
    rw [MigrationRun.checksum, hsame.1] at hchecksum
    exact absurd hnone.1 (h.changed ⟨migration, hmem, checksum, hchecksum, hne⟩).2
  · simp [hnone.2]
  · intro outcome hphase
    rw [hphase] at hread'
    cases hread'

/-! ### The steps -/

/-- Nothing of a run in a phase of its own. -/
theorem goto_same (run : MigrationRun) (phase : MigrationPhase) :
    (run.goto phase).existing = run.existing ∧ (run.goto phase).applied = run.applied :=
  ⟨rfl, rfl⟩

theorem Sound.ready (h : s.Sound migrations) (hrun : s.runs[index]? = some run)
    (hphase : run.phase = .ready)
    (hguard : s.table = none → ∀ other ∈ s.runs, other.phase ≠ .creating)
    (hstep : s.proceed migrations index run = some t) : t.Sound migrations := by
  have hsound := h.runs index run hrun
  have hbefore : run.phase.outcome = none ∧ ¬ run.phase.HasRead := by
    rw [hphase]
    exact ⟨rfl, id⟩
  have hfree : s.lock ≠ some index := by
    intro hlock
    obtain ⟨run', hrun', hhold⟩ := h.holder index hlock
    rw [hrun] at hrun'
    cases hrun'
    rw [hphase] at hhold
    obtain hlocked | ⟨outcome, hunlocking⟩ := hhold
    · exact hlocked
    · cases hunlocking
  rw [proceed, hphase] at hstep
  dsimp only at hstep
  split_ifs at hstep with htable
  · cases hstep
    refine h.advance hrun ?_ (fun hlock => absurd hlock hfree)
      fun _ other run'' hother => hguard htable run'' (List.mem_of_getElem? hother)
    exact hsound.early hbefore (by rw [hphase]; rfl) (goto_same run _) ⟨rfl, id⟩ rfl
      (fun _ => htable) False.elim False.elim
  · cases hstep
    refine h.advance hrun ?_ (fun hlock => absurd hlock hfree) (fun hcreating => by cases hcreating)
    exact hsound.early hbefore (by rw [hphase]; rfl) (goto_same run _) ⟨rfl, id⟩ rfl
      (fun hcreating => by cases hcreating) (fun _ => htable) False.elim

/-- A run that makes the table is alone with it. -/
theorem Sound.creating (h : s.Sound migrations) (hrun : s.runs[index]? = some run)
    (hphase : run.phase = .creating)
    (hstep : s.proceed migrations index run = some t) : t.Sound migrations := by
  have hsound := h.runs index run hrun
  have htable := hsound.creating hphase
  have hbefore : run.phase.outcome = none ∧ ¬ run.phase.HasRead := by
    rw [hphase]
    exact ⟨rfl, id⟩
  have hrows : ({ s with table := some [] } : MigrationState).rows = s.rows := by
    simp [MigrationState.rows, htable]
  rw [proceed, hphase] at hstep
  dsimp only at hstep
  rw [if_pos htable] at hstep
  cases hstep
  refine h.put hrun rfl ?_ ?_ ?_ ?_ (fun hcreating => by cases hcreating)
  · rw [hrows]
    exact h.once
  · exact hsound.early hbefore (by rw [hphase]; rfl) (goto_same run _) ⟨rfl, id⟩ rfl
      (fun hcreating => by cases hcreating) (fun _ => Option.some_ne_none _) False.elim
  · intro other run'' hne hother
    refine (h.runs other run'' hother).keep (fun hcreating => ?_)
      (fun _ => Option.some_ne_none _) (fun _ => rfl) fun _ => hrows
    exact absurd (h.creator other index run'' run hother hrun hcreating hphase) hne
  · intro other hlock
    refine .inr ⟨?_, hlock⟩
    rintro rfl
    obtain ⟨run', hrun', hhold⟩ := h.holder other hlock
    rw [hrun] at hrun'
    cases hrun'
    rw [hphase] at hhold
    obtain hlocked | ⟨outcome, hunlocking⟩ := hhold
    · exact hlocked
    · cases hunlocking

theorem Sound.locking (h : s.Sound migrations) (hrun : s.runs[index]? = some run)
    (hphase : run.phase = .locking)
    (hstep : s.proceed migrations index run = some t) : t.Sound migrations := by
  have hsound := h.runs index run hrun
  have hbefore : run.phase.outcome = none ∧ ¬ run.phase.HasRead := by
    rw [hphase]
    exact ⟨rfl, id⟩
  rw [proceed, hphase] at hstep
  dsimp only at hstep
  split_ifs at hstep with hlock
  cases hstep
  refine h.put hrun rfl h.once ?_ ?_ ?_ (fun hcreating => by cases hcreating)
  · exact hsound.early hbefore (by rw [hphase]; rfl) (goto_same run _) ⟨rfl, id⟩ rfl
      (fun hcreating => by cases hcreating) (fun _ => hsound.table (by rw [hphase]; trivial))
      fun _ => rfl
  · intro other run'' _ hother
    refine (h.runs other run'' hother).keep (fun _ => rfl) id (fun hlocked => ?_) fun _ => rfl
    -- No other run holds the lock.
    have hheld := (h.runs other run'' hother).locked hlocked
    rw [hlock] at hheld
    cases hheld
  · intro other hother
    cases hother
    exact .inl ⟨rfl, .inl trivial⟩

/-- A run that has read the rows knows what has changed, if no checksum is empty. -/
theorem hasChanged_iff (hnonempty : ∀ migration ∈ migrations, ∀ row ∈ run.existing,
    row.id = migration.id → row.checksum = "" → migration.checksum = "") :
    run.changed migrations = none ↔ ¬ run.HasChanged migrations := by
  rw [changed, List.find?_eq_none, HasChanged]
  constructor
  · rintro hnone ⟨migration, hmem, checksum, hchecksum, hne⟩
    refine hnone migration hmem ?_
    rw [Option.mem_def] at hchecksum
    rw [hchecksum, Option.any_some, decide_eq_true_eq]
    refine ⟨fun hempty => hne ?_, hne⟩
    obtain ⟨row, hrow, hsame⟩ := Option.map_eq_some_iff.1 hchecksum
    have hid := List.find?_some hrow
    rw [hempty]
    exact (hnonempty migration hmem row (List.mem_of_find?_eq_some hrow) (of_decide_eq_true hid)
      (hsame.trans hempty)).symm
  · intro hunchanged migration hmem hchanged
    cases hfound : run.checksum migration.id with
    | none => simp [hfound] at hchanged
    | some checksum =>
      rw [hfound, Option.any_some, decide_eq_true_eq] at hchanged
      exact hunchanged ⟨migration, hmem, checksum, hfound, hchanged.2⟩

theorem Sound.reading (h : s.Sound migrations) (hrun : s.runs[index]? = some run)
    (hphase : run.phase = .reading)
    (hguard : ∀ migration ∈ migrations, ∀ row ∈ s.rows, row.id = migration.id →
      row.checksum = "" → migration.checksum = "")
    (hstep : s.proceed migrations index run = some t) : t.Sound migrations := by
  obtain ⟨phase, existing, batch, applied, alive, hit⟩ := run
  obtain rfl : phase = .reading := hphase
  have hsound := h.runs index _ hrun
  have hlock : s.lock = some index := hsound.locked trivial
  have happlied : applied = [] := by
    have hlength := hsound.order.length_le
    simpa [MigrationPhase.remaining] using hlength
  subst happlied
  have hchanged : changed migrations
      ⟨.reading, s.rows, batch, [], alive, hit⟩ = none ↔
        ¬ HasChanged migrations
          ⟨.reading, s.rows, batch, [], alive, hit⟩ := hasChanged_iff hguard
  rw [proceed] at hstep
  dsimp only at hstep
  split at hstep
  · next migration hfound =>
      cases hstep
      have hhas : HasChanged migrations
          ⟨.reading, s.rows, batch, [], alive, hit⟩ := by
        by_contra hnot
        rw [hchanged.2 hnot] at hfound
        cases hfound
      refine h.advance hrun ?_ (fun _ => .inr ⟨_, rfl⟩) (fun hcreating => by cases hcreating)
      refine ⟨?_, False.elim, False.elim, False.elim, ?_, ?_, ?_, ?_, ?_, ?_⟩
      · intro hcreating
        cases hcreating
      · simp [goto, MigrationPhase.remaining]
      · simp [goto, MigrationPhase.current]
      · simp [goto, MigrationPhase.outcome]
      · exact fun _ => ⟨rfl, by simp [goto, MigrationPhase.outcome]⟩
      · exact fun _ _ _ => .inr hhas
      · intro outcome hunlocking
        cases hunlocking
  · next hfound =>
      cases hstep
      refine h.advance hrun ?_ (fun _ => .inl trivial) (fun hcreating => by cases hcreating)
      refine ⟨?_, fun _ => hsound.table trivial, fun _ => hlock, fun _ => ?_, ?_, ?_, ?_, ?_, ?_,
        ?_⟩
      · intro hcreating
        cases hcreating
      · simp [goto]
      · simp [goto, MigrationPhase.remaining]
      · simp [goto, MigrationPhase.current]
      · simp [goto, MigrationPhase.HasRead]
      · exact fun hhas => absurd hhas (hchanged.1 hfound)
      · simp [goto, MigrationPhase.outcome]
      · intro outcome hunlocking
        cases hunlocking

/-- A run that works on does not make the table, and keeps the lock. -/
theorem Sound.work (h : s.Sound migrations) (hrun : s.runs[index]? = some run)
    (hread : run.phase.HasRead) (hsame : run'.existing = run.existing ∧ run'.applied = run.applied)
    (hread' : run'.phase.HasRead)
    (horder : ((run'.phase.remaining migrations).map MigrationFile.id).Sublist
      ((run.phase.remaining migrations).map MigrationFile.id))
    (hfresh : ∀ migration ∈ run'.phase.current, ¬ run.Has migration.id) :
    (s.put index run').Sound migrations := by
  refine h.advance hrun ((h.runs index run hrun).work hread hsame hread' horder hfresh)
    (fun _ => .inl ?_) fun hcreating => ?_
  · cases hphase : run'.phase <;> simp_all [MigrationPhase.HasRead, MigrationPhase.IsLocked]
  · rw [hcreating] at hread'
    cases hread'

/-- The migration in the transaction is new. -/
theorem SoundRun.not_mem_rows (h : SoundRun migrations s index run)
    (hnodup : (migrations.map MigrationFile.id).Nodup) (hread : run.phase.HasRead)
    {migration : MigrationFile} (hcurrent : run.phase.current = some migration) :
    migration.id ∉ s.rows.map MigrationRow.id := by
  rw [h.rows hread, List.mem_append, not_or]
  refine ⟨h.fresh migration hcurrent, fun happlied => ?_⟩
  have horder := h.order.nodup hnodup
  have hremaining : migration.id ∈ (run.phase.remaining migrations).map MigrationFile.id := by
    cases hphase : run.phase <;>
      simp_all [MigrationPhase.current, MigrationPhase.remaining]
  exact (List.nodup_append.1 horder).2.2 _ happlied _ hremaining rfl

/-- **A migration is committed**: its statements have taken effect once, as it has one row. -/
theorem Sound.committing (h : s.Sound migrations)
    (hnodup : (migrations.map MigrationFile.id).Nodup) (hrun : s.runs[index]? = some run)
    {migration : MigrationFile} {remaining : List MigrationFile}
    (hphase : run.phase = .committing migration remaining)
    (hstep : s.proceed migrations index run = some t) : t.Sound migrations := by
  have hsound := h.runs index run hrun
  have hread : run.phase.HasRead := by
    rw [hphase]
    trivial
  have hlock : s.lock = some index := hsound.locked (by rw [hphase]; trivial)
  have hcurrent : run.phase.current = some migration := by
    rw [hphase]
    rfl
  have hnew := hsound.not_mem_rows hnodup hread hcurrent
  rw [proceed, hphase] at hstep
  cases hstep
  have hrows : (s.commitMigration migration run.batch).rows.map MigrationRow.id =
      s.rows.map MigrationRow.id ++ [migration.id] := by
    simp [commitMigration, MigrationState.rows]
  refine h.put hrun rfl ?_ ?_ ?_ ?_ (fun hcreating => by cases hcreating)
  · intro other hmem
    rw [hrows, commitMigration, List.count_append, h.once other hmem]
    by_cases hid : other.id = migration.id
    · rw [hid, if_neg hnew]
      simp
    · simp [hid, Ne.symm hid]
  · refine ⟨?_, fun _ => Option.some_ne_none _, fun _ => hlock, fun _ => ?_, ?_, ?_, ?_, ?_, ?_,
      ?_⟩
    · intro hcreating
      cases hcreating
    · rw [hrows, hsound.rows hread, List.append_assoc]
    · have horder := hsound.order
      rw [hphase] at horder
      simpa [MigrationPhase.remaining] using horder
    · simp [MigrationPhase.current]
    · simp [MigrationPhase.HasRead]
    · intro hhas
      have hover := (hsound.changed hhas).2
      rw [hphase] at hover
      exact absurd rfl hover
    · simp [MigrationPhase.outcome]
    · intro outcome hunlocking
      cases hunlocking
  · intro other run'' hne hother
    have hothers := h.runs other run'' hother
    refine hothers.keep (fun hcreating => ?_) (fun _ => Option.some_ne_none _) (fun _ => rfl)
      fun hlocked => ?_
    · exact absurd (hothers.creating hcreating) (hsound.table (by rw [hphase]; trivial))
    · exact absurd (h.index_eq hlock hother hlocked) hne
  · intro other hother
    rw [show (s.commitMigration migration run.batch).lock = s.lock from rfl, hlock] at hother
    cases hother
    exact .inl ⟨rfl, .inl trivial⟩

/-- A run that holds no lock leaves the others alone. -/
theorem release_lock {other : ℕ} (h : (s.release index).lock = some other) :
    other ≠ index ∧ s.lock = some other := by
  rw [release] at h
  dsimp only at h
  split_ifs at h with hlock
  refine ⟨?_, h⟩
  rintro rfl
  exact hlock h

/-- A run ends, and its lock is free. -/
theorem Sound.leave (h : s.Sound migrations) (hrun : s.runs[index]? = some run)
    (hsound : SoundRun migrations (s.release index) index run') (hended : IsEnded run') :
    ((s.release index).put index run').Sound migrations := by
  obtain ⟨outcome, hended⟩ := hended
  refine h.put hrun rfl h.once hsound (fun other run'' hne hother => ?_)
    (fun other hlock => .inr (release_lock hlock)) fun hcreating => ?_
  · refine (h.runs other run'' hother).keep (fun _ => rfl) id (fun hlocked => ?_) fun _ => rfl
    have hheld := (h.runs other run'' hother).locked hlocked
    simp [release, hheld, hne]
  · rw [hended] at hcreating
    cases hcreating

theorem Sound.rollingBack (h : s.Sound migrations) (hrun : s.runs[index]? = some run)
    (hphase : run.phase = .rollingBack)
    (hstep : s.proceed migrations index run = some t) : t.Sound migrations := by
  have hsound := h.runs index run hrun
  rw [proceed, hphase] at hstep
  cases hstep
  refine h.advance hrun ?_ (fun _ => .inr ⟨_, rfl⟩) fun hcreating => by cases hcreating
  refine hsound.over (goto_same run _) rfl False.elim (fun hhit => ?_) fun outcome hunlocking => ?_
  · exact hsound.outcome hhit _ (by rw [hphase]; rfl)
  · cases hunlocking

theorem Sound.unlocking (h : s.Sound migrations) (hrun : s.runs[index]? = some run) {aborted : Bool}
    (hphase : run.phase = .unlocking aborted outcome)
    (hstep : s.proceed migrations index run = some t) : t.Sound migrations := by
  have hsound := h.runs index run hrun
  obtain rfl : aborted = false := by
    cases aborted with
    | false => rfl
    | true => exact absurd hphase (hsound.clean outcome)
  rw [proceed, hphase] at hstep
  cases hstep
  refine h.leave hrun ?_ ⟨outcome, rfl⟩
  refine hsound.over (goto_same run _) rfl False.elim (fun hhit => ?_) fun outcome hunlocking => ?_
  · exact hsound.outcome hhit _ (by rw [hphase]; rfl)
  · cases hunlocking

/-- **A statement that succeeds keeps what holds.** -/
theorem Sound.proceed (h : s.Sound migrations) (hnodup : (migrations.map MigrationFile.id).Nodup)
    (hrun : s.runs[index]? = some run)
    (hguard : MigratesSafely migrations s (.proceed index))
    (hstep : s.proceed migrations index run = some t) : t.Sound migrations := by
  obtain ⟨hready, hreading⟩ := hguard run hrun
  have hsound := h.runs index run hrun
  cases hphase : run.phase with
  | ready => exact h.ready hrun hphase (hready hphase) hstep
  | creating => exact h.creating hrun hphase hstep
  | locking => exact h.locking hrun hphase hstep
  | reading => exact h.reading hrun hphase (hreading hphase) hstep
  | batching =>
    have hread : run.phase.HasRead := by
      rw [hphase]
      trivial
    rw [MigrationState.proceed, hphase] at hstep
    cases hstep
    refine h.work hrun hread ⟨rfl, rfl⟩ trivial ?_ fun migration hcurrent => ?_
    · simp [hphase, MigrationPhase.remaining]
    · cases hcurrent
  | migrating remaining =>
    have hread : run.phase.HasRead := by
      rw [hphase]
      trivial
    rw [MigrationState.proceed, hphase] at hstep
    cases remaining with
    | nil =>
      cases hstep
      refine h.advance hrun ?_ (fun _ => .inr ⟨_, rfl⟩) fun hcreating => by cases hcreating
      refine hsound.over (goto_same run _) rfl False.elim (fun _ => .inl rfl)
        fun outcome hunlocking => ?_
      cases hunlocking
    | cons migration remaining =>
      dsimp only at hstep
      split_ifs at hstep with hhas
      · cases hstep
        refine h.work hrun hread (goto_same run _) trivial ?_ fun other hcurrent => ?_
        · simp [hphase, goto, MigrationPhase.remaining]
        · cases hcurrent
      · cases hstep
        refine h.work hrun hread (goto_same run _) trivial ?_ fun other hcurrent => ?_
        · simp [hphase, goto, MigrationPhase.remaining]
        · cases hcurrent
          exact hhas
  | executing migration remaining =>
    have hread : run.phase.HasRead := by
      rw [hphase]
      trivial
    rw [MigrationState.proceed, hphase] at hstep
    cases hstep
    refine h.work hrun hread (goto_same run _) trivial ?_ fun other hcurrent => ?_
    · simp [hphase, goto, MigrationPhase.remaining]
    · exact hsound.fresh other (by rw [hphase]; exact hcurrent)
  | inserting migration remaining =>
    have hread : run.phase.HasRead := by
      rw [hphase]
      trivial
    have hcurrent : run.phase.current = some migration := by
      rw [hphase]
      rfl
    rw [MigrationState.proceed, hphase] at hstep
    dsimp only at hstep
    rw [if_neg (hsound.not_mem_rows hnodup hread hcurrent)] at hstep
    cases hstep
    refine h.work hrun hread (goto_same run _) trivial ?_ fun other hother => ?_
    · simp [hphase, goto, MigrationPhase.remaining]
    · exact hsound.fresh other (by rw [hphase]; exact hother)
  | committing migration remaining => exact h.committing hnodup hrun hphase hstep
  | rollingBack => exact h.rollingBack hrun hphase hstep
  | unlocking aborted outcome => exact h.unlocking hrun hphase hstep
  | ended outcome =>
    rw [MigrationState.proceed, hphase] at hstep
    cases hstep

/-- A statement that fails is not one that ends a transaction or gives the lock back. -/
theorem Sound.fails (h : s.Sound migrations) (hrun : s.runs[index]? = some run)
    (hphase : ∀ outcome, run.phase ≠ .ended outcome)
    (hguard : MigratesSafely migrations s (.fails index)) :
    (s.put index { run with phase := failed run.phase, hit := true }).Sound migrations := by
  have hopen := hguard run hrun
  have hsound := h.runs index run hrun
  have hfailed : failed run.phase = .rollingBack ∧ run.phase.IsLocked ∨
      failed run.phase = .unlocking false .failed := by
    cases hrun' : run.phase <;> simp_all [failed, MigrationPhase.IsLocked, IsClosing]
  refine h.advance hrun ?_ (fun _ => ?_) fun hcreating => ?_
  · have houtcome : (failed run.phase).outcome = some .failed := by
      obtain ⟨hfailed, -⟩ | hfailed := hfailed <;> rw [hfailed] <;> rfl
    refine hsound.over ⟨rfl, rfl⟩ houtcome ?_ ?_ ?_
    · intro hlocked
      obtain ⟨-, hbefore⟩ | hfailed := hfailed
      · exact hsound.locked hbefore
      · rw [hfailed] at hlocked
        exact hlocked.elim
    · intro hhit
      cases hhit
    · intro outcome haborted
      obtain ⟨hfailed, -⟩ | hfailed := hfailed <;> simp [hfailed] at haborted
  · obtain ⟨hfailed, -⟩ | hfailed := hfailed
    · exact .inl (by rw [hfailed]; trivial)
    · exact .inr ⟨_, hfailed⟩
  · obtain ⟨hfailed, -⟩ | hfailed := hfailed <;> simp [hfailed] at hcreating

theorem Sound.disconnect (h : s.Sound migrations) (hrun : s.runs[index]? = some run) :
    ((s.release index).put index { run with
      phase := .ended (lost run.phase), alive := false, hit := true }).Sound
        migrations := by
  refine h.leave hrun ?_ ⟨lost run.phase, rfl⟩
  refine (h.runs index run hrun).over ⟨rfl, rfl⟩ rfl False.elim (fun hhit => ?_)
    fun outcome hunlocking => ?_
  · cases hhit
  · cases hunlocking

/-- **A step that meets the condition keeps what holds.** -/
theorem Sound.step (h : s.Sound migrations) (hnodup : (migrations.map MigrationFile.id).Nodup)
    (hguard : MigratesSafely migrations s label) (hstep : s.step migrations label = some t) :
    t.Sound migrations := by
  cases label with
  | proceed index =>
    obtain ⟨run, hrun, hproceed⟩ := Option.bind_eq_some_iff.1 hstep
    exact h.proceed hnodup hrun hguard hproceed
  | fails index =>
    obtain ⟨run, hrun, hfails⟩ := Option.bind_eq_some_iff.1 hstep
    split at hfails
    · cases hfails
    · next hphase =>
        cases hfails
        exact h.fails hrun hphase hguard
  | disconnect index =>
    obtain ⟨run, hrun, hlost⟩ := Option.bind_eq_some_iff.1 hstep
    split at hlost
    · cases hlost
    · cases hlost
      exact h.disconnect hrun

theorem Sound.isMigrated (h : s.Sound migrations) : s.IsMigrated migrations where
  once := h.once
  order := by
    intro run hmem
    obtain ⟨index, hrun⟩ := List.mem_iff_getElem?.1 hmem
    exact (List.sublist_append_left _ _).trans (h.runs index run hrun).order
  changed := by
    intro run hmem hhas
    obtain ⟨index, hrun⟩ := List.mem_iff_getElem?.1 hmem
    exact ((h.runs index run hrun).changed hhas).1
  succeeded := by
    intro run hmem hhit outcome hended
    obtain ⟨index, hrun⟩ := List.mem_iff_getElem?.1 hmem
    exact (h.runs index run hrun).outcome hhit outcome (by rw [hended]; rfl)
  unlocked := by
    intro hended index run hrun _ hlock
    obtain ⟨run', hrun', hhold⟩ := h.holder index hlock
    obtain ⟨outcome, hphase⟩ := hended run' (List.mem_of_getElem? hrun')
    rw [hphase] at hhold
    obtain hlocked | ⟨other, hunlocking⟩ := hhold
    · exact hlocked
    · cases hunlocking

/-! ### How long it takes -/

/-- How many statements all runs have left at most. -/
def rank (migrations : List MigrationFile) (s : MigrationState) : ℕ :=
  (s.runs.map fun run => run.phase.rank migrations).sum

/-- A sum gets smaller if one of its terms does. -/
theorem sum_map_set_lt {α : Type*} {f : α → ℕ} {l : List α} {i : ℕ} {a b : α} (ha : l[i]? = some a)
    (hlt : f b < f a) : ((l.set i b).map f).sum < (l.map f).sum := by
  induction l generalizing i with
  | nil => simp at ha
  | cons c l ih =>
    cases i with
    | zero =>
      simp only [List.getElem?_cons_zero, Option.some.injEq] at ha
      subst ha
      simpa using hlt
    | succ i =>
      rw [List.getElem?_cons_succ] at ha
      simpa using ih ha

/-- A statement that succeeds is behind the run. -/
theorem rank_proceed (hstep : s.proceed migrations index run = some t) : ∃ run',
    t.runs = s.runs.set index run' ∧ run'.phase.rank migrations < run.phase.rank migrations := by
  obtain ⟨phase, existing, batch, applied, alive, hit⟩ := run
  cases phase with
  | ready | creating | locking | inserting migration remaining =>
    simp only [proceed] at hstep
    split_ifs at hstep <;> cases hstep <;>
      exact ⟨_, rfl, by simp [MigrationRun.goto, MigrationPhase.rank]⟩
  | reading =>
    simp only [proceed] at hstep
    split at hstep <;> cases hstep <;>
      exact ⟨_, rfl, by simp [MigrationRun.goto, MigrationPhase.rank]⟩
  | migrating remaining =>
    cases remaining with
    | nil =>
      cases hstep
      exact ⟨_, rfl, by simp [MigrationRun.goto, MigrationPhase.rank]⟩
    | cons migration remaining =>
      simp only [proceed] at hstep
      split_ifs at hstep <;> cases hstep <;> refine ⟨_, rfl, ?_⟩ <;>
        simp only [MigrationRun.goto, MigrationPhase.rank, List.length_cons] <;> omega
  | unlocking aborted outcome =>
    cases hstep
    cases aborted <;> exact ⟨_, rfl, by simp [MigrationRun.goto, MigrationPhase.rank]⟩
  | ended outcome => cases hstep
  | batching | executing migration remaining | committing migration remaining | rollingBack =>
    cases hstep
    exact ⟨_, rfl, by simp [MigrationRun.goto, MigrationPhase.rank]⟩

/-- **Every step leaves fewer statements.** -/
theorem rank_step (hstep : s.step migrations label = some t) :
    t.rank migrations < s.rank migrations := by
  cases label with
  | proceed index =>
    obtain ⟨run, hrun, hproceed⟩ := Option.bind_eq_some_iff.1 hstep
    obtain ⟨run', hruns, hlt⟩ := rank_proceed hproceed
    rw [rank, hruns]
    exact sum_map_set_lt hrun hlt
  | fails index =>
    obtain ⟨run, hrun, hfails⟩ := Option.bind_eq_some_iff.1 hstep
    split at hfails
    · cases hfails
    · next hphase =>
        cases hfails
        refine sum_map_set_lt hrun ?_
        cases hrun' : run.phase <;> simp_all [failed, MigrationPhase.rank]
  | disconnect index =>
    obtain ⟨run, hrun, hlost⟩ := Option.bind_eq_some_iff.1 hstep
    split at hlost
    · cases hlost
    · next hphase =>
        cases hlost
        refine sum_map_set_lt hrun ?_
        cases hrun' : run.phase <;> simp_all [MigrationPhase.rank]

theorem rank_run {guard : MigrationState → MigrationLabel → Prop} {labels : List MigrationLabel}
    (hrun : Transition.Run (step migrations) guard s labels t) :
    labels.length + t.rank migrations ≤ s.rank migrations := by
  induction hrun with
  | nil => simp
  | cons _ hstep _ ih =>
    have hlt := rank_step hstep
    rw [List.length_cons]
    omega

/-- A run goes on unless it waits for the lock, or has ended. -/
theorem proceed_of_not_locking (migrations : List MigrationFile) (s : MigrationState) (index : ℕ)
    (hlocking : run.phase ≠ .locking)
    (hended : ¬ IsEnded run) : ∃ t, s.proceed migrations index run = some t := by
  obtain ⟨phase, existing, batch, applied, alive, hit⟩ := run
  cases phase with
  | locking => exact absurd rfl hlocking
  | ended outcome => exact absurd ⟨outcome, rfl⟩ hended
  | ready | creating | inserting migration remaining =>
    simp only [proceed]
    split_ifs <;> exact ⟨_, rfl⟩
  | reading =>
    simp only [proceed]
    split <;> exact ⟨_, rfl⟩
  | migrating remaining =>
    cases remaining with
    | nil => exact ⟨_, rfl⟩
    | cons migration remaining =>
      simp only [proceed]
      split_ifs <;> exact ⟨_, rfl⟩
  | _ => exact ⟨_, rfl⟩

/-- **No deadlock**: if not all runs have ended, one of them goes on. -/
theorem Sound.exists_proceed (h : s.Sound migrations) (hopen : ∃ run ∈ s.runs, ¬ IsEnded run) :
    ∃ (index : ℕ) (t : MigrationState),
      s.step migrations (.proceed index) = some t := by
  obtain ⟨run, hmem, hended⟩ := hopen
  obtain ⟨index, hrun⟩ := List.mem_iff_getElem?.1 hmem
  cases hlock : s.lock with
  | none =>
    by_cases hlocking : run.phase = .locking
    · have hstep : ∃ t, s.proceed migrations index run = some t := by
        rw [MigrationState.proceed, hlocking]
        exact ⟨_, if_pos hlock⟩
      obtain ⟨t, hstep⟩ := hstep
      exact ⟨index, t, Option.bind_eq_some_iff.2 ⟨run, hrun, hstep⟩⟩
    · obtain ⟨t, hstep⟩ := proceed_of_not_locking migrations s index hlocking hended
      exact ⟨index, t, Option.bind_eq_some_iff.2 ⟨run, hrun, hstep⟩⟩
  | some other =>
    -- The run that holds the lock goes on.
    obtain ⟨run', hrun', hhold⟩ := h.holder other hlock
    have hlocking : run'.phase ≠ .locking := by
      intro hphase
      rw [hphase] at hhold
      obtain hlocked | ⟨outcome, hunlocking⟩ := hhold
      · exact hlocked
      · cases hunlocking
    have hended' : ¬ IsEnded run' := by
      rintro ⟨outcome, hphase⟩
      rw [hphase] at hhold
      obtain hlocked | ⟨other, hunlocking⟩ := hhold
      · exact hlocked
      · cases hunlocking
    obtain ⟨t, hstep⟩ := proceed_of_not_locking migrations s other hlocking hended'
    exact ⟨other, t, Option.bind_eq_some_iff.2 ⟨run', hrun', hstep⟩⟩

end MigrationState

open MigrationState

/-- **Migrations**: in every run whose steps all meet the condition, what is promised holds; some
run can go on until all have ended; and that takes a bounded number of statements. -/
theorem migrations_applied {migrations : List MigrationFile} {s t : MigrationState}
    {labels : List MigrationLabel} (hnodup : (migrations.map MigrationFile.id).Nodup)
    (hinitial : s.IsInitial migrations)
    (hrun : Transition.Run (step migrations) (MigratesSafely migrations) s labels
      t) :
    t.IsMigrated migrations ∧
      ((∃ run ∈ t.runs, ¬ IsEnded run) → ∃ (index : ℕ) (u : MigrationState),
        t.step migrations (.proceed index) = some u) ∧
      labels.length + t.rank migrations ≤ s.rank migrations := by
  have hsound := hrun.invariant (P := Sound migrations)
    (fun s label t h hguard hstep => h.step hnodup hguard hstep) hinitial.sound
  exact ⟨hsound.isMigrated, hsound.exists_proceed, rank_run hrun⟩

/-! ### Two deployments -/

def usersMigration : MigrationFile :=
  ⟨"application/0001_users.sql", "CREATE TABLE users (id uuid PRIMARY KEY)", "5b2c"⟩

/-- Two runs on a database without the table. -/
def twoDeployments : MigrationState :=
  ⟨none, [], none, [.fresh, .fresh]⟩

theorem twoDeployments_isInitial : twoDeployments.IsInitial [usersMigration] := by
  refine ⟨?_, rfl, ?_⟩ <;> simp [twoDeployments, rows]

/-- The statements of one run, and then of the other one. -/
def oneAfterAnother : List MigrationLabel :=
  List.replicate 11 (.proceed 0) ++ List.replicate 7 (.proceed 1)

/-- The first run makes the table and applies the migration, and the second one finds it applied. -/
theorem migrations_applied_users : ∃ t,
    Transition.Run (step [usersMigration]) (MigratesSafely [usersMigration])
        twoDeployments oneAfterAnother t ∧
      t.effects = [usersMigration.id] ∧ t.IsMigrated [usersMigration] := by
  have hrun : ((Transition.runGuarded (step [usersMigration])
      (MigratesSafely [usersMigration]) twoDeployments oneAfterAnother).map
        effects) = some [usersMigration.id] := by
    rfl
  obtain ⟨t, hrun, heffects⟩ := Option.map_eq_some_iff.1 hrun
  have hrun := Transition.Run.of_runGuarded hrun
  have hnodup : ([usersMigration].map MigrationFile.id).Nodup := List.nodup_singleton _
  exact ⟨t, hrun, heffects, (migrations_applied hnodup twoDeployments_isInitial hrun).1⟩

/-- **Two runs both find no table**: the one that makes it second fails, although none of its
statements has failed of itself. -/
theorem table_made_twice : ∃ t,
    Transition.run (step [usersMigration]) twoDeployments
        [.proceed 0, .proceed 1, .proceed 0,
          .proceed 1, .proceed 1] = some t ∧
      ¬ t.IsMigrated [usersMigration] := by
  refine ⟨_, rfl, fun hmigrated => ?_⟩
  have hsucceeded := hmigrated.succeeded _ (List.mem_cons_of_mem _ List.mem_cons_self) rfl
    .failed rfl
  obtain hfailed | ⟨migration, -, checksum, hchecksum, -⟩ := hsucceeded
  · cases hfailed
  · cases hchecksum

/-- The lock is not given back if that statement fails: the session goes back to the pool with it.
-/
theorem lock_left : ∃ t,
    Transition.run (step []) ⟨none, [], none, [.fresh]⟩
        (List.replicate 6 (.proceed 0) ++ [.fails 0]) = some t ∧
      ¬ t.IsMigrated [] := by
  refine ⟨_, rfl, fun hmigrated => ?_⟩
  refine hmigrated.unlocked (fun run hmem => ?_) 0 _ rfl rfl rfl
  obtain rfl := List.mem_singleton.1 hmem
  exact ⟨_, rfl⟩

/-- A migration that has been applied with an empty checksum may change unnoticed, and the next one
is applied. -/
theorem change_unnoticed : ∃ t,
    Transition.run (step [usersMigration, ⟨"application/0002_posts.sql", "", "77"⟩])
        ⟨some [⟨usersMigration.id, "", 1⟩], [usersMigration.id], none, [.fresh]⟩
        (List.replicate 9 (.proceed 0)) = some t ∧
      ¬ t.IsMigrated [usersMigration, ⟨"application/0002_posts.sql", "", "77"⟩] := by
  refine ⟨_, rfl, fun hmigrated => ?_⟩
  have hnothing := hmigrated.changed _ List.mem_cons_self
    ⟨usersMigration, List.mem_cons_self, "", rfl, by decide⟩
  cases hnothing

end Doxa
