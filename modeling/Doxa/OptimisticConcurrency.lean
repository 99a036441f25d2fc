/-
**No update is lost.**

A session that saves or deletes a model shows the version that it has read or written last, and that
is refused if another transaction has changed the entity in between.  A change is told by the
version; but an entity that is deleted and created again begins with version 1 again, so that the
version a session has read may come back.

Main definitions:

* `Doxa.EntityTable.LosesNoUpdate`, `Doxa.MemoryEntities.LosesNoUpdate` — what is promised;
* `Doxa.EntityTable.NeverReturns`, `Doxa.MemoryEntities.NeverReturns` — no commit brings a version
  back that another open transaction has read.

Main results:

* `Doxa.no_update_lost` — **in every run in which no version comes back, no update is lost**, in
  PostgreSQL and in memory;
* `Doxa.update_lost` — an entity that has been deleted and created again is overwritten.
-/

import Doxa.EntityStore

set_option relaxedAutoImplicit false
set_option autoImplicit false

namespace Doxa

open VersionedRegister

variable {α : Type}

/-! ### What is promised -/

/-- The label writes the state of the entity, or deletes it. -/
def EntityTable.Writes (s : EntityTable α) (i : ℕ) : EntityLabel α → Prop
  | .save j attributes => j = i ∧ (attributes.isSome ∨
      ∃ model ∈ (s.session i).model, model.version = none)
  | .delete j => j = i
  | _ => False

/-- **No update is lost**: a commit with a save or a delete comes before any change after the last
reading, and what has been overtaken is refused and changes nothing. -/
structure EntityTable.LosesNoUpdate (s : EntityTable α) : Prop where
  commits : ∀ commit ∈ s.commits, ∀ reading ∈ commit.reading, reading.moment = commit.changes
  refuses : ∀ i, ∀ reading ∈ (s.session i).reading, reading.moment < s.changes →
    ∀ label t, s.Writes i label → s.step label = some t →
      (t.session i).phase = .failed ∧ t.committed = s.committed

structure MemoryEntities.LosesNoUpdate (s : MemoryEntities α) : Prop where
  commits : ∀ commit ∈ s.commits, ∀ reading ∈ commit.reading, reading.moment = commit.changes
  refuses : ∀ i, (s.session i).baseline.isSome → (s.session i).reading.moment < s.changes →
    ∀ t, s.step (.commit i) = some t →
      (t.session i).phase = .failed ∧ t.target = s.target

/-- A commit does not bring back a version that another open transaction has read or written, and
facts are saved alone only in a transaction that has written the entity. -/
def EntityTable.NeverReturns (s : EntityTable α) : EntityLabel α → Prop
  | .commit i => ∀ row, s.pending = some (i, row) → s.committed.isSome ∨ row.isSome →
      ∀ j, j ≠ i → (s.session j).phase = .active →
        ∀ reading ∈ (s.session j).reading, reading.version ≠ versionOf row
  | .save i attributes => attributes.isSome ∨
      (∀ model ∈ (s.session i).model, model.version = none) ∨ ∃ row, s.pending = some (i, row)
  | _ => True

def MemoryEntities.NeverReturns (s : MemoryEntities α) : EntityLabel α → Prop
  | .commit i => (s.session i).baseline.isSome →
      s.target.isSome ∨ (s.session i).draft.isSome →
        ∀ j, j ≠ i → (s.session j).phase = .active →
          (s.session j).reading.version ≠ versionOf (s.session i).draft
  | .save i attributes => attributes.isSome ∨
      (∀ model ∈ (s.session i).model, model.version = none) ∨ (s.session i).baseline.isSome
  | _ => True

/-- The register after a commit, for those that have read another version. -/
theorem isSound_changesAfter {reading : Reading (Option ℕ)} {before after : Option (StoredEntity α)}
    {changes : ℕ} (h : reading.IsSound ⟨versionOf before, changes⟩)
    (hne : before.isSome ∨ after.isSome → reading.version ≠ versionOf after) :
    reading.IsSound ⟨versionOf after, changesAfter before after changes⟩ := by
  rw [changesAfter]
  split
  · next hnone =>
      rw [Bool.and_eq_true, Option.isNone_iff_eq_none, Option.isNone_iff_eq_none] at hnone
      obtain ⟨rfl, rfl⟩ := hnone
      exact h
  · next hsome =>
      refine h.publish (hne ?_)
      by_contra hneither
      rw [not_or, Option.not_isSome_iff_eq_none, Option.not_isSome_iff_eq_none] at hneither
      simp [hneither.1, hneither.2] at hsome

open EntityTable MemoryEntities

/-! ### PostgreSQL -/

namespace EntityTable

variable {s t : EntityTable α} {i : ℕ}

/-- What the committed row shows. -/
def register (s : EntityTable α) : Register (Option ℕ) := ⟨versionOf s.committed, s.changes⟩

/-- What holds of an open transaction. -/
structure IsSoundSession (s : EntityTable α) (i : ℕ) (session : EntitySession α) : Prop where
  writes : session.writes ≠ [] → ∃ row, s.pending = some (i, row)
  moments : ∀ before ∈ session.writes, ∀ reading ∈ before, reading.moment = s.changes
  reading : ∀ reading ∈ session.reading, reading.IsSound s.register ∧
    reading.version = session.model.bind SessionEntity.version

/-- What holds in every run. -/
structure IsSound (s : EntityTable α) : Prop where
  holder : ∀ i row, s.pending = some (i, row) → (s.session i).phase ≠ .idle ∧
    (s.session i).reading = some ⟨versionOf row, s.changes⟩
  sessions : ∀ i, (s.session i).phase = .active → s.IsSoundSession i (s.session i)
  commits : ∀ commit ∈ s.commits, ∀ reading ∈ commit.reading, reading.moment = commit.changes

theorem IsInitial.isSound (h : s.IsInitial) : s.IsSound := by
  refine ⟨?_, fun i hactive => ?_, ?_⟩
  · simp [h.pending]
  · rw [h.session i] at hactive
    cases hactive
  · simp [h.commits]

/-- A session is changed; if it holds the row, its reading stays as it is. -/
theorem IsSound.setSession {session : EntitySession α} (h : s.IsSound)
    (hholder : (∃ row, s.pending = some (i, row)) →
      session.phase ≠ .idle ∧ session.reading = (s.session i).reading)
    (hsession : session.phase = .active → s.IsSoundSession i session) :
    (s.setSession i session).IsSound where
  holder j row hpending := by
    by_cases hj : j = i
    · subst hj
      simp only [setSession, Function.update_self]
      obtain ⟨hphase, hreading⟩ := hholder ⟨row, hpending⟩
      exact ⟨hphase, hreading.trans (h.holder j row hpending).2⟩
    · simp only [EntityTable.setSession, Function.update_of_ne hj]
      exact h.holder j row hpending
  sessions j hactive := by
    by_cases hj : j = i
    · subst hj
      simp only [setSession, Function.update_self] at hactive ⊢
      exact ⟨(hsession hactive).writes, (hsession hactive).moments, (hsession hactive).reading⟩
    · simp only [EntityTable.setSession, Function.update_of_ne hj] at hactive ⊢
      have hother := h.sessions j hactive
      exact ⟨hother.writes, hother.moments, hother.reading⟩
  commits := h.commits

theorem IsSound.fail (h : s.IsSound) : (s.fail i).IsSound :=
  h.setSession (fun _ => ⟨by simp, rfl⟩) fun hactive => by cases hactive

variable {row : Option (StoredEntity α)}

/-- What the holder of the row has read or written last is up to date. -/
theorem IsSound.moment_of_holder (h : s.IsSound) (hpending : s.pending = some (i, row)) :
    ∀ reading ∈ (s.session i).reading, reading.moment = s.changes := by
  intro reading hreading
  have hheld := (h.holder i row hpending).2
  rw [hreading] at hheld
  cases hheld
  rfl

theorem visible_of_not_holder (h : ∀ row, s.pending ≠ some (i, row)) :
    s.visible i = s.committed := by
  rw [visible]
  split
  · next holder row hpending =>
      refine if_neg ?_
      rintro rfl
      exact h row hpending
  · rfl

theorem visible_of_holder (h : s.pending = some (i, row)) : s.visible i = row := by
  rw [visible, h]
  exact if_pos rfl

/-- What has been overtaken does not hold the row, and the row has another version. -/
theorem IsSound.overtaken (h : s.IsSound) {reading : Reading (Option ℕ)}
    (hactive : (s.session i).phase = .active)
    (hreading : (s.session i).reading = some reading) (hlt : reading.moment < s.changes) :
    versionOf (s.visible i) ≠ (s.session i).model.bind SessionEntity.version := by
  have hholder : ∀ row, s.pending ≠ some (i, row) := by
    intro row hpending
    have hmoment := h.moment_of_holder hpending reading hreading
    omega
  obtain ⟨hsound, hversion⟩ := (h.sessions i hactive).reading reading hreading
  rw [visible_of_not_holder hholder, ← hversion]
  exact (hsound.version_ne hlt).symm

/-- **Only what is up to date is written**: the version of the model is that of the row. -/
theorem IsSound.moment_of_visible (h : s.IsSound)
    (hactive : (s.session i).phase = .active)
    (hvisible : versionOf (s.visible i) = (s.session i).model.bind SessionEntity.version) :
    ∀ reading ∈ (s.session i).reading, reading.moment = s.changes := by
  intro reading hreading
  have hle := ((h.sessions i hactive).reading reading hreading).1.le
  obtain hlt | hsame := Nat.lt_or_eq_of_le hle
  · exact absurd hvisible (h.overtaken hactive hreading hlt)
  · exact hsame

/-- A statement has written the row, which no other transaction has. -/
theorem IsSound.write {model : Option (SessionEntity α)} (h : s.IsSound)
    (hactive : (s.session i).phase = .active) (hlocked : s.isLocked i = false)
    (hvisible : versionOf (s.visible i) = (s.session i).model.bind SessionEntity.version)
    (hmodel : versionOf row = model.bind SessionEntity.version) :
    (s.write i row model).IsSound where
  holder j other hpending := by
    cases hpending
    simp [EntityTable.write, hactive]
  sessions j hother := by
    by_cases hj : j = i
    · subst hj
      simp only [EntityTable.write, Function.update_self] at hother ⊢
      refine ⟨fun _ => ⟨row, rfl⟩, fun before hbefore => ?_, fun reading hreading => ?_⟩
      · rw [List.mem_append, List.mem_singleton] at hbefore
        obtain hbefore | rfl := hbefore
        · exact (h.sessions j hactive).moments before hbefore
        · exact h.moment_of_visible hactive hvisible
      · cases hreading
        exact ⟨Reading.isSound_of_moment rfl, hmodel⟩
    · simp only [EntityTable.write, Function.update_of_ne hj] at hother ⊢
      have hother := h.sessions j hother
      refine ⟨fun hwrites => ?_, hother.moments, hother.reading⟩
      -- Who has written the row holds it, and nobody else does.
      obtain ⟨held, hpending⟩ := hother.writes hwrites
      simp [isLocked, hpending, hj] at hlocked
  commits := h.commits

/-- A read takes what is visible. -/
theorem IsSound.find (h : s.IsSound) (hactive : (s.session i).phase = .active) :
    (s.find i).IsSound := by
  rw [EntityTable.find]
  split
  · exact h
  · refine h.setSession ?_ fun _ => ⟨(h.sessions i hactive).writes,
      (h.sessions i hactive).moments, fun reading hreading => ?_⟩
    · rintro ⟨row, hpending⟩
      rw [(h.holder i row hpending).2, visible_of_holder hpending]
      exact ⟨by simp [hactive], rfl⟩
    · cases hreading
      refine ⟨Reading.isSound_of_moment rfl, ?_⟩
      cases s.visible i <;> rfl

/-- `saveEntityNow` writes the row or fails. -/
theorem IsSound.saveEntityNow {model : SessionEntity α} {attributes : α} (h : s.IsSound)
    (hactive : (s.session i).phase = .active) (hlocked : s.isLocked i = false)
    (hmodel : (s.session i).model = some model) :
    (s.saveEntityNow i model attributes).IsSound := by
  rw [EntityTable.saveEntityNow]
  split
  · next hnone =>
      split
      · exact h.fail
      · next habsent =>
          refine h.write hactive hlocked ?_ rfl
          rw [hmodel, Option.bind_some, hnone, Option.not_isSome_iff_eq_none.1 habsent]
          rfl
  · next version hversion =>
      split
      · next hvisible =>
          refine h.write hactive hlocked ?_ rfl
          rw [hmodel, Option.bind_some, hversion, hvisible]
      · exact h.fail

theorem IsSound.deleteEntityNow {version : ℕ} (h : s.IsSound)
    (hactive : (s.session i).phase = .active) (hlocked : s.isLocked i = false)
    (hmodel : (s.session i).model.bind SessionEntity.version = some version) :
    (s.deleteEntityNow i version).IsSound := by
  rw [EntityTable.deleteEntityNow]
  split
  · next hvisible => exact h.write hactive hlocked (hvisible.trans hmodel.symm) rfl
  · exact h.fail

/-- A transaction that has not written the row ends. -/
theorem IsSound.endSession (h : s.IsSound) (hholder : ∀ row, s.pending ≠ some (i, row)) :
    (s.setSession i { s.session i with phase := .ended }).IsSound :=
  h.setSession (fun ⟨row, hpending⟩ => absurd hpending (hholder row)) fun hactive => by
    cases hactive

/-- The holder of the row commits it. -/
theorem commit_of_holder (h : s.pending = some (i, row)) :
    s.commit i =
      { committed := row
        pending := none
        changes := changesAfter s.committed row s.changes
        session := Function.update s.session i
          { s.session i with phase := .ended }
        commits := s.commits ++
          (s.session i).writes.map fun reading => ⟨reading, s.changes⟩ } := by
  rw [commit]
  simp only [h, if_true]
  rfl

/-- Who does not hold the row commits nothing. -/
theorem commit_of_not_holder (h : ∀ row, s.pending ≠ some (i, row))
    (hwrites : (s.session i).writes = []) :
    s.commit i = s.setSession i { s.session i with phase := .ended } := by
  rw [commit]
  simp only [hwrites, List.map_nil, List.append_nil]
  split
  · next holder row hpending =>
      split
      · next hsame => exact absurd (hsame ▸ hpending) (h row)
      · rw [← hwrites]
        rfl
  · rw [← hwrites]
    rfl

/-- Only the holder of the row has written the entity. -/
theorem IsSound.writes_eq_nil (h : s.IsSound) (hpending : s.pending = some (i, row)) {j : ℕ}
    (hj : j ≠ i) (hactive : (s.session j).phase = .active) : (s.session j).writes = [] := by
  by_contra hwrites
  obtain ⟨other, hheld⟩ := (h.sessions j hactive).writes hwrites
  rw [hpending] at hheld
  exact hj (Prod.mk.inj (Option.some.inj hheld)).1.symm

/-- **A commit of a version that nobody else has read.** -/
theorem IsSound.commit (h : s.IsSound) (hactive : (s.session i).phase = .active)
    (hguard : s.NeverReturns (.commit i)) : (s.commit i).IsSound := by
  by_cases hholder : ∃ row, s.pending = some (i, row)
  · obtain ⟨row, hpending⟩ := hholder
    rw [commit_of_holder hpending]
    refine ⟨fun j other hfound => (by cases hfound), fun j hother => ?_, ?_⟩
    · by_cases hj : j = i
      · subst hj
        simp only [Function.update_self] at hother
        cases hother
      · simp only [Function.update_of_ne hj] at hother ⊢
        have hwrites := h.writes_eq_nil hpending hj hother
        refine ⟨fun hsome => absurd hwrites hsome, by simp [hwrites], fun reading hfound => ?_⟩
        obtain ⟨hsound, hversion⟩ := (h.sessions j hother).reading reading hfound
        exact ⟨isSound_changesAfter hsound fun hsome =>
          hguard row hpending hsome j hj hother reading hfound, hversion⟩
    · intro commit hmem reading hfound
      rw [List.mem_append, List.mem_map] at hmem
      obtain hmem | ⟨before, hbefore, rfl⟩ := hmem
      · exact h.commits commit hmem reading hfound
      · exact (h.sessions i hactive).moments before hbefore reading hfound
  · have hnot : ∀ row, s.pending ≠ some (i, row) := fun row hpending => hholder ⟨row, hpending⟩
    have hwrites : (s.session i).writes = [] := by
      by_contra hwrites
      exact hholder ((h.sessions i hactive).writes hwrites)
    rw [commit_of_not_holder hnot hwrites]
    exact h.endSession hnot

theorem IsSound.rollBack (h : s.IsSound) : (s.rollBack i).IsSound := by
  rw [EntityTable.rollBack]
  split
  · next holder row hpending =>
      split
      · next hsame =>
          subst hsame
          refine ⟨fun _ _ hfound => (by cases hfound), fun j hother => ?_, h.commits⟩
          by_cases hj : j = holder
          · subst hj
            simp only [EntityTable.setSession, Function.update_self] at hother
            cases hother
          · simp only [EntityTable.setSession, Function.update_of_ne hj] at hother ⊢
            have hsound := h.sessions j hother
            have hwrites := h.writes_eq_nil hpending hj hother
            exact ⟨fun hsome => absurd hwrites hsome, hsound.moments, hsound.reading⟩
      · next hother =>
          refine h.endSession fun other hheld => hother ?_
          rw [hpending] at hheld
          exact (Prod.mk.inj (Option.some.inj hheld)).1
  · next hpending =>
      exact h.endSession fun other hheld => by
        rw [hpending] at hheld
        cases hheld

/-- **A step that brings no version back keeps what holds.** -/
theorem IsSound.step {label : EntityLabel α} (h : s.IsSound) (hguard : s.NeverReturns label)
    (hstep : s.step label = some t) : t.IsSound := by
  cases label with
  | begin i =>
    rw [EntityTable.step] at hstep
    split_ifs at hstep with hidle
    cases hstep
    refine h.setSession ?_ fun _ => ⟨fun hwrites => absurd rfl hwrites,
      fun _ hbefore => (by cases hbefore), fun _ hreading => (by cases hreading)⟩
    rintro ⟨row, hpending⟩
    exact absurd hidle (h.holder i row hpending).1
  | find i =>
    rw [EntityTable.step] at hstep
    split_ifs at hstep with hactive
    cases hstep
    exact h.find hactive
  | make i attributes =>
    rw [EntityTable.step] at hstep
    split_ifs at hstep with hmake
    cases hstep
    have hsession := h.sessions i hmake.1
    refine h.setSession (fun _ => ⟨by simp [hmake.1], rfl⟩) fun _ =>
      ⟨hsession.writes, hsession.moments, fun reading hreading => ?_⟩
    obtain ⟨hsound, hversion⟩ := hsession.reading reading hreading
    rw [Option.isNone_iff_eq_none.1 hmake.2] at hversion
    exact ⟨hsound, hversion⟩
  | save i attributes =>
    rw [EntityTable.step] at hstep
    split at hstep
    · next model hactive hmodel =>
        split_ifs at hstep with hfacts hlocked
        · -- The guard has it that the transaction holds the row.
          cases hstep
          have hholder : ∃ row, s.pending = some (i, row) := by
            obtain hsome | hnone | hholder := hguard
            · simp [Option.isNone_iff_eq_none.1 hfacts.1] at hsome
            · simp [hnone model hmodel] at hfacts
            · exact hholder
          refine h.setSession (fun _ => ⟨by simp [hactive], rfl⟩) fun _ =>
            ⟨fun _ => hholder, fun before hbefore => ?_, (h.sessions i hactive).reading⟩
          rw [List.mem_append, List.mem_singleton] at hbefore
          obtain hbefore | rfl := hbefore
          · exact (h.sessions i hactive).moments before hbefore
          · obtain ⟨row, hpending⟩ := hholder
            exact h.moment_of_holder hpending
        · cases hstep
          exact h.saveEntityNow hactive (Bool.eq_false_iff.2 hlocked) hmodel
    · cases hstep
  | delete i =>
    rw [EntityTable.step] at hstep
    split at hstep
    · next version hactive hmodel =>
        split_ifs at hstep with hlocked
        cases hstep
        exact h.deleteEntityNow hactive (Bool.eq_false_iff.2 hlocked) hmodel
    · cases hstep
  | commit i =>
    rw [EntityTable.step] at hstep
    split_ifs at hstep with hactive
    cases hstep
    exact h.commit hactive hguard
  | rollBack i =>
    rw [EntityTable.step] at hstep
    split_ifs at hstep
    cases hstep
    exact h.rollBack
  | fail i =>
    rw [EntityTable.step] at hstep
    split_ifs at hstep
    cases hstep
    exact h.fail

/-- What has been overtaken is refused. -/
theorem IsSound.refuses (h : s.IsSound) {reading : Reading (Option ℕ)}
    (hreading : (s.session i).reading = some reading) (hlt : reading.moment < s.changes)
    {label : EntityLabel α} (hwrites : s.Writes i label) (hstep : s.step label = some t) :
    (t.session i).phase = .failed ∧ t.committed = s.committed := by
  have hfail : (((s.fail i).session i).phase = .failed) ∧
      (s.fail i).committed = s.committed := by
    simp [EntityTable.fail, EntityTable.setSession]
  cases label with
  | save j attributes =>
    obtain ⟨rfl, hsaved⟩ := hwrites
    rw [EntityTable.step] at hstep
    split at hstep
    · next model hactive hmodel =>
        have hne := h.overtaken hactive hreading hlt
        rw [hmodel, Option.bind_some] at hne
        split_ifs at hstep with hfacts
        · obtain hsome | ⟨other, hother, hnone⟩ := hsaved
          · simp [Option.isNone_iff_eq_none.1 hfacts.1] at hsome
          · cases hmodel.symm.trans hother
            simp [hnone] at hfacts
        · cases hstep
          rw [EntityTable.saveEntityNow]
          split
          · next hnone =>
              rw [hnone] at hne
              have hsome : (s.visible j).isSome := by
                rw [Option.isSome_iff_ne_none]
                intro habsent
                simp [habsent, versionOf] at hne
              rw [if_pos hsome]
              exact hfail
          · next version hversion =>
              rw [hversion] at hne
              rw [if_neg hne]
              exact hfail
    · cases hstep
  | delete j =>
    obtain rfl := hwrites
    rw [EntityTable.step] at hstep
    split at hstep
    · next version hactive hversion =>
        have hne := h.overtaken hactive hreading hlt
        rw [hversion] at hne
        split_ifs at hstep
        cases hstep
        rw [EntityTable.deleteEntityNow, if_neg hne]
        exact hfail
    · cases hstep
  | begin | find | make | commit | rollBack | fail => exact hwrites.elim

theorem IsSound.losesNoUpdate (h : s.IsSound) : s.LosesNoUpdate :=
  ⟨h.commits, fun _ _ hreading hlt _ _ hwrites hstep => h.refuses hreading hlt hwrites hstep⟩

end EntityTable

/-! ### Memory -/

namespace MemoryEntities

variable {s t : MemoryEntities α} {i : ℕ} {session : MemorySession α}

def register (s : MemoryEntities α) : Register (Option ℕ) := ⟨versionOf s.target, s.changes⟩

/-- What holds of an open transaction: its baseline is what it has read. -/
structure IsSoundSession (s : MemoryEntities α) (session : MemorySession α) : Prop where
  writes : session.writes = true → session.baseline.isSome
  reading : session.reading.IsSound s.register
  baseline : session.baseline.getD (versionOf session.draft) = session.reading.version

structure IsSound (s : MemoryEntities α) : Prop where
  sessions : ∀ i, (s.session i).phase = .active → s.IsSoundSession (s.session i)
  commits : ∀ commit ∈ s.commits, ∀ reading ∈ commit.reading, reading.moment = commit.changes

theorem IsInitial.isSound (h : s.IsInitial) : s.IsSound := by
  refine ⟨fun i hactive => ?_, ?_⟩
  · rw [h.session i] at hactive
    cases hactive
  · simp [h.commits]

theorem IsSound.setSession (h : s.IsSound)
    (hsession : session.phase = .active → s.IsSoundSession session) :
    (s.setSession i session).IsSound where
  sessions j hactive := by
    by_cases hj : j = i
    · subst hj
      simp only [setSession, Function.update_self] at hactive ⊢
      exact ⟨(hsession hactive).writes, (hsession hactive).reading, (hsession hactive).baseline⟩
    · simp only [MemoryEntities.setSession, Function.update_of_ne hj] at hactive ⊢
      have hother := h.sessions j hactive
      exact ⟨hother.writes, hother.reading, hother.baseline⟩
  commits := h.commits

/-- The first write of a draft sets the baseline. -/
theorem IsSoundSession.write (h : s.IsSoundSession session) (draft : Option (StoredEntity α))
    (model : Option (SessionEntity α)) : s.IsSoundSession (session.write draft model) :=
  ⟨fun _ => rfl, h.reading, h.baseline⟩

theorem IsSoundSession.saveEntity (h : s.IsSoundSession session) (model : SessionEntity α)
    (attributes : α) : s.IsSoundSession (session.saveEntity model attributes) := by
  rw [MemorySession.saveEntity]
  split
  · exact h.write _ _
  · exact h

theorem IsSoundSession.deleteEntity (h : s.IsSoundSession session) (version : ℕ) :
    s.IsSoundSession (session.deleteEntity version) := by
  rw [MemorySession.deleteEntity]
  split
  · exact h.write _ _
  · exact h

theorem IsSoundSession.find (h : s.IsSoundSession session) : s.IsSoundSession session.find := by
  rw [MemorySession.find]
  split
  · exact h
  · exact ⟨h.writes, h.reading, h.baseline⟩

/-- The baseline that is compared is what was read. -/
theorem IsSoundSession.reading_version (h : s.IsSoundSession session) {version : Option ℕ}
    (hbaseline : session.baseline = some version) : version = session.reading.version := by
  have hread := h.baseline
  rw [hbaseline] at hread
  exact hread

/-- A draft that has been written is applied. -/
theorem applyTo_of_baseline (h : (s.session i).baseline = some (versionOf s.target)) :
    s.applyTo i =
      { target := (s.session i).draft
        changes := changesAfter s.target (s.session i).draft s.changes
        session := Function.update s.session i
          { s.session i with phase := .ended }
        commits := if (s.session i).writes then
          s.commits ++ [⟨some (s.session i).reading, s.changes⟩] else s.commits } := by
  have hmatches : ¬ ((s.session i).baseline.any fun version =>
      decide (version ≠ versionOf s.target)) = true := by
    simp [h]
  have hsome : (s.session i).baseline.isSome = true := by simp [h]
  rw [applyTo, if_neg hmatches]
  simp only [hsome, if_true]
  split <;> rfl

/-- **A draft is applied** if nothing has been published since it was copied. -/
theorem IsSound.applyTo (h : s.IsSound) (hactive : (s.session i).phase = .active)
    (hguard : s.NeverReturns (.commit i)) : (s.applyTo i).IsSound := by
  have hsession := h.sessions i hactive
  cases hbaseline : (s.session i).baseline with
  | none =>
    have hwrites : ¬ (s.session i).writes = true := by
      intro hwrites
      have hsome := hsession.writes hwrites
      rw [hbaseline] at hsome
      cases hsome
    rw [MemoryEntities.applyTo]
    simp only [hbaseline, Option.any_none, Bool.false_eq_true, if_false, if_neg hwrites,
      Option.isSome_none]
    exact h.setSession fun hactive => by cases hactive
  | some version =>
    by_cases hversion : version = versionOf s.target
    · subst hversion
      have hmoment : (s.session i).reading.moment = s.changes :=
        hsession.reading.fresh (hsession.reading_version hbaseline).symm
      rw [applyTo_of_baseline hbaseline]
      refine ⟨fun j hother => ?_, ?_⟩
      · by_cases hj : j = i
        · subst hj
          simp only [Function.update_self] at hother
          cases hother
        · simp only [Function.update_of_ne hj] at hother ⊢
          have hsound := h.sessions j hother
          exact ⟨hsound.writes, isSound_changesAfter hsound.reading fun hsome =>
            hguard (by simp [hbaseline]) hsome j hj hother, hsound.baseline⟩
      · intro commit hmem reading hfound
        simp only at hmem
        split at hmem
        · rw [List.mem_append, List.mem_singleton] at hmem
          obtain hmem | rfl := hmem
          · exact h.commits commit hmem reading hfound
          · cases hfound
            exact hmoment
        · exact h.commits commit hmem reading hfound
    · rw [MemoryEntities.applyTo, if_pos (by simp [hbaseline, hversion])]
      exact h.setSession fun hactive => by cases hactive

/-- **A step that brings no version back keeps what holds.** -/
theorem IsSound.step {label : EntityLabel α} (h : s.IsSound) (hguard : s.NeverReturns label)
    (hstep : s.step label = some t) : t.IsSound := by
  cases label with
  | begin i =>
    rw [MemoryEntities.step] at hstep
    split_ifs at hstep
    cases hstep
    exact h.setSession fun _ =>
      ⟨fun hwrites => (by cases hwrites), Reading.isSound_of_moment rfl, rfl⟩
  | find i =>
    rw [MemoryEntities.step] at hstep
    split_ifs at hstep with hactive
    cases hstep
    exact h.setSession fun _ => (h.sessions i hactive).find
  | make i attributes =>
    rw [MemoryEntities.step] at hstep
    split_ifs at hstep with hmake
    cases hstep
    have hsession := h.sessions i hmake.1
    exact h.setSession fun _ => ⟨hsession.writes, hsession.reading, hsession.baseline⟩
  | save i attributes =>
    rw [MemoryEntities.step] at hstep
    split at hstep
    · next model hactive hmodel =>
        have hsession := h.sessions i hactive
        split_ifs at hstep with hfacts
        · -- The guard has it that the transaction has written its draft.
          cases hstep
          have hbaseline : (s.session i).baseline.isSome := by
            obtain hsome | hnone | hbaseline := hguard
            · simp [Option.isNone_iff_eq_none.1 hfacts.1] at hsome
            · simp [hnone model hmodel] at hfacts
            · exact hbaseline
          exact h.setSession fun _ =>
            ⟨fun _ => hbaseline, hsession.reading, hsession.baseline⟩
        · cases hstep
          exact h.setSession fun _ => hsession.saveEntity _ _
    · cases hstep
  | delete i =>
    rw [MemoryEntities.step] at hstep
    split at hstep
    · next version hactive hmodel =>
        cases hstep
        exact h.setSession fun _ => (h.sessions i hactive).deleteEntity version
    · cases hstep
  | commit i =>
    rw [MemoryEntities.step] at hstep
    split_ifs at hstep with hactive
    cases hstep
    exact h.applyTo hactive hguard
  | rollBack i | fail i =>
    rw [MemoryEntities.step] at hstep
    split_ifs at hstep
    cases hstep
    exact h.setSession fun hactive => by cases hactive

/-- What has been overtaken is not applied. -/
theorem IsSound.refuses (h : s.IsSound) (hbaseline : (s.session i).baseline.isSome)
    (hlt : (s.session i).reading.moment < s.changes)
    (hstep : s.step (.commit i) = some t) :
    (t.session i).phase = .failed ∧ t.target = s.target := by
  rw [MemoryEntities.step] at hstep
  split_ifs at hstep with hactive
  cases hstep
  obtain ⟨version, hversion⟩ := Option.isSome_iff_exists.1 hbaseline
  have hsession := h.sessions i hactive
  have hne : version ≠ versionOf s.target := by
    rw [hsession.reading_version hversion]
    exact hsession.reading.version_ne hlt
  rw [MemoryEntities.applyTo, if_pos (by simp [hversion, hne])]
  simp [MemoryEntities.setSession]

theorem IsSound.losesNoUpdate (h : s.IsSound) : s.LosesNoUpdate :=
  ⟨h.commits, fun _ hbaseline hlt _ hstep => h.refuses hbaseline hlt hstep⟩

end MemoryEntities

/-! ### Runs -/

/-- **In every run in which no version comes back, no update is lost**, in PostgreSQL and in
memory. -/
theorem no_update_lost {table table' : EntityTable α} {memory memory' : MemoryEntities α}
    {labels labels' : List (EntityLabel α)} (htable : table.IsInitial) (hmemory : memory.IsInitial)
    (hrun : Transition.Run EntityTable.step NeverReturns table labels table')
    (hrun' : Transition.Run MemoryEntities.step NeverReturns memory labels'
      memory') : table'.LosesNoUpdate ∧ memory'.LosesNoUpdate := by
  have hkeep := hrun.invariant (P := EntityTable.IsSound)
    (fun _ _ _ h hguard hstep => h.step hguard hstep) htable.isSound
  have hkeep' := hrun'.invariant (P := MemoryEntities.IsSound)
    (fun _ _ _ h hguard hstep => h.step hguard hstep) hmemory.isSound
  exact ⟨hkeep.losesNoUpdate, hkeep'.losesNoUpdate⟩

/-- An entity with version 1, whose state is a number. -/
def numberTable : EntityTable ℕ where
  committed := some ⟨1, 10⟩
  pending := none
  changes := 0
  session _ := .idle
  commits := []

def numberMemory : MemoryEntities ℕ where
  target := some ⟨1, 10⟩
  changes := 0
  session _ := .idle
  commits := []

theorem numberTable_isInitial : numberTable.IsInitial := ⟨rfl, fun _ => rfl, rfl⟩

theorem numberMemory_isInitial : numberMemory.IsInitial := ⟨fun _ => rfl, rfl⟩

/-- Two transactions read the entity, and one of them saves it. -/
def savedTwice : List (EntityLabel ℕ) :=
  [.begin 0, .begin 1, .find 0, .find 1,
    .save 0 (some 11), .commit 0]

/-- Another version than the other transaction has read is published. -/
theorem no_update_lost_twice :
    ∃ table memory,
      Transition.Run EntityTable.step NeverReturns numberTable savedTwice table ∧
      Transition.Run MemoryEntities.step NeverReturns numberMemory savedTwice
        memory ∧
      (table.changes = 1 ∧ memory.changes = 1) ∧
        table.LosesNoUpdate ∧ memory.LosesNoUpdate := by
  obtain ⟨table, hrun, hchanges⟩ : ∃ table,
      Transition.Run EntityTable.step NeverReturns numberTable savedTwice table ∧
        table.changes = 1 := by
    refine ⟨_, .cons trivial rfl (.cons trivial rfl
      (.cons trivial rfl (.cons trivial rfl
        (.cons (.inl rfl) rfl (.cons ?_ rfl
          (.nil _)))))), rfl⟩
    rintro row hrow - j hj hactive reading hreading
    cases hrow
    by_cases hone : j = 1
    · subst hone
      cases hreading
      decide
    · simp [saveEntityNow, find, write,
        EntityTable.setSession, visible, numberTable, EntitySession.idle, versionOf,
        hj, hone] at hactive
  obtain ⟨memory, hrun', hchanges'⟩ : ∃ memory,
      Transition.Run MemoryEntities.step NeverReturns numberMemory savedTwice
        memory ∧ memory.changes = 1 := by
    refine ⟨_, .cons trivial rfl (.cons trivial rfl
      (.cons trivial rfl (.cons trivial rfl
        (.cons (.inl rfl) rfl (.cons ?_ rfl
          (.nil _)))))), rfl⟩
    rintro - - j hj hactive
    by_cases hone : j = 1
    · subst hone
      decide
    · simp [MemoryEntities.setSession, numberMemory, MemorySession.idle, hj, hone] at hactive
  exact ⟨table, memory, hrun, hrun', ⟨hchanges, hchanges'⟩,
    no_update_lost numberTable_isInitial numberMemory_isInitial hrun hrun'⟩

/-- A transaction reads the entity; others delete it and create it again. -/
def createdAgain : List (EntityLabel ℕ) :=
  [.begin 0, .find 0, .begin 1, .find 1,
    .delete 1, .commit 1, .begin 2, .make 2 20,
    .save 2 none, .commit 2, .save 0 (some 11),
    .commit 0]

/-- **An entity that has been deleted and created again is overwritten**, by a transaction that had
read the one before. -/
theorem update_lost :
    (∃ table, Transition.run EntityTable.step numberTable createdAgain = some table ∧
      table.committed.map StoredEntity.state = some 11 ∧ ¬ table.LosesNoUpdate) ∧
    ∃ memory, Transition.run MemoryEntities.step numberMemory createdAgain = some memory ∧
      memory.target.map StoredEntity.state = some 11 ∧ ¬ memory.LosesNoUpdate := by
  refine ⟨⟨_, rfl, rfl, fun hpromised => ?_⟩, ⟨_, rfl, rfl, fun hpromised => ?_⟩⟩
  · have hmoment := hpromised.commits ⟨some ⟨some 1, 0⟩, 2⟩
      (List.mem_of_getElem? (i := 2) rfl) ⟨some 1, 0⟩ rfl
    cases hmoment
  · have hmoment := hpromised.commits ⟨some ⟨some 1, 0⟩, 2⟩
      (List.mem_of_getElem? (i := 2) rfl) ⟨some 1, 0⟩ rfl
    cases hmoment

end Doxa
