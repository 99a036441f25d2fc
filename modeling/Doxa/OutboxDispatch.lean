/-
**What is dispatched has been admitted, once, and what a flush has claimed goes together.**

In every state that is committed, a row that is marked has a job, a job of the relay has a row that
is marked, and no identifier has two jobs, whatever throws or crashes.  A flush that is not rolled
back marks all its rows; one row that pg-boss refuses leaves all of them pending.

Main definitions:

* `Doxa.OutboxState.Sound` — what holds of the tables and the flushes in every run;
* `Doxa.OutboxState.IsDue` — a row that a flush would claim, or another one has;
* `Doxa.OutboxState.KeepsRow` — the flush that has claimed a row is not rolled back.

Main results:

* `Doxa.outbox_relayed` — **in every run, what is committed is as promised, and a row that is due
  when a flush begins is dispatched once no flush runs, unless one that had claimed it was rolled
  back**;
* `Doxa.outbox_blocked` — a row that pg-boss refuses keeps the row before it from being dispatched.
-/

import Doxa.OutboxRelay

set_option relaxedAutoImplicit false
set_option autoImplicit false

namespace Doxa

open AdmittedJob OutboxMessage OutboxState RelayPhase

namespace RelayPhase

/-- The rows whose jobs are there: those that are marked, and the one that has been sent. -/
def sentIds (stage : FlushStage) (flush : Flush) : List String :=
  match stage with
  | .sending => flush.dispatched
  | .checking | .marking =>
    flush.dispatched ++ (flush.remaining.take 1).map OutboxMessage.id

end RelayPhase

namespace OutboxState

variable {s t u : OutboxState} {relay : ℕ} {stage : FlushStage} {flush : Flush}
  {label : OutboxLabel}

/-- What holds of a flush. -/
structure SoundFlush (s : OutboxState) (stage : FlushStage) (flush : Flush) : Prop where
  claimed : ∀ message ∈ flush.claimed,
    message ∈ s.messages ∧ message.status = .pending
  remaining : flush.remaining ⊆ flush.claimed
  progress : flush.claimed.map OutboxMessage.id =
    flush.dispatched ++ flush.remaining.map OutboxMessage.id
  once : (s.jobs.map AdmittedJob.id ++ flush.jobs.map AdmittedJob.id).Nodup
  admitted : ∀ message ∈ flush.claimed, message.id ∈ sentIds stage flush →
    message.payload.id ∈ (s.jobs ++ flush.jobs).map AdmittedJob.id
  sent : ∀ job ∈ flush.jobs, ∃ message ∈ flush.claimed, message.payload.id = job.id ∧
    message.id ∈ sentIds stage flush

/-- What holds of a manager. -/
def SoundPhase (s : OutboxState) : RelayPhase → Prop
  | .idle => True
  | .flushing stage flush => s.SoundFlush stage flush

/-- Two managers do not claim a row, or insert an identifier, at the same time. -/
def Apart (phase other : RelayPhase) : Prop :=
  phase.claimedIds.Disjoint other.claimedIds ∧ phase.insertedIds.Disjoint other.insertedIds

variable {phase : RelayPhase}

theorem Apart.symm {other : RelayPhase} (h : Apart phase other) : Apart other phase :=
  ⟨h.1.symm, h.2.symm⟩

/-- What holds in every run. -/
structure Sound (s : OutboxState) : Prop where
  nodup : (s.messages.map OutboxMessage.id).Nodup
  relayed : s.IsRelayed
  phases : ∀ phase ∈ s.relays, s.SoundPhase phase
  apart : ∀ (relay other : ℕ) (phase phase' : RelayPhase), relay ≠ other →
    s.relays[relay]? = some phase → s.relays[other]? = some phase' → Apart phase phase'

theorem apart_idle (phase : RelayPhase) : Apart .idle phase :=
  ⟨List.disjoint_nil_left _, List.disjoint_nil_left _⟩

theorem IsInitial.sound (h : s.IsInitial) : s.Sound where
  nodup := h.nodup
  relayed := by
    refine ⟨fun message hmessage hstatus => ?_, fun job hjob horigin => ?_, h.once⟩
    · rw [h.pending message hmessage] at hstatus
      cases hstatus
    · rw [h.origin job hjob] at horigin
      cases horigin
  phases := by
    intro phase hphase
    rw [h.idle phase hphase]
    trivial
  apart := by
    intro relay other phase phase' hne hphase hphase'
    rw [h.idle phase (List.mem_of_getElem? hphase)]
    exact apart_idle phase'

/-! ### A manager goes on -/

/-- The managers after one of them has gone on. -/
theorem getElem?_setRelay {other : ℕ} {phase' : RelayPhase}
    (h : (s.setRelay relay phase).relays[other]? = some phase') :
    other = relay ∧ phase' = phase ∨ other ≠ relay ∧ s.relays[other]? = some phase' := by
  rw [setRelay] at h
  by_cases hother : relay = other
  · subst hother
    rw [List.getElem?_set_self'] at h
    obtain ⟨-, -, rfl⟩ := Option.map_eq_some_iff.1 h
    exact .inl ⟨rfl, rfl⟩
  · rw [List.getElem?_set_ne hother] at h
    exact .inr ⟨Ne.symm hother, h⟩

/-- A manager goes on: what holds is to be checked of this manager only. -/
theorem Sound.setRelay (h : s.Sound) (hphase : s.SoundPhase phase)
    (hapart : ∀ other phase', other ≠ relay → s.relays[other]? = some phase' → Apart phase phase') :
    (s.setRelay relay phase).Sound where
  nodup := h.nodup
  relayed := ⟨h.relayed.admitted, h.relayed.dispatched, h.relayed.once⟩
  phases := by
    intro phase' hmem
    obtain ⟨other, hother⟩ := List.mem_iff_getElem?.1 hmem
    obtain ⟨-, rfl⟩ | ⟨-, hbefore⟩ := getElem?_setRelay hother
    · cases phase' with
      | idle => trivial
      | flushing stage flush => exact ⟨hphase.claimed, hphase.remaining, hphase.progress,
          hphase.once, hphase.admitted, hphase.sent⟩
    · have hsound := h.phases phase' (List.mem_of_getElem? hbefore)
      cases phase' with
      | idle => trivial
      | flushing stage flush => exact ⟨hsound.claimed, hsound.remaining, hsound.progress,
          hsound.once, hsound.admitted, hsound.sent⟩
  apart := by
    intro one other phase' phase'' hne hone hother
    obtain ⟨rfl, rfl⟩ | ⟨hone', hbefore⟩ := getElem?_setRelay hone
    · obtain ⟨rfl, -⟩ | ⟨hother', hbefore'⟩ := getElem?_setRelay hother
      · exact absurd rfl hne
      · exact hapart other phase'' hother' hbefore'
    · obtain ⟨rfl, rfl⟩ | ⟨-, hbefore'⟩ := getElem?_setRelay hother
      · exact (hapart one phase' hone' hbefore).symm
      · exact h.apart one other phase' phase'' hne hbefore hbefore'

/-- A flush is rolled back. -/
theorem Sound.rollback (h : s.Sound) : (s.setRelay relay .idle).Sound :=
  h.setRelay trivial fun _ phase' _ _ => apart_idle phase'

/-- A flush goes on with the rows that it has claimed and the jobs that it has inserted. -/
theorem Sound.advance (h : s.Sound) (hrelay : s.relays[relay]? =
    some (.flushing stage flush)) {stage' : FlushStage} {flush' : Flush}
    (hclaimed : flush'.claimed = flush.claimed) (hjobs : flush'.jobs = flush.jobs)
    (hsound : s.SoundFlush stage' flush') :
    (s.setRelay relay (.flushing stage' flush')).Sound := by
  refine h.setRelay hsound fun other phase' hne hother => ?_
  have hapart := h.apart relay other _ phase' hne.symm hrelay hother
  simpa [Apart, claimedIds, insertedIds, hclaimed, hjobs] using hapart

theorem Sound.soundFlush (h : s.Sound)
    (hrelay : s.relays[relay]? = some (.flushing stage flush)) :
    s.SoundFlush stage flush :=
  h.phases _ (List.mem_of_getElem? hrelay)

/-! ### The tables grow -/

variable {message : OutboxMessage}

/-- A row is added that is in no flush. -/
theorem Sound.staged (h : s.Sound) (hstatus : message.status = .pending)
    (hfresh : message.id ∉ s.messages.map OutboxMessage.id) :
    Sound { s with messages := s.messages ++ [message] } where
  nodup := by
    rw [List.map_append, List.nodup_append]
    refine ⟨h.nodup, List.nodup_singleton _, ?_⟩
    rintro id hid _ hmessage rfl
    rw [List.map_singleton, List.mem_singleton] at hmessage
    exact hfresh (hmessage ▸ hid)
  relayed := by
    refine ⟨fun found hfound hdispatched => ?_, fun job hjob horigin => ?_, h.relayed.once⟩
    · rw [List.mem_append, List.mem_singleton] at hfound
      obtain hfound | rfl := hfound
      · exact h.relayed.admitted found hfound hdispatched
      · rw [hstatus] at hdispatched
        cases hdispatched
    · obtain ⟨found, hfound, hdispatched⟩ := h.relayed.dispatched job hjob horigin
      exact ⟨found, List.mem_append_left _ hfound, hdispatched⟩
  phases := by
    intro phase hphase
    have hsound := h.phases phase hphase
    cases phase with
    | idle => trivial
    | flushing stage flush =>
      refine ⟨fun found hfound => ?_, hsound.remaining, hsound.progress, hsound.once,
        hsound.admitted, hsound.sent⟩
      obtain ⟨hmem, hpending⟩ := hsound.claimed found hfound
      exact ⟨List.mem_append_left _ hmem, hpending⟩
  apart := h.apart

/-- Jobs are added that no flush has inserted. -/
theorem SoundFlush.addJobs {jobs : List AdmittedJob} (h : s.SoundFlush stage flush)
    (hnodup : ((s.jobs ++ jobs).map AdmittedJob.id).Nodup)
    (hdisjoint : (jobs.map AdmittedJob.id).Disjoint (flush.jobs.map AdmittedJob.id)) :
    SoundFlush { s with jobs := s.jobs ++ jobs } stage flush where
  claimed := h.claimed
  remaining := h.remaining
  progress := h.progress
  once := by
    have honce := List.nodup_append.1 h.once
    refine List.nodup_append.2 ⟨hnodup, honce.2.1, ?_⟩
    rintro id hid _ hinserted rfl
    rw [List.map_append, List.mem_append] at hid
    obtain hid | hid := hid
    · exact honce.2.2 id hid id hinserted rfl
    · exact hdisjoint hid hinserted
  admitted := by
    intro message hmessage hsent
    have hadmitted := h.admitted message hmessage hsent
    simp only [List.map_append, List.mem_append] at hadmitted ⊢
    tauto
  sent := h.sent

/-- A job that no flush waits for is sent by somebody else. -/
theorem Sound.enqueued {envelope : QueueEnvelope} (h : s.Sound)
    (hfree : ¬ ∃ phase ∈ s.relays, envelope.id ∈ phase.insertedIds)
    (hnew : envelope.id ∉ s.jobs.map AdmittedJob.id) :
    Sound { s with jobs := s.jobs ++ [envelopeJob envelope .enqueue] } := by
  have hnodup : ((s.jobs ++ [envelopeJob envelope .enqueue]).map
      AdmittedJob.id).Nodup := by
    rw [List.map_append, List.nodup_append]
    refine ⟨h.relayed.once, List.nodup_singleton _, ?_⟩
    rintro id hid _ hadded rfl
    rw [List.map_singleton, List.mem_singleton, id_envelopeJob] at hadded
    exact hnew (hadded ▸ hid)
  refine ⟨h.nodup, ⟨fun message hmessage hstatus => ?_, fun job hjob horigin => ?_, hnodup⟩,
    fun phase hphase => ?_, h.apart⟩
  · rw [List.map_append]
    exact List.mem_append_left _ (h.relayed.admitted message hmessage hstatus)
  · rw [List.mem_append, List.mem_singleton] at hjob
    obtain hjob | rfl := hjob
    · exact h.relayed.dispatched job hjob horigin
    · cases horigin
  · have hsound := h.phases phase hphase
    cases phase with
    | idle => trivial
    | flushing stage flush =>
      refine SoundFlush.addJobs hsound hnodup ?_
      intro id hadded hinserted
      rw [List.map_singleton, List.mem_singleton, id_envelopeJob] at hadded
      exact hfree ⟨_, hphase, hadded ▸ hinserted⟩

/-! ### The steps of a flush -/

theorem mem_claimable_of_claimedRows {ids : List String} (h : message ∈ s.claimedRows ids) :
    message ∈ s.claimable := by
  obtain ⟨id, -, hfind⟩ := List.mem_filterMap.1 h
  exact List.mem_of_find?_eq_some hfind

theorem isClaimable_of_mem (h : message ∈ s.claimable) :
    message ∈ s.messages ∧ s.IsClaimable message := by
  obtain ⟨hmem, hclaimable⟩ := List.mem_filter.1 h
  exact ⟨hmem, of_decide_eq_true hclaimable⟩

/-- The identifier tells the row. -/
theorem Sound.eq_of_id (h : s.Sound) {other : OutboxMessage} (hmessage : message ∈ s.messages)
    (hother : other ∈ s.messages) (hid : message.id = other.id) : message = other :=
  List.inj_on_of_nodup_map h.nodup hmessage hother hid

theorem Sound.claim (h : s.Sound) (ids : List String) : (s.setRelay relay
    (.flushing .sending
      ⟨s.claimedRows ids, s.claimedRows ids, [], []⟩)).Sound := by
  refine h.setRelay ?_ fun other phase' hne hother => ⟨?_, List.disjoint_nil_left _⟩
  · refine ⟨fun message hmessage => ?_, fun _ hmem => hmem, rfl, ?_, ?_, ?_⟩
    · obtain ⟨hmem, hclaimable⟩ := isClaimable_of_mem (mem_claimable_of_claimedRows hmessage)
      exact ⟨hmem, hclaimable.1⟩
    · simpa using h.relayed.once
    · intro message _ hsent
      cases hsent
    · intro job hjob
      cases hjob
  · -- What another flush has claimed is skipped.
    intro id hid hlocked
    obtain ⟨message, hmessage, rfl⟩ := List.mem_map.1 hid
    obtain ⟨-, hclaimable⟩ := isClaimable_of_mem (mem_claimable_of_claimedRows hmessage)
    exact hclaimable.2.2.2 phase' (List.mem_of_getElem? hother) hlocked

/-- One more row has a job. -/
theorem SoundFlush.sendHead (hsound : s.Sound) (h : s.SoundFlush .sending flush)
    {rest : List OutboxMessage} (hremaining : flush.remaining = message :: rest)
    (hjob : message.payload.id ∈ (s.jobs ++ flush.jobs).map AdmittedJob.id)
    (hstage : stage ≠ .sending) : s.SoundFlush stage flush := by
  have hsent : sentIds stage flush = flush.dispatched ++ [message.id] := by
    cases stage <;> simp_all [sentIds]
  have hhead : message ∈ flush.claimed := h.remaining (by simp [hremaining])
  refine ⟨h.claimed, h.remaining, h.progress, h.once, fun found hfound hid => ?_,
    fun job hmem => ?_⟩
  · rw [hsent, List.mem_append, List.mem_singleton] at hid
    obtain hid | hid := hid
    · exact h.admitted found hfound hid
    · -- It is the row that has just been sent.
      obtain rfl := hsound.eq_of_id (h.claimed found hfound).1 (h.claimed message hhead).1 hid
      exact hjob
  · obtain ⟨found, hfound, hpayload, hid⟩ := h.sent job hmem
    refine ⟨found, hfound, hpayload, ?_⟩
    rw [hsent]
    exact List.mem_append_left _ hid

/-- A job is inserted for the row that is sent. -/
theorem SoundFlush.insertHead (hsound : s.Sound) (h : s.SoundFlush .sending flush)
    {rest : List OutboxMessage} (hremaining : flush.remaining = message :: rest)
    (hnew : message.payload.id ∉ (s.jobs ++ flush.jobs).map AdmittedJob.id) :
    s.SoundFlush .marking { flush with
      jobs := flush.jobs ++ [envelopeJob message.payload .flushOutbox] } := by
  have hhead : message ∈ flush.claimed := h.remaining (by simp [hremaining])
  refine ⟨h.claimed, h.remaining, h.progress, ?_, fun found hfound hid => ?_,
    fun job hmem => ?_⟩
  · rw [List.map_append, ← List.append_assoc, List.nodup_append]
    refine ⟨h.once, List.nodup_singleton _, ?_⟩
    rintro id hid _ hadded rfl
    rw [List.map_singleton, List.mem_singleton, id_envelopeJob] at hadded
    rw [List.map_append] at hnew
    exact hnew (hadded ▸ hid)
  · simp only [sentIds, hremaining, List.take_succ_cons, List.take_zero,
      List.map_cons, List.map_nil, List.mem_append, List.mem_singleton] at hid
    obtain hid | hid := hid
    · have hbefore := h.admitted found hfound hid
      simp only [List.map_append, List.mem_append] at hbefore ⊢
      tauto
    · obtain rfl := hsound.eq_of_id (h.claimed found hfound).1 (h.claimed message hhead).1 hid
      simp
  · rw [List.mem_append, List.mem_singleton] at hmem
    obtain hmem | rfl := hmem
    · obtain ⟨found, hfound, hpayload, hid⟩ := h.sent job hmem
      exact ⟨found, hfound, hpayload, List.mem_append_left _ hid⟩
    · exact ⟨message, hhead, rfl, by simp [sentIds, hremaining]⟩

theorem Sound.sendNext (h : s.Sound)
    (hrelay : s.relays[relay]? = some (.flushing .sending flush))
    (hstep : s.sendNext relay flush = some t) : t.Sound := by
  have hflush := h.soundFlush hrelay
  rw [OutboxState.sendNext] at hstep
  split at hstep
  · next message rest hremaining =>
      split_ifs at hstep with hawaits hknown
      · cases hstep
        exact h.advance hrelay rfl rfl (hflush.sendHead h hremaining hknown (by simp))
      · cases hstep
        refine h.setRelay (hflush.insertHead h hremaining hknown) fun other phase' hne hother => ?_
        obtain ⟨hclaimed, hinserted⟩ := h.apart relay other _ phase' hne.symm hrelay hother
        refine ⟨hclaimed, ?_⟩
        intro id hid hother'
        simp only [insertedIds, List.map_append, List.map_cons, List.map_nil,
          id_envelopeJob, List.mem_append, List.mem_singleton] at hid
        obtain hid | rfl := hid
        · exact hinserted hid hother'
        · -- No other flush has inserted the identifier.
          refine hawaits ⟨other, ?_, hne, phase', hother, hother'⟩
          exact List.mem_range.2 (List.getElem?_eq_some_iff.1 hother).1
  · cases hstep

theorem Sound.checkNext (h : s.Sound)
    (hrelay : s.relays[relay]? = some (.flushing .checking flush))
    (hstep : s.checkNext relay flush = some t) : t.Sound := by
  have hflush := h.soundFlush hrelay
  rw [OutboxState.checkNext] at hstep
  split at hstep
  · split_ifs at hstep
    · cases hstep
      exact h.advance hrelay rfl rfl ⟨hflush.claimed, hflush.remaining, hflush.progress,
        hflush.once, hflush.admitted, hflush.sent⟩
    · cases hstep
      exact h.rollback
  · cases hstep

theorem Sound.markNext (h : s.Sound)
    (hrelay : s.relays[relay]? = some (.flushing .marking flush))
    (hstep : s.markNext relay flush = some t) : t.Sound := by
  have hflush := h.soundFlush hrelay
  rw [OutboxState.markNext] at hstep
  split at hstep
  · next message rest hremaining =>
      cases hstep
      have hsent : RelayPhase.sentIds .marking flush =
          flush.dispatched ++ [message.id] := by
        simp [RelayPhase.sentIds, hremaining]
      refine h.advance hrelay rfl rfl ⟨hflush.claimed, ?_, ?_, hflush.once, ?_, ?_⟩
      · exact fun found hfound => hflush.remaining (by simp [hremaining, hfound])
      · simp [hflush.progress, hremaining]
      · exact fun found hfound hid => hflush.admitted found hfound (hsent ▸ hid)
      · exact fun job hjob => (hflush.sent job hjob).imp fun found hfound =>
          ⟨hfound.1, hfound.2.1, hsent ▸ hfound.2.2⟩
  · cases hstep

/-! ### A flush commits -/

@[simp] theorem id_marked (dispatched : List String) (message : OutboxMessage) :
    (marked dispatched message).id = message.id := by
  rw [marked]
  split <;> rfl

@[simp] theorem payload_marked (dispatched : List String) (message : OutboxMessage) :
    (marked dispatched message).payload = message.payload := by
  rw [marked]
  split <;> rfl

/-- A row is dispatched afterwards if it was before, or has been marked. -/
theorem status_marked (dispatched : List String) (message : OutboxMessage) :
    (marked dispatched message).status = .dispatched ↔
      message.id ∈ dispatched ∨ message.status = .dispatched := by
  rw [marked]
  split <;> simp_all

/-- Rows are marked that another flush has not claimed. -/
theorem SoundFlush.mark {dispatched : List String} (h : s.SoundFlush stage flush)
    (hfree : ∀ message ∈ flush.claimed, message.id ∉ dispatched) :
    SoundFlush { s with messages := s.messages.map (marked dispatched) } stage flush where
  claimed := by
    intro message hmessage
    obtain ⟨hmem, hpending⟩ := h.claimed message hmessage
    refine ⟨List.mem_map.2 ⟨message, hmem, ?_⟩, hpending⟩
    rw [marked, if_neg (hfree message hmessage)]
  remaining := h.remaining
  progress := h.progress
  once := h.once
  admitted := h.admitted
  sent := h.sent

theorem Sound.isRelayed_commit (h : s.Sound) (hflush : s.SoundFlush .sending flush) :
    IsRelayed { s with
      messages := s.messages.map (marked flush.dispatched)
      jobs := s.jobs ++ flush.jobs } where
  admitted := by
    intro message hmessage hstatus
    obtain ⟨found, hfound, rfl⟩ := List.mem_map.1 hmessage
    rw [payload_marked]
    obtain hid | hbefore := (status_marked _ _).1 hstatus
    · have hclaimed : found.id ∈ flush.claimed.map OutboxMessage.id := by
        simp [hflush.progress, hid]
      obtain ⟨message, hmem, hsame⟩ := List.mem_map.1 hclaimed
      obtain rfl := h.eq_of_id (hflush.claimed message hmem).1 hfound hsame
      exact hflush.admitted message hmem hid
    · rw [List.map_append]
      exact List.mem_append_left _ (h.relayed.admitted found hfound hbefore)
  dispatched := by
    intro job hjob horigin
    have hmarked : ∃ message ∈ s.messages, (message.id ∈ flush.dispatched ∨
        message.status = .dispatched) ∧ message.payload.id = job.id := by
      obtain hjob | hjob := List.mem_append.1 hjob
      · obtain ⟨message, hmem, hstatus, hid⟩ := h.relayed.dispatched job hjob horigin
        exact ⟨message, hmem, .inr hstatus, hid⟩
      · obtain ⟨message, hmem, hid, hsent⟩ := hflush.sent job hjob
        exact ⟨message, (hflush.claimed message hmem).1, .inl hsent, hid⟩
    obtain ⟨message, hmem, hstatus, hid⟩ := hmarked
    exact ⟨marked flush.dispatched message, List.mem_map_of_mem hmem,
      (status_marked _ _).2 hstatus, by rw [payload_marked, hid]⟩
  once := by simpa using hflush.once

theorem Sound.commitFlush (h : s.Sound)
    (hrelay : s.relays[relay]? = some (.flushing .sending flush))
    (hstep : s.commitFlush relay flush = some t) : t.Sound := by
  have hflush := h.soundFlush hrelay
  rw [OutboxState.commitFlush] at hstep
  split at hstep
  · next hremaining =>
      cases hstep
      have hrelayed := h.isRelayed_commit hflush
      have hdispatched : flush.dispatched = flush.claimed.map OutboxMessage.id := by
        simp [hflush.progress, hremaining]
      refine ⟨?_, ⟨hrelayed.admitted, hrelayed.dispatched, hrelayed.once⟩, ?_, ?_⟩
      · have hids : (s.messages.map (marked flush.dispatched)).map OutboxMessage.id =
            s.messages.map OutboxMessage.id := by
          simp [List.map_map, Function.comp_def]
        exact hids.symm ▸ h.nodup
      · intro phase hphase
        obtain ⟨other, hother⟩ := List.mem_iff_getElem?.1 hphase
        obtain ⟨-, rfl⟩ | ⟨hne, hbefore⟩ := getElem?_setRelay hother
        · trivial
        · have hsound := h.phases phase (List.mem_of_getElem? hbefore)
          have hapart := h.apart relay other _ phase hne.symm hrelay hbefore
          cases phase with
          | idle => trivial
          | flushing stage' flush' =>
            have hmarked : SoundFlush { s with
                messages := s.messages.map (marked flush.dispatched) } stage' flush' := by
              refine SoundFlush.mark hsound fun message hmessage hid => ?_
              rw [hdispatched] at hid
              exact hapart.1 hid (List.mem_map_of_mem hmessage)
            have hadded := hmarked.addJobs hrelayed.once hapart.2
            exact ⟨hadded.claimed, hadded.remaining, hadded.progress, hadded.once,
              hadded.admitted, hadded.sent⟩
      · intro one other phase phase' hne hone hother
        obtain ⟨-, rfl⟩ | ⟨-, hbefore⟩ := getElem?_setRelay hone
        · exact apart_idle phase'
        · obtain ⟨-, rfl⟩ | ⟨-, hbefore'⟩ := getElem?_setRelay hother
          · exact (apart_idle phase).symm
          · exact h.apart one other phase phase' hne hbefore hbefore'
  · cases hstep

/-- **A step keeps what holds.** -/
theorem Sound.step (h : s.Sound) (hstep : s.step label = some t) : t.Sound := by
  cases label with
  | tick milliseconds =>
    cases hstep
    refine ⟨h.nodup, ⟨h.relayed.admitted, h.relayed.dispatched, h.relayed.once⟩,
      fun phase hphase => ?_, h.apart⟩
    have hsound := h.phases phase hphase
    cases phase with
    | idle => trivial
    | flushing stage flush => exact ⟨hsound.claimed, hsound.remaining, hsound.progress,
        hsound.once, hsound.admitted, hsound.sent⟩
  | stage message =>
    rw [OutboxState.step] at hstep
    split_ifs at hstep with hfresh
    cases hstep
    exact h.staged hfresh.1 hfresh.2
  | enqueue envelope =>
    rw [OutboxState.step] at hstep
    split_ifs at hstep with hwaits hknown
    · cases hstep
      exact h
    · cases hstep
      exact h.enqueued hwaits hknown
  | claim relay ids =>
    rw [OutboxState.step] at hstep
    split at hstep
    · split_ifs at hstep
      cases hstep
      exact h.claim ids
    · cases hstep
  | send relay =>
    rw [OutboxState.step] at hstep
    split at hstep
    · next hrelay => exact h.sendNext hrelay hstep
    · cases hstep
  | check relay =>
    rw [OutboxState.step] at hstep
    split at hstep
    · next hrelay => exact h.checkNext hrelay hstep
    · cases hstep
  | mark relay =>
    rw [OutboxState.step] at hstep
    split at hstep
    · next hrelay => exact h.markNext hrelay hstep
    · cases hstep
  | commit relay =>
    rw [OutboxState.step] at hstep
    split at hstep
    · next hrelay => exact h.commitFlush hrelay hstep
    · cases hstep
  | throws relay | crash relay =>
    cases hstep
    exact h.rollback

theorem Sound.run (h : s.Sound) {labels : List OutboxLabel}
    (hrun : Transition.run OutboxState.step s labels = some t) : t.Sound :=
  (Transition.run_eq_some_iff.1 hrun).invariant (P := Sound)
    (fun _ _ _ h _ hstep => h.step hstep) h

/-! ### What becomes of a row that is due -/

variable {id : String}

/-- A row that a flush would claim, if another one had not. -/
def IsDue (s : OutboxState) (message : OutboxMessage) : Prop :=
  message.status = .pending ∧ message.messageType = outboxMessageType ∧
    message.availableAt ≤ s.now

instance (s : OutboxState) (message : OutboxMessage) : Decidable (s.IsDue message) :=
  inferInstanceAs (Decidable (message.status = .pending ∧
    message.messageType = outboxMessageType ∧ message.availableAt ≤ s.now))

def due (s : OutboxState) : List OutboxMessage := s.messages.filter s.IsDue

/-- A row has been dispatched. -/
def IsDispatched (s : OutboxState) (id : String) : Prop :=
  ∃ message ∈ s.messages, message.id = id ∧ message.status = .dispatched

/-- A flush has claimed a row. -/
def IsClaimed (s : OutboxState) (id : String) : Prop :=
  ∃ (relay : ℕ) (phase : RelayPhase), s.relays[relay]? = some phase ∧ id ∈ phase.claimedIds

/-- **The condition**: no flush that has claimed the row is rolled back. -/
def KeepsRow (id : String) (s : OutboxState) : OutboxLabel → Prop
  | .throws relay | .crash relay =>
    ∀ phase ∈ s.relays[relay]?, id ∉ phase.claimedIds
  | _ => True

theorem length_claimable_le : s.claimable.length ≤ s.due.length := by
  apply List.Sublist.length_le
  apply List.monotone_filter_right
  intro message hclaimable
  have hclaimable := of_decide_eq_true hclaimable
  exact decide_eq_true ⟨hclaimable.1, hclaimable.2.1, hclaimable.2.2.1⟩

/-- A flush claims all that it may, if that is not too much. -/
theorem IsClaim.mem {ids : List String} (hclaim : s.IsClaim ids)
    (hlimit : s.due.length ≤ flushLimit) (hmessage : message ∈ s.claimable) : message.id ∈ ids := by
  have hlength : ids.length = s.claimable.length := by
    rw [hclaim.length]
    exact min_eq_right (length_claimable_le.trans hlimit)
  have hsubset : ids ⊆ s.claimable.map OutboxMessage.id := by
    intro id hid
    rw [← hclaim.found] at hid
    obtain ⟨claimed, hclaimed, rfl⟩ := List.mem_map.1 hid
    exact List.mem_map_of_mem (mem_claimable_of_claimedRows hclaimed)
  have hperm : ids.Perm (s.claimable.map OutboxMessage.id) := by
    apply (List.subperm_of_subset hclaim.nodup hsubset).perm_of_length_le
    simp [hlength]
  exact hperm.mem_iff.2 (List.mem_map_of_mem hmessage)

/-- A claim is kept while its flush goes on. -/
theorem IsClaimed.setRelay (h : s.IsClaimed id)
    (hkeep : ∀ before, s.relays[relay]? = some before → id ∈ before.claimedIds →
      id ∈ phase.claimedIds) : (s.setRelay relay phase).IsClaimed id := by
  obtain ⟨other, before, hbefore, hid⟩ := h
  by_cases hother : relay = other
  · subst hother
    refine ⟨relay, phase, ?_, hkeep before hbefore hid⟩
    exact List.getElem?_set_self (List.getElem?_eq_some_iff.1 hbefore).1
  · refine ⟨other, before, ?_, hid⟩
    rw [OutboxState.setRelay, List.getElem?_set_ne hother, hbefore]

/-- A flush that goes on keeps what it has claimed. -/
theorem IsClaimed.advance (h : s.IsClaimed id)
    (hrelay : s.relays[relay]? = some (.flushing stage flush)) {stage' : FlushStage}
    {flush' : Flush} (hclaimed : flush'.claimed = flush.claimed) :
    (s.setRelay relay (.flushing stage' flush')).IsClaimed id := by
  refine h.setRelay fun before hbefore hid => ?_
  rw [hrelay] at hbefore
  cases hbefore
  rwa [claimedIds, hclaimed]

/-- A flush that has been rolled back had not claimed the row. -/
theorem IsClaimed.rollback (h : s.IsClaimed id)
    (hfree : ∀ phase ∈ s.relays[relay]?, id ∉ phase.claimedIds) :
    (s.setRelay relay .idle).IsClaimed id :=
  h.setRelay fun before hbefore hid => absurd hid (hfree before hbefore)

theorem IsDispatched.mono (h : s.IsDispatched id)
    (hmessages : ∀ message ∈ s.messages, ∃ message' ∈ t.messages, message'.id = message.id ∧
      (message.status = .dispatched → message'.status = .dispatched)) : t.IsDispatched id := by
  obtain ⟨message, hmem, rfl, hstatus⟩ := h
  obtain ⟨message', hmem', hid, hkeep⟩ := hmessages message hmem
  exact ⟨message', hmem', hid, hkeep hstatus⟩

/-- One member of a list has a key, if the keys are distinct and one of them is the key. -/
theorem length_filter_eq_one {α β : Type*} [DecidableEq β] {f : α → β} {l : List α} {b : β}
    (hnodup : (l.map f).Nodup) (hmem : b ∈ l.map f) :
    (l.filter fun a => f a = b).length = 1 := by
  have hcount := List.count_eq_one_of_mem hnodup hmem
  rw [List.count_eq_countP, List.countP_map, List.countP_eq_length_filter] at hcount
  rw [← hcount]
  congr 1

/-- The job that pg-boss has not taken is always found. -/
theorem SoundFlush.found (h : s.SoundFlush .checking flush) {rest : List OutboxMessage}
    (hremaining : flush.remaining = message :: rest) :
    ((s.jobs ++ flush.jobs).filter fun job => job.id = message.payload.id).length = 1 := by
  apply length_filter_eq_one
  · rw [List.map_append]
    exact h.once
  · refine h.admitted message (h.remaining (by simp [hremaining])) ?_
    simp [sentIds, hremaining]

/-- The messages stay, and stay dispatched. -/
theorem IsDispatched.step (h : s.IsDispatched id) (hstep : s.step label = some t) :
    t.IsDispatched id := by
  have hsame : t.messages = s.messages → t.IsDispatched id := by
    intro hmessages
    obtain ⟨message, hmem, hrow⟩ := h
    exact ⟨message, hmessages ▸ hmem, hrow⟩
  cases label with
  | tick milliseconds =>
    cases hstep
    exact hsame rfl
  | stage message =>
    rw [OutboxState.step] at hstep
    split_ifs at hstep
    cases hstep
    exact h.mono fun found hfound => ⟨found, List.mem_append_left _ hfound, rfl, fun h => h⟩
  | enqueue envelope =>
    rw [OutboxState.step] at hstep
    split_ifs at hstep <;> (cases hstep; exact hsame rfl)
  | claim relay ids =>
    rw [OutboxState.step] at hstep
    split at hstep
    · split_ifs at hstep
      cases hstep
      exact hsame rfl
    · cases hstep
  | send relay =>
    rw [OutboxState.step] at hstep
    split at hstep
    · rw [OutboxState.sendNext] at hstep
      split at hstep
      · split_ifs at hstep <;> (cases hstep; exact hsame rfl)
      · cases hstep
    · cases hstep
  | check relay =>
    rw [OutboxState.step] at hstep
    split at hstep
    · rw [OutboxState.checkNext] at hstep
      split at hstep
      · split_ifs at hstep <;> (cases hstep; exact hsame rfl)
      · cases hstep
    · cases hstep
  | mark relay =>
    rw [OutboxState.step] at hstep
    split at hstep
    · rw [OutboxState.markNext] at hstep
      split at hstep
      · cases hstep
        exact hsame rfl
      · cases hstep
    · cases hstep
  | commit relay =>
    rw [OutboxState.step] at hstep
    split at hstep
    · next flush hrelay =>
        rw [OutboxState.commitFlush] at hstep
        split at hstep
        · cases hstep
          exact h.mono fun found hfound => ⟨marked flush.dispatched found,
            List.mem_map_of_mem hfound, id_marked _ _, fun hstatus =>
              (status_marked _ _).2 (.inr hstatus)⟩
        · cases hstep
    · cases hstep
  | throws relay | crash relay =>
    cases hstep
    exact hsame rfl

/-- **A row that a flush has claimed stays claimed until it is dispatched**, unless the flush is
rolled back. -/
theorem Sound.claimed_step (h : s.Sound) (hclaimed : s.IsClaimed id) (hguard : KeepsRow id s label)
    (hstep : s.step label = some t) : t.IsDispatched id ∨ t.IsClaimed id := by
  cases label with
  | tick milliseconds =>
    cases hstep
    exact .inr hclaimed
  | stage message =>
    rw [OutboxState.step] at hstep
    split_ifs at hstep
    cases hstep
    exact .inr hclaimed
  | enqueue envelope =>
    rw [OutboxState.step] at hstep
    split_ifs at hstep <;> (cases hstep; exact .inr hclaimed)
  | claim relay ids =>
    rw [OutboxState.step] at hstep
    split at hstep
    · next hidle =>
        split_ifs at hstep
        cases hstep
        refine .inr (hclaimed.setRelay fun before hbefore hid => ?_)
        rw [hidle] at hbefore
        cases hbefore
        cases hid
    · cases hstep
  | send relay =>
    rw [OutboxState.step] at hstep
    split at hstep
    · next flush hrelay =>
        rw [OutboxState.sendNext] at hstep
        split at hstep
        · split_ifs at hstep <;>
            (cases hstep; exact .inr (hclaimed.advance hrelay rfl))
        · cases hstep
    · cases hstep
  | check relay =>
    rw [OutboxState.step] at hstep
    split at hstep
    · next flush hrelay =>
        rw [OutboxState.checkNext] at hstep
        split at hstep
        · next message rest hremaining =>
            rw [if_pos ((h.soundFlush hrelay).found hremaining)] at hstep
            cases hstep
            exact .inr (hclaimed.advance hrelay rfl)
        · cases hstep
    · cases hstep
  | mark relay =>
    rw [OutboxState.step] at hstep
    split at hstep
    · next flush hrelay =>
        rw [OutboxState.markNext] at hstep
        split at hstep
        · cases hstep
          exact .inr (hclaimed.advance hrelay rfl)
        · cases hstep
    · cases hstep
  | commit relay =>
    rw [OutboxState.step] at hstep
    split at hstep
    · next flush hrelay =>
        have hflush := h.soundFlush hrelay
        rw [OutboxState.commitFlush] at hstep
        split at hstep
        · next hremaining =>
            cases hstep
            by_cases hown : id ∈ flush.claimed.map OutboxMessage.id
            · -- The flush has marked all that it had claimed.
              obtain ⟨message, hmem, rfl⟩ := List.mem_map.1 hown
              refine .inl ⟨marked flush.dispatched message,
                List.mem_map_of_mem (hflush.claimed message hmem).1, id_marked _ _, ?_⟩
              rw [status_marked]
              rw [hflush.progress, hremaining] at hown
              exact .inl (by simpa using hown)
            · have hkept : (s.setRelay relay .idle).IsClaimed id := by
                refine hclaimed.rollback fun before hbefore hid => ?_
                rw [Option.mem_def, hrelay] at hbefore
                cases hbefore
                exact hown hid
              exact .inr hkept
        · cases hstep
    · cases hstep
  | throws relay | crash relay =>
    cases hstep
    exact .inr (hclaimed.rollback hguard)

/-- A row that is due when a flush begins is claimed from then on. -/
theorem isClaimed_of_due {ids : List String} (hstep : s.step (.claim relay ids) = some t)
    (hlimit : s.due.length ≤ flushLimit) (hdue : message ∈ s.due) : t.IsClaimed message.id := by
  rw [OutboxState.step] at hstep
  split at hstep
  · next hidle =>
      split_ifs at hstep with hclaim
      cases hstep
      by_cases hclaimed : s.IsClaimed message.id
      · refine hclaimed.setRelay fun before hbefore hid => ?_
        rw [hidle] at hbefore
        cases hbefore
        cases hid
      · -- No flush has claimed it yet, and this one claims all of these rows.
        obtain ⟨hmem, hrow⟩ := List.mem_filter.1 hdue
        have hrow := of_decide_eq_true hrow
        have hclaimable : message ∈ s.claimable := by
          refine List.mem_filter.2 ⟨hmem, decide_eq_true ⟨hrow.1, hrow.2.1, hrow.2.2, ?_⟩⟩
          intro phase hphase hid
          obtain ⟨other, hother⟩ := List.mem_iff_getElem?.1 hphase
          exact hclaimed ⟨other, phase, hother, hid⟩
        have hid := hclaim.mem hlimit hclaimable
        refine ⟨relay, _, List.getElem?_set_self (List.getElem?_eq_some_iff.1 hidle).1, ?_⟩
        rw [claimedIds, hclaim.found]
        exact hid
  · cases hstep

theorem Sound.dispatched_of_run (h : s.Sound) (hrow : s.IsDispatched id ∨ s.IsClaimed id)
    {labels : List OutboxLabel} (hrun : Transition.Run OutboxState.step (KeepsRow id) s labels t) :
    t.IsDispatched id ∨ t.IsClaimed id := by
  have hkeep := hrun.invariant (P := fun s => s.Sound ∧ (s.IsDispatched id ∨ s.IsClaimed id))
    (fun s label t ⟨h, hrow⟩ hguard hstep =>
      ⟨h.step hstep, hrow.elim (fun hrow => .inl (hrow.step hstep))
        fun hrow => h.claimed_step hrow hguard hstep⟩) ⟨h, hrow⟩
  exact hkeep.2

end OutboxState

open OutboxState

/-- **The relay**: in every run, what is committed is as promised; and if at most fifty rows are due
when a flush begins, each of them is dispatched once no flush runs, unless a flush that had claimed
it was rolled back. -/
theorem outbox_relayed {s t : OutboxState} (hinitial : s.IsInitial) {labels : List OutboxLabel}
    (hrun : Transition.run step s labels = some t) :
    t.IsRelayed ∧
      ∀ (relay : ℕ) (ids : List String) (t' u : OutboxState) (labels' : List OutboxLabel),
        t.step (.claim relay ids) = some t' → t.due.length ≤ flushLimit →
          ∀ message ∈ t.due,
            Transition.Run step (KeepsRow message.id) t' labels' u →
              (∀ phase ∈ u.relays, phase = .idle) → u.IsDispatched message.id := by
  have hsound := hinitial.sound.run hrun
  refine ⟨hsound.relayed, fun relay ids t' u labels' hstep hlimit message hdue hrest hidle => ?_⟩
  have hclaimed := isClaimed_of_due hstep hlimit hdue
  have hrow := (hsound.step hstep).dispatched_of_run (.inr hclaimed) hrest
  refine hrow.resolve_right ?_
  rintro ⟨other, phase, hother, hid⟩
  rw [hidle phase (List.mem_of_getElem? hother)] at hid
  cases hid

/-! ### A row that is refused -/

/-- An envelope of a job that may run for some time. -/
def counterEnvelope (id : String) (timeout : ℚ) : QueueEnvelope where
  id := id
  work :=
    { kind := .job
      targetId := "job:counter"
      eventId := none
      eventVersion := none
      payload := .object []
      policy := { retries := 0, retryDelay := 1, backoff := false, timeout := timeout }
      availableAt := none
      idempotencyKey := none }
  context :=
    { sourceExecutionId := id
      correlationId := id
      causationId := none
      actor := ⟨.system, some "app"⟩
      initiator := ⟨.system, some "app"⟩
      delegation := []
      tenant := none
      authentication := ⟨.authenticated, none, none, none, none, none, none⟩
      trace := ⟨none, none, none, none, none, none, none⟩
      locale := none
      timeZone := none }

/-- The row of a job that takes half a minute at most. -/
def counterMessage : OutboxMessage where
  id := "3f0c8c52-6a3e-4d0f-8f0b-1f6f0f5a7b01"
  messageType := outboxMessageType
  payload := counterEnvelope "9b2d5f0a-7c41-4f6e-9d3a-2b8c1e4f6a01" 30
  status := .pending
  availableAt := 1700000000000
  createdAt := 1700000000000

/-- The row of a job that may take two days, which pg-boss refuses. -/
def longMessage : OutboxMessage where
  id := "3f0c8c52-6a3e-4d0f-8f0b-1f6f0f5a7b02"
  messageType := outboxMessageType
  payload := counterEnvelope "9b2d5f0a-7c41-4f6e-9d3a-2b8c1e4f6a02" 172800
  status := .pending
  availableAt := 1700000000000
  createdAt := 1700000000001

def counterOutbox : OutboxState := ⟨1700000000100, [counterMessage], [], [.idle]⟩

theorem counterOutbox_isInitial : counterOutbox.IsInitial := by
  refine ⟨?_, ?_, ?_, ?_, ?_⟩ <;> simp [counterOutbox, counterMessage]

/-- The row is claimed, sent, marked and committed. -/
theorem outbox_relayed_counter :
    ∃ t u : OutboxState, counterOutbox.step (.claim 0 [counterMessage.id]) = some t ∧
      Transition.Run step (KeepsRow counterMessage.id) t
        [.send 0, .mark 0, .commit 0] u ∧
          u.IsDispatched counterMessage.id := by
  obtain ⟨t, ht⟩ : ∃ t, counterOutbox.step (.claim 0 [counterMessage.id]) = some t :=
    ⟨_, rfl⟩
  obtain ⟨u, hrun, hidle⟩ : ∃ u, Transition.Run step (KeepsRow counterMessage.id) t
      [.send 0, .mark 0, .commit 0] u ∧
        ∀ phase ∈ u.relays, phase = .idle := by
    cases ht
    refine ⟨_, .cons trivial rfl (.cons trivial rfl
      (.cons trivial rfl (.nil _))), ?_⟩
    simp [setRelay, counterOutbox]
  refine ⟨t, u, ht, hrun, ?_⟩
  have hstart : Transition.run step counterOutbox [] = some counterOutbox := rfl
  have hrelayed := outbox_relayed counterOutbox_isInitial hstart
  exact hrelayed.2 0 [counterMessage.id] t u _ ht (by decide) counterMessage (by simp [due,
    counterOutbox, IsDue, counterMessage]) hrun hidle

/-- **One row that is refused blocks the others**: the flush has claimed two rows, the first one has
been sent, pg-boss throws on the second one, and none is dispatched. -/
theorem outbox_blocked :
    ∃ u : OutboxState,
      Transition.run step
        ⟨1700000000100, [counterMessage, longMessage], [], [.idle]⟩
        [.claim 0 [counterMessage.id, longMessage.id], .send 0,
          .mark 0, .throws 0] = some u ∧
      (∀ phase ∈ u.relays, phase = .idle) ∧ ¬ u.IsDispatched counterMessage.id := by
  refine ⟨_, rfl, ?_, ?_⟩
  · simp [setRelay]
  · rintro ⟨message, hmem, hid, hstatus⟩
    simp only [setRelay, List.mem_cons, List.not_mem_nil, or_false] at hmem
    obtain rfl | rfl := hmem <;> cases hstatus

end Doxa
