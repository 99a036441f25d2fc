/-
**When Theoria keeps what its retention promises.**

A day of a retention is a day of twenty-four hours.  PostgreSQL's limits may be an hour off where
the session changes between standard and daylight saving time, the partitions are created for the
UTC months in which the months of the session begin, and a row that is in the warm table already is
moved there once more.

Main definitions:

* `Doxa.KeepsRetention` — what is promised of a prune;
* `Doxa.RetentionFits` — the tables it holds of.

Main results:

* `Doxa.ObservationTables.mem_overflowIds` — the rows beyond the newest ones;
* `Doxa.ObservationTables.removed_pruneWithPool` — the number that is returned;
* `Doxa.retention_kept_iff` — **a prune completes and keeps what is promised exactly if each row
  that is moved finds its partition, none is in the warm table already, and the rows whose age the
  session misjudges are beyond the maximum**;
* `Doxa.partition_missing` — east of Greenwich, a row of the middle of a month finds none.
-/

import Doxa.TheoriaRetention
import Mathlib.Data.List.Dedup
import Mathlib.Tactic.Linarith

set_option relaxedAutoImplicit false
set_option autoImplicit false

namespace Doxa

open ObservationRow ObservationTables Partitioned

variable {α : Type}

/-! ### The order of the rows -/

namespace ObservationRow

theorem isNewer_iff {row other : ObservationRow α} :
    row.isNewer other ↔ other.occurredAt < row.occurredAt ∨
      (other.occurredAt = row.occurredAt ∧ other.id < row.id) := by
  simp [isNewer]

theorem not_isNewer_iff {row other : ObservationRow α} :
    (!row.isNewer other) = true ↔ row.occurredAt < other.occurredAt ∨
      (other.occurredAt = row.occurredAt ∧ row.id ≤ other.id) := by
  rw [Bool.not_eq_true', ← Bool.not_eq_true, isNewer_iff]
  omega

end ObservationRow

/-- In a list in strict order, what is beyond the first elements has that many before it. -/
theorem mem_drop_iff {β : Type} {before : β → β → Bool} {l : List β}
    (hirrefl : ∀ a, before a a = false) (hasymm : ∀ a b, before a b → before b a = false)
    (h : l.Pairwise fun a b => before a b) {a : β} (ha : a ∈ l) (n : ℕ) :
    a ∈ l.drop n ↔ n ≤ (l.filter fun b => before b a).length := by
  induction l generalizing n with
  | nil => cases ha
  | cons x xs ih =>
    obtain ⟨hx, hxs⟩ := List.pairwise_cons.1 h
    cases n with
    | zero => simpa using ha
    | succ n =>
      rw [List.drop_succ_cons]
      rcases List.mem_cons.1 ha with rfl | hmem
      · have hnone : (a :: xs).filter (fun b => before b a) = [] := by
          rw [List.filter_eq_nil_iff, List.forall_mem_cons]
          refine ⟨by simp [hirrefl], fun b hb => ?_⟩
          simp [hasymm a b (hx b hb)]
        have hnot : a ∉ xs.drop n := by
          intro hdrop
          have hself := hx a (List.mem_of_mem_drop hdrop)
          simp [hirrefl] at hself
        simp [hnone, hnot]
      · rw [List.filter_cons_of_pos (p := fun b => before b a) (hx a hmem), List.length_cons,
          ih hxs hmem]
        omega

namespace ObservationTables

variable {clock : SessionClock} {tables : ObservationTables α}

theorem eq_of_id_eq {row other : ObservationRow α} (hrow : row ∈ tables.hot)
    (hother : other ∈ tables.hot) (hid : row.id = other.id) : row = other :=
  List.inj_on_of_nodup_map tables.hot_ids hrow hother hid

/-- **A row is beyond the newest rows exactly if there are that many newer ones.** -/
theorem mem_overflowIds {row : ObservationRow α} (hrow : row ∈ tables.hot) (maximum : ℕ) :
    row.id ∈ tables.overflowIds maximum ↔
      maximum ≤ (tables.hot.filter fun other => other.isNewer row).length := by
  have hperm := List.mergeSort_perm tables.hot fun row other => !other.isNewer row
  have hle : (tables.hot.mergeSort fun row other => !other.isNewer row).Pairwise
      fun row other => (!other.isNewer row) = true := by
    refine List.pairwise_mergeSort (fun a b c hab hbc => ?_) (fun a b => ?_) tables.hot
    · rw [not_isNewer_iff] at hab hbc ⊢
      omega
    · rw [Bool.or_eq_true, not_isNewer_iff, not_isNewer_iff]
      omega
  have hsorted : (tables.hot.mergeSort fun row other => !other.isNewer row).Pairwise
      fun row other => row.isNewer other := by
    have hnodup : (tables.hot.mergeSort fun row other => !other.isNewer row).Pairwise
        fun row other => row.id ≠ other.id :=
      List.pairwise_map.1 ((hperm.map ObservationRow.id).nodup_iff.2 tables.hot_ids)
    refine (hle.and hnodup).imp fun {a b} hab => ?_
    obtain ⟨hab, hne⟩ := hab
    rw [not_isNewer_iff] at hab
    rw [isNewer_iff]
    omega
  have hmem : row.id ∈ tables.overflowIds maximum ↔
      row ∈ (tables.hot.mergeSort fun row other => !other.isNewer row).drop maximum := by
    rw [overflowIds, List.mem_map]
    constructor
    · rintro ⟨other, hother, hid⟩
      have hin := hperm.mem_iff.1 (List.mem_of_mem_drop hother)
      rwa [← eq_of_id_eq hin hrow hid]
    · exact fun hin => ⟨row, hin, rfl⟩
  rw [hmem, mem_drop_iff (fun a => ?_) (fun a b hab => ?_) hsorted (hperm.mem_iff.2 hrow),
    (hperm.filter _).length_eq]
  · simp [isNewer]
  · rw [isNewer_iff] at hab
    rw [← Bool.not_eq_true, isNewer_iff]
    omega

/-! ### Creating partitions and moving -/

variable {archived : ObservationTables α} {hotLimit warmLimit : ℤ}

/-- The bounds of the partition for an instant can be written. -/
def isNameable (instant : ℤ) : Bool :=
  isFourDigits (partitionMonth instant / 12) && isFourDigits ((partitionMonth instant + 1) / 12)

theorem ensurePartitions_isSome (warm : List (ℤ × List (ObservationRow α))) {months : List ℤ} :
    (ensurePartitions warm months).isSome ↔ ∀ month ∈ months, isNameable month := by
  induction months generalizing warm with
  | nil => simp [ensurePartitions]
  | cons month months ih =>
    rw [ensurePartitions, List.foldlM_cons, ensureWarmPartition, List.forall_mem_cons]
    split
    next hnamed => exact ⟨fun h => ⟨hnamed, (ih _).1 h⟩, fun h => (ih _).2 h.2⟩
    next hnamed => exact ⟨fun h => absurd h (by simp), fun h => absurd h.1 hnamed⟩

/-- The partitions there are, and no new rows. -/
theorem ensurePartitions_spec {warm warm' : List (ℤ × List (ObservationRow α))} {months : List ℤ}
    (h : ensurePartitions warm months = some warm') :
    (∀ key, key ∈ warm'.map Prod.fst ↔
      key ∈ warm.map Prod.fst ∨ ∃ month ∈ months, partitionMonth month = key) ∧
      rows warm' = rows warm := by
  induction months generalizing warm with
  | nil =>
    cases h
    simp
  | cons month months ih =>
    rw [ensurePartitions, List.foldlM_cons, ensureWarmPartition] at h
    split at h
    · obtain ⟨hkeys, hrows⟩ := ih h
      refine ⟨fun key => ?_, hrows.trans (rows_attach _)⟩
      rw [hkeys, mem_keys_attach, List.exists_mem_cons_iff, eq_comm (a := key)]
      tauto
    · cases h

/-- What the archiving does. -/
theorem archive_eq_some (h : tables.archive clock hotLimit warmLimit = some archived) :
    archived.hot = tables.hot.filter (fun row => !isBetween hotLimit warmLimit row) ∧
      ∃ warm, ensurePartitions tables.warm (((tables.movedRows hotLimit warmLimit).map fun row =>
          clock.truncMonth row.occurredAt).dedup) = some warm ∧
        insertAll month (tables.movedRows hotLimit warmLimit) warm =
          some archived.warm := by
  rw [archive] at h
  split at h
  · cases h
  next warm hensure =>
    split at h
    · cases h
    next warm' hinsert =>
      cases h
      exact ⟨rfl, warm, hensure, hinsert⟩

/-- A partition for the row, which was there or is created. -/
def FindsPartition (clock : SessionClock) (tables : ObservationTables α)
    (moved : List (ObservationRow α)) (row : ObservationRow α) : Prop :=
  row.month ∈ tables.warm.map Prod.fst ∨
    ∃ other ∈ moved, partitionMonth (clock.truncMonth other.occurredAt) = row.month

/-- **The archiving completes exactly if all partitions can be created and each row finds one.** -/
theorem archive_isSome :
    (tables.archive clock hotLimit warmLimit).isSome ↔
      ∀ row ∈ tables.movedRows hotLimit warmLimit,
        isNameable (clock.truncMonth row.occurredAt) ∧
          FindsPartition clock tables (tables.movedRows hotLimit warmLimit) row := by
  have hnamed : (∀ month ∈ ((tables.movedRows hotLimit warmLimit).map fun row =>
      clock.truncMonth row.occurredAt).dedup, isNameable month) ↔
        ∀ row ∈ tables.movedRows hotLimit warmLimit,
          isNameable (clock.truncMonth row.occurredAt) := by
    simp [List.mem_dedup]
  have hsome : (tables.archive clock hotLimit warmLimit).isSome ↔
      ∃ warm, ensurePartitions tables.warm (((tables.movedRows hotLimit warmLimit).map fun row =>
          clock.truncMonth row.occurredAt).dedup) = some warm ∧
        (insertAll month (tables.movedRows hotLimit warmLimit)
          warm).isSome := by
    rw [archive]
    split
    next hensure => simp [hensure]
    next warm hensure =>
      split
      next hinsert => simp [hensure, hinsert]
      next warm' hinsert => simp [hensure, hinsert]
  rw [hsome, forall₂_and, ← hnamed, ← ensurePartitions_isSome tables.warm, Option.isSome_iff_exists,
    ← exists_and_right]
  refine exists_congr fun warm => and_congr_right fun hensure => ?_
  rw [insertAll_isSome]
  refine forall₂_congr fun row _ => ?_
  rw [(ensurePartitions_spec hensure).1, FindsPartition]
  simp [List.mem_dedup]

/-! ### Counting -/

/-- Rows of the warm table, together with those that are moved there. -/
theorem rows_archive (h : tables.archive clock hotLimit warmLimit = some archived) :
    archived.warmRows.Perm (tables.warmRows ++ tables.movedRows hotLimit warmLimit) := by
  obtain ⟨-, warm, hensure, hinsert⟩ := archive_eq_some h
  obtain ⟨-, hrows⟩ := ensurePartitions_spec hensure
  have hperm := rows_insertAll (sound_ensurePartitions tables.warm_sound hensure)
    hinsert
  rwa [hrows] at hperm

theorem length_filter_add {β : Type} (l : List β) (q : β → Bool) :
    (l.filter q).length + (l.filter fun b => !q b).length = l.length := by
  induction l with
  | nil => rfl
  | cons b l ih =>
    cases hb : q b <;> simp [hb] <;> omega

/-- The last statement leaves what has been reached neither by the limit nor by the maximum. -/
theorem mem_pruneHot (harchive : tables.archive clock hotLimit warmLimit = some archived) (days : ℚ)
    (maximum : ℕ) {row : ObservationRow α} :
    row ∈ (((archived.dropExpiredWarmPartitions clock days).1.pruneHot hotLimit maximum).1).hot ↔
      row ∈ tables.hot ∧ hotLimit ≤ row.occurredAt ∧
        (tables.hot.filter fun other => other.isNewer row).length < maximum := by
  obtain ⟨hhot, -⟩ := archive_eq_some harchive
  have hkept : (archived.dropExpiredWarmPartitions clock days).1.hot =
      tables.hot.filter fun row => !isBetween hotLimit warmLimit row := hhot
  have hnewer : hotLimit ≤ row.occurredAt →
      ((archived.dropExpiredWarmPartitions clock days).1.hot.filter fun other =>
        other.isNewer row) = tables.hot.filter fun other => other.isNewer row := by
    intro hlimit
    rw [hkept, List.filter_filter]
    refine List.filter_congr fun other _ => ?_
    cases hother : other.isNewer row with
    | false => rfl
    | true =>
      rw [isNewer_iff] at hother
      have hout : isBetween hotLimit warmLimit other = false := by
        rw [isBetween, Bool.and_eq_false_iff, decide_eq_false_iff_not]
        exact .inl (by omega)
      simp [hout]
  have hmem : row ∈ (archived.dropExpiredWarmPartitions clock days).1.hot ↔
      row ∈ tables.hot ∧ isBetween hotLimit warmLimit row = false := by
    rw [hkept]
    simp
  rw [pruneHot, List.mem_filter, Bool.not_eq_true', isDeleted, Bool.or_eq_false_iff,
    decide_eq_false_iff_not, not_lt, decide_eq_false_iff_not]
  constructor
  · rintro ⟨hin, hlimit, hnot⟩
    rw [mem_overflowIds hin, hnewer hlimit, not_le] at hnot
    exact ⟨(hmem.1 hin).1, hlimit, hnot⟩
  · rintro ⟨hin, hlimit, hfew⟩
    have hout : isBetween hotLimit warmLimit row = false := by
      rw [isBetween, Bool.and_eq_false_iff, decide_eq_false_iff_not]
      exact .inl (by omega)
    have hin' := hmem.2 ⟨hin, hout⟩
    refine ⟨hin', hlimit, ?_⟩
    rw [mem_overflowIds hin', hnewer hlimit, not_le]
    exact hfew

/-- **What is removed is counted once.** -/
theorem removed_pruneWithPool (harchive : tables.archive clock hotLimit warmLimit = some archived)
    (days : ℚ) (maximum : ℕ) : let kept := archived.dropExpiredWarmPartitions clock days
    let pruned := kept.1.pruneHot hotLimit maximum
    pruned.2 + kept.2 + pruned.1.hot.length + pruned.1.warmRows.length =
      tables.hot.length + tables.warmRows.length := by
  intro kept pruned
  obtain ⟨hhot, -⟩ := archive_eq_some harchive
  have hrows := (rows_archive harchive).length_eq
  rw [List.length_append] at hrows
  have hmoved : (tables.movedRows hotLimit warmLimit).length + archived.hot.length =
      tables.hot.length := by
    rw [hhot]
    exact length_filter_add tables.hot (isBetween hotLimit warmLimit)
  have hdeleted : pruned.2 + pruned.1.hot.length = archived.hot.length :=
    length_filter_add kept.1.hot (kept.1.isDeleted hotLimit maximum)
  have hdropped : pruned.1.warmRows.length + kept.2 = archived.warmRows.length := by
    have hsplit := length_filter_add archived.warmRows fun row =>
      keepsPartition (warmCutoff clock.now days) row.month
    have hkeep := rows_keep archived.warm_sound.routed
      (keepsPartition (warmCutoff clock.now days))
    have hdrop := rows_keep archived.warm_sound.routed
      fun month => !keepsPartition (warmCutoff clock.now days) month
    rw [warmRows, ← hkeep, ← hdrop] at hsplit
    exact hsplit
  omega

end ObservationTables

/-! ### What is promised -/

/-- How long ago a row has been recorded. -/
def SessionClock.age (clock : SessionClock) (row : ObservationRow α) : ℚ :=
  ((clock.now - row.occurredAt : ℤ) : ℚ)

variable [DecidableEq α]

/-- **What is promised of a prune** that leaves some tables and returns a number. -/
structure KeepsRetention (clock : SessionClock) (hotDays warmDays : ℚ) (maximum : ℕ)
    (before after : ObservationTables α) (count : ℕ) : Prop where
  /-- What is younger than the one limit stays, unless there are enough newer ones. -/
  young : ∀ row ∈ before.hot, clock.age row < dayMicroseconds hotDays →
    row ∈ after.hot ∨ maximum ≤ (before.hot.filter fun other => other.isNewer row).length
  /-- What is between the limits is moved. -/
  between : ∀ row ∈ before.hot, dayMicroseconds hotDays < clock.age row →
    clock.age row ≤ dayMicroseconds warmDays → row ∉ after.hot ∧ after.warmRows.count row = 1
  old : ∀ row ∈ after.hot, clock.age row ≤ dayMicroseconds hotDays
  /-- A partition that is gone after the rows were moved had only rows older than the other limit.
  -/
  dropped : ∀ archived, before.archiveWarmObservations clock hotDays warmDays = some archived →
    ∀ partition ∈ archived.warm, partition.1 ∉ after.warm.map Prod.fst →
      ∀ row ∈ partition.2, dayMicroseconds warmDays < clock.age row
  removed : count + after.hot.length + after.warmRows.length =
    before.hot.length + before.warmRows.length

/-- A prune completes and keeps what is promised. -/
def CompletesRetention (clock : SessionClock) (hotDays warmDays : ℚ) (maximum : ℕ)
    (tables : ObservationTables α) : Prop :=
  ∃ after count, tables.pruneWithPool clock hotDays warmDays maximum = some (after, count) ∧
    KeepsRetention clock hotDays warmDays maximum tables after count

/-- PostgreSQL's limit and the age do not agree on whether a row is still hot. -/
def IsMisjudged (clock : SessionClock) (hotDays : ℚ) (hotLimit : ℤ) (row : ObservationRow α) :
    Prop :=
  (clock.age row < dayMicroseconds hotDays ∧ row.occurredAt < hotLimit) ∨
    (dayMicroseconds hotDays < clock.age row ∧ hotLimit ≤ row.occurredAt)

/-- The rows find their partitions, are judged right or superfluous, and are not in the warm table
already. -/
structure RetentionFits (clock : SessionClock) (hotDays warmDays : ℚ) (maximum : ℕ)
    (hotLimit warmLimit : ℤ) (tables : ObservationTables α) : Prop where
  hot_ago : clock.ago hotDays = some hotLimit
  warm_ago : clock.ago warmDays = some warmLimit
  partitions : ∀ row ∈ tables.movedRows hotLimit warmLimit,
    isNameable (clock.truncMonth row.occurredAt) ∧
      FindsPartition clock tables (tables.movedRows hotLimit warmLimit) row
  judged : ∀ row ∈ tables.hot, IsMisjudged clock hotDays hotLimit row →
    maximum ≤ (tables.hot.filter fun other => other.isNewer row).length
  fresh : ∀ row ∈ tables.hot, dayMicroseconds hotDays < clock.age row →
    clock.age row ≤ dayMicroseconds warmDays →
      tables.warmRows.count row =
        if isBetween hotLimit warmLimit row then 0 else 1

/-! ### Dropping partitions -/

omit [DecidableEq α] in
/-- **A partition is dropped only when its whole month is older than the limit.** -/
theorem age_of_not_keepsPartition {clock : SessionClock} {days : ℚ} (hdays : 0 < days)
    {limit : ℤ} (hago : clock.ago days = some limit) {row : ObservationRow α}
    (h : keepsPartition (warmCutoff clock.now days) row.month = false) :
    dayMicroseconds days < clock.age row := by
  have hvalid := clock.ago_date hdays hago
  rw [keepsPartition, Bool.or_eq_false_iff, warmCutoff, if_pos hvalid] at h
  obtain ⟨-, hend⟩ := h
  rw [Option.any_some, decide_eq_false_iff_not, not_le] at hend
  have hmonth := (Calendar.monthOf_spec (row.occurredAt / 86400000000)).2
  change _ < Calendar.monthStart (row.month + 1) at hmonth
  have hcut : ((Calendar.monthStart (row.month + 1) * 86400000 : ℤ) : ℚ) <
      ((clock.now / 1000 : ℤ) : ℚ) - days * 86400000 := by
    have hle : ((Calendar.monthStart (row.month + 1) * 86400000 + 1 : ℤ) : ℚ) ≤
        ((if 0 ≤ ((clock.now / 1000 : ℤ) : ℚ) - days * 86400000 then
          ⌊((clock.now / 1000 : ℤ) : ℚ) - days * 86400000⌋
          else ⌈((clock.now / 1000 : ℤ) : ℚ) - days * 86400000⌉ : ℤ) : ℚ) := by
      exact_mod_cast hend
    split at hle
    · have hfloor := Int.floor_le (((clock.now / 1000 : ℤ) : ℚ) - days * 86400000)
      push_cast at hle ⊢
      linarith
    · have hceil := Int.ceil_lt_add_one (((clock.now / 1000 : ℤ) : ℚ) - days * 86400000)
      push_cast at hle ⊢
      linarith
  have hnow : ((clock.now / 1000 * 1000 : ℤ) : ℚ) ≤ clock.now := by
    exact_mod_cast by omega
  have hbefore : (row.occurredAt : ℚ) <
      ((Calendar.monthStart (row.month + 1) * 86400000 * 1000 : ℤ) : ℚ) := by
    exact_mod_cast by omega
  rw [SessionClock.age, dayMicroseconds]
  push_cast at hcut hnow hbefore ⊢
  linarith

/-! ### When it is kept -/

omit [DecidableEq α] in
/-- What a prune does, step by step. -/
theorem pruneWithPool_eq_some {clock : SessionClock} {tables after : ObservationTables α}
    {hotDays warmDays : ℚ} {maximum count : ℕ} :
    tables.pruneWithPool clock hotDays warmDays maximum = some (after, count) ↔
      ∃ hotLimit warmLimit archived, clock.ago hotDays = some hotLimit ∧
        clock.ago warmDays = some warmLimit ∧
        tables.archive clock hotLimit warmLimit = some archived ∧
        after = ((archived.dropExpiredWarmPartitions clock warmDays).1.pruneHot hotLimit
          maximum).1 ∧
        count = ((archived.dropExpiredWarmPartitions clock warmDays).1.pruneHot hotLimit
          maximum).2 + (archived.dropExpiredWarmPartitions clock warmDays).2 := by
  simp only [pruneWithPool, archiveWarmObservations,
    Option.bind_eq_bind, Option.bind_eq_some_iff, Option.pure_def, Option.some.injEq,
    Prod.mk.injEq]
  constructor
  · rintro ⟨archived, ⟨hotLimit, hhot, warmLimit, hwarm, harchive⟩, hotLimit', hhot', rfl, rfl⟩
    cases hhot.symm.trans hhot'
    exact ⟨hotLimit, warmLimit, archived, hhot, hwarm, harchive, rfl, rfl⟩
  · rintro ⟨hotLimit, warmLimit, archived, hhot, hwarm, harchive, rfl, rfl⟩
    exact ⟨archived, ⟨hotLimit, hhot, warmLimit, hwarm, harchive⟩, hotLimit, hhot, rfl, rfl⟩

/-- **How often a row is in the warm table afterwards**, if it is not too old for it. -/
theorem count_warmRows {clock : SessionClock} {tables archived : ObservationTables α}
    {warmDays : ℚ} {hotLimit warmLimit : ℤ} (hdays : 0 < warmDays)
    (hwarm : clock.ago warmDays = some warmLimit)
    (harchive : tables.archive clock hotLimit warmLimit = some archived) {maximum : ℕ}
    {row : ObservationRow α} (hrow : row ∈ tables.hot)
    (hage : clock.age row ≤ dayMicroseconds warmDays) :
    ((archived.dropExpiredWarmPartitions clock warmDays).1.pruneHot hotLimit
        maximum).1.warmRows.count row =
      tables.warmRows.count row +
        if isBetween hotLimit warmLimit row then 1 else 0 := by
  have hkeeps : keepsPartition (warmCutoff clock.now warmDays) row.month = true := by
    rw [← Bool.not_eq_false]
    exact fun hdrop => absurd (age_of_not_keepsPartition hdays hwarm hdrop) (not_lt.2 hage)
  have hrows : ((archived.dropExpiredWarmPartitions clock warmDays).1.pruneHot hotLimit
      maximum).1.warmRows = archived.warmRows.filter fun row =>
        keepsPartition (warmCutoff clock.now warmDays) row.month :=
    rows_keep archived.warm_sound.routed _
  have hmoved : (tables.movedRows hotLimit warmLimit).count row =
      if isBetween hotLimit warmLimit row then 1 else 0 := by
    have hnodup : (tables.movedRows hotLimit warmLimit).Nodup :=
      (List.Nodup.of_map ObservationRow.id tables.hot_ids).filter _
    split
    next hbetween => exact List.count_eq_one_of_mem hnodup (List.mem_filter.2 ⟨hrow, hbetween⟩)
    next hout => exact List.count_eq_zero.2 fun hmem => hout (List.mem_filter.1 hmem).2
  rw [hrows, List.count_filter (p := fun row : ObservationRow α =>
    keepsPartition (warmCutoff clock.now warmDays) row.month) hkeeps,
    (rows_archive harchive).count_eq,
    List.count_append, hmoved]

/-- **A prune completes and keeps what is promised exactly if** PostgreSQL has the limits, each row
that is moved finds its partition and is not in the warm table already, and the rows whose age is
misjudged are beyond the maximum. -/
theorem retention_kept_iff (clock : SessionClock) {hotDays warmDays : ℚ} (hhot : 0 < hotDays)
    (hwarm : hotDays < warmDays) (maximum : ℕ) (tables : ObservationTables α) :
    CompletesRetention clock hotDays warmDays maximum tables ↔
      ∃ hotLimit warmLimit, RetentionFits clock hotDays warmDays maximum hotLimit warmLimit
        tables := by
  have hdays : 0 < warmDays := hhot.trans hwarm
  constructor
  · rintro ⟨after, count, hprune, hkeeps⟩
    obtain ⟨hotLimit, warmLimit, archived, hhotAgo, hwarmAgo, harchive, rfl, rfl⟩ :=
      pruneWithPool_eq_some.1 hprune
    refine ⟨hotLimit, warmLimit, hhotAgo, hwarmAgo,
      ObservationTables.archive_isSome.1 (by simp [harchive]), ?_, ?_⟩
    · rintro row hrow (⟨hyoung, hlimit⟩ | ⟨hold, hlimit⟩)
      · refine (hkeeps.young row hrow hyoung).resolve_left fun hmem => ?_
        have hkept := ((mem_pruneHot harchive _ _).1 hmem).2.1
        omega
      · by_contra hfew
        have hmem := (mem_pruneHot harchive warmDays maximum).2
          ⟨hrow, hlimit, not_le.1 hfew⟩
        exact absurd (hkeeps.old row hmem) (not_le.2 hold)
    · intro row hrow hold hage
      have hcount := (hkeeps.between row hrow hold hage).2
      rw [count_warmRows hdays hwarmAgo harchive hrow hage] at hcount
      split at hcount <;> rename_i hbetween <;> simp only [hbetween] <;> simp <;> omega
  · rintro ⟨hotLimit, warmLimit, hfits⟩
    obtain ⟨archived, harchive⟩ := Option.isSome_iff_exists.1
      (ObservationTables.archive_isSome.2 hfits.partitions)
    refine ⟨_, _, pruneWithPool_eq_some.2 ⟨hotLimit, warmLimit, archived, hfits.hot_ago,
      hfits.warm_ago, harchive, rfl, rfl⟩, ?_⟩
    have hnot : ∀ row ∈ tables.hot, dayMicroseconds hotDays < clock.age row →
        hotLimit ≤ row.occurredAt →
          maximum ≤ (tables.hot.filter fun other => other.isNewer row).length :=
      fun row hrow hold hlimit => hfits.judged row hrow (.inr ⟨hold, hlimit⟩)
    refine ⟨?_, ?_, ?_, ?_, removed_pruneWithPool harchive warmDays maximum⟩
    · intro row hrow hyoung
      by_cases hlimit : hotLimit ≤ row.occurredAt
      · rw [mem_pruneHot harchive]
        by_cases hfew : (tables.hot.filter fun other => other.isNewer row).length < maximum
        · exact .inl ⟨hrow, hlimit, hfew⟩
        · exact .inr (not_lt.1 hfew)
      · exact .inr (hfits.judged row hrow (.inl ⟨hyoung, not_le.1 hlimit⟩))
    · intro row hrow hold hage
      constructor
      · rw [mem_pruneHot harchive]
        rintro ⟨-, hlimit, hfew⟩
        exact absurd (hnot row hrow hold hlimit) (not_le.2 hfew)
      · rw [count_warmRows hdays hfits.warm_ago harchive hrow hage, hfits.fresh row hrow hold hage]
        split <;> rfl
    · intro row hrow
      obtain ⟨hin, hlimit, hfew⟩ := (mem_pruneHot harchive _ _).1 hrow
      by_contra hold
      exact absurd (hnot row hin (not_le.1 hold) hlimit) (not_le.2 hfew)
    · intro archived' harchived' partition hpartition hgone row hrow
      have heq : tables.archiveWarmObservations clock hotDays warmDays = some archived := by
        simp [archiveWarmObservations, hfits.hot_ago, hfits.warm_ago, harchive]
      cases heq.symm.trans harchived'
      have hmonth := archived.warm_sound.routed partition hpartition row hrow
      refine age_of_not_keepsPartition hdays hfits.warm_ago ?_
      rw [hmonth, ← Bool.not_eq_true]
      intro hkeep
      exact hgone (List.mem_map_of_mem (List.mem_filter.2 ⟨hpartition, hkeep⟩))

/-! ### A February -/

/-- A session whose time zone is some microseconds ahead of UTC all the time. -/
def fixedClock (now offset : ℤ) : SessionClock where
  now := now
  ago days :=
    if |((now / 1000 : ℤ) : ℚ) - days * 86400000| ≤ 8640000000000000 then
      some (now - ⌊dayMicroseconds days⌋)
    else none
  truncMonth instant :=
    Calendar.monthStart (Calendar.monthOf ((instant + offset) / 86400000000)) * 86400000000 - offset
  ago_date := by
    intro days limit _ h
    split at h
    next hvalid => exact hvalid
    next => cases h

/-- One observation, of the tenth of February 2024. -/
def februaryTables : ObservationTables Unit where
  hot := [⟨1, 19763 * 86400000000, ()⟩]
  warm := []
  hot_ids := List.nodup_singleton 1
  warm_sound := ⟨List.nodup_nil, List.forall_mem_nil _⟩

theorem retention_kept_february :
    CompletesRetention (fixedClock (19773 * 86400000000) 0) 7 30 50000 februaryTables := by
  refine (retention_kept_iff _ (by decide) (by decide) 50000 februaryTables).2
    ⟨19766 * 86400000000, 19743 * 86400000000, by decide +kernel, by decide +kernel, ?_, ?_, ?_⟩
  · intro row hrow
    obtain rfl : row = ⟨1, 19763 * 86400000000, ()⟩ :=
      List.mem_singleton.1 (List.mem_filter.1 hrow).1
    exact ⟨by rfl, .inr ⟨_, hrow, by rfl⟩⟩
  · intro row hrow hmisjudged
    obtain rfl := List.mem_singleton.1 hrow
    exfalso
    rcases hmisjudged with ⟨hyoung, -⟩ | ⟨-, hlimit⟩
    · exact absurd hyoung (by decide +kernel)
    · exact absurd hlimit (by decide)
  · intro row hrow _ _
    obtain rfl := List.mem_singleton.1 hrow
    rfl

/-- **East of Greenwich, a row of the middle of a month finds no partition**: an hour ahead of UTC,
February begins in the January of UTC, whose partition is created, and the prune fails. -/
theorem partition_missing :
    februaryTables.pruneWithPool (fixedClock (19773 * 86400000000) 3600000000) 7 30 50000 = none ∧
      ¬CompletesRetention (fixedClock (19773 * 86400000000) 3600000000) 7 30 50000
        februaryTables := by
  have hnone : februaryTables.pruneWithPool (fixedClock (19773 * 86400000000) 3600000000) 7 30
      50000 = none := by
    rw [← Option.isNone_iff_eq_none]
    decide +kernel
  refine ⟨hnone, ?_⟩
  rintro ⟨after, count, hprune, -⟩
  rw [hnone] at hprune
  cases hprune

end Doxa
