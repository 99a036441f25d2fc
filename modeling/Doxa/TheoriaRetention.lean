/-
**How long Theoria keeps observations.**

Observations are kept in a hot table and, when they get older, in a warm one, which is partitioned
by month (`theoria/src/postgres-theoria.ts`).  A prune moves what is older than the one limit and
not older than the other to the warm table, drops the partitions that are too old, and deletes what
is left over in the hot table.

The limits are computed by PostgreSQL in the time zone of the session, and so are the months whose
partitions are created; the partitions are those of UTC, by JavaScript dates.  What PostgreSQL makes
of the days and the months is a parameter.  Instants are microseconds since 1970, an id is the
number that its digits make, and the columns other than the id and the instant are carried along.  A
partition is called by its month, counted from the January of the year 0.

Main definitions:

* `Doxa.ObservationTables` — the hot and the warm table;
* `Doxa.SessionClock` — the instant, and PostgreSQL's days and months;
* `Doxa.ObservationTables.archiveWarmObservations`,
  `Doxa.ObservationTables.dropExpiredWarmPartitions`, `Doxa.ObservationTables.pruneHot`,
  `Doxa.ObservationTables.pruneWithPool` — a prune.
-/

import Doxa.Lib.CivilCalendar
import Doxa.Lib.Partitioned
import Mathlib.Algebra.Order.Floor.Ring
import Mathlib.Data.List.Sort
import Mathlib.Data.Rat.Floor

set_option relaxedAutoImplicit false
set_option autoImplicit false

namespace Doxa

/-! ### Tables -/

structure ObservationRow (α : Type) where
  id : ℕ
  occurredAt : ℤ
  columns : α
deriving DecidableEq

/-- A row comes before another one in `ORDER BY occurred_at DESC, id DESC`. -/
def ObservationRow.isNewer {α : Type} (row other : ObservationRow α) : Bool :=
  other.occurredAt < row.occurredAt || (other.occurredAt = row.occurredAt && other.id < row.id)

/-- The month of an instant in UTC. -/
def utcMonth (instant : ℤ) : ℤ := Calendar.monthOf (instant / 86400000000)

def ObservationRow.month {α : Type} (row : ObservationRow α) : ℤ := utcMonth row.occurredAt

/-- The hot table, whose ids are a primary key, and the partitions of the warm one. -/
structure ObservationTables (α : Type) where
  hot : List (ObservationRow α)
  warm : List (ℤ × List (ObservationRow α))
  hot_ids : (hot.map ObservationRow.id).Nodup
  warm_sound : Partitioned.Sound ObservationRow.month warm

/-- All statements of a prune see one instant. -/
structure SessionClock where
  now : ℤ
  /-- `now() - ($1::double precision * interval '1 day')`, if it is in range. -/
  ago : ℚ → Option ℤ
  /-- `date_trunc('month', occurred_at)`. -/
  truncMonth : ℤ → ℤ
  /-- What is a `timestamptz` of the past is a `Date`. -/
  ago_date : ∀ {days limit}, 0 < days → ago days = some limit →
    |((now / 1000 : ℤ) : ℚ) - days * 86400000| ≤ 8640000000000000

/-- The microseconds of some days. -/
def dayMicroseconds (days : ℚ) : ℚ := days * 86400000000

/-! ### Partitions -/

/-- The year that `Date.UTC` takes a year for. -/
def dateUtcYear (year : ℤ) : ℤ := if 0 ≤ year ∧ year ≤ 99 then 1900 + year else year

/-- A year that `toISOString` writes with four digits. -/
def isFourDigits (year : ℤ) : Bool := 0 ≤ year && year ≤ 9999

/-- The month that a partition is created for. -/
def partitionMonth (instant : ℤ) : ℤ :=
  12 * dateUtcYear (utcMonth instant / 12) + utcMonth instant % 12

/-- `ensureWarmPartition`; its bounds are texts that PostgreSQL reads if their years have four
digits. -/
def ensureWarmPartition {α : Type} (warm : List (ℤ × List α)) (instant : ℤ) :
    Option (List (ℤ × List α)) :=
  let month := partitionMonth instant
  if isFourDigits (month / 12) && isFourDigits ((month + 1) / 12) then
    some (Partitioned.attach month warm)
  else none

/-- `new Date(Date.now() - warmRetentionDays * 86_400_000)`, if it is valid. -/
def warmCutoff (now : ℤ) (warmRetentionDays : ℚ) : Option ℤ :=
  let milliseconds := ((now / 1000 : ℤ) : ℚ) - warmRetentionDays * 86400000
  if |milliseconds| ≤ 8640000000000000 then
    some (if 0 ≤ milliseconds then ⌊milliseconds⌋ else ⌈milliseconds⌉)
  else none

/-- A partition is not dropped: its name does not have six digits, or its month does not end before
the cutoff. -/
def keepsPartition (cutoff : Option ℤ) (month : ℤ) : Bool :=
  let year := month / 12
  !(decide (1000 ≤ year) && decide (year ≤ 9999)) ||
    cutoff.any fun milliseconds => milliseconds ≤ Calendar.monthStart (month + 1) * 86400000

/-! ### A prune -/

namespace ObservationTables

variable {α : Type} (clock : SessionClock) (tables : ObservationTables α)

/-- The rows of the warm table. -/
def warmRows : List (ObservationRow α) := Partitioned.rows tables.warm

/-- A row is not younger than the limit of the hot table and not older than that of the warm one. -/
def isBetween (hotLimit warmLimit : ℤ) (row : ObservationRow α) : Bool :=
  row.occurredAt < hotLimit && warmLimit ≤ row.occurredAt

/-- The rows that are moved. -/
def movedRows (hotLimit warmLimit : ℤ) : List (ObservationRow α) :=
  tables.hot.filter (isBetween hotLimit warmLimit)

theorem nodup_filter_hot (q : ObservationRow α → Bool) :
    ((tables.hot.filter q).map ObservationRow.id).Nodup :=
  (List.filter_sublist.map ObservationRow.id).nodup tables.hot_ids

/-- The partitions that are created. -/
def ensurePartitions (warm : List (ℤ × List (ObservationRow α))) (months : List ℤ) :
    Option (List (ℤ × List (ObservationRow α))) :=
  months.foldlM ensureWarmPartition warm

theorem sound_ensurePartitions {warm warm' : List (ℤ × List (ObservationRow α))} {months : List ℤ}
    (h : Partitioned.Sound ObservationRow.month warm)
    (hensure : ensurePartitions warm months = some warm') :
    Partitioned.Sound ObservationRow.month warm' := by
  induction months generalizing warm with
  | nil => exact Option.some.inj hensure ▸ h
  | cons month months ih =>
    rw [ensurePartitions, List.foldlM_cons, ensureWarmPartition] at hensure
    split at hensure
    · exact ih (h.attach _) hensure
    · cases hensure

/-- `archiveWarmObservations` with the limits. -/
def archive (hotLimit warmLimit : ℤ) : Option (ObservationTables α) :=
  let moved := tables.movedRows hotLimit warmLimit
  match hensure : ensurePartitions tables.warm ((moved.map fun row =>
      clock.truncMonth row.occurredAt).dedup) with
  | none => none
  | some warm =>
    match hinsert : Partitioned.insertAll ObservationRow.month moved warm with
    | none => none
    | some warm' => some
        { hot := tables.hot.filter fun row => !isBetween hotLimit warmLimit row
          warm := warm'
          hot_ids := tables.nodup_filter_hot _
          warm_sound := (sound_ensurePartitions tables.warm_sound hensure).insertAll hinsert }

/-- `archiveWarmObservations`. -/
def archiveWarmObservations (hotRetentionDays warmRetentionDays : ℚ) :
    Option (ObservationTables α) := do
  let hotLimit ← clock.ago hotRetentionDays
  let warmLimit ← clock.ago warmRetentionDays
  tables.archive clock hotLimit warmLimit

/-- `dropExpiredWarmPartitions`, with the number of the rows that are dropped. -/
def dropExpiredWarmPartitions (warmRetentionDays : ℚ) : ObservationTables α × ℕ :=
  let keeps := keepsPartition (warmCutoff clock.now warmRetentionDays)
  ({ hot := tables.hot
     warm := Partitioned.keep keeps tables.warm
     hot_ids := tables.hot_ids
     warm_sound := tables.warm_sound.keep keeps },
    (Partitioned.rows (Partitioned.keep (fun month => !keeps month) tables.warm)).length)

/-- The ids beyond the newest rows. -/
def overflowIds (maximum : ℕ) : List ℕ :=
  ((tables.hot.mergeSort fun row other => !other.isNewer row).drop maximum).map ObservationRow.id

/-- A row is deleted from the hot table: it is expired, or beyond the newest rows. -/
def isDeleted (hotLimit : ℤ) (maximum : ℕ) (row : ObservationRow α) : Bool :=
  row.occurredAt < hotLimit || row.id ∈ tables.overflowIds maximum

/-- The last statement, with the number of the rows that are deleted, each of them once. -/
def pruneHot (hotLimit : ℤ) (maximum : ℕ) : ObservationTables α × ℕ :=
  ({ tables with
      hot := tables.hot.filter fun row => !tables.isDeleted hotLimit maximum row
      hot_ids := tables.nodup_filter_hot _ },
    (tables.hot.filter (tables.isDeleted hotLimit maximum)).length)

/-- `pruneWithPool`. -/
def pruneWithPool (hotRetentionDays warmRetentionDays : ℚ) (maximum : ℕ) :
    Option (ObservationTables α × ℕ) := do
  let archived ← tables.archiveWarmObservations clock hotRetentionDays warmRetentionDays
  let (kept, dropped) := archived.dropExpiredWarmPartitions clock warmRetentionDays
  let hotLimit ← clock.ago hotRetentionDays
  let (pruned, deleted) := kept.pruneHot hotLimit maximum
  pure (pruned, deleted + dropped)

end ObservationTables

end Doxa
