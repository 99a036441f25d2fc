/-
**Tables in partitions.**

The rows of a table are kept in partitions, each under the key that its rows have.  Partitions can
be attached, filled and dropped; a row whose partition is missing cannot be inserted.

Main definitions:

* `Partitioned.rows`, `Partitioned.Sound` — the rows of a table, and that each is where it belongs;
* `Partitioned.attach`, `Partitioned.insertAll`, `Partitioned.keep` — the operations.

Main results:

* `Partitioned.rows_insertAll` — **what is inserted is there in addition**;
* `Partitioned.rows_keep` — what is kept are the rows under the keys that are kept.
-/

import Mathlib.Data.List.Nodup
import Mathlib.Data.List.Perm.Basic

set_option relaxedAutoImplicit false
set_option autoImplicit false

namespace Partitioned

variable {κ α : Type*}

/-- The rows of all partitions. -/
def rows (table : List (κ × List α)) : List α := table.flatMap Prod.snd

/-- No key twice, and each row under its own. -/
structure Sound (key : α → κ) (table : List (κ × List α)) : Prop where
  keys : (table.map Prod.fst).Nodup
  routed : ∀ partition ∈ table, ∀ row ∈ partition.2, key row = partition.1

variable [DecidableEq κ] {key : α → κ} {table : List (κ × List α)}

/-- A partition that is not there yet is attached. -/
def attach (k : κ) (table : List (κ × List α)) : List (κ × List α) :=
  if k ∈ table.map Prod.fst then table else table ++ [(k, [])]

/-- All rows are inserted, or none if one of them has no partition. -/
def insertAll (key : α → κ) (new : List α) (table : List (κ × List α)) :
    Option (List (κ × List α)) :=
  if ∀ row ∈ new, key row ∈ table.map Prod.fst then
    some (table.map fun partition =>
      (partition.1, partition.2 ++ new.filter fun row => key row = partition.1))
  else none

/-- The partitions under some keys. -/
def keep (q : κ → Bool) (table : List (κ × List α)) : List (κ × List α) :=
  table.filter fun partition => q partition.1

/-! ### Attaching -/

theorem mem_keys_attach {k k' : κ} :
    k' ∈ (attach k table).map Prod.fst ↔ k' = k ∨ k' ∈ table.map Prod.fst := by
  rw [attach]
  split
  next hmem => exact ⟨.inr, fun h => h.elim (fun heq => heq ▸ hmem) id⟩
  next => simp [or_comm]

theorem rows_attach (k : κ) : rows (attach k table) = rows table := by
  rw [attach]
  split <;> simp [rows]

theorem Sound.attach (h : Sound key table) (k : κ) : Sound key (attach k table) := by
  rw [Partitioned.attach]
  split
  · exact h
  next hfree =>
    refine ⟨?_, ?_⟩
    · rw [List.map_append]
      exact h.keys.append (List.nodup_singleton k) (by simpa using hfree)
    · intro partition hpartition row hrow
      rcases List.mem_append.1 hpartition with hold | hnew
      · exact h.routed partition hold row hrow
      · rw [List.mem_singleton.1 hnew] at hrow
        cases hrow

/-! ### Inserting -/

theorem insertAll_isSome {new : List α} :
    (insertAll key new table).isSome ↔ ∀ row ∈ new, key row ∈ table.map Prod.fst := by
  rw [insertAll]
  split <;> simp_all

/-- The keys stay, and each row is where it belongs. -/
theorem Sound.insertAll (h : Sound key table) {new : List α} {table' : List (κ × List α)}
    (hinsert : insertAll key new table = some table') : Sound key table' := by
  rw [Partitioned.insertAll] at hinsert
  split at hinsert
  · cases hinsert
    refine ⟨by simpa [Function.comp_def] using h.keys, ?_⟩
    simp only [List.forall_mem_map, List.mem_append, List.mem_filter, decide_eq_true_eq]
    rintro partition hpartition row (hold | ⟨-, hnew⟩)
    · exact h.routed partition hpartition row hold
    · exact hnew
  · cases hinsert

/-- Rows are split up by keys that are all different. -/
theorem flatMap_filter_perm (new : List α) {keys : List κ} (hkeys : keys.Nodup) :
    (keys.flatMap fun k => new.filter fun row => key row = k).Perm
      (new.filter fun row => key row ∈ keys) := by
  induction keys with
  | nil => simp
  | cons k keys ih =>
    obtain ⟨hnotMem, hkeys⟩ := List.nodup_cons.1 hkeys
    have hsplit := List.filter_append_perm (fun row => decide (key row = k))
      (new.filter fun row => decide (key row ∈ k :: keys))
    rw [List.filter_filter, List.filter_filter] at hsplit
    have hfirst : (new.filter fun row => decide (key row = k) && decide (key row ∈ k :: keys)) =
        new.filter fun row => key row = k := by
      refine List.filter_congr fun row _ => ?_
      by_cases hrow : key row = k <;> simp [hrow]
    have hrest : (new.filter fun row => (!decide (key row = k)) &&
        decide (key row ∈ k :: keys)) = new.filter fun row => key row ∈ keys := by
      refine List.filter_congr fun row _ => ?_
      by_cases hrow : key row = k <;> simp [hrow, hnotMem]
    rw [hfirst, hrest] at hsplit
    rw [List.flatMap_cons]
    exact ((ih hkeys).append_left _).trans hsplit

/-- **What is inserted is there in addition.** -/
theorem rows_insertAll (h : Sound key table) {new : List α} {table' : List (κ × List α)}
    (hinsert : insertAll key new table = some table') : (rows table').Perm (rows table ++ new) := by
  rw [insertAll] at hinsert
  split at hinsert
  next hall =>
    cases hinsert
    have hnew := @flatMap_filter_perm _ _ _ key new _ h.keys
    rw [List.flatMap_map, List.filter_eq_self.2 (by simpa using hall)] at hnew
    rw [rows, List.flatMap_map]
    exact (List.flatMap_append_perm table Prod.snd fun partition =>
      new.filter fun row => key row = partition.1).symm.trans (hnew.append_left _)
  next => cases hinsert

/-! ### Dropping -/

omit [DecidableEq κ] in
theorem Sound.keep (h : Sound key table) (q : κ → Bool) : Sound key (keep q table) :=
  ⟨(List.filter_sublist.map Prod.fst).nodup h.keys,
    fun partition hpartition => h.routed partition (List.mem_of_mem_filter hpartition)⟩

omit [DecidableEq κ] in
/-- What is kept are the rows under the keys that are kept. -/
theorem rows_keep (h : ∀ partition ∈ table, ∀ row ∈ partition.2, key row = partition.1)
    (q : κ → Bool) : rows (keep q table) = (rows table).filter fun row => q (key row) := by
  induction table with
  | nil => rfl
  | cons partition table ih =>
    rw [List.forall_mem_cons] at h
    have hrest := ih h.2
    simp only [rows, keep] at hrest ⊢
    have hrows : partition.2.filter (fun row => q (key row)) =
        if q partition.1 then partition.2 else [] := by
      split
      next hq => exact List.filter_eq_self.2 fun row hrow => by rw [h.1 row hrow, hq]
      next hq => exact List.filter_eq_nil_iff.2 fun row hrow => by rw [h.1 row hrow]; exact hq
    rw [List.flatMap_cons, List.filter_append, hrows, ← hrest, List.filter_cons]
    split <;> simp

end Partitioned
