/-
**Tables of jobs that exclude one another.**

A table is a list of jobs with distinct keys.  A job that is active may exclude others: those of its
group, if it has one.  A job is inserted unless its key is taken, and changed in place.

Main definitions:

* `JobTable.insert`, `JobTable.update` — the operations;
* `JobTable.Exclusive` — of the jobs of a group at most one is active.

Main results:

* `JobTable.Exclusive.insert`, `JobTable.Exclusive.update` — **what is inserted idle, and what is
  made idle, excludes nothing**;
* `JobTable.Exclusive.activate` — **a job may become active** when no other job of its group is;
* `JobTable.Exclusive.eq_of_active` — the one job of a group that is active.
-/

import Mathlib.Data.List.Nodup
import Mathlib.Data.List.Pairwise

set_option relaxedAutoImplicit false
set_option autoImplicit false

namespace JobTable

variable {τ κ γ : Type*} (key : τ → κ) (active : τ → Prop) (group : τ → Option γ)

/-- Keys are distinct, and of the jobs of a group at most one is active. -/
structure Exclusive (jobs : List τ) : Prop where
  nodup : (jobs.map key).Nodup
  pairwise : jobs.Pairwise fun job other =>
    active job → active other → group job = group other → group job = none

variable {key active group}

theorem exclusive_nil : Exclusive key active group [] := ⟨List.nodup_nil, List.Pairwise.nil⟩

variable {jobs : List τ}

/-- The one job of a group that is active. -/
theorem Exclusive.eq_of_active (h : Exclusive key active group jobs) {job other : τ}
    (hjob : job ∈ jobs) (hother : other ∈ jobs) (hactive : active job) (hactive' : active other)
    (hgroup : group job = group other) (hsome : group job ≠ none) : job = other := by
  by_contra hne
  have hsymm : Std.Symm fun job other : τ =>
      active job → active other → group job = group other → group job = none :=
    ⟨fun _ _ hpair hother hjob heq => heq.trans (hpair hjob hother heq.symm)⟩
  exact hsome (h.pairwise.forall hjob hother hne hactive hactive' hgroup)

variable [DecidableEq κ]

/-- A job put into the table, unless its key is taken. -/
def insert (key : τ → κ) (job : τ) (jobs : List τ) : List τ :=
  if key job ∈ jobs.map key then jobs else jobs ++ [job]

/-- The job of a key changed. -/
def update (key : τ → κ) (k : κ) (change : τ → τ) (jobs : List τ) : List τ :=
  jobs.map fun job => if key job = k then change job else job

theorem mem_insert {job other : τ} (h : other ∈ insert key job jobs) :
    other ∈ jobs ∨ other = job := by
  rw [insert] at h
  split at h
  · exact .inl h
  · simpa using h

variable {change : τ → τ}

theorem mem_update {k : κ} {other : τ} (h : other ∈ update key k change jobs) :
    other ∈ jobs ∨ ∃ job ∈ jobs, key job = k ∧ other = change job := by
  obtain ⟨job, hjob, rfl⟩ := List.mem_map.1 h
  split
  next hkey => exact .inr ⟨job, hjob, hkey, rfl⟩
  next => exact .inl hjob

theorem map_key_update {k : κ} (hchange : ∀ job, key (change job) = key job) (jobs : List τ) :
    (update key k change jobs).map key = jobs.map key := by
  rw [update, List.map_map]
  refine List.map_congr_left fun job _ => ?_
  rw [Function.comp_apply]
  split
  · exact hchange job
  · rfl

/-- **What is inserted idle excludes nothing.** -/
theorem Exclusive.insert (h : Exclusive key active group jobs) {job : τ} (hidle : ¬ active job) :
    Exclusive key active group (insert key job jobs) := by
  rw [JobTable.insert]
  split
  · exact h
  next hfree =>
    constructor
    · rw [List.map_append]
      exact h.nodup.append (List.nodup_singleton _) (by simpa using hfree)
    · refine List.pairwise_append.2 ⟨h.pairwise, List.pairwise_singleton _ _, ?_⟩
      intro other _ last hlast _ hactive
      rw [List.mem_singleton.1 hlast] at hactive
      exact absurd hactive hidle

/-- **What is made idle excludes nothing.** -/
theorem Exclusive.update (h : Exclusive key active group jobs) {k : κ}
    (hkey : ∀ job, key (change job) = key job) (hidle : ∀ job, ¬ active (change job)) :
    Exclusive key active group (JobTable.update key k change jobs) := by
  refine ⟨map_key_update hkey jobs ▸ h.nodup, List.pairwise_map.2 ?_⟩
  refine h.pairwise.imp fun {job other} hpair hactive hactive' => ?_
  split at hactive
  · exact absurd hactive (hidle job)
  next hk =>
    split at hactive'
    · exact absurd hactive' (hidle other)
    next hk' =>
      rw [if_neg hk, if_neg hk']
      exact hpair hactive hactive'

/-- **A job may become active** when no active job is of its group. -/
theorem Exclusive.activate (h : Exclusive key active group jobs) {k : κ}
    (hkey : ∀ job, key (change job) = key job) (hgroup : ∀ job, group (change job) = group job)
    (hfree : ∀ job ∈ jobs, key job = k → ∀ other ∈ jobs, active other →
      group job = group other → group job = none) :
    Exclusive key active group (JobTable.update key k change jobs) := by
  refine ⟨map_key_update hkey jobs ▸ h.nodup, List.pairwise_map.2 ?_⟩
  have hnodup := List.pairwise_map.1 h.nodup
  refine (hnodup.and h.pairwise).imp_of_mem fun {job other} hjob hother hpair => ?_
  by_cases hk : key job = k
  · rw [if_pos hk, if_neg (fun hk' => hpair.1 (hk.trans hk'.symm)), hgroup]
    exact fun _ hactive => hfree job hjob hk other hother hactive
  · rw [if_neg hk]
    by_cases hk' : key other = k
    · rw [if_pos hk', hgroup]
      exact fun hactive _ heq => heq.trans (hfree other hother hk' job hjob hactive heq.symm)
    · rw [if_neg hk']
      exact hpair.2

end JobTable
