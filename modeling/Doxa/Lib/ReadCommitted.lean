/-
**Tables under READ COMMITTED.**

A table whose rows are versioned: every row has the version that was committed last, and at most
one that its lock holder has written and not yet committed.  A transaction sees the committed
versions and its own.  An `UPDATE` has two halves.  It first takes a snapshot, which decides which
rows it is going to visit; then it visits them, which it cannot do as long as another transaction
holds one of them.  When a row has been changed in between, the condition is checked again on the
new version, and the row is skipped if it does not hold any more.  A row that was inserted or
committed after the snapshot is not visited.  Rows are visited in one go: a transaction that
locks some of its rows early only makes others wait for longer.

Main definitions:

* `ReadCommitted.Versions` — a row;
* `ReadCommitted.Table` — a table, with `matching`, `update`, `insert`, `commit` and `rollback`;
* `ReadCommitted.Table.row`, `ReadCommitted.Table.held` — what is committed and what is not.

Main results:

* `ReadCommitted.Table.row_commit`, `ReadCommitted.Table.held_commit` — **a commit publishes just
  what the transaction holds**; nothing else changes what is committed;
* `ReadCommitted.Table.held_update` — an update changes, of the rows it visits, those that satisfy
  the condition now.
-/

import Doxa.Lib.OrderedMap

set_option relaxedAutoImplicit false
set_option autoImplicit false

namespace ReadCommitted

/-- A row: its committed version, and the version of the transaction that holds it. -/
structure Versions (ρ : Type*) where
  committed : Option ρ
  pending : Option (ℕ × ρ)

namespace Versions

variable {ρ : Type*}

/-- What a transaction sees of the row. -/
def visible (tx : ℕ) (versions : Versions ρ) : Option ρ :=
  match versions.pending with
  | some (holder, row) => if holder = tx then some row else versions.committed
  | none => versions.committed

/-- Whether another transaction holds the row. -/
def heldByOther (tx : ℕ) (versions : Versions ρ) : Bool :=
  match versions.pending with
  | some (holder, _) => holder ≠ tx
  | none => false

/-- The row is visited by an update. -/
def rewrite (tx : ℕ) (p : ρ → Bool) (f : ρ → ρ) (versions : Versions ρ) : Versions ρ :=
  match versions.visible tx with
  | some row => if p row then { versions with pending := some (tx, f row) } else versions
  | none => versions

def commit (tx : ℕ) (versions : Versions ρ) : Versions ρ :=
  match versions.pending with
  | some (holder, row) => if holder = tx then ⟨some row, none⟩ else versions
  | none => versions

def rollback (tx : ℕ) (versions : Versions ρ) : Versions ρ :=
  match versions.pending with
  | some (holder, _) => if holder = tx then ⟨versions.committed, none⟩ else versions
  | none => versions

variable {versions : Versions ρ} {tx : ℕ}

theorem visible_of_pending {row : ρ} (h : versions.pending = some (tx, row)) :
    versions.visible tx = some row := by
  rw [visible, h]
  exact if_pos rfl

theorem visible_of_not_pending (h : ∀ row, versions.pending ≠ some (tx, row)) :
    versions.visible tx = versions.committed := by
  rw [visible]
  cases hpending : versions.pending with
  | none => rfl
  | some held =>
    obtain ⟨holder, row⟩ := held
    refine if_neg ?_
    rintro rfl
    exact h row hpending

@[simp] theorem committed_rewrite {p : ρ → Bool} {f : ρ → ρ} (versions : Versions ρ) :
    (versions.rewrite tx p f).committed = versions.committed := by
  rw [rewrite]
  split
  · split_ifs <;> rfl
  · rfl

theorem committed_commit_of_pending {row : ρ} (h : versions.pending = some (tx, row)) :
    (versions.commit tx).committed = some row := by
  rw [commit, h]
  exact congrArg committed (if_pos rfl)

theorem commit_of_not_pending (h : ∀ row, versions.pending ≠ some (tx, row)) :
    versions.commit tx = versions := by
  rw [commit]
  split
  · rename_i holder row hpending
    refine if_neg ?_
    rintro rfl
    exact h row hpending
  · rfl

theorem pending_commit {holder : ℕ} {row : ρ} :
    (versions.commit tx).pending = some (holder, row) ↔
      versions.pending = some (holder, row) ∧ holder ≠ tx := by
  rw [commit]
  split
  · rename_i holder' row' hpending
    split_ifs with htx <;> grind
  · rename_i hpending
    simp [hpending]

theorem pending_rollback {holder : ℕ} {row : ρ} :
    (versions.rollback tx).pending = some (holder, row) ↔
      versions.pending = some (holder, row) ∧ holder ≠ tx := by
  rw [rollback]
  split
  · rename_i holder' row' hpending
    split_ifs with htx <;> grind
  · rename_i hpending
    simp [hpending]

@[simp] theorem committed_rollback (versions : Versions ρ) :
    (versions.rollback tx).committed = versions.committed := by
  rw [rollback]
  split
  · split_ifs <;> rfl
  · rfl

end Versions

/-- A table: its rows by their keys. -/
abbrev Table (κ ρ : Type*) := OrderedMap κ (Versions ρ)

namespace Table

variable {κ ρ : Type*} [DecidableEq κ]

/-- The committed version of a row. -/
def row (table : Table κ ρ) (key : κ) : Option ρ := (table.get key).bind Versions.committed

/-- The version that is not committed, and who wrote it. -/
def held (table : Table κ ρ) (key : κ) : Option (ℕ × ρ) := (table.get key).bind Versions.pending

/-- What a transaction sees of a row. -/
def sees (tx : ℕ) (table : Table κ ρ) (key : κ) : Option ρ :=
  (table.get key).bind (Versions.visible tx)

/-- The rows that satisfy a condition, as a transaction sees them. -/
def matching (tx : ℕ) (p : κ → ρ → Bool) (table : Table κ ρ) : List κ :=
  (table.filter fun key versions => (versions.visible tx).any (p key)).keys

/-- The second half of an update; `none` when it has to wait. -/
def update (tx : ℕ) (keys : List κ) (p : κ → ρ → Bool) (f : ρ → ρ) (table : Table κ ρ) :
    Option (Table κ ρ) :=
  if keys.any fun key => (table.get key).any (Versions.heldByOther tx) then none
  else some (table.map fun key versions =>
    if key ∈ keys then versions.rewrite tx (p key) f else versions)

/-- The rows an update has changed: those that are visited and satisfy the condition. -/
def hits (tx : ℕ) (keys : List κ) (p : κ → ρ → Bool) (table : Table κ ρ) : List κ :=
  keys.filter fun key => (table.sees tx key).any (p key)

def insert (tx : ℕ) (key : κ) (row : ρ) (table : Table κ ρ) : Table κ ρ :=
  table.set key ⟨none, some (tx, row)⟩

def commit (tx : ℕ) (table : Table κ ρ) : Table κ ρ :=
  .map table fun _ versions => versions.commit tx

def rollback (tx : ℕ) (table : Table κ ρ) : Table κ ρ :=
  .map table fun _ versions => versions.rollback tx

variable {table table' : Table κ ρ} {tx : ℕ} {keys : List κ} {p : κ → ρ → Bool} {f : ρ → ρ}

/-! ### What is seen -/

variable {key : κ} {row inserted : ρ}

theorem sees_of_held (h : table.held key = some (tx, row)) : table.sees tx key = some row := by
  obtain ⟨versions, hget, hpending⟩ := Option.bind_eq_some_iff.1 h
  rw [sees, hget]
  exact Versions.visible_of_pending hpending

theorem sees_of_not_held (h : ∀ row, table.held key ≠ some (tx, row)) :
    table.sees tx key = table.row key := by
  rw [sees, row]
  cases hget : OrderedMap.get table key with
  | none => rfl
  | some versions =>
    refine Versions.visible_of_not_pending fun row hpending => h row ?_
    rw [held, hget]
    exact hpending

/-- What is seen depends on what is committed and on what the transaction holds. -/
theorem sees_congr (hrow : table'.row key = table.row key)
    (hheld : ∀ row, table'.held key = some (tx, row) ↔ table.held key = some (tx, row)) :
    table'.sees tx key = table.sees tx key := by
  by_cases hown : ∃ row, table.held key = some (tx, row)
  · obtain ⟨row, hown⟩ := hown
    rw [sees_of_held hown, sees_of_held ((hheld row).2 hown)]
  · rw [sees_of_not_held fun row h => hown ⟨row, h⟩,
      sees_of_not_held fun row h => hown ⟨row, (hheld row).1 h⟩, hrow]

/-- The snapshot of an update consists of what its transaction sees. -/
theorem mem_matching :
    key ∈ table.matching tx p ↔ ∃ row, table.sees tx key = some row ∧ p key row = true := by
  rw [matching, ← not_iff_not, ← OrderedMap.get_eq_none_iff, OrderedMap.get_filter, sees]
  cases hget : OrderedMap.get table key with
  | none => simp
  | some versions =>
    cases hvisible : versions.visible tx with
    | none => simp [hvisible]
    | some row => simp [hvisible]

theorem mem_hits :
    key ∈ table.hits tx keys p ↔
      key ∈ keys ∧ ∃ row, table.sees tx key = some row ∧ p key row = true := by
  rw [hits, List.mem_filter, Option.any_eq_true]

/-! ### Updates -/

variable {holder : ℕ}

theorem row_update (h : table.update tx keys p f = some table') (key : κ) :
    table'.row key = table.row key := by
  rw [update] at h
  split_ifs at h
  cases h
  rw [row, row, OrderedMap.get_map]
  cases hget : OrderedMap.get table key with
  | none => rfl
  | some versions =>
    change Versions.committed (if key ∈ keys then _ else _) = _
    split_ifs
    · exact Versions.committed_rewrite versions
    · rfl

/-- An update does not touch what others hold. -/
theorem holder_eq_of_update (h : table.update tx keys p f = some table') (hkey : key ∈ keys)
    (hheld : table.held key = some (holder, row)) : holder = tx := by
  rw [update] at h
  split_ifs at h with hwait
  by_contra hne
  obtain ⟨versions, hget, hpending⟩ := Option.bind_eq_some_iff.1 hheld
  refine hwait (List.any_eq_true.2 ⟨key, hkey, ?_⟩)
  rw [hget, Option.any_some, Versions.heldByOther, hpending]
  exact decide_eq_true hne

/-- **An update changes the rows it hits** and holds them from then on. -/
theorem held_update_of_mem (h : table.update tx keys p f = some table')
    (hkey : key ∈ table.hits tx keys p) :
    ∃ row, table.sees tx key = some row ∧ p key row = true ∧
      table'.held key = some (tx, f row) := by
  obtain ⟨hmem, row, hsees, hp⟩ := mem_hits.1 hkey
  refine ⟨row, hsees, hp, ?_⟩
  rw [update] at h
  split_ifs at h
  cases h
  obtain ⟨versions, hget, hvisible⟩ := Option.bind_eq_some_iff.1 hsees
  rw [held, OrderedMap.get_map, hget]
  change Versions.pending (if key ∈ keys then _ else _) = _
  rw [if_pos hmem, Versions.rewrite, hvisible]
  change Versions.pending (if p key row = true then _ else _) = _
  rw [if_pos hp]

/-- It leaves the others alone. -/
theorem held_update_of_not_mem (h : table.update tx keys p f = some table')
    (hkey : key ∉ table.hits tx keys p) : table'.held key = table.held key := by
  rw [update] at h
  split_ifs at h
  cases h
  rw [held, held, OrderedMap.get_map]
  cases hget : OrderedMap.get table key with
  | none => rfl
  | some versions =>
    change Versions.pending (if key ∈ keys then _ else _) = _
    split_ifs with hmem
    · rw [Versions.rewrite]
      cases hvisible : versions.visible tx with
      | none => rfl
      | some row =>
        change Versions.pending (if p key row = true then _ else _) = _
        refine congrArg Versions.pending (if_neg fun hp => hkey ?_)
        refine mem_hits.2 ⟨hmem, row, ?_, hp⟩
        rw [sees, hget]
        exact hvisible
    · rfl

/-- What becomes of a row when a transaction that holds nothing updates the table. -/
theorem held_update (h : table.update tx keys p f = some table')
    (hfree : ∀ key row, table.held key ≠ some (tx, row)) (key : κ) :
    (key ∈ table.hits tx keys p ∧ table.held key = none ∧
      ∃ row, table.row key = some row ∧ p key row = true ∧ table'.held key = some (tx, f row)) ∨
    (key ∉ table.hits tx keys p ∧ table'.held key = table.held key) := by
  by_cases hkey : key ∈ table.hits tx keys p
  · refine .inl ⟨hkey, ?_, ?_⟩
    · cases hheld : table.held key with
      | none => rfl
      | some held =>
        obtain ⟨holder, row⟩ := held
        obtain rfl := holder_eq_of_update h (mem_hits.1 hkey).1 hheld
        exact absurd hheld (hfree key row)
    · rw [← sees_of_not_held (hfree key)]
      exact held_update_of_mem h hkey
  · exact .inr ⟨hkey, held_update_of_not_mem h hkey⟩

/-- An update does not change what others hold. -/
theorem held_update_of_ne (h : table.update tx keys p f = some table')
    (hfree : ∀ key row, table.held key ≠ some (tx, row)) (hne : holder ≠ tx) :
    table'.held key = some (holder, row) ↔ table.held key = some (holder, row) := by
  rcases held_update h hfree key with ⟨-, hnone, old, -, -, hheld⟩ | ⟨-, hsame⟩
  · rw [hnone, hheld]
    refine iff_of_false (fun heq => hne ?_) (by simp)
    exact (Prod.mk.inj (Option.some.inj heq)).1.symm
  · rw [hsame]

/-- An update does not change what others see. -/
theorem sees_update_of_ne (h : table.update tx keys p f = some table') {reader : ℕ}
    (hne : reader ≠ tx) (key : κ) : table'.sees reader key = table.sees reader key := by
  refine sees_congr (row_update h key) fun row => ?_
  by_cases hkey : key ∈ table.hits tx keys p
  · obtain ⟨old, -, -, hheld⟩ := held_update_of_mem h hkey
    rw [hheld]
    constructor
    · intro heq
      exact absurd (Prod.mk.inj (Option.some.inj heq)).1.symm hne
    · intro heq
      exact absurd (holder_eq_of_update h (mem_hits.1 hkey).1 heq) hne
  · rw [held_update_of_not_mem h hkey]

/-- Where an update hits nothing, its own transaction sees what it saw. -/
theorem sees_update_of_not_mem (h : table.update tx keys p f = some table')
    (hkey : key ∉ table.hits tx keys p) : table'.sees tx key = table.sees tx key :=
  sees_congr (row_update h key) fun row => by rw [held_update_of_not_mem h hkey]

theorem get_update_eq_none_iff (h : table.update tx keys p f = some table') :
    table'.get key = none ↔ table.get key = none := by
  rw [update] at h
  split_ifs at h
  cases h
  rw [OrderedMap.get_map, Option.map_eq_none_iff]

/-! ### Insertions -/

theorem row_insert (hnew : table.get key = none) (j : κ) :
    (table.insert tx key inserted).row j = table.row j := by
  rw [row, row, insert, OrderedMap.get_set]
  split_ifs with hj
  · rw [hj, hnew]
    rfl
  · rfl

/-- Nothing that is committed is lost where nothing is committed. -/
theorem row_insert_of_row (hnew : table.row key = none) (j : κ) :
    (table.insert tx key inserted).row j = table.row j := by
  rw [row, insert, OrderedMap.get_set]
  split_ifs with hj
  · rw [hj, hnew]
    rfl
  · rfl

theorem held_insert (j : κ) :
    (table.insert tx key inserted).held j =
      if j = key then some (tx, inserted) else table.held j := by
  rw [held, insert, OrderedMap.get_set]
  split_ifs <;> rfl

theorem held_insert_of_ne (hnew : table.get key = none) (hne : holder ≠ tx) {j : κ} :
    (table.insert tx key inserted).held j = some (holder, row) ↔
      table.held j = some (holder, row) := by
  rw [held_insert]
  split_ifs with hj
  · rw [held, hj, hnew]
    refine iff_of_false (fun heq => hne ?_) (by simp)
    exact (Prod.mk.inj (Option.some.inj heq)).1.symm
  · rfl

theorem get_insert_eq_none_iff {j : κ} :
    (table.insert tx key inserted).get j = none ↔ j ≠ key ∧ table.get j = none := by
  rw [insert, OrderedMap.get_set]
  split_ifs with hj <;> simp [hj]

/-! ### The end of a transaction -/

/-- **A commit publishes what is held.** -/
theorem row_commit_of_held {held : ρ} (h : table.held key = some (tx, held)) :
    (table.commit tx).row key = some held := by
  obtain ⟨versions, hget, hpending⟩ := Option.bind_eq_some_iff.1 h
  rw [row, commit, OrderedMap.get_map, hget]
  exact Versions.committed_commit_of_pending hpending

/-- It changes nothing else. -/
theorem row_commit_of_not_held (h : ∀ row, table.held key ≠ some (tx, row)) :
    (table.commit tx).row key = table.row key := by
  rw [row, row, commit, OrderedMap.get_map]
  cases hget : OrderedMap.get table key with
  | none => rfl
  | some versions =>
    refine congrArg Versions.committed (Versions.commit_of_not_pending fun row hpending => ?_)
    refine h row ?_
    rw [held, hget]
    exact hpending

theorem held_commit :
    (table.commit tx).held key = some (holder, row) ↔
      table.held key = some (holder, row) ∧ holder ≠ tx := by
  rw [held, held, commit, OrderedMap.get_map]
  cases OrderedMap.get table key with
  | none => simp
  | some versions => exact Versions.pending_commit

theorem get_commit_eq_none_iff : (table.commit tx).get key = none ↔ table.get key = none := by
  rw [commit, OrderedMap.get_map, Option.map_eq_none_iff]

theorem row_rollback (key : κ) : (table.rollback tx).row key = table.row key := by
  rw [row, row, rollback, OrderedMap.get_map]
  cases OrderedMap.get table key with
  | none => rfl
  | some versions => exact Versions.committed_rollback versions

theorem held_rollback :
    (table.rollback tx).held key = some (holder, row) ↔
      table.held key = some (holder, row) ∧ holder ≠ tx := by
  rw [held, held, rollback, OrderedMap.get_map]
  cases OrderedMap.get table key with
  | none => simp
  | some versions => exact Versions.pending_rollback

theorem get_rollback_eq_none_iff : (table.rollback tx).get key = none ↔ table.get key = none := by
  rw [rollback, OrderedMap.get_map, Option.map_eq_none_iff]

/-- A row that is committed or held is in the table. -/
theorem get_ne_none_of_row {committed : ρ} (h : table.row key = some committed) :
    table.get key ≠ none := by
  obtain ⟨versions, hget, -⟩ := Option.bind_eq_some_iff.1 h
  rw [hget]
  exact Option.some_ne_none versions

theorem get_ne_none_of_held {held : ℕ × ρ} (h : table.held key = some held) :
    table.get key ≠ none := by
  obtain ⟨versions, hget, -⟩ := Option.bind_eq_some_iff.1 h
  rw [hget]
  exact Option.some_ne_none versions

end Table

end ReadCommitted
