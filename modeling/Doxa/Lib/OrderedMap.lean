/-
**Maps that remember the order of insertion.**

A finite map as a list of entries with distinct keys: a new key goes to the end, setting a key that
is present keeps its place, and iteration follows the list.  Removing entries while iterating is
filtering.

Main definitions:

* `OrderedMap.get`, `OrderedMap.set`, `OrderedMap.delete`, `OrderedMap.filter`, `OrderedMap.size`;
* `OrderedMap.tally` — how often each key occurs in a list.

Main results:

* `OrderedMap.get_eq_some_iff` — the entries are what `get` finds;
* `OrderedMap.get_set`, `OrderedMap.get_filter` — what an operation changes, and what it does not;
* `OrderedMap.mem_entries_tally` — the entries of a tally.
-/

import Mathlib.Data.List.Nodup

set_option relaxedAutoImplicit false
set_option autoImplicit false

/-- A finite map, in the order its keys were inserted. -/
structure OrderedMap (κ ν : Type*) where
  entries : List (κ × ν)
  nodup_keys : (entries.map Prod.fst).Nodup

namespace OrderedMap

variable {κ ν : Type*} [DecidableEq κ]

/-- The map without entries. -/
def empty : OrderedMap κ ν := ⟨[], List.nodup_nil⟩

/-- The keys, in order. -/
def keys (m : OrderedMap κ ν) : List κ := m.entries.map Prod.fst

omit [DecidableEq κ] in
theorem keys_nodup (m : OrderedMap κ ν) : m.keys.Nodup := m.nodup_keys

/-- How many entries there are. -/
def size (m : OrderedMap κ ν) : ℕ := m.entries.length

/-- The value of a key. -/
def get (m : OrderedMap κ ν) (k : κ) : Option ν :=
  (m.entries.find? fun entry => entry.1 = k).map Prod.snd

/-- The entries that satisfy the predicate. -/
def filter (m : OrderedMap κ ν) (p : κ → ν → Bool) : OrderedMap κ ν :=
  ⟨m.entries.filter fun entry => p entry.1 entry.2,
    m.nodup_keys.sublist (List.filter_sublist.map Prod.fst)⟩

/-- Every value changed, in place. -/
def map (m : OrderedMap κ ν) (f : κ → ν → ν) : OrderedMap κ ν :=
  ⟨m.entries.map fun entry => (entry.1, f entry.1 entry.2), by
    simpa [Function.comp_def] using m.nodup_keys⟩

/-- The value of one key changed, in place. -/
def modify (m : OrderedMap κ ν) (k : κ) (f : ν → ν) : OrderedMap κ ν :=
  m.map fun key v => if key = k then f v else v

/-- Without the key. -/
def delete (m : OrderedMap κ ν) (k : κ) : OrderedMap κ ν := m.filter fun key _ => key ≠ k

/-- The key set to the value: in place when it is present, at the end when it is not. -/
def set (m : OrderedMap κ ν) (k : κ) (v : ν) : OrderedMap κ ν :=
  if h : k ∈ m.keys then m.map fun key value => if key = k then v else value
  else ⟨m.entries ++ [(k, v)], by
    rw [List.map_append]
    exact m.nodup_keys.append (List.nodup_singleton k) (by simpa [keys] using h)⟩

theorem get_empty (k : κ) : (empty : OrderedMap κ ν).get k = none := rfl

/-- **The entries are what `get` finds.** -/
theorem get_eq_some_iff {m : OrderedMap κ ν} {k : κ} {v : ν} :
    m.get k = some v ↔ (k, v) ∈ m.entries := by
  obtain ⟨entries, hnodup⟩ := m
  rw [get]
  dsimp only
  induction entries with
  | nil => simp
  | cons entry entries ih =>
    obtain ⟨hnot, hrest⟩ := List.nodup_cons.1 hnodup
    by_cases hk : entry.1 = k
    · rw [List.find?_cons_of_pos (by simpa using hk)]
      constructor
      · rintro ⟨⟩
        exact hk ▸ List.mem_cons_self
      · intro hmem
        rcases List.mem_cons.1 hmem with rfl | hmem
        · rfl
        · exact absurd (List.mem_map_of_mem hmem) (hk ▸ hnot)
    · rw [List.find?_cons_of_neg (by simpa using hk), ih hrest, List.mem_cons]
      refine (or_iff_right ?_).symm
      rintro rfl
      exact hk rfl

theorem get_eq_none_iff {m : OrderedMap κ ν} {k : κ} : m.get k = none ↔ k ∉ m.keys := by
  rw [Option.eq_none_iff_forall_ne_some, keys, List.mem_map]
  constructor
  · rintro h ⟨⟨key, v⟩, hmem, rfl⟩
    exact h v (get_eq_some_iff.2 hmem)
  · rintro h v hget
    exact h ⟨(k, v), get_eq_some_iff.1 hget, rfl⟩

theorem get_filter (m : OrderedMap κ ν) (p : κ → ν → Bool) (k : κ) :
    (m.filter p).get k = (m.get k).filter (p k) := by
  refine Option.ext fun v => ?_
  rw [get_eq_some_iff, filter, List.mem_filter, ← get_eq_some_iff, Option.filter_eq_some_iff]

theorem get_map (m : OrderedMap κ ν) (f : κ → ν → ν) (k : κ) :
    (m.map f).get k = (m.get k).map (f k) := by
  refine Option.ext fun v => ?_
  rw [get_eq_some_iff, map, List.mem_map, Option.map_eq_some_iff]
  constructor
  · rintro ⟨⟨key, value⟩, hmem, heq⟩
    cases heq
    exact ⟨value, get_eq_some_iff.2 hmem, rfl⟩
  · rintro ⟨value, hget, rfl⟩
    exact ⟨(k, value), get_eq_some_iff.1 hget, rfl⟩

theorem get_modify (m : OrderedMap κ ν) (k : κ) (f : ν → ν) (j : κ) :
    (m.modify k f).get j = if j = k then (m.get j).map f else m.get j := by
  rw [modify, get_map]
  split_ifs with hj
  · rfl
  · exact Option.map_id'

omit [DecidableEq κ] in
theorem keys_map (m : OrderedMap κ ν) (f : κ → ν → ν) : (m.map f).keys = m.keys := by
  simp [keys, map, Function.comp_def]

/-- **A map is its keys, in order, with their values.** -/
theorem ext_of_get {m n : OrderedMap κ ν} (hkeys : m.keys = n.keys)
    (hget : ∀ k, m.get k = n.get k) : m = n := by
  obtain ⟨entries, hnodup⟩ := m
  obtain ⟨entries', hnodup'⟩ := n
  congr 1
  have hmem : ∀ entry, entry ∈ entries ↔ entry ∈ entries' := by
    rintro ⟨k, v⟩
    have hboth := hget k
    have hleft := @get_eq_some_iff κ ν _ ⟨entries, hnodup⟩ k v
    have hright := @get_eq_some_iff κ ν _ ⟨entries', hnodup'⟩ k v
    rw [← hleft, hboth, hright]
  have hlength : entries.length = entries'.length := by
    have hsame := congrArg List.length hkeys
    rwa [keys, keys, List.length_map, List.length_map] at hsame
  refine List.ext_getElem hlength fun i hi hi' => ?_
  have hkey : entries[i].1 = entries'[i].1 := by
    have hsame : (entries.map Prod.fst)[i]? = (entries'.map Prod.fst)[i]? :=
      congrArg (fun keys => keys[i]?) hkeys
    rw [List.getElem?_map, List.getElem?_map, List.getElem?_eq_getElem hi,
      List.getElem?_eq_getElem hi'] at hsame
    exact Option.some.inj hsame
  exact List.inj_on_of_nodup_map hnodup' ((hmem _).1 (List.getElem_mem hi))
    (List.getElem_mem hi') hkey

/-- Setting a key changes that key only. -/
theorem get_set (m : OrderedMap κ ν) (k : κ) (v : ν) (j : κ) :
    (m.set k v).get j = if j = k then some v else m.get j := by
  rw [set]
  split_ifs with hk hj hj
  · subst hj
    obtain ⟨value, hvalue⟩ := Option.ne_none_iff_exists'.1 fun h => get_eq_none_iff.1 h hk
    rw [get_map, hvalue]
    simp
  · rw [get_map]
    simp [hj]
  · subst hj
    exact get_eq_some_iff.2 (List.mem_append_right _ (List.mem_singleton_self _))
  · refine Option.ext fun value => ?_
    rw [get_eq_some_iff, get_eq_some_iff, List.mem_append, List.mem_singleton, Prod.mk.injEq]
    simp [hj]

/-- A key that is there stays where it is. -/
theorem keys_set_of_mem {m : OrderedMap κ ν} {k : κ} (h : k ∈ m.keys) (v : ν) :
    (m.set k v).keys = m.keys := by rw [set, dif_pos h, keys_map]

theorem get_delete (m : OrderedMap κ ν) (k j : κ) :
    (m.delete k).get j = if j = k then none else m.get j := by
  rw [delete, get_filter]
  split_ifs with hj
  · simp [hj]
  · cases hget : m.get j with
    | none => rfl
    | some v => simp [hj]

/-- A new key goes to the end. -/
theorem entries_set_of_get_eq_none {m : OrderedMap κ ν} {k : κ} (h : m.get k = none) (v : ν) :
    (m.set k v).entries = m.entries ++ [(k, v)] := by
  rw [set, dif_neg (get_eq_none_iff.1 h)]

/-- A key that is not there need not be deleted. -/
theorem entries_delete_of_get_eq_none {m : OrderedMap κ ν} {k : κ} (h : m.get k = none) :
    (m.delete k).entries = m.entries := by
  refine List.filter_eq_self.2 ?_
  intro entry hentry
  have hne : entry.1 ≠ k := fun heq =>
    get_eq_none_iff.1 h (heq ▸ List.mem_map_of_mem hentry)
  simpa using hne

/-- The entries are those of the other keys and the one of the key. -/
theorem perm_delete {m : OrderedMap κ ν} {k : κ} {v : ν} (h : m.get k = some v) :
    m.entries.Perm ((k, v) :: (m.delete k).entries) := by
  obtain ⟨before, after, hsplit⟩ := List.append_of_mem (get_eq_some_iff.1 h)
  have hnodup := m.nodup_keys
  rw [hsplit, List.map_append, List.map_cons, List.nodup_append] at hnodup
  obtain ⟨-, hafter, hdisjoint⟩ := hnodup
  have hdelete : (m.delete k).entries = before ++ after := by
    change m.entries.filter (fun entry => decide (entry.1 ≠ k)) = before ++ after
    rw [hsplit, List.filter_append, List.filter_cons_of_neg (by simp)]
    refine congrArg₂ _ (List.filter_eq_self.2 ?_) (List.filter_eq_self.2 ?_)
    · intro entry hentry
      have hne := hdisjoint entry.1 (List.mem_map_of_mem hentry) k List.mem_cons_self
      simpa using hne
    · intro entry hentry
      have hne : entry.1 ≠ k := by
        intro heq
        have hmem : entry.1 ∈ after.map Prod.fst := List.mem_map_of_mem hentry
        rw [heq] at hmem
        exact (List.nodup_cons.1 hafter).1 hmem
      simpa using hne
  rw [hdelete, hsplit]
  exact List.perm_middle

/-- Several keys set, one after the other. -/
def setAll (m : OrderedMap κ ν) (entries : List (κ × ν)) : OrderedMap κ ν :=
  entries.foldl (fun m entry => m.set entry.1 entry.2) m

theorem get_setAll_of_not_mem {entries : List (κ × ν)} (m : OrderedMap κ ν) {k : κ}
    (hk : k ∉ entries.map Prod.fst) : (m.setAll entries).get k = m.get k := by
  induction entries generalizing m with
  | nil => rfl
  | cons entry entries ih =>
    rw [List.map_cons, List.mem_cons, not_or] at hk
    rw [setAll, List.foldl_cons, ← setAll, ih _ hk.2, get_set, if_neg hk.1]

/-- **What distinct keys are set to is their value.** -/
theorem get_setAll_of_mem {entries : List (κ × ν)} (hnodup : (entries.map Prod.fst).Nodup)
    (m : OrderedMap κ ν) {k : κ} {v : ν} (hmem : (k, v) ∈ entries) :
    (m.setAll entries).get k = some v := by
  induction entries generalizing m with
  | nil => cases hmem
  | cons entry entries ih =>
    obtain ⟨hnot, hrest⟩ := List.nodup_cons.1 hnodup
    rw [setAll, List.foldl_cons, ← setAll]
    rcases List.mem_cons.1 hmem with rfl | hmem
    · rw [get_setAll_of_not_mem _ hnot, get_set, if_pos rfl]
    · exact ih hrest _ hmem

/-- The entries of a map set in another one. -/
theorem get_setAll_entries (m n : OrderedMap κ ν) (k : κ) :
    (m.setAll n.entries).get k = (n.get k).or (m.get k) := by
  cases hget : n.get k with
  | none => exact get_setAll_of_not_mem m (get_eq_none_iff.1 hget)
  | some v => exact get_setAll_of_mem n.nodup_keys m (get_eq_some_iff.1 hget)

/-! ### Tallies -/

/-- One more of a key. -/
def increment (m : OrderedMap κ ℕ) (k : κ) : OrderedMap κ ℕ := m.set k ((m.get k).getD 0 + 1)

/-- How often each key occurs in a list, in the order in which they first do. -/
def tally (keys : List κ) : OrderedMap κ ℕ := keys.foldl increment empty

/-- Counting goes on from what was counted before. -/
theorem get_foldl_increment (keys : List κ) : ∀ (m : OrderedMap κ ℕ) (k : κ),
    (keys.foldl increment m).get k =
      if k ∈ keys then some ((m.get k).getD 0 + keys.count k) else m.get k := by
  induction keys with
  | nil => intro m k; simp
  | cons key keys ih =>
    intro m k
    rw [List.foldl_cons, ih, increment, get_set]
    by_cases hk : k = key
    · subst hk
      by_cases hmem : k ∈ keys
      · simp [hmem]
        omega
      · simp [hmem, List.count_eq_zero_of_not_mem hmem]
    · simp [hk, List.count_cons_of_ne (Ne.symm hk)]

/-- **The entries of a tally** are the keys with the number of their occurrences. -/
theorem mem_entries_tally {keys : List κ} {k : κ} {n : ℕ} :
    (k, n) ∈ (tally keys).entries ↔ k ∈ keys ∧ keys.count k = n := by
  rw [← get_eq_some_iff, tally, get_foldl_increment, get_empty]
  by_cases hmem : k ∈ keys <;> simp [hmem]

end OrderedMap
