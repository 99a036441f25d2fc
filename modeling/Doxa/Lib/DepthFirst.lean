/-
**Depth-first search.**

A graph is given by the successors of each element, where only finitely many elements have any.  Two
searches go through what some elements lead to.  The one keeps a set of the elements it has come to,
and stops at an element that is refused, either whenever it is come to, or when it is come to for
the first time.  The other one keeps a set of the elements it is done with, and stops when it comes
to an element it is on the way from.

Main definitions:

* `FiniteGraph`, `FiniteGraph.Edge` — a graph;
* `FiniteGraph.Walk` — a walk, and the elements it leaves;
* `FiniteGraph.search` — the search for an element that is refused;
* `FiniteGraph.findCycle` — the search for a cycle.

Main results:

* `FiniteGraph.search_eq_error` — what a search stops with comes from the end of a walk;
* `FiniteGraph.isError_search_iff` — **a search stops just when a refused element is reached**;
* `FiniteGraph.isError_findCycle_iff` — **a cycle is found just when there is one**.
-/

import Doxa.Lib.Acyclic
import Mathlib.Data.Finset.Card

set_option relaxedAutoImplicit false
set_option autoImplicit false

/-- A graph in which finitely many elements have successors. -/
structure FiniteGraph (α : Type*) where
  successors : α → List α
  nodes : Finset α
  mem_nodes : ∀ {a b}, b ∈ successors a → a ∈ nodes

namespace FiniteGraph

variable {α ε : Type*} [DecidableEq α] (graph : FiniteGraph α)

open Relation

/-- From an element to a successor. -/
def Edge (a b : α) : Prop := b ∈ graph.successors a

/-- A walk from an element to another one, and the elements it leaves on the way. -/
inductive Walk : α → List α → α → Prop
  | nil (a : α) : Walk a [] a
  | cons {a b c : α} {path : List α} (hedge : graph.Edge a b) (hwalk : Walk b path c) :
      Walk a (a :: path) c

variable {graph}

omit [DecidableEq α] in
theorem Walk.reflTransGen {a b : α} {path : List α} (h : graph.Walk a path b) :
    ReflTransGen graph.Edge a b := by
  induction h with
  | nil => exact ReflTransGen.refl
  | cons hedge _ ih => exact ih.head hedge

/-! ### The search for an element that is refused -/

theorem card_sdiff_insert_lt {nodes visited : Finset α} {a : α} (hnode : a ∈ nodes)
    (hnew : a ∉ visited) : (nodes \ insert a visited).card < (nodes \ visited).card := by
  refine Finset.card_lt_card ?_
  rw [Finset.ssubset_iff_of_subset
    (Finset.sdiff_subset_sdiff subset_rfl (Finset.subset_insert _ _))]
  exact ⟨a, by simp [hnode, hnew], by simp⟩

variable (graph)

/-- The search from several elements, `path` on the way, past those that were visited.  An element
is refused `before` it is looked up among these, or `after` it was not found. -/
def search (before after : List α → α → Option ε) (path : List α) (visited : Finset α) :
    List α → Except ε { found : Finset α // visited ⊆ found }
  | [] => .ok ⟨visited, subset_rfl⟩
  | a :: rest =>
    match before path a with
    | some error => .error error
    | none =>
      if _h : a ∈ visited then search before after path visited rest
      else
        match after path a with
        | some error => .error error
        | none =>
          match search before after (path ++ [a]) (insert a visited) (graph.successors a) with
          | .error error => .error error
          | .ok within =>
            match search before after path within.val rest with
            | .error error => .error error
            | .ok found => .ok
                ⟨found.val, ((Finset.subset_insert a visited).trans within.property).trans
                  found.property⟩
termination_by pending => ((graph.nodes \ visited).card, pending.length)
decreasing_by
  · exact Prod.Lex.right _ (by simp)
  · by_cases hnode : a ∈ graph.nodes
    · exact Prod.Lex.left _ _ (card_sdiff_insert_lt hnode _h)
    · have hnone : graph.successors a = [] := by
        rw [List.eq_nil_iff_forall_not_mem]
        exact fun b hb => hnode (graph.mem_nodes hb)
      rw [hnone, Finset.sdiff_insert_of_notMem hnode]
      exact Prod.Lex.right _ (by simp)
  · have hle : (graph.nodes \ within.val).card ≤ (graph.nodes \ visited).card :=
      Finset.card_le_card (Finset.sdiff_subset_sdiff subset_rfl
        ((Finset.subset_insert a visited).trans within.property))
    rcases hle.lt_or_eq with hlt | heq
    · exact Prod.Lex.left _ _ hlt
    · rw [heq]
      exact Prod.Lex.right _ (by simp)

variable {graph}
variable {before after : List α → α → Option ε} {path : List α} {visited : Finset α}
  {pending : List α}

/-- **What a search stops with** comes from the end of a walk. -/
theorem search_eq_error {error : ε}
    (h : graph.search before after path visited pending = .error error) :
    ∃ a ∈ pending, ∃ b walk, graph.Walk a walk b ∧
      (before (path ++ walk) b = some error ∨ after (path ++ walk) b = some error) := by
  fun_induction search graph before after path visited pending with
  | case1 => cases h
  | case2 path visited a rest error' hbefore =>
    cases h
    exact ⟨a, List.mem_cons_self, a, [], .nil a, .inl (by simpa using hbefore)⟩
  | case3 path visited a rest hbefore hmem ih =>
    obtain ⟨b, hb, hrest⟩ := ih h
    exact ⟨b, List.mem_cons_of_mem a hb, hrest⟩
  | case4 path visited a rest hbefore hmem error' hafter =>
    cases h
    exact ⟨a, List.mem_cons_self, a, [], .nil a, .inr (by simpa using hafter)⟩
  | case5 path visited a rest hbefore hmem hafter error' hwithin ih =>
    cases h
    obtain ⟨b, hb, c, walk, hwalk, herror⟩ := ih hwithin
    refine ⟨a, List.mem_cons_self, c, a :: walk, .cons hb hwalk, ?_⟩
    simpa using herror
  | case6 path visited a rest hbefore hmem hafter within hwithin error' hrest ih₁ ih =>
    cases h
    obtain ⟨b, hb, hrest⟩ := ih hrest
    exact ⟨b, List.mem_cons_of_mem a hb, hrest⟩
  | case7 => cases h

/-- **What a search has visited**: everything it was to visit, and what that leads to. -/
theorem search_eq_ok {found : { found : Finset α // visited ⊆ found }}
    (h : graph.search before after path visited pending = .ok found) :
    (∀ a ∈ pending, a ∈ found.val ∧ ∃ path, before path a = none) ∧
      ∀ a ∈ found.val, a ∉ visited → (∃ path, after path a = none) ∧
        ∀ b, graph.Edge a b → b ∈ found.val ∧ ∃ path, before path b = none := by
  fun_induction search graph before after path visited pending with
  | case1 path visited =>
    cases h
    exact ⟨by simp, fun a ha hnot => absurd ha hnot⟩
  | case2 => cases h
  | case3 path visited a rest hbefore hmem ih =>
    obtain ⟨hpending, hfound⟩ := ih h
    refine ⟨?_, hfound⟩
    intro b hb
    rcases List.mem_cons.1 hb with rfl | hb
    · exact ⟨found.property hmem, path, hbefore⟩
    · exact hpending b hb
  | case4 => cases h
  | case5 => cases h
  | case6 => cases h
  | case7 path visited a rest hbefore hmem hafter within hwithin found' hfound' ih₁ ih₂ =>
    cases h
    obtain ⟨hpending₁, hvisited₁⟩ := ih₁ hwithin
    obtain ⟨hpending₂, hvisited₂⟩ := ih₂ hfound'
    have hin : a ∈ within.val := within.property (Finset.mem_insert_self a visited)
    refine ⟨?_, ?_⟩
    · intro b hb
      rcases List.mem_cons.1 hb with rfl | hb
      · exact ⟨found'.property hin, path, hbefore⟩
      · exact hpending₂ b hb
    · intro b hb hnot
      by_cases hwas : b ∈ within.val
      · -- what was visited within leads to what was visited within
        by_cases hba : b = a
        · subst hba
          refine ⟨⟨path, hafter⟩, ?_⟩
          intro c hc
          obtain ⟨hmemc, hclear⟩ := hpending₁ c hc
          exact ⟨found'.property hmemc, hclear⟩
        · obtain ⟨hclear, hedges⟩ := hvisited₁ b hwas (by simp [hba, hnot])
          refine ⟨hclear, ?_⟩
          intro c hc
          obtain ⟨hmemc, hclear⟩ := hedges c hc
          exact ⟨found'.property hmemc, hclear⟩
      · exact hvisited₂ b hb hwas

/-- **A search stops just when a refused element is reached.** -/
theorem isError_search_iff {refusedBefore refusedAfter : α → Prop}
    (hbefore : ∀ path a, (before path a).isSome = true ↔ refusedBefore a)
    (hafter : ∀ path a, (after path a).isSome = true ↔ refusedAfter a) :
    (∃ error, graph.search before after path ∅ pending = .error error) ↔
      ∃ a ∈ pending, ∃ b, ReflTransGen graph.Edge a b ∧ (refusedBefore b ∨ refusedAfter b) := by
  constructor
  · rintro ⟨error, herror⟩
    obtain ⟨a, ha, b, walk, hwalk, hrefused⟩ := search_eq_error herror
    refine ⟨a, ha, b, hwalk.reflTransGen, ?_⟩
    rcases hrefused with hrefused | hrefused
    · exact .inl ((hbefore _ b).1 (Option.isSome_of_eq_some hrefused))
    · exact .inr ((hafter _ b).1 (Option.isSome_of_eq_some hrefused))
  · rintro ⟨a, ha, b, hreach, hrefused⟩
    cases hsearch : graph.search before after path ∅ pending with
    | error error => exact ⟨error, rfl⟩
    | ok found =>
      exfalso
      obtain ⟨hpending, hvisited⟩ := search_eq_ok hsearch
      have hclear : ∀ c, ReflTransGen graph.Edge a c →
          c ∈ found.val ∧ ∃ path, before path c = none := by
        intro c hc
        induction hc with
        | refl => exact hpending a ha
        | tail _ hedge ih => exact (hvisited _ ih.1 (Finset.notMem_empty _)).2 _ hedge
      obtain ⟨hmem, path', hnone⟩ := hclear b hreach
      obtain ⟨⟨path'', hnone'⟩, -⟩ := hvisited b hmem (Finset.notMem_empty _)
      rcases hrefused with hrefused | hrefused
      · rw [← hbefore path' b, hnone] at hrefused
        cases hrefused
      · rw [← hafter path'' b, hnone'] at hrefused
        cases hrefused

/-! ### The search for a cycle -/

theorem card_filter_notMem_lt {nodes : Finset α} {path : List α} {a : α} (hnode : a ∈ nodes)
    (hnew : a ∉ path) : (nodes.filter fun b => b ∉ path ++ [a]).card <
      (nodes.filter fun b => b ∉ path).card := by
  refine Finset.card_lt_card ?_
  rw [Finset.ssubset_iff_of_subset]
  · exact ⟨a, by simp [hnode, hnew], by simp⟩
  · intro b hb
    rw [Finset.mem_filter, List.mem_append, not_or] at hb
    exact Finset.mem_filter.2 ⟨hb.1, hb.2.1⟩

variable (graph)

/-- The search for a cycle from several elements, on the way from those of `path`, past those it is
done with. -/
def findCycle (cycle : List α → α → ε) (path : List α) (visited : Finset α) :
    List α → Except ε (Finset α)
  | [] => .ok visited
  | a :: rest =>
    if _hpath : a ∈ path then .error (cycle path a)
    else if a ∈ visited then findCycle cycle path visited rest
    else if _hnode : a ∈ graph.nodes then
      match findCycle cycle (path ++ [a]) visited (graph.successors a) with
      | .error error => .error error
      | .ok done => findCycle cycle path (insert a done) rest
    else findCycle cycle path visited rest
termination_by pending => ((graph.nodes.filter fun b => b ∉ path).card, pending.length)
decreasing_by
  · exact Prod.Lex.right _ (by simp)
  · exact Prod.Lex.left _ _ (card_filter_notMem_lt _hnode _hpath)
  · exact Prod.Lex.right _ (by simp)
  · exact Prod.Lex.right _ (by simp)

variable {graph}
variable {cycle : List α → α → ε}

/-- An element that a search comes to again is on a cycle. -/
theorem findCycle_eq_error {error : ε}
    (h : graph.findCycle cycle path visited pending = .error error)
    (hpath : ∀ a ∈ pending, ∀ b ∈ path, TransGen graph.Edge b a) :
    ∃ a, TransGen graph.Edge a a := by
  fun_induction findCycle graph cycle path visited pending with
  | case1 => cases h
  | case2 path visited a rest hmem => exact ⟨a, hpath a List.mem_cons_self a hmem⟩
  | case3 path visited a rest hnot hmem ih =>
    exact ih h fun b hb => hpath b (List.mem_cons_of_mem a hb)
  | case4 path visited a rest hnot hnew hnode error' hwithin ih =>
    cases h
    refine ih hwithin ?_
    intro b hb c hc
    rcases List.mem_append.1 hc with hc | hc
    · exact (hpath a List.mem_cons_self c hc).tail hb
    · rw [List.mem_singleton] at hc
      subst hc
      exact TransGen.single hb
  | case5 path visited a rest hnot hnew hnode done hwithin ih₁ ih₂ =>
    exact ih₂ h fun b hb => hpath b (List.mem_cons_of_mem a hb)
  | case6 path visited a rest hnot hnew hnode ih =>
    exact ih h fun b hb => hpath b (List.mem_cons_of_mem a hb)

/-- The elements that a search is done with lead to one another only, not to those it is on the way
from, and are on no cycle. -/
structure Done (graph : FiniteGraph α) (path : List α) (done : Finset α) : Prop where
  closed : ∀ a ∈ done, ∀ b, graph.Edge a b → b ∈ done ∨ b ∉ graph.nodes
  disjoint : ∀ a ∈ done, a ∉ path
  acyclic : ∀ a ∈ done, ¬TransGen graph.Edge a a

omit [DecidableEq α] in
/-- What such elements lead to. -/
theorem Done.reaches {done : Finset α} (h : Done graph path done) {a b : α}
    (ha : a ∈ done ∨ a ∉ graph.nodes) (hreach : ReflTransGen graph.Edge a b) :
    b ∈ done ∨ b ∉ graph.nodes := by
  induction hreach with
  | refl => exact ha
  | tail _ hedge ih =>
    rcases ih with hmem | hnot
    · exact h.closed _ hmem _ hedge
    · exact absurd (graph.mem_nodes hedge) hnot

omit [DecidableEq α] in
theorem Done.snoc {done : Finset α} (h : Done graph path done) {a : α} (hnew : a ∉ done) :
    Done graph (path ++ [a]) done where
  closed := h.closed
  disjoint b hb := by
    rw [List.mem_append, List.mem_singleton, not_or]
    exact ⟨h.disjoint b hb, fun heq => hnew (heq ▸ hb)⟩
  acyclic := h.acyclic

/-- An element whose successors are done is done. -/
theorem Done.insert {within : Finset α} {a : α} (h : Done graph (path ++ [a]) within)
    (hnode : a ∈ graph.nodes) (hnew : a ∉ path)
    (hsuccessors : ∀ b, graph.Edge a b → b ∈ within ∨ b ∉ graph.nodes) :
    Done graph path (insert a within) where
  closed b hb c hedge := by
    rw [Finset.mem_insert, or_assoc]
    right
    rcases Finset.mem_insert.1 hb with rfl | hb
    · exact hsuccessors c hedge
    · exact h.closed b hb c hedge
  disjoint b hb := by
    rcases Finset.mem_insert.1 hb with rfl | hb
    · exact hnew
    · exact fun hmem => h.disjoint b hb (List.mem_append_left _ hmem)
  acyclic b hb hcycle := by
    rcases Finset.mem_insert.1 hb with rfl | hb
    · obtain ⟨c, hedge, hback⟩ := TransGen.head'_iff.1 hcycle
      rcases h.reaches (hsuccessors c hedge) hback with hmem | hnot
      · exact h.disjoint b hmem (List.mem_append_right _ (List.mem_singleton_self b))
      · exact hnot hnode
    · exact h.acyclic b hb hcycle

/-- **What a search that finds no cycle is done with.** -/
theorem findCycle_eq_ok {done : Finset α}
    (h : graph.findCycle cycle path visited pending = .ok done)
    (hvisited : Done graph path visited) :
    Done graph path done ∧ visited ⊆ done ∧ ∀ a ∈ pending, a ∈ done ∨ a ∉ graph.nodes := by
  fun_induction findCycle graph cycle path visited pending generalizing done with
  | case1 =>
    cases h
    exact ⟨hvisited, subset_rfl, by simp⟩
  | case2 => cases h
  | case3 path visited a rest hnot hmem ih =>
    obtain ⟨hdone, hsub, hpending⟩ := ih h hvisited
    refine ⟨hdone, hsub, ?_⟩
    rintro b hb
    rcases List.mem_cons.1 hb with rfl | hb
    · exact .inl (hsub hmem)
    · exact hpending b hb
  | case4 => cases h
  | case5 path visited a rest hnot hnew hnode within hwithin ih₁ ih₂ =>
    obtain ⟨hwithinDone, hsub, hsuccessors⟩ := ih₁ hwithin (hvisited.snoc hnew)
    obtain ⟨hdone, hsub', hpending⟩ := ih₂ h (hwithinDone.insert hnode hnot hsuccessors)
    refine ⟨hdone, (hsub.trans (Finset.subset_insert a within)).trans hsub', ?_⟩
    rintro b hb
    rcases List.mem_cons.1 hb with rfl | hb
    · exact .inl (hsub' (Finset.mem_insert_self b within))
    · exact hpending b hb
  | case6 path visited a rest hnot hnew hnode ih =>
    obtain ⟨hdone, hsub, hpending⟩ := ih h hvisited
    refine ⟨hdone, hsub, ?_⟩
    rintro b hb
    rcases List.mem_cons.1 hb with rfl | hb
    · exact .inr hnode
    · exact hpending b hb

/-- **A cycle is found just when there is one.** -/
theorem isError_findCycle_iff (hpending : ∀ a ∈ graph.nodes, a ∈ pending) :
    (∃ error, graph.findCycle cycle [] ∅ pending = .error error) ↔
      ∃ a, TransGen graph.Edge a a := by
  constructor
  · rintro ⟨error, herror⟩
    exact findCycle_eq_error herror (by simp)
  · rintro ⟨a, ha⟩
    cases hsearch : graph.findCycle cycle [] ∅ pending with
    | error error => exact ⟨error, rfl⟩
    | ok done =>
      exfalso
      obtain ⟨b, hedge, -⟩ := TransGen.head'_iff.1 ha
      have hnode := graph.mem_nodes hedge
      have hempty : Done graph [] (∅ : Finset α) := ⟨by simp, by simp, by simp⟩
      obtain ⟨hdone, -, hall⟩ := findCycle_eq_ok hsearch hempty
      rcases hall a (hpending a hnode) with hmem | hnot
      · exact hdone.acyclic a hmem ha
      · exact hnot hnode

end FiniteGraph
