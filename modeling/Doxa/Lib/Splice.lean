/-
**Texts with ranges replaced.**

A text is copied from a cursor on, and the ranges of a list are replaced by one text on the way.

A range may be a field in a part of the text that ends at a boundary.  When neither the part nor the
replacement holds a boundary, the copies can be compared part by part: leaving out some of the
fields makes no difference just when these hold the replacement already.

Main definitions:

* `Splice.splice` — the text from a cursor on, with ranges replaced;
* `Splice.Field` — a range, and where the part ends that it is in.

Main results:

* `Splice.splice_skip` — up to the next range the text is copied;
* `Splice.splice_filter_eq_iff` — **which fields may be left out**.
-/

import Mathlib.Data.List.Basic
import Mathlib.Data.List.TakeWhile

set_option relaxedAutoImplicit false
set_option autoImplicit false

namespace Splice

variable {α : Type*}

/-! ### Parts of a text -/

/-- The part of a text between two places. -/
def slice (text : List α) (first last : ℕ) : List α := (text.take last).drop first

theorem slice_append {text : List α} {i j k : ℕ} (hij : i ≤ j) (hjk : j ≤ k) :
    slice text i j ++ slice text j k = slice text i k := by
  rw [slice, slice, slice, List.drop_take, List.drop_take, List.drop_take,
    show text.drop j = (text.drop i).drop (j - i) by rw [List.drop_drop]; congr 1; omega,
    show k - i = (j - i) + (k - j) by omega, List.take_add]

theorem slice_append_drop {text : List α} {i j : ℕ} (hij : i ≤ j) :
    slice text i j ++ text.drop j = text.drop i := by
  rw [slice, List.drop_take,
    show text.drop j = (text.drop i).drop (j - i) by rw [List.drop_drop]; congr 1; omega,
    List.take_append_drop]

theorem exists_of_mem_slice {text : List α} {i j : ℕ} {c : α} (h : c ∈ slice text i j) :
    ∃ k, i ≤ k ∧ k < j ∧ text[k]? = some c := by
  obtain ⟨k, hk⟩ := List.mem_iff_getElem?.1 h
  rw [slice, List.getElem?_drop] at hk
  by_cases hlt : i + k < j
  · rw [List.getElem?_take_of_lt hlt] at hk
    exact ⟨i + k, Nat.le_add_right _ _, hlt, hk⟩
  · rw [List.getElem?_eq_none] at hk
    · cases hk
    · exact (List.length_take_le _ _).trans (not_lt.1 hlt)

theorem head?_slice {text : List α} {i j : ℕ} (hij : i < j) :
    (slice text i j).head? = text[i]? := by
  rw [slice, List.head?_drop, List.getElem?_take_of_lt hij]

/-! ### Copying with replacements -/

/-- The text from a cursor on, with the ranges replaced. -/
def splice (text replacement : List α) : ℕ → List (ℕ × ℕ) → List α
  | cursor, [] => text.drop cursor
  | cursor, (first, last) :: ranges =>
    slice text cursor first ++ replacement ++ splice text replacement last ranges

variable {text replacement : List α}

/-- **Up to the next range the text is copied.** -/
theorem splice_skip {cursor place : ℕ} {ranges : List (ℕ × ℕ)} (hcursor : cursor ≤ place)
    (h : ∀ range ∈ ranges.head?, place ≤ range.1) :
    splice text replacement cursor ranges =
      slice text cursor place ++ splice text replacement place ranges := by
  cases ranges with
  | nil => exact (slice_append_drop hcursor).symm
  | cons range ranges =>
    rw [splice, splice, ← List.append_assoc, ← List.append_assoc,
      slice_append hcursor (h range rfl)]

theorem head?_splice {cursor : ℕ} {ranges : List (ℕ × ℕ)}
    (h : ∀ range ∈ ranges.head?, cursor < range.1 ∧ range.1 ≤ text.length) :
    (splice text replacement cursor ranges).head? = text[cursor]? := by
  cases ranges with
  | nil => exact List.head?_drop
  | cons range ranges =>
    obtain ⟨hlt, hle⟩ := h range rfl
    have hhead : (slice text cursor range.1).head? = text[cursor]? := head?_slice hlt
    rw [splice, List.append_assoc, List.head?_append, hhead,
      List.getElem?_eq_getElem (by omega)]
    rfl

/-- Texts are compared part by part, when both parts end at a boundary. -/
theorem append_inj_of_boundary {boundary : α → Bool} {part part' rest rest' : List α}
    (hpart : ∀ c ∈ part, boundary c = false) (hpart' : ∀ c ∈ part', boundary c = false)
    (hrest : ∀ c ∈ rest.head?, boundary c = true)
    (hrest' : ∀ c ∈ rest'.head?, boundary c = true) :
    part ++ rest = part' ++ rest' ↔ part = part' ∧ rest = rest' := by
  have htake : ∀ {l r : List α}, (∀ c ∈ l, boundary c = false) →
      (∀ c ∈ r.head?, boundary c = true) →
        (l ++ r).takeWhile (fun c => !boundary c) = l := by
    intro l r hl hr
    rw [List.takeWhile_append_of_pos fun c hc => by rw [hl c hc]; rfl]
    cases r with
    | nil => simp
    | cons c r => simp [hr c rfl]
  constructor
  · intro h
    have hparts := congrArg (List.takeWhile fun c => !boundary c) h
    rw [htake hpart hrest, htake hpart' hrest'] at hparts
    subst hparts
    exact ⟨rfl, List.append_cancel_left h⟩
  · rintro ⟨rfl, rfl⟩
    rfl

/-! ### Fields -/

/-- A range, and where the part of the text ends that it is in. -/
structure Field where
  first : ℕ
  last : ℕ
  stop : ℕ

/-- The range of a field. -/
def Field.range (field : Field) : ℕ × ℕ := (field.first, field.last)

/-- The field is in a part without boundaries, that ends at one. -/
structure Field.In (text : List α) (boundary : α → Bool) (field : Field) : Prop where
  first_le : field.first ≤ field.last
  last_le : field.last ≤ field.stop
  stop_le : field.stop ≤ text.length
  inside : ∀ c ∈ slice text field.first field.stop, boundary c = false
  ends : ∀ c ∈ text[field.stop]?, boundary c = true

variable {boundary : α → Bool}

/-- What follows a field is copied from the end of its part on. -/
theorem Field.In.splice_stop {field : Field} (h : field.In text boundary)
    (replacement : List α) {ranges : List (ℕ × ℕ)} {cursor : ℕ} (hcursor : cursor ≤ field.stop)
    (hranges : ∀ range ∈ ranges.head?, field.stop < range.1 ∧ range.1 ≤ text.length) :
    splice text replacement cursor ranges =
        slice text cursor field.stop ++ splice text replacement field.stop ranges ∧
      ∀ c ∈ (splice text replacement field.stop ranges).head?, boundary c = true := by
  refine ⟨splice_skip hcursor fun range hrange => (hranges range hrange).1.le, ?_⟩
  rw [head?_splice hranges]
  exact h.ends

variable {ι : Type*} {field : ι → Field} {seen : ι → Bool}

/-- **Fields may be left out** just when they hold the replacement already. -/
theorem splice_filter_eq_iff {entries : List ι}
    (hfields : ∀ entry ∈ entries, (field entry).In text boundary)
    (hreplacement : ∀ c ∈ replacement, boundary c = false)
    (hsorted : entries.Pairwise fun entry entry' => (field entry).stop < (field entry').first)
    {cursor : ℕ} (hcursor : ∀ entry ∈ entries.head?, cursor ≤ (field entry).first) :
    splice text replacement cursor ((entries.filter seen).map fun entry => (field entry).range) =
        splice text replacement cursor (entries.map fun entry => (field entry).range) ↔
      ∀ entry ∈ entries, seen entry = false →
        slice text (field entry).first (field entry).last = replacement := by
  induction entries generalizing cursor with
  | nil => simp
  | cons entry entries ih =>
    obtain ⟨hentry, hentries⟩ := List.forall_mem_cons.1 hfields
    obtain ⟨hnext, hsorted⟩ := List.pairwise_cons.1 hsorted
    have hle : cursor ≤ (field entry).first := hcursor entry rfl
    obtain ⟨hfirst, hlast, -, hinside, -⟩ := id hentry
    have hnext' : ∀ place, place ≤ (field entry).stop →
        ∀ entry' ∈ entries.head?, place ≤ (field entry').first := by
      intro place hplace entry' hentry'
      exact hplace.trans (hnext entry' (List.mem_of_mem_head? hentry')).le
    have hrange : (field entry).range.2 = (field entry).last := rfl
    rw [List.forall_mem_cons, List.map_cons, splice]
    cases hseen : seen entry with
    | true =>
      rw [List.filter_cons_of_pos hseen, List.map_cons, splice, List.append_right_inj, hrange,
        ih hentries hsorted (hnext' _ hlast)]
      simp
    | false =>
      have hranges : ∀ kept : List ι, (∀ entry' ∈ kept, entry' ∈ entries) →
          ∀ range ∈ (kept.map fun entry' => (field entry').range).head?,
            (field entry).stop < range.1 ∧ range.1 ≤ text.length := by
        intro kept hkept range hrange
        obtain ⟨entry', hentry', rfl⟩ := List.mem_map.1 (List.mem_of_mem_head? hrange)
        obtain ⟨hfirst', hlast', hstop', -, -⟩ := hentries entry' (hkept entry' hentry')
        exact ⟨hnext entry' (hkept entry' hentry'), by rw [Field.range]; omega⟩
      obtain ⟨hleft, hheadLeft⟩ := hentry.splice_stop replacement
        (hle.trans (hfirst.trans hlast))
        (hranges (entries.filter seen) fun entry' => List.mem_of_mem_filter)
      obtain ⟨hright, hheadRight⟩ := hentry.splice_stop replacement hlast
        (hranges entries fun entry' => id)
      have htail : ∀ c ∈ slice text (field entry).last (field entry).stop,
          boundary c = false := by
        intro c hc
        refine hinside c ?_
        rw [← slice_append hfirst hlast]
        exact List.mem_append_right _ hc
      rw [List.filter_cons_of_neg (by simp [hseen]), hleft,
        hrange, hright,
        ← slice_append hle (hfirst.trans hlast), ← slice_append hfirst hlast]
      have hheld : ∀ c ∈ slice text (field entry).first (field entry).last ++
          slice text (field entry).last (field entry).stop, boundary c = false := by
        rw [slice_append hfirst hlast]
        exact hinside
      have hreplaced : ∀ c ∈ replacement ++
          slice text (field entry).last (field entry).stop, boundary c = false := by
        intro c hc
        rcases List.mem_append.1 hc with hc | hc
        · exact hreplacement c hc
        · exact htail c hc
      have hplace : (field entry).range.1 = (field entry).first := rfl
      simp only [List.append_assoc, hplace]
      rw [List.append_right_inj, ← List.append_assoc, ← List.append_assoc replacement,
        append_inj_of_boundary hheld hreplaced hheadLeft hheadRight, List.append_left_inj,
        ih hentries hsorted (hnext' _ le_rfl)]
      simp

end Splice
