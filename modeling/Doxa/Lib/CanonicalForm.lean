/-
**Canonical forms of texts.**

A character may be decomposed into others, and marks that follow a character may be combined with it
again.  Marks have a class: marks of different classes are brought into the order of these, and
those of one class stay as they are.  Texts are equivalent if they are decomposed and ordered alike;
the composed form of a text is what its decomposition is combined to, where every mark is combined
that is not blocked by one between it and its character.

Which characters are decomposed and combined is a parameter, with the two facts the forms rest on: a
decomposition is complete, and what is combined is decomposed into the same.

Main definitions:

* `CanonicalForm.Repertoire` — characters, with their classes, decompositions and compositions;
* `CanonicalForm.Repertoire.decompose`, `CanonicalForm.Repertoire.compose`,
  `CanonicalForm.Repertoire.normalize` — the forms of a text;
* `CanonicalForm.Repertoire.Equivalent` — equivalence of texts;
* `CanonicalForm.Repertoire.SeparatedBy` — characters that texts are trimmed of.

Main results:

* `CanonicalForm.Repertoire.decompose_normalize` — **the composed form is equivalent to the text**;
* `CanonicalForm.Repertoire.normalize_normalize` — composing twice is composing once;
* `CanonicalForm.Repertoire.decompose_trim` — **trimming a text and decomposing it commute**;
* `CanonicalForm.Repertoire.normalize_append_cons` — what comes after a character that is never
  combined is composed apart.
-/

import Mathlib.Data.List.DropRight
import Mathlib.Data.List.Flatten

set_option relaxedAutoImplicit false
set_option autoImplicit false

namespace CanonicalForm

variable {α : Type*}

/-- A mark is put before the characters that are not marks of a lower class. -/
def insertMark (combiningClass : α → ℕ) (c : α) : List α → List α
  | [] => [c]
  | d :: rest =>
    if 0 < combiningClass d ∧ combiningClass d < combiningClass c then
      d :: insertMark combiningClass c rest
    else c :: d :: rest

/-- Marks in the order of their classes. -/
def order (combiningClass : α → ℕ) (text : List α) : List α :=
  text.foldr (insertMark combiningClass) []

variable {combiningClass : α → ℕ}

theorem insertMark_of_starter {c : α} (h : combiningClass c = 0) (text : List α) :
    insertMark combiningClass c text = c :: text := by
  cases text with
  | nil => rfl
  | cons d rest => exact if_neg (by omega)

/-- Marks of different classes may be put in either order. -/
theorem insertMark_comm {c d : α} (hd : 0 < combiningClass d)
    (hlt : combiningClass d < combiningClass c) (text : List α) :
    insertMark combiningClass c (insertMark combiningClass d text) =
      insertMark combiningClass d (insertMark combiningClass c text) := by
  induction text with
  | nil =>
    simp only [insertMark]
    rw [if_pos ⟨hd, hlt⟩, if_neg (by omega)]
  | cons e rest ih =>
    by_cases hed : 0 < combiningClass e ∧ combiningClass e < combiningClass d
    · have hec : 0 < combiningClass e ∧ combiningClass e < combiningClass c := by omega
      simp only [insertMark, if_pos hed, if_pos hec, ih]
    · by_cases hec : 0 < combiningClass e ∧ combiningClass e < combiningClass c
      · simp only [insertMark, if_neg hed, if_pos hec, if_pos (And.intro hd hlt)]
      · have hcd : ¬(0 < combiningClass c ∧ combiningClass c < combiningClass d) := by omega
        simp only [insertMark, if_neg hed, if_neg hec, if_pos (And.intro hd hlt), if_neg hcd]

theorem order_cons (c : α) (text : List α) :
    order combiningClass (c :: text) = insertMark combiningClass c (order combiningClass text) :=
  rfl

theorem order_append (text rest : List α) : order combiningClass (text ++ rest) =
    text.foldr (insertMark combiningClass) (order combiningClass rest) := List.foldr_append

theorem order_append_congr (text : List α) {rest rest' : List α}
    (h : order combiningClass rest = order combiningClass rest') :
    order combiningClass (text ++ rest) = order combiningClass (text ++ rest') := by
  rw [order_append, order_append, h]

/-- What is put into a text may as well be put in later. -/
theorem order_insertMark_append (c : α) (text rest : List α) :
    order combiningClass (insertMark combiningClass c text ++ rest) =
      order combiningClass (c :: text ++ rest) := by
  induction text with
  | nil => rfl
  | cons d text ih =>
    rw [insertMark]
    split_ifs with hlower
    · rw [List.cons_append, order_cons, ih, List.cons_append, List.cons_append, List.cons_append,
        order_cons, order_cons, order_cons]
      exact (insertMark_comm hlower.1 hlower.2 _).symm
    · rfl

/-- **Ordering a part of a text does not matter.** -/
theorem order_order_append (text rest : List α) :
    order combiningClass (order combiningClass text ++ rest) =
      order combiningClass (text ++ rest) := by
  induction text with
  | nil => rfl
  | cons c text ih =>
    rw [order_cons, order_insertMark_append, List.cons_append, order_cons, ih]
    rfl

theorem order_order (text : List α) :
    order combiningClass (order combiningClass text) = order combiningClass text := by
  have h := @order_order_append α combiningClass text []
  rw [List.append_nil, List.append_nil] at h
  exact h

/-- A mark may be moved over marks of lower classes. -/
theorem order_cons_append {c : α} {marks : List α}
    (h : ∀ m ∈ marks, 0 < combiningClass m ∧ combiningClass m < combiningClass c)
    (rest : List α) :
    order combiningClass (c :: (marks ++ rest)) = order combiningClass (marks ++ c :: rest) := by
  induction marks with
  | nil => rfl
  | cons m marks ih =>
    obtain ⟨hm, hmarks⟩ := List.forall_mem_cons.1 h
    have hrest := ih hmarks
    rw [order_cons] at hrest
    rw [List.cons_append, List.cons_append, order_cons, order_cons, order_cons, ← hrest]
    exact insertMark_comm hm.1 hm.2 _

theorem perm_insertMark (c : α) (text : List α) :
    (insertMark combiningClass c text).Perm (c :: text) := by
  induction text with
  | nil => exact List.Perm.refl _
  | cons d text ih =>
    rw [insertMark]
    split_ifs
    · exact (ih.cons d).trans (List.Perm.swap c d text)
    · exact List.Perm.refl _

theorem perm_order (text : List α) : (order combiningClass text).Perm text := by
  induction text with
  | nil => exact List.Perm.refl _
  | cons c text ih =>
    rw [order_cons]
    exact (perm_insertMark c _).trans (ih.cons c)

/-- Characters that are no marks stay where they are. -/
theorem order_starters_append {starters : List α} (h : ∀ c ∈ starters, combiningClass c = 0)
    (text : List α) : order combiningClass (starters ++ text) =
      starters ++ order combiningClass text := by
  induction starters with
  | nil => rfl
  | cons c starters ih =>
    obtain ⟨hc, hstarters⟩ := List.forall_mem_cons.1 h
    rw [List.cons_append, order_cons, ih hstarters, insertMark_of_starter hc]
    rfl

/-- A character that is no mark is never passed. -/
theorem order_append_starter {c : α} (h : combiningClass c = 0) (text rest : List α) :
    order combiningClass (text ++ c :: rest) =
      order combiningClass text ++ c :: order combiningClass rest := by
  have hinsert : ∀ (d : α) (before after : List α),
      insertMark combiningClass d (before ++ c :: after) =
        insertMark combiningClass d before ++ c :: after := by
    intro d before after
    induction before with
    | nil => exact if_neg (by omega)
    | cons e before ih =>
      rw [List.cons_append, insertMark, insertMark, ih]
      split_ifs <;> rfl
  induction text with
  | nil => exact insertMark_of_starter h _
  | cons d text ih => rw [List.cons_append, order_cons, ih, hinsert, order_cons]

theorem order_append_starters {starters : List α} (h : ∀ c ∈ starters, combiningClass c = 0)
    (text : List α) : order combiningClass (text ++ starters) =
      order combiningClass text ++ starters := by
  cases starters with
  | nil => rw [List.append_nil, List.append_nil]
  | cons c starters =>
    obtain ⟨hc, hstarters⟩ := List.forall_mem_cons.1 h
    have hrest := @order_starters_append α combiningClass starters hstarters []
    rw [List.append_nil] at hrest
    rw [order_append_starter hc, hrest]
    exact congrArg (fun after => _ ++ c :: after) (List.append_nil starters)

/-- What is known of the characters. -/
structure Repertoire (α : Type*) where
  /-- Zero for a character that is no mark. -/
  combiningClass : α → ℕ
  /-- A character as it is decomposed. -/
  decomposition : α → List α
  /-- What two characters are combined to. -/
  composite : α → α → Option α
  decomposition_of_mem : ∀ c, ∀ d ∈ decomposition c, decomposition d = [d]
  decomposition_composite : ∀ a c p, composite a c = some p →
    decomposition p = order combiningClass (decomposition a ++ decomposition c)

namespace Repertoire

variable (R : Repertoire α)

/-! ### The forms of a text -/

variable {text rest : List α} {c : α}

/-- A text decomposed, its marks in order. -/
def decompose (text : List α) : List α := order R.combiningClass (text.flatMap R.decomposition)

/-- Nothing between a character and the mark `c` keeps them apart. -/
def Unblocked (between : List α) (c : α) : Prop :=
  ∀ m ∈ between, 0 < R.combiningClass m ∧ R.combiningClass m < R.combiningClass c

instance (between : List α) (c : α) : Decidable (R.Unblocked between c) :=
  inferInstanceAs (Decidable (∀ m ∈ between, _))

/-- What follows a character `a` and marks after it that were not combined with it. -/
def composeFrom (a : α) (between : List α) : List α → List α
  | [] => a :: between
  | c :: rest =>
    match (if R.Unblocked between c then R.composite a c else none) with
    | some p => composeFrom p between rest
    | none =>
      if R.combiningClass c = 0 then a :: (between ++ composeFrom c [] rest)
      else composeFrom a (between ++ [c]) rest

/-- Marks are combined with the characters before them. -/
def compose : List α → List α
  | [] => []
  | c :: rest =>
    if R.combiningClass c = 0 then R.composeFrom c [] rest else c :: compose rest

/-- The composed form of a text. -/
def normalize (text : List α) : List α := R.compose (R.decompose text)

/-- Texts that are decomposed alike. -/
def Equivalent (text text' : List α) : Prop := R.decompose text = R.decompose text'

variable {R}

theorem decompose_congr {rest' : List α} (h : R.decompose rest = R.decompose rest') :
    R.decompose (text ++ rest) = R.decompose (text ++ rest') := by
  rw [decompose, decompose, List.flatMap_append, List.flatMap_append]
  exact order_append_congr _ h

/-- A character that is decomposed into itself. -/
def IsBase (R : Repertoire α) (c : α) : Prop := R.decomposition c = [c]

theorem flatMap_of_isBase (h : ∀ c ∈ text, R.IsBase c) : text.flatMap R.decomposition = text := by
  induction text with
  | nil => rfl
  | cons c text ih =>
    obtain ⟨hc, htext⟩ := List.forall_mem_cons.1 h
    rw [List.flatMap_cons, ih htext, hc]
    rfl

theorem isBase_of_mem_decompose (h : c ∈ R.decompose text) : R.IsBase c := by
  obtain ⟨d, -, hc⟩ := List.mem_flatMap.1 ((perm_order _).mem_iff.1 h)
  exact R.decomposition_of_mem d c hc

theorem decompose_of_isBase (h : ∀ c ∈ text, R.IsBase c) :
    R.decompose text = order R.combiningClass text := by rw [decompose, flatMap_of_isBase h]

/-- Combining a mark that is not blocked. -/
theorem decompose_composite {a p : α} (hp : R.composite a c = some p) (hc : R.IsBase c)
    {between : List α} (hbetween : R.Unblocked between c) (hbase : ∀ m ∈ between, R.IsBase m)
    (hrest : ∀ d ∈ rest, R.IsBase d) :
    R.decompose (p :: (between ++ rest)) = R.decompose (a :: (between ++ c :: rest)) := by
  have hmarks : ∀ d ∈ between ++ rest, R.IsBase d := by
    intro d hd
    rcases List.mem_append.1 hd with hd | hd
    · exact hbase d hd
    · exact hrest d hd
  have hmarks' : ∀ d ∈ between ++ c :: rest, R.IsBase d := by
    intro d hd
    rcases List.mem_append.1 hd with hd | hd
    · exact hbase d hd
    · rcases List.mem_cons.1 hd with rfl | hd
      · exact hc
      · exact hrest d hd
  rw [decompose, decompose, List.flatMap_cons, List.flatMap_cons, flatMap_of_isBase hmarks,
    flatMap_of_isBase hmarks', R.decomposition_composite a c p hp, order_order_append,
    List.append_assoc, hc]
  exact order_append_congr _ (order_cons_append hbetween rest)

theorem decompose_composeFrom : ∀ {a : α} {between : List α},
    (∀ m ∈ between, R.IsBase m) → (∀ d ∈ rest, R.IsBase d) →
      R.decompose (R.composeFrom a between rest) = R.decompose (a :: (between ++ rest)) := by
  induction rest with
  | nil =>
    intro a between _ _
    rw [composeFrom, List.append_nil]
  | cons c rest ih =>
    intro a between hbetween hall
    obtain ⟨hc, hrest⟩ := List.forall_mem_cons.1 hall
    rw [composeFrom]
    split
    · rename_i p hp
      split_ifs at hp with hunblocked
      rw [ih hbetween hrest]
      exact decompose_composite hp hc hunblocked hbetween hrest
    · split_ifs with hstarter
      · have hnext := @ih c [] nofun hrest
        have hcongr := @decompose_congr α R (a :: between) _ _ hnext
        exact hcongr
      · have hbetween' : ∀ m ∈ between ++ [c], R.IsBase m := by
          intro m hm
          rcases List.mem_append.1 hm with hm | hm
          · exact hbetween m hm
          · rw [List.mem_singleton.1 hm]
            exact hc
        rw [ih hbetween' hrest, List.append_assoc]
        rfl

theorem decompose_compose (h : ∀ c ∈ text, R.IsBase c) :
    R.decompose (R.compose text) = order R.combiningClass text := by
  rw [← decompose_of_isBase h]
  induction text with
  | nil => rfl
  | cons c text ih =>
    obtain ⟨-, htext⟩ := List.forall_mem_cons.1 h
    rw [compose]
    split_ifs
    · exact decompose_composeFrom nofun htext
    · have hcongr := @decompose_congr α R [c] _ _ (ih htext)
      exact hcongr

/-- **The composed form is equivalent to the text.** -/
theorem decompose_normalize (text : List α) :
    R.decompose (R.normalize text) = R.decompose text := by
  rw [normalize, decompose_compose fun c => isBase_of_mem_decompose, decompose, order_order]

/-- Equivalent texts have one composed form. -/
theorem Equivalent.normalize {text' : List α} (h : R.Equivalent text text') :
    R.normalize text = R.normalize text' := by
  have h' : R.decompose text = R.decompose text' := h
  rw [Repertoire.normalize, Repertoire.normalize, h']

/-- **Composing twice is composing once.** -/
theorem normalize_normalize (text : List α) :
    R.normalize (R.normalize text) = R.normalize text :=
  Equivalent.normalize (decompose_normalize text)

/-! ### Properties of the characters -/

theorem forall_mem_composeFrom {q : α → Prop}
    (hcomposite : ∀ a c p, R.composite a c = some p → q a → q c → q p) :
    ∀ {a : α} {between : List α}, q a → (∀ m ∈ between, q m) → (∀ c ∈ rest, q c) →
      ∀ c ∈ R.composeFrom a between rest, q c := by
  induction rest with
  | nil =>
    intro a between ha hbetween _ c hc
    rcases List.mem_cons.1 hc with rfl | hc
    · exact ha
    · exact hbetween c hc
  | cons d rest ih =>
    intro a between ha hbetween hall
    obtain ⟨hd, hrest⟩ := List.forall_mem_cons.1 hall
    rw [composeFrom]
    split
    · rename_i p hp
      split_ifs at hp
      exact ih (hcomposite a d p hp ha hd) hbetween hrest
    · split_ifs
      · intro c hc
        rcases List.mem_cons.1 hc with rfl | hc
        · exact ha
        · rcases List.mem_append.1 hc with hc | hc
          · exact hbetween c hc
          · exact ih hd (List.forall_mem_nil q) hrest c hc
      · refine ih ha ?_ hrest
        intro m hm
        rcases List.mem_append.1 hm with hm | hm
        · exact hbetween m hm
        · rw [List.mem_singleton.1 hm]
          exact hd

theorem forall_mem_compose {q : α → Prop}
    (hcomposite : ∀ a c p, R.composite a c = some p → q a → q c → q p) (h : ∀ c ∈ text, q c) :
    ∀ c ∈ R.compose text, q c := by
  induction text with
  | nil => exact h
  | cons c text ih =>
    obtain ⟨hc, htext⟩ := List.forall_mem_cons.1 h
    rw [compose]
    split_ifs
    · exact forall_mem_composeFrom hcomposite hc (List.forall_mem_nil q) htext
    · exact List.forall_mem_cons.2 ⟨hc, ih htext⟩

/-- A property that decomposing and combining keep. -/
theorem forall_mem_normalize {q : α → Prop}
    (hdecomposition : ∀ c, q c → ∀ d ∈ R.decomposition c, q d)
    (hcomposite : ∀ a c p, R.composite a c = some p → q a → q c → q p) (h : ∀ c ∈ text, q c) :
    ∀ c ∈ R.normalize text, q c := by
  refine forall_mem_compose hcomposite ?_
  intro c hc
  obtain ⟨d, hd, hmem⟩ := List.mem_flatMap.1 ((perm_order _).mem_iff.1 hc)
  exact hdecomposition d (h d hd) c hmem

/-! ### Characters that are never combined -/

/-- A character that is no mark, and stays what it is. -/
structure IsInert (R : Repertoire α) (c : α) : Prop where
  starter : R.combiningClass c = 0
  base : R.IsBase c
  /-- It is not combined with what comes before it. -/
  composite : ∀ a, R.composite a c = none

theorem composeFrom_append_cons (h : R.IsInert c) (rest : List α) :
    ∀ {a : α} {between : List α}, R.composeFrom a between (text ++ c :: rest) =
      R.composeFrom a between text ++ R.composeFrom c [] rest := by
  induction text with
  | nil =>
    intro a between
    conv_lhs => rw [List.nil_append, composeFrom, h.composite, ite_self]
    simp [composeFrom, h.starter]
  | cons d text ih =>
    intro a between
    rw [List.cons_append, composeFrom, composeFrom]
    split
    · rw [ih]
    · split_ifs
      · rw [ih, List.cons_append, List.append_assoc]
      · rw [ih]

theorem compose_append_cons (h : R.IsInert c) (text rest : List α) :
    R.compose (text ++ c :: rest) = R.compose text ++ R.compose (c :: rest) := by
  induction text with
  | nil => rfl
  | cons d text ih =>
    rw [List.cons_append, compose, compose]
    split_ifs
    · rw [composeFrom_append_cons h]
      conv_rhs => rw [compose, if_pos h.starter]
    · rw [ih, List.cons_append]

theorem compose_of_isInert (h : ∀ c ∈ text, R.IsInert c) : R.compose text = text := by
  induction text with
  | nil => rfl
  | cons c text ih =>
    obtain ⟨hc, htext⟩ := List.forall_mem_cons.1 h
    cases text with
    | nil => rw [compose, if_pos hc.starter, composeFrom]
    | cons d rest =>
      have hd := htext d List.mem_cons_self
      have hsplit := compose_append_cons hd [c] rest
      have hsingle : R.compose [c] = [c] := by rw [compose, if_pos hc.starter, composeFrom]
      rw [hsingle, ih htext] at hsplit
      exact hsplit

theorem decompose_append_cons (h : R.IsInert c) (text rest : List α) :
    R.decompose (text ++ c :: rest) = R.decompose text ++ c :: R.decompose rest := by
  have hc : R.decomposition c = [c] := h.base
  rw [decompose, List.flatMap_append, List.flatMap_cons, hc, List.singleton_append,
    order_append_starter h.starter]
  rfl

theorem decompose_of_isInert (h : ∀ c ∈ text, R.IsInert c) : R.decompose text = text := by
  induction text with
  | nil => rfl
  | cons c text ih =>
    obtain ⟨hc, htext⟩ := List.forall_mem_cons.1 h
    have hsplit := decompose_append_cons hc [] text
    rw [List.nil_append, ih htext] at hsplit
    exact hsplit

/-- **What comes after such a character is composed apart.** -/
theorem normalize_append_cons (h : ∀ d ∈ c :: rest, R.IsInert d) (text : List α) :
    R.normalize (text ++ c :: rest) = R.normalize text ++ c :: rest := by
  obtain ⟨hc, hrest⟩ := List.forall_mem_cons.1 h
  rw [normalize, decompose_append_cons hc, decompose_of_isInert hrest, compose_append_cons hc,
    compose_of_isInert h]
  rfl

/-! ### Trimming -/

/-- A text without the separators at either end. -/
def trim (separator : α → Bool) (text : List α) : List α :=
  (text.dropWhile separator).rdropWhile separator

/-- Characters that texts are trimmed of: no marks, and decomposed into themselves. -/
structure SeparatedBy (R : Repertoire α) (separator : α → Bool) : Prop where
  starter : ∀ c, separator c = true → R.combiningClass c = 0
  decomposition : ∀ c, ∀ d ∈ R.decomposition c, separator d = separator c
  decomposition_ne_nil : ∀ c, R.decomposition c ≠ []

variable {separator : α → Bool}

theorem SeparatedBy.eq_false (h : R.SeparatedBy separator) (hmark : 0 < R.combiningClass c) :
    separator c = false := by
  cases hseparator : separator c with
  | false => rfl
  | true =>
    have hstarter := h.starter c hseparator
    omega

/-- A mark that is put before a text does not make it begin with a separator. -/
theorem SeparatedBy.head?_order (h : R.SeparatedBy separator) (hc : separator c = false)
    (text : List α) : ∀ d ∈ (order R.combiningClass (c :: text)).head?, separator d = false := by
  rw [order_cons]
  cases order R.combiningClass text with
  | nil =>
    rintro d ⟨⟩
    exact hc
  | cons e rest =>
    rw [insertMark]
    split_ifs with hlower
    · rintro d ⟨⟩
      exact h.eq_false hlower.1
    · rintro d ⟨⟩
      exact hc

/-- Ordering does not make a text end with a separator. -/
theorem SeparatedBy.getLast?_order (h : R.SeparatedBy separator)
    (htext : ∀ d ∈ text.getLast?, separator d = false) :
    ∀ d ∈ (order R.combiningClass text).getLast?, separator d = false := by
  have hinsert : ∀ (c : α) (rest : List α), (rest = [] → separator c = false) →
      (∀ d ∈ rest.getLast?, separator d = false) →
        ∀ d ∈ (insertMark R.combiningClass c rest).getLast?, separator d = false := by
    intro c rest
    induction rest with
    | nil =>
      rintro hc - d ⟨⟩
      exact hc rfl
    | cons e rest ih =>
      intro _ hlast
      rw [insertMark]
      split_ifs with hlower
      · have hmark : separator c = false := h.eq_false (by omega)
        have hrest : ∀ d ∈ rest.getLast?, separator d = false := by
          intro d hd
          refine hlast d ?_
          cases rest with
          | nil => cases hd
          | cons f rest => rwa [List.getLast?_cons_cons]
        intro d hd
        refine ih (fun _ => hmark) hrest d ?_
        cases hinserted : insertMark R.combiningClass c rest with
        | nil =>
          have hlength := (@perm_insertMark α R.combiningClass c rest).length_eq
          rw [hinserted] at hlength
          simp at hlength
        | cons f others => rwa [hinserted, List.getLast?_cons_cons] at hd
      · intro d hd
        rw [List.getLast?_cons_cons] at hd
        exact hlast d hd
  induction text with
  | nil => exact htext
  | cons c text ih =>
    rw [order_cons]
    cases text with
    | nil =>
      refine hinsert c [] (fun _ => htext c rfl) ?_
      rintro d ⟨⟩
    | cons e rest =>
      refine hinsert c _ ?_ (ih ?_)
      · intro hnil
        have hlength := (@perm_order α R.combiningClass (e :: rest)).length_eq
        rw [hnil] at hlength
        simp at hlength
      · intro d hd
        exact htext d (by rwa [List.getLast?_cons_cons])

theorem SeparatedBy.decompose_dropWhile (h : R.SeparatedBy separator) (text : List α) :
    R.decompose (text.dropWhile separator) = (R.decompose text).dropWhile separator := by
  induction text with
  | nil => rfl
  | cons c text ih =>
    rw [List.dropWhile_cons]
    split_ifs with hc
    · have hseparators : ∀ d ∈ R.decomposition c, separator d = true := by
        intro d hd
        rw [h.decomposition c d hd, hc]
      have hsplit : R.decompose (c :: text) = R.decomposition c ++ R.decompose text := by
        rw [decompose, List.flatMap_cons]
        exact order_starters_append (fun d hd => h.starter d (hseparators d hd)) _
      rw [ih, hsplit, List.dropWhile_append_of_pos hseparators]
    · cases hdecomposition : R.decomposition c with
      | nil => exact absurd hdecomposition (h.decomposition_ne_nil c)
      | cons d rest =>
        have hd : separator d = false := by
          rw [h.decomposition c d (by simp [hdecomposition])]
          exact Bool.eq_false_iff.2 hc
        have hhead := h.head?_order hd (rest ++ text.flatMap R.decomposition)
        rw [decompose, List.flatMap_cons, hdecomposition, List.cons_append]
        cases hordered : order R.combiningClass
            (d :: (rest ++ text.flatMap R.decomposition)) with
        | nil => rfl
        | cons e others =>
          rw [hordered] at hhead
          rw [List.dropWhile_cons, if_neg]
          rw [hhead e rfl]
          decide

theorem SeparatedBy.decompose_rdropWhile (h : R.SeparatedBy separator) (text : List α) :
    R.decompose (text.rdropWhile separator) = (R.decompose text).rdropWhile separator := by
  induction text using List.reverseRecOn with
  | nil => rfl
  | append_singleton text c ih =>
    have hflat : (text ++ [c]).flatMap R.decomposition =
        text.flatMap R.decomposition ++ R.decomposition c := by simp
    rw [List.rdropWhile_concat]
    split_ifs with hc
    · have hseparators : ∀ d ∈ R.decomposition c, separator d = true := by
        intro d hd
        rw [h.decomposition c d hd, hc]
      have hsplit : R.decompose (text ++ [c]) = R.decompose text ++ R.decomposition c := by
        rw [decompose, hflat]
        exact order_append_starters (fun d hd => h.starter d (hseparators d hd)) _
      rw [ih, hsplit, List.rdropWhile, List.rdropWhile, List.reverse_append,
        List.dropWhile_append_of_pos]
      intro d hd
      exact hseparators d (List.mem_reverse.1 hd)
    · refine (List.rdropWhile_eq_self_iff.2 ?_).symm
      intro hne hlast
      have hend : ∀ d ∈ ((text ++ [c]).flatMap R.decomposition).getLast?,
          separator d = false := by
        intro d hd
        rw [hflat, List.getLast?_append_of_ne_nil _ (h.decomposition_ne_nil c)] at hd
        rw [h.decomposition c d (List.mem_of_getLast? hd)]
        exact Bool.eq_false_iff.2 hc
      have hordered := h.getLast?_order hend _ (List.getLast?_eq_getLast_of_ne_nil hne)
      rw [hordered] at hlast
      cases hlast

/-- **Trimming a text and decomposing it commute.** -/
theorem SeparatedBy.decompose_trim (h : R.SeparatedBy separator) (text : List α) :
    R.decompose (trim separator text) = trim separator (R.decompose text) := by
  rw [trim, trim, h.decompose_rdropWhile, h.decompose_dropWhile]

/-- A text of which a part is decomposed to the same is that part. -/
theorem SeparatedBy.eq_of_decompose (h : R.SeparatedBy separator) {part : List α}
    (hpart : part.Sublist text) (heq : R.decompose part = R.decompose text) : part = text := by
  have hlength : (part.flatMap R.decomposition).length =
      (text.flatMap R.decomposition).length := by
    rw [← (@perm_order α R.combiningClass _).length_eq,
      ← (@perm_order α R.combiningClass (text.flatMap _)).length_eq]
    exact congrArg List.length heq
  clear heq
  induction hpart with
  | slnil => rfl
  | cons c hpart ih =>
    -- the character that is left out is decomposed to something
    have hle := (hpart.flatMap R.decomposition).length_le
    have hpos := List.length_pos_of_ne_nil (h.decomposition_ne_nil c)
    rw [List.flatMap_cons, List.length_append] at hlength
    omega
  | cons_cons c hpart ih =>
    rw [List.flatMap_cons, List.flatMap_cons, List.length_append, List.length_append] at hlength
    rw [ih (by omega)]

theorem trim_sublist (separator : α → Bool) (text : List α) :
    (trim separator text).Sublist text :=
  (List.rdropWhile_prefix separator (text.dropWhile separator)).sublist.trans
    (List.dropWhile_sublist separator)

/-- A text is trimmed if it neither begins nor ends with a separator. -/
theorem trim_eq_self_iff : trim separator text = text ↔
    (∀ c ∈ text.head?, separator c = false) ∧ ∀ c ∈ text.getLast?, separator c = false := by
  have hhead : text.dropWhile separator = text ↔ ∀ c ∈ text.head?, separator c = false := by
    cases text with
    | nil => simp
    | cons c text =>
      rw [List.dropWhile_eq_self_iff]
      simp
  have hlast : text.rdropWhile separator = text ↔ ∀ c ∈ text.getLast?, separator c = false := by
    rw [List.rdropWhile_eq_self_iff]
    cases text using List.reverseRecOn with
    | nil => simp
    | append_singleton text c => simp
  rw [← hhead, ← hlast, trim]
  constructor
  · intro h
    have hsublist := (List.rdropWhile_prefix separator (text.dropWhile separator)).sublist
    have hdrop : text.dropWhile separator = text :=
      (List.dropWhile_sublist separator).eq_of_length_le (by
        have hle := hsublist.length_le
        rwa [h] at hle)
    rw [hdrop] at h
    exact ⟨hdrop, h⟩
  · rintro ⟨hdrop, hrdrop⟩
    rw [hdrop, hrdrop]

theorem trim_trim (separator : α → Bool) (text : List α) :
    trim separator (trim separator text) = trim separator text := by
  refine trim_eq_self_iff.2 ⟨?_, ?_⟩
  · intro c hc
    obtain ⟨rest, hrest⟩ := List.rdropWhile_prefix separator (text.dropWhile separator)
    have hhead := List.head?_dropWhile_not separator text
    have hc' : (List.rdropWhile separator (text.dropWhile separator)).head? = some c := hc
    rw [← hrest, List.head?_append, hc'] at hhead
    exact hhead
  · intro c hc
    by_contra hseparator
    have hne : (text.dropWhile separator).rdropWhile separator ≠ [] := by
      intro hnil
      rw [trim, hnil] at hc
      cases hc
    refine List.rdropWhile_last_not separator _ hne ?_
    have hlast := List.getLast?_eq_getLast_of_ne_nil hne
    have hc' : _ = some c := hc
    rw [trim, hlast, Option.some.injEq] at hc'
    rw [hc']
    simpa using hseparator

/-- **What is trimmed stays so** when it is composed. -/
theorem SeparatedBy.trim_normalize (h : R.SeparatedBy separator)
    (htext : trim separator text = text) :
    trim separator (R.normalize text) = R.normalize text := by
  refine h.eq_of_decompose (trim_sublist separator _) ?_
  rw [h.decompose_trim, decompose_normalize, ← h.decompose_trim, htext]

/-- Equivalent texts are trimmed to equivalent ones. -/
theorem SeparatedBy.equivalent_trim (h : R.SeparatedBy separator) {text' : List α}
    (heq : R.Equivalent text text') :
    R.Equivalent (trim separator text) (trim separator text') := by
  have heq' : R.decompose text = R.decompose text' := heq
  rw [Equivalent, h.decompose_trim, h.decompose_trim, heq']

end Repertoire

end CanonicalForm
