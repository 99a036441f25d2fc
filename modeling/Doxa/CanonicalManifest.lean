/-
**The canonical text of a manifest.**

A manifest has a hash of its other content (`manifest/src/index.ts`).  For the hash the content is
printed in a canonical form: the members of every object are sorted by their keys.  The keys are
compared as words of a language (`localeCompare`), which is an order, but one in which different
keys may be equal: those that differ only in how an accented letter is composed, or in characters
that the order ignores.  Such keys keep the order they came in.

So the text is canonical for the values in which no object has two such keys, and for no others.
Keys that are numbers of an array do not matter: an object has them first, in their order.

Main definitions:

* `Doxa.Manifest.canonicalJson`, `Doxa.Manifest.sortCanonicalValue` — what the source has;
* `Doxa.Manifest.passesBuildHash` — the check of a manifest that is loaded or inspected;
* `Doxa.Manifest.Separated` — no object has two keys that are compared as equal.

Main results:

* `Doxa.Manifest.sortMembers_eq_of_perm` — sorted members that are compared apart;
* `Doxa.Manifest.separated_of_mirror` — keys that are compared as equal show the order they came in;
* `Doxa.Manifest.canonicalJson_canonical_iff` — **the text is canonical exactly where the keys are
  compared apart**, and the hash is then that of the content up to the order of members.
-/

import Doxa.Lib.JsonIndent
import Doxa.Lib.JsonOrder
import Mathlib

set_option relaxedAutoImplicit false
set_option autoImplicit false

namespace Doxa.Manifest

open Json JsonText

/-! ### What the source has -/

/-- The number that the characters of a key write. -/
def indexValue (key : String) : ℕ := Nat.ofDigitChars 10 key.toList 0

/-- A key is the number of an item of an array. -/
def isArrayIndex (key : String) : Bool :=
  key = toString (indexValue key) && indexValue key < 2 ^ 32 - 1

section Members

variable {α : Type*} (localeCompare : String → String → ℤ) (key : α → String)

/-- The order in which an object has its members: numbers first, ascending, then the others as they
were added. -/
def enumerate (members : List α) : List α :=
  (members.filter fun member => isArrayIndex (key member)).mergeSort
      (fun left right => indexValue (key left) ≤ indexValue (key right)) ++
    members.filter fun member => !isArrayIndex (key member)

/-- `Object.fromEntries(Object.entries(value).sort(([left], [right]) =>
left.localeCompare(right)))`; sorting is stable. -/
def sortMembers (members : List α) : List α :=
  enumerate key ((enumerate key members).mergeSort
    fun left right => localeCompare (key left) (key right) ≤ 0)

end Members

section Source

variable (localeCompare : String → String → ℤ) (sha256 : List Char → String)

/-- `sortCanonicalValue`: the members of every object are sorted.  Only their keys are compared, so
it is the same whether the values are sorted before or after. -/
def sortCanonicalValue : Json → Json := .reorder (sortMembers localeCompare Prod.fst)

/-- `canonicalJson`. -/
def canonicalJson (value : Json) : List Char :=
  indent 2 0 (sortCanonicalValue localeCompare value)

/-- `const { buildHash, ...semanticManifest } = manifest`. -/
def semanticManifest : Json → Json
  | .object fields => .object (fields.filter fun member => member.1 ≠ "buildHash")
  | manifest => manifest

/-- The check of the build hash in `loadArtifacts` and in `assertCurrentManifest`. -/
def passesBuildHash (manifest : Json) : Bool :=
  match manifest.field "buildHash" with
  | some (.text declared) =>
    sha256 (canonicalJson localeCompare (semanticManifest manifest)) = declared
  | _ => false

end Source

/-! ### What is asked of it -/

variable (localeCompare : String → String → ℤ)

/-- What a comparison of the keys of a language does: it orders all texts, though different ones may
be equal. -/
structure IsCollation (localeCompare : String → String → ℤ) : Prop where
  swap : ∀ left right, 0 ≤ localeCompare left right ↔ localeCompare right left ≤ 0
  trans : ∀ left middle right, localeCompare left middle ≤ 0 → localeCompare middle right ≤ 0 →
    localeCompare left right ≤ 0

/-- Different keys, numbers apart, are compared as different. -/
def KeysSeparated (keys : List String) : Prop :=
  ∀ left ∈ keys, ∀ right ∈ keys, isArrayIndex left = false → isArrayIndex right = false →
    localeCompare left right = 0 → left = right

/-- No object in a value has two keys that are compared as equal. -/
def Separated : Json → Prop :=
  Everywhere (KeysSeparated localeCompare)

/-- Another value has the same canonical text exactly if it is the same up to the order of
members. -/
def IsCanonicalAt (json : Json) : Prop :=
  ∀ json', IsPlain json' →
    (canonicalJson localeCompare json = canonicalJson localeCompare json' ↔
      json.SameUpToOrder json')

/-- With the same hash declared, another manifest passes the check exactly if it is the same up to
the order of members. -/
def HashesUpToOrder (sha256 : List Char → String) (manifest : Json) : Prop :=
  ∀ fields, IsPlain (.object fields) →
    (Json.object fields).field "buildHash" = manifest.field "buildHash" →
      (passesBuildHash localeCompare sha256 (.object fields) = true ↔
        manifest.SameUpToOrder (.object fields))

namespace IsCollation

variable {localeCompare : String → String → ℤ} (h : IsCollation localeCompare)
include h

theorem total (left right : String) :
    localeCompare left right ≤ 0 ∨ localeCompare right left ≤ 0 := by
  rw [← h.swap left right]
  omega

theorem eq_zero {left right : String} (hle : localeCompare left right ≤ 0)
    (hge : localeCompare right left ≤ 0) : localeCompare left right = 0 := by
  rw [← h.swap left right] at hge
  omega

/-- Sorting puts the keys in order. -/
theorem pairwise_mergeSort {α : Type*} (key : α → String) (members : List α) :
    (members.mergeSort fun left right => localeCompare (key left) (key right) ≤ 0).Pairwise
      fun left right => decide (localeCompare (key left) (key right) ≤ 0) = true := by
  refine List.pairwise_mergeSort ?_ ?_ members
  · intro left middle right hleft hright
    simp only [decide_eq_true_eq] at hleft hright ⊢
    exact h.trans _ _ _ hleft hright
  · intro left right
    simpa using h.total (key left) (key right)

/-- Sorting is stable. -/
theorem pair_sublist_mergeSort {α : Type*} {key : α → String} {a b : α} {members : List α}
    (hle : localeCompare (key a) (key b) ≤ 0) (hpair : [a, b].Sublist members) :
    [a, b].Sublist (members.mergeSort fun left right =>
      localeCompare (key left) (key right) ≤ 0) := by
  refine List.pair_sublist_mergeSort ?_ ?_ (by simpa using hle) hpair
  · intro left middle right hleft hright
    simp only [decide_eq_true_eq] at hleft hright ⊢
    exact h.trans _ _ _ hleft hright
  · intro left right
    simpa using h.total (key left) (key right)

end IsCollation

/-! ### Sorted members -/

theorem eq_of_indexValue_eq {left right : String} (hleft : isArrayIndex left = true)
    (hright : isArrayIndex right = true) (h : indexValue left = indexValue right) :
    left = right := by
  rw [isArrayIndex, Bool.and_eq_true, decide_eq_true_eq] at hleft hright
  rw [hleft.1, hright.1, h]

section Members

variable {α : Type*} {localeCompare : String → String → ℤ} {key : α → String}

theorem enumerate_perm (members : List α) : (enumerate key members).Perm members :=
  ((List.mergeSort_perm _ _).append_right _).trans (List.filter_append_perm _ members)

theorem sortMembers_perm (members : List α) :
    (sortMembers localeCompare key members).Perm members :=
  (enumerate_perm _).trans ((List.mergeSort_perm _ _).trans (enumerate_perm members))

variable {members : List α}

/-- Members that come one after the other, and are no numbers, come so in the object. -/
theorem pair_sublist_enumerate {a b : α} (h : [a, b].Sublist members)
    (ha : isArrayIndex (key a) = false) (hb : isArrayIndex (key b) = false) :
    [a, b].Sublist (enumerate key members) := by
  have hfilter := h.filter fun member => !isArrayIndex (key member)
  have hkept : [a, b].filter (fun member => !isArrayIndex (key member)) = [a, b] := by
    simp [ha, hb]
  rw [hkept] at hfilter
  exact hfilter.trans (List.sublist_append_right _ _)

theorem pair_sublist_sortMembers (hcollation : IsCollation localeCompare) {a b : α}
    (h : [a, b].Sublist members) (ha : isArrayIndex (key a) = false)
    (hb : isArrayIndex (key b) = false) (hle : localeCompare (key a) (key b) ≤ 0) :
    [a, b].Sublist (sortMembers localeCompare key members) :=
  pair_sublist_enumerate
    (hcollation.pair_sublist_mergeSort hle (pair_sublist_enumerate h ha hb)) ha hb

/-- The same members in another order are enumerated alike, if those that are no numbers come in the
same order. -/
theorem enumerate_eq_of_perm {members' : List α} (hperm : members.Perm members')
    (hinj : ∀ a ∈ members, ∀ b ∈ members, key a = key b → a = b)
    (hothers : members.filter (fun member => !isArrayIndex (key member))
      = members'.filter fun member => !isArrayIndex (key member)) :
    enumerate key members = enumerate key members' := by
  have hsorted : ∀ l : List α, (l.mergeSort fun left right =>
      indexValue (key left) ≤ indexValue (key right)).Pairwise fun left right =>
        decide (indexValue (key left) ≤ indexValue (key right)) = true := by
    intro l
    refine List.pairwise_mergeSort ?_ ?_ l
    · intro left middle right hleft hright
      simp only [decide_eq_true_eq] at hleft hright ⊢
      omega
    · intro left right
      simp only [Bool.or_eq_true, decide_eq_true_eq]
      omega
  rw [enumerate, enumerate, hothers]
  refine congrArg (· ++ _) (List.Perm.eq_of_pairwise ?_ (hsorted _) (hsorted _)
    ((List.mergeSort_perm _ _).trans
      ((hperm.filter _).trans (List.mergeSort_perm _ _).symm)))
  intro a b ha hb hle hge
  rw [List.mem_mergeSort, List.mem_filter] at ha hb
  simp only [decide_eq_true_eq] at hle hge
  exact hinj a ha.1 b (hperm.mem_iff.2 hb.1) (eq_of_indexValue_eq ha.2 hb.2 (by omega))

/-- **Members whose keys are compared apart are sorted alike**, in whatever order they came. -/
theorem sortMembers_eq_of_perm (hcollation : IsCollation localeCompare) {members' : List α}
    (hperm : members.Perm members') (hnodup : (members.map key).Nodup)
    (h : KeysSeparated localeCompare (members.map key)) :
    sortMembers localeCompare key members = sortMembers localeCompare key members' := by
  have hinj : ∀ a ∈ members, ∀ b ∈ members, key a = key b → a = b :=
    fun a ha b hb => List.inj_on_of_nodup_map hnodup ha hb
  have hmem : ∀ l : List α, l.Perm members → ∀ a ∈ (enumerate key l).mergeSort (fun left right =>
      localeCompare (key left) (key right) ≤ 0), a ∈ members := by
    intro l hl a ha
    exact hl.mem_iff.1 ((enumerate_perm l).mem_iff.1 (List.mem_mergeSort.1 ha))
  have hperms := (List.mergeSort_perm (enumerate key members) fun left right =>
    decide (localeCompare (key left) (key right) ≤ 0)).trans
      (((enumerate_perm members).trans (hperm.trans (enumerate_perm members').symm)).trans
        (List.mergeSort_perm (enumerate key members') fun left right =>
          decide (localeCompare (key left) (key right) ≤ 0)).symm)
  refine enumerate_eq_of_perm hperms (fun a ha b hb => hinj a (hmem _ (List.Perm.refl _) a ha) b
    (hmem _ (List.Perm.refl _) b hb)) ?_
  refine List.Perm.eq_of_pairwise ?_
    ((hcollation.pairwise_mergeSort key _).sublist List.filter_sublist)
    ((hcollation.pairwise_mergeSort key _).sublist List.filter_sublist) (hperms.filter _)
  intro a b ha hb hle hge
  rw [List.mem_filter, Bool.not_eq_true'] at ha hb
  simp only [decide_eq_true_eq] at hle hge
  have ha' := hmem _ (List.Perm.refl _) a ha.1
  have hb' := hmem _ hperm.symm b hb.1
  exact hinj a ha' b hb' (h (key a) (List.mem_map_of_mem ha') (key b) (List.mem_map_of_mem hb')
    ha.2 hb.2 (hcollation.eq_zero hle hge))

end Members

/-! ### The mirror of a value -/

/-- A list without repetitions has two of its elements in one order only. -/
theorem not_pair_sublist_swap {α : Type*} {l : List α} (hnodup : l.Nodup) {a b : α}
    (h : [a, b].Sublist l) : ¬ [b, a].Sublist l := by
  induction l with
  | nil => simp at h
  | cons c l ih =>
    rw [List.nodup_cons] at hnodup
    intro h'
    cases h with
    | cons _ h =>
      cases h' with
      | cons _ h' => exact ih hnodup.2 h h'
      | cons_cons _ h' => exact hnodup.1 (h.subset (by simp))
    | cons_cons _ h =>
      cases h' with
      | cons _ h' => exact hnodup.1 (h'.subset (by simp))
      | cons_cons _ h' => exact hnodup.1 (h.subset (by simp))

theorem pair_sublist_or {α : Type*} {l : List α} {a b : α} (hne : a ≠ b) (ha : a ∈ l)
    (hb : b ∈ l) : [a, b].Sublist l ∨ [b, a].Sublist l := by
  induction l with
  | nil => cases ha
  | cons c l ih =>
    rcases List.mem_cons.1 ha with rfl | hrest
    · rcases List.mem_cons.1 hb with rfl | hrest'
      · exact absurd rfl hne
      · exact .inl ((List.singleton_sublist.2 hrest').cons_cons a)
    · rcases List.mem_cons.1 hb with rfl | hrest'
      · exact .inr ((List.singleton_sublist.2 hrest).cons_cons b)
      · exact (ih hrest hrest').imp (List.Sublist.cons c) (List.Sublist.cons c)

/-- The members of every object in the opposite order. -/
def mirror : Json → Json := .reorder List.reverse

section Mirror

variable {localeCompare : String → String → ℤ}

/-- Members whose keys are compared as equal are sorted in the order they came. -/
theorem keysSeparated_of_reverse (hcollation : IsCollation localeCompare)
    {members members' : List (String × Json)} (hkeys : members'.map Prod.fst = members.map Prod.fst)
    (hnodup : (members.map Prod.fst).Nodup)
    (h : sortMembers localeCompare Prod.fst members'.reverse
      = sortMembers localeCompare Prod.fst members) :
    KeysSeparated localeCompare (members.map Prod.fst) := by
  have hsorted : ((sortMembers localeCompare Prod.fst members).map Prod.fst).Nodup :=
    ((sortMembers_perm members).map Prod.fst).nodup_iff.2 hnodup
  have hpair : ∀ left right, isArrayIndex left = false → isArrayIndex right = false →
      localeCompare left right ≤ 0 → localeCompare right left ≤ 0 →
        ¬ [left, right].Sublist (members.map Prod.fst) := by
    intro left right hleft hright hle hge hsub
    have hsub' := hsub
    rw [← hkeys] at hsub'
    obtain ⟨pair, hpair, heq⟩ := List.sublist_map_iff.1 hsub
    obtain ⟨pair', hpair', heq'⟩ := List.sublist_map_iff.1 hsub'
    obtain ⟨a, b, rfl⟩ := List.length_eq_two.1 (by simpa using (congrArg List.length heq).symm)
    obtain ⟨a', b', rfl⟩ := List.length_eq_two.1 (by simpa using (congrArg List.length heq').symm)
    obtain ⟨rfl, rfl⟩ : left = a.1 ∧ right = b.1 := by simpa using heq
    obtain ⟨ha, hb⟩ : a.1 = a'.1 ∧ b.1 = b'.1 := by simpa using heq'
    have hforward := (pair_sublist_sortMembers hcollation hpair hleft hright hle).map Prod.fst
    have hreverse : [b', a'].Sublist members'.reverse := hpair'.reverse
    have hbackward : [b', a'].Sublist (sortMembers localeCompare Prod.fst members'.reverse) :=
      pair_sublist_sortMembers hcollation hreverse (hb ▸ hright) (ha ▸ hleft)
        (by rw [← ha, ← hb]; exact hge)
    rw [h] at hbackward
    refine not_pair_sublist_swap hsorted hforward ?_
    simpa [ha, hb] using hbackward.map Prod.fst
  intro left hleft right hright hleft' hright' hzero
  by_contra hne
  have hle : localeCompare left right ≤ 0 := hzero.le
  have hge : localeCompare right left ≤ 0 := (hcollation.swap left right).1 hzero.ge
  rcases pair_sublist_or hne hleft hright with hsub | hsub
  · exact hpair left right hleft' hright' hle hge hsub
  · exact hpair right left hright' hleft' hge hle hsub

theorem mirror_object (fields : List (String × Json)) :
    mirror (.object fields)
      = .object (fields.map fun member => (member.1, mirror member.2)).reverse :=
  reorder_object _ fields

theorem sortCanonicalValue_object (fields : List (String × Json)) :
    sortCanonicalValue localeCompare (.object fields)
      = .object (sortMembers localeCompare Prod.fst
          (fields.map fun member => (member.1, sortCanonicalValue localeCompare member.2))) :=
  reorder_object _ fields

/-- **A value that is sorted like its mirror has no keys that are compared as equal.** -/
theorem separated_of_mirror (hcollation : IsCollation localeCompare) {json : Json}
    (hplain : IsPlain json)
    (h : sortCanonicalValue localeCompare (mirror json) = sortCanonicalValue localeCompare json) :
    Separated localeCompare json := by
  induction json using induct with
  | null => trivial
  | bool value => trivial
  | number value => trivial
  | text value => trivial
  | array items ih =>
    rw [isPlain_array] at hplain
    rw [mirror, sortCanonicalValue, reorder_array, reorder_array, reorder_array,
      Json.array.injEq, List.map_map, List.map_inj_left] at h
    exact (everywhere_array _).2 fun item hitem => ih item hitem (hplain item hitem)
      (h item hitem)
  | object fields ih =>
    rw [isPlain_object] at hplain
    rw [mirror_object, sortCanonicalValue_object, sortCanonicalValue_object, Json.object.injEq,
      List.map_reverse, List.map_map] at h
    have hkeys : ∀ f : Json → Json,
        (fields.map fun member => (member.1, f member.2)).map Prod.fst
          = fields.map Prod.fst := by
      intro f
      rw [List.map_map]
      rfl
    refine (everywhere_object _).2 ⟨?_, ?_⟩
    · have hseparated := keysSeparated_of_reverse hcollation
        ((hkeys fun value => sortCanonicalValue localeCompare (mirror value)).trans
          (hkeys (sortCanonicalValue localeCompare)).symm)
        (by rw [hkeys]; exact hplain.1) h
      rwa [hkeys] at hseparated
    · intro member hmember
      refine ih member hmember (hplain.2 member hmember) ?_
      -- under its key both sorted objects have the sorted value
      have hnodup : ((sortMembers localeCompare Prod.fst (fields.map fun member =>
          (member.1, sortCanonicalValue localeCompare member.2))).map Prod.fst).Nodup := by
        rw [((sortMembers_perm _).map Prod.fst).nodup_iff, hkeys]
        exact hplain.1
      have hsorted : (member.1, sortCanonicalValue localeCompare member.2) ∈
          sortMembers localeCompare Prod.fst (fields.map fun member =>
            (member.1, sortCanonicalValue localeCompare member.2)) :=
        (sortMembers_perm _).mem_iff.2 (List.mem_map.2 ⟨member, hmember, rfl⟩)
      refine eq_of_mem_of_nodup hnodup ?_ hsorted
      rw [← h, (sortMembers_perm _).mem_iff, List.mem_reverse]
      exact List.mem_map.2 ⟨member, hmember, rfl⟩

end Mirror

/-! ### Where the text is canonical -/

section Canonical

variable {localeCompare : String → String → ℤ}

theorem sameUpToOrder_sortCanonicalValue {json : Json} (h : IsPlain json) :
    json.SameUpToOrder (sortCanonicalValue localeCompare json) :=
  sameUpToOrder_reorder (fun _ => sortMembers_perm _) h

/-- Values with the same canonical text are the same up to order. -/
theorem canonicalJson_eq_iff {json json' : Json} (h : IsPlain json)
    (h' : IsPlain json') :
    canonicalJson localeCompare json = canonicalJson localeCompare json' ↔
      sortCanonicalValue localeCompare json = sortCanonicalValue localeCompare json' := by
  refine ⟨?_, fun heq => by rw [canonicalJson, heq, canonicalJson]⟩
  exact indent_injective (isPlain_reorder (fun _ => sortMembers_perm _) h)
    (isPlain_reorder (fun _ => sortMembers_perm _) h')

/-- **Values whose keys are compared apart are sorted alike** if they are the same up to order. -/
theorem sortCanonicalValue_eq (hcollation : IsCollation localeCompare) {json json' : Json}
    (hsame : json.SameUpToOrder json') : IsPlain json → IsPlain json' →
      Separated localeCompare json →
        sortCanonicalValue localeCompare json = sortCanonicalValue localeCompare json' := by
  induction hsame with
  | null => exact fun _ _ _ => rfl
  | bool value => exact fun _ _ _ => rfl
  | number value => exact fun _ _ _ => rfl
  | text value => exact fun _ _ _ => rfl
  | @array items items' hlength _ ih =>
    intro hplain hplain' hseparated
    rw [isPlain_array] at hplain hplain'
    rw [Separated, everywhere_array] at hseparated
    rw [sortCanonicalValue, reorder_array, reorder_array, Json.array.injEq]
    refine List.ext_getElem (by simpa using hlength) ?_
    intro n hn hn'
    rw [List.length_map] at hn hn'
    rw [List.getElem_map, List.getElem_map]
    have hzip : n < (items.zip items').length := by
      rw [List.length_zip]
      omega
    exact ih (items[n], items'[n]) (List.mem_iff_getElem.2 ⟨n, hzip, List.getElem_zip⟩)
      (hplain _ (List.getElem_mem hn)) (hplain' _ (List.getElem_mem hn'))
      (hseparated _ (List.getElem_mem hn))
  | @object fields fields' hkeys _ ih =>
    intro hplain hplain' hseparated
    rw [isPlain_object] at hplain hplain'
    rw [Separated, everywhere_object] at hseparated
    rw [sortCanonicalValue_object, sortCanonicalValue_object, Json.object.injEq]
    have hkeysOf : ∀ fields : List (String × Json), (fields.map fun member =>
        (member.1, sortCanonicalValue localeCompare member.2)).map Prod.fst
          = fields.map Prod.fst := by
      intro fields
      rw [List.map_map]
      rfl
    have hnodup := (hkeysOf fields).symm ▸ hplain.1
    have hnodup' := (hkeysOf fields').symm ▸ hplain'.1
    refine sortMembers_eq_of_perm hcollation ?_ hnodup
      ((hkeysOf fields).symm ▸ hseparated.1)
    rw [List.perm_ext_iff_of_nodup hnodup.of_map hnodup'.of_map]
    rintro ⟨key, sorted⟩
    rw [List.mem_map, List.mem_map]
    constructor
    · rintro ⟨⟨key', value⟩, hmem, heq⟩
      cases heq
      obtain ⟨⟨key'', value'⟩, hmem', rfl⟩ :=
        List.mem_map.1 (hkeys.mem_iff.1 (List.mem_map_of_mem hmem))
      refine ⟨_, hmem', Prod.ext rfl ?_⟩
      exact (ih _ _ _ hmem hmem' (hplain.2 _ hmem) (hplain'.2 _ hmem')
        (hseparated.2 _ hmem)).symm
    · rintro ⟨⟨key', value'⟩, hmem', heq⟩
      cases heq
      obtain ⟨⟨key'', value⟩, hmem, rfl⟩ :=
        List.mem_map.1 (hkeys.mem_iff.2 (List.mem_map_of_mem hmem'))
      refine ⟨_, hmem, Prod.ext rfl ?_⟩
      exact ih _ _ _ hmem hmem' (hplain.2 _ hmem) (hplain'.2 _ hmem') (hseparated.2 _ hmem)

/-- The text of a value is canonical exactly if its keys are compared apart. -/
theorem isCanonicalAt_iff (hcollation : IsCollation localeCompare) {json : Json}
    (h : IsPlain json) :
    IsCanonicalAt localeCompare json ↔ Separated localeCompare json := by
  constructor
  · intro hcanonical
    have hreverse : ∀ fields : List (String × Json), fields.reverse.Perm fields :=
      List.reverse_perm
    have hmirror : IsPlain (mirror json) := isPlain_reorder hreverse h
    have hsame : json.SameUpToOrder (mirror json) := sameUpToOrder_reorder hreverse h
    have htext := (hcanonical (mirror json) hmirror).2 hsame
    rw [canonicalJson_eq_iff h hmirror] at htext
    exact separated_of_mirror hcollation h htext.symm
  · intro hseparated json' h'
    rw [canonicalJson_eq_iff h h']
    constructor
    · intro heq
      have hsame : json.SameUpToOrder (sortCanonicalValue localeCompare json) :=
        sameUpToOrder_sortCanonicalValue h
      rw [heq] at hsame
      exact hsame.trans (sameUpToOrder_sortCanonicalValue h').symm
    · intro hsame
      exact sortCanonicalValue_eq hcollation hsame h h' hseparated

end Canonical

/-! ### The build hash -/

variable {fields : List (String × Json)}

/-- In an object without repeated keys, a member is found under its key. -/
theorem field_eq_some_iff (h : (fields.map Prod.fst).Nodup) {key : String} {value : Json} :
    (Json.object fields).field key = some value ↔ (key, value) ∈ fields := by
  rw [field, Option.map_eq_some_iff]
  constructor
  · rintro ⟨member, hfind, rfl⟩
    have hkey := List.find?_some hfind
    rw [decide_eq_true_eq] at hkey
    rw [← hkey]
    exact List.mem_of_find?_eq_some hfind
  · intro hmem
    cases hfind : fields.find? fun member => member.1 = key with
    | none =>
      have hne := List.find?_eq_none.1 hfind _ hmem
      simp at hne
    | some member =>
      have hkey := List.find?_some hfind
      rw [decide_eq_true_eq] at hkey
      refine ⟨member, rfl, eq_of_mem_of_nodup h ?_ hmem⟩
      rw [← hkey]
      exact List.mem_of_find?_eq_some hfind

theorem isPlain_semanticManifest (h : IsPlain (.object fields)) :
    IsPlain (semanticManifest (.object fields)) := by
  rw [isPlain_object] at h
  rw [semanticManifest, isPlain_object]
  refine ⟨h.1.sublist (List.filter_sublist.map Prod.fst), ?_⟩
  intro member hmember
  exact h.2 member (List.mem_filter.1 hmember).1

/-- A key of a manifest is that of the hash, or of the other content. -/
theorem mem_keys_semanticManifest {key : String} :
    key ∈ (fields.filter fun member => member.1 ≠ "buildHash").map Prod.fst ↔
      key ∈ fields.map Prod.fst ∧ key ≠ "buildHash" := by
  simp only [List.mem_map, List.mem_filter, decide_eq_true_eq]
  constructor
  · rintro ⟨member, ⟨hmem, hne⟩, rfl⟩
    exact ⟨⟨member, hmem, rfl⟩, hne⟩
  · rintro ⟨⟨member, hmem, rfl⟩, hne⟩
    exact ⟨member, ⟨hmem, hne⟩, rfl⟩

/-- Manifests with the same hash are the same up to order exactly if their other content is. -/
theorem sameUpToOrder_semanticManifest {fields' : List (String × Json)} {declared : String}
    (h : (fields.map Prod.fst).Nodup) (h' : (fields'.map Prod.fst).Nodup)
    (hhash : ("buildHash", .text declared) ∈ fields)
    (hhash' : ("buildHash", .text declared) ∈ fields') :
    (semanticManifest (.object fields)).SameUpToOrder (semanticManifest (.object fields')) ↔
      (Json.object fields).SameUpToOrder (.object fields') := by
  rw [semanticManifest, semanticManifest]
  constructor
  · intro hsame
    cases hsame with
    | object hkeys hvalues =>
      refine .object ?_ ?_
      · rw [List.perm_ext_iff_of_nodup h h']
        intro key
        by_cases hkey : key = "buildHash"
        · rw [hkey]
          exact iff_of_true (List.mem_map_of_mem hhash) (List.mem_map_of_mem hhash')
        · have hmem := hkeys.mem_iff (a := key)
          rwa [mem_keys_semanticManifest, mem_keys_semanticManifest, and_iff_left hkey,
            and_iff_left hkey] at hmem
      · intro key value value' hvalue hvalue'
        by_cases hkey : key = "buildHash"
        · subst hkey
          rw [eq_of_mem_of_nodup h hvalue hhash, eq_of_mem_of_nodup h' hvalue' hhash']
          exact .text declared
        · exact hvalues key value value' (List.mem_filter.2 ⟨hvalue, by simpa using hkey⟩)
            (List.mem_filter.2 ⟨hvalue', by simpa using hkey⟩)
  · intro hsame
    cases hsame with
    | object hkeys hvalues =>
      refine .object ?_ ?_
      · rw [List.perm_ext_iff_of_nodup (h.sublist (List.filter_sublist.map Prod.fst))
          (h'.sublist (List.filter_sublist.map Prod.fst))]
        intro key
        rw [mem_keys_semanticManifest, mem_keys_semanticManifest, hkeys.mem_iff]
      · intro key value value' hvalue hvalue'
        exact hvalues key value value' (List.mem_filter.1 hvalue).1 (List.mem_filter.1 hvalue').1

theorem semanticManifest_mirror (fields : List (String × Json)) :
    semanticManifest (mirror (.object fields))
      = mirror (semanticManifest (.object fields)) := by
  rw [mirror_object, semanticManifest, semanticManifest, mirror_object, List.filter_reverse,
    List.filter_map]
  rfl

section BuildHash

variable {localeCompare : String → String → ℤ} {sha256 : List Char → String}

theorem passesBuildHash_iff {manifest : Json} {declared : String}
    (h : manifest.field "buildHash" = some (.text declared)) :
    passesBuildHash localeCompare sha256 manifest = true ↔
      sha256 (canonicalJson localeCompare (semanticManifest manifest)) = declared := by
  rw [passesBuildHash, h, decide_eq_true_iff]

theorem exists_of_passesBuildHash {manifest : Json}
    (h : passesBuildHash localeCompare sha256 manifest = true) :
    ∃ fields declared, manifest = .object fields ∧
      manifest.field "buildHash" = some (.text declared) := by
  rw [passesBuildHash] at h
  split at h
  · rename_i declared hfield
    cases manifest with
    | object fields => exact ⟨fields, declared, rfl, hfield⟩
    | null => cases hfield
    | bool value => cases hfield
    | number value => cases hfield
    | text value => cases hfield
    | array items => cases hfield
  · cases h

/-- The hash of a manifest is that of its content up to order exactly if the keys are compared
apart. -/
theorem hashesUpToOrder_iff (hcollation : IsCollation localeCompare)
    (hsha : Function.Injective sha256) {manifest : Json} (hplain : IsPlain manifest)
    (hpasses : passesBuildHash localeCompare sha256 manifest = true) :
    HashesUpToOrder localeCompare sha256 manifest ↔
      Separated localeCompare (semanticManifest manifest) := by
  obtain ⟨fields, declared, rfl, hfield⟩ := exists_of_passesBuildHash hpasses
  have hsemantic := isPlain_semanticManifest hplain
  have hkeys := (JsonText.isPlain_object.1 hplain).1
  have hmem := (field_eq_some_iff hkeys).1 hfield
  have hhash := (passesBuildHash_iff hfield).1 hpasses
  -- another manifest with this hash passes exactly if its content has the same text
  have hother : ∀ other, IsPlain (Json.object other) →
      (Json.object other).field "buildHash" = some (Json.text declared) →
        (passesBuildHash localeCompare sha256 (Json.object other) = true ↔
          canonicalJson localeCompare (semanticManifest (Json.object fields))
            = canonicalJson localeCompare (semanticManifest (Json.object other))) := by
    intro other _ hfield'
    rw [passesBuildHash_iff hfield', ← hhash, hsha.eq_iff, eq_comm]
  constructor
  · intro hup
    have hreverse : ∀ fields : List (String × Json), fields.reverse.Perm fields :=
      List.reverse_perm
    have hmirror : IsPlain (mirror (Json.object fields)) :=
      isPlain_reorder hreverse hplain
    have hsame : (Json.object fields).SameUpToOrder (mirror (Json.object fields)) :=
      sameUpToOrder_reorder hreverse hplain
    have hcontent := semanticManifest_mirror fields
    rw [mirror_object] at hmirror hsame hcontent
    have hkeys' := (JsonText.isPlain_object.1 hmirror).1
    have hfield' := (field_eq_some_iff hkeys').2
      (List.mem_reverse.2 (List.mem_map.2 ⟨_, hmem, rfl⟩))
    have hpasses' := (hup _ hmirror (hfield'.trans hfield.symm)).2 hsame
    rw [hother _ hmirror hfield', hcontent] at hpasses'
    refine separated_of_mirror hcollation hsemantic ?_
    exact ((canonicalJson_eq_iff hsemantic
      (isPlain_reorder hreverse hsemantic)).1 hpasses').symm
  · intro hseparated other hplain' hfield'
    rw [hfield] at hfield'
    have hkeys' := (JsonText.isPlain_object.1 hplain').1
    have hmem' := (field_eq_some_iff hkeys').1 hfield'
    rw [hother other hplain' hfield', ← sameUpToOrder_semanticManifest hkeys hkeys' hmem hmem']
    exact (isCanonicalAt_iff hcollation hsemantic).2 hseparated _
      (isPlain_semanticManifest hplain')

end BuildHash

/-- **The text of a value is canonical exactly if no object in it has two keys that are compared as
equal**, and so the hash of a manifest is that of its content up to the order of members. -/
theorem canonicalJson_canonical_iff {localeCompare : String → String → ℤ}
    (hcollation : IsCollation localeCompare) {sha256 : List Char → String}
    (hsha : Function.Injective sha256) {json : Json} (h : IsPlain json) :
    (IsCanonicalAt localeCompare json ↔ Separated localeCompare json) ∧
      (passesBuildHash localeCompare sha256 json = true →
        (HashesUpToOrder localeCompare sha256 json ↔
          Separated localeCompare (semanticManifest json))) :=
  ⟨isCanonicalAt_iff hcollation h, hashesUpToOrder_iff hcollation hsha h⟩

/-! ### An accented letter -/

/-- The characters of a key, an accented letter taken apart. -/
def decomposed (key : String) : List Char :=
  key.toList.flatMap fun c => if c = '\u00e9' then ['e', '\u0301'] else [c]

/-- A comparison of keys to which an accented letter is the same composed and taken apart. -/
def compareDecomposed (left right : String) : ℤ :=
  if decomposed left < decomposed right then -1
  else if decomposed left = decomposed right then 0 else 1

theorem compareDecomposed_le_iff (left right : String) :
    compareDecomposed left right ≤ 0 ↔ decomposed left ≤ decomposed right := by
  rw [compareDecomposed]
  split_ifs with hlt heq
  · exact iff_of_true (by simp) hlt.le
  · exact iff_of_true le_rfl heq.le
  · exact iff_of_false (by simp) (not_le.2 (lt_of_le_of_ne (not_lt.1 hlt) (Ne.symm heq)))

theorem isCollation_compareDecomposed : IsCollation compareDecomposed where
  swap left right := by
    rw [compareDecomposed_le_iff, compareDecomposed]
    split_ifs with hlt heq
    · exact iff_of_false (by simp) (not_le.2 hlt)
    · exact iff_of_true le_rfl (not_lt.1 hlt)
    · exact iff_of_true (by simp) (not_lt.1 hlt)
  trans left middle right hleft hright := by
    rw [compareDecomposed_le_iff] at hleft hright ⊢
    exact hleft.trans hright

/-- A manifest with its hash. -/
def shopManifest : Json :=
  .object [("applicationId", .text "shop"),
    ("buildHash", .text (String.ofList (canonicalJson compareDecomposed
      (.object [("applicationId", .text "shop")]))))]

theorem canonicalJson_canonical_iff_shop :
    IsCanonicalAt compareDecomposed shopManifest ∧
      HashesUpToOrder compareDecomposed String.ofList shopManifest := by
  have hplain : IsPlain shopManifest := by
    simp [shopManifest, isPlain_object, IsPlain]
  have hpasses : passesBuildHash compareDecomposed String.ofList shopManifest = true := by
    rw [passesBuildHash_iff rfl]
    rfl
  have hboth := canonicalJson_canonical_iff isCollation_compareDecomposed
    (fun _ _ => String.ofList_injective) hplain
  have hforward : compareDecomposed "applicationId" "buildHash" = -1 := by decide
  have hbackward : compareDecomposed "buildHash" "applicationId" = 1 := by decide
  refine ⟨hboth.1.2 ?_, (hboth.2 hpasses).2 ?_⟩
  · simp [Separated, shopManifest, everywhere_object, Everywhere, KeysSeparated,
      hforward, hbackward]
  · simp [Separated, shopManifest, semanticManifest, everywhere_object, Everywhere,
      KeysSeparated]

/-- An object with a letter composed and taken apart. -/
def accented : Json :=
  .object [("\u00e9", .text "composed"), ("e\u0301", .text "decomposed")]

/-- The canonical text of such an object shows the order its members came in. -/
theorem accented_not_canonical :
    accented.SameUpToOrder (mirror accented) ∧
      canonicalJson compareDecomposed accented
        ≠ canonicalJson compareDecomposed (mirror accented) ∧
      ¬ IsCanonicalAt compareDecomposed accented := by
  have hplain : IsPlain accented := by
    simp [accented, isPlain_object, IsPlain]
  have hreverse : ∀ fields : List (String × Json), fields.reverse.Perm fields := List.reverse_perm
  have hseparated : ¬ Separated compareDecomposed accented := by
    intro h
    rw [Separated, accented, everywhere_object] at h
    have hsame := h.1 "\u00e9" (by simp) "e\u0301" (by simp) rfl rfl rfl
    exact absurd hsame (by simp)
  refine ⟨sameUpToOrder_reorder hreverse hplain, ?_, ?_⟩
  · intro heq
    have hmirror : IsPlain (mirror accented) := isPlain_reorder hreverse hplain
    rw [canonicalJson_eq_iff hplain hmirror] at heq
    exact hseparated (separated_of_mirror isCollation_compareDecomposed hplain heq.symm)
  · rwa [isCanonicalAt_iff isCollation_compareDecomposed hplain]

end Doxa.Manifest
