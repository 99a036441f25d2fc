/-
**Credentials in URIs.**

`redactUriCredentials` (`introspection/src/index.ts`) scans a text for `://`.  What stands before it
is the scheme, what follows up to `/`, `?`, `#` or white space is the authority; in an authority
with a colon before its last `@`, what is between them is replaced.

After an authority the search goes on at its end.  The authority of `http://http://u:p@h` is
`http:`, and it ends in the middle of the second `://`, so that the second URI is not seen: a URI is
passed over if it begins in the authority of one that was seen.  In a chain of such URIs every
second one is passed over.

Main definitions:

* `Doxa.Inspection.uriCredentialsAt` — the credentials of the URI at a place;
* `Doxa.Inspection.withoutCredentials` — a text with the credentials of all its URIs replaced;
* `Doxa.Inspection.uriDepth` — the place of a URI in its chain.

Main results:

* `Doxa.Inspection.redactUriCredentialsFrom_eq` — what the loop replaces;
* `Doxa.Inspection.credentials_redacted_iff` — **the credentials are redacted if those of every
  second URI of a chain need not be**.
-/

import Doxa.InspectionSanitizer
import Doxa.Lib.Splice

set_option relaxedAutoImplicit false
set_option autoImplicit false

namespace Doxa

namespace Inspection

open Splice

/-! ### The credentials of a text -/

/-- The longest run of scheme characters that ends at a place, read backwards. -/
def uriScheme (value : List Char) (protocol : ℕ) : List Char :=
  (value.take protocol).reverse.takeWhile isUriSchemeCharacter

/-- What follows the `://` at a place, up to a boundary. -/
def uriAuthority (value : List Char) (protocol : ℕ) : List Char :=
  (value.drop (protocol + 3)).takeWhile fun c => !isUriAuthorityBoundary c

/-- The first place after the authority. -/
def uriAuthorityEnd (value : List Char) (protocol : ℕ) : ℕ :=
  protocol + 3 + (uriAuthority value protocol).length

/-- `://` is at a place. -/
def isProtocolAt (value : List Char) (place : ℕ) : Bool :=
  "://".toList.isPrefixOf (value.drop place)

/-- `://` is at a place, after a scheme that begins with a letter. -/
def isUriAt (value : List Char) (protocol : ℕ) : Bool :=
  isProtocolAt value protocol && (uriScheme value protocol).getLast?.any Char.isAlpha

/-- What is between the first colon of an authority and its last `@`. -/
def uriCredentialsAt (value : List Char) (protocol : ℕ) : Option Field :=
  let authority := uriAuthority value protocol
  let separator := authority.findIdx fun c => c == ':'
  let behind := authority.reverse.findIdx fun c => c == '@'
  if isUriAt value protocol && separator + behind + 1 < authority.length then
    some
      { first := protocol + 3 + separator + 1
        last := protocol + 3 + (authority.length - 1 - behind)
        stop := uriAuthorityEnd value protocol }
  else none

/-- The credentials at the places from `start` on, in order. -/
def credentialsFrom (value : List Char) (start count : ℕ) : List (ℕ × Field) :=
  (List.range' start count).filterMap fun protocol =>
    (uriCredentialsAt value protocol).map fun field => (protocol, field)

/-- A text with the credentials of all its URIs replaced. -/
def withoutCredentials (value : List Char) : List Char :=
  splice value "[REDACTED]".toList 0
    ((credentialsFrom value 0 value.length).map fun entry => entry.2.range)

/-- The URI at `protocol` begins in the authority of the one at `outer`. -/
def isNested (value : List Char) (outer protocol : ℕ) : Bool :=
  isUriAt value outer && isUriAt value protocol && uriAuthorityEnd value outer == protocol + 1

/-- How many URIs a URI is nested in. -/
def uriDepth (value : List Char) (protocol : ℕ) : ℕ :=
  match h : (List.range protocol).find? fun outer => isNested value outer protocol with
  | none => 0
  | some outer => uriDepth value outer + 1
termination_by protocol
decreasing_by exact List.mem_range.1 (List.mem_of_find?_eq_some h)

/-! ### Places -/

variable {i start : ℕ}

variable {value : List Char} {protocol : ℕ}

theorem isProtocolAt_iff : isProtocolAt value protocol = true ↔
    value[protocol]? = some ':' ∧ value[protocol + 1]? = some '/' ∧
      value[protocol + 2]? = some '/' := by
  rw [isProtocolAt, List.isPrefixOf_iff_prefix]
  have hget : ∀ i, value[protocol + i]? = (value.drop protocol)[i]? := fun i => by
    rw [List.getElem?_drop]
  rw [show value[protocol]? = (value.drop protocol)[0]? from hget 0, hget 1, hget 2]
  generalize value.drop protocol = rest
  constructor
  · rintro ⟨tail, rfl⟩
    exact ⟨rfl, rfl, rfl⟩
  · intro h
    match rest, h with
    | a :: b :: c :: tail, ⟨ha, hb, hc⟩ =>
      refine ⟨tail, ?_⟩
      cases ha
      cases hb
      cases hc
      rfl

theorem exists_append_uriAuthority :
    ∃ rest, value.drop (protocol + 3) = uriAuthority value protocol ++ rest ∧
      ∀ c ∈ rest.head?, isUriAuthorityBoundary c = true := by
  refine ⟨(value.drop (protocol + 3)).dropWhile fun c => !isUriAuthorityBoundary c,
    List.takeWhile_append_dropWhile.symm, ?_⟩
  intro c hc
  have hnot := List.head?_dropWhile_not (fun c => !isUriAuthorityBoundary c)
    (value.drop (protocol + 3))
  rw [Option.mem_def.1 hc] at hnot
  simpa using hnot

theorem getElem?_uriAuthority (hi : i < (uriAuthority value protocol).length) :
    value[protocol + 3 + i]? = (uriAuthority value protocol)[i]? := by
  obtain ⟨rest, hrest, -⟩ := @exists_append_uriAuthority value protocol
  rw [← List.getElem?_drop, hrest, List.getElem?_append_left hi]

theorem boundary_uriAuthorityEnd :
    ∀ c ∈ value[uriAuthorityEnd value protocol]?, isUriAuthorityBoundary c = true := by
  obtain ⟨rest, hrest, hboundary⟩ := @exists_append_uriAuthority value protocol
  rw [uriAuthorityEnd, ← List.getElem?_drop, hrest, List.getElem?_append_right le_rfl,
    Nat.sub_self, ← List.head?_eq_getElem?]
  exact hboundary

theorem not_boundary_of_mem_uriAuthority {c : Char} (h : c ∈ uriAuthority value protocol) :
    isUriAuthorityBoundary c = false := by
  have hc := List.mem_takeWhile_imp h
  simpa using hc

/-- Before the end of an authority there is no boundary. -/
theorem not_boundary_of_lt (hlow : protocol + 3 ≤ i) (hi : i < uriAuthorityEnd value protocol) :
    ∀ c ∈ value[i]?, isUriAuthorityBoundary c = false := by
  intro c hc
  rw [uriAuthorityEnd] at hi
  obtain ⟨j, rfl⟩ := Nat.exists_eq_add_of_le hlow
  rw [getElem?_uriAuthority (by omega)] at hc
  exact not_boundary_of_mem_uriAuthority (List.mem_of_getElem? hc)

theorem le_uriAuthorityEnd : protocol + 3 ≤ uriAuthorityEnd value protocol := Nat.le_add_right _ _

theorem add_three_le_length (h : isProtocolAt value protocol = true) :
    protocol + 3 ≤ value.length := by
  have hget := (isProtocolAt_iff.1 h).2.2
  have hlt := (List.getElem?_eq_some_iff.1 hget).1
  omega

theorem uriAuthorityEnd_le (h : isProtocolAt value protocol = true) :
    uriAuthorityEnd value protocol ≤ value.length := by
  have hle := add_three_le_length h
  have hprefix := (List.takeWhile_prefix (l := value.drop (protocol + 3))
    fun c => !isUriAuthorityBoundary c).length_le
  rw [List.length_drop] at hprefix
  rw [uriAuthorityEnd, uriAuthority]
  omega

/-- **Another `://` begins before an authority ends only with its last character.** -/
theorem add_one_eq_of_isProtocolAt {other : ℕ} (h : isProtocolAt value protocol = true)
    (hother : isProtocolAt value other = true) (hlt : protocol < other)
    (hend : other < uriAuthorityEnd value protocol) :
    uriAuthorityEnd value protocol = other + 1 := by
  obtain ⟨-, hone, htwo⟩ := isProtocolAt_iff.1 h
  obtain ⟨hcolon, hslash, -⟩ := isProtocolAt_iff.1 hother
  have hne : ∀ i, value[i]? = some '/' → i ≠ other := by
    rintro i hi rfl
    rw [hi] at hcolon
    simp at hcolon
  have hge : protocol + 3 ≤ other := by
    have h1 := hne _ hone
    have h2 := hne _ htwo
    omega
  by_contra hne'
  have hlast : other + 1 < uriAuthorityEnd value protocol := by omega
  have hboundary := not_boundary_of_lt (by omega) hlast _ hslash
  revert hboundary
  decide

/-- A `://` does not begin within another. -/
theorem not_isProtocolAt_of_lt {other : ℕ} (h : isProtocolAt value protocol = true)
    (hlt : protocol < other) (hend : other < protocol + 3) : isProtocolAt value other = false := by
  obtain ⟨-, hone, htwo⟩ := isProtocolAt_iff.1 h
  rw [← Bool.not_eq_true, isProtocolAt_iff]
  rintro ⟨hcolon, -⟩
  rcases (show other = protocol + 1 ∨ other = protocol + 2 by omega) with rfl | rfl
  · rw [hone] at hcolon
    simp at hcolon
  · rw [htwo] at hcolon
    simp at hcolon

/-! ### One URI -/

theorem indexOf_eq_some_iff {text : List Char} :
    indexOf value text start = some i ↔ i < value.length ∧ start ≤ i ∧
      text.isPrefixOf (value.drop i) = true ∧
        ∀ j, start ≤ j → j < i → text.isPrefixOf (value.drop j) = false := by
  rw [indexOf, List.find?_range_eq_some]
  simp only [Bool.and_eq_true, decide_eq_true_eq, List.mem_range, Bool.not_eq_true',
    Bool.and_eq_false_iff, decide_eq_false_iff_not]
  constructor
  · rintro ⟨⟨hstart, hprefix⟩, hlt, hfirst⟩
    exact ⟨hlt, hstart, hprefix, fun j hj hji => (hfirst j hji).resolve_left (by omega)⟩
  · rintro ⟨hlt, hstart, hprefix, hfirst⟩
    refine ⟨⟨hstart, hprefix⟩, hlt, fun j hji => ?_⟩
    by_cases hj : start ≤ j
    · exact .inr (hfirst j hj hji)
    · exact .inl hj

theorem indexOf_eq_none_iff {text : List Char} :
    indexOf value text start = none ↔
      ∀ i, start ≤ i → i < value.length → text.isPrefixOf (value.drop i) = false := by
  rw [indexOf, List.find?_range_eq_none]
  simp only [Bool.not_eq_true', Bool.and_eq_false_iff, decide_eq_false_iff_not]
  constructor
  · intro h i hstart hlt
    exact (h i hlt).resolve_left (by omega)
  · intro h i hlt
    by_cases hi : start ≤ i
    · exact .inr (h i hi hlt)
    · exact .inl hi

theorem isPrefixOf_singleton_drop {c : Char} :
    [c].isPrefixOf (value.drop i) = true ↔ value[i]? = some c := by
  rw [← List.head?_drop]
  cases value.drop i with
  | nil => simp
  | cons d rest =>
    rw [List.isPrefixOf_iff_prefix, List.cons_prefix_cons, List.head?_cons, Option.some.injEq]
    simp [eq_comm]

theorem find?_reverse_range_eq_some {p : ℕ → Bool} {n : ℕ} :
    (List.range n).reverse.find? p = some i ↔
      p i = true ∧ i < n ∧ ∀ j, i < j → j < n → p j = false := by
  induction n with
  | zero => simp
  | succ n ih =>
    rw [List.range_succ, List.reverse_append, List.reverse_singleton, List.singleton_append]
    by_cases hn : p n = true
    · rw [List.find?_cons_of_pos hn, Option.some.injEq]
      constructor
      · rintro rfl
        exact ⟨hn, by omega, fun j hj hlt => by omega⟩
      · rintro ⟨-, hlt, hlast⟩
        by_contra hne
        have hfalse := hlast n (by omega) (by omega)
        simp [hn] at hfalse
    · rw [List.find?_cons_of_neg hn, ih]
      constructor
      · rintro ⟨hi, hlt, hlast⟩
        refine ⟨hi, by omega, fun j hj hjn => ?_⟩
        by_cases heq : j = n
        · rw [heq]
          simpa using hn
        · exact hlast j hj (by omega)
      · rintro ⟨hi, hlt, hlast⟩
        have hne : i ≠ n := by
          rintro rfl
          exact hn hi
        exact ⟨hi, by omega, fun j hj hjn => hlast j hj (by omega)⟩

theorem lastIndexOf_eq_some_iff {c : Char} {last : ℕ} :
    lastIndexOf value c last = some i ↔ value[i]? = some c ∧ i ≤ last ∧
      ∀ j, i < j → j ≤ last → value[j]? ≠ some c := by
  rw [lastIndexOf, find?_reverse_range_eq_some]
  simp only [decide_eq_true_eq, decide_eq_false_iff_not, Nat.lt_succ_iff, ne_eq]

/-- The first colon of an authority, and what is found when there is none. -/
theorem indexOf_colon :
    (∀ i, (uriAuthority value protocol).findIdx (fun c => c == ':') = i →
        i < (uriAuthority value protocol).length →
          indexOf value [':'] (protocol + 3) = some (protocol + 3 + i)) ∧
      ((uriAuthority value protocol).findIdx (fun c => c == ':') =
          (uriAuthority value protocol).length →
        ∀ i ∈ indexOf value [':'] (protocol + 3), uriAuthorityEnd value protocol ≤ i) := by
  have hnot : ∀ j, j < (uriAuthority value protocol).findIdx (fun c => c == ':') →
      [':'].isPrefixOf (value.drop (protocol + 3 + j)) = false := by
    intro j hj
    have hlt := hj.trans_le (List.findIdx_le_length)
    have hne := List.not_of_lt_findIdx hj
    rw [← Bool.not_eq_true, isPrefixOf_singleton_drop, getElem?_uriAuthority hlt,
      List.getElem?_eq_getElem hlt, Option.some.injEq]
    simpa using hne
  constructor
  · rintro i rfl hlt
    refine indexOf_eq_some_iff.2 ⟨?_, Nat.le_add_right _ _, ?_, ?_⟩
    · have hsome := getElem?_uriAuthority hlt
      rw [List.getElem?_eq_getElem hlt] at hsome
      exact (List.getElem?_eq_some_iff.1 hsome).1
    · rw [isPrefixOf_singleton_drop, getElem?_uriAuthority hlt, List.getElem?_eq_getElem hlt]
      have hcolon := List.findIdx_getElem (w := hlt)
      simpa using hcolon
    · intro j hj hji
      obtain ⟨k, rfl⟩ := Nat.exists_eq_add_of_le hj
      exact hnot k (by omega)
  · intro hnone i hi
    obtain ⟨-, hstart, hprefix, -⟩ := indexOf_eq_some_iff.1 hi
    obtain ⟨k, rfl⟩ := Nat.exists_eq_add_of_le hstart
    rw [uriAuthorityEnd]
    by_contra hlt
    rw [hnot k (by omega)] at hprefix
    cases hprefix

/-- The last `@` of an authority, and what is found when there is none. -/
theorem lastIndexOf_at :
    (∀ i, (uriAuthority value protocol).reverse.findIdx (fun c => c == '@') = i →
        i < (uriAuthority value protocol).length →
          lastIndexOf value '@' (uriAuthorityEnd value protocol - 1) =
            some (protocol + 3 + ((uriAuthority value protocol).length - 1 - i))) ∧
      ((uriAuthority value protocol).reverse.findIdx (fun c => c == '@') =
          (uriAuthority value protocol).length →
        ∀ i ∈ lastIndexOf value '@' (uriAuthorityEnd value protocol - 1), i < protocol + 3) := by
  have hnot : ∀ j, j < (uriAuthority value protocol).length →
      (uriAuthority value protocol).length - 1 - j <
          (uriAuthority value protocol).reverse.findIdx (fun c => c == '@') →
        value[protocol + 3 + j]? ≠ some '@' := by
    intro j hlt hj
    have hne := List.not_of_lt_findIdx hj
    rw [getElem?_uriAuthority hlt, List.getElem?_eq_getElem hlt, Ne, Option.some.injEq]
    rw [List.getElem_reverse] at hne
    simpa [show (uriAuthority value protocol).length - 1 -
      ((uriAuthority value protocol).length - 1 - j) = j by omega] using hne
  constructor
  · rintro i rfl hlt
    rw [lastIndexOf_eq_some_iff]
    have hplace : (uriAuthority value protocol).length - 1 -
        (uriAuthority value protocol).reverse.findIdx (fun c => c == '@') <
          (uriAuthority value protocol).length := by omega
    refine ⟨?_, ?_, ?_⟩
    · rw [getElem?_uriAuthority hplace, List.getElem?_eq_getElem hplace]
      have hlt' : (uriAuthority value protocol).reverse.findIdx (fun c => c == '@') <
          (uriAuthority value protocol).reverse.length := by rwa [List.length_reverse]
      have hat := List.findIdx_getElem (w := hlt')
      rw [List.getElem_reverse] at hat
      simpa using hat
    · rw [uriAuthorityEnd]
      omega
    · intro j hj hle
      rw [uriAuthorityEnd] at hle
      obtain ⟨k, rfl⟩ := Nat.exists_eq_add_of_le (show protocol + 3 ≤ j by omega)
      exact hnot k (by omega) (by omega)
  · intro hnone i hi
    obtain ⟨hat, hle, -⟩ := lastIndexOf_eq_some_iff.1 hi
    by_contra hge
    obtain ⟨k, rfl⟩ := Nat.exists_eq_add_of_le (not_lt.1 hge)
    rw [uriAuthorityEnd] at hle
    exact hnot k (by omega) (by omega) hat

/-- The first character of a scheme. -/
theorem getLast?_uriScheme (h : protocol ≤ value.length)
    (hne : (uriScheme value protocol).length ≠ 0) :
    value[protocol - (uriScheme value protocol).length]? = (uriScheme value protocol).getLast? := by
  obtain ⟨rest, hrest⟩ := List.takeWhile_prefix (l := (value.take protocol).reverse)
    isUriSchemeCharacter
  have hlength : (value.take protocol).reverse.length = protocol := by
    rw [List.length_reverse, List.length_take]
    omega
  have hle : (uriScheme value protocol).length ≤ protocol := by
    have hsum := congrArg List.length hrest
    rw [hlength, List.length_append] at hsum
    exact le_of_add_le_left hsum.le
  have hreverse : ∀ i, i < protocol →
      (value.take protocol).reverse[i]? = value[protocol - 1 - i]? := by
    intro i hi
    have htake : (value.take protocol).length = protocol := by rwa [List.length_reverse] at hlength
    rw [List.getElem?_reverse (by omega), htake, List.getElem?_take_of_lt (by omega)]
  rw [List.getLast?_eq_getElem?]
  have hscheme : (uriScheme value protocol)[(uriScheme value protocol).length - 1]? =
      (value.take protocol).reverse[(uriScheme value protocol).length - 1]? := by
    conv_rhs => rw [← hrest]
    exact (List.getElem?_append_left (by omega)).symm
  rw [hscheme, hreverse _ (by omega)]
  congr 1
  omega

/-- What the scanner finds in an authority is what is between its first colon and its last `@`. -/
theorem credentials_of_authority (huri : isUriAt value protocol = true) :
    (match lastIndexOf value '@' (uriAuthorityEnd value protocol - 1),
        indexOf value [':'] (protocol + 3) with
      | some at', some separator =>
        if at' < protocol + 3 ∨ at' ≤ separator then (none, uriAuthorityEnd value protocol)
        else (some (separator + 1, at'), uriAuthorityEnd value protocol)
      | _, _ => (none, uriAuthorityEnd value protocol)) =
      ((uriCredentialsAt value protocol).map Field.range, uriAuthorityEnd value protocol) := by
  obtain ⟨hcolon, hnocolon⟩ := @indexOf_colon value protocol
  obtain ⟨hat, hnoat⟩ := @lastIndexOf_at value protocol
  have hseparator : (uriAuthority value protocol).findIdx (fun c => c == ':') ≤
      (uriAuthority value protocol).length := List.findIdx_le_length
  have hbehind : (uriAuthority value protocol).reverse.findIdx (fun c => c == '@') ≤
      (uriAuthority value protocol).length := by
    have hle := @List.findIdx_le_length Char (fun c => c == '@')
      (uriAuthority value protocol).reverse
    rwa [List.length_reverse] at hle
  rw [uriCredentialsAt, huri, Bool.true_and]
  generalize (uriAuthority value protocol).findIdx (fun c => c == ':') = separator at *
  generalize (uriAuthority value protocol).reverse.findIdx (fun c => c == '@') = behind at *
  rw [uriAuthorityEnd] at *
  generalize (uriAuthority value protocol).length = count at *
  rcases hbehind.lt_or_eq with hlt | heq
  · rw [hat _ rfl hlt]
    rcases hseparator.lt_or_eq with hlt' | heq'
    · rw [hcolon _ rfl hlt']
      dsimp only
      by_cases hboth : separator + behind + 1 < count
      · rw [if_neg (by omega), if_pos (by simpa using hboth)]
        rfl
      · rw [if_pos (by omega), if_neg (by simpa using hboth)]
        rfl
    · rw [if_neg (by simp; omega)]
      cases hfound : indexOf value [':'] (protocol + 3) with
      | none => rfl
      | some place =>
        have hge := hnocolon heq' place hfound
        dsimp only
        rw [if_pos (by omega)]
        rfl
  · rw [if_neg (by simp; omega)]
    cases hlast : lastIndexOf value '@' (protocol + 3 + count - 1) with
    | none => rfl
    | some place =>
      have hbefore := hnoat heq place hlast
      cases indexOf value [':'] (protocol + 3) with
      | none => rfl
      | some place' =>
        dsimp only
        rw [if_pos (by omega)]
        rfl

/-- **What the scanner does at one `://`.** -/
theorem uriCredentials_eq (h : isProtocolAt value protocol = true) :
    uriCredentials value protocol =
      if isUriAt value protocol then
        ((uriCredentialsAt value protocol).map Field.range, uriAuthorityEnd value protocol)
      else (none, protocol + 3) := by
  have hle : protocol ≤ value.length := by
    have hthree := add_three_le_length h
    omega
  by_cases huri : isUriAt value protocol = true
  · have hletter : (uriScheme value protocol).getLast?.any Char.isAlpha = true := by
      rw [isUriAt, h, Bool.true_and] at huri
      exact huri
    have hne : (uriScheme value protocol).length ≠ 0 := by
      intro hzero
      rw [List.length_eq_zero_iff.1 hzero] at hletter
      cases hletter
    have hscheme : ¬((uriScheme value protocol).length = 0 ∨
        !(value[protocol - (uriScheme value protocol).length]?.any Char.isAlpha)) := by
      rw [getLast?_uriScheme hle hne, hletter]
      simpa using hne
    rw [if_pos huri, uriCredentials]
    dsimp only
    rw [← uriScheme, if_neg hscheme, ← uriAuthority, ← uriAuthorityEnd]
    exact credentials_of_authority huri
  · rw [if_neg huri, uriCredentials]
    dsimp only
    rw [← uriScheme, if_pos]
    by_cases hzero : (uriScheme value protocol).length = 0
    · exact .inl hzero
    · right
      rw [getLast?_uriScheme hle hzero]
      rw [isUriAt, h, Bool.true_and] at huri
      simpa using huri

/-! ### Chains of URIs -/

theorem isProtocolAt_of_isUriAt (h : isUriAt value protocol = true) :
    isProtocolAt value protocol = true := (Bool.and_eq_true_iff.1 h).1

theorem isNested_iff {outer : ℕ} : isNested value outer protocol = true ↔
    isUriAt value outer = true ∧ isUriAt value protocol = true ∧
      uriAuthorityEnd value outer = protocol + 1 := by
  rw [isNested, Bool.and_eq_true, Bool.and_eq_true, beq_iff_eq, and_assoc]

/-- A URI begins in the authority of one other URI at most. -/
theorem isNested_unique {outer outer' : ℕ} (h : isNested value outer protocol = true)
    (h' : isNested value outer' protocol = true) : outer = outer' := by
  obtain ⟨huri, -, hend⟩ := isNested_iff.1 h
  obtain ⟨huri', -, hend'⟩ := isNested_iff.1 h'
  have hle := @le_uriAuthorityEnd value outer
  have hle' := @le_uriAuthorityEnd value outer'
  rcases lt_trichotomy outer outer' with hlt | heq | hlt
  · have hone := add_one_eq_of_isProtocolAt (isProtocolAt_of_isUriAt huri)
      (isProtocolAt_of_isUriAt huri') hlt (by omega)
    omega
  · exact heq
  · have hone := add_one_eq_of_isProtocolAt (isProtocolAt_of_isUriAt huri')
      (isProtocolAt_of_isUriAt huri) hlt (by omega)
    omega

theorem uriDepth_of_isNested {outer : ℕ} (h : isNested value outer protocol = true) :
    uriDepth value protocol = uriDepth value outer + 1 := by
  have hend := (isNested_iff.1 h).2.2
  have hle := @le_uriAuthorityEnd value outer
  have hmem : outer ∈ List.range protocol := List.mem_range.2 (by omega)
  have hfind : ((List.range protocol).find? fun outer => isNested value outer protocol).isSome :=
    List.find?_isSome.2 ⟨outer, hmem, h⟩
  obtain ⟨outer', houter'⟩ := Option.isSome_iff_exists.1 hfind
  have hnested := List.find?_some houter'
  rw [uriDepth]
  split
  next hnone => rw [hnone] at houter'; cases houter'
  next found hfound =>
      rw [hfound] at houter'
      cases houter'
      rw [isNested_unique hnested h]

theorem uriDepth_eq_zero (h : ∀ outer, isNested value outer protocol = false) :
    uriDepth value protocol = 0 := by
  rw [uriDepth]
  split
  · rfl
  next outer hfound =>
      have hnested := List.find?_some hfound
      rw [h outer] at hnested
      cases hnested

theorem uriCredentialsAt_eq_some {field : Field}
    (h : uriCredentialsAt value protocol = some field) :
    isUriAt value protocol = true ∧ field.In value isUriAuthorityBoundary ∧
      protocol + 4 ≤ field.first ∧ field.stop = uriAuthorityEnd value protocol := by
  rw [uriCredentialsAt] at h
  split_ifs at h with hcondition
  obtain ⟨huri, hlt⟩ := Bool.and_eq_true_iff.1 hcondition
  have hlt' := of_decide_eq_true hlt
  cases h
  have hend := uriAuthorityEnd_le (isProtocolAt_of_isUriAt huri)
  refine ⟨huri, ⟨?_, ?_, hend, ?_, boundary_uriAuthorityEnd⟩, ?_, rfl⟩
  · simp only
    omega
  · simp only [uriAuthorityEnd]
    omega
  · intro c hc
    obtain ⟨i, hlow, hhigh, hget⟩ := exists_of_mem_slice hc
    simp only at hlow hhigh
    exact not_boundary_of_lt (by omega) hhigh c hget
  · simp only
    omega

/-! ### The loop -/

/-- The ranges that are replaced from `start` on. -/
def seenFrom (value : List Char) (start count : ℕ) : List (ℕ × ℕ) :=
  ((credentialsFrom value start count).filter fun entry =>
    decide (Even (uriDepth value entry.1))).map fun entry => entry.2.range

theorem seenFrom_add (start count count' : ℕ) :
    seenFrom value start (count + count') =
      seenFrom value start count ++ seenFrom value (start + count) count' := by
  rw [seenFrom, credentialsFrom, ← List.range'_append_1, List.filterMap_append,
    List.filter_append, List.map_append]
  rfl

theorem seenFrom_eq_nil {count : ℕ}
    (h : ∀ place, start ≤ place → place < start + count → isUriAt value place = true →
      ¬Even (uriDepth value place)) : seenFrom value start count = [] := by
  rw [seenFrom, List.map_eq_nil_iff, List.filter_eq_nil_iff]
  intro entry hentry
  obtain ⟨place, hplace, hfield⟩ := List.mem_filterMap.1 hentry
  obtain ⟨field, hcredentials, rfl⟩ := Option.map_eq_some_iff.1 hfield
  obtain ⟨hstart, hlt⟩ := List.mem_range'_1.1 hplace
  have hodd := h place hstart hlt (uriCredentialsAt_eq_some hcredentials).1
  simpa using hodd

theorem seenFrom_one (h : Even (uriDepth value protocol)) : seenFrom value protocol 1 =
    ((uriCredentialsAt value protocol).map Field.range).toList := by
  rw [seenFrom, credentialsFrom, List.range'_one]
  cases hfield : uriCredentialsAt value protocol with
  | none => simp [hfield]
  | some field => simp [hfield, h]

/-- The URIs that were seen before a place do not reach beyond it. -/
def Resumes (value : List Char) (start : ℕ) : Prop :=
  ∀ outer, outer < start → isUriAt value outer = true → Even (uriDepth value outer) →
    uriAuthorityEnd value outer ≤ start

/-- **A URI that is found is one that is not passed over.** -/
theorem Resumes.even (h : Resumes value start) (hstart : start ≤ protocol)
    (hfirst : ∀ place, start ≤ place → place < protocol → isProtocolAt value place = false) :
    Even (uriDepth value protocol) := by
  by_cases hnested : ∃ outer, isNested value outer protocol = true
  · obtain ⟨outer, hnested⟩ := hnested
    obtain ⟨houter, -, hend⟩ := isNested_iff.1 hnested
    have hle := @le_uriAuthorityEnd value outer
    have hbefore : outer < start := by
      by_contra hge
      have hnot := hfirst outer (by omega) (by omega)
      rw [isProtocolAt_of_isUriAt houter] at hnot
      cases hnot
    rw [uriDepth_of_isNested hnested, Nat.even_add_one]
    intro heven
    have hreach := h outer hbefore houter heven
    omega
  · rw [uriDepth_eq_zero]
    · exact Even.zero
    · intro outer
      rw [← Bool.not_eq_true]
      exact fun houter => hnested ⟨outer, houter⟩

/-- What begins in the authority of a URI that was seen is passed over. -/
theorem not_even_of_lt {place : ℕ} (huri : isUriAt value protocol = true)
    (heven : Even (uriDepth value protocol)) (hlt : protocol < place)
    (hend : place < uriAuthorityEnd value protocol) (hplace : isUriAt value place = true) :
    ¬Even (uriDepth value place) := by
  have hone := add_one_eq_of_isProtocolAt (isProtocolAt_of_isUriAt huri)
    (isProtocolAt_of_isUriAt hplace) hlt hend
  rw [uriDepth_of_isNested (isNested_iff.2 ⟨huri, hplace, hone⟩), Nat.even_add_one, not_not]
  exact heven

/-- After a URI the search goes on at the end of its authority. -/
theorem Resumes.uriAuthorityEnd (h : Resumes value start) (huri : isUriAt value protocol = true)
    (hstart : start ≤ protocol)
    (hfirst : ∀ place, start ≤ place → place < protocol → isProtocolAt value place = false) :
    Resumes value (uriAuthorityEnd value protocol) := by
  have hle := @le_uriAuthorityEnd value protocol
  intro outer houter houterUri heven
  rcases lt_trichotomy outer protocol with hlt | rfl | hlt
  · by_cases hbefore : outer < start
    · have hreach := h outer hbefore houterUri heven
      omega
    · have hnot := hfirst outer (by omega) hlt
      rw [isProtocolAt_of_isUriAt houterUri] at hnot
      cases hnot
  · exact le_rfl
  · exact absurd heven
      (not_even_of_lt huri (h.even hstart hfirst) hlt houter houterUri)

/-- After a `://` without a scheme the search goes on behind it. -/
theorem Resumes.add_three (h : Resumes value start) (hprotocol : isProtocolAt value protocol = true)
    (huri : ¬isUriAt value protocol = true) (hstart : start ≤ protocol)
    (hfirst : ∀ place, start ≤ place → place < protocol → isProtocolAt value place = false) :
    Resumes value (protocol + 3) := by
  intro outer houter houterUri heven
  rcases lt_trichotomy outer protocol with hlt | rfl | hlt
  · by_cases hbefore : outer < start
    · have hreach := h outer hbefore houterUri heven
      omega
    · have hnot := hfirst outer (by omega) hlt
      rw [isProtocolAt_of_isUriAt houterUri] at hnot
      cases hnot
  · exact absurd houterUri huri
  · have hnot := not_isProtocolAt_of_lt hprotocol hlt houter
    rw [isProtocolAt_of_isUriAt houterUri] at hnot
    cases hnot

/-- Up to the next `://` nothing is replaced. -/
theorem seenFrom_eq_nil_of_first
    (hfirst : ∀ place, start ≤ place → place < protocol → isProtocolAt value place = false) :
    seenFrom value start (protocol - start) = [] := by
  refine seenFrom_eq_nil fun place hlow hhigh huri => ?_
  have hnot := hfirst place hlow (by omega)
  rw [isProtocolAt_of_isUriAt huri] at hnot
  cases hnot

/-- The next URI, and what comes after its authority. -/
theorem Resumes.seenFrom_eq (h : Resumes value start) (huri : isUriAt value protocol = true)
    (hstart : start ≤ protocol)
    (hfirst : ∀ place, start ≤ place → place < protocol → isProtocolAt value place = false) :
    seenFrom value start (value.length - start) =
      ((uriCredentialsAt value protocol).map Field.range).toList ++
        seenFrom value (Inspection.uriAuthorityEnd value protocol)
          (value.length - Inspection.uriAuthorityEnd value protocol) := by
  have heven := h.even hstart hfirst
  have hle := @le_uriAuthorityEnd value protocol
  have hend := uriAuthorityEnd_le (isProtocolAt_of_isUriAt huri)
  have hpassed : seenFrom value (protocol + 1)
      (Inspection.uriAuthorityEnd value protocol - (protocol + 1)) = [] := by
    refine seenFrom_eq_nil fun place hlow hhigh hplace => ?_
    exact not_even_of_lt huri heven (by omega) (by omega) hplace
  rw [show value.length - start = (protocol - start) + (1 +
      ((Inspection.uriAuthorityEnd value protocol - (protocol + 1)) +
        (value.length - Inspection.uriAuthorityEnd value protocol))) by omega,
    seenFrom_add, seenFrom_eq_nil_of_first hfirst, List.nil_append, Nat.add_sub_cancel' hstart,
    seenFrom_add, seenFrom_one heven, seenFrom_add, hpassed, List.nil_append,
    Nat.add_sub_cancel' (by omega)]

/-- Nothing is replaced at a `://` without a scheme. -/
theorem seenFrom_eq_of_not_isUriAt (hprotocol : isProtocolAt value protocol = true)
    (huri : ¬isUriAt value protocol = true) (hstart : start ≤ protocol)
    (hfirst : ∀ place, start ≤ place → place < protocol → isProtocolAt value place = false) :
    seenFrom value start (value.length - start) =
      seenFrom value (protocol + 3) (value.length - (protocol + 3)) := by
  have hthree := add_three_le_length hprotocol
  have hpassed : seenFrom value protocol 3 = [] := by
    refine seenFrom_eq_nil fun place hlow hhigh hplace => ?_
    exfalso
    rcases hlow.lt_or_eq with hlt | rfl
    · have hnot := not_isProtocolAt_of_lt hprotocol hlt hhigh
      rw [isProtocolAt_of_isUriAt hplace] at hnot
      cases hnot
    · exact huri hplace
  rw [show value.length - start =
      (protocol - start) + (3 + (value.length - (protocol + 3))) by omega,
    seenFrom_add, seenFrom_eq_nil_of_first hfirst, List.nil_append, Nat.add_sub_cancel' hstart,
    seenFrom_add, hpassed, List.nil_append]

/-- **What the loop replaces**: the credentials of the URIs it has not passed over. -/
theorem redactUriCredentialsFrom_eq {rounds : ℕ} : ∀ {cursor start : ℕ} {redacted : List Char},
    value.length ≤ start + rounds → start ≤ value.length → Resumes value start →
      redactUriCredentialsFrom value rounds cursor start redacted =
        redacted ++ splice value "[REDACTED]".toList cursor
          (seenFrom value start (value.length - start)) := by
  induction rounds with
  | zero =>
    intro cursor start redacted hrounds hstart _
    rw [show value.length - start = 0 by omega]
    rfl
  | succ rounds ih =>
    intro cursor start redacted hrounds hstart hresumes
    rw [redactUriCredentialsFrom]
    cases hfound : indexOf value "://".toList start with
    | none =>
      rw [seenFrom_eq_nil, splice]
      intro place hplace hlt huri
      have hnot := indexOf_eq_none_iff.1 hfound place hplace (by omega)
      have hprotocol := isProtocolAt_of_isUriAt huri
      rw [isProtocolAt, hnot] at hprotocol
      cases hprotocol
    | some protocol =>
      obtain ⟨-, hplace, hfoundHere, hfoundFirst⟩ := indexOf_eq_some_iff.1 hfound
      have hprotocol : isProtocolAt value protocol = true := hfoundHere
      have hfirst : ∀ place, start ≤ place → place < protocol →
          isProtocolAt value place = false := hfoundFirst
      dsimp only
      rw [uriCredentials_eq hprotocol]
      by_cases huri : isUriAt value protocol = true
      · have hle := @le_uriAuthorityEnd value protocol
        have hend := uriAuthorityEnd_le hprotocol
        have hresumes' := hresumes.uriAuthorityEnd huri hplace hfirst
        rw [if_pos huri, hresumes.seenFrom_eq huri hplace hfirst]
        cases uriCredentialsAt value protocol with
        | none => exact ih (by omega) hend hresumes'
        | some field =>
          simp only [Option.map_some, Field.range, Option.toList_some,
            List.singleton_append, splice]
          rw [ih (by omega) hend hresumes']
          simp [slice]
      · rw [if_neg huri, seenFrom_eq_of_not_isUriAt hprotocol huri hplace hfirst]
        exact ih (by omega) (add_three_le_length hprotocol)
          (hresumes.add_three hprotocol huri hplace hfirst)

theorem not_boundary_redacted :
    ∀ c ∈ "[REDACTED]".toList, isUriAuthorityBoundary c = false := by
  simp [isUriAuthorityBoundary, Js.isWhiteSpace]

/-- The credentials of a text follow one another. -/
theorem pairwise_credentialsFrom (start count : ℕ) : (credentialsFrom value start count).Pairwise
    fun entry entry' => entry.2.stop < entry'.2.first := by
  refine List.pairwise_filterMap.2 ((List.pairwise_lt_range' 1).imp ?_)
  intro place place' hlt entry hentry entry' hentry'
  obtain ⟨field, hfield, rfl⟩ := Option.map_eq_some_iff.1 hentry
  obtain ⟨field', hfield', rfl⟩ := Option.map_eq_some_iff.1 hentry'
  obtain ⟨huri, -, -, hstop⟩ := uriCredentialsAt_eq_some hfield
  obtain ⟨huri', -, hfirst, -⟩ := uriCredentialsAt_eq_some hfield'
  simp only
  by_cases hbefore : place' < uriAuthorityEnd value place
  · have hone := add_one_eq_of_isProtocolAt (isProtocolAt_of_isUriAt huri)
      (isProtocolAt_of_isUriAt huri') hlt hbefore
    omega
  · omega

/-- **Credentials are redacted**, and the text is kept otherwise, if those of every second URI of a
chain need not be; more rounds change nothing. -/
theorem credentials_redacted_iff (value : List Char) :
    (∀ rounds, value.length ≤ rounds →
        redactUriCredentialsFrom value rounds 0 0 [] = withoutCredentials value) ↔
      ∀ protocol field, uriCredentialsAt value protocol = some field →
        Even (uriDepth value protocol) ∨
          slice value field.first field.last = "[REDACTED]".toList := by
  have hloop : ∀ rounds, value.length ≤ rounds →
      redactUriCredentialsFrom value rounds 0 0 [] =
        splice value "[REDACTED]".toList 0 (seenFrom value 0 value.length) := by
    intro rounds hrounds
    have hresumes : Resumes value 0 := fun outer houter => absurd houter (by omega)
    exact redactUriCredentialsFrom_eq (by omega) (Nat.zero_le _) hresumes
  have hfields : ∀ entry ∈ credentialsFrom value 0 value.length,
      entry.2.In value isUriAuthorityBoundary := by
    intro entry hentry
    obtain ⟨place, -, hplace⟩ := List.mem_filterMap.1 hentry
    obtain ⟨field, hfield, rfl⟩ := Option.map_eq_some_iff.1 hplace
    exact (uriCredentialsAt_eq_some hfield).2.1
  have hboth := @splice_filter_eq_iff Char value "[REDACTED]".toList isUriAuthorityBoundary
    (ℕ × Field) Prod.snd (fun entry => decide (Even (uriDepth value entry.1)))
    (credentialsFrom value 0 value.length) hfields not_boundary_redacted
    (pairwise_credentialsFrom _ _) 0 (fun _ _ => Nat.zero_le _)
  have hone : (∀ rounds, value.length ≤ rounds →
      redactUriCredentialsFrom value rounds 0 0 [] = withoutCredentials value) ↔
        splice value "[REDACTED]".toList 0 (seenFrom value 0 value.length) =
          withoutCredentials value := by
    constructor
    · intro h
      rw [← hloop _ le_rfl, h _ le_rfl]
    · intro h rounds hrounds
      rw [hloop rounds hrounds, h]
  rw [hone, seenFrom, withoutCredentials, hboth]
  constructor
  · intro h protocol field hfield
    by_cases heven : Even (uriDepth value protocol)
    · exact .inl heven
    · right
      have hlt := add_three_le_length (isProtocolAt_of_isUriAt (uriCredentialsAt_eq_some hfield).1)
      refine h (protocol, field) (List.mem_filterMap.2 ⟨protocol, ?_, ?_⟩) (by simpa using heven)
      · rw [List.mem_range'_1]
        omega
      · rw [hfield]
        rfl
  · intro h entry hentry hodd
    obtain ⟨place, -, hplace⟩ := List.mem_filterMap.1 hentry
    obtain ⟨field, hfield, rfl⟩ := Option.map_eq_some_iff.1 hplace
    exact (h place field hfield).resolve_left (by simpa using hodd)

/-- The second of two URIs that follow each other directly keeps its password. -/
theorem nested_password_shown :
    redactUriCredentials "http://http://u:p@h".toList = "http://http://u:p@h".toList ∧
      withoutCredentials "http://http://u:p@h".toList =
        "http://http://u:[REDACTED]@h".toList ∧
      ¬∀ rounds, "http://http://u:p@h".toList.length ≤ rounds →
        redactUriCredentialsFrom "http://http://u:p@h".toList rounds 0 0 [] =
          withoutCredentials "http://http://u:p@h".toList := by
  have hkept : redactUriCredentials "http://http://u:p@h".toList =
      "http://http://u:p@h".toList := by decide
  have hshown : withoutCredentials "http://http://u:p@h".toList =
      "http://http://u:[REDACTED]@h".toList := by decide
  refine ⟨hkept, hshown, fun h => ?_⟩
  have hsame := h _ le_rfl
  rw [← redactUriCredentials, hkept, hshown] at hsame
  revert hsame
  decide

end Inspection

end Doxa
