/-
**JSON as indented text.**

What `JSON.stringify` prints with an indentation: a line for each item and each property, indented
by its depth, and a space after the colon of a property.  Without the white space between its tokens
the text is the one that is printed without an indentation.

Main definitions:

* `JsonText.indent` — a value as indented text;
* `JsonText.squeeze` — a text without the white space outside its strings.

Main results:

* `JsonText.squeeze_indent` — **squeezed, an indented text is the plain one**;
* `JsonText.indent_injective` — **different values are printed differently**.
-/

import Doxa.Lib.JsonText

set_option relaxedAutoImplicit false
set_option autoImplicit false

namespace JsonText

/-! ### Printing -/

/-- A new line at a depth. -/
def newLine (gap depth : ℕ) : List Char := '\n' :: List.replicate (gap * depth) ' '

mutual

/-- `JSON.stringify` with an indentation, at a depth. -/
def indent (gap depth : ℕ) : Json → List Char
  | .null => ['n', 'u', 'l', 'l']
  | .bool true => ['t', 'r', 'u', 'e']
  | .bool false => ['f', 'a', 'l', 's', 'e']
  | .number value => printNumber value
  | .text value => printString value
  | .array items => '[' :: indentItems gap depth items
  | .object fields => '\x7b' :: indentFields gap depth fields

/-- Items, and the bracket after them. -/
def indentItems (gap depth : ℕ) : List Json → List Char
  | [] => [']']
  | item :: items =>
    newLine gap (depth + 1) ++ indent gap (depth + 1) item ++
      if items.isEmpty then newLine gap depth ++ [']'] else ',' :: indentItems gap depth items

/-- Properties, and the bracket after them. -/
def indentFields (gap depth : ℕ) : List (String × Json) → List Char
  | [] => ['\x7d']
  | (key, value) :: fields =>
    newLine gap (depth + 1) ++ (printString key ++ ':' :: ' ' :: indent gap (depth + 1) value) ++
      if fields.isEmpty then newLine gap depth ++ ['\x7d']
      else ',' :: indentFields gap depth fields

end

/-! ### White space between tokens -/

/-- Where in a text a character is. -/
inductive Place
  | outside
  | inside
  | escaped
deriving DecidableEq

/-- The place after a character of a string. -/
def afterCharacter (c : Char) : Place :=
  if c = '"' then .outside else if c = '\\' then .escaped else .inside

/-- A text without the white space outside its strings. -/
def squeeze : Place → List Char → List Char
  | _, [] => []
  | .outside, c :: rest =>
    if c = '"' then c :: squeeze .inside rest
    else if isSpace c then squeeze .outside rest
    else c :: squeeze .outside rest
  | .inside, c :: rest => c :: squeeze (afterCharacter c) rest
  | .escaped, c :: rest => c :: squeeze .inside rest

/-- A character that is neither a quote nor white space. -/
def IsSolid (c : Char) : Prop := c ≠ '"' ∧ isSpace c = false

instance (c : Char) : Decidable (IsSolid c) := inferInstanceAs (Decidable (_ ∧ _))

theorem squeeze_solid {c : Char} (h : IsSolid c) (rest : List Char) :
    squeeze .outside (c :: rest) = c :: squeeze .outside rest := by
  rw [squeeze, if_neg h.1, if_neg (by simp [h.2])]

theorem squeeze_solids {characters : List Char} (h : ∀ c ∈ characters, IsSolid c)
    (rest : List Char) :
    squeeze .outside (characters ++ rest) = characters ++ squeeze .outside rest := by
  induction characters with
  | nil => rfl
  | cons c characters ih =>
    rw [List.forall_mem_cons] at h
    rw [List.cons_append, squeeze_solid h.1, ih h.2, List.cons_append]

theorem squeeze_newLine (gap depth : ℕ) (rest : List Char) :
    squeeze .outside (newLine gap depth ++ rest) = squeeze .outside rest := by
  have hspaces : ∀ n, squeeze .outside (List.replicate n ' ' ++ rest)
      = squeeze .outside rest := by
    intro n
    induction n with
    | zero => rfl
    | succ n ih =>
      rw [List.replicate_succ, List.cons_append, ← ih]
      rfl
  rw [newLine, List.cons_append, ← hspaces (gap * depth)]
  rfl

theorem isSolid_of_isDigit {c : Char} (h : c.isDigit = true) : IsSolid c := by
  constructor
  · rintro rfl
    exact absurd h (by decide)
  · exact (show Starts c by simp [Starts, h]).isSpace

theorem isSolid_of_mem_printNumber {q : ℚ} {c : Char} (h : c ∈ printNumber q) : IsSolid c := by
  rw [printNumber, List.mem_append, List.mem_append] at h
  rcases h with (hsign | hwhole) | hfraction
  · split_ifs at hsign
    · rw [List.mem_singleton] at hsign
      rw [hsign]
      decide
    · cases hsign
  · exact isSolid_of_isDigit (isDigit_of_mem_toDigits hwhole)
  · rw [printFraction] at hfraction
    split_ifs at hfraction
    · cases hfraction
    · rcases List.mem_cons.1 hfraction with rfl | hdigit
      · decide
      · exact isSolid_of_isDigit (isDigit_of_mem_padded hdigit)

/-- The escape of a character is read as a whole. -/
theorem squeeze_printChar (c : Char) (rest : List Char) :
    squeeze .inside (printChar c ++ rest) = printChar c ++ squeeze .inside rest := by
  rw [printChar]
  split_ifs with hquote hslash hback hfeed hnewline hreturn htab hcontrol
  · rfl
  · rfl
  · rfl
  · rfl
  · rfl
  · rfl
  · rfl
  · have hdigit : ∀ n < 16, afterCharacter (Nat.digitChar n) = .inside := by decide
    have hhigh := hdigit (c.toNat / 16) (by omega)
    have hlow := hdigit (c.toNat % 16) (by omega)
    have hzero : afterCharacter '0' = .inside := rfl
    have hslash : afterCharacter '\\' = .escaped := rfl
    simp [squeeze, hhigh, hlow, hzero, hslash]
  · simp [squeeze, afterCharacter, hquote, hslash]

theorem squeeze_printString (value : String) (rest : List Char) :
    squeeze .outside (printString value ++ rest)
      = printString value ++ squeeze .outside rest := by
  have hinside : ∀ characters : List Char,
      squeeze .inside (characters.flatMap printChar ++ '"' :: rest)
        = characters.flatMap printChar ++ '"' :: squeeze .outside rest := by
    intro characters
    induction characters with
    | nil => rfl
    | cons c characters ih =>
      rw [List.flatMap_cons, List.append_assoc, squeeze_printChar, ih, List.append_assoc]
  have hquote : ∀ text : List Char,
      squeeze .outside ('"' :: text) = '"' :: squeeze .inside text := fun _ => rfl
  simp [printString, hquote, hinside]

mutual

/-- **Squeezed, an indented text is the plain one.** -/
theorem squeeze_indent : ∀ (gap depth : ℕ) (json : Json) (rest : List Char),
    squeeze .outside (indent gap depth json ++ rest)
      = print json ++ squeeze .outside rest
  | gap, depth, .null, rest => by
    rw [indent, print, squeeze_solids (by simp [IsSolid, isSpace])]
  | gap, depth, .bool true, rest => by
    rw [indent, print, squeeze_solids (by simp [IsSolid, isSpace])]
  | gap, depth, .bool false, rest => by
    rw [indent, print, squeeze_solids (by simp [IsSolid, isSpace])]
  | gap, depth, .number value, rest => by
    rw [indent, print, squeeze_solids fun _ => isSolid_of_mem_printNumber]
  | gap, depth, .text value, rest => by
    rw [indent, print, squeeze_printString]
  | gap, depth, .array items, rest => by
    rw [indent, print, List.cons_append, squeeze_solid (by decide),
      squeeze_indentItems gap depth items rest, List.cons_append]
  | gap, depth, .object fields, rest => by
    rw [indent, print, List.cons_append, squeeze_solid (by decide),
      squeeze_indentFields gap depth fields rest, List.cons_append]

theorem squeeze_indentItems : ∀ (gap depth : ℕ) (items : List Json) (rest : List Char),
    squeeze .outside (indentItems gap depth items ++ rest)
      = printItems items ++ squeeze .outside rest
  | gap, depth, [], rest => by
    rw [indentItems, printItems, squeeze_solids (by simp [IsSolid, isSpace])]
  | gap, depth, item :: items, rest => by
    rw [indentItems, printItems, List.append_assoc, List.append_assoc, squeeze_newLine,
      squeeze_indent gap (depth + 1) item, List.append_assoc]
    congr 1
    cases items with
    | nil =>
      simp only [List.isEmpty_nil, if_true, List.append_assoc]
      rw [squeeze_newLine, squeeze_solids (by simp [IsSolid, isSpace])]
    | cons next items =>
      have hnext := squeeze_indentItems gap depth (next :: items) rest
      simp only [List.isEmpty_cons, Bool.false_eq_true, if_false, List.cons_append]
      rw [squeeze_solid (by decide), hnext]

theorem squeeze_indentFields : ∀ (gap depth : ℕ) (fields : List (String × Json))
    (rest : List Char), squeeze .outside (indentFields gap depth fields ++ rest)
      = printFields fields ++ squeeze .outside rest
  | gap, depth, [], rest => by
    rw [indentFields, printFields, squeeze_solids (by simp [IsSolid, isSpace])]
  | gap, depth, (key, value) :: fields, rest => by
    have hspace : ∀ text : List Char,
        squeeze .outside (' ' :: text) = squeeze .outside text := fun _ => rfl
    rw [indentFields, printFields]
    simp only [List.append_assoc, List.cons_append]
    rw [squeeze_newLine, squeeze_printString, squeeze_solid (by decide), hspace,
      squeeze_indent gap (depth + 1) value]
    congr 3
    cases fields with
    | nil =>
      simp only [List.isEmpty_nil, if_true, List.append_assoc]
      rw [squeeze_newLine, squeeze_solids (by simp [IsSolid, isSpace])]
    | cons next fields =>
      have hnext := squeeze_indentFields gap depth (next :: fields) rest
      simp only [List.isEmpty_cons, Bool.false_eq_true, if_false, List.cons_append]
      rw [squeeze_solid (by decide), hnext]

end

/-- **Different values are printed differently**, whatever the indentation. -/
theorem indent_injective {gap depth : ℕ} {json json' : Json} (h : IsPlain json) (h' : IsPlain json')
    (heq : indent gap depth json = indent gap depth json') : json = json' := by
  have hsqueezed := congrArg (squeeze .outside) heq
  have hprint := squeeze_indent gap depth json []
  have hprint' := squeeze_indent gap depth json' []
  rw [List.append_nil, squeeze, List.append_nil] at hprint hprint'
  exact print_injective h h' (hprint.symm.trans (hsqueezed.trans hprint'))

end JsonText
