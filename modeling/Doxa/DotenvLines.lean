/-
**The lines of an `.env` file.**

Two programs read the file line by line.  The runtime (`loadDotenv`, `runtime/src/runtime.ts`) trims
a line and cuts it at its first `=`; Praxis (`dotenvEnvironment` and `dotenvValue`,
`praxis/src/index.ts`) matches it with

    /^\s*(?:export\s+)?([A-Za-z_][A-Za-z0-9_]*)\s*=\s*(.*)\s*$/

where `.` stops at a line terminator.  Both take a value out of its quotes.  The pattern is run as a
backtracking matcher runs it; what it captures is then said without the matcher.

Main definitions:

* `Doxa.dotenvLines` — the lines of a text;
* `Doxa.loadDotenvLine` — what the runtime reads of a line;
* `Doxa.dotenvMatch` — what the pattern of Praxis captures;
* `Doxa.plainText`, `Doxa.exportedText` — what a line assigns to a key, in either of two forms.

Main results:

* `Doxa.loadDotenvLine_eq_some_iff` — the runtime reads the plain form;
* `Doxa.dotenvMatch_eq_some_iff` — **Praxis reads both forms, if no line terminator stands inside
  the value**.
-/

import Doxa.JavaScript
import Doxa.Lib.TextPattern

set_option relaxedAutoImplicit false
set_option autoImplicit false

namespace Doxa

open Js (isWhiteSpace)

/-! ### Characters -/

/-- The characters `.` does not match. -/
def isLineEnd (c : Char) : Bool := Js.isLineTerminator c.toNat

/-- `[A-Za-z_]` -/
def isNameStart (c : Char) : Bool :=
  (65 ≤ c.toNat && c.toNat ≤ 90) || (97 ≤ c.toNat && c.toNat ≤ 122) || c.toNat == 95

/-- `[A-Za-z0-9_]` -/
def isNamePart (c : Char) : Bool := isNameStart c || (48 ≤ c.toNat && c.toNat ≤ 57)

theorem not_isWhiteSpace_of_isNamePart {c : Char} (h : isNamePart c) : isWhiteSpace c = false := by
  simp only [isNamePart, isNameStart, Bool.or_eq_true, Bool.and_eq_true, decide_eq_true_eq,
    beq_iff_eq] at h
  simp only [isWhiteSpace, Bool.or_eq_false_iff, List.contains_eq_mem, List.mem_cons,
    List.not_mem_nil, or_false, decide_eq_false_iff_not, Bool.and_eq_false_iff]
  omega

/-- The name of an environment variable. -/
def IsVariableName (key : List Char) : Prop :=
  (∃ c rest, key = c :: rest ∧ isNameStart c) ∧ ∀ c ∈ key, isNamePart c

/-! ### Lines -/

variable (text rest : List Char)

/-- `split(/\r?\n/)` -/
def dotenvLines : List Char → List (List Char)
  | [] => [[]]
  | '\r' :: '\n' :: rest => [] :: dotenvLines rest
  | '\n' :: rest => [] :: dotenvLines rest
  | c :: rest =>
    match dotenvLines rest with
    | line :: lines => (c :: line) :: lines
    | [] => [[c]]

/-- `trim` -/
def trimmed : List Char := (text.dropWhile isWhiteSpace).rdropWhile isWhiteSpace

/-- `"` and `'` -/
def quotationMarks : List Char := [Char.ofNat 34, Char.ofNat 39]

/-- A value that begins and ends with the same quotation mark loses its first and its last
character. -/
def unquoted (value : List Char) : List Char :=
  if quotationMarks.any fun mark => value.head? == some mark && value.getLast? == some mark then
    (value.drop 1).dropLast
  else value

/-- The loop of `loadDotenv`: the entry that a line makes. -/
def loadDotenvLine (rawLine : List Char) : Option (List Char × List Char) :=
  let line := trimmed rawLine
  if line.length = 0 || line.head? == some '#' then none
  else
    match line.findIdx? fun c => c = '=' with
    | none => none
    | some separator =>
      if separator < 1 then none
      else some (trimmed (line.take separator), unquoted (trimmed (line.drop (separator + 1))))

open TextPattern in
/-- The pattern of Praxis: the key and the value that it captures. -/
def dotenvMatch (line : List Char) : Option (List Char × List Char) :=
  (((many isWhiteSpace).attempts none line).flatMap fun lead =>
    ((optional (sequence (inOrder ("export".toList.map fun c => one fun d => d = c))
        (oneOrMore isWhiteSpace))).attempts none lead.rest).flatMap fun declared =>
      ((sequence (one isNameStart) (many isNamePart)).attempts none declared.rest).flatMap
        fun name =>
          ((sequence (many isWhiteSpace) (one fun c => c = '=')).attempts none name.rest).flatMap
            fun sign =>
              ((many isWhiteSpace).attempts none sign.rest).flatMap fun space =>
                ((many fun c => !isLineEnd c).attempts none space.rest).flatMap fun value =>
                  ((sequence (many isWhiteSpace) finish).attempts none value.rest).map fun _ =>
                    (name.matched, value.matched)).head?

/-! ### What the pattern captures -/

/-- A name at the beginning of a text, and what stands after its `=`. -/
def variablePart : Option (List Char × List Char) :=
  if rest.head?.any isNameStart then
    match (rest.dropWhile isNamePart).dropWhile isWhiteSpace with
    | c :: text => if c = '=' then some (rest.takeWhile isNamePart, text) else none
    | [] => none
  else none

/-- No line terminator stands inside the value. -/
def isReadable : Bool :=
  ((text.dropWhile isWhiteSpace).dropWhile fun c => !isLineEnd c).all isWhiteSpace

/-- What the pattern takes for the value: white space after it belongs to it, up to a line
terminator. -/
def writtenValue : List Char :=
  (text.dropWhile isWhiteSpace).takeWhile fun c => !isLineEnd c

/-- The text after the word `export` and white space. -/
def exportedPart (line : List Char) : Option (List Char) :=
  if "export".toList <+: line ∧ (line.drop 6).head?.any isWhiteSpace then
    some ((line.drop 6).dropWhile isWhiteSpace)
  else none

open TextPattern

/-- A word is matched in one way. -/
theorem attempts_word (word : List Char) (before : Option Char) (text : List Char) :
    (inOrder (word.map fun c => one fun d => d = c)).attempts before text =
      if word <+: text then [⟨word, word, text.drop word.length⟩] else [] := by
  induction word generalizing before text with
  | nil => cases text <;> simp [inOrder, nothing, attempts, spans]
  | cons c word ih =>
    rw [List.map_cons, inOrder, List.foldr_cons, ← inOrder]
    cases text with
    | nil => simp [attempts]
    | cons d text =>
      by_cases hd : d = c
      · subst hd
        simp only [attempts, decide_true, if_true, List.flatMap_cons, List.flatMap_nil,
          List.append_nil, ih, List.cons_prefix_cons, true_and]
        split <;> simp
      · simp [attempts, hd, List.cons_prefix_cons, Ne.symm hd]

/-- A character, and as many of a class as follow it. -/
theorem attempts_one_many (p q : Char → Bool) (before : Option Char) (text : List Char) :
    (sequence (one p) (many q)).attempts before text =
      match text with
      | c :: cs =>
        if p c then (spans q cs).map fun m => ⟨c :: m.matched, c :: m.written, m.rest⟩ else []
      | [] => [] := by
  cases text with
  | nil => rfl
  | cons c cs =>
    by_cases hc : p c <;> simp [attempts, hc]

/-- The values that the end of the pattern can take. -/
def valueMatches : List (List Char) :=
  (spans isWhiteSpace text).flatMap fun space =>
    (spans (fun c => !isLineEnd c) space.rest).flatMap fun value =>
      ((sequence (many isWhiteSpace) finish).attempts none value.rest).map fun _ => value.matched

theorem attempts_blank_finish :
    (sequence (many isWhiteSpace) finish).attempts none rest =
      if rest.all isWhiteSpace then [⟨rest, rest, []⟩] else [] := by
  have hnext : ∀ (m : Match) c cs, m.rest = c :: cs → isWhiteSpace c →
      ((finish.attempts (m.matched.getLast?.or none) m.rest).map fun m' =>
        (⟨m.matched ++ m'.matched, m.written ++ m'.written, m'.rest⟩ : Match)) = [] := by
    intro m c cs hm _
    simp [hm, attempts]
  rw [attempts, attempts, flatMap_spans hnext]
  by_cases hall : rest.all isWhiteSpace
  · have hdrop : rest.dropWhile isWhiteSpace = [] := by simpa using hall
    have htake : rest.takeWhile isWhiteSpace = rest := by
      simpa [hdrop] using List.takeWhile_append_dropWhile (p := isWhiteSpace) (l := rest)
    simp [hdrop, htake, attempts, hall]
  · have hdrop : rest.dropWhile isWhiteSpace ≠ [] := by simpa using hall
    simp [attempts, hall, hdrop]

/-- White space, a value and white space: then nothing else stands inside the value. -/
theorem isReadable_append {space value rest : List Char} (hspace : ∀ c ∈ space, isWhiteSpace c)
    (hvalue : ∀ c ∈ value, !isLineEnd c) (hrest : rest.all isWhiteSpace) :
    isReadable (space ++ (value ++ rest)) := by
  have hrest' : ∀ c ∈ rest, isWhiteSpace c := List.all_eq_true.1 hrest
  rw [isReadable, List.dropWhile_append_of_pos hspace, List.all_eq_true]
  intro c hc
  by_cases hblank : ∀ c ∈ value, isWhiteSpace c
  · have hnil : rest.dropWhile isWhiteSpace = [] := by simpa using hrest'
    simp [List.dropWhile_append_of_pos hblank, hnil] at hc
  · have hne : value.dropWhile isWhiteSpace ≠ [] := by simpa using hblank
    have hdrop : (value ++ rest).dropWhile isWhiteSpace =
        value.dropWhile isWhiteSpace ++ rest := by
      rw [List.dropWhile_append]
      simp [List.isEmpty_eq_false_iff.2 hne]
    have hkept : ∀ c ∈ value.dropWhile isWhiteSpace, !isLineEnd c :=
      fun c hc => hvalue c ((List.dropWhile_suffix _).subset hc)
    rw [hdrop, List.dropWhile_append_of_pos hkept] at hc
    exact hrest' c ((List.dropWhile_suffix _).subset hc)

/-- The preferred value is the written one, if there is a value at all. -/
theorem head?_valueMatches :
    (valueMatches text).head? = if isReadable text then some (writtenValue text) else none := by
  split
  · rename_i hread
    obtain ⟨spaces, hspaces⟩ := exists_spans_eq isWhiteSpace text
    obtain ⟨values, hvalues⟩ :=
      exists_spans_eq (fun c => !isLineEnd c) (text.dropWhile isWhiteSpace)
    rw [valueMatches, hspaces, List.flatMap_cons, hvalues, List.flatMap_cons, attempts_blank_finish]
    have hrest : ((text.dropWhile isWhiteSpace).dropWhile fun c => !isLineEnd c).all isWhiteSpace :=
      hread
    simp only [hrest, if_true]
    rfl
  · rename_i hread
    rw [List.head?_eq_none_iff, valueMatches, List.flatMap_eq_nil_iff]
    intro space hspace
    rw [List.flatMap_eq_nil_iff]
    intro value hvalue
    obtain ⟨hblank, hsplit⟩ := mem_spans hspace
    obtain ⟨hline, hsplit'⟩ := mem_spans hvalue
    have hrest : ¬ value.rest.all isWhiteSpace := by
      intro hrest
      have := isReadable_append hblank hline hrest
      rw [hsplit', hsplit] at this
      exact hread this
    simp [attempts_blank_finish, hrest]

/-- The names and values of a text that begins with a name. -/
def variableMatches : List (List Char × List Char) :=
  ((sequence (one isNameStart) (many isNamePart)).attempts none rest).flatMap fun name =>
    ((sequence (many isWhiteSpace) (one fun c => c = '=')).attempts none name.rest).flatMap
      fun sign => (valueMatches sign.rest).map fun value => (name.matched, value)

theorem equals_not_isWhiteSpace : isWhiteSpace '=' = false := by decide

theorem attempts_blank_equals :
    (sequence (many isWhiteSpace) (one fun c => c = '=')).attempts none rest =
      match rest.dropWhile isWhiteSpace with
      | c :: text =>
        if c = '=' then
          [⟨rest.takeWhile isWhiteSpace ++ ['='], rest.takeWhile isWhiteSpace ++ ['='], text⟩]
        else []
      | [] => [] := by
  have hnext : ∀ (m : Match) c cs, m.rest = c :: cs → isWhiteSpace c →
      (((one fun c => c = '=').attempts (m.matched.getLast?.or none) m.rest).map fun m' =>
        (⟨m.matched ++ m'.matched, m.written ++ m'.written, m'.rest⟩ : Match)) = [] := by
    intro m c cs hm hc
    have hne : c ≠ '=' := by
      rintro rfl
      simp [equals_not_isWhiteSpace] at hc
    simp [hm, attempts, hne]
  rw [attempts, attempts, flatMap_spans hnext]
  cases hdrop : rest.dropWhile isWhiteSpace with
  | nil => simp [attempts]
  | cons c text =>
    by_cases hc : c = '=' <;> simp [attempts, hc]

/-- Only the longest name counts. -/
theorem variableMatches_eq : variableMatches rest = match variablePart rest with
      | some (name, text) => (valueMatches text).map fun value => (name, value)
      | none => [] := by
  have hnext : ∀ (m : Match) c cs, m.rest = c :: cs → isNamePart c →
      (((sequence (many isWhiteSpace) (one fun c => c = '=')).attempts none m.rest).flatMap
        fun sign => (valueMatches sign.rest).map fun value => (m.matched, value)) = [] := by
    intro m c cs hm hc
    have hblank := not_isWhiteSpace_of_isNamePart hc
    have hne : c ≠ '=' := by
      rintro rfl
      exact absurd hc (by decide)
    simp [hm, attempts_blank_equals, hblank, hne]
  rw [variableMatches, attempts_one_many, variablePart]
  cases rest with
  | nil => simp
  | cons c cs =>
    by_cases hc : isNameStart c
    · have hpart : isNamePart c := by simp [isNamePart, hc]
      have hspans := @flatMap_spans _ isNamePart
        (fun m : Match =>
          ((sequence (many isWhiteSpace) (one fun c => c = '=')).attempts none m.rest).flatMap
            fun sign => (valueMatches sign.rest).map fun value => (c :: m.matched, value))
        (fun m d ds hm hd => by
          have := hnext ⟨c :: m.matched, [], m.rest⟩ d ds hm hd
          simpa using this) cs
      simp only [hc, if_true, List.flatMap_map]
      rw [hspans, attempts_blank_equals]
      simp only [List.head?_cons, Option.any_some, hc, if_true, List.dropWhile_cons, hpart,
        List.takeWhile_cons]
      cases (cs.dropWhile isNamePart).dropWhile isWhiteSpace with
      | nil => simp
      | cons d text =>
        by_cases hd : d = '=' <;> simp [hd]
    · simp [hc]

theorem variableMatches_blank {c : Char} (hc : isWhiteSpace c) (rest : List Char) :
    variableMatches (c :: rest) = [] := by
  have hname : isNameStart c = false := by
    by_contra hname
    have := not_isWhiteSpace_of_isNamePart (c := c) (by simp_all [isNamePart])
    simp [this] at hc
  simp [variableMatches_eq, variablePart, hname]

/-- The word `export` is tried first, and then nothing in its place. -/
theorem flatMap_optional_export :
    ((optional (sequence (inOrder ("export".toList.map fun c => one fun d => d = c))
        (oneOrMore isWhiteSpace))).attempts none text).flatMap
        (fun declared => variableMatches declared.rest) =
      (exportedPart text).toList.flatMap variableMatches ++ variableMatches text := by
  have hspans := @flatMap_spans _ isWhiteSpace
    (fun m : Match => variableMatches m.rest)
    (fun m c rest hm hc => by rw [hm, variableMatches_blank hc])
  have hnothing : (many fun _ => false).attempts none text = [⟨[], [], text⟩] := by
    cases text <;> rfl
  rw [TextPattern.optional, attempts, nothing, hnothing, List.flatMap_append, attempts,
    attempts_word, exportedPart]
  by_cases hword : "export".toList <+: text
  · rw [if_pos hword, List.flatMap_cons, List.flatMap_nil, List.append_nil, oneOrMore,
      attempts_one_many]
    have hlength : "export".toList.length = 6 := rfl
    rw [hlength]
    cases hrest : text.drop 6 with
    | nil => simp
    | cons c rest =>
      by_cases hc : isWhiteSpace c
      · rw [if_pos (show _ ∧ (c :: rest).head?.any isWhiteSpace from ⟨hword, hc⟩)]
        simp [hc, List.flatMap_map, hspans]
      · simp [hc]
  · rw [if_neg hword, if_neg fun h => hword h.1]
    simp

/-- **What the pattern captures.** -/
theorem dotenvMatch_eq (line : List Char) :
    dotenvMatch line =
      ((exportedPart (line.dropWhile isWhiteSpace)).toList.flatMap variableMatches ++
        variableMatches (line.dropWhile isWhiteSpace)).head? := by
  have hinner : dotenvMatch line =
      (((many isWhiteSpace).attempts none line).flatMap fun lead =>
        ((optional (sequence (inOrder ("export".toList.map fun c => one fun d => d = c))
          (oneOrMore isWhiteSpace))).attempts none lead.rest).flatMap
            fun declared => variableMatches declared.rest).head? := by
    simp only [dotenvMatch, variableMatches, valueMatches, List.map_flatMap, List.map_map]
    rfl
  have hnext : ∀ (m : Match) c rest, m.rest = c :: rest → isWhiteSpace c →
      ((optional (sequence (inOrder ("export".toList.map fun c => one fun d => d = c))
        (oneOrMore isWhiteSpace))).attempts none m.rest).flatMap
          (fun declared => variableMatches declared.rest) = [] := by
    intro m c rest hm hc
    have hword : ¬ "export".toList <+: c :: rest := by
      intro hword
      obtain ⟨rfl, -⟩ := List.cons_prefix_cons.1 hword
      exact absurd hc (by decide)
    rw [flatMap_optional_export, hm, variableMatches_blank hc, exportedPart,
      if_neg fun h => hword h.1]
    rfl
  rw [hinner, attempts, flatMap_spans hnext, flatMap_optional_export]

/-! ### The two forms of an assignment -/

variable {key line : List Char}

/-- `KEY = text`: what the line assigns to the key. -/
def plainText (key line : List Char) : Option (List Char) :=
  (variablePart (line.dropWhile isWhiteSpace)).bind fun part =>
    if part.1 = key then some part.2 else none

/-- `export KEY = text`: what the line assigns to the key. -/
def exportedText (key line : List Char) : Option (List Char) :=
  ((exportedPart (line.dropWhile isWhiteSpace)).bind variablePart).bind fun part =>
    if part.1 = key then some part.2 else none

/-- A name, white space, a sign and a text. -/
theorem variablePart_eq_some_iff {rest name text : List Char} :
    variablePart rest = some (name, text) ↔
      IsVariableName name ∧
        ∃ blank : List Char, (∀ c ∈ blank, isWhiteSpace c) ∧
          rest = name ++ (blank ++ '=' :: text) := by
  constructor
  · intro h
    rw [variablePart] at h
    split at h
    · rename_i hstart
      split at h
      · rename_i c text' hdrop
        split at h
        · rename_i hc
          subst hc
          cases h
          refine ⟨⟨?_, fun c hc => List.mem_takeWhile_imp hc⟩,
            (rest.dropWhile isNamePart).takeWhile isWhiteSpace,
            fun c hc => List.mem_takeWhile_imp hc, ?_⟩
          · cases rest with
            | nil => simp at hstart
            | cons c rest =>
              have hc : isNameStart c := by simpa using hstart
              exact ⟨c, rest.takeWhile isNamePart, by simp [isNamePart, hc], hc⟩
          · rw [← hdrop, List.takeWhile_append_dropWhile, List.takeWhile_append_dropWhile]
        · cases h
      · cases h
    · cases h
  · rintro ⟨⟨⟨c, rest', hname, hc⟩, hpart⟩, blank, hblank, rfl⟩
    have hhead : ((blank ++ '=' :: text).head?.any isNamePart) = false := by
      cases blank with
      | nil => exact (by decide : isNamePart '=' = false)
      | cons d blank =>
        have hd : isWhiteSpace d := hblank d List.mem_cons_self
        by_contra hname
        rw [not_isWhiteSpace_of_isNamePart (by simpa using hname)] at hd
        cases hd
    have hstop : (blank ++ '=' :: text).takeWhile isNamePart = [] ∧
        (blank ++ '=' :: text).dropWhile isNamePart = blank ++ '=' :: text := by
      cases hrest : blank ++ '=' :: text with
      | nil => simp
      | cons d ds =>
        rw [hrest] at hhead
        have hd : isNamePart d = false := by simpa using hhead
        simp [hd]
    have hfirst : (name ++ (blank ++ '=' :: text)).head?.any isNameStart := by simp [hname, hc]
    rw [variablePart, if_pos hfirst, List.dropWhile_append_of_pos hpart,
      List.takeWhile_append_of_pos hpart, hstop.1, hstop.2, List.append_nil,
      List.dropWhile_append_of_pos hblank, List.dropWhile_cons_of_neg (by decide)]
    simp

theorem plainText_eq_some_iff {text : List Char} :
    plainText key line = some text ↔
      variablePart (line.dropWhile isWhiteSpace) = some (key, text) := by
  simp [plainText, Option.bind_eq_some_iff]

theorem exportedText_eq_some_iff {text : List Char} :
    exportedText key line = some text ↔
      (exportedPart (line.dropWhile isWhiteSpace)).bind variablePart = some (key, text) := by
  simp [exportedText, Option.bind_eq_some_iff]

/-- A line has only one of the two forms. -/
theorem variablePart_of_exportedPart {text rest : List Char}
    (hpart : exportedPart text = some rest) {part : List Char × List Char}
    (hvariable : variablePart rest = some part) : variablePart text = none := by
  obtain ⟨⟨⟨c, name, hname, hc⟩, hall⟩, blank, hblank, hrest⟩ :=
    variablePart_eq_some_iff.1 hvariable
  rw [exportedPart] at hpart
  split at hpart
  · rename_i h
    obtain ⟨⟨tail, htail⟩, hspace⟩ := h
    have hdrop : text.drop 6 = tail := by rw [← htail]; rfl
    rw [hdrop] at hpart hspace
    cases hpart
    cases tail with
    | nil => simp at hspace
    | cons d tail =>
      have hd : isWhiteSpace d := by simpa using hspace
      have hpart' : isNamePart d = false := by
        by_contra hpart'
        rw [not_isWhiteSpace_of_isNamePart (by simpa using hpart')] at hd
        cases hd
      have hword : ∀ c ∈ "export".toList, isNamePart c := by
        simp [isNamePart, isNameStart]
      have hstop : text.dropWhile isNamePart = d :: tail := by
        rw [← htail, List.dropWhile_append_of_pos hword]
        simp [hpart']
      have hne : c ≠ '=' := by
        rintro rfl
        exact absurd hc (by decide)
      rw [variablePart]
      simp [hstop, hrest, hname, hne]
  · cases hpart

/-- **Praxis reads both forms, if no line terminator stands inside the value.** -/
theorem dotenvMatch_eq_some_iff {value : List Char} :
    dotenvMatch line = some (key, value) ↔
      ∃ text, (plainText key line = some text ∨ exportedText key line = some text) ∧
        isReadable text ∧ value = writtenValue text := by
  have hread : ∀ rest, (variableMatches rest).head? = some (key, value) ↔
      ∃ text, variablePart rest = some (key, text) ∧
        isReadable text ∧ value = writtenValue text := by
    intro rest
    rw [variableMatches_eq]
    cases hpart : variablePart rest with
    | none => simp
    | some part =>
      obtain ⟨name, text⟩ := part
      rw [List.head?_map, head?_valueMatches]
      by_cases htext : isReadable text
      · simp only [htext, if_true, Option.map_some, Option.some.injEq, Prod.mk.injEq]
        constructor
        · rintro ⟨rfl, rfl⟩
          exact ⟨text, ⟨rfl, rfl⟩, htext, rfl⟩
        · rintro ⟨text', ⟨rfl, rfl⟩, -, rfl⟩
          exact ⟨rfl, rfl⟩
      · simp only [htext, Option.some.injEq, Prod.mk.injEq]
        constructor
        · intro h
          cases h
        · rintro ⟨text', ⟨rfl, rfl⟩, htext', -⟩
          exact absurd htext' htext
  simp only [plainText_eq_some_iff, exportedText_eq_some_iff]
  rw [dotenvMatch_eq, List.head?_append]
  cases hpart : exportedPart (line.dropWhile isWhiteSpace) with
  | none =>
    rw [Option.toList_none, List.flatMap_nil, List.head?_nil, Option.none_or, hread]
    simp
  | some rest =>
    rw [Option.toList_some, List.flatMap_cons, List.flatMap_nil, List.append_nil,
      Option.bind_some]
    cases hvariable : variablePart rest with
    | none =>
      have hnone : variableMatches rest = [] := by rw [variableMatches_eq, hvariable]
      rw [hnone, List.head?_nil, Option.none_or, hread]
      simp
    | some part =>
      have hplain := variablePart_of_exportedPart hpart hvariable
      have hnone : variableMatches (line.dropWhile isWhiteSpace) = [] := by
        rw [variableMatches_eq, hplain]
      rw [hnone, List.head?_nil, Option.or_none, hread, hvariable, hplain]
      simp

/-! ### What the runtime reads -/

theorem rdropWhile_append_blank {p : Char → Bool} {text blank : List Char}
    (hblank : ∀ c ∈ blank, p c) : (text ++ blank).rdropWhile p = text.rdropWhile p := by
  rw [List.rdropWhile, List.reverse_append, List.dropWhile_append_of_pos (by simpa using hblank)]
  rfl

theorem rdropWhile_append_cons {p : Char → Bool} {c : Char} (hc : ¬ p c)
    (before after : List Char) :
    (before ++ c :: after).rdropWhile p = before ++ c :: after.rdropWhile p := by
  induction after using List.reverseRecOn with
  | nil => simpa using List.rdropWhile_concat_neg p before c hc
  | append_singleton after d ih =>
    by_cases hd : p d
    · have hlast := List.rdropWhile_concat_pos p (before ++ c :: after) d hd
      rw [List.rdropWhile_concat_pos p after d hd, ← ih, ← hlast]
      simp
    · have hlast := List.rdropWhile_concat_neg p (before ++ c :: after) d hd
      rw [List.rdropWhile_concat_neg p after d hd]
      simpa using hlast

/-- White space at the end of a text is trimmed. -/
theorem trimmed_append_blank {text blank : List Char} (hblank : ∀ c ∈ blank, isWhiteSpace c) :
    trimmed (text ++ blank) = trimmed text := by
  by_cases hall : ∀ c ∈ text, isWhiteSpace c
  · have hnil : text.dropWhile isWhiteSpace = [] := by simpa using hall
    have hnil' : blank.dropWhile isWhiteSpace = [] := by simpa using hblank
    rw [trimmed, trimmed, List.dropWhile_append_of_pos hall, hnil, hnil']
  · have hne : text.dropWhile isWhiteSpace ≠ [] := by simpa using hall
    rw [trimmed, trimmed, List.dropWhile_append]
    simp [List.isEmpty_eq_false_iff.2 hne, rdropWhile_append_blank hblank]

/-- A text without white space is left as it is. -/
theorem trimmed_eq_self {text : List Char} (h : ∀ c ∈ text, isWhiteSpace c = false) :
    trimmed text = text := by
  have hdrop : text.dropWhile isWhiteSpace = text := by
    cases text with
    | nil => rfl
    | cons c cs => simp [h c List.mem_cons_self]
  rw [trimmed, hdrop, List.rdropWhile_eq_self_iff]
  intro hne
  simp [h _ (List.getLast_mem hne)]

/-- A text is its beginning, without white space at the end, and white space. -/
theorem exists_rdropWhile_append :
    ∃ blank : List Char, (∀ c ∈ blank, isWhiteSpace c) ∧
      text = text.rdropWhile isWhiteSpace ++ blank :=
  ⟨text.rtakeWhile isWhiteSpace, fun _ hc => List.mem_rtakeWhile_imp hc,
    (List.rdropWhile_append_rtakeWhile ..).symm⟩

theorem findIdx?_equals {before after : List Char} (hbefore : '=' ∉ before) :
    (before ++ '=' :: after).findIdx? (fun c => c = '=') = some before.length := by
  induction before with
  | nil => simp [List.findIdx?_cons]
  | cons c before ih =>
    rw [List.mem_cons, not_or] at hbefore
    have hc : c ≠ '=' := fun h => hbefore.1 h.symm
    simpa [List.findIdx?_cons, hc] using ih hbefore.2

theorem split_of_findIdx? {text : List Char} {i : ℕ}
    (h : text.findIdx? (fun c => c = '=') = some i) :
    text = text.take i ++ '=' :: text.drop (i + 1) := by
  obtain ⟨hi, heq, -⟩ := List.findIdx?_eq_some_iff_getElem.1 h
  have heq' : text[i] = '=' := by simpa using heq
  rw [← heq', ← List.drop_eq_getElem_cons hi, List.take_append_drop]

/-- **The runtime reads the plain form.** -/
theorem loadDotenvLine_eq_some_iff {value : List Char} (hkey : IsVariableName key) :
    loadDotenvLine line = some (key, value) ↔
      ∃ text, plainText key line = some text ∧ value = unquoted (trimmed text) := by
  obtain ⟨⟨first, others, hfirst, hstart⟩, hpart⟩ := hkey
  have hsolid : ∀ c ∈ key, isWhiteSpace c = false := fun c hc =>
    not_isWhiteSpace_of_isNamePart (hpart c hc)
  have hsign : '=' ∉ key := fun h => absurd (hpart _ h) (by decide)
  simp only [plainText_eq_some_iff, variablePart_eq_some_iff, loadDotenvLine]
  constructor
  · intro h
    split at h
    · cases h
    · split at h
      · cases h
      · rename_i separator hseparator
        split at h
        · cases h
        · rename_i hpos
          obtain ⟨hkey, rfl⟩ := Prod.mk.inj (Option.some.inj h)
          have hsplit := split_of_findIdx? hseparator
          obtain ⟨tail, htail, hline⟩ :=
            exists_rdropWhile_append (line.dropWhile isWhiteSpace)
          rw [← trimmed, hsplit, List.append_assoc, List.cons_append] at hline
          have hbegin : ((trimmed line).take separator).dropWhile isWhiteSpace =
              (trimmed line).take separator := by
            cases hhead : (trimmed line).take separator with
            | nil => rfl
            | cons c cs =>
              rw [hhead, List.cons_append] at hline
              have := List.head?_dropWhile_not isWhiteSpace line
              rw [hline] at this
              simpa using this
          obtain ⟨blank, hblank, hbefore⟩ :=
            exists_rdropWhile_append ((trimmed line).take separator)
          rw [trimmed, hbegin] at hkey
          rw [hkey] at hbefore
          refine ⟨(trimmed line).drop (separator + 1) ++ tail,
            ⟨⟨⟨first, others, hfirst, hstart⟩, hpart⟩, blank, hblank, ?_⟩, ?_⟩
          · rw [hline, hbefore, List.append_assoc]
          · rw [trimmed_append_blank htail]
  · rintro ⟨text, ⟨-, blank, hblank, hline⟩, rfl⟩
    have hbefore : '=' ∉ key ++ blank := by
      rw [List.mem_append, not_or]
      refine ⟨hsign, fun h => ?_⟩
      have := hblank _ h
      rw [equals_not_isWhiteSpace] at this
      cases this
    have htrimmed : trimmed line = (key ++ blank) ++ '=' :: text.rdropWhile isWhiteSpace := by
      rw [trimmed, hline, ← List.append_assoc,
        rdropWhile_append_cons (by simp [equals_not_isWhiteSpace])]
    have hkey : trimmed (key ++ blank) = key := by
      rw [trimmed_append_blank hblank, trimmed_eq_self hsolid]
    have hvalue : trimmed (text.rdropWhile isWhiteSpace) = trimmed text := by
      obtain ⟨blank', hblank', htext⟩ := exists_rdropWhile_append text
      conv_rhs => rw [htext]
      exact (trimmed_append_blank hblank').symm
    have hhash : first ≠ '#' := by
      rintro rfl
      exact absurd hstart (by decide)
    have hdrop : ((key ++ blank) ++ '=' :: text.rdropWhile isWhiteSpace).drop
        ((key ++ blank).length + 1) = text.rdropWhile isWhiteSpace := by
      rw [List.drop_length_add_append]
      rfl
    have hguard : (decide (((key ++ blank) ++ '=' :: text.rdropWhile isWhiteSpace).length = 0) ||
        ((key ++ blank) ++ '=' :: text.rdropWhile isWhiteSpace).head? == some '#') = false := by
      simp [hfirst, hhash]
    have hpos : ¬ (key ++ blank).length < 1 := by simp [hfirst]
    rw [htrimmed, hguard, findIdx?_equals hbefore]
    simp only [hpos, if_false, List.take_left, hkey, hdrop, hvalue]
    rfl

end Doxa
