/-
**The readers of an `.env` file.**

The runtime fills an object from the lines of the file (`loadDotenv`, `runtime/src/runtime.ts`), and
so does Praxis (`dotenvEnvironment`, `praxis/src/index.ts`), where a later line replaces an earlier
one.  A command of Praxis that wants one key only takes the first line that has it (`dotenvValue`).

A line assigns to a key in one of two forms, and only Praxis knows the one with `export`; it keeps
the white space after a value, and it does not see a value with a line terminator inside.  So the
lines that decide are the last plain one, and the first and the last one that Praxis can read.

Main definitions:

* `Doxa.loadDotenv`, `Doxa.dotenvEnvironment`, `Doxa.dotenvValue` — the three readers;
* `Doxa.plainTexts`, `Doxa.readableTexts` — what the lines of a file assign to a key;
* `Doxa.IsAssignedAlike` — the condition on these.

Main results:

* `Doxa.get_readEntries` — an object has the value of the last line;
* `Doxa.dotenv_readers_agree_iff` — **the three readers agree on a key exactly if its assignments
  are alike**;
* `Doxa.isAssignedAlike_lone_iff` — what this says of a key with one plain line;
* `Doxa.exported_disagrees` — a line with `export`.
-/

import Doxa.DotenvLines
import Doxa.Lib.OrderedMap

set_option relaxedAutoImplicit false
set_option autoImplicit false

namespace Doxa

/-! ### The readers -/

variable (read : List Char → Option (List Char × List Char))

/-- `__proto__`, to which an object takes no text. -/
def protoKey : List Char := ['_', '_', 'p', 'r', 'o', 't', 'o', '_', '_']

/-- `values[key] = value` -/
def assignProperty (values : OrderedMap (List Char) (List Char)) (key value : List Char) :
    OrderedMap (List Char) (List Char) :=
  if key = protoKey then values else values.set key value

/-- The object that the entries of the lines make. -/
def readEntries (lines : List (List Char)) : OrderedMap (List Char) (List Char) :=
  lines.foldl
    (fun values line =>
      match read line with
      | some (key, value) => assignProperty values key value
      | none => values)
    .empty

def loadDotenv (contents : List Char) : OrderedMap (List Char) (List Char) :=
  readEntries loadDotenvLine (dotenvLines contents)

/-- What Praxis makes of a line. -/
def praxisEntry (line : List Char) : Option (List Char × List Char) :=
  (dotenvMatch line).map fun captured => (captured.1, unquoted captured.2)

def dotenvEnvironment (content : List Char) : OrderedMap (List Char) (List Char) :=
  readEntries praxisEntry (dotenvLines content)

def dotenvValue (content key : List Char) : Option (List Char) :=
  (dotenvLines content).findSome? fun line =>
    match praxisEntry line with
    | some (name, value) => if name = key then some value else none
    | none => none

/-! ### What the readers find -/

variable {key text : List Char}

/-- The value that a line gives to a key. -/
def entryOf (key line : List Char) : Option (List Char) :=
  match read line with
  | some (name, value) => if name = key then some value else none
  | none => none

theorem get_assignProperty (values : OrderedMap (List Char) (List Char))
    (key value name : List Char) (hname : name ≠ protoKey) :
    (assignProperty values key value).get name =
      if name = key then some value else values.get name := by
  rw [assignProperty]
  split
  · rename_i hkey
    rw [if_neg (hkey ▸ hname)]
  · rw [OrderedMap.get_set]

/-- **An object has the value of the last line.** -/
theorem get_readEntries (lines : List (List Char)) (hkey : key ≠ protoKey) :
    (readEntries read lines).get key = (lines.filterMap (entryOf read key)).getLast? := by
  induction lines using List.reverseRecOn with
  | nil => rfl
  | append_singleton lines line ih =>
    rw [readEntries, List.foldl_append, List.foldl_cons, List.foldl_nil, ← readEntries,
      List.filterMap_append]
    cases hread : read line with
    | none => simp [entryOf, hread, ih]
    | some entry =>
      obtain ⟨name, value⟩ := entry
      by_cases hname : name = key
      · simp [entryOf, hread, hname, get_assignProperty _ _ _ _ hkey]
      · simp [entryOf, hread, hname, Ne.symm hname, get_assignProperty _ _ _ _ hkey, ih]

/-- No text is ever found at `__proto__`. -/
theorem get_readEntries_protoKey (lines : List (List Char)) :
    (readEntries read lines).get protoKey = none := by
  induction lines using List.reverseRecOn with
  | nil => rfl
  | append_singleton lines line ih =>
    rw [readEntries, List.foldl_append, List.foldl_cons, List.foldl_nil, ← readEntries]
    cases hread : read line with
    | none => exact ih
    | some entry =>
      obtain ⟨name, value⟩ := entry
      simp only [assignProperty]
      split
      · exact ih
      · rename_i hname
        rw [OrderedMap.get_set, if_neg (Ne.symm hname), ih]

theorem dotenvValue_eq (content key : List Char) :
    dotenvValue content key =
      ((dotenvLines content).filterMap (entryOf praxisEntry key)).head? := by
  rw [dotenvValue, List.head?_filterMap]
  rfl

/-! ### The assignments of a file -/

/-- What the plain lines assign to a key. -/
def plainTexts (content key : List Char) : List (List Char) :=
  (dotenvLines content).filterMap (plainText key)

/-- What the lines of either form assign to a key, as far as no line terminator stands inside. -/
def readableTexts (content key : List Char) : List (List Char) :=
  ((dotenvLines content).filterMap fun line =>
    (plainText key line).or (exportedText key line)).filter isReadable

/-- A line of one form is not of the other. -/
theorem exportedText_of_plainText {line : List Char} (h : plainText key line = some text) :
    exportedText key line = none := by
  by_contra hne
  obtain ⟨text', htext'⟩ := Option.ne_none_iff_exists'.1 hne
  rw [exportedText_eq_some_iff, Option.bind_eq_some_iff] at htext'
  obtain ⟨rest, hpart, hvariable⟩ := htext'
  rw [plainText_eq_some_iff, variablePart_of_exportedPart hpart hvariable] at h
  cases h

theorem entryOf_loadDotenvLine (hkey : IsVariableName key) (line : List Char) :
    entryOf loadDotenvLine key line =
      (plainText key line).map fun text => unquoted (trimmed text) := by
  have hentry : ∀ value, entryOf loadDotenvLine key line = some value ↔
      loadDotenvLine line = some (key, value) := by
    intro value
    rw [entryOf]
    cases loadDotenvLine line with
    | none => simp
    | some entry => simp [Prod.ext_iff]
  ext value
  rw [hentry, loadDotenvLine_eq_some_iff hkey, Option.map_eq_some_iff]
  simp only [eq_comm]

theorem entryOf_praxisEntry (key line : List Char) :
    entryOf praxisEntry key line =
      (((plainText key line).or (exportedText key line)).filter isReadable).map
        fun text => unquoted (writtenValue text) := by
  have hentry : ∀ value, entryOf praxisEntry key line = some value ↔
      ∃ captured, dotenvMatch line = some (key, captured) ∧ value = unquoted captured := by
    intro value
    rw [entryOf, praxisEntry]
    cases dotenvMatch line with
    | none => simp
    | some entry =>
      obtain ⟨name, captured⟩ := entry
      simp only [Option.map_some, Option.some.injEq, Prod.mk.injEq]
      constructor
      · intro h
        split at h
        · exact ⟨captured, ⟨‹_›, rfl⟩, (Option.some.inj h).symm⟩
        · cases h
      · rintro ⟨captured', ⟨rfl, rfl⟩, rfl⟩
        simp
  ext value
  rw [hentry, Option.map_eq_some_iff]
  simp only [Option.filter_eq_some_iff, dotenvMatch_eq_some_iff]
  constructor
  · rintro ⟨captured, ⟨text, htext, hread, rfl⟩, rfl⟩
    refine ⟨text, ⟨?_, hread⟩, rfl⟩
    rcases htext with htext | htext
    · rw [htext, Option.some_or]
    · cases hplain : plainText key line with
      | none => rw [Option.none_or, htext]
      | some text' =>
        rw [exportedText_of_plainText hplain] at htext
        cases htext
  · rintro ⟨text, ⟨htext, hread⟩, rfl⟩
    refine ⟨_, ⟨text, ?_, hread, rfl⟩, rfl⟩
    cases hplain : plainText key line with
    | none =>
      rw [hplain, Option.none_or] at htext
      exact .inr htext
    | some text' =>
      rw [hplain, Option.some_or] at htext
      exact .inl htext

theorem filterMap_loadDotenvLine (hkey : IsVariableName key) (content : List Char) :
    (dotenvLines content).filterMap (entryOf loadDotenvLine key) =
      (plainTexts content key).map fun text => unquoted (trimmed text) := by
  rw [plainTexts, List.map_filterMap]
  exact congrArg (fun read => List.filterMap read _) (funext (entryOf_loadDotenvLine hkey))

theorem filterMap_praxisEntry (content key : List Char) :
    (dotenvLines content).filterMap (entryOf praxisEntry key) =
      (readableTexts content key).map fun text => unquoted (writtenValue text) := by
  rw [readableTexts, List.filter_filterMap, List.map_filterMap]
  exact congrArg (fun read => List.filterMap read _) (funext (entryOf_praxisEntry key))

/-! ### Agreement -/

/-- **The condition.**  To `__proto__` nothing is assigned that Praxis reads.  To another key
nothing is assigned, or the last plain line, without the white space around its value, and the
first and the last line that Praxis reads, with the white space after the value, spell one text. -/
def IsAssignedAlike (content key : List Char) : Prop :=
  if key = protoKey then readableTexts content key = []
  else
    plainTexts content key = [] ∧ readableTexts content key = [] ∨
      ∃ last ∈ (plainTexts content key).getLast?, ∃ first ∈ (readableTexts content key).head?,
        ∃ final ∈ (readableTexts content key).getLast?,
          unquoted (trimmed last) = unquoted (writtenValue final) ∧
            unquoted (writtenValue final) = unquoted (writtenValue first)

/-- **The three readers agree on a key exactly if its assignments are alike.** -/
theorem dotenv_readers_agree_iff (content key : List Char) (hkey : IsVariableName key) :
    ((loadDotenv content).get key = (dotenvEnvironment content).get key ∧
        (dotenvEnvironment content).get key = dotenvValue content key) ↔
      IsAssignedAlike content key := by
  rw [IsAssignedAlike, loadDotenv, dotenvEnvironment, dotenvValue_eq]
  split
  · rename_i hproto
    rw [hproto, get_readEntries_protoKey, get_readEntries_protoKey, filterMap_praxisEntry]
    simp
  · rename_i hproto
    rw [get_readEntries _ _ hproto, get_readEntries _ _ hproto, filterMap_praxisEntry,
      filterMap_loadDotenvLine hkey, List.getLast?_map, List.getLast?_map, List.head?_map]
    cases hlast : (plainTexts content key).getLast? with
    | none =>
      have hplain : plainTexts content key = [] := List.getLast?_eq_none_iff.1 hlast
      cases hread : readableTexts content key with
      | nil => simp [hplain]
      | cons text texts => simp [hplain, List.getLast?_cons]
    | some last =>
      have hplain : plainTexts content key ≠ [] := by
        rintro hplain
        simp [hplain] at hlast
      cases hfinal : (readableTexts content key).getLast? with
      | none =>
        have hread : readableTexts content key = [] := List.getLast?_eq_none_iff.1 hfinal
        simp [hread, hplain]
      | some final =>
        have hread : readableTexts content key ≠ [] := by
          rintro hread
          simp [hread] at hfinal
        obtain ⟨first, hfirst⟩ := Option.ne_none_iff_exists'.1
          (fun h => hread (List.head?_eq_none_iff.1 h))
        simp [hfirst, hplain, eq_comm]

/-- A file with two lines for one key, the second one in quotes. -/
def twiceEnv : List Char :=
  ['K', 'E', 'Y', '=', 'a', Char.ofNat 13, '\n', 'K', 'E', 'Y', ' ', '=', Char.ofNat 34, 'a',
    Char.ofNat 34, '\n']

theorem dotenv_readers_agree_twice :
    (loadDotenv twiceEnv).get ['K', 'E', 'Y'] = (dotenvEnvironment twiceEnv).get ['K', 'E', 'Y'] ∧
      (dotenvEnvironment twiceEnv).get ['K', 'E', 'Y'] =
        dotenvValue twiceEnv ['K', 'E', 'Y'] := by
  refine (dotenv_readers_agree_iff twiceEnv ['K', 'E', 'Y']
    ⟨⟨'K', ['E', 'Y'], rfl, by decide⟩, by simp [isNamePart, isNameStart]⟩).2 ?_
  rw [IsAssignedAlike, if_neg (by decide)]
  exact .inr ⟨[Char.ofNat 34, 'a', Char.ofNat 34], by rfl, ['a'], by rfl,
    [Char.ofNat 34, 'a', Char.ofNat 34], by rfl, by decide, by decide⟩

/-- A line with `export`, which only Praxis reads. -/
def exportedEnv : List Char := ['e', 'x', 'p', 'o', 'r', 't', ' ', 'K', 'E', 'Y', '=', 'a']

theorem exported_disagrees :
    IsVariableName ['K', 'E', 'Y'] ∧
      (loadDotenv exportedEnv).get ['K', 'E', 'Y'] = none ∧
      (dotenvEnvironment exportedEnv).get ['K', 'E', 'Y'] = some ['a'] ∧
      ¬ ((loadDotenv exportedEnv).get ['K', 'E', 'Y'] =
            (dotenvEnvironment exportedEnv).get ['K', 'E', 'Y'] ∧
          (dotenvEnvironment exportedEnv).get ['K', 'E', 'Y'] =
            dotenvValue exportedEnv ['K', 'E', 'Y']) := by
  have hload : (loadDotenv exportedEnv).get ['K', 'E', 'Y'] = none := by rfl
  have hpraxis : (dotenvEnvironment exportedEnv).get ['K', 'E', 'Y'] = some ['a'] := by
    rfl
  refine ⟨⟨⟨'K', ['E', 'Y'], rfl, by decide⟩, by simp [isNamePart, isNameStart]⟩, hload,
    hpraxis, fun h => ?_⟩
  rw [hload, hpraxis] at h
  cases h.1

/-! ### A lone assignment -/

/-- What Praxis takes for the value is the value, and white space. -/
theorem exists_writtenValue_eq (hread : isReadable text) :
    ∃ blank : List Char, (∀ c ∈ blank, Js.isWhiteSpace c) ∧
      writtenValue text = trimmed text ++ blank := by
  have hsplit : text.dropWhile Js.isWhiteSpace = writtenValue text ++
      (text.dropWhile Js.isWhiteSpace).dropWhile fun c => !isLineEnd c :=
    List.takeWhile_append_dropWhile.symm
  have hrest : ∀ c ∈ (text.dropWhile Js.isWhiteSpace).dropWhile (fun c => !isLineEnd c),
      Js.isWhiteSpace c := List.all_eq_true.1 hread
  have htrimmed : trimmed text = (writtenValue text).rdropWhile Js.isWhiteSpace := by
    rw [trimmed, hsplit, rdropWhile_append_blank hrest]
  obtain ⟨blank, hblank, hwritten⟩ := exists_rdropWhile_append (writtenValue text)
  exact ⟨blank, hblank, by rw [htrimmed, ← hwritten]⟩

theorem length_unquoted_le (value : List Char) : (unquoted value).length ≤ value.length := by
  rw [unquoted]
  split
  · simp only [List.length_dropLast, List.length_drop]
    omega
  · exact le_rfl

/-- White space after a value makes it another one, for it is not in quotes then. -/
theorem unquoted_eq_iff (hread : isReadable text) :
    unquoted (trimmed text) = unquoted (writtenValue text) ↔ writtenValue text = trimmed text := by
  obtain ⟨blank, hblank, hwritten⟩ := exists_writtenValue_eq hread
  constructor
  · intro h
    rcases List.eq_nil_or_concat' blank with rfl | ⟨blank, c, rfl⟩
    · rw [hwritten, List.append_nil]
    · have hc : Js.isWhiteSpace c := hblank c (by simp)
      have hmark : ∀ mark ∈ quotationMarks, c ≠ mark := by
        rintro mark hmark rfl
        revert hc
        rcases List.mem_pair.1 hmark with rfl | rfl <;> decide
      have hself : unquoted (writtenValue text) = writtenValue text := by
        rw [unquoted, if_neg]
        rw [hwritten, ← List.append_assoc, List.any_eq_true]
        rintro ⟨mark, hmem, hquoted⟩
        have hlast : c = mark := by simpa using (Bool.and_eq_true_iff.1 hquoted).2
        exact hmark mark hmem hlast
      have hlength := length_unquoted_le (trimmed text)
      rw [h, hself, hwritten] at hlength
      simp at hlength
  · intro h
    rw [h]

/-- **A key with one plain line is read alike exactly if no line terminator stands inside the value
and no white space after it.** -/
theorem isAssignedAlike_lone_iff {content : List Char} (hkey : key ≠ protoKey)
    (hplain : plainTexts content key = [text])
    (hexported : ∀ line ∈ dotenvLines content, exportedText key line = none) :
    IsAssignedAlike content key ↔ isReadable text ∧ writtenValue text = trimmed text := by
  have htexts : readableTexts content key = [text].filter isReadable := by
    rw [readableTexts, ← hplain, plainTexts]
    congr 1
    refine List.filterMap_congr fun line hline => ?_
    rw [hexported line hline, Option.or_none]
  rw [IsAssignedAlike, if_neg hkey, hplain, htexts]
  by_cases hread : isReadable text
  · simp [hread, unquoted_eq_iff hread]
  · simp [hread]

end Doxa
