/-
**JSON as text.**

What `JSON.stringify` prints, and what `JSON.parse` reads.  A property is printed in the order of
the object, and an object that is read has its properties in the order of the text; if a key comes
twice, the last value is kept.  Characters that have an escape of their own are printed with it,
other control characters with a code, and the rest as they are.

Numbers are exact decimals: they are printed without an exponent, and read with one if there is one.

Main definitions:

* `JsonText.print`, `JsonText.parse` — a value as text, and back;
* `JsonText.IsPlain` — numbers are decimals, and no object has a key twice.

Main results:

* `JsonText.parse_print` — **a plain value is read as it was printed**;
* `JsonText.print_injective` — different values are printed differently;
* `JsonText.isPlain_of_parse` — **what is read is plain**.
-/

import Doxa.Lib.Json
import Mathlib.Algebra.Order.Ring.Rat
import Mathlib.Data.Nat.Prime.Basic
import Mathlib.Tactic.FieldSimp
import Mathlib.Tactic.IntervalCases

set_option relaxedAutoImplicit false
set_option autoImplicit false

namespace JsonText

/-! ### Numbers -/

variable {rest : List Char} {n length : ℕ}

/-- How many decimal places a fraction with this denominator has. -/
def places (den : ℕ) : ℕ :=
  ((List.range (den + 1)).find? fun k => decide (den ∣ 10 ^ k)).getD 0

/-- A number has finitely many decimal places. -/
def IsDecimal (q : ℚ) : Prop := q.den ∣ 10 ^ places q.den

/-- Digits, with zeros before them. -/
def padded (length n : ℕ) : List Char :=
  List.replicate (length - (Nat.toDigits 10 n).length) '0' ++ Nat.toDigits 10 n

/-- The digits after the point. -/
def printFraction (length n : ℕ) : List Char := if length = 0 then [] else '.' :: padded length n

def printNumber (q : ℚ) : List Char :=
  let scaled := q.num.natAbs * (10 ^ places q.den / q.den)
  (if q < 0 then ['-'] else []) ++ Nat.toDigits 10 (scaled / 10 ^ places q.den) ++
    printFraction (places q.den) (scaled % 10 ^ places q.den)

/-- Digits at the beginning of a text; there must be one. -/
def scanDigits (text : List Char) : Option (List Char × List Char) :=
  if text.takeWhile Char.isDigit = [] then none
  else some (text.takeWhile Char.isDigit, text.dropWhile Char.isDigit)

/-- The digits before the point. -/
def scanWhole (text : List Char) : Option (List Char × List Char) :=
  (scanDigits text).filter fun scanned => scanned.1.head? ≠ some '0' ∨ scanned.1.length = 1

/-- The digits after the point, if there is one. -/
def scanFraction : List Char → Option (List Char × List Char)
  | '.' :: rest => scanDigits rest
  | text => some ([], text)

/-- The exponent after its letter. -/
def scanSignedDigits : List Char → Option (ℤ × List Char)
  | '-' :: rest =>
    (scanDigits rest).map fun scanned => (-(Nat.ofDigitChars 10 scanned.1 0), scanned.2)
  | '+' :: rest => (scanDigits rest).map fun scanned => (Nat.ofDigitChars 10 scanned.1 0, scanned.2)
  | text => (scanDigits text).map fun scanned => (Nat.ofDigitChars 10 scanned.1 0, scanned.2)

/-- The exponent, if there is one. -/
def scanExponent : List Char → Option (ℤ × List Char)
  | 'e' :: rest => scanSignedDigits rest
  | 'E' :: rest => scanSignedDigits rest
  | text => some (0, text)

/-- A number without its sign. -/
def scanMagnitude (text : List Char) : Option (ℚ × List Char) := do
  let (whole, text) ← scanWhole text
  let (fraction, text) ← scanFraction text
  let (exponent, text) ← scanExponent text
  pure ((Nat.ofDigitChars 10 (whole ++ fraction) 0 : ℚ) * 10 ^ (exponent - fraction.length), text)

def scanNumber : List Char → Option (ℚ × List Char)
  | '-' :: rest => (scanMagnitude rest).map fun scanned => (-scanned.1, scanned.2)
  | text => scanMagnitude text

/-- What may follow a value: nothing, a comma or a closing bracket. -/
def Follows (rest : List Char) : Prop := ∀ c ∈ rest.head?, c = ',' ∨ c = ']' ∨ c = '\x7d'

theorem scanDigits_append {digits : List Char} (hne : digits ≠ [])
    (hdigits : ∀ c ∈ digits, c.isDigit = true) (hrest : ∀ c ∈ rest.head?, c.isDigit = false) :
    scanDigits (digits ++ rest) = some (digits, rest) := by
  have htake : rest.takeWhile Char.isDigit = [] := by
    cases rest with
    | nil => rfl
    | cons c rest => simp [hrest c rfl]
  have hdrop : rest.dropWhile Char.isDigit = rest := by
    cases rest with
    | nil => rfl
    | cons c rest => simp [hrest c rfl]
  rw [scanDigits, List.takeWhile_append_of_pos hdigits, List.dropWhile_append_of_pos hdigits, htake,
    hdrop, List.append_nil, if_neg hne]

theorem isDigit_of_mem_toDigits {c : Char} (h : c ∈ Nat.toDigits 10 n) :
    c.isDigit = true := Nat.isDigit_of_mem_toDigits (by decide) (by decide) h

/-- A number is not printed with a zero before it. -/
theorem head?_toDigits (h : 0 < n) : (Nat.toDigits 10 n).head? ≠ some '0' := by
  induction n using Nat.strong_induction_on with
  | _ n ih =>
    by_cases hlt : n < 10
    · rw [Nat.toDigits_of_lt_base hlt]
      interval_cases n <;> decide
    · have hlast := Nat.toDigits_of_base_le (by decide) (Nat.le_of_not_lt hlt)
      have hfirst := ih (n / 10) (by omega) (by omega)
      rw [hlast, List.head?_append_of_ne_nil _ Nat.toDigits_ne_nil]
      exact hfirst

theorem scanWhole_append (n : ℕ) (hrest : ∀ c ∈ rest.head?, c.isDigit = false) :
    scanWhole (Nat.toDigits 10 n ++ rest) = some (Nat.toDigits 10 n, rest) := by
  rw [scanWhole, scanDigits_append Nat.toDigits_ne_nil (fun _ => isDigit_of_mem_toDigits) hrest,
    Option.filter_some, if_pos]
  rw [decide_eq_true_iff]
  by_cases hpos : 0 < n
  · exact .inl (head?_toDigits hpos)
  · have hzero : n = 0 := by omega
    subst hzero
    exact .inr rfl

theorem length_padded (hpos : 0 < length) (h : n < 10 ^ length) :
    (padded length n).length = length := by
  have hle := (Nat.length_toDigits_le_iff (by decide) hpos).2 h
  rw [padded, List.length_append, List.length_replicate]
  omega

theorem ofDigitChars_padded (length n : ℕ) :
    Nat.ofDigitChars 10 (padded length n) 0 = n := by
  rw [padded, Nat.ofDigitChars_append, Nat.ofDigitChars_replicate_zero, Nat.mul_zero,
    Nat.ofDigitChars_ten_toDigits]

theorem isDigit_of_mem_padded {c : Char} (h : c ∈ padded length n) : c.isDigit = true := by
  rcases List.mem_append.1 h with hzero | hdigit
  · rw [List.eq_of_mem_replicate hzero]
    rfl
  · exact isDigit_of_mem_toDigits hdigit

theorem Follows.isDigit (h : Follows rest) : ∀ c ∈ rest.head?, c.isDigit = false := by
  intro c hc
  rcases h c hc with rfl | rfl | rfl <;> rfl

/-- The digits after the point, and what follows. -/
theorem scanFraction_append (h : n < 10 ^ length)
    (hrest : Follows rest) : ∃ digits, scanFraction (printFraction length n ++ rest) =
      some (digits, rest) ∧ digits.length = length ∧ Nat.ofDigitChars 10 digits 0 = n := by
  by_cases hzero : length = 0
  · subst hzero
    refine ⟨[], ?_, rfl, ?_⟩
    · cases rest with
      | nil => rfl
      | cons c rest =>
        rcases hrest c rfl with rfl | rfl | rfl <;> rfl
    · have hn : n = 0 := by simpa using h
      rw [hn]
      rfl
  · have hpos : 0 < length := Nat.pos_of_ne_zero hzero
    refine ⟨padded length n, ?_, length_padded hpos h, ofDigitChars_padded length n⟩
    rw [printFraction, if_neg hzero, List.cons_append, scanFraction, scanDigits_append]
    · rw [padded]
      simp
    · exact fun c => isDigit_of_mem_padded
    · exact hrest.isDigit

theorem scanExponent_of_follows (h : Follows rest) : scanExponent rest = some (0, rest) := by
  cases rest with
  | nil => rfl
  | cons c rest =>
    rcases h c rfl with rfl | rfl | rfl <;> rfl

theorem head?_printFraction (hrest : Follows rest) :
    ∀ c ∈ (printFraction length n ++ rest).head?, c.isDigit = false := by
  rw [printFraction]
  split_ifs
  · exact hrest.isDigit
  · intro c hc
    cases hc
    rfl

/-- **A number without its sign.** -/
theorem scanMagnitude_append {q : ℚ} (h : IsDecimal q) (hrest : Follows rest) :
    scanMagnitude (Nat.toDigits 10 (q.num.natAbs * (10 ^ places q.den / q.den) /
        10 ^ places q.den) ++ (printFraction (places q.den)
          (q.num.natAbs * (10 ^ places q.den / q.den) % 10 ^ places q.den) ++ rest)) =
      some ((q.num.natAbs : ℚ) / q.den, rest) := by
  obtain ⟨factor, hfactor⟩ := h
  have hden : 0 < q.den := q.den_pos
  have hquotient : 10 ^ places q.den / q.den = factor := by
    rw [hfactor, Nat.mul_div_cancel_left factor hden]
  have hpos : 0 < 10 ^ places q.den := Nat.pow_pos (by decide)
  obtain ⟨digits, hfraction, hlength, hvalue⟩ :=
    scanFraction_append (Nat.mod_lt (q.num.natAbs * factor) hpos) hrest
  rw [hquotient, scanMagnitude, scanWhole_append _ (head?_printFraction hrest)]
  simp only [Option.bind_eq_bind, Option.bind_some, hfraction, scanExponent_of_follows hrest,
    Option.pure_def, Option.some.injEq, Prod.mk.injEq, and_true]
  rw [Nat.ofDigitChars_append, Nat.ofDigitChars_eq_ofDigitChars_zero, hvalue, hlength,
    Nat.ofDigitChars_ten_toDigits, Nat.div_add_mod, zero_sub, zpow_neg, zpow_natCast]
  have hscaled : (10 : ℚ) ^ places q.den = q.den * factor := by exact_mod_cast hfactor
  have hden' : (q.den : ℚ) ≠ 0 := by exact_mod_cast hden.ne'
  have hfactor' : (factor : ℚ) ≠ 0 := by
    intro hzero
    rw [hzero, mul_zero] at hscaled
    exact absurd hscaled (pow_ne_zero _ (by decide))
  rw [hscaled, Nat.cast_mul]
  field_simp

theorem scanNumber_of_isDigit {c : Char} (h : c.isDigit = true) (rest : List Char) :
    scanNumber (c :: rest) = scanMagnitude (c :: rest) := by
  rw [scanNumber]
  intro other heq
  rw [(List.cons.inj heq).1] at h
  exact absurd h (by decide)

/-- **A number is read as it was printed.** -/
theorem scanNumber_append {q : ℚ} (h : IsDecimal q) (hrest : Follows rest) :
    scanNumber (printNumber q ++ rest) = some (q, rest) := by
  have hmagnitude := scanMagnitude_append h hrest
  have habs : ((q.num.natAbs : ℤ) : ℚ) = (q.num.natAbs : ℚ) := Int.cast_natCast _
  rw [printNumber]
  by_cases hnegative : q < 0
  · have hnum : (q.num.natAbs : ℤ) = -q.num :=
      Int.ofNat_natAbs_of_nonpos (Rat.num_neg.2 hnegative).le
    rw [if_pos hnegative]
    simp only [List.cons_append, List.nil_append, List.append_assoc, scanNumber, hmagnitude,
      Option.map_some, Option.some.injEq, Prod.mk.injEq, and_true]
    rw [← habs, hnum, Int.cast_neg, neg_div, neg_neg, Rat.num_div_den]
  · have hnum : (q.num.natAbs : ℤ) = q.num :=
      Int.natAbs_of_nonneg (Rat.num_nonneg.2 (not_lt.1 hnegative))
    rw [if_neg hnegative, List.nil_append, List.append_assoc]
    cases hdigits : Nat.toDigits 10 (q.num.natAbs * (10 ^ places q.den / q.den) /
        10 ^ places q.den) with
    | nil => exact absurd hdigits Nat.toDigits_ne_nil
    | cons digit digits =>
      have hdigit : digit.isDigit = true :=
        isDigit_of_mem_toDigits (hdigits ▸ List.mem_cons_self)
      rw [hdigits] at hmagnitude
      rw [List.cons_append] at hmagnitude ⊢
      rw [scanNumber_of_isDigit hdigit, hmagnitude, ← habs, hnum, Rat.num_div_den]

/-- How a number begins. -/
theorem printNumber_eq_cons (q : ℚ) :
    ∃ c rest, printNumber q = c :: rest ∧ (c = '-' ∨ c.isDigit = true) := by
  rw [printNumber]
  split_ifs
  · exact ⟨'-', _, rfl, .inl rfl⟩
  · cases hdigits : Nat.toDigits 10 (q.num.natAbs * (10 ^ places q.den / q.den) /
        10 ^ places q.den) with
    | nil => exact absurd hdigits Nat.toDigits_ne_nil
    | cons digit digits =>
      exact ⟨digit, _, rfl, .inr (isDigit_of_mem_toDigits (hdigits ▸ List.mem_cons_self))⟩

/-! ### Strings -/

/-- The character with a hexadecimal digit's value. -/
def hexDigit (c : Char) : Option ℕ :=
  if c.isDigit then some (c.toNat - 48)
  else if 'a' ≤ c ∧ c ≤ 'f' then some (c.toNat - 87)
  else if 'A' ≤ c ∧ c ≤ 'F' then some (c.toNat - 55)
  else none

def hexCode (a b c d : Char) : Option ℕ := do
  let a ← hexDigit a
  let b ← hexDigit b
  let c ← hexDigit c
  let d ← hexDigit d
  pure (a * 4096 + b * 256 + c * 16 + d)

/-- A character inside a string. -/
def printChar (c : Char) : List Char :=
  if c = '"' then ['\\', '"']
  else if c = '\\' then ['\\', '\\']
  else if c = '\x08' then ['\\', 'b']
  else if c = '\x0c' then ['\\', 'f']
  else if c = '\n' then ['\\', 'n']
  else if c = '\r' then ['\\', 'r']
  else if c = '\t' then ['\\', 't']
  else if c.toNat < 32 then
    ['\\', 'u', '0', '0', Nat.digitChar (c.toNat / 16), Nat.digitChar (c.toNat % 16)]
  else [c]

def printString (value : String) : List Char := '"' :: value.toList.flatMap printChar ++ ['"']

/-- What an escape of one character stands for. -/
def unescape (c : Char) : Option Char :=
  if c = '"' then some '"'
  else if c = '\\' then some '\\'
  else if c = '/' then some '/'
  else if c = 'b' then some '\x08'
  else if c = 'f' then some '\x0c'
  else if c = 'n' then some '\n'
  else if c = 'r' then some '\r'
  else if c = 't' then some '\t'
  else none

/-- The characters of a string, after the first quote.  A code that is half of a character is not
read. -/
def scanString : List Char → Option (List Char × List Char)
  | [] => none
  | '"' :: rest => some ([], rest)
  | '\\' :: 'u' :: a :: b :: c :: d :: rest => do
      let code ← hexCode a b c d
      if code < 0xD800 ∨ 0xDFFF < code then
        let scanned ← scanString rest
        pure (Char.ofNat code :: scanned.1, scanned.2)
      else
        match rest with
        | '\\' :: 'u' :: e :: f :: g :: h :: rest => do
            let low ← hexCode e f g h
            if code < 0xDC00 ∧ 0xDC00 ≤ low ∧ low ≤ 0xDFFF then
              let scanned ← scanString rest
              pure (Char.ofNat (0x10000 + (code - 0xD800) * 0x400 + (low - 0xDC00)) :: scanned.1,
                scanned.2)
            else none
        | _ => none
  | '\\' :: c :: rest => do
      let c ← unescape c
      let scanned ← scanString rest
      pure (c :: scanned.1, scanned.2)
  | c :: rest =>
    if c.toNat < 32 then none
    else (scanString rest).map fun scanned => (c :: scanned.1, scanned.2)

theorem hexDigit_digitChar : ∀ n < 16, hexDigit (Nat.digitChar n) = some n := by decide

/-- An escape of one character. -/
theorem scanString_escape {letter c : Char} (hletter : letter ≠ 'u') (h : unescape letter = some c)
    (rest : List Char) : scanString ('\\' :: letter :: rest) =
      (scanString rest).map fun scanned => (c :: scanned.1, scanned.2) := by
  rw [scanString]
  · rw [h]
    cases scanString rest <;> rfl
  · intro a b d e other heq
    exact absurd heq hletter

/-- **A character is read as it was printed.** -/
theorem scanString_printChar (c : Char) (rest : List Char) :
    scanString (printChar c ++ rest) =
      (scanString rest).map fun scanned => (c :: scanned.1, scanned.2) := by
  rw [printChar]
  split_ifs with hquote hslash hback hfeed hnewline hreturn htab hcontrol
  · exact scanString_escape (by decide) (by rw [hquote]; rfl) rest
  · exact scanString_escape (by decide) (by rw [hslash]; rfl) rest
  · exact scanString_escape (by decide) (by rw [hback]; rfl) rest
  · exact scanString_escape (by decide) (by rw [hfeed]; rfl) rest
  · exact scanString_escape (by decide) (by rw [hnewline]; rfl) rest
  · exact scanString_escape (by decide) (by rw [hreturn]; rfl) rest
  · exact scanString_escape (by decide) (by rw [htab]; rfl) rest
  · have hcode : hexCode '0' '0' (Nat.digitChar (c.toNat / 16)) (Nat.digitChar (c.toNat % 16)) =
        some c.toNat := by
      rw [hexCode, hexDigit_digitChar _ (by omega), hexDigit_digitChar _ (by omega)]
      simp [hexDigit]
      omega
    have hplain : c.toNat < 0xD800 ∨ 0xDFFF < c.toNat := .inl (by omega)
    simp only [List.cons_append, List.nil_append, scanString, hcode, Option.bind_eq_bind,
      Option.bind_some, if_pos hplain, Char.ofNat_toNat]
    cases scanString rest <;> rfl
  · rw [List.singleton_append, scanString]
    · rw [if_neg hcontrol]
    · exact hquote
    · intro a b d e other heq
      exact absurd heq hslash
    · intro d other heq
      exact absurd heq hslash

/-- **A string is read as it was printed.** -/
theorem scanString_append (characters rest : List Char) :
    scanString (characters.flatMap printChar ++ '"' :: rest) = some (characters, rest) := by
  induction characters with
  | nil => rw [List.flatMap_nil, List.nil_append, scanString]
  | cons c characters ih =>
    rw [List.flatMap_cons, List.append_assoc, scanString_printChar, ih]
    rfl

/-! ### Values -/

mutual

/-- `JSON.stringify`. -/
def print : Json → List Char
  | .null => ['n', 'u', 'l', 'l']
  | .bool true => ['t', 'r', 'u', 'e']
  | .bool false => ['f', 'a', 'l', 's', 'e']
  | .number value => printNumber value
  | .text value => printString value
  | .array items => '[' :: printItems items
  | .object fields => '\x7b' :: printFields fields

/-- Items, and the bracket after them. -/
def printItems : List Json → List Char
  | [] => [']']
  | item :: items => print item ++ if items.isEmpty then [']'] else ',' :: printItems items

/-- Properties, and the bracket after them. -/
def printFields : List (String × Json) → List Char
  | [] => ['\x7d']
  | (key, value) :: fields =>
    printString key ++ ':' :: print value ++
      if fields.isEmpty then ['\x7d'] else ',' :: printFields fields

end

/-- White space between the tokens. -/
def isSpace (c : Char) : Bool := c = ' ' || c = '\t' || c = '\n' || c = '\r'

def skip (text : List Char) : List Char := text.dropWhile isSpace

/-- A property is set: it keeps its place if it is there. -/
def setField (fields : List (String × Json)) (field : String × Json) : List (String × Json) :=
  if field.1 ∈ fields.map Prod.fst then
    fields.map fun other => if other.1 = field.1 then field else other
  else fields ++ [field]

mutual

/-- A value at the beginning of a text. -/
def scanValue : ℕ → List Char → Option (Json × List Char)
  | 0, _ => none
  | fuel + 1, text =>
    match skip text with
    | 'n' :: 'u' :: 'l' :: 'l' :: rest => some (.null, rest)
    | 't' :: 'r' :: 'u' :: 'e' :: rest => some (.bool true, rest)
    | 'f' :: 'a' :: 'l' :: 's' :: 'e' :: rest => some (.bool false, rest)
    | '"' :: rest =>
      (scanString rest).map fun scanned => (.text (String.ofList scanned.1), scanned.2)
    | '[' :: rest =>
      match skip rest with
      | ']' :: rest => some (.array [], rest)
      | rest => (scanItems fuel rest).map fun scanned => (.array scanned.1, scanned.2)
    | '\x7b' :: rest =>
      match skip rest with
      | '\x7d' :: rest => some (.object [], rest)
      | rest =>
        (scanFields fuel rest).map fun scanned =>
          (.object (scanned.1.foldl setField []), scanned.2)
    | rest => (scanNumber rest).map fun scanned => (.number scanned.1, scanned.2)

/-- Items, and the bracket after them. -/
def scanItems : ℕ → List Char → Option (List Json × List Char)
  | 0, _ => none
  | fuel + 1, text => do
      let (item, rest) ← scanValue fuel text
      match skip rest with
      | ',' :: rest => do
          let (items, rest) ← scanItems fuel rest
          pure (item :: items, rest)
      | ']' :: rest => some ([item], rest)
      | _ => none

/-- Properties, and the bracket after them. -/
def scanFields : ℕ → List Char → Option (List (String × Json) × List Char)
  | 0, _ => none
  | fuel + 1, text =>
    match skip text with
    | '"' :: rest => do
        let (key, rest) ← scanString rest
        match skip rest with
        | ':' :: rest => do
            let (value, rest) ← scanValue fuel rest
            match skip rest with
            | ',' :: rest => do
                let (fields, rest) ← scanFields fuel rest
                pure ((String.ofList key, value) :: fields, rest)
            | '\x7d' :: rest => some ([(String.ofList key, value)], rest)
            | _ => none
        | _ => none
    | _ => none

end

/-- `JSON.parse`; nothing may follow the value. -/
def parse (text : List Char) : Option Json :=
  match scanValue (text.length + 1) text with
  | some (json, rest) => if skip rest = [] then some json else none
  | none => none

mutual

/-- Numbers are decimals, and no object has a key twice. -/
def IsPlain : Json → Prop
  | .number value => IsDecimal value
  | .array items => ArePlain items
  | .object fields => (fields.map Prod.fst).Nodup ∧ HavePlain fields
  | _ => True

def ArePlain : List Json → Prop
  | [] => True
  | item :: items => IsPlain item ∧ ArePlain items

def HavePlain : List (String × Json) → Prop
  | [] => True
  | (_, value) :: fields => IsPlain value ∧ HavePlain fields

end

/-! ### Reading what was printed -/

variable {rest text : List Char} {fields : List (String × Json)} {fuel : ℕ} {value : Json}

theorem skip_cons {c : Char} (h : isSpace c = false) (rest : List Char) :
    skip (c :: rest) = c :: rest := by
  rw [skip, List.dropWhile_cons, h]
  rfl

/-- How a value begins. -/
def Starts (c : Char) : Prop :=
  c = 'n' ∨ c = 't' ∨ c = 'f' ∨ c = '"' ∨ c = '[' ∨ c = '\x7b' ∨ c = '-' ∨ c.isDigit = true

theorem Starts.isSpace {c : Char} (h : Starts c) : isSpace c = false := by
  rcases h with rfl | rfl | rfl | rfl | rfl | rfl | rfl | h
  · rfl
  · rfl
  · rfl
  · rfl
  · rfl
  · rfl
  · rfl
  · by_contra hspace
    rw [Bool.not_eq_false, JsonText.isSpace] at hspace
    simp only [Bool.or_eq_true, decide_eq_true_eq] at hspace
    rcases hspace with ((rfl | rfl) | rfl) | rfl <;> exact absurd h (by decide)

theorem Starts.ne {c : Char} (h : Starts c) : c ≠ ']' := by
  rintro rfl
  revert h
  rw [Starts]
  decide

theorem print_eq_cons (json : Json) : ∃ c rest, print json = c :: rest ∧ Starts c := by
  cases json with
  | null => exact ⟨'n', _, rfl, by simp [Starts]⟩
  | bool value =>
    cases value with
    | true => exact ⟨'t', _, rfl, by simp [Starts]⟩
    | false => exact ⟨'f', _, rfl, by simp [Starts]⟩
  | number value =>
    obtain ⟨c, rest, heq, hc⟩ := printNumber_eq_cons value
    refine ⟨c, rest, heq, ?_⟩
    rcases hc with rfl | hdigit
    · simp [Starts]
    · simp [Starts, hdigit]
  | text value => exact ⟨'"', _, rfl, by simp [Starts]⟩
  | array items => exact ⟨'[', _, rfl, by simp [Starts]⟩
  | object fields => exact ⟨'\x7b', _, rfl, by simp [Starts]⟩

theorem follows_cons {c : Char} (h : c = ',' ∨ c = ']' ∨ c = '\x7d') (rest : List Char) :
    Follows (c :: rest) := by
  intro other hother
  cases hother
  exact h

/-- A number is scanned as a value. -/
theorem scanValue_number (fuel : ℕ) {q : ℚ} (h : IsDecimal q) (hrest : Follows rest) :
    scanValue (fuel + 1) (printNumber q ++ rest) = some (.number q, rest) := by
  have hscan := scanNumber_append h hrest
  obtain ⟨c, digits, heq, hc⟩ := printNumber_eq_cons q
  have hstarts : Starts c := by
    rcases hc with rfl | hdigit
    · simp [Starts]
    · simp [Starts, hdigit]
  have hother : ∀ other, other ≠ '-' → other.isDigit = false → c ≠ other := by
    rintro other hminus hother rfl
    rcases hc with hsame | hdigit
    · exact hminus hsame
    · rw [hother] at hdigit
      cases hdigit
  rw [heq, List.cons_append] at hscan ⊢
  rw [scanValue, skip_cons hstarts.isSpace]
  split
  · rename_i heq
    exact absurd (List.cons.inj heq).1 (hother 'n' (by decide) rfl)
  · rename_i heq
    exact absurd (List.cons.inj heq).1 (hother 't' (by decide) rfl)
  · rename_i heq
    exact absurd (List.cons.inj heq).1 (hother 'f' (by decide) rfl)
  · rename_i heq
    exact absurd (List.cons.inj heq).1 (hother '"' (by decide) rfl)
  · rename_i heq
    exact absurd (List.cons.inj heq).1 (hother '[' (by decide) rfl)
  · rename_i heq
    exact absurd (List.cons.inj heq).1 (hother '\x7b' (by decide) rfl)
  · rw [hscan]
    rfl

theorem scanValue_text (fuel : ℕ) (value : String) (rest : List Char) :
    scanValue (fuel + 1) (printString value ++ rest) = some (.text value, rest) := by
  rw [printString, List.append_assoc, List.cons_append, scanValue, skip_cons (by rfl)]
  simp only [List.singleton_append, scanString_append, Option.map_some, String.ofList_toList]

/-- Nothing but the first property of a key is set anew. -/
theorem foldl_setField {made : List (String × Json)} (h : ((made ++ fields).map Prod.fst).Nodup) :
    fields.foldl setField made = made ++ fields := by
  induction fields generalizing made with
  | nil => simp
  | cons field fields ih =>
    have hnew : field.1 ∉ made.map Prod.fst := by
      intro hmem
      rw [List.map_append, List.map_cons] at h
      exact (List.nodup_append.1 h).2.2 _ hmem _ List.mem_cons_self rfl
    have hset : setField made field = made ++ [field] := if_neg hnew
    have happend : made ++ [field] ++ fields = made ++ field :: fields := by simp
    rw [List.foldl_cons, hset, ih (by rw [happend]; exact h), happend]

/-- Items after a bracket. -/
theorem scanValue_items {items : List Json} {c : Char} (hhead : text.head? = some c) (hc : Starts c)
    (h : scanItems fuel text = some (items, rest)) :
    scanValue (fuel + 1) ('[' :: text) = some (.array items, rest) := by
  obtain ⟨text, rfl⟩ := List.head?_eq_some_iff.1 hhead
  have hopen : scanValue (fuel + 1) ('[' :: c :: text) = match skip (c :: text) with
      | ']' :: rest => some (.array [], rest)
      | rest => (scanItems fuel rest).map fun scanned => (.array scanned.1, scanned.2) := rfl
  rw [hopen, skip_cons hc.isSpace]
  split
  · rename_i hbracket
    exact absurd (List.cons.inj hbracket).1 hc.ne
  · rw [h]
    rfl

/-- Properties after a bracket. -/
theorem scanValue_fields (h : scanFields fuel ('"' :: text) = some (fields, rest)) :
    scanValue (fuel + 1) ('\x7b' :: '"' :: text) =
      some (.object (fields.foldl setField []), rest) := by
  have hopen : scanValue (fuel + 1) ('\x7b' :: '"' :: text) =
      (scanFields fuel ('"' :: text)).map fun scanned =>
        (.object (scanned.1.foldl setField []), scanned.2) := rfl
  rw [hopen, h]
  rfl

theorem scanItems_comma {item : Json}
    (h : scanValue fuel text = some (item, ',' :: rest)) : scanItems (fuel + 1) text =
      (scanItems fuel rest).map fun scanned => (item :: scanned.1, scanned.2) := by
  rw [scanItems, h]
  change (scanItems fuel rest).bind (fun scanned => some (item :: scanned.1, scanned.2)) = _
  cases scanItems fuel rest <;> rfl

theorem scanItems_bracket {item : Json} (h : scanValue fuel text = some (item, ']' :: rest)) :
    scanItems (fuel + 1) text = some ([item], rest) := by
  rw [scanItems, h]
  rfl

theorem scanFields_comma {rest' key : List Char} (hkey : scanString text = some (key, ':' :: rest))
    (h : scanValue fuel rest = some (value, ',' :: rest')) :
    scanFields (fuel + 1) ('"' :: text) = (scanFields fuel rest').map fun scanned =>
      ((String.ofList key, value) :: scanned.1, scanned.2) := by
  rw [scanFields, skip_cons (by rfl)]
  change (scanString text).bind _ = _
  rw [hkey]
  change (scanValue fuel rest).bind _ = _
  rw [h]
  change (scanFields fuel rest').bind (fun scanned =>
    some ((String.ofList key, value) :: scanned.1, scanned.2)) = _
  cases scanFields fuel rest' <;> rfl

theorem scanFields_bracket {rest' key : List Char}
    (hkey : scanString text = some (key, ':' :: rest))
    (h : scanValue fuel rest = some (value, '\x7d' :: rest')) :
    scanFields (fuel + 1) ('"' :: text) = some ([(String.ofList key, value)], rest') := by
  rw [scanFields, skip_cons (by rfl)]
  change (scanString text).bind _ = _
  rw [hkey]
  change (scanValue fuel rest).bind _ = _
  rw [h]
  rfl

mutual

/-- **A value is read as it was printed**, with enough fuel. -/
theorem scanValue_append : ∀ (json : Json) (fuel : ℕ) (rest : List Char),
    (print json).length ≤ fuel → IsPlain json → Follows rest →
      scanValue fuel (print json ++ rest) = some (json, rest)
  | json, 0, _, hfuel, _, _ => by
    obtain ⟨c, rest, heq, -⟩ := print_eq_cons json
    simp [heq] at hfuel
  | .null, fuel + 1, rest, _, _, _ => by
    rw [print, List.cons_append, scanValue, skip_cons (by rfl)]
    rfl
  | .bool true, fuel + 1, rest, _, _, _ => by
    rw [print, List.cons_append, scanValue, skip_cons (by rfl)]
    rfl
  | .bool false, fuel + 1, rest, _, _, _ => by
    rw [print, List.cons_append, scanValue, skip_cons (by rfl)]
    rfl
  | .number value, fuel + 1, rest, _, hplain, hrest => by
    rw [IsPlain] at hplain
    rw [print]
    exact scanValue_number fuel hplain hrest
  | .text value, fuel + 1, rest, _, _, _ => by
    rw [print]
    exact scanValue_text fuel value rest
  | .array [], fuel + 1, rest, _, _, _ => by
    rw [print, printItems, List.cons_append, scanValue, skip_cons (by rfl)]
    rfl
  | .array (item :: items), fuel + 1, rest, hfuel, hplain, _ => by
    rw [IsPlain] at hplain
    rw [print, List.length_cons] at hfuel
    obtain ⟨c, text, heq, hc⟩ := print_eq_cons item
    rw [print, List.cons_append]
    refine scanValue_items ?_ hc (scanItems_append item items fuel rest (by omega) hplain)
    rw [printItems, heq]
    rfl
  | .object [], fuel + 1, rest, _, _, _ => by
    rw [print, printFields, List.cons_append, scanValue, skip_cons (by rfl)]
    rfl
  | .object ((key, value) :: fields), fuel + 1, rest, hfuel, hplain, _ => by
    rw [IsPlain] at hplain
    rw [print, List.length_cons] at hfuel
    have hfields := scanFields_append (key, value) fields fuel rest (by omega) hplain.2
    have hset := @foldl_setField ((key, value) :: fields) [] hplain.1
    rw [print, List.cons_append]
    rw [printFields, printString] at hfields ⊢
    simp only [List.cons_append] at hfields ⊢
    rw [scanValue_fields hfields, hset, List.nil_append]

theorem scanItems_append : ∀ (item : Json) (items : List Json) (fuel : ℕ) (rest : List Char),
    (printItems (item :: items)).length ≤ fuel → ArePlain (item :: items) →
      scanItems fuel (printItems (item :: items) ++ rest) = some (item :: items, rest)
  | item, items, 0, rest, hfuel, _ => by
    rw [printItems] at hfuel
    obtain ⟨c, text, heq, -⟩ := print_eq_cons item
    simp [heq] at hfuel
  | item, [], fuel + 1, rest, hfuel, hplain => by
    rw [ArePlain] at hplain
    simp [printItems] at hfuel
    have hitem := scanValue_append item fuel (']' :: rest) (by omega) hplain.1
      (follows_cons (by decide) rest)
    rw [printItems, List.append_assoc]
    exact scanItems_bracket hitem
  | item, next :: items, fuel + 1, rest, hfuel, hplain => by
    rw [ArePlain] at hplain
    rw [printItems] at hfuel
    simp at hfuel
    have hitem := scanValue_append item fuel (',' :: (printItems (next :: items) ++ rest))
      (by omega) hplain.1 (follows_cons (by decide) _)
    have hitems := scanItems_append next items fuel rest (by omega) hplain.2
    rw [printItems, List.append_assoc]
    exact (scanItems_comma hitem).trans (by rw [hitems]; rfl)

theorem scanFields_append : ∀ (field : String × Json) (fields : List (String × Json)) (fuel : ℕ)
    (rest : List Char), (printFields (field :: fields)).length ≤ fuel →
      HavePlain (field :: fields) →
        scanFields fuel (printFields (field :: fields) ++ rest) = some (field :: fields, rest)
  | field, fields, 0, rest, hfuel, _ => by
    simp [printFields, printString] at hfuel
  | (key, value), [], fuel + 1, rest, hfuel, hplain => by
    rw [HavePlain] at hplain
    simp [printFields] at hfuel
    have hvalue := scanValue_append value fuel ('\x7d' :: rest) (by omega) hplain.1
      (follows_cons (by decide) rest)
    have hkey := scanString_append key.toList (':' :: (print value ++ '\x7d' :: rest))
    have hfields := scanFields_bracket hkey hvalue
    rw [String.ofList_toList] at hfields
    rw [← hfields]
    simp [printFields, printString]
  | (key, value), next :: fields, fuel + 1, rest, hfuel, hplain => by
    rw [HavePlain] at hplain
    rw [printFields] at hfuel
    simp at hfuel
    have hvalue := scanValue_append value fuel (',' :: (printFields (next :: fields) ++ rest))
      (by omega) hplain.1 (follows_cons (by decide) _)
    have hrest := scanFields_append next fields fuel rest (by omega) hplain.2
    have hkey := scanString_append key.toList
      (':' :: (print value ++ ',' :: (printFields (next :: fields) ++ rest)))
    have hfields := scanFields_comma hkey hvalue
    rw [String.ofList_toList, hrest] at hfields
    refine Eq.trans ?_ hfields
    rw [printFields, printString]
    simp

end

/-- **A plain value is read as it was printed.** -/
theorem parse_print {json : Json} (h : IsPlain json) : parse (print json) = some json := by
  have hfollows : Follows [] := nofun
  have hscan := scanValue_append json ((print json).length + 1) [] (by omega) h hfollows
  rw [List.append_nil] at hscan
  rw [parse, hscan]
  rfl

/-- **Different values are printed differently.** -/
theorem print_injective {json json' : Json} (h : IsPlain json) (h' : IsPlain json')
    (heq : print json = print json') : json = json' := by
  have hparse := parse_print h
  rw [heq, parse_print h'] at hparse
  exact (Option.some.inj hparse).symm

/-! ### What is read is plain -/

theorem isDecimal_of_dvd {q : ℚ} {m : ℕ} (h : q.den ∣ 10 ^ m) : IsDecimal q := by
  -- a power of two times a power of five; the exponents are not larger than the number
  have hden : ∃ k ≤ q.den, q.den ∣ 10 ^ k := by
    have hfactors : (10 : ℕ) ^ m = 2 ^ m * 5 ^ m := Nat.mul_pow 2 5 m
    rw [hfactors] at h
    obtain ⟨x, y, hx, hy, hxy⟩ := (Nat.dvd_mul).1 h
    obtain ⟨i, -, rfl⟩ := (Nat.dvd_prime_pow Nat.prime_two).1 hx
    obtain ⟨j, -, rfl⟩ := (Nat.dvd_prime_pow Nat.prime_five).1 hy
    have hi : i < 2 ^ i := Nat.lt_pow_self (by decide)
    have hj : j < 5 ^ j := Nat.lt_pow_self (by decide)
    have hi' : 2 ^ i ≤ q.den := by
      rw [← hxy]
      exact Nat.le_mul_of_pos_right _ (Nat.pow_pos (by decide))
    have hj' : 5 ^ j ≤ q.den := by
      rw [← hxy]
      exact Nat.le_mul_of_pos_left _ (Nat.pow_pos (by decide))
    refine ⟨max i j, by omega, ?_⟩
    have hten : (10 : ℕ) ^ max i j = 2 ^ max i j * 5 ^ max i j := Nat.mul_pow 2 5 _
    rw [← hxy, hten]
    exact Nat.mul_dvd_mul (Nat.pow_dvd_pow 2 (le_max_left i j))
      (Nat.pow_dvd_pow 5 (le_max_right i j))
  obtain ⟨k, hk, hdvd⟩ := hden
  rw [IsDecimal, places]
  cases hfind : (List.range (q.den + 1)).find? fun k => decide (q.den ∣ 10 ^ k) with
  | none =>
    have hnot := List.find?_eq_none.1 hfind k (List.mem_range.2 (by omega))
    simp [hdvd] at hnot
  | some found =>
    have hfound := List.find?_some hfind
    exact of_decide_eq_true hfound

theorem isDecimal_mul_zpow (n : ℕ) (z : ℤ) : IsDecimal ((n : ℚ) * 10 ^ z) := by
  cases z with
  | ofNat k =>
    refine @isDecimal_of_dvd _ 0 ?_
    have hwhole : (n : ℚ) * 10 ^ (Int.ofNat k) = ((n * 10 ^ k : ℕ) : ℚ) := by simp
    rw [hwhole, Rat.den_natCast]
    exact Nat.one_dvd _
  | negSucc k =>
    refine @isDecimal_of_dvd _ (k + 1) ?_
    have hquotient : (n : ℚ) * 10 ^ (Int.negSucc k) =
        ((n : ℤ) : ℚ) / ((10 ^ (k + 1) : ℕ) : ℤ) := by
      rw [zpow_negSucc, div_eq_mul_inv]
      simp
    have hdvd := Rat.den_dvd (n : ℤ) ((10 ^ (k + 1) : ℕ) : ℤ)
    rw [Rat.divInt_eq_div] at hdvd
    rw [hquotient]
    exact Int.natCast_dvd_natCast.1 hdvd

theorem isDecimal_of_scanNumber {q : ℚ} (h : scanNumber text = some (q, rest)) : IsDecimal q := by
  have hmagnitude : ∀ {text rest : List Char} {q : ℚ}, scanMagnitude text = some (q, rest) →
      IsDecimal q := by
    intro text rest q h
    simp only [scanMagnitude, Option.bind_eq_bind, Option.bind_eq_some_iff, Option.pure_def,
      Option.some.injEq, Prod.mk.injEq] at h
    obtain ⟨whole, -, fraction, -, exponent, -, rfl, -⟩ := h
    exact isDecimal_mul_zpow _ _
  rw [scanNumber.eq_def] at h
  split at h
  · obtain ⟨⟨magnitude, after⟩, hscanned, heq⟩ := Option.map_eq_some_iff.1 h
    cases heq
    have hplain := hmagnitude hscanned
    have hden : (-magnitude).den = magnitude.den := Rat.den_neg_eq_den magnitude
    rw [IsDecimal, hden]
    exact hplain
  · exact hmagnitude h

theorem havePlain_map {key : String} (hvalue : IsPlain value) (h : HavePlain fields) :
    HavePlain (fields.map fun other => if other.1 = key then (key, value) else other) := by
  induction fields with
  | nil => exact trivial
  | cons field fields ih =>
    obtain ⟨name, other⟩ := field
    rw [HavePlain] at h
    rw [List.map_cons]
    split_ifs
    · exact ⟨hvalue, ih h.2⟩
    · exact ⟨h.1, ih h.2⟩

theorem havePlain_append {key : String} (h : HavePlain fields) (hvalue : IsPlain value) :
    HavePlain (fields ++ [(key, value)]) := by
  induction fields with
  | nil => exact ⟨hvalue, trivial⟩
  | cons field fields ih =>
    obtain ⟨name, other⟩ := field
    rw [HavePlain] at h
    exact ⟨h.1, ih h.2⟩

/-- Properties that are set one after the other. -/
theorem isPlain_foldl_setField {made : List (String × Json)} (h : HavePlain fields)
    (hmade : IsPlain (.object made)) : IsPlain (.object (fields.foldl setField made)) := by
  induction fields generalizing made with
  | nil => exact hmade
  | cons field fields ih =>
    obtain ⟨key, value⟩ := field
    rw [HavePlain] at h
    refine ih h.2 ?_
    rw [IsPlain] at hmade ⊢
    rw [setField]
    split_ifs with hmem
    · refine ⟨?_, havePlain_map h.1 hmade.2⟩
      have hkeys : (made.map fun other => if other.1 = key then (key, value) else other).map
          Prod.fst = made.map Prod.fst := by
        rw [List.map_map]
        refine List.map_congr_left fun other _ => ?_
        dsimp only [Function.comp_apply]
        split_ifs with hsame
        · exact hsame.symm
        · rfl
      rw [hkeys]
      exact hmade.1
    · refine ⟨?_, havePlain_append hmade.2 h.1⟩
      rw [List.map_append, List.map_singleton]
      exact List.Nodup.append hmade.1 (List.nodup_singleton _)
        (List.disjoint_singleton.2 hmem)

mutual

/-- **What is read is plain.** -/
theorem isPlain_of_scanValue : ∀ (fuel : ℕ) (text : List Char) (json : Json) (rest : List Char),
    scanValue fuel text = some (json, rest) → IsPlain json
  | 0, _, _, _, h => by
    rw [scanValue] at h
    cases h
  | fuel + 1, text, json, rest, h => by
    rw [scanValue] at h
    split at h
    · cases h
      exact trivial
    · cases h
      exact trivial
    · cases h
      exact trivial
    · obtain ⟨scanned, -, heq⟩ := Option.map_eq_some_iff.1 h
      cases heq
      exact trivial
    · split at h
      · cases h
        exact trivial
      · obtain ⟨scanned, hitems, heq⟩ := Option.map_eq_some_iff.1 h
        cases heq
        exact arePlain_of_scanItems fuel _ _ _ hitems
    · split at h
      · cases h
        exact ⟨List.nodup_nil, trivial⟩
      · obtain ⟨scanned, hfields, heq⟩ := Option.map_eq_some_iff.1 h
        cases heq
        exact isPlain_foldl_setField (havePlain_of_scanFields fuel _ _ _ hfields)
          ⟨List.nodup_nil, trivial⟩
    · obtain ⟨scanned, hnumber, heq⟩ := Option.map_eq_some_iff.1 h
      cases heq
      exact isDecimal_of_scanNumber hnumber

theorem arePlain_of_scanItems : ∀ (fuel : ℕ) (text : List Char) (items : List Json)
    (rest : List Char), scanItems fuel text = some (items, rest) → ArePlain items
  | 0, _, _, _, h => by
    rw [scanItems] at h
    cases h
  | fuel + 1, text, items, rest, h => by
    rw [scanItems] at h
    obtain ⟨⟨item, after⟩, hitem, h⟩ := Option.bind_eq_some_iff.1 h
    have hplain := isPlain_of_scanValue fuel _ _ _ hitem
    dsimp only at h
    split at h
    · obtain ⟨⟨others, after'⟩, hothers, h⟩ := Option.bind_eq_some_iff.1 h
      cases h
      exact ⟨hplain, arePlain_of_scanItems fuel _ _ _ hothers⟩
    · cases h
      exact ⟨hplain, trivial⟩
    · cases h

theorem havePlain_of_scanFields : ∀ (fuel : ℕ) (text : List Char) (fields : List (String × Json))
    (rest : List Char), scanFields fuel text = some (fields, rest) → HavePlain fields
  | 0, _, _, _, h => by
    rw [scanFields] at h
    cases h
  | fuel + 1, text, fields, rest, h => by
    rw [scanFields] at h
    split at h
    · obtain ⟨⟨key, after⟩, -, h⟩ := Option.bind_eq_some_iff.1 h
      dsimp only at h
      split at h
      · obtain ⟨⟨value, after'⟩, hvalue, h⟩ := Option.bind_eq_some_iff.1 h
        have hplain := isPlain_of_scanValue fuel _ _ _ hvalue
        dsimp only at h
        split at h
        · obtain ⟨⟨others, after''⟩, hothers, h⟩ := Option.bind_eq_some_iff.1 h
          cases h
          exact ⟨hplain, havePlain_of_scanFields fuel _ _ _ hothers⟩
        · cases h
          exact ⟨hplain, trivial⟩
        · cases h
      · cases h
    · cases h

end

/-- **What is read is plain.** -/
theorem isPlain_of_parse {json : Json} (h : parse text = some json) : IsPlain json := by
  rw [parse] at h
  split at h
  · rename_i found rest hscan
    split_ifs at h
    cases h
    exact isPlain_of_scanValue _ _ _ _ hscan
  · cases h

theorem HavePlain.of_mem (h : HavePlain fields) {field : String × Json} (hmem : field ∈ fields) :
    IsPlain field.2 := by
  induction fields with
  | nil => cases hmem
  | cons first rest ih =>
    rcases List.mem_cons.1 hmem with rfl | hmem
    · exact h.1
    · exact ih h.2 hmem

theorem IsPlain.of_field {json : Json} (h : IsPlain json) {key : String}
    (hfield : json.field key = some value) : IsPlain value := by
  cases json with
  | object fields =>
    obtain ⟨field, hfind, rfl⟩ := Option.map_eq_some_iff.1 hfield
    exact h.2.of_mem (List.mem_of_find?_eq_some hfind)
  | null => cases hfield
  | bool _ => cases hfield
  | number _ => cases hfield
  | text _ => cases hfield
  | array _ => cases hfield

end JsonText
