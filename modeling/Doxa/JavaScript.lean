/-
**The parts of ECMAScript the models rest on.**

The repository is TypeScript, so its strings are sequences of UTF-16 code units, compared unit by
unit, and its `/u` regular expressions read them by code point.  This module fixes those notions
once.  What the language decides about operands of *different* primitive types (a number read out of
a string, a boolean taken as a number), and how the platform lower-cases a string, is kept as a
parameter: the models pass it through and no result depends on it.

* `Js.JsString` — strings, ordered by code unit;
* `Js.codePoints` — the code points of a string, with surrogate pairs joined;
* `Js.Runtime` — the platform decisions that stay abstract;
* `Js.isSafeInteger` — `Number.isSafeInteger`.
-/

import Mathlib

set_option relaxedAutoImplicit false
set_option autoImplicit false

namespace Js

instance instNeZeroCodeUnits : NeZero 0x10000 := ⟨by decide⟩

/-- A UTF-16 code unit. -/
abbrev CodeUnit := Fin 0x10000

/-- A string: any sequence of code units, lone surrogates included. -/
abbrev JsString := List CodeUnit

/-- The string an ASCII literal of the source denotes. -/
def ofAscii (text : String) : JsString := text.toList.map fun c => Fin.ofNat 0x10000 c.toNat

/-- A high surrogate opens a pair. -/
def isHighSurrogate (u : CodeUnit) : Bool := 0xD800 ≤ u.val && u.val ≤ 0xDBFF

/-- A low surrogate closes a pair. -/
def isLowSurrogate (u : CodeUnit) : Bool := 0xDC00 ≤ u.val && u.val ≤ 0xDFFF

/-- The code points of a string: a surrogate pair is one code point, a lone surrogate is itself. -/
def codePoints : JsString → List ℕ
  | [] => []
  | [u] => [u.val]
  | u :: v :: rest =>
    if isHighSurrogate u && isLowSurrogate v then
      (0x10000 + (u.val - 0xD800) * 0x400 + (v.val - 0xDC00)) :: codePoints rest
    else
      u.val :: codePoints (v :: rest)

/-- The code points `.` does not match in a regular expression. -/
def isLineTerminator (c : ℕ) : Bool := c == 0x0A || c == 0x0D || c == 0x2028 || c == 0x2029

/-- The characters `String.prototype.trim` removes. -/
def isWhiteSpace (c : Char) : Bool :=
  [0x09, 0x0A, 0x0B, 0x0C, 0x0D, 0x20, 0xA0, 0x1680, 0x2028, 0x2029, 0x202F, 0x205F, 0x3000,
    0xFEFF].contains c.toNat || (0x2000 ≤ c.toNat && c.toNat ≤ 0x200A)

/-- `!text.trim()`. -/
def isBlank (text : String) : Bool := text.toList.all isWhiteSpace

/-- `Number.isSafeInteger` on an integer. -/
def isSafeInteger (n : ℤ) : Bool := decide (-(2 ^ 53 - 1) ≤ n ∧ n ≤ 2 ^ 53 - 1)

/-- A primitive value, after the datetime classes have been replaced by what they compare as. -/
inductive Primitive
  | undefined
  | null
  | string (text : JsString)
  | number (value : ℚ)
  | boolean (value : Bool)
  | bigint (value : ℤ)
deriving DecidableEq

/-- What the platform decides: `<` on two operands of different primitive types, and the default
locale's lower-casing. -/
structure Runtime where
  mixedLess : Primitive → Primitive → Bool
  toLocaleLowerCase : JsString → JsString

/-- ASCII lower-casing, and `false` for every mixed comparison: a number read out of a text that is
not one is `NaN`. -/
def Runtime.ascii : Runtime where
  mixedLess _ _ := false
  toLocaleLowerCase text :=
    text.map fun u => if 0x41 ≤ u.val ∧ u.val ≤ 0x5A then u + 0x20 else u

end Js
