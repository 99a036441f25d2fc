/-
**base64url.**

Three bytes are four digits of six bits; one or two bytes that are left over are two or three
digits, whose last bits are zero.  There is no padding.

Main definitions:

* `Base64Url.encode`, `Base64Url.decode` — bytes as text, and back.

Main results:

* `Base64Url.decode_encode` — **what is encoded is decoded to itself**;
* `Base64Url.length_encode` — four characters for three bytes, rounded up;
* `Base64Url.exists_digit_of_mem_encode` — the text has no other characters than the digits.
-/

import Mathlib.Data.Fin.Basic
import Mathlib.Data.List.TakeWhile
import Mathlib.Tactic.IntervalCases

set_option relaxedAutoImplicit false
set_option autoImplicit false

namespace Base64Url

/-- A byte. -/
abbrev Byte := Fin 256

/-! ### Groups of six bits -/

variable (bytes : List Byte)

/-- The groups of six bits that bytes consist of. -/
def sextets : List Byte → List (Fin 64)
  | a :: b :: c :: rest =>
    Fin.ofNat 64 (a / 4) :: Fin.ofNat 64 (a % 4 * 16 + b / 16) ::
      Fin.ofNat 64 (b % 16 * 4 + c / 64) :: Fin.ofNat 64 (c % 64) :: sextets rest
  | [a, b] =>
    [Fin.ofNat 64 (a / 4), Fin.ofNat 64 (a % 4 * 16 + b / 16), Fin.ofNat 64 (b % 16 * 4)]
  | [a] => [Fin.ofNat 64 (a / 4), Fin.ofNat 64 (a % 4 * 16)]
  | [] => []

/-- The bytes that groups of six bits make up; bits that are left over are dropped. -/
def octets : List (Fin 64) → List Byte
  | p :: q :: r :: s :: rest =>
    Fin.ofNat 256 (p * 4 + q / 16) :: Fin.ofNat 256 (q % 16 * 16 + r / 4) ::
      Fin.ofNat 256 (r % 4 * 64 + s) :: octets rest
  | [p, q, r] => [Fin.ofNat 256 (p * 4 + q / 16), Fin.ofNat 256 (q % 16 * 16 + r / 4)]
  | [p, q] => [Fin.ofNat 256 (p * 4 + q / 16)]
  | _ => []

theorem octets_sextets : octets (sextets bytes) = bytes := by
  induction bytes using sextets.induct with
  | case1 a b c rest ih =>
    rw [sextets, octets, ih]
    simp only [List.cons.injEq, Fin.ext_iff, Fin.val_ofNat, and_true]
    omega
  | case2 a b =>
    rw [sextets, octets]
    simp only [List.cons.injEq, Fin.ext_iff, Fin.val_ofNat, and_true]
    omega
  | case3 a =>
    rw [sextets, octets]
    simp only [List.cons.injEq, Fin.ext_iff, Fin.val_ofNat, and_true]
    omega
  | case4 => rfl

theorem length_sextets : (sextets bytes).length = (4 * bytes.length + 2) / 3 := by
  induction bytes using sextets.induct with
  | case1 a b c rest ih =>
    simp only [sextets, List.length_cons, ih]
    omega
  | case2 a b => simp [sextets]
  | case3 a => simp [sextets]
  | case4 => rfl

/-! ### Digits -/

/-- The digits, in order. -/
def digits : List Char :=
  "ABCDEFGHIJKLMNOPQRSTUVWXYZabcdefghijklmnopqrstuvwxyz0123456789-_".toList

theorem length_digits : digits.length = 64 := by decide +kernel

def digit (value : Fin 64) : Char := digits.get (Fin.cast length_digits.symm value)

/-- What a character stands for; `+` and `/` stand for the last two digits as well. -/
def value (c : Char) : Option (Fin 64) :=
  if c = '+' then some 62
  else if c = '/' then some 63
  else (List.finRange 64).find? fun value => digit value = c

theorem value_digit : ∀ d : Fin 64, value (digit d) = some d := by decide +kernel

def encode : List Char := (sextets bytes).map digit

/-- Other characters are skipped, and a padding ends the text. -/
def decode (text : List Char) : List Byte :=
  octets ((text.takeWhile fun c => c ≠ '=').filterMap value)

theorem digit_ne_padding : ∀ d : Fin 64, digit d ≠ '=' := by decide +kernel

/-- **What is encoded is decoded to itself.** -/
theorem decode_encode : decode (encode bytes) = bytes := by
  have hwhole : (encode bytes).takeWhile (fun c => c ≠ '=') = encode bytes := by
    refine List.takeWhile_eq_self_iff.2 fun c hc => ?_
    obtain ⟨d, -, rfl⟩ := List.mem_map.1 hc
    simpa using digit_ne_padding d
  have hvalues : (encode bytes).filterMap value = sextets bytes := by
    rw [encode, List.filterMap_map]
    have hsome : value ∘ digit = some := funext value_digit
    rw [hsome, List.filterMap_some]
  rw [decode, hwhole, hvalues, octets_sextets]

/-- Four characters stand for three bytes. -/
theorem length_encode : (encode bytes).length = (4 * bytes.length + 2) / 3 := by
  rw [encode, List.length_map, length_sextets]

/-- A text has no other characters than the digits. -/
theorem exists_digit_of_mem_encode {bytes : List Byte} {c : Char} (h : c ∈ encode bytes) :
    ∃ d, c = digit d := by
  obtain ⟨d, -, rfl⟩ := List.mem_map.1 h
  exact ⟨d, rfl⟩

end Base64Url
