/-
**The order of versions.**

An upgrade refuses a target that precedes the current version (`praxis/src/upgrade.ts`).
`compareVersions` splits both versions at dots and hyphens and compares the parts one by one:
numbers by their value, other parts by their characters, numbers before other parts; a version that
ends first comes last.

This orders the versions, but not as Semantic Versioning does.  There a release comes after its
pre-releases, which the comparison gets right, but of two pre-releases one with fewer identifiers
comes first; a hyphen is a character of an identifier, and numbers are compared however large they
are.  The orders agree where the first difference is not one of these.

Main definitions:

* `Doxa.versionPattern`, `Doxa.compareVersions`, `Doxa.assertNotDowngrade` — what the source has;
* `Doxa.SemanticVersion`, `Doxa.SemanticVersion.precedence` — Semantic Versioning;
* `Doxa.SemanticVersion.DecidedAlike` — where two versions differ first, both orders decide alike.

Main results:

* `Doxa.compareTokens_trans`, `Doxa.compareTokens_swap` — the comparison is an order;
* `Doxa.tokenize_text` — the parts of a version;
* `Doxa.semVer_ordered` — **the orders agree where the first difference decides alike**.
-/

import Mathlib
import Doxa.Lib.Double

set_option relaxedAutoImplicit false
set_option autoImplicit false

namespace Doxa

/-! ### The pattern of a version -/

/-- `\d+`, and what follows it. -/
def afterDigits (next : List Char → Bool) (text : List Char) : Bool :=
  !(text.takeWhile Char.isDigit).isEmpty && next (text.dropWhile Char.isDigit)

/-- `\.`, and what follows it. -/
def afterDot (next : List Char → Bool) : List Char → Bool
  | '.' :: rest => next rest
  | _ => false

/-- `[0-9A-Za-z.-]`. -/
def isSuffixCharacter (c : Char) : Bool := c.isAlphanum || c == '.' || c == '-'

/-- `(?:-[0-9A-Za-z.-]+)?$`. -/
def isVersionSuffix : List Char → Bool
  | [] => true
  | '-' :: rest => !rest.isEmpty && rest.all isSuffixCharacter
  | _ => false

/-- `versionPattern`. -/
def versionPattern (text : List Char) : Bool :=
  afterDigits (afterDot (afterDigits (afterDot (afterDigits isVersionSuffix)))) text

/-! ### The comparison -/

/-- `/^\d+$/`. -/
def isDigits (part : List Char) : Bool := !part.isEmpty && part.all Char.isDigit

/-- The number that digits write. -/
def digitsValue (digits : List Char) : ℕ :=
  digits.foldl (fun value c => 10 * value + (c.toNat - 48)) 0

/-- A part of a version, as it is compared. -/
inductive VersionToken
  | number (value : WithTop ℕ)
  | text (part : List Char)
deriving DecidableEq

/-- `/^\d+$/.test(part) ? Number(part) : part`. -/
def versionToken (part : List Char) : VersionToken :=
  if isDigits part then .number (Double.ofNat (digitsValue part))
  else .text part

/-- `[.-]`. -/
def isSeparator (c : Char) : Bool := c == '.' || c == '-'

/-- `tokenize`. -/
def tokenize (version : List Char) : List VersionToken :=
  (version.splitOnP isSeparator).map versionToken

/-- Of two parts that differ, this one is the lesser. -/
def VersionToken.isLess : VersionToken → VersionToken → Bool
  | number a, number b => a < b
  | text a, text b => a < b
  | number _, text _ => true
  | text _, number _ => false

/-- The loop of `compareVersions`. -/
def compareTokens : List VersionToken → List VersionToken → ℤ
  | [], [] => 0
  | [], _ :: _ => 1
  | _ :: _, [] => -1
  | a :: as, b :: bs => if a = b then compareTokens as bs else if a.isLess b then -1 else 1

/-- `compareVersions`. -/
def compareVersions (left right : List Char) : ℤ := compareTokens (tokenize left) (tokenize right)

/-- `assertNotDowngrade`. -/
def assertNotDowngrade (current target : String) : Except String Unit :=
  if compareVersions target.toList current.toList < 0 then
    .error ("Refusing to downgrade Doxa from " ++ current ++ " to " ++ target ++ ".")
  else .ok ()

theorem VersionToken.isLess_iff_not {a b : VersionToken} (h : a ≠ b) :
    a.isLess b = !b.isLess a := by
  cases a with
  | number x =>
    cases b with
    | number y =>
      have hne : x ≠ y := fun heq => h (congrArg number heq)
      rcases hne.lt_or_gt with hlt | hlt
      · simp [isLess, hlt, hlt.le]
      · simp [isLess, hlt, hlt.le]
    | text y => rfl
  | text x =>
    cases b with
    | number y => rfl
    | text y =>
      have hne : x ≠ y := fun heq => h (congrArg text heq)
      rcases hne.lt_or_gt with hlt | hlt
      · simp [isLess, hlt, hlt.le]
      · simp [isLess, hlt, hlt.le]

theorem VersionToken.isLess_trans {a b c : VersionToken} (h : a.isLess b = true)
    (h' : b.isLess c = true) : a.isLess c = true := by
  cases a <;> cases b <;> cases c <;> simp [isLess] at h h' ⊢
  · exact h.trans h'
  · exact h.trans h'

theorem VersionToken.isLess_self (a : VersionToken) : a.isLess a = false := by
  cases a <;> simp [isLess]

/-- **Swapping the versions swaps the result.** -/
theorem compareTokens_swap (left : List VersionToken) :
    ∀ right, compareTokens left right = -compareTokens right left := by
  induction left with
  | nil =>
    intro right
    cases right <;> rfl
  | cons a left ih =>
    intro right
    cases right with
    | nil => rfl
    | cons b right =>
      rw [compareTokens, compareTokens]
      by_cases heq : a = b
      · rw [if_pos heq, if_pos heq.symm, ih]
      · rw [if_neg heq, if_neg (Ne.symm heq), VersionToken.isLess_iff_not heq]
        cases b.isLess a <;> rfl

theorem compareTokens_cons_le_iff {a b : VersionToken} {left right : List VersionToken} :
    compareTokens (a :: left) (b :: right) ≤ 0 ↔
      a.isLess b = true ∨ (a = b ∧ compareTokens left right ≤ 0) := by
  rw [compareTokens]
  by_cases heq : a = b
  · rw [if_pos heq, heq, VersionToken.isLess_self]
    simp
  · rw [if_neg heq]
    cases a.isLess b <;> simp [heq]

/-- **The comparison is transitive.** -/
theorem compareTokens_trans {left : List VersionToken} : ∀ {middle right : List VersionToken},
    compareTokens left middle ≤ 0 → compareTokens middle right ≤ 0 →
      compareTokens left right ≤ 0 := by
  induction left with
  | nil =>
    intro middle right h h'
    cases middle with
    | nil => exact h'
    | cons b middle => simp [compareTokens] at h
  | cons a left ih =>
    intro middle right h h'
    cases right with
    | nil => simp [compareTokens]
    | cons c right =>
      cases middle with
      | nil => simp [compareTokens] at h'
      | cons b middle =>
        rw [compareTokens_cons_le_iff] at h h' ⊢
        rcases h with hless | ⟨rfl, hle⟩
        · rcases h' with hless' | ⟨rfl, -⟩
          · exact .inl (VersionToken.isLess_trans hless hless')
          · exact .inl hless
        · rcases h' with hless' | ⟨rfl, hle'⟩
          · exact .inl hless'
          · exact .inr ⟨rfl, ih hle hle'⟩

theorem compareTokens_append (common left right : List VersionToken) :
    compareTokens (common ++ left) (common ++ right) = compareTokens left right := by
  induction common with
  | nil => rfl
  | cons a common ih => rw [List.cons_append, List.cons_append, compareTokens, if_pos rfl, ih]

/-! ### Semantic Versioning -/

/-- An identifier of a pre-release. -/
structure Identifier where
  text : List Char
  nonempty : text ≠ []
  characters : ∀ c ∈ text, c.isAlphanum = true ∨ c = '-'
  no_leading_zero : isDigits text = true → text.head? = some '0' → text = ['0']

/-- A version without build metadata. -/
structure SemanticVersion where
  major : List Char
  minor : List Char
  patch : List Char
  prerelease : List Identifier
  major_digits : isDigits major = true
  minor_digits : isDigits minor = true
  patch_digits : isDigits patch = true

/-- The identifiers of a pre-release, with a hyphen before the first and dots between them. -/
def prereleaseText : List Identifier → List Char
  | [] => []
  | a :: rest => '-' :: (a.text ++ rest.flatMap fun b => '.' :: b.text)

/-- How a version is written. -/
def SemanticVersion.text (v : SemanticVersion) : List Char :=
  v.major ++ '.' :: (v.minor ++ '.' :: (v.patch ++ prereleaseText v.prerelease))

/-- What an identifier is compared by. -/
inductive IdentifierKey
  | number (value : ℕ)
  | text (characters : List Char)
deriving DecidableEq

/-- An identifier of digits is compared by its value. -/
def Identifier.key (a : Identifier) : IdentifierKey :=
  if isDigits a.text then .number (digitsValue a.text) else .text a.text

/-- Numbers by their value and other identifiers by their characters, numbers first. -/
def IdentifierKey.isLess : IdentifierKey → IdentifierKey → Bool
  | number a, number b => a < b
  | text a, text b => a < b
  | number _, text _ => true
  | text _, number _ => false

/-- Pre-releases: the first identifier that differs decides, else the shorter one is lower. -/
def comparePrereleases : List Identifier → List Identifier → ℤ
  | [], [] => 0
  | [], _ :: _ => -1
  | _ :: _, [] => 1
  | a :: as, b :: bs =>
    if a.key = b.key then comparePrereleases as bs else if a.key.isLess b.key then -1 else 1

/-- The first number that differs decides. -/
def compareNumbers : List ℕ → List ℕ → ℤ
  | a :: as, b :: bs => if a = b then compareNumbers as bs else if a < b then -1 else 1
  | _, _ => 0

namespace SemanticVersion

/-- Major, minor and patch version. -/
def numbers (v : SemanticVersion) : List ℕ :=
  [digitsValue v.major, digitsValue v.minor, digitsValue v.patch]

/-- Precedence: the numbers decide, then a release comes after its pre-releases. -/
def precedence (v w : SemanticVersion) : ℤ :=
  if v.numbers = w.numbers then
    match v.prerelease, w.prerelease with
    | [], [] => 0
    | [], _ :: _ => 1
    | _ :: _, [] => -1
    | as, bs => comparePrereleases as bs
  else compareNumbers v.numbers w.numbers

/-- The comparison of the source gives the precedence of two versions, and a target is refused
where it precedes the current version. -/
def SameOrder (target current : SemanticVersion) : Prop :=
  compareVersions target.text current.text = precedence target current ∧
    (assertNotDowngrade (String.ofList current.text) (String.ofList target.text) ≠ .ok () ↔
      precedence target current < 0)

end SemanticVersion

open SemanticVersion

/-! ### Where both orders decide alike -/

/-- The parts of an identifier between its hyphens. -/
def Identifier.pieces (a : Identifier) : List (List Char) := a.text.splitOnP isSeparator

/-- The first number that differs is not rounded to the same floating-point number. -/
def NumbersAlike : List ℕ → List ℕ → Prop
  | a :: as, b :: bs => if a = b then NumbersAlike as bs else Double.ofNat a ≠ Double.ofNat b
  | _, _ => True

/-- The first part that differs is in both identifiers, and is no number in either. -/
def PiecesAlike : List (List Char) → List (List Char) → Prop
  | p :: ps, q :: qs => if p = q then PiecesAlike ps qs else isDigits p = false ∧ isDigits q = false
  | _, _ => False

/-- Different identifiers are ordered by their parts as they are by themselves. -/
def KeysAlike (a b : Identifier) : Prop :=
  match a.key, b.key with
  | .number n, .number m => Double.ofNat n ≠ Double.ofNat m
  | .number _, .text _ => ∀ p ∈ b.pieces.head?, isDigits p = false
  | .text _, .number _ => ∀ p ∈ a.pieces.head?, isDigits p = false
  | .text _, .text _ => PiecesAlike a.pieces b.pieces

/-- The first identifier that differs is in both pre-releases, and is ordered alike. -/
def IdentifiersAlike : List Identifier → List Identifier → Prop
  | [], [] => True
  | a :: as, b :: bs => if a.key = b.key then IdentifiersAlike as bs else KeysAlike a b
  | _, _ => False

/-- What two versions differ in first decides alike in both orders. -/
def SemanticVersion.DecidedAlike (v w : SemanticVersion) : Prop :=
  NumbersAlike v.numbers w.numbers ∧
    (v.numbers = w.numbers → v.prerelease = [] ∨ w.prerelease = [] ∨
      IdentifiersAlike v.prerelease w.prerelease)

/-- No number is rounded, and no identifier has a hyphen. -/
def SemanticVersion.Plain (v : SemanticVersion) : Prop :=
  (∀ n ∈ v.numbers, n < 2 ^ 53) ∧
    ∀ a ∈ v.prerelease, '-' ∉ a.text ∧ (isDigits a.text = true → digitsValue a.text < 2 ^ 53)

/-! ### The parts of a version -/

variable {part : List Char}

theorem isDigits_iff : isDigits part = true ↔ part ≠ [] ∧ ∀ c ∈ part, c.isDigit = true := by
  simp [isDigits]

theorem isSeparator_of_isAlphanum {c : Char} (h : c.isAlphanum = true) : isSeparator c = false := by
  by_contra hsep
  simp only [isSeparator, Bool.not_eq_false, Bool.or_eq_true, beq_iff_eq] at hsep
  rcases hsep with rfl | rfl <;> exact absurd h (by decide)

theorem splitOnP_digits (h : isDigits part = true) : part.splitOnP isSeparator = [part] := by
  refine List.splitOnP_eq_singleton fun c hc => isSeparator_of_isAlphanum ?_
  simp [Char.isAlphanum, (isDigits_iff.1 h).2 c hc]

/-- Text that is followed by identifiers with dots before them. -/
theorem splitOnP_flatMap (rest : List Identifier) : ∀ xs : List Char,
    (xs ++ rest.flatMap fun b => '.' :: b.text).splitOnP isSeparator
      = xs.splitOnP isSeparator ++ rest.flatMap Identifier.pieces := by
  induction rest with
  | nil =>
    intro xs
    simp
  | cons b rest ih =>
    intro xs
    rw [List.flatMap_cons, List.cons_append, List.splitOnP_append_cons _ _ rfl, ih,
      List.flatMap_cons, Identifier.pieces]

/-- The identifiers' parts, as they are compared. -/
def Identifier.tokens (a : Identifier) : List VersionToken := a.pieces.map versionToken

/-- The tokens of the numbers, and what follows them. -/
def numberTokens (numbers : List ℕ) : List VersionToken :=
  numbers.map fun n => .number (Double.ofNat n)

theorem versionToken_digits (h : isDigits part = true) :
    versionToken part = .number (Double.ofNat (digitsValue part)) := by
  rw [versionToken, if_pos h]

theorem versionToken_text (h : isDigits part = false) : versionToken part = .text part := by
  rw [versionToken, if_neg (by simp [h])]

/-- **The parts of a version**: its numbers, then those of the identifiers. -/
theorem tokenize_text (v : SemanticVersion) :
    tokenize v.text = numberTokens v.numbers ++ v.prerelease.flatMap Identifier.tokens := by
  have hpatch : (v.patch ++ prereleaseText v.prerelease).splitOnP isSeparator
      = [v.patch] ++ v.prerelease.flatMap Identifier.pieces := by
    cases v.prerelease with
    | nil => simp [prereleaseText, splitOnP_digits v.patch_digits]
    | cons a rest =>
      rw [prereleaseText, List.splitOnP_append_cons _ _ rfl, splitOnP_digits v.patch_digits,
        splitOnP_flatMap, List.flatMap_cons, Identifier.pieces]
  rw [tokenize, text, List.splitOnP_append_cons _ _ rfl,
    List.splitOnP_append_cons _ _ rfl, hpatch, splitOnP_digits v.major_digits,
    splitOnP_digits v.minor_digits]
  simp [numberTokens, numbers, versionToken_digits v.major_digits,
    versionToken_digits v.minor_digits, versionToken_digits v.patch_digits, List.map_flatMap]
  rfl

/-! ### Numbers -/

theorem compareTokens_numbers {as : List ℕ} : ∀ {bs : List ℕ} {left right : List VersionToken},
    as.length = bs.length → NumbersAlike as bs →
      compareTokens (numberTokens as ++ left) (numberTokens bs ++ right)
        = if as = bs then compareTokens left right else compareNumbers as bs := by
  induction as with
  | nil =>
    intro bs left right hlen _
    cases bs with
    | nil => simp [numberTokens]
    | cons b bs => simp at hlen
  | cons a as ih =>
    intro bs left right hlen halike
    cases bs with
    | nil => simp at hlen
    | cons b bs =>
      rw [NumbersAlike] at halike
      by_cases heq : a = b
      · subst heq
        rw [if_pos rfl] at halike
        have htail := @ih bs left right (by simpa using hlen) halike
        simpa [numberTokens, compareTokens, compareNumbers] using htail
      · rw [if_neg heq] at halike
        have hless : (Double.ofNat a < Double.ofNat b) ↔ a < b := by
          constructor
          · exact Double.lt_of_ofNat_lt
          · intro hlt
            exact lt_of_le_of_ne (Double.ofNat_mono hlt.le) halike
        simp [numberTokens, compareTokens, compareNumbers, heq, halike, VersionToken.isLess,
          hless]

/-! ### Identifiers -/

/-- Parts with hyphens between them. -/
def hyphenated : List (List Char) → List Char
  | [] => []
  | p :: ps => p ++ ps.flatMap fun q => '-' :: q

theorem hyphenated_cons_cons (p q : List Char) (ps : List (List Char)) :
    hyphenated (p :: q :: ps) = p ++ '-' :: hyphenated (q :: ps) := by
  simp [hyphenated]

/-- The parts of a text without dots give the text, and have letters and digits only. -/
theorem hyphenated_splitOnP {text : List Char} (h : ∀ c ∈ text, c.isAlphanum = true ∨ c = '-') :
    hyphenated (text.splitOnP isSeparator) = text ∧
      ∀ p ∈ text.splitOnP isSeparator, ∀ c ∈ p, c.isAlphanum = true := by
  induction text with
  | nil => simp [hyphenated]
  | cons c text ih =>
    obtain ⟨hjoin, hchars⟩ := ih fun d hd => h d (List.mem_cons_of_mem c hd)
    obtain ⟨q, qs, hpieces⟩ := List.exists_cons_of_ne_nil
      (List.splitOnP_ne_nil isSeparator text)
    rw [hpieces] at hjoin hchars
    rw [List.splitOnP_cons_eq_if_modifyHead, hpieces]
    rcases h c List.mem_cons_self with halnum | rfl
    · rw [if_neg (by simp [isSeparator_of_isAlphanum halnum]), List.modifyHead_cons]
      refine ⟨by simpa [hyphenated] using hjoin, ?_⟩
      intro p hp d hd
      rcases List.mem_cons.1 hp with rfl | hp
      · rcases List.mem_cons.1 hd with rfl | hd
        · exact halnum
        · exact hchars q List.mem_cons_self d hd
      · exact hchars p (List.mem_cons_of_mem q hp) d hd
    · rw [if_pos (show isSeparator '-' = true from rfl)]
      refine ⟨by rw [hyphenated_cons_cons, hjoin, List.nil_append], ?_⟩
      intro p hp
      rcases List.mem_cons.1 hp with rfl | hp
      · simp
      · exact hchars p hp

theorem hyphen_lt_of_isAlphanum {c : Char} (h : c.isAlphanum = true) : '-' < c := by
  simp only [Char.isAlphanum, Char.isAlpha, Char.isUpper, Char.isLower, Char.isDigit,
    Bool.or_eq_true, Bool.and_eq_true, decide_eq_true_eq, UInt32.le_iff_toNat_le, ge_iff_le] at h
  rw [Char.lt_def, UInt32.lt_iff_toNat_lt]
  have hhyphen : '-'.val.toNat = 45 := rfl
  have hA : 'A'.val.toNat = 65 := rfl
  have ha : 'a'.val.toNat = 97 := rfl
  have h0 : '0'.val.toNat = 48 := rfl
  omega

/-- Texts whose first parts differ are in the order of these parts: a hyphen comes before every
character of a part. -/
theorem append_lt_append_iff {p : List Char} : ∀ {q left right : List Char}, p ≠ q →
    (∀ c ∈ p, '-' < c) → (∀ c ∈ q, '-' < c) → (∀ c ∈ left.head?, c = '-') →
      (∀ c ∈ right.head?, c = '-') → (p ++ left < q ++ right ↔ p < q) := by
  induction p with
  | nil =>
    intro q left right hne _ hq hleft _
    cases q with
    | nil => exact absurd rfl hne
    | cons d q =>
      have hd := hq d List.mem_cons_self
      cases left with
      | nil => simp
      | cons c left =>
        rw [show c = '-' from hleft c rfl]
        simp [List.cons_lt_cons_iff, hd]
  | cons c p ih =>
    intro q left right hne hp hq hleft hright
    have hc := hp c List.mem_cons_self
    cases q with
    | nil =>
      cases right with
      | nil => simp
      | cons d right =>
        rw [show d = '-' from hright d rfl]
        simp [List.cons_lt_cons_iff, hc.ne', hc.le]
    | cons d q =>
      rw [List.cons_append, List.cons_append, List.cons_lt_cons_iff, List.cons_lt_cons_iff]
      by_cases heq : c = d
      · subst heq
        have htail := @ih q left right (fun h => hne (congrArg (List.cons c) h))
          (fun e he => hp e (List.mem_cons_of_mem c he))
          (fun e he => hq e (List.mem_cons_of_mem c he)) hleft hright
        rw [htail]
      · simp [heq]

theorem append_left_lt_iff (p : List Char) {left right : List Char} :
    p ++ left < p ++ right ↔ left < right := by
  induction p with
  | nil => rfl
  | cons c p ih => simp [ih]

theorem head_flatMap_hyphen (ps : List (List Char)) :
    ∀ c ∈ (ps.flatMap fun q => '-' :: q).head?, c = '-' := by
  cases ps with
  | nil => simp
  | cons q ps => simp

/-- **Parts that differ first where neither is a number order the texts.** -/
theorem compareTokens_pieces {ps : List (List Char)} :
    ∀ {qs : List (List Char)} {left right : List VersionToken},
      (∀ p ∈ ps, ∀ c ∈ p, '-' < c) → (∀ q ∈ qs, ∀ c ∈ q, '-' < c) → PiecesAlike ps qs →
        compareTokens (ps.map versionToken ++ left) (qs.map versionToken ++ right)
          = if hyphenated ps < hyphenated qs then -1 else 1 := by
  induction ps with
  | nil =>
    intro qs left right _ _ halike
    simp [PiecesAlike] at halike
  | cons p ps ih =>
    intro qs left right hps hqs halike
    cases qs with
    | nil => simp [PiecesAlike] at halike
    | cons q qs =>
      rw [PiecesAlike] at halike
      by_cases heq : p = q
      · subst heq
        rw [if_pos rfl] at halike
        have htail := @ih qs left right
          (fun r hr => hps r (List.mem_cons_of_mem p hr))
          (fun r hr => hqs r (List.mem_cons_of_mem p hr)) halike
        -- both have a part after this one
        cases ps with
        | nil => simp [PiecesAlike] at halike
        | cons p' ps =>
          cases qs with
          | nil => simp [PiecesAlike] at halike
          | cons q' qs =>
            rw [hyphenated_cons_cons, hyphenated_cons_cons]
            simp only [append_left_lt_iff, List.cons_lt_cons_iff, lt_irrefl, false_or,
              true_and]
            rw [← htail]
            exact compareTokens_append [versionToken p] _ _
      · rw [if_neg heq] at halike
        have hiff : hyphenated (p :: ps) < hyphenated (q :: qs) ↔ p < q :=
          append_lt_append_iff heq (hps p List.mem_cons_self) (hqs q List.mem_cons_self)
            (head_flatMap_hyphen ps) (head_flatMap_hyphen qs)
        simp [compareTokens, versionToken_text halike.1, versionToken_text halike.2, heq,
          VersionToken.isLess, hiff]

namespace Identifier

variable {a : Identifier}

theorem key_eq_number {n : ℕ} (h : a.key = .number n) : a.tokens = [.number (Double.ofNat n)] := by
  rw [key] at h
  split_ifs at h with hdigits
  · rw [IdentifierKey.number.injEq] at h
    rw [tokens, pieces, splitOnP_digits hdigits, List.map_singleton, versionToken_digits hdigits, h]

theorem key_eq_text {t : List Char} (h : a.key = .text t) :
    isDigits a.text = false ∧ a.text = t := by
  rw [key] at h
  split_ifs at h with hdigits
  · exact ⟨by simpa using hdigits, by simpa using h⟩

theorem tokens_congr {b : Identifier} (h : a.key = b.key) : a.tokens = b.tokens := by
  cases hkey : a.key with
  | number n => rw [key_eq_number hkey, key_eq_number (h ▸ hkey)]
  | text t => rw [tokens, tokens, pieces, pieces, (key_eq_text hkey).2, (key_eq_text (h ▸ hkey)).2]

theorem tokens_of_head (h : ∀ p ∈ a.pieces.head?, isDigits p = false) :
    ∃ p rest, a.tokens = .text p :: rest := by
  obtain ⟨p, ps, hpieces⟩ := List.exists_cons_of_ne_nil
    (List.splitOnP_ne_nil isSeparator a.text)
  have hp : isDigits p = false := h p (by simp [pieces, hpieces])
  refine ⟨p, ps.map versionToken, ?_⟩
  rw [tokens, pieces, hpieces, List.map_cons, versionToken_text hp]

theorem tokens_ne_nil (a : Identifier) : a.tokens ≠ [] := by simp [tokens, pieces]

theorem hyphenated_pieces (a : Identifier) : hyphenated a.pieces = a.text :=
  (hyphenated_splitOnP a.characters).1

theorem hyphen_lt_of_mem_pieces (a : Identifier) : ∀ p ∈ a.pieces, ∀ c ∈ p, '-' < c :=
  fun p hp c hc => hyphen_lt_of_isAlphanum ((hyphenated_splitOnP a.characters).2 p hp c hc)

/-- **The first identifier that differs**, where it is ordered alike. -/
theorem compareTokens_of_keysAlike {b : Identifier} (h : KeysAlike a b)
    (left right : List VersionToken) :
    compareTokens (a.tokens ++ left) (b.tokens ++ right)
      = if a.key.isLess b.key then -1 else 1 := by
  cases ha : a.key with
  | number n =>
    cases hb : b.key with
    | number m =>
      simp only [KeysAlike, ha, hb] at h
      have hless : (Double.ofNat n < Double.ofNat m) ↔ n < m := by
        constructor
        · exact Double.lt_of_ofNat_lt
        · intro hlt
          exact lt_of_le_of_ne (Double.ofNat_mono hlt.le) h
      simp [key_eq_number ha, key_eq_number hb, compareTokens, h, VersionToken.isLess, hless,
        IdentifierKey.isLess]
    | text t =>
      simp only [KeysAlike, ha, hb] at h
      obtain ⟨p, rest, htokens⟩ := tokens_of_head h
      simp [key_eq_number ha, htokens, compareTokens, VersionToken.isLess, IdentifierKey.isLess]
  | text s =>
    cases hb : b.key with
    | number m =>
      simp only [KeysAlike, ha, hb] at h
      obtain ⟨p, rest, htokens⟩ := tokens_of_head h
      simp [key_eq_number hb, htokens, compareTokens, VersionToken.isLess, IdentifierKey.isLess]
    | text t =>
      simp only [KeysAlike, ha, hb] at h
      rw [tokens, tokens, compareTokens_pieces a.hyphen_lt_of_mem_pieces
        b.hyphen_lt_of_mem_pieces h, hyphenated_pieces, hyphenated_pieces, (key_eq_text ha).2,
        (key_eq_text hb).2]
      simp [IdentifierKey.isLess]

end Identifier

/-- **Pre-releases whose identifiers are ordered alike.** -/
theorem compareTokens_identifiers {as : List Identifier} : ∀ {bs : List Identifier},
    IdentifiersAlike as bs →
      compareTokens (as.flatMap Identifier.tokens) (bs.flatMap Identifier.tokens)
        = comparePrereleases as bs := by
  induction as with
  | nil =>
    intro bs h
    cases bs with
    | nil => rfl
    | cons b bs => simp [IdentifiersAlike] at h
  | cons a as ih =>
    intro bs h
    cases bs with
    | nil => simp [IdentifiersAlike] at h
    | cons b bs =>
      rw [IdentifiersAlike] at h
      rw [List.flatMap_cons, List.flatMap_cons, comparePrereleases]
      by_cases heq : a.key = b.key
      · rw [if_pos heq] at h ⊢
        rw [Identifier.tokens_congr heq, compareTokens_append, ih h]
      · rw [if_neg heq] at h ⊢
        exact Identifier.compareTokens_of_keysAlike h _ _

/-- Of plain identifiers, different ones are ordered alike. -/
theorem keysAlike_of_plain {a b : Identifier} (hne : a.key ≠ b.key)
    (ha : '-' ∉ a.text ∧ (isDigits a.text = true → digitsValue a.text < 2 ^ 53))
    (hb : '-' ∉ b.text ∧ (isDigits b.text = true → digitsValue b.text < 2 ^ 53)) :
    KeysAlike a b := by
  have hpieces : ∀ c : Identifier, '-' ∉ c.text → c.pieces = [c.text] := by
    intro c hc
    refine List.splitOnP_eq_singleton fun d hd => isSeparator_of_isAlphanum ?_
    rcases c.characters d hd with halnum | rfl
    · exact halnum
    · exact absurd hd hc
  by_cases hda : isDigits a.text = true
  · by_cases hdb : isDigits b.text = true
    · rw [Identifier.key, Identifier.key, if_pos hda, if_pos hdb] at hne
      simp only [KeysAlike, Identifier.key, if_pos hda, if_pos hdb]
      rw [Double.ofNat_of_lt (ha.2 hda), Double.ofNat_of_lt (hb.2 hdb)]
      intro heq
      exact hne (congrArg IdentifierKey.number (WithTop.coe_injective heq))
    · simp only [KeysAlike, Identifier.key, if_pos hda, if_neg hdb]
      simpa [hpieces b hb.1] using hdb
  · by_cases hdb : isDigits b.text = true
    · simp only [KeysAlike, Identifier.key, if_neg hda, if_pos hdb]
      simpa [hpieces a ha.1] using hda
    · rw [Identifier.key, Identifier.key, if_neg hda, if_neg hdb] at hne
      have htext : a.text ≠ b.text := fun heq => hne (congrArg IdentifierKey.text heq)
      simp only [KeysAlike, Identifier.key, if_neg hda, if_neg hdb]
      rw [hpieces a ha.1, hpieces b hb.1, PiecesAlike, if_neg htext]
      exact ⟨by simpa using hda, by simpa using hdb⟩

/-- **The shorter of two plain pre-releases comes last**, where Semantic Versioning has it first. -/
theorem identifiersAlike_of_plain {as : List Identifier} : ∀ {bs : List Identifier},
    (∀ a ∈ as, '-' ∉ a.text ∧ (isDigits a.text = true → digitsValue a.text < 2 ^ 53)) →
    (∀ b ∈ bs, '-' ∉ b.text ∧ (isDigits b.text = true → digitsValue b.text < 2 ^ 53)) →
    compareTokens (as.flatMap Identifier.tokens) (bs.flatMap Identifier.tokens)
      = comparePrereleases as bs → IdentifiersAlike as bs := by
  induction as with
  | nil =>
    intro bs _ _ h
    cases bs with
    | nil => trivial
    | cons b bs =>
      obtain ⟨token, rest, htokens⟩ := List.exists_cons_of_ne_nil b.tokens_ne_nil
      simp [htokens, compareTokens, comparePrereleases] at h
  | cons a as ih =>
    intro bs has hbs h
    cases bs with
    | nil =>
      obtain ⟨token, rest, htokens⟩ := List.exists_cons_of_ne_nil a.tokens_ne_nil
      simp [htokens, compareTokens, comparePrereleases] at h
    | cons b bs =>
      rw [List.flatMap_cons, List.flatMap_cons, comparePrereleases] at h
      rw [IdentifiersAlike]
      by_cases heq : a.key = b.key
      · rw [if_pos heq] at h ⊢
        rw [Identifier.tokens_congr heq, compareTokens_append] at h
        exact ih (fun c hc => has c (List.mem_cons_of_mem a hc))
          (fun c hc => hbs c (List.mem_cons_of_mem b hc)) h
      · rw [if_neg heq]
        exact keysAlike_of_plain heq (has a List.mem_cons_self) (hbs b List.mem_cons_self)

/-! ### Versions -/

namespace SemanticVersion

theorem versionPattern_text (v : SemanticVersion) : versionPattern v.text = true := by
  have hafter : ∀ {digits rest : List Char} (next : List Char → Bool), isDigits digits = true →
      (∀ c ∈ rest.head?, c.isDigit = false) → next rest = true →
        afterDigits next (digits ++ rest) = true := by
    intro digits rest next hdigits hrest hnext
    obtain ⟨hne, hall⟩ := isDigits_iff.1 hdigits
    have htake : rest.takeWhile Char.isDigit = [] := by
      cases rest with
      | nil => rfl
      | cons c rest => simp [hrest c rfl]
    have hdrop : rest.dropWhile Char.isDigit = rest := by
      cases rest with
      | nil => rfl
      | cons c rest => simp [hrest c rfl]
    rw [afterDigits, List.takeWhile_append_of_pos hall, List.dropWhile_append_of_pos hall, htake,
      hdrop, hnext]
    simpa using hne
  have hdot : ∀ rest : List Char, ∀ c ∈ ('.' :: rest).head?, c.isDigit = false := by simp
  refine hafter _ v.major_digits (hdot _) (hafter _ v.minor_digits (hdot _)
    (hafter _ v.patch_digits ?_ ?_))
  · cases v.prerelease <;> simp [prereleaseText]
  · cases v.prerelease with
    | nil => rfl
    | cons a rest =>
      have hsuffix : ∀ b : Identifier, ∀ c ∈ b.text, isSuffixCharacter c = true := by
        intro b c hc
        rcases b.characters c hc with halnum | rfl
        · simp [isSuffixCharacter, halnum]
        · rfl
      have ha := a.nonempty
      simp only [prereleaseText, isVersionSuffix, Bool.and_eq_true, List.all_append,
        List.all_eq_true, List.all_flatMap]
      refine ⟨by simp [ha], hsuffix a, ?_⟩
      intro b _ c hc
      rcases List.mem_cons.1 hc with rfl | hc
      · rfl
      · exact hsuffix b c hc

variable {v w : SemanticVersion}

/-- The comparison of two versions whose numbers are ordered alike. -/
theorem compareVersions_text (h : NumbersAlike v.numbers w.numbers) :
    compareVersions v.text w.text
      = if v.numbers = w.numbers then
          compareTokens (v.prerelease.flatMap Identifier.tokens)
            (w.prerelease.flatMap Identifier.tokens)
        else compareNumbers v.numbers w.numbers := by
  rw [compareVersions, tokenize_text, tokenize_text]
  exact compareTokens_numbers rfl h

theorem flatMap_tokens_cons (a : Identifier) (as : List Identifier) :
    ∃ token rest, (a :: as).flatMap Identifier.tokens = token :: rest := by
  obtain ⟨token, rest, htokens⟩ := List.exists_cons_of_ne_nil a.tokens_ne_nil
  exact ⟨token, rest ++ as.flatMap Identifier.tokens, by rw [List.flatMap_cons, htokens,
    List.cons_append]⟩

/-- Pre-releases and releases of the same numbers. -/
theorem compareTokens_prerelease (heq : v.numbers = w.numbers) :
    v.prerelease = [] ∨ w.prerelease = [] →
      compareTokens (v.prerelease.flatMap Identifier.tokens)
        (w.prerelease.flatMap Identifier.tokens) = precedence v w := by
  rw [precedence, if_pos heq]
  cases v.prerelease with
  | nil =>
    cases w.prerelease with
    | nil => exact fun _ => rfl
    | cons b bs =>
      obtain ⟨token, rest, htokens⟩ := flatMap_tokens_cons b bs
      rw [htokens]
      exact fun _ => rfl
  | cons a as =>
    cases w.prerelease with
    | nil =>
      obtain ⟨token, rest, htokens⟩ := flatMap_tokens_cons a as
      rw [htokens]
      exact fun _ => rfl
    | cons b bs =>
      intro h
      simp at h

/-- Two pre-releases of the same numbers. -/
theorem precedence_of_prereleases (heq : v.numbers = w.numbers) (hv : v.prerelease ≠ [])
    (hw : w.prerelease ≠ []) : precedence v w = comparePrereleases v.prerelease w.prerelease := by
  rw [precedence, if_pos heq]
  cases hvp : v.prerelease with
  | nil => exact absurd hvp hv
  | cons a as =>
    cases hwp : w.prerelease with
    | nil => exact absurd hwp hw
    | cons b bs => rfl

/-- **Versions that are decided alike have the precedence the source gives them.** -/
theorem compareVersions_eq_precedence (h : DecidedAlike v w) :
    compareVersions v.text w.text = precedence v w := by
  obtain ⟨hnumbers, hpre⟩ := h
  rw [compareVersions_text hnumbers]
  by_cases heq : v.numbers = w.numbers
  · rw [if_pos heq]
    by_cases hrelease : v.prerelease = [] ∨ w.prerelease = []
    · exact compareTokens_prerelease heq hrelease
    · rw [not_or] at hrelease
      rcases hpre heq with hv | hw | halike
      · exact absurd hv hrelease.1
      · exact absurd hw hrelease.2
      · rw [compareTokens_identifiers halike, precedence_of_prereleases heq hrelease.1 hrelease.2]
  · rw [if_neg heq, precedence, if_neg heq]

theorem numbersAlike_of_lt {as : List ℕ} : ∀ {bs : List ℕ}, (∀ n ∈ as, n < 2 ^ 53) →
    (∀ n ∈ bs, n < 2 ^ 53) → NumbersAlike as bs := by
  induction as with
  | nil =>
    intro bs _ _
    trivial
  | cons a as ih =>
    intro bs has hbs
    cases bs with
    | nil => trivial
    | cons b bs =>
      rw [NumbersAlike]
      split_ifs with heq
      · exact ih (fun n hn => has n (List.mem_cons_of_mem a hn))
          (fun n hn => hbs n (List.mem_cons_of_mem b hn))
      · rw [Double.ofNat_of_lt (has a List.mem_cons_self),
          Double.ofNat_of_lt (hbs b List.mem_cons_self)]
        exact fun hcoe => heq (WithTop.coe_injective hcoe)

/-- Plain versions are ordered alike only where they are decided alike. -/
theorem decidedAlike_of_plain (hv : v.Plain) (hw : w.Plain)
    (h : compareVersions v.text w.text = precedence v w) : DecidedAlike v w := by
  have hnumbers := numbersAlike_of_lt hv.1 hw.1
  refine ⟨hnumbers, ?_⟩
  intro heq
  by_cases hvp : v.prerelease = []
  · exact .inl hvp
  · by_cases hwp : w.prerelease = []
    · exact .inr (.inl hwp)
    · rw [compareVersions_text hnumbers, if_pos heq, precedence_of_prereleases heq hvp hwp] at h
      exact .inr (.inr (identifiersAlike_of_plain hv.2 hw.2 h))

theorem sameOrder_iff {target current : SemanticVersion} :
    SameOrder target current ↔
      compareVersions target.text current.text = precedence target current := by
  rw [SameOrder, and_iff_left_iff_imp]
  intro h
  rw [assertNotDowngrade, String.toList_ofList, String.toList_ofList, h]
  split_ifs with hlt
  · simp [hlt]
  · simp [hlt]

end SemanticVersion

/-- **The comparison is an order, and that of Semantic Versioning where two versions are decided
alike** — for versions without rounded numbers and without hyphens, only there. -/
theorem semVer_ordered (v w : SemanticVersion) (left middle right : List Char) :
    (v.DecidedAlike w → v.SameOrder w) ∧
    (v.Plain → w.Plain → v.SameOrder w → v.DecidedAlike w) ∧
    compareVersions left right = -compareVersions right left ∧
    (compareVersions left middle ≤ 0 → compareVersions middle right ≤ 0 →
      compareVersions left right ≤ 0) := by
  refine ⟨?_, ?_, compareTokens_swap _ _, compareTokens_trans⟩
  · intro h
    exact SemanticVersion.sameOrder_iff.2 (compareVersions_eq_precedence h)
  · intro hv hw h
    exact decidedAlike_of_plain hv hw (SemanticVersion.sameOrder_iff.1 h)

/-- `alpha`. -/
def alpha : Identifier where
  text := "alpha".toList
  nonempty := by simp
  characters := by simp
  no_leading_zero := by simp

/-- `1`. -/
def identifierOne : Identifier where
  text := "1".toList
  nonempty := by simp
  characters := by simp
  no_leading_zero := by simp

/-- A pre-release of `1.0.0`. -/
def firstRelease (prerelease : List Identifier) : SemanticVersion where
  major := "1".toList
  minor := "0".toList
  patch := "0".toList
  prerelease := prerelease
  major_digits := rfl
  minor_digits := rfl
  patch_digits := rfl

theorem compareVersions_firstRelease (as bs : List Identifier) :
    compareVersions (firstRelease as).text (firstRelease bs).text
      = compareTokens (as.flatMap Identifier.tokens) (bs.flatMap Identifier.tokens) := by
  rw [compareVersions_text (by
    simp [numbers, NumbersAlike, firstRelease])]
  exact if_pos rfl

/-- `1.0.0-alpha` precedes `1.0.0` in both orders. -/
theorem semVer_ordered_release :
    (firstRelease [alpha]).SameOrder (firstRelease []) ∧
      (firstRelease []).DecidedAlike (firstRelease [alpha]) ∧
      compareVersions (firstRelease [alpha]).text (firstRelease []).text ≤ 0 :=
  ⟨(semVer_ordered (firstRelease [alpha]) (firstRelease []) [] [] []).1
      (by simp [DecidedAlike, numbers, NumbersAlike, firstRelease]),
    (semVer_ordered (firstRelease []) (firstRelease [alpha]) [] [] []).2.1
      (by simp [Plain, numbers, firstRelease, digitsValue])
      (by
        simp [Plain, numbers, firstRelease, digitsValue, alpha,
          isDigits])
      (SemanticVersion.sameOrder_iff.2 (compareVersions_firstRelease [] [alpha])),
    (semVer_ordered (firstRelease []) (firstRelease []) (firstRelease [alpha]).text
      (firstRelease []).text (firstRelease []).text).2.2.2
      (by
        rw [compareVersions_firstRelease]
        exact show (-1 : ℤ) ≤ 0 by simp)
      (by simp [compareVersions_firstRelease, compareTokens])⟩

/-- From `1.0.0-alpha` the later `1.0.0-alpha.1` is refused as a downgrade. -/
theorem later_prerelease_refused :
    (firstRelease [alpha, identifierOne]).text = "1.0.0-alpha.1".toList ∧
      (firstRelease [alpha]).text = "1.0.0-alpha".toList ∧
      (firstRelease [alpha, identifierOne]).precedence (firstRelease [alpha]) = 1 ∧
      compareVersions (firstRelease [alpha, identifierOne]).text (firstRelease [alpha]).text = -1 ∧
      ¬ (firstRelease [alpha, identifierOne]).SameOrder (firstRelease [alpha]) := by
  have hcompare : compareVersions (firstRelease [alpha, identifierOne]).text
      (firstRelease [alpha]).text = -1 := compareVersions_firstRelease _ _
  have hprecedence : (firstRelease [alpha, identifierOne]).precedence (firstRelease [alpha]) = 1 :=
    rfl
  refine ⟨rfl, rfl, hprecedence, hcompare, ?_⟩
  rw [sameOrder_iff, hcompare, hprecedence]
  simp

end Doxa
