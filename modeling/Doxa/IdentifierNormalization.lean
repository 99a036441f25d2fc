/-
**Normalised identifiers.**

An identifier is normalised before it is stored, and before an identity is looked up
(`normalizeIdentifier`, `auth-postgres/src/request-auth.ts`).  The runtime normalises the identities
of a model in the same way (`normalizeAuthenticationAttribute`, `runtime/src/runtime.ts`).  The
preset `exact` composes the text; the others trim it, compose it and lower-case it, in this order.

What is lower-cased last need not be composed: there is a small letter with a line below, but no
capital one, so the capital letter and its mark are kept apart, become a small letter and a mark,
and are combined when the identifier is normalised again.  An identity that was registered so is not
found by the identifier that was stored.

The Unicode data is a parameter, with the facts the texts of this module rest on.

Main definitions:

* `Doxa.UnicodeData` — the data;
* `Doxa.UnicodeData.normalizeIdentifier`, `Doxa.UnicodeData.normalizeAuthenticationAttribute` — the
  two functions;
* `Doxa.IdentityTable` — identities, by their identifiers;
* `Doxa.IdentifierStable` — what is promised of a text.

Main results:

* `Doxa.UnicodeData.lowered_lowered` — what a second normalisation makes of an identifier;
* `Doxa.identifier_stable_iff` — **the identifiers that are normalised once and for all**.
-/

import Doxa.ExecutionContext
import Doxa.JavaScript
import Doxa.Lib.CanonicalForm
import Doxa.Lib.Except

set_option relaxedAutoImplicit false
set_option autoImplicit false

namespace Doxa

open CanonicalForm Except

/-! ### Unicode data -/

/-- A character that lower-casing leaves as it is, wherever it stands. -/
def IsLowered (lowercase : Char → List Char) (c : Char) : Prop := c ≠ 'Σ' ∧ lowercase c = [c]

instance (lowercase : Char → List Char) (c : Char) : Decidable (IsLowered lowercase c) :=
  inferInstanceAs (Decidable (_ ∧ _))

/-- What is known of the characters. -/
structure UnicodeData extends Repertoire Char where
  /-- A character in lower case; the capital sigma depends on what stands beside it. -/
  lowercase : Char → List Char
  cased : Char → Bool
  caseIgnorable : Char → Bool
  separated : toRepertoire.SeparatedBy Js.isWhiteSpace
  lowercase_ne_nil : ∀ c, lowercase c ≠ []
  isWhiteSpace_lowercase : ∀ c, ∀ d ∈ lowercase c, Js.isWhiteSpace d = Js.isWhiteSpace c
  isLowered_lowercase : ∀ c, c ≠ 'Σ' → ∀ d ∈ lowercase c, IsLowered lowercase d
  isLowered_sigma : IsLowered lowercase 'σ' ∧ IsLowered lowercase 'ς'
  isLowered_decomposition : ∀ c, IsLowered lowercase c →
    ∀ d ∈ decomposition c, IsLowered lowercase d
  isLowered_composite : ∀ a c p, composite a c = some p → IsLowered lowercase a →
    IsLowered lowercase c → IsLowered lowercase p
  isInert_ascii : ∀ c : Char, c.toNat < 128 → toRepertoire.IsInert c
  lowercase_ascii : ∀ c : Char, c.toNat < 128 → lowercase c = [c.toLower]

namespace UnicodeData

variable (U : UnicodeData)

/-- A cased letter stands before, with nothing between that does not matter; the text is reversed.
-/
def besideCased : List Char → Bool
  | [] => false
  | c :: rest => U.cased c || (U.caseIgnorable c && besideCased rest)

/-- A character in lower case, between what stands before it (reversed) and after it. -/
def lowerChar (before : List Char) (c : Char) (after : List Char) : List Char :=
  if c = 'Σ' then
    [if U.besideCased before && !U.besideCased after then 'ς' else 'σ']
  else U.lowercase c

/-- What follows `before`, in lower case. -/
def toLowerCaseFrom (before : List Char) : List Char → List Char
  | [] => []
  | c :: rest => U.lowerChar before c rest ++ toLowerCaseFrom (c :: before) rest

/-- `toLowerCase`. -/
def toLowerCase (text : List Char) : List Char := U.toLowerCaseFrom [] text

/-- `value.trim().normalize('NFC').toLowerCase()`. -/
def lowered (value : List Char) : List Char :=
  U.toLowerCase (U.normalize (Repertoire.trim Js.isWhiteSpace value))

variable {U}

theorem mem_lowerChar {before after : List Char} {c d : Char}
    (h : d ∈ U.lowerChar before c after) :
    (c = 'Σ' ∧ (d = 'σ' ∨ d = 'ς')) ∨ (c ≠ 'Σ' ∧ d ∈ U.lowercase c) := by
  rw [lowerChar] at h
  by_cases hsigma : c = 'Σ'
  · rw [if_pos hsigma, List.mem_singleton] at h
    split_ifs at h
    · exact .inl ⟨hsigma, .inr h⟩
    · exact .inl ⟨hsigma, .inl h⟩
  · rw [if_neg hsigma] at h
    exact .inr ⟨hsigma, h⟩

theorem isLowered_of_mem_lowerChar {before after : List Char} {c d : Char}
    (h : d ∈ U.lowerChar before c after) : IsLowered U.lowercase d := by
  rcases mem_lowerChar h with ⟨-, rfl | rfl⟩ | ⟨hsigma, hd⟩
  · exact U.isLowered_sigma.1
  · exact U.isLowered_sigma.2
  · exact U.isLowered_lowercase c hsigma d hd

theorem lowerChar_ne_nil (before : List Char) (c : Char) (after : List Char) :
    U.lowerChar before c after ≠ [] := by
  rw [lowerChar]
  by_cases hsigma : c = 'Σ'
  · rw [if_pos hsigma]
    simp
  · rw [if_neg hsigma]
    exact U.lowercase_ne_nil c

theorem isWhiteSpace_of_mem_lowerChar {before after : List Char} {c d : Char}
    (h : d ∈ U.lowerChar before c after) : Js.isWhiteSpace d = Js.isWhiteSpace c := by
  rcases mem_lowerChar h with ⟨rfl, rfl | rfl⟩ | ⟨-, hd⟩
  · rfl
  · rfl
  · exact U.isWhiteSpace_lowercase c d hd

theorem lowerChar_of_isLowered {c : Char} (h : IsLowered U.lowercase c)
    (before after : List Char) : U.lowerChar before c after = [c] := by
  rw [lowerChar, if_neg h.1, h.2]

theorem isLowered_of_mem_toLowerCaseFrom {text : List Char} :
    ∀ {before : List Char}, ∀ d ∈ U.toLowerCaseFrom before text, IsLowered U.lowercase d := by
  induction text with
  | nil =>
    intro before d hd
    cases hd
  | cons c rest ih =>
    intro before d hd
    rcases List.mem_append.1 hd with hd | hd
    · exact isLowered_of_mem_lowerChar hd
    · exact ih d hd

theorem toLowerCaseFrom_of_isLowered {text : List Char} :
    ∀ {before : List Char}, (∀ c ∈ text, IsLowered U.lowercase c) →
      U.toLowerCaseFrom before text = text := by
  induction text with
  | nil =>
    intro before _
    rfl
  | cons c rest ih =>
    intro before h
    obtain ⟨hc, hrest⟩ := List.forall_mem_cons.1 h
    rw [toLowerCaseFrom, ih hrest, lowerChar_of_isLowered hc]
    rfl

/-- Lower-casing does not make a text begin with white space. -/
theorem head?_toLowerCaseFrom {before text : List Char}
    (h : ∀ c ∈ text.head?, Js.isWhiteSpace c = false) :
    ∀ d ∈ (U.toLowerCaseFrom before text).head?, Js.isWhiteSpace d = false := by
  cases text with
  | nil => exact h
  | cons c rest =>
    intro d hd
    rw [toLowerCaseFrom, List.head?_append_of_ne_nil _ (lowerChar_ne_nil before c rest)] at hd
    rw [isWhiteSpace_of_mem_lowerChar (List.mem_of_mem_head? hd)]
    exact h c rfl

/-- Lower-casing does not make a text end with white space. -/
theorem getLast?_toLowerCaseFrom {text : List Char} : ∀ {before : List Char},
    (∀ c ∈ text.getLast?, Js.isWhiteSpace c = false) →
      ∀ d ∈ (U.toLowerCaseFrom before text).getLast?, Js.isWhiteSpace d = false := by
  induction text with
  | nil =>
    intro before h
    exact h
  | cons c rest ih =>
    intro before h d hd
    rw [toLowerCaseFrom] at hd
    cases rest with
    | nil =>
      rw [toLowerCaseFrom, List.append_nil] at hd
      rw [isWhiteSpace_of_mem_lowerChar (List.mem_of_getLast? hd)]
      exact h c rfl
    | cons e others =>
      have hne : U.toLowerCaseFrom (c :: before) (e :: others) ≠ [] := by
        rw [toLowerCaseFrom]
        exact List.append_ne_nil_of_left_ne_nil (lowerChar_ne_nil _ e others) _
      rw [List.getLast?_append_of_ne_nil _ hne] at hd
      refine ih (fun c' hc' => h c' ?_) d hd
      rwa [List.getLast?_cons_cons]

theorem trim_toLowerCase {text : List Char}
    (h : Repertoire.trim Js.isWhiteSpace text = text) :
    Repertoire.trim Js.isWhiteSpace (U.toLowerCase text) = U.toLowerCase text := by
  obtain ⟨hhead, hlast⟩ := Repertoire.trim_eq_self_iff.1 h
  exact Repertoire.trim_eq_self_iff.2
    ⟨head?_toLowerCaseFrom hhead, getLast?_toLowerCaseFrom hlast⟩

theorem isLowered_of_mem_normalize {text : List Char} (h : ∀ c ∈ text, IsLowered U.lowercase c) :
    ∀ c ∈ U.normalize text, IsLowered U.lowercase c :=
  Repertoire.forall_mem_normalize U.isLowered_decomposition U.isLowered_composite h

theorem trim_lowered (value : List Char) :
    Repertoire.trim Js.isWhiteSpace (U.lowered value) = U.lowered value :=
  trim_toLowerCase (U.separated.trim_normalize (Repertoire.trim_trim _ value))

theorem isLowered_of_mem_lowered {value : List Char} :
    ∀ c ∈ U.lowered value, IsLowered U.lowercase c := isLowered_of_mem_toLowerCaseFrom

/-- Normalising a trimmed text in lower case composes it. -/
theorem lowered_of_isLowered {text : List Char}
    (htrim : Repertoire.trim Js.isWhiteSpace text = text)
    (h : ∀ c ∈ text, IsLowered U.lowercase c) : U.lowered text = U.normalize text := by
  rw [lowered, htrim]
  exact toLowerCaseFrom_of_isLowered (isLowered_of_mem_normalize h)

/-- **A second normalisation composes what the first one lower-cased.** -/
theorem lowered_lowered (value : List Char) :
    U.lowered (U.lowered value) = U.normalize (U.lowered value) :=
  lowered_of_isLowered (trim_lowered value) isLowered_of_mem_lowered

theorem lowered_congr {value other : List Char} (h : U.Equivalent value other) :
    U.lowered value = U.lowered other := by
  rw [lowered, lowered, (U.separated.equivalent_trim h).normalize]

end UnicodeData

/-! ### The two functions -/

/-- A domain that is added to identifiers without one. -/
structure EmailDomain where
  text : List Char
  /-- It consists of small letters, digits, dots and hyphens. -/
  normalised : ∀ c ∈ text, c.isLower = true ∨ c.isDigit = true ∨ c = '.' ∨ c = '-'

/-- How identifiers are normalised. -/
inductive AuthNormalization
  | exact
  | lowercase
  | email
  | emailOrDomain (domain : EmailDomain)

/-- The preset is one for addresses. -/
def AuthNormalization.isEmail : AuthNormalization → Bool
  | exact => false
  | lowercase => false
  | email => true
  | emailOrDomain _ => true

/-- The domain is added if there is none. -/
def AuthNormalization.complete (normalization : AuthNormalization) (normalized : List Char) :
    List Char :=
  match normalization with
  | emailOrDomain domain =>
    if '@' ∈ normalized then normalized else normalized ++ '@' :: domain.text
  | _ => normalized

/-- `/^[^\s@]+@[^\s@]+\.[^\s@]+$/`. -/
def isEmailAddress (text : List Char) : Bool :=
  let name := text.takeWhile fun c => c != '@'
  let host := (text.dropWhile fun c => c != '@').tail
  '@' ∈ text && !name.isEmpty && !name.any Js.isWhiteSpace && !host.any Js.isWhiteSpace &&
    '@' ∉ host && '.' ∈ host.tail.dropLast

/-- `normalized.length > 254 || !/…/.test(normalized)`. -/
def isRefusedEmail (normalized : List Char) : Bool :=
  decide (254 < codeUnits (String.ofList normalized)) || !isEmailAddress normalized

/-- What is thrown. -/
inductive IdentifierError
  /-- `AuthenticationError`. -/
  | authentication (code message : String)
  /-- `RuntimeIntegrityError`. -/
  | runtimeIntegrity (message : String)

/-- An attribute of an identity: a text, or something else. -/
inductive IdentityAttribute
  | text (value : List Char)
  | other

namespace UnicodeData

variable (U : UnicodeData)

/-- `normalizeIdentifier`. -/
def normalizeIdentifier (value : List Char) (normalization : AuthNormalization)
    (validate : Bool) : Except IdentifierError (List Char) :=
  match normalization with
  | .exact => .ok (U.normalize value)
  | normalization =>
    let normalized := normalization.complete (U.lowered value)
    if validate && normalization.isEmail && isRefusedEmail normalized then
      .error (.authentication "invalid_registration"
        "A valid email address is required.")
    else .ok normalized

/-- `normalizeAuthenticationAttribute`. -/
def normalizeAuthenticationAttribute (value : IdentityAttribute)
    (normalization : AuthNormalization) : Except IdentifierError (List Char) :=
  match value with
  | .other =>
    .error (.runtimeIntegrity
      "Authentication identity attributes must be strings.")
  | .text value =>
    match normalization with
    | .exact => .ok (U.normalize value)
    | normalization =>
      let normalized := normalization.complete (U.lowered value)
      if normalization.isEmail && isRefusedEmail normalized then
        .error (.runtimeIntegrity
          "Authentication identity email is invalid.")
      else .ok normalized

/-- What an identifier is normalised to, when it is not refused. -/
def normalized (value : List Char) (normalization : AuthNormalization) : List Char :=
  match normalization with
  | .exact => U.normalize value
  | normalization => normalization.complete (U.lowered value)

variable {U} {value identifier : List Char} {normalization : AuthNormalization} {validate : Bool}

theorem normalizeIdentifier_eq_ok_iff :
    U.normalizeIdentifier value normalization validate = .ok identifier ↔
      U.normalized value normalization = identifier ∧
        (validate = true → normalization.isEmail = true → isRefusedEmail identifier = false) := by
  cases normalization with
  | exact => simp [normalizeIdentifier, normalized, AuthNormalization.isEmail]
  | lowercase => simp [normalizeIdentifier, normalized, AuthNormalization.isEmail]
  | email =>
    rw [normalizeIdentifier, ite_error_eq_ok_iff]
    · exact and_congr_right fun h => by simp [h, AuthNormalization.isEmail]
    · nofun
  | emailOrDomain domain =>
    rw [normalizeIdentifier, ite_error_eq_ok_iff]
    · exact and_congr_right fun h => by simp [h, AuthNormalization.isEmail]
    · nofun

/-- The two functions make the same of a text. -/
theorem normalizeAuthenticationAttribute_eq_ok_iff :
    U.normalizeAuthenticationAttribute (.text value) normalization =
        .ok identifier ↔
      U.normalizeIdentifier value normalization true = .ok identifier := by
  rw [normalizeIdentifier_eq_ok_iff]
  cases normalization with
  | exact => simp [normalizeAuthenticationAttribute, normalized, AuthNormalization.isEmail]
  | lowercase => simp [normalizeAuthenticationAttribute, normalized, AuthNormalization.isEmail]
  | email =>
    rw [normalizeAuthenticationAttribute, ite_error_eq_ok_iff]
    · exact and_congr_right fun h => by simp [h, AuthNormalization.isEmail]
    · nofun
  | emailOrDomain domain =>
    rw [normalizeAuthenticationAttribute, ite_error_eq_ok_iff]
    · exact and_congr_right fun h => by simp [h, AuthNormalization.isEmail]
    · nofun

theorem normalized_congr {other : List Char} (h : U.Equivalent value other) :
    U.normalized value normalization = U.normalized other normalization := by
  cases normalization with
  | exact => exact h.normalize
  | lowercase => exact lowered_congr h
  | email => exact lowered_congr h
  | emailOrDomain domain => simp only [normalized, lowered_congr h]

/-- Texts that are equivalent are accepted alike, as the same identifier. -/
theorem normalizeIdentifier_congr {other : List Char} (h : U.Equivalent value other) :
    U.normalizeIdentifier value normalization validate = .ok identifier ↔
      U.normalizeIdentifier other normalization validate = .ok identifier := by
  rw [normalizeIdentifier_eq_ok_iff, normalizeIdentifier_eq_ok_iff, normalized_congr h]

/-! ### Normalising twice -/

/-- What the composed text is lower-cased to is composed. -/
def StaysComposed (U : UnicodeData) (value : List Char) : Prop :=
  U.normalize (U.lowered value) = U.lowered value

instance (U : UnicodeData) (value : List Char) : Decidable (U.StaysComposed value) :=
  inferInstanceAs (Decidable (_ = _))

theorem lt_of_mem_domain {domain : EmailDomain} {c : Char} (h : c ∈ '@' :: domain.text) :
    c.toNat < 128 ∧ (c.isLower = true ∨ c.isDigit = true ∨ c ∈ ['.', '-', '@']) := by
  rcases List.mem_cons.1 h with rfl | h
  · simp
  · rcases domain.normalised c h with hc | hc | rfl | rfl
    · have hle := Char.le_def.1 (of_decide_eq_true (Bool.and_eq_true_iff.1 hc).2)
      exact ⟨lt_of_le_of_lt hle (by decide), .inl hc⟩
    · have hle := Char.le_def.1 (of_decide_eq_true (Bool.and_eq_true_iff.1 hc).2)
      exact ⟨lt_of_le_of_lt hle (by decide), .inr (.inl hc)⟩
    · simp
    · simp

/-- The characters of a domain stay as they are, whatever comes before them. -/
theorem ascii_of_mem_domain (U : UnicodeData) {domain : EmailDomain} {c : Char}
    (h : c ∈ '@' :: domain.text) :
    U.IsInert c ∧ IsLowered U.lowercase c ∧ Js.isWhiteSpace c = false := by
  have hall : ∀ n < 128, ∀ c, c = Char.ofNat n →
      (c.isLower = true ∨ c.isDigit = true ∨ c ∈ ['.', '-', '@']) →
        c.toLower = c ∧ c ≠ 'Σ' ∧ Js.isWhiteSpace c = false := by
    simp only [forall_eq]
    decide
  obtain ⟨hlt, hdomain⟩ := lt_of_mem_domain h
  obtain ⟨hlower, hsigma, hblank⟩ := hall c.toNat hlt c (Char.ofNat_toNat c).symm hdomain
  refine ⟨U.isInert_ascii c hlt, ⟨hsigma, ?_⟩, hblank⟩
  rw [U.lowercase_ascii c hlt, hlower]

theorem lowered_append_domain {domain : EmailDomain} {text : List Char}
    (htrim : Repertoire.trim Js.isWhiteSpace text = text)
    (hlowered : ∀ c ∈ text, IsLowered U.lowercase c) :
    U.lowered (text ++ '@' :: domain.text) = U.normalize text ++ '@' :: domain.text := by
  have htext : ∀ c ∈ text ++ '@' :: domain.text, IsLowered U.lowercase c := by
    intro c hc
    rcases List.mem_append.1 hc with hc | hc
    · exact hlowered c hc
    · exact (ascii_of_mem_domain U hc).2.1
  have htrimmed : Repertoire.trim Js.isWhiteSpace (text ++ '@' :: domain.text) =
      text ++ '@' :: domain.text := by
    refine Repertoire.trim_eq_self_iff.2 ⟨?_, ?_⟩
    · intro c hc
      cases text with
      | nil => exact (ascii_of_mem_domain U (List.mem_of_mem_head? hc)).2.2
      | cons d rest => exact (Repertoire.trim_eq_self_iff.1 htrim).1 c hc
    · intro c hc
      rw [List.getLast?_append_of_ne_nil _ (List.cons_ne_nil _ _)] at hc
      exact (ascii_of_mem_domain U (List.mem_of_getLast? hc)).2.2
  rw [lowered_of_isLowered htrimmed htext]
  exact Repertoire.normalize_append_cons (fun c hc => (ascii_of_mem_domain U hc).1) text

/-- A domain that is added is not taken away by composing. -/
theorem normalize_append_domain_ne (domain : EmailDomain) (text : List Char) :
    U.normalize text ++ '@' :: domain.text ≠ text := by
  intro heq
  have hinert : U.IsInert '@' := (@ascii_of_mem_domain U domain '@' (by simp)).1
  have hlength := congrArg (fun t => (U.decompose t).length) heq
  simp only [Repertoire.decompose_append_cons hinert, Repertoire.decompose_normalize,
    List.length_append, List.length_cons] at hlength
  omega

theorem complete_lowered_complete_iff {domain : EmailDomain} :
    U.normalized (U.normalized value (.emailOrDomain domain))
        (.emailOrDomain domain) =
      U.normalized value (.emailOrDomain domain) ↔ U.StaysComposed value := by
  have hlowered : ∀ c ∈ U.lowered value, IsLowered U.lowercase c := isLowered_of_mem_lowered
  have hpresent : ∀ {text}, '@' ∈ text →
      (AuthNormalization.emailOrDomain domain).complete text = text := fun h => if_pos h
  have habsent : ∀ {text}, '@' ∉ text →
      (AuthNormalization.emailOrDomain domain).complete text = text ++ '@' :: domain.text :=
    fun h => if_neg h
  rw [normalized, normalized, StaysComposed]
  · by_cases hdomain : '@' ∈ U.lowered value
    · rw [hpresent hdomain, lowered_lowered]
      by_cases hnormalized : '@' ∈ U.normalize (U.lowered value)
      · rw [hpresent hnormalized]
      · rw [habsent hnormalized]
        refine iff_of_false (normalize_append_domain_ne domain _) fun hcomposed => ?_
        rw [hcomposed] at hnormalized
        exact hnormalized hdomain
    · rw [habsent hdomain, lowered_append_domain (trim_lowered value) hlowered,
        hpresent (by simp)]
      exact List.append_left_inj _
  · nofun
  · nofun

/-- **What a text is normalised to is normalised to itself** just when it stays composed. -/
theorem normalized_normalized_iff :
    U.normalized (U.normalized value normalization) normalization =
        U.normalized value normalization ↔
      normalization = .exact ∨ U.StaysComposed value := by
  cases normalization with
  | exact => simp [normalized, Repertoire.normalize_normalize]
  | lowercase => simp [normalized, AuthNormalization.complete, StaysComposed, lowered_lowered]
  | email => simp [normalized, AuthNormalization.complete, StaysComposed, lowered_lowered]
  | emailOrDomain domain =>
    have hpreset : AuthNormalization.emailOrDomain domain ≠ AuthNormalization.exact := nofun
    simp only [hpreset, false_or]
    exact complete_lowered_complete_iff

/-- What is normalised is in lower case. -/
theorem isLowered_of_mem_normalized (h : normalization ≠ .exact) :
    ∀ c ∈ U.normalized value normalization, IsLowered U.lowercase c := by
  cases normalization with
  | exact => exact absurd rfl h
  | lowercase => exact isLowered_of_mem_lowered
  | email => exact isLowered_of_mem_lowered
  | emailOrDomain domain =>
    intro c hc
    rw [normalized] at hc
    · rw [AuthNormalization.complete] at hc
      split_ifs at hc
      · exact isLowered_of_mem_lowered c hc
      · rcases List.mem_append.1 hc with hc | hc
        · exact isLowered_of_mem_lowered c hc
        · exact (ascii_of_mem_domain U hc).2.1
    · nofun

end UnicodeData

/-! ### Identities -/

/-- The column of the identifiers: of the owned table, or of a mapped one. -/
inductive IdentifierColumn
  | owned
  | text
  | citext

section

variable (lower : List Char → List Char) (normalization : AuthNormalization)

/-- What the unique index holds of an identifier; `lower` is the function of the database. -/
def IdentifierColumn.key : IdentifierColumn → List Char → List Char
  | owned, identifier => identifier
  | citext, identifier => lower identifier
  | text, identifier =>
    match normalization with
    | .exact => identifier
    | _ => lower identifier

/-- `mappedIdentifierPredicate`, and the comparison of the owned table. -/
def IdentifierColumn.holds : IdentifierColumn → List Char → List Char → Bool
  | owned, identifier, parameter => identifier = parameter
  | citext, identifier, parameter => lower identifier = lower parameter
  | text, identifier, parameter =>
    match normalization with
    | .exact => identifier = parameter
    | _ => lower identifier = parameter

/-- Identities, each with its id and its identifier. -/
structure IdentityTable (column : IdentifierColumn) where
  rows : List (String × List Char)
  /-- The unique index. -/
  unique : (rows.map fun row => column.key lower normalization row.2).Nodup

variable {lower normalization} {column : IdentifierColumn} (U : UnicodeData)

/-- `PostgresAuth.register`. -/
def IdentityTable.register (table : IdentityTable lower normalization column) (id : String)
    (value : List Char) : Except IdentifierError (IdentityTable lower normalization column) :=
  (U.normalizeIdentifier value normalization true).bind fun email =>
    if h : column.key lower normalization email ∈
        table.rows.map fun row => column.key lower normalization row.2 then
      .error (.authentication "email_taken"
        "Unable to create an account with the supplied details.")
    else .ok
      { rows := table.rows ++ [(id, email)]
        unique := by
          rw [List.map_append, List.nodup_append]
          refine ⟨table.unique, List.nodup_singleton _, ?_⟩
          rintro key hkey key' hkey' rfl
          rw [List.map_singleton, List.mem_singleton] at hkey'
          rw [hkey'] at hkey
          exact h hkey }

/-- The identity `PostgresAuth.login` finds. -/
def IdentityTable.login (table : IdentityTable lower normalization column) (value : List Char) :
    Except IdentifierError (Option String) :=
  (U.normalizeIdentifier value normalization false).map fun email =>
    (table.rows.find? fun row => column.holds lower normalization row.2 email).map Prod.fst

variable (lower normalization column)

/-- What is promised of a text that is given as an identifier. -/
structure IdentifierStable (value : List Char) : Prop where
  idempotent : ∀ validate identifier,
    U.normalizeIdentifier value normalization validate = .ok identifier →
      U.normalizeIdentifier identifier normalization validate = .ok identifier
  agrees : ∀ validate identifier identifier',
    U.normalizeIdentifier value normalization validate = .ok identifier →
      U.normalizeAuthenticationAttribute (.text value) normalization =
          .ok identifier' →
        identifier' = identifier
  equivalent : ∀ other validate identifier, U.Equivalent value other →
    (U.normalizeIdentifier value normalization validate = .ok identifier ↔
      U.normalizeIdentifier other normalization validate = .ok identifier)
  /-- Who registered is found as long as the identity is there. -/
  found : ∀ (table table' later : IdentityTable lower normalization column) id identifier,
    table.register U id value = .ok table' → (∀ row ∈ table'.rows, row ∈ later.rows) →
      U.normalizeIdentifier value normalization true = .ok identifier →
        later.login U identifier = .ok (some id) ∧
          ∀ other, U.Equivalent value other → later.login U other = .ok (some id)

variable {lower normalization column U} {value : List Char}

theorem IdentityTable.login_eq (table : IdentityTable lower normalization column) :
    table.login U value = .ok ((table.rows.find? fun row =>
      column.holds lower normalization row.2 (U.normalized value normalization)).map
        Prod.fst) := by
  have hnormalize : U.normalizeIdentifier value normalization false =
      .ok (U.normalized value normalization) :=
    UnicodeData.normalizeIdentifier_eq_ok_iff.2 ⟨rfl, nofun⟩
  rw [login, hnormalize]
  rfl

theorem IdentityTable.register_eq_ok {table table' : IdentityTable lower normalization column}
    {id : String} (h : table.register U id value = .ok table') :
    table'.rows = table.rows ++ [(id, U.normalized value normalization)] := by
  rw [register] at h
  cases hnormalize : U.normalizeIdentifier value normalization true with
  | error e =>
    rw [hnormalize] at h
    cases h
  | ok email =>
    rw [hnormalize, Except.bind] at h
    rw [(UnicodeData.normalizeIdentifier_eq_ok_iff.1 hnormalize).1]
    split at h
    · cases h
    · cases h
      rfl

/-- An identifier in lower case is found just where it is the key. -/
theorem IdentifierColumn.holds_iff {identifier stored : List Char}
    (h : normalization ≠ .exact → lower identifier = identifier) :
    column.holds lower normalization stored identifier = true ↔
      column.key lower normalization stored = column.key lower normalization identifier := by
  cases column with
  | owned => simp [holds, key]
  | citext => simp [holds, key]
  | text =>
    cases normalization with
    | exact => simp [holds, key]
    | lowercase => simp [holds, key, h nofun]
    | email => simp [holds, key, h nofun]
    | emailOrDomain domain => simp [holds, key, h nofun]

/-- **What is in the table is found**: no other row has its key. -/
theorem IdentityTable.login_of_mem (table : IdentityTable lower normalization column)
    {id : String}
    (hlower : normalization ≠ .exact →
      lower (U.normalized value normalization) = U.normalized value normalization)
    (hmem : (id, U.normalized value normalization) ∈ table.rows) :
    table.login U value = .ok (some id) := by
  have hself : column.holds lower normalization (U.normalized value normalization)
      (U.normalized value normalization) = true := (IdentifierColumn.holds_iff hlower).2 rfl
  have hfind : (table.rows.find? fun row =>
      column.holds lower normalization row.2 (U.normalized value normalization)).isSome :=
    List.find?_isSome.2 ⟨_, hmem, hself⟩
  obtain ⟨row, hrow⟩ := Option.isSome_iff_exists.1 hfind
  have hholds := List.find?_some hrow
  have hkey := (IdentifierColumn.holds_iff hlower).1 hholds
  have heq : row = (id, U.normalized value normalization) :=
    List.inj_on_of_nodup_map table.unique (List.mem_of_find?_eq_some hrow) hmem hkey
  rw [login_eq, hrow, heq]
  rfl

/-- **A text is normalised once and for all** under the preset `exact`, and under the others if what
it is lower-cased to is composed. -/
theorem identifier_stable_iff
    (hlower : ∀ text, (∀ c ∈ text, IsLowered U.lowercase c) → lower text = text) :
    IdentifierStable lower normalization column U value ↔
      normalization = .exact ∨ U.StaysComposed value := by
  rw [← UnicodeData.normalized_normalized_iff]
  constructor
  · intro h
    have hfirst : U.normalizeIdentifier value normalization false = _ :=
      UnicodeData.normalizeIdentifier_eq_ok_iff.2 ⟨rfl, nofun⟩
    exact (UnicodeData.normalizeIdentifier_eq_ok_iff.1 (h.idempotent _ _ hfirst)).1
  · intro h
    refine
      { idempotent := ?_
        agrees := ?_
        equivalent := fun other validate identifier => UnicodeData.normalizeIdentifier_congr
        found := ?_ }
    · intro validate identifier hidentifier
      obtain ⟨rfl, hvalid⟩ := UnicodeData.normalizeIdentifier_eq_ok_iff.1 hidentifier
      exact UnicodeData.normalizeIdentifier_eq_ok_iff.2 ⟨h, hvalid⟩
    · intro validate identifier identifier' hidentifier hidentifier'
      rw [UnicodeData.normalizeAuthenticationAttribute_eq_ok_iff,
        UnicodeData.normalizeIdentifier_eq_ok_iff] at hidentifier'
      rw [← hidentifier'.1, (UnicodeData.normalizeIdentifier_eq_ok_iff.1 hidentifier).1]
    · intro table table' later id identifier hregister hkept hidentifier
      obtain ⟨rfl, -⟩ := UnicodeData.normalizeIdentifier_eq_ok_iff.1 hidentifier
      have hmem : (id, U.normalized value normalization) ∈ later.rows := by
        refine hkept _ ?_
        rw [IdentityTable.register_eq_ok hregister]
        simp
      have hfixed : normalization ≠ .exact →
          lower (U.normalized value normalization) = U.normalized value normalization :=
        fun hpreset => hlower _ (UnicodeData.isLowered_of_mem_normalized hpreset)
      refine ⟨later.login_of_mem ?_ ?_, ?_⟩
      · rwa [h]
      · rwa [h]
      · intro other hother
        rw [UnicodeData.normalized_congr hother] at hfixed hmem
        exact later.login_of_mem hfixed hmem

end

/-! ### A letter and its line -/

/-- The line below a letter. -/
def macronBelow : Char := Char.ofNat 0x0331

/-- The small letter `h` with a line below. -/
def hLineBelow : Char := Char.ofNat 0x1E96

theorem toLower_cases (c : Char) :
    c.toLower = c ∨ (c.toLower ≠ 'Σ' ∧ Js.isWhiteSpace c.toLower = Js.isWhiteSpace c) := by
  have hall : ∀ n < 128, (Char.ofNat n).toLower ≠ 'Σ' ∧
      Js.isWhiteSpace (Char.ofNat n).toLower = Js.isWhiteSpace (Char.ofNat n) := by decide
  by_cases hupper : c.isUpper
  · have hlt : c.toNat < 128 := lt_of_le_of_lt (of_decide_eq_true hupper).2 (by decide)
    have hc := hall c.toNat hlt
    rw [Char.ofNat_toNat] at hc
    exact .inr hc
  · exact .inl (Char.toLower_eq_of_not_isUpper hupper)

/-- Data that knows the characters of ASCII, and the small letter with a line below. -/
def lineBelowData : UnicodeData where
  combiningClass c := if c = macronBelow then 220 else 0
  decomposition c := if c = hLineBelow then ['h', macronBelow] else [c]
  composite a c := if a = 'h' ∧ c = macronBelow then some hLineBelow else none
  decomposition_of_mem := by
    intro c d hd
    by_cases hc : c = hLineBelow
    · rw [if_pos hc] at hd
      simp only [List.mem_cons, List.not_mem_nil, or_false] at hd
      rcases hd with rfl | rfl <;> decide
    · rw [if_neg hc, List.mem_singleton] at hd
      rw [hd, if_neg hc]
  decomposition_composite := by
    intro a c p hp
    split_ifs at hp with hac
    obtain ⟨rfl, rfl⟩ := hac
    cases hp
    decide
  lowercase c := [c.toLower]
  cased c := c.isAlpha
  caseIgnorable c := c = macronBelow
  separated :=
    { starter := by
        intro c hc
        refine if_neg ?_
        rintro rfl
        revert hc
        decide
      decomposition := by
        intro c d hd
        dsimp only at hd
        split_ifs at hd with hc
        · rw [hc]
          simp only [List.mem_cons, List.not_mem_nil, or_false] at hd
          rcases hd with rfl | rfl <;> decide
        · rw [List.mem_singleton.1 hd]
      decomposition_ne_nil := by
        intro c
        dsimp only
        split_ifs <;> simp }
  lowercase_ne_nil := by simp
  isWhiteSpace_lowercase := by
    intro c d hd
    rw [List.mem_singleton.1 hd]
    rcases toLower_cases c with hc | ⟨-, hc⟩
    · rw [hc]
    · exact hc
  isLowered_lowercase := by
    intro c hsigma d hd
    rw [List.mem_singleton.1 hd]
    refine ⟨?_, by simp⟩
    rcases toLower_cases c with hc | ⟨hc, -⟩
    · rwa [hc]
    · exact hc
  isLowered_sigma := by decide
  isLowered_decomposition := by
    intro c hlowered d hd
    split_ifs at hd
    · simp only [List.mem_cons, List.not_mem_nil, or_false] at hd
      rcases hd with rfl | rfl <;> decide
    · rwa [List.mem_singleton.1 hd]
  isLowered_composite := by
    intro a c p hp _ _
    split_ifs at hp
    cases hp
    decide
  isInert_ascii := by
    intro c hc
    have hmacron : c ≠ macronBelow := by
      rintro rfl
      revert hc
      decide
    have hline : c ≠ hLineBelow := by
      rintro rfl
      revert hc
      decide
    exact
      { starter := if_neg hmacron
        base := if_neg hline
        composite := fun a => if_neg fun h => hmacron h.2 }
  lowercase_ascii := by simp

/-- A capital letter and its line, in an address. -/
def capitalAddress : List Char := ['H', macronBelow, '@', 'a', '.', 'b']

/-- The address is stored with the letter and its line apart, and composed when it is normalised
again. -/
theorem stored_address_changes :
    lineBelowData.normalizeIdentifier capitalAddress .email true =
        .ok ['h', macronBelow, '@', 'a', '.', 'b'] ∧
      lineBelowData.normalizeIdentifier ['h', macronBelow, '@', 'a', '.', 'b']
          .email true = .ok [hLineBelow, '@', 'a', '.', 'b'] ∧
      ¬IdentifierStable (List.map Char.toLower) .email .owned
        lineBelowData capitalAddress := by
  have hfirst : lineBelowData.normalizeIdentifier capitalAddress .email true =
      .ok ['h', macronBelow, '@', 'a', '.', 'b'] := by rfl
  have hagain : lineBelowData.normalizeIdentifier ['h', macronBelow, '@', 'a', '.', 'b']
      .email true = .ok [hLineBelow, '@', 'a', '.', 'b'] := by rfl
  refine ⟨hfirst, hagain, fun h => ?_⟩
  have hstored := h.idempotent true _ hfirst
  rw [hagain] at hstored
  revert hstored
  simp [hLineBelow]

/-- An address in capital letters without marks is stored once and for all. -/
theorem identifier_stable_iff_address :
    IdentifierStable (List.map Char.toLower) .email .text
      lineBelowData ['H', '@', 'a', '.', 'b'] := by
  refine (identifier_stable_iff ?_).2 (.inr (by decide))
  intro text h
  refine (List.map_congr_left fun c hc => ?_).trans (List.map_id text)
  exact (List.cons.inj (h c hc).2).1

end Doxa
