/-
**What an inspection shows.**

Whatever Gnosis shows goes through `sanitizeInspectionValue` (`introspection/src/index.ts`): the
value of a property whose name sounds like a secret is replaced, secrets inside a text are taken
out, and what is too deep or too long is cut off.

An object is the list of its properties, in the order of `Object.entries`.  Where a text is cut
inside a surrogate pair, the half that is left over is dropped.

Main definitions:

* `Doxa.Inspection.isSensitiveKey` — names that sound like a secret;
* `Doxa.Inspection.redactText` — a text without the secrets in it;
* `Doxa.Inspection.sanitizeInspectionValue` — what is shown of a value.

Main results:

* `Doxa.Inspection.sanitizeInspectionValue_sensitive` — **what is under a sensitive name does not
  matter**.
-/

import Doxa.ExecutionContext
import Doxa.JavaScript
import Doxa.Lib.Json
import Doxa.Lib.TextPattern

set_option relaxedAutoImplicit false
set_option autoImplicit false

namespace Doxa

/-- The text up to a number of code units. -/
def sliceUnits : ℕ → List Char → List Char
  | _, [] => []
  | limit, c :: cs =>
    let units := if c.toNat < 0x10000 then 1 else 2
    if units ≤ limit then c :: sliceUnits (limit - units) cs else []

namespace Inspection

open TextPattern

/-- `MAX_INSPECTION_RESULTS`. -/
def maxInspectionResults : ℕ := 100

/-- `MAX_INSPECTION_OBJECT_PROPERTIES`. -/
def maxInspectionObjectProperties : ℕ := 100

/-! ### Texts -/

def isUriSchemeCharacter (c : Char) : Bool := c.isAlphanum || "+.-".toList.contains c

def isUriAuthorityBoundary (c : Char) : Bool := "/?#".toList.contains c || Js.isWhiteSpace c

/-- `value.indexOf(text, start)`. -/
def indexOf (value text : List Char) (start : ℕ) : Option ℕ :=
  (List.range value.length).find? fun i => decide (start ≤ i) && text.isPrefixOf (value.drop i)

/-- `value.lastIndexOf(c, last)`. -/
def lastIndexOf (value : List Char) (c : Char) (last : ℕ) : Option ℕ :=
  (List.range (last + 1)).reverse.find? fun i => value[i]? = some c

/-- The positions where a password starts and ends, and where the search goes on. -/
def uriCredentials (value : List Char) (protocol : ℕ) : Option (ℕ × ℕ) × ℕ :=
  let scheme := ((value.take protocol).reverse.takeWhile isUriSchemeCharacter).length
  let schemeStart := protocol - scheme
  if scheme = 0 ∨ !(value[schemeStart]?.any Char.isAlpha) then (none, protocol + 3)
  else
    let authorityStart := protocol + 3
    let authority := (value.drop authorityStart).takeWhile fun c => !isUriAuthorityBoundary c
    let authorityEnd := authorityStart + authority.length
    match lastIndexOf value '@' (authorityEnd - 1), indexOf value [':'] authorityStart with
    | some at', some separator =>
      if at' < authorityStart ∨ at' ≤ separator then (none, authorityEnd)
      else (some (separator + 1, at'), authorityEnd)
    | _, _ => (none, authorityEnd)

/-- The loop of `redactUriCredentials`.  Each round goes on three characters at least, so that there
are no more rounds than characters. -/
def redactUriCredentialsFrom (value : List Char) : ℕ → ℕ → ℕ → List Char → List Char
  | 0, cursor, _, redacted => redacted ++ value.drop cursor
  | rounds + 1, cursor, searchFrom, redacted =>
    match indexOf value "://".toList searchFrom with
    | none => redacted ++ value.drop cursor
    | some protocol =>
      match uriCredentials value protocol with
      | (none, next) => redactUriCredentialsFrom value rounds cursor next redacted
      | (some (first, at'), next) =>
        redactUriCredentialsFrom value rounds at' next
          (redacted ++ (value.take first).drop cursor ++ "[REDACTED]".toList)

def redactUriCredentials (value : List Char) : List Char :=
  redactUriCredentialsFrom value value.length 0 0 []

/-- `redactText` of `introspection/src/index.ts`. -/
def redactText (value : String) : String :=
  let bearer := inOrder [boundary, literal "bearer", oneOrMore Js.isWhiteSpace,
    replaced (sequence
      (oneOrMore fun c => c.isAlphanum || "._~+/-".toList.contains c) (many fun c => c = '='))
      "[REDACTED]"]
  let assignment := inOrder [boundary,
    anyOf [literal "token", literal "password", literal "secret",
      inOrder [literal "api", optional (one fun c => c = '-' || c = '_'), literal "key"],
      literal "authorization"],
    literal "=",
    replaced (oneOrMore fun c => !(c = '&' || Js.isWhiteSpace c)) "[REDACTED]"]
  let encoded := fun c : Char => c.isAlphanum || c = '_' || c = '-'
  let webToken := replaced (inOrder [boundary, verbatim "eyJ", many encoded, verbatim ".",
    oneOrMore encoded, verbatim ".", oneOrMore encoded, boundary]) "[REDACTED]"
  let algorithm := optional (sequence (oneOrMore fun c => c.isUpper || c.isDigit) (verbatim " "))
  let privateKey := replaced (inOrder [verbatim "-----BEGIN ", algorithm,
    verbatim "PRIVATE KEY-----", few fun _ => true,
    verbatim "-----END ", algorithm, verbatim "PRIVATE KEY-----"]) "[REDACTED]"
  String.ofList (sliceUnits 20000 (privateKey.replaceAll none 0 (webToken.replaceAll none 0
    (assignment.replaceAll none 0 (bearer.replaceAll none 0 (redactUriCredentials value.toList))))))

/-- What is shown of a text. -/
def shownText (value : String) : String :=
  String.ofList (sliceUnits 20000 (redactText value).toList)

/-! ### Values -/

/-- `isSensitiveKey` of a key. -/
def isSensitiveKey (key : String) : Bool :=
  let joint := optional (one fun c => c = '-' || c = '_')
  (anyOf [literal "authorization", literal "cookie", literal "password", literal "passwd",
    literal "passphrase", literal "secret", literal "token",
    inOrder [literal "api", joint, literal "key"], literal "credential", literal "session",
    literal "csrf", literal "signature", inOrder [literal "private", joint, literal "key"]]).test
    none key.toList

/-- `isSafeDoxaToken`. -/
def isSafeDoxaToken (key : String) (value : Json) : Bool :=
  key = "token" && value.asText.any fun text => "doxa:".toList.isPrefixOf text.toList

/-- The value under a key is not shown. -/
def isRedacted (key : Option String) (value : Json) : Bool :=
  key.any fun name => isSensitiveKey name && !isSafeDoxaToken name value

mutual

def sanitizeInspectionValue (value : Json) (key : Option String) (depth : ℕ) : Json :=
  if 12 < depth then .text "[TRUNCATED]"
  else if isRedacted key value then .text "[REDACTED]"
  else
    match value with
    | .text text => .text (shownText text)
    | .array items => .array (sanitizeItems items maxInspectionResults (depth + 1))
    | .object fields =>
      .object (sanitizeProperties fields maxInspectionObjectProperties (depth + 1))
    | .null => .null
    | .bool value => .bool value
    | .number value => .number value

/-- The first items, each of them sanitized. -/
def sanitizeItems : List Json → ℕ → ℕ → List Json
  | item :: items, remaining + 1, depth =>
    sanitizeInspectionValue item none depth :: sanitizeItems items remaining depth
  | _, _, _ => []

/-- The first properties, each of them sanitized under its name. -/
def sanitizeProperties : List (String × Json) → ℕ → ℕ → List (String × Json)
  | (name, value) :: fields, remaining + 1, depth =>
    (name, sanitizeInspectionValue value (some name) depth) ::
      sanitizeProperties fields remaining depth
  | _, _, _ => []

end

theorem sanitizeItems_eq_map (items : List Json) (remaining depth : ℕ) :
    sanitizeItems items remaining depth =
      (items.take remaining).map fun item => sanitizeInspectionValue item none depth := by
  induction items generalizing remaining with
  | nil => simp [sanitizeItems]
  | cons item items ih =>
    cases remaining with
    | zero => simp [sanitizeItems]
    | succ remaining => simp [sanitizeItems, ih]

theorem sanitizeProperties_eq_map (fields : List (String × Json)) (remaining depth : ℕ) :
    sanitizeProperties fields remaining depth =
      (fields.take remaining).map fun field =>
        (field.1, sanitizeInspectionValue field.2 (some field.1) depth) := by
  induction fields generalizing remaining with
  | nil => simp [sanitizeProperties]
  | cons field fields ih =>
    cases remaining with
    | zero => simp [sanitizeProperties]
    | succ remaining => simp [sanitizeProperties, ih]

/-- Below the depth and under no sensitive name, a value is sanitized part by part. -/
theorem sanitizeInspectionValue_shown {value : Json} {key : Option String} {depth : ℕ}
    (hdepth : depth ≤ 12) (hkey : isRedacted key value = false) :
    sanitizeInspectionValue value key depth =
      match value with
      | .text text => .text (shownText text)
      | .array items => .array ((items.take maxInspectionResults).map fun item =>
        sanitizeInspectionValue item none (depth + 1))
      | .object fields =>
        .object ((fields.take maxInspectionObjectProperties).map fun field =>
          (field.1, sanitizeInspectionValue field.2 (some field.1) (depth + 1)))
      | value => value := by
  rw [sanitizeInspectionValue.eq_def, if_neg (by omega), if_neg (by simp [hkey])]
  cases value <;> simp [sanitizeItems_eq_map, sanitizeProperties_eq_map]

theorem isRedacted_of_not_sensitive {key : String} (h : isSensitiveKey key = false)
    (value : Json) : isRedacted (some key) value = false := by
  simp [isRedacted, h]

/-- A sensitive name hides every value, but that of `token` may be shown. -/
theorem isRedacted_of_sensitive {key : String} (h : isSensitiveKey key) (htoken : key ≠ "token")
    (value : Json) : isRedacted (some key) value := by
  simp [isRedacted, h, isSafeDoxaToken, htoken]

/-- **What is under a sensitive name other than `token` does not matter.** -/
theorem sanitizeInspectionValue_sensitive {key : String} (h : isSensitiveKey key)
    (htoken : key ≠ "token") (value value' : Json) (depth : ℕ) :
    sanitizeInspectionValue value (some key) depth =
      sanitizeInspectionValue value' (some key) depth := by
  rw [sanitizeInspectionValue.eq_def, sanitizeInspectionValue.eq_def value',
    if_pos (isRedacted_of_sensitive h htoken value),
    if_pos (isRedacted_of_sensitive h htoken value')]

end Inspection

end Doxa
