/-
**Upgrades of credentials.**

A password record is kept in the table that `PostgresAuth` owns, whose parameters are a column of
type `jsonb`, or as a text `doxa-argon2id:…` in a mapped table (`auth-postgres/src/passwords.ts`).
A login and a reauthentication write a new record when the one that was verified needs it:
`needsRehash` compares the JSON texts of the parameters.

The texts are those of objects, so they have the properties in their order.  `jsonb` orders them
otherwise: what is read from the column never has the text of the current parameters, and is written
again at every login.

Sessions, rate limits and audit events are left out: when one of them makes a call fail, nothing is
written.

Main definitions:

* `Doxa.Credentials.needsRehash`, `login`, `reauthenticate` — what is compared, and what is written;
* `Doxa.Credentials.OutOfDate` — the version or the value of a parameter is not the current one;
* `Doxa.Credentials.UpgradeFixed` — what is promised of a credential;
* `Doxa.Credentials.CurrentInOrder` — its parameters are out of date, or in the order of the current
  ones.

Main results:

* `Doxa.Credentials.decodePasswordRecord_encodePasswordRecord` — a text is read as it was written;
* `Doxa.Credentials.currentInOrder_column_iff` — in the column the order is never that one;
* `Doxa.credential_upgrade_fixed` — **an upgrade is a fixed point exactly if the parameters are out
  of date or in the order of the current ones**.
-/

import Doxa.Lib.Base64Url
import Doxa.Lib.Jsonb
import Mathlib.Tactic.NormNum

set_option relaxedAutoImplicit false
set_option autoImplicit false

namespace Doxa

open JsonText

namespace Credentials

open Base64Url (Byte)

/-! ### Records -/

/-- `PASSWORD_PARAMETERS`. -/
def passwordParameters : Json :=
  .object [("algorithm", .text "argon2id"), ("memory", .number 19456),
    ("passes", .number 2), ("parallelism", .number 2), ("tagLength", .number 32)]

theorem isPlain_passwordParameters : IsPlain passwordParameters := by
  have hwhole : ∀ n : ℕ, IsDecimal n := by
    intro n
    refine @JsonText.isDecimal_of_dvd _ 0 ?_
    rw [Rat.den_natCast]
    exact Nat.one_dvd _
  exact ⟨by decide, trivial, hwhole 19456, hwhole 2, hwhole 2, hwhole 32, trivial⟩

/-- `PasswordRecord`. -/
structure PasswordRecord where
  version : ℤ
  salt : String
  hash : String
  parameters : Json
  /-- The parameters are those of an object. -/
  isPlain : IsPlain parameters

def PasswordRecord.toJson (record : PasswordRecord) : Json :=
  .object [("version", .number record.version), ("salt", .text record.salt),
    ("hash", .text record.hash), ("parameters", record.parameters)]

/-- What `verifyEncodedPassword` answers. -/
structure EncodedPasswordVerification where
  valid : Bool
  weak : Bool
  needsUpgrade : Bool

/-- What the records rest on. -/
structure PasswordPlatform where
  /-- `derivePassword`; nothing if Argon2 refuses its arguments. -/
  derivePassword : String → List Byte → Json → Option (List Byte)
  length_derivePassword : ∀ password salt key,
    derivePassword password salt passwordParameters = some key → key.length = 32
  /-- `Buffer.toString('utf8')` of bytes that are not UTF-8. -/
  replaceInvalid : List Byte → String
  /-- What a value other than a number is in a comparison; nothing for `NaN`. -/
  toNumber : Json → Option ℚ
  /-- The formats of other systems. -/
  verifyOther : List String → String → String → EncodedPasswordVerification

/-- 16 random bytes. -/
structure Salt where
  bytes : List Byte
  length_bytes : bytes.length = 16

variable (platform : PasswordPlatform)

def createPasswordRecord (password : String) (salt : Salt) : Option PasswordRecord :=
  (platform.derivePassword password salt.bytes passwordParameters).map fun hash =>
    ⟨1, String.ofList (Base64Url.encode salt.bytes), String.ofList (Base64Url.encode hash),
      passwordParameters, isPlain_passwordParameters⟩

/-- `verifyPassword`; what is thrown makes it false. -/
def verifyPassword (password : String) (record : Json) : Bool :=
  ((do
    let hash ← (record.field "hash").bind Json.asText
    let salt ← (record.field "salt").bind Json.asText
    let parameters ← record.field "parameters"
    let candidate ← platform.derivePassword password (Base64Url.decode salt.toList) parameters
    pure (decide (candidate = Base64Url.decode hash.toList))) : Option Bool).getD false

/-- `needsRehash`. -/
def needsRehash (record : Json) : Bool :=
  decide ((record.field "version").bind Json.asNumber ≠ some 1) ||
    decide ((record.field "parameters").map print ≠
      some (print passwordParameters))

open PasswordRecord

/-! ### The text -/

/-- The bytes of a text. -/
def utf8 (text : List Char) : List Byte :=
  (String.ofList text).toUTF8.data.toList.map UInt8.toFin

/-- `Buffer.toString('utf8')`. -/
def ofUtf8 (bytes : List Byte) : String :=
  (String.fromUTF8? ⟨(bytes.map UInt8.ofFin).toArray⟩).getD (platform.replaceInvalid bytes)

def recordMark : List Char := "doxa-argon2id:".toList

def encodePasswordRecord (record : PasswordRecord) : String :=
  String.ofList (recordMark ++ Base64Url.encode (utf8 (print record.toJson)))

/-- A property as a number of a comparison. -/
def numberOf : Option Json → Option ℚ
  | some (.number value) => some value
  | some json => platform.toNumber json
  | none => none

/-- `<`, which is false for `NaN`. -/
def less (left right : Option ℚ) : Bool :=
  match left, right with
  | some left, some right => decide (left < right)
  | _, _ => false

/-- A property that is not falsy. -/
def truthy : Option Json → Bool
  | none => false
  | some .null => false
  | some (.bool value) => value
  | some (.number value) => decide (value ≠ 0)
  | some (.text value) => decide (value ≠ "")
  | some _ => true

/-- What `decodePasswordRecord` checks; the properties of nothing are none. -/
def isSupported (record : Json) : Bool :=
  let parameters := (record.field "parameters").getD .null
  let memory := numberOf platform (parameters.field "memory")
  let passes := numberOf platform (parameters.field "passes")
  let parallelism := numberOf platform (parameters.field "parallelism")
  let tagLength := numberOf platform (parameters.field "tagLength")
  !(less (numberOf platform (record.field "version")) (some 1) ||
    (parameters.field "algorithm").bind Json.asText ≠ some "argon2id" ||
    less memory (parallelism.map fun parallelism => 8 * parallelism) || less (some 262144) memory ||
    less passes (some 1) || less (some 10) passes ||
    less parallelism (some 1) || less (some 8) parallelism ||
    less tagLength (some 16) || less (some 64) tagLength ||
    !truthy (record.field "salt") || !truthy (record.field "hash"))

/-- `decodePasswordRecord`; nothing where it throws. -/
def decodePasswordRecord (value : String) : Option Json :=
  if recordMark <+: value.toList then
    (parse (ofUtf8 platform
      (Base64Url.decode (value.toList.drop recordMark.length))).toList).filter
        (isSupported platform)
  else none

/-- `verifyEncodedPassword`. -/
def verifyEncodedPassword (readers : List String) (password encoded : String) :
    EncodedPasswordVerification :=
  if recordMark <+: encoded.toList then
    if "doxa-argon2id" ∈ readers then
      match decodePasswordRecord platform encoded with
      | some record => ⟨verifyPassword platform password record, false, needsRehash record⟩
      | none => ⟨false, false, false⟩
    else ⟨false, false, false⟩
  else platform.verifyOther readers password encoded

/-! ### Credentials that are stored -/

/-- A row of `doxa_auth_passwords`, or the text in a mapped table. -/
inductive StoredCredential
  | column (record : PasswordRecord)
  | mapped (encoded : String)

/-- The mapped table: what it reads, and whether it is written. -/
structure PasswordMapping where
  readers : List String
  upgradeInPlace : Bool

/-- A row as it is read: the column has the values in an order of its own. -/
def loadColumn (record : PasswordRecord) : Json :=
  toJson
    { record with
      parameters := Jsonb.store record.parameters
      isPlain := Jsonb.isPlain_store _ record.isPlain }

/-- The record of a credential, if it is one. -/
def StoredCredential.record : StoredCredential → Option Json
  | .column record => some (loadColumn record)
  | .mapped encoded => decodePasswordRecord platform encoded

variable (mapping : PasswordMapping)

variable (stored : StoredCredential)

/-- What `login` makes of the credential; nothing if it is refused. -/
def login (password : String) (salt : Salt) : Option StoredCredential :=
  match stored with
  | .column record =>
    if verifyPassword platform password (loadColumn record) then
      if needsRehash (loadColumn record) then
        (createPasswordRecord platform password salt).map .column
      else some stored
    else none
  | .mapped encoded =>
    let verification := verifyEncodedPassword platform mapping.readers password encoded
    if verification.valid then
      if verification.needsUpgrade && mapping.upgradeInPlace then
        (createPasswordRecord platform password salt).map fun record =>
          .mapped (encodePasswordRecord record)
      else some stored
    else none

def verifyPasswordCandidate (password : String) : EncodedPasswordVerification :=
  match stored with
  | .column record =>
    ⟨verifyPassword platform password (loadColumn record), false, needsRehash (loadColumn record)⟩
  | .mapped encoded =>
    verifyEncodedPassword platform mapping.readers password encoded

/-- What `reauthenticate` makes of the credential. -/
def reauthenticate (password : String) (salt : Salt) : Option StoredCredential :=
  let verification := verifyPasswordCandidate platform mapping stored password
  if verification.valid then
    match stored with
    | .column _ =>
      if verification.needsUpgrade then
        (createPasswordRecord platform password salt).map .column
      else some stored
    | .mapped _ =>
      if verification.needsUpgrade && mapping.upgradeInPlace then
        (createPasswordRecord platform password salt).map fun record =>
          .mapped (encodePasswordRecord record)
      else some stored
  else none

/-! ### What is promised -/

def parameterNames : List String := ["algorithm", "memory", "passes", "parallelism", "tagLength"]

/-- The version or the value of some parameter is not the current one. -/
def OutOfDate (record : Json) : Prop :=
  record.field "version" ≠ some (.number 1) ∨ ∃ name ∈ parameterNames,
    ((record.field "parameters").bind fun parameters => parameters.field name) ≠
      passwordParameters.field name

/-- **What is promised of a credential.** -/
structure UpgradeFixed (stored : StoredCredential) : Prop where
  /-- A record needs a new one exactly if it is out of date. -/
  rehash : ∀ record, stored.record platform = some record →
    (needsRehash record = true ↔ OutOfDate record)
  /-- One that is not is left alone. -/
  login : ∀ record, stored.record platform = some record → ¬OutOfDate record →
    ∀ password salt after, login platform mapping stored password salt = some after →
      after = stored
  reauthenticate : ∀ record, stored.record platform = some record → ¬OutOfDate record →
    ∀ password salt after, reauthenticate platform mapping stored password salt = some after →
      after = stored

/-- The parameters are out of date, or they are the current ones in their order. -/
def CurrentInOrder : Prop :=
  ∀ record, stored.record platform = some record →
    OutOfDate record ∨ record.field "parameters" = some passwordParameters

/-! ### The comparison -/

variable {record : Json}

variable {platform mapping}

theorem ofUtf8_utf8 (text : List Char) : ofUtf8 platform (utf8 text) = String.ofList text := by
  have hbytes : (utf8 text).map UInt8.ofFin = (String.ofList text).toUTF8.data.toList := by
    rw [utf8, List.map_map]
    exact List.map_id' _
  have hvalid : String.fromUTF8? (String.ofList text).toUTF8 = some (String.ofList text) :=
    dif_pos (String.ofList text).isValidUTF8
  rw [ofUtf8, hbytes]
  exact congrArg (fun read : Option String => read.getD _) hvalid

/-- **When a record needs a new one.** -/
theorem needsRehash_eq_false_iff
    (hplain : ∀ parameters, record.field "parameters" = some parameters → IsPlain parameters) :
    needsRehash record = false ↔ record.field "version" = some (.number 1) ∧
      record.field "parameters" = some passwordParameters := by
  rw [needsRehash, Bool.or_eq_false_iff, decide_eq_false_iff_not, decide_eq_false_iff_not, not_not,
    not_not]
  constructor
  · rintro ⟨hversion, hprint⟩
    obtain ⟨version, hfield, hnumber⟩ := Option.bind_eq_some_iff.1 hversion
    obtain ⟨parameters, hparameters, heq⟩ := Option.map_eq_some_iff.1 hprint
    have hsame : parameters = passwordParameters :=
      print_injective (hplain parameters hparameters) isPlain_passwordParameters heq
    cases version with
    | number value =>
      cases hnumber
      exact ⟨hfield, by rw [hparameters, hsame]⟩
    | null => cases hnumber
    | bool _ => cases hnumber
    | text _ => cases hnumber
    | array _ => cases hnumber
    | object _ => cases hnumber
  · rintro ⟨hversion, hparameters⟩
    rw [hversion, hparameters]
    exact ⟨rfl, rfl⟩

/-- The record of a credential is that of an object. -/
theorem StoredCredential.isPlain_parameters {stored : StoredCredential}
    (h : stored.record platform = some record) {parameters : Json}
    (hparameters : record.field "parameters" = some parameters) : IsPlain parameters := by
  cases stored with
  | column row =>
    cases h
    rw [loadColumn, toJson] at hparameters
    simp [Json.field] at hparameters
    rw [← hparameters]
    exact Jsonb.isPlain_store _ row.isPlain
  | mapped encoded =>
    rw [StoredCredential.record, decodePasswordRecord] at h
    split_ifs at h
    obtain ⟨hparse, -⟩ := Option.filter_eq_some_iff.1 h
    exact (isPlain_of_parse hparse).of_field hparameters

theorem not_outOfDate (hversion : record.field "version" = some (.number 1))
    (hparameters : record.field "parameters" = some passwordParameters) : ¬OutOfDate record := by
  rintro (hother | ⟨name, -, hother⟩)
  · exact hother hversion
  · rw [hparameters] at hother
    exact hother rfl

/-- **The comparison is exact** exactly if the parameters are out of date or in order. -/
theorem needsRehash_iff_outOfDate {stored : StoredCredential}
    (h : stored.record platform = some record) :
    (needsRehash record = true ↔ OutOfDate record) ↔
      OutOfDate record ∨ record.field "parameters" = some passwordParameters := by
  have hfalse := @needsRehash_eq_false_iff record fun _ => stored.isPlain_parameters h
  constructor
  · intro hiff
    by_cases hout : OutOfDate record
    · exact .inl hout
    · have hkept : needsRehash record = false := by
        rw [← Bool.not_eq_true, hiff]
        exact hout
      exact .inr (hfalse.1 hkept).2
  · intro hcurrent
    by_cases hout : OutOfDate record
    · refine iff_of_true ?_ hout
      rw [← Bool.not_eq_false, hfalse]
      rintro ⟨hversion, hparameters⟩
      exact not_outOfDate hversion hparameters hout
    · have hversion : record.field "version" = some (.number 1) := by
        by_contra hother
        exact hout (.inl hother)
      have hkept := hfalse.2 ⟨hversion, hcurrent.resolve_left hout⟩
      rw [hkept]
      exact iff_of_false (by decide) hout

/-- **In the column the order is never that of the current parameters.** -/
theorem currentInOrder_column_iff (row : PasswordRecord) :
    CurrentInOrder platform (.column row) ↔ OutOfDate (loadColumn row) := by
  have hfield : (loadColumn row).field "parameters" = some (Jsonb.store row.parameters) := by
    simp [loadColumn, toJson, Json.field]
  have hne : Jsonb.store row.parameters ≠ passwordParameters := by
    intro heq
    cases hparameters : row.parameters with
    | object fields =>
      rw [hparameters, Jsonb.store, passwordParameters] at heq
      have horder := Jsonb.inOrder_storeFields fields
      rw [Json.object.inj heq] at horder
      have hfirst := (List.pairwise_cons.1 horder).1 _ List.mem_cons_self
      exact absurd hfirst (by decide)
    | null => rw [hparameters] at heq; cases heq
    | bool _ => rw [hparameters] at heq; cases heq
    | number _ => rw [hparameters] at heq; cases heq
    | text _ => rw [hparameters] at heq; cases heq
    | array _ => rw [hparameters] at heq; cases heq
  constructor
  · intro h
    refine (h _ rfl).resolve_right ?_
    intro hcurrent
    rw [hfield] at hcurrent
    exact hne (Option.some.inj hcurrent)
  · rintro h record ⟨⟩
    exact .inl h

/-! ### Logging in -/

variable {salt : Salt} {password : String}

/-- A text that is read is verified as a record, or not at all. -/
theorem verifyEncodedPassword_of_decode {encoded : String}
    (h : decodePasswordRecord platform encoded = some record) (readers : List String)
    (password : String) :
    (verifyEncodedPassword platform readers password encoded).valid = false ∨
      (verifyEncodedPassword platform readers password encoded).needsUpgrade =
        needsRehash record := by
  have hmark : recordMark <+: encoded.toList := by
    by_contra hmark
    rw [decodePasswordRecord, if_neg hmark] at h
    cases h
  rw [verifyEncodedPassword, if_pos hmark]
  split_ifs
  · rw [h]
    exact .inr rfl
  · exact .inl rfl

theorem login_eq {stored : StoredCredential} (h : stored.record platform = some record)
    (hkept : needsRehash record = false) {after : StoredCredential}
    (hlogin : login platform mapping stored password salt = some after) : after = stored := by
  cases stored with
  | column row =>
    cases h
    simp [login, hkept] at hlogin
    exact hlogin.2.symm
  | mapped encoded =>
    rcases verifyEncodedPassword_of_decode h mapping.readers password with hinvalid | hneeds
    · simp [login, hinvalid] at hlogin
    · simp [login, hneeds, hkept] at hlogin
      exact hlogin.2.symm

theorem reauthenticate_eq {stored : StoredCredential} (h : stored.record platform = some record)
    (hkept : needsRehash record = false) {after : StoredCredential}
    (hreauthenticate : reauthenticate platform mapping stored password salt = some after) :
    after = stored := by
  cases stored with
  | column row =>
    cases h
    simp [reauthenticate, verifyPasswordCandidate, hkept] at hreauthenticate
    exact hreauthenticate.2.symm
  | mapped encoded =>
    rcases verifyEncodedPassword_of_decode h mapping.readers password with hinvalid | hneeds
    · simp [reauthenticate, verifyPasswordCandidate, hinvalid] at hreauthenticate
    · simp [reauthenticate, verifyPasswordCandidate, hneeds, hkept] at hreauthenticate
      exact hreauthenticate.2.symm

/-! ### Records that were created -/

/-- **A text is read as it was written**, if the record is supported. -/
theorem decodePasswordRecord_encodePasswordRecord {record : PasswordRecord}
    (h : isSupported platform record.toJson = true) :
    decodePasswordRecord platform (encodePasswordRecord record) = some record.toJson := by
  have hdecimal : IsDecimal (record.version : ℚ) := by
    refine @JsonText.isDecimal_of_dvd _ 0 ?_
    rw [Rat.den_intCast]
    exact Nat.one_dvd _
  have hplain : IsPlain record.toJson :=
    ⟨by simp, hdecimal, trivial, trivial, record.isPlain, trivial⟩
  rw [decodePasswordRecord, encodePasswordRecord, String.toList_ofList,
    if_pos (List.prefix_append _ _), List.drop_left, Base64Url.decode_encode, ofUtf8_utf8,
    String.toList_ofList, parse_print hplain, Option.filter_some, if_pos h]

theorem encode_ne_empty {bytes : List Byte} (h : bytes ≠ []) :
    String.ofList (Base64Url.encode bytes) ≠ "" := by
  intro heq
  have hlength := congrArg (fun text : String => text.toList.length) heq
  have hpos := List.length_pos_of_ne_nil h
  simp only [String.toList_ofList, Base64Url.length_encode] at hlength
  simp at hlength
  omega

/-- A record that is created is supported. -/
theorem isSupported_of_create {record : PasswordRecord}
    (h : createPasswordRecord platform password salt = some record) :
    isSupported platform record.toJson = true := by
  obtain ⟨hash, hderive, rfl⟩ := Option.map_eq_some_iff.1 h
  have hhash : hash ≠ [] := by
    rintro rfl
    have hlength := platform.length_derivePassword _ _ _ hderive
    cases hlength
  have hsalt : salt.bytes ≠ [] := by
    intro hnil
    have hlength := salt.length_bytes
    rw [hnil] at hlength
    cases hlength
  have hsalt' := encode_ne_empty hsalt
  have hhash' := encode_ne_empty hhash
  simp [isSupported, toJson, passwordParameters, Json.field, numberOf, less, truthy,
    Json.asText, hsalt', hhash']
  norm_num

/-- A record that is created is not out of date. -/
theorem not_outOfDate_of_create {record : PasswordRecord}
    (h : createPasswordRecord platform password salt = some record) : ¬OutOfDate record.toJson := by
  obtain ⟨hash, -, rfl⟩ := Option.map_eq_some_iff.1 h
  refine not_outOfDate ?_ ?_
  · simp [toJson, Json.field]
  · simp [toJson, Json.field]

/-- Its values are those of the column. -/
theorem not_outOfDate_loadColumn {record : PasswordRecord}
    (h : createPasswordRecord platform password salt = some record) :
    ¬OutOfDate (loadColumn record) := by
  obtain ⟨hash, -, rfl⟩ := Option.map_eq_some_iff.1 h
  have hparameters : ∀ name, (Jsonb.store passwordParameters).field name =
      (passwordParameters.field name).map Jsonb.store :=
    Jsonb.field_store isPlain_passwordParameters.1
  rintro (hother | ⟨name, hname, hother⟩)
  · exact hother (by simp [loadColumn, toJson, Json.field])
  · refine hother ?_
    have hfield : (loadColumn ⟨1, String.ofList (Base64Url.encode salt.bytes),
        String.ofList (Base64Url.encode hash), passwordParameters,
          isPlain_passwordParameters⟩).field "parameters" =
            some (Jsonb.store passwordParameters) := by
      simp [loadColumn, toJson, Json.field]
    rw [hfield, Option.bind_some, hparameters]
    simp only [parameterNames, List.mem_cons, List.not_mem_nil, or_false] at hname
    rcases hname with rfl | rfl | rfl | rfl | rfl <;>
      simp [passwordParameters, Json.field, Jsonb.store]

/-- What was created needs another record when it comes from the column. -/
theorem needsRehash_loadColumn {record : PasswordRecord}
    (h : createPasswordRecord platform password salt = some record) :
    needsRehash (loadColumn record) = true := by
  by_contra hkept
  have hloaded : (StoredCredential.column record).record platform = some (loadColumn record) := rfl
  have hcurrent := (needsRehash_eq_false_iff fun _ =>
    StoredCredential.isPlain_parameters hloaded).1 (Bool.not_eq_true _ ▸ hkept)
  refine not_outOfDate_loadColumn h ((@currentInOrder_column_iff platform record).1 ?_)
  rintro _ ⟨⟩
  exact .inr hcurrent.2

end Credentials

open Credentials
open Base64Url (Byte)

/-- **An upgrade is a fixed point** exactly if the parameters are out of date or in the order of the
current ones: for what was created that is so in the text, and not in the column. -/
theorem credential_upgrade_fixed (platform : PasswordPlatform) (mapping : PasswordMapping) :
    (∀ stored, UpgradeFixed platform mapping stored ↔ CurrentInOrder platform stored) ∧
      ∀ password salt record, createPasswordRecord platform password salt = some record →
        decodePasswordRecord platform (encodePasswordRecord record) = some record.toJson ∧
        CurrentInOrder platform (.mapped (encodePasswordRecord record)) ∧
        needsRehash record.toJson = false ∧
        ¬CurrentInOrder platform (.column record) ∧
        needsRehash (loadColumn record) = true := by
  refine ⟨?_, ?_⟩
  · intro stored
    constructor
    · intro h record hrecord
      exact (needsRehash_iff_outOfDate hrecord).1 (h.rehash record hrecord)
    · intro h
      have hiff : ∀ record, stored.record platform = some record →
          (needsRehash record = true ↔ OutOfDate record) := fun record hrecord =>
        (needsRehash_iff_outOfDate hrecord).2 (h record hrecord)
      have hkept : ∀ record, stored.record platform = some record → ¬OutOfDate record →
          needsRehash record = false := by
        intro record hrecord hout
        rw [← Bool.not_eq_true, hiff record hrecord]
        exact hout
      refine ⟨hiff, ?_, ?_⟩
      · intro record hrecord hout password salt after hlogin
        exact login_eq hrecord (hkept record hrecord hout) hlogin
      · intro record hrecord hout password salt after hreauthenticate
        exact reauthenticate_eq hrecord (hkept record hrecord hout) hreauthenticate
  · intro password salt record hcreate
    have hdecode := decodePasswordRecord_encodePasswordRecord (isSupported_of_create hcreate)
    have hparameters : record.toJson.field "parameters" = some passwordParameters := by
      obtain ⟨hash, -, rfl⟩ := Option.map_eq_some_iff.1 hcreate
      simp [PasswordRecord.toJson, Json.field]
    have hcurrent : CurrentInOrder platform
        (.mapped (encodePasswordRecord record)) := by
      intro other hother
      rw [StoredCredential.record, hdecode] at hother
      cases hother
      exact .inr hparameters
    refine ⟨hdecode, hcurrent, ?_, ?_, needsRehash_loadColumn hcreate⟩
    · have hloaded : (StoredCredential.mapped (encodePasswordRecord record)).record platform =
          some record.toJson := hdecode
      rw [← Bool.not_eq_true, (needsRehash_iff_outOfDate hloaded).2 (.inr hparameters)]
      exact not_outOfDate_of_create hcreate
    · rw [currentInOrder_column_iff]
      exact not_outOfDate_loadColumn hcreate

/-- Argon2 that makes one key of everything. -/
def constantPlatform : PasswordPlatform where
  derivePassword _ _ _ := some (List.replicate 32 (Fin.last 255))
  length_derivePassword := by
    rintro password salt key ⟨⟩
    rfl
  replaceInvalid _ := ""
  toNumber _ := none
  verifyOther _ _ _ := ⟨false, false, false⟩

/-- Sixteen times the same byte. -/
def constantSalt (byte : Byte) : Salt := ⟨List.replicate 16 byte, rfl⟩

/-- The record that is created with a salt. -/
def constantRecord (byte : Byte) : PasswordRecord :=
  ⟨1, String.ofList (Base64Url.encode (List.replicate 16 byte)),
    String.ofList (Base64Url.encode (List.replicate 32 (Fin.last 255))), passwordParameters,
    isPlain_passwordParameters⟩

theorem createPasswordRecord_constant (password : String) (byte : Byte) :
    createPasswordRecord constantPlatform password (constantSalt byte) =
      some (constantRecord byte) := rfl

/-- A record that was just created is written again by the login. -/
theorem created_record_upgraded :
    ¬UpgradeFixed constantPlatform ⟨[], true⟩ (.column (constantRecord 0)) ∧
      login constantPlatform ⟨[], true⟩ (.column (constantRecord 0)) "open sesame"
        (constantSalt 1) = some (.column (constantRecord 1)) := by
  have hneeds := needsRehash_loadColumn (createPasswordRecord_constant "open sesame" 0)
  have hout := not_outOfDate_loadColumn (createPasswordRecord_constant "open sesame" 0)
  constructor
  · intro h
    exact hout ((h.rehash _ rfl).1 hneeds)
  · have hvalid : verifyPassword constantPlatform "open sesame" (loadColumn (constantRecord 0)) =
        true := by
      simp [verifyPassword, loadColumn, PasswordRecord.toJson, Json.field, constantRecord,
        constantPlatform, Json.asText, Base64Url.decode_encode]
    rw [login, if_pos hvalid, if_pos hneeds, createPasswordRecord_constant, Option.map_some]

end Doxa
