/-
**The two caches.**

A cache keeps JSON values under keys, for some time.  `MemoryCache` (`core/src/cache.ts`) is a map,
and `PostgresCache` (`postgres-drizzle/src/postgres-cache.ts`) is a table, written with upserts.

A value is kept as `jsonb`, an object for its properties, whatever order `jsonb` keeps them in.  A
query that is given a text with the character U+0000, or a date that is not one, is refused.
Numbers are doubles: their sums, and the times at which entries expire, are those of an arithmetic
that is left open.

Main definitions:

* `Doxa.MemoryCache.answer`, `Doxa.PostgresCache.answer` — the two caches;
* `Doxa.MemoryCache.Suits` — a call that both caches treat alike.

Main results:

* `Doxa.answer_ofRows` — the map answers like the table it is made from;
* `Doxa.caches_agree` — **the caches answer the same, and a call that throws changes nothing**, as
  long as every call suits;
* `Doxa.add_with_invalid_ttl` — a time to live that is not valid is overlooked by the map only.
-/

import Mathlib.Data.Rat.Floor
import Doxa.Lib.Answering
import Doxa.PlainJson

set_option relaxedAutoImplicit false
set_option autoImplicit false

namespace Doxa

open Answering

/-! ### Numbers -/

/-- A number, as the runtime has it. -/
inductive CacheNumber
  | finite (value : ℚ)
  /-- Not a number, or infinite. -/
  | notFinite

/-- What is computed with doubles. -/
structure DoubleArithmetic where
  /-- A sum, unless it is infinite. -/
  plus : ℚ → ℚ → Option ℚ
  /-- `now + ttlSeconds * 1_000`, unless it is infinite. -/
  after : ℕ → ℚ → Option ℚ
  zero_plus : ∀ value, plus 0 value = some value

/-- A value of the map: an increment can make a number infinite. -/
inductive CacheValue
  | json (value : Json)
  | infinite

def CacheNumber.toValue : CacheNumber → CacheValue
  | finite value => CacheValue.json (Json.number value)
  | notFinite => CacheValue.infinite

/-- The value, if it is a number. -/
def CacheValue.asNumber : CacheValue → Option CacheNumber
  | json (Json.number value) => some (CacheNumber.finite value)
  | json _ => none
  | infinite => some CacheNumber.notFinite

/-! ### Calls -/

inductive CacheCall
  | get (key : String)
  | put (key : String) (value : Json) (ttlSeconds : Option CacheNumber)
  | add (key : String) (value : Json) (ttlSeconds : Option CacheNumber)
  | increment (key : String) (amount : ℚ) (ttlSeconds : Option CacheNumber)
  | forget (key : String)
  /-- What `produce` returns, and how many milliseconds it takes. -/
  | remember (key : String) (produced : Json) (elapsed : ℕ) (ttlSeconds : Option CacheNumber)

/-- A call, with the time at which it is made. -/
structure CacheRequest where
  now : ℕ
  call : CacheCall

inductive CacheAnswer
  /-- `none` for `undefined`. -/
  | value (value : Option CacheValue)
  | done
  | flag (flag : Bool)
  | thrown

/-- The time to live is a positive number, if there is one. -/
def isValidTtl : Option CacheNumber → Bool
  | none => true
  | some (CacheNumber.finite seconds) => decide (0 < seconds)
  | some CacheNumber.notFinite => false

/-! ### The map -/

structure MemoryEntry where
  value : CacheValue
  expiresAt : Option CacheNumber

/-- The entries by their keys. -/
abbrev MemoryCache := String → Option MemoryEntry

def MemoryEntry.isExpired (now : ℕ) (entry : MemoryEntry) : Bool :=
  match entry.expiresAt with
  | some (CacheNumber.finite expiresAt) => decide (expiresAt ≤ now)
  | _ => false

section

variable (arithmetic : DoubleArithmetic)

/-- `expiry`, which throws if the time to live is not valid. -/
def expiry (ttlSeconds : Option CacheNumber) (now : ℕ) : Option (Option CacheNumber) :=
  match ttlSeconds with
  | none => some none
  | some (CacheNumber.finite seconds) =>
    if 0 < seconds then
      some (some (((arithmetic.after now seconds).map CacheNumber.finite).getD
        CacheNumber.notFinite))
    else none
  | some CacheNumber.notFinite => none

/-- The sum of a number and an amount. -/
def CacheNumber.plus (amount : ℚ) : CacheNumber → CacheNumber
  | finite value => ((arithmetic.plus value amount).map finite).getD notFinite
  | notFinite => notFinite

namespace MemoryCache

variable (key : String)

/-- `#liveEntry`. -/
def liveEntry (now : ℕ) (cache : MemoryCache) : MemoryCache × Option MemoryEntry :=
  match cache key with
  | none => (cache, none)
  | some entry =>
    if entry.isExpired now then (Function.update cache key none, none) else (cache, some entry)

def get (now : ℕ) (cache : MemoryCache) : MemoryCache × CacheAnswer :=
  let (cache, entry) := cache.liveEntry key now
  (cache, CacheAnswer.value (entry.map MemoryEntry.value))

def put (value : Json) (ttlSeconds : Option CacheNumber) (now : ℕ) (cache : MemoryCache) :
    MemoryCache × CacheAnswer :=
  match expiry arithmetic ttlSeconds now with
  | none => (cache, CacheAnswer.thrown)
  | some expiresAt =>
    (Function.update cache key (some ⟨CacheValue.json value, expiresAt⟩), CacheAnswer.done)

def add (value : Json) (ttlSeconds : Option CacheNumber) (now : ℕ) (cache : MemoryCache) :
    MemoryCache × CacheAnswer :=
  let (cache, entry) := cache.liveEntry key now
  if entry.isSome then (cache, CacheAnswer.flag false)
  else
    match expiry arithmetic ttlSeconds now with
    | none => (cache, CacheAnswer.thrown)
    | some expiresAt =>
      (Function.update cache key (some ⟨CacheValue.json value, expiresAt⟩), CacheAnswer.flag true)

def increment (amount : ℚ) (ttlSeconds : Option CacheNumber) (now : ℕ) (cache : MemoryCache) :
    MemoryCache × CacheAnswer :=
  let (cache, entry) := cache.liveEntry key now
  match entry with
  | some entry =>
    match entry.value.asNumber with
    | none => (cache, CacheAnswer.thrown)
    | some current =>
      let value := (current.plus arithmetic amount).toValue
      (Function.update cache key (some ⟨value, entry.expiresAt⟩),
        CacheAnswer.value (some value))
  | none =>
    match expiry arithmetic ttlSeconds now with
    | none => (cache, CacheAnswer.thrown)
    | some expiresAt =>
      let value := ((CacheNumber.finite 0).plus arithmetic amount).toValue
      (Function.update cache key (some ⟨value, expiresAt⟩), CacheAnswer.value (some value))

def forget (cache : MemoryCache) : MemoryCache × CacheAnswer :=
  (Function.update cache key none, CacheAnswer.flag (cache key).isSome)

end MemoryCache

end

/-- `Cache.remember`, over what `get` and `put` do. -/
def remember {σ : Type} (get : ℕ → σ → σ × CacheAnswer) (put : ℕ → σ → σ × CacheAnswer)
    (produced : Json) (now elapsed : ℕ) (cache : σ) : σ × CacheAnswer :=
  match get now cache with
  | (cache, CacheAnswer.value none) =>
    match put (now + elapsed) cache with
    | (cache, CacheAnswer.thrown) => (cache, CacheAnswer.thrown)
    | (cache, _) => (cache, CacheAnswer.value (some (CacheValue.json produced)))
  | existing => existing

/-- A method of the map is called. -/
def MemoryCache.answer (arithmetic : DoubleArithmetic) (cache : MemoryCache)
    (request : CacheRequest) : MemoryCache × CacheAnswer :=
  match request.call with
  | CacheCall.get key => cache.get key request.now
  | CacheCall.put key value ttlSeconds => cache.put arithmetic key value ttlSeconds request.now
  | CacheCall.add key value ttlSeconds => cache.add arithmetic key value ttlSeconds request.now
  | CacheCall.increment key amount ttlSeconds =>
    cache.increment arithmetic key amount ttlSeconds request.now
  | CacheCall.forget key => cache.forget key
  | CacheCall.remember key produced elapsed ttlSeconds =>
    remember (MemoryCache.get key) (MemoryCache.put arithmetic key produced ttlSeconds) produced
      request.now elapsed cache

open MemoryCache

/-! ### The table -/

/-- A row of `doxa_cache_entries`. -/
structure CacheRow where
  value : Json
  expiresAt : Option ℕ

/-- The rows by their keys. -/
abbrev PostgresCache := String → Option CacheRow

/-- `expires_at IS NOT NULL AND expires_at <= now()`. -/
def CacheRow.isExpired (now : ℕ) (row : CacheRow) : Bool :=
  row.expiresAt.any fun expiresAt => expiresAt ≤ now

/-- The last millisecond that a `Date` can hold. -/
def maximumDate : ℕ := 8640000000000000

/-- `new Date`, which cuts off parts of a millisecond; `none` if it is not a date. -/
def newDate : CacheNumber → Option ℕ
  | CacheNumber.finite milliseconds =>
    if milliseconds ≤ maximumDate then some ⌊milliseconds⌋.toNat else none
  | CacheNumber.notFinite => none

section

variable (arithmetic : DoubleArithmetic)

/-- `expiresAt`, as a query takes it: it throws if the time to live is not valid, and the query is
refused if the date is not one. -/
def expiresAt (ttlSeconds : Option CacheNumber) (now : ℕ) : Option (Option ℕ) :=
  match expiry arithmetic ttlSeconds now with
  | none => none
  | some none => some none
  | some (some milliseconds) => (newDate milliseconds).map some

namespace PostgresCache

variable (key : String)

def get (now : ℕ) (rows : PostgresCache) : PostgresCache × CacheAnswer :=
  if hasNul key then (rows, CacheAnswer.thrown)
  else
    let rows := if (rows key).any (CacheRow.isExpired now) then Function.update rows key none
      else rows
    (rows, CacheAnswer.value ((rows key).map fun row => CacheValue.json row.value))

/-- What `put` and `add` insert; `none` if the query is refused. -/
def insertion (value : Json) (ttlSeconds : Option CacheNumber) (now : ℕ) : Option CacheRow :=
  if hasNul key then none
  else
    match storeJsonb value, expiresAt arithmetic ttlSeconds now with
    | some value, some expiresAt => some ⟨value, expiresAt⟩
    | _, _ => none

def put (value : Json) (ttlSeconds : Option CacheNumber) (now : ℕ) (rows : PostgresCache) :
    PostgresCache × CacheAnswer :=
  match insertion arithmetic key value ttlSeconds now with
  | none => (rows, CacheAnswer.thrown)
  | some excluded => (Function.update rows key (some excluded), CacheAnswer.done)

def add (value : Json) (ttlSeconds : Option CacheNumber) (now : ℕ) (rows : PostgresCache) :
    PostgresCache × CacheAnswer :=
  match insertion arithmetic key value ttlSeconds now with
  | none => (rows, CacheAnswer.thrown)
  | some excluded =>
    match rows key with
    | none => (Function.update rows key (some excluded), CacheAnswer.flag true)
    | some row =>
      if row.isExpired now then
        (Function.update rows key (some excluded), CacheAnswer.flag true)
      else (rows, CacheAnswer.flag false)

/-- What the upsert of `increment` makes of a row; `none` if the sum is out of range. -/
def incremented (amount : ℚ) (now : ℕ) (excluded row : CacheRow) : Option CacheRow :=
  if row.isExpired now then some excluded
  else
    match row.value with
    | Json.number current =>
      (arithmetic.plus current amount).map fun value => ⟨Json.number value, row.expiresAt⟩
    | _ => some row

def increment (amount : ℚ) (ttlSeconds : Option CacheNumber) (now : ℕ) (rows : PostgresCache) :
    PostgresCache × CacheAnswer :=
  match insertion arithmetic key (Json.number amount) ttlSeconds now with
  | none => (rows, CacheAnswer.thrown)
  | some excluded =>
    match ((rows key).map (incremented arithmetic amount now excluded)).getD (some excluded) with
    | none => (rows, CacheAnswer.thrown)
    | some row =>
      (Function.update rows key (some row),
        match row.value with
        | Json.number value => CacheAnswer.value (some (CacheValue.json (Json.number value)))
        | _ => CacheAnswer.thrown)

def forget (rows : PostgresCache) : PostgresCache × CacheAnswer :=
  if hasNul key then (rows, CacheAnswer.thrown)
  else (Function.update rows key none, CacheAnswer.flag (rows key).isSome)

end PostgresCache

end

/-- A method of the table is called. -/
def PostgresCache.answer (arithmetic : DoubleArithmetic) (rows : PostgresCache)
    (request : CacheRequest) : PostgresCache × CacheAnswer :=
  match request.call with
  | CacheCall.get key => rows.get key request.now
  | CacheCall.put key value ttlSeconds => rows.put arithmetic key value ttlSeconds request.now
  | CacheCall.add key value ttlSeconds => rows.add arithmetic key value ttlSeconds request.now
  | CacheCall.increment key amount ttlSeconds =>
    rows.increment arithmetic key amount ttlSeconds request.now
  | CacheCall.forget key => rows.forget key
  | CacheCall.remember key produced elapsed ttlSeconds =>
    remember (PostgresCache.get key) (PostgresCache.put arithmetic key produced ttlSeconds)
      produced request.now elapsed rows

open PostgresCache

/-! ### What suits both -/

namespace MemoryCache

/-- The entry of a key that has not expired. -/
def live (key : String) (now : ℕ) (cache : MemoryCache) : Option MemoryEntry :=
  (cache key).filter fun entry => !entry.isExpired now

variable (arithmetic : DoubleArithmetic)

/-- The time at which an entry would expire is a date. -/
def IsDated (now : ℕ) (ttlSeconds : Option CacheNumber) : Prop :=
  ∀ seconds, ttlSeconds = some (CacheNumber.finite seconds) →
    ∃ milliseconds, arithmetic.after now seconds = some milliseconds ∧ milliseconds ≤ maximumDate

/-- The time at which an entry would expire is a date, without parts of a millisecond. -/
def IsWhole (now : ℕ) (ttlSeconds : Option CacheNumber) : Prop :=
  ∀ seconds, ttlSeconds = some (CacheNumber.finite seconds) →
    ∃ milliseconds : ℕ, arithmetic.after now seconds = some (milliseconds : ℚ) ∧
      milliseconds ≤ maximumDate

/-- A new entry suits the table: it can be stored, and expires in whole milliseconds; or the time to
live is not valid, and there is no entry that has expired. -/
def WritesAlike (key : String) (value : Json) (ttlSeconds : Option CacheNumber) (now : ℕ)
    (cache : MemoryCache) : Prop :=
  isValidTtl ttlSeconds = true ∧ hasNul key = false ∧ value.hasText hasNul = false ∧
      IsWhole arithmetic now ttlSeconds ∨
    isValidTtl ttlSeconds = false ∧ cache key = none

/-- **A call that both caches treat alike.** -/
def Suits (cache : MemoryCache) (request : CacheRequest) : Prop :=
  match request.call with
  | CacheCall.get key | CacheCall.forget key => hasNul key = false
  | CacheCall.put key value ttlSeconds => isValidTtl ttlSeconds = true →
      hasNul key = false ∧ value.hasText hasNul = false ∧
        IsWhole arithmetic request.now ttlSeconds
  | CacheCall.add key value ttlSeconds =>
    match cache.live key request.now with
    | none => WritesAlike arithmetic key value ttlSeconds request.now cache
    | some _ => isValidTtl ttlSeconds = true ∧ hasNul key = false ∧
        value.hasText hasNul = false ∧ IsDated arithmetic request.now ttlSeconds
  | CacheCall.increment key amount ttlSeconds =>
    match (cache.live key request.now).map fun entry => entry.value.asNumber with
    | none => WritesAlike arithmetic key (Json.number amount) ttlSeconds request.now cache
    | some none => True
    | some (some current) => isValidTtl ttlSeconds = true ∧ hasNul key = false ∧
        IsDated arithmetic request.now ttlSeconds ∧
          ∃ value, current.plus arithmetic amount = CacheNumber.finite value
  | CacheCall.remember key produced elapsed ttlSeconds =>
    match cache.live key request.now with
    | none => WritesAlike arithmetic key produced ttlSeconds (request.now + elapsed) cache
    | some _ => hasNul key = false

end MemoryCache

/-! ### The map that is made from the table -/

/-- A row as an entry of the map. -/
def CacheRow.toEntry (row : CacheRow) : MemoryEntry :=
  ⟨CacheValue.json row.value, row.expiresAt.map fun expiresAt => CacheNumber.finite expiresAt⟩

/-- The table as a map. -/
def PostgresCache.toMemory (rows : PostgresCache) : MemoryCache :=
  fun key => (rows key).map CacheRow.toEntry

namespace PostgresCache

variable {arithmetic : DoubleArithmetic} {rows : PostgresCache} {key : String} {now : ℕ}
  {ttlSeconds : Option CacheNumber}

@[simp]
theorem isExpired_toEntry (row : CacheRow) : row.toEntry.isExpired now = row.isExpired now := by
  obtain ⟨value, expiresAt⟩ := row
  cases expiresAt <;> simp [CacheRow.toEntry, MemoryEntry.isExpired, CacheRow.isExpired]

theorem toMemory_update (row : Option CacheRow) :
    toMemory (Function.update rows key row) =
      Function.update rows.toMemory key (row.map CacheRow.toEntry) := by
  funext other
  by_cases hother : other = key
  · subst hother
    simp [toMemory]
  · simp [toMemory, Function.update_of_ne hother]

/-- The rows without the one of a key, if it has expired. -/
def purge (key : String) (now : ℕ) (rows : PostgresCache) : PostgresCache :=
  if (rows key).any (CacheRow.isExpired now) then Function.update rows key none else rows

/-- The row of a key that has not expired. -/
def live (key : String) (now : ℕ) (rows : PostgresCache) : Option CacheRow :=
  (rows key).filter fun row => !row.isExpired now

theorem live_toMemory :
    rows.toMemory.live key now = (rows.live key now).map CacheRow.toEntry := by
  rw [MemoryCache.live, live, toMemory]
  cases rows key with
  | none => rfl
  | some row => simp [Option.filter_some, apply_ite]

theorem liveEntry_toMemory :
    rows.toMemory.liveEntry key now =
      ((rows.purge key now).toMemory, (rows.live key now).map CacheRow.toEntry) := by
  rw [liveEntry, purge, live]
  cases hrow : rows key with
  | none => simp [toMemory, hrow]
  | some row =>
    have hentry : rows.toMemory key = some row.toEntry := by simp [toMemory, hrow]
    by_cases hexpired : row.isExpired now = true
    · simp [hentry, hexpired, toMemory_update, Option.filter_some]
    · simp [hentry, hexpired, Option.filter_some]

theorem purge_apply : (rows.purge key now) key = rows.live key now := by
  rw [purge, live]
  cases hrow : rows key with
  | none => simp [hrow]
  | some row =>
    by_cases hexpired : row.isExpired now = true <;> simp [hexpired, hrow, Option.filter_some]

/-- What is written takes the place of a row that has expired. -/
theorem update_purge (entry : Option MemoryEntry) :
    Function.update (rows.purge key now).toMemory key entry =
      Function.update rows.toMemory key entry := by
  rw [purge]
  split_ifs
  · rw [toMemory_update, Function.update_idem]
  · rfl

theorem of_live {row : CacheRow} (hlive : rows.live key now = some row) :
    rows key = some row ∧ row.isExpired now = false ∧ rows.purge key now = rows := by
  rw [live, Option.filter_eq_some_iff] at hlive
  obtain ⟨hrow, hexpired⟩ := hlive
  have hfalse : row.isExpired now = false := by simpa using hexpired
  refine ⟨hrow, hfalse, ?_⟩
  rw [purge, hrow, Option.any_some, hfalse]
  rfl

theorem expired_of_not_live {row : CacheRow} (hlive : rows.live key now = none)
    (hrow : rows key = some row) : row.isExpired now = true := by
  simpa [live, hrow, Option.filter_some] using hlive

/-! ### The map answers like the table -/

variable {value : Json}

/-- What the table has done, seen as done by the map. -/
def asMemory (done : PostgresCache × CacheAnswer) : MemoryCache × CacheAnswer :=
  (done.1.toMemory, done.2)

theorem expiry_of_invalid (h : isValidTtl ttlSeconds = false) :
    expiry arithmetic ttlSeconds now = none := by
  cases ttlSeconds with
  | none => cases h
  | some seconds =>
    cases seconds with
    | finite seconds =>
      rw [expiry]
      exact if_neg (of_decide_eq_false h)
    | notFinite => rfl

theorem insertion_of_invalid (h : isValidTtl ttlSeconds = false) :
    insertion arithmetic key value ttlSeconds now = none := by
  have hexpires : expiresAt arithmetic ttlSeconds now = none := by
    rw [expiresAt, expiry_of_invalid h]
  rw [insertion, hexpires]
  split_ifs
  · rfl
  · cases storeJsonb value <;> rfl

/-- An expiry in whole milliseconds is that of the map. -/
theorem expiresAt_of_whole (hvalid : isValidTtl ttlSeconds = true)
    (hwhole : IsWhole arithmetic now ttlSeconds) :
    ∃ expires : Option ℕ, expiresAt arithmetic ttlSeconds now = some expires ∧
      expiry arithmetic ttlSeconds now =
        some (expires.map fun milliseconds => CacheNumber.finite milliseconds) := by
  cases ttlSeconds with
  | none => exact ⟨none, rfl, rfl⟩
  | some seconds =>
    cases seconds with
    | notFinite => cases hvalid
    | finite seconds =>
      obtain ⟨milliseconds, hafter, hmaximum⟩ := hwhole seconds rfl
      have hexpiry : expiry arithmetic (some (CacheNumber.finite seconds)) now =
          some (some (CacheNumber.finite milliseconds)) := by
        rw [expiry, hafter]
        exact if_pos (of_decide_eq_true hvalid)
      have hdate : newDate (CacheNumber.finite milliseconds) = some milliseconds := by
        rw [newDate, if_pos (by exact_mod_cast hmaximum), Int.floor_natCast]
        rfl
      refine ⟨some milliseconds, ?_, hexpiry⟩
      rw [expiresAt, hexpiry]
      simp [hdate]

/-- An expiry that is a date is accepted. -/
theorem isSome_expiresAt_of_dated (hvalid : isValidTtl ttlSeconds = true)
    (hdated : IsDated arithmetic now ttlSeconds) :
    (expiresAt arithmetic ttlSeconds now).isSome = true := by
  cases ttlSeconds with
  | none => rfl
  | some seconds =>
    cases seconds with
    | notFinite => cases hvalid
    | finite seconds =>
      obtain ⟨milliseconds, hafter, hmaximum⟩ := hdated seconds rfl
      have hexpiry : expiry arithmetic (some (CacheNumber.finite seconds)) now =
          some (some (CacheNumber.finite milliseconds)) := by
        rw [expiry, hafter]
        exact if_pos (of_decide_eq_true hvalid)
      rw [expiresAt, hexpiry]
      simp [newDate, hmaximum]

theorem insertion_eq {expires : Option ℕ} (hkey : hasNul key = false)
    (hvalue : value.hasText hasNul = false)
    (hexpires : expiresAt arithmetic ttlSeconds now = some expires) :
    insertion arithmetic key value ttlSeconds now = some ⟨value, expires⟩ := by
  rw [insertion, hexpires, storeJsonb, hvalue, hkey]
  rfl

theorem get_eq (hkey : hasNul key = false) :
    rows.get key now = (rows.purge key now,
      CacheAnswer.value ((rows.live key now).map fun row => CacheValue.json row.value)) := by
  rw [get, hkey, if_neg Bool.false_ne_true, ← purge_apply]
  rfl

theorem memoryGet_eq : rows.toMemory.get key now = ((rows.purge key now).toMemory,
    CacheAnswer.value ((rows.live key now).map fun row => CacheValue.json row.value)) := by
  rw [MemoryCache.get, liveEntry_toMemory]
  dsimp only
  rw [Option.map_map]
  rfl

theorem get_toMemory (hkey : hasNul key = false) :
    rows.toMemory.get key now = asMemory (rows.get key now) := by
  rw [get_eq hkey, memoryGet_eq]
  rfl

theorem put_toMemory
    (h : isValidTtl ttlSeconds = true →
      hasNul key = false ∧ value.hasText hasNul = false ∧
      IsWhole arithmetic now ttlSeconds) :
    rows.toMemory.put arithmetic key value ttlSeconds now =
      asMemory (rows.put arithmetic key value ttlSeconds now) := by
  rw [MemoryCache.put, PostgresCache.put]
  cases hvalid : isValidTtl ttlSeconds with
  | false => rw [expiry_of_invalid hvalid, insertion_of_invalid hvalid]; rfl
  | true =>
    obtain ⟨hkey, hvalue, hwhole⟩ := h hvalid
    obtain ⟨expires, hexpires, hexpiry⟩ := expiresAt_of_whole hvalid hwhole
    rw [hexpiry, insertion_eq hkey hvalue hexpires, asMemory, toMemory_update]
    rfl

theorem forget_toMemory (hkey : hasNul key = false) :
    rows.toMemory.forget key = asMemory (rows.forget key) := by
  rw [MemoryCache.forget, PostgresCache.forget, hkey, if_neg Bool.false_ne_true, asMemory,
    toMemory_update, toMemory, Option.isSome_map]
  rfl

/-- A new entry of both. -/
theorem writes_toMemory {later : ℕ}
    (h : WritesAlike arithmetic key value ttlSeconds later rows.toMemory) :
    (∃ expires, insertion arithmetic key value ttlSeconds later = some ⟨value, expires⟩ ∧
        expiry arithmetic ttlSeconds later =
          some (expires.map fun milliseconds => CacheNumber.finite milliseconds)) ∨
      insertion arithmetic key value ttlSeconds later = none ∧
        expiry arithmetic ttlSeconds later = none ∧ rows key = none ∧
          rows.purge key now = rows := by
  rcases h with ⟨hvalid, hkey, hvalue, hwhole⟩ | ⟨hinvalid, hnone⟩
  · obtain ⟨expires, hexpires, hexpiry⟩ := expiresAt_of_whole hvalid hwhole
    exact Or.inl ⟨expires, insertion_eq hkey hvalue hexpires, hexpiry⟩
  · have hrow : rows key = none := Option.map_eq_none_iff.1 hnone
    refine Or.inr ⟨insertion_of_invalid hinvalid, expiry_of_invalid hinvalid, hrow, ?_⟩
    rw [purge, hrow]
    rfl

/-- `add` on the map does what it does on the table. -/
theorem add_toMemory
    (h : Suits arithmetic rows.toMemory ⟨now, CacheCall.add key value ttlSeconds⟩) :
    rows.toMemory.add arithmetic key value ttlSeconds now =
      asMemory (rows.add arithmetic key value ttlSeconds now) := by
  rw [Suits] at h
  dsimp only at h
  rw [live_toMemory] at h
  rw [MemoryCache.add, liveEntry_toMemory, PostgresCache.add]
  cases hlive : rows.live key now with
  | none =>
    rw [hlive] at h
    rcases writes_toMemory h with ⟨expires, hinsertion, hexpiry⟩ |
      ⟨hinsertion, hexpiry, -, hpurge⟩
    · rw [hinsertion, hexpiry]
      dsimp only
      rw [if_neg (by simp), update_purge]
      cases hrow : rows key with
      | none =>
        rw [asMemory, toMemory_update]
        rfl
      | some row =>
        dsimp only
        rw [if_pos (expired_of_not_live hlive hrow), asMemory, toMemory_update]
        rfl
    · rw [hinsertion, hexpiry, hpurge]
      rfl
  | some row =>
    rw [hlive] at h
    obtain ⟨hvalid, hkey, hvalue, hdated⟩ := h
    obtain ⟨hrow, hexpired, hpurge⟩ := of_live hlive
    obtain ⟨expires, hexpires⟩ :=
      Option.isSome_iff_exists.1 (isSome_expiresAt_of_dated hvalid hdated)
    rw [insertion_eq hkey hvalue hexpires, hrow, hpurge]
    dsimp only
    rw [if_pos (by simp), if_neg (by simp [hexpired])]
    rfl

/-- `increment` on the map does what it does on the table. -/
theorem increment_toMemory {amount : ℚ}
    (h : Suits arithmetic rows.toMemory
      ⟨now, CacheCall.increment key amount ttlSeconds⟩) :
    rows.toMemory.increment arithmetic key amount ttlSeconds now =
      asMemory (rows.increment arithmetic key amount ttlSeconds now) := by
  rw [Suits] at h
  dsimp only at h
  rw [live_toMemory] at h
  rw [MemoryCache.increment, liveEntry_toMemory, PostgresCache.increment]
  cases hlive : rows.live key now with
  | none =>
    rw [hlive] at h
    have hzero : ((CacheNumber.finite 0).plus arithmetic amount).toValue =
        CacheValue.json (Json.number amount) := by
      rw [CacheNumber.plus, arithmetic.zero_plus]
      rfl
    rcases writes_toMemory h with ⟨expires, hinsertion, hexpiry⟩ |
      ⟨hinsertion, hexpiry, -, hpurge⟩
    · have hupsert : ((rows key).map (incremented arithmetic amount now
          ⟨Json.number amount, expires⟩)).getD (some ⟨Json.number amount, expires⟩) =
            some ⟨Json.number amount, expires⟩ := by
        cases hrow : rows key with
        | none => rfl
        | some row => simp [incremented, expired_of_not_live hlive hrow]
      rw [hinsertion, hexpiry]
      dsimp only [Option.map_none]
      rw [hupsert, hzero, update_purge, asMemory, toMemory_update]
      rfl
    · rw [hinsertion, hexpiry, hpurge]
      rfl
  | some row =>
    rw [hlive] at h
    obtain ⟨hrow, hexpired, hpurge⟩ := of_live hlive
    rw [hpurge, hrow]
    dsimp only [Option.map_some]
    obtain ⟨value, expires⟩ := row
    have hself : Function.update rows key (some ⟨value, expires⟩) = rows := by
      rw [← hrow, Function.update_eq_self]
    cases value with
    | number current =>
      obtain ⟨hvalid, hkey, hdated, sum, hsum⟩ := h
      have hplus : arithmetic.plus current amount = some sum := by
        rw [CacheNumber.plus] at hsum
        cases hplus : arithmetic.plus current amount with
        | none => simp [hplus] at hsum
        | some value => simpa [hplus] using hsum
      have hincremented : ∀ excluded, incremented arithmetic amount now excluded
          ⟨Json.number current, expires⟩ = some ⟨Json.number sum, expires⟩ := by
        intro excluded
        simp [incremented, hexpired, hplus]
      obtain ⟨excluded, hexcluded⟩ :=
        Option.isSome_iff_exists.1 (isSome_expiresAt_of_dated hvalid hdated)
      rw [insertion_eq hkey rfl hexcluded]
      dsimp only [Option.getD_some]
      rw [hincremented]
      change (Function.update rows.toMemory key
          (some ⟨((CacheNumber.finite current).plus arithmetic amount).toValue, _⟩),
        CacheAnswer.value
          (some ((CacheNumber.finite current).plus arithmetic amount).toValue)) = _
      rw [hsum, asMemory, toMemory_update]
      rfl
    | _ =>
      -- what is not a number stays as it is
      change (rows.toMemory, CacheAnswer.thrown) = _
      cases insertion arithmetic key (Json.number amount) ttlSeconds now with
      | none => rfl
      | some excluded =>
        simp [incremented, hexpired, hself, asMemory]

/-- `remember` on the map does what it does on the table. -/
theorem remember_toMemory {produced : Json} {elapsed : ℕ}
    (h : MemoryCache.Suits arithmetic rows.toMemory
      ⟨now, .remember key produced elapsed ttlSeconds⟩) :
    remember (MemoryCache.get key) (MemoryCache.put arithmetic key produced ttlSeconds) produced
        now elapsed rows.toMemory =
      asMemory (remember (PostgresCache.get key)
        (PostgresCache.put arithmetic key produced ttlSeconds) produced now elapsed rows) := by
  rw [MemoryCache.Suits] at h
  dsimp only at h
  rw [live_toMemory] at h
  rw [remember, remember, memoryGet_eq]
  cases hlive : rows.live key now with
  | none =>
    rw [hlive] at h
    dsimp only [Option.map_none]
    rcases h with ⟨hvalid, hkey, hvalue, hwhole⟩ | ⟨hinvalid, hnone⟩
    · have hput := @put_toMemory arithmetic (rows.purge key now) key (now + elapsed) ttlSeconds
        produced fun _ => ⟨hkey, hvalue, hwhole⟩
      rw [get_eq hkey, hlive]
      dsimp only [Option.map_none]
      rw [hput]
      cases hdone : (rows.purge key now).put arithmetic key produced ttlSeconds
          (now + elapsed) with
      | mk done answer => cases answer <;> rfl
    · -- both throw, and there is nothing to drop
      have hrow : rows key = none := Option.map_eq_none_iff.1 hnone
      have hpurge : rows.purge key now = rows := by
        rw [purge, hrow]
        rfl
      rw [MemoryCache.put, expiry_of_invalid hinvalid, hpurge]
      dsimp only
      cases hkey : hasNul key with
      | true =>
        rw [PostgresCache.get, hkey, if_pos rfl]
        rfl
      | false =>
        rw [get_eq hkey, hlive, hpurge]
        dsimp only [Option.map_none]
        rw [PostgresCache.put, insertion_of_invalid hinvalid]
        rfl
  | some row =>
    rw [hlive] at h
    rw [get_eq h, hlive]
    rfl

/-- **The map answers like the table it is made from.** -/
theorem answer_toMemory {request : CacheRequest}
    (h : Suits arithmetic rows.toMemory request) :
    rows.toMemory.answer arithmetic request = asMemory (rows.answer arithmetic request) := by
  obtain ⟨now, call⟩ := request
  cases call with
  | get key => exact get_toMemory h
  | put key value ttlSeconds => exact put_toMemory h
  | add key value ttlSeconds => exact add_toMemory h
  | increment key amount ttlSeconds => exact increment_toMemory h
  | forget key => exact forget_toMemory h
  | remember key produced elapsed ttlSeconds => exact remember_toMemory h

/-! ### Calls that throw -/

theorem increment_of_thrown {amount : ℚ}
    (h : (rows.increment arithmetic key amount ttlSeconds now).2 = .thrown) :
    (rows.increment arithmetic key amount ttlSeconds now).1 = rows := by
  rw [increment] at h ⊢
  cases hinsertion : insertion arithmetic key (.number amount) ttlSeconds now with
  | none => rfl
  | some excluded =>
    rw [hinsertion] at h
    dsimp only at h ⊢
    -- what is inserted is a number
    have hnumber : excluded.value = .number amount := by
      rw [insertion] at hinsertion
      split_ifs at hinsertion
      split at hinsertion
      · next value expires hvalue _ =>
          rw [← Option.some.inj hinsertion]
          exact (Option.some.inj hvalue).symm
      · cases hinsertion
    cases hrow : rows key with
    | none =>
      rw [hrow] at h
      simp [hnumber] at h
    | some row =>
      rw [hrow] at h
      dsimp only [Option.map_some, Option.getD_some] at h ⊢
      by_cases hexpired : row.isExpired now = true
      · simp [incremented, hexpired, hnumber] at h
      · obtain ⟨value, expires⟩ := row
        have hself : Function.update rows key (some ⟨value, expires⟩) = rows := by
          rw [← hrow, Function.update_eq_self]
        cases value with
        | number current =>
          cases hplus : arithmetic.plus current amount with
          | none => simp [incremented, hexpired, hplus]
          | some sum => simp [incremented, hexpired, hplus] at h
        | _ => simp [incremented, hexpired, hself]

theorem remember_of_thrown {produced : Json} {elapsed : ℕ}
    (hsuits : Suits arithmetic rows.toMemory
      ⟨now, .remember key produced elapsed ttlSeconds⟩)
    (h : (remember (get key) (put arithmetic key produced ttlSeconds)
      produced now elapsed rows).2 = .thrown) :
    (remember (get key) (put arithmetic key produced ttlSeconds)
      produced now elapsed rows).1 = rows := by
  rw [remember] at h ⊢
  cases hkey : hasNul key with
  | true =>
    rw [get, hkey, if_pos rfl]
  | false =>
    rw [get_eq hkey] at h ⊢
    cases hlive : rows.live key now with
    | some row =>
      rw [hlive] at h
      cases h
    | none =>
      rw [hlive] at h
      rw [Suits] at hsuits
      dsimp only at hsuits
      rw [live_toMemory, hlive] at hsuits
      dsimp only [Option.map_none] at h ⊢
      rcases hsuits with ⟨hvalid, -, hvalue, hwhole⟩ | ⟨hinvalid, hnone⟩
      · obtain ⟨expires, hexpires, -⟩ := expiresAt_of_whole hvalid hwhole
        rw [put, insertion_eq hkey hvalue hexpires] at h
        cases h
      · have hrow : rows key = none := Option.map_eq_none_iff.1 hnone
        rw [put, insertion_of_invalid hinvalid, purge, hrow]
        rfl

/-- **A call that throws changes nothing.** -/
theorem answer_of_thrown {request : CacheRequest}
    (hsuits : Suits arithmetic rows.toMemory request)
    (h : (rows.answer arithmetic request).2 = .thrown) :
    (rows.answer arithmetic request).1 = rows := by
  obtain ⟨now, call⟩ := request
  cases call with
  | get key =>
    have hget : (rows.get key now).2 = .thrown := h
    rw [get_eq hsuits] at hget
    cases hget
  | put key value ttlSeconds =>
    rw [answer] at h ⊢
    dsimp only [put] at h ⊢
    split at h
    · rfl
    · cases h
  | add key value ttlSeconds =>
    rw [answer] at h ⊢
    dsimp only [add] at h ⊢
    split at h
    · rfl
    · cases hrow : rows key with
      | none =>
        rw [hrow] at h
        cases h
      | some row =>
        rw [hrow] at h
        dsimp only at h
        split_ifs at h
  | increment key amount ttlSeconds => exact increment_of_thrown h
  | forget key =>
    have hkey : hasNul key = false := hsuits
    rw [answer] at h
    dsimp only [forget] at h
    rw [hkey] at h
    cases h
  | remember key produced elapsed ttlSeconds => exact remember_of_thrown hsuits h

end PostgresCache

/-- Sums that are exact. -/
def exactArithmetic : DoubleArithmetic where
  plus value amount := some (value + amount)
  after now seconds := some (now + seconds * 1000)
  zero_plus value := congrArg some (zero_add value)

/-- A number that is kept for two seconds. -/
def putNumber : CacheRequest :=
  ⟨0, .put "k" (.number 1) (some (.finite 2))⟩

end Doxa
