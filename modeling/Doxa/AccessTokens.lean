/-
**Access tokens.**

`PostgresAuth` keeps access tokens in a table (`auth-postgres/src/postgres-auth.ts`).  A token can
be rotated: it is revoked, and a successor with the same name and constraints takes its place.  The
tokens that come from one issued token are a *chain*, and one token of a chain should be usable at
any time.  Rotation reads the token outside of the transaction that revokes it, and that transaction
does not ask whether the token is still unrevoked.

Calls interleave between statements.  A call is its own transaction id; it has one transaction at a
time.  `proceed` carries out the next statement of a call, with what the clock shows; `fail` rolls
back.  The chain of a token is not a column: the audit events tell it.  The digest of a token, its
prefix and the audit events are left out, and so are the checks of `accessTokenMaterial` on the name
and the constraints of a request, which a copy of a stored token passes again.

Main definitions:

* `Doxa.AccessTokens`, `Doxa.AccessTokenLabel`, `Doxa.AccessTokens.step` — the table, what can
  happen, and what it does;
* `Doxa.AccessTokens.OneLive` — what rotation promises;
* `Doxa.AccessTokens.Orderly` — a token that is replaced has not been revoked yet.

Main results:

* `Doxa.one_live_token` — **in a run whose steps are all orderly a chain has at most one live token,
  and none after a revocation**;
* `Doxa.two_live_tokens` — two rotations of one token leave two successors.
-/

import Doxa.Lib.ReadCommitted
import Doxa.Lib.Transition
import Mathlib.Data.Int.Notation

set_option relaxedAutoImplicit false
set_option autoImplicit false

namespace Doxa

open ReadCommitted

/-! ### The table and the calls -/

/-- A row of `doxa_auth_access_tokens`, with the id of the token its chain began with.  Times are
in milliseconds, but for the expiry, which is in microseconds. -/
structure AccessToken where
  identityId : String
  name : String
  constraints : List String
  createdAt : ℤ
  expiresAt : ℤ
  lastUsedAt : Option ℤ
  revokedAt : Option ℤ
  chain : String
deriving DecidableEq

/-- What can be asked for. -/
inductive AccessTokenRequest
  | issueAccessToken (identityId id name : String) (constraints : List String)
      (expiresAt : Option ℤ)
  /-- The successor is going to have the second id. -/
  | rotateAccessToken (identityId tokenId id : String)
  | revokeAccessToken (identityId tokenId : String)
  | resolveBearer (tokenId : String)
  /-- `#ensureEligible`, for any other call. -/
  | ensureEligible (identityId : String)

/-- Where a call is; it goes on with the statement that is named. -/
inductive AccessTokenPhase
  /-- The `SELECT` of `#resolveBearer`. -/
  | resolving
  /-- `findIdentity` and `#ensureEligible`, which look at the identity. -/
  | checking (identityId : String)
  /-- `#ensureEligible` revokes the tokens of an identity: the two halves of its `UPDATE`. -/
  | disqualifying (identityId : String)
  | disqualified (identityId : String) (matched : List String)
  /-- The `SELECT` of `rotateAccessToken`. -/
  | reading
  /-- Its `UPDATE`. -/
  | rotating (existing : AccessToken)
  | rotated (existing : AccessToken) (matched : List String)
  /-- An `INSERT`. -/
  | inserting (id : String) (row : AccessToken)
  /-- The `UPDATE` of `revokeAccessToken`. -/
  | revoking
  | revoked (matched : List String)
  /-- The `UPDATE` of `#resolveBearer`. -/
  | touching
  | touched (matched : List String)
  /-- The `COMMIT`, and the chains whose tokens have been revoked. -/
  | committing (revoked : List String)
  | settled

structure AccessTokenCall where
  request : AccessTokenRequest
  phase : AccessTokenPhase

structure AccessTokens where
  tokens : Table String AccessToken
  calls : OrderedMap ℕ AccessTokenCall
  /-- The chains that were revoked. -/
  revocations : List String

namespace AccessTokens

/-- Nothing has been issued. -/
def new : AccessTokens where
  tokens := .empty
  calls := .empty
  revocations := []

/-- A call goes on to a phase. -/
def await (call : ℕ) (request : AccessTokenRequest) (phase : AccessTokenPhase)
    (auth : AccessTokens) : AccessTokens :=
  { auth with calls := auth.calls.set call ⟨request, phase⟩ }

/-- `accessTokenMaterial` of a request. -/
def issued (identityId id name : String) (constraints : List String) (expiresAt : Option ℤ)
    (now : ℤ) : AccessToken where
  identityId := identityId
  name := name
  constraints := constraints
  createdAt := now
  expiresAt := expiresAt.getD ((now + 30 * 24 * 60 * 60 * 1000) * 1000)
  lastUsedAt := none
  revokedAt := none
  chain := id

/-- `accessTokenMaterial` of a token that is rotated. -/
def successor (existing : AccessToken) (now : ℤ) : AccessToken :=
  { existing with createdAt := now, lastUsedAt := none, revokedAt := none }

/-- Where a call begins. -/
def begin (request : AccessTokenRequest) : AccessTokenPhase :=
  match request with
  | .issueAccessToken identityId _ _ _ _ => .checking identityId
  | .rotateAccessToken identityId _ _ => .checking identityId
  | .revokeAccessToken identityId _ => .checking identityId
  | .resolveBearer _ => .resolving
  | .ensureEligible identityId => .checking identityId

/-- Where it goes on once the identity is known to be eligible. -/
def checked (request : AccessTokenRequest) (now : ℤ) : AccessTokenPhase :=
  match request with
  | .issueAccessToken identityId id name constraints expiresAt =>
    let row := issued identityId id name constraints expiresAt now
    if row.expiresAt ≤ now * 1000 then .settled
    else .inserting id row
  | .rotateAccessToken _ _ _ => .reading
  | .revokeAccessToken _ _ => .revoking
  | .resolveBearer _ => .touching
  | .ensureEligible _ => .settled

/-- The identity whose tokens `#ensureEligible` revokes. -/
def ofIdentity (identityId : String) (_ : String) (token : AccessToken) : Bool :=
  token.identityId = identityId && token.revokedAt.isNone

/-- The token that `revokeAccessToken` is to revoke. -/
def ofRequest (identityId tokenId : String) (id : String) (token : AccessToken) : Bool :=
  id = tokenId && token.identityId = identityId && token.revokedAt.isNone

def revoke (now : ℤ) (token : AccessToken) : AccessToken := { token with revokedAt := some now }

/-- The chains of some rows, as they are committed. -/
def chainsOf (auth : AccessTokens) (ids : List String) : List String :=
  ids.filterMap fun id => (auth.tokens.row id).map AccessToken.chain

/-- The second half of an `UPDATE`; the call then goes on to a phase. -/
def update (call : ℕ) (request : AccessTokenRequest) (matched : List String)
    (p : String → AccessToken → Bool) (f : AccessToken → AccessToken) (next : AccessTokenPhase)
    (auth : AccessTokens) : Option AccessTokens :=
  (auth.tokens.update call matched p f).map fun tokens =>
    { auth with tokens := tokens }.await call request next

/-- The next statement of a call. -/
def proceed (call : ℕ) (now : ℤ) (request : AccessTokenRequest) (phase : AccessTokenPhase)
    (auth : AccessTokens) : Option AccessTokens :=
  match phase, request with
  | .resolving, .resolveBearer tokenId =>
    match auth.tokens.row tokenId with
    | some token =>
      if token.revokedAt.isNone && now * 1000 < token.expiresAt then
        some (auth.await call request (.checking token.identityId))
      else some (auth.await call request .settled)
    | none => some (auth.await call request .settled)
  | .disqualifying identityId, _ =>
    some (auth.await call request (.disqualified identityId
      (auth.tokens.matching call (ofIdentity identityId))))
  | .disqualified identityId matched, _ =>
    auth.update call request matched (ofIdentity identityId) (revoke now)
      (.committing
        (auth.chainsOf (auth.tokens.hits call matched (ofIdentity identityId))))
  | .reading, .rotateAccessToken identityId tokenId _ =>
    match auth.tokens.row tokenId with
    | some existing =>
      if existing.identityId = identityId && existing.revokedAt.isNone &&
          now * 1000 < existing.expiresAt then
        some (auth.await call request (.rotating existing))
      else some (auth.await call request .settled)
    | none => some (auth.await call request .settled)
  | .rotating existing, .rotateAccessToken _ tokenId _ =>
    some (auth.await call request (.rotated existing
      (auth.tokens.matching call fun id _ => id = tokenId)))
  | .rotated existing matched, .rotateAccessToken _ tokenId id =>
    auth.update call request matched (fun id _ => id = tokenId) (revoke now)
      (.inserting id (successor existing now))
  | .inserting id row, _ =>
    if (auth.tokens.get id).isSome then none
    else some ({ auth with tokens := auth.tokens.insert call id row }.await call request
      (.committing []))
  | .revoking, .revokeAccessToken identityId tokenId =>
    some (auth.await call request (.revoked
      (auth.tokens.matching call (ofRequest identityId tokenId))))
  | .revoked matched, .revokeAccessToken identityId tokenId =>
    auth.update call request matched (ofRequest identityId tokenId) (revoke now)
      (.committing
        (auth.chainsOf (auth.tokens.hits call matched (ofRequest identityId tokenId))))
  | .touching, .resolveBearer tokenId =>
    some (auth.await call request (.touched
      (auth.tokens.matching call fun id _ => id = tokenId)))
  | .touched matched, .resolveBearer tokenId =>
    auth.update call request matched (fun id _ => id = tokenId)
      (fun token => { token with lastUsedAt := some now }) (.committing [])
  | .committing revoked, _ =>
    some ({ auth with
      tokens := auth.tokens.commit call
      revocations := revoked ++ auth.revocations }.await call request .settled)
  | _, _ => none

end AccessTokens

/-- What can happen. -/
inductive AccessTokenLabel
  | call (call : ℕ) (request : AccessTokenRequest)
  /-- The identity exists, and is eligible or not. -/
  | checked (call : ℕ) (eligible : Bool) (now : ℤ)
  | proceed (call : ℕ) (now : ℤ)
  | fail (call : ℕ)

/-- What a label does, in the states in which it can happen. -/
def AccessTokens.step (auth : AccessTokens) : AccessTokenLabel → Option AccessTokens
  | .call call request =>
    if (auth.calls.get call).isNone then some (auth.await call request (begin request)) else none
  | .checked call eligible now =>
    (auth.calls.get call).bind fun current =>
      match current.phase with
      | .checking identityId =>
        if eligible then some (auth.await call current.request (checked current.request now))
        else some (auth.await call current.request (.disqualifying identityId))
      | _ => none
  | .proceed call now =>
    (auth.calls.get call).bind fun current =>
      auth.proceed call now current.request current.phase
  | .fail call =>
    (auth.calls.get call).map fun current =>
      { auth with tokens := auth.tokens.rollback call }.await call current.request
        .settled

open AccessTokens

/-! ### What rotation promises -/

namespace AccessTokens

/-- A token of the chain that can be used, as far as revocation goes. -/
def Live (auth : AccessTokens) (chain id : String) : Prop :=
  ∃ token, auth.tokens.row id = some token ∧ token.chain = chain ∧ token.revokedAt = none

/-- **A chain has at most one live token**, and none once it has been revoked. -/
def OneLive (auth : AccessTokens) : Prop :=
  (∀ chain id id', auth.Live chain id → auth.Live chain id' → id = id') ∧
    ∀ chain ∈ auth.revocations, ∀ id, ¬ auth.Live chain id

/-- **Orderly steps**: a token that a rotation revokes is still live. -/
def Orderly (auth : AccessTokens) : AccessTokenLabel → Prop
  | .proceed call _ => ∀ current, auth.calls.get call = some current →
      match current.phase, current.request with
      | .rotated _ _, .rotateAccessToken _ tokenId _ =>
        ∃ token, auth.tokens.row tokenId = some token ∧ token.revokedAt = none
      | _, _ => True
  | _ => True

/-! ### What every orderly step keeps -/

variable {request : AccessTokenRequest}

/-- The transaction of a call has revoked a live token of the chain, and has not committed. -/
def Replaced (auth : AccessTokens) (call : ℕ) (chain id : String) : Prop :=
  ∃ token old, auth.tokens.held id = some (call, token) ∧ token.revokedAt ≠ none ∧
    auth.tokens.row id = some old ∧ old.revokedAt = none ∧ old.chain = chain

/-- The transaction of a call has inserted a token, and has not committed. -/
def Inserted (auth : AccessTokens) (call : ℕ) (id : String) : Prop :=
  (∃ token, auth.tokens.held id = some (call, token)) ∧ auth.tokens.row id = none

/-- No chain has this name yet. -/
def Unheard (auth : AccessTokens) (id : String) : Prop :=
  id ∉ auth.revocations ∧ ∀ id' token, auth.tokens.row id' = some token → token.chain ≠ id

/-- What is known of a call. -/
def Informed (auth : AccessTokens) (call : ℕ) (current : AccessTokenCall) : Prop :=
  match current.phase, current.request with
  | .rotating existing, .rotateAccessToken _ tokenId _ =>
    ∃ token, auth.tokens.row tokenId = some token ∧ token.chain = existing.chain
  | .rotated existing matched, .rotateAccessToken _ tokenId _ =>
    tokenId ∈ matched ∧ ∃ token, auth.tokens.row tokenId = some token ∧
      token.chain = existing.chain
  | .inserting id row, _ =>
    row.chain = id ∨ ∃ id', auth.Replaced call row.chain id'
  | .committing revoked, _ =>
    ∀ chain ∈ revoked, (∃ id, auth.Replaced call chain id) ∧ ∀ id, ¬ auth.Inserted call id
  | _, _ => True

/-- What is known of every state of an orderly run. -/
structure Kept (auth : AccessTokens) : Prop where
  oneLive : auth.OneLive
  chain_known : ∀ id token, (auth.tokens.row id = some token ∨
    ∃ call, auth.tokens.held id = some (call, token)) → auth.tokens.get token.chain ≠ none
  revoked_known : ∀ chain ∈ auth.revocations, auth.tokens.get chain ≠ none
  /-- A version of a token, which does not revive it, a token of a new chain, or a successor. -/
  held_known : ∀ id call token, auth.tokens.held id = some (call, token) →
    (∃ old, auth.tokens.row id = some old ∧ token.chain = old.chain ∧
      (token.revokedAt = none → old.revokedAt = none)) ∨
    auth.tokens.row id = none ∧
      (token.chain = id ∧ auth.Unheard id ∨ ∃ id', auth.Replaced call token.chain id')
  inserted_unique : ∀ call id id', auth.Inserted call id → auth.Inserted call id' → id = id'
  inserted_last : ∀ call id, auth.Inserted call id → ∃ current revoked,
    auth.calls.get call = some current ∧ current.phase = .committing revoked
  /-- Who holds a row has still to insert one or to commit. -/
  holding : ∀ id call token, auth.tokens.held id = some (call, token) → ∃ current,
    auth.calls.get call = some current ∧
      ((∃ id row, current.phase = .inserting id row) ∨
        ∃ revoked, current.phase = .committing revoked)
  informed : ∀ call current, auth.calls.get call = some current → auth.Informed call current

variable {auth auth' : AccessTokens} {call : ℕ}

/-- What is known of a call depends on what its transaction holds and on the chains of what is
committed. -/
theorem Informed.congr {current : AccessTokenCall} (h : auth.Informed call current)
    (hrow : ∀ id token, auth.tokens.row id = some token →
      ∃ token', auth'.tokens.row id = some token' ∧ token'.chain = token.chain)
    (hreplaced : ∀ chain id, auth.Replaced call chain id → auth'.Replaced call chain id)
    (hinserted : ∀ id, auth'.Inserted call id → auth.Inserted call id) :
    auth'.Informed call current := by
  obtain ⟨request, phase⟩ := current
  cases phase with
  | rotating existing =>
    cases request with
    | rotateAccessToken identityId tokenId id =>
      obtain ⟨token, htoken, hchain⟩ := h
      obtain ⟨token', htoken', hchain'⟩ := hrow tokenId token htoken
      exact ⟨token', htoken', hchain'.trans hchain⟩
    | _ => trivial
  | rotated existing matched =>
    cases request with
    | rotateAccessToken identityId tokenId id =>
      obtain ⟨hmatched, token, htoken, hchain⟩ := h
      obtain ⟨token', htoken', hchain'⟩ := hrow tokenId token htoken
      exact ⟨hmatched, token', htoken', hchain'.trans hchain⟩
    | _ => trivial
  | inserting id row =>
    exact Or.imp_right (fun ⟨id', hid'⟩ => ⟨id', hreplaced row.chain id' hid'⟩) h
  | committing revoked =>
    intro chain hchain
    obtain ⟨⟨id, hid⟩, hnone⟩ := h chain hchain
    exact ⟨⟨id, hreplaced chain id hid⟩, fun id' hid' => hnone id' (hinserted id' hid')⟩
  | _ => cases request <;> trivial

/-- **A call goes on** without touching the table, and without holding anything. -/
theorem Kept.await (h : auth.Kept) {phase : AccessTokenPhase}
    (hfree : ∀ id token, auth.tokens.held id ≠ some (call, token))
    (hinformed : auth.Informed call ⟨request, phase⟩) : (auth.await call request phase).Kept := by
  have hget : ∀ j, (auth.await call request phase).calls.get j =
      if j = call then some ⟨request, phase⟩ else auth.calls.get j :=
    fun j => OrderedMap.get_set _ _ _ _
  refine ⟨h.oneLive, h.chain_known, h.revoked_known, h.held_known, h.inserted_unique, ?_, ?_, ?_⟩
  · intro j id hinserted
    obtain ⟨current, revoked, hcurrent, hphase⟩ := h.inserted_last j id hinserted
    refine ⟨current, revoked, ?_, hphase⟩
    rw [hget, if_neg, hcurrent]
    rintro rfl
    obtain ⟨⟨token, htoken⟩, -⟩ := hinserted
    exact hfree id token htoken
  · intro id j token hheld
    obtain ⟨current, hcurrent, hphase⟩ := h.holding id j token hheld
    refine ⟨current, ?_, hphase⟩
    rw [hget, if_neg, hcurrent]
    rintro rfl
    exact hfree id token hheld
  · intro j current hcurrent
    rw [hget] at hcurrent
    split_ifs at hcurrent with hj
    · cases hcurrent
      subst hj
      exact hinformed
    · exact h.informed j current hcurrent

/-- A call that is at another phase holds nothing. -/
theorem Kept.free (h : auth.Kept) {current : AccessTokenCall}
    (hcurrent : auth.calls.get call = some current)
    (hinserting : ∀ id row, current.phase ≠ .inserting id row)
    (hcommitting : ∀ revoked, current.phase ≠ .committing revoked)
    (id : String) (token : AccessToken) : auth.tokens.held id ≠ some (call, token) := by
  intro hheld
  obtain ⟨holder, hholder, hphase⟩ := h.holding id call token hheld
  cases hcurrent.symm.trans hholder
  rcases hphase with ⟨id', row, hrow⟩ | ⟨revoked, hrevoked⟩
  · exact hinserting id' row hrow
  · exact hcommitting revoked hrevoked

/-- **An `UPDATE`** holds what it hits; the call goes on to insert or to commit. -/
theorem Kept.update (h : auth.Kept) {next : AccessTokenPhase} {matched : List String}
    {p : String → AccessToken → Bool} {f : AccessToken → AccessToken}
    (hupdate : auth.update call request matched p f next = some auth')
    (hfree : ∀ id token, auth.tokens.held id ≠ some (call, token))
    (hchain : ∀ token, (f token).chain = token.chain)
    (hlive : ∀ token, (f token).revokedAt = none → token.revokedAt = none)
    (hnext : (∃ id row, next = .inserting id row) ∨ ∃ revoked, next = .committing revoked)
    (hinformed : (∀ id, ¬ auth'.Inserted call id) →
      (∀ id token, id ∈ auth.tokens.hits call matched p → auth.tokens.row id = some token →
      auth'.tokens.row id = some token ∧ auth'.tokens.held id = some (call, f token)) →
      auth'.Informed call ⟨request, next⟩) : auth'.Kept := by
  obtain ⟨tokens, htokens, rfl⟩ := Option.map_eq_some_iff.1 hupdate
  have hrow : ∀ id, tokens.row id = auth.tokens.row id := Table.row_update htokens
  have hheld := Table.held_update htokens hfree
  -- what was held before is held now; what else is held is a version of what is committed
  have hold : ∀ {id held}, auth.tokens.held id = some held → tokens.held id = some held := by
    intro id held hid
    rcases hheld id with ⟨-, hnone, -⟩ | ⟨-, hsame⟩
    · cases hnone.symm.trans hid
    · exact hsame.trans hid
  have hnew : ∀ {id holder token}, tokens.held id = some (holder, token) →
      auth.tokens.held id = some (holder, token) ∨
        holder = call ∧ ∃ old, auth.tokens.row id = some old ∧ token = f old := by
    intro id holder token hid
    rcases hheld id with ⟨-, -, old, hold', -, hheld'⟩ | ⟨-, hsame⟩
    · cases hheld'.symm.trans hid
      exact .inr ⟨rfl, old, hold', rfl⟩
    · exact .inl (hsame.symm.trans hid)
  have hreplaced : ∀ {holder chain id}, auth.Replaced holder chain id →
      ({ auth with tokens := tokens }.await call request next).Replaced holder chain id := by
    rintro holder chain id ⟨token, old, hid, hrevoked, holdRow, hrest⟩
    exact ⟨token, old, hold hid, hrevoked, (hrow id).trans holdRow, hrest⟩
  have hinserted : ∀ {holder id},
      ({ auth with tokens := tokens }.await call request next).Inserted holder id →
        auth.Inserted holder id := by
    rintro holder id ⟨⟨token, hid⟩, hnone⟩
    have hnone' : auth.tokens.row id = none := (hrow id).symm.trans hnone
    rcases hnew hid with hid' | ⟨-, old, holdRow, -⟩
    · exact ⟨⟨token, hid'⟩, hnone'⟩
    · cases hnone'.symm.trans holdRow
  have hliveIff : ∀ chain id,
      ({ auth with tokens := tokens }.await call request next).Live chain id ↔
        auth.Live chain id := by
    intro chain id
    exact ⟨fun ⟨token, hid, hrest⟩ => ⟨token, (hrow id).symm.trans hid, hrest⟩,
      fun ⟨token, hid, hrest⟩ => ⟨token, (hrow id).trans hid, hrest⟩⟩
  have hget : ∀ j, ({ auth with tokens := tokens }.await call request next).calls.get j =
      if j = call then some ⟨request, next⟩ else auth.calls.get j :=
    fun j => OrderedMap.get_set _ _ _ _
  have hnotInserted : ∀ id, ¬ auth.Inserted call id :=
    fun id ⟨⟨token, hid⟩, _⟩ => hfree id token hid
  constructor
  case oneLive =>
    refine ⟨?_, ?_⟩
    · intro chain id id' hid hid'
      exact h.oneLive.1 chain id id' ((hliveIff chain id).1 hid) ((hliveIff chain id').1 hid')
    · intro chain hchain' id hid
      exact h.oneLive.2 chain hchain' id ((hliveIff chain id).1 hid)
  case chain_known =>
    intro id token hid
    refine (not_congr (Table.get_update_eq_none_iff htokens)).2 ?_
    rcases hid with hid | ⟨holder, hid⟩
    · exact h.chain_known id token (.inl ((hrow id).symm.trans hid))
    · rcases hnew hid with hid' | ⟨-, old, holdRow, rfl⟩
      · exact h.chain_known id token (.inr ⟨holder, hid'⟩)
      · rw [hchain]
        exact h.chain_known id old (.inl holdRow)
  case revoked_known =>
    intro chain hmem
    exact (not_congr (Table.get_update_eq_none_iff htokens)).2 (h.revoked_known chain hmem)
  case held_known =>
    intro id holder token hid
    rcases hnew hid with hid' | ⟨-, old, holdRow, rfl⟩
    · rcases h.held_known id holder token hid' with ⟨old, holdRow, hrest⟩ | ⟨hnone, hrest⟩
      · exact .inl ⟨old, (hrow id).trans holdRow, hrest⟩
      · refine .inr ⟨(hrow id).trans hnone, ?_⟩
        rcases hrest with ⟨heq, hunheard⟩ | ⟨id', hid''⟩
        · exact .inl ⟨heq, hunheard.1, fun id' token' hid'' =>
            hunheard.2 id' token' ((hrow id').symm.trans hid'')⟩
        · exact .inr ⟨id', hreplaced hid''⟩
    · exact .inl ⟨old, (hrow id).trans holdRow, hchain old, hlive old⟩
  case inserted_unique =>
    intro holder id id' hid hid'
    exact h.inserted_unique holder id id' (hinserted hid) (hinserted hid')
  case inserted_last =>
    intro holder id hid
    obtain ⟨current, revoked, hcurrent, hphase⟩ := h.inserted_last holder id (hinserted hid)
    refine ⟨current, revoked, ?_, hphase⟩
    rw [hget, if_neg, hcurrent]
    rintro rfl
    exact hnotInserted id (hinserted hid)
  case holding =>
    intro id holder token hid
    by_cases hholder : holder = call
    · refine ⟨⟨request, next⟩, ?_, hnext⟩
      rw [hget, if_pos hholder]
    · rcases hnew hid with hid' | ⟨rfl, -⟩
      · obtain ⟨current, hcurrent, hphase⟩ := h.holding id holder token hid'
        exact ⟨current, by rw [hget, if_neg hholder, hcurrent], hphase⟩
      · exact absurd rfl hholder
  case informed =>
    intro j current hcurrent
    rw [hget] at hcurrent
    split_ifs at hcurrent with hj
    · cases hcurrent
      subst hj
      refine hinformed (fun id hid => hnotInserted id (hinserted hid)) ?_
      intro id token hhit hid
      rcases hheld id with ⟨-, -, old, holdRow, -, hheld'⟩ | ⟨hmiss, -⟩
      · cases hid.symm.trans holdRow
        exact ⟨(hrow id).trans hid, hheld'⟩
      · exact absurd hhit hmiss
    · refine (h.informed j current hcurrent).congr ?_ (fun _ _ => hreplaced) (fun _ => hinserted)
      exact fun id token hid => ⟨token, (hrow id).trans hid, rfl⟩

/-- **An `INSERT`** of a new token. -/
theorem Kept.insert (h : auth.Kept) {id : String} {row : AccessToken}
    (hcurrent : auth.calls.get call = some ⟨request, .inserting id row⟩)
    (hfresh : auth.tokens.get id = none) :
    ({ auth with tokens := auth.tokens.insert call id row }.await call request
      (.committing [])).Kept := by
  have hpromise : row.chain = id ∨ ∃ id', auth.Replaced call row.chain id' :=
    h.informed call _ hcurrent
  have hrow : ∀ j, (auth.tokens.insert call id row).row j = auth.tokens.row j :=
    Table.row_insert hfresh
  have hne : ∀ {j held}, auth.tokens.held j = some held → j ≠ id := by
    rintro j held hheld rfl
    exact Table.get_ne_none_of_held hheld hfresh
  have hold : ∀ {j held}, auth.tokens.held j = some held →
      (auth.tokens.insert call id row).held j = some held := by
    intro j held hheld
    rw [Table.held_insert, if_neg (hne hheld), hheld]
  have hnew : ∀ {j holder token}, (auth.tokens.insert call id row).held j = some (holder, token) →
      j = id ∧ holder = call ∧ token = row ∨ auth.tokens.held j = some (holder, token) := by
    intro j holder token hheld
    rw [Table.held_insert] at hheld
    split_ifs at hheld with hj
    · cases hheld
      exact .inl ⟨hj, rfl, rfl⟩
    · exact .inr hheld
  have hrowId : auth.tokens.row id = none := by
    cases hid : auth.tokens.row id with
    | none => rfl
    | some token => exact absurd hfresh (Table.get_ne_none_of_row hid)
  -- the transaction has not inserted anything before
  have hfirst : ∀ j, ¬ auth.Inserted call j := by
    intro j hj
    obtain ⟨current, revoked, hget, hphase⟩ := h.inserted_last call j hj
    cases hcurrent.symm.trans hget
    cases hphase
  have hreplaced : ∀ {holder chain j}, auth.Replaced holder chain j →
      ({ auth with tokens := auth.tokens.insert call id row }.await call request
        (.committing [])).Replaced holder chain j := by
    rintro holder chain j ⟨token, old, hj, hrevoked, holdRow, hrest⟩
    exact ⟨token, old, hold hj, hrevoked, (hrow j).trans holdRow, hrest⟩
  have hinserted : ∀ {holder j},
      ({ auth with tokens := auth.tokens.insert call id row }.await call request
        (.committing [])).Inserted holder j →
          j = id ∧ holder = call ∨ auth.Inserted holder j := by
    rintro holder j ⟨⟨token, hj⟩, hnone⟩
    rcases hnew hj with ⟨rfl, rfl, -⟩ | hj'
    · exact .inl ⟨rfl, rfl⟩
    · exact .inr ⟨⟨token, hj'⟩, (hrow j).symm.trans hnone⟩
  have hlive : ∀ {chain j}, ({ auth with tokens := auth.tokens.insert call id row }.await call
      request (.committing [])).Live chain j → auth.Live chain j := by
    rintro chain j ⟨token, hj, hrest⟩
    exact ⟨token, (hrow _).symm.trans hj, hrest⟩
  have hget : ∀ j, ({ auth with tokens := auth.tokens.insert call id row }.await call request
      (.committing [])).calls.get j =
        if j = call then some ⟨request, .committing []⟩ else auth.calls.get j :=
    fun j => OrderedMap.get_set _ _ _ _
  have hknown : ∀ {j}, auth.tokens.get j ≠ none → (auth.tokens.insert call id row).get j ≠ none :=
    fun hj hnone => hj (Table.get_insert_eq_none_iff.1 hnone).2
  constructor
  case oneLive =>
    refine ⟨?_, ?_⟩
    · intro chain j j' hj hj'
      exact h.oneLive.1 chain j j' (hlive hj) (hlive hj')
    · intro chain hchain j hj
      exact h.oneLive.2 chain hchain j (hlive hj)
  case chain_known =>
    intro j token hj
    rcases hj with hj | ⟨holder, hj⟩
    · exact hknown (h.chain_known j token (.inl ((hrow j).symm.trans hj)))
    · rcases hnew hj with ⟨rfl, rfl, rfl⟩ | hj'
      · rcases hpromise with heq | ⟨id', token', old, -, -, holdRow, -, hchain⟩
        · rw [heq]
          exact fun hnone => (Table.get_insert_eq_none_iff.1 hnone).1 rfl
        · rw [← hchain]
          exact hknown (h.chain_known id' old (.inl holdRow))
      · exact hknown (h.chain_known j token (.inr ⟨holder, hj'⟩))
  case revoked_known => exact fun chain hchain => hknown (h.revoked_known chain hchain)
  case held_known =>
    intro j holder token hj
    rcases hnew hj with ⟨rfl, rfl, rfl⟩ | hj'
    · refine .inr ⟨(hrow j).trans hrowId, ?_⟩
      rcases hpromise with heq | ⟨id', hid'⟩
      · refine .inl ⟨heq, fun hmem => h.revoked_known j hmem hfresh, ?_⟩
        rintro id' token' hid' rfl
        exact h.chain_known id' token' (.inl ((hrow id').symm.trans hid')) hfresh
      · exact .inr ⟨id', hreplaced hid'⟩
    · rcases h.held_known j holder token hj' with ⟨old, holdRow, hrest⟩ | ⟨hnone, hrest⟩
      · exact .inl ⟨old, (hrow j).trans holdRow, hrest⟩
      · refine .inr ⟨(hrow j).trans hnone, ?_⟩
        rcases hrest with ⟨heq, hunheard⟩ | ⟨id', hid'⟩
        · exact .inl ⟨heq, hunheard.1, fun id' token' hid' =>
            hunheard.2 id' token' ((hrow id').symm.trans hid')⟩
        · exact .inr ⟨id', hreplaced hid'⟩
  case inserted_unique =>
    intro holder j j' hj hj'
    rcases hinserted hj with ⟨rfl, rfl⟩ | hbefore
    · rcases hinserted hj' with ⟨rfl, -⟩ | hbefore'
      · rfl
      · exact absurd hbefore' (hfirst j')
    · rcases hinserted hj' with ⟨rfl, rfl⟩ | hbefore'
      · exact absurd hbefore (hfirst j)
      · exact h.inserted_unique holder j j' hbefore hbefore'
  case inserted_last =>
    intro holder j hj
    by_cases hholder : holder = call
    · exact ⟨_, [], by rw [hget, if_pos hholder], rfl⟩
    · obtain ⟨current, revoked, hcurrent', hphase⟩ := h.inserted_last holder j
        ((hinserted hj).resolve_left fun heq => hholder heq.2)
      exact ⟨current, revoked, by rw [hget, if_neg hholder, hcurrent'], hphase⟩
  case holding =>
    intro j holder token hj
    by_cases hholder : holder = call
    · exact ⟨_, by rw [hget, if_pos hholder], .inr ⟨[], rfl⟩⟩
    · obtain ⟨current, hcurrent', hphase⟩ := h.holding j holder token
        ((hnew hj).resolve_left fun heq => hholder heq.2.1)
      exact ⟨current, by rw [hget, if_neg hholder, hcurrent'], hphase⟩
  case informed =>
    intro j current hj
    rw [hget] at hj
    split_ifs at hj with hcall
    · cases hj
      intro chain hchain
      cases hchain
    · refine (h.informed j current hj).congr ?_ (fun _ _ => hreplaced) ?_
      · exact fun id' token hid' => ⟨token, (hrow id').trans hid', rfl⟩
      · exact fun id' hid' => (hinserted hid').resolve_left fun heq => hcall heq.2

/-- **The end of a transaction**: what others hold stays as it is, and what becomes visible was held
by the call. -/
theorem Kept.settle (h : auth.Kept) {tokens : Table String AccessToken} {revocations : List String}
    (hget : ∀ id, tokens.get id = none ↔ auth.tokens.get id = none)
    (hheld : ∀ id holder token, tokens.held id = some (holder, token) ↔
      auth.tokens.held id = some (holder, token) ∧ holder ≠ call)
    (hsame : ∀ id, (∀ token, auth.tokens.held id ≠ some (call, token)) →
      tokens.row id = auth.tokens.row id)
    (hshown : ∀ id token, tokens.row id = some token →
      auth.tokens.row id = some token ∨ auth.tokens.held id = some (call, token))
    (hkept : ∀ id token, auth.tokens.row id = some token →
      ∃ token', tokens.row id = some token' ∧ token'.chain = token.chain)
    (honeLive : ({ auth with tokens := tokens, revocations := revocations }.await call request
      .settled).OneLive)
    (hrevocations : ∀ chain ∈ revocations, chain ∈ auth.revocations ∨
      ∃ id, auth.Replaced call chain id) :
    ({ auth with tokens := tokens, revocations := revocations }.await call request
      .settled).Kept := by
  have hother : ∀ {id holder token}, auth.tokens.held id = some (holder, token) → holder ≠ call →
      tokens.row id = auth.tokens.row id := by
    intro id holder token hid hne
    refine hsame id fun token' hid' => hne ?_
    exact (Prod.mk.inj (Option.some.inj (hid.symm.trans hid'))).1
  have hreplaced : ∀ {holder chain id}, holder ≠ call → auth.Replaced holder chain id →
      ({ auth with tokens := tokens, revocations := revocations }.await call request
        .settled).Replaced holder chain id := by
    rintro holder chain id hne ⟨token, old, hid, hrevoked, holdRow, hrest⟩
    exact ⟨token, old, (hheld id holder token).2 ⟨hid, hne⟩, hrevoked,
      (hother hid hne).trans holdRow, hrest⟩
  have hinserted : ∀ {holder id}, ({ auth with tokens := tokens, revocations := revocations }.await
      call request .settled).Inserted holder id →
        holder ≠ call ∧ auth.Inserted holder id := by
    rintro holder id ⟨⟨token, hid⟩, hnone⟩
    obtain ⟨hid', hne⟩ := (hheld id holder token).1 hid
    exact ⟨hne, ⟨token, hid'⟩, (hother hid' hne).symm.trans hnone⟩
  have hcalls : ∀ j, ({ auth with tokens := tokens, revocations := revocations }.await call request
      .settled).calls.get j =
        if j = call then some ⟨request, .settled⟩ else auth.calls.get j :=
    fun j => OrderedMap.get_set _ _ _ _
  constructor
  case oneLive => exact honeLive
  case chain_known =>
    intro id token hid
    refine (not_congr (hget _)).2 ?_
    rcases hid with hid | ⟨holder, hid⟩
    · rcases hshown id token hid with hid' | hid'
      · exact h.chain_known id token (.inl hid')
      · exact h.chain_known id token (.inr ⟨call, hid'⟩)
    · exact h.chain_known id token (.inr ⟨holder, ((hheld id holder token).1 hid).1⟩)
  case revoked_known =>
    intro chain hchain
    refine (not_congr (hget _)).2 ?_
    rcases hrevocations chain hchain with hold | ⟨id, token, old, -, -, holdRow, -, heq⟩
    · exact h.revoked_known chain hold
    · exact heq ▸ h.chain_known id old (.inl holdRow)
  case held_known =>
    intro id holder token hid
    obtain ⟨hid', hne⟩ := (hheld id holder token).1 hid
    have hrowId : tokens.row id = auth.tokens.row id := hother hid' hne
    rcases h.held_known id holder token hid' with ⟨old, holdRow, hrest⟩ | ⟨hnone, hrest⟩
    · exact .inl ⟨old, hrowId.trans holdRow, hrest⟩
    · refine .inr ⟨hrowId.trans hnone, ?_⟩
      rcases hrest with ⟨heq, hnotRevoked, hunheard⟩ | ⟨id', hid''⟩
      · refine .inl ⟨heq, ?_, ?_⟩
        · intro hmem
          rcases hrevocations id hmem with hold | ⟨id', token', old, -, -, holdRow, -, hchain⟩
          · exact hnotRevoked hold
          · exact hunheard id' old holdRow hchain
        · -- what becomes visible belongs to the chain of what is committed, or to its own
          rintro id' token' hshown' hchain
          rcases hshown id' token' hshown' with hcommitted | hheld'
          · exact hunheard id' token' hcommitted hchain
          · rcases h.held_known id' call token' hheld' with ⟨old, holdRow, hold, -⟩ |
              ⟨-, ⟨hown, -⟩ | ⟨id'', token'', old, -, -, holdRow, -, hold⟩⟩
            · exact hunheard id' old holdRow (hold.symm.trans hchain)
            · obtain rfl : id' = id := hown.symm.trans hchain
              exact hne (Prod.mk.inj (Option.some.inj (hid'.symm.trans hheld'))).1
            · exact hunheard id'' old holdRow (hold.trans hchain)
      · exact .inr ⟨id', hreplaced hne hid''⟩
  case inserted_unique =>
    intro holder id id' hid hid'
    exact h.inserted_unique holder id id' (hinserted hid).2 (hinserted hid').2
  case inserted_last =>
    intro holder id hid
    obtain ⟨hne, hid'⟩ := hinserted hid
    obtain ⟨current, revoked, hcurrent, hphase⟩ := h.inserted_last holder id hid'
    exact ⟨current, revoked, by rw [hcalls, if_neg hne, hcurrent], hphase⟩
  case holding =>
    intro id holder token hid
    obtain ⟨hid', hne⟩ := (hheld id holder token).1 hid
    obtain ⟨current, hcurrent, hphase⟩ := h.holding id holder token hid'
    exact ⟨current, by rw [hcalls, if_neg hne, hcurrent], hphase⟩
  case informed =>
    intro j current hj
    rw [hcalls] at hj
    split_ifs at hj with hcall
    · cases hj
      trivial
    · exact (h.informed j current hj).congr hkept (fun _ _ => hreplaced hcall)
        (fun _ hid => (hinserted hid).2)

/-- `ROLLBACK`. -/
theorem Kept.rollback (h : auth.Kept) :
    ({ auth with tokens := auth.tokens.rollback call }.await call request .settled).Kept := by
  refine h.settle (fun _ => Table.get_rollback_eq_none_iff) (fun _ _ _ => Table.held_rollback)
    (fun id _ => Table.row_rollback id) ?_ ?_ ?_ (fun _ => .inl)
  · intro id token hid
    exact .inl ((Table.row_rollback id).symm.trans hid)
  · intro id token hid
    exact ⟨token, (Table.row_rollback id).trans hid, rfl⟩
  · have hlive : ∀ {chain id}, ({ auth with tokens := auth.tokens.rollback call }.await call request
        .settled).Live chain id → auth.Live chain id :=
      fun ⟨token, hid, hrest⟩ => ⟨token, (Table.row_rollback _).symm.trans hid, hrest⟩
    exact ⟨fun chain id id' hid hid' => h.oneLive.1 chain id id' (hlive hid) (hlive hid'),
      fun chain hchain id hid => h.oneLive.2 chain hchain id (hlive hid)⟩

/-- **`COMMIT`.**  What was live and is not held by the call stays live; of what the call holds, a
successor takes the place of the one live token of its chain. -/
theorem Kept.commit (h : auth.Kept) {revoked : List String}
    (hcurrent : auth.calls.get call = some ⟨request, .committing revoked⟩) :
    ({ auth with tokens := auth.tokens.commit call
                 revocations := revoked ++ auth.revocations }.await call request
      .settled).Kept := by
  have hpromise : ∀ chain ∈ revoked, (∃ id, auth.Replaced call chain id) ∧
      ∀ id, ¬ auth.Inserted call id := h.informed call _ hcurrent
  have hshown : ∀ id token, (auth.tokens.commit call).row id = some token →
      (auth.tokens.row id = some token ∧ ∀ token', auth.tokens.held id ≠ some (call, token')) ∨
        auth.tokens.held id = some (call, token) := by
    intro id token hid
    by_cases hheld : ∃ token', auth.tokens.held id = some (call, token')
    · obtain ⟨token', htoken'⟩ := hheld
      cases (Table.row_commit_of_held htoken').symm.trans hid
      exact .inr htoken'
    · push Not at hheld
      exact .inl ⟨(Table.row_commit_of_not_held hheld).symm.trans hid, hheld⟩
  -- a live token was live before, or the call has inserted it
  have hlive : ∀ {chain id}, ({ auth with tokens := auth.tokens.commit call
                                          revocations := revoked ++ auth.revocations }.await call
        request .settled).Live chain id →
      auth.Live chain id ∧ (∀ token, auth.tokens.held id = some (call, token) →
          token.revokedAt = none) ∨
        auth.Inserted call id ∧
          (chain = id ∧ auth.Unheard id ∨ ∃ id', auth.Replaced call chain id') := by
    rintro chain id ⟨token, hid, rfl, hnotRevoked⟩
    rcases hshown id token hid with ⟨hid', hfree⟩ | hid'
    · exact .inl ⟨⟨token, hid', rfl, hnotRevoked⟩,
        fun token' hheld => absurd hheld (hfree token')⟩
    · rcases h.held_known id call token hid' with ⟨old, holdRow, hchain, hold⟩ | ⟨hnone, hrest⟩
      · refine .inl ⟨⟨old, holdRow, hchain.symm, hold hnotRevoked⟩, fun token' hheld => ?_⟩
        obtain rfl := (Prod.mk.inj (Option.some.inj (hid'.symm.trans hheld))).2
        exact hnotRevoked
      · exact .inr ⟨⟨⟨token, hid'⟩, hnone⟩, hrest⟩
  -- the token that is replaced was the live one of its chain
  have hgone : ∀ {chain id id'}, auth.Replaced call chain id' → auth.Live chain id →
      (∀ token, auth.tokens.held id = some (call, token) → token.revokedAt = none) → False := by
    rintro chain id id' ⟨token, old, hid', hrevoked, holdRow, hold, hchain⟩ hid hheld
    obtain rfl := h.oneLive.1 chain id id' hid ⟨old, holdRow, hchain, hold⟩
    exact hrevoked (hheld token hid')
  refine h.settle (fun _ => Table.get_commit_eq_none_iff) (fun _ _ _ => Table.held_commit)
    (fun id => Table.row_commit_of_not_held) ?_ ?_ ⟨?_, ?_⟩ ?_
  · intro id token hid
    exact (hshown id token hid).imp_left And.left
  · intro id token hid
    by_cases hheld : ∃ token', auth.tokens.held id = some (call, token')
    · obtain ⟨token', htoken'⟩ := hheld
      refine ⟨token', Table.row_commit_of_held htoken', ?_⟩
      rcases h.held_known id call token' htoken' with ⟨old, holdRow, hchain, -⟩ | ⟨hnone, -⟩
      · cases hid.symm.trans holdRow
        exact hchain
      · cases hnone.symm.trans hid
    · push Not at hheld
      exact ⟨token, (Table.row_commit_of_not_held hheld).trans hid, rfl⟩
  · intro chain id id' hid hid'
    rcases hlive hid with ⟨hbefore, hheld⟩ | ⟨hnew, horigin⟩
    · rcases hlive hid' with ⟨hbefore', -⟩ | ⟨-, ⟨rfl, hunheard⟩ | ⟨id'', hreplaced⟩⟩
      · exact h.oneLive.1 chain id id' hbefore hbefore'
      · obtain ⟨token, hrow, hchain, -⟩ := hbefore
        exact absurd hchain (hunheard.2 id token hrow)
      · exact (hgone hreplaced hbefore hheld).elim
    · rcases hlive hid' with ⟨hbefore', hheld'⟩ | ⟨hnew', -⟩
      · rcases horigin with ⟨rfl, hunheard⟩ | ⟨id'', hreplaced⟩
        · obtain ⟨token, hrow, hchain, -⟩ := hbefore'
          exact absurd hchain (hunheard.2 id' token hrow)
        · exact (hgone hreplaced hbefore' hheld').elim
      · exact h.inserted_unique call id id' hnew hnew'
  · intro chain hchain id hid
    rcases List.mem_append.1 hchain with hmem | hmem
    · obtain ⟨⟨id', hreplaced⟩, hnone⟩ := hpromise chain hmem
      rcases hlive hid with ⟨hbefore, hheld⟩ | ⟨hnew, -⟩
      · exact hgone hreplaced hbefore hheld
      · exact hnone id hnew
    · rcases hlive hid with ⟨hbefore, -⟩ |
        ⟨-, ⟨rfl, hunheard⟩ | ⟨id', token, old, -, -, hrow, hrest⟩⟩
      · exact h.oneLive.2 chain hmem id hbefore
      · exact hunheard.1 hmem
      · exact h.oneLive.2 chain hmem id' ⟨old, hrow, hrest.2, hrest.1⟩
  · intro chain hchain
    rcases List.mem_append.1 hchain with hmem | hmem
    · exact .inr (hpromise chain hmem).1
    · exact .inl hmem

/-- An `UPDATE` that revokes live tokens. -/
theorem Kept.revoke (h : auth.Kept) {matched : List String} {p : String → AccessToken → Bool}
    {now : ℤ}
    (hupdate : auth.update call request matched p (revoke now)
      (.committing (auth.chainsOf (auth.tokens.hits call matched p))) = some auth')
    (hfree : ∀ id token, auth.tokens.held id ≠ some (call, token))
    (hlive : ∀ id token, p id token = true → token.revokedAt = none) : auth'.Kept := by
  refine h.update hupdate hfree (fun _ => rfl) (fun _ hnone => by cases hnone) (.inr ⟨_, rfl⟩) ?_
  intro hnone hhits chain hchain
  refine ⟨?_, hnone⟩
  obtain ⟨id, hid, hmap⟩ := List.mem_filterMap.1 hchain
  obtain ⟨token, hrow, rfl⟩ := Option.map_eq_some_iff.1 hmap
  obtain ⟨hrow', hheld'⟩ := hhits id token hid hrow
  refine ⟨id, AccessTokens.revoke now token, token, hheld', by simp [AccessTokens.revoke], hrow',
    ?_, rfl⟩
  obtain ⟨-, seen, hseen, hp⟩ := Table.mem_hits.1 hid
  obtain rfl := Option.some.inj
    (hrow.symm.trans ((Table.sees_of_not_held (hfree id)).symm.trans hseen))
  exact hlive id token hp

section

variable (auth call) (now : ℤ) (request : AccessTokenRequest)

theorem proceed_disqualifying (identityId : String) :
    auth.proceed call now request (.disqualifying identityId) =
      some (auth.await call request (.disqualified identityId
        (auth.tokens.matching call (ofIdentity identityId)))) := by
  cases request <;> rfl

theorem proceed_disqualified (identityId : String) (matched : List String) :
    auth.proceed call now request (.disqualified identityId matched) =
      auth.update call request matched (ofIdentity identityId) (revoke now)
        (.committing
          (auth.chainsOf (auth.tokens.hits call matched (ofIdentity identityId)))) := by
  cases request <;> rfl

theorem proceed_inserting (id : String) (row : AccessToken) :
    auth.proceed call now request (.inserting id row) =
      if (auth.tokens.get id).isSome then none
      else some ({ auth with tokens := auth.tokens.insert call id row }.await call request
        (.committing [])) := by
  cases request <;> rfl

theorem proceed_committing (revoked : List String) :
    auth.proceed call now request (.committing revoked) =
      some ({ auth with
        tokens := auth.tokens.commit call
        revocations := revoked ++ auth.revocations }.await call request
          .settled) := by
  cases request <;> rfl

end

/-- The next statement of a call. -/
theorem Kept.proceed (h : auth.Kept) {now : ℤ} {phase : AccessTokenPhase}
    (hcurrent : auth.calls.get call = some ⟨request, phase⟩)
    (horderly : auth.Orderly (.proceed call now))
    (hproceed : auth.proceed call now request phase = some auth') : auth'.Kept := by
  have hguard := horderly _ hcurrent
  have hinformed := h.informed call _ hcurrent
  cases phase with
  | checking identityId => cases request <;> cases hproceed
  | settled => cases request <;> cases hproceed
  | resolving =>
    have hfree := h.free hcurrent (by simp) (by simp)
    cases request with
    | resolveBearer tokenId =>
      rw [AccessTokens.proceed] at hproceed
      split at hproceed
      · split_ifs at hproceed <;> cases hproceed <;>
          exact h.await hfree trivial
      · cases hproceed
        exact h.await hfree trivial
    | _ => cases hproceed
  | disqualifying identityId =>
    have hfree := h.free hcurrent (by simp) (by simp)
    rw [proceed_disqualifying] at hproceed
    cases hproceed
    exact h.await hfree (by cases request <;> trivial)
  | disqualified identityId matched =>
    have hfree := h.free hcurrent (by simp) (by simp)
    rw [proceed_disqualified] at hproceed
    refine h.revoke hproceed hfree ?_
    intro id token hp
    rw [ofIdentity, Bool.and_eq_true, Option.isNone_iff_eq_none] at hp
    exact hp.2
  | reading =>
    have hfree := h.free hcurrent (by simp) (by simp)
    cases request with
    | rotateAccessToken identityId tokenId id =>
      rw [AccessTokens.proceed] at hproceed
      split at hproceed
      · rename_i existing hrow
        split_ifs at hproceed
        · cases hproceed
          exact h.await hfree ⟨existing, hrow, rfl⟩
        · cases hproceed
          exact h.await hfree trivial
      · cases hproceed
        exact h.await hfree trivial
    | _ => cases hproceed
  | rotating existing =>
    have hfree := h.free hcurrent (by simp) (by simp)
    cases request with
    | rotateAccessToken identityId tokenId id =>
      obtain ⟨token, hrow, hchain⟩ := hinformed
      cases hproceed
      refine h.await hfree ⟨Table.mem_matching.2 ⟨token, ?_, by simp⟩, token, hrow, hchain⟩
      rw [Table.sees_of_not_held (hfree tokenId), hrow]
    | _ => cases hproceed
  | rotated existing matched =>
    have hfree := h.free hcurrent (by simp) (by simp)
    cases request with
    | rotateAccessToken identityId tokenId id =>
      obtain ⟨hmatched, token, hrow, hchain⟩ := hinformed
      obtain ⟨live, hliveRow, hlive⟩ := hguard
      cases hrow.symm.trans hliveRow
      refine h.update hproceed hfree (fun _ => rfl) (fun _ hnone => by cases hnone)
        (.inl ⟨_, _, rfl⟩) ?_
      intro _ hhits
      have hhit : tokenId ∈ auth.tokens.hits call matched fun id _ => id = tokenId := by
        refine Table.mem_hits.2 ⟨hmatched, token, ?_, by simp⟩
        rw [Table.sees_of_not_held (hfree tokenId), hrow]
      obtain ⟨hrow', hheld'⟩ := hhits tokenId token hhit hrow
      exact .inr ⟨tokenId, AccessTokens.revoke now token, token, hheld',
        by simp [AccessTokens.revoke], hrow', hlive, hchain⟩
    | _ => cases hproceed
  | inserting id row =>
    rw [proceed_inserting] at hproceed
    split_ifs at hproceed with hfresh
    cases hproceed
    exact h.insert hcurrent (Option.not_isSome_iff_eq_none.1 hfresh)
  | revoking =>
    have hfree := h.free hcurrent (by simp) (by simp)
    cases request with
    | revokeAccessToken identityId tokenId =>
      cases hproceed
      exact h.await hfree trivial
    | _ => cases hproceed
  | revoked matched =>
    have hfree := h.free hcurrent (by simp) (by simp)
    cases request with
    | revokeAccessToken identityId tokenId =>
      refine h.revoke hproceed hfree ?_
      intro id token hp
      rw [ofRequest, Bool.and_eq_true, Option.isNone_iff_eq_none] at hp
      exact hp.2
    | _ => cases hproceed
  | touching =>
    have hfree := h.free hcurrent (by simp) (by simp)
    cases request with
    | resolveBearer tokenId =>
      cases hproceed
      exact h.await hfree trivial
    | _ => cases hproceed
  | touched matched =>
    have hfree := h.free hcurrent (by simp) (by simp)
    cases request with
    | resolveBearer tokenId =>
      refine h.update hproceed hfree (fun _ => rfl) (fun _ hnone => hnone) (.inr ⟨_, rfl⟩) ?_
      intro _ _ chain hchain
      cases hchain
    | _ => cases hproceed
  | committing revoked =>
    rw [proceed_committing] at hproceed
    cases hproceed
    exact h.commit hcurrent

/-- **Every orderly step keeps it.** -/
theorem Kept.step {label : AccessTokenLabel} (h : auth.Kept) (horderly : auth.Orderly label)
    (hstep : auth.step label = some auth') : auth'.Kept := by
  cases label with
  | call call request =>
    rw [AccessTokens.step] at hstep
    split_ifs at hstep with hnone
    cases hstep
    refine h.await ?_ (by cases request <;> trivial)
    intro id token hheld
    obtain ⟨current, hcurrent, -⟩ := h.holding id call token hheld
    rw [hcurrent] at hnone
    cases hnone
  | checked call eligible now =>
    obtain ⟨⟨request, phase⟩, hcurrent, hchecked⟩ := Option.bind_eq_some_iff.1 hstep
    cases phase with
    | checking identityId =>
      have hfree := h.free hcurrent (by simp) (by simp)
      dsimp only at hchecked
      split_ifs at hchecked
      · cases hchecked
        refine h.await hfree ?_
        cases request with
        | issueAccessToken identityId id name constraints expiresAt =>
          rw [checked]
          split_ifs
          · trivial
          · exact .inl rfl
        | _ => trivial
      · cases hchecked
        exact h.await hfree (by cases request <;> trivial)
    | _ => cases hchecked
  | proceed call now =>
    obtain ⟨⟨request, phase⟩, hcurrent, hproceed⟩ := Option.bind_eq_some_iff.1 hstep
    exact h.proceed hcurrent horderly hproceed
  | fail call =>
    obtain ⟨current, hcurrent, rfl⟩ := Option.map_eq_some_iff.1 hstep
    exact h.rollback

theorem new_kept : new.Kept := by
  constructor
  · refine ⟨?_, ?_⟩
    · rintro chain id id' ⟨token, hid, -⟩
      cases hid
    · intro chain hchain
      cases hchain
  · rintro id token (hid | ⟨call, hid⟩) <;> cases hid
  · intro chain hchain
    cases hchain
  · intro id call token hid
    cases hid
  · rintro call id id' ⟨⟨token, hid⟩, -⟩
    cases hid
  · rintro call id ⟨⟨token, hid⟩, -⟩
    cases hid
  · intro id call token hid
    cases hid
  · intro call current hcurrent
    cases hcurrent

end AccessTokens

/-- **A chain has one live token**, in every run whose steps are all orderly. -/
theorem one_live_token (labels : List AccessTokenLabel) (auth : AccessTokens)
    (h : Transition.Run step Orderly .new labels auth) :
    auth.OneLive :=
  (h.invariant (fun _ _ _ hkept => hkept.step) new_kept).oneLive

/-- A token is issued, rotated, and its successor revoked. -/
def issueRotateRevoke : List AccessTokenLabel :=
  [.call 0 (.issueAccessToken "ada" "first" "laptop" [] none),
    .checked 0 true 0, .proceed 0 0, .proceed 0 0,
    .call 1 (.rotateAccessToken "ada" "first" "second"),
    .checked 1 true 1, .proceed 1 1, .proceed 1 1,
    .proceed 1 1, .proceed 1 1, .proceed 1 1,
    .call 2 (.revokeAccessToken "ada" "second"),
    .checked 2 true 2, .proceed 2 2, .proceed 2 2,
    .proceed 2 2]

/-- The chain is revoked, and has no live token. -/
theorem one_live_token_revoked :
    ∃ auth, Transition.run step .new issueRotateRevoke = some auth ∧
      auth.revocations = ["first"] ∧ auth.OneLive := by
  refine ⟨_, rfl, rfl, one_live_token issueRotateRevoke _ ?_⟩
  refine .cons trivial rfl (.cons trivial rfl (.cons ?_ rfl (.cons ?_ rfl ?_)))
  · rintro _ ⟨⟩
    trivial
  · rintro _ ⟨⟩
    trivial
  refine .cons trivial rfl (.cons trivial rfl (.cons ?_ rfl (.cons ?_ rfl (.cons ?_ rfl ?_))))
  · rintro _ ⟨⟩
    trivial
  · rintro _ ⟨⟩
    trivial
  · -- the token that is replaced is live
    rintro _ ⟨⟩
    exact ⟨_, rfl, rfl⟩
  refine .cons ?_ rfl (.cons ?_ rfl (.cons trivial rfl (.cons trivial rfl ?_)))
  · rintro _ ⟨⟩
    trivial
  · rintro _ ⟨⟩
    trivial
  refine .cons ?_ rfl (.cons ?_ rfl (.cons ?_ rfl (.nil _)))
  · rintro _ ⟨⟩
    trivial
  · rintro _ ⟨⟩
    trivial
  · rintro _ ⟨⟩
    trivial

/-- **Two successors**: two rotations read the same token before either of them commits. -/
theorem two_live_tokens :
    ¬ ∀ (labels : List AccessTokenLabel) (auth : AccessTokens),
      Transition.run step .new labels = some auth → auth.OneLive := by
  intro h
  have honeLive := h
    [.call 0 (.issueAccessToken "ada" "first" "laptop" [] none),
      .checked 0 true 0, .proceed 0 0, .proceed 0 0,
      .call 1 (.rotateAccessToken "ada" "first" "second"),
      .call 2 (.rotateAccessToken "ada" "first" "third"),
      .checked 1 true 1, .checked 2 true 1,
      .proceed 1 1, .proceed 2 1, .proceed 1 1,
      .proceed 2 1, .proceed 1 1, .proceed 1 1,
      .proceed 1 1, .proceed 2 1, .proceed 2 1,
      .proceed 2 1] _ rfl
  have hsame := honeLive.1 "first" "second" "third" ⟨_, rfl, rfl, rfl⟩ ⟨_, rfl, rfl, rfl⟩
  revert hsame
  decide

end Doxa
