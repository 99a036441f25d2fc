/-
**Passwords.**

The credential table that `PostgresAuth` owns has one password record for each identity
(`auth-postgres/src/postgres-auth.ts`).  Logging in and reauthenticating verify a password against
the record they have read, and may later write the record again with newer parameters; a change of
the password verifies the present one, writes the new one and revokes the sessions.  All of them
read the record before their transaction begins, and none of the writes asks whether it is still
the same.

Calls interleave between statements, as in `Doxa.AccessTokens`.  Verification is exact: a record is
the password it verifies, with the version of the parameters it was made with.  A session remembers
the password that was verified for it; that is no column.  The rows of challenges, audit events and
rate limits are left out; where they make a call fail, the call fails here.  `deploy` is a new
version of the framework, with other parameters.

Main definitions:

* `Doxa.AuthPasswords`, `Doxa.PasswordLabel`, `Doxa.AuthPasswords.step` — the tables, what can
  happen, and what it does;
* `Doxa.AuthPasswords.Final` — what a change of the password promises;
* `Doxa.AuthPasswords.Orderly` — what was verified still holds when it is used.

Main results:

* `Doxa.password_change_final` — **in an orderly run the stored password is the one that was set
  last, it was changed by who knew it, and there are no sessions for an earlier one**;
* `Doxa.password_change_not_final` — a login that began before a change brings the old password
  back.
-/

import Doxa.Lib.ReadCommitted
import Doxa.Lib.Transition
import Mathlib.Data.Int.Notation

set_option relaxedAutoImplicit false
set_option autoImplicit false

namespace Doxa

open ReadCommitted

/-! ### The tables and the calls -/

/-- A row of `doxa_auth_passwords`: what it verifies, and the version of its parameters. -/
structure PasswordRecord where
  password : String
  parameters : ℕ
deriving DecidableEq

/-- A row of `doxa_auth_sessions`, with the password that was verified.  Times are in milliseconds.
-/
structure PasswordSession where
  identityId : String
  verified : String
  authenticatedAt : ℤ
  lastSeenAt : ℤ
  idleExpiresAt : ℤ
  expiresAt : ℤ
  revokedAt : Option ℤ
deriving DecidableEq

/-- What can be asked for. -/
inductive PasswordRequest
  | register (identityId password : String)
  /-- The session is going to have the given id. -/
  | login (identityId password sessionId : String)
  | reauthenticate (identityId sessionId password : String)
  | changePassword (identityId currentPassword newPassword : String)
  /-- The challenge that is consumed belongs to the identity. -/
  | resetPassword (identityId newPassword : String)

def PasswordRequest.identityId : PasswordRequest → String
  | .register identityId _ => identityId
  | .login identityId _ _ => identityId
  | .reauthenticate identityId _ _ => identityId
  | .changePassword identityId _ _ => identityId
  | .resetPassword identityId _ => identityId

/-- The password a request is about: the one to verify, and for a change the new one. -/
def PasswordRequest.password : PasswordRequest → String
  | .register _ password => password
  | .login _ password _ => password
  | .reauthenticate _ _ password => password
  | .changePassword _ _ newPassword => newPassword
  | .resetPassword _ newPassword => newPassword

/-- The password that is verified against the record. -/
def PasswordRequest.claimed : PasswordRequest → Option String
  | .login _ password _ => some password
  | .reauthenticate _ _ password => some password
  | .changePassword _ currentPassword _ => some currentPassword
  | _ => none

/-- Whether a request changes the password. -/
def PasswordRequest.changes : PasswordRequest → Bool
  | .changePassword _ _ _ => true
  | .resetPassword _ _ => true
  | _ => false

/-- Where a call is; it goes on with the statement that is named. -/
inductive PasswordPhase
  /-- The `SELECT` of the record, and its verification. -/
  | reading
  /-- The `UPDATE` of the record. -/
  | writing
  | written (matched : List String)
  /-- The `INSERT` of a record, and that of a session. -/
  | registering
  | creating
  /-- The `UPDATE` of a session that is reauthenticated. -/
  | refreshing
  | refreshed (matched : List String)
  /-- The `UPDATE` that revokes the sessions.  From its snapshot on the call remembers how many
  logins of the identity had committed then. -/
  | revoking
  | revoked (matched : List String) (seen : ℕ)
  /-- The `COMMIT`, and that of a change. -/
  | committing
  | finishing (seen : ℕ)
  | settled

structure PasswordCall where
  request : PasswordRequest
  phase : PasswordPhase

/-- A change that has committed. -/
structure PasswordChange where
  identityId : String
  /-- The password that was given as the present one. -/
  currentPassword : Option String
  /-- The password that was stored just before. -/
  stored : Option String
  newPassword : String
deriving DecidableEq

structure AuthPasswords where
  absoluteSessionSeconds : ℤ
  idleSessionSeconds : ℤ
  /-- The version of the parameters that new records are made with. -/
  parameters : ℕ
  passwords : Table String PasswordRecord
  sessions : Table String PasswordSession
  calls : OrderedMap ℕ PasswordCall
  /-- The identities whose logins have committed, the latest first. -/
  logins : List String
  /-- The changes that have committed, the latest first. -/
  changes : List PasswordChange

namespace AuthPasswords

/-- Nobody has registered. -/
def new (absoluteSessionSeconds idleSessionSeconds : ℤ) : AuthPasswords where
  absoluteSessionSeconds := absoluteSessionSeconds
  idleSessionSeconds := idleSessionSeconds
  parameters := 0
  passwords := .empty
  sessions := .empty
  calls := .empty
  logins := []
  changes := []

variable (call : ℕ)

/-- A call goes on to a phase. -/
def await (request : PasswordRequest) (phase : PasswordPhase) (auth : AuthPasswords) :
    AuthPasswords :=
  { auth with calls := auth.calls.set call ⟨request, phase⟩ }

/-- `createPasswordRecord`. -/
def createPasswordRecord (password : String) (auth : AuthPasswords) : PasswordRecord :=
  ⟨password, auth.parameters⟩

/-- `verifyPassword`. -/
def verifyPassword (password : String) (record : PasswordRecord) : Bool :=
  record.password = password

/-- `needsRehash`. -/
def needsRehash (record : PasswordRecord) (auth : AuthPasswords) : Bool :=
  record.parameters ≠ auth.parameters

variable (identityId : String)

/-- The row of an identity. -/
def ofIdentity (key : String) (_ : PasswordRecord) : Bool := key = identityId

/-- The sessions that a change revokes. -/
def isActive (_ : String) (session : PasswordSession) : Bool :=
  session.identityId = identityId && session.revokedAt.isNone

/-- The session that is reauthenticated. -/
def isCurrent (identityId sessionId : String) (now : ℤ) (key : String)
    (session : PasswordSession) : Bool :=
  key = sessionId && session.identityId = identityId && session.revokedAt.isNone &&
    now < session.expiresAt && now < session.idleExpiresAt

def refresh (now : ℤ) (session : PasswordSession) : PasswordSession :=
  { session with authenticatedAt := now, lastSeenAt := now }

def revoke (now : ℤ) (session : PasswordSession) : PasswordSession :=
  { session with revokedAt := some now }

/-- `sessionRow`. -/
def sessionRow (identityId password : String) (now : ℤ) (auth : AuthPasswords) :
    PasswordSession where
  identityId := identityId
  verified := password
  authenticatedAt := now
  lastSeenAt := now
  idleExpiresAt := now + auth.idleSessionSeconds * 1000
  expiresAt := now + auth.absoluteSessionSeconds * 1000
  revokedAt := none

/-- The password that is stored for an identity. -/
def stored (auth : AuthPasswords) : Option String :=
  (auth.passwords.row identityId).map PasswordRecord.password

/-- How often somebody has logged in. -/
def loginCount (auth : AuthPasswords) : ℕ := auth.logins.count identityId

/-- Where a call begins. -/
def begin (request : PasswordRequest) : PasswordPhase :=
  match request with
  | .register _ _ => .registering
  | .resetPassword _ _ => .writing
  | _ => .reading

/-- Where it goes on once the password is verified. -/
def verified (request : PasswordRequest) (needsRehash : Bool) : PasswordPhase :=
  match request with
  | .login _ _ _ =>
    if needsRehash then .writing else .creating
  | .reauthenticate _ _ _ =>
    if needsRehash then .writing else .refreshing
  | .changePassword _ _ _ => .writing
  | _ => .settled

/-- Where it goes on once the record is written. -/
def afterWriting (request : PasswordRequest) : PasswordPhase :=
  match request with
  | .login _ _ _ => .creating
  | .reauthenticate _ _ _ => .refreshing
  | .changePassword _ _ _ => .revoking
  | .resetPassword _ _ => .revoking
  | .register _ _ => .settled

/-- `ROLLBACK`. -/
def fail (request : PasswordRequest) (auth : AuthPasswords) : AuthPasswords :=
  { auth with
    passwords := auth.passwords.rollback call
    sessions := auth.sessions.rollback call }.await call request .settled

/-- `COMMIT`. -/
def commit (request : PasswordRequest) (auth : AuthPasswords) : AuthPasswords :=
  { auth with
    passwords := auth.passwords.commit call
    sessions := auth.sessions.commit call }.await call request .settled

/-- The next statement of a call. -/
def proceed (now : ℤ) (request : PasswordRequest) (phase : PasswordPhase) (auth : AuthPasswords) :
    Option AuthPasswords :=
  match phase with
  | .reading =>
    match auth.passwords.row request.identityId with
    | some record =>
      if request.claimed.any fun password => verifyPassword password record then
        some (auth.await call request (verified request (auth.needsRehash record)))
      else some (auth.await call request .settled)
    | none => some (auth.await call request .settled)
  | .writing =>
    some (auth.await call request
      (.written (auth.passwords.matching call (ofIdentity request.identityId))))
  | .written matched =>
    (auth.passwords.update call matched (ofIdentity request.identityId)
      fun _ => auth.createPasswordRecord request.password).map fun passwords =>
        { auth with passwords := passwords }.await call request (afterWriting request)
  | .registering =>
    if (auth.passwords.get request.identityId).isSome then none
    else some ({ auth with
      passwords := auth.passwords.insert call request.identityId
        (auth.createPasswordRecord request.password) }.await call request
          .committing)
  | .creating =>
    match request with
    | .login identityId password sessionId =>
      if (auth.sessions.get sessionId).isSome then none
      else some ({ auth with
        sessions := auth.sessions.insert call sessionId
          (auth.sessionRow identityId password now) }.await call request
            .committing)
    | _ => none
  | .refreshing =>
    match request with
    | .reauthenticate identityId sessionId _ =>
      some (auth.await call request (.refreshed
        (auth.sessions.matching call (isCurrent identityId sessionId now))))
    | _ => none
  | .refreshed matched =>
    match request with
    | .reauthenticate identityId sessionId _ =>
      (auth.sessions.update call matched (isCurrent identityId sessionId now)
        (refresh now)).map fun sessions =>
          -- without a session the call throws
          if (auth.sessions.hits call matched (isCurrent identityId sessionId now)).isEmpty then
            auth.fail call request
          else { auth with sessions := sessions }.await call request .committing
    | _ => none
  | .revoking =>
    some (auth.await call request (.revoked
      (auth.sessions.matching call (isActive request.identityId))
      (auth.loginCount request.identityId)))
  | .revoked matched seen =>
    (auth.sessions.update call matched (isActive request.identityId) (revoke now)).map
      fun sessions => { auth with sessions := sessions }.await call request
        (.finishing seen)
  | .committing =>
    match request with
    | .login identityId _ _ =>
      some { auth.commit call request with logins := identityId :: auth.logins }
    | _ => some (auth.commit call request)
  | .finishing _ =>
    some { auth.commit call request with
      changes :=
        ⟨request.identityId, request.claimed, auth.stored request.identityId,
          request.password⟩ :: auth.changes }
  | .settled => none

end AuthPasswords

/-- What can happen. -/
inductive PasswordLabel
  | call (call : ℕ) (request : PasswordRequest)
  | proceed (call : ℕ) (now : ℤ)
  | fail (call : ℕ)
  | deploy

/-- What a label does, in the states in which it can happen.  A challenge belongs to an identity
that has a password. -/
def AuthPasswords.step (auth : AuthPasswords) : PasswordLabel → Option AuthPasswords
  | .call call request =>
    match request with
    | .resetPassword identityId _ =>
      if (auth.calls.get call).isNone && (auth.stored identityId).isSome then
        some (auth.await call request (begin request))
      else none
    | _ =>
      if (auth.calls.get call).isNone then some (auth.await call request (begin request))
      else none
  | .proceed call now =>
    (auth.calls.get call).bind fun current =>
      auth.proceed call now current.request current.phase
  | .fail call =>
    (auth.calls.get call).map fun current => auth.fail call current.request
  | .deploy => some { auth with parameters := auth.parameters + 1 }

/-! ### What a change promises -/

namespace AuthPasswords

/-- **A change of the password is final**: the stored password is the one that was set last; who
changed it gave the password that was stored; every session that is not revoked belongs to a login
that verified the stored password. -/
structure Final (auth : AuthPasswords) : Prop where
  stored : ∀ identityId change,
    auth.changes.find? (fun change => change.identityId = identityId) = some change →
      auth.stored identityId = some change.newPassword
  known : ∀ change ∈ auth.changes, ∀ currentPassword,
    change.currentPassword = some currentPassword → change.stored = some currentPassword
  sessions : ∀ sessionId session, auth.sessions.row sessionId = some session →
    session.revokedAt = none → auth.stored session.identityId = some session.verified

/-- **Orderly steps**: the password that a call has verified is the stored one when the call writes
the record and when a login commits, and no login commits between the snapshot of the `UPDATE` that
revokes the sessions and the commit of the change. -/
def Orderly (auth : AuthPasswords) : PasswordLabel → Prop
  | .proceed call _ => ∀ current, auth.calls.get call = some current →
      match current.phase with
      | .written _ => ∀ claimed, current.request.claimed = some claimed →
          auth.stored current.request.identityId = some claimed
      | .committing => ∀ identityId password sessionId,
          current.request = .login identityId password sessionId →
            auth.stored identityId = some password
      | .finishing seen => auth.loginCount current.request.identityId = seen
      | _ => True
  | _ => True

/-! ### What every orderly step keeps -/

variable {identityId : String} {phase : PasswordPhase} {now : ℤ}

/-- A session of the identity that is not revoked. -/
def Active (identityId sessionId : String) (auth : AuthPasswords) : Prop :=
  ∃ session, auth.sessions.row sessionId = some session ∧ session.identityId = identityId ∧
    session.revokedAt = none

/-- The transaction of a call may hold rows. -/
def Holds : PasswordPhase → Prop
  | .reading | .writing | .written _
  | .registering | .settled => False
  | _ => True

/-- It may hold sessions. -/
def HoldsSessions : PasswordPhase → Prop
  | .committing | .finishing _ => True
  | _ => False

/-- A request that writes a record which is there. -/
def Rewrites (request : PasswordRequest) : Prop :=
  request.changes = true ∨ request.claimed = some request.password

/-- A record that is not committed verifies what its call is about, and replaces the one that the
call has verified, if any. -/
def HeldPassword (request : PasswordRequest) (identityId : String) (record : PasswordRecord)
    (auth : AuthPasswords) : Prop :=
  identityId = request.identityId ∧ record.password = request.password ∧
    (auth.passwords.row identityId = none ∨ Rewrites request) ∧
      ∀ claimed, request.claimed = some claimed → auth.stored identityId = some claimed

/-- A session that is not committed is a version of one that is, which does not revive it, or that
of a login. -/
def HeldSession (current : PasswordCall) (sessionId : String) (session : PasswordSession)
    (auth : AuthPasswords) : Prop :=
  (∃ old, auth.sessions.row sessionId = some old ∧ session.identityId = old.identityId ∧
    session.verified = old.verified ∧ (session.revokedAt = none → old.revokedAt = none) ∧
      (current.request.changes = true → session.revokedAt ≠ none)) ∨
  auth.sessions.row sessionId = none ∧
    current = ⟨.login session.identityId session.verified sessionId,
      .committing⟩

/-- What is known of a call. -/
def Informed (call : ℕ) (current : PasswordCall) (auth : AuthPasswords) : Prop :=
  match current.phase with
  | .registering => current.request.claimed = none ∧ current.request.changes = false
  | .writing => Rewrites current.request ∧ (current.request.changes = true →
      auth.passwords.row current.request.identityId ≠ none)
  | .written matched => Rewrites current.request ∧ (current.request.changes = true →
      auth.passwords.row current.request.identityId ≠ none ∧ current.request.identityId ∈ matched)
  | .committing => current.request.changes = false
  | .refreshed _ => current.request.changes = false
  | .revoking => current.request.changes = true ∧
      ∃ record, auth.passwords.held current.request.identityId = some (call, record)
  | .revoked matched seen => current.request.changes = true ∧
      (∃ record, auth.passwords.held current.request.identityId = some (call, record)) ∧
      seen ≤ auth.loginCount current.request.identityId ∧
      (auth.loginCount current.request.identityId = seen →
        ∀ sessionId, auth.Active current.request.identityId sessionId → sessionId ∈ matched)
  | .finishing seen => current.request.changes = true ∧
      (∃ record, auth.passwords.held current.request.identityId = some (call, record)) ∧
      seen ≤ auth.loginCount current.request.identityId ∧
      (auth.loginCount current.request.identityId = seen →
        ∀ sessionId, auth.Active current.request.identityId sessionId →
          ∃ session, auth.sessions.held sessionId = some (call, session))
  | _ => True

/-- What is known of every state of an orderly run. -/
structure Kept (auth : AuthPasswords) : Prop where
  final : auth.Final
  password : ∀ identityId call record, auth.passwords.held identityId = some (call, record) →
    ∃ current, auth.calls.get call = some current ∧ Holds current.phase ∧
      auth.HeldPassword current.request identityId record
  session : ∀ sessionId call session, auth.sessions.held sessionId = some (call, session) →
    ∃ current, auth.calls.get call = some current ∧ HoldsSessions current.phase ∧
      auth.HeldSession current sessionId session
  informed : ∀ call current, auth.calls.get call = some current → auth.Informed call current

variable {auth auth' : AuthPasswords} {call : ℕ} {request : PasswordRequest}

theorem get_await (phase : PasswordPhase) (auth : AuthPasswords) (j : ℕ) :
    (auth.await call request phase).calls.get j =
      if j = call then some ⟨request, phase⟩ else auth.calls.get j :=
  OrderedMap.get_set _ _ _ _

/-- **What happens elsewhere**: the rows a call holds stay as they are, and an active session has
been active before or has come with a login. -/
structure Elsewhere (call : ℕ) (auth auth' : AuthPasswords) : Prop where
  password : ∀ identityId record, auth'.passwords.held identityId = some (call, record) ↔
    auth.passwords.held identityId = some (call, record)
  passwordRow : ∀ identityId record, auth.passwords.held identityId = some (call, record) →
    auth'.passwords.row identityId = auth.passwords.row identityId
  session : ∀ sessionId session, auth'.sessions.held sessionId = some (call, session) ↔
    auth.sessions.held sessionId = some (call, session)
  sessionRow : ∀ sessionId session, auth.sessions.held sessionId = some (call, session) →
    auth'.sessions.row sessionId = auth.sessions.row sessionId
  kept : ∀ identityId, auth.passwords.row identityId ≠ none →
    auth'.passwords.row identityId ≠ none
  logins : ∀ identityId, auth.loginCount identityId ≤ auth'.loginCount identityId
  active : ∀ identityId sessionId, auth'.Active identityId sessionId →
    auth.Active identityId sessionId ∨ auth.loginCount identityId < auth'.loginCount identityId

theorem Informed.elsewhere {current : PasswordCall} (h : auth.Informed call current)
    (he : Elsewhere call auth auth') : auth'.Informed call current := by
  -- as long as nobody logs in, what is active has been active before
  have hbefore : ∀ {identityId seen}, seen ≤ auth.loginCount identityId →
      auth'.loginCount identityId = seen → auth.loginCount identityId = seen ∧
        ∀ sessionId, auth'.Active identityId sessionId → auth.Active identityId sessionId := by
    intro identityId seen hle heq
    have hmono := he.logins identityId
    have hsame : auth.loginCount identityId = seen := by omega
    refine ⟨hsame, fun sessionId hactive =>
      (he.active identityId sessionId hactive).resolve_right ?_⟩
    omega
  have hheld : ∀ {identityId}, (∃ record, auth.passwords.held identityId = some (call, record)) →
      ∃ record, auth'.passwords.held identityId = some (call, record) :=
    fun ⟨record, hrecord⟩ => ⟨record, (he.password _ record).2 hrecord⟩
  obtain ⟨request, phase⟩ := current
  cases phase with
  | registering => exact h
  | writing => exact ⟨h.1, fun hchanges => he.kept _ (h.2 hchanges)⟩
  | written matched =>
    exact ⟨h.1, fun hchanges => ⟨he.kept _ (h.2 hchanges).1, (h.2 hchanges).2⟩⟩
  | committing => exact h
  | refreshed matched => exact h
  | revoking => exact ⟨h.1, hheld h.2⟩
  | revoked matched seen =>
    obtain ⟨hchanges, hrecord, hle, hmatched⟩ := h
    refine ⟨hchanges, hheld hrecord, Nat.le_trans hle (he.logins _), ?_⟩
    intro heq sessionId hactive
    obtain ⟨hsame, hactive'⟩ := hbefore hle heq
    exact hmatched hsame sessionId (hactive' sessionId hactive)
  | finishing seen =>
    obtain ⟨hchanges, hrecord, hle, hsessions⟩ := h
    refine ⟨hchanges, hheld hrecord, Nat.le_trans hle (he.logins _), ?_⟩
    intro heq sessionId hactive
    obtain ⟨hsame, hactive'⟩ := hbefore hle heq
    obtain ⟨session, hsession⟩ := hsessions hsame sessionId (hactive' sessionId hactive)
    exact ⟨session, (he.session sessionId session).2 hsession⟩
  | _ => trivial

theorem stored_congr (h : auth'.passwords.row identityId = auth.passwords.row identityId) :
    auth'.stored identityId = auth.stored identityId := by
  rw [stored, stored, h]

/-- **A call does something**: what is to be shown is about what it holds itself. -/
theorem Kept.change (h : auth.Kept)
    (hcalls : ∀ j, auth'.calls.get j = if j = call then some ⟨request, phase⟩ else auth.calls.get j)
    (helsewhere : ∀ j, j ≠ call → Elsewhere j auth auth')
    (hpassword : ∀ identityId record, auth'.passwords.held identityId = some (call, record) →
      Holds phase ∧ auth'.HeldPassword request identityId record)
    (hsession : ∀ sessionId session, auth'.sessions.held sessionId = some (call, session) →
      HoldsSessions phase ∧ auth'.HeldSession ⟨request, phase⟩ sessionId session)
    (hinformed : auth'.Informed call ⟨request, phase⟩) (hfinal : auth'.Final) : auth'.Kept := by
  constructor
  case final => exact hfinal
  case password =>
    intro identityId holder record hheld
    by_cases hholder : holder = call
    · subst hholder
      exact ⟨⟨request, phase⟩, by rw [hcalls, if_pos rfl], hpassword identityId record hheld⟩
    · have he := helsewhere holder hholder
      have hheld' := (he.password identityId record).1 hheld
      obtain ⟨current, hcurrent, hholds, hidentity, hrecord, hrow⟩ :=
        h.password identityId holder record hheld'
      refine ⟨current, by rw [hcalls, if_neg hholder, hcurrent], hholds, hidentity, hrecord, ?_⟩
      rw [he.passwordRow identityId record hheld',
        stored_congr (he.passwordRow identityId record hheld')]
      exact hrow
  case session =>
    intro sessionId holder session hheld
    by_cases hholder : holder = call
    · subst hholder
      exact ⟨⟨request, phase⟩, by rw [hcalls, if_pos rfl], hsession sessionId session hheld⟩
    · have he := helsewhere holder hholder
      have hheld' := (he.session sessionId session).1 hheld
      obtain ⟨current, hcurrent, hholds, hrow⟩ := h.session sessionId holder session hheld'
      refine ⟨current, by rw [hcalls, if_neg hholder, hcurrent], hholds, ?_⟩
      rw [HeldSession, he.sessionRow sessionId session hheld']
      exact hrow
  case informed =>
    intro j current hcurrent
    rw [hcalls] at hcurrent
    split_ifs at hcurrent with hj
    · cases hcurrent
      subst hj
      exact hinformed
    · exact (h.informed j current hcurrent).elsewhere (helsewhere j hj)

/-- **A statement**: nothing is committed, and the other calls hold what they have held. -/
structure Statement (call : ℕ) (auth auth' : AuthPasswords) : Prop where
  passwordRow : ∀ identityId, auth'.passwords.row identityId = auth.passwords.row identityId
  sessionRow : ∀ sessionId, auth'.sessions.row sessionId = auth.sessions.row sessionId
  password : ∀ j, j ≠ call → ∀ identityId record,
    auth'.passwords.held identityId = some (j, record) ↔
      auth.passwords.held identityId = some (j, record)
  session : ∀ j, j ≠ call → ∀ sessionId session,
    auth'.sessions.held sessionId = some (j, session) ↔
      auth.sessions.held sessionId = some (j, session)
  logins : auth'.logins = auth.logins
  changes : auth'.changes = auth.changes

theorem Statement.elsewhere (h : Statement call auth auth') {j : ℕ} (hj : j ≠ call) :
    Elsewhere j auth auth' where
  password := h.password j hj
  passwordRow := fun identityId _ _ => h.passwordRow identityId
  session := h.session j hj
  sessionRow := fun sessionId _ _ => h.sessionRow sessionId
  kept := fun identityId hrow => by rwa [h.passwordRow identityId]
  logins := fun identityId => Nat.le_of_eq (by rw [loginCount, loginCount, h.logins])
  active := by
    rintro identityId sessionId ⟨session, hrow, hactive⟩
    rw [h.sessionRow sessionId] at hrow
    exact .inl ⟨session, hrow, hactive⟩

theorem Final.statement (h : auth.Final) (hstatement : Statement call auth auth') :
    auth'.Final where
  stored := by
    intro identityId change hchange
    rw [hstatement.changes] at hchange
    rw [stored_congr (hstatement.passwordRow identityId)]
    exact h.stored identityId change hchange
  known := by
    rw [hstatement.changes]
    exact h.known
  sessions := by
    intro sessionId session hrow hactive
    rw [hstatement.sessionRow] at hrow
    rw [stored_congr (hstatement.passwordRow session.identityId)]
    exact h.sessions sessionId session hrow hactive

theorem Kept.statement (h : auth.Kept) (hstatement : Statement call auth auth')
    (hcalls : ∀ j, auth'.calls.get j = if j = call then some ⟨request, phase⟩ else auth.calls.get j)
    (hpassword : ∀ identityId record, auth'.passwords.held identityId = some (call, record) →
      Holds phase ∧ auth'.HeldPassword request identityId record)
    (hsession : ∀ sessionId session, auth'.sessions.held sessionId = some (call, session) →
      HoldsSessions phase ∧ auth'.HeldSession ⟨request, phase⟩ sessionId session)
    (hinformed : auth'.Informed call ⟨request, phase⟩) : auth'.Kept :=
  h.change hcalls (fun _ hj => hstatement.elsewhere hj) hpassword hsession hinformed
    (h.final.statement hstatement)

/-- A call that is not in its transaction holds nothing. -/
theorem Kept.no_password (h : auth.Kept) {current : PasswordCall}
    (hcurrent : auth.calls.get call = some current) (hphase : ¬ Holds current.phase)
    (identityId : String) (record : PasswordRecord) :
    auth.passwords.held identityId ≠ some (call, record) := by
  intro hheld
  obtain ⟨holder, hholder, hholds, -⟩ := h.password identityId call record hheld
  cases hcurrent.symm.trans hholder
  exact hphase hholds

theorem Kept.no_session (h : auth.Kept) {current : PasswordCall}
    (hcurrent : auth.calls.get call = some current) (hphase : ¬ HoldsSessions current.phase)
    (sessionId : String) (session : PasswordSession) :
    auth.sessions.held sessionId ≠ some (call, session) := by
  intro hheld
  obtain ⟨holder, hholder, hholds, -⟩ := h.session sessionId call session hheld
  cases hcurrent.symm.trans hholder
  exact hphase hholds

/-- What is known of a record that the call itself holds. -/
theorem Kept.own_password (h : auth.Kept) (hcurrent : auth.calls.get call = some ⟨request, phase⟩)
    {record : PasswordRecord} (hheld : auth.passwords.held identityId = some (call, record)) :
    auth.HeldPassword request identityId record := by
  obtain ⟨holder, hholder, -, hown⟩ := h.password identityId call record hheld
  cases hcurrent.symm.trans hholder
  exact hown

theorem Kept.own_session (h : auth.Kept) (hcurrent : auth.calls.get call = some ⟨request, phase⟩)
    {sessionId : String} {session : PasswordSession}
    (hheld : auth.sessions.held sessionId = some (call, session)) :
    auth.HeldSession ⟨request, phase⟩ sessionId session := by
  obtain ⟨holder, hholder, -, hown⟩ := h.session sessionId call session hheld
  cases hcurrent.symm.trans hholder
  exact hown

/-- **A call goes on** without touching a table. -/
theorem Kept.await (h : auth.Kept)
    (hpassword : ∀ identityId record, auth.passwords.held identityId = some (call, record) →
      Holds phase ∧ auth.HeldPassword request identityId record)
    (hsession : ∀ sessionId session, auth.sessions.held sessionId ≠ some (call, session))
    (hinformed : auth.Informed call ⟨request, phase⟩) : (auth.await call request phase).Kept := by
  refine h.statement ?_ (get_await phase auth) hpassword ?_ hinformed
  · exact ⟨fun _ => rfl, fun _ => rfl, fun _ _ _ _ => Iff.rfl, fun _ _ _ _ => Iff.rfl, rfl, rfl⟩
  · exact fun sessionId session hheld => absurd hheld (hsession sessionId session)

theorem HeldPassword.statement {record : PasswordRecord}
    (h : auth.HeldPassword request identityId record) (hstatement : Statement call auth auth') :
    auth'.HeldPassword request identityId record := by
  rw [HeldPassword, hstatement.passwordRow identityId,
    stored_congr (hstatement.passwordRow identityId)]
  exact h

/-- **The record is written.** -/
theorem Kept.write (h : auth.Kept) {matched : List String}
    (hcurrent : auth.calls.get call = some ⟨request, .written matched⟩)
    (horderly : ∀ claimed, request.claimed = some claimed →
      auth.stored request.identityId = some claimed)
    (hstep : auth.proceed call now request (.written matched) = some auth') : auth'.Kept := by
  obtain ⟨passwords, hupdate, rfl⟩ := Option.map_eq_some_iff.1 hstep
  obtain ⟨hrewrites, hchanges⟩ := h.informed call _ hcurrent
  have hfree := h.no_password hcurrent id
  have hnone := h.no_session hcurrent id
  have hstatement : Statement call auth ({ auth with passwords := passwords }.await call request
      (afterWriting request)) :=
    ⟨Table.row_update hupdate, fun _ => rfl,
      fun _ hj _ _ => Table.held_update_of_ne hupdate hfree hj, fun _ _ _ _ => Iff.rfl, rfl, rfl⟩
  refine h.statement hstatement (get_await _ _) ?_ ?_ ?_
  · intro identityId record hheld
    rcases Table.held_update hupdate hfree identityId with ⟨-, -, old, -, hp, hnew⟩ | ⟨-, hsame⟩
    · cases hheld.symm.trans hnew
      obtain rfl : identityId = request.identityId := of_decide_eq_true hp
      refine ⟨?_, HeldPassword.statement ⟨rfl, rfl, .inr hrewrites, horderly⟩ hstatement⟩
      cases request with
      | register identityId password => rcases hrewrites with hfalse | hfalse <;> cases hfalse
      | _ => trivial
    · exact absurd (hsame.symm.trans hheld) (hfree identityId record)
  · exact fun sessionId session hheld => absurd hheld (hnone sessionId session)
  · -- a change holds the record from now on
    have hheld (hchange : request.changes = true) : ∃ record,
        passwords.held request.identityId = some (call, record) := by
      obtain ⟨hrow, hmem⟩ := hchanges hchange
      obtain ⟨row, hrow⟩ := Option.ne_none_iff_exists'.1 hrow
      have hhit : request.identityId ∈
          auth.passwords.hits call matched (ofIdentity request.identityId) := by
        refine Table.mem_hits.2 ⟨hmem, row, ?_, decide_eq_true rfl⟩
        rw [Table.sees_of_not_held (hfree _)]
        exact hrow
      obtain ⟨-, -, -, hnew⟩ := Table.held_update_of_mem hupdate hhit
      exact ⟨_, hnew⟩
    cases request with
    | changePassword identityId currentPassword newPassword => exact ⟨rfl, hheld rfl⟩
    | resetPassword identityId newPassword => exact ⟨rfl, hheld rfl⟩
    | _ => trivial

/-- **A record is inserted.** -/
theorem Kept.register (h : auth.Kept)
    (hcurrent : auth.calls.get call = some ⟨request, .registering⟩)
    (hstep : auth.proceed call now request .registering = some auth') : auth'.Kept := by
  rw [proceed] at hstep
  split_ifs at hstep with hget
  cases hstep
  obtain ⟨hclaimed, hchanges⟩ := h.informed call _ hcurrent
  have hnew := Option.not_isSome_iff_eq_none.1 hget
  have hfree := h.no_password hcurrent id
  have hnone := h.no_session hcurrent id
  have hstatement : Statement call auth ({ auth with
      passwords := auth.passwords.insert call request.identityId
        (auth.createPasswordRecord request.password) }.await call request
          .committing) :=
    ⟨Table.row_insert hnew, fun _ => rfl, fun _ hj _ _ => Table.held_insert_of_ne hnew hj,
      fun _ _ _ _ => Iff.rfl, rfl, rfl⟩
  refine h.statement hstatement (get_await _ _) ?_ ?_ hchanges
  · intro identityId record hheld
    refine ⟨trivial, ?_⟩
    change Table.held (.insert call _ _ auth.passwords) identityId = _ at hheld
    rw [Table.held_insert] at hheld
    split_ifs at hheld with hidentity
    · cases hheld
      refine HeldPassword.statement ⟨hidentity, rfl, .inl ?_, ?_⟩ hstatement
      · rw [hidentity, Table.row, hnew]
        rfl
      · intro claimed hsome
        cases hclaimed.symm.trans hsome
    · exact absurd hheld (hfree identityId record)
  · exact fun sessionId session hheld => absurd hheld (hnone sessionId session)

/-- **A session is inserted.** -/
theorem Kept.create (h : auth.Kept) (hcurrent : auth.calls.get call = some ⟨request, .creating⟩)
    (hstep : auth.proceed call now request .creating = some auth') : auth'.Kept := by
  cases request with
  | login identityId password sessionId =>
    simp only [proceed] at hstep
    split_ifs at hstep with hget
    cases hstep
    have hnew := Option.not_isSome_iff_eq_none.1 hget
    have hnone := h.no_session hcurrent id
    have hstatement : Statement call auth ({ auth with
        sessions := auth.sessions.insert call sessionId
          (auth.sessionRow identityId password now) }.await call
            (.login identityId password sessionId) .committing) :=
      ⟨fun _ => rfl, Table.row_insert hnew, fun _ _ _ _ => Iff.rfl,
        fun _ hj _ _ => Table.held_insert_of_ne hnew hj, rfl, rfl⟩
    refine h.statement hstatement (get_await _ _) ?_ ?_ rfl
    · intro identityId' record hheld
      exact ⟨trivial, h.own_password hcurrent hheld⟩
    · intro sessionId' session hheld
      refine ⟨trivial, ?_⟩
      change Table.held (.insert call _ _ auth.sessions) sessionId' = _ at hheld
      rw [Table.held_insert] at hheld
      split_ifs at hheld with hsession
      · cases hheld
        subst hsession
        refine .inr ⟨?_, rfl⟩
        rw [hstatement.sessionRow, Table.row, hnew]
        rfl
      · exact absurd hheld (hnone sessionId' session)
  | _ => cases hstep

/-- **Sessions are updated**: they stay who they were. -/
theorem Kept.update (h : auth.Kept) {next : PasswordPhase} {matched : List String}
    {p : String → PasswordSession → Bool} {f : PasswordSession → PasswordSession}
    {sessions : Table String PasswordSession}
    (hcurrent : auth.calls.get call = some ⟨request, phase⟩) (hphase : ¬ HoldsSessions phase)
    (hupdate : auth.sessions.update call matched p f = some sessions)
    (hnext : Holds next ∧ HoldsSessions next)
    (hold : ∀ session, (f session).identityId = session.identityId ∧
      (f session).verified = session.verified ∧
      ((f session).revokedAt = none → session.revokedAt = none) ∧
      (request.changes = true → (f session).revokedAt ≠ none))
    (hinformed : (∀ sessionId session, sessionId ∈ matched →
      auth.sessions.row sessionId = some session → p sessionId session = true →
      sessions.held sessionId = some (call, f session)) →
      ({ auth with sessions := sessions }.await call request next).Informed call ⟨request, next⟩) :
    ({ auth with sessions := sessions }.await call request next).Kept := by
  have hnone := h.no_session hcurrent hphase
  have hstatement : Statement call auth
      ({ auth with sessions := sessions }.await call request next) :=
    ⟨fun _ => rfl, Table.row_update hupdate, fun _ _ _ _ => Iff.rfl,
      fun _ hj _ _ => Table.held_update_of_ne hupdate hnone hj, rfl, rfl⟩
  refine h.statement hstatement (get_await _ _) ?_ ?_ (hinformed ?_)
  · exact fun identityId record hheld => ⟨hnext.1, h.own_password hcurrent hheld⟩
  · intro sessionId session hheld
    refine ⟨hnext.2, ?_⟩
    rcases Table.held_update hupdate hnone sessionId with ⟨-, -, old, hrow, -, hnew⟩ | ⟨-, hsame⟩
    · cases hheld.symm.trans hnew
      exact .inl ⟨old, (hstatement.sessionRow sessionId).trans hrow, hold old⟩
    · exact absurd (hsame.symm.trans hheld) (hnone sessionId session)
  · intro sessionId session hmem hrow hp
    have hsees : auth.sessions.sees call sessionId = some session :=
      (Table.sees_of_not_held (hnone sessionId)).trans hrow
    obtain ⟨old, hsees', -, hnew⟩ :=
      Table.held_update_of_mem hupdate (Table.mem_hits.2 ⟨hmem, session, hsees, hp⟩)
    cases hsees.symm.trans hsees'
    exact hnew

/-- **`ROLLBACK`** leaves everything as it was. -/
theorem Kept.fail (h : auth.Kept) : (auth.fail call request).Kept := by
  have hstatement : Statement call auth (auth.fail call request) :=
    ⟨Table.row_rollback, Table.row_rollback,
      fun j hj _ _ => Table.held_rollback.trans (and_iff_left hj),
      fun j hj _ _ => Table.held_rollback.trans (and_iff_left hj), rfl, rfl⟩
  refine h.statement hstatement (get_await _ _) ?_ ?_ trivial
  · exact fun _ _ hheld => absurd rfl (Table.held_rollback.1 hheld).2
  · exact fun _ _ hheld => absurd rfl (Table.held_rollback.1 hheld).2

/-- **`COMMIT`**: what is to be shown is what is promised. -/
theorem Kept.commit (h : auth.Kept) (hcurrent : auth.calls.get call = some ⟨request, phase⟩)
    (hpasswords : auth'.passwords = auth.passwords.commit call)
    (hsessions : auth'.sessions = auth.sessions.commit call)
    (hcalls : auth'.calls = (auth.commit call request).calls)
    (hlogins : ∀ identityId, auth.loginCount identityId ≤ auth'.loginCount identityId)
    (hlogin : ∀ identityId password sessionId,
      request = .login identityId password sessionId →
      phase = .committing →
      auth.loginCount identityId < auth'.loginCount identityId) (hfinal : auth'.Final) :
    auth'.Kept := by
  have hsettled : auth'.Informed call ⟨request, .settled⟩ := trivial
  refine h.change ?_ ?_ ?_ ?_ hsettled hfinal
  · rw [hcalls]
    exact get_await .settled _
  · intro j hj
    have hpasswordRow : ∀ {identityId record}, auth.passwords.held identityId = some (j, record) →
        auth'.passwords.row identityId = auth.passwords.row identityId := by
      intro identityId record hheld
      rw [hpasswords]
      refine Table.row_commit_of_not_held fun row hheld' => hj ?_
      exact (Prod.mk.inj (Option.some.inj (hheld.symm.trans hheld'))).1
    have hsessionRow : ∀ {sessionId session}, auth.sessions.held sessionId = some (j, session) →
        auth'.sessions.row sessionId = auth.sessions.row sessionId := by
      intro sessionId session hheld
      rw [hsessions]
      refine Table.row_commit_of_not_held fun row hheld' => hj ?_
      exact (Prod.mk.inj (Option.some.inj (hheld.symm.trans hheld'))).1
    constructor
    case password =>
      intro identityId record
      rw [hpasswords, Table.held_commit]
      exact and_iff_left hj
    case passwordRow => exact fun _ _ hheld => hpasswordRow hheld
    case session =>
      intro sessionId session
      rw [hsessions, Table.held_commit]
      exact and_iff_left hj
    case sessionRow => exact fun _ _ hheld => hsessionRow hheld
    case kept =>
      intro identityId hrow
      rw [hpasswords]
      by_cases hheld : ∃ record, auth.passwords.held identityId = some (call, record)
      · obtain ⟨record, hrecord⟩ := hheld
        rw [Table.row_commit_of_held hrecord]
        exact Option.some_ne_none record
      · rwa [Table.row_commit_of_not_held (not_exists.1 hheld)]
    case logins => exact hlogins
    case active =>
      rintro identityId sessionId ⟨session, hrow, rfl, hactive⟩
      rw [hsessions] at hrow
      by_cases hheld : ∃ held, auth.sessions.held sessionId = some (call, held)
      · obtain ⟨held, hheld⟩ := hheld
        cases (Table.row_commit_of_held hheld).symm.trans hrow
        rcases h.own_session hcurrent hheld with ⟨old, hold, hidentity, -, hkept, -⟩ | ⟨-, heq⟩
        · exact .inl ⟨old, hold, hidentity.symm, hkept hactive⟩
        · obtain ⟨rfl, rfl⟩ := PasswordCall.mk.inj heq
          exact .inr (hlogin _ _ _ rfl rfl)
      · rw [Table.row_commit_of_not_held (not_exists.1 hheld)] at hrow
        exact .inl ⟨session, hrow, rfl, hactive⟩
  · intro identityId record hheld
    rw [hpasswords] at hheld
    exact absurd rfl (Table.held_commit.1 hheld).2
  · intro sessionId session hheld
    rw [hsessions] at hheld
    exact absurd rfl (Table.held_commit.1 hheld).2

/-- A call that does not change the password commits no other one: it stores what it has verified,
or it is the first. -/
theorem Kept.stored_commit (h : auth.Kept) (hcurrent : auth.calls.get call = some ⟨request, phase⟩)
    (hchanges : request.changes = false) {password : String}
    (hstored : auth.stored identityId = some password) :
    (auth.commit call request).stored identityId = some password := by
  by_cases hheld : ∃ record, auth.passwords.held identityId = some (call, record)
  · obtain ⟨record, hheld⟩ := hheld
    obtain ⟨-, hrecord, hnew, hclaimed⟩ := h.own_password hcurrent hheld
    have hrow : (auth.commit call request).passwords.row identityId = some record :=
      Table.row_commit_of_held hheld
    rw [stored, hrow, Option.map_some, hrecord]
    rcases hnew with hnone | hchange | hverified
    · rw [stored, hnone] at hstored
      cases hstored
    · rw [hchanges] at hchange
      cases hchange
    · rw [← hclaimed _ hverified, hstored]
  · have hrow : (auth.commit call request).passwords.row identityId =
        auth.passwords.row identityId := Table.row_commit_of_not_held (not_exists.1 hheld)
    rw [stored_congr hrow, hstored]

/-- **A commit that is no change** keeps what is promised. -/
theorem Kept.final_commit (h : auth.Kept)
    (hcurrent : auth.calls.get call = some ⟨request, .committing⟩)
    (horderly : ∀ identityId password sessionId,
      request = .login identityId password sessionId →
        auth.stored identityId = some password) :
    (auth.commit call request).Final := by
  have hchanges : request.changes = false := h.informed call _ hcurrent
  constructor
  case stored =>
    intro identityId change hchange
    exact h.stored_commit hcurrent hchanges (h.final.stored identityId change hchange)
  case known => exact h.final.known
  case sessions =>
    intro sessionId session hrow hactive
    refine h.stored_commit hcurrent hchanges ?_
    by_cases hheld : ∃ held, auth.sessions.held sessionId = some (call, held)
    · obtain ⟨held, hheld⟩ := hheld
      cases (Table.row_commit_of_held hheld).symm.trans hrow
      rcases h.own_session hcurrent hheld with
        ⟨old, hold, hidentity, hverified, hkept, -⟩ | ⟨-, heq⟩
      · rw [hidentity, hverified]
        exact h.final.sessions sessionId old hold (hkept hactive)
      · exact horderly _ _ _ (PasswordCall.mk.inj heq).1
    · have hrow' := (Table.row_commit_of_not_held (not_exists.1 hheld)).symm.trans hrow
      exact h.final.sessions sessionId session hrow' hactive

/-- **The commit of a change** keeps what is promised, and the promise is about it now. -/
theorem Kept.final_change (h : auth.Kept) {seen : ℕ}
    (hcurrent : auth.calls.get call = some ⟨request, .finishing seen⟩)
    (horderly : auth.loginCount request.identityId = seen)
    (hstep : auth.proceed call now request (.finishing seen) = some auth') : auth'.Final := by
  cases hstep
  obtain ⟨hchanges, ⟨record, hheld⟩, -, hsessions⟩ := h.informed call _ hcurrent
  obtain ⟨-, hrecord, -, hclaimed⟩ := h.own_password hcurrent hheld
  have hnew : (auth.commit call request).stored request.identityId = some request.password := by
    have hrow : (auth.commit call request).passwords.row request.identityId = some record :=
      Table.row_commit_of_held hheld
    rw [stored, hrow, Option.map_some, hrecord]
  have hother : ∀ {identityId}, identityId ≠ request.identityId →
      (auth.commit call request).stored identityId = auth.stored identityId := by
    intro identityId hne
    refine stored_congr (Table.row_commit_of_not_held fun row hrow => hne ?_)
    exact (h.own_password hcurrent hrow).1
  constructor
  case stored =>
    intro identityId change hchange
    rw [List.find?_cons] at hchange
    split at hchange
    · rename_i hidentity
      cases hchange
      obtain rfl : request.identityId = identityId := of_decide_eq_true hidentity
      exact hnew
    · rename_i hidentity
      refine (hother ?_).trans (h.final.stored identityId change hchange)
      rintro rfl
      exact of_decide_eq_false hidentity rfl
  case known =>
    intro change hmem currentPassword hcurrentPassword
    rcases List.mem_cons.1 hmem with rfl | hmem
    · exact hclaimed currentPassword hcurrentPassword
    · exact h.final.known change hmem currentPassword hcurrentPassword
  case sessions =>
    intro sessionId session hrow hactive
    have hrow : (auth.sessions.commit call).row sessionId = some session := hrow
    by_cases hown : ∃ held, auth.sessions.held sessionId = some (call, held)
    · obtain ⟨held, hown⟩ := hown
      cases (Table.row_commit_of_held hown).symm.trans hrow
      rcases h.own_session hcurrent hown with ⟨old, -, -, -, -, hrevoked⟩ | ⟨-, heq⟩
      · exact absurd hactive (hrevoked hchanges)
      · cases (PasswordCall.mk.inj heq).2
    · rw [Table.row_commit_of_not_held (not_exists.1 hown)] at hrow
      have hne : session.identityId ≠ request.identityId := fun hidentity =>
        hown (hsessions horderly sessionId ⟨session, hrow, hidentity, hactive⟩)
      exact (hother hne).trans (h.final.sessions sessionId session hrow hactive)

/-- **Every next statement keeps it.** -/
theorem Kept.proceed (h : auth.Kept) (hcurrent : auth.calls.get call = some ⟨request, phase⟩)
    (horderly : auth.Orderly (.proceed call now))
    (hstep : auth.proceed call now request phase = some auth') : auth'.Kept := by
  have horderly := horderly _ hcurrent
  cases phase with
  | reading =>
    have hfree := h.no_password hcurrent id
    have hnone := h.no_session hcurrent id
    have hgo : ∀ phase, auth.Informed call ⟨request, phase⟩ →
        (auth.await call request phase).Kept := fun phase =>
      h.await (fun identityId record hheld => absurd hheld (hfree identityId record)) hnone
    simp only [AuthPasswords.proceed] at hstep
    split at hstep
    · rename_i record hrow
      split_ifs at hstep with hverified
      · cases hstep
        refine hgo _ ?_
        cases request with
        | register identityId password => trivial
        | login identityId password sessionId =>
          rw [verified]
          split_ifs
          · exact ⟨.inr rfl, Bool.noConfusion⟩
          · trivial
        | reauthenticate identityId sessionId password =>
          rw [verified]
          split_ifs
          · exact ⟨.inr rfl, Bool.noConfusion⟩
          · trivial
        | changePassword identityId currentPassword newPassword =>
          refine ⟨.inl rfl, fun _ hnone => ?_⟩
          cases hnone.symm.trans hrow
        | resetPassword identityId newPassword => trivial
      · cases hstep
        exact hgo _ trivial
    · cases hstep
      exact hgo _ trivial
  | writing =>
    cases hstep
    have hfree := h.no_password hcurrent id
    refine h.await (fun identityId record hheld => absurd hheld (hfree identityId record))
      (h.no_session hcurrent id) ?_
    obtain ⟨hrewrites, hthere⟩ := h.informed call _ hcurrent
    refine ⟨hrewrites, fun hchanges => ⟨hthere hchanges, ?_⟩⟩
    -- the record is in the snapshot
    obtain ⟨record, hrow⟩ := Option.ne_none_iff_exists'.1 (hthere hchanges)
    refine Table.mem_matching.2 ⟨record, ?_, decide_eq_true rfl⟩
    rw [Table.sees_of_not_held (hfree _)]
    exact hrow
  | written matched => exact h.write hcurrent horderly hstep
  | registering => exact h.register hcurrent hstep
  | creating => exact h.create hcurrent hstep
  | refreshing =>
    cases request with
    | reauthenticate identityId sessionId password =>
      cases hstep
      exact h.await (fun _ _ hheld => ⟨trivial, h.own_password hcurrent hheld⟩)
        (h.no_session hcurrent id) rfl
    | _ => cases hstep
  | refreshed matched =>
    cases request with
    | reauthenticate identityId sessionId password =>
      obtain ⟨sessions, hupdate, rfl⟩ := Option.map_eq_some_iff.1 hstep
      split_ifs
      · exact h.fail
      · exact h.update hcurrent id hupdate ⟨trivial, trivial⟩
          (fun _ => ⟨rfl, rfl, id, Bool.noConfusion⟩) fun _ => rfl
    | _ => cases hstep
  | revoking =>
    cases hstep
    obtain ⟨hchanges, hheld⟩ := h.informed call _ hcurrent
    have hnone := h.no_session hcurrent id
    refine h.await (fun _ _ hheld => ⟨trivial, h.own_password hcurrent hheld⟩) hnone
      ⟨hchanges, hheld, Nat.le_refl _, ?_⟩
    rintro - sessionId ⟨session, hrow, hidentity, hactive⟩
    refine Table.mem_matching.2 ⟨session, (Table.sees_of_not_held (hnone _)).trans hrow, ?_⟩
    rw [isActive, hidentity, hactive, decide_eq_true rfl]
    rfl
  | revoked matched seen =>
    obtain ⟨sessions, hupdate, rfl⟩ := Option.map_eq_some_iff.1 hstep
    obtain ⟨hchanges, hheld, hle, hmatched⟩ := h.informed call _ hcurrent
    refine h.update hcurrent id hupdate ⟨trivial, trivial⟩
      (fun _ => ⟨rfl, rfl, by rintro ⟨⟩, by rintro - ⟨⟩⟩) ?_
    intro hnew
    refine ⟨hchanges, hheld, hle, ?_⟩
    rintro heq sessionId ⟨session, hrow, hidentity, hactive⟩
    have hrow : auth.sessions.row sessionId = some session :=
      (Table.row_update hupdate sessionId).symm.trans hrow
    refine ⟨_, hnew sessionId session ?_ hrow ?_⟩
    · exact hmatched heq sessionId ⟨session, hrow, hidentity, hactive⟩
    · rw [isActive, hidentity, hactive, decide_eq_true rfl]
      rfl
  | committing =>
    have hfinal := h.final_commit hcurrent horderly
    cases request with
    | login identityId password sessionId =>
      cases hstep
      refine h.commit hcurrent rfl rfl rfl (fun _ => List.count_le_count_cons) ?_ ?_
      · rintro _ _ _ ⟨⟩ -
        rw [loginCount, loginCount, List.count_cons_self]
        exact Nat.lt_succ_self _
      · exact ⟨hfinal.stored, hfinal.known, hfinal.sessions⟩
    | _ =>
      cases hstep
      exact h.commit hcurrent rfl rfl rfl (fun _ => Nat.le_refl _) (by rintro _ _ _ ⟨⟩) hfinal
  | finishing seen =>
    have hfinal := h.final_change hcurrent horderly hstep
    cases hstep
    exact h.commit hcurrent rfl rfl rfl (fun _ => Nat.le_refl _)
      (by rintro _ _ _ - ⟨⟩) hfinal
  | settled => cases hstep

/-- **Every orderly step keeps it.** -/
theorem Kept.step {label : PasswordLabel} (h : auth.Kept) (horderly : auth.Orderly label)
    (hstep : auth.step label = some auth') : auth'.Kept := by
  cases label with
  | call call request =>
    have hbegin : auth.calls.get call = none → auth.Informed call ⟨request, begin request⟩ →
        (auth.await call request (begin request)).Kept := by
      intro hnone hinformed
      refine h.await ?_ ?_ hinformed
      · intro identityId record hheld
        obtain ⟨current, hcurrent, -⟩ := h.password identityId call record hheld
        cases hnone.symm.trans hcurrent
      · intro sessionId session hheld
        obtain ⟨current, hcurrent, -⟩ := h.session sessionId call session hheld
        cases hnone.symm.trans hcurrent
    cases request with
    | resetPassword identityId newPassword =>
      simp only [AuthPasswords.step] at hstep
      split_ifs at hstep with hguard
      cases hstep
      obtain ⟨hnone, hstored⟩ := Bool.and_eq_true_iff.1 hguard
      refine hbegin (Option.isNone_iff_eq_none.1 hnone) ⟨.inl rfl, fun _ hrow => ?_⟩
      have hrow : auth.passwords.row identityId = none := hrow
      rw [stored, hrow] at hstored
      cases hstored
    | register identityId password =>
      simp only [AuthPasswords.step] at hstep
      split_ifs at hstep with hguard
      cases hstep
      exact hbegin (Option.isNone_iff_eq_none.1 hguard) ⟨rfl, rfl⟩
    | _ =>
      simp only [AuthPasswords.step] at hstep
      split_ifs at hstep with hguard
      cases hstep
      exact hbegin (Option.isNone_iff_eq_none.1 hguard) trivial
  | proceed call now =>
    obtain ⟨current, hcurrent, hproceed⟩ := Option.bind_eq_some_iff.1 hstep
    exact h.proceed hcurrent horderly hproceed
  | fail call =>
    obtain ⟨current, hcurrent, rfl⟩ := Option.map_eq_some_iff.1 hstep
    exact h.fail
  | deploy =>
    cases hstep
    exact ⟨⟨h.final.stored, h.final.known, h.final.sessions⟩, h.password, h.session, h.informed⟩

theorem new_kept (absoluteSessionSeconds idleSessionSeconds : ℤ) :
    (new absoluteSessionSeconds idleSessionSeconds).Kept := by
  constructor
  case final =>
    constructor
    · rintro _ _ ⟨⟩
    · rintro _ ⟨⟩
    · rintro _ _ ⟨⟩
  case password => rintro _ _ _ ⟨⟩
  case session => rintro _ _ _ ⟨⟩
  case informed => rintro _ _ ⟨⟩

end AuthPasswords

/-! ### The results -/

open AuthPasswords in
/-- **A change of the password is final**, in every orderly run from the empty tables. -/
theorem password_change_final (absoluteSessionSeconds idleSessionSeconds : ℤ)
    (labels : List PasswordLabel) (auth : AuthPasswords)
    (h : Transition.Run step Orderly (new absoluteSessionSeconds idleSessionSeconds) labels auth) :
    auth.Final :=
  (h.invariant (fun _ _ _ hkept => hkept.step) (new_kept _ _)).final

/-- Somebody registers, logs in and changes the password. -/
def registerLoginChange : List PasswordLabel :=
  [.call 0 (.register "ada" "old"), .proceed 0 0,
    .proceed 0 0,
    .call 1 (.login "ada" "old" "laptop"), .proceed 1 1,
    .proceed 1 1, .proceed 1 1,
    .call 2 (.changePassword "ada" "old" "new"),
    .proceed 2 2, .proceed 2 2, .proceed 2 2,
    .proceed 2 2, .proceed 2 2, .proceed 2 2]

open AuthPasswords in
/-- The password is changed, and the session is revoked. -/
theorem password_change_final_revoked :
    ∃ auth, Transition.run step (new 3600 600) registerLoginChange = some auth ∧
      auth.stored "ada" = some "new" ∧
      (auth.sessions.row "laptop").map PasswordSession.revokedAt = some (some 2) ∧ auth.Final := by
  refine ⟨_, rfl, rfl, rfl, password_change_final 3600 600 registerLoginChange _ ?_⟩
  refine .cons trivial rfl (.cons ?_ rfl (.cons ?_ rfl (.cons trivial rfl (.cons ?_ rfl ?_))))
  · rintro _ ⟨⟩
    trivial
  · rintro _ ⟨⟩ _ _ _ ⟨⟩
  · rintro _ ⟨⟩
    trivial
  refine .cons ?_ rfl (.cons ?_ rfl (.cons trivial rfl (.cons ?_ rfl (.cons ?_ rfl ?_))))
  · rintro _ ⟨⟩
    trivial
  · -- the login verified the stored password
    rintro _ ⟨⟩ _ _ _ ⟨⟩
    rfl
  · rintro _ ⟨⟩
    trivial
  · rintro _ ⟨⟩
    trivial
  refine .cons ?_ rfl (.cons ?_ rfl (.cons ?_ rfl (.cons ?_ rfl (.nil _))))
  · -- so did the change
    rintro _ ⟨⟩ _ ⟨⟩
    rfl
  · rintro _ ⟨⟩
    trivial
  · rintro _ ⟨⟩
    trivial
  · rintro _ ⟨⟩
    rfl

open AuthPasswords in
/-- **The old password comes back**: a login verifies it before it is changed, and writes it again,
with newer parameters, after that. -/
theorem password_change_not_final :
    ¬ ∀ (absoluteSessionSeconds idleSessionSeconds : ℤ) (labels : List PasswordLabel)
      (auth : AuthPasswords),
      Transition.run step (new absoluteSessionSeconds idleSessionSeconds) labels = some auth →
        auth.Final := by
  intro h
  have hfinal := h 3600 600
    [.call 0 (.register "ada" "old"), .proceed 0 0,
      .proceed 0 0, .deploy,
      .call 1 (.login "ada" "old" "laptop"),
      .proceed 1 1,
      .call 2 (.changePassword "ada" "old" "new"),
      .proceed 2 2, .proceed 2 2, .proceed 2 2,
      .proceed 2 2, .proceed 2 2, .proceed 2 2,
      .proceed 1 3, .proceed 1 3, .proceed 1 3,
      .proceed 1 3] _ rfl
  have hstored := hfinal.stored "ada" _ rfl
  revert hstored
  decide

end Doxa
