/-
**Sessions and impersonation.**

A session is a row of `doxa_auth_sessions`, found by the token in the cookie (`auth-postgres/src/
postgres-auth.ts`).  `resolveHttp` reads a row, ends an impersonation that is over, and then either
renews the token or extends the idle expiry; starting and stopping an impersonation replace the
token.  What `resolveHttp` computes is later checked against the row by `validateAuthentication`.
Every statement writes one row, or revokes the rows of an identity, and is visible when it commits;
it may carry a reading of the clock that is older.

A row is found under the digest of its token; the digests are taken for the tokens themselves.

Main definitions:

* `Doxa.AuthSession`, `Doxa.AuthSessions.step` — the table and all that writes to it;
* `Doxa.AuthSessions.validateAuthentication` — the check of an actor and its authentication;
* `Doxa.AuthSessions.TokensConfer`, `Doxa.AuthSessions.IsAccepted`, `Doxa.AuthSessions.Rejects` —
  what a token, a row and a grant confer;
* `Doxa.AuthSessions.Change` — what one step can do.

Main results:

* `Doxa.sessions_confer` — **a token resolves only while it is the newest or in its grace, what is
  resolved is accepted, and a grant that is over confers nothing any more**;
* `Doxa.idle_expiry_revived` — a session whose idle time has run out is accepted again when an
  earlier request extends it.
-/

import Doxa.ExecutionContext
import Doxa.JavaScript
import Doxa.Lib.OrderedMap
import Doxa.Lib.Transition

set_option relaxedAutoImplicit false
set_option autoImplicit false

namespace Doxa

/-! ### A row -/

/-- The columns of an impersonation, all of them set. -/
structure Impersonation where
  grantId : String
  targetIdentityId : String
  reason : String
  startedAt : ℤ
  expiresAt : ℤ
deriving DecidableEq

/-- A text without what satisfies the predicate at either end. -/
def stripped (p : Char → Bool) (text : String) : String :=
  String.ofList ((text.toList.dropWhile p).reverse.dropWhile p).reverse

/-- `String.prototype.trim`. -/
def trim (text : String) : String := stripped Js.isWhiteSpace text

/-- `btrim`, of blanks only. -/
def btrim (text : String) : String := stripped (fun c => c = ' ') text

/-- What `doxa_auth_session_impersonation_complete` demands; a grant identifier is a UUID. -/
def Impersonation.Complete (identityId : String) (expiresAt : ℤ) (grant : Impersonation) : Prop :=
  grant.grantId ≠ "" ∧ grant.targetIdentityId ≠ identityId ∧
    1 ≤ (btrim grant.reason).length ∧
      (btrim grant.reason).length ≤ 500 ∧
        grant.startedAt < grant.expiresAt ∧ grant.expiresAt ≤ expiresAt

instance Impersonation.instDecidableComplete (identityId : String) (expiresAt : ℤ)
    (grant : Impersonation) : Decidable (grant.Complete identityId expiresAt) :=
  inferInstanceAs (Decidable (_ ∧ _))

/-- A row of `doxa_auth_sessions`. -/
structure AuthSession where
  identityId : String
  tokenDigest : String
  /-- The token before, and until when it resolves. -/
  previousToken : Option (String × ℤ)
  authenticatedAt : ℤ
  lastSeenAt : ℤ
  idleExpiresAt : ℤ
  expiresAt : ℤ
  revokedAt : Option ℤ
  impersonation : Option Impersonation
  impersonation_complete : ∀ grant ∈ impersonation, grant.Complete identityId expiresAt

/-- The options, in milliseconds. -/
structure SessionSettings where
  absoluteSession : ℤ
  idleSession : ℤ
  sessionRenewal : ℤ
  sessionRotationGrace : ℤ
  impersonationSession : ℤ
  impersonationSession_pos : 0 < impersonationSession

/-- What the tables of identities and of access tokens answer at an instant. -/
structure AuthDirectory where
  known : String → Bool
  ensureEligible : String → Bool
  /-- An access token of the identity that is neither revoked nor expired. -/
  accessToken : String → String → ℤ → Bool
  /-- An identity has an identifier. -/
  known_empty : known "" = false

/-- `findIdentity`: only those that are eligible are found. -/
def AuthDirectory.findIdentity (directory : AuthDirectory) (identityId : String) : Bool :=
  directory.known identityId && directory.ensureEligible identityId

namespace AuthSession

/-- A session that is neither revoked nor expired. -/
def isLive (now : ℤ) (row : AuthSession) : Bool :=
  row.revokedAt.isNone && decide (now < row.expiresAt) && decide (now < row.idleExpiresAt)

/-- The `WHERE` of `resolveHttp`. -/
def resolves (token : String) (now : ℤ) (row : AuthSession) : Bool :=
  (decide (row.tokenDigest = token) ||
    row.previousToken.any fun previous => previous.1 = token && decide (now < previous.2)) &&
      row.isLive now

/-- `sessionFrom`: the impersonation, when all of its columns are taken for true. -/
def impersonationFrom (row : AuthSession) : Option Impersonation :=
  row.impersonation.filter fun grant =>
    decide (grant.targetIdentityId ≠ "" ∧ grant.grantId ≠ "" ∧ grant.reason ≠ "")

end AuthSession

/-- The impersonation is to be ended: it has expired, or there is no one to be impersonated. -/
def Impersonation.isOver (directory : AuthDirectory) (now : ℤ) (grant : Impersonation) : Bool :=
  !decide (now < grant.expiresAt) || !directory.findIdentity grant.targetIdentityId ||
    !directory.ensureEligible grant.targetIdentityId

/-- What `resolveHttp` answers. -/
structure ResolvedHttpAuthentication where
  actor : ActorRef
  initiator : ActorRef
  delegation : List DelegationHop
  authentication : AuthenticationContext
  /-- The token of a `set-cookie` header. -/
  setCookie : Option String

def user (identityId : String) : ActorRef := ⟨.user, some identityId⟩

def passwordMethod : String := "password"

def bearerMethod : String := "bearer"

namespace AuthSession

/-- The answer for a row, under the impersonation that goes on. -/
def resolved (sessionId : String) (impersonation : Option Impersonation)
    (setCookie : Option String) (row : AuthSession) : ResolvedHttpAuthentication where
  actor := user ((impersonation.map fun grant => grant.targetIdentityId).getD row.identityId)
  initiator := user row.identityId
  delegation := impersonation.toList.map fun grant =>
    ⟨user row.identityId, user grant.targetIdentityId, grant.grantId, grant.reason,
      some (1000 * grant.expiresAt)⟩
  authentication :=
    { state := .authenticated
      identityId := some row.identityId
      method := some passwordMethod
      assurance := some .singleFactor
      authenticatedAt := some (1000 * row.authenticatedAt)
      sessionId := some sessionId
      impersonationGrantId := impersonation.map fun grant => grant.grantId
      credentialId := none
      constraints := none }
  setCookie := setCookie

/-- The impersonation that goes on. -/
def goesOn (directory : AuthDirectory) (now : ℤ) (row : AuthSession) : Option Impersonation :=
  row.impersonationFrom.filter fun grant => !grant.isOver directory now

/-- Without the impersonation. -/
def clearImpersonation (row : AuthSession) : AuthSession :=
  { row with impersonation := none, impersonation_complete := by rintro _ ⟨⟩ }

/-- Whom `validateAuthentication` takes the session to act as. -/
def target (directory : AuthDirectory) (now : ℤ) (row : AuthSession) : String :=
  ((row.impersonation.filter fun grant =>
      decide (grant.targetIdentityId ≠ "") && decide (now < grant.expiresAt) &&
        directory.findIdentity grant.targetIdentityId).map fun grant =>
    grant.targetIdentityId).getD row.identityId

/-- The `WHERE` of `validateAuthentication`. -/
def isValidated (authentication : AuthenticationContext) (now : ℤ) (sessionId : String)
    (row : AuthSession) : Bool :=
  (match truthy authentication.sessionId with
    | some id => decide (sessionId = id)
    | none => row.impersonation.any fun grant =>
      decide (some grant.grantId = authentication.impersonationGrantId)) &&
    decide (some row.identityId = authentication.identityId) && row.isLive now

/-- What `validateAuthentication` answers for the row it finds. -/
def accepts (directory : AuthDirectory) (now : ℤ) (actor : ActorRef)
    (authentication : AuthenticationContext) (row : AuthSession) : Bool :=
  directory.findIdentity row.identityId &&
    (authentication.impersonationGrantId.isNone ||
      decide ((row.impersonation.map fun grant => grant.grantId) =
        authentication.impersonationGrantId)) &&
    decide (actor.id = some (row.target directory now))

end AuthSession

/-! ### The table -/

/-- What a token was issued for. -/
inductive IssueKind
  | login
  | renewal
  | startImpersonation
  | stopImpersonation
deriving DecidableEq

structure TokenIssue where
  sessionId : String
  token : String
  kind : IssueKind
  issuedAt : ℤ

/-- An impersonation that was started. -/
structure ImpersonationGrant where
  grantId : String
  sessionId : String
  targetIdentityId : String

/-- Where a `resolveHttp` is. -/
inductive ResolutionPhase
  | selecting
  /-- It has read a row. -/
  | selected (sessionId : String) (session : AuthSession)
  /-- It goes on with the row under an impersonation, or without one. -/
  | settled (sessionId : String) (session : AuthSession) (impersonation : Option Impersonation)
  /-- It has answered; without an answer the request is anonymous. -/
  | answered (resolved : Option ResolvedHttpAuthentication)

structure Resolution where
  token : String
  webSocketUpgrade : Bool
  now : ℤ
  phase : ResolutionPhase

structure AuthSessions where
  clock : ℤ
  sessions : OrderedMap String AuthSession
  resolutions : OrderedMap ℕ Resolution
  /-- All tokens that were issued, the newest first. -/
  issued : List TokenIssue
  grants : List ImpersonationGrant

/-- What can happen. -/
inductive SessionLabel
  | tick (clock : ℤ)
  | login (sessionId identityId token : String) (now : ℤ)
  /-- A request comes with a token, and reads the clock. -/
  | resolveHttp (call : ℕ) (token : String) (webSocketUpgrade : Bool)
  | select (call : ℕ) (sessionId : String)
  /-- It looks the identities up, and ends an impersonation that is over. -/
  | settle (call : ℕ) (directory : AuthDirectory)
  /-- It renews the token, or extends the idle expiry. -/
  | extend (call : ℕ) (replacement : String)
  | startImpersonation (identityId sessionId targetIdentityId reason grantId token : String)
      (now : ℤ) (directory : AuthDirectory)
  | stopImpersonation (identityId sessionId grantId token : String) (now : ℤ)
  | reauthenticate (identityId sessionId : String) (now : ℤ)
  | revokeSession (sessionId : String) (now : ℤ)
  /-- The rows that were there when the statement ran. -/
  | revokeAllSessions (identityId : String) (rows : List String) (now : ℤ)
  | resetPassword (identityId : String) (rows : List String) (now : ℤ)

namespace AuthSessions

def new (clock : ℤ) : AuthSessions where
  clock := clock
  sessions := .empty
  resolutions := .empty
  issued := []
  grants := []

/-- The tokens of a session, the newest first. -/
def tokensOf (sessionId : String) (auth : AuthSessions) : List TokenIssue :=
  auth.issued.filter fun issue => issue.sessionId = sessionId

/-- A token that was never issued. -/
def isFresh (token : String) (auth : AuthSessions) : Bool :=
  auth.issued.all fun issue => issue.token ≠ token

/-- A row is written, together with a new token. -/
def write (issue : TokenIssue) (row : AuthSession) (auth : AuthSessions) : AuthSessions :=
  { auth with
    sessions := auth.sessions.set issue.sessionId row
    issued := issue :: auth.issued }

/-- The rows are revoked that are not revoked yet. -/
def revoke (now : ℤ) (which : String → AuthSession → Bool) (auth : AuthSessions) : AuthSessions :=
  { auth with
    sessions := auth.sessions.map fun sessionId row =>
      if which sessionId row ∧ row.revokedAt = none then { row with revokedAt := some now }
      else row }

/-- The rows of an identity are revoked, as far as the statement has seen them. -/
def revokeIdentity (identityId : String) (rows : List String) (now : ℤ) (auth : AuthSessions) :
    AuthSessions :=
  auth.revoke now fun sessionId row => decide (sessionId ∈ rows) && row.identityId = identityId

/-- A resolution goes on. -/
def proceed (call : ℕ) (resolution : Resolution) (phase : ResolutionPhase) (auth : AuthSessions) :
    AuthSessions :=
  { auth with resolutions := auth.resolutions.set call { resolution with phase := phase } }

variable (settings : SessionSettings)

def login (sessionId identityId token : String) (now : ℤ) (auth : AuthSessions) : AuthSessions :=
  auth.write ⟨sessionId, token, .login, now⟩
    { identityId := identityId
      tokenDigest := token
      previousToken := none
      authenticatedAt := now
      lastSeenAt := now
      idleExpiresAt := now + settings.idleSession
      expiresAt := now + settings.absoluteSession
      revokedAt := none
      impersonation := none
      impersonation_complete := by rintro _ ⟨⟩ }

/-- The impersonation is ended, unless someone else has changed it; then everything is read
again. -/
def endImpersonation (call : ℕ) (resolution : Resolution) (sessionId : String)
    (session : AuthSession) (grant : Impersonation) (auth : AuthSessions) : AuthSessions :=
  match auth.sessions.get sessionId with
  | some row =>
    if row.revokedAt = none ∧ row.impersonation.any fun current =>
        decide (current.grantId = grant.grantId ∧
          current.targetIdentityId = grant.targetIdentityId) then
      { auth with sessions := auth.sessions.set sessionId row.clearImpersonation }.proceed call
        resolution (.settled sessionId session none)
    else auth.proceed call { resolution with now := auth.clock } .selecting
  | none => auth.proceed call { resolution with now := auth.clock } .selecting

/-- The identity and the impersonation of the row that was read. -/
def settle (call : ℕ) (resolution : Resolution) (sessionId : String) (session : AuthSession)
    (directory : AuthDirectory) (auth : AuthSessions) : AuthSessions :=
  if directory.findIdentity session.identityId &&
      directory.ensureEligible session.identityId then
    match session.goesOn directory resolution.now, session.impersonationFrom with
    | none, some grant => auth.endImpersonation call resolution sessionId session grant
    | impersonation, _ =>
      auth.proceed call resolution (.settled sessionId session impersonation)
  else auth.proceed call resolution (.answered none)

/-- The token is due to be renewed. -/
def renewalDue (resolution : Resolution) (session : AuthSession) : Bool :=
  !resolution.webSocketUpgrade && decide (session.tokenDigest = resolution.token) &&
    decide (settings.sessionRenewal ≤ resolution.now - session.lastSeenAt)

def idleExpiresAt (resolution : Resolution) (session : AuthSession) : ℤ :=
  min session.expiresAt (resolution.now + settings.idleSession)

/-- The row as it is renewed. -/
def renewed (resolution : Resolution) (session : AuthSession) (replacement : String)
    (row : AuthSession) : AuthSession :=
  { row with
    tokenDigest := replacement
    previousToken :=
      some (session.tokenDigest, resolution.now + settings.sessionRotationGrace)
    lastSeenAt := resolution.now
    idleExpiresAt := idleExpiresAt settings resolution session }

/-- The row as its idle expiry is extended. -/
def extended (resolution : Resolution) (session : AuthSession) (row : AuthSession) : AuthSession :=
  { row with
    lastSeenAt := resolution.now
    idleExpiresAt := idleExpiresAt settings resolution session }

/-- The renewal, or the extension, and the answer. -/
def extend (call : ℕ) (resolution : Resolution) (sessionId : String) (session : AuthSession)
    (impersonation : Option Impersonation) (replacement : String) (auth : AuthSessions) :
    Option AuthSessions :=
  let answer := fun setCookie =>
    .answered (some (session.resolved sessionId impersonation setCookie))
  match auth.sessions.get sessionId with
  | some row =>
    if renewalDue settings resolution session then
      if row.tokenDigest = session.tokenDigest ∧ row.revokedAt = none then
        if auth.isFresh replacement then
          some ((auth.write ⟨sessionId, replacement, .renewal, resolution.now⟩
            (renewed settings resolution session replacement row)).proceed call resolution
              (answer (some replacement)))
        else none
      else some (auth.proceed call resolution (answer none))
    else
      some ({ auth with
        sessions := auth.sessions.set sessionId
          (extended settings resolution session row) }.proceed call resolution (answer none))
  | none => some (auth.proceed call resolution (answer none))

end AuthSessions

/-! ### The operations on the row of a session -/

namespace AuthSession

/-- The grant that is asked for. -/
def requestedGrant (settings : SessionSettings) (targetIdentityId reason grantId : String)
    (now : ℤ) (row : AuthSession) : Impersonation :=
  ⟨grantId, targetIdentityId, trim reason, now,
    min row.expiresAt (now + settings.impersonationSession)⟩

/-- The `WHERE` of `startImpersonation`. -/
def canStart (identityId : String) (now : ℤ) (row : AuthSession) : Bool :=
  decide (row.identityId = identityId) && row.impersonation.isNone &&
    decide (now - 15 * 60 * 1000 < row.authenticatedAt) && row.isLive now

/-- The row under the grant. -/
def impersonate (grant : Impersonation) (token : String) (now : ℤ) (row : AuthSession)
    (h : grant.Complete row.identityId row.expiresAt) : AuthSession :=
  { row with
    tokenDigest := token
    previousToken := none
    lastSeenAt := now
    impersonation := some grant
    impersonation_complete := by
      rintro _ ⟨⟩
      exact h }

/-- The `WHERE` of `stopImpersonation`. -/
def canStop (identityId grantId : String) (now : ℤ) (row : AuthSession) : Bool :=
  decide (row.identityId = identityId) && row.revokedAt.isNone &&
    row.impersonation.any fun grant => grant.grantId = grantId && decide (now < grant.expiresAt)

/-- The row after the impersonation. -/
def stopped (token : String) (now : ℤ) (row : AuthSession) : AuthSession :=
  { row.clearImpersonation with tokenDigest := token, previousToken := none, lastSeenAt := now }

end AuthSession

namespace AuthSessions

/-- What `startImpersonation` demands before it writes. -/
def mayImpersonate (identityId targetIdentityId reason : String) (directory : AuthDirectory) :
    Bool :=
  decide (identityId ≠ targetIdentityId) && decide (1 ≤ codeUnits (trim reason)) &&
    decide (codeUnits (trim reason) ≤ 500) && directory.findIdentity identityId &&
      directory.findIdentity targetIdentityId && directory.ensureEligible identityId &&
        directory.ensureEligible targetIdentityId

/-- `startImpersonation`: an `UPDATE` that breaks the constraint fails. -/
def startImpersonation (settings : SessionSettings)
    (identityId sessionId targetIdentityId reason grantId token : String) (now : ℤ)
    (directory : AuthDirectory) (auth : AuthSessions) : Option AuthSessions :=
  (auth.sessions.get sessionId).bind fun row =>
    let grant := row.requestedGrant settings targetIdentityId reason grantId now
    if h : grant.Complete row.identityId row.expiresAt then
      if mayImpersonate identityId targetIdentityId reason directory ∧ row.canStart identityId now ∧
          auth.isFresh token ∧ ∀ started ∈ auth.grants, started.grantId ≠ grantId then
        some { auth.write ⟨sessionId, token, .startImpersonation, now⟩
            (row.impersonate grant token now h) with
          grants := ⟨grantId, sessionId, targetIdentityId⟩ :: auth.grants }
      else none
    else none

def stopImpersonation (identityId sessionId grantId token : String) (now : ℤ)
    (auth : AuthSessions) : Option AuthSessions :=
  (auth.sessions.get sessionId).bind fun row =>
    if row.canStop identityId grantId now ∧ auth.isFresh token then
      some (auth.write ⟨sessionId, token, .stopImpersonation, now⟩ (row.stopped token now))
    else none

def reauthenticate (identityId sessionId : String) (now : ℤ) (auth : AuthSessions) :
    Option AuthSessions :=
  (auth.sessions.get sessionId).bind fun row =>
    if row.identityId = identityId ∧ row.isLive now then
      some { auth with
        sessions := auth.sessions.set sessionId
          { row with authenticatedAt := now, lastSeenAt := now } }
    else none

/-- What a label does, in the states in which it can happen. -/
def step (settings : SessionSettings) (auth : AuthSessions) : SessionLabel → Option AuthSessions
  | .tick clock =>
    if auth.clock ≤ clock then some { auth with clock := clock } else none
  | .login sessionId identityId token now =>
    -- the identifier of a session is a UUID
    if now ≤ auth.clock ∧ sessionId ≠ "" ∧ auth.sessions.get sessionId = none ∧
        auth.isFresh token then
      some (auth.login settings sessionId identityId token now)
    else none
  | .resolveHttp call token webSocketUpgrade =>
    if auth.resolutions.get call = none then
      some { auth with
        resolutions := auth.resolutions.set call ⟨token, webSocketUpgrade, auth.clock,
          if token = "" then .answered none else .selecting⟩ }
    else none
  | .select call sessionId =>
    (auth.resolutions.get call).bind fun resolution =>
      match resolution.phase with
      | .selecting =>
        some (auth.proceed call resolution
          (match auth.sessions.get sessionId with
          | some row =>
            if row.resolves resolution.token resolution.now then
              .selected sessionId row
            else .answered none
          | none => .answered none))
      | _ => none
  | .settle call directory =>
    (auth.resolutions.get call).bind fun resolution =>
      match resolution.phase with
      | .selected sessionId session =>
        some (auth.settle call resolution sessionId session directory)
      | _ => none
  | .extend call replacement =>
    (auth.resolutions.get call).bind fun resolution =>
      match resolution.phase with
      | .settled sessionId session impersonation =>
        auth.extend settings call resolution sessionId session impersonation replacement
      | _ => none
  | .startImpersonation identityId sessionId targetIdentityId reason grantId token now
      directory =>
      if now ≤ auth.clock then
        auth.startImpersonation settings identityId sessionId targetIdentityId reason grantId token
          now directory
      else none
  | .stopImpersonation identityId sessionId grantId token now =>
    if now ≤ auth.clock then auth.stopImpersonation identityId sessionId grantId token now
    else none
  | .reauthenticate identityId sessionId now =>
    if now ≤ auth.clock then auth.reauthenticate identityId sessionId now else none
  | .revokeSession sessionId now =>
    if now ≤ auth.clock then some (auth.revoke now fun id _ => id = sessionId) else none
  | .revokeAllSessions identityId rows now | .resetPassword identityId rows
      now =>
      if now ≤ auth.clock then some (auth.revokeIdentity identityId rows now) else none

/-- `validateAuthentication`. -/
def validateAuthentication (directory : AuthDirectory) (now : ℤ) (actor : ActorRef)
    (authentication : AuthenticationContext) (auth : AuthSessions) : Bool :=
  match authentication.state with
  | .anonymous => decide (actor.kind = .anonymous)
  | .authenticated =>
    if actor.kind = .user ∧ (truthy actor.id).isSome ∧
        (truthy authentication.identityId).isSome then
      if authentication.method = some passwordMethod ∧
          ((truthy authentication.sessionId).isSome ∨
            (truthy authentication.impersonationGrantId).isSome) then
        (auth.sessions.entries.find? fun entry =>
          entry.2.isValidated authentication now entry.1).any fun entry =>
            entry.2.accepts directory now actor authentication
      else
        decide (authentication.method = some bearerMethod) &&
          (truthy authentication.credentialId).any fun credentialId =>
            authentication.identityId.any fun identityId =>
              directory.accessToken credentialId identityId now &&
                decide (actor.id = some identityId) && directory.findIdentity identityId
    else false

/-! ### What is conferred -/

/-- **A token resolves** only if it is the newest one of its session, or the one directly before it
that a renewal has replaced, as long as the grace lasts; none that was issued before an
impersonation was started or stopped does. -/
def TokensConfer (settings : SessionSettings) (auth : AuthSessions) : Prop :=
  ∀ sessionId row token now, auth.sessions.get sessionId = some row → row.resolves token now →
    (∃ newest older, auth.tokensOf sessionId = newest :: older ∧
      (token = newest.token ∨ newest.kind = .renewal ∧
        now < newest.issuedAt + settings.sessionRotationGrace ∧
          ∃ before rest, older = before :: rest ∧ token = before.token)) ∧
    ∀ newer switch older, auth.tokensOf sessionId = newer ++ switch :: older →
      switch.kind = .startImpersonation ∨ switch.kind = .stopImpersonation →
        ∀ issue ∈ older, issue.token ≠ token

/-- **What is resolved from a row is accepted** on it at the same instant, and also on the row
whose impersonation has been ended. -/
def IsAccepted (auth : AuthSessions) : Prop :=
  ∀ sessionId row token now (directory : AuthDirectory) setCookie,
    auth.sessions.get sessionId = some row → row.resolves token now →
      directory.findIdentity row.identityId →
        let answer := row.resolved sessionId (row.goesOn directory now) setCookie
        auth.validateAuthentication directory now answer.actor answer.authentication ∧
          (row.goesOn directory now = none →
            { auth with sessions := auth.sessions.set sessionId row.clearImpersonation
              }.validateAuthentication directory now answer.actor answer.authentication)

/-- The actor is the one that is impersonated, and is so under the grant. -/
def UnderGrant (grant : ImpersonationGrant) (actor : ActorRef)
    (authentication : AuthenticationContext) : Prop :=
  actor = user grant.targetIdentityId ∧
    authentication.impersonationGrantId = some grant.grantId ∧
      authentication.method ≠ some bearerMethod

/-- Nobody is accepted under the grant. -/
def Rejects (directory : AuthDirectory) (now : ℤ) (grant : ImpersonationGrant)
    (auth : AuthSessions) : Prop :=
  ∀ actor authentication, UnderGrant grant actor authentication →
    auth.validateAuthentication directory now actor authentication = false

/-- By the time, the session is revoked or has expired for good, or its grant has been stopped,
replaced, or has expired. -/
def IsOver (grant : ImpersonationGrant) (now : ℤ) (auth : AuthSessions) : Prop :=
  ∀ row, auth.sessions.get grant.sessionId = some row →
    row.revokedAt ≠ none ∨ row.expiresAt ≤ now ∨
      ∀ current ∈ row.impersonation, current.grantId = grant.grantId → current.expiresAt ≤ now

/-- By the time, the session has not been used for too long. -/
def IsIdle (grant : ImpersonationGrant) (now : ℤ) (auth : AuthSessions) : Prop :=
  ∀ row, auth.sessions.get grant.sessionId = some row → row.idleExpiresAt ≤ now

/-! ### What one step can do -/

/-- A row is written without a new token: it stays the row of its identity, stays revoked, and an
impersonation is ended at most. -/
structure Touched (row row' : AuthSession) : Prop where
  expiresAt : row'.expiresAt = row.expiresAt
  tokenDigest : row'.tokenDigest = row.tokenDigest
  previousToken : row'.previousToken = row.previousToken
  revokedAt : row.revokedAt ≠ none → row'.revokedAt ≠ none
  impersonation : ∀ grant ∈ row'.impersonation, grant ∈ row.impersonation

theorem Touched.refl (row : AuthSession) : Touched row row :=
  ⟨rfl, rfl, rfl, id, fun _ => id⟩

/-- A row is written with a new token: it is the row of a login, or it follows the row that was
there. -/
inductive Follows (settings : SessionSettings) (auth : AuthSessions) (issue : TokenIssue)
    (row' : AuthSession) : Prop
  | login (hsession : issue.sessionId ≠ "") (hnew : auth.sessions.get issue.sessionId = none)
      (hprevious : row'.previousToken = none)
(himpersonation : row'.impersonation = none)
  | row (row : AuthSession) (hrow : auth.sessions.get issue.sessionId = some row)
      (hexpires : row'.expiresAt = row.expiresAt)
      (hrevoked : row.revokedAt ≠ none → row'.revokedAt ≠ none)
      (hprevious : ∀ previous ∈ row'.previousToken, issue.kind = .renewal ∧
        previous = (row.tokenDigest, issue.issuedAt + settings.sessionRotationGrace))

/-- **What one step can do.** -/
inductive Change (settings : SessionSettings) (auth auth' : AuthSessions) : Prop
  /-- No token is issued. -/
  | touch (hclock : auth.clock ≤ auth'.clock) (hissued : auth'.issued = auth.issued)
      (hgrants : auth'.grants = auth.grants)
      (hrows : ∀ sessionId row', auth'.sessions.get sessionId = some row' →
        ∃ row, auth.sessions.get sessionId = some row ∧ Touched row row')
      (hkept : ∀ sessionId, auth'.sessions.get sessionId = none →
        auth.sessions.get sessionId = none)
  /-- A token is issued, and a grant at most. -/
  | issue (issue : TokenIssue) (row' : AuthSession) (hclock : auth.clock ≤ auth'.clock)
      (hissued : auth'.issued = issue :: auth.issued)
      (hsessions : auth'.sessions = auth.sessions.set issue.sessionId row')
      (hfresh : auth.isFresh issue.token) (htoken : row'.tokenDigest = issue.token)
      (hfollows : Follows settings auth issue row')
      (hgrants : auth'.grants = auth.grants ∧ (∀ row grant,
          auth.sessions.get issue.sessionId = some row → grant ∈ row'.impersonation →
            grant ∈ row.impersonation) ∨
        ∃ grant, auth'.grants = grant :: auth.grants ∧ grant.sessionId = issue.sessionId ∧
          (∀ started ∈ auth.grants, started.grantId ≠ grant.grantId) ∧
            ∀ current ∈ row'.impersonation, current.grantId = grant.grantId ∧
              current.targetIdentityId = grant.targetIdentityId)

section

variable {settings : SessionSettings} {auth auth' : AuthSessions}

/-- The rows are what they have been. -/
theorem Change.of_sessions_eq (hclock : auth.clock ≤ auth'.clock)
    (hissued : auth'.issued = auth.issued) (hgrants : auth'.grants = auth.grants)
    (hsessions : auth'.sessions = auth.sessions) : Change settings auth auth' := by
  refine .touch hclock hissued hgrants ?_ ?_
  · intro sessionId row' hrow'
    rw [hsessions] at hrow'
    exact ⟨row', hrow', Touched.refl row'⟩
  · intro sessionId hnone
    rwa [hsessions] at hnone

variable {sessionId : String}

/-- One row is written without a new token. -/
theorem Change.of_set {row row' : AuthSession} (hclock : auth.clock ≤ auth'.clock)
    (hissued : auth'.issued = auth.issued) (hgrants : auth'.grants = auth.grants)
    (hrow : auth.sessions.get sessionId = some row) (htouched : Touched row row')
    (hsessions : auth'.sessions = auth.sessions.set sessionId row') :
    Change settings auth auth' := by
  refine .touch hclock hissued hgrants ?_ ?_
  · intro id found hfound
    rw [hsessions, OrderedMap.get_set] at hfound
    split_ifs at hfound with hid
    · cases hfound
      exact ⟨row, hid ▸ hrow, htouched⟩
    · exact ⟨found, hfound, Touched.refl found⟩
  · intro id hnone
    rw [hsessions, OrderedMap.get_set] at hnone
    split_ifs at hnone with hid
    exact hnone

theorem touched_revoke (now : ℤ) (row : AuthSession) :
    Touched row { row with revokedAt := some now } :=
  ⟨rfl, rfl, rfl, fun _ => Option.some_ne_none now, fun _ => id⟩

theorem touched_clearImpersonation (row : AuthSession) : Touched row row.clearImpersonation :=
  ⟨rfl, rfl, rfl, id, by rintro _ ⟨⟩⟩

/-- The columns that say when a session was used do not matter. -/
theorem touched_seen (authenticatedAt lastSeenAt idleExpiresAt : ℤ) (row : AuthSession) :
    Touched row { row with
      authenticatedAt := authenticatedAt
      lastSeenAt := lastSeenAt
      idleExpiresAt := idleExpiresAt } :=
  ⟨rfl, rfl, rfl, id, fun _ => id⟩

theorem change_revoke (now : ℤ) (which : String → AuthSession → Bool) :
    Change settings auth (auth.revoke now which) := by
  refine .touch le_rfl rfl rfl ?_ ?_
  · intro sessionId row' hrow'
    rw [revoke, OrderedMap.get_map] at hrow'
    obtain ⟨row, hrow, rfl⟩ := Option.map_eq_some_iff.1 hrow'
    refine ⟨row, hrow, ?_⟩
    split_ifs
    · exact touched_revoke now row
    · exact Touched.refl row
  · intro sessionId hnone
    rw [revoke, OrderedMap.get_map] at hnone
    exact Option.map_eq_none_iff.1 hnone

theorem change_proceed (call : ℕ) (resolution : Resolution) (phase : ResolutionPhase) :
    Change settings auth (auth.proceed call resolution phase) :=
  Change.of_sessions_eq le_rfl rfl rfl rfl

theorem change_endImpersonation (call : ℕ) (resolution : Resolution) (sessionId : String)
    (session : AuthSession) (grant : Impersonation) :
    Change settings auth (auth.endImpersonation call resolution sessionId session grant) := by
  rw [endImpersonation]
  cases hrow : auth.sessions.get sessionId with
  | none => exact Change.of_sessions_eq le_rfl rfl rfl rfl
  | some row =>
    dsimp only
    split_ifs
    · exact Change.of_set le_rfl rfl rfl hrow (touched_clearImpersonation row) rfl
    · exact Change.of_sessions_eq le_rfl rfl rfl rfl

theorem change_settle (call : ℕ) (resolution : Resolution) (sessionId : String)
    (session : AuthSession) (directory : AuthDirectory) :
    Change settings auth (auth.settle call resolution sessionId session directory) := by
  rw [settle]
  split_ifs
  · split
    · exact change_endImpersonation call resolution sessionId session _
    · exact change_proceed call resolution _
  · exact change_proceed call resolution _

theorem change_extend {call : ℕ} {resolution : Resolution} {session : AuthSession}
    {impersonation : Option Impersonation} {replacement : String}
    (h : auth.extend settings call resolution sessionId session impersonation replacement =
      some auth') : Change settings auth auth' := by
  rw [extend] at h
  cases hrow : auth.sessions.get sessionId with
  | none =>
    rw [hrow] at h
    cases h
    exact change_proceed call resolution _
  | some row =>
    rw [hrow] at h
    dsimp only at h
    split_ifs at h with hdue hguard hfresh
    · cases h
      refine .issue ⟨sessionId, replacement, .renewal, resolution.now⟩ _ le_rfl rfl
        rfl hfresh rfl (.row row hrow rfl (fun hrevoked => hrevoked) ?_) (.inl ⟨rfl, ?_⟩)
      · rintro _ ⟨⟩
        exact ⟨rfl, by rw [hguard.1]⟩
      · intro found grant hfound hgrant
        cases hrow.symm.trans hfound
        exact hgrant
    · cases h
      exact change_proceed call resolution _
    · cases h
      exact Change.of_set le_rfl rfl rfl hrow (touched_seen _ _ _ row) rfl

theorem change_startImpersonation {identityId targetIdentityId reason grantId token : String}
    {now : ℤ} {directory : AuthDirectory}
    (h : auth.startImpersonation settings identityId sessionId targetIdentityId reason grantId token
      now directory = some auth') : Change settings auth auth' := by
  obtain ⟨row, hrow, hstart⟩ := Option.bind_eq_some_iff.1 h
  dsimp only at hstart
  split_ifs at hstart with hcomplete hguard
  cases hstart
  refine .issue ⟨sessionId, token, .startImpersonation, now⟩ _ le_rfl rfl rfl
    hguard.2.2.1 rfl (.row row hrow rfl (fun hrevoked => hrevoked) ?_)
    (.inr ⟨⟨grantId, sessionId, targetIdentityId⟩, rfl, rfl, hguard.2.2.2, ?_⟩)
  · rintro _ ⟨⟩
  · rintro _ ⟨⟩
    exact ⟨rfl, rfl⟩

theorem change_stopImpersonation {identityId grantId token : String} {now : ℤ}
    (h : auth.stopImpersonation identityId sessionId grantId token now = some auth') :
    Change settings auth auth' := by
  obtain ⟨row, hrow, hstop⟩ := Option.bind_eq_some_iff.1 h
  split_ifs at hstop with hguard
  cases hstop
  refine .issue ⟨sessionId, token, .stopImpersonation, now⟩ _ le_rfl rfl rfl
    hguard.2 rfl (.row row hrow rfl (fun hrevoked => hrevoked) ?_) (.inl ⟨rfl, ?_⟩)
  · rintro _ ⟨⟩
  · rintro _ _ _ ⟨⟩

theorem change_login {identityId token : String} {now : ℤ} (hsession : sessionId ≠ "")
    (hnew : auth.sessions.get sessionId = none) (hfresh : auth.isFresh token) :
    Change settings auth (auth.login settings sessionId identityId token now) := by
  refine .issue ⟨sessionId, token, .login, now⟩ _ le_rfl rfl rfl hfresh rfl
    (.login hsession hnew rfl rfl) (.inl ⟨rfl, ?_⟩)
  intro row _ hrow
  cases hnew.symm.trans hrow

/-- **Every step is such a change.** -/
theorem change_step {label : SessionLabel} (hstep : auth.step settings label = some auth') :
    Change settings auth auth' := by
  cases label with
  | tick clock =>
    rw [step] at hstep
    split_ifs at hstep with hclock
    cases hstep
    exact Change.of_sessions_eq hclock rfl rfl rfl
  | login sessionId identityId token now =>
    rw [step] at hstep
    split_ifs at hstep with hguard
    cases hstep
    exact change_login hguard.2.1 hguard.2.2.1 hguard.2.2.2
  | resolveHttp call token webSocketUpgrade =>
    rw [step] at hstep
    split at hstep
    · cases hstep
      exact Change.of_sessions_eq le_rfl rfl rfl rfl
    · cases hstep
  | select call sessionId =>
    obtain ⟨resolution, -, hselect⟩ := Option.bind_eq_some_iff.1 hstep
    split at hselect
    · cases hselect
      exact change_proceed call resolution _
    · cases hselect
  | settle call directory =>
    obtain ⟨resolution, -, hsettle⟩ := Option.bind_eq_some_iff.1 hstep
    split at hsettle
    · cases hsettle
      exact change_settle call resolution _ _ directory
    · cases hsettle
  | extend call replacement =>
    obtain ⟨resolution, -, hextend⟩ := Option.bind_eq_some_iff.1 hstep
    split at hextend
    · exact change_extend hextend
    · cases hextend
  | startImpersonation identityId sessionId targetIdentityId reason grantId token now directory =>
    rw [step] at hstep
    split_ifs at hstep
    exact change_startImpersonation hstep
  | stopImpersonation identityId sessionId grantId token now =>
    rw [step] at hstep
    split_ifs at hstep
    exact change_stopImpersonation hstep
  | reauthenticate identityId sessionId now =>
    rw [step] at hstep
    split_ifs at hstep
    obtain ⟨row, hrow, hreauthenticate⟩ := Option.bind_eq_some_iff.1 hstep
    split_ifs at hreauthenticate
    cases hreauthenticate
    exact Change.of_set le_rfl rfl rfl hrow (touched_seen _ _ _ row) rfl
  | revokeSession sessionId now =>
    rw [step] at hstep
    split_ifs at hstep
    cases hstep
    exact change_revoke now _
  | revokeAllSessions identityId rows now =>
    rw [step] at hstep
    split_ifs at hstep
    cases hstep
    exact change_revoke now _
  | resetPassword identityId rows now =>
    rw [step] at hstep
    split_ifs at hstep
    cases hstep
    exact change_revoke now _

end

/-! ### What every step keeps -/

/-- The tokens of a row are the newest ones that were issued for it. -/
structure Succession (settings : SessionSettings) (issues : List TokenIssue) (row : AuthSession)
    (newest : TokenIssue) (older : List TokenIssue) : Prop where
  issues : issues = newest :: older
  tokenDigest : row.tokenDigest = newest.token
  previousToken : ∀ previous ∈ row.previousToken, newest.kind = .renewal ∧
    previous.2 = newest.issuedAt + settings.sessionRotationGrace ∧
      ∃ before rest, older = before :: rest ∧ previous.1 = before.token

structure Kept (settings : SessionSettings) (auth : AuthSessions) : Prop where
  succession : ∀ sessionId row, auth.sessions.get sessionId = some row →
    ∃ newest older, Succession settings (auth.tokensOf sessionId) row newest older
  /-- Rows are never deleted. -/
  known : ∀ issue ∈ auth.issued, auth.sessions.get issue.sessionId ≠ none
  named : auth.sessions.get "" = none
  fresh : (auth.issued.map fun issue => issue.token).Nodup
  /-- What a row says of an impersonation is what was granted. -/
  granted : ∀ sessionId row current, auth.sessions.get sessionId = some row →
    current ∈ row.impersonation → ∃ grant ∈ auth.grants, grant.sessionId = sessionId ∧
      current.grantId = grant.grantId ∧ current.targetIdentityId = grant.targetIdentityId
  once : (auth.grants.map fun grant => grant.grantId).Nodup

section

variable {settings : SessionSettings} {auth auth' : AuthSessions}

theorem tokensOf_cons (sessionId : String) {issue : TokenIssue}
    (hissued : auth'.issued = issue :: auth.issued) :
    auth'.tokensOf sessionId =
      if issue.sessionId = sessionId then issue :: auth.tokensOf sessionId
      else auth.tokensOf sessionId := by
  rw [tokensOf, hissued, List.filter_cons]
  simp only [decide_eq_true_eq]
  rfl

variable {row : AuthSession}

theorem Succession.touched {issues older : List TokenIssue} {row' : AuthSession}
    {newest : TokenIssue} (h : Succession settings issues row newest older)
    (htouched : Touched row row') : Succession settings issues row' newest older := by
  refine ⟨h.issues, htouched.tokenDigest.trans h.tokenDigest, ?_⟩
  rw [htouched.previousToken]
  exact h.previousToken

theorem Kept.touch (h : auth.Kept settings) (hissued : auth'.issued = auth.issued)
    (hgrants : auth'.grants = auth.grants)
    (hrows : ∀ sessionId row', auth'.sessions.get sessionId = some row' →
      ∃ row, auth.sessions.get sessionId = some row ∧ Touched row row')
    (hkept : ∀ sessionId, auth'.sessions.get sessionId = none →
      auth.sessions.get sessionId = none) : auth'.Kept settings := by
  constructor
  case succession =>
    intro sessionId row' hrow'
    obtain ⟨row, hrow, htouched⟩ := hrows sessionId row' hrow'
    obtain ⟨newest, older, hsuccession⟩ := h.succession sessionId row hrow
    refine ⟨newest, older, ?_⟩
    rw [tokensOf, hissued]
    exact hsuccession.touched htouched
  case known =>
    intro issue hissue hnone
    rw [hissued] at hissue
    exact h.known issue hissue (hkept _ hnone)
  case named =>
    refine Option.eq_none_iff_forall_ne_some.2 fun row' hrow' => ?_
    obtain ⟨row, hrow, -⟩ := hrows _ row' hrow'
    cases h.named.symm.trans hrow
  case fresh =>
    rw [hissued]
    exact h.fresh
  case granted =>
    intro sessionId row' current hrow' hcurrent
    obtain ⟨row, hrow, htouched⟩ := hrows sessionId row' hrow'
    rw [hgrants]
    exact h.granted sessionId row current hrow (htouched.impersonation current hcurrent)
  case once =>
    rw [hgrants]
    exact h.once

/-- The token that is issued is the newest one of its session. -/
theorem Kept.follows (h : auth.Kept settings) {issue : TokenIssue} {row' : AuthSession}
    (htoken : row'.tokenDigest = issue.token) (hfollows : Follows settings auth issue row') :
    Succession settings (issue :: auth.tokensOf issue.sessionId) row' issue
      (auth.tokensOf issue.sessionId) := by
  refine ⟨rfl, htoken, ?_⟩
  cases hfollows with
  | login _ _ hprevious _ =>
    rw [hprevious]
    rintro _ ⟨⟩
  | row row hrow _ _ hprevious =>
    intro previous hmem
    obtain ⟨hkind, rfl⟩ := hprevious previous hmem
    obtain ⟨newest, older, hsuccession⟩ := h.succession _ row hrow
    exact ⟨hkind, rfl, newest, older, hsuccession.issues, hsuccession.tokenDigest⟩

theorem Kept.issue (h : auth.Kept settings) {issue : TokenIssue} {row' : AuthSession}
    (hissued : auth'.issued = issue :: auth.issued)
    (hsessions : auth'.sessions = auth.sessions.set issue.sessionId row')
    (hfresh : auth.isFresh issue.token) (htoken : row'.tokenDigest = issue.token)
    (hfollows : Follows settings auth issue row')
    (hgranted : ∀ current ∈ row'.impersonation, ∃ grant ∈ auth'.grants,
      grant.sessionId = issue.sessionId ∧ current.grantId = grant.grantId ∧
        current.targetIdentityId = grant.targetIdentityId)
    (hgrants : ∀ grant ∈ auth.grants, grant ∈ auth'.grants)
    (honce : (auth'.grants.map fun grant => grant.grantId).Nodup) : auth'.Kept settings := by
  constructor
  case succession =>
    intro sessionId row hrow
    rw [hsessions, OrderedMap.get_set] at hrow
    rw [tokensOf_cons sessionId hissued]
    split_ifs at hrow with hid
    · cases hrow
      subst hid
      rw [if_pos rfl]
      exact ⟨issue, _, h.follows htoken hfollows⟩
    · rw [if_neg (Ne.symm hid)]
      exact h.succession sessionId row hrow
  case known =>
    intro earlier hearlier
    rw [hsessions, OrderedMap.get_set]
    split_ifs with hid
    · exact Option.some_ne_none row'
    · rw [hissued] at hearlier
      rcases List.mem_cons.1 hearlier with rfl | hearlier
      · exact absurd rfl hid
      · exact h.known earlier hearlier
  case named =>
    rw [hsessions, OrderedMap.get_set, if_neg, h.named]
    cases hfollows with
    | login hsession => exact Ne.symm hsession
    | row row hrow =>
      intro heq
      rw [← heq, h.named] at hrow
      cases hrow
  case fresh =>
    rw [hissued, List.map_cons]
    refine List.nodup_cons.2 ⟨fun hmem => ?_, h.fresh⟩
    obtain ⟨earlier, hearlier, heq⟩ := List.mem_map.1 hmem
    exact of_decide_eq_true (List.all_eq_true.1 hfresh earlier hearlier) heq
  case granted =>
    intro sessionId row current hrow hcurrent
    rw [hsessions, OrderedMap.get_set] at hrow
    split_ifs at hrow with hid
    · cases hrow
      rw [hid]
      exact hgranted current hcurrent
    · obtain ⟨grant, hgrant, hrest⟩ := h.granted sessionId row current hrow hcurrent
      exact ⟨grant, hgrants grant hgrant, hrest⟩
  case once => exact honce

/-- **Every change keeps it.** -/
theorem Kept.change (h : auth.Kept settings) (hchange : Change settings auth auth') :
    auth'.Kept settings := by
  cases hchange with
  | touch _ hissued hgrants hrows hkept => exact h.touch hissued hgrants hrows hkept
  | issue issue row' _ hissued hsessions hfresh htoken hfollows hgrants =>
    rcases hgrants with ⟨hgrants, hcurrent⟩ | ⟨grant, hgrants, hsession, hnew, hcurrent⟩
    · refine h.issue hissued hsessions hfresh htoken hfollows ?_ ?_ (hgrants ▸ h.once)
      case refine_2 =>
        rw [hgrants]
        exact fun _ => id
      intro current hmem
      rw [hgrants]
      cases hfollows with
      | login _ _ _ himpersonation =>
        rw [himpersonation] at hmem
        cases hmem
      | row row hrow => exact h.granted _ row current hrow (hcurrent row current hrow hmem)
    · refine h.issue hissued hsessions hfresh htoken hfollows ?_ ?_ ?_
      · intro current hmem
        rw [hgrants]
        exact ⟨grant, List.mem_cons_self, hsession, hcurrent current hmem⟩
      · intro started hstarted
        rw [hgrants]
        exact List.mem_cons_of_mem grant hstarted
      · rw [hgrants, List.map_cons]
        refine List.nodup_cons.2 ⟨fun hmem => ?_, h.once⟩
        obtain ⟨started, hstarted, heq⟩ := List.mem_map.1 hmem
        exact hnew started hstarted heq

theorem new_kept (settings : SessionSettings) (clock : ℤ) : (new clock).Kept settings where
  succession := by rintro _ _ ⟨⟩
  known := by rintro _ ⟨⟩
  named := rfl
  fresh := List.nodup_nil
  granted := by rintro _ _ _ ⟨⟩
  once := List.nodup_nil

variable {now : ℤ}

/-- **What is over stays over.** -/
theorem IsOver.change {grant : ImpersonationGrant} (h : auth.IsOver grant now)
    (hgrant : grant ∈ auth.grants) (hchange : Change settings auth auth') :
    auth'.IsOver grant now := by
  intro row' hrow'
  cases hchange with
  | touch _ _ _ hrows _ =>
    obtain ⟨row, hrow, htouched⟩ := hrows _ row' hrow'
    rw [htouched.expiresAt]
    refine (h row hrow).imp htouched.revokedAt (Or.imp_right fun hover current hcurrent => ?_)
    exact hover current (htouched.impersonation current hcurrent)
  | issue issue written _ _ hsessions _ _ hfollows hgrants =>
    rw [hsessions, OrderedMap.get_set] at hrow'
    split_ifs at hrow' with hid
    · cases hrow'
      cases hfollows with
      | login _ _ _ himpersonation =>
        refine .inr (.inr ?_)
        rw [himpersonation]
        rintro _ ⟨⟩
      | row row hrow hexpires hrevoked _ =>
        rw [hexpires]
        have hrow : auth.sessions.get grant.sessionId = some row := by rw [hid, hrow]
        refine (h row hrow).imp hrevoked (Or.imp_right fun hover current hcurrent heq => ?_)
        rcases hgrants with ⟨-, hsame⟩ | ⟨started, -, -, hnew, hstarted⟩
        · exact hover current (hsame row current (hid ▸ hrow) hcurrent) heq
        · -- a grant that is started now is another one
          exact absurd (heq.symm.trans (hstarted current hcurrent).1) (hnew grant hgrant)
    · exact h row' hrow'

theorem Change.grants_subset (h : Change settings auth auth') {grant : ImpersonationGrant}
    (hgrant : grant ∈ auth.grants) : grant ∈ auth'.grants := by
  cases h with
  | touch _ _ hgrants =>
    rw [hgrants]
    exact hgrant
  | issue _ _ _ _ _ _ _ _ hgrants =>
    rcases hgrants with ⟨hgrants, -⟩ | ⟨_, hgrants, -⟩
    · rw [hgrants]
      exact hgrant
    · rw [hgrants]
      exact List.mem_cons_of_mem _ hgrant

/-! ### The tokens -/

/-- What was issued earlier is not what was issued later. -/
theorem Kept.token_ne (h : auth.Kept settings) {sessionId : String} {newer older : List TokenIssue}
    (htokens : auth.tokensOf sessionId = newer ++ older) :
    ∀ issue ∈ newer, ∀ earlier ∈ older, earlier.token ≠ issue.token := by
  have hnodup : ((newer ++ older).map fun issue => issue.token).Nodup := by
    rw [← htokens]
    exact h.fresh.sublist (List.filter_sublist.map _)
  rw [List.map_append] at hnodup
  intro issue hissue earlier hearlier heq
  exact List.disjoint_of_nodup_append hnodup (List.mem_map_of_mem hissue)
    (heq ▸ List.mem_map_of_mem hearlier)

/-- A token that resolves is the newest one, or the one that a renewal has replaced. -/
theorem Succession.resolves {issues older : List TokenIssue} {newest : TokenIssue} {token : String}
    (h : Succession settings issues row newest older) (hresolves : row.resolves token now) :
    token = newest.token ∨ newest.kind = .renewal ∧
      now < newest.issuedAt + settings.sessionRotationGrace ∧
        ∃ before rest, older = before :: rest ∧ token = before.token := by
  obtain ⟨hmatch, -⟩ := Bool.and_eq_true_iff.1 hresolves
  rcases Bool.or_eq_true_iff.1 hmatch with hcurrent | hprevious
  · exact .inl ((of_decide_eq_true hcurrent).symm.trans h.tokenDigest)
  · obtain ⟨previous, hmem, hmatches⟩ := (Option.any_eq_true _ _).1 hprevious
    obtain ⟨htoken, hgrace⟩ := Bool.and_eq_true_iff.1 hmatches
    obtain ⟨hkind, hexpires, before, rest, holder, hbefore⟩ := h.previousToken previous hmem
    rw [← hexpires]
    exact .inr ⟨hkind, of_decide_eq_true hgrace, before, rest, holder,
      (of_decide_eq_true htoken).symm.trans hbefore⟩

theorem Kept.tokensConfer (h : auth.Kept settings) : auth.TokensConfer settings := by
  intro sessionId row token now hrow hresolves
  obtain ⟨newest, older, hsuccession⟩ := h.succession sessionId row hrow
  have hconferred := hsuccession.resolves hresolves
  refine ⟨⟨newest, older, hsuccession.issues, hconferred⟩, ?_⟩
  intro newer switch earlier htokens hswitch issue hissue
  have hlist : auth.tokensOf sessionId = (newer ++ [switch]) ++ earlier := by simpa using htokens
  have hne := fun later hlater => h.token_ne hlist later hlater issue hissue
  have htokens := hsuccession.issues.symm.trans htokens
  rcases hconferred with rfl | ⟨hkind, -, before, rest, rfl, rfl⟩
  · refine hne newest ?_
    cases newer with
    | nil => exact (List.cons.inj htokens).1 ▸ List.mem_cons_self
    | cons first newer => exact (List.cons.inj htokens).1 ▸ List.mem_cons_self
  · -- the newest token is a renewal, and so not that of the switch
    refine hne before ?_
    cases newer with
    | nil =>
      rw [← (List.cons.inj htokens).1, hkind] at hswitch
      rcases hswitch with hswitch | hswitch <;> cases hswitch
    | cons first newer =>
      refine List.mem_cons_of_mem first ?_
      have htokens := (List.cons.inj htokens).2
      cases newer with
      | nil => exact (List.cons.inj htokens).1 ▸ List.mem_cons_self
      | cons second newer => exact (List.cons.inj htokens).1 ▸ List.mem_cons_self

/-! ### What is resolved is accepted -/

variable {directory : AuthDirectory}

/-- **The impersonation that goes on** is the one that `validateAuthentication` finds. -/
theorem goesOn_eq (directory : AuthDirectory) (now : ℤ) (row : AuthSession) :
    row.goesOn directory now = row.impersonation.filter fun grant =>
      decide (grant.targetIdentityId ≠ "") && decide (now < grant.expiresAt) &&
        directory.findIdentity grant.targetIdentityId := by
  rw [AuthSession.goesOn, AuthSession.impersonationFrom, Option.filter_filter]
  rcases hgrant : row.impersonation with _ | grant
  · rfl
  obtain ⟨hgrantId, -, hreason, -⟩ := row.impersonation_complete grant hgrant
  have hreason : grant.reason ≠ "" := by
    intro heq
    rw [heq] at hreason
    exact absurd hreason (by decide)
  rw [Option.filter_some, Option.filter_some, Impersonation.isOver]
  cases hfound : directory.findIdentity grant.targetIdentityId with
  | false => simp
  | true =>
    have heligible := (Bool.and_eq_true_iff.1 hfound).2
    simp [hgrantId, hreason, heligible]

theorem target_eq (directory : AuthDirectory) (now : ℤ) (row : AuthSession) :
    row.target directory now =
      ((row.goesOn directory now).map fun grant => grant.targetIdentityId).getD row.identityId := by
  rw [goesOn_eq]
  rfl

theorem AuthDirectory.ne_empty_of_findIdentity {identityId : String}
    (h : directory.findIdentity identityId) : identityId ≠ "" := by
  rintro rfl
  rw [AuthDirectory.findIdentity, directory.known_empty] at h
  cases h

/-- The session acts as someone. -/
theorem target_ne_empty (hidentity : directory.findIdentity row.identityId) :
    row.target directory now ≠ "" := by
  rw [target_eq]
  cases hgoesOn : row.goesOn directory now with
  | none => exact AuthDirectory.ne_empty_of_findIdentity hidentity
  | some grant =>
    rw [goesOn_eq, Option.filter_eq_some_iff] at hgoesOn
    have hfound := (Bool.and_eq_true_iff.1 hgoesOn.2).2
    exact AuthDirectory.ne_empty_of_findIdentity hfound

/-- The row that is found by its session, and accepts the actor. -/
theorem validateAuthentication_of_row (auth : AuthSessions) (setCookie : Option String)
    {sessionId : String} {impersonation : Option Impersonation}
    (hrow : auth.sessions.get sessionId = some row) (hsession : sessionId ≠ "")
    (hlive : row.isLive now) (hidentity : directory.findIdentity row.identityId)
    (himpersonation : row.goesOn directory now = impersonation) :
    auth.validateAuthentication directory now (row.resolved sessionId impersonation setCookie).actor
      (row.resolved sessionId impersonation setCookie).authentication := by
  subst himpersonation
  set answer := row.resolved sessionId (row.goesOn directory now) setCookie with hanswer
  have hactor : answer.actor.id = some (row.target directory now) := by rw [target_eq]; rfl
  have hid : truthy answer.authentication.sessionId = some sessionId := truthy_some hsession
  have hidentityId : answer.authentication.identityId = some row.identityId := rfl
  have haccepts : row.accepts directory now answer.actor answer.authentication := by
    rw [AuthSession.accepts, hidentity, hactor, decide_eq_true rfl, Bool.true_and, Bool.and_true]
    cases hgoesOn : row.goesOn directory now with
    | none => simp [hanswer, AuthSession.resolved, hgoesOn]
    | some grant =>
      have hgrant := hgoesOn
      rw [goesOn_eq, Option.filter_eq_some_iff] at hgrant
      simp [hanswer, AuthSession.resolved, hgoesOn, hgrant.1]
  have hvalidated : ∀ (id : String) (found : AuthSession),
      found.isValidated answer.authentication now id =
        (decide (id = sessionId) && decide (some found.identityId = some row.identityId) &&
        found.isLive now) := by
    intro id found
    rw [AuthSession.isValidated, hid, hidentityId]
  have huser : answer.actor.kind = .user ∧ (truthy answer.actor.id).isSome ∧
      (truthy answer.authentication.identityId).isSome := by
    rw [hactor, truthy_some (target_ne_empty hidentity), hidentityId,
      truthy_some (AuthDirectory.ne_empty_of_findIdentity hidentity)]
    exact ⟨rfl, rfl, rfl⟩
  have hmethod : answer.authentication.method = some passwordMethod ∧
      ((truthy answer.authentication.sessionId).isSome ∨
        (truthy answer.authentication.impersonationGrantId).isSome) := by
    rw [hid]
    exact ⟨rfl, .inl rfl⟩
  rw [validateAuthentication, show answer.authentication.state = _ from rfl]
  rw [if_pos huser, if_pos hmethod]
  cases hfind : auth.sessions.entries.find? fun entry =>
      entry.2.isValidated answer.authentication now entry.1 with
  | none =>
    have hnot := List.find?_eq_none.1 hfind _ (OrderedMap.get_eq_some_iff.1 hrow)
    rw [hvalidated, hlive] at hnot
    exact absurd (by simp) hnot
  | some entry =>
    obtain ⟨id, found⟩ := entry
    have hfound := List.find?_some hfind
    rw [hvalidated, Bool.and_eq_true_iff, Bool.and_eq_true_iff] at hfound
    obtain rfl := of_decide_eq_true hfound.1.1
    have hget := OrderedMap.get_eq_some_iff.2 (List.mem_of_find?_eq_some hfind)
    cases hrow.symm.trans hget
    exact haccepts

theorem Kept.isAccepted (h : auth.Kept settings) : auth.IsAccepted := by
  intro sessionId row token now directory setCookie hrow hresolves hidentity
  have hsession : sessionId ≠ "" := by
    rintro rfl
    cases h.named.symm.trans hrow
  have hlive := (Bool.and_eq_true_iff.1 hresolves).2
  refine ⟨validateAuthentication_of_row auth setCookie hrow hsession hlive hidentity rfl, ?_⟩
  intro hgoesOn
  have hcleared : (auth.sessions.set sessionId row.clearImpersonation).get sessionId =
      some row.clearImpersonation := by
    rw [OrderedMap.get_set, if_pos rfl]
  have haccepted := validateAuthentication_of_row
    { auth with sessions := auth.sessions.set sessionId row.clearImpersonation } setCookie hcleared
    hsession hlive hidentity rfl
  rw [hgoesOn]
  exact haccepted

/-! ### What is rejected -/

/-- **Nobody is accepted under a grant** when its session is not live, or the grant has expired. -/
theorem Kept.rejects (h : auth.Kept settings) {grant : ImpersonationGrant}
    (hgrant : grant ∈ auth.grants)
    (hover : ∀ row, auth.sessions.get grant.sessionId = some row → row.isLive now →
      ∀ current ∈ row.impersonation, current.grantId = grant.grantId → current.expiresAt ≤ now) :
    auth.Rejects directory now grant := by
  rintro actor authentication ⟨rfl, hgrantId, hmethod⟩
  refine Bool.eq_false_iff.2 fun haccepted => ?_
  rw [validateAuthentication] at haccepted
  split at haccepted
  · cases of_decide_eq_true haccepted
  · split_ifs at haccepted
    · obtain ⟨entry, hentry, haccepts⟩ := (Option.any_eq_true _ _).1 haccepted
      obtain ⟨sessionId, row⟩ := entry
      have hrow := OrderedMap.get_eq_some_iff.2 (List.mem_of_find?_eq_some hentry)
      have hvalidated := List.find?_some hentry
      dsimp only at hvalidated
      rw [AuthSession.isValidated, Bool.and_eq_true_iff] at hvalidated
      have hlive := hvalidated.2
      obtain ⟨hgranted, htarget⟩ := Bool.and_eq_true_iff.1 haccepts
      obtain ⟨-, hgranted⟩ := Bool.and_eq_true_iff.1 hgranted
      rw [hgrantId, Option.isNone_some, Bool.false_or] at hgranted
      obtain ⟨current, hcurrent, hid⟩ := Option.map_eq_some_iff.1 (of_decide_eq_true hgranted)
      -- the grant of the row is this one
      obtain ⟨started, hstarted, rfl, hstartedId, hstartedTarget⟩ :=
        h.granted sessionId row current hrow hcurrent
      obtain rfl := List.inj_on_of_nodup_map h.once hstarted hgrant (hstartedId.symm.trans hid)
      have hexpired := hover row hrow hlive current hcurrent hid
      have hnot : row.target directory now = row.identityId := by
        rw [AuthSession.target, hcurrent, Option.filter_some, decide_eq_false hexpired.not_gt]
        simp
      have htarget := Option.some.inj (of_decide_eq_true htarget)
      rw [hnot, ← hstartedTarget] at htarget
      exact (row.impersonation_complete current hcurrent).2.1 htarget
    · exact hmethod (of_decide_eq_true (Bool.and_eq_true_iff.1 haccepted).1)

end

end AuthSessions

/-! ### The results -/

open AuthSessions in
/-- **A session confers what its tokens and its grant say, and no more**, in every run.  A token
resolves only if it is the newest one of its session or in its grace; what is resolved from a row is
accepted on it; once a session is revoked or has expired for good, or a grant is stopped, replaced
or has expired, nobody is accepted under the grant any more; and nobody is while the session has not
been used for too long. -/
theorem sessions_confer (settings : SessionSettings) (clock : ℤ) (labels later : List SessionLabel)
    (auth auth' : AuthSessions) (h : Transition.run (step settings) (new clock) labels = some auth)
    (h' : Transition.run (step settings) auth later = some auth') :
    auth.TokensConfer settings ∧ auth.IsAccepted ∧
      ∀ grant ∈ auth.grants, ∀ directory now,
        (auth.IsOver grant auth.clock → auth.clock ≤ now → auth'.Rejects directory now grant) ∧
          (auth.IsIdle grant now → auth.Rejects directory now grant) := by
  have hkept : auth.Kept settings :=
    (Transition.run_eq_some_iff.1 h).invariant (fun _ _ _ hkept _ hstep =>
      hkept.change (change_step hstep)) (new_kept settings clock)
  refine ⟨hkept.tokensConfer, hkept.isAccepted, fun grant hgrant directory now => ⟨?_, ?_⟩⟩
  · intro hover hnow
    have hlater : auth'.Kept settings ∧ grant ∈ auth'.grants ∧ auth'.IsOver grant auth.clock := by
      refine (Transition.run_eq_some_iff.1 h').invariant
        (P := fun s => s.Kept settings ∧ grant ∈ s.grants ∧ s.IsOver grant auth.clock) ?_
        ⟨hkept, hgrant, hover⟩
      rintro s _ t ⟨hs, hmem, hstill⟩ - hstep
      have hchange := change_step hstep
      exact ⟨hs.change hchange, hchange.grants_subset hmem, hstill.change hmem hchange⟩
    refine hlater.1.rejects hlater.2.1 fun row hrow hlive current hcurrent hid => ?_
    obtain ⟨hlive, hidle⟩ := Bool.and_eq_true_iff.1 hlive
    obtain ⟨hrevoked, hexpires⟩ := Bool.and_eq_true_iff.1 hlive
    rcases hlater.2.2 row hrow with hover | hover | hover
    · exact absurd (Option.isNone_iff_eq_none.1 hrevoked) hover
    · exact absurd (of_decide_eq_true hexpires) (hover.trans hnow).not_gt
    · exact (hover current hcurrent hid).trans hnow
  · intro hidle
    refine hkept.rejects hgrant fun row hrow hlive => ?_
    exact absurd (of_decide_eq_true (Bool.and_eq_true_iff.1 hlive).2) (hidle row hrow).not_gt

/-- An idle time of ten seconds. -/
def tenSeconds : SessionSettings :=
  ⟨1000000, 10000, 900000, 30000, 500000, by decide⟩

def adaAndBob : AuthDirectory where
  known identityId := identityId == "ada" || identityId == "bob"
  ensureEligible _ := true
  accessToken _ _ _ := false
  known_empty := by decide

/-- Ada acts as Bob. -/
def adaAsBob : List SessionLabel :=
  [.login "session" "ada" "first" 0,
    .startImpersonation "ada" "session" "bob" "support" "grant" "second" 0 adaAndBob]

def grantOfAda : ImpersonationGrant := ⟨"grant", "session", "bob"⟩

open AuthSessions in
/-- Ada stops acting as Bob, and is no longer accepted as Bob. -/
theorem sessions_confer_stopped :
    ∃ auth auth', Transition.run (step tenSeconds) (new 0)
        (adaAsBob ++ [.stopImpersonation "ada" "session" "grant" "third" 0]) =
          some auth ∧
      Transition.run (step tenSeconds) auth [.tick 1] = some auth' ∧
        auth.TokensConfer tenSeconds ∧ auth.IsAccepted ∧ auth'.Rejects adaAndBob 1 grantOfAda := by
  refine ⟨_, _, rfl, rfl, ?_⟩
  obtain ⟨htokens, haccepted, hrejects⟩ := sessions_confer tenSeconds 0
    (adaAsBob ++ [.stopImpersonation "ada" "session" "grant" "third" 0])
    [.tick 1] _ _ rfl rfl
  refine ⟨htokens, haccepted, (hrejects grantOfAda List.mem_cons_self adaAndBob 1).1 ?_ (by decide)⟩
  intro row hrow
  cases hrow
  exact .inr (.inr (by rintro _ ⟨⟩))

/-- A request comes within the idle time, and is slow. -/
def slowRequest : List SessionLabel :=
  adaAsBob ++ [.tick 5000, .resolveHttp 0 "second" false,
    .select 0 "session", .tick 12000]

open AuthSessions in
/-- **An idle session is revived**: the idle time of the session has run out, and a request that
came before extends it, so that Ada is accepted as Bob again. -/
theorem idle_expiry_revived :
    ¬ ∀ (settings : SessionSettings) (clock : ℤ) (labels later : List SessionLabel)
      (auth auth' : AuthSessions), Transition.run (step settings) (new clock) labels = some auth →
        Transition.run (step settings) auth later = some auth' →
          ∀ grant ∈ auth.grants, ∀ directory now, auth.IsIdle grant auth.clock →
            auth.clock ≤ now → auth'.Rejects directory now grant := by
  intro h
  have hrejects := h tenSeconds 0 slowRequest
    [.settle 0 adaAndBob, .extend 0 "third"] _ _ rfl rfl grantOfAda
    List.mem_cons_self adaAndBob 12000 ?_ (by decide)
  · have hrejected := hrejects (user "bob")
      { state := .authenticated
        identityId := some "ada"
        method := some passwordMethod
        assurance := some .singleFactor
        authenticatedAt := some 0
        sessionId := some "session"
        impersonationGrantId := some "grant"
        credentialId := none
        constraints := none } ⟨rfl, rfl, by decide⟩
    revert hrejected
    decide
  · intro row hrow
    cases hrow
    decide

end Doxa
