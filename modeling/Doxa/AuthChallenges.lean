/-
**Challenges.**

To verify an email address or to reset a password, `PostgresAuth` issues a challenge: a token that
is sent to the address (`auth-postgres/src/postgres-auth.ts`).  Issuing consumes the challenges of
the same identity and purpose that are still open, then inserts the new one; using a token consumes
it, and rolls back if the address has changed since or if what follows fails.  No lock or index ties
the challenges of an identity together, so that two issuing transactions that overlap do not see
each other's challenge.

Calls interleave between statements, as in `Doxa.AccessTokens`; a call is its own transaction.  The
unique index on the digest of a token makes it the key of its row.  What a consumption does after it
has checked the recipient is one statement that may fail.

Main definitions:

* `Doxa.AuthChallenges`, `Doxa.ChallengeLabel`, `Doxa.AuthChallenges.step` — the table, what can
  happen, and what it does;
* `Doxa.AuthChallenges.ConsumedOnce`, `Doxa.AuthChallenges.Recoverable`,
  `Doxa.AuthChallenges.OneOpen` — what challenges promise;
* `Doxa.AuthChallenges.Orderly` — issuing transactions do not overlap.

Main results:

* `Doxa.challenge_superseded` — **in an orderly run a token is consumed at most once, a consumption
  that fails leaves its token open, and an identity has at most one open challenge for a purpose**;
* `Doxa.challenges_not_superseded` — two issuing transactions that overlap leave two open
  challenges.
-/

import Doxa.Lib.ReadCommitted
import Doxa.Lib.Transition
import Mathlib.Data.Int.Notation

set_option relaxedAutoImplicit false
set_option autoImplicit false

namespace Doxa

open ReadCommitted

/-! ### The table and the calls -/

inductive ChallengePurpose
  | emailVerification | passwordReset
deriving DecidableEq

/-- A row of `doxa_auth_challenges`.  Times are in milliseconds. -/
structure Challenge where
  identityId : String
  purpose : ChallengePurpose
  recipientDigest : String
  createdAt : ℤ
  expiresAt : ℤ
  consumedAt : Option ℤ
deriving DecidableEq

/-- What can be asked for, and when. -/
inductive ChallengeRequest
  | issueChallenge (identityId : String) (purpose : ChallengePurpose) (contactEmail token : String)
      (now : ℤ)
  /-- `verifyEmail` or `resetPassword`, by the purpose. -/
  | consume (purpose : ChallengePurpose) (token : String) (now : ℤ)

/-- Where a call is; it goes on with the statement that is named. -/
inductive ChallengePhase
  /-- The `UPDATE` of `#issueChallenge`.  From its snapshot on the call remembers how many
  challenges of the identity and the purpose had been issued then. -/
  | superseding
  | superseded (matched : List String) (seen : ℕ)
  /-- Its `INSERT`. -/
  | inserting (seen : ℕ)
  /-- The `UPDATE` of a consumption. -/
  | consuming
  | consumed (matched : List String)
  /-- `#assertChallengeRecipient`. -/
  | asserting (challenge : Challenge)
  /-- What the challenge is used for. -/
  | updating
  /-- The `COMMIT` of an issuing transaction, and that of a consumption. -/
  | issued (seen : ℕ)
  | used
  | settled

structure ChallengeCall where
  request : ChallengeRequest
  phase : ChallengePhase

/-- The settings: how many seconds a challenge lasts, and the digest of a text. -/
structure ChallengeOptions where
  challengeSeconds : ℤ
  digest : String → String

structure AuthChallenges where
  challenges : Table String Challenge
  calls : OrderedMap ℕ ChallengeCall
  /-- The issuing transactions that have committed, the latest first. -/
  issues : List (String × ChallengePurpose)
  /-- The tokens whose consumption has committed, the latest first. -/
  consumptions : List String

namespace AuthChallenges

/-- Nothing has been issued. -/
def new : AuthChallenges where
  challenges := .empty
  calls := .empty
  issues := []
  consumptions := []

/-- A call goes on to a phase. -/
def await (call : ℕ) (request : ChallengeRequest) (phase : ChallengePhase) (auth : AuthChallenges) :
    AuthChallenges :=
  { auth with calls := auth.calls.set call ⟨request, phase⟩ }

/-- The open challenges of an identity and a purpose. -/
def isOpen (identityId : String) (purpose : ChallengePurpose) (_ : String) (challenge : Challenge) :
    Bool :=
  challenge.identityId = identityId && challenge.purpose = purpose && challenge.consumedAt.isNone

/-- The challenge that a token can be used for. -/
def isConsumable (purpose : ChallengePurpose) (token : String) (now : ℤ) (key : String)
    (challenge : Challenge) : Bool :=
  key = token && challenge.purpose = purpose && challenge.consumedAt.isNone &&
    now < challenge.expiresAt

def consume (now : ℤ) (challenge : Challenge) : Challenge :=
  { challenge with consumedAt := some now }

/-- How many challenges of an identity and a purpose have been issued. -/
def issuedCount (identityId : String) (purpose : ChallengePurpose) (auth : AuthChallenges) : ℕ :=
  auth.issues.count (identityId, purpose)

/-- Where a call begins. -/
def begin (request : ChallengeRequest) : ChallengePhase :=
  match request with
  | .issueChallenge _ _ _ _ _ => .superseding
  | .consume _ _ _ => .consuming

/-- The second half of an `UPDATE`; the call then goes on to a phase. -/
def update (call : ℕ) (request : ChallengeRequest) (matched : List String)
    (p : String → Challenge → Bool) (now : ℤ) (next : ChallengePhase) (auth : AuthChallenges) :
    Option AuthChallenges :=
  (auth.challenges.update call matched p (consume now)).map fun challenges =>
    { auth with challenges := challenges }.await call request next

/-- What a consumption makes of the rows its `UPDATE` returns; without any it fails. -/
def returning (token : String) (hits : List String) (auth : AuthChallenges) : ChallengePhase :=
  match hits, auth.challenges.row token with
  | _ :: _, some challenge => .asserting challenge
  | _, _ => .settled

/-- `ROLLBACK`. -/
def fail (call : ℕ) (request : ChallengeRequest) (auth : AuthChallenges) : AuthChallenges :=
  { auth with challenges := auth.challenges.rollback call }.await call request
    .settled

/-- The next statement of a call. -/
def proceed (options : ChallengeOptions) (call : ℕ) (request : ChallengeRequest)
    (phase : ChallengePhase) (auth : AuthChallenges) : Option AuthChallenges :=
  match request, phase with
  | .issueChallenge identityId purpose _ _ _, .superseding =>
    some (auth.await call request (.superseded
      (auth.challenges.matching call (isOpen identityId purpose))
      (auth.issuedCount identityId purpose)))
  | .issueChallenge identityId purpose _ _ now,
      .superseded matched seen =>
      auth.update call request matched (isOpen identityId purpose) now
        (.inserting seen)
  | .issueChallenge identityId purpose contactEmail token now,
      .inserting seen =>
      if (auth.challenges.get token).isSome then none
      else
        let challenge : Challenge :=
          { identityId := identityId
            purpose := purpose
            recipientDigest := options.digest contactEmail
            createdAt := now
            expiresAt := now + options.challengeSeconds * 1000
            consumedAt := none }
        some ({ auth with challenges := auth.challenges.insert call token challenge }.await call
          request (.issued seen))
  | .issueChallenge identityId purpose _ _ _, .issued _ =>
    some ({ auth with
      challenges := auth.challenges.commit call
      issues := (identityId, purpose) :: auth.issues }.await call request .settled)
  | .consume purpose token now, .consuming =>
    some (auth.await call request (.consumed
      (auth.challenges.matching call (isConsumable purpose token now))))
  | .consume purpose token now, .consumed matched =>
    auth.update call request matched (isConsumable purpose token now) now
      (auth.returning token (auth.challenges.hits call matched (isConsumable purpose token now)))
  | .consume _ _ _, .updating =>
    some (auth.await call request .used)
  | .consume _ token _, .used =>
    some ({ auth with
      challenges := auth.challenges.commit call
      consumptions := token :: auth.consumptions }.await call request .settled)
  | _, _ => none

end AuthChallenges

/-- What can happen. -/
inductive ChallengeLabel
  | call (call : ℕ) (request : ChallengeRequest)
  | proceed (call : ℕ)
  /-- `#assertChallengeRecipient` has found the contact of the identity. -/
  | recipient (call : ℕ) (contactEmail : Option String)
  | fail (call : ℕ)

/-- What a label does, in the states in which it can happen. -/
def AuthChallenges.step (options : ChallengeOptions) (auth : AuthChallenges) :
    ChallengeLabel → Option AuthChallenges
  | .call call request =>
    if (auth.calls.get call).isNone then some (auth.await call request (begin request)) else none
  | .proceed call =>
    (auth.calls.get call).bind fun current =>
      auth.proceed options call current.request current.phase
  | .recipient call contactEmail =>
    (auth.calls.get call).bind fun current =>
      match current.phase with
      | .asserting challenge =>
        let recipientDigest := (contactEmail.filter (· ≠ "")).map options.digest
        if recipientDigest = some challenge.recipientDigest then
          some (auth.await call current.request .updating)
        else some (auth.fail call current.request)
      | _ => none
  | .fail call =>
    (auth.calls.get call).map fun current => auth.fail call current.request

open AuthChallenges

/-! ### What challenges promise -/

namespace AuthChallenges

/-- Every token is consumed at most once. -/
def ConsumedOnce (auth : AuthChallenges) : Prop := auth.consumptions.Nodup

/-- The call has consumed the token and can still fail. -/
def Consuming (call : ℕ) (token : String) (auth : AuthChallenges) : Prop :=
  ∃ purpose now phase,
    auth.calls.get call = some ⟨.consume purpose token now, phase⟩ ∧
    ((∃ challenge, phase = .asserting challenge) ∨ phase = .updating ∨
      phase = .used)

/-- **A consumption that fails leaves its token open**, as it found it. -/
def Recoverable (auth : AuthChallenges) : Prop :=
  ∀ call token request, auth.Consuming call token →
    ∃ challenge, auth.challenges.row token = some challenge ∧ challenge.consumedAt = none ∧
      (auth.fail call request).challenges.row token = some challenge

/-- The challenge is an open one of the identity and the purpose. -/
def IsOpen (identityId : String) (purpose : ChallengePurpose) (token : String)
    (auth : AuthChallenges) : Prop :=
  ∃ challenge, auth.challenges.row token = some challenge ∧ challenge.identityId = identityId ∧
    challenge.purpose = purpose ∧ challenge.consumedAt = none

/-- At any time, an identity has at most one challenge for a purpose that can still be consumed. -/
def OneConsumable (auth : AuthChallenges) : Prop :=
  ∀ (now : ℤ) (identityId : String) (purpose : ChallengePurpose) (token token' : String)
    (challenge challenge' : Challenge), auth.challenges.row token = some challenge →
      auth.challenges.row token' = some challenge' →
        isOpen identityId purpose token challenge && isConsumable purpose token now token challenge
          →
          isOpen identityId purpose token' challenge' &&
            isConsumable purpose token' now token' challenge' → token = token'

/-- An identity has at most one open challenge for a purpose, unexpired or not. -/
def OneOpen (auth : AuthChallenges) : Prop :=
  ∀ identityId purpose token token', auth.IsOpen identityId purpose token →
    auth.IsOpen identityId purpose token' → token = token'

/-- **Orderly steps**: no other challenge of the identity and the purpose was committed since the
issuing transaction that commits took the snapshot of its `UPDATE`. -/
def Orderly (auth : AuthChallenges) : ChallengeLabel → Prop
  | .proceed call => ∀ current, auth.calls.get call = some current →
      match current.request, current.phase with
      | .issueChallenge identityId purpose _ _ _, .issued seen =>
        auth.issuedCount identityId purpose = seen
      | _, _ => True
  | _ => True

/-! ### What every step keeps -/

variable {now : ℤ} {contactEmail token : String} {challenge : Challenge}
  {purpose : ChallengePurpose} {options : ChallengeOptions}

/-- What is known of a call. -/
def Informed (call : ℕ) (current : ChallengeCall) (auth : AuthChallenges) : Prop :=
  match current.request, current.phase with
  | .issueChallenge identityId purpose _ _ _,
      .superseded matched seen =>
      seen ≤ auth.issuedCount identityId purpose ∧ (auth.issuedCount identityId purpose = seen →
        ∀ token, auth.IsOpen identityId purpose token → token ∈ matched)
  | .issueChallenge identityId purpose _ _ _, .inserting seen
  | .issueChallenge identityId purpose _ _ _, .issued seen =>
    seen ≤ auth.issuedCount identityId purpose ∧ (auth.issuedCount identityId purpose = seen →
      ∀ token, auth.IsOpen identityId purpose token →
        ∃ challenge, auth.challenges.held token = some (call, challenge))
  | .consume _ token _, .asserting _
  | .consume _ token _, .updating
  | .consume _ token _, .used =>
    ∃ challenge held, auth.challenges.row token = some challenge ∧ challenge.consumedAt = none ∧
      auth.challenges.held token = some (call, held)
  | _, _ => True

/-- The transaction of a call may hold rows. -/
def Holds : ChallengePhase → Prop
  | .inserting _ | .asserting _ | .updating
  | .issued _ | .used => True
  | _ => False

/-- What is known of every state. -/
structure Kept (auth : AuthChallenges) : Prop where
  /-- What is not committed is the consumption of a challenge, or a challenge being issued. -/
  held_known : ∀ token call challenge, auth.challenges.held token = some (call, challenge) →
    (∃ old, auth.challenges.row token = some old ∧ challenge.consumedAt ≠ none) ∨
    (auth.challenges.row token = none ∧ ∃ contactEmail now seen, auth.calls.get call =
      some ⟨.issueChallenge challenge.identityId challenge.purpose contactEmail
        token
        now, .issued seen⟩)
  holding : ∀ token call challenge, auth.challenges.held token = some (call, challenge) →
    ∃ current, auth.calls.get call = some current ∧ Holds current.phase
  consumed : ∀ token ∈ auth.consumptions, ∃ challenge, auth.challenges.row token = some challenge ∧
    challenge.consumedAt ≠ none
  consumedOnce : auth.ConsumedOnce
  informed : ∀ call current, auth.calls.get call = some current → auth.Informed call current

variable {auth auth' : AuthChallenges} {call : ℕ} {request : ChallengeRequest}

theorem get_await (phase : ChallengePhase) (auth : AuthChallenges) (j : ℕ) :
    (auth.await call request phase).calls.get j =
      if j = call then some ⟨request, phase⟩ else auth.calls.get j :=
  OrderedMap.get_set _ _ _ _

/-- **What happens elsewhere**: the rows a call holds stay as they are, and an open challenge has
been open before or was issued. -/
structure Elsewhere (call : ℕ) (auth auth' : AuthChallenges) : Prop where
  held : ∀ token challenge, auth.challenges.held token = some (call, challenge) →
    auth'.challenges.held token = some (call, challenge) ∧
      auth'.challenges.row token = auth.challenges.row token
  issued : ∀ identityId purpose, auth.issuedCount identityId purpose ≤
    auth'.issuedCount identityId purpose
  opened : ∀ identityId purpose token, auth'.IsOpen identityId purpose token →
    auth.IsOpen identityId purpose token ∨
      auth.issuedCount identityId purpose < auth'.issuedCount identityId purpose

theorem Informed.elsewhere {current : ChallengeCall} (h : auth.Informed call current)
    (he : Elsewhere call auth auth') : auth'.Informed call current := by
  -- as long as nothing else is issued, what is open has been open before
  have hbefore : ∀ {identityId purpose seen}, seen ≤ auth.issuedCount identityId purpose →
      auth'.issuedCount identityId purpose = seen →
        auth.issuedCount identityId purpose = seen ∧
          ∀ token, auth'.IsOpen identityId purpose token → auth.IsOpen identityId purpose token :=
            by
    intro identityId purpose seen hle heq
    have hmono := he.issued identityId purpose
    have hsame : auth.issuedCount identityId purpose = seen := by omega
    refine ⟨hsame, fun token htoken => (he.opened identityId purpose token htoken).resolve_right ?_⟩
    omega
  obtain ⟨request, phase⟩ := current
  cases request with
  | issueChallenge identityId purpose contactEmail token now =>
    cases phase with
    | superseded matched seen =>
      obtain ⟨hle, hmatched⟩ := h
      refine ⟨Nat.le_trans hle (he.issued identityId purpose), fun heq token htoken => ?_⟩
      obtain ⟨hsame, hopen⟩ := hbefore hle heq
      exact hmatched hsame token (hopen token htoken)
    | inserting seen =>
      obtain ⟨hle, hheld⟩ := h
      refine ⟨Nat.le_trans hle (he.issued identityId purpose), fun heq token htoken => ?_⟩
      obtain ⟨hsame, hopen⟩ := hbefore hle heq
      obtain ⟨challenge, hchallenge⟩ := hheld hsame token (hopen token htoken)
      exact ⟨challenge, (he.held token challenge hchallenge).1⟩
    | issued seen =>
      obtain ⟨hle, hheld⟩ := h
      refine ⟨Nat.le_trans hle (he.issued identityId purpose), fun heq token htoken => ?_⟩
      obtain ⟨hsame, hopen⟩ := hbefore hle heq
      obtain ⟨challenge, hchallenge⟩ := hheld hsame token (hopen token htoken)
      exact ⟨challenge, (he.held token challenge hchallenge).1⟩
    | _ => trivial
  | consume purpose token now =>
    have hconsuming : (∃ challenge held, auth.challenges.row token = some challenge ∧
        challenge.consumedAt = none ∧ auth.challenges.held token = some (call, held)) →
        ∃ challenge held, auth'.challenges.row token = some challenge ∧
          challenge.consumedAt = none ∧ auth'.challenges.held token = some (call, held) := by
      rintro ⟨challenge, held, hrow, hnot, hheld⟩
      obtain ⟨hheld', hrow'⟩ := he.held token held hheld
      exact ⟨challenge, held, hrow'.trans hrow, hnot, hheld'⟩
    cases phase with
    | asserting challenge => exact hconsuming h
    | updating => exact hconsuming h
    | used => exact hconsuming h
    | _ => trivial

/-- A call that is not at a later phase holds nothing. -/
theorem Kept.free (h : auth.Kept) {current : ChallengeCall}
    (hcurrent : auth.calls.get call = some current) (hphase : ¬ Holds current.phase)
    (token : String) (challenge : Challenge) :
    auth.challenges.held token ≠ some (call, challenge) := by
  intro hheld
  obtain ⟨holder, hholder, hholds⟩ := h.holding token call challenge hheld
  cases hcurrent.symm.trans hholder
  exact hphase hholds

/-- **A call goes on** without touching the table. -/
theorem Kept.await (h : auth.Kept) {phase : ChallengePhase}
    (hheld : ∀ token challenge, auth.challenges.held token = some (call, challenge) →
      Holds phase ∧ ∃ current, auth.calls.get call = some current ∧
        ∀ seen, current.phase ≠ .issued seen)
    (hinformed : auth.Informed call ⟨request, phase⟩) : (auth.await call request phase).Kept := by
  constructor
  case held_known =>
    intro token holder challenge htoken
    rcases h.held_known token holder challenge htoken with hold | ⟨hnone, contact, now, seen, hcall⟩
    · exact .inl hold
    · refine .inr ⟨hnone, contact, now, seen, ?_⟩
      rw [get_await, if_neg, hcall]
      rintro rfl
      obtain ⟨-, current, hcurrent, hphase⟩ := hheld token challenge htoken
      cases hcall.symm.trans hcurrent
      exact hphase seen rfl
  case holding =>
    intro token holder challenge htoken
    by_cases hholder : holder = call
    · subst hholder
      exact ⟨_, by rw [get_await, if_pos rfl], (hheld token challenge htoken).1⟩
    · obtain ⟨current, hcurrent, hholds⟩ := h.holding token holder challenge htoken
      exact ⟨current, by rw [get_await, if_neg hholder, hcurrent], hholds⟩
  case consumed => exact h.consumed
  case consumedOnce => exact h.consumedOnce
  case informed =>
    intro j current hj
    rw [get_await] at hj
    split_ifs at hj with hcall
    · cases hj
      subst hcall
      exact hinformed
    · exact h.informed j current hj

/-- **An `UPDATE`** consumes what it hits. -/
theorem Kept.update (h : auth.Kept) {matched : List String} {p : String → Challenge → Bool}
    {next : ChallengePhase} (hupdate : auth.update call request matched p now next = some auth')
    (hfree : ∀ token challenge, auth.challenges.held token ≠ some (call, challenge))
    (hnext : ∀ token ∈ auth.challenges.hits call matched p, Holds next)
    (hinformed : (∀ token challenge, token ∈ auth.challenges.hits call matched p →
      auth.challenges.row token = some challenge →
      auth'.challenges.held token = some (call, consume now challenge)) →
      (∀ token, auth'.challenges.row token = auth.challenges.row token) →
      (∀ identityId purpose, auth'.issuedCount identityId purpose =
      auth.issuedCount identityId purpose) →
      auth'.Informed call ⟨request, next⟩) : auth'.Kept := by
  obtain ⟨challenges, hchallenges, rfl⟩ := Option.map_eq_some_iff.1 hupdate
  have hrow : ∀ token, challenges.row token = auth.challenges.row token :=
    Table.row_update hchallenges
  have hheld := Table.held_update hchallenges hfree
  have hold : ∀ {token held}, auth.challenges.held token = some held →
      challenges.held token = some held := by
    intro token held htoken
    rcases hheld token with ⟨-, hnone, -⟩ | ⟨-, hsame⟩
    · cases hnone.symm.trans htoken
    · exact hsame.trans htoken
  have hnew : ∀ {token holder challenge}, challenges.held token = some (holder, challenge) →
      auth.challenges.held token = some (holder, challenge) ∨
        holder = call ∧ token ∈ auth.challenges.hits call matched p ∧ ∃ old,
          auth.challenges.row token = some old ∧ challenge = consume now old := by
    intro token holder challenge htoken
    rcases hheld token with ⟨hhit, -, old, holdRow, -, hheld'⟩ | ⟨-, hsame⟩
    · cases hheld'.symm.trans htoken
      exact .inr ⟨rfl, hhit, old, holdRow, rfl⟩
    · exact .inl (hsame.symm.trans htoken)
  constructor
  case held_known =>
    intro token holder challenge htoken
    rcases hnew htoken with htoken' | ⟨-, -, old, holdRow, rfl⟩
    · rcases h.held_known token holder challenge htoken' with
        ⟨old, holdRow, hconsumed⟩ | ⟨hnone, contact, now, seen, hcall⟩
      · exact .inl ⟨old, (hrow token).trans holdRow, hconsumed⟩
      · refine .inr ⟨(hrow token).trans hnone, contact, now, seen, ?_⟩
        rw [get_await, if_neg]
        · exact hcall
        · rintro rfl
          exact hfree token challenge htoken'
    · exact .inl ⟨old, (hrow token).trans holdRow, by simp [consume]⟩
  case holding =>
    intro token holder challenge htoken
    by_cases hholder : holder = call
    · subst hholder
      rcases hnew htoken with htoken' | ⟨-, hhit, -⟩
      · exact absurd htoken' (hfree token challenge)
      · exact ⟨_, by rw [get_await, if_pos rfl], hnext token hhit⟩
    · rcases hnew htoken with htoken' | ⟨heq, -⟩
      · obtain ⟨current, hcurrent, hholds⟩ := h.holding token holder challenge htoken'
        refine ⟨current, ?_, hholds⟩
        rw [get_await, if_neg hholder]
        exact hcurrent
      · exact absurd heq hholder
  case consumed =>
    intro token htoken
    obtain ⟨challenge, hchallenge, hconsumed⟩ := h.consumed token htoken
    exact ⟨challenge, (hrow token).trans hchallenge, hconsumed⟩
  case consumedOnce => exact h.consumedOnce
  case informed =>
    intro j current hj
    rw [get_await] at hj
    split_ifs at hj with hcall
    · cases hj
      subst hcall
      refine hinformed ?_ hrow fun _ _ => rfl
      intro token challenge hhit hchallenge
      rcases hheld token with ⟨-, -, old, holdRow, -, hheld'⟩ | ⟨hmiss, -⟩
      · cases hchallenge.symm.trans holdRow
        exact hheld'
      · exact absurd hhit hmiss
    · refine (h.informed j current hj).elsewhere ⟨fun token challenge htoken =>
        ⟨hold htoken, hrow token⟩, fun _ _ => Nat.le_refl _, ?_⟩
      rintro identityId purpose token ⟨challenge, htoken, hrest⟩
      exact .inl ⟨challenge, (hrow token).symm.trans htoken, hrest⟩

/-- **An `INSERT`** of a new challenge. -/
theorem Kept.insert (h : auth.Kept) (challenge : Challenge) {seen : ℕ}
    (hcurrent : auth.calls.get call = some ⟨.issueChallenge challenge.identityId
      challenge.purpose contactEmail token now, .inserting seen⟩)
    (hfresh : auth.challenges.get token = none) :
    ({ auth with challenges := auth.challenges.insert call token challenge }.await call
      (.issueChallenge challenge.identityId challenge.purpose contactEmail token
        now)
      (.issued seen)).Kept := by
  have hrow : ∀ j, (auth.challenges.insert call token challenge).row j = auth.challenges.row j :=
    Table.row_insert hfresh
  have hold : ∀ {j held}, auth.challenges.held j = some held →
      (auth.challenges.insert call token challenge).held j = some held := by
    intro j held hj
    rw [Table.held_insert, if_neg, hj]
    rintro rfl
    exact Table.get_ne_none_of_held hj hfresh
  have hnew : ∀ {j holder held},
      (auth.challenges.insert call token challenge).held j = some (holder, held) →
        j = token ∧ holder = call ∧ held = challenge ∨
          auth.challenges.held j = some (holder, held) := by
    intro j holder held hj
    rw [Table.held_insert] at hj
    split_ifs at hj with heq
    · cases hj
      exact .inl ⟨heq, rfl, rfl⟩
    · exact .inr hj
  have hrowToken : auth.challenges.row token = none := by
    cases htoken : auth.challenges.row token with
    | none => rfl
    | some challenge => exact absurd hfresh (Table.get_ne_none_of_row htoken)
  constructor
  case held_known =>
    intro j holder held hj
    rcases hnew hj with ⟨rfl, rfl, rfl⟩ | hj'
    · refine .inr ⟨(hrow j).trans hrowToken, contactEmail, now, seen, ?_⟩
      rw [get_await, if_pos rfl]
    · rcases h.held_known j holder held hj' with
        ⟨old, holdRow, hconsumed⟩ | ⟨hnone, contact, now, seen, hcall⟩
      · exact .inl ⟨old, (hrow j).trans holdRow, hconsumed⟩
      · refine .inr ⟨(hrow j).trans hnone, contact, now, seen, ?_⟩
        rw [get_await, if_neg]
        · exact hcall
        · rintro rfl
          have hphase := congrArg ChallengeCall.phase (Option.some.inj (hcurrent.symm.trans hcall))
          cases hphase
  case holding =>
    intro j holder held hj
    by_cases hholder : holder = call
    · exact ⟨⟨_, .issued seen⟩, by rw [get_await, if_pos hholder], trivial⟩
    · obtain ⟨current, hcurrent', hholds⟩ := h.holding j holder held
        ((hnew hj).resolve_left fun heq => hholder heq.2.1)
      refine ⟨current, ?_, hholds⟩
      rw [get_await, if_neg hholder]
      exact hcurrent'
  case consumed =>
    intro j hj
    obtain ⟨challenge, hchallenge, hconsumed⟩ := h.consumed j hj
    exact ⟨challenge, (hrow j).trans hchallenge, hconsumed⟩
  case consumedOnce => exact h.consumedOnce
  case informed =>
    have helsewhere : ∀ j, Elsewhere j auth
        ({ auth with challenges := auth.challenges.insert call token challenge }.await call
          (.issueChallenge challenge.identityId challenge.purpose contactEmail token
            now) (.issued seen)) := by
      refine fun j => ⟨fun key held hkey => ⟨hold hkey, hrow key⟩, fun _ _ => Nat.le_refl _, ?_⟩
      rintro identityId purpose key ⟨challenge, hkey, hrest⟩
      exact .inl ⟨challenge, (hrow key).symm.trans hkey, hrest⟩
    intro j current hj
    rw [get_await] at hj
    split_ifs at hj with hcall
    · cases hj
      subst hcall
      -- what is known does not depend on whether the row has been inserted yet
      have hinformed := (h.informed j _ hcurrent).elsewhere (helsewhere j)
      exact hinformed
    · exact (h.informed j current hj).elsewhere (helsewhere j)

/-- **The end of a transaction**: what others hold stays as it is. -/
theorem Kept.settle (h : auth.Kept) {challenges : Table String Challenge}
    {issues : List (String × ChallengePurpose)} {consumptions : List String}
    (hheld : ∀ token holder challenge, challenges.held token = some (holder, challenge) ↔
      auth.challenges.held token = some (holder, challenge) ∧ holder ≠ call)
    (hsame : ∀ token, (∀ challenge, auth.challenges.held token ≠ some (call, challenge)) →
      challenges.row token = auth.challenges.row token)
    (hissued : ∀ identityId purpose,
      auth.issues.count (identityId, purpose) ≤ issues.count (identityId, purpose))
    (hopened : ∀ token challenge, challenges.row token = some challenge →
      challenge.consumedAt = none → auth.challenges.row token = some challenge ∨
        auth.issues.count (challenge.identityId, challenge.purpose) <
          issues.count (challenge.identityId, challenge.purpose))
    (hconsumed : ∀ token ∈ consumptions, ∃ challenge, challenges.row token = some challenge ∧
      challenge.consumedAt ≠ none)
    (hnodup : consumptions.Nodup) :
    ({ auth with challenges := challenges, issues := issues,
                 consumptions := consumptions }.await call request .settled).Kept :=
                   by
  have hother : ∀ {token holder challenge},
      auth.challenges.held token = some (holder, challenge) → holder ≠ call →
        challenges.row token = auth.challenges.row token := by
    intro token holder challenge htoken hne
    refine hsame token fun challenge' htoken' => hne ?_
    exact (Prod.mk.inj (Option.some.inj (htoken.symm.trans htoken'))).1
  constructor
  case held_known =>
    intro token holder challenge htoken
    obtain ⟨htoken', hne⟩ := (hheld token holder challenge).1 htoken
    have hrow : challenges.row token = auth.challenges.row token := hother htoken' hne
    rcases h.held_known token holder challenge htoken' with
      ⟨old, holdRow, hconsumed⟩ | ⟨hnone, contact, now, seen, hcall⟩
    · exact .inl ⟨old, hrow.trans holdRow, hconsumed⟩
    · refine .inr ⟨hrow.trans hnone, contact, now, seen, ?_⟩
      rw [get_await, if_neg hne]
      exact hcall
  case holding =>
    intro token holder challenge htoken
    obtain ⟨htoken', hne⟩ := (hheld token holder challenge).1 htoken
    obtain ⟨current, hcurrent, hholds⟩ := h.holding token holder challenge htoken'
    refine ⟨current, ?_, hholds⟩
    rw [get_await, if_neg hne]
    exact hcurrent
  case consumed => exact hconsumed
  case consumedOnce => exact hnodup
  case informed =>
    intro j current hj
    rw [get_await] at hj
    split_ifs at hj with hcall
    · cases hj
      cases request <;> trivial
    · refine (h.informed j current hj).elsewhere ⟨?_, hissued, ?_⟩
      · exact fun token challenge htoken =>
          ⟨(hheld token j challenge).2 ⟨htoken, hcall⟩, hother htoken hcall⟩
      · rintro identityId purpose token ⟨challenge, htoken, rfl, rfl, hnot⟩
        exact (hopened token challenge htoken hnot).imp_left fun hbefore =>
          ⟨challenge, hbefore, rfl, rfl, hnot⟩

/-- `ROLLBACK`. -/
theorem Kept.fail (h : auth.Kept) : (auth.fail call request).Kept := by
  refine h.settle (fun _ _ _ => Table.held_rollback) (fun token _ => Table.row_rollback token)
    (fun _ _ => Nat.le_refl _) ?_ ?_ h.consumedOnce
  · intro token challenge htoken _
    exact .inl ((Table.row_rollback token).symm.trans htoken)
  · intro token htoken
    obtain ⟨challenge, hchallenge, hconsumed⟩ := h.consumed token htoken
    exact ⟨challenge, (Table.row_rollback token).trans hchallenge, hconsumed⟩

/-- What a commit makes of a row. -/
theorem row_commit_cases (h : (auth.challenges.commit call).row token = some challenge) :
    (auth.challenges.row token = some challenge ∧
      ∀ held, auth.challenges.held token ≠ some (call, held)) ∨
    auth.challenges.held token = some (call, challenge) := by
  by_cases hheld : ∃ held, auth.challenges.held token = some (call, held)
  · obtain ⟨held, hheld⟩ := hheld
    cases (Table.row_commit_of_held hheld).symm.trans h
    exact .inr hheld
  · push Not at hheld
    exact .inl ⟨(Table.row_commit_of_not_held hheld).symm.trans h, hheld⟩

/-- What has been consumed stays so. -/
theorem Kept.consumed_commit (h : auth.Kept) (hrow : auth.challenges.row token = some challenge)
    (hconsumed : challenge.consumedAt ≠ none) :
    ∃ challenge', (auth.challenges.commit call).row token = some challenge' ∧
      challenge'.consumedAt ≠ none := by
  by_cases hheld : ∃ held, auth.challenges.held token = some (call, held)
  · obtain ⟨held, hheld⟩ := hheld
    rcases h.held_known token call held hheld with ⟨-, -, hconsumed'⟩ | ⟨hnone, -⟩
    · exact ⟨held, Table.row_commit_of_held hheld, hconsumed'⟩
    · cases hnone.symm.trans hrow
  · push Not at hheld
    exact ⟨challenge, (Table.row_commit_of_not_held hheld).trans hrow, hconsumed⟩

/-- The `COMMIT` of an issuing transaction. -/
theorem Kept.issue (h : auth.Kept) {identityId : String} {seen : ℕ}
    (hcurrent : auth.calls.get call = some
      ⟨.issueChallenge identityId purpose contactEmail token now,
      .issued seen⟩) :
    ({ auth with challenges := auth.challenges.commit call
                 issues := (identityId, purpose) :: auth.issues }.await call request
      .settled).Kept := by
  refine h.settle (fun _ _ _ => Table.held_commit) (fun _ => Table.row_commit_of_not_held) ?_ ?_ ?_
    h.consumedOnce
  · exact fun _ _ => List.count_le_count_cons
  · intro key challenge hkey hnot
    rcases row_commit_cases hkey with ⟨hbefore, -⟩ | hheld
    · exact .inl hbefore
    · rcases h.held_known key call challenge hheld with ⟨-, -, hconsumed⟩ | ⟨-, _, _, _, hcall⟩
      · exact absurd hnot hconsumed
      · have hrequest := congrArg ChallengeCall.request (Option.some.inj (hcurrent.symm.trans
          hcall))
        injection hrequest with hidentity hpurpose
        right
        rw [hidentity, hpurpose, List.count_cons_self]
        exact Nat.lt_succ_self _
  · intro key hkey
    obtain ⟨challenge, hchallenge, hconsumed⟩ := h.consumed key hkey
    exact h.consumed_commit hchallenge hconsumed

/-- The `COMMIT` of a consumption. -/
theorem Kept.use (h : auth.Kept)
    (hcurrent : auth.calls.get call = some ⟨.consume purpose token now, .used⟩) :
    ({ auth with challenges := auth.challenges.commit call
                 consumptions := token :: auth.consumptions }.await call request
      .settled).Kept := by
  obtain ⟨challenge, held, hrow, hopen, hheld⟩ := h.informed call _ hcurrent
  refine h.settle (fun _ _ _ => Table.held_commit) (fun _ => Table.row_commit_of_not_held)
    (fun _ _ => Nat.le_refl _) ?_ ?_ ?_
  · intro key challenge hkey hnot
    rcases row_commit_cases hkey with ⟨hbefore, -⟩ | hheld'
    · exact .inl hbefore
    · rcases h.held_known key call challenge hheld' with ⟨-, -, hconsumed⟩ | ⟨-, _, _, _, hcall⟩
      · exact absurd hnot hconsumed
      · cases congrArg ChallengeCall.phase (Option.some.inj (hcurrent.symm.trans hcall))
  · intro key hkey
    rcases List.mem_cons.1 hkey with rfl | hkey
    · rcases h.held_known key call held hheld with ⟨-, -, hconsumed⟩ | ⟨hnone, -⟩
      · exact ⟨held, Table.row_commit_of_held hheld, hconsumed⟩
      · cases hnone.symm.trans hrow
    · obtain ⟨challenge, hchallenge, hconsumed⟩ := h.consumed key hkey
      exact h.consumed_commit hchallenge hconsumed
  · refine List.nodup_cons.2 ⟨fun hmem => ?_, h.consumedOnce⟩
    -- what has been consumed before is not open any more
    obtain ⟨challenge', hchallenge', hconsumed⟩ := h.consumed token hmem
    cases hrow.symm.trans hchallenge'
    exact hconsumed hopen

theorem returning_cons {first : String} {rest : List String}
    (hrow : auth.challenges.row token = some challenge) :
    auth.returning token (first :: rest) = .asserting challenge := by
  unfold returning
  rw [hrow]

/-- The next statement of a call. -/
theorem Kept.proceed (h : auth.Kept) {phase : ChallengePhase}
    (hcurrent : auth.calls.get call = some ⟨request, phase⟩)
    (hproceed : auth.proceed options call request phase = some auth') : auth'.Kept := by
  have hinformed := h.informed call _ hcurrent
  cases request with
  | issueChallenge identityId purpose contactEmail token now =>
    cases phase with
    | superseding =>
      have hfree := h.free hcurrent (by simp [Holds])
      cases hproceed
      refine h.await (fun token challenge htoken => absurd htoken (hfree token challenge))
        ⟨Nat.le_refl _, ?_⟩
      rintro - token ⟨challenge, hrow, hidentity, hpurpose, hopen⟩
      refine Table.mem_matching.2 ⟨challenge, ?_, ?_⟩
      · rw [Table.sees_of_not_held (hfree token), hrow]
      · simp [isOpen, hidentity, hpurpose, hopen]
    | superseded matched seen =>
      have hfree := h.free hcurrent (by simp [Holds])
      refine h.update hproceed hfree (fun _ _ => trivial) ?_
      intro hhits hrow hcount
      refine ⟨(hcount identityId purpose).symm ▸ hinformed.1, fun heq token htoken => ?_⟩
      obtain ⟨challenge, htokenRow, hidentity, hpurpose, hopen⟩ := htoken
      rw [hrow] at htokenRow
      rw [hcount] at heq
      have hmatched := hinformed.2 heq token ⟨challenge, htokenRow, hidentity, hpurpose, hopen⟩
      refine ⟨_, hhits token challenge (Table.mem_hits.2 ⟨hmatched, challenge, ?_, ?_⟩)
        htokenRow⟩
      · rw [Table.sees_of_not_held (hfree token), htokenRow]
      · simp [isOpen, hidentity, hpurpose, hopen]
    | inserting seen =>
      rw [proceed] at hproceed
      split_ifs at hproceed with hfresh
      cases hproceed
      exact h.insert ⟨identityId, purpose, _, now, _, none⟩ hcurrent
        (Option.not_isSome_iff_eq_none.1 hfresh)
    | issued seen =>
      cases hproceed
      exact h.issue hcurrent
    | _ => cases hproceed
  | consume purpose token now =>
    cases phase with
    | consuming =>
      have hfree := h.free hcurrent (by simp [Holds])
      cases hproceed
      exact h.await (fun token challenge htoken => absurd htoken (hfree token challenge))
        trivial
    | consumed matched =>
      have hfree := h.free hcurrent (by simp [Holds])
      -- the only row that can be hit is that of the token
      have hhit : ∀ key ∈ auth.challenges.hits call matched (isConsumable purpose token now),
          key = token ∧ ∃ challenge, auth.challenges.row token = some challenge ∧
            challenge.consumedAt = none := by
        intro key hkey
        obtain ⟨-, challenge, hsees, hp⟩ := Table.mem_hits.1 hkey
        rw [Table.sees_of_not_held (hfree key)] at hsees
        simp only [isConsumable, Bool.and_eq_true, decide_eq_true_eq,
          Option.isNone_iff_eq_none] at hp
        obtain ⟨⟨⟨rfl, -⟩, hopen⟩, -⟩ := hp
        exact ⟨rfl, challenge, hsees, hopen⟩
      refine h.update hproceed hfree ?_ ?_
      · intro key hkey
        obtain ⟨rfl, challenge, hrow, -⟩ := hhit key hkey
        cases hlist : auth.challenges.hits call matched (isConsumable purpose key now) with
        | nil =>
          rw [hlist] at hkey
          cases hkey
        | cons first rest =>
          rw [returning_cons hrow]
          trivial
      · intro hhits hrow _
        cases hlist : auth.challenges.hits call matched (isConsumable purpose token now) with
        | nil => trivial
        | cons first rest =>
          have hmem : first ∈ auth.challenges.hits call matched
              (isConsumable purpose token now) := hlist ▸ List.mem_cons_self
          obtain ⟨rfl, challenge, htokenRow, hopen⟩ := hhit first hmem
          rw [returning_cons htokenRow]
          exact ⟨challenge, _, (hrow first).trans htokenRow, hopen,
            hhits first challenge hmem htokenRow⟩
    | updating =>
      cases hproceed
      refine h.await (fun _ _ _ => ⟨trivial, _, hcurrent, by simp⟩) hinformed
    | used =>
      cases hproceed
      exact h.use hcurrent
    | _ => cases hproceed

/-- **Every step keeps it.** -/
theorem Kept.step (h : auth.Kept) {label : ChallengeLabel}
    (hstep : auth.step options label = some auth') : auth'.Kept := by
  cases label with
  | call call request =>
    rw [AuthChallenges.step] at hstep
    split_ifs at hstep with hnone
    cases hstep
    refine h.await ?_ (by cases request <;> trivial)
    intro token challenge hheld
    obtain ⟨current, hcurrent, -⟩ := h.holding token call challenge hheld
    rw [hcurrent] at hnone
    cases hnone
  | proceed call =>
    obtain ⟨⟨request, phase⟩, hcurrent, hproceed⟩ := Option.bind_eq_some_iff.1 hstep
    exact h.proceed hcurrent hproceed
  | recipient call contactEmail =>
    obtain ⟨⟨request, phase⟩, hcurrent, hrecipient⟩ := Option.bind_eq_some_iff.1 hstep
    cases phase with
    | asserting challenge =>
      dsimp only at hrecipient
      split_ifs at hrecipient
      · cases hrecipient
        refine h.await (fun _ _ _ => ⟨trivial, _, hcurrent, by simp⟩) ?_
        have hinformed := h.informed call _ hcurrent
        cases request with
        | issueChallenge identityId purpose contactEmail token now => trivial
        | consume purpose token now => exact hinformed
      · cases hrecipient
        exact h.fail
    | _ => cases hrecipient
  | fail call =>
    obtain ⟨current, -, rfl⟩ := Option.map_eq_some_iff.1 hstep
    exact h.fail

theorem new_kept : new.Kept := by
  constructor
  · intro token call challenge htoken
    cases htoken
  · intro token call challenge htoken
    cases htoken
  · intro token htoken
    cases htoken
  · exact List.nodup_nil
  · intro call current hcurrent
    cases hcurrent

/-- A consumption that fails finds its token open again. -/
theorem Kept.recoverable (h : auth.Kept) : auth.Recoverable := by
  rintro call token request ⟨purpose, now, phase, hcurrent, hphase⟩
  have hinformed := h.informed call _ hcurrent
  have hopen : ∃ challenge held, auth.challenges.row token = some challenge ∧
      challenge.consumedAt = none ∧ auth.challenges.held token = some (call, held) := by
    rcases hphase with ⟨challenge, rfl⟩ | rfl | rfl <;> exact hinformed
  obtain ⟨challenge, -, hrow, hnot, -⟩ := hopen
  exact ⟨challenge, hrow, hnot, (Table.row_rollback token).trans hrow⟩

/-! ### What orderly steps keep -/

/-- Unless an issuing transaction commits, what is open has been open before. -/
theorem Kept.isOpen_of_proceed (h : auth.Kept) {phase : ChallengePhase}
    (hcurrent : auth.calls.get call = some ⟨request, phase⟩)
    (hproceed : auth.proceed options call request phase = some auth')
    (hissued : ∀ seen, phase ≠ .issued seen) {identityId : String}
    (hopen : auth'.IsOpen identityId purpose token) : auth.IsOpen identityId purpose token := by
  obtain ⟨challenge, hrow, hrest⟩ := hopen
  have hupdate : ∀ {matched p now next}, auth.update call request matched p now next = some auth' →
      auth.IsOpen identityId purpose token := by
    intro matched p now next hupdate
    obtain ⟨challenges, hchallenges, rfl⟩ := Option.map_eq_some_iff.1 hupdate
    exact ⟨challenge, (Table.row_update hchallenges token).symm.trans hrow, hrest⟩
  cases request with
  | issueChallenge identityId' purpose' contactEmail token' now =>
    cases phase with
    | superseding =>
      cases hproceed
      exact ⟨challenge, hrow, hrest⟩
    | superseded matched seen => exact hupdate hproceed
    | inserting seen =>
      rw [AuthChallenges.proceed] at hproceed
      split_ifs at hproceed with hfresh
      cases hproceed
      refine ⟨challenge, (Table.row_insert ?_ token).symm.trans hrow, hrest⟩
      exact Option.not_isSome_iff_eq_none.1 hfresh
    | issued seen => exact absurd rfl (hissued seen)
    | _ => cases hproceed
  | consume purpose' token' now =>
    cases phase with
    | consuming =>
      cases hproceed
      exact ⟨challenge, hrow, hrest⟩
    | consumed matched => exact hupdate hproceed
    | updating =>
      cases hproceed
      exact ⟨challenge, hrow, hrest⟩
    | used =>
      cases hproceed
      rcases row_commit_cases hrow with ⟨hbefore, -⟩ | hheld
      · exact ⟨challenge, hbefore, hrest⟩
      · rcases h.held_known token call challenge hheld with ⟨-, -, hconsumed⟩ | ⟨-, _, _, _,
          hcall⟩
        · exact absurd hrest.2.2 hconsumed
        · cases congrArg ChallengeCall.phase (Option.some.inj (hcurrent.symm.trans hcall))
    | _ => cases hproceed

theorem OneOpen.of_open (h : auth.OneOpen)
    (hopen : ∀ {identityId purpose token}, auth'.IsOpen identityId purpose token →
      auth.IsOpen identityId purpose token) : auth'.OneOpen :=
  fun identityId purpose token token' htoken htoken' =>
    h identityId purpose token token' (hopen htoken) (hopen htoken')

/-- **The commit of an issuing transaction** that was alone: what was open is consumed, and what is
new is open. -/
theorem OneOpen.issue (h : auth.OneOpen) (hkept : auth.Kept) {identityId : String} {seen : ℕ}
    (hcurrent : auth.calls.get call = some
      ⟨.issueChallenge identityId purpose contactEmail token now,
      .issued seen⟩) (halone : auth.issuedCount identityId purpose = seen) :
    ({ auth with challenges := auth.challenges.commit call
                 issues := (identityId, purpose) :: auth.issues }.await call request
      .settled).OneOpen := by
  obtain ⟨-, hsuperseded⟩ := hkept.informed call _ hcurrent
  -- what is open is the new challenge, or it was open before and is not one of this identity
  have hcases : ∀ {identityId' purpose' key},
      ({ auth with challenges := auth.challenges.commit call
                   issues := (identityId, purpose) :: auth.issues }.await call request
        .settled).IsOpen identityId' purpose' key →
      (auth.IsOpen identityId' purpose' key ∧ ¬ (identityId' = identityId ∧ purpose' = purpose)) ∨
        key = token ∧ identityId' = identityId ∧ purpose' = purpose := by
    rintro identityId' purpose' key ⟨challenge, hkey, rfl, rfl, hopen⟩
    rcases row_commit_cases hkey with ⟨hbefore, hfree⟩ | hheld
    · refine .inl ⟨⟨challenge, hbefore, rfl, rfl, hopen⟩, ?_⟩
      rintro ⟨hidentity, hpurpose⟩
      obtain ⟨held, hheld⟩ := hsuperseded halone key ⟨challenge, hbefore, hidentity, hpurpose,
        hopen⟩
      exact hfree held hheld
    · rcases hkept.held_known key call challenge hheld with ⟨-, -, hconsumed⟩ | ⟨-, _, _, _, hcall⟩
      · exact absurd hopen hconsumed
      · have hrequest := congrArg ChallengeCall.request (Option.some.inj (hcurrent.symm.trans
          hcall))
        injection hrequest with hidentity hpurpose _ htoken
        exact .inr ⟨htoken.symm, hidentity.symm, hpurpose.symm⟩
  intro identityId' purpose' key key' hkey hkey'
  rcases hcases hkey with ⟨hbefore, hother⟩ | ⟨rfl, hsame⟩
  · rcases hcases hkey' with ⟨hbefore', -⟩ | ⟨-, hsame'⟩
    · exact h identityId' purpose' key key' hbefore hbefore'
    · exact absurd hsame' hother
  · rcases hcases hkey' with ⟨-, hother'⟩ | ⟨rfl, -⟩
    · exact absurd hsame hother'
    · rfl

/-- What can be consumed is open. -/
theorem OneOpen.oneConsumable (h : auth.OneOpen) : auth.OneConsumable := by
  intro now identityId purpose token token' challenge challenge' hrow hrow' hp hp'
  simp only [isOpen, Bool.and_eq_true, decide_eq_true_eq, Option.isNone_iff_eq_none] at hp hp'
  exact h identityId purpose token token' ⟨challenge, hrow, hp.1.1.1, hp.1.1.2, hp.1.2⟩
    ⟨challenge', hrow', hp'.1.1.1, hp'.1.1.2, hp'.1.2⟩

theorem OneOpen.fail (h : auth.OneOpen) : (auth.fail call request).OneOpen :=
  h.of_open fun ⟨challenge, hrow, hrest⟩ =>
    ⟨challenge, (Table.row_rollback _).symm.trans hrow, hrest⟩

/-- **Every orderly step** leaves at most one challenge open. -/
theorem OneOpen.step (h : auth.OneOpen) (hkept : auth.Kept) {label : ChallengeLabel}
    (horderly : auth.Orderly label) (hstep : auth.step options label = some auth') :
    auth'.OneOpen := by
  cases label with
  | call call request =>
    rw [AuthChallenges.step] at hstep
    split_ifs at hstep
    cases hstep
    exact h
  | proceed call =>
    obtain ⟨⟨request, phase⟩, hcurrent, hproceed⟩ := Option.bind_eq_some_iff.1 hstep
    by_cases hissued : ∃ seen, phase = .issued seen
    · obtain ⟨seen, rfl⟩ := hissued
      cases request with
      | issueChallenge identityId purpose contactEmail token now =>
        cases hproceed
        exact h.issue hkept hcurrent (horderly _ hcurrent)
      | consume => cases hproceed
    · push Not at hissued
      exact h.of_open (hkept.isOpen_of_proceed hcurrent hproceed hissued)
  | recipient call contactEmail =>
    obtain ⟨⟨request, phase⟩, hcurrent, hrecipient⟩ := Option.bind_eq_some_iff.1 hstep
    cases phase with
    | asserting challenge =>
      dsimp only at hrecipient
      split_ifs at hrecipient
      · cases hrecipient
        exact h
      · cases hrecipient
        exact h.fail
    | _ => cases hrecipient
  | fail call =>
    obtain ⟨current, -, rfl⟩ := Option.map_eq_some_iff.1 hstep
    exact h.fail

end AuthChallenges

/-- **Challenges are consumed once, recoverable and superseded**, in every run whose steps are all
orderly. -/
theorem challenge_superseded (options : ChallengeOptions) (labels : List ChallengeLabel)
    (auth : AuthChallenges)
    (h : Transition.Run (step options) Orderly .new
      labels
      auth) : auth.ConsumedOnce ∧ auth.Recoverable ∧ auth.OneConsumable := by
  have hkept : auth.Kept ∧ auth.OneOpen := by
    refine h.invariant (P := fun auth => auth.Kept ∧ auth.OneOpen) ?_ ⟨new_kept, ?_⟩
    · exact fun auth label auth' hkept horderly hstep =>
        ⟨hkept.1.step hstep, hkept.2.step hkept.1 horderly hstep⟩
    · rintro identityId purpose token token' ⟨challenge, hrow, -⟩
      cases hrow
  exact ⟨hkept.1.consumedOnce, hkept.1.recoverable, hkept.2.oneConsumable⟩

/-- Two challenges that follow each other, and the consumption of the second one. -/
def issueTwiceAndConsume : List ChallengeLabel :=
  [.call 0 (.issueChallenge "ada" .passwordReset
      "ada@example.com" "first" 0),
    .proceed 0, .proceed 0, .proceed 0,
    .proceed 0,
    .call 1 (.issueChallenge "ada" .passwordReset
      "ada@example.com" "second" 1),
    .proceed 1, .proceed 1, .proceed 1,
    .proceed 1,
    .call 2 (.consume .passwordReset "second" 2),
    .proceed 2, .proceed 2,
    .recipient 2 (some "ada@example.com"), .proceed 2,
    .proceed 2]

/-- An hour, and a digest that is the text itself. -/
def plainChallengeOptions : ChallengeOptions where
  challengeSeconds := 3600
  digest := id

/-- The second challenge supersedes the first one and is consumed. -/
theorem challenge_superseded_twice :
    ∃ auth, Transition.run (step plainChallengeOptions) .new
      issueTwiceAndConsume = some auth ∧ auth.consumptions = ["second"] ∧
        auth.ConsumedOnce ∧ auth.Recoverable ∧ auth.OneConsumable := by
  refine ⟨_, rfl, rfl, challenge_superseded plainChallengeOptions issueTwiceAndConsume _ ?_⟩
  refine .cons trivial rfl (.cons ?_ rfl (.cons ?_ rfl (.cons ?_ rfl (.cons ?_ rfl ?_))))
  · rintro _ ⟨⟩
    trivial
  · rintro _ ⟨⟩
    trivial
  · rintro _ ⟨⟩
    trivial
  · -- nothing else has been issued
    rintro _ ⟨⟩
    rfl
  refine .cons trivial rfl (.cons ?_ rfl (.cons ?_ rfl (.cons ?_ rfl (.cons ?_ rfl ?_))))
  · rintro _ ⟨⟩
    trivial
  · rintro _ ⟨⟩
    trivial
  · rintro _ ⟨⟩
    trivial
  · rintro _ ⟨⟩
    rfl
  refine .cons trivial rfl (.cons ?_ rfl (.cons ?_ rfl (.cons trivial rfl ?_)))
  · rintro _ ⟨⟩
    trivial
  · rintro _ ⟨⟩
    trivial
  refine .cons ?_ rfl (.cons ?_ rfl (.nil _))
  · rintro _ ⟨⟩
    trivial
  · rintro _ ⟨⟩
    trivial

/-- **Two open challenges**: neither of two issuing transactions that overlap sees what the other
one inserts. -/
theorem challenges_not_superseded :
    ¬ ∀ (options : ChallengeOptions) (labels : List ChallengeLabel) (auth : AuthChallenges),
      Transition.run (step options) .new labels = some auth →
        auth.ConsumedOnce ∧ auth.Recoverable ∧ auth.OneConsumable := by
  intro h
  obtain ⟨-, -, hone⟩ := h plainChallengeOptions
    [.call 0 (.issueChallenge "ada" .passwordReset
        "ada@example.com" "first" 0),
      .call 1 (.issueChallenge "ada" .passwordReset
        "ada@example.com" "second" 0),
      .proceed 0, .proceed 1, .proceed 0,
      .proceed 0, .proceed 0, .proceed 1,
      .proceed 1, .proceed 1] _ rfl
  have hsame := hone 1 "ada" .passwordReset "first" "second" _ _ rfl rfl rfl rfl
  revert hsame
  decide

end Doxa
