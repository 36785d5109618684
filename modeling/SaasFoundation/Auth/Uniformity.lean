import SaasFoundation.Api.Runs
import SaasFoundation.Database.Alone

/-!
# What the answers of the sign-in flows reveal

With `auth.uniformErrors` the answers to a login, a lost password and a lost
confirmation are to be the same whether or not an address has an account.  The
three flows are compared in two databases, each with its own clock and its own
random values.
-/

namespace SaasFoundation

open Relational Transaction Tx

variable {α : Type} {runtime : Runtime} {config : AuthConfig}
  {email password : String}

namespace Moment

/-- The live account with an address, as `findByEmail` returns it. -/
def account (moment : Moment) (email : String) : Option User :=
  if email = "" then none
  else (UserRepository.liveByEmail moment.db email).map UserMapper.toDomain

/-- The address has an account. -/
def known (moment : Moment) (email : String) : Bool :=
  (moment.account email).isSome

/-- The address has an account that waits for its confirmation. -/
def unconfirmed (moment : Moment) (email : String) : Bool :=
  (moment.account email).any fun user =>
    user.status = some StatusId.pendingVerification

/-- `getTokensData` aside, a login draws a session hash and a session id; the
sequence has not given this id to a session of the database. -/
def NewSession (moment : Moment) : Prop :=
  moment.db.sessions.find (moment.draws 1) = none

theorem outcome_findByEmail (moment : Moment)
    (next : Option User → Tx α) :
    moment.outcome (UserRepository.findByEmail email >>= next) =
      moment.outcome (next (moment.account email)) := by
  unfold outcome account UserRepository.findByEmail
  by_cases blank : email = ""
  · rw [if_pos blank, if_pos blank, pure_bind]
  · rw [if_neg blank, if_neg blank, alone_query, WriteSet.apply_empty]

theorem response_findByEmail (moment : Moment)
    (next : Option User → Tx α) :
    moment.response (UserRepository.findByEmail email >>= next) =
      moment.response (next (moment.account email)) :=
  congrArg Prod.fst (moment.outcome_findByEmail next)

theorem response_pure (moment : Moment) (value : α) :
    moment.response (pure value) = .ok value :=
  rfl

end Moment

namespace AuthService

open Moment

/-- The answer of a flow that may send a mail. -/
def mailed (delivers sent : Bool) : Except Failure Unit :=
  if sent && !delivers then .error mailDeliveryUnavailable else .ok ()

/-- The answer tells whether a mail was sent unless the transport takes it. -/
theorem mailed_eq_iff {delivers left right : Bool} :
    mailed delivers left = mailed delivers right ↔
      delivers = true ∨ left = right := by
  cases delivers <;> cases left <;> cases right <;> simp [mailed]

section Mail

variable {delivers : Bool} (fixed : ∀ mail, runtime.deliver mail = delivers)

include fixed

theorem response_mailLink (moment : Moment) {claims : LinkClaims}
    {secret : LinkSecret} :
    moment.response (mailLink runtime email claims secret) =
      mailed delivers true := by
  rw [mailLink, fixed]
  cases delivers
  · rfl
  · rfl

theorem response_forgotPassword (moment : Moment)
    (uniform : config.uniformErrors = true) :
    moment.response (forgotPassword runtime config email) =
      mailed delivers (moment.known email) := by
  rw [forgotPassword, response_findByEmail, known]
  cases moment.account email with
  | none => simp [uniform, response_pure, mailed]
  | some user => simp [response_mailLink fixed]

theorem response_resendConfirmation (moment : Moment) :
    moment.response (resendConfirmation runtime email) =
      mailed delivers (moment.unconfirmed email) := by
  rw [resendConfirmation, response_findByEmail, unconfirmed]
  cases moment.account email with
  | none => simp [response_pure, mailed]
  | some user =>
      by_cases pending : user.status = some StatusId.pendingVerification
      · simp [pending, response_mailLink fixed]
      · simp [pending, response_pure, mailed]

end Mail

theorem account_eq_some {moment : Moment} {user : User}
    (found : moment.account email = some user) :
    ∃ row, UserMapper.toDomain row = user ∧
      moment.db.users.find row.id = some row ∧ row.deletedAt = none := by
  unfold account at found
  split at found
  · exact nomatch found
  · obtain ⟨row, live, same⟩ := Option.map_eq_some_iff.mp found
    have member : row ∈ moment.db.users := List.mem_of_find?_eq_some live
    have holds := List.find?_some live
    simp only [decide_eq_true_eq] at holds
    exact ⟨row, same, Table.find_key member, holds.2⟩

/-- For an active account with the password the login has read, a session is
created. -/
theorem alone_createSession {moment : Moment} {row : UserRow}
    (hash : Nat) (next : Nat → Tx α) (unused : moment.NewSession)
    (stored : moment.db.users.find row.id = some row)
    (live : row.deletedAt = none)
    (active : row.statusId = some StatusId.active) :
    (SessionRepository.create row.id row.password hash >>= next).alone
        moment.clock (fun index => moment.draws (index + 1)) moment.clock
        moment.db ∅ =
      (next (moment.draws 1)).alone moment.clock
        (fun index => moment.draws (index + 2)) moment.clock
        { moment.db with
          sessions := moment.db.sessions.put
            { id := moment.draws 1, userId := row.id, hash
              deletedAt := none } } ∅ := by
  have present : (moment.db.users.find row.id).filter (·.deletedAt.isNone) =
      some row := by
    simp [stored, live]
  have absent : moment.db.sessions.find (moment.draws 1) = none := unused
  simp only [SessionRepository.create, SessionRepository.lockUser,
    SessionRepository.insertSession, alone_transaction, bind_assoc,
    alone_select, WriteSet.apply_empty, present, active]
  rw [if_neg (by simp)]
  simp only [bind_assoc, alone_draw, alone_execute, WriteSet.apply_empty,
    absent, stored]
  rfl

/-- A login is rejected, or it creates a session of an active account. -/
theorem outcome_validateLogin {moment : Moment} (unused : moment.NewSession) :
    (∃ errors, moment.outcome (validateLogin runtime config email password) =
      (.error (invalidLogin config errors), moment.db)) ∨
    ∃ row : UserRow, moment.db.users.find row.id = some row ∧
      row.deletedAt = none ∧ row.statusId = some StatusId.active ∧
      moment.outcome (validateLogin runtime config email password) =
        (.ok { userId := row.id, role := row.roleId
               sessionId := moment.draws 1, hash := moment.draws 0 },
          { moment.db with
            sessions := moment.db.sessions.put
              { id := moment.draws 1, userId := row.id
                hash := moment.draws 0, deletedAt := none } }) := by
  rw [validateLogin, outcome_findByEmail]
  cases found : moment.account email with
  | none => exact .inl ⟨_, rfl⟩
  | some user =>
      dsimp only
      split
      · exact .inl ⟨_, rfl⟩
      split
      · exact .inl ⟨_, rfl⟩
      split
      · exact .inl ⟨_, rfl⟩
      split
      · exact .inl ⟨_, rfl⟩
      · rename_i active
        obtain ⟨row, rfl, stored, live⟩ := account_eq_some found
        have active : row.statusId = some StatusId.active := of_not_not active
        refine .inr ⟨row, stored, live, active, ?_⟩
        rw [outcome, alone_draw]
        exact alone_createSession (moment.draws 0)
          (fun session => pure (Tokens.mk row.id row.roleId session
            (moment.draws 0))) unused stored live active

/-- Whatever is wrong with a login, the uniform error says no more than that
it failed. -/
theorem response_validateLogin {moment : Moment} {failure : Failure}
    (uniform : config.uniformErrors = true) (unused : moment.NewSession)
    (failed : moment.response (validateLogin runtime config email password) =
      .error failure) : failure = invalidLogin config [] := by
  rw [response] at failed
  obtain ⟨errors, rejected⟩ | ⟨row, _, _, _, created⟩ :=
    @outcome_validateLogin runtime config email password moment unused
  · rw [rejected] at failed
    injection failed with same
    rw [← same, invalidLogin, invalidLogin, uniform]
    rfl
  · rw [created] at failed
    exact absurd failed (by simp)

/-- The three flows answer alike in two databases; a login only where it fails
in both. -/
structure Unrevealed (runtime : Runtime) (config : AuthConfig)
    (email password : String) (left right : Moment) : Prop where
  forgotPassword :
    left.response (forgotPassword runtime config email) =
      right.response (forgotPassword runtime config email)
  resendConfirmation :
    left.response (resendConfirmation runtime email) =
      right.response (resendConfirmation runtime email)
  validateLogin : ∀ first second,
    left.response (validateLogin runtime config email password) =
      .error first →
    right.response (validateLogin runtime config email password) =
      .error second → first = second

/-- The databases are the same but for the account with an address: whether it
exists, its status, its provider and its password. -/
structure DifferIn (email : String) (left right : Db) : Prop where
  others : right = { left with users := right.users }
  kept : ∀ row ∈ left.users, row.email ≠ some email → row ∈ right.users
  added : ∀ row ∈ right.users, row.email ≠ some email → row ∈ left.users
  account : ∀ row ∈ left.users, ∀ other ∈ right.users,
    row.email = some email → other.email = some email →
    other = { row with
      statusId := other.statusId
      provider := other.provider
      password := other.password }

/-- Whatever the two databases are, the answers give nothing away exactly when
the transport takes every mail, or when both databases would send the same
mails. -/
theorem unrevealed_iff (runtime : Runtime) (config : AuthConfig)
    (email password : String) (delivers : Bool) (left right : Moment)
    (uniform : config.uniformErrors = true)
    (fixed : ∀ mail, runtime.deliver mail = delivers)
    (leftUnused : left.NewSession) (rightUnused : right.NewSession) :
    Unrevealed runtime config email password left right ↔
      delivers = true ∨ left.known email = right.known email ∧
        left.unconfirmed email = right.unconfirmed email := by
  constructor
  · intro unrevealed
    have forgot := unrevealed.forgotPassword
    have resend := unrevealed.resendConfirmation
    rw [response_forgotPassword fixed _ uniform,
      response_forgotPassword fixed _ uniform, mailed_eq_iff] at forgot
    rw [response_resendConfirmation fixed, response_resendConfirmation fixed,
      mailed_eq_iff] at resend
    by_cases taken : delivers = true
    · exact .inl taken
    · exact .inr ⟨forgot.resolve_left taken, resend.resolve_left taken⟩
  · intro alike
    refine ⟨?_, ?_, fun first second leftFailed rightFailed => ?_⟩
    · rw [response_forgotPassword fixed _ uniform,
        response_forgotPassword fixed _ uniform, mailed_eq_iff]
      exact alike.imp_right And.left
    · rw [response_resendConfirmation fixed, response_resendConfirmation fixed,
        mailed_eq_iff]
      exact alike.imp_right And.right
    · have first := response_validateLogin uniform leftUnused leftFailed
      have second := response_validateLogin uniform rightUnused rightFailed
      rw [first, second]

/-- Account 2, active and with the address `b`. -/
def present : Moment :=
  { db := Sample.world.db, clock := 5, draws := id }

/-- Account 2 is suspended and has another password. -/
def suspended : Moment :=
  { present with
    db :=
      { present.db with
        users := present.db.users.put
          { Sample.user 2 RoleId.user "b" with
            password := some "other"
            statusId := some StatusId.inactive } } }

/-- No account has the address `b`. -/
def absent : Moment :=
  { present with
    db := { present.db with users := present.db.users.drop 2 } }

/-- A transport that takes no mail. -/
def unreachable : Runtime :=
  { Sample.runtime with deliver := fun _ => false }

theorem unrevealed_iff_suspended :
    DifferIn "b" present.db suspended.db ∧
      Unrevealed unreachable ⟨true, true⟩ "b" "b!" present suspended := by
  constructor
  · exact ⟨rfl, by decide, by decide, by decide⟩
  · exact (unrevealed_iff unreachable ⟨true, true⟩ "b" "b!" false present
      suspended rfl (fun _ => rfl) rfl rfl).mpr (.inr ⟨rfl, rfl⟩)

/-- A failing transport tells the account that exists from the one that does
not. -/
theorem mail_reveals_account :
    DifferIn "b" present.db absent.db ∧
      (∀ mail, unreachable.deliver mail = false) ∧
      ¬Unrevealed unreachable ⟨true, true⟩ "b" "b!" present absent := by
  refine ⟨⟨rfl, by decide, by decide, by decide⟩, fun _ => rfl, ?_⟩
  intro unrevealed
  have answered : absent.response
      (forgotPassword unreachable ⟨true, true⟩ "b") = .ok () := rfl
  have failed : present.response
      (forgotPassword unreachable ⟨true, true⟩ "b") =
        .error mailDeliveryUnavailable := rfl
  rw [unrevealed.forgotPassword, answered] at failed
  exact nomatch failed

end AuthService

end SaasFoundation
