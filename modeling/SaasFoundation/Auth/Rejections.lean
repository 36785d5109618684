import SaasFoundation.Auth.Links
import SaasFoundation.Auth.Uniformity
import SaasFoundation.Transaction.Faults
import SaasFoundation.Users.Alone

/-!
# What a rejected registration or profile update leaves behind

Both commit the account first, and then sign and mail a link.  A request that
breaks down before its commit leaves nothing; one that breaks down afterwards
leaves the whole change.
-/

namespace SaasFoundation

open Relational Transaction Tx

namespace AuthService

/-- The two requests. -/
inductive AccountRequest where
  | register (dto : AuthRegisterLoginDto)
  | update (payload : JwtPayload) (dto : AuthUpdateDto)
  deriving DecidableEq, Repr

namespace AccountRequest

variable {runtime : Runtime} {config : AuthConfig} {moment : Moment}

def program (runtime : Runtime) (config : AuthConfig) :
    AccountRequest → Tx Unit
  | .register dto => AuthService.register runtime config dto
  | .update payload dto => do
      let _ ← AuthService.update runtime payload dto

/-- What `register` asks of `UsersService.create`. -/
def registration (config : AuthConfig) (dto : AuthRegisterLoginDto) :
    UpdateUserDto :=
  { email := some (some dto.email)
    password := some dto.password
    firstName := some (some dto.firstName)
    lastName := some (some dto.lastName)
    role := some RoleId.user
    status := some (if config.emailVerificationRequired then
      StatusId.pendingVerification else StatusId.active) }

/-- The transaction of the request. -/
def account (runtime : Runtime) (config : AuthConfig) :
    AccountRequest → Tx User
  | .register dto => UsersService.create runtime (registration config dto)
  | .update payload dto =>
      UsersService.updateAtomically runtime payload.id
        (prepareUpdate runtime payload dto)

/-- The recipient of the link that is mailed afterwards. -/
def recipient (config : AuthConfig) (user : User) :
    AccountRequest → Option String
  | .register dto =>
      if config.emailVerificationRequired then some dto.email else none
  | .update _ dto => requestedEmail dto user

/-- What is left of the request after its transaction. -/
def notify (runtime : Runtime) (config : AuthConfig) (user : User)
    (request : AccountRequest) : Tx Unit :=
  match request.recipient config user with
  | none => pure ()
  | some email =>
      match request with
      | .register _ =>
          mailLink runtime email (confirmationClaims user)
            (confirmationSecret user)
      | .update _ _ => mailNewEmail runtime user email

theorem program_eq (request : AccountRequest) :
    request.program runtime config =
      request.account runtime config >>= fun user =>
        request.notify runtime config user := by
  cases request with
  | register dto =>
      refine bind_congr fun user => ?_
      unfold notify recipient
      split
      · simp
      · simp
  | update payload dto =>
      dsimp only [program, account, AuthService.update]
      rw [bind_assoc]
      refine bind_congr fun user => ?_
      simp only [notify, recipient]
      cases requestedEmail dto user with
      | none => rfl
      | some email => simp

theorem idle_mailLink {recipient : String} {claims : LinkClaims}
    {secret : LinkSecret} :
    (mailLink runtime recipient claims secret).Idle := by
  unfold mailLink
  split
  · trivial
  · trivial

theorem idle_notify (request : AccountRequest) (user : User) :
    (request.notify runtime config user).Idle := by
  unfold notify
  split
  · trivial
  · cases request with
    | register => exact idle_mailLink
    | update => exact idle_mailLink

theorem inside_prepareUpdate {payload : JwtPayload} {dto : AuthUpdateDto}
    {current : User} : (prepareUpdate runtime payload dto current).Inside := by
  have password : (checkOldPassword runtime dto current).Inside := by
    unfold checkOldPassword
    split
    · trivial
    · split
      · trivial
      · split
        · trivial
        · split <;> trivial
  have email {asked : Option String} : (checkNewEmail asked current).Inside := by
    unfold checkNewEmail
    split
    · trivial
    · refine inside_findByEmail.bind fun found => ?_
      split
      · trivial
      · split <;> trivial
  exact password.bind fun _ => email.bind fun _ => trivial

theorem atomic_account (request : AccountRequest) :
    (request.account runtime config).Atomic := by
  cases request with
  | register dto =>
      refine inside_prepareChanges.atomic fun changes => ?_
      exact Program.Atomic.transaction (Program.Inside.bind (.draw _)
        fun _ => Program.Inside.bind (.run _) fun _ => trivial)
  | update payload dto =>
      exact atomic_updateAtomically fun _ => inside_prepareUpdate

/-- The transaction has made its change, and returned `user`. -/
def Committed (runtime : Runtime) (moment : Moment) (user : User)
    (after : Db) : AccountRequest → Prop
  | .register dto => ∃ row,
      moment.db.users.find row.id = none ∧ row.email = some dto.email ∧
        user = UserMapper.toDomain row ∧
        after = { moment.db with users := moment.db.users.put row }
  | .update payload dto => ∃ row stored,
      UserRepository.liveUser moment.db payload.id = some row ∧
        Hashed runtime dto.password stored ∧
        user = UserMapper.toDomain
          (UserRepository.savedRow (dto.changes stored) moment.clock row) ∧
        after = UserRepository.mutated moment.db moment.clock row
          { changes := dto.changes stored
            revokeSessions := (given dto.password).map fun _ =>
              some payload.sessionId }

theorem quiet_prepareUpdate_eq {payload : JwtPayload} {dto : AuthUpdateDto}
    {current : User} :
    (prepareUpdate runtime payload dto current).Quiet fun mutation =>
      mutation =
        { changes := profileRequest dto
          revokeSessions := (given dto.password).map fun _ =>
            some payload.sessionId } := by
  refine quiet_checkOldPassword.bind fun _ _ => ?_
  exact quiet_checkNewEmail.bind fun _ _ => rfl

theorem failsWith_prepareUpdate {payload : JwtPayload} {dto : AuthUpdateDto}
    {current : User} :
    (prepareUpdate runtime payload dto current).FailsWith
      UsersService.Unprocessable := by
  have password : (checkOldPassword runtime dto current).FailsWith
      UsersService.Unprocessable := by
    unfold checkOldPassword
    split
    · trivial
    · split
      · rfl
      · split
        · rfl
        · split
          · rfl
          · trivial
  have email {asked : Option String} : (checkNewEmail asked current).FailsWith
      UsersService.Unprocessable := by
    unfold checkNewEmail
    split
    · trivial
    · refine UsersService.failsWith_findByEmail.bind fun found => ?_
      split
      · trivial
      · split
        · rfl
        · trivial
  exact password.bind fun _ => email.bind fun _ => trivial

theorem serially_account (request : AccountRequest) :
    (request.account runtime config).serially moment.clock
      (fun user later => request.Committed runtime moment user later.db)
      (fun _ db => db = moment.db) moment.stand := by
  cases request with
  | register dto =>
      unfold account UsersService.create
      rw [Program.serially_bind]
      refine Program.serially_quiet UsersService.quiet_prepareChanges
        UsersService.failsWith_prepareChanges (fun _ _ => rfl) ?_
      rintro changes later ⟨stored, hashed, rfl⟩ still
      have seen : later.view = moment.db := by
        rw [still.view, Moment.view_stand]
      have kept : later.db = moment.db := still.db
      refine UserRepository.serially_create (fun _ => kept) ?_
      intro id final row allowed same
      rw [seen] at allowed same
      refine ⟨row, ?_, rfl, rfl, same⟩
      unfold UserRepository.insertRefusal at allowed
      split at allowed
      · cases allowed
      · rename_i absent
        simpa using absent
  | update payload dto =>
      refine UsersService.serially_updateAtomically
        (fun _ => quiet_prepareUpdate_eq) (fun _ => failsWith_prepareUpdate)
        (fun _ => rfl) rfl (fun _ _ => rfl) (fun _ _ _ _ _ _ _ _ => rfl) ?_
      rintro row mutation changes later found rfl ⟨stored, hashed, rfl⟩ _ same _
      exact ⟨row, stored, found, hashed, rfl, same⟩

theorem committed_of_outcome {request : AccountRequest} {user : User}
    {after : Db}
    (answered : moment.outcome (request.account runtime config) =
      (.ok user, after)) :
    request.Committed runtime moment user after := by
  have follows : (request.account runtime config).serially moment.clock _ _
      moment.stand := request.serially_account
  have change := (Moment.outcome_iff fun outcome : Except Failure User × Db =>
    ∀ user, outcome.1 = .ok user →
      request.Committed runtime moment user outcome.2).mpr
    (Program.serially_mono follows
      (fun returned later committed user same => by
        injection same with same
        exact same ▸ committed)
      (fun failure db _ user same => nomatch same))
  rw [answered] at change
  exact change user rfl

theorem serially_notify {clock : Nat} {request : AccountRequest} {user : User}
    {post : Unit → Stand Db Writes → Prop} {failed : Failure → Db → Prop}
    {stand : Stand Db Writes} (returned : post () stand)
    (undelivered : ∀ email mail, request.recipient config user = some email →
      mail.recipient = email → runtime.deliver mail = false →
      failed mailDeliveryUnavailable stand.db) :
    (request.notify runtime config user).serially clock post failed stand := by
  have mailed {email : String} {claims : LinkClaims} {secret : LinkSecret}
      (asked : request.recipient config user = some email) :
      (mailLink runtime email claims secret).serially clock post failed
        stand := by
    unfold mailLink
    split
    · exact returned
    · rename_i refused
      exact undelivered email _ asked rfl (by simpa using refused)
  unfold notify
  split
  · exact returned
  · rename_i email asked
    cases request with
    | register => exact mailed asked
    | update => exact mailed asked

/-- A failure comes from before the commit, or from the transport that has
refused the mail that was due. -/
def Explained (runtime : Runtime) (config : AuthConfig) (moment : Moment)
    (request : AccountRequest) : Except Failure Unit × Db → Prop
  | (.ok (), _) => True
  | (.error failure, after) =>
      after = moment.db ∨
        failure = mailDeliveryUnavailable ∧ ∃ user email mail,
          request.Committed runtime moment user after ∧
            request.recipient config user = some email ∧
            mail.recipient = email ∧ runtime.deliver mail = false

theorem explained (request : AccountRequest) :
    request.Explained runtime config moment
      (moment.outcome (request.program runtime config)) := by
  rw [Moment.outcome_iff (request.Explained runtime config moment),
    request.program_eq, Program.serially_bind]
  refine Program.serially_mono request.serially_account
    (fun user later committed => ?_) fun failure db same => .inl same
  refine serially_notify trivial ?_
  intro email mail asked recipient refused
  exact .inr ⟨rfl, user, email, mail, committed, asked, recipient, refused⟩

end AccountRequest

/-- A request that breaks down leaves the database as it was, or it has
committed and leaves the whole change.  On its own it fails after the commit
only when the transport refuses the mail that is due. -/
theorem rejected_request (runtime : Runtime) (config : AuthConfig)
    (moment : Moment) (request : AccountRequest) :
    (∀ error final commits,
      (request.program runtime config).Ends moment.clock moment.stand
        (.error error) final commits →
      commits = 0 ∧ final.db = moment.db ∨
        commits = 1 ∧ ∃ user, request.Committed runtime moment user final.db) ∧
    request.Explained runtime config moment
      (moment.outcome (request.program runtime config)) := by
  refine ⟨fun error final commits ends => ?_, request.explained⟩
  rw [request.program_eq] at ends
  rcases ends.of_atomic request.atomic_account
      (fun user => request.idle_notify user) with
    ⟨none, same, _⟩ | ⟨one, user, committed⟩
  · exact .inl ⟨none, same⟩
  · exact .inr ⟨one, user, AccountRequest.committed_of_outcome committed⟩

/-- A visitor registers while the transport is down: the request is rejected,
the account stays. -/
theorem rejected_registration_stays :
    let moment := { present with draws := fun _ => 9 }
    let request := AccountRequest.register
      { email := "d", password := "secret", firstName := "D", lastName := "D" }
    ¬∀ failure after,
      moment.outcome (request.program unreachable ⟨true, true⟩) =
        (.error failure, after) →
      after.users = moment.db.users ∧ after.sessions = moment.db.sessions := by
  intro moment request unchanged
  have same := (unchanged mailDeliveryUnavailable _ rfl).1
  have stored := congrArg (fun table : Table UserRow => table.rows.length) same
  exact absurd stored (by decide)

end AuthService

end SaasFoundation
