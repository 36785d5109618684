import SaasFoundation.Accounting.Credits
import SaasFoundation.Accounts.Service
import SaasFoundation.Accounts.RolesController
import SaasFoundation.Transaction.System

/-!
# Requests served by the API

The calls the controllers make into the services, with the arguments they
pass, and the systems of requests running against one database.
-/

namespace SaasFoundation

open Relational Transaction

inductive WorkspaceCall where
  | list (userId : Nat)
  | create (userId : Nat) (name : String)
  | details (id userId : Nat)
  | rename (id userId : Nat) (name : String)
  | invite (id userId : Nat) (body : WorkspacesService.InviteDto)
  | accept (userId token : Nat)
  | revoke (id userId invitationId : Nat)
  | changeMember (id userId memberId : Nat) (role : Option WorkspaceRole)
  deriving DecidableEq

inductive AccountCall where
  | save (type : AccountType) (dto : AccountsService.AdminAccountDto)
      (actor : Nat) (id : Option Nat)
  | remove (type : AccountType) (id actor : Nat)
  deriving DecidableEq

/-- The write routes of `AdminRolesController`. -/
inductive RoleCall where
  | create (body : AdminRoleDto)
  | update (id : Nat) (body : AdminRoleDto)
  | remove (id : Nat)
  deriving DecidableEq

inductive AuthCall where
  | validateLogin (email password : String)
  | register (dto : AuthRegisterLoginDto)
  | resendConfirmation (email : String)
  | forgotPassword (email : String)
  | confirmEmail (hash : String)
  | confirmNewEmail (hash : String)
  | resetPassword (hash password : String)
  | update (payload : JwtPayload) (dto : AuthUpdateDto)
  | refreshToken (sessionId hash : Nat)
  | logout (sessionId : Nat)
  | softDelete (payload : JwtPayload)
  | validate (payload : JwtPayload)
  deriving DecidableEq

/-- Handlers behind `AuthGuard('jwt')` that change the caller's account or,
with `PermissionGuard`, other accounts. -/
inductive GuardedCall where
  | save (type : AccountType) (dto : AccountsService.AdminAccountDto)
      (id : Option Nat)
  | remove (type : AccountType) (id : Nat)
  | update (dto : AuthUpdateDto)
  | softDelete
  deriving DecidableEq

/-- Write routes of the admin controllers. -/
inductive AdminCall where
  | save (type : AccountType) (dto : AccountsService.AdminAccountDto)
      (id : Option Nat)
  | remove (type : AccountType) (id : Nat)
  | role (call : RoleCall)
  | adjust (body : CreditAdjustmentDto)
  deriving DecidableEq

/-- A call into a service, or a whole HTTP request: `guarded` is the guards
with the payload of a verified token and then the call, `admin` a request to
an admin controller from the moment its guards let it pass. -/
inductive Request where
  | workspace (call : WorkspaceCall)
  | account (call : AccountCall)
  | auth (call : AuthCall)
  | adjust (body : CreditAdjustmentDto) (actor : Nat)
  | role (call : RoleCall) (actor : Nat)
  | guarded (payload : JwtPayload) (call : GuardedCall)
  | admin (identity : Identity) (call : AdminCall)
  deriving DecidableEq

inductive Reply where
  | none
  | workspaces (list : List WorkspacesService.Workspace)
  | workspace (workspace : WorkspacesService.Workspace)
  | details (details : WorkspacesService.WorkspaceDetails)
  | token (token : Nat)
  | workspaceId (id : Nat)
  | account (account : AccountsService.AccountResponse)
  | tokens (tokens : Tokens)
  | user (user : User)
  | identity (identity : Identity)
  | adjustment (result : AdjustmentResult)
  | role (role : RoleRow)

/-- What the services are configured with, and what callers can do.
`guessable` are the identifiers callers can name without having seen them;
`randomUUID` never returns one of them. -/
structure Environment where
  runtime : Runtime
  config : AuthConfig
  guessable : Nat → Bool

/-- Pass a result of a service on as a reply. -/
def Tx.reply {α : Type} (service : Tx α) (reply : α → Reply) : Tx Reply := do
  let result ← service
  pure (reply result)

def WorkspaceCall.program (runtime : Runtime) : WorkspaceCall → Tx Reply
  | .list userId => (WorkspacesService.list userId).reply .workspaces
  | .create userId name =>
      (WorkspacesService.create userId name).reply .workspace
  | .details id userId => (WorkspacesService.details id userId).reply .details
  | .rename id userId name =>
      (WorkspacesService.rename id userId name).reply fun _ => .none
  | .invite id userId body =>
      (WorkspacesService.invite runtime id userId body).reply .token
  | .accept userId token =>
      (WorkspacesService.accept runtime userId token).reply .workspaceId
  | .revoke id userId invitationId =>
      (WorkspacesService.revoke id userId invitationId).reply fun _ => .none
  | .changeMember id userId memberId role =>
      (WorkspacesService.changeMember id userId memberId role).reply
        fun _ => .none

def AccountCall.program (runtime : Runtime) : AccountCall → Tx Reply
  | .save type dto actor id =>
      (AccountsService.save runtime type dto actor id).reply .account
  | .remove type id actor =>
      (AccountsService.remove runtime type id actor).reply fun _ => .none

def AuthCall.program (runtime : Runtime) (config : AuthConfig) :
    AuthCall → Tx Reply
  | .validateLogin email password =>
      (AuthService.validateLogin runtime config email password).reply .tokens
  | .register dto =>
      (AuthService.register runtime config dto).reply fun _ => .none
  | .resendConfirmation email =>
      (AuthService.resendConfirmation runtime email).reply fun _ => .none
  | .forgotPassword email =>
      (AuthService.forgotPassword runtime config email).reply fun _ => .none
  | .confirmEmail hash =>
      (AuthService.confirmEmail runtime hash).reply fun _ => .none
  | .confirmNewEmail hash =>
      (AuthService.confirmNewEmail runtime hash).reply fun _ => .none
  | .resetPassword hash password =>
      (AuthService.resetPassword runtime hash password).reply fun _ => .none
  | .update payload dto => (AuthService.update runtime payload dto).reply .user
  | .refreshToken sessionId hash =>
      (AuthService.refreshToken sessionId hash).reply .tokens
  | .logout sessionId => (AuthService.logout sessionId).reply fun _ => .none
  | .softDelete payload =>
      (AuthService.softDelete runtime payload).reply fun _ => .none
  | .validate payload => (JwtStrategy.validate payload).reply .identity

def RoleCall.program (actor : Nat) : RoleCall → Tx Reply
  | .create body => (AdminRolesController.create body actor).reply .role
  | .update id body => (AdminRolesController.update id body actor).reply .role
  | .remove id =>
      (AdminRolesController.remove id actor).reply fun _ => .none

/-- `AccountsController` asks for a permission by account type. -/
def writePermission : AccountType → Permission
  | .user => .userWrite
  | .customer => .accountWrite

/-- Whether the guards let a caller through to the handler. -/
def GuardedCall.permitted (identity : Identity) : GuardedCall → Bool
  | .save type _ _ =>
      PermissionGuard.canActivate identity (some (writePermission type))
  | .remove type _ =>
      PermissionGuard.canActivate identity (some (writePermission type))
  | .update _ => true
  | .softDelete => true

/-- The handler with what the guards attached to the request. -/
def GuardedCall.handler (runtime : Runtime) (config : AuthConfig)
    (payload : JwtPayload) : GuardedCall → Tx Reply
  | .save type dto id =>
      (AccountCall.save type dto payload.id id).program runtime
  | .remove type id =>
      (AccountCall.remove type id payload.id).program runtime
  | .update dto => (AuthCall.update payload dto).program runtime config
  | .softDelete => (AuthCall.softDelete payload).program runtime config

def GuardedCall.program (runtime : Runtime) (config : AuthConfig)
    (payload : JwtPayload) (call : GuardedCall) : Tx Reply := do
  let identity ← JwtStrategy.validate payload
  if call.permitted identity then
    call.handler runtime config identity.payload
  else Tx.throw (.forbidden "Forbidden resource")

/-- `@RequirePermission` of the route. -/
def AdminCall.permission : AdminCall → Permission
  | .save type _ _ => writePermission type
  | .remove type _ => writePermission type
  | .role _ => .roleWrite
  | .adjust _ => .accountCreditWrite

/-- The handler of the route, for the caller the guards have identified. -/
def AdminCall.program (runtime : Runtime) (actor : Nat) : AdminCall → Tx Reply
  | .save type dto id => (AccountCall.save type dto actor id).program runtime
  | .remove type id => (AccountCall.remove type id actor).program runtime
  | .role call => call.program actor
  | .adjust body =>
      (AccountCreditsService.adjust body actor).reply .adjustment

def Request.program (environment : Environment) : Request → Tx Reply
  | .workspace call => call.program environment.runtime
  | .account call => call.program environment.runtime
  | .auth call => call.program environment.runtime environment.config
  | .adjust body actor =>
      (AccountCreditsService.adjust body actor).reply .adjustment
  | .role call actor => call.program actor
  | .guarded payload call =>
      call.program environment.runtime environment.config payload
  | .admin identity call =>
      call.program environment.runtime identity.payload.id

/-- The workspace a request names by its identifier. -/
def Request.workspaceId : Request → Option Nat
  | .workspace (.details id _) => some id
  | .workspace (.rename id _ _) => some id
  | .workspace (.invite id _ _) => some id
  | .workspace (.revoke id _ _) => some id
  | .workspace (.changeMember id _ _ _) => some id
  | _ => none

namespace Api

/-- Callers name workspaces they have seen, or guess. -/
def mayName (environment : Environment) (db : Db) (request : Request) : Bool :=
  request.workspaceId.all fun id =>
    (db.workspaces.find id).isSome || environment.guessable id

/-- The guards of an admin route: the session, user and role are looked up by
one query, which is where such a request starts. -/
def passes (db : Db) : Request → Bool
  | .admin identity call =>
      JwtStrategy.identify db identity.payload = some identity &&
        PermissionGuard.canActivate identity (some call.permission)
  | _ => true

def mayDraw (environment : Environment) : Draw → Nat → Bool
  | .uuid, value => !environment.guessable value
  -- `role_id_seq` starts behind the built-in roles.
  | .roleId, value => 2 < value
  | _, _ => true

/-- The requests that `admits` lets through, any number of them at a time. -/
def system (environment : Environment) (admits : Request → Bool) :
    System Db Writes Lock Draw Failure Request Reply where
  program := Request.program environment
  mayStart db request :=
    admits request && (mayName environment db request && passes db request)
  mayDraw := mayDraw environment

end Api

end SaasFoundation
