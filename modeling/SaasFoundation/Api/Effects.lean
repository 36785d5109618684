import SaasFoundation.Api.Requests
import SaasFoundation.Transaction.History

/-!
# What a committed request did

One relation for each request: under which conditions on the committed state
it was applied to, and with which writes, it commits.  The statements of a
request are spread over time, the relation speaks about the moment of its
commit only.  Everything about runs is derived from these relations.
-/

namespace SaasFoundation

open Relational Transaction

abbrev DbWorld := World Db Writes Draw Request
abbrev DbContext := Context Writes Lock Draw Request
abbrev DbCommit := Commit Db Writes Request
abbrev DbConfig := Config Db Writes Lock Draw Failure Request Reply

/-- The request without its guards. -/
def Request.core : Request → Request
  | .guarded payload (.save type dto id) =>
      .account (.save type dto payload.id id)
  | .guarded payload (.remove type id) => .account (.remove type id payload.id)
  | .guarded payload (.update dto) => .auth (.update payload dto)
  | .guarded payload .softDelete => .auth (.softDelete payload)
  | .admin identity (.save type dto id) =>
      .account (.save type dto identity.payload.id id)
  | .admin identity (.remove type id) =>
      .account (.remove type id identity.payload.id)
  | .admin identity (.role call) => .role call identity.payload.id
  | .admin identity (.adjust body) => .adjust body identity.payload.id
  | request => request

/-- The account a request deletes on behalf of its owner. -/
def Request.selfDeletion (request : Request) : Option Nat :=
  match request.core with
  | .auth (.softDelete payload) => some payload.id
  | _ => none

/-- The states a commit could have read, newest first. -/
def statesBefore (commit : DbCommit) (earlier : List DbCommit) : List Db :=
  commit.before :: earlier.map (·.before)

/-- No session ever had this hash. -/
def Unissued (hash : Nat) (states : List Db) : Prop :=
  ∀ state ∈ states, ∀ row ∈ state.sessions, row.hash ≠ hash

def OwnerOf (db : Db) (workspaceId userId : Nat) : Prop :=
  ∃ row ∈ db.members, row.workspaceId = workspaceId ∧ row.userId = userId ∧
    row.role = .owner

/-- An owner that is neither deleted nor suspended. -/
def ActiveOwner (db : Db) (workspaceId userId : Nat) : Prop :=
  OwnerOf db workspaceId userId ∧ ∃ user ∈ db.users, user.id = userId ∧ user.Active

def MemberOf (db : Db) (workspaceId userId : Nat) : Prop :=
  ∃ row ∈ db.members, row.workspaceId = workspaceId ∧ row.userId = userId

def LiveUser (db : Db) (userId : Nat) : Prop :=
  ∃ user ∈ db.users, user.id = userId ∧ user.Active

/-- Every self-deletion in the log hit an account that was not an
administrator at that moment. -/
def OrdinarySelfDeletions (commits : List DbCommit) : Prop :=
  ∀ commit ∈ commits, ∀ id, commit.request.selfDeletion = some id →
    ∀ old ∈ commit.before.users, old.id = id → old.roleId ≠ some RoleId.admin

/-- Only accounts and sessions are written. -/
structure OnlyAccounts (writes : Writes) : Prop where
  roles : writes.roles = []
  workspaces : writes.workspaces = []
  members : writes.members = []
  invitations : writes.invitations = []
  credits : writes.credits = []
  entries : writes.entries = []

/-- Only workspaces, memberships and invitations are written. -/
structure OnlyWorkspaces (writes : Writes) : Prop where
  roles : writes.roles = []
  users : writes.users = []
  sessions : writes.sessions = []
  credits : writes.credits = []
  entries : writes.entries = []

/-- The pending invitation of an address is revoked. -/
def RevokesPending (commit : DbCommit) (id : Nat) (email : String)
    (rows : List InvitationRow) : Prop :=
  (rows.map key).Nodup ∧ ∀ row, row ∈ rows ↔
    row ∈ commit.before.invitations ∧ row.workspaceId = id ∧
      row.email = email ∧ row.Pending

structure Created (commit : DbCommit) (userId : Nat) (name : String)
    (id : Nat) : Prop where
  fresh : commit.before.workspaces.find id = none
  user : LiveUser commit.before userId
  limit : WorkspacesService.ownedCount commit.before userId < 20
  workspaces : commit.writes.workspaces =
    [.put { id, name, createdAt := commit.started }]
  members : commit.writes.members =
    [.put { workspaceId := id, userId, role := .owner
            createdAt := commit.started }]
  invitations : commit.writes.invitations = []

/-- The actor's membership at the moment of the commit. -/
structure Acts (commit : DbCommit) (id userId : Nat) (actor : WorkspaceRole) :
    Prop where
  workspace : (commit.before.workspaces.find id).isSome
  member : ∃ row ∈ commit.before.members, row.workspaceId = id ∧
    row.userId = userId ∧ row.role = actor

structure Renamed (commit : DbCommit) (id userId : Nat) (name : String)
    (actor : WorkspaceRole) (row : WorkspaceRow) : Prop where
  acts : Acts commit id userId actor
  manages : actor ≠ .member
  stored : commit.before.workspaces.find id = some row
  workspaces : commit.writes.workspaces = [.put { row with name }]
  members : commit.writes.members = []
  invitations : commit.writes.invitations = []

structure Invited (commit : DbCommit) (id userId : Nat)
    (body : WorkspacesService.InviteDto) (actor : WorkspaceRole)
    (revoked : List InvitationRow) (new : InvitationRow) : Prop where
  acts : Acts commit id userId actor
  manages : actor ≠ .member
  grants : actor = .owner ∨ body.role = .member
  limit : WorkspacesService.otherInvitationCount commit.started commit.before
    id body.email < 100
  pending : RevokesPending commit id body.email revoked
  workspaceId : new.workspaceId = id
  email : new.email = body.email
  role : new.role = body.role
  isPending : new.Pending
  expiresAt : new.expiresAt = commit.started + WorkspacesService.sevenDays
  freshId : commit.before.invitations.find new.id = none
  freshToken : ∀ row ∈ commit.before.invitations,
    row.tokenHash ≠ new.tokenHash
  workspaces : commit.writes.workspaces = []
  members : commit.writes.members = []
  invitations : commit.writes.invitations =
    (revoked.map fun row =>
      .put { row with revokedAt := some commit.started }) ++ [.put new]

structure Accepted (runtime : Runtime) (commit : DbCommit)
    (earlier : List DbCommit) (userId token : Nat) (row : InvitationRow) :
    Prop where
  stored : row ∈ commit.before.invitations
  token : row.tokenHash = runtime.digest token
  active : row.ActiveAt commit.started
  user : ∃ state ∈ statesBefore commit earlier, ∃ user ∈ state.users,
    user.id = userId ∧ user.Active ∧
      user.email.map runtime.toLowerCase = some row.email
  workspaces : commit.writes.workspaces = []
  members : MemberOf commit.before row.workspaceId userId ∧
      commit.writes.members = [] ∨
    ¬MemberOf commit.before row.workspaceId userId ∧
      commit.writes.members =
        [.put { workspaceId := row.workspaceId, userId
                role := row.role.toWorkspaceRole
                createdAt := commit.started }]
  invitations : commit.writes.invitations =
    [.put { row with acceptedAt := some commit.started }]

structure Revoked (commit : DbCommit) (id userId invitationId : Nat)
    (actor : WorkspaceRole) : Prop where
  acts : Acts commit id userId actor
  manages : actor ≠ .member
  workspaces : commit.writes.workspaces = []
  members : commit.writes.members = []
  invitations : commit.writes.invitations =
    (WorkspacesService.revocable commit.before id invitationId
      actor).toList.map fun row =>
        .put { row with revokedAt := some commit.started }

structure MemberChanged (commit : DbCommit) (id userId memberId : Nat)
    (role : Option WorkspaceRole) (actor : WorkspaceRole)
    (target : MemberRow) : Prop where
  acts : Acts commit id userId actor
  stored : commit.before.members.find (id, memberId) = some target
  allowed : memberId = userId ∧ role = none ∨ actor = .owner ∨
    actor = .admin ∧ target.role = .member ∧
      (role = some .member ∨ role = none)
  promoted : role.isSome → LiveUser commit.before memberId
  owners : target.role = .owner → role ≠ some .owner →
    ∃ other, other ≠ memberId ∧ ActiveOwner commit.before id other
  workspaces : commit.writes.workspaces = []
  members : commit.writes.members =
    [match role with
      | none => .drop (id, memberId)
      | some role => .put { target with role }]
  invitations : commit.writes.invitations = []

def WorkspaceEffect (runtime : Runtime) (commit : DbCommit)
    (earlier : List DbCommit) : WorkspaceCall → Prop
  | .list _ => False
  | .create userId name => ∃ id, Created commit userId name id
  | .details id userId =>
      (∃ actor, Acts commit id userId actor) ∧ commit.writes = ∅
  | .rename id userId name =>
      ∃ actor row, Renamed commit id userId name actor row
  | .invite id userId body =>
      ∃ actor revoked new, Invited commit id userId body actor revoked new
  | .accept userId token =>
      ∃ row, Accepted runtime commit earlier userId token row
  | .revoke id userId invitationId =>
      ∃ actor, Revoked commit id userId invitationId actor
  | .changeMember id userId memberId role =>
      ∃ actor target,
        MemberChanged commit id userId memberId role actor target

/-- All live sessions of a user end, but for the excluded one. -/
def Revokes (commit : DbCommit) (userId : Nat) (exclude : Option Nat) : Prop :=
  ∃ rows : List SessionRow, (rows.map key).Nodup ∧
    (∀ row, row ∈ rows ↔ row ∈ commit.before.sessions ∧
      row.userId = userId ∧ row.deletedAt = none ∧ some row.id ≠ exclude) ∧
    commit.writes.sessions = rows.map fun row =>
      .put { row with deletedAt := some commit.started }

/-- Nothing a session depends on gets worse. -/
structure SameCredentials (old new : UserRow) : Prop where
  role : new.roleId = old.roleId
  password : new.password = old.password
  active : old.Active → new.Active ∨ new.deletedAt.isSome

/-- A change of one account, with the sessions it ends. -/
structure UserChanged (commit : DbCommit) (old new : UserRow)
    (exclude : Option Nat) : Prop where
  stored : old ∈ commit.before.users
  same : new.id = old.id
  users : commit.writes.users = [] ∧ new = old ∨
    commit.writes.users = [.put new]
  owners : old.Active → ¬new.Active → ∀ id, OwnerOf commit.before id old.id →
    ∃ other, other ≠ old.id ∧ ActiveOwner commit.before id other
  undeleted : old.deletedAt.isSome → new.deletedAt.isSome
  sessions : commit.writes.sessions = [] ∧ SameCredentials old new ∨
    Revokes commit old.id exclude
  frame : OnlyAccounts commit.writes

structure AccountInserted (commit : DbCommit) (new : UserRow) : Prop where
  fresh : commit.before.users.find new.id = none
  users : commit.writes.users = [.put new]
  sessions : commit.writes.sessions = []
  frame : OnlyAccounts commit.writes

/-- The columns of an `UPDATE` by `AccountsService`; nothing is sent when no
change is left. -/
def Stored (commit : DbCommit) (changes : AccountsService.AccountChanges)
    (old new : UserRow) : Prop :=
  changes = {} ∧ commit.writes.users = [] ∧ new = old ∨
    commit.writes.users = [.put new] ∧ new = changes.applyTo commit.started old

/-- What `prepare` and `checkUpdate` leave of a request: a forced role for
customers, and no role when it is the stored one. -/
def Requested (runtime : Runtime) (type : AccountType)
    (dto : AccountsService.AdminAccountDto) (old : UserRow)
    (changes : AccountsService.AccountChanges) : Prop :=
  ∃ password, Hashed runtime dto.password password ∧
    let prepared := dto.prepared runtime type password
    changes = { prepared with
      roleId := if prepared.roleId = old.roleId then none
        else prepared.roleId }

/-- `update` of `AccountsService`: the last active administrator keeps role
and status, unless accounts delete themselves behind its back. -/
structure AccountUpdated (runtime : Runtime) (commit : DbCommit)
    (earlier : List DbCommit) (type : AccountType)
    (dto : AccountsService.AdminAccountDto) (id : Nat) (old new : UserRow)
    (changes : AccountsService.AccountChanges) : Prop where
  changed : UserChanged commit old new none
  id : old.id = id
  accountType : old.accountType = type
  requested : Requested runtime type dto old changes
  stored : Stored commit changes old new
  live : new.deletedAt = none
  admin : OrdinarySelfDeletions earlier → old.ActiveAdmin → ¬new.ActiveAdmin →
    ∃ other ∈ commit.before.users, other.id ≠ old.id ∧ other.ActiveAdmin

structure AccountCreated (runtime : Runtime) (commit : DbCommit)
    (type : AccountType) (dto : AccountsService.AdminAccountDto)
    (new : UserRow) : Prop where
  inserted : AccountInserted commit new
  accountType : new.accountType = type
  role : new.roleId = some
    (if type = .customer then RoleId.user else dto.roleId.getD RoleId.user)

structure AccountRemoved (commit : DbCommit) (type : AccountType) (id : Nat)
    (old new : UserRow) : Prop where
  changed : UserChanged commit old new none
  id : old.id = id
  accountType : old.accountType = type
  ordinary : old.roleId ≠ some RoleId.admin
  users : commit.writes.users = [.put new]
  deleted : new = { old with
    deletedAt := some commit.started, updatedAt := commit.started }

def AccountEffect (runtime : Runtime) (commit : DbCommit)
    (earlier : List DbCommit) : AccountCall → Prop
  | .save type dto _ none => ∃ new, AccountCreated runtime commit type dto new
  | .save type dto _ (some id) => ∃ old new changes,
      AccountUpdated runtime commit earlier type dto id old new changes
  | .remove type id _ => ∃ old new, AccountRemoved commit type id old new

/-- The row `updateAtomically` saves; nothing is sent when no column differs. -/
def Saved (commit : DbCommit) (changes : UserChanges) (old new : UserRow) :
    Prop :=
  commit.writes.users = [] ∧ new = old ∧ changes.applyTo old = old ∨
    commit.writes.users = [.put new] ∧
      new = { changes.applyTo old with updatedAt := commit.started }

/-- A change that leaves role and status alone, except that it may activate. -/
structure ProfileChanged (commit : DbCommit) (old new : UserRow)
    (exclude : Option Nat) (changes : UserChanges) : Prop where
  changed : UserChanged commit old new exclude
  role : new.roleId = old.roleId
  active : old.Active → new.Active
  live : new.deletedAt = none
  saved : Saved commit changes old new

/-- The link names the account and is signed for its present state. -/
structure Confirms (runtime : Runtime) (hash : String) (old : UserRow)
    (newEmail : Option String) : Prop where
  subject : (runtime.decode hash).bind (·.confirmEmailUserId) =
    some (.integer old.id)
  signed : ∃ claims,
    runtime.verify hash
        (AuthService.confirmationSecret (UserMapper.toDomain old)) =
      some claims ∧ AuthService.given claims.newEmail = newEmail

structure Resets (runtime : Runtime) (hash : String) (old : UserRow) :
    Prop where
  subject : (runtime.decode hash).bind (·.forgotUserId) =
    some (.integer old.id)
  signed : (runtime.verify hash
    (AuthService.getForgotSecret (UserMapper.toDomain old))).isSome

/-- The columns of `AuthUpdateDto` that reach the account. -/
def AuthUpdateDto.changes (dto : AuthUpdateDto) (password : Option String) :
    UserChanges :=
  { firstName := dto.firstName, lastName := dto.lastName, photo := dto.photo
    password }

structure SelfDeleted (commit : DbCommit) (id : Nat) (old new : UserRow) :
    Prop where
  changed : UserChanged commit old new none
  id : old.id = id
  users : commit.writes.users = [.put new]
  deleted : new = { old with
    deletedAt := some commit.started, updatedAt := commit.started }

structure Registered (commit : DbCommit) (dto : AuthRegisterLoginDto)
    (new : UserRow) : Prop where
  inserted : AccountInserted commit new
  email : new.email = some dto.email
  accountType : new.accountType = .user
  role : new.roleId = some RoleId.user
  live : new.deletedAt = none

/-- A session for credentials that are still the account's. -/
structure LoggedIn (runtime : Runtime) (commit : DbCommit)
    (password : String) (user : UserRow) (session : SessionRow) : Prop where
  stored : user ∈ commit.before.users
  active : user.Active
  password : ∃ stored, user.password = some stored ∧
    runtime.bcryptCompare password stored = true
  userId : session.userId = user.id
  live : session.deletedAt = none
  freshId : commit.before.sessions.find session.id = none
  users : commit.writes.users = []
  sessions : commit.writes.sessions = [.put session]
  frame : OnlyAccounts commit.writes

/-- The refresh token is accepted: its session gets the next hash. -/
def Accepts (commit : DbCommit) (sessionId hash next : Nat) : Prop :=
  ∃ row, SessionRepository.matchesHash commit.before sessionId hash = some row ∧
    commit.writes.sessions = [.put { row with hash := next }]

structure Rotated (commit : DbCommit) (sessionId hash next : Nat) :
    Prop where
  users : commit.writes.users = []
  sessions : commit.writes.sessions = [] ∨ Accepts commit sessionId hash next
  frame : OnlyAccounts commit.writes

structure LoggedOut (commit : DbCommit) (sessionId : Nat) : Prop where
  users : commit.writes.users = []
  sessions : commit.writes.sessions = [] ∨
    ∃ row, commit.before.sessions.find sessionId = some row ∧
      commit.writes.sessions =
        [.put { row with deletedAt := some commit.started }]
  frame : OnlyAccounts commit.writes

/-- `drawn` says that the hashes of the initial sessions count as drawn. -/
def AuthEffect (runtime : Runtime) (drawn : Prop) (commit : DbCommit)
    (earlier : List DbCommit) : AuthCall → Prop
  | .validateLogin _ password => ∃ user session,
      LoggedIn runtime commit password user session ∧
        (drawn → Unissued session.hash (statesBefore commit earlier))
  | .register dto => ∃ new, Registered commit dto new
  | .resendConfirmation _ => False
  | .forgotPassword _ => False
  | .confirmEmail hash => ∃ old new,
      ProfileChanged commit old new none { status := some StatusId.active } ∧
        old.statusId = some StatusId.pendingVerification ∧
        Confirms runtime hash old none
  | .confirmNewEmail hash => ∃ old new email,
      ProfileChanged commit old new none { email := some (some email) } ∧
        old.statusId = some StatusId.active ∧
        Confirms runtime hash old (some email) ∧ Revokes commit old.id none
  | .resetPassword hash password => ∃ old new stored,
      ProfileChanged commit old new none { password := stored } ∧
        Hashed runtime (some password) stored ∧ Resets runtime hash old ∧
        Revokes commit old.id none
  | .update payload dto => ∃ old new stored, old.id = payload.id ∧
      ProfileChanged commit old new (some payload.sessionId)
        (dto.changes stored) ∧
      Hashed runtime dto.password stored ∧
      ((AuthService.given dto.password).isSome →
        Revokes commit old.id (some payload.sessionId))
  | .refreshToken sessionId hash => ∃ next,
      Rotated commit sessionId hash next ∧
        (drawn → Unissued next (statesBefore commit earlier))
  | .logout sessionId => LoggedOut commit sessionId
  | .softDelete payload =>
      (∃ old new, SelfDeleted commit payload.id old new) ∨ commit.writes = ∅
  | .validate _ => False

/-- Bodies no database state could record. -/
def Unstorable (body : CreditAdjustmentDto) : Prop :=
  body.amount.isZeroText = true ∨
    fitsInteger body.accountId = false ∨
    fitsInteger body.currencyId = false ∨
    body.reason.toList.contains '\x00' = true ∨ 300 < body.reason.length

/-- The stored entry is the one this request would make. -/
structure Records (db : Db) (body : CreditAdjustmentDto) (actor : Nat)
    (entry : EntryRow) : Prop where
  stored : entry ∈ db.entries
  key : entry.idempotencyKey = body.idempotencyKey
  credit : ∃ credit ∈ db.credits, credit.id = entry.creditId ∧
    credit.accountId = body.accountId ∧ credit.currencyId = body.currencyId
  amount : entry.amount.units = body.amount.toUnits
  reason : entry.reason = body.reason
  operator : entry.operatorId = actor

structure Replayed (commit : DbCommit) (body : CreditAdjustmentDto)
    (actor : Nat) : Prop where
  storable : ¬Unstorable body
  recorded : ∃ entry, Records commit.before body actor entry
  credits : commit.writes.credits = []
  entries : commit.writes.entries = []

/-- `credit` is the row before the increment, possibly made for it. -/
structure Applied (commit : DbCommit) (body : CreditAdjustmentDto)
    (actor : Nat) (credit updated : CreditRow) (entry : EntryRow) : Prop where
  storable : ¬Unstorable body
  freshKey : ∀ row ∈ commit.before.entries,
    row.idempotencyKey ≠ body.idempotencyKey
  freshId : commit.before.entries.find entry.id = none
  key : entry.idempotencyKey = body.idempotencyKey
  creditId : entry.creditId = credit.id
  amount : entry.amount.units = body.amount.toUnits
  nonzero : entry.amount.units ≠ 0
  reason : entry.reason = body.reason
  operator : entry.operatorId = actor
  accountId : credit.accountId = body.accountId
  currencyId : credit.currencyId = body.currencyId
  sameId : updated.id = credit.id
  sameAccount : updated.accountId = credit.accountId
  sameCurrency : updated.currencyId = credit.currencyId
  balance : updated.balance.units = credit.balance.units + entry.amount.units
  entries : commit.writes.entries = [.put entry]
  credits :
    credit ∈ commit.before.credits ∧ commit.writes.credits = [.put updated] ∨
    AccountCreditsService.creditOf commit.before body.accountId
        body.currencyId = none ∧
      commit.before.credits.find credit.id = none ∧
      credit.balance = .zero ∧
      commit.writes.credits = [.put credit, .put updated]

structure OnlyCredits (writes : Writes) : Prop where
  roles : writes.roles = []
  users : writes.users = []
  sessions : writes.sessions = []
  workspaces : writes.workspaces = []
  members : writes.members = []
  invitations : writes.invitations = []

def AdjustEffect (commit : DbCommit) (body : CreditAdjustmentDto)
    (actor : Nat) : Prop :=
  OnlyCredits commit.writes ∧
    (Replayed commit body actor ∨
      ∃ credit updated entry, Applied commit body actor credit updated entry)

/-- Built-in roles are never written. -/
structure RoleWritten (commit : DbCommit) : Prop where
  custom : ∀ change ∈ commit.writes.roles, 2 < change.target
  users : commit.writes.users = []
  sessions : commit.writes.sessions = []
  workspaces : commit.writes.workspaces = []
  members : commit.writes.members = []
  invitations : commit.writes.invitations = []
  credits : commit.writes.credits = []
  entries : commit.writes.entries = []

/-- What a commit did, by the request that made it. -/
def Effect (runtime : Runtime) (drawn : Prop) (commit : DbCommit)
    (earlier : List DbCommit) : Prop :=
  match commit.request.core with
  | .workspace call =>
      OnlyWorkspaces commit.writes ∧
        WorkspaceEffect runtime commit earlier call
  | .account call => AccountEffect runtime commit earlier call
  | .auth call => AuthEffect runtime drawn commit earlier call
  | .adjust body actor => AdjustEffect commit body actor
  | .role _ _ => RoleWritten commit
  | .guarded _ _ => False
  | .admin _ _ => False

end SaasFoundation
