import SaasFoundation.Users.Repository
import SaasFoundation.Utils.Password
import SaasFoundation.Utils.Text

/-!
# `admin/accounts.service.ts`
-/

namespace SaasFoundation

open Relational Transaction

namespace AccountsService

inductive AccountStatus where
  | active
  | inActive
  deriving DecidableEq, Repr

/-- `AdminAccountDto | UpdateAdminAccountDto`; `none` is an absent property.
`phone` and `role_id` may also be `null`. -/
structure AdminAccountDto where
  fullName : Option String := none
  username : Option String := none
  email : Option String := none
  password : Option String := none
  phone : Option (Option String) := none
  status : Option AccountStatus := none
  roleId : Option Nat := none
  deriving DecidableEq, Repr

/-- `Partial<UserEntity>` as `save` fills it; `none` is an absent key. -/
structure AccountChanges where
  firstName : Option String := none
  lastName : Option String := none
  username : Option String := none
  phone : Option (Option String) := none
  email : Option String := none
  password : Option String := none
  statusId : Option Nat := none
  roleId : Option Nat := none
  accountType : Option AccountType := none
  deriving DecidableEq, Repr

structure AccountResponse where
  id : Nat
  fullName : String
  username : Option String
  email : Option String
  phone : Option String
  type : AccountType
  roleId : Option Nat
  status : AccountStatus
  deriving DecidableEq, Repr

/-- The columns of an update applied to a row. -/
def AccountChanges.applyTo (changes : AccountChanges) (now : Nat)
    (row : UserRow) : UserRow :=
  { row with
    firstName := changes.firstName.or row.firstName
    lastName := changes.lastName.or row.lastName
    username := changes.username.or row.username
    phone := changes.phone.getD row.phone
    email := changes.email.or row.email
    password := changes.password.or row.password
    statusId := changes.statusId.or row.statusId
    roleId := changes.roleId.or row.roleId
    accountType := changes.accountType.getD row.accountType
    updatedAt := now }

/-- The row an insertion stores: column defaults below the changes. -/
def AccountChanges.newRow (changes : AccountChanges) (id now : Nat) : UserRow :=
  changes.applyTo now (UserMapper.unsaved id now)

/-- The explicit projection of account responses. -/
def selection (row : UserRow) : AccountResponse :=
  { id := row.id
    fullName := WorkspacesService.concatWs row.firstName row.lastName
    username := row.username
    email := row.email
    phone := row.phone
    type := row.accountType
    roleId := row.roleId
    status := if row.statusId = some StatusId.active then .active
      else .inActive }

/-- Every administrative account mutation takes this row lock first. -/
def lockAdministration : Tx Unit :=
  .execute
    (fun db => if (db.roles.find RoleId.admin).isSome then
      [(.role RoleId.admin, .update)] else [])
    fun _ db =>
      if (db.roles.find RoleId.admin).isSome then .ok ((), ∅)
      else .error .entityNotFound

def matchesAccount (type : AccountType) (row : UserRow) : Bool :=
  row.accountType = type ∧ row.deletedAt = none

def lockAccount (type : AccountType) (id : Nat) : Tx UserRow := do
  match ← Tx.select
      (fun db => if ((db.users.find id).filter (matchesAccount type)).isSome
        then [(.user id, .update)] else [])
      (fun _ db => (db.users.find id).filter (matchesAccount type)) with
  | none => Tx.throw .notFound
  | some account => pure account

/-- `countBy` with the soft-delete filter TypeORM adds. -/
def adminCount (db : Db) : Nat :=
  (db.users.rows.filter fun row => row.ActiveAdmin).length

/-- The columns a request fills, given the hash of its password. -/
def AdminAccountDto.columns (runtime : Runtime) (type : AccountType)
    (dto : AdminAccountDto) (password : Option String) : AccountChanges :=
  let pieces := (dto.fullName.map Text.trim).map Text.splitSpaces
  { firstName := pieces.map fun pieces => pieces.headD ""
    lastName := pieces.map fun pieces => " ".intercalate pieces.tail
    username := dto.username
    phone := dto.phone
    email := dto.email.map fun email => runtime.toLowerCase (Text.trim email)
    password
    statusId := dto.status.map fun status =>
      if status = .active then StatusId.active else StatusId.inactive
    roleId := if type = .user then dto.roleId else none }

/-- Customers get the role of ordinary users, whatever the request says. -/
def AdminAccountDto.prepared (runtime : Runtime) (type : AccountType)
    (dto : AdminAccountDto) (password : Option String) : AccountChanges :=
  let columns := dto.columns runtime type password
  { columns with
    roleId := if type = .customer then some RoleId.user else columns.roleId }

/-- `changes` before the transaction: validation, name split, hashing. -/
def prepare (runtime : Runtime) (type : AccountType) (dto : AdminAccountDto)
    (actor : Nat) (id : Option Nat) : Tx AccountChanges := do
  if id = some actor ∧ dto.status.isSome ∧ dto.status ≠ some .active then
    Tx.throw (.badRequest "You cannot disable yourself")
  else do
    let name := dto.fullName.map Text.trim
    if name.any fun name => Text.length name < 2 then
      Tx.throw
        (.badRequest "Full name must contain at least two characters")
    else do
      let password ← hashGiven runtime dto.password
        (.badRequest "Password exceeds 72 bytes")
      let changes := dto.columns runtime type password
      if changes = {} then Tx.throw (.badRequest "No changes supplied")
      else do
        let changes := dto.prepared runtime type password
        if id = none then
          pure { changes with
            accountType := some type
            roleId := changes.roleId.or (some RoleId.user) }
        else pure changes

/-- The checks of an update against the locked row; returns the changes left
to store. -/
def checkUpdate (changes : AccountChanges) (actor id : Nat)
    (existing : UserRow) : Tx AccountChanges := do
  if id = actor ∧ changes.roleId.isSome ∧ changes.roleId ≠ existing.roleId then
    Tx.throw (.badRequest "You cannot change your own role")
  else do
    let changes : AccountChanges :=
      if changes.roleId.isSome ∧ changes.roleId = existing.roleId then
        { changes with roleId := none }
      else changes
    if existing.roleId = some RoleId.admin ∧
        existing.statusId = some StatusId.active ∧
        ((changes.roleId.isSome ∧ changes.roleId ≠ some RoleId.admin) ∨
          changes.statusId = some StatusId.inactive) then do
      let admins ← Tx.query fun _ db => adminCount db
      if admins ≤ 1 then
        Tx.throw
          (.badRequest "At least one active administrator is required")
      else pure changes
    else pure changes

def typeName : AccountType → String
  | .user => "user"
  | .customer => "customer"

def selectAccount (id : Nat) : Tx AccountResponse := do
  match ← Tx.query fun _ db => (db.users.find id).filter fun row =>
      row.deletedAt.isNone with
  | none => Tx.throw .notFound
  | some row => pure (selection row)

/-- `if (Object.keys(changes).length) await repository.update(id, changes)`. -/
def storeChanges (runtime : Runtime) (id : Nat) (changes : AccountChanges) :
    Tx Unit :=
  if changes = {} then pure ()
  else do
    let _ ← updateUser runtime id changes.statusId.isSome changes.applyTo

/-- A new password, a new role or a suspension ends all sessions. -/
def revokeChanged (id : Nat) (dto : AdminAccountDto)
    (changes : AccountChanges) : Tx Unit :=
  if (dto.password.any fun password => password ≠ "") ∨
      changes.roleId.isSome ∨ dto.status = some .inActive then
    revokeUserSessions id none
  else pure ()

/-- The branch of `save` that changes an existing account. -/
def update (runtime : Runtime) (type : AccountType) (dto : AdminAccountDto)
    (actor id : Nat) (changes : AccountChanges) : Tx AccountResponse := do
  let existing ← lockAccount type id
  let changes ← checkUpdate changes actor id existing
  storeChanges runtime id changes
  revokeChanged id dto changes
  AdminMutationService.audit actor (typeName type ++ ".updated") (toString id)
  selectAccount id

/-- The branch of `save` that creates an account. -/
def insert (runtime : Runtime) (type : AccountType) (actor : Nat)
    (changes : AccountChanges) : Tx AccountResponse := do
  let id ← Program.draw .userId
  let _ ← UserRepository.insertUser runtime (changes.newRow id)
  AdminMutationService.audit actor (typeName type ++ ".created") (toString id)
  selectAccount id

def save (runtime : Runtime) (type : AccountType) (dto : AdminAccountDto)
    (actor : Nat) (id : Option Nat) : Tx AccountResponse := do
  let changes ← prepare runtime type dto actor id
  AdminMutationService.mutate do
    lockAdministration
    match id with
    | some id => update runtime type dto actor id changes
    | none => insert runtime type actor changes

def remove (runtime : Runtime) (type : AccountType) (id actor : Nat) :
    Tx Unit :=
  if id = actor then Tx.throw (.badRequest "You cannot delete yourself")
  else
    AdminMutationService.mutate do
      lockAdministration
      let account ← lockAccount type id
      if account.roleId = some RoleId.admin then
        Tx.throw (.badRequest
          "Reassign the administrator role before deleting the account")
      else do
        softDeleteUser runtime id
        revokeUserSessions id none
        AdminMutationService.audit actor (typeName type ++ ".deleted")
          (toString id)

end AccountsService

end SaasFoundation
