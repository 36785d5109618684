import SaasFoundation.Admin.AdminMutation
import SaasFoundation.Sessions.Repository
import SaasFoundation.Workspaces.OwnerTrigger

/-!
# `users/persistence/typeorm-user.repository.ts` and `user.mapper.ts`
-/

namespace SaasFoundation

open Relational Transaction

/-- The domain entity.  `photo` distinguishes an absent property from `null`;
the eager joins find the referenced rows because of the foreign keys. -/
structure User where
  id : Nat
  email : Option String
  password : Option String
  provider : String
  socialId : Option String
  firstName : Option String
  lastName : Option String
  photo : Option (Option Nat)
  role : Option Nat
  status : Option Nat
  updatedAt : Nat
  deletedAt : Option Nat
  deriving DecidableEq, Repr

/-- `Partial<User>` as `prepareChanges` fills it; `none` is an absent key. -/
structure UserChanges where
  firstName : Option (Option String) := none
  lastName : Option (Option String) := none
  email : Option (Option String) := none
  provider : Option String := none
  socialId : Option (Option String) := none
  password : Option String := none
  photo : Option (Option Nat) := none
  role : Option Nat := none
  status : Option Nat := none
  deriving DecidableEq, Repr

namespace UserMapper

def toDomain (raw : UserRow) : User :=
  { id := raw.id
    email := raw.email
    password := raw.password
    provider := raw.provider
    socialId := raw.socialId
    firstName := raw.firstName
    lastName := raw.lastName
    photo := raw.photoId.map some
    role := raw.roleId
    status := raw.statusId
    updatedAt := raw.updatedAt
    deletedAt := raw.deletedAt }

/-- The row after saving an entity: absent relations are left alone. -/
def toPersistence (domain : User) (stored : UserRow) : UserRow :=
  { stored with
    email := domain.email
    password := domain.password
    provider := domain.provider
    socialId := domain.socialId
    firstName := domain.firstName
    lastName := domain.lastName
    photoId := domain.photo.getD stored.photoId
    roleId := domain.role.or stored.roleId
    statusId := domain.status.or stored.statusId }

/-- The columns of a row that has not been stored: those the entity leaves
out take their defaults. -/
def unsaved (id now : Nat) : UserRow :=
  { id, email := none, password := none, provider := "email"
    socialId := none, firstName := none, lastName := none, username := none
    phone := none, accountType := .user, photoId := none, roleId := none
    statusId := none, createdAt := now, updatedAt := now, deletedAt := none }

end UserMapper

/-- `{ ...current, ...mutation.changes }`. -/
def User.merge (current : User) (changes : UserChanges) : User :=
  { current with
    firstName := changes.firstName.getD current.firstName
    lastName := changes.lastName.getD current.lastName
    email := changes.email.getD current.email
    provider := changes.provider.getD current.provider
    socialId := changes.socialId.getD current.socialId
    password := changes.password.or current.password
    photo := changes.photo.or current.photo
    role := changes.role.or current.role
    status := changes.status.or current.status }

/-- The row with the changed columns, as `updateAtomically` saves it. -/
def UserChanges.applyTo (changes : UserChanges) (row : UserRow) : UserRow :=
  UserMapper.toPersistence ((UserMapper.toDomain row).merge changes) row

/-- The columns `updateAtomically` sends, one by one. -/
theorem UserChanges.applyTo_eq (changes : UserChanges) (row : UserRow) :
    changes.applyTo row =
      { row with
        firstName := changes.firstName.getD row.firstName
        lastName := changes.lastName.getD row.lastName
        email := changes.email.getD row.email
        provider := changes.provider.getD row.provider
        socialId := changes.socialId.getD row.socialId
        password := changes.password.or row.password
        photoId := changes.photo.getD row.photoId
        roleId := changes.role.or row.roleId
        statusId := changes.status.or row.statusId } := by
  have photo : (changes.photo.or (row.photoId.map some)).getD row.photoId =
      changes.photo.getD row.photoId := by
    cases changes.photo <;> cases row.photoId <;> rfl
  have kept (first second : Option Nat) :
      (first.or second).or second = first.or second := by
    cases first <;> cases second <;> rfl
  simp only [applyTo, UserMapper.toPersistence, User.merge,
    UserMapper.toDomain, photo, kept]

/-- `revokeSessions?: { excludeSessionId?: number }`. -/
structure Mutation (χ : Type) where
  changes : χ
  revokeSessions : Option (Option Nat) := none

namespace UserRepository

def liveUser (db : Db) (id : Nat) : Option UserRow :=
  (db.users.find id).filter (·.deletedAt.isNone)

/-- `select('user.id').where('user.id = :id').setLock('pessimistic_write')`. -/
def lockUser (id : Nat) : Tx Bool :=
  .execute
    (fun db => if fitsInteger id ∧ (liveUser db id).isSome then
      [(.user id, .update)] else [])
    fun _ db =>
      if fitsInteger id then .ok ((liveUser db id).isSome, ∅)
      else .error (.query .numericValueOutOfRange none)

/-- `repository.save` of an entity loaded before: columns that differ from the
stored row are updated, and nothing is sent when none does. -/
def save (runtime : Runtime) (stored : UserRow) (entity : User) :
    Tx UserRow :=
  let next := UserMapper.toPersistence entity stored
  if next = stored then pure stored
  else do
    let updated ← updateUser runtime stored.id
      (decide (next.statusId ≠ stored.statusId)) fun now row =>
        { UserMapper.toPersistence entity row with updatedAt := now }
    pure (updated.getD next)

/-- `if (mutation.revokeSessions) await revokeUserSessions(...)`. -/
def revokeRequested (id : Nat) : Option (Option Nat) → Tx Unit
  | none => pure ()
  | some exclude => revokeUserSessions id exclude

def updateAtomically (runtime : Runtime) (id : Nat)
    (prepare : User → Tx (Mutation UserChanges)) : Tx User :=
  (Program.transaction do
    let locked ← lockUser id
    if locked = false then Tx.throw (.notFound "User not found")
    else do
      match ← Tx.query fun _ db => liveUser db id with
      | none => Tx.throw .entityNotFound
      | some entity => do
          let current := UserMapper.toDomain entity
          let mutation ← prepare current
          let updated ← save runtime entity (current.merge mutation.changes)
          revokeRequested id mutation.revokeSessions
          pure (UserMapper.toDomain updated)).mapError rethrowOwnerConflict

/-- `INSERT INTO "user" ... RETURNING`, for a new entity. -/
def insertUser (runtime : Runtime) (row : Nat → UserRow) : Tx UserRow :=
  .execute (fun _ => userKeys runtime (row 0)) fun now db =>
    if (db.users.find (row now).id).isSome then
      .error (.query .uniqueViolation (some .primaryKey))
    else
      match userViolation runtime db (row now) with
      | some failure => .error failure
      | none => .ok (row now, { users := [.put (row now)] })

/-- `data` as an entity without an identifier. -/
def create (runtime : Runtime) (data : User) : Tx User :=
  .transaction do
    let id ← Program.draw .userId
    let created ← insertUser runtime fun now =>
      UserMapper.toPersistence data (UserMapper.unsaved id now)
    pure (UserMapper.toDomain created)

def findById (id : Nat) : Tx (Option User) :=
  .query fun _ db => (liveUser db id).map UserMapper.toDomain

def liveByEmail (db : Db) (email : String) : Option UserRow :=
  db.users.rows.find? fun row => row.email = some email ∧ row.deletedAt = none

def findByEmail (email : String) : Tx (Option User) :=
  if email = "" then pure none
  else .query fun _ db => (liveByEmail db email).map UserMapper.toDomain

def remove (runtime : Runtime) (id : Nat) : Tx Unit :=
  (Program.transaction (softDeleteUser runtime id)).mapError
    rethrowOwnerConflict

end UserRepository

end SaasFoundation
