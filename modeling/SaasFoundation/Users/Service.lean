import SaasFoundation.Users.Repository
import SaasFoundation.Utils.Password

/-!
# `users/users.service.ts`
-/

namespace SaasFoundation

open Relational Transaction

/-- `UpdateUserDto`; `none` is `undefined`, and `null` where a column has no
value to take.  `photo`, `role` and `status` name rows by id. -/
structure UpdateUserDto where
  email : Option (Option String) := none
  password : Option String := none
  provider : Option String := none
  socialId : Option (Option String) := none
  firstName : Option (Option String) := none
  lastName : Option (Option String) := none
  photo : Option (Option Nat) := none
  role : Option Nat := none
  status : Option Nat := none
  deriving DecidableEq, Repr

namespace UsersService

def invalidField (field error : String) : Failure :=
  .unprocessable "Unprocessable Entity" [(field, error)]

/-- `if (dto.email)`: somebody else must not have the address. -/
def checkEmail (email : Option (Option String)) (userId : Option Nat) :
    Tx Unit :=
  match email.join.filter fun email => email ≠ "" with
  | none => pure ()
  | some email => do
      match ← UserRepository.findByEmail email with
      | none => pure ()
      | some existing =>
          if some existing.id ≠ userId then
            Tx.throw (invalidField "email" "emailAlreadyExists")
          else pure ()

def checkPhoto (photo : Option (Option Nat)) : Tx Unit :=
  match photo.join with
  | none => pure ()
  | some id => do
      let found ← Tx.query fun _ db => (db.files.find id).isSome
      if found = false then Tx.throw (invalidField "photo" "imageNotExists")
      else pure ()

def prepareChanges (runtime : Runtime) (dto : UpdateUserDto)
    (userId : Option Nat) : Tx UserChanges := do
  checkEmail dto.email userId
  let password ← hashGiven runtime dto.password
    (invalidField "password" "passwordTooLong")
  checkPhoto dto.photo
  if dto.role.any fun id => id ∉ [RoleId.admin, RoleId.user] then
    Tx.throw (invalidField "role" "roleNotExists")
  else if dto.status.any fun id =>
      id ∉ [StatusId.active, StatusId.inactive,
        StatusId.pendingVerification] then
    Tx.throw (invalidField "status" "statusNotExists")
  else
    pure
      { firstName := dto.firstName
        lastName := dto.lastName
        email := dto.email
        provider := dto.provider
        socialId := dto.socialId
        password
        photo := dto.photo
        role := dto.role
        status := dto.status }

/-- The entity of a new account: the changes, with the names of the request
whether or not they are given. -/
def newUser (dto : UpdateUserDto) (changes : UserChanges) : User :=
  { id := 0
    email := dto.email.join
    password := changes.password
    provider := dto.provider.getD "email"
    socialId := changes.socialId.join
    firstName := dto.firstName.join
    lastName := dto.lastName.join
    photo := changes.photo
    role := changes.role
    status := changes.status
    updatedAt := 0
    deletedAt := none }

def create (runtime : Runtime) (dto : UpdateUserDto) : Tx User := do
  let data ← prepareChanges runtime dto none
  UserRepository.create runtime (newUser dto data)

def rethrow : Failure → Failure
  | .query .uniqueViolation _ => invalidField "email" "emailAlreadyExists"
  | failure => failure

def updateAtomically (runtime : Runtime) (id : Nat)
    (prepare : User → Tx (Mutation UpdateUserDto)) : Tx User :=
  (UserRepository.updateAtomically runtime id fun current => do
    let mutation ← prepare current
    let changes ← prepareChanges runtime mutation.changes (some id)
    pure { changes, revokeSessions := mutation.revokeSessions }).mapError
      rethrow

end UsersService

end SaasFoundation
