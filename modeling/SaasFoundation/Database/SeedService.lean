import SaasFoundation.Users.Repository
import SaasFoundation.Utils.Password
import SaasFoundation.Utils.Transformers

/-!
# `database/seeds/seed.service.ts`

The table of statuses is not modelled, so only the roles are upserted.
-/

namespace SaasFoundation

open Relational Transaction

/-- The variables of the process environment. -/
structure SeedVariables where
  adminEmail : Option String
  adminPassword : Option String
  userEmail : Option String
  userPassword : Option String
  deriving DecidableEq, Repr

namespace SeedService

/-- JavaScript truthiness of a variable. -/
def given (text : Option String) : Option String :=
  text.filter (· ≠ "")

structure SeedAccount where
  email : Option String
  password : Option String
  role : Nat
  deriving DecidableEq, Repr

def accounts (settings : SeedVariables) : List SeedAccount :=
  [{ email := settings.adminEmail
     password := settings.adminPassword
     role := RoleId.admin },
    { email := settings.userEmail
      password := settings.userPassword
      role := RoleId.user }]

def check : List SeedAccount → Tx Unit
  | [] => pure ()
  | account :: rest =>
      if (given account.email).isSome ≠ (given account.password).isSome then
        Tx.throw
          (.error "Seed email and password must be supplied together.")
      else if (given account.password).any fun password =>
          Text.length password < 12 then
        Tx.throw
          (.error "Seed passwords must contain at least 12 characters.")
      else check rest

/-- `INSERT INTO "role" ... ON CONFLICT (id) DO UPDATE SET name`. -/
def upsertRole (id : Nat) (name : String) : Tx Unit :=
  .execute (fun _ => [(.role id, .update)]) fun _ db =>
    match db.roles.find id with
    | none => .ok ((), { roles := [.put { id, name, resources := "" }] })
    | some row => .ok ((), { roles := [.put { row with name }] })

/-- The row of a seeded account. -/
def seededRow (email password : String) (role id now : Nat) : UserRow :=
  { UserMapper.unsaved id now with
    email := some email
    password := some password
    firstName := some (if role = RoleId.admin then "Admin" else "User")
    lastName := some "Account"
    roleId := some role
    statusId := some StatusId.active }

/-- One turn of the loop over the accounts.  `existsBy` passes over deleted
accounts. -/
def seedAccount (runtime : Runtime) (account : SeedAccount) : Tx Unit :=
  match given account.email, given account.password with
  | some email, some password => do
      let email := lowerCaseTransformer runtime email
      let known ← Tx.query fun _ db =>
        (UserRepository.liveByEmail db email).isSome
      if known then pure ()
      else do
        let password ← hashPassword runtime password
          (.error "Seed password exceeds 72 bytes")
        let id ← Program.draw .userId
        let _ ← UserRepository.insertUser runtime
          (seededRow email password account.role id)
  | _, _ => pure ()

def seedAll (runtime : Runtime) : List SeedAccount → Tx Unit
  | [] => pure ()
  | account :: rest => do
      seedAccount runtime account
      seedAll runtime rest

def run (runtime : Runtime) (settings : SeedVariables) : Tx Unit := do
  check (accounts settings)
  Program.transaction do
    upsertRole RoleId.admin "Admin"
    upsertRole RoleId.user "User"
    seedAll runtime (accounts settings)

end SeedService

end SaasFoundation
