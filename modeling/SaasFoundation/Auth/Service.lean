import SaasFoundation.Users.Service
import SaasFoundation.Utils.Text

/-!
# `auth/auth.service.ts` and `auth/strategies/jwt.strategy.ts`

Signing and checking of tokens is left to `Runtime`; the services below keep
what a token carries.
-/

namespace SaasFoundation

open Relational Transaction

/-- `JwtPayloadType`. -/
structure JwtPayload where
  id : Nat
  sessionId : Nat
  role : Option Nat
  deriving DecidableEq, Repr

/-- What `JwtStrategy.validate` attaches to a request. -/
structure Identity where
  payload : JwtPayload
  permissions : List String
  deriving DecidableEq, Repr

namespace JwtStrategy

/-- The session joined with its user and role, as far as they pass the
filters of the query. -/
def account (db : Db) (sessionId userId : Nat) : Option (Nat × String) :=
  match db.sessions.find sessionId, db.users.find userId with
  | some session, some user =>
      if session.deletedAt = none ∧ session.userId = userId ∧ user.Active then
        (user.roleId.bind db.roles.find).map fun role =>
          (role.id, role.resources)
      else none
  | _, _ => none

/-- The payload with the role and the permissions of the moment. -/
def identify (db : Db) (payload : JwtPayload) : Option Identity :=
  (account db payload.sessionId payload.id).map fun (roleId, resources) =>
    { payload := { payload with role := some roleId }
      permissions := (Text.splitCommas resources).filter (· ≠ "") }

def validate (payload : JwtPayload) : Tx Identity := do
  match ← Tx.query fun _ db => identify db payload with
  | none => Tx.throw .unauthorized
  | some identity => pure identity

end JwtStrategy

/-- What the token pair of a login or a rotation carries. -/
structure Tokens where
  userId : Nat
  role : Option Nat
  sessionId : Nat
  hash : Nat
  deriving DecidableEq, Repr

structure AuthRegisterLoginDto where
  email : String
  password : String
  firstName : String
  lastName : String
  deriving DecidableEq, Repr

structure AuthUpdateDto where
  photo : Option (Option Nat) := none
  firstName : Option (Option String) := none
  lastName : Option (Option String) := none
  email : Option String := none
  password : Option String := none
  oldPassword : Option String := none
  deriving DecidableEq, Repr

/-- `auth.uniformErrors` and `auth.emailVerificationRequired` of the
configuration. -/
structure AuthConfig where
  uniformErrors : Bool
  emailVerificationRequired : Bool
  deriving DecidableEq, Repr

namespace AuthService

def invalidLogin (config : AuthConfig) (errors : List (String × String)) :
    Failure :=
  .unprocessable "Unprocessable Entity"
    (if config.uniformErrors then
      [("email", "incorrectEmailOrPassword"),
        ("password", "incorrectEmailOrPassword")]
    else errors)

/-- JavaScript truthiness of an optional string. -/
def given (text : Option String) : Option String :=
  text.filter (· ≠ "")

def validateLogin (runtime : Runtime) (config : AuthConfig)
    (email password : String) : Tx Tokens := do
  match ← UserRepository.findByEmail email with
  | none => Tx.throw (invalidLogin config [("email", "notFound")])
  | some user =>
      if user.provider ≠ "email" then
        Tx.throw (invalidLogin config
          [("email", "needLoginViaProvider:" ++ user.provider)])
      else
        match given user.password with
        | none =>
            Tx.throw (invalidLogin config [("password", "incorrectPassword")])
        | some stored =>
            if runtime.bcryptCompare password stored = false then
              Tx.throw
                (invalidLogin config [("password", "incorrectPassword")])
            else if user.status ≠ some StatusId.active then
              Tx.throw (invalidLogin config
                [("email", "emailNotConfirmedOrAccountInactive")])
            else do
              let hash ← Program.draw .randomBytes
              let session ← SessionRepository.create user.id user.password hash
              pure { userId := user.id, role := user.role
                     sessionId := session, hash }

def invalidHash : Failure :=
  .unprocessable "Unprocessable Entity" [("hash", "invalidHash")]

def invalidConfirmation : Failure :=
  .unprocessable "Invalid confirmation link"

def maxSafeInteger : Int := 2 ^ 53 - 1

/-- The subject of a link before its signature is checked. -/
def linkSubject (runtime : Runtime) (hash : String)
    (field : LinkClaims → Option ClaimValue) : Tx Nat :=
  match (runtime.decode hash).bind field with
  | some (.integer id) =>
      if 1 ≤ id ∧ id ≤ maxSafeInteger then pure id.toNat
      else Tx.throw invalidHash
  | _ => Tx.throw invalidHash

def confirmationSecret (user : User) : LinkSecret :=
  .confirmation user.id user.email user.password user.updatedAt

def getForgotSecret (user : User) : LinkSecret :=
  .forgot (user.password.getD "")

/-- What `MailTransportService.sendMail` makes of a rejected message. -/
def mailDeliveryUnavailable : Failure :=
  .http 503 "Service Unavailable" [("mail", "mailDeliveryUnavailable")]

/-- Sign a link and hand it to the mail transport. -/
def mailLink (runtime : Runtime) (recipient : String) (claims : LinkClaims)
    (secret : LinkSecret) : Tx Unit :=
  if runtime.deliver { recipient, hash := runtime.sign claims secret } then
    pure ()
  else Tx.throw mailDeliveryUnavailable

def confirmationClaims (user : User) : LinkClaims :=
  { confirmEmailUserId := some (.integer user.id) }

def register (runtime : Runtime) (config : AuthConfig)
    (dto : AuthRegisterLoginDto) : Tx Unit := do
  let user ← UsersService.create runtime
    { email := some (some dto.email)
      password := some dto.password
      firstName := some (some dto.firstName)
      lastName := some (some dto.lastName)
      role := some RoleId.user
      status := some (if config.emailVerificationRequired then
        StatusId.pendingVerification else StatusId.active) }
  if config.emailVerificationRequired then
    mailLink runtime dto.email (confirmationClaims user)
      (confirmationSecret user)
  else pure ()

def resendConfirmation (runtime : Runtime) (email : String) : Tx Unit := do
  match ← UserRepository.findByEmail email with
  | none => pure ()
  | some user =>
      if user.status ≠ some StatusId.pendingVerification then pure ()
      else
        mailLink runtime email (confirmationClaims user)
          (confirmationSecret user)

def forgotPassword (runtime : Runtime) (config : AuthConfig)
    (email : String) : Tx Unit := do
  match ← UserRepository.findByEmail email with
  | none =>
      if config.uniformErrors then pure ()
      else
        Tx.throw (.unprocessable "Unprocessable Entity"
          [("email", "emailNotExists")])
  | some user =>
      mailLink runtime email { forgotUserId := some (.integer user.id) }
        (getForgotSecret user)

def readConfirmation (runtime : Runtime) (hash : String) (user : User) :
    Tx (Option String) :=
  match runtime.verify hash (confirmationSecret user) with
  | none => Tx.throw invalidHash
  | some claims => pure claims.newEmail

/-- A missing account is reported like a bad link. -/
def linkError : Failure → Failure
  | .http 404 _ _ => invalidHash
  | failure => failure

def consumeLink (runtime : Runtime) (id : Nat)
    (prepare : User → Tx (Mutation UpdateUserDto)) : Tx Unit :=
  (do
    let _ ← UsersService.updateAtomically runtime id prepare
    pure () : Tx Unit).mapError linkError

def confirmEmail (runtime : Runtime) (hash : String) : Tx Unit := do
  let id ← linkSubject runtime hash (·.confirmEmailUserId)
  consumeLink runtime id fun user => do
    let newEmail ← readConfirmation runtime hash user
    if (given newEmail).isSome ∨
        user.status ≠ some StatusId.pendingVerification then
      Tx.throw invalidConfirmation
    else pure { changes := { status := some StatusId.active } }

def confirmNewEmail (runtime : Runtime) (hash : String) : Tx Unit := do
  let id ← linkSubject runtime hash (·.confirmEmailUserId)
  consumeLink runtime id fun user => do
    let newEmail ← readConfirmation runtime hash user
    match given newEmail with
    | none => Tx.throw invalidConfirmation
    | some newEmail =>
        if user.status ≠ some StatusId.active then
          Tx.throw invalidConfirmation
        else
          pure { changes := { email := some (some newEmail) }
                 revokeSessions := some none }

def resetPassword (runtime : Runtime) (hash password : String) : Tx Unit := do
  let id ← linkSubject runtime hash (·.forgotUserId)
  consumeLink runtime id fun user =>
    match runtime.verify hash (getForgotSecret user) with
    | none => Tx.throw invalidHash
    | some _ =>
        pure { changes := { password := some password }
               revokeSessions := some none }

def checkOldPassword (runtime : Runtime) (dto : AuthUpdateDto)
    (current : User) : Tx Unit :=
  match given dto.password with
  | none => pure ()
  | some _ =>
      match given dto.oldPassword with
      | none =>
          Tx.throw (UsersService.invalidField "oldPassword"
            "missingOldPassword")
      | some oldPassword =>
          match given current.password with
          | none =>
              Tx.throw (UsersService.invalidField "oldPassword"
                "incorrectOldPassword")
          | some stored =>
              if runtime.bcryptCompare oldPassword stored = false then
                Tx.throw (UsersService.invalidField "oldPassword"
                  "incorrectOldPassword")
              else pure ()

/-- The address to confirm, when the request asks for another one. -/
def requestedEmail (dto : AuthUpdateDto) (current : User) : Option String :=
  (given dto.email).filter fun email => some email ≠ current.email

def checkNewEmail (email : Option String) (current : User) : Tx Unit :=
  match email with
  | none => pure ()
  | some email => do
      match ← UserRepository.findByEmail email with
      | none => pure ()
      | some existing =>
          if existing.id ≠ current.id then
            Tx.throw (UsersService.invalidField "email" "emailExists")
          else pure ()

def prepareUpdate (runtime : Runtime) (payload : JwtPayload)
    (dto : AuthUpdateDto) (current : User) :
    Tx (Mutation UpdateUserDto) := do
  checkOldPassword runtime dto current
  checkNewEmail (requestedEmail dto current) current
  pure
    { changes :=
        { photo := dto.photo, firstName := dto.firstName
          lastName := dto.lastName, password := dto.password }
      revokeSessions := (given dto.password).map fun _ =>
        some payload.sessionId }

/-- Mail the confirmation of a new address, after the commit. -/
def mailNewEmail (runtime : Runtime) (updated : User) (newEmail : String) :
    Tx Unit :=
  mailLink runtime newEmail
    { confirmationClaims updated with newEmail := some newEmail }
    (confirmationSecret updated)

/-- The source keeps `newEmail` in a variable of the closure.  The transaction
does not touch the email column, so it is the same for the updated user. -/
def update (runtime : Runtime) (payload : JwtPayload) (dto : AuthUpdateDto) :
    Tx User := do
  let updated ← UsersService.updateAtomically runtime payload.id
    (prepareUpdate runtime payload dto)
  match requestedEmail dto updated with
  | none => pure updated
  | some newEmail => do
      mailNewEmail runtime updated newEmail
      pure updated

/-- What `refreshToken` makes of the session `updateByHash` returns. -/
def answerRotation (next : Nat) :
    Option (SessionRow × Option UserRow) → Tx Tokens
  | none => Tx.throw .unauthorized
  | some (_, none) => Tx.throw .typeError
  | some (session, some sessionUser) => do
      let user ← UserRepository.findById sessionUser.id
      match user.filter fun user => user.status = some StatusId.active with
      | none => Tx.throw .unauthorized
      | some user =>
          match user.role with
          | none => Tx.throw .unauthorized
          | some role =>
              pure { userId := sessionUser.id, role := some role
                     sessionId := session.id, hash := next }

def refreshToken (sessionId hash : Nat) : Tx Tokens := do
  let next ← Program.draw .randomBytes
  let session ← SessionRepository.updateByHash sessionId hash next
  answerRotation next session

def logout (sessionId : Nat) : Tx Unit :=
  SessionRepository.deleteById sessionId

/-- `payload` carries the role the guard read. -/
def softDelete (runtime : Runtime) (payload : JwtPayload) : Tx Unit :=
  if payload.role = some RoleId.admin then
    Tx.throw (.unprocessable
      "Administrators must be reassigned by another administrator before deletion")
  else UserRepository.remove runtime payload.id

end AuthService

end SaasFoundation
