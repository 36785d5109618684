import SaasFoundation.Database.Rows

/-!
# Functions the services import

Hashing, token and locale functions come from packages and from the database
server.  The model takes them as parameters; nothing is assumed about them
except where a result says so.
-/

namespace SaasFoundation

/-- A field of a decoded token that should hold a user id. -/
inductive ClaimValue where
  | integer (value : Int)
  | other
  deriving DecidableEq, Repr

/-- Payload of a confirmation, email-change or reset link. -/
structure LinkClaims where
  confirmEmailUserId : Option ClaimValue := none
  forgotUserId : Option ClaimValue := none
  newEmail : Option String := none
  deriving DecidableEq, Repr

/-- The secrets links are signed with, by the row values they are built from:
`confirmationSecret` and `getForgotSecret` of `auth.service.ts`. -/
inductive LinkSecret where
  | confirmation (id : Nat) (email password : Option String) (updatedAt : Nat)
  | forgot (password : String)
  deriving DecidableEq, Repr

/-- A message handed to the mail transport. -/
structure Mail where
  recipient : String
  hash : String
  deriving DecidableEq, Repr

structure Runtime where
  /-- `String.prototype.toLowerCase`. -/
  toLowerCase : String → String
  /-- PostgreSQL `lower`. -/
  lower : String → String
  /-- SHA-256 of an invitation token. -/
  digest : Nat → Nat
  /-- `bcrypt.compare`. -/
  bcryptCompare : String → String → Bool
  /-- `bcrypt.hash` with the salt it draws. -/
  bcryptHash : String → Nat → String
  /-- `JwtService.decode`, without checking the signature. -/
  decode : String → Option LinkClaims
  /-- `JwtService.verifyAsync` with algorithm HS256; `none` when it throws. -/
  verify : String → LinkSecret → Option LinkClaims
  /-- `JwtService.signAsync`. -/
  sign : LinkClaims → LinkSecret → String
  /-- Whether the mail transport accepts a message. -/
  deliver : Mail → Bool

end SaasFoundation
