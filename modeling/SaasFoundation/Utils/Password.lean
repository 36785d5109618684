import SaasFoundation.Database.Schema
import SaasFoundation.Utils.Runtime

/-!
# `utils/password.ts`
-/

namespace SaasFoundation

def bcryptMaxBytes : Nat := 72

/-- Callers keep their error contract by passing `tooLong`. -/
def hashPassword (runtime : Runtime) (password : String) (tooLong : Failure) :
    Tx String :=
  if bcryptMaxBytes < password.utf8ByteSize then Tx.throw tooLong
  else do
    let salt ← Transaction.Program.draw .salt
    pure (runtime.bcryptHash password salt)

/-- `if (dto.password) changes.password = await hashPassword(...)`. -/
def hashGiven (runtime : Runtime) (password : Option String)
    (tooLong : Failure) : Tx (Option String) :=
  match password.filter fun password => password ≠ "" with
  | none => pure none
  | some password => some <$> hashPassword runtime password tooLong

/-- What is stored for the password of a request: nothing unless it is given. -/
def Hashed (runtime : Runtime) (password stored : Option String) : Prop :=
  match password.filter fun password => password ≠ "" with
  | none => stored = none
  | some text => ∃ salt, stored = some (runtime.bcryptHash text salt)

end SaasFoundation
