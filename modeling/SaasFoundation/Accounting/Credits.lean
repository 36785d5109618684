import SaasFoundation.Accounting.Amount
import SaasFoundation.Admin.AdminMutation
import SaasFoundation.Users.Repository

/-!
# `accounting/account-credits.service.ts`
-/

namespace SaasFoundation

open Relational Transaction

/-- `CreditAdjustmentDto`; the key is the value of the UUID. -/
structure CreditAdjustmentDto where
  accountId : Nat
  currencyId : Nat
  amount : Amount
  idempotencyKey : Nat
  reason : String
  deriving DecidableEq

structure AdjustmentResult where
  balance : Numeric
  replayed : Bool
  deriving DecidableEq

namespace AccountCreditsService

/-- The row of `UNIQUE (account_id, currency_id)`. -/
def creditOf (db : Db) (accountId currencyId : Nat) : Option CreditRow :=
  db.credits.rows.find? fun row =>
    row.accountId = accountId ∧ row.currencyId = currencyId

def entryOf (db : Db) (key : Nat) : Option EntryRow :=
  db.entries.rows.find? fun row => row.idempotencyKey = key

/-- `INSERT INTO account_credits ... ON CONFLICT DO NOTHING`. -/
def insertCredit (id accountId currencyId : Nat) : Tx Unit :=
  .execute
    (fun db => if (creditOf db accountId currencyId).isSome then []
      else [(.creditIdentity accountId currencyId, .update)])
    fun now db =>
      if fitsInteger accountId = false ∨
          fitsInteger currencyId = false then
        .error (.query .numericValueOutOfRange none)
      else if (creditOf db accountId currencyId).isSome ∨
          (db.credits.find id).isSome then
        .ok ((), ∅)
      else if (db.users.find accountId).isNone then
        .error (.query .foreignKeyViolation (some .creditAccount))
      else if (db.currencies.find currencyId).isNone then
        .error (.query .foreignKeyViolation (some .creditCurrency))
      else
        .ok ((),
          { credits :=
              [.put { id, accountId, currencyId, balance := .zero
                      createdAt := now, updatedAt := now }] })

def findCredit (accountId currencyId : Nat) : Tx CreditRow := do
  match ← Tx.query fun _ db => creditOf db accountId currencyId with
  | none => Tx.throw .entityNotFound
  | some credit => pure credit

def findCreditById (id : Nat) : Tx CreditRow := do
  match ← Tx.query fun _ db => db.credits.find id with
  | none => Tx.throw .entityNotFound
  | some credit => pure credit

/-- The columns of an entry as PostgreSQL stores them: `text` without zero
bytes, `varchar(300)`, `numeric(20,4)`. -/
def entryRow (id creditId actor now : Nat) (body : CreditAdjustmentDto) :
    Except Failure EntryRow :=
  if body.reason.toList.contains '\x00' then
    .error (.query .characterNotInRepertoire none)
  else
    match Numeric.ofUnits body.amount.toUnits with
    | none => .error (.query .numericValueOutOfRange none)
    | some amount =>
        if 300 < body.reason.length then
          .error (.query .stringDataRightTruncation none)
        else if amount.units = 0 then
          .error (.query .checkViolation (some .entryAmountNonzero))
        else
          .ok { id, creditId, amount, idempotencyKey := body.idempotencyKey
                reason := body.reason, operatorId := actor, createdAt := now }

/-- `INSERT INTO credit_entries ... ON CONFLICT DO NOTHING RETURNING id`;
whether a row came back. -/
def insertEntry (id creditId actor : Nat) (body : CreditAdjustmentDto) :
    Tx Bool :=
  .execute
    (fun db => if (entryOf db body.idempotencyKey).isSome then []
      else [(.idempotencyKey body.idempotencyKey, .update)])
    fun now db =>
      match entryRow id creditId actor now body with
      | .error failure => .error failure
      | .ok row =>
          if (entryOf db body.idempotencyKey).isSome ∨
              (db.entries.find id).isSome then
            .ok (false, ∅)
          else if (db.credits.find creditId).isNone then
            .error (.query .foreignKeyViolation (some .entryCredit))
          else if (db.users.find actor).isNone then
            .error (.query .foreignKeyViolation (some .entryOperator))
          else .ok (true, { entries := [.put row] })

/-- `existsBy(entry)`: every column of the request, amounts as numbers. -/
def sameEntry (creditId actor : Nat) (body : CreditAdjustmentDto)
    (row : EntryRow) : Prop :=
  row.creditId = creditId ∧ row.amount.units = body.amount.toUnits ∧
    row.idempotencyKey = body.idempotencyKey ∧ row.reason = body.reason ∧
    row.operatorId = actor

instance (creditId actor : Nat) (body : CreditAdjustmentDto)
    (row : EntryRow) : Decidable (sameEntry creditId actor body row) :=
  inferInstanceAs (Decidable (_ ∧ _))

def existsBy (creditId actor : Nat) (body : CreditAdjustmentDto) : Tx Bool :=
  .query fun _ db => db.entries.rows.any fun row =>
    sameEntry creditId actor body row

/-- `UPDATE account_credits SET balance = balance + $1 WHERE id = $2`. -/
def increment (id : Nat) (amount : Int) : Tx Unit :=
  .execute
    (fun db => if (db.credits.find id).isSome then
      [(.credit id, .update)] else [])
    fun now db =>
      match db.credits.find id with
      | none => .ok ((), ∅)
      | some row =>
          match Numeric.ofUnits (row.balance.units + amount) with
          | none => .error (.query .numericValueOutOfRange none)
          | some balance =>
              .ok ((),
                { credits := [.put { row with balance, updatedAt := now }] })

/-- The key is used already: answer the same adjustment again. -/
def replay (creditId actor : Nat) (body : CreditAdjustmentDto) :
    Tx AdjustmentResult := do
  let known ← existsBy creditId actor body
  if known = false then
    Tx.throw (.conflict
      "Idempotency key was already used for a different adjustment")
  else do
    let current ← findCreditById creditId
    pure { balance := current.balance, replayed := true }

/-- The key is claimed: move the balance. -/
def book (creditId actor : Nat) (body : CreditAdjustmentDto) :
    Tx AdjustmentResult := do
  increment creditId body.amount.toUnits
  let updated ← findCreditById creditId
  AdminMutationService.audit actor "credit.adjusted" (toString creditId)
  pure { balance := updated.balance, replayed := false }

/-- The transaction of `adjust`. -/
def applyOnce (body : CreditAdjustmentDto) (actor : Nat) :
    Tx AdjustmentResult := do
  let creditId ← Program.draw .creditId
  insertCredit creditId body.accountId body.currencyId
  let credit ← findCredit body.accountId body.currencyId
  -- Claim the key before changing the balance.
  let entryId ← Program.draw .entryId
  let inserted ← insertEntry entryId credit.id actor body
  if inserted = false then replay credit.id actor body
  else book credit.id actor body

def adjust (body : CreditAdjustmentDto) (actor : Nat) : Tx AdjustmentResult :=
  if body.amount.isZeroText then
    Tx.throw (.badRequest "Adjustment must be nonzero")
  else AdminMutationService.mutate (applyOnce body actor)

end AccountCreditsService

end SaasFoundation
