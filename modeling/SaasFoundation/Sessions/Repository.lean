import SaasFoundation.Database.Schema

/-!
# `session/persistence/typeorm-session.repository.ts`

Together with `revoke-user-sessions.ts`.  `updateByHash` and `deleteById` run
their statements outside of a transaction, so each commits by itself.
-/

namespace SaasFoundation

open Relational Transaction

/-- Live sessions of a user, without the excluded one. -/
def revocableSessions (db : Db) (userId : Nat) (exclude : Option Nat) :
    List SessionRow :=
  db.sessions.rows.filter fun row =>
    row.userId = userId ∧ row.deletedAt = none ∧ some row.id ≠ exclude

def revokeUserSessions (userId : Nat) (exclude : Option Nat) : Tx Unit :=
  .execute
    (fun db => (revocableSessions db userId exclude).map fun row =>
      (.session row.id, .update))
    fun now db =>
      .ok ((),
        { sessions := (revocableSessions db userId exclude).map fun row =>
            .put { row with deletedAt := some now } })

namespace SessionRepository

/-- Lock the account of a session about to be created. -/
def lockUser (id : Nat) : Tx (Option UserRow) :=
  .select
    (fun db => if ((db.users.find id).filter
        (·.deletedAt.isNone)).isSome then [(.user id, .update)] else [])
    fun _ db => (db.users.find id).filter (·.deletedAt.isNone)

def insertSession (id userId hash : Nat) : Tx Unit :=
  .execute (fun _ => []) fun _ db =>
    if (db.sessions.find id).isSome then
      .error (.query .uniqueViolation (some .primaryKey))
    else if (db.users.find userId).isNone then
      .error (.query .foreignKeyViolation (some .sessionUser))
    else
      .ok ((), { sessions := [.put { id, userId, hash, deletedAt := none }] })

/-- `user` and `password` are what the login read before. -/
def create (user : Nat) (password : Option String) (hash : Nat) : Tx Nat :=
  .transaction do
    match ← lockUser user with
    | none => Tx.throw .unauthorized
    | some locked =>
        -- The login may have raced with a reset or a suspension.
        if locked.statusId ≠ some StatusId.active ∨
            locked.password ≠ password then
          Tx.throw .unauthorized
        else do
          let id ← Program.draw .sessionId
          insertSession id user hash
          pure id

def matchesHash (db : Db) (id hash : Nat) : Option SessionRow :=
  (db.sessions.find id).filter fun row =>
    row.hash = hash ∧ row.deletedAt = none

/-- `UPDATE "session" SET hash = $1 WHERE id = $2 AND hash = $3 AND
"deletedAt" IS NULL`; returns the affected count. -/
def rotate (id hash next : Nat) : Tx Nat :=
  .transaction
    (Tx.execute
      (fun db => if fitsInteger id then
        (matchesHash db id hash).toList.map fun row =>
          (.session row.id, .update) else [])
      fun _ db =>
        if fitsInteger id then
          let rows := (matchesHash db id hash).toList
          .ok (rows.length,
            { sessions := rows.map fun row =>
                .put { row with hash := next } })
        else .error (.query .numericValueOutOfRange none))

/-- A live session with its eagerly joined user, unless that is deleted. -/
def findSession (id : Nat) : Tx (Option (SessionRow × Option UserRow)) :=
  .query fun _ db =>
    ((db.sessions.find id).filter (·.deletedAt.isNone)).map fun row =>
      (row, (db.users.find row.userId).filter (·.deletedAt.isNone))

def updateByHash (id hash next : Nat) :
    Tx (Option (SessionRow × Option UserRow)) := do
  let affected ← rotate id hash next
  if affected = 0 then pure none
  else findSession id

/-- TypeORM `softDelete({ id })`; no filter on earlier deletions. -/
def deleteById (id : Nat) : Tx Unit :=
  .transaction
    (Tx.execute
      (fun db => if (db.sessions.find id).isSome then
        [(.session id, .update)] else [])
      fun now db =>
        match db.sessions.find id with
        | none => .ok ((), ∅)
        | some row =>
            .ok ((), { sessions := [.put { row with deletedAt := some now }] }))

end SessionRepository

end SaasFoundation
