import SaasFoundation.Workspaces.Service

/-!
# `protect_workspace_owner` and updates of `"user"`

The trigger of `1790010000000-Workspaces.ts` runs inside an `UPDATE` of
`"deletedAt"` or `"statusId"`, after the statement has locked the user row and
before it stores the new one.  Each of its inner statements is a statement of
the transaction.
-/

namespace SaasFoundation

open Relational Transaction WorkspacesService

/-- `ORDER BY workspace_id`. -/
def ownedWorkspaces (db : Db) (userId : Nat) : List Nat :=
  ((db.members.rows.filter fun row =>
    row.userId = userId ∧ row.role = .owner).map
      (·.workspaceId)).insertionSort (· ≤ ·)

def otherActiveOwner (db : Db) (owned userId : Nat) : Bool :=
  db.members.rows.any fun row =>
    row.workspaceId = owned ∧ row.role = .owner ∧ row.userId ≠ userId ∧
      (activeUser db row.userId).isSome

/-- The `FOR owned IN ... LOOP` of the trigger. -/
def protectOwned (userId : Nat) : List Nat → Tx Unit
  | [] => pure ()
  | owned :: rest => do
      lockWorkspace owned
      let other ← Tx.query fun _ db => otherActiveOwner db owned userId
      if other then protectOwned userId rest
      else Tx.throw (.query .checkViolation (some .workspaceActiveOwner))

/-- `new = none` is a `DELETE`. -/
def protectWorkspaceOwner (old : UserRow) (new : Option UserRow) : Tx Unit :=
  if ∃ row ∈ new, row.Active then pure ()
  else do
    let owned ← Tx.query fun _ db => ownedWorkspaces db old.id
    protectOwned old.id owned

def takenEmail (db : Db) (row : UserRow) : Prop :=
  row.email.isSome ∧ ∃ other ∈ db.users.rows,
    other.id ≠ row.id ∧ other.email = row.email

def takenUsername (runtime : Runtime) (db : Db) (row : UserRow) : Prop :=
  row.username.isSome ∧ ∃ other ∈ db.users.rows,
    other.id ≠ row.id ∧
      other.username.map runtime.lower = row.username.map runtime.lower

def takenPhoto (db : Db) (row : UserRow) : Prop :=
  row.photoId.isSome ∧ ∃ other ∈ db.users.rows,
    other.id ≠ row.id ∧ other.photoId = row.photoId

instance (db : Db) (row : UserRow) : Decidable (takenEmail db row) :=
  inferInstanceAs (Decidable (_ ∧ _))

instance (runtime : Runtime) (db : Db) (row : UserRow) :
    Decidable (takenUsername runtime db row) :=
  inferInstanceAs (Decidable (_ ∧ _))

instance (db : Db) (row : UserRow) : Decidable (takenPhoto db row) :=
  inferInstanceAs (Decidable (_ ∧ _))

/-- The constraint a row would violate, in the order PostgreSQL checks them:
unique indexes by age, then foreign keys. -/
def userViolation (runtime : Runtime) (db : Db) (row : UserRow) :
    Option Failure :=
  if takenEmail db row then
    some (.query .uniqueViolation (some .userEmail))
  else if takenPhoto db row then
    some (.query .uniqueViolation (some .userPhoto))
  else if takenUsername runtime db row then
    some (.query .uniqueViolation (some .userUsername))
  else if row.photoId.any fun id => (db.files.find id).isNone then
    some (.query .foreignKeyViolation (some .userPhotoFile))
  else if row.roleId.any fun id => (db.roles.find id).isNone then
    some (.query .foreignKeyViolation (some .userRole))
  else none

/-- Keys the row claims in the unique indexes of `"user"`. -/
def userKeys (runtime : Runtime) (row : UserRow) : List (Lock × LockMode) :=
  (row.email.map fun email => (Lock.userEmail email, .update)).toList ++
    (row.photoId.map fun id => (Lock.userPhoto id, .update)).toList ++
    (row.username.map fun name =>
      (Lock.userName (runtime.lower name), .update)).toList

/-- Store a row: locked and checked constraints, then the pending write. -/
def storeUser (runtime : Runtime) (old : Option UserRow) (row : UserRow) :
    Tx Unit :=
  .execute
    (fun _ => (userKeys runtime row).filter fun key =>
      key ∉ (old.map (userKeys runtime)).getD [])
    fun _ db =>
      match userViolation runtime db row with
      | some failure => .error failure
      | none => .ok ((), { users := [.put row] })

/-- First half of an `UPDATE "user" ... WHERE id = $1`: lock the row and
compute its new version. -/
def lockForUpdate (id : Nat) (change : Nat → UserRow → UserRow) :
    Tx (Option (UserRow × UserRow)) :=
  .run
    { locks := fun _ db => if (db.users.find id).isSome then
        [(Lock.user id, LockMode.update)] else []
      run := fun now db =>
        .ok ((db.users.find id).map fun row => (row, change now row), ∅) }

/-- `UPDATE "user" SET ... WHERE id = $1`.  `lifecycle` says that
`"deletedAt"` or `"statusId"` is among the columns set.  Returns the stored
row. -/
def updateUser (runtime : Runtime) (id : Nat) (lifecycle : Bool)
    (change : Nat → UserRow → UserRow) : Tx (Option UserRow) := do
  match ← lockForUpdate id change with
  | none => pure none
  | some (old, new) => do
      if lifecycle then protectWorkspaceOwner old (some new) else pure ()
      storeUser runtime (some old) new
      pure (some new)

/-- TypeORM `softDelete(id)` on `"user"`; no filter on earlier deletions. -/
def softDeleteUser (runtime : Runtime) (id : Nat) : Tx Unit := do
  let _ ← updateUser runtime id true fun now row =>
    { row with deletedAt := some now, updatedAt := now }

end SaasFoundation
