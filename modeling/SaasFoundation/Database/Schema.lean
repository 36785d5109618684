import SaasFoundation.Transaction.Program
import SaasFoundation.Database.Rows
import SaasFoundation.Accounting.Numeric

/-!
# The database, its locks and its errors

`Db` is the committed content of the schema of
`database/migrations`, `Writes` the pending rows of one transaction.  Unique
indexes lock the key they are about to store, so that an insertion waits for a
conflicting insertion in flight.
-/

namespace SaasFoundation

open Relational Transaction

structure Db where
  roles : Table RoleRow
  files : Table FileRow
  users : Table UserRow
  sessions : Table SessionRow
  workspaces : Table WorkspaceRow
  members : Table MemberRow
  invitations : Table InvitationRow
  currencies : Table CurrencyRow
  credits : Table CreditRow
  entries : Table EntryRow
  activities : Table ActivityRow

structure Writes where
  roles : List (Change RoleRow Nat) := []
  users : List (Change UserRow Nat) := []
  sessions : List (Change SessionRow Nat) := []
  workspaces : List (Change WorkspaceRow Nat) := []
  members : List (Change MemberRow (Nat × Nat)) := []
  invitations : List (Change InvitationRow Nat) := []
  credits : List (Change CreditRow Nat) := []
  entries : List (Change EntryRow Nat) := []
  activities : List (Change ActivityRow Nat) := []

namespace Writes

instance : EmptyCollection Writes := ⟨{}⟩

instance : Append Writes := ⟨fun first second =>
  { roles := first.roles ++ second.roles
    users := first.users ++ second.users
    sessions := first.sessions ++ second.sessions
    workspaces := first.workspaces ++ second.workspaces
    members := first.members ++ second.members
    invitations := first.invitations ++ second.invitations
    credits := first.credits ++ second.credits
    entries := first.entries ++ second.entries
    activities := first.activities ++ second.activities }⟩

def apply (writes : Writes) (db : Db) : Db :=
  { db with
    roles := db.roles.applyAll writes.roles
    users := db.users.applyAll writes.users
    sessions := db.sessions.applyAll writes.sessions
    workspaces := db.workspaces.applyAll writes.workspaces
    members := db.members.applyAll writes.members
    invitations := db.invitations.applyAll writes.invitations
    credits := db.credits.applyAll writes.credits
    entries := db.entries.applyAll writes.entries
    activities := db.activities.applyAll writes.activities }

@[simp] theorem append_empty (writes : Writes) :
    writes ++ (∅ : Writes) = writes := by
  cases writes
  simp only [HAppend.hAppend, Append.append, EmptyCollection.emptyCollection]
  simp only [List.append_eq, List.append_nil]

@[simp] theorem empty_append (writes : Writes) :
    (∅ : Writes) ++ writes = writes := rfl

end Writes

instance : WriteSet Writes Db where
  apply := Writes.apply
  apply_empty _ := rfl
  apply_append first second db := by
    simp only [Writes.apply, HAppend.hAppend, Append.append]
    simp only [List.append_eq, Table.applyAll_append]
  append_empty := Writes.append_empty
  empty_append := Writes.empty_append

section

variable (writes first second : Writes) (db : Db)

@[simp] theorem Writes.append_roles :
    (first ++ second).roles = first.roles ++ second.roles := rfl
@[simp] theorem Writes.append_users :
    (first ++ second).users = first.users ++ second.users := rfl
@[simp] theorem Writes.append_sessions :
    (first ++ second).sessions = first.sessions ++ second.sessions := rfl
@[simp] theorem Writes.append_workspaces :
    (first ++ second).workspaces = first.workspaces ++ second.workspaces := rfl
@[simp] theorem Writes.append_members :
    (first ++ second).members = first.members ++ second.members := rfl
@[simp] theorem Writes.append_invitations :
    (first ++ second).invitations =
      first.invitations ++ second.invitations := rfl
@[simp] theorem Writes.append_credits :
    (first ++ second).credits = first.credits ++ second.credits := rfl
@[simp] theorem Writes.append_entries :
    (first ++ second).entries = first.entries ++ second.entries := rfl
@[simp] theorem Writes.append_activities :
    (first ++ second).activities =
      first.activities ++ second.activities := rfl

@[simp] theorem Writes.empty_roles : (∅ : Writes).roles = [] := rfl
@[simp] theorem Writes.empty_users : (∅ : Writes).users = [] := rfl
@[simp] theorem Writes.empty_sessions : (∅ : Writes).sessions = [] := rfl
@[simp] theorem Writes.empty_workspaces : (∅ : Writes).workspaces = [] := rfl
@[simp] theorem Writes.empty_members : (∅ : Writes).members = [] := rfl
@[simp] theorem Writes.empty_invitations : (∅ : Writes).invitations = [] := rfl
@[simp] theorem Writes.empty_credits : (∅ : Writes).credits = [] := rfl
@[simp] theorem Writes.empty_entries : (∅ : Writes).entries = [] := rfl
@[simp] theorem Writes.empty_activities : (∅ : Writes).activities = [] := rfl

@[simp] theorem Db.apply_roles :
    (WriteSet.apply writes db).roles =
      db.roles.applyAll writes.roles := rfl
@[simp] theorem Db.apply_files :
    (WriteSet.apply writes db).files = db.files := rfl
@[simp] theorem Db.apply_currencies :
    (WriteSet.apply writes db).currencies = db.currencies := rfl
@[simp] theorem Db.apply_users :
    (WriteSet.apply writes db).users =
      db.users.applyAll writes.users := rfl
@[simp] theorem Db.apply_sessions :
    (WriteSet.apply writes db).sessions =
      db.sessions.applyAll writes.sessions := rfl
@[simp] theorem Db.apply_workspaces :
    (WriteSet.apply writes db).workspaces =
      db.workspaces.applyAll writes.workspaces := rfl
@[simp] theorem Db.apply_members :
    (WriteSet.apply writes db).members =
      db.members.applyAll writes.members := rfl
@[simp] theorem Db.apply_invitations :
    (WriteSet.apply writes db).invitations =
      db.invitations.applyAll writes.invitations := rfl
@[simp] theorem Db.apply_credits :
    (WriteSet.apply writes db).credits =
      db.credits.applyAll writes.credits := rfl
@[simp] theorem Db.apply_entries :
    (WriteSet.apply writes db).entries =
      db.entries.applyAll writes.entries := rfl

end

/-- Rows a statement can lock, and keys of unique indexes it can claim. -/
inductive Lock where
  | role (id : Nat)
  | user (id : Nat)
  | session (id : Nat)
  | workspace (id : Nat)
  | member (workspaceId userId : Nat)
  | invitation (id : Nat)
  | credit (id : Nat)
  | userEmail (email : String)
  | userName (lowered : String)
  | userPhoto (id : Nat)
  | pendingInvitation (workspaceId : Nat) (email : String)
  | invitationToken (tokenHash : Nat)
  | creditIdentity (accountId currencyId : Nat)
  | idempotencyKey (key : Nat)
  deriving DecidableEq, Repr

/-- Sequences of the schema and the random sources of the services. -/
inductive Draw where
  | roleId
  | userId
  | sessionId
  | creditId
  | entryId
  | activityId
  | uuid
  | randomBytes
  | salt
  deriving DecidableEq, Repr

/-- The `SQLSTATE` codes the services meet. -/
inductive SqlState where
  /-- 23505 -/
  | uniqueViolation
  /-- 23503 -/
  | foreignKeyViolation
  /-- 23514 -/
  | checkViolation
  /-- 22001 -/
  | stringDataRightTruncation
  /-- 22003 -/
  | numericValueOutOfRange
  /-- 22P02 -/
  | invalidTextRepresentation
  /-- 22021 -/
  | characterNotInRepertoire
  deriving DecidableEq, Repr

inductive Constraint where
  | workspaceActiveOwner
  | primaryKey
  | userEmail
  | userUsername
  | userPhoto
  | userRole
  | userPhotoFile
  | sessionUser
  | memberWorkspace
  | memberUser
  | invitationWorkspace
  | invitationToken
  | pendingInvitation
  | activityOperator
  | creditAccount
  | creditCurrency
  | entryCredit
  | entryOperator
  | entryAmountNonzero
  deriving DecidableEq, Repr

/-- How a request fails: an HTTP exception of the service with its message and
field errors, a `QueryFailedError` as the driver reports it, or another error
of the runtime (these become status 500 unless rewritten). -/
inductive Failure where
  | http (status : Nat) (message : String) (errors : List (String × String))
  | query (code : SqlState) (violated : Option Constraint)
  | entityNotFound
  | typeError
  | error (message : String)
  deriving DecidableEq, Repr

namespace Failure

def badRequest (message : String := "Bad Request") : Failure :=
  .http 400 message []
def unauthorized : Failure := .http 401 "Unauthorized" []
def forbidden (message : String := "Forbidden") : Failure :=
  .http 403 message []
def notFound (message : String := "Not Found") : Failure :=
  .http 404 message []
def conflict (message : String := "Conflict") : Failure :=
  .http 409 message []
def unprocessable (message : String := "Unprocessable Entity")
    (errors : List (String × String) := []) : Failure :=
  .http 422 message errors

/-- The status the client sees. -/
def status : Failure → Nat
  | .http status _ _ => status
  | .query _ _ => 500
  | .entityNotFound => 500
  | .typeError => 500
  | .error _ => 500

end Failure

/-- Parameters of integer columns: `22003` from `2 ^ 31` on. -/
def fitsInteger (id : Nat) : Bool := id < 2 ^ 31

abbrev Tx := Program Db Writes Lock Draw Failure

namespace Tx

variable {α β : Type}

/-- A statement that only reads. -/
def query (read : Nat → Db → α) : Tx α :=
  .run
    { locks := fun _ _ => []
      run := fun now db => .ok (read now db, ∅) }

/-- A statement that reads and locks. -/
def select (locks : Db → List (Lock × LockMode)) (read : Nat → Db → α) :
    Tx α :=
  .run
    { locks := fun _ db => locks db
      run := fun now db => .ok (read now db, ∅) }

/-- A statement that locks, may fail, and writes. -/
def execute (locks : Db → List (Lock × LockMode))
    (effect : Nat → Db → Except Failure (α × Writes)) : Tx α :=
  .run { locks := fun _ db => locks db, run := effect }

def throw (failure : Failure) : Tx α :=
  .fail failure

end Tx

end SaasFoundation
