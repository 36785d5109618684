import SaasFoundation.Relational.Table

/-!
# Rows of the PostgreSQL schema

One structure for each table, with the columns the services read or write.
Timestamps count microseconds.  Columns restricted by a `CHECK` constraint are
typed by the values the constraint admits.
-/

namespace SaasFoundation

open Relational

inductive AccountType where
  | user
  | customer
  deriving DecidableEq, Repr

/-- `libs/contracts/src/workspaces.ts`. -/
inductive WorkspaceRole where
  | owner
  | admin
  | member
  deriving DecidableEq, Repr

/-- `CHECK (role IN ('admin','member'))` on `workspace_invitations`. -/
inductive InvitationRole where
  | admin
  | member
  deriving DecidableEq, Repr

def InvitationRole.toWorkspaceRole : InvitationRole → WorkspaceRole
  | .admin => .admin
  | .member => .member

namespace RoleId

def admin : Nat := 1
def user : Nat := 2

end RoleId

namespace StatusId

def active : Nat := 1
def inactive : Nat := 2
def pendingVerification : Nat := 3

end StatusId

/-- `"role"`. -/
structure RoleRow where
  id : Nat
  name : String
  resources : String
  deriving DecidableEq, Repr

/-- `"file"`. -/
structure FileRow where
  id : Nat
  path : String
  deriving DecidableEq, Repr

/-- `"user"`. -/
structure UserRow where
  id : Nat
  email : Option String
  password : Option String
  provider : String
  socialId : Option String
  firstName : Option String
  lastName : Option String
  username : Option String
  phone : Option String
  accountType : AccountType
  photoId : Option Nat
  roleId : Option Nat
  statusId : Option Nat
  createdAt : Nat
  updatedAt : Nat
  deletedAt : Option Nat
  deriving DecidableEq, Repr

/-- `"session"`. -/
structure SessionRow where
  id : Nat
  userId : Nat
  hash : Nat
  deletedAt : Option Nat
  deriving DecidableEq, Repr

/-- `workspaces`. -/
structure WorkspaceRow where
  id : Nat
  name : String
  createdAt : Nat
  deriving DecidableEq, Repr

/-- `workspace_members`. -/
structure MemberRow where
  workspaceId : Nat
  userId : Nat
  role : WorkspaceRole
  createdAt : Nat
  deriving DecidableEq, Repr

/-- `workspace_invitations`. -/
structure InvitationRow where
  id : Nat
  workspaceId : Nat
  email : String
  role : InvitationRole
  tokenHash : Nat
  expiresAt : Nat
  createdAt : Nat
  acceptedAt : Option Nat
  revokedAt : Option Nat
  deriving DecidableEq, Repr

/-- `activities`. -/
structure ActivityRow where
  id : Nat
  operatorId : Option Nat
  event : String
  uri : String
  createdAt : Nat
  deriving DecidableEq, Repr

instance : Keyed RoleRow Nat := ⟨RoleRow.id⟩
instance : Keyed FileRow Nat := ⟨FileRow.id⟩
instance : Keyed UserRow Nat := ⟨UserRow.id⟩
instance : Keyed SessionRow Nat := ⟨SessionRow.id⟩
instance : Keyed WorkspaceRow Nat := ⟨WorkspaceRow.id⟩
instance : Keyed MemberRow (Nat × Nat) := ⟨fun row =>
  (row.workspaceId, row.userId)⟩
instance : Keyed InvitationRow Nat := ⟨InvitationRow.id⟩
instance : Keyed ActivityRow Nat := ⟨ActivityRow.id⟩

@[simp] theorem RoleRow.key_eq (row : RoleRow) : key row = row.id := rfl
@[simp] theorem FileRow.key_eq (row : FileRow) : key row = row.id := rfl
@[simp] theorem UserRow.key_eq (row : UserRow) : key row = row.id := rfl
@[simp] theorem SessionRow.key_eq (row : SessionRow) : key row = row.id := rfl
@[simp] theorem WorkspaceRow.key_eq (row : WorkspaceRow) :
    key row = row.id := rfl
@[simp] theorem MemberRow.key_eq (row : MemberRow) :
    key row = (row.workspaceId, row.userId) := rfl
@[simp] theorem InvitationRow.key_eq (row : InvitationRow) :
    key row = row.id := rfl
@[simp] theorem ActivityRow.key_eq (row : ActivityRow) :
    key row = row.id := rfl

/-- `"deletedAt" IS NULL AND "statusId" = 1`. -/
def UserRow.Active (row : UserRow) : Prop :=
  row.deletedAt = none ∧ row.statusId = some StatusId.active

instance (row : UserRow) : Decidable row.Active :=
  inferInstanceAs (Decidable (_ ∧ _))

/-- An active platform administrator. -/
def UserRow.ActiveAdmin (row : UserRow) : Prop :=
  row.Active ∧ row.roleId = some RoleId.admin

instance (row : UserRow) : Decidable row.ActiveAdmin :=
  inferInstanceAs (Decidable (_ ∧ _))

/-- `accepted_at IS NULL AND revoked_at IS NULL`. -/
def InvitationRow.Pending (row : InvitationRow) : Prop :=
  row.acceptedAt = none ∧ row.revokedAt = none

instance (row : InvitationRow) : Decidable row.Pending :=
  inferInstanceAs (Decidable (_ ∧ _))

/-- Pending and not expired at `now`. -/
def InvitationRow.ActiveAt (row : InvitationRow) (now : Nat) : Prop :=
  row.Pending ∧ now < row.expiresAt

instance (row : InvitationRow) (now : Nat) : Decidable (row.ActiveAt now) :=
  inferInstanceAs (Decidable (_ ∧ _))

end SaasFoundation
