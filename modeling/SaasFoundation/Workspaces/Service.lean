import Mathlib.Data.List.Sort
import SaasFoundation.Database.Schema
import SaasFoundation.Utils.Runtime

/-!
# `workspaces/workspaces.service.ts`

Every method is a transaction whose statements are those of the source, in
their order.  Identifiers and tokens are drawn where the source draws them.
-/

namespace SaasFoundation

open Relational Transaction

namespace WorkspacesService

/-- Value returned to the client for a workspace. -/
structure Workspace where
  id : Nat
  name : String
  role : WorkspaceRole
  deriving DecidableEq, Repr

structure WorkspaceMember where
  userId : Nat
  email : Option String
  name : String
  role : WorkspaceRole
  deriving DecidableEq, Repr

structure WorkspaceInvitation where
  id : Nat
  email : String
  role : InvitationRole
  expiresAt : Nat
  deriving DecidableEq, Repr

structure WorkspaceDetails where
  workspace : Workspace
  members : List WorkspaceMember
  invitations : List WorkspaceInvitation
  deriving DecidableEq, Repr

structure InviteDto where
  email : String
  role : InvitationRole
  deriving DecidableEq, Repr

/-- `interval '7 days'` in microseconds. -/
def sevenDays : Nat := 7 * 24 * 60 * 60 * 1000000

/-- `concat_ws(' ', first, last)`. -/
def concatWs (first last : Option String) : String :=
  " ".intercalate (first.toList ++ last.toList)

def activeUser (db : Db) (userId : Nat) : Option UserRow :=
  (db.users.find userId).filter fun user => decide user.Active

def selectActiveUser (userId : Nat) (mode : LockMode) : Tx (Option UserRow) :=
  .select
    (fun db => if (activeUser db userId).isSome then [(.user userId, mode)]
      else [])
    fun _ db => activeUser db userId

def ownedCount (db : Db) (userId : Nat) : Nat :=
  (db.members.rows.filter fun row =>
    row.userId = userId ∧ row.role = .owner).length

def insertWorkspace (id : Nat) (name : String) : Tx Unit :=
  .execute (fun _ => []) fun now db =>
    if (db.workspaces.find id).isSome then
      .error (.query .uniqueViolation (some .primaryKey))
    else
      .ok ((), { workspaces := [.put { id, name, createdAt := now }] })

/-- `INSERT INTO workspace_members`, with `ON CONFLICT (workspace_id, user_id)
DO NOTHING` when `ignore` is set. -/
def insertMember (workspaceId userId : Nat) (role : WorkspaceRole)
    (ignore : Bool) : Tx Unit :=
  .execute
    (fun db => if (db.members.find (workspaceId, userId)).isSome then []
      else [(.member workspaceId userId, .update)])
    fun now db =>
      if (db.members.find (workspaceId, userId)).isSome then
        if ignore then .ok ((), ∅)
        else .error (.query .uniqueViolation (some .primaryKey))
      else if (db.workspaces.find workspaceId).isNone then
        .error (.query .foreignKeyViolation (some .memberWorkspace))
      else if (db.users.find userId).isNone then
        .error (.query .foreignKeyViolation (some .memberUser))
      else
        .ok ((),
          { members := [.put { workspaceId, userId, role, createdAt := now }] })

/-- `SELECT id FROM workspaces WHERE id = $1 FOR UPDATE`. -/
def lockWorkspace (id : Nat) : Tx Unit :=
  .select
    (fun db => if (db.workspaces.find id).isSome then
      [(.workspace id, .update)] else [])
    fun _ _ => ()

/-- The workspace joined with the caller's membership. -/
def membership (db : Db) (id userId : Nat) : Option Workspace :=
  match db.workspaces.find id, db.members.find (id, userId) with
  | some workspace, some member =>
      some { id := workspace.id, name := workspace.name, role := member.role }
  | _, _ => none

/-- Members that are not deleted, `ORDER BY m.created_at, m.user_id`. -/
def memberList (db : Db) (id : Nat) : List WorkspaceMember :=
  let joined := (db.members.rows.filter fun row =>
      row.workspaceId = id).filterMap fun row =>
    ((db.users.find row.userId).filter fun user =>
      user.deletedAt.isNone).map fun user => (row, user)
  let sorted := joined.insertionSort fun left right =>
    left.1.createdAt < right.1.createdAt ∨
      left.1.createdAt = right.1.createdAt ∧ left.1.userId ≤ right.1.userId
  sorted.map fun (row, user) =>
    { userId := row.userId
      email := user.email
      name := concatWs user.firstName user.lastName
      role := row.role }

/-- Active invitations, `ORDER BY created_at DESC`. -/
def invitationList (now : Nat) (db : Db) (id : Nat) :
    List WorkspaceInvitation :=
  let active := db.invitations.rows.filter fun row =>
    row.workspaceId = id ∧ row.ActiveAt now
  let sorted := active.insertionSort fun left right =>
    right.createdAt ≤ left.createdAt
  sorted.map fun row =>
    { id := row.id, email := row.email, role := row.role
      expiresAt := row.expiresAt }

/-- `UPDATE workspaces SET name = $2 WHERE id = $1`. -/
def updateWorkspaceName (id : Nat) (name : String) : Tx Unit :=
  .execute
    (fun db => if (db.workspaces.find id).isSome then
      [(.workspace id, .update)] else [])
    fun _ db =>
      match db.workspaces.find id with
      | none => .ok ((), ∅)
      | some row => .ok ((), { workspaces := [.put { row with name }] })

/-- Live members of the workspace whose lower-cased email is `email`. -/
def membersWithEmail (runtime : Runtime) (db : Db) (id : Nat)
    (email : String) : List Nat :=
  (db.members.rows.filter fun row => row.workspaceId = id).filterMap fun row =>
    ((db.users.find row.userId).filter fun user =>
      user.deletedAt.isNone ∧
        user.email.map runtime.lower = some email).map (·.id)

/-- Active invitations of the workspace addressed to somebody else. -/
def otherInvitationCount (now : Nat) (db : Db) (id : Nat) (email : String) :
    Nat :=
  (db.invitations.rows.filter fun row =>
    row.workspaceId = id ∧ row.email ≠ email ∧ row.ActiveAt now).length

def pendingInvitations (db : Db) (id : Nat) (email : String) :
    List InvitationRow :=
  db.invitations.rows.filter fun row =>
    row.workspaceId = id ∧ row.email = email ∧ row.Pending

/-- `UPDATE workspace_invitations SET revoked_at = now()` for the pending
invitation of an address. -/
def revokePending (id : Nat) (email : String) : Tx Unit :=
  .execute
    (fun db => (pendingInvitations db id email).map fun row =>
      (.invitation row.id, .update))
    fun now db =>
      .ok ((),
        { invitations := (pendingInvitations db id email).map fun row =>
            .put { row with revokedAt := some now } })

def insertInvitation (row : Nat → InvitationRow) : Tx Unit :=
  .execute
    (fun _ =>
      [(.pendingInvitation (row 0).workspaceId (row 0).email, .update),
        (.invitationToken (row 0).tokenHash, .update)])
    fun now db =>
      let row := row now
      if (db.invitations.find row.id).isSome then
        .error (.query .uniqueViolation (some .primaryKey))
      else if db.invitations.rows.any fun other =>
          other.tokenHash = row.tokenHash then
        .error (.query .uniqueViolation (some .invitationToken))
      else if (pendingInvitations db row.workspaceId row.email).isEmpty.not then
        .error (.query .uniqueViolation (some .pendingInvitation))
      else if (db.workspaces.find row.workspaceId).isNone then
        .error (.query .foreignKeyViolation (some .invitationWorkspace))
      else .ok ((), { invitations := [.put row] })

def invitationByToken (db : Db) (tokenHash : Nat) : Option InvitationRow :=
  db.invitations.rows.find? fun row => row.tokenHash = tokenHash

def activeByToken (now : Nat) (db : Db) (tokenHash : Nat) :
    Option InvitationRow :=
  db.invitations.rows.find? fun row =>
    row.tokenHash = tokenHash ∧ row.ActiveAt now

/-- `SELECT id, email, role FROM workspace_invitations ... FOR UPDATE`. -/
def selectActiveInvitation (tokenHash : Nat) : Tx (Option InvitationRow) :=
  .run
    { locks := fun now db => ((activeByToken now db tokenHash).map fun row =>
        (Lock.invitation row.id, LockMode.update)).toList
      run := fun now db => .ok (activeByToken now db tokenHash, ∅) }

/-- `UPDATE workspace_invitations SET accepted_at = now() WHERE id = $1`. -/
def acceptInvitation (id : Nat) : Tx Unit :=
  .execute
    (fun db => if (db.invitations.find id).isSome then
      [(.invitation id, .update)] else [])
    fun now db =>
      match db.invitations.find id with
      | none => .ok ((), ∅)
      | some row =>
          .ok ((),
            { invitations := [.put { row with acceptedAt := some now }] })

/-- The pending invitations `revoke` may end: one row at most, as `id` is the
primary key.  Administrators reach member invitations only. -/
def revocable (db : Db) (workspaceId id : Nat) (actor : WorkspaceRole) :
    Option InvitationRow :=
  (db.invitations.find id).filter fun row =>
    row.workspaceId = workspaceId ∧ row.Pending ∧
      (actor = .owner ∨ row.role = .member)

/-- What the driver resolves an `UPDATE` to: an array of two elements, the
returned rows and the affected count. -/
structure UpdateResult where
  rows : List Nat
  affected : Nat
  deriving DecidableEq, Repr

/-- `length` of that array. -/
def UpdateResult.length (_ : UpdateResult) : Nat := 2

/-- `UPDATE workspace_invitations SET revoked_at = now() ... RETURNING id`. -/
def revokeById (workspaceId id : Nat) (actor : WorkspaceRole) :
    Tx UpdateResult :=
  .execute
    (fun db => (revocable db workspaceId id actor).toList.map fun row =>
      (.invitation row.id, .update))
    fun now db =>
      let rows := (revocable db workspaceId id actor).toList
      .ok ({ rows := rows.map (·.id), affected := rows.length },
        { invitations := rows.map fun row =>
            .put { row with revokedAt := some now } })

/-- Owners of the workspace that are neither deleted nor suspended. -/
def activeOwners (db : Db) (id : Nat) : List MemberRow :=
  db.members.rows.filter fun row =>
    row.workspaceId = id ∧ row.role = .owner ∧
      (activeUser db row.userId).isSome

def deleteMember (id memberId : Nat) : Tx Unit :=
  .execute
    (fun db => if (db.members.find (id, memberId)).isSome then
      [(.member id memberId, .update)] else [])
    fun _ db =>
      if (db.members.find (id, memberId)).isSome then
        .ok ((), { members := [.drop (id, memberId)] })
      else .ok ((), ∅)

def updateMemberRole (id memberId : Nat) (role : WorkspaceRole) : Tx Unit :=
  .execute
    (fun db => if (db.members.find (id, memberId)).isSome then
      [(.member id memberId, .update)] else [])
    fun _ db =>
      match db.members.find (id, memberId) with
      | none => .ok ((), ∅)
      | some row => .ok ((), { members := [.put { row with role }] })

def authorize (id userId : Nat) (manage : Bool) : Tx Workspace := do
  lockWorkspace id
  match ← Tx.query fun _ db => membership db id userId with
  | none => Tx.throw .notFound
  | some workspace =>
      -- Platform administrators do not bypass workspace membership.
      if manage ∧ workspace.role = .member then Tx.throw .forbidden
      else pure workspace

def list (userId : Nat) : Tx (List Workspace) :=
  Tx.query fun _ db =>
    let joined := (db.members.rows.filter fun row =>
        row.userId = userId).filterMap fun row =>
      (db.workspaces.find row.workspaceId).map fun workspace => (workspace, row)
    let sorted := joined.insertionSort fun left right =>
      left.1.createdAt < right.1.createdAt ∨
        left.1.createdAt = right.1.createdAt ∧ left.1.id ≤ right.1.id
    sorted.map fun (workspace, row) =>
      { id := workspace.id, name := workspace.name, role := row.role }

def create (userId : Nat) (name : String) : Tx Workspace :=
  .transaction do
    -- Serializes workspace creation per account to enforce the limit.
    match ← selectActiveUser userId .update with
    | none => Tx.throw .forbidden
    | some _ =>
        let count ← Tx.query fun _ db => ownedCount db userId
        if 20 ≤ count then Tx.throw (.conflict "workspaceLimit")
        else do
          let id ← Program.draw .uuid
          insertWorkspace id name
          insertMember id userId .owner false
          pure { id, name, role := .owner }

def details (id userId : Nat) : Tx WorkspaceDetails :=
  .transaction do
    let workspace ← authorize id userId false
    let members ← Tx.query fun _ db => memberList db id
    let invitations ←
      if workspace.role = .member then pure []
      else Tx.query fun now db => invitationList now db id
    pure { workspace, members, invitations }

def rename (id userId : Nat) (name : String) : Tx Unit :=
  .transaction do
    let _ ← authorize id userId true
    updateWorkspaceName id name

def invite (runtime : Runtime) (id userId : Nat) (body : InviteDto) : Tx Nat :=
  .transaction do
    let actor ← authorize id userId true
    if actor.role ≠ .owner ∧ body.role ≠ .member then
      Tx.throw (.forbidden "ownerRequired")
    else do
      let existing ← Tx.query fun _ db =>
        membersWithEmail runtime db id body.email
      if existing ≠ [] then Tx.throw (.conflict "alreadyMember")
      else do
        let count ← Tx.query fun now db =>
          otherInvitationCount now db id body.email
        if 100 ≤ count then Tx.throw (.conflict "invitationLimit")
        else do
          -- Reissuing invalidates the previous token, also an expired one.
          revokePending id body.email
          let token ← Program.draw .randomBytes
          let invitationId ← Program.draw .uuid
          insertInvitation fun now =>
            { id := invitationId
              workspaceId := id
              email := body.email
              role := body.role
              tokenHash := runtime.digest token
              expiresAt := now + sevenDays
              createdAt := now
              acceptedAt := none
              revokedAt := none }
          pure token

def accept (runtime : Runtime) (userId token : Nat) : Tx Nat :=
  .transaction do
    match ← Tx.query fun _ db => invitationByToken db (runtime.digest token) with
    | none => Tx.throw (.notFound "invitationInvalid")
    | some candidate => do
        -- All membership and invitation writes take the same lock.
        lockWorkspace candidate.workspaceId
        match ← selectActiveInvitation (runtime.digest token) with
        | none => Tx.throw (.notFound "invitationInvalid")
        | some invite => do
            let user ← Tx.query fun _ db => activeUser db userId
            if (user.bind (·.email)).map runtime.toLowerCase =
                some invite.email then do
              insertMember candidate.workspaceId userId
                invite.role.toWorkspaceRole true
              acceptInvitation invite.id
              pure candidate.workspaceId
            else Tx.throw (.forbidden "invitationEmailMismatch")

def revoke (id userId invitationId : Nat) : Tx Unit :=
  .transaction do
    let actor ← authorize id userId true
    let rows ← revokeById id invitationId actor.role
    if rows.length = 0 then Tx.throw .notFound
    else pure ()

/-- `changeMember` from the point where its locks are taken. -/
def changeTarget (id userId memberId : Nat) (role : Option WorkspaceRole)
    (actor : WorkspaceRole) : Tx Unit := do
  match ← Tx.query fun _ db => db.members.find (id, memberId) with
  | none => Tx.throw .notFound
  | some target => do
      let leaving : Bool := memberId = userId ∧ role = none
      if leaving = false ∧ actor ≠ .owner ∧
          ¬(actor = .admin ∧ target.role = .member ∧
            (role = some .member ∨ role = none)) then
        Tx.throw (.forbidden "ownerRequired")
      else do
        let last ←
          if target.role = .owner ∧ role ≠ some .owner then
            Tx.query fun _ db => decide ((activeOwners db id).length ≤ 1)
          else pure false
        if last = true then Tx.throw (.conflict "lastOwner")
        else
          match role with
          | none => deleteMember id memberId
          | some role => updateMemberRole id memberId role

/-- The statement that ends `changeTarget`. -/
abbrev changeOrDelete (id memberId : Nat) (role : Option WorkspaceRole) :
    Tx Unit :=
  match role with
  | none => deleteMember id memberId
  | some role => updateMemberRole id memberId role

/-- `role = none` removes the member. -/
def changeMember (id userId memberId : Nat) (role : Option WorkspaceRole) :
    Tx Unit :=
  .transaction do
    let actor ← authorize id userId false
    let active ←
      if role = none then pure true
      else (·.isSome) <$> selectActiveUser memberId .share
    if active = false then Tx.throw (.conflict "memberInactive")
    else changeTarget id userId memberId role actor.role

end WorkspacesService

end SaasFoundation
