import SaasFoundation.Api.Commits
import SaasFoundation.Relational.Part
import SaasFoundation.Transaction.Serial

/-!
# Workspaces do not see each other

The requests on one workspace read its rows and the accounts, and write its
rows.  Identifiers a request is given, of members or invitations of other
workspaces, find nothing.
-/

namespace SaasFoundation

open Relational Transaction Api

variable {runtime : Runtime} {fresh : Nat → Prop} {id : Nat} {α β : Type}

/-- The same accounts and the same rows of one workspace.  In neither database
does another workspace use a value the request may draw. -/
structure SameTenant (runtime : Runtime) (fresh : Nat → Prop) (id : Nat)
    (left right : Db) : Prop where
  users : left.users = right.users
  workspace : left.workspaces.find id = right.workspaces.find id
  members : Table.SameRows (fun row : MemberRow => row.workspaceId = id)
    left.members right.members
  invitations : Table.SameRows (fun row : InvitationRow => row.workspaceId = id)
    left.invitations right.invitations
  unused : ∀ row, row ∈ left.invitations ∨ row ∈ right.invitations →
    row.workspaceId ≠ id → ∀ value, fresh value →
      row.id ≠ value ∧ row.tokenHash ≠ runtime.digest value

/-- The rows of all other workspaces are the same. -/
structure SameElsewhere (id : Nat) (before after : Db) : Prop where
  workspaces : Table.SameOthers (fun row : WorkspaceRow => row.id = id)
    before.workspaces after.workspaces
  members : Table.SameOthers (fun row : MemberRow => row.workspaceId = id)
    before.members after.members
  invitations : Table.SameOthers
    (fun row : InvitationRow => row.workspaceId = id) before.invitations
    after.invitations

theorem SameElsewhere.refl (id : Nat) (db : Db) : SameElsewhere id db db :=
  ⟨.refl _ _, .refl _ _, .refl _ _⟩

theorem others_of_workspaces {table : Table WorkspaceRow}
    {changes : List (Change WorkspaceRow Nat)}
    (each : ∀ change ∈ changes, change.target = id) :
    Table.SameOthers (fun row : WorkspaceRow => row.id = id) table
      (Table.applyAll changes table) := by
  apply Table.sameOthers_of_changes
  · intro row put
    simpa [Change.target] using each _ put
  · intro change member row _ hit
    simpa using hit.trans (each change member)

theorem others_of_members {table : Table MemberRow}
    {changes : List (Change MemberRow (Nat × Nat))}
    (each : ∀ change ∈ changes, change.target.1 = id) :
    Table.SameOthers (fun row : MemberRow => row.workspaceId = id) table
      (Table.applyAll changes table) := by
  apply Table.sameOthers_of_changes
  · intro row put
    simpa [Change.target] using each _ put
  · intro change member row _ hit
    have sameId : row.workspaceId = change.target.1 := congrArg Prod.fst hit
    simpa using sameId.trans (each change member)

/-- Each row put is one of the workspace, or it is new. -/
theorem others_of_invitations {table : Table InvitationRow}
    {changes : List (Change InvitationRow Nat)}
    (each : ∀ change ∈ changes, ∃ row, change = .put row ∧
      row.workspaceId = id ∧
      ((∃ old ∈ table, old.id = row.id ∧ old.workspaceId = id) ∨
        table.find row.id = none)) :
    Table.SameOthers (fun row : InvitationRow => row.workspaceId = id) table
      (Table.applyAll changes table) := by
  apply Table.sameOthers_of_changes
  · intro row put
    obtain ⟨_, same, own, _⟩ := each _ put
    cases same
    simpa using own
  · intro change member row stored hit
    obtain ⟨new, rfl, _, origin⟩ := each change member
    rcases origin with ⟨old, oldStored, sameId, own⟩ | absent
    · have rows : row = old :=
        Table.eq_of_key stored oldStored (hit.trans sameId.symm)
      simpa [rows] using own
    · exact absurd hit (Table.find_eq_none.mp absent row stored)

/-- One workspace, as a part of the database. -/
def tenant (runtime : Runtime) (fresh : Nat → Prop) (id : Nat) :
    Transaction.Part Db where
  Agree := SameTenant runtime fresh id
  Outside := SameElsewhere id
  outside_refl := .refl id
  outside_trans first second :=
    ⟨first.workspaces.trans second.workspaces,
      first.members.trans second.members,
      first.invitations.trans second.invitations⟩

theorem local_select {locks : Db → List (Lock × LockMode)}
    {read : Nat → Db → β}
    (same : ∀ now left right, SameTenant runtime fresh id left right →
      read now right = read now left) :
    (Tx.select locks read).Local (tenant runtime fresh id) fresh := by
  intro now left right agree
  refine ⟨?_, ?_⟩
  · simp only [same now left right agree]
  · intro value writes ran
    cases ran
    exact ⟨agree, .refl id left, trivial⟩

theorem local_query {read : Nat → Db → β}
    (same : ∀ now left right, SameTenant runtime fresh id left right →
      read now right = read now left) :
    (Tx.query read).Local (tenant runtime fresh id) fresh :=
  local_select same

theorem local_execute {locks : Db → List (Lock × LockMode)}
    {effect : Nat → Db → Except Failure (β × Writes)}
    (same : ∀ now left right, SameTenant runtime fresh id left right →
      effect now right = effect now left ∧
      ∀ value writes, effect now left = .ok (value, writes) →
        SameTenant runtime fresh id (WriteSet.apply writes left)
          (WriteSet.apply writes right) ∧
        SameElsewhere id left (WriteSet.apply writes left)) :
    (Tx.execute locks effect).Local (tenant runtime fresh id) fresh := by
  intro now left right agree
  obtain ⟨equal, ok⟩ := same now left right agree
  refine ⟨equal, fun value writes ran => ?_⟩
  obtain ⟨agrees, outside⟩ := ok value writes ran
  exact ⟨agrees, outside, trivial⟩

theorem local_throw {failure : Failure} :
    (Tx.throw failure : Tx α).Local (tenant runtime fresh id) fresh :=
  trivial

namespace SameTenant

variable {left right : Db}

theorem symm (same : SameTenant runtime fresh id left right) :
    SameTenant runtime fresh id right left :=
  ⟨same.users.symm, same.workspace.symm, same.members.symm,
    same.invitations.symm, fun row member => same.unused row member.symm⟩

theorem nothing (same : SameTenant runtime fresh id left right) :
    SameTenant runtime fresh id (WriteSet.apply (∅ : Writes) left)
      (WriteSet.apply (∅ : Writes) right) := by
  simpa using same

theorem find_member (same : SameTenant runtime fresh id left right)
    (userId : Nat) :
    left.members.find (id, userId) = right.members.find (id, userId) :=
  same.members.find fun row hit => by simpa using congrArg Prod.fst hit

/-- After changes of the workspace's members. -/
theorem with_members (same : SameTenant runtime fresh id left right)
    {changes : List (Change MemberRow (Nat × Nat))}
    (members : Table.SameRows (fun row : MemberRow => row.workspaceId = id)
      (Table.applyAll changes left.members)
      (Table.applyAll changes right.members)) :
    SameTenant runtime fresh id
      (WriteSet.apply ({ members := changes } : Writes) left)
      (WriteSet.apply ({ members := changes } : Writes) right) :=
  ⟨same.users, same.workspace, members, same.invitations, same.unused⟩

/-- After changes of the workspace's invitations. -/
theorem with_invitations (same : SameTenant runtime fresh id left right)
    {changes : List (Change InvitationRow Nat)}
    (invitations : Table.SameRows
      (fun row : InvitationRow => row.workspaceId = id)
      (Table.applyAll changes left.invitations)
      (Table.applyAll changes right.invitations))
    (own : ∀ row, .put row ∈ changes → row.workspaceId = id) :
    SameTenant runtime fresh id
      (WriteSet.apply ({ invitations := changes } : Writes) left)
      (WriteSet.apply ({ invitations := changes } : Writes) right) := by
  refine ⟨same.users, same.workspace, same.members, invitations, ?_⟩
  have stored {table : Table InvitationRow} {row : InvitationRow}
      (member : row ∈ Table.applyAll changes table)
      (other : row.workspaceId ≠ id) : row ∈ table := by
    rcases Table.mem_of_mem_applyAll member with put | ⟨stored, _⟩
    · exact absurd (own row put) other
    · exact stored
  intro row member other
  exact same.unused row
    (member.imp (fun here => stored here other) fun here => stored here other)
    other

end SameTenant

namespace WorkspacesService

variable {left right : Db}

theorem local_lockWorkspace :
    (lockWorkspace id).Local (tenant runtime fresh id) fresh :=
  local_select fun _ _ _ _ => rfl

theorem local_membership {userId : Nat} :
    (Tx.query fun _ db => membership db id userId).Local
      (tenant runtime fresh id) fresh := by
  refine local_query fun _ left right same => ?_
  simp only [membership, same.workspace, same.find_member]

theorem local_authorize {userId : Nat} {manage : Bool} :
    (authorize id userId manage).Local (tenant runtime fresh id) fresh := by
  refine local_lockWorkspace.bind fun _ => local_membership.bind fun found => ?_
  cases found with
  | none => exact local_throw
  | some workspace =>
      dsimp only
      split
      · exact local_throw
      · trivial

theorem local_selectActiveUser {userId : Nat} {mode : LockMode} :
    (selectActiveUser userId mode).Local (tenant runtime fresh id) fresh :=
  local_select fun _ left right same => by
    simp only [activeUser, same.users]

theorem local_updateWorkspaceName {name : String} :
    (updateWorkspaceName id name).Local (tenant runtime fresh id) fresh := by
  refine local_execute fun _ left right same => ?_
  refine ⟨by simp only [same.workspace], ?_⟩
  intro value writes ran
  cases found : left.workspaces.find id with
  | none =>
      rw [found] at ran
      cases ran
      exact ⟨same.nothing, .refl id left⟩
  | some row =>
      rw [found] at ran
      cases ran
      have sameId : row.id = id := (Table.find_eq_some.mp found).2
      refine ⟨⟨same.users, ?_, same.members, same.invitations, same.unused⟩,
        ⟨?_, .refl _ _, .refl _ _⟩⟩
      · simp [Table.find_put, sameId]
      · exact others_of_workspaces (by simp [Change.target, sameId])

theorem pendingInvitations_eq (same : SameTenant runtime fresh id left right)
    (email : String) :
    pendingInvitations left id email = pendingInvitations right id email :=
  same.invitations.select fun row kept => by
    simp only [decide_eq_true_eq] at kept ⊢
    exact kept.1

/-- Invitations of the workspace are changed in place. -/
theorem same_of_changed (same : SameTenant runtime fresh id left right)
    {rows : List InvitationRow} {change : InvitationRow → InvitationRow}
    (stored : ∀ row ∈ rows, row ∈ left.invitations ∧ row.workspaceId = id)
    (kept : ∀ row, (change row).id = row.id ∧
      (change row).workspaceId = row.workspaceId) :
    let writes : Writes :=
      { invitations := rows.map fun row => .put (change row) }
    SameTenant runtime fresh id (WriteSet.apply writes left)
        (WriteSet.apply writes right) ∧
      SameElsewhere id left (WriteSet.apply writes left) := by
  have puts : (rows.map fun row => (.put (change row) : Change InvitationRow Nat))
      = (rows.map change).map .put := by
    simp
  constructor
  · refine same.with_invitations ?_ ?_
    · rw [puts]
      refine same.invitations.puts_stored ?_
      intro row listed
      obtain ⟨old, member, rfl⟩ := List.mem_map.mp listed
      obtain ⟨oldStored, own⟩ := stored old member
      obtain ⟨sameId, sameWorkspace⟩ := kept old
      exact ⟨by simpa [sameWorkspace] using own, old, oldStored, sameId.symm,
        by simpa using own⟩
    · intro row put
      obtain ⟨old, member, isRow⟩ := List.mem_map.mp put
      cases isRow
      rw [(kept old).2]
      exact (stored old member).2
  · refine ⟨.refl _ _, .refl _ _, others_of_invitations ?_⟩
    intro written member
    obtain ⟨old, listed, rfl⟩ := List.mem_map.mp member
    obtain ⟨oldStored, own⟩ := stored old listed
    exact ⟨_, rfl, (kept old).2.trans own,
      .inl ⟨old, oldStored, (kept old).1.symm, own⟩⟩

theorem local_revokePending {email : String} :
    (revokePending id email).Local (tenant runtime fresh id) fresh := by
  refine local_execute fun now left right same => ?_
  refine ⟨by rw [pendingInvitations_eq same], ?_⟩
  intro value writes ran
  cases ran
  let revoked := fun row : InvitationRow => { row with revokedAt := some now }
  have keeps : ∀ row, (revoked row).id = row.id ∧
      (revoked row).workspaceId = row.workspaceId := fun _ => ⟨rfl, rfl⟩
  refine same_of_changed same (fun row listed => ?_) keeps
  have pending := mem_pendingInvitations.mp listed
  exact ⟨pending.1, pending.2.1⟩

theorem revocable_eq (same : SameTenant runtime fresh id left right)
    (invitationId : Nat) (actor : WorkspaceRole) :
    revocable left id invitationId actor =
      revocable right id invitationId actor := by
  ext row
  simp only [revocable, Option.filter_eq_some_iff, Table.find_eq_some,
    decide_eq_true_eq]
  constructor
  · rintro ⟨⟨member, key⟩, own, rest⟩
    exact ⟨⟨(same.invitations.mem (by simpa using own)).mp member, key⟩, own,
      rest⟩
  · rintro ⟨⟨member, key⟩, own, rest⟩
    exact ⟨⟨(same.invitations.mem (by simpa using own)).mpr member, key⟩, own,
      rest⟩

theorem stored_of_revocable {db : Db} {invitationId : Nat}
    {actor : WorkspaceRole} {row : InvitationRow}
    (found : revocable db id invitationId actor = some row) :
    row ∈ db.invitations ∧ row.workspaceId = id := by
  simp only [revocable, Option.filter_eq_some_iff, Table.find_eq_some,
    decide_eq_true_eq] at found
  exact ⟨found.1.1, found.2.1⟩

theorem local_revokeById {invitationId : Nat} {actor : WorkspaceRole} :
    (revokeById id invitationId actor).Local (tenant runtime fresh id)
      fresh := by
  refine local_execute fun now left right same => ?_
  refine ⟨by rw [revocable_eq same], ?_⟩
  intro value writes ran
  cases ran
  let revoked := fun row : InvitationRow => { row with revokedAt := some now }
  have keeps : ∀ row, (revoked row).id = row.id ∧
      (revoked row).workspaceId = row.workspaceId := fun _ => ⟨rfl, rfl⟩
  refine same_of_changed same (fun row listed => ?_) keeps
  exact stored_of_revocable (Option.mem_toList.mp listed)

/-- An invitation with a value that is drawn now is one of the workspace. -/
theorem stored_of_drawn (same : SameTenant runtime fresh id left right)
    {row : InvitationRow} (stored : row ∈ left.invitations) {value : Nat}
    (drawn : fresh value)
    (uses : row.id = value ∨ row.tokenHash = runtime.digest value) :
    row ∈ right.invitations := by
  have own : row.workspaceId = id := by
    by_contra other
    obtain ⟨unusedId, unusedToken⟩ :=
      same.unused row (.inl stored) other value drawn
    exact uses.elim unusedId unusedToken
  exact (same.invitations.mem (by simpa using own)).mp stored

theorem find_drawn (same : SameTenant runtime fresh id left right) {value : Nat}
    (drawn : fresh value) :
    left.invitations.find value = right.invitations.find value := by
  ext row
  simp only [Table.find_eq_some]
  constructor
  · rintro ⟨stored, key⟩
    exact ⟨stored_of_drawn same stored drawn (.inl key), key⟩
  · rintro ⟨stored, key⟩
    exact ⟨stored_of_drawn same.symm stored drawn (.inl key), key⟩

theorem token_drawn (same : SameTenant runtime fresh id left right)
    {token : Nat} (drawn : fresh token) :
    (left.invitations.rows.any fun row =>
        row.tokenHash = runtime.digest token) =
      right.invitations.rows.any fun row =>
        row.tokenHash = runtime.digest token := by
  rw [Bool.eq_iff_iff]
  simp only [List.any_eq_true, decide_eq_true_eq]
  constructor
  · rintro ⟨row, stored, token⟩
    exact ⟨row, stored_of_drawn same stored drawn (.inr token), token⟩
  · rintro ⟨row, stored, token⟩
    exact ⟨row, stored_of_drawn same.symm stored drawn (.inr token), token⟩

theorem local_insertInvitation {row : Nat → InvitationRow}
    {invitationId token : Nat} (drawnId : fresh invitationId)
    (drawnToken : fresh token) (own : ∀ now, (row now).workspaceId = id)
    (isId : ∀ now, (row now).id = invitationId)
    (isToken : ∀ now, (row now).tokenHash = runtime.digest token) :
    (insertInvitation row).Local (tenant runtime fresh id) fresh := by
  refine local_execute fun now left right same => ?_
  simp only [isId, isToken, own, find_drawn same drawnId,
    token_drawn same drawnToken, pendingInvitations_eq same, same.workspace,
    true_and]
  intro value writes ran
  split at ran
  · cases ran
  rename_i absent
  have absentRight : right.invitations.find (key (row now)) = none := by
    rw [InvitationRow.key_eq, isId]
    simpa using absent
  have absentLeft : left.invitations.find (key (row now)) = none := by
    rw [InvitationRow.key_eq, isId, find_drawn same drawnId]
    simpa using absent
  split at ran
  · cases ran
  split at ran
  · cases ran
  split at ran
  · cases ran
  cases ran
  constructor
  · refine same.with_invitations
      (same.invitations.put_new absentLeft absentRight) ?_
    simp [own]
  · refine ⟨.refl _ _, .refl _ _, others_of_invitations ?_⟩
    rw [List.forall_mem_singleton]
    exact ⟨_, rfl, own now, .inr absentLeft⟩

theorem local_findMember {memberId : Nat} :
    (Tx.query fun _ db => db.members.find (id, memberId)).Local
      (tenant runtime fresh id) fresh :=
  local_query fun _ _ _ same => (same.find_member memberId).symm

theorem activeOwners_eq (same : SameTenant runtime fresh id left right) :
    activeOwners left id = activeOwners right id := by
  unfold activeOwners
  have users : ∀ userId, activeUser left userId = activeUser right userId := by
    intro userId
    rw [activeUser, activeUser, same.users]
  simp only [users]
  refine same.members.select fun row kept => ?_
  simp only [decide_eq_true_eq] at kept ⊢
  exact kept.1

/-- The row of a member is replaced or removed. -/
theorem same_of_member (same : SameTenant runtime fresh id left right)
    {change : Change MemberRow (Nat × Nat)} {memberId : Nat} {old : MemberRow}
    (found : left.members.find (id, memberId) = some old)
    (isChange : change = .drop (id, memberId) ∨
      ∃ role, change = .put { old with role }) :
    SameTenant runtime fresh id
        (WriteSet.apply ({ members := [change] } : Writes) left)
        (WriteSet.apply ({ members := [change] } : Writes) right) ∧
      SameElsewhere id left
        (WriteSet.apply ({ members := [change] } : Writes) left) := by
  obtain ⟨stored, sameKey⟩ := Table.find_eq_some.mp found
  have own : old.workspaceId = id := congrArg Prod.fst sameKey
  rcases isChange with rfl | ⟨role, rfl⟩
  · exact ⟨same.with_members (same.members.drop _), .refl _ _,
      others_of_members (by simp [Change.target]), .refl _ _⟩
  · exact ⟨same.with_members
        (same.members.put_stored stored rfl (by simpa using own)
          (by simpa using own)),
      .refl _ _, others_of_members (by simp [Change.target, own]), .refl _ _⟩

theorem local_deleteMember {memberId : Nat} :
    (deleteMember id memberId).Local (tenant runtime fresh id) fresh := by
  refine local_execute fun now left right same => ?_
  refine ⟨by rw [same.find_member], ?_⟩
  intro value writes ran
  cases found : left.members.find (id, memberId) with
  | none =>
      rw [found] at ran
      cases ran
      exact ⟨same.nothing, .refl id left⟩
  | some old =>
      rw [found] at ran
      cases ran
      exact same_of_member same found (.inl rfl)

theorem local_updateMemberRole {memberId : Nat} {role : WorkspaceRole} :
    (updateMemberRole id memberId role).Local (tenant runtime fresh id)
      fresh := by
  refine local_execute fun now left right same => ?_
  refine ⟨by rw [same.find_member], ?_⟩
  intro value writes ran
  cases found : left.members.find (id, memberId) with
  | none =>
      rw [found] at ran
      cases ran
      exact ⟨same.nothing, .refl id left⟩
  | some old =>
      rw [found] at ran
      cases ran
      exact same_of_member same found (.inr ⟨role, rfl⟩)

theorem local_details {userId : Nat} :
    (details id userId).Local (tenant runtime fresh id) fresh := by
  refine Program.Local.transaction (local_authorize.bind fun workspace => ?_)
  have members : (Tx.query fun _ db => memberList db id).Local
      (tenant runtime fresh id) fresh := by
    refine local_query fun _ left right same => ?_
    have rows : left.members.rows.filter (fun row => row.workspaceId = id) =
        right.members.rows.filter fun row => row.workspaceId = id :=
      same.members
    simp only [memberList, same.users, rows]
  have invitations : (Tx.query fun now db => invitationList now db id).Local
      (tenant runtime fresh id) fresh := by
    refine local_query fun now left right same => ?_
    have inside : ∀ row : InvitationRow,
        decide (row.workspaceId = id ∧ row.ActiveAt now) = true →
          decide (row.workspaceId = id) = true := by
      intro row kept
      simp only [decide_eq_true_eq] at kept ⊢
      exact kept.1
    have rows := same.invitations.select inside
    simp only [invitationList, rows]
  refine members.bind fun _ => ?_
  split
  · trivial
  · exact invitations.bind fun _ => trivial

theorem local_rename {userId : Nat} {name : String} :
    (rename id userId name).Local (tenant runtime fresh id) fresh :=
  .transaction (local_authorize.bind fun _ => local_updateWorkspaceName)

theorem local_invite {userId : Nat} {body : InviteDto} :
    (invite runtime id userId body).Local (tenant runtime fresh id) fresh := by
  refine Program.Local.transaction (local_authorize.bind fun actor => ?_)
  have existing : (Tx.query fun _ db =>
      membersWithEmail runtime db id body.email).Local
        (tenant runtime fresh id) fresh := by
    refine local_query fun _ left right same => ?_
    have rows : left.members.rows.filter (fun row => row.workspaceId = id) =
        right.members.rows.filter fun row => row.workspaceId = id :=
      same.members
    simp only [membersWithEmail, same.users, rows]
  have count : (Tx.query fun now db =>
      otherInvitationCount now db id body.email).Local
        (tenant runtime fresh id) fresh := by
    refine local_query fun now left right same => ?_
    have inside : ∀ row : InvitationRow,
        decide (row.workspaceId = id ∧ row.email ≠ body.email ∧
          row.ActiveAt now) = true → decide (row.workspaceId = id) = true := by
      intro row kept
      simp only [decide_eq_true_eq] at kept ⊢
      exact kept.1
    have rows := same.invitations.select inside
    simp only [otherInvitationCount, rows]
  split
  · exact local_throw
  refine existing.bind fun found => ?_
  split
  · exact local_throw
  refine count.bind fun found => ?_
  split
  · exact local_throw
  refine local_revokePending.bind fun _ => ?_
  refine .draw_bind fun token drawnToken => ?_
  refine .draw_bind fun invitationId drawnId => ?_
  refine Program.Local.bind ?_ fun _ => trivial
  exact local_insertInvitation drawnId drawnToken (fun _ => rfl)
    (fun _ => rfl) fun _ => rfl

theorem local_revoke {userId invitationId : Nat} :
    (revoke id userId invitationId).Local (tenant runtime fresh id) fresh := by
  refine Program.Local.transaction (local_authorize.bind fun actor => ?_)
  refine local_revokeById.bind fun rows => ?_
  split
  · exact local_throw
  · trivial

theorem local_changeTarget {userId memberId : Nat}
    {role : Option WorkspaceRole} {actor : WorkspaceRole} :
    (changeTarget id userId memberId role actor).Local
      (tenant runtime fresh id) fresh := by
  refine local_findMember.bind fun found => ?_
  cases found with
  | none => exact local_throw
  | some target =>
      have owners : (Tx.query fun _ db =>
          decide ((activeOwners db id).length ≤ 1)).Local
            (tenant runtime fresh id) fresh :=
        local_query fun _ left right same => by rw [activeOwners_eq same]
      have store : ∀ last : Bool,
          (if last = true then Tx.throw (.conflict "lastOwner")
            else changeOrDelete id memberId role).Local
            (tenant runtime fresh id) fresh := by
        intro last
        split
        · exact local_throw
        · cases role with
          | none => exact local_deleteMember
          | some role => exact local_updateMemberRole
      dsimp only
      split
      · exact local_throw
      · split
        · exact owners.bind store
        · exact store false

theorem local_changeMember {userId memberId : Nat}
    {role : Option WorkspaceRole} :
    (changeMember id userId memberId role).Local (tenant runtime fresh id)
      fresh := by
  refine Program.Local.transaction (local_authorize.bind fun actor => ?_)
  have rest : ∀ active : Bool,
      (if active = false then Tx.throw (.conflict "memberInactive")
        else changeTarget id userId memberId role actor.role : Tx Unit).Local
        (tenant runtime fresh id) fresh := by
    intro active
    split
    · exact local_throw
    · exact local_changeTarget
  split
  · exact rest true
  · rw [map_eq_pure_bind, bind_assoc]
    exact local_selectActiveUser.bind fun found => rest found.isSome

end WorkspacesService

/-- The workspace a request works on, and its caller. -/
def WorkspaceCall.tenant : WorkspaceCall → Option (Nat × Nat)
  | .details id userId => some (id, userId)
  | .rename id userId _ => some (id, userId)
  | .invite id userId _ => some (id, userId)
  | .revoke id userId _ => some (id, userId)
  | .changeMember id userId _ _ => some (id, userId)
  | .list _ => none
  | .create _ _ => none
  | .accept _ _ => none

theorem local_call {call : WorkspaceCall} {userId : Nat}
    (tenancy : call.tenant = some (id, userId)) :
    (call.program runtime).Local (tenant runtime fresh id) fresh := by
  cases call <;> cases tenancy
  · exact WorkspacesService.local_details.bind fun _ => trivial
  · exact WorkspacesService.local_rename.bind fun _ => trivial
  · exact WorkspacesService.local_invite.bind fun _ => trivial
  · exact WorkspacesService.local_revoke.bind fun _ => trivial
  · exact WorkspacesService.local_changeMember.bind fun _ => trivial

theorem membership_eq_none {db : Db} {userId : Nat}
    (stranger : ¬MemberOf db id userId) :
    WorkspacesService.membership db id userId = none := by
  have absent : db.members.find (id, userId) = none := by
    rw [Table.find_eq_none]
    intro row stored same
    exact stranger ⟨row, stored, congrArg Prod.fst same,
      congrArg Prod.snd same⟩
  unfold WorkspacesService.membership
  rw [absent]
  cases db.workspaces.find id <;> rfl

/-- Whoever is not a member is told that there is nothing. -/
theorem alone_stranger {db : Db} {userId clock now : Nat} {draws : Nat → Nat}
    {call : WorkspaceCall} (tenancy : call.tenant = some (id, userId))
    (stranger : ¬MemberOf db id userId) :
    (call.program runtime).alone clock draws now db (∅ : Writes) =
      (.error .notFound, db) := by
  have authorized : ∀ {β : Type} (manage : Bool)
      (rest : WorkspacesService.Workspace → Tx β) (reply : β → Reply),
      (Tx.reply (.transaction (WorkspacesService.authorize id userId manage >>=
        rest)) reply).alone clock draws now db (∅ : Writes) =
          (.error .notFound, db) := by
    intro β manage rest reply
    simp [Tx.reply, Program.transaction, WorkspacesService.authorize,
      WorkspacesService.lockWorkspace, Tx.select, Tx.query, Tx.throw,
      Program.run, Program.alone, Program.bind, Bind.bind,
      membership_eq_none stranger]
  cases call <;> cases tenancy
  · exact authorized false _ _
  · exact authorized true _ _
  · exact authorized true _ _
  · exact authorized true _ _
  · exact authorized false _ _

theorem memberOf_of_acts {commit : DbCommit} {userId : Nat}
    {actor : WorkspaceRole} (acts : Acts commit id userId actor) :
    MemberOf commit.before id userId := by
  obtain ⟨row, stored, sameId, sameUser, _⟩ := acts.member
  exact ⟨row, stored, sameId, sameUser⟩

/-- A committed request is one of a member, and stays in its workspace. -/
theorem isolated_of_effect {commit : DbCommit}
    {earlier : List DbCommit} {call : WorkspaceCall} {userId : Nat}
    (effect : WorkspaceEffect runtime commit earlier call)
    (tenancy : call.tenant = some (id, userId)) :
    MemberOf commit.before id userId ∧
      SameElsewhere id commit.before commit.after := by
  cases call with
  | list | create | accept => cases tenancy
  | details =>
      cases tenancy
      obtain ⟨⟨actor, acts⟩, nothing⟩ := effect
      refine ⟨memberOf_of_acts acts, ?_⟩
      rw [Commit.after, nothing, WriteSet.apply_empty]
      exact .refl id commit.before
  | rename =>
      cases tenancy
      obtain ⟨actor, row, renamed⟩ := effect
      have sameId : row.id = id := (Table.find_eq_some.mp renamed.stored).2
      refine ⟨memberOf_of_acts renamed.acts, ?_, ?_, ?_⟩
      · rw [after_workspaces, renamed.workspaces]
        exact others_of_workspaces (by simp [Change.target, sameId])
      · rw [after_members, renamed.members]
        exact .refl _ _
      · rw [after_invitations, renamed.invitations]
        exact .refl _ _
  | invite =>
      cases tenancy
      obtain ⟨actor, revoked, new, invited⟩ := effect
      refine ⟨memberOf_of_acts invited.acts, ?_, ?_, ?_⟩
      · rw [after_workspaces, invited.workspaces]
        exact .refl _ _
      · rw [after_members, invited.members]
        exact .refl _ _
      · rw [after_invitations, invited.invitations]
        apply others_of_invitations
        intro change changed
        simp only [List.mem_append, List.mem_map,
          List.mem_singleton] at changed
        rcases changed with ⟨old, listed, rfl⟩ | rfl
        · have pending := (invited.pending.2 old).mp listed
          exact ⟨_, rfl, pending.2.1,
            .inl ⟨old, pending.1, rfl, pending.2.1⟩⟩
        · exact ⟨new, rfl, invited.workspaceId, .inr invited.freshId⟩
  | revoke _ _ invitationId =>
      cases tenancy
      obtain ⟨actor, revoked⟩ := effect
      refine ⟨memberOf_of_acts revoked.acts, ?_, ?_, ?_⟩
      · rw [after_workspaces, revoked.workspaces]
        exact .refl _ _
      · rw [after_members, revoked.members]
        exact .refl _ _
      · rw [after_invitations, revoked.invitations]
        apply others_of_invitations
        intro change changed
        obtain ⟨old, listed, rfl⟩ := List.mem_map.mp changed
        obtain ⟨stored, own⟩ :=
          WorkspacesService.stored_of_revocable (Option.mem_toList.mp listed)
        exact ⟨_, rfl, own, .inl ⟨old, stored, rfl, own⟩⟩
  | changeMember _ _ memberId role =>
      cases tenancy
      obtain ⟨actor, target, changed⟩ := effect
      refine ⟨memberOf_of_acts changed.acts, ?_, ?_, ?_⟩
      · rw [after_workspaces, changed.workspaces]
        exact .refl _ _
      · rw [after_members, changed.members]
        have key := (Table.find_eq_some.mp changed.stored).2
        have own : target.workspaceId = id := congrArg Prod.fst key
        apply others_of_members
        cases role <;> simp [Change.target, own]
      · rw [after_invitations, changed.invitations]
        exact .refl _ _

/-- Tenant isolation.  In a run, the commits of a request on a workspace are
those of a member and leave the rows of all other workspaces alone.  Called on
a reachable state, the request tells a stranger that there is nothing, and
answers a member alike in all states that agree on the workspace. -/
theorem isolation_of_reachable (environment : Environment)
    (admits : Request → Bool) (world : DbWorld) (config : DbConfig)
    (begins : Begins world)
    (reachable : (system environment admits).Reachable (.idle world) config)
    (call : WorkspaceCall) (id userId : Nat)
    (tenancy : call.tenant = some (id, userId)) :
    (∀ commit ∈ config.world.commits, commit.request = .workspace call →
      MemberOf commit.before id userId ∧
        SameElsewhere id commit.before commit.after) ∧
    (¬MemberOf config.world.db id userId → ∀ clock now draws,
      (call.program environment.runtime).alone clock draws now config.world.db
        (∅ : Writes) = (.error .notFound, config.world.db)) ∧
    (∀ clock now draws other,
      SameTenant environment.runtime (∃ index, draws index = ·) id
        config.world.db other →
      let here := (call.program environment.runtime).alone clock draws now
        config.world.db (∅ : Writes)
      let there := (call.program environment.runtime).alone clock draws now
        other (∅ : Writes)
      there.1 = here.1 ∧
      SameTenant environment.runtime (∃ index, draws index = ·) id here.2
        there.2 ∧
      SameElsewhere id config.world.db here.2) ∧
    -- The call on its own is one of the runs.
    ∀ draws,
      (system environment admits).mayStart config.world.db (.workspace call) →
      (system environment admits).Drawable config.world draws →
      ∃ final ended, (system environment admits).Reachable config final ∧
        final.threads = [ended] ∧
        let result := (call.program environment.runtime).alone
          config.world.clock draws config.world.clock config.world.db
          (∅ : Writes)
        ended.program = Program.answer result.1 ∧
          final.world.db = result.2 := by
  have run : Run environment False world.db config :=
    .of_reachable begins False.elim reachable
  refine ⟨?_, ?_, ?_, ?_⟩
  · intro commit logged request
    obtain ⟨earlier, _, effect, _⟩ := run.legal.mem logged
    unfold Effect at effect
    rw [request] at effect
    exact isolated_of_effect effect.2 tenancy
  · exact fun stranger clock now draws => alone_stranger tenancy stranger
  · intro clock now draws other same
    have isLocal : (call.program environment.runtime).Local
        (tenant environment.runtime (∃ index, draws index = ·) id)
        (∃ index, draws index = ·) := local_call tenancy
    exact isLocal.alone _ (fun index => ⟨index, rfl⟩) same same.nothing
      (by rw [WriteSet.apply_empty]; exact .refl id _)
  · intro draws starts drawable
    have arrived : (system environment admits).Reachable config
        ⟨{ config.world with nextTid := config.world.nextTid + 1 },
          [⟨.start config.world.nextTid (.workspace call) config.world.clock,
            call.program environment.runtime⟩]⟩ :=
      .step (.arrive (.workspace call)) (System.reachable_idle _ config.world
        config.threads) (if_pos starts)
    obtain ⟨final, ended, reached, alone, _, answered, left⟩ :=
      System.reachable_alone (system environment admits)
        { config.world with nextTid := config.world.nextTid + 1 }
        (.start config.world.nextTid (.workspace call) config.world.clock)
        (call.program environment.runtime)
        ⟨drawable.allowed, drawable.unused, drawable.distinct⟩
    exact ⟨final, ended, arrived.trans reached, alone, answered, left⟩

/-- A workspace of account 1, of which account 3 is no member. -/
theorem isolation_of_reachable_stranger :
    ∃ config : DbConfig, config.world.db.workspaces.rows.map (·.id) = [7] ∧
      (WorkspaceCall.program Sample.runtime (.details 7 3)).alone 5
        (fun draw => draw) 5 config.world.db (∅ : Writes) =
          (.error .notFound, config.world.db) := by
  let config := Sample.after (fun _ => true)
    (Sample.serve (.workspace (.create 1 "team")) 7 8)
  refine ⟨config, by decide, ?_⟩
  refine (isolation_of_reachable Sample.environment (fun _ => true) _ config
    Sample.begins (Sample.reachable _ _) (.details 7 3) 7 3 rfl).2.1 ?_ 5 5 _
  unfold MemberOf
  decide

end SaasFoundation
