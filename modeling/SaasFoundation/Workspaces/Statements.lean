import SaasFoundation.Api.Rules

/-!
# The statements of `WorkspacesService`

What each lookup finds, and one rule for every statement and for `authorize`.
-/

namespace SaasFoundation

open Relational Transaction Discipline Api

namespace WorkspacesService

theorem activeUser_eq_some {db : Db} {userId : Nat} {user : UserRow} :
    activeUser db userId = some user ↔
      user ∈ db.users ∧ user.id = userId ∧ user.Active := by
  simp only [activeUser, Option.filter_eq_some_iff, Table.find_eq_some,
    UserRow.key_eq, decide_eq_true_eq, and_assoc]

theorem activeUser_isSome {db : Db} {userId : Nat} :
    (activeUser db userId).isSome ↔ LiveUser db userId := by
  rw [Option.isSome_iff_exists]
  simp only [activeUser_eq_some]
  rfl

theorem membership_eq_some {db : Db} {id userId : Nat}
    {workspace : Workspace} :
    membership db id userId = some workspace ↔
      ∃ row member, db.workspaces.find id = some row ∧
        db.members.find (id, userId) = some member ∧
        workspace = { id := row.id, name := row.name, role := member.role } := by
  unfold membership
  cases db.workspaces.find id with
  | none => simp
  | some row =>
      cases db.members.find (id, userId) with
      | none => simp
      | some member => simp [eq_comm]

theorem find_member {db : Db} {id userId : Nat} {member : MemberRow}
    (found : db.members.find (id, userId) = some member) :
    member ∈ db.members ∧ member.workspaceId = id ∧ member.userId = userId := by
  obtain ⟨stored, same⟩ := Table.find_eq_some.mp found
  exact ⟨stored, congrArg Prod.fst same, congrArg Prod.snd same⟩

theorem memberOf_iff {db : Db} {id userId : Nat} :
    MemberOf db id userId ↔ (db.members.find (id, userId)).isSome := by
  rw [Table.find_isSome]
  simp only [MemberRow.key_eq, Prod.mk.injEq]
  rfl

theorem mem_pendingInvitations {db : Db} {id : Nat} {email : String}
    {row : InvitationRow} :
    row ∈ pendingInvitations db id email ↔
      row ∈ db.invitations ∧ row.workspaceId = id ∧ row.email = email ∧
        row.Pending := by
  simp only [pendingInvitations, List.mem_filter, decide_eq_true_eq]
  rfl

theorem nodup_pendingInvitations (db : Db) (id : Nat) (email : String) :
    ((pendingInvitations db id email).map key).Nodup :=
  db.invitations.nodup.sublist (List.filter_sublist.map _)

/-- An invitation ended at `now`. -/
def revokedAt (now : Nat) (row : InvitationRow) : InvitationRow :=
  { row with revokedAt := some now }

/-- Revoking stored rows replaces these rows and no others. -/
theorem mem_revoked {table : Table InvitationRow} {rows : List InvitationRow}
    (distinct : (rows.map key).Nodup) {now : Nat} {row : InvitationRow} :
    row ∈ table.applyAll (rows.map fun row =>
        .put { row with revokedAt := some now }) ↔
      (∃ old ∈ rows, row = revokedAt now old) ∨
        row ∈ table ∧ ∀ old ∈ rows, old.id ≠ row.id := by
  have puts : (rows.map fun row =>
      (.put { row with revokedAt := some now } : Change InvitationRow Nat)) =
      (rows.map (revokedAt now)).map .put := by
    rw [List.map_map]
    rfl
  have keys : (rows.map (revokedAt now)).map key = rows.map key := by
    rw [List.map_map]
    rfl
  rw [puts, Table.mem_applyAll_puts (keys ▸ distinct), keys]
  simp only [List.mem_map, InvitationRow.key_eq, eq_comm (a := row)]
  simp only [not_exists, not_and]

theorem revocable_eq_some {db : Db} {workspaceId id : Nat}
    {actor : WorkspaceRole} {row : InvitationRow} :
    revocable db workspaceId id actor = some row ↔
      row ∈ db.invitations ∧ row.id = id ∧ row.workspaceId = workspaceId ∧
        row.Pending ∧ (actor = .owner ∨ row.role = .member) := by
  simp only [revocable, Option.filter_eq_some_iff, Table.find_eq_some,
    InvitationRow.key_eq, decide_eq_true_eq, and_assoc]

/-- Of two active owners at least one is somebody else. -/
theorem other_activeOwner {db : Db} {id : Nat} (userId : Nat)
    (several : 1 < (activeOwners db id).length) :
    ∃ other, other ≠ userId ∧ ActiveOwner db id other := by
  obtain ⟨row, stored, owner, different⟩ :=
    Table.exists_other several (id, userId)
  simp only [decide_eq_true_eq, activeUser_isSome] at owner
  obtain ⟨workspace, role, live⟩ := owner
  refine ⟨row.userId, fun same => different ?_,
    ⟨row, stored, workspace, rfl, role⟩, live⟩
  simp [workspace, same]

/-- The workspaces `ownedCount` counts. -/
def ownedIds (db : Db) (userId : Nat) : List Nat :=
  (db.members.rows.filter fun row =>
    row.userId = userId ∧ row.role = .owner).map (·.workspaceId)

theorem mem_ownedIds {db : Db} {userId id : Nat} :
    id ∈ ownedIds db userId ↔ OwnerOf db id userId := by
  simp only [ownedIds, OwnerOf, List.mem_map, List.mem_filter, Table.mem_rows,
    decide_eq_true_eq]
  constructor
  · rintro ⟨row, ⟨stored, user, role⟩, workspace⟩
    exact ⟨row, stored, workspace, user, role⟩
  · rintro ⟨row, stored, workspace, user, role⟩
    exact ⟨row, ⟨stored, user, role⟩, workspace⟩

theorem nodup_ownedIds (db : Db) (userId : Nat) :
    (ownedIds db userId).Nodup := by
  have distinct : ((db.members.rows.filter fun row =>
      row.userId = userId ∧ row.role = .owner).map key).Nodup :=
    db.members.nodup.sublist (List.filter_sublist.map _)
  refine (List.nodup_map_iff_inj_on distinct.of_map).mpr ?_
  intro left leftListed right rightListed same
  obtain ⟨leftStored, leftOwns⟩ := List.mem_filter.mp leftListed
  obtain ⟨rightStored, rightOwns⟩ := List.mem_filter.mp rightListed
  rw [decide_eq_true_eq] at leftOwns rightOwns
  apply Table.eq_of_key leftStored rightStored
  rw [MemberRow.key_eq, MemberRow.key_eq, same, leftOwns.1, rightOwns.1]

/-- Who has become an owner of these workspaces at most owns no more than the
difference. -/
theorem ownedCount_le {before after : Db} {userId : Nat} (more : List Nat)
    (gained : ∀ id, OwnerOf after id userId →
      id ∈ more ∨ OwnerOf before id userId) :
    ownedCount after userId ≤ more.length + ownedCount before userId := by
  have within : ownedIds after userId ⊆ more ++ ownedIds before userId := by
    intro id listed
    rw [List.mem_append, mem_ownedIds]
    exact gained id (mem_ownedIds.mp listed)
  have counted : ∀ db, ownedCount db userId = (ownedIds db userId).length :=
    fun db => (List.length_map _).symm
  rw [counted, counted, ← List.length_append]
  exact List.Nodup.length_le_of_subset (nodup_ownedIds after userId) within

variable {environment : Environment} {drawn : Prop} {α β : Type}
  {post : α → DbContext → DbWorld → Prop}
  {failed : Failure → DbContext → DbWorld → Prop} {context : DbContext}
  {world : DbWorld}

theorem within_lockWorkspace {id : Nat} {next : Unit → Tx α}
    (step : ∀ now, Relies environment drawn context world now →
      Within environment drawn (next ()) post failed
        (context.extend
          (if ((now.view context).workspaces.find id).isSome then
            [(.workspace id, .update)] else []) ∅) now) :
    Within environment drawn (lockWorkspace id >>= next) post failed context
      world :=
  within_select step

theorem within_selectActiveUser {userId : Nat} {mode : LockMode}
    {next : Option UserRow → Tx α} (clean : context.writes = ∅)
    (missing : ∀ now, Relies environment drawn context world now →
      Within environment drawn (next none) post failed context now)
    (step : ∀ now, Relies environment drawn context world now → ∀ user,
      user ∈ now.db.users → user.id = userId → user.Active →
      Within environment drawn (next (some user)) post failed
        (context.extend [(.user userId, mode)] ∅) now) :
    Within environment drawn (selectActiveUser userId mode >>= next) post
      failed context world := by
  refine within_select fun now rely => ?_
  rw [view_clean clean]
  cases found : activeUser now.db userId with
  | none => simpa using missing now rely
  | some user =>
      obtain ⟨stored, id, active⟩ := activeUser_eq_some.mp found
      simpa using step now rely user stored id active

/-- `authorize` locks the workspace: it exists by then, as nobody can name it
before. -/
theorem within_authorize {id userId : Nat} {manage : Bool}
    {next : Workspace → Tx α} (clean : context.writes = ∅)
    (named : (world.db.workspaces.find id).isSome ∨
      environment.guessable id = true)
    (rejected : ∀ locks now failure,
      failure = .notFound ∨ failure = .forbidden →
      failed failure (context.extend locks ∅) now)
    (step : ∀ now, Relies environment drawn context world now →
      ∀ row member, now.db.workspaces.find id = some row →
      now.db.members.find (id, userId) = some member →
      (manage = true → member.role ≠ .member) →
      Within environment drawn
        (next { id := row.id, name := row.name, role := member.role }) post
        failed (context.extend [(.workspace id, .update)] ∅) now) :
    Within environment drawn (authorize id userId manage >>= next) post failed
      context world := by
  unfold authorize
  simp only [bind_assoc]
  refine within_lockWorkspace fun now rely => ?_
  rw [view_clean clean]
  have extended : ∀ locks, (context.extend locks ∅).writes = ∅ := by
    intro locks
    simp [clean]
  by_cases present : (now.db.workspaces.find id).isSome
  · rw [if_pos present]
    refine within_query fun later relyLater => ?_
    have both : Relies environment drawn context world later :=
      rely.trans (relyLater.weaken ((Context.Grows.refl context).extend _ _))
    rw [view_clean (extended _)]
    cases found : membership later.db id userId with
    | none => exact rejected _ later _ (.inl rfl)
    | some workspace =>
        obtain ⟨row, member, rowFound, memberFound, rfl⟩ :=
          membership_eq_some.mp found
        dsimp only
        split
        · exact rejected _ later _ (.inr rfl)
        · rename_i allowed
          refine step later both row member rowFound memberFound ?_
          exact fun manages lowly => allowed ⟨manages, lowly⟩
  · -- An identifier nobody has seen does not come into being.
    rw [if_neg present, extend_nothing]
    refine within_query fun later relyLater => ?_
    have absent : later.db.workspaces.find id = none := by
      by_contra appeared
      have known := Option.isSome_iff_ne_none.mpr appeared
      rcases (kept_always relyLater).named id known with before | hidden
      · exact present before
      · rcases named with before | guessable
        · exact present ((kept_always rely).workspaces id before)
        · simp [hidden] at guessable
    rw [view_clean clean]
    have missing : membership later.db id userId = none := by
      simp [membership, absent]
    rw [missing, ← extend_nothing context]
    exact rejected [] later _ (.inl rfl)

theorem within_insertWorkspace {id : Nat} {name : String}
    {next : Unit → Tx α}
    (rejected : ∀ now failure, failed failure context now)
    (step : ∀ now, Relies environment drawn context world now →
      (now.view context).workspaces.find id = none →
      Within environment drawn (next ()) post failed
        (context.extend []
          { workspaces := [.put { id, name, createdAt := context.now }] })
        now) :
    Within environment drawn (insertWorkspace id name >>= next) post failed
      context world := by
  refine within_execute (fun now _ failure _ => rejected now failure) ?_
  intro now rely value writes stepped
  split at stepped
  · cases stepped
  · rename_i absent
    cases stepped
    exact step now rely (by simpa using absent)

theorem within_insertMember {workspaceId userId : Nat} {role : WorkspaceRole}
    {ignore : Bool} {next : Unit → Tx α}
    (rejected : ∀ now failure, failed failure context now)
    (ignored : ∀ now, Relies environment drawn context world now →
      ignore = true →
      ((now.view context).members.find (workspaceId, userId)).isSome →
      Within environment drawn (next ()) post failed context now)
    (step : ∀ now, Relies environment drawn context world now →
      (now.view context).members.find (workspaceId, userId) = none →
      ((now.view context).workspaces.find workspaceId).isSome →
      Within environment drawn (next ()) post failed
        (context.extend [(.member workspaceId userId, .update)]
          { members :=
              [.put { workspaceId, userId, role, createdAt := context.now }] })
        now) :
    Within environment drawn
      (insertMember workspaceId userId role ignore >>= next) post failed
      context world := by
  refine within_execute (fun now _ failure _ => rejected now failure) ?_
  intro now rely value writes stepped
  by_cases found :
      ((now.view context).members.find (workspaceId, userId)).isSome
  · rw [if_pos found] at stepped
    rw [if_pos found]
    split at stepped
    · rename_i ignores
      cases stepped
      rw [extend_nothing]
      exact ignored now rely ignores found
    · cases stepped
  · rw [if_neg found] at stepped
    rw [if_neg found]
    split at stepped
    · cases stepped
    · rename_i known
      split at stepped
      · cases stepped
      · cases stepped
        refine step now rely (by simpa using found) ?_
        simpa [Option.isSome_iff_ne_none] using known

theorem within_updateWorkspaceName {id : Nat} {name : String}
    {next : Unit → Tx α}
    (missing : ∀ now, Relies environment drawn context world now →
      (now.view context).workspaces.find id = none →
      Within environment drawn (next ()) post failed context now)
    (step : ∀ now, Relies environment drawn context world now → ∀ row,
      (now.view context).workspaces.find id = some row →
      Within environment drawn (next ()) post failed
        (context.extend [(.workspace id, .update)]
          { workspaces := [.put { row with name }] }) now) :
    Within environment drawn (updateWorkspaceName id name >>= next) post failed
      context world := by
  refine within_execute ?_ ?_
  · intro now rely failure stepped
    split at stepped <;> cases stepped
  · intro now rely value writes stepped
    split at stepped
    · rename_i absent
      cases stepped
      simpa [absent] using missing now rely absent
    · rename_i row found
      cases stepped
      simpa [found] using step now rely row found

theorem within_revokePending {id : Nat} {email : String}
    {next : Unit → Tx α}
    (step : ∀ now, Relies environment drawn context world now →
      Within environment drawn (next ()) post failed
        (context.extend
          ((pendingInvitations (now.view context) id email).map fun row =>
            (.invitation row.id, .update))
          { invitations :=
              (pendingInvitations (now.view context) id email).map fun row =>
                .put { row with revokedAt := some context.now } }) now) :
    Within environment drawn (revokePending id email >>= next) post failed
      context world := by
  refine within_execute (fun now _ failure stepped => by cases stepped) ?_
  intro now rely value writes stepped
  cases stepped
  exact step now rely

/-- The violation of the index on pending invitations. -/
def pendingViolation : Failure :=
  .query .uniqueViolation (some .pendingInvitation)

theorem within_insertInvitation {row : Nat → InvitationRow}
    {next : Unit → Tx α}
    (rejected : ∀ now code violated, .query code violated ≠ pendingViolation →
      failed (.query code violated) context now)
    (unique : ∀ now, Relies environment drawn context world now →
      pendingInvitations (now.view context) (row context.now).workspaceId
        (row context.now).email = [])
    (step : ∀ now, Relies environment drawn context world now →
      (now.view context).invitations.find (row context.now).id = none →
      (∀ other ∈ (now.view context).invitations,
        other.tokenHash ≠ (row context.now).tokenHash) →
      ((now.view context).workspaces.find
        (row context.now).workspaceId).isSome →
      Within environment drawn (next ()) post failed
        (context.extend
          [(.pendingInvitation (row 0).workspaceId (row 0).email, .update),
            (.invitationToken (row 0).tokenHash, .update)]
          { invitations := [.put (row context.now)] }) now) :
    Within environment drawn (insertInvitation row >>= next) post failed
      context world := by
  refine within_execute ?_ ?_
  · intro now rely failure stepped
    simp only [unique now rely, List.isEmpty_nil, Bool.not_true,
      Bool.false_eq_true, if_false] at stepped
    split at stepped
    · cases stepped
      exact rejected now _ _ (by simp [pendingViolation])
    · split at stepped
      · cases stepped
        exact rejected now _ _ (by simp [pendingViolation])
      · split at stepped
        · cases stepped
          exact rejected now _ _ (by simp [pendingViolation])
        · cases stepped
  · intro now rely value writes stepped
    simp only [unique now rely, List.isEmpty_nil, Bool.not_true,
      Bool.false_eq_true, if_false] at stepped
    split at stepped
    · cases stepped
    · rename_i absent
      split at stepped
      · cases stepped
      · rename_i unused
        split at stepped
        · cases stepped
        · rename_i known
          cases stepped
          refine step now rely (by simpa using absent) ?_ ?_
          · simpa [Table.mem_rows] using unused
          · simpa [Option.isSome_iff_ne_none] using known

theorem within_selectActiveInvitation {hash : Nat}
    {next : Option InvitationRow → Tx α} (clean : context.writes = ∅)
    (missing : ∀ now, Relies environment drawn context world now →
      Within environment drawn (next none) post failed context now)
    (step : ∀ now, Relies environment drawn context world now → ∀ row,
      row ∈ now.db.invitations → row.tokenHash = hash →
      row.ActiveAt context.now →
      Within environment drawn (next (some row)) post failed
        (context.extend [(.invitation row.id, .update)] ∅) now) :
    Within environment drawn (selectActiveInvitation hash >>= next) post failed
      context world := by
  refine within_run.mpr fun now rely => ?_
  simp only [view_clean clean]
  cases found : activeByToken context.now now.db hash with
  | none =>
      rw [Option.map_none, Option.toList_none, extend_nothing]
      exact missing now rely
  | some row =>
      have holds := List.find?_some found
      simp only [Bool.decide_and, Bool.and_eq_true, decide_eq_true_eq] at holds
      exact step now rely row (List.mem_of_find?_eq_some found) holds.1 holds.2

theorem within_acceptInvitation {id : Nat} {next : Unit → Tx α}
    (missing : ∀ now, Relies environment drawn context world now →
      (now.view context).invitations.find id = none →
      Within environment drawn (next ()) post failed context now)
    (step : ∀ now, Relies environment drawn context world now → ∀ row,
      (now.view context).invitations.find id = some row →
      Within environment drawn (next ()) post failed
        (context.extend [(.invitation id, .update)]
          { invitations :=
              [.put { row with acceptedAt := some context.now }] }) now) :
    Within environment drawn (acceptInvitation id >>= next) post failed
      context world := by
  refine within_execute ?_ ?_
  · intro now rely failure stepped
    split at stepped <;> cases stepped
  · intro now rely value writes stepped
    split at stepped
    · rename_i absent
      cases stepped
      simpa [absent] using missing now rely absent
    · rename_i row found
      cases stepped
      simpa [found] using step now rely row found

theorem within_revokeById {workspaceId id : Nat} {actor : WorkspaceRole}
    {next : UpdateResult → Tx α}
    (step : ∀ now, Relies environment drawn context world now →
      ∀ result : UpdateResult,
      Within environment drawn (next result) post failed
        (context.extend
          ((revocable (now.view context) workspaceId id actor).toList.map
            fun row => (.invitation row.id, .update))
          { invitations :=
              (revocable (now.view context) workspaceId id actor).toList.map
                fun row => .put { row with revokedAt := some context.now } })
        now) :
    Within environment drawn (revokeById workspaceId id actor >>= next) post
      failed context world := by
  refine within_execute (fun now _ failure stepped => by cases stepped) ?_
  intro now rely value writes stepped
  cases stepped
  exact step now rely _

theorem within_deleteMember {id memberId : Nat} {next : Unit → Tx α}
    (missing : ∀ now, Relies environment drawn context world now →
      (now.view context).members.find (id, memberId) = none →
      Within environment drawn (next ()) post failed context now)
    (step : ∀ now, Relies environment drawn context world now →
      Within environment drawn (next ()) post failed
        (context.extend [(.member id memberId, .update)]
          { members := [.drop (id, memberId)] }) now) :
    Within environment drawn (deleteMember id memberId >>= next) post failed
      context world := by
  refine within_execute ?_ ?_
  · intro now rely failure stepped
    split at stepped <;> cases stepped
  · intro now rely value writes stepped
    split at stepped
    · rename_i found
      cases stepped
      simpa [found] using step now rely
    · rename_i absent
      cases stepped
      simpa [absent] using missing now rely (by simpa using absent)

theorem within_updateMemberRole {id memberId : Nat} {role : WorkspaceRole}
    {next : Unit → Tx α}
    (missing : ∀ now, Relies environment drawn context world now →
      (now.view context).members.find (id, memberId) = none →
      Within environment drawn (next ()) post failed context now)
    (step : ∀ now, Relies environment drawn context world now → ∀ row,
      (now.view context).members.find (id, memberId) = some row →
      Within environment drawn (next ()) post failed
        (context.extend [(.member id memberId, .update)]
          { members := [.put { row with role }] }) now) :
    Within environment drawn (updateMemberRole id memberId role >>= next) post
      failed context world := by
  refine within_execute ?_ ?_
  · intro now rely failure stepped
    split at stepped <;> cases stepped
  · intro now rely value writes stepped
    split at stepped
    · rename_i absent
      cases stepped
      simpa [absent] using missing now rely absent
    · rename_i row found
      cases stepped
      simpa [found] using step now rely row found

end WorkspacesService

end SaasFoundation
