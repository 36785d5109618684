import SaasFoundation.Workspaces.Invitations

/-!
# No escalation inside a workspace

Where the owners and administrators of a workspace come from.  A role granted
through an invitation goes back to whoever issued it, possibly long before it
was redeemed.
-/

namespace SaasFoundation

open Relational Transaction Api

variable {runtime : Runtime} {drawn : Prop} {commit : DbCommit}
  {earlier : List DbCommit}

/-- The user created the workspace. -/
def CreatedBy (commits : List DbCommit) (id userId : Nat) : Prop :=
  ∃ commit ∈ commits, ∃ name,
    commit.request = .workspace (.create userId name) ∧
      Created commit userId name id

/-- An owner of the workspace set the role of the user. -/
def GrantedByOwner (commits : List DbCommit) (id userId : Nat)
    (role : WorkspaceRole) : Prop :=
  ∃ commit ∈ commits, ∃ actorId,
    commit.request = .workspace (.changeMember id actorId userId (some role)) ∧
      OwnerOf commit.before id actorId

/-- The invitation was issued by somebody who owned the workspace then. -/
def IssuedByOwner (commits : List DbCommit) (row : InvitationRow) : Prop :=
  ∃ commit ∈ commits, ∃ actorId body,
    commit.request = .workspace (.invite row.workspaceId actorId body) ∧
      OwnerOf commit.before row.workspaceId actorId ∧
      body.role = row.role ∧ body.email = row.email ∧
      ∃ new, .put new ∈ commit.writes.invitations ∧ SameOffer row new

/-- The user redeemed an administrator invitation that an owner issued. -/
def RedeemedAdmin (commits : List DbCommit) (id userId : Nat) : Prop :=
  ∃ commit ∈ commits, ∃ token, ∃ row ∈ commit.before.invitations,
    commit.request = .workspace (.accept userId token) ∧
      .put { row with acceptedAt := some commit.started } ∈
        commit.writes.invitations ∧
      row.workspaceId = id ∧ row.role = .admin ∧ IssuedByOwner commits row

/-- What each role above `member` goes back to. -/
structure Justified (commits : List DbCommit) (db : Db) : Prop where
  owner : ∀ row ∈ db.members, row.role = .owner →
    CreatedBy commits row.workspaceId row.userId ∨
      GrantedByOwner commits row.workspaceId row.userId .owner
  admin : ∀ row ∈ db.members, row.role = .admin →
    GrantedByOwner commits row.workspaceId row.userId .admin ∨
      RedeemedAdmin commits row.workspaceId row.userId
  invitation : ∀ row ∈ db.invitations, row.role = .admin →
    IssuedByOwner commits row

/-- Where a membership of the new state comes from. -/
inductive MemberOrigin (runtime : Runtime) (commit : DbCommit)
    (earlier : List DbCommit) (row : MemberRow) : Prop where
  | kept (stored : row ∈ commit.before.members)
  | created (userId : Nat) (name : String)
      (core : commit.request.core = .workspace (.create userId name))
      (created : Created commit userId name row.workspaceId)
      (user : row.userId = userId) (role : row.role = .owner)
  | accepted (userId token : Nat) (invitation : InvitationRow)
      (core : commit.request.core = .workspace (.accept userId token))
      (accepted : Accepted runtime commit earlier userId token invitation)
      (absent : ¬MemberOf commit.before row.workspaceId userId)
      (workspace : row.workspaceId = invitation.workspaceId)
      (user : row.userId = userId)
      (role : row.role = invitation.role.toWorkspaceRole)
  | changed (userId : Nat) (actor : WorkspaceRole) (target : MemberRow)
      (core : commit.request.core =
        .workspace (.changeMember row.workspaceId userId row.userId
          (some row.role)))
      (changed : MemberChanged commit row.workspaceId userId row.userId
        (some row.role) actor target)

theorem memberOrigin (effect : Effect runtime drawn commit earlier)
    {row : MemberRow} (member : row ∈ commit.after.members) :
    MemberOrigin runtime commit earlier row := by
  have kept (members : commit.writes.members = []) :
      MemberOrigin runtime commit earlier row := by
    rw [after_members, members] at member
    exact .kept member
  rcases workspace_of_effect effect with
    ⟨call, core, _, effect⟩ | ⟨_, members, _⟩
  · cases call with
    | list => exact effect.elim
    | create userId name =>
        obtain ⟨id, created⟩ := effect
        rw [after_members, created.members, Table.applyAll_put,
          Table.mem_put] at member
        rcases member with rfl | ⟨stored, _⟩
        · exact .created userId name core created rfl rfl
        · exact .kept stored
    | details =>
        obtain ⟨_, nothing⟩ := effect
        exact kept (by rw [nothing]; rfl)
    | rename =>
        obtain ⟨actor, old, renamed⟩ := effect
        exact kept renamed.members
    | invite =>
        obtain ⟨actor, revoked, new, invited⟩ := effect
        exact kept invited.members
    | accept userId token =>
        obtain ⟨invitation, accepted⟩ := effect
        rcases accepted.members with ⟨_, members⟩ | ⟨absent, members⟩
        · exact kept members
        · rw [after_members, members, Table.applyAll_put,
            Table.mem_put] at member
          rcases member with rfl | ⟨stored, _⟩
          · exact .accepted userId token invitation core accepted absent rfl
              rfl rfl
          · exact .kept stored
    | revoke =>
        obtain ⟨actor, revoked⟩ := effect
        exact kept revoked.members
    | changeMember id userId memberId role =>
        obtain ⟨actor, target, changed⟩ := effect
        cases role with
        | none =>
            rw [after_members, changed.members, Table.applyAll_drop,
              Table.mem_drop] at member
            exact .kept member.1
        | some role =>
            rw [after_members, changed.members, Table.applyAll_put,
              Table.mem_put] at member
            rcases member with rfl | ⟨stored, _⟩
            · obtain ⟨_, same⟩ := Table.find_eq_some.mp changed.stored
              obtain ⟨rfl, rfl⟩ := Prod.mk.inj same
              exact .changed userId actor target core changed
            · exact .kept stored
  · exact kept members

/-- The actor's role decides what it grants. -/
theorem actor_of_granted {id userId memberId : Nat} {role : WorkspaceRole}
    {actor : WorkspaceRole} {target : MemberRow}
    (changed : MemberChanged commit id userId memberId (some role) actor target)
    (high : role ≠ .member) : OwnerOf commit.before id userId := by
  obtain ⟨row, stored, rowId, rowUser, rowRole⟩ := changed.acts.member
  refine ⟨row, stored, rowId, rowUser, rowRole.trans ?_⟩
  rcases changed.allowed with ⟨_, impossible⟩ | owner | ⟨_, _, low | impossible⟩
  · cases impossible
  · exact owner
  · exact absurd (Option.some.inj low) high
  · cases impossible

section

variable {commits more : List DbCommit} (subset : ∀ past ∈ commits, past ∈ more)

include subset

theorem CreatedBy.mono {id userId : Nat}
    (created : CreatedBy commits id userId) : CreatedBy more id userId := by
  obtain ⟨past, member, found⟩ := created
  exact ⟨past, subset past member, found⟩

theorem GrantedByOwner.mono {id userId : Nat} {role : WorkspaceRole}
    (granted : GrantedByOwner commits id userId role) :
    GrantedByOwner more id userId role := by
  obtain ⟨past, member, found⟩ := granted
  exact ⟨past, subset past member, found⟩

theorem IssuedByOwner.mono {row : InvitationRow}
    (issued : IssuedByOwner commits row) : IssuedByOwner more row := by
  obtain ⟨past, member, found⟩ := issued
  exact ⟨past, subset past member, found⟩

theorem RedeemedAdmin.mono {id userId : Nat}
    (redeemed : RedeemedAdmin commits id userId) :
    RedeemedAdmin more id userId := by
  obtain ⟨past, member, token, row, stored, request, accepted, workspace, role,
    issued⟩ := redeemed
  exact ⟨past, subset past member, token, row, stored, request, accepted,
    workspace, role, issued.mono subset⟩

end

theorem IssuedByOwner.offer {commits : List DbCommit} {row old : InvitationRow}
    (issued : IssuedByOwner commits old) (same : SameOffer row old) :
    IssuedByOwner commits row := by
  obtain ⟨commit, member, actorId, body, request, owner, role, email, new,
    written, offer⟩ := issued
  refine ⟨commit, member, actorId, body, ?_, ?_, role.trans same.role.symm,
    email.trans same.email.symm, new, written, same.trans offer⟩
  · rw [same.workspaceId]
    exact request
  · rw [same.workspaceId]
    exact owner

theorem issued_of_invited {commits : List DbCommit} {new : InvitationRow}
    (logged : commit ∈ commits) (issues : Issues commit new)
    (admin : new.role = .admin) : IssuedByOwner commits new := by
  obtain ⟨id, userId, body, actor, revoked, core, invited⟩ := issues
  have owner : actor = .owner := by
    rcases invited.grants with owner | low
    · exact owner
    · cases (invited.role.trans low).symm.trans admin
  obtain ⟨row, stored, rowId, rowUser, rowRole⟩ := invited.acts.member
  obtain rfl := invited.workspaceId
  refine ⟨commit, logged, userId, body, Request.core_workspace core,
    ⟨row, stored, rowId, rowUser, rowRole.trans owner⟩, invited.role.symm,
    invited.email.symm, new, ?_, ⟨rfl, rfl, rfl, rfl, rfl⟩⟩
  rw [invited.invitations]
  exact List.mem_append_right _ (List.mem_singleton.mpr rfl)

theorem justified_of_effect (effect : Effect runtime drawn commit earlier)
    (justified : Justified earlier commit.before) :
    Justified (commit :: earlier) commit.after where
  owner row member owner := by
    cases memberOrigin effect member with
    | kept stored =>
        rcases justified.owner row stored owner with created | granted
        · exact .inl (created.mono fun _ => List.mem_cons_of_mem _)
        · exact .inr (granted.mono fun _ => List.mem_cons_of_mem _)
    | created userId name core created user =>
        refine .inl ⟨commit, List.mem_cons_self, name, ?_, ?_⟩
        · rw [user]
          exact Request.core_workspace core
        · rw [user]
          exact created
    | accepted userId token invitation core accepted absent workspace user role =>
        rw [owner] at role
        cases kind : invitation.role <;> simp [kind, InvitationRole.toWorkspaceRole] at role
    | changed userId actor target core changed =>
        rw [owner] at core changed
        exact .inr ⟨commit, List.mem_cons_self, userId,
          Request.core_workspace core, actor_of_granted changed (by decide)⟩
  admin row member admin := by
    cases memberOrigin effect member with
    | kept stored =>
        rcases justified.admin row stored admin with granted | redeemed
        · exact .inl (granted.mono fun _ => List.mem_cons_of_mem _)
        · exact .inr (redeemed.mono fun _ => List.mem_cons_of_mem _)
    | created userId name core created user role =>
        rw [admin] at role
        cases role
    | accepted userId token invitation core accepted absent workspace user role =>
        have kind : invitation.role = .admin := by
          rw [admin] at role
          cases kind : invitation.role with
          | admin => rfl
          | member => simp [kind, InvitationRole.toWorkspaceRole] at role
        refine .inr ⟨commit, List.mem_cons_self, token, invitation,
          accepted.stored, ?_, ?_, workspace.symm, kind, ?_⟩
        · rw [user]
          exact Request.core_workspace core
        · rw [accepted.invitations]
          exact List.mem_singleton.mpr rfl
        · exact (justified.invitation invitation accepted.stored kind).mono
            fun _ => List.mem_cons_of_mem _
    | changed userId actor target core changed =>
        rw [admin] at core changed
        exact .inl ⟨commit, List.mem_cons_self, userId,
          Request.core_workspace core, actor_of_granted changed (by decide)⟩
  invitation row member admin := by
    obtain ⟨rows, next, fresh, written, issues⟩ := written_of_effect effect
    rcases written.origin member with added | ⟨old, stored, same, _⟩
    · exact issued_of_invited List.mem_cons_self (issues row added) admin
    · have issued := justified.invitation old stored (same.role.symm.trans admin)
      exact (issued.offer same).mono fun _ => List.mem_cons_of_mem _

/-- The account a request acts for. -/
def WorkspaceCall.caller : WorkspaceCall → Nat
  | .list userId => userId
  | .create userId _ => userId
  | .details _ userId => userId
  | .rename _ userId _ => userId
  | .invite _ userId _ => userId
  | .accept userId _ => userId
  | .revoke _ userId _ => userId
  | .changeMember _ userId _ _ => userId

/-- The caller is a member of the workspace without owning it. -/
def LowerRole (db : Db) (id userId : Nat) : Prop :=
  ∃ row ∈ db.members, row.workspaceId = id ∧ row.userId = userId ∧
    row.role ≠ .owner

/-- High roles of the workspace stay what they are, except that the caller may
leave. -/
structure HighRolesKept (commit : DbCommit) (id userId : Nat) : Prop where
  none : ∀ row ∈ commit.after.members, row.workspaceId = id →
    row.role ≠ .member → row ∈ commit.before.members
  kept : ∀ row ∈ commit.before.members, row.workspaceId = id →
    row.role ≠ .member → row ∈ commit.after.members ∨
      row.userId = userId ∧ ¬MemberOf commit.after id userId

theorem highRoles_nothing {id userId : Nat}
    (members : commit.writes.members = []) :
    HighRolesKept commit id userId := by
  have same : commit.after.members = commit.before.members := by
    rw [after_members, members]
    rfl
  exact ⟨fun row member _ _ => same ▸ member,
    fun row member _ _ => .inl (same ▸ member)⟩

/-- A membership is put where nobody was a member. -/
theorem highRoles_joined {id userId : Nat} {new : MemberRow}
    (members : commit.writes.members = [.put new])
    (elsewhere : new.workspaceId ≠ id)  :
    HighRolesKept commit id userId := by
  constructor
  · intro row member workspace _
    rw [after_members, members, Table.applyAll_put, Table.mem_put] at member
    rcases member with rfl | ⟨stored, _⟩
    · exact absurd workspace elsewhere
    · exact stored
  · intro row member workspace _
    refine .inl (Table.mem_of_untouched member ?_)
    rw [members, List.forall_mem_singleton]
    exact fun same => elsewhere ((congrArg Prod.fst same).trans workspace)

theorem highRoles_changed {id userId memberId workspaceId : Nat}
    {role : Option WorkspaceRole} {actor : WorkspaceRole} {target : MemberRow}
    (changed : MemberChanged commit id userId memberId role actor target)
    (lower : LowerRole commit.before workspaceId userId) :
    HighRolesKept commit workspaceId userId := by
  obtain ⟨stored, key⟩ := Table.find_eq_some.mp changed.stored
  obtain ⟨targetId, targetUser⟩ := Prod.mk.inj key
  have others : ∀ row ∈ commit.before.members,
      (row.workspaceId, row.userId) ≠ (id, memberId) →
        row ∈ commit.after.members := by
    intro row member different
    refine Table.mem_of_untouched member ?_
    rw [changed.members, List.forall_mem_singleton]
    cases role with
    | none => exact fun same => different same.symm
    | some role => exact fun same => different (same.symm.trans key)
  have origin : ∀ row ∈ commit.after.members, row ∈ commit.before.members ∨
      row.workspaceId = id ∧ role = some row.role := by
    intro row member
    rw [after_members, changed.members] at member
    rcases Table.mem_of_mem_applyAll member with put | ⟨old, _⟩
    · rw [List.mem_singleton] at put
      cases role with
      | none => cases put
      | some role =>
          cases put
          exact .inr ⟨targetId, rfl⟩
    · exact .inl old
  -- The caller's membership of the workspace is the one `authorize` read.
  have notOwner : workspaceId = id → actor ≠ .owner := by
    rintro rfl rfl
    obtain ⟨row, member, rowId, rowUser, low⟩ := lower
    obtain ⟨own, ownMember, ownId, ownUser, ownRole⟩ := changed.acts.member
    have rows : row = own := by
      apply Table.eq_of_key member ownMember
      rw [MemberRow.key_eq, MemberRow.key_eq, rowId, rowUser, ownId, ownUser]
    exact low (rows ▸ ownRole)
  constructor
  · intro row member workspace high
    rcases origin row member with old | ⟨rowId, granted⟩
    · exact old
    · have here := notOwner (workspace.symm.trans rowId)
      rcases changed.allowed with ⟨_, leaves⟩ | owner | ⟨_, _, low | leaves⟩
      · cases granted.symm.trans leaves
      · exact absurd owner here
      · exact absurd (Option.some.inj (granted.symm.trans low)) high
      · cases granted.symm.trans leaves
  · intro row member workspace high
    by_cases named : (row.workspaceId, row.userId) = (id, memberId)
    · obtain ⟨rowId, rowUser⟩ := Prod.mk.inj named
      have here := notOwner (workspace.symm.trans rowId)
      rcases changed.allowed with ⟨self, leaves⟩ | owner | ⟨_, low, _⟩
      · refine .inr ⟨rowUser.trans self, ?_⟩
        subst leaves
        rintro ⟨still, stillMember, stillId, stillUser⟩
        rw [after_members, changed.members, Table.applyAll_drop,
          Table.mem_drop] at stillMember
        apply stillMember.2
        rw [MemberRow.key_eq, stillId, stillUser, self,
          ← workspace.symm.trans rowId]
      · exact absurd owner here
      · have rows : row = target := by
          apply Table.eq_of_key member stored
          exact named.trans key.symm
        exact absurd (rows ▸ low) high
    · exact .inl (others row member named)

theorem highRoles_of_effect {call : WorkspaceCall} {id : Nat}
    (effect : Effect runtime drawn commit earlier) (sound : Sound commit.before)
    (request : commit.request = .workspace call)
    (lower : LowerRole commit.before id call.caller) :
    HighRolesKept commit id call.caller := by
  unfold Effect at effect
  rw [request] at effect
  obtain ⟨_, effect⟩ := effect
  cases call with
  | list => exact effect.elim
  | create userId name =>
      obtain ⟨new, created⟩ := effect
      refine highRoles_joined created.members ?_
      rintro rfl
      obtain ⟨row, member, rowId, _⟩ := lower
      have present := sound.memberWorkspace row member
      rw [rowId, created.fresh] at present
      cases present
  | details =>
      obtain ⟨_, nothing⟩ := effect
      exact highRoles_nothing (by rw [nothing]; rfl)
  | rename =>
      obtain ⟨actor, row, renamed⟩ := effect
      exact highRoles_nothing renamed.members
  | invite =>
      obtain ⟨actor, revoked, new, invited⟩ := effect
      exact highRoles_nothing invited.members
  | accept userId token =>
      obtain ⟨row, accepted⟩ := effect
      rcases accepted.members with ⟨_, members⟩ | ⟨absent, members⟩
      · exact highRoles_nothing members
      · refine highRoles_joined members ?_
        rintro rfl
        obtain ⟨own, member, ownId, ownUser, _⟩ := lower
        exact absent ⟨own, member, ownId, ownUser⟩
  | revoke =>
      obtain ⟨actor, revoked⟩ := effect
      exact highRoles_nothing revoked.members
  | changeMember =>
      obtain ⟨actor, target, changed⟩ := effect
      exact highRoles_changed changed lower

/-- Redeeming an invitation leaves every membership as it is. -/
theorem members_kept_of_accepted {userId token : Nat} {row : InvitationRow}
    (accepted : Accepted runtime commit earlier userId token row) :
    ∀ member ∈ commit.before.members, member ∈ commit.after.members := by
  intro member stored
  rcases accepted.members with ⟨_, members⟩ | ⟨absent, members⟩
  · rw [after_members, members]
    exact stored
  · refine Table.mem_of_untouched stored ?_
    rw [members, List.forall_mem_singleton]
    intro same
    obtain ⟨workspace, user⟩ := Prod.mk.inj same
    exact absent ⟨member, stored, workspace.symm, user.symm⟩

/-- No escalation, over whole runs that start without workspaces. -/
theorem roles_of_reachable (environment : Environment)
    (admits : Request → Bool) (world : DbWorld) (config : DbConfig)
    (begins : Begins world) (empty : world.db.workspaces = ∅)
    (reachable :
      (system environment admits).Reachable (.idle world) config) :
    (∀ row ∈ config.world.db.members, row.role = .owner →
      CreatedBy config.world.commits row.workspaceId row.userId ∨
        GrantedByOwner config.world.commits row.workspaceId row.userId
          .owner) ∧
    (∀ row ∈ config.world.db.members, row.role = .admin →
      GrantedByOwner config.world.commits row.workspaceId row.userId .admin ∨
        RedeemedAdmin config.world.commits row.workspaceId row.userId) ∧
    (∀ commit ∈ config.world.commits, ∀ userId token,
      commit.request = .workspace (.accept userId token) →
        ∀ row ∈ commit.before.members, row ∈ commit.after.members) ∧
    (∀ commit ∈ config.world.commits, ∀ call,
      commit.request = .workspace call →
        ∀ id, LowerRole commit.before id call.caller →
          HighRolesKept commit id call.caller) := by
  have run : Run environment False world.db config :=
    .of_reachable begins False.elim reachable
  have none : ∀ id, world.db.workspaces.find id = none := by
    rw [empty]
    exact fun _ => rfl
  have justified : Justified config.world.commits config.world.db := by
    refine Leads.induction (motive := Justified) run.leads run.legal ?_
      fun commit earlier _ justified effect =>
        justified_of_effect effect.1 justified
    refine ⟨fun row member => ?_, fun row member => ?_, fun row member => ?_⟩
    · have present := begins.sound.memberWorkspace row member
      simp [none] at present
    · have present := begins.sound.memberWorkspace row member
      simp [none] at present
    · have present := begins.sound.invitationWorkspace row member
      simp [none] at present
  refine ⟨justified.owner, justified.admin, ?_, ?_⟩
  · intro commit member userId token request
    obtain ⟨earlier, _, effect, _⟩ := run.legal.mem member
    obtain ⟨row, accepted⟩ := accepted_of_effect effect (by rw [request]; rfl)
    exact members_kept_of_accepted accepted
  · intro commit member call request id lower
    obtain ⟨earlier, _, effect, sound⟩ := run.legal.mem member
    exact highRoles_of_effect effect sound request lower

theorem roles_of_reachable_join :
    ∃ config : DbConfig,
      config.world.db.members.rows.map (fun row => (row.userId, row.role)) =
        [(1, .owner), (2, .admin)] ∧
      ∀ row ∈ config.world.db.members, row.role = .admin →
        GrantedByOwner config.world.commits row.workspaceId row.userId
            .admin ∨
          RedeemedAdmin config.world.commits row.workspaceId row.userId :=
  ⟨Sample.after Request.isWorkspace joinSchedule, by decide,
    (roles_of_reachable _ _ _ _ Sample.begins rfl
      (Sample.reachable _ _)).2.1⟩

/-- A pending invitation of an administrator that has not expired yet. -/
def OpenAdminInvitation (commit : DbCommit) (id : Nat) (row : InvitationRow) :
    Prop :=
  row ∈ commit.before.invitations ∧ row.workspaceId = id ∧ row.role = .admin ∧
    row.Pending ∧ commit.clock < row.expiresAt

/-- They are all still pending, with their token and role. -/
def KeepsAdminInvitations (commit : DbCommit) (id : Nat) : Prop :=
  ∀ row, OpenAdminInvitation commit id row →
    ∃ later ∈ commit.after.invitations, later.id = row.id ∧ later.Pending ∧
      later.tokenHash = row.tokenHash ∧ later.role = row.role

/-- The commit invites an address that has one of them. -/
def ReissuesAdminInvitation (commit : DbCommit) (id : Nat) : Prop :=
  ∃ userId body row, commit.request = .workspace (.invite id userId body) ∧
    OpenAdminInvitation commit id row ∧ row.email = body.email

/-- A pending invitation stays what it is unless the commit settles it. -/
theorem keepsAdminInvitations_of_written {rows : List InvitationRow}
    {next : InvitationRow → InvitationRow} {fresh : Option InvitationRow}
    {id : Nat} (written : InvitationsWritten commit rows next fresh)
    (spared : ∀ row ∈ rows, ¬OpenAdminInvitation commit id row) :
    KeepsAdminInvitations commit id := by
  intro row opened
  have ⟨stored, _, _, pending, _⟩ := opened
  refine ⟨row, written.mem_after.mpr (.inr (.inr ⟨stored, ?_⟩)), rfl, pending,
    rfl, rfl⟩
  intro old member same
  have rows := Table.eq_of_key (written.stored old member).1 stored same
  exact spared old member (rows ▸ opened)

theorem not_keeps_of_settled {rows : List InvitationRow}
    {next : InvitationRow → InvitationRow} {fresh : Option InvitationRow}
    {id : Nat} {row : InvitationRow}
    (written : InvitationsWritten commit rows next fresh) (member : row ∈ rows)
    (opened : OpenAdminInvitation commit id row) :
    ¬KeepsAdminInvitations commit id := by
  intro keeps
  obtain ⟨later, laterMember, same, pending, _⟩ := keeps row opened
  have settled : next row ∈ commit.after.invitations :=
    written.mem_after.mpr (.inr (.inl ⟨row, member, rfl⟩))
  have rows : later = next row := by
    apply Table.eq_of_key laterMember settled
    exact same.trans (written.same row).id.symm
  exact written.not_pending row (rows ▸ pending)

theorem keeps_iff_not_reissues {call : WorkspaceCall} {id : Nat}
    (effect : Effect runtime drawn commit earlier)
    (request : commit.request = .workspace call)
    (named : commit.request.workspaceId = some id)
    (admin : Acts commit id call.caller .admin) :
    KeepsAdminInvitations commit id ↔ ¬ReissuesAdminInvitation commit id := by
  have idle (other : ∀ userId body, call ≠ .invite id userId body)
      (keeps : KeepsAdminInvitations commit id) :
      KeepsAdminInvitations commit id ↔
        ¬ReissuesAdminInvitation commit id := by
    refine iff_of_true keeps ?_
    rintro ⟨userId, body, _, invites, _⟩
    exact other userId body (Request.workspace.inj (request.symm.trans invites))
  have unique {actor : WorkspaceRole} (acts : Acts commit id call.caller actor) :
      actor = .admin := by
    obtain ⟨row, stored, rowId, rowUser, rowRole⟩ := acts.member
    obtain ⟨own, ownStored, ownId, ownUser, ownRole⟩ := admin.member
    have rows : row = own := by
      apply Table.eq_of_key stored ownStored
      rw [MemberRow.key_eq, MemberRow.key_eq, rowId, rowUser, ownId, ownUser]
    exact rowRole.symm.trans (rows ▸ ownRole)
  rw [request] at named
  unfold Effect at effect
  rw [request] at effect
  obtain ⟨_, effect⟩ := effect
  cases call with
  | list | create | accept => cases named
  | details =>
      obtain ⟨_, nothing⟩ := effect
      refine idle nofun (keepsAdminInvitations_of_written
        (written_nothing ?_) (by simp))
      rw [nothing]
      rfl
  | rename =>
      obtain ⟨actor, row, renamed⟩ := effect
      exact idle nofun (keepsAdminInvitations_of_written
        (written_nothing renamed.invitations) (by simp))
  | changeMember =>
      obtain ⟨actor, target, changed⟩ := effect
      exact idle nofun (keepsAdminInvitations_of_written
        (written_nothing changed.invitations) (by simp))
  | revoke workspaceId userId invitationId =>
      obtain rfl := Option.some.inj named
      obtain ⟨actor, revoked⟩ := effect
      refine idle nofun (keepsAdminInvitations_of_written
        (written_revoked revoked) ?_)
      -- An administrator's `revoke` reaches member invitations only.
      intro row member opened
      have found := WorkspacesService.revocable_eq_some.mp
        (Option.mem_toList.mp member)
      rcases found.2.2.2.2 with owner | low
      · cases (unique revoked.acts).symm.trans owner
      · cases low.symm.trans opened.2.2.1
  | invite workspaceId userId body =>
      obtain rfl := Option.some.inj named
      obtain ⟨actor, rows, new, invited⟩ := effect
      have written := written_invited invited
      constructor
      · rintro keeps ⟨otherUser, otherBody, row, invites, opened, email⟩
        obtain ⟨_, rfl, rfl⟩ := WorkspaceCall.invite.inj
          (Request.workspace.inj (request.symm.trans invites))
        refine not_keeps_of_settled written ?_ opened keeps
        exact (invited.pending.2 row).mpr
          ⟨opened.1, opened.2.1, email, opened.2.2.2.1⟩
      · intro spared
        refine keepsAdminInvitations_of_written written ?_
        intro row member opened
        exact spared ⟨userId, body, row, request, opened,
          ((invited.pending.2 row).mp member).2.2.1⟩

/-- An operation of a workspace administrator keeps the open administrator
invitations exactly if it does not invite one of their addresses again. -/
theorem adminInvitations_of_reachable (environment : Environment)
    (admits : Request → Bool) (world : DbWorld) (config : DbConfig)
    (begins : Begins world)
    (reachable :
      (system environment admits).Reachable (.idle world) config) :
    ∀ commit ∈ config.world.commits, ∀ call,
      commit.request = .workspace call →
        ∀ id, commit.request.workspaceId = some id →
          Acts commit id call.caller .admin →
          (KeepsAdminInvitations commit id ↔
            ¬ReissuesAdminInvitation commit id) := by
  have run : Run environment False world.db config :=
    .of_reachable begins False.elim reachable
  intro commit member call request id named admin
  obtain ⟨earlier, _, effect, _⟩ := run.legal.mem member
  exact keeps_iff_not_reissues effect request named admin

/-- Account 2 becomes an administrator and then invites, as a member, the
address its owner has invited as an administrator. -/
def reissueSchedule : List (Choice Request) :=
  Sample.serve (.workspace (.create 1 "team")) 7 8 ++
    Sample.serve (.workspace (.invite 7 1 ⟨"b", .admin⟩)) 9 11 ++
    Sample.serve (.workspace (.accept 2 9)) 0 9 ++
    Sample.serve (.workspace (.invite 7 1 ⟨"d", .admin⟩)) 10 11 ++
    Sample.serve (.workspace (.invite 7 2 ⟨"d", .member⟩)) 11 10

theorem adminInvitations_of_reachable_reissue :
    ∃ config : DbConfig, ∃ commit ∈ config.world.commits,
      commit.request = .workspace (.invite 7 2 ⟨"d", .member⟩) ∧
      (KeepsAdminInvitations commit 7 ↔ ¬ReissuesAdminInvitation commit 7) := by
  have logged : ∃ commit ∈
      (Sample.after Request.isWorkspace reissueSchedule).world.commits,
      commit.request = .workspace (.invite 7 2 ⟨"d", .member⟩) ∧
        (commit.before.workspaces.find 7).isSome ∧
        ∃ row ∈ commit.before.members, row.workspaceId = 7 ∧ row.userId = 2 ∧
          row.role = .admin := by
    decide
  obtain ⟨commit, member, request, workspace, admin⟩ := logged
  exact ⟨_, commit, member, request,
    adminInvitations_of_reachable _ _ _ _ Sample.begins (Sample.reachable _ _)
      commit member _ request 7 (by rw [request]; rfl) ⟨workspace, admin⟩⟩

/-- It ends the invitation its owner has issued. -/
theorem adminInvitation_reissued :
    ¬∀ (environment : Environment) (admits : Request → Bool) (world : DbWorld)
      (config : DbConfig), Begins world →
      (system environment admits).Reachable (.idle world) config →
      ∀ commit ∈ config.world.commits, ∀ call,
        commit.request = .workspace call →
          ∀ id, commit.request.workspaceId = some id →
            Acts commit id call.caller .admin →
            KeepsAdminInvitations commit id := by
  intro keeps
  have logged : ∃ commit ∈
      (Sample.after Request.isWorkspace reissueSchedule).world.commits,
      commit.request = .workspace (.invite 7 2 ⟨"d", .member⟩) ∧
        (commit.before.workspaces.find 7).isSome ∧
        (∃ row ∈ commit.before.members, row.workspaceId = 7 ∧
          row.userId = 2 ∧ row.role = .admin) ∧
        ∃ row ∈ commit.before.invitations, row.workspaceId = 7 ∧
          row.role = .admin ∧ row.Pending ∧ commit.clock < row.expiresAt ∧
          ∀ later ∈ commit.after.invitations, later.id = row.id →
            ¬later.Pending := by
    decide
  obtain ⟨commit, member, request, workspace, admin, row, stored, rowId, role,
    pending, unexpired, ended⟩ := logged
  obtain ⟨later, laterMember, same, still, _⟩ :=
    keeps _ _ _ _ Sample.begins (Sample.reachable _ _) commit member _ request 7
      (by rw [request]; rfl) ⟨workspace, admin⟩ row
      ⟨stored, rowId, role, pending, unexpired⟩
  exact ended later laterMember same still

end SaasFoundation
