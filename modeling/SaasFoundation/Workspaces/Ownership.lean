import SaasFoundation.Api.Commits

/-!
# Owners of workspaces

Two paths can take an owner away: `changeMember`, which counts the active
owners under the lock of the workspace, and a change of the owner's account,
which the trigger checks.  Every commit of either kind leaves an active owner.
-/

namespace SaasFoundation

open Relational Transaction Api

variable {runtime : Runtime} {drawn : Prop} {commit : DbCommit}
  {earlier : List DbCommit}

/-- Every workspace has an active owner. -/
def Owned (db : Db) : Prop :=
  ∀ workspace ∈ db.workspaces, ∃ userId, ActiveOwner db workspace.id userId

theorem ownerOf_untouched {id userId : Nat}
    (owner : OwnerOf commit.before id userId)
    (untouched : ∀ change ∈ commit.writes.members,
      change.target ≠ (id, userId)) :
    OwnerOf commit.after id userId := by
  obtain ⟨row, member, rfl, rfl, role⟩ := owner
  exact ⟨row, Table.mem_of_untouched member untouched, rfl, rfl, role⟩

/-- A commit that adds no workspace has to leave every workspace an owner. -/
theorem owned_of_kept (owned : Owned commit.before)
    (old : ∀ workspace ∈ commit.after.workspaces,
      (commit.before.workspaces.find workspace.id).isSome)
    (kept : ∀ id userId, ActiveOwner commit.before id userId →
      ∃ other, ActiveOwner commit.after id other) :
    Owned commit.after := by
  intro workspace member
  obtain ⟨row, stored, same⟩ := Table.find_isSome.mp (old workspace member)
  obtain ⟨userId, owner⟩ := owned row stored
  rw [WorkspaceRow.key_eq] at same
  exact kept workspace.id userId (same ▸ owner)

theorem workspaces_nothing (workspaces : commit.writes.workspaces = []) :
    ∀ workspace ∈ commit.after.workspaces,
      (commit.before.workspaces.find workspace.id).isSome := by
  intro workspace member
  rw [after_workspaces, workspaces] at member
  exact Table.find_isSome.mpr ⟨workspace, member, rfl⟩

theorem owned_of_users (written : UsersWritten commit)
    (workspaces : commit.writes.workspaces = [])
    (members : commit.writes.members = []) (owned : Owned commit.before) :
    Owned commit.after := by
  refine owned_of_kept owned (workspaces_nothing workspaces) ?_
  rintro id userId ⟨owner, live⟩
  have owners : ∀ user, OwnerOf commit.before id user →
      OwnerOf commit.after id user :=
    fun user owner => ownerOf_untouched owner (by simp [members])
  cases written with
  | nothing users =>
      exact ⟨userId, owners _ owner, (liveUser_nothing users).mpr live⟩
  | inserted new inserted =>
      exact ⟨userId, owners _ owner, liveUser_inserted inserted live⟩
  | changed old new exclude changed =>
      by_cases dies : old.id = userId ∧ old.Active ∧ ¬new.Active
      · -- The trigger has found another active owner.
        obtain ⟨rfl, active, inactive⟩ := dies
        obtain ⟨other, different, otherOwner, otherLive⟩ :=
          changed.owners active inactive id owner
        refine ⟨other, owners _ otherOwner, ?_⟩
        exact liveUser_changed changed otherLive
          fun same => absurd same.symm different
      · refine ⟨userId, owners _ owner, liveUser_changed changed live ?_⟩
        intro same active
        by_contra inactive
        exact dies ⟨same, active, inactive⟩

theorem owned_of_created {userId id : Nat} {name : String}
    (created : Created commit userId name id) (users : commit.writes.users = [])
    (owned : Owned commit.before) : Owned commit.after := by
  intro workspace member
  rw [after_workspaces, created.workspaces, Table.applyAll_put,
    Table.mem_put] at member
  rcases member with rfl | ⟨stored, _⟩
  · have joined : { workspaceId := id, userId, role := .owner
                    createdAt := commit.started } ∈ commit.after.members := by
      rw [after_members, created.members, Table.applyAll_put]
      exact Table.mem_put.mpr (.inl rfl)
    exact ⟨userId, ⟨_, joined, rfl, rfl, rfl⟩,
      (liveUser_nothing users).mpr created.user⟩
  · obtain ⟨owner, ownerOf, live⟩ := owned workspace stored
    refine ⟨owner, ownerOf_untouched ownerOf ?_,
      (liveUser_nothing users).mpr live⟩
    rw [created.members, List.forall_mem_singleton]
    intro same
    exact Table.find_eq_none.mp created.fresh workspace stored
      (congrArg Prod.fst same).symm

theorem owned_of_memberChanged {id userId memberId : Nat}
    {role : Option WorkspaceRole} {actor : WorkspaceRole} {target : MemberRow}
    (changed : MemberChanged commit id userId memberId role actor target)
    (users : commit.writes.users = []) (owned : Owned commit.before) :
    Owned commit.after := by
  refine owned_of_kept owned (workspaces_nothing changed.workspaces) ?_
  have others : ∀ workspaceId user, (workspaceId, user) ≠ (id, memberId) →
      ActiveOwner commit.before workspaceId user →
      ActiveOwner commit.after workspaceId user := by
    rintro workspaceId user different ⟨owner, live⟩
    refine ⟨ownerOf_untouched owner ?_, (liveUser_nothing users).mpr live⟩
    rw [changed.members, List.forall_mem_singleton]
    cases role with
    | none => exact fun same => different same.symm
    | some role =>
        obtain ⟨_, same⟩ := Table.find_eq_some.mp changed.stored
        exact fun target => different (target.symm.trans same)
  intro workspaceId user owner
  by_cases named : (workspaceId, user) = (id, memberId)
  · obtain ⟨rfl, rfl⟩ := Prod.mk.inj named
    obtain ⟨⟨row, member, rowId, rowUser, rowRole⟩, live⟩ := owner
    obtain ⟨stored, key⟩ := Table.find_eq_some.mp changed.stored
    have rows : row = target := by
      apply Table.eq_of_key member stored
      rw [key, MemberRow.key_eq, rowId, rowUser]
    subst rows
    by_cases stays : role = some .owner
    · subst stays
      have kept : { row with role := .owner } ∈ commit.after.members := by
        rw [after_members, changed.members, Table.applyAll_put]
        exact Table.mem_put.mpr (.inl rfl)
      exact ⟨user, ⟨_, kept, rowId, rowUser, rfl⟩,
        (liveUser_nothing users).mpr live⟩
    · obtain ⟨other, different, active⟩ := changed.owners rowRole stays
      refine ⟨other, others _ _ (fun same => ?_) active⟩
      exact different (congrArg Prod.snd same)
  · exact ⟨user, others _ _ named owner⟩

/-- A request that only adds memberships, if it writes any. -/
theorem owned_of_joined (workspaces : ∀ workspace ∈ commit.after.workspaces,
      (commit.before.workspaces.find workspace.id).isSome)
    (members : ∀ change ∈ commit.writes.members, ∀ id userId,
      change.target = (id, userId) → ¬MemberOf commit.before id userId)
    (users : commit.writes.users = []) (owned : Owned commit.before) :
    Owned commit.after := by
  refine owned_of_kept owned workspaces ?_
  rintro id userId ⟨owner, live⟩
  refine ⟨userId, ownerOf_untouched owner ?_,
    (liveUser_nothing users).mpr live⟩
  intro change member target
  obtain ⟨row, stored, rowId, rowUser, _⟩ := owner
  exact members change member id userId target ⟨row, stored, rowId, rowUser⟩

theorem workspaces_renamed {id userId : Nat} {name : String}
    {actor : WorkspaceRole} {row : WorkspaceRow}
    (renamed : Renamed commit id userId name actor row) :
    ∀ workspace ∈ commit.after.workspaces,
      (commit.before.workspaces.find workspace.id).isSome := by
  intro workspace member
  rw [after_workspaces, renamed.workspaces, Table.applyAll_put,
    Table.mem_put] at member
  rcases member with rfl | ⟨stored, _⟩
  · obtain ⟨_, same⟩ := Table.find_eq_some.mp renamed.stored
    rw [WorkspaceRow.key_eq] at same
    rw [same, renamed.stored]
    rfl
  · exact Table.find_isSome.mpr ⟨workspace, stored, rfl⟩

theorem owned_of_workspace {call : WorkspaceCall}
    (effect : WorkspaceEffect runtime commit earlier call)
    (users : commit.writes.users = []) (owned : Owned commit.before) :
    Owned commit.after := by
  cases call with
  | list => exact effect.elim
  | create =>
      obtain ⟨id, created⟩ := effect
      exact owned_of_created created users owned
  | details =>
      obtain ⟨_, nothing⟩ := effect
      exact owned_of_joined (workspaces_nothing (by rw [nothing]; rfl))
        (by simp [nothing]) users owned
  | rename =>
      obtain ⟨actor, row, renamed⟩ := effect
      exact owned_of_joined (workspaces_renamed renamed)
        (by simp [renamed.members]) users owned
  | invite =>
      obtain ⟨actor, revoked, new, invited⟩ := effect
      exact owned_of_joined (workspaces_nothing invited.workspaces)
        (by simp [invited.members]) users owned
  | accept =>
      obtain ⟨row, accepted⟩ := effect
      refine owned_of_joined (workspaces_nothing accepted.workspaces) ?_ users
        owned
      rcases accepted.members with ⟨_, members⟩ | ⟨absent, members⟩
      · simp [members]
      · rw [members, List.forall_mem_singleton]
        intro id userId same
        obtain ⟨rfl, rfl⟩ := Prod.mk.inj same
        exact absent
  | revoke =>
      obtain ⟨actor, revoked⟩ := effect
      exact owned_of_joined (workspaces_nothing revoked.workspaces)
        (by simp [revoked.members]) users owned
  | changeMember =>
      obtain ⟨actor, target, changed⟩ := effect
      exact owned_of_memberChanged changed users owned

theorem owned_of_effect (effect : Effect runtime drawn commit earlier)
    (owned : Owned commit.before) : Owned commit.after := by
  rcases workspace_of_effect effect with
    ⟨call, _, only, effect⟩ | ⟨workspaces, members, _⟩
  · exact owned_of_workspace effect only.users owned
  · exact owned_of_users (users_of_effect effect) workspaces members owned

theorem owned_of_run {environment : Environment} {initial : Db}
    {config : DbConfig} (run : Run environment False initial config)
    (empty : initial.workspaces = ∅) : Owned config.world.db := by
  refine Leads.induction (motive := fun _ db => Owned db) run.leads run.legal ?_
    fun commit earlier _ owned effect => owned_of_effect effect.1 owned
  intro workspace member
  rw [empty] at member
  exact absurd member (Table.not_mem_empty workspace)

/-- Whatever the requests and their interleaving, a workspace never loses its
last active owner. -/
theorem owned_of_reachable (environment : Environment)
    (admits : Request → Bool) (world : DbWorld) (config : DbConfig)
    (begins : Begins world) (empty : world.db.workspaces = ∅)
    (reachable :
      (system environment admits).Reachable (.idle world) config) :
    ∀ workspace ∈ config.world.db.workspaces,
      ∃ userId, ActiveOwner config.world.db workspace.id userId := by
  have run : Run environment False world.db config :=
    .of_reachable begins False.elim reachable
  exact owned_of_run run empty

theorem owned_of_reachable_created :
    ∃ config : DbConfig,
      config.world.db.workspaces.rows.map (·.id) = [7] ∧
      ∀ workspace ∈ config.world.db.workspaces,
        ∃ userId, ActiveOwner config.world.db workspace.id userId :=
  ⟨Sample.after (fun _ => true)
      (Sample.serve (.workspace (.create 1 "team")) 7 7), by decide,
    owned_of_reachable _ _ _ _ Sample.begins rfl (Sample.reachable _ _)⟩

end SaasFoundation
