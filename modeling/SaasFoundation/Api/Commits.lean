import SaasFoundation.Api.Runs

/-!
# What a commit does to each table

Every effect touches one group of tables.  These are the inversions the
results about runs start from.
-/

namespace SaasFoundation

open Relational Transaction

variable {runtime : Runtime} {drawn : Prop} {commit : DbCommit}
  {earlier : List DbCommit}

/-- Workspace requests have no guards of their own. -/
theorem Request.core_workspace {request : Request} {call : WorkspaceCall}
    (core : request.core = .workspace call) : request = .workspace call := by
  cases request with
  | workspace | account | auth | adjust | role => exact core
  | guarded payload call => cases call <;> cases core
  | admin identity call => cases call <;> cases core

@[simp] theorem after_users :
    commit.after.users =
      Table.applyAll commit.writes.users commit.before.users := rfl

@[simp] theorem after_sessions :
    commit.after.sessions =
      Table.applyAll commit.writes.sessions commit.before.sessions := rfl

@[simp] theorem after_workspaces :
    commit.after.workspaces =
      Table.applyAll commit.writes.workspaces commit.before.workspaces := rfl

@[simp] theorem after_members :
    commit.after.members =
      Table.applyAll commit.writes.members commit.before.members := rfl

@[simp] theorem after_invitations :
    commit.after.invitations =
      Table.applyAll commit.writes.invitations commit.before.invitations := rfl

@[simp] theorem after_credits :
    commit.after.credits =
      Table.applyAll commit.writes.credits commit.before.credits := rfl

@[simp] theorem after_entries :
    commit.after.entries =
      Table.applyAll commit.writes.entries commit.before.entries := rfl

/-- What a commit does to the accounts. -/
inductive UsersWritten (commit : DbCommit) : Prop where
  | nothing (users : commit.writes.users = [])
  | changed (old new : UserRow) (exclude : Option Nat)
      (changed : UserChanged commit old new exclude)
  | inserted (new : UserRow) (inserted : AccountInserted commit new)

/-- The requests that change an account through `updateAtomically`, with the
change they ask for. -/
inductive ProfileCall (runtime : Runtime) (commit : DbCommit)
    (old : UserRow) : AuthCall → Option Nat → UserChanges → Prop where
  | confirmEmail (hash : String)
      (pending : old.statusId = some StatusId.pendingVerification)
      (confirms : Confirms runtime hash old none) :
      ProfileCall runtime commit old (.confirmEmail hash) none
        { status := some StatusId.active }
  | confirmNewEmail (hash email : String)
      (active : old.statusId = some StatusId.active)
      (confirms : Confirms runtime hash old (some email))
      (revokes : Revokes commit old.id none) :
      ProfileCall runtime commit old (.confirmNewEmail hash) none
        { email := some (some email) }
  | resetPassword (hash password : String) (stored : Option String)
      (hashed : Hashed runtime (some password) stored)
      (resets : Resets runtime hash old)
      (revokes : Revokes commit old.id none) :
      ProfileCall runtime commit old (.resetPassword hash password) none
        { password := stored }
  | update (payload : JwtPayload) (dto : AuthUpdateDto)
      (stored : Option String) (caller : old.id = payload.id)
      (hashed : Hashed runtime dto.password stored)
      (revokes : (AuthService.given dto.password).isSome →
        Revokes commit old.id (some payload.sessionId)) :
      ProfileCall runtime commit old (.update payload dto) (some payload.sessionId)
        (dto.changes stored)

/-- What a commit does to the accounts, by the request that made it. -/
inductive AccountsWritten (runtime : Runtime) (commit : DbCommit)
    (earlier : List DbCommit) : Prop where
  | nothing (users : commit.writes.users = [])
  | created (type : AccountType) (dto : AccountsService.AdminAccountDto)
      (actor : Nat) (new : UserRow)
      (core : commit.request.core = .account (.save type dto actor none))
      (created : AccountCreated runtime commit type dto new)
  | registered (dto : AuthRegisterLoginDto) (new : UserRow)
      (core : commit.request.core = .auth (.register dto))
      (registered : Registered commit dto new)
  | updated (type : AccountType) (dto : AccountsService.AdminAccountDto)
      (actor id : Nat) (old new : UserRow)
      (changes : AccountsService.AccountChanges)
      (core : commit.request.core = .account (.save type dto actor (some id)))
      (updated : AccountUpdated runtime commit earlier type dto id old new
        changes)
  | removed (type : AccountType) (id actor : Nat) (old new : UserRow)
      (core : commit.request.core = .account (.remove type id actor))
      (removed : AccountRemoved commit type id old new)
  | profile (call : AuthCall) (old new : UserRow) (exclude : Option Nat)
      (changes : UserChanges) (core : commit.request.core = .auth call)
      (asked : ProfileCall runtime commit old call exclude changes)
      (profile : ProfileChanged commit old new exclude changes)
  | deleted (payload : JwtPayload) (old new : UserRow)
      (core : commit.request.core = .auth (.softDelete payload))
      (deleted : SelfDeleted commit payload.id old new)

theorem AccountsWritten.users {runtime : Runtime}
    (written : AccountsWritten runtime commit earlier) :
    UsersWritten commit := by
  cases written with
  | nothing users => exact .nothing users
  | created type dto actor new core created =>
      exact .inserted new created.inserted
  | registered dto new core registered =>
      exact .inserted new registered.inserted
  | updated type dto actor id old new changes core updated =>
      exact .changed old new none updated.changed
  | removed type id actor old new core removed =>
      exact .changed old new none removed.changed
  | profile call old new exclude changes core asked profile =>
      exact .changed old new exclude profile.changed
  | deleted payload old new core deleted =>
      exact .changed old new none deleted.changed

/-- Account and session requests write no other tables. -/
theorem onlyAccounts_of_effect
    (effect : Effect runtime drawn commit earlier)
    (core : (∃ call, commit.request.core = .account call) ∨
      ∃ call, commit.request.core = .auth call) :
    OnlyAccounts commit.writes ∧ AccountsWritten runtime commit earlier := by
  unfold Effect at effect
  rcases core with ⟨call, core⟩ | ⟨call, core⟩
  · rw [core] at effect
    cases call with
    | save type dto actor id =>
        cases id with
        | none =>
            obtain ⟨new, created⟩ := effect
            exact ⟨created.inserted.frame, .created _ _ _ new core created⟩
        | some id =>
            obtain ⟨old, new, changes, updated⟩ := effect
            exact ⟨updated.changed.frame,
              .updated _ _ _ _ old new changes core updated⟩
    | remove type id actor =>
        obtain ⟨old, new, removed⟩ := effect
        exact ⟨removed.changed.frame, .removed _ _ _ old new core removed⟩
  · rw [core] at effect
    cases call with
    | validateLogin =>
        obtain ⟨user, session, loggedIn, _⟩ := effect
        exact ⟨loggedIn.frame, .nothing loggedIn.users⟩
    | register =>
        obtain ⟨new, registered⟩ := effect
        exact ⟨registered.inserted.frame, .registered _ new core registered⟩
    | confirmEmail hash =>
        obtain ⟨old, new, profile, pending, confirms⟩ := effect
        exact ⟨profile.changed.frame, .profile _ old new none _ core
          (.confirmEmail hash pending confirms) profile⟩
    | confirmNewEmail hash =>
        obtain ⟨old, new, email, profile, active, confirms, revokes⟩ := effect
        exact ⟨profile.changed.frame, .profile _ old new none _ core
          (.confirmNewEmail hash email active confirms revokes) profile⟩
    | resetPassword hash password =>
        obtain ⟨old, new, stored, profile, hashed, resets, revokes⟩ :=
          effect
        exact ⟨profile.changed.frame, .profile _ old new none _ core
          (.resetPassword hash password stored hashed resets revokes) profile⟩
    | update payload dto =>
        obtain ⟨old, new, stored, caller, profile, hashed, revokes⟩ := effect
        exact ⟨profile.changed.frame, .profile _ old new _ _ core
          (.update payload dto stored caller hashed revokes) profile⟩
    | refreshToken =>
        obtain ⟨next, rotated, _⟩ := effect
        exact ⟨rotated.frame, .nothing rotated.users⟩
    | logout => exact ⟨effect.frame, .nothing effect.users⟩
    | softDelete payload =>
        rcases effect with ⟨old, new, deleted⟩ | nothing
        · exact ⟨deleted.changed.frame, .deleted payload old new core deleted⟩
        · rw [nothing]
          exact ⟨⟨rfl, rfl, rfl, rfl, rfl, rfl⟩,
            .nothing (by rw [nothing]; rfl)⟩
    | resendConfirmation | forgotPassword | validate => exact effect.elim

/-- Every commit is by one kind of request. -/
theorem kind_of_effect (effect : Effect runtime drawn commit earlier) :
    (∃ call, commit.request.core = .workspace call ∧
      OnlyWorkspaces commit.writes ∧
      WorkspaceEffect runtime commit earlier call) ∨
    ((∃ call, commit.request.core = .account call) ∨
      ∃ call, commit.request.core = .auth call) ∨
    (∃ body actor, commit.request.core = .adjust body actor ∧
      AdjustEffect commit body actor) ∨
    ∃ call actor, commit.request.core = .role call actor ∧
      RoleWritten commit := by
  unfold Effect at effect
  split at effect
  · rename_i call core
    exact .inl ⟨call, core, effect⟩
  · rename_i call core
    exact .inr (.inl (.inl ⟨call, core⟩))
  · rename_i call core
    exact .inr (.inl (.inr ⟨call, core⟩))
  · rename_i body actor core
    exact .inr (.inr (.inl ⟨body, actor, core, effect⟩))
  · rename_i call actor core
    exact .inr (.inr (.inr ⟨call, actor, core, effect⟩))
  · exact effect.elim
  · exact effect.elim

theorem accounts_of_effect (effect : Effect runtime drawn commit earlier) :
    AccountsWritten runtime commit earlier := by
  rcases kind_of_effect effect with
    ⟨_, _, only, _⟩ | core | ⟨_, _, _, only, _⟩ | ⟨_, _, _, written⟩
  · exact .nothing only.users
  · exact (onlyAccounts_of_effect effect core).2
  · exact .nothing only.users
  · exact .nothing written.users

theorem users_of_effect (effect : Effect runtime drawn commit earlier) :
    UsersWritten commit :=
  (accounts_of_effect effect).users

/-- Workspaces change through workspace requests only. -/
theorem workspace_of_effect (effect : Effect runtime drawn commit earlier) :
    (∃ call, commit.request.core = .workspace call ∧
      OnlyWorkspaces commit.writes ∧
      WorkspaceEffect runtime commit earlier call) ∨
    commit.writes.workspaces = [] ∧ commit.writes.members = [] ∧
      commit.writes.invitations = [] := by
  rcases kind_of_effect effect with
    workspace | core | ⟨_, _, _, only, _⟩ | ⟨_, _, _, written⟩
  · exact .inl workspace
  · have frame := (onlyAccounts_of_effect effect core).1
    exact .inr ⟨frame.workspaces, frame.members, frame.invitations⟩
  · exact .inr ⟨only.workspaces, only.members, only.invitations⟩
  · exact .inr ⟨written.workspaces, written.members, written.invitations⟩

/-- Balances change through adjustments only. -/
theorem adjust_of_effect (effect : Effect runtime drawn commit earlier) :
    (∃ body actor, commit.request.core = .adjust body actor ∧
      AdjustEffect commit body actor) ∨
    commit.writes.credits = [] ∧ commit.writes.entries = [] := by
  rcases kind_of_effect effect with
    ⟨_, _, only, _⟩ | core | adjusted | ⟨_, _, _, written⟩
  · exact .inr ⟨only.credits, only.entries⟩
  · have frame := (onlyAccounts_of_effect effect core).1
    exact .inr ⟨frame.credits, frame.entries⟩
  · exact .inl adjusted
  · exact .inr ⟨written.credits, written.entries⟩

/-- Without account requests every state has the accounts of the first. -/
theorem users_constant {initial state : Db} {commits : List DbCommit}
    (leads : Leads initial commits state)
    (users : ∀ commit ∈ commits, commit.writes.users = []) :
    ∀ past ∈ state :: commits.map (·.before), past.users = initial.users := by
  induction commits generalizing state with
  | nil =>
      cases leads
      simp
  | cons commit earlier ih =>
      rw [List.forall_mem_cons] at users
      obtain ⟨rfl, before⟩ := leads
      have past := ih before users.2
      refine List.forall_mem_cons.mpr ⟨?_, past⟩
      rw [after_users, users.1]
      exact past _ List.mem_cons_self

theorem mem_users_nothing (users : commit.writes.users = []) {row : UserRow} :
    row ∈ commit.after.users ↔ row ∈ commit.before.users := by
  rw [after_users, users]
  rfl

/-- The changed row, and all other rows as they were. -/
theorem mem_users_changed {old new row : UserRow} {exclude : Option Nat}
    (changed : UserChanged commit old new exclude) :
    row ∈ commit.after.users ↔
      row = new ∨ row ∈ commit.before.users ∧ row.id ≠ old.id := by
  rcases changed.users with ⟨nothing, rfl⟩ | put
  · rw [mem_users_nothing nothing]
    constructor
    · intro member
      by_cases same : row.id = new.id
      · exact .inl (Table.eq_of_key member changed.stored same)
      · exact .inr ⟨member, same⟩
    · rintro (rfl | ⟨member, _⟩)
      · exact changed.stored
      · exact member
  · rw [after_users, put, Table.applyAll_put, Table.mem_put, UserRow.key_eq,
      UserRow.key_eq, changed.same]

theorem mem_users_inserted {new row : UserRow}
    (inserted : AccountInserted commit new) :
    row ∈ commit.after.users ↔ row = new ∨ row ∈ commit.before.users := by
  rw [after_users, inserted.users, Table.applyAll_put, Table.mem_put]
  constructor
  · rintro (rfl | ⟨member, _⟩)
    · exact .inl rfl
    · exact .inr member
  · rintro (rfl | member)
    · exact .inl rfl
    · exact .inr ⟨member, Table.find_eq_none.mp inserted.fresh row member⟩

theorem liveUser_nothing (users : commit.writes.users = []) {id : Nat} :
    LiveUser commit.after id ↔ LiveUser commit.before id := by
  simp only [LiveUser, mem_users_nothing users]

/-- An active account stays active, unless it is the one that is changed. -/
theorem liveUser_changed {old new : UserRow} {exclude : Option Nat}
    (changed : UserChanged commit old new exclude) {id : Nat}
    (live : LiveUser commit.before id)
    (kept : old.id = id → old.Active → new.Active) :
    LiveUser commit.after id := by
  obtain ⟨user, member, rfl, active⟩ := live
  by_cases same : user.id = old.id
  · obtain rfl := Table.eq_of_key changed.stored member same.symm
    exact ⟨new, (mem_users_changed changed).mpr (.inl rfl), changed.same,
      kept rfl active⟩
  · exact ⟨user, (mem_users_changed changed).mpr (.inr ⟨member, same⟩), rfl,
      active⟩

theorem liveUser_inserted {new : UserRow} (inserted : AccountInserted commit new)
    {id : Nat} (live : LiveUser commit.before id) :
    LiveUser commit.after id := by
  obtain ⟨user, member, rfl, active⟩ := live
  exact ⟨user, (mem_users_inserted inserted).mpr (.inr member), rfl, active⟩

end SaasFoundation
