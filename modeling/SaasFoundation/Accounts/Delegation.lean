import SaasFoundation.Users.Changes

/-!
# What delegated administrators cannot do

A role can carry any permission of the catalog.  Writing users and roles stays
with the administrator role all the same: `PermissionGuard` refuses the two
permissions to everybody else, and what is left reaches customers only, who
have the role of ordinary users and keep it.
-/

namespace SaasFoundation

open Relational Transaction Api

variable {runtime : Runtime} {drawn : Prop} {commit : DbCommit}
  {earlier : List DbCommit}

/-- Customers have the role of ordinary users. -/
def CustomersOrdinary (db : Db) : Prop :=
  ∀ row ∈ db.users, row.accountType = .customer →
    row.roleId = some RoleId.user

theorem account_changes_of_requested {type : AccountType}
    {dto : AccountsService.AdminAccountDto} {old : UserRow}
    {changes : AccountsService.AccountChanges}
    (requested : Requested runtime type dto old changes) :
    changes.accountType = none ∧
      (type = .customer → old.roleId = some RoleId.user →
        changes.roleId = none) := by
  obtain ⟨password, _, rfl⟩ := requested
  refine ⟨rfl, ?_⟩
  rintro rfl ordinary
  simp [AccountsService.AdminAccountDto.prepared, ordinary]

/-- No request changes the type of an account. -/
theorem accountType_of_step {old new : UserRow}
    (step : RowStep runtime commit earlier old new) :
    new.accountType = old.accountType := by
  cases step with
  | same unchanged => rw [unchanged]
  | updated type dto actor id changes core updated =>
      rcases updated.stored with ⟨_, _, rfl⟩ | ⟨_, rfl⟩
      · rfl
      · simp [AccountsService.AccountChanges.applyTo,
          (account_changes_of_requested updated.requested).1]
  | removed type id actor core removed => rw [removed.deleted]
  | profile call exclude changes core asked profile =>
      rcases profile.saved with ⟨_, rfl, _⟩ | ⟨_, rfl⟩
      · rfl
      · rw [UserChanges.applyTo_eq]
  | deleted payload core deleted => rw [deleted.deleted]

/-- The role of a customer is never changed. -/
theorem role_of_step {old new : UserRow}
    (step : RowStep runtime commit earlier old new)
    (customer : old.accountType = .customer)
    (ordinary : old.roleId = some RoleId.user) : new.roleId = old.roleId := by
  cases step with
  | same unchanged => rw [unchanged]
  | updated type dto actor id changes core updated =>
      have isCustomer : type = .customer :=
        updated.accountType.symm.trans customer
      rcases updated.stored with ⟨_, _, rfl⟩ | ⟨_, rfl⟩
      · rfl
      · simp [AccountsService.AccountChanges.applyTo,
          (account_changes_of_requested updated.requested).2 isCustomer ordinary]
  | removed type id actor core removed => rw [removed.deleted]
  | profile call exclude changes core asked profile => exact profile.role
  | deleted payload core deleted => rw [deleted.deleted]

/-- A row after a commit has a row before it, or the account was made. -/
inductive RowOrigin (runtime : Runtime) (commit : DbCommit)
    (earlier : List DbCommit) (new : UserRow) : Prop where
  | stored (old : UserRow) (member : old ∈ commit.before.users)
      (same : new.id = old.id) (step : RowStep runtime commit earlier old new)
  | created (type : AccountType) (dto : AccountsService.AdminAccountDto)
      (actor : Nat)
      (core : commit.request.core = .account (.save type dto actor none))
      (created : AccountCreated runtime commit type dto new)
  | registered (dto : AuthRegisterLoginDto)
      (core : commit.request.core = .auth (.register dto))
      (registered : Registered commit dto new)

theorem rowOrigin (effect : Effect runtime drawn commit earlier)
    {new : UserRow} (member : new ∈ commit.after.users) :
    RowOrigin runtime commit earlier new := by
  have kept (stored : new ∈ commit.before.users) :
      RowOrigin runtime commit earlier new :=
    .stored new stored rfl (rowStep effect stored member rfl)
  have changes {first second : UserRow} {exclude : Option Nat}
      (changed : UserChanged commit first second exclude) :
      RowOrigin runtime commit earlier new := by
    rcases (mem_users_changed changed).mp member with rfl | ⟨stored, _⟩
    · exact .stored first changed.stored changed.same
        (rowStep effect changed.stored member changed.same)
    · exact kept stored
  cases accounts_of_effect effect with
  | nothing users => exact kept ((mem_users_nothing users).mp member)
  | created type dto actor row core created =>
      rcases (mem_users_inserted created.inserted).mp member with rfl | stored
      · exact .created type dto actor core created
      · exact kept stored
  | registered dto row core registered =>
      rcases (mem_users_inserted registered.inserted).mp member with
        rfl | stored
      · exact .registered dto core registered
      · exact kept stored
  | updated _ _ _ _ _ _ _ _ updated => exact changes updated.changed
  | removed _ _ _ _ _ _ removed => exact changes removed.changed
  | profile _ _ _ _ _ _ _ profile => exact changes profile.changed
  | deleted _ _ _ _ deleted => exact changes deleted.changed

theorem customersOrdinary_of_effect (effect : Effect runtime drawn commit earlier)
    (ordinary : CustomersOrdinary commit.before) :
    CustomersOrdinary commit.after := by
  intro row member customer
  cases rowOrigin effect member with
  | stored old stored same step =>
      have wasCustomer : old.accountType = .customer :=
        (accountType_of_step step).symm.trans customer
      have role := ordinary old stored wasCustomer
      exact (role_of_step step wasCustomer role).trans role
  | created type dto actor core created =>
      have isCustomer : type = .customer :=
        created.accountType.symm.trans customer
      rw [created.role, if_pos isCustomer]
  | registered dto core registered => exact registered.role

/-- What the guard leaves to a caller who is no administrator. -/
theorem customers_of_permitted {identity : Identity} {call : AdminCall}
    (delegated : identity.payload.role ≠ some RoleId.admin)
    (permitted : PermissionGuard.canActivate identity (some call.permission) =
      true) :
    (∃ dto id, call = .save .customer dto id) ∨
      (∃ id, call = .remove .customer id) ∨ ∃ body, call = .adjust body := by
  have refused (reserved : call.permission ∈ [.roleWrite, .userWrite]) : False := by
    rw [PermissionGuard.canActivate, if_pos ⟨delegated, reserved⟩] at permitted
    cases permitted
  cases call with
  | save type dto id =>
      cases type with
      | user => exact (refused (by simp [AdminCall.permission, writePermission])).elim
      | customer => exact .inl ⟨dto, id, rfl⟩
  | remove type id =>
      cases type with
      | user => exact (refused (by simp [AdminCall.permission, writePermission])).elim
      | customer => exact .inr (.inl ⟨id, rfl⟩)
  | role call => exact (refused (by simp [AdminCall.permission])).elim
  | adjust body => exact .inr (.inr ⟨body, rfl⟩)

/-- A commit that is confined to customers. -/
structure Confined (commit : DbCommit) : Prop where
  roles : commit.after.roles = commit.before.roles
  kept : ∀ old ∈ commit.before.users, ∀ new ∈ commit.after.users,
    new.id = old.id → new.roleId = old.roleId ∧
      (old.accountType = .user → new = old)
  created : ∀ new ∈ commit.after.users,
    commit.before.users.find new.id = none → new.roleId = some RoleId.user

theorem confined_of_nothing (roles : commit.writes.roles = [])
    (users : commit.writes.users = []) : Confined commit where
  roles := by
    change Table.applyAll commit.writes.roles commit.before.roles = _
    rw [roles]
    rfl
  kept old stored new member same := by
    have rows : new = old :=
      Table.eq_of_key ((mem_users_nothing users).mp member) stored same
    exact ⟨congrArg _ rows, fun _ => rows⟩
  created new member absent := by
    have stored := (mem_users_nothing users).mp member
    exact absurd rfl (Table.find_eq_none.mp absent new stored)

theorem confined_of_account (effect : Effect runtime drawn commit earlier)
    (ordinary : CustomersOrdinary commit.before) {call : AccountCall}
    (core : commit.request.core = .account call)
    (customers : (∃ dto actor id, call = .save .customer dto actor id) ∨
      ∃ id actor, call = .remove .customer id actor) : Confined commit := by
  have frame := (onlyAccounts_of_effect effect (.inl ⟨call, core⟩)).1
  refine ⟨?_, ?_, ?_⟩
  · change Table.applyAll commit.writes.roles commit.before.roles = _
    rw [frame.roles]
    rfl
  · intro old stored new member same
    have step := rowStep effect stored member same
    have role (customer : old.accountType = .customer) :
        new.roleId = old.roleId ∧ (old.accountType = .user → new = old) :=
      ⟨role_of_step step customer (ordinary old stored customer),
        fun user => absurd (user.symm.trans customer) nofun⟩
    cases step with
    | same unchanged => exact ⟨congrArg _ unchanged, fun _ => unchanged⟩
    | updated type dto actor id changes isSave updated =>
        rw [core] at isSave
        cases isSave
        rcases customers with ⟨_, _, _, same⟩ | ⟨_, _, same⟩
        · cases same
          exact role updated.accountType
        · cases same
    | removed type id actor isRemove removed =>
        rw [core] at isRemove
        cases isRemove
        rcases customers with ⟨_, _, _, same⟩ | ⟨_, _, same⟩
        · cases same
        · cases same
          exact role removed.accountType
    | profile _ _ _ isAuth | deleted _ isAuth =>
        rw [core] at isAuth
        cases isAuth
  · intro new member absent
    cases rowOrigin effect member with
    | stored old stored same =>
        exact absurd same.symm (Table.find_eq_none.mp absent old stored)
    | created type dto actor isSave created =>
        rw [core] at isSave
        cases isSave
        rcases customers with ⟨_, _, _, same⟩ | ⟨_, _, same⟩
        · cases same
          rw [created.role, if_pos rfl]
        · cases same
    | registered dto registered isRegistered => exact isRegistered.role

theorem confined_of_delegated (effect : Effect runtime drawn commit earlier)
    (ordinary : CustomersOrdinary commit.before) {identity : Identity}
    {call : AdminCall} (request : commit.request = .admin identity call)
    (delegated : identity.payload.role ≠ some RoleId.admin)
    (permitted : PermissionGuard.canActivate identity (some call.permission) =
      true) : Confined commit := by
  rcases customers_of_permitted delegated permitted with
    ⟨dto, id, rfl⟩ | ⟨id, rfl⟩ | ⟨body, rfl⟩
  · exact confined_of_account effect ordinary (congrArg Request.core request)
      (.inl ⟨dto, _, id, rfl⟩)
  · exact confined_of_account effect ordinary (congrArg Request.core request)
      (.inr ⟨id, _, rfl⟩)
  · unfold Effect at effect
    rw [congrArg Request.core request] at effect
    exact confined_of_nothing effect.1.roles effect.1.users

/-- Delegated administration.  In a run that starts with customers in the role
of ordinary users, the requests to admin controllers by callers who were no
administrators when the guard let them pass are confined to customers. -/
theorem confined_of_reachable (environment : Environment)
    (admits : Request → Bool) (world : DbWorld) (config : DbConfig)
    (begins : Begins world) (ordinary : CustomersOrdinary world.db)
    (reachable : (system environment admits).Reachable (.idle world) config) :
    ∀ commit ∈ config.world.commits, ∀ identity call,
      commit.request = .admin identity call →
        identity.payload.role ≠ some RoleId.admin →
          commit.after.roles = commit.before.roles ∧
          (∀ old ∈ commit.before.users, ∀ new ∈ commit.after.users,
            new.id = old.id → new.roleId = old.roleId ∧
              (old.accountType = .user → new = old)) ∧
          ∀ new ∈ commit.after.users,
            commit.before.users.find new.id = none →
              new.roleId = some RoleId.user := by
  have run : Run environment False world.db config :=
    .of_reachable begins False.elim reachable
  have requests := reachable.admitted begins.unlogged
    (motive := fun request => ∀ identity call,
      request = .admin identity call → PermissionGuard.canActivate identity
        (some call.permission) = true)
    fun state request starts => by
      rintro identity call rfl
      simp only [system, passes, Bool.and_eq_true] at starts
      exact starts.2.2.2
  intro commit logged identity call request delegated
  obtain ⟨earlier, suffix, effect, _⟩ := run.legal.mem logged
  have before : CustomersOrdinary commit.before :=
    Leads.induction (motive := fun _ db => CustomersOrdinary db)
      (run.leads.of_suffix suffix)
      (run.legal.suffix ((List.suffix_cons commit earlier).trans suffix))
      ordinary fun _ _ _ kept effect =>
        customersOrdinary_of_effect effect.1 kept
  have confined := confined_of_delegated effect before request delegated
    (requests.2 commit logged identity call request)
  exact ⟨confined.roles, confined.kept, confined.created⟩

/-- Account 4 has a role for customers, account 5 is a customer. -/
def supportWorld : DbWorld :=
  { Sample.world with
    db :=
      { Sample.world.db with
        roles := Sample.world.db.roles.put ⟨3, "Support", "account:write"⟩
        users := Sample.world.db.users.put (Sample.user 4 3 "d")
          |>.put { Sample.user 5 RoleId.user "e" with accountType := .customer }
        sessions := (∅ : Table SessionRow).put ⟨4, 4, 24, none⟩ } }

def support : Identity := ⟨⟨4, 4, some 3⟩, ["account:write"]⟩

def supportSchedule : List (Choice Request) :=
  Sample.serve (.admin support
    (.save .customer { phone := some (some "1") } (some 5))) 0 10

theorem confined_of_reachable_support :
    ∃ config : DbConfig, ∃ commit ∈ config.world.commits,
      commit.request.core = .account
        (.save .customer { phone := some (some "1") } 4 (some 5)) ∧
      commit.after.roles = commit.before.roles ∧
      (∀ old ∈ commit.before.users, ∀ new ∈ commit.after.users,
        new.id = old.id → new.roleId = old.roleId ∧
          (old.accountType = .user → new = old)) ∧
      ∀ new ∈ commit.after.users,
        commit.before.users.find new.id = none →
          new.roleId = some RoleId.user := by
  let config := (system Sample.environment fun _ => true).after supportSchedule
    (.idle supportWorld)
  have begins : Begins supportWorld := by
    refine ⟨?_, rfl⟩
    constructor <;> decide
  have logged : ∃ commit ∈ config.world.commits, commit.request =
      .admin support (.save .customer { phone := some (some "1") } (some 5)) := by
    decide
  obtain ⟨commit, member, request⟩ := logged
  refine ⟨config, commit, member, congrArg Request.core request, ?_⟩
  exact confined_of_reachable _ _ _ _ begins (by unfold CustomersOrdinary; decide)
    (System.reachable_after _ _ _) commit member support _ request (by decide)

end SaasFoundation
