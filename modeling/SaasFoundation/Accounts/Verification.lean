import SaasFoundation.Accounts.Statements

/-!
# `AccountsService` follows the discipline

Every administrative mutation holds the lock of the administrator role, then
the lock of the account.  The administrator count is taken under the former,
the sessions end under the latter.
-/

namespace SaasFoundation

open Relational Transaction Discipline Api

variable {environment : Environment} {drawn : Prop} {α β : Type}
  {post : α → DbContext → DbWorld → Prop}
  {failed : Failure → DbContext → DbWorld → Prop} {context : DbContext}
  {world : DbWorld}

theorem covered_of_protected {old new : UserRow}
    {requested : Option (Option Nat)}
    (guarded : Protected context world.db old new)
    (users : context.writes.users = [] ∧ new = old ∨
      context.writes.users = [.put new])
    (admin : old.ActiveAdmin → ¬new.ActiveAdmin →
      (Lock.role RoleId.admin, LockMode.update) ∈ context.locks ∨
        context.request.selfDeletion = some old.id)
    (sessions : Revocation context world.db old.id context.writes.sessions
      requested)
    (frame : OnlyAccounts context.writes) :
    Covered environment context world where
  workspaces := by simp [frame.workspaces]
  members := by simp [frame.members]
  invitations := ⟨none, by simp [frame.invitations]⟩
  credits := ⟨none, by simp [frame.credits]⟩
  entries := ⟨none, by simp [frame.entries]⟩
  users := by
    rcases users with ⟨nothing, _⟩ | stored
    · simp [nothing]
    · rw [stored]
      intro change member
      rw [List.mem_singleton] at member
      subst member
      refine .update new old guarded.stored guarded.same guarded.locked ?_ admin
      exact fun active inactive id owner =>
        (guarded.owners active inactive id owner).1
  sessions := by
    cases requested with
    | none =>
        have nothing : context.writes.sessions = [] := sessions
        simp [nothing]
    | some exclude =>
        obtain ⟨rows, ends, writes⟩ := sessions
        rw [writes]
        intro change member
        obtain ⟨row, listed, rfl⟩ := List.mem_map.mp member
        exact .update _ row ((ends.listed row).mp listed).1 rfl rfl
          (ends.locked row listed) (by simp) (.inl rfl)

theorem revokes_of_revocation {userId : Nat} {exclude : Option Nat}
    {requested : Option (Option Nat)}
    (revocation : Revocation context world.db userId context.writes.sessions
      requested)
    (excluded : ∀ other, requested = some other → other = exclude)
    (some : requested.isSome) :
    Revokes (world.record context) userId exclude := by
  obtain ⟨other, rfl⟩ := Option.isSome_iff_exists.mp some
  obtain ⟨rows, ends, writes⟩ := revocation
  rw [excluded other rfl] at ends
  exact ⟨rows, ends.distinct, ends.listed, writes⟩

theorem userChanged_of_protected {old new : UserRow} {exclude : Option Nat}
    {requested : Option (Option Nat)}
    (guarded : Protected context world.db old new)
    (users : context.writes.users = [] ∧ new = old ∨
      context.writes.users = [.put new])
    (undeleted : old.deletedAt.isSome → new.deletedAt.isSome)
    (sessions : Revocation context world.db old.id context.writes.sessions
      requested)
    (unrequested : requested = none → SameCredentials old new)
    (excluded : ∀ other, requested = some other → other = exclude)
    (frame : OnlyAccounts context.writes) :
    UserChanged (world.record context) old new exclude where
  stored := guarded.stored
  same := guarded.same
  users := users
  owners active inactive id owner :=
    (guarded.owners active inactive id owner).2
  undeleted := undeleted
  sessions := by
    cases requested with
    | none => exact .inl ⟨sessions, unrequested rfl⟩
    | some other => exact .inr (revokes_of_revocation sessions excluded rfl)
  frame := frame

theorem present_of_protected {db : Db} {old new : UserRow}
    (guarded : Protected context db old new) :
    (db.users.find old.id).isSome :=
  Table.find_isSome.mpr ⟨old, guarded.stored, rfl⟩

/-- A change of one account: what its transaction established when it stored
the row and ended the sessions still holds when it commits. -/
theorem changed_guarantee {later : DbWorld} {final : DbContext}
    {old new : UserRow} {exclude : Option Nat}
    {requested : Option (Option Nat)} {userId : Nat}
    {sessions : List (Change SessionRow Nat)}
    (inv : Invariant environment drawn later) (sound : Sound world.db)
    (keeps : ∀ hold, context.Has hold → Keeps environment world later hold)
    (grows : context.Grows final) (now : final.now = context.now)
    (guarded : Protected context world.db old new)
    (owner : old.id = userId)
    (revocation : Revocation context world.db userId sessions requested)
    (ended : final.writes.sessions = sessions)
    (users : final.writes.users = [] ∧ new = old ∨
      final.writes.users = [.put new])
    (undeleted : old.deletedAt.isSome → new.deletedAt.isSome)
    (unrequested : requested = none → SameCredentials old new)
    (excluded : ∀ other, requested = some other → other = exclude)
    (frame : OnlyAccounts final.writes)
    (admin : old.ActiveAdmin → ¬new.ActiveAdmin →
      (Lock.role RoleId.admin, LockMode.update) ∈ final.locks ∨
        final.request.selfDeletion = some old.id)
    (effect : UserChanged (later.record final) old new exclude →
      (requested.isSome → Revokes (later.record final) old.id exclude) →
      Effect environment.runtime drawn (later.record final) later.commits) :
    (discipline environment drawn).Guarantee final later
      (later.commit final) := by
  subst ended owner
  have guardedLater : Protected final later.db old new :=
    (guarded.kept sound keeps).grow grows
  have revocationLater : Revocation final later.db old.id final.writes.sessions
      requested :=
    (revocation.kept guarded.locked (present_of_protected guarded) keeps).grow
      grows now
  refine guarantee inv
    (covered_of_protected guardedLater users admin revocationLater frame) ?_
  exact effect
    (userChanged_of_protected guardedLater users undeleted revocationLater
      unrequested excluded frame)
    (revokes_of_revocation revocationLater excluded)

/-- A new account: its number is drawn and still unused at the commit. -/
theorem inserted_guarantee {new : UserRow}
    (inv : Invariant environment drawn world)
    (absent : world.db.users.find new.id = none)
    (owned : (Draw.userId, new.id) ∈ context.owned)
    (users : context.writes.users = [.put new])
    (sessions : context.writes.sessions = [])
    (frame : OnlyAccounts context.writes)
    (effect : AccountInserted (world.record context) new →
      Effect environment.runtime drawn (world.record context)
        world.commits) :
    (discipline environment drawn).Guarantee context world
      (world.commit context) := by
  refine guarantee inv ?_ (effect ⟨absent, users, sessions, frame⟩)
  exact
    { workspaces := by simp [frame.workspaces]
      members := by simp [frame.members]
      invitations := ⟨none, by simp [frame.invitations]⟩
      users := by
        rw [users, List.forall_mem_singleton]
        exact .insert new absent owned
      sessions := by simp [sessions]
      credits := ⟨none, by simp [frame.credits]⟩
      entries := ⟨none, by simp [frame.entries]⟩ }

theorem quiet_hashGiven {runtime : Runtime} {password : Option String}
    {tooLong : Failure} :
    (hashGiven runtime password tooLong).Quiet (Hashed runtime password) := by
  unfold hashGiven Hashed
  cases password.filter fun password => password ≠ "" with
  | none => exact .done rfl
  | some text =>
      simp only [hashPassword]
      split
      · trivial
      · exact fun salt => ⟨salt, rfl⟩

/-- A hash is stored for a password that is not empty. -/
theorem Hashed.given {runtime : Runtime} {password stored : Option String}
    (hashed : Hashed runtime password stored) (some : stored.isSome) :
    (password.any fun password => password ≠ "") = true := by
  unfold Hashed at hashed
  cases found : password.filter fun password => password ≠ "" with
  | none =>
      rw [found] at hashed
      rw [hashed] at some
      cases some
  | some text =>
      obtain ⟨same, different⟩ := Option.filter_eq_some_iff.mp found
      rw [same]
      exact different

theorem within_insertUser {row : Nat → UserRow} {next : UserRow → Tx α}
    (rejected : ∀ later now failure, failed failure later now)
    (step : ∀ now keys, Relies environment drawn context world now →
      (now.view context).users.find (row context.now).id = none →
      Within environment drawn (next (row context.now)) post failed
        (context.extend keys { users := [.put (row context.now)] }) now) :
    Within environment drawn
      (UserRepository.insertUser environment.runtime row >>= next) post
      failed context world := by
  refine within_execute (fun now _ failure _ => rejected _ now failure) ?_
  intro now rely value writes stepped
  split at stepped
  · cases stepped
  · rename_i absent
    split at stepped
    · cases stepped
    · cases stepped
      exact step now _ rely (by simpa using absent)

namespace AccountsService

/-- What `prepare` returns for an existing account. -/
def Prepared (runtime : Runtime) (type : AccountType) (dto : AdminAccountDto)
    (changes : AccountChanges) : Prop :=
  ∃ password, Hashed runtime dto.password password ∧
    changes = dto.prepared runtime type password

theorem Prepared.password {runtime : Runtime} {type : AccountType}
    {dto : AdminAccountDto} {changes : AccountChanges}
    (prepared : Prepared runtime type dto changes)
    (given : changes.password.isSome) :
    (dto.password.any fun password => password ≠ "") = true := by
  obtain ⟨password, hashed, rfl⟩ := prepared
  exact hashed.given given

theorem Prepared.status {runtime : Runtime} {type : AccountType}
    {dto : AdminAccountDto} {changes : AccountChanges}
    (prepared : Prepared runtime type dto changes) :
    changes.statusId = dto.status.map fun status =>
      if status = .active then StatusId.active else StatusId.inactive := by
  obtain ⟨password, _, rfl⟩ := prepared
  rfl

theorem quiet_prepare {runtime : Runtime} {type : AccountType}
    {dto : AdminAccountDto} {actor : Nat} {id : Option Nat} :
    (prepare runtime type dto actor id).Quiet fun changes =>
      match id with
      | some _ => Prepared runtime type dto changes
      | none => ∃ prepared, Prepared runtime type dto prepared ∧
          changes = { prepared with
            accountType := some type
            roleId := prepared.roleId.or (some RoleId.user) } := by
  unfold prepare
  split
  · trivial
  · dsimp only
    split
    · trivial
    · refine quiet_hashGiven.bind fun password hashed => ?_
      split
      · trivial
      · cases id with
        | none => exact ⟨_, ⟨password, hashed, rfl⟩, rfl⟩
        | some id => exact ⟨password, hashed, rfl⟩

theorem within_lockAdministration {next : Unit → Tx α}
    (rejected : ∀ later now failure, failed failure later now)
    (step : ∀ now, Relies environment drawn context world now →
      Within environment drawn (next ()) post failed
        (context.extend [(.role RoleId.admin, .update)] ∅) now) :
    Within environment drawn (lockAdministration >>= next) post failed context
      world := by
  refine within_execute (fun now _ failure _ => rejected _ now failure) ?_
  intro now rely value writes stepped
  split at stepped
  · rename_i present
    cases stepped
    rw [if_pos present]
    exact step now rely
  · cases stepped

theorem within_lockAccount {type : AccountType} {id : Nat}
    {next : UserRow → Tx α} (clean : context.writes = ∅)
    (rejected : ∀ later now failure, failed failure later now)
    (step : ∀ now row, Relies environment drawn context world now →
      row ∈ now.db.users → row.id = id → row.accountType = type →
      row.deletedAt = none →
      Within environment drawn (next row) post failed
        (context.extend [(.user id, .update)] ∅) now) :
    Within environment drawn (lockAccount type id >>= next) post failed context
      world := by
  simp only [lockAccount, bind_assoc]
  refine within_select fun now rely => ?_
  rw [view_clean clean]
  cases found : (now.db.users.find id).filter (matchesAccount type) with
  | none => exact rejected _ now _
  | some row =>
      obtain ⟨stored, holds⟩ := Option.filter_eq_some_iff.mp found
      obtain ⟨member, sameId⟩ := Table.find_eq_some.mp stored
      simp only [matchesAccount, Bool.decide_and, Bool.and_eq_true,
        decide_eq_true_eq] at holds
      exact step now row rely member sameId holds.1 holds.2

/-- Of two active administrators at least one is somebody else. -/
theorem other_activeAdmin {db : Db} (id : Nat) (several : 1 < adminCount db) :
    ∃ other ∈ db.users, other.id ≠ id ∧ other.ActiveAdmin := by
  obtain ⟨row, stored, admin, different⟩ := Table.exists_other several id
  exact ⟨row, stored, different, by simpa using admin⟩

/-- What is left of the changes after the checks: a role equal to the stored
one is dropped, and an administrator only steps down beside another one. -/
structure Checked (db : Db) (changes : AccountChanges) (existing : UserRow)
    (checked : AccountChanges) : Prop where
  columns : checked = { changes with
    roleId := if changes.roleId = existing.roleId then none
      else changes.roleId }
  admin : existing.ActiveAdmin →
    checked.roleId.isSome ∧ checked.roleId ≠ some RoleId.admin ∨
      checked.statusId = some StatusId.inactive →
    ∃ other ∈ db.users, other.id ≠ existing.id ∧ other.ActiveAdmin

theorem stripped_eq (changes : AccountChanges) (existing : UserRow) :
    (if changes.roleId.isSome = true ∧ changes.roleId = existing.roleId then
      { changes with roleId := none } else changes) =
      { changes with
        roleId := if changes.roleId = existing.roleId then none
          else changes.roleId } := by
  obtain ⟨firstName, lastName, username, phone, email, password, statusId,
    roleId, accountType⟩ := changes
  by_cases same : roleId = existing.roleId
  · cases roleId <;> simp [same]
  · simp [same]

theorem within_checkUpdate {changes : AccountChanges} {actor id : Nat}
    {existing : UserRow} {next : AccountChanges → Tx α}
    (clean : context.writes = ∅) (inv : Invariant environment drawn world)
    (rejected : ∀ later now failure, failed failure later now)
    (step : ∀ now checked, Relies environment drawn context world now →
      Checked now.db changes existing checked →
      Within environment drawn (next checked) post failed context now) :
    Within environment drawn (checkUpdate changes actor id existing >>= next)
      post failed context world := by
  unfold checkUpdate
  split
  · exact rejected _ _ _
  · dsimp only
    generalize stripped : (if changes.roleId.isSome = true ∧
        changes.roleId = existing.roleId then { changes with roleId := none }
      else changes) = checked
    have columns : checked = { changes with
        roleId := if changes.roleId = existing.roleId then none
          else changes.roleId } :=
      stripped.symm.trans (stripped_eq changes existing)
    split
    · simp only [bind_assoc]
      refine within_query fun now rely => ?_
      rw [view_clean clean]
      split
      · exact rejected _ _ _
      · rename_i several
        refine step now checked rely ⟨columns, fun _ _ => ?_⟩
        exact other_activeAdmin existing.id (by simpa using several)
    · rename_i harmless
      refine step world checked (.refl inv) ⟨columns, ?_⟩
      intro admin steps
      exact absurd ⟨admin.2, admin.1.2, steps⟩ harmless

theorem within_storeChanges {id : Nat} {existing : UserRow}
    {changes : AccountChanges} {next : Unit → Tx α}
    (clean : context.writes = ∅) (inv : Invariant environment drawn world)
    (locked : (Lock.user id, LockMode.update) ∈ context.locks)
    (stored : existing ∈ world.db.users) (sameId : existing.id = id)
    (rejected : ∀ later now failure, failed failure later now)
    (step : ∀ now new locks users, Relies environment drawn context world now →
      Protected (context.extend locks ∅) now.db existing new →
      (changes = {} ∧ users = [] ∧ new = existing ∨
        users = [.put new] ∧ new = changes.applyTo context.now existing) →
      Within environment drawn (next ()) post failed
        (context.extend locks { users }) now) :
    Within environment drawn
      (storeChanges environment.runtime id changes >>= next) post failed
      context world := by
  have row : ∀ {now : DbWorld}, Relies environment drawn context world now →
      now.db.users.find id = some existing := by
    intro now rely
    have present : (world.db.users.find id).isSome :=
      Table.find_isSome.mpr ⟨existing, stored, sameId⟩
    have kept := kept_user id .update rely locked present
    rw [kept.row, ← sameId]
    exact Table.find_key stored
  unfold storeChanges
  split
  · rename_i nothing
    rw [← extend_nothing context]
    refine step world existing [] [] (.refl inv)
      ⟨stored, rfl, by simp [sameId, locked], ?_⟩ (.inl ⟨nothing, rfl, rfl⟩)
    exact fun active inactive => absurd active inactive
  · simp only [bind_assoc]
    refine within_updateUser clean (fun _ => rfl) ?_ rejected ?_ ?_
    · intro same now old rely member oldId active
      have none : changes.statusId = none := by simpa using same
      exact ⟨active.1, by simpa [AccountChanges.applyTo, none] using active.2⟩
    · intro now rely missing
      rw [row rely] at missing
      cases missing
    · intro now old locks rely oldId guarded
      have rows : old = existing := by
        have found : now.db.users.find old.id = some old :=
          Table.find_key guarded.stored
        rw [oldId, row rely] at found
        exact (Option.some.inj found).symm
      subst rows
      exact step now _ locks _ rely guarded (.inr ⟨rfl, rfl⟩)

/-- The revocation `save` asks for. -/
def requestedRevocation (dto : AdminAccountDto) (changes : AccountChanges) :
    Option (Option Nat) :=
  if (dto.password.any fun password => password ≠ "") ∨
      changes.roleId.isSome ∨ dto.status = some .inActive then some none
  else none

theorem revokeChanged_eq (id : Nat) (dto : AdminAccountDto)
    (changes : AccountChanges) :
    revokeChanged id dto changes =
      UserRepository.revokeRequested id (requestedRevocation dto changes) := by
  unfold revokeChanged requestedRevocation
  split <;> rfl

theorem within_selectAccount {id : Nat} {next : AccountResponse → Tx α}
    (rejected : ∀ later now failure, failed failure later now)
    (step : ∀ now response, Relies environment drawn context world now →
      Within environment drawn (next response) post failed context now) :
    Within environment drawn (selectAccount id >>= next) post failed context
      world := by
  simp only [selectAccount, bind_assoc]
  refine within_query fun now rely => ?_
  split
  · exact rejected _ _ _
  · exact step now _ rely

theorem effect_of_account {call : AccountCall}
    (core : context.request.core = .account call)
    (effect : AccountEffect environment.runtime (world.record context)
      world.commits call) :
    Effect environment.runtime drawn (world.record context) world.commits := by
  have request : (world.record context).request.core = .account call := core
  unfold Effect
  rw [request]
  exact effect

theorem sameCredentials_of_unrequested {runtime : Runtime}
    {type : AccountType} {dto : AdminAccountDto}
    {changes checked : AccountChanges} {now : Nat} {existing : UserRow}
    (prepared : Prepared runtime type dto changes)
    (password : checked.password = changes.password)
    (status : checked.statusId = changes.statusId)
    (unrequested : requestedRevocation dto checked = none) :
    SameCredentials existing (checked.applyTo now existing) := by
  unfold requestedRevocation at unrequested
  split at unrequested
  · cases unrequested
  · rename_i quiet
    push Not at quiet
    obtain ⟨noPassword, noRole, noSuspension⟩ := quiet
    have samePassword : checked.password = none := by
      rw [password, ← Option.not_isSome_iff_eq_none]
      exact fun given => noPassword (prepared.password given)
    have sameRole : checked.roleId = none := by
      simpa using noRole
    refine ⟨by simp [AccountChanges.applyTo, sameRole],
      by simp [AccountChanges.applyTo, samePassword], fun active => .inl ?_⟩
    refine ⟨active.1, ?_⟩
    change checked.statusId.or existing.statusId = some StatusId.active
    rw [status, prepared.status]
    cases given : dto.status with
    | none => exact active.2
    | some status =>
        cases status with
        | active => rfl
        | inActive => exact absurd given noSuspension

/-- An active administrator stops being one by its role or its status. -/
theorem steps_down {runtime : Runtime} {type : AccountType}
    {dto : AdminAccountDto} {changes checked : AccountChanges} {now : Nat}
    {existing : UserRow} (prepared : Prepared runtime type dto changes)
    (status : checked.statusId = changes.statusId)
    (admin : existing.ActiveAdmin)
    (demoted : ¬(checked.applyTo now existing).ActiveAdmin) :
    checked.roleId.isSome ∧ checked.roleId ≠ some RoleId.admin ∨
      checked.statusId = some StatusId.inactive := by
  by_contra neither
  push Not at neither
  obtain ⟨role, active⟩ := neither
  refine demoted ⟨⟨admin.1.1, ?_⟩, ?_⟩
  · change checked.statusId.or existing.statusId = some StatusId.active
    rw [status, prepared.status] at active ⊢
    cases given : dto.status with
    | none => exact admin.1.2
    | some status =>
        cases status with
        | active => rfl
        | inActive => simp [given] at active
  · change checked.roleId.or existing.roleId = some RoleId.admin
    cases given : checked.roleId with
    | none => exact admin.2
    | some role' =>
        have same := role (by simp [given])
        rw [given] at same
        simpa using same

theorem verify_update {type : AccountType} {dto : AdminAccountDto}
    {actor id : Nat} {changes : AccountChanges}
    (core : context.request.core = .account (.save type dto actor (some id)))
    (clean : context.writes = ∅)
    (prepared : Prepared environment.runtime type dto changes) :
    Wp environment drawn
      (AdminMutationService.mutate do
        lockAdministration
        update environment.runtime type dto actor id changes)
      (fun _ _ _ => True) (fun _ _ _ => True) context world := by
  refine wp_mapError (wp_opened fun opened start same rely => ?_)
  have openedClean : opened.writes = ∅ := same.writes.trans clean
  have request : opened.request.core =
      .account (.save type dto actor (some id)) :=
    (congrArg Request.core same.request).trans core
  refine within_lockAdministration (fun _ _ _ => trivial) ?_
  intro now1 rely1
  refine within_lockAccount (by simp [openedClean]) (fun _ _ _ => trivial) ?_
  intro now2 existing rely2 stored sameId ofType live
  refine within_checkUpdate (by simp [openedClean]) rely2.inv
    (fun _ _ _ => trivial) ?_
  intro now3 checked rely3 isChecked
  have userPresent : (now2.db.users.find id).isSome :=
    Table.find_isSome.mpr ⟨existing, stored, sameId⟩
  have stored3 : existing ∈ now3.db.users := by
    have kept := kept_user id .update rely3 (by simp) userPresent
    refine (Table.find_eq_some.mp (kept.row.trans ?_)).1
    exact sameId ▸ Table.find_key stored
  refine within_hold (.lock (.role RoleId.admin) .update)
    (by simp [Context.Has]) rely3.inv ?_
  refine within_storeChanges (by simp [openedClean]) rely3.inv (by simp)
    stored3 sameId (fun _ _ _ _ => trivial) ?_
  intro now4 new locks users rely4 guarded written
  rw [revokeChanged_eq]
  refine within_revokeRequested rely4.inv (by simp [openedClean]) ?_
  intro now5 sessionLocks sessions rely5 revocation
  refine within_relies rely5.inv ?_
  refine within_audit (fun _ _ _ _ _ => trivial) ?_
  intro now6 value activities rely6
  refine within_last (within_selectAccount (fun _ _ _ _ _ => trivial) ?_)
  intro now7 response rely7
  refine within_done fun now8 rely8 keeps admins => ⟨?_, trivial⟩
  have password : checked.password = changes.password := by
    rw [isChecked.columns]
  have status : checked.statusId = changes.statusId := by
    rw [isChecked.columns]
  have writes : ∀ now, checked = {} ∧ users = [] ∧ new = existing ∨
      users = [.put new] ∧ new = checked.applyTo now existing →
      existing.deletedAt = new.deletedAt := by
    rintro now (⟨_, _, rfl⟩ | ⟨_, rfl⟩) <;> rfl
  have requested : Requested environment.runtime type dto existing checked := by
    obtain ⟨hash, hashed, rfl⟩ := prepared
    exact ⟨hash, hashed, isChecked.columns⟩
  refine changed_guarantee rely8.inv rely5.inv.sound keeps
    (((Context.Grows.refl _).own _ _).extend _ _) rfl
    (((guarded.grow grows_writes).kept rely4.inv.sound rely5.keeps).grow
      ((Context.Grows.refl _).extend _ _))
    sameId (revocation.grow grows_writes rfl) (by simp [openedClean])
    ?_ ?_ ?_ ?_ ?_ ?_ fun changed _ => effect_of_account request
      ⟨existing, new, checked, changed, sameId, ofType, requested, ?_, ?_, ?_⟩
  · rcases written with ⟨_, rfl, rfl⟩ | ⟨rfl, _⟩
    · exact .inl (by simp [openedClean])
    · exact .inr (by simp [openedClean])
  · rw [writes _ written]
    exact fun deleted => deleted
  · intro unrequested
    rcases written with ⟨_, _, rfl⟩ | ⟨_, rfl⟩
    · exact ⟨rfl, rfl, .inl⟩
    · exact sameCredentials_of_unrequested prepared password status unrequested
  · unfold requestedRevocation
    intro other
    split
    · rintro ⟨⟩
      rfl
    · rintro ⟨⟩
  · constructor <;> simp [openedClean]
  · exact fun _ _ => .inl (by simp)
  · rcases written with ⟨nothing, rfl, same⟩ | ⟨rfl, same⟩
    · exact .inl ⟨nothing, by simp [World.record, openedClean], same⟩
    · exact .inr ⟨by simp [World.record, openedClean], same⟩
  · rw [← writes _ written]
    exact live
  · intro ordinary admin demoted
    have other : ∃ other ∈ now3.db.users, other.id ≠ existing.id ∧
        other.ActiveAdmin := by
      rcases written with ⟨_, _, rfl⟩ | ⟨_, rfl⟩
      · exact absurd admin demoted
      · exact isChecked.admin admin
          (steps_down prepared status admin demoted)
    obtain ⟨other, otherStored, different, otherAdmin⟩ := other
    obtain ⟨later, laterStored, laterId, laterAdmin⟩ :=
      (admins rfl).admins ordinary other otherStored otherAdmin
    exact ⟨later, laterStored, laterId ▸ different, laterAdmin⟩

theorem verify_insert {type : AccountType} {dto : AdminAccountDto}
    {actor : Nat} {prepared changes : AccountChanges}
    (core : context.request.core = .account (.save type dto actor none))
    (clean : context.writes = ∅)
    (isPrepared : Prepared environment.runtime type dto prepared)
    (completed : changes = { prepared with
      accountType := some type
      roleId := prepared.roleId.or (some RoleId.user) }) :
    Wp environment drawn
      (AdminMutationService.mutate do
        lockAdministration
        insert environment.runtime type actor changes)
      (fun _ _ _ => True) (fun _ _ _ => True) context world := by
  refine wp_mapError (wp_opened fun opened start same rely => ?_)
  have openedClean : opened.writes = ∅ := same.writes.trans clean
  have request : opened.request.core = .account (.save type dto actor none) :=
    (congrArg Request.core same.request).trans core
  refine within_lockAdministration (fun _ _ _ => trivial) ?_
  intro now1 rely1
  refine within_fresh fun now2 rely2 id _ _ => ?_
  refine within_insertUser (fun _ _ _ => trivial) ?_
  intro now3 keys rely3 absent
  have unused : now3.db.users.find id = none := by
    simpa [World.view, openedClean, AccountChanges.newRow,
      AccountChanges.applyTo, UserMapper.unsaved] using absent
  refine within_hold (.value .userId id) (by simp [Context.Has]) rely3.inv ?_
  refine within_audit (fun _ _ _ _ => trivial) ?_
  intro now4 value activities rely4
  refine within_last (within_selectAccount (fun _ _ _ _ => trivial) ?_)
  intro now5 response rely5
  refine within_done fun now6 rely6 fresh => ⟨?_, trivial⟩
  have role : (changes.newRow id opened.now).roleId = some
      (if type = .customer then RoleId.user
        else dto.roleId.getD RoleId.user) := by
    obtain ⟨password, _, rfl⟩ := isPrepared
    subst completed
    cases type with
    | customer => rfl
    | user => cases given : dto.roleId <;>
        simp [AccountChanges.newRow, AccountChanges.applyTo,
          AdminAccountDto.prepared, AdminAccountDto.columns, given]
  refine inserted_guarantee rely6.inv (fresh unused)
    (by simp [AccountChanges.newRow, AccountChanges.applyTo,
      UserMapper.unsaved])
    (by simp [openedClean]) (by simp [openedClean]) ?_
    fun inserted => effect_of_account request
      ⟨_, inserted, by rw [completed]; rfl, role⟩
  constructor <;> simp [openedClean]

theorem verify_save {type : AccountType} {dto : AdminAccountDto} {actor : Nat}
    {id : Option Nat}
    (inv : Invariant environment drawn world)
    (core : context.request.core = .account (.save type dto actor id))
    (clean : context.writes = ∅) :
    Wp environment drawn (save environment.runtime type dto actor id)
      (fun _ _ _ => True) (fun _ _ _ => True) context world := by
  refine wp_then (wp_quiet quiet_prepare inv (fun _ _ _ => trivial) ?_)
  intro changes later now still _ prepared
  have request : later.request.core = .account (.save type dto actor id) :=
    (congrArg Request.core still.request).trans core
  cases id with
  | none =>
      obtain ⟨columns, isPrepared, completed⟩ := prepared
      exact verify_insert request (still.writes.trans clean) isPrepared
        completed
  | some id => exact verify_update request (still.writes.trans clean) prepared

theorem verify_remove {type : AccountType} {id actor : Nat}
    (core : context.request.core = .account (.remove type id actor))
    (clean : context.writes = ∅) :
    Wp environment drawn (remove environment.runtime type id actor)
      (fun _ _ _ => True) (fun _ _ _ => True) context world := by
  unfold remove
  split
  · trivial
  refine wp_mapError (wp_opened fun opened start same rely => ?_)
  have openedClean : opened.writes = ∅ := same.writes.trans clean
  have request : opened.request.core = .account (.remove type id actor) :=
    (congrArg Request.core same.request).trans core
  refine within_lockAdministration (fun _ _ _ => trivial) ?_
  intro now1 rely1
  refine within_lockAccount (by simp [openedClean]) (fun _ _ _ => trivial) ?_
  intro now2 existing rely2 stored sameId ofType live
  split
  · trivial
  rename_i ordinary
  have userPresent : (now2.db.users.find id).isSome :=
    Table.find_isSome.mpr ⟨existing, stored, sameId⟩
  have still : ∀ {now : DbWorld}, Relies environment drawn
      ((opened.extend [(.role RoleId.admin, .update)] ∅).extend
        [(.user id, .update)] ∅) now2 now →
      now.db.users.find id = some existing := by
    intro now rely
    have kept := kept_user id .update rely (by simp) userPresent
    exact kept.row.trans (sameId ▸ Table.find_key stored)
  refine within_softDeleteUser (by simp [openedClean])
    (fun _ _ _ => trivial) ?_ ?_
  · intro now3 rely3 absent
    rw [still rely3] at absent
    cases absent
  intro now3 old locks rely3 oldId guarded
  have rows : old = existing := by
    have found := Table.find_key guarded.stored
    rw [UserRow.key_eq, oldId, still rely3] at found
    exact (Option.some.inj found).symm
  subst rows
  refine within_revokeUserSessions (by simp [openedClean]) ?_
  intro now4 sessionLocks rows rely4 ends
  refine within_relies rely4.inv ?_
  refine within_last (within_audit (fun _ _ _ _ => trivial) ?_)
  intro now5 value activities rely5
  refine within_done fun now6 rely6 keeps => ⟨?_, trivial⟩
  refine changed_guarantee rely6.inv rely4.inv.sound keeps
    (((Context.Grows.refl _).own _ _).extend _ _) rfl
    (((guarded.grow grows_writes).kept rely3.inv.sound rely4.keeps).grow
      ((Context.Grows.refl _).extend _ _))
    sameId (ends.grow grows_writes).revocation (by simp [openedClean])
    ?_ ?_ ?_ ?_ ?_ ?_ fun changed _ =>
      effect_of_account request ⟨old, _, changed, sameId, ofType, ordinary,
        by simp [World.record, openedClean], rfl⟩
  · exact .inr (by simp [openedClean])
  · exact fun _ => rfl
  · exact fun unrequested => by cases unrequested
  · rintro other ⟨⟩
    rfl
  · constructor <;> simp [openedClean]
  · exact fun admin _ => absurd admin.2 ordinary

end AccountsService

end SaasFoundation
