import SaasFoundation.Api.Commits

/-!
# The last administrator

The admin service counts administrators under the lock of their role.
Self-deletion does not: it trusts the role its guard has read.  As long as no
administrator deletes its own account, one active administrator remains.
-/

namespace SaasFoundation

open Relational Transaction Api

variable {runtime : Runtime} {drawn : Prop} {commit : DbCommit}
  {earlier : List DbCommit}

def HasAdmin (db : Db) : Prop :=
  ∃ user ∈ db.users, user.ActiveAdmin

theorem hasAdmin_nothing (users : commit.writes.users = [])
    (has : HasAdmin commit.before) : HasAdmin commit.after := by
  simpa only [HasAdmin, mem_users_nothing users] using has

theorem hasAdmin_inserted {new : UserRow} (inserted : AccountInserted commit new)
    (has : HasAdmin commit.before) : HasAdmin commit.after := by
  obtain ⟨user, stored, admin⟩ := has
  exact ⟨user, (mem_users_inserted inserted).mpr (.inr stored), admin⟩

/-- A changed account stays an administrator, or another one is left. -/
theorem hasAdmin_changed {old new : UserRow} {exclude : Option Nat}
    (changed : UserChanged commit old new exclude)
    (kept : old.ActiveAdmin → new.ActiveAdmin ∨
      ∃ other ∈ commit.before.users, other.id ≠ old.id ∧ other.ActiveAdmin)
    (has : HasAdmin commit.before) : HasAdmin commit.after := by
  have others : ∀ other ∈ commit.before.users, other.id ≠ old.id →
      other ∈ commit.after.users :=
    fun other stored different =>
      (mem_users_changed changed).mpr (.inr ⟨stored, different⟩)
  obtain ⟨user, stored, admin⟩ := has
  by_cases same : user.id = old.id
  · obtain rfl := Table.eq_of_key stored changed.stored same
    rcases kept admin with stays | ⟨other, otherStored, different, left⟩
    · exact ⟨new, (mem_users_changed changed).mpr (.inl rfl), stays⟩
    · exact ⟨other, others other otherStored different, left⟩
  · exact ⟨user, others user stored same, admin⟩

theorem hasAdmin_profile {old new : UserRow} {exclude : Option Nat}
    {changes : UserChanges}
    (changed : ProfileChanged commit old new exclude changes)
    (has : HasAdmin commit.before) : HasAdmin commit.after := by
  refine hasAdmin_changed changed.changed (fun admin => .inl ?_) has
  exact ⟨changed.active admin.1, changed.role.trans admin.2⟩

theorem hasAdmin_ordinary {old new : UserRow} {exclude : Option Nat}
    (changed : UserChanged commit old new exclude)
    (ordinary : old.roleId ≠ some RoleId.admin)
    (has : HasAdmin commit.before) : HasAdmin commit.after :=
  hasAdmin_changed changed (fun admin => absurd admin.2 ordinary) has

theorem hasAdmin_of_effect (effect : Effect runtime drawn commit earlier)
    (ordinary : OrdinarySelfDeletions (commit :: earlier))
    (has : HasAdmin commit.before) : HasAdmin commit.after := by
  have ordinaryBefore : OrdinarySelfDeletions earlier :=
    fun past member => ordinary past (List.mem_cons_of_mem _ member)
  cases accounts_of_effect effect with
  | nothing users => exact hasAdmin_nothing users has
  | created type dto actor new core created =>
      exact hasAdmin_inserted created.inserted has
  | registered dto new core registered =>
      exact hasAdmin_inserted registered.inserted has
  | updated type dto actor id old new changes core updated =>
      refine hasAdmin_changed updated.changed (fun admin => ?_) has
      by_cases stays : new.ActiveAdmin
      · exact .inl stays
      · exact .inr (updated.admin ordinaryBefore admin stays)
  | removed type id actor old new core removed =>
      exact hasAdmin_ordinary removed.changed removed.ordinary has
  | profile call old new exclude changes core asked profile =>
      exact hasAdmin_profile profile has
  | deleted payload old new core deleted =>
      have deletes : commit.request.selfDeletion = some payload.id := by
        rw [Request.selfDeletion, core]
      exact hasAdmin_ordinary deleted.changed
        (ordinary commit List.mem_cons_self payload.id deletes old
          deleted.changed.stored deleted.id) has

/-- An active administrator is left in every run in which no account deletes
itself while it is an administrator. -/
theorem hasAdmin_of_reachable (environment : Environment)
    (admits : Request → Bool) (world : DbWorld) (config : DbConfig)
    (begins : Begins world) (has : ∃ user ∈ world.db.users, user.ActiveAdmin)
    (reachable : (system environment admits).Reachable (.idle world) config)
    (ordinary : OrdinarySelfDeletions config.world.commits) :
    ∃ user ∈ config.world.db.users, user.ActiveAdmin := by
  have run : Run environment False world.db config :=
    .of_reachable begins False.elim reachable
  have kept := Leads.induction
    (motive := fun commits db => OrdinarySelfDeletions commits → HasAdmin db)
    run.leads run.legal (fun _ => has)
    fun commit earlier _ kept effect ordinary =>
      hasAdmin_of_effect effect.1 ordinary
        (kept (ordinary_mono ordinary fun _ => List.mem_cons_of_mem _))
  exact kept ordinary

/-- The accounts of the sample deployment, each with a session. -/
def sessionsWorld : DbWorld :=
  { Sample.world with
    db :=
      { Sample.world.db with
        sessions := (∅ : Table SessionRow).put ⟨1, 1, 21, none⟩
          |>.put ⟨2, 2, 22, none⟩ |>.put ⟨3, 3, 23, none⟩ } }

theorem sessionsWorld_begins : Begins sessionsWorld := by
  refine ⟨?_, rfl⟩
  constructor <;> decide

/-- What the caller with this session asks for. -/
def asCaller (id : Nat) (call : GuardedCall) : Request :=
  .guarded ⟨id, id, none⟩ call

def setRole (id roleId : Nat) : GuardedCall :=
  .save .user { roleId := some roleId } (some id)

theorem hasAdmin_of_reachable_demoted :
    ∃ config : DbConfig,
      config.world.db.users.rows.map (·.roleId) =
        [some RoleId.admin, some RoleId.user, some RoleId.user] ∧
      ∃ user ∈ config.world.db.users, user.ActiveAdmin := by
  let config := (system Sample.environment fun _ => true).after
    (Sample.serve (asCaller 1 (setRole 3 RoleId.user)) 1 13)
    (.idle sessionsWorld)
  have ordinary : ∀ commit ∈ config.world.commits,
      commit.request.selfDeletion = none := by
    decide
  refine ⟨config, by decide, hasAdmin_of_reachable _ _ _ _ sessionsWorld_begins
    (by decide) (System.reachable_after _ _ _) ?_⟩
  intro commit member id deletes
  cases (ordinary commit member).symm.trans deletes

/-- The guards of four requests pass, then account 1 promotes account 2, the
administrators demote each other, and account 2 deletes itself. -/
def staleSchedule : List (Choice Request) :=
  [.arrive (asCaller 2 .softDelete),
    .arrive (asCaller 1 (setRole 2 RoleId.admin)),
    .arrive (asCaller 3 (setRole 1 RoleId.user)),
    .arrive (asCaller 1 (setRole 3 RoleId.user)),
    .advance 0 0, .advance 1 0, .advance 2 0, .advance 3 0] ++
  List.replicate 11 (.advance 2 1) ++ List.replicate 12 (.advance 0 2) ++
  List.replicate 12 (.advance 0 3) ++ List.replicate 5 (.advance 0 0)

theorem no_admin_left :
    ¬∀ (environment : Environment) (admits : Request → Bool) (world : DbWorld)
      (config : DbConfig), Begins world →
      (∃ user ∈ world.db.users, user.ActiveAdmin) →
      (system environment admits).Reachable (.idle world) config →
      ∃ user ∈ config.world.db.users, user.ActiveAdmin := by
  intro kept
  have left := kept Sample.environment (fun _ => true) sessionsWorld _
    sessionsWorld_begins (by decide) (System.reachable_after _ staleSchedule _)
  revert left
  decide

end SaasFoundation
