import SaasFoundation.Workspaces.Ownership
import SaasFoundation.Database.Alone

/-!
# Calls of the workspace service on their own

What `authorize` lets through in a given state, and from it when `revoke` and
`changeMember` answer what they should.
-/

namespace SaasFoundation

open Relational Transaction Tx

namespace WorkspacesService

variable {α : Type} {clock now : Nat} {draws : Nat → Nat} {db : Db}

theorem alone_authorize {id userId : Nat} {manage : Bool}
    {next : Workspace → Tx α} :
    (authorize id userId manage >>= next).alone clock draws now db ∅ =
      match membership db id userId with
      | none => (.error .notFound, db)
      | some workspace =>
          if manage ∧ workspace.role = .member then (.error .forbidden, db)
          else (next workspace).alone clock draws now db ∅ := by
  simp only [authorize, lockWorkspace, bind_assoc, alone_select, alone_query,
    WriteSet.apply_empty]
  cases membership db id userId with
  | none => rfl
  | some workspace =>
      dsimp only
      split
      · rfl
      · rfl

/-- The call moved one pending invitation of the workspace to revoked, one for
a member if the actor is an administrator. -/
def MovedOne (before after : Db) (id invitationId : Nat)
    (actor : WorkspaceRole) : Prop :=
  ∃ row ∈ before.invitations, ∃ time,
    row.id = invitationId ∧ row.workspaceId = id ∧ row.Pending ∧
      (actor = .owner ∨ row.role = .member) ∧
      after = { before with
        invitations := before.invitations.put { row with revokedAt := some time } }

/-- `revoke` resolves exactly when it moved one invitation; otherwise it fails
with `NotFound` and changes nothing. -/
def RevokesExactly (clock : Nat) (draws : Nat → Nat) (db : Db)
    (id userId invitationId : Nat) (actor : WorkspaceRole) : Prop :=
  let outcome := (revoke id userId invitationId).alone clock draws clock db ∅
  (outcome.1 = .ok () ↔ MovedOne db outcome.2 id invitationId actor) ∧
    (outcome.1 ≠ .ok () → outcome = (.error .notFound, db))

/-- A caller with a membership that lets her manage the workspace. -/
def Manages (db : Db) (id userId : Nat) (actor : WorkspaceRole) : Prop :=
  (membership db id userId).map Workspace.role = some actor ∧ actor ≠ .member

/-- The array the driver returns is never empty, so that `revoke` resolves
whatever it found. -/
theorem alone_revoke {id userId invitationId : Nat} {actor : WorkspaceRole}
    (manages : Manages db id userId actor) :
    (revoke id userId invitationId).alone clock draws now db ∅ =
      (.ok (), { db with
        invitations := db.invitations.applyAll
          ((revocable db id invitationId actor).toList.map fun row =>
            .put { row with revokedAt := some clock }) }) := by
  obtain ⟨found, notMember⟩ := manages
  obtain ⟨workspace, present, rfl⟩ := Option.map_eq_some_iff.mp found
  simp only [revoke, Program.alone_transaction, bind_assoc, alone_authorize,
    present]
  rw [if_neg (fun both => notMember both.2)]
  simp only [revokeById, alone_execute, WriteSet.apply_empty]
  rfl

/-- A pending invitation of the workspace with this identifier, within the
actor's reach. -/
def Revocable (db : Db) (id invitationId : Nat) (actor : WorkspaceRole) :
    Prop :=
  ∃ row ∈ db.invitations, row.id = invitationId ∧ row.workspaceId = id ∧
    row.Pending ∧ (actor = .owner ∨ row.role = .member)

theorem MovedOne.revocable {before after : Db} {id invitationId : Nat}
    {actor : WorkspaceRole} (moved : MovedOne before after id invitationId actor) :
    Revocable before id invitationId actor := by
  obtain ⟨row, stored, _, same, workspace, pending, reach, _⟩ := moved
  exact ⟨row, stored, same, workspace, pending, reach⟩

/-- `revoke` resolves also when it has found nothing. -/
theorem alone_revoke_nothing {id userId invitationId : Nat}
    {actor : WorkspaceRole} (manages : Manages db id userId actor)
    (nothing : ¬Revocable db id invitationId actor) :
    (revoke id userId invitationId).alone clock draws now db ∅ =
      (.ok (), db) := by
  have missing : revocable db id invitationId actor = none := by
    rw [Option.eq_none_iff_forall_ne_some]
    intro row found
    exact nothing ⟨row, revocable_eq_some.mp found⟩
  rw [alone_revoke manages, missing]
  rfl

/-- `revoke` keeps its promise exactly when there is an invitation to revoke. -/
theorem revokesExactly_iff (clock : Nat) (draws : Nat → Nat) (db : Db)
    (id userId invitationId : Nat) (actor : WorkspaceRole)
    (manages : Manages db id userId actor) :
    RevokesExactly clock draws db id userId invitationId actor ↔
      Revocable db id invitationId actor := by
  unfold RevokesExactly
  rw [alone_revoke manages]
  constructor
  · intro exactly
    exact (exactly.1.mp rfl).revocable
  · rintro ⟨row, stored, same, workspace, pending, reach⟩
    have found : revocable db id invitationId actor = some row :=
      revocable_eq_some.mpr ⟨stored, same, workspace, pending, reach⟩
    rw [found]
    refine ⟨⟨fun _ => ?_, fun _ => rfl⟩, fun failed => absurd rfl failed⟩
    exact ⟨row, stored, clock, same, workspace, pending, reach, rfl⟩

/-- User 1 creates workspace 7 and invites an address. -/
def invitedSchedule : List (Choice Request) :=
  Sample.serve (.workspace (.create 1 "team")) 7 8 ++
    Sample.serve (.workspace (.invite 7 1 ⟨"b", .admin⟩)) 9 11

def invitedDb : Db := (Sample.after (fun _ => true) invitedSchedule).world.db

theorem revokesExactly_iff_invited :
    RevokesExactly 9 id invitedDb 7 1 9 .owner ↔ Revocable invitedDb 7 9 .owner :=
  revokesExactly_iff _ _ _ _ _ _ _ (by unfold Manages; decide)

/-- An identifier nobody knows is answered like one that was revoked. -/
theorem revoke_unknown :
    Manages invitedDb 7 1 .owner ∧
      (∀ row ∈ invitedDb.invitations.rows, row.id ≠ 4) ∧
      (revoke 7 1 4).alone 9 id 9 invitedDb ∅ = (.ok (), invitedDb) ∧
      ¬RevokesExactly 9 id invitedDb 7 1 4 .owner := by
  have manages : Manages invitedDb 7 1 .owner := by
    unfold Manages
    decide
  have unknown : ∀ row ∈ invitedDb.invitations.rows, row.id ≠ 4 := by decide
  have none : ¬Revocable invitedDb 7 4 .owner := by
    rintro ⟨row, stored, same, _⟩
    exact unknown row (Table.mem_rows.mpr stored) same
  have resolved : (revoke 7 1 4).alone 9 id 9 invitedDb ∅ =
      (.ok (), invitedDb) := alone_revoke_nothing manages none
  refine ⟨manages, unknown, resolved, fun exactly => ?_⟩
  exact none (exactly.1.mp (congrArg Prod.fst resolved)).revocable

/-- The state in which the change of a membership has been applied. -/
def changed (db : Db) (target : MemberRow) (role : Option WorkspaceRole) : Db :=
  match role with
  | none => { db with members := db.members.drop (key target) }
  | some role => { db with members := db.members.put { target with role } }

/-- An owner is to be demoted or removed, by herself or by an owner. -/
structure PassesRoleChecks (db : Db) (id userId memberId : Nat)
    (role : Option WorkspaceRole) (target : MemberRow) : Prop where
  stored : db.members.find (id, memberId) = some target
  owner : target.role = .owner
  demoted : role ≠ some .owner
  allowed : ∃ actor, (membership db id userId).map Workspace.role = some actor ∧
    (memberId = userId ∧ role = none ∨ actor = .owner)

theorem activeOwner_of_mem {id : Nat} {row : MemberRow}
    (listed : row ∈ activeOwners db id) :
    row ∈ db.members ∧ row.workspaceId = id ∧
      ActiveOwner db id row.userId := by
  obtain ⟨stored, holds⟩ := List.mem_filter.mp listed
  rw [decide_eq_true_eq, activeUser_isSome] at holds
  obtain ⟨workspace, role, live⟩ := holds
  exact ⟨Table.mem_rows.mp stored, workspace,
    ⟨row, Table.mem_rows.mp stored, workspace, rfl, role⟩, live⟩

theorem mem_activeOwners {id userId : Nat} (active : ActiveOwner db id userId) :
    ∃ row ∈ activeOwners db id, row.userId = userId := by
  obtain ⟨⟨row, stored, workspace, rfl, role⟩, live⟩ := active
  refine ⟨row, List.mem_filter.mpr ⟨stored, ?_⟩, rfl⟩
  rw [decide_eq_true_eq, activeUser_isSome]
  exact ⟨workspace, role, live⟩

/-- The count exceeds one exactly when two users are active owners. -/
theorem several_activeOwners {id : Nat} :
    1 < (activeOwners db id).length ↔ ∃ first second, first ≠ second ∧
      ActiveOwner db id first ∧ ActiveOwner db id second := by
  constructor
  · intro several
    obtain ⟨first, _, firstActive⟩ := other_activeOwner 0 several
    obtain ⟨second, different, secondActive⟩ := other_activeOwner first several
    exact ⟨first, second, different.symm, firstActive, secondActive⟩
  · rintro ⟨first, second, different, firstActive, secondActive⟩
    obtain ⟨firstRow, firstListed, rfl⟩ := mem_activeOwners firstActive
    obtain ⟨secondRow, secondListed, rfl⟩ := mem_activeOwners secondActive
    by_contra few
    match listed : activeOwners db id with
    | [] => simp [listed] at firstListed
    | [only] =>
        rw [listed, List.mem_singleton] at firstListed secondListed
        exact different (by rw [firstListed, secondListed])
    | _ :: _ :: _ => simp [listed] at few

/-- From the counting of the owners on. -/
theorem alone_changeTarget {id userId memberId : Nat}
    {role : Option WorkspaceRole} {target : MemberRow} {actor : WorkspaceRole}
    {next : Unit → Tx α} (stored : db.members.find (id, memberId) = some target)
    (owner : target.role = .owner) (demoted : role ≠ some .owner)
    (allowed : memberId = userId ∧ role = none ∨ actor = .owner) :
    (changeTarget id userId memberId role actor >>= next).alone clock draws now
        db ∅ =
      if (activeOwners db id).length ≤ 1 then
        (.error (.conflict "lastOwner"), db)
      else
        (next ()).alone clock draws now db
          { members := [match role with
            | none => .drop (key target)
            | some role => .put { target with role }] } := by
  have permitted : ¬(decide (memberId = userId ∧ role = none) = false ∧
      actor ≠ .owner ∧ ¬(actor = .admin ∧ target.role = .member ∧
        (role = some .member ∨ role = none))) := by
    rintro ⟨staying, notOwner, _⟩
    rcases allowed with leaving | isOwner
    · exact absurd leaving (of_decide_eq_false staying)
    · exact notOwner isOwner
  have named : key target = (id, memberId) := (Table.find_eq_some.mp stored).2
  unfold changeTarget
  rw [bind_assoc, alone_query, WriteSet.apply_empty, stored]
  dsimp only
  rw [if_neg permitted, if_pos ⟨owner, demoted⟩, bind_assoc, alone_query,
    WriteSet.apply_empty]
  by_cases last : (activeOwners db id).length ≤ 1
  · rw [if_pos last, decide_eq_true last]
    rfl
  rw [if_neg last, decide_eq_false last]
  cases role with
  | none =>
      change (deleteMember id memberId >>= next).alone clock draws now db ∅ = _
      rw [deleteMember, alone_execute, WriteSet.apply_empty, stored, named]
      rfl
  | some role =>
      change (updateMemberRole id memberId role >>= next).alone clock draws now
        db ∅ = _
      rw [updateMemberRole, alone_execute, WriteSet.apply_empty, stored]
      rfl

/-- A target that is not active is refused a role before the owners are
counted. -/
theorem alone_changeMember {id userId memberId : Nat}
    {role : Option WorkspaceRole} {target : MemberRow}
    (passes : PassesRoleChecks db id userId memberId role target) :
    (changeMember id userId memberId role).alone clock draws now db ∅ =
      if role ≠ none ∧ (activeUser db memberId).isNone then
        (.error (.conflict "memberInactive"), db)
      else if (activeOwners db id).length ≤ 1 then
        (.error (.conflict "lastOwner"), db)
      else (.ok (), changed db target role) := by
  obtain ⟨actor, found, allowed⟩ := passes.allowed
  obtain ⟨workspace, present, rfl⟩ := Option.map_eq_some_iff.mp found
  rw [changeMember, Program.alone_transaction, bind_assoc, alone_authorize,
    present]
  dsimp only
  rw [if_neg (fun both => Bool.false_ne_true both.1)]
  cases role with
  | none =>
      rw [if_pos rfl, if_neg (fun both => both.1 rfl)]
      change (changeTarget id userId memberId none workspace.role >>= _).alone
        clock draws clock db ∅ = _
      rw [alone_changeTarget passes.stored passes.owner passes.demoted allowed]
      rfl
  | some role =>
      rw [if_neg (Option.some_ne_none role), map_eq_pure_bind, bind_assoc,
        bind_assoc, selectActiveUser, alone_select, WriteSet.apply_empty]
      cases activeUser db memberId with
      | none => rfl
      | some user =>
          rw [if_neg (fun both => Bool.false_ne_true both.2)]
          change (changeTarget id userId memberId (some role)
            workspace.role >>= _).alone clock draws clock db ∅ = _
          rw [alone_changeTarget passes.stored passes.owner passes.demoted
            allowed]
          rfl

/-- The call fails with `lastOwner` exactly when the change would leave no
active owner. -/
def LastOwnerExact (clock : Nat) (draws : Nat → Nat) (db : Db)
    (id userId memberId : Nat) (role : Option WorkspaceRole)
    (target : MemberRow) : Prop :=
  ((changeMember id userId memberId role).alone clock draws clock db ∅).1 =
      .error (.conflict "lastOwner") ↔
    ¬∃ owner, ActiveOwner (changed db target role) id owner

theorem ownerOf_changed {id userId memberId owner : Nat}
    {role : Option WorkspaceRole} {target : MemberRow}
    (passes : PassesRoleChecks db id userId memberId role target) :
    OwnerOf (changed db target role) id owner ↔
      owner ≠ memberId ∧ OwnerOf db id owner := by
  have named : key target = (id, memberId) :=
    (Table.find_eq_some.mp passes.stored).2
  have others : ∀ row : MemberRow, row.workspaceId = id →
      row.userId = owner → (key row ≠ key target ↔ owner ≠ memberId) := by
    rintro row rfl rfl
    rw [named, MemberRow.key_eq, Ne, Prod.mk.injEq, not_and]
    exact ⟨fun different => different rfl, fun different _ => different⟩
  constructor
  · rintro ⟨row, stored, workspace, user, owns⟩
    have kept : row ∈ db.members ∧ key row ≠ key target := by
      unfold changed at stored
      cases role with
      | none => exact Table.mem_drop.mp stored
      | some role =>
          rcases Table.mem_put.mp stored with rfl | kept
          · exact absurd (congrArg some owns) passes.demoted
          · exact kept
    exact ⟨(others row workspace user).mp kept.2, row, kept.1, workspace, user,
      owns⟩
  · rintro ⟨different, row, stored, workspace, user, owns⟩
    have kept : row ∈ (changed db target role).members := by
      have other := (others row workspace user).mpr different
      unfold changed
      cases role with
      | none => exact Table.mem_drop.mpr ⟨stored, other⟩
      | some role => exact Table.mem_put.mpr (.inr ⟨stored, other⟩)
    exact ⟨row, kept, workspace, user, owns⟩

/-- What is left are the active owners other than the target. -/
theorem activeOwner_changed {id userId memberId owner : Nat}
    {role : Option WorkspaceRole} {target : MemberRow}
    (passes : PassesRoleChecks db id userId memberId role target) :
    ActiveOwner (changed db target role) id owner ↔
      owner ≠ memberId ∧ ActiveOwner db id owner := by
  have users : (changed db target role).users = db.users := by
    cases role <;> rfl
  unfold ActiveOwner
  rw [ownerOf_changed passes, users, and_assoc]

theorem refuses_lastOwner {id userId memberId : Nat}
    {role : Option WorkspaceRole} {target : MemberRow}
    (passes : PassesRoleChecks db id userId memberId role target) :
    ((changeMember id userId memberId role).alone clock draws now db ∅).1 =
        .error (.conflict "lastOwner") ↔
      (role = none ∨ LiveUser db memberId) ∧
        (activeOwners db id).length ≤ 1 := by
  rw [alone_changeMember passes, ← activeUser_isSome]
  by_cases inactive : role ≠ none ∧ (activeUser db memberId).isNone
  · have other : (Except.error (.conflict "memberInactive") : Except Failure Unit) ≠
        .error (.conflict "lastOwner") := by decide
    have absent : activeUser db memberId = none :=
      Option.isNone_iff_eq_none.mp inactive.2
    rw [if_pos inactive]
    simp [other, inactive.1, absent]
  · rw [if_neg inactive]
    have reached : role = none ∨ (activeUser db memberId).isSome := by
      by_cases removal : role = none
      · exact .inl removal
      · exact .inr (Option.isSome_iff_ne_none.mpr
          (by simpa [removal] using inactive))
    by_cases last : (activeOwners db id).length ≤ 1
    · rw [if_pos last]
      exact iff_of_true rfl ⟨reached, last⟩
    · rw [if_neg last]
      exact iff_of_false nofun fun both => last both.2

/-- The removal of a suspended owner beside a single active one is refused
though that one would stay; in every other case the answer is exact. -/
theorem lastOwnerExact_of_owned {id userId memberId : Nat}
    {role : Option WorkspaceRole} {target : MemberRow}
    (passes : PassesRoleChecks db id userId memberId role target)
    (owned : ∃ owner, ActiveOwner db id owner) :
    LastOwnerExact clock draws db id userId memberId role target ↔
      role ≠ none ∨ LiveUser db memberId ∨ ∃ first second, first ≠ second ∧
        ActiveOwner db id first ∧ ActiveOwner db id second := by
  unfold LastOwnerExact
  rw [refuses_lastOwner passes]
  simp only [activeOwner_changed passes, ← several_activeOwners]
  by_cases live : LiveUser db memberId
  · -- The target is among the owners that are counted.
    refine iff_of_true ?_ (.inr (.inl live))
    have targetOwns : OwnerOf db id memberId := by
      obtain ⟨stored, named⟩ := Table.find_eq_some.mp passes.stored
      rw [MemberRow.key_eq, Prod.mk.injEq] at named
      exact ⟨target, stored, named.1, named.2, passes.owner⟩
    rw [and_iff_right (.inr live), ← Nat.not_lt, several_activeOwners,
      not_iff_not]
    constructor
    · rintro ⟨first, second, different, firstActive, secondActive⟩
      by_cases same : first = memberId
      · exact ⟨second, fun again => different (same.trans again.symm),
          secondActive⟩
      · exact ⟨first, same, firstActive⟩
    · rintro ⟨owner, different, active⟩
      exact ⟨owner, memberId, different, active, targetOwns, live⟩
  · obtain ⟨owner, active⟩ := owned
    have other : owner ≠ memberId := fun same => live (same ▸ active.2)
    have remains : ∃ owner, owner ≠ memberId ∧ ActiveOwner db id owner :=
      ⟨owner, other, active⟩
    simp only [live, remains, not_true_eq_false, or_false, false_or, iff_false,
      not_and, Nat.not_le]
    by_cases removal : role = none
    · simp [removal]
    · simp [removal]

/-- `changeMember` and the last owner, in every reachable state. -/
theorem lastOwnerExact_iff (environment : Environment)
    (admits : Request → Bool) (world : DbWorld) (config : DbConfig)
    (begins : Api.Begins world) (empty : world.db.workspaces = ∅)
    (reachable :
      (Api.system environment admits).Reachable (.idle world) config)
    (draws : Nat → Nat) (id userId memberId : Nat)
    (role : Option WorkspaceRole) (target : MemberRow)
    (passes : PassesRoleChecks config.world.db id userId memberId role target) :
    LastOwnerExact config.world.clock draws config.world.db id userId memberId
        role target ↔
      role ≠ none ∨ LiveUser config.world.db memberId ∨
        ∃ first second, first ≠ second ∧
          ActiveOwner config.world.db id first ∧
          ActiveOwner config.world.db id second := by
  have owned : ∃ owner, ActiveOwner config.world.db id owner := by
    obtain ⟨actor, found, _⟩ := passes.allowed
    obtain ⟨workspace, present, _⟩ := Option.map_eq_some_iff.mp found
    obtain ⟨row, _, found, _⟩ := membership_eq_some.mp present
    obtain ⟨stored, same⟩ := Table.find_eq_some.mp found
    rw [WorkspaceRow.key_eq] at same
    exact same ▸ owned_of_run (.of_reachable begins False.elim reachable) empty
      row stored
  exact lastOwnerExact_of_owned passes owned

/-- User 2 becomes a second owner and is then suspended. -/
def suspendedSchedule : List (Choice Request) :=
  Sample.serve (.workspace (.create 1 "team")) 7 8 ++
    Sample.serve (.workspace (.invite 7 1 ⟨"b", .admin⟩)) 9 11 ++
    Sample.serve (.workspace (.accept 2 9)) 0 8 ++
    Sample.serve (.workspace (.changeMember 7 1 2 (some .owner))) 0 7 ++
    Sample.serve (.account (.save .user { status := some .inActive } 3 (some 2)))
      0 13

def suspendedDb : Db :=
  (Sample.after (fun _ => true) suspendedSchedule).world.db

theorem passes_suspended :
    PassesRoleChecks suspendedDb 7 1 2 none ⟨7, 2, .owner, 5⟩ where
  stored := by decide
  owner := rfl
  demoted := by decide
  allowed := ⟨.owner, by decide, .inr rfl⟩

theorem lastOwnerExact_iff_suspended :
    LastOwnerExact 5 id suspendedDb 7 1 2 none ⟨7, 2, .owner, 5⟩ ↔
      (none : Option WorkspaceRole) ≠ none ∨ LiveUser suspendedDb 2 ∨
        ∃ first second, first ≠ second ∧ ActiveOwner suspendedDb 7 first ∧
          ActiveOwner suspendedDb 7 second :=
  lastOwnerExact_iff Sample.environment (fun _ => true) Sample.world
    (Sample.after (fun _ => true) suspendedSchedule) Sample.begins rfl
    (Sample.reachable _ _) id 7 1 2 none ⟨7, 2, .owner, 5⟩ passes_suspended

/-- The owner who would stay is active. -/
theorem remove_suspended :
    PassesRoleChecks suspendedDb 7 1 2 none ⟨7, 2, .owner, 5⟩ ∧
      ((changeMember 7 1 2 none).alone 5 id 5 suspendedDb ∅).1 =
        .error (.conflict "lastOwner") ∧
      ActiveOwner (changed suspendedDb ⟨7, 2, .owner, 5⟩ none) 7 1 ∧
      ¬LastOwnerExact 5 id suspendedDb 7 1 2 none ⟨7, 2, .owner, 5⟩ := by
  have refused : ((changeMember 7 1 2 none).alone 5 id 5 suspendedDb ∅).1 =
      .error (.conflict "lastOwner") :=
    (refuses_lastOwner passes_suspended).mpr ⟨.inl rfl, by decide⟩
  have listed : (⟨7, 1, .owner, 5⟩ : MemberRow) ∈ activeOwners suspendedDb 7 := by
    decide
  have stays : ActiveOwner suspendedDb 7 1 := (activeOwner_of_mem listed).2.2
  have left := (activeOwner_changed passes_suspended).mpr ⟨by decide, stays⟩
  exact ⟨passes_suspended, refused, left, fun exact =>
    exact.mp refused ⟨1, left⟩⟩

end WorkspacesService

end SaasFoundation
