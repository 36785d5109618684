import SaasFoundation.Api.Effects
import SaasFoundation.Transaction.Body

/-!
# The locking discipline of the API

What each row lock protects.  A transaction may write a row only under a lock
that covers it (`Covered`), and then no other transaction can see what it
relies on change (`guarantee`).  The lock of a workspace covers its
memberships and invitations, the lock of a user covers who owns workspaces and
which sessions are live, the lock of the administrator role covers the number
of active administrators.
-/

namespace SaasFoundation

open Relational Transaction

namespace Api

/-- The constraints of the schema the services rely on. -/
structure Sound (db : Db) : Prop where
  memberWorkspace : ∀ row ∈ db.members,
    (db.workspaces.find row.workspaceId).isSome
  invitationWorkspace : ∀ row ∈ db.invitations,
    (db.workspaces.find row.workspaceId).isSome
  tokenUnique : ∀ left ∈ db.invitations, ∀ right ∈ db.invitations,
    left.tokenHash = right.tokenHash → left = right
  entryCredit : ∀ row ∈ db.entries, (db.credits.find row.creditId).isSome
  entryOperator : ∀ row ∈ db.entries, (db.users.find row.operatorId).isSome
  keyUnique : ∀ left ∈ db.entries, ∀ right ∈ db.entries,
    left.idempotencyKey = right.idempotencyKey → left = right
  creditUnique : ∀ left ∈ db.credits, ∀ right ∈ db.credits,
    left.accountId = right.accountId → left.currencyId = right.currencyId →
      left = right
  creditAccount : ∀ row ∈ db.credits, (db.users.find row.accountId).isSome
  creditCurrency : ∀ row ∈ db.credits,
    (db.currencies.find row.currencyId).isSome

/-- The columns of an invitation that no statement updates. -/
structure SameOffer (left right : InvitationRow) : Prop where
  id : left.id = right.id
  workspaceId : left.workspaceId = right.workspaceId
  email : left.email = right.email
  role : left.role = right.role
  tokenHash : left.tokenHash = right.tokenHash

/-- What nobody ever undoes. -/
structure Kept (environment : Environment) (before after : DbWorld) : Prop where
  states : ∀ state ∈ before.states, state ∈ after.states
  commits : before.commits <:+ after.commits
  drawn : ∀ value ∈ before.drawn, value ∈ after.drawn
  currencies : after.db.currencies = before.db.currencies
  workspaces : ∀ id, (before.db.workspaces.find id).isSome →
    (after.db.workspaces.find id).isSome
  named : ∀ id, (after.db.workspaces.find id).isSome →
    (before.db.workspaces.find id).isSome ∨ environment.guessable id = false
  users : ∀ id, (before.db.users.find id).isSome →
    (after.db.users.find id).isSome
  sameUsers : (∀ commit ∈ after.commits, commit.writes.users = []) →
    after.db.users = before.db.users
  invitations : ∀ row ∈ before.db.invitations,
    ∃ later ∈ after.db.invitations, SameOffer later row
  credits : ∀ row ∈ before.db.credits, ∃ later ∈ after.db.credits,
    later.id = row.id ∧ later.accountId = row.accountId ∧
      later.currencyId = row.currencyId
  entries : ∀ row ∈ before.db.entries, row ∈ after.db.entries

/-- What the holder of a workspace lock relies on. -/
structure WorkspaceKept (id : Nat) (before after : Db) : Prop where
  workspace : after.workspaces.find id = before.workspaces.find id
  members : ∀ row, row.workspaceId = id →
    (row ∈ after.members ↔ row ∈ before.members)
  invitations : ∀ row, row.workspaceId = id →
    (row ∈ after.invitations ↔ row ∈ before.invitations)
  owners : ∀ userId, ActiveOwner before id userId → ActiveOwner after id userId

/-- What the holder of a user lock relies on; sharing it protects the row. -/
structure UserKept (id : Nat) (mode : LockMode) (before after : Db) :
    Prop where
  row : after.users.find id = before.users.find id
  sessions : mode = .update → ∀ row ∈ after.sessions, row.userId = id →
    row.deletedAt = none → ∃ old ∈ before.sessions,
      old.id = row.id ∧ old.userId = id ∧ old.deletedAt = none
  owned : mode = .update → ∀ workspaceId, OwnerOf after workspaceId id →
    OwnerOf before workspaceId id

/-- What the holder of the administrator role lock relies on. -/
structure AdminsKept (before after : DbWorld) : Prop where
  commits : ∀ commit ∈ before.commits, commit ∈ after.commits
  admins : OrdinarySelfDeletions after.commits → ∀ user ∈ before.db.users,
    user.ActiveAdmin → ∃ later ∈ after.db.users, later.id = user.id ∧
      later.ActiveAdmin

/-- What a hold protects. -/
def Keeps (environment : Environment) (before after : DbWorld) :
    Hold Lock Draw → Prop
  | .always => Kept environment before after
  | .lock (.workspace id) _ => (before.db.workspaces.find id).isSome →
      WorkspaceKept id before.db after.db
  | .lock (.user id) mode => (before.db.users.find id).isSome →
      UserKept id mode before.db after.db
  | .lock (.session id) _ => (before.db.sessions.find id).isSome →
      after.db.sessions.find id = before.db.sessions.find id
  | .lock (.role id) _ => id = RoleId.admin → AdminsKept before after
  | .lock (.credit id) _ => (before.db.credits.find id).isSome →
      after.db.credits.find id = before.db.credits.find id
  | .lock (.creditIdentity account currency) _ =>
      (∀ row ∈ before.db.credits,
        ¬(row.accountId = account ∧ row.currencyId = currency)) →
      ∀ row ∈ after.db.credits,
        ¬(row.accountId = account ∧ row.currencyId = currency)
  | .lock (.idempotencyKey key) _ =>
      (∀ row ∈ before.db.entries, row.idempotencyKey ≠ key) →
      ∀ row ∈ after.db.entries, row.idempotencyKey ≠ key
  | .lock (.invitationToken hash) _ =>
      (∀ row ∈ before.db.invitations, row.tokenHash ≠ hash) →
      ∀ row ∈ after.db.invitations, row.tokenHash ≠ hash
  | .lock _ _ => True
  | .value .uuid id =>
      (before.db.workspaces.find id = none →
        after.db.workspaces.find id = none) ∧
      (before.db.invitations.find id = none →
        after.db.invitations.find id = none)
  | .value .randomBytes hash =>
      Unissued hash before.states → Unissued hash after.states
  | .value .userId id =>
      before.db.users.find id = none → after.db.users.find id = none
  | .value .sessionId id =>
      before.db.sessions.find id = none → after.db.sessions.find id = none
  | .value .creditId id =>
      before.db.credits.find id = none → after.db.credits.find id = none
  | .value .entryId id =>
      before.db.entries.find id = none → after.db.entries.find id = none
  | .value _ _ => True

theorem Kept.refl (environment : Environment) {before after : DbWorld}
    (silent : before.Silent after) : Kept environment before after where
  states := by simp [World.states, silent.db, silent.commits]
  commits := silent.commits ▸ List.suffix_rfl
  drawn := silent.drawn
  currencies := by rw [silent.db]
  workspaces := by simp [silent.db]
  named := by
    intro id
    rw [silent.db]
    exact .inl
  users := by simp [silent.db]
  sameUsers _ := by rw [silent.db]
  invitations row member :=
    ⟨row, silent.db ▸ member, rfl, rfl, rfl, rfl, rfl⟩
  credits row member := ⟨row, silent.db ▸ member, rfl, rfl, rfl⟩
  entries row member := silent.db ▸ member

theorem SameOffer.trans {first second third : InvitationRow}
    (left : SameOffer first second) (right : SameOffer second third) :
    SameOffer first third where
  id := left.id.trans right.id
  workspaceId := left.workspaceId.trans right.workspaceId
  email := left.email.trans right.email
  role := left.role.trans right.role
  tokenHash := left.tokenHash.trans right.tokenHash

theorem Kept.trans {environment : Environment} {first second third : DbWorld}
    (left : Kept environment first second)
    (right : Kept environment second third) :
    Kept environment first third where
  states state member := right.states state (left.states state member)
  commits := left.commits.trans right.commits
  drawn value member := right.drawn value (left.drawn value member)
  currencies := right.currencies.trans left.currencies
  workspaces id present := right.workspaces id (left.workspaces id present)
  named id present := by
    rcases right.named id present with middle | unknown
    · exact left.named id middle
    · exact .inr unknown
  users id present := right.users id (left.users id present)
  sameUsers quiet := (right.sameUsers quiet).trans
    (left.sameUsers fun commit member =>
      quiet commit (right.commits.subset member))
  invitations row member := by
    obtain ⟨middle, middleMember, same⟩ := left.invitations row member
    obtain ⟨later, laterMember, again⟩ := right.invitations middle middleMember
    exact ⟨later, laterMember, again.trans same⟩
  credits row member := by
    obtain ⟨middle, middleMember, id, account, currency⟩ :=
      left.credits row member
    obtain ⟨later, laterMember, id', account', currency'⟩ :=
      right.credits middle middleMember
    exact ⟨later, laterMember, id'.trans id, account'.trans account,
      currency'.trans currency⟩
  entries row member := right.entries row (left.entries row member)

theorem WorkspaceKept.refl (id : Nat) (db : Db) : WorkspaceKept id db db :=
  ⟨rfl, fun _ _ => Iff.rfl, fun _ _ => Iff.rfl, fun _ owner => owner⟩

theorem WorkspaceKept.trans {id : Nat} {first second third : Db}
    (left : WorkspaceKept id first second)
    (right : WorkspaceKept id second third) : WorkspaceKept id first third where
  workspace := right.workspace.trans left.workspace
  members row same := (right.members row same).trans (left.members row same)
  invitations row same :=
    (right.invitations row same).trans (left.invitations row same)
  owners userId owner := right.owners userId (left.owners userId owner)

theorem WorkspaceKept.present {id : Nat} {before after : Db}
    (kept : WorkspaceKept id before after)
    (present : (before.workspaces.find id).isSome) :
    (after.workspaces.find id).isSome := by
  rw [kept.workspace]
  exact present

theorem WorkspaceKept.otherInvitationCount {id : Nat} {before after : Db}
    (kept : WorkspaceKept id before after) (now : Nat) (email : String) :
    WorkspacesService.otherInvitationCount now after id email =
      WorkspacesService.otherInvitationCount now before id email := by
  have counted {first second : Db} (same : ∀ row : InvitationRow,
      row.workspaceId = id → row ∈ second.invitations →
        row ∈ first.invitations) :
      WorkspacesService.otherInvitationCount now second id email ≤
        WorkspacesService.otherInvitationCount now first id email := by
    have listed : WorkspacesService.otherInvitationCount now second id email ≤
        ([] : List InvitationRow).length +
          WorkspacesService.otherInvitationCount now first id email :=
      Table.length_filter_le [] fun row member active =>
        .inr ⟨same row (of_decide_eq_true active).1 member, active⟩
    rwa [List.length_nil, Nat.zero_add] at listed
  exact Nat.le_antisymm
    (counted fun row workspace => (kept.invitations row workspace).mp)
    (counted fun row workspace => (kept.invitations row workspace).mpr)

theorem UserKept.refl (id : Nat) (mode : LockMode) (db : Db) :
    UserKept id mode db db :=
  ⟨rfl, fun _ row member user live => ⟨row, member, rfl, user, live⟩,
    fun _ _ owner => owner⟩

theorem UserKept.trans {id : Nat} {mode : LockMode} {first second third : Db}
    (left : UserKept id mode first second)
    (right : UserKept id mode second third) : UserKept id mode first third where
  row := right.row.trans left.row
  sessions exclusive row member user live := by
    obtain ⟨middle, middleMember, same, middleUser, middleLive⟩ :=
      right.sessions exclusive row member user live
    obtain ⟨old, oldMember, same', oldUser, oldLive⟩ :=
      left.sessions exclusive middle middleMember middleUser middleLive
    exact ⟨old, oldMember, same'.trans same, oldUser, oldLive⟩
  owned exclusive workspaceId owner :=
    left.owned exclusive workspaceId (right.owned exclusive workspaceId owner)

theorem ordinary_mono {fewer more : List DbCommit}
    (ordinary : OrdinarySelfDeletions more)
    (subset : ∀ commit ∈ fewer, commit ∈ more) :
    OrdinarySelfDeletions fewer :=
  fun commit member => ordinary commit (subset commit member)

theorem AdminsKept.trans {first second third : DbWorld}
    (left : AdminsKept first second) (right : AdminsKept second third) :
    AdminsKept first third where
  commits commit member := right.commits commit (left.commits commit member)
  admins ordinary user member active := by
    obtain ⟨middle, middleMember, same, middleActive⟩ :=
      left.admins (ordinary_mono ordinary right.commits) user member active
    obtain ⟨later, laterMember, same', laterActive⟩ :=
      right.admins ordinary middle middleMember middleActive
    exact ⟨later, laterMember, same'.trans same, laterActive⟩

theorem Keeps.trans {environment : Environment} {hold : Hold Lock Draw}
    {first second third : DbWorld}
    (left : Keeps environment first second hold)
    (right : Keeps environment second third hold) :
    Keeps environment first third hold := by
  cases hold with
  | always => exact Kept.trans left right
  | lock resource mode =>
      cases resource with
      | workspace id =>
          intro present
          have middle := left present
          exact middle.trans (right (by rw [middle.workspace]; exact present))
      | user id =>
          intro present
          have middle := left present
          exact middle.trans (right (by rw [middle.row]; exact present))
      | session id =>
          intro present
          have middle := left present
          exact (right (by rw [middle]; exact present)).trans middle
      | role id => exact fun admin => (left admin).trans (right admin)
      | credit id =>
          intro present
          have middle := left present
          exact (right (by rw [middle]; exact present)).trans middle
      | creditIdentity | idempotencyKey | invitationToken =>
          exact fun absent => right (left absent)
      | member | invitation | userEmail | userName | userPhoto
        | pendingInvitation => trivial
  | value source drawn =>
      cases source with
      | uuid =>
          exact ⟨fun absent => right.1 (left.1 absent),
            fun absent => right.2 (left.2 absent)⟩
      | randomBytes | userId | sessionId | creditId | entryId =>
          exact fun absent => right (left absent)
      | roleId | activityId | salt => trivial

theorem Keeps.refl (environment : Environment) (hold : Hold Lock Draw)
    {before after : DbWorld} (silent : before.Silent after) :
    Keeps environment before after hold := by
  cases hold with
  | always => exact Kept.refl environment silent
  | lock resource mode =>
      cases resource with
      | workspace id =>
          intro _
          rw [silent.db]
          exact .refl id _
      | user id =>
          intro _
          rw [silent.db]
          exact .refl id mode _
      | role id =>
          refine fun _ => ⟨fun commit member => silent.commits ▸ member, ?_⟩
          exact fun _ user member active =>
            ⟨user, silent.db ▸ member, rfl, active⟩
      | session | credit => exact fun _ => by rw [silent.db]
      | creditIdentity | idempotencyKey | invitationToken =>
          intro absent
          rw [silent.db]
          exact absent
      | member | invitation | userEmail | userName | userPhoto
        | pendingInvitation => trivial
  | value source drawn =>
      cases source with
      | uuid =>
          rw [Keeps, silent.db]
          exact ⟨id, id⟩
      | randomBytes =>
          rw [Keeps, World.states, World.states, silent.db, silent.commits]
          exact id
      | userId | sessionId | creditId | entryId =>
          rw [Keeps, silent.db]
          exact id
      | roleId | activityId | salt => trivial

end Api

end SaasFoundation
