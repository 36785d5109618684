import SaasFoundation.Api.Locking

/-!
# Writes covered by locks

`Covered` says of every pending write which lock or drawn identifier entitles
the transaction to it.  The results are that a covered commit keeps what all
other transactions rely on, and the constraints of the schema.
-/

namespace SaasFoundation

open Relational Transaction

namespace Api

/-- The workspace is locked, or it is new and known to nobody else. -/
def HoldsWorkspace (context : DbContext) (db : Db) (id : Nat) : Prop :=
  (Lock.workspace id, LockMode.update) ∈ context.locks ∨
    (Draw.uuid, id) ∈ context.owned ∧ db.workspaces.find id = none

inductive WorkspaceCovered (environment : Environment) (context : DbContext)
    (db : Db) : Change WorkspaceRow Nat → Prop where
  | update (row : WorkspaceRow) (present : (db.workspaces.find row.id).isSome)
      (locked : (Lock.workspace row.id, LockMode.update) ∈ context.locks) :
      WorkspaceCovered environment context db (.put row)
  | insert (row : WorkspaceRow) (absent : db.workspaces.find row.id = none)
      (owned : (Draw.uuid, row.id) ∈ context.owned)
      (hidden : environment.guessable row.id = false) :
      WorkspaceCovered environment context db (.put row)

inductive MemberCovered (context : DbContext) (db : Db) :
    Change MemberRow (Nat × Nat) → Prop where
  | put (row : MemberRow) (holds : HoldsWorkspace context db row.workspaceId)
      (workspace : ((WriteSet.apply context.writes db).workspaces.find
        row.workspaceId).isSome)
      (owner : row.role = .owner → OwnerOf db row.workspaceId row.userId ∨
        ∃ mode, (Lock.user row.userId, mode) ∈ context.locks) :
      MemberCovered context db (.put row)
  | drop (id userId : Nat) (holds : HoldsWorkspace context db id) :
      MemberCovered context db (.drop (id, userId))

/-- `fresh` is the one invitation a transaction may create. -/
inductive InvitationCovered (context : DbContext) (db : Db)
    (fresh : Option InvitationRow) : Change InvitationRow Nat → Prop where
  | update (row old : InvitationRow) (stored : old ∈ db.invitations)
      (same : SameOffer row old)
      (holds : HoldsWorkspace context db row.workspaceId) :
      InvitationCovered context db fresh (.put row)
  | insert (row : InvitationRow) (new : fresh = some row)
      (absent : db.invitations.find row.id = none)
      (owned : (Draw.uuid, row.id) ∈ context.owned)
      (token : (Lock.invitationToken row.tokenHash, LockMode.update) ∈
        context.locks)
      (unused : ∀ old ∈ db.invitations, old.tokenHash ≠ row.tokenHash)
      (workspace : (db.workspaces.find row.workspaceId).isSome)
      (holds : HoldsWorkspace context db row.workspaceId) :
      InvitationCovered context db fresh (.put row)

inductive UserCovered (context : DbContext) (db : Db) :
    Change UserRow Nat → Prop where
  | update (row old : UserRow) (stored : old ∈ db.users)
      (same : row.id = old.id)
      (locked : (Lock.user old.id, LockMode.update) ∈ context.locks)
      (owners : old.Active → ¬row.Active → ∀ id, OwnerOf db id old.id →
        (Lock.workspace id, LockMode.update) ∈ context.locks)
      (admin : old.ActiveAdmin → ¬row.ActiveAdmin →
        (Lock.role RoleId.admin, LockMode.update) ∈ context.locks ∨
          context.request.selfDeletion = some old.id) :
      UserCovered context db (.put row)
  | insert (row : UserRow) (absent : db.users.find row.id = none)
      (owned : (Draw.userId, row.id) ∈ context.owned) :
      UserCovered context db (.put row)

/-- A hash the request has drawn itself. -/
def OwnHash (context : DbContext) (world : DbWorld) (hash : Nat) : Prop :=
  (Draw.randomBytes, hash) ∈ context.owned ∧
    (Draw.randomBytes, hash) ∈ world.drawn

inductive SessionCovered (context : DbContext) (world : DbWorld) :
    Change SessionRow Nat → Prop where
  | update (row old : SessionRow) (stored : old ∈ world.db.sessions)
      (same : row.id = old.id) (user : row.userId = old.userId)
      (locked : (Lock.session old.id, LockMode.update) ∈ context.locks)
      (live : row.deletedAt = none → old.deletedAt = none)
      (hash : row.hash = old.hash ∨ OwnHash context world row.hash) :
      SessionCovered context world (.put row)
  | insert (row : SessionRow) (absent : world.db.sessions.find row.id = none)
      (owned : (Draw.sessionId, row.id) ∈ context.owned)
      (locked : (Lock.user row.userId, LockMode.update) ∈ context.locks)
      (hash : OwnHash context world row.hash) :
      SessionCovered context world (.put row)

/-- `fresh` is the number of the one balance a transaction may create. -/
inductive CreditCovered (context : DbContext) (world : DbWorld)
    (fresh : Option (Nat × Nat × Nat)) : Change CreditRow Nat → Prop where
  | update (row old : CreditRow) (stored : old ∈ world.db.credits)
      (same : row.id = old.id) (account : row.accountId = old.accountId)
      (currency : row.currencyId = old.currencyId)
      (locked : (Lock.credit old.id, LockMode.update) ∈ context.locks) :
      CreditCovered context world fresh (.put row)
  | insert (row : CreditRow)
      (new : fresh = some (row.id, row.accountId, row.currencyId))
      (absent : world.db.credits.find row.id = none)
      (owned : (Draw.creditId, row.id) ∈ context.owned)
      (drawn : (Draw.creditId, row.id) ∈ world.drawn)
      (locked : (Lock.creditIdentity row.accountId row.currencyId,
        LockMode.update) ∈ context.locks)
      (unused : ∀ old ∈ world.db.credits,
        ¬(old.accountId = row.accountId ∧ old.currencyId = row.currencyId))
      (user : (world.db.users.find row.accountId).isSome)
      (known : (world.db.currencies.find row.currencyId).isSome) :
      CreditCovered context world fresh (.put row)

inductive EntryCovered (context : DbContext) (db : Db)
    (fresh : Option EntryRow) : Change EntryRow Nat → Prop where
  | insert (row : EntryRow) (new : fresh = some row)
      (absent : db.entries.find row.id = none)
      (owned : (Draw.entryId, row.id) ∈ context.owned)
      (locked : (Lock.idempotencyKey row.idempotencyKey, LockMode.update) ∈
        context.locks)
      (unused : ∀ old ∈ db.entries, old.idempotencyKey ≠ row.idempotencyKey)
      (credit : ((WriteSet.apply context.writes db).credits.find
        row.creditId).isSome)
      (operator : (db.users.find row.operatorId).isSome) :
      EntryCovered context db fresh (.put row)

/-- Every pending write is one the transaction is entitled to. -/
structure Covered (environment : Environment) (context : DbContext)
    (world : DbWorld) : Prop where
  workspaces : ∀ change ∈ context.writes.workspaces,
    WorkspaceCovered environment context world.db change
  members : ∀ change ∈ context.writes.members,
    MemberCovered context world.db change
  invitations : ∃ fresh, ∀ change ∈ context.writes.invitations,
    InvitationCovered context world.db fresh change
  users : ∀ change ∈ context.writes.users, UserCovered context world.db change
  sessions : ∀ change ∈ context.writes.sessions,
    SessionCovered context world change
  credits : ∃ fresh, ∀ change ∈ context.writes.credits,
    CreditCovered context world fresh change
  entries : ∃ fresh, ∀ change ∈ context.writes.entries,
    EntryCovered context world.db fresh change

variable {environment : Environment} {context : DbContext} {world : DbWorld}

theorem workspaces_puts (covered : Covered environment context world) :
    ∀ change ∈ context.writes.workspaces, ∃ row, change = .put row := by
  intro change member
  cases covered.workspaces change member with
  | update row | insert row => exact ⟨row, rfl⟩

theorem invitations_puts (covered : Covered environment context world) :
    ∀ change ∈ context.writes.invitations, ∃ row, change = .put row := by
  obtain ⟨fresh, each⟩ := covered.invitations
  intro change member
  cases each change member with
  | update row | insert row => exact ⟨row, rfl⟩

theorem users_puts (covered : Covered environment context world) :
    ∀ change ∈ context.writes.users, ∃ row, change = .put row := by
  intro change member
  cases covered.users change member with
  | update row | insert row => exact ⟨row, rfl⟩

theorem credits_puts (covered : Covered environment context world) :
    ∀ change ∈ context.writes.credits, ∃ row, change = .put row := by
  obtain ⟨fresh, each⟩ := covered.credits
  intro change member
  cases each change member with
  | update row | insert row => exact ⟨row, rfl⟩

theorem invitations_kept (covered : Covered environment context world)
    {row : InvitationRow} (member : row ∈ world.db.invitations) :
    ∃ later ∈ (world.commit context).db.invitations, SameOffer later row := by
  rcases Table.mem_or_replaced (invitations_puts covered) member with
    still | ⟨later, put, same, laterMember⟩
  · exact ⟨row, still, rfl, rfl, rfl, rfl, rfl⟩
  · refine ⟨later, laterMember, ?_⟩
    obtain ⟨fresh, each⟩ := covered.invitations
    cases each _ put with
    | update _ old stored offer =>
        have rows : old = row := by
          apply Table.eq_of_key stored member
          exact offer.id.symm.trans same
        exact rows ▸ offer
    | insert _ _ absent =>
        exact absurd same.symm (Table.find_eq_none.mp absent row member)

theorem credits_kept (covered : Covered environment context world)
    {row : CreditRow} (member : row ∈ world.db.credits) :
    ∃ later ∈ (world.commit context).db.credits, later.id = row.id ∧
      later.accountId = row.accountId ∧ later.currencyId = row.currencyId := by
  rcases Table.mem_or_replaced (credits_puts covered) member with
    still | ⟨later, put, same, laterMember⟩
  · exact ⟨row, still, rfl, rfl, rfl⟩
  · refine ⟨later, laterMember, ?_⟩
    obtain ⟨fresh, each⟩ := covered.credits
    cases each _ put with
    | update _ old stored sameId account currency =>
        have rows : old = row := by
          apply Table.eq_of_key stored member
          exact sameId.symm.trans same
        subst rows
        exact ⟨same, account, currency⟩
    | insert _ _ absent =>
        exact absurd same.symm (Table.find_eq_none.mp absent row member)

theorem kept_of_covered (covered : Covered environment context world) :
    Kept environment world (world.commit context) where
  states state member := .tail _ member
  commits := List.suffix_cons _ _
  drawn _ member := member
  currencies := rfl
  workspaces id present :=
    Table.find_applyAll_isSome (workspaces_puts covered) present
  named id present := by
    by_cases untouched : ∀ change ∈ context.writes.workspaces,
        change.target ≠ id
    · left
      have same : (world.commit context).db.workspaces.find id =
          world.db.workspaces.find id :=
        Table.find_applyAll_of_untouched untouched
      exact same ▸ present
    · push Not at untouched
      obtain ⟨change, member, target⟩ := untouched
      cases covered.workspaces change member with
      | update row old => exact .inl (target ▸ old)
      | insert row _ _ hidden => exact .inr (target ▸ hidden)
  users id present := Table.find_applyAll_isSome (users_puts covered) present
  sameUsers quiet := by
    have untouched : context.writes.users = [] := quiet _ List.mem_cons_self
    change Table.applyAll context.writes.users world.db.users = _
    rw [untouched]
    rfl
  invitations row member := invitations_kept covered member
  credits row member := credits_kept covered member
  entries row member := by
    apply Table.mem_of_untouched member
    obtain ⟨fresh, each⟩ := covered.entries
    intro change changed same
    cases each change changed with
    | insert new _ absent =>
        exact Table.find_eq_none.mp absent row member same.symm

/-- Somebody else may hold this lock in this mode. -/
theorem not_locked {resource : Lock} {mode : LockMode}
    (leaves : context.Leaves (.lock resource mode)) :
    (resource, LockMode.update) ∉ context.locks := by
  intro held
  have free := leaves _ held rfl
  simp at free

theorem not_holdsWorkspace {id : Nat} {mode : LockMode}
    (leaves : context.Leaves (.lock (.workspace id) mode))
    (present : (world.db.workspaces.find id).isSome) :
    ¬HoldsWorkspace context world.db id := by
  rintro (locked | ⟨_, absent⟩)
  · exact not_locked leaves locked
  · simp [absent] at present

theorem workspaceKept_of_covered
    (covered : Covered environment context world) {id : Nat} {mode : LockMode}
    (leaves : context.Leaves (.lock (.workspace id) mode))
    (present : (world.db.workspaces.find id).isSome) :
    WorkspaceKept id world.db (world.commit context).db := by
  have free := not_holdsWorkspace leaves present
  have members : ∀ row, row.workspaceId = id →
      (row ∈ (world.commit context).db.members ↔ row ∈ world.db.members) := by
    rintro row rfl
    apply Table.mem_applyAll_of_untouched
    intro change member same
    cases covered.members change member with
    | put new holds =>
        have workspaces : new.workspaceId = row.workspaceId :=
          congrArg Prod.fst same
        exact free (workspaces ▸ holds)
    | drop id userId holds =>
        have workspaces : id = row.workspaceId := congrArg Prod.fst same
        exact free (workspaces ▸ holds)
  obtain ⟨fresh, each⟩ := covered.invitations
  refine ⟨?_, members, ?_, ?_⟩
  · apply Table.find_applyAll_of_untouched
    intro change member same
    cases covered.workspaces change member with
    | update row _ locked => exact not_locked leaves (same ▸ locked)
    | insert row absent =>
        have gone : world.db.workspaces.find id = none := same ▸ absent
        simp [gone] at present
  · intro row same
    constructor
    · intro member
      rcases Table.mem_of_mem_applyAll member with put | ⟨old, _⟩
      · cases each _ put with
        | update _ _ _ _ holds => exact absurd (same ▸ holds) free
        | insert _ _ _ _ _ _ _ holds => exact absurd (same ▸ holds) free
      · exact old
    · intro member
      apply Table.mem_of_untouched member
      intro change changed target
      cases each change changed with
      | update new old stored offer holds =>
          have rows : old = row := by
            apply Table.eq_of_key stored member
            exact offer.id.symm.trans target
          have workspaces : new.workspaceId = id :=
            offer.workspaceId.trans (rows ▸ same)
          exact free (workspaces ▸ holds)
      | insert new _ absent =>
          exact Table.find_eq_none.mp absent row member target.symm
  · rintro userId ⟨⟨row, rowMember, rowId, rowUser, rowRole⟩, user, userMember,
      rfl, active⟩
    have owner : OwnerOf (world.commit context).db id user.id :=
      ⟨row, (members row rowId).mpr rowMember, rowId, rowUser, rowRole⟩
    refine ⟨owner, ?_⟩
    rcases Table.mem_or_replaced (users_puts covered) userMember with
      still | ⟨later, put, same, laterMember⟩
    · exact ⟨user, still, rfl, active⟩
    · refine ⟨later, laterMember, same, ?_⟩
      cases covered.users _ put with
      | update _ old stored sameId locked owners =>
          have rows : old = user := by
            apply Table.eq_of_key stored userMember
            exact sameId.symm.trans same
          subst rows
          by_contra inactive
          exact not_locked leaves (owners active inactive id
            ⟨row, rowMember, rowId, rowUser, rowRole⟩)
      | insert _ absent =>
          exact absurd same.symm (Table.find_eq_none.mp absent user userMember)

theorem userKept_of_covered (covered : Covered environment context world)
    {id : Nat} {mode : LockMode}
    (leaves : context.Leaves (.lock (.user id) mode))
    (present : (world.db.users.find id).isSome) :
    UserKept id mode world.db (world.commit context).db where
  row := by
    apply Table.find_applyAll_of_untouched
    intro change member same
    cases covered.users change member with
    | update row old _ sameId locked =>
        have users : old.id = id := sameId.symm.trans same
        exact not_locked leaves (users ▸ locked)
    | insert row absent =>
        have gone : world.db.users.find id = none := same ▸ absent
        simp [gone] at present
  sessions exclusive row member user live := by
    rcases Table.mem_of_mem_applyAll member with put | ⟨old, _⟩
    · cases covered.sessions _ put with
      | update _ old stored sameId sameUser _ alive =>
          exact ⟨old, stored, sameId.symm, sameUser.symm.trans user,
            alive live⟩
      | insert _ _ _ locked =>
          exact absurd (user ▸ locked) (not_locked leaves)
    · exact ⟨row, old, rfl, user, live⟩
  owned exclusive workspaceId owner := by
    obtain ⟨row, member, rowId, rowUser, rowRole⟩ := owner
    rcases Table.mem_of_mem_applyAll member with put | ⟨old, _⟩
    · cases covered.members _ put with
      | put _ _ _ grown =>
          rcases grown rowRole with before | ⟨other, locked⟩
          · exact rowId ▸ rowUser ▸ before
          · have free := leaves _ (rowUser ▸ locked) rfl
            simp [exclusive] at free
    · exact ⟨row, old, rowId, rowUser, rowRole⟩

theorem sessionKept_of_covered (covered : Covered environment context world)
    {id : Nat} {mode : LockMode}
    (leaves : context.Leaves (.lock (.session id) mode))
    (present : (world.db.sessions.find id).isSome) :
    (world.commit context).db.sessions.find id =
      world.db.sessions.find id := by
  apply Table.find_applyAll_of_untouched
  intro change member same
  cases covered.sessions change member with
  | update row old _ sameId _ locked =>
      have sessions : old.id = id := sameId.symm.trans same
      exact not_locked leaves (sessions ▸ locked)
  | insert row absent =>
      have gone : world.db.sessions.find id = none := same ▸ absent
      simp [gone] at present

theorem adminsKept_of_covered (covered : Covered environment context world)
    {mode : LockMode}
    (leaves : context.Leaves (.lock (.role RoleId.admin) mode)) :
    AdminsKept world (world.commit context) where
  commits _ member := .tail _ member
  admins ordinary user member active := by
    rcases Table.mem_or_replaced (users_puts covered) member with
      still | ⟨later, put, same, laterMember⟩
    · exact ⟨user, still, rfl, active⟩
    · refine ⟨later, laterMember, same, ?_⟩
      cases covered.users _ put with
      | update _ old stored sameId _ _ admin =>
          have rows : old = user := by
            apply Table.eq_of_key stored member
            exact sameId.symm.trans same
          subst rows
          by_contra demoted
          rcases admin active demoted with locked | deletion
          · exact not_locked leaves locked
          · exact ordinary _ List.mem_cons_self _ deletion old stored rfl
              active.2
      | insert _ absent =>
          exact absurd same.symm (Table.find_eq_none.mp absent user member)

theorem creditKept_of_covered (covered : Covered environment context world)
    {id : Nat} {mode : LockMode}
    (leaves : context.Leaves (.lock (.credit id) mode))
    (present : (world.db.credits.find id).isSome) :
    (world.commit context).db.credits.find id = world.db.credits.find id := by
  apply Table.find_applyAll_of_untouched
  obtain ⟨fresh, each⟩ := covered.credits
  intro change member same
  cases each change member with
  | update row old _ sameId _ _ locked =>
      have credits : old.id = id := sameId.symm.trans same
      exact not_locked leaves (credits ▸ locked)
  | insert row _ absent =>
      have gone : world.db.credits.find id = none := same ▸ absent
      simp [gone] at present

theorem untouched_of_absent {ρ : Type} [Keyed ρ Nat]
    {changes : List (Change ρ Nat)} {table : Table ρ} {id : Nat}
    (absent : table.find id = none)
    (untouched : ∀ change ∈ changes, change.target ≠ id) :
    (Table.applyAll changes table).find id = none :=
  (Table.find_applyAll_of_untouched untouched).trans absent

theorem unissued_of_covered (covered : Covered environment context world)
    {hash : Nat} (leaves : context.Leaves (.value .randomBytes hash))
    (unissued : Unissued hash world.states) :
    Unissued hash (world.commit context).states := by
  intro state member row rowMember
  rcases List.mem_cons.mp member with rfl | older
  · rcases Table.mem_of_mem_applyAll rowMember with put | ⟨old, _⟩
    · cases covered.sessions _ put with
      | update _ old stored _ _ _ _ hashes =>
          rcases hashes with kept | ⟨owned, _⟩
          · exact kept ▸ unissued _ List.mem_cons_self old stored
          · exact fun same => leaves (same ▸ owned)
      | insert _ _ _ _ own => exact fun same => leaves (same ▸ own.1)
    · exact unissued _ List.mem_cons_self row old
  · exact unissued state older row rowMember

theorem keeps_of_covered (covered : Covered environment context world)
    {hold : Hold Lock Draw} (leaves : context.Leaves hold) :
    Keeps environment world (world.commit context) hold := by
  cases hold with
  | always => exact kept_of_covered covered
  | lock resource mode =>
      cases resource with
      | workspace id => exact workspaceKept_of_covered covered leaves
      | user id => exact userKept_of_covered covered leaves
      | session id => exact sessionKept_of_covered covered leaves
      | credit id => exact creditKept_of_covered covered leaves
      | role id =>
          rintro rfl
          exact adminsKept_of_covered covered leaves
      | creditIdentity account currency =>
          intro absent row member same
          obtain ⟨fresh, each⟩ := covered.credits
          rcases Table.mem_of_mem_applyAll member with put | ⟨old, _⟩
          · cases each _ put with
            | update _ old stored _ sameAccount sameCurrency =>
                exact absent old stored ⟨sameAccount.symm.trans same.1,
                  sameCurrency.symm.trans same.2⟩
            | insert _ _ _ _ _ locked =>
                exact not_locked leaves (same.1 ▸ same.2 ▸ locked)
          · exact absent row old same
      | idempotencyKey key =>
          intro absent row member same
          obtain ⟨fresh, each⟩ := covered.entries
          rcases Table.mem_of_mem_applyAll member with put | ⟨old, _⟩
          · cases each _ put with
            | insert _ _ _ _ locked =>
                exact not_locked leaves (same ▸ locked)
          · exact absent row old same
      | invitationToken hash =>
          intro absent row member same
          obtain ⟨fresh, each⟩ := covered.invitations
          rcases Table.mem_of_mem_applyAll member with put | ⟨old, _⟩
          · cases each _ put with
            | update _ old stored offer =>
                exact absent old stored (offer.tokenHash.symm.trans same)
            | insert _ _ _ _ locked =>
                exact not_locked leaves (same ▸ locked)
          · exact absent row old same
      | member | invitation | userEmail | userName | userPhoto
        | pendingInvitation => trivial
  | value source drawn =>
      cases source with
      | uuid =>
          constructor
          · intro absent
            apply untouched_of_absent absent
            intro change member same
            cases covered.workspaces change member with
            | update row present =>
                have here : (world.db.workspaces.find drawn).isSome :=
                  same ▸ present
                simp [absent] at here
            | insert row _ owned => exact leaves (same ▸ owned)
          · intro absent
            apply untouched_of_absent absent
            obtain ⟨fresh, each⟩ := covered.invitations
            intro change member same
            cases each change member with
            | update row old stored offer =>
                have here : old.id = drawn := offer.id.symm.trans same
                exact Table.find_eq_none.mp absent old stored here
            | insert row _ _ owned => exact leaves (same ▸ owned)
      | randomBytes => exact unissued_of_covered covered leaves
      | userId =>
          intro absent
          apply untouched_of_absent absent
          intro change member same
          cases covered.users change member with
          | update row old stored sameId =>
              have here : old.id = drawn := sameId.symm.trans same
              exact Table.find_eq_none.mp absent old stored here
          | insert row _ owned => exact leaves (same ▸ owned)
      | sessionId =>
          intro absent
          apply untouched_of_absent absent
          intro change member same
          cases covered.sessions change member with
          | update row old stored sameId =>
              have here : old.id = drawn := sameId.symm.trans same
              exact Table.find_eq_none.mp absent old stored here
          | insert row _ owned => exact leaves (same ▸ owned)
      | creditId =>
          intro absent
          apply untouched_of_absent absent
          obtain ⟨fresh, each⟩ := covered.credits
          intro change member same
          cases each change member with
          | update row old stored sameId =>
              have here : old.id = drawn := sameId.symm.trans same
              exact Table.find_eq_none.mp absent old stored here
          | insert row _ _ owned => exact leaves (same ▸ owned)
      | entryId =>
          intro absent
          apply untouched_of_absent absent
          obtain ⟨fresh, each⟩ := covered.entries
          intro change member same
          cases each change member with
          | insert row _ _ owned => exact leaves (same ▸ owned)
      | roleId | activityId | salt => trivial

end Api

end SaasFoundation
