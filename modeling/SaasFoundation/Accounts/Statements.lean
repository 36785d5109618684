import SaasFoundation.Workspaces.Statements
import SaasFoundation.Users.Repository

/-!
# Storing accounts and ending sessions

Rules for the statements that all writers of `"user"` share: the trigger that
protects workspace owners, the storing of a row, the revocation of sessions
and the audit entry.  `Protected` is what the trigger leaves behind, `Ends`
what a revocation does; both hold until the transaction commits.
-/

namespace SaasFoundation

open Relational Transaction Discipline Api WorkspacesService

variable {environment : Environment} {drawn : Prop} {α β : Type}
  {post : α → DbContext → DbWorld → Prop}
  {failed : Failure → DbContext → DbWorld → Prop} {context : DbContext}
  {world : DbWorld}

theorem mem_ownedWorkspaces {db : Db} {userId id : Nat} :
    id ∈ ownedWorkspaces db userId ↔ OwnerOf db id userId := by
  unfold ownedWorkspaces OwnerOf
  rw [List.mem_insertionSort, List.mem_map]
  constructor
  · rintro ⟨row, member, rfl⟩
    obtain ⟨stored, holds⟩ := List.mem_filter.mp member
    simp only [Bool.decide_and, Bool.and_eq_true, decide_eq_true_eq] at holds
    exact ⟨row, stored, rfl, holds⟩
  · rintro ⟨row, stored, rfl, holds⟩
    refine ⟨row, List.mem_filter.mpr ⟨stored, ?_⟩, rfl⟩
    simpa using holds

theorem otherActiveOwner_iff {db : Db} {id userId : Nat} :
    otherActiveOwner db id userId = true ↔
      ∃ other, other ≠ userId ∧ ActiveOwner db id other := by
  simp only [otherActiveOwner, List.any_eq_true, decide_eq_true_eq,
    activeUser_isSome]
  constructor
  · rintro ⟨row, stored, workspace, role, different, live⟩
    exact ⟨row.userId, different, ⟨row, stored, workspace, rfl, role⟩, live⟩
  · rintro ⟨_, different, ⟨row, stored, workspace, rfl, role⟩, live⟩
    exact ⟨row, stored, workspace, role, different, live⟩

theorem within_protectOwned {userId : Nat} {owned : List Nat}
    {next : Unit → Tx α} (clean : context.writes = ∅)
    (inv : Invariant environment drawn world)
    (present : ∀ id ∈ owned, (world.db.workspaces.find id).isSome)
    (rejected : ∀ later now failure, failed failure later now)
    (step : ∀ now locks, Relies environment drawn context world now →
      (∀ id ∈ owned, (Lock.workspace id, LockMode.update) ∈ locks ∧
        ∃ other, other ≠ userId ∧ ActiveOwner now.db id other) →
      Within environment drawn (next ()) post failed (context.extend locks ∅)
        now) :
    Within environment drawn (protectOwned userId owned >>= next) post failed
      context world := by
  induction owned generalizing context world with
  | nil =>
      rw [← extend_nothing context]
      exact step world [] (.refl inv) (by simp)
  | cons owned rest ih =>
      simp only [protectOwned, bind_assoc]
      refine within_lockWorkspace fun now1 rely1 => ?_
      rw [List.forall_mem_cons] at present
      have present1 := (kept_always rely1).workspaces owned present.1
      rw [view_clean clean, if_pos present1]
      refine within_query fun now2 rely2 => ?_
      have clean2 :
          (context.extend [(.workspace owned, .update)] ∅).writes = ∅ := by
        simp [clean]
      rw [view_clean clean2]
      have rely12 : Relies environment drawn context world now2 :=
        rely1.trans (rely2.weaken ((Context.Grows.refl context).extend _ _))
      split
      · rename_i other
        refine ih clean2 rely2.inv ?_ ?_
        · exact fun id member =>
            (kept_always rely12).workspaces id (present.2 id member)
        · intro now3 locks rely3 others
          have kept := kept_workspace owned rely3 (by simp)
            ((kept_always rely2).workspaces owned present1)
          rw [extend_extend, Writes.empty_append]
          refine step now3 _ (rely12.trans
            (rely3.weaken ((Context.Grows.refl context).extend _ _))) ?_
          rw [List.forall_mem_cons]
          constructor
          · obtain ⟨someone, different, active⟩ := otherActiveOwner_iff.mp other
            exact ⟨by simp, someone, different, kept.owners someone active⟩
          · intro id member
            obtain ⟨locked, active⟩ := others id member
            exact ⟨List.mem_append_left _ locked, active⟩
      · exact rejected _ now2 _

/-- The row of a user may become `new`: it is locked, and the workspaces that
need another active owner are locked and have one. -/
structure Protected (context : DbContext) (db : Db) (old new : UserRow) :
    Prop where
  stored : old ∈ db.users
  same : new.id = old.id
  locked : (Lock.user old.id, LockMode.update) ∈ context.locks
  owners : old.Active → ¬new.Active → ∀ id, OwnerOf db id old.id →
    (Lock.workspace id, LockMode.update) ∈ context.locks ∧
      ∃ other, other ≠ old.id ∧ ActiveOwner db id other

theorem present_of_owner {db : Db} (sound : Sound db) {id userId : Nat}
    (owner : OwnerOf db id userId) : (db.workspaces.find id).isSome := by
  obtain ⟨row, stored, rfl, _⟩ := owner
  exact sound.memberWorkspace row stored

/-- The lock of a user keeps its row and who it owns workspaces for. -/
theorem Protected.kept {later : DbWorld} {old new : UserRow}
    (guarded : Protected context world.db old new) (sound : Sound world.db)
    (keeps : ∀ hold, context.Has hold → Keeps environment world later hold) :
    Protected context later.db old new where
  stored := by
    have present : (world.db.users.find old.id).isSome :=
      Table.find_isSome.mpr ⟨old, guarded.stored, rfl⟩
    have kept := keeps (.lock (.user old.id) .update) guarded.locked present
    exact (Table.find_eq_some.mp
      (kept.row.trans (Table.find_key guarded.stored))).1
  same := guarded.same
  locked := guarded.locked
  owners active inactive id owner := by
    have present : (world.db.users.find old.id).isSome :=
      Table.find_isSome.mpr ⟨old, guarded.stored, rfl⟩
    have kept := keeps (.lock (.user old.id) .update) guarded.locked present
    have before : OwnerOf world.db id old.id := kept.owned rfl id owner
    obtain ⟨locked, other, different, activeOwner⟩ :=
      guarded.owners active inactive id before
    have workspace := keeps (.lock (.workspace id) .update) locked
      (present_of_owner sound before)
    exact ⟨locked, other, different, workspace.owners other activeOwner⟩

theorem Protected.grow {later : DbContext} {db : Db} {old new : UserRow}
    (guarded : Protected context db old new) (grows : context.Grows later) :
    Protected later db old new where
  stored := guarded.stored
  same := guarded.same
  locked := grows.locks _ guarded.locked
  owners active inactive id owner :=
    (guarded.owners active inactive id owner).imp_left (grows.locks _)

theorem within_protectWorkspaceOwner {old new : UserRow} {next : Unit → Tx α}
    (clean : context.writes = ∅) (inv : Invariant environment drawn world)
    (locked : (Lock.user old.id, LockMode.update) ∈ context.locks)
    (stored : old ∈ world.db.users) (same : new.id = old.id)
    (rejected : ∀ later now failure, failed failure later now)
    (step : ∀ now locks, Relies environment drawn context world now →
      Protected (context.extend locks ∅) now.db old new →
      Within environment drawn (next ()) post failed (context.extend locks ∅)
        now) :
    Within environment drawn (protectWorkspaceOwner old (some new) >>= next)
      post failed context world := by
  have userPresent : (world.db.users.find old.id).isSome :=
    Table.find_isSome.mpr ⟨old, stored, rfl⟩
  have stillStored : ∀ {now : DbWorld},
      Relies environment drawn context world now → old ∈ now.db.users := by
    intro now rely
    have kept := kept_user old.id .update rely locked userPresent
    exact (Table.find_eq_some.mp (kept.row.trans (Table.find_key stored))).1
  unfold protectWorkspaceOwner
  split
  · rename_i active
    rw [← extend_nothing context]
    refine step world [] (.refl inv) ⟨stored, same, by simp [locked], ?_⟩
    exact fun _ inactive => absurd (by simpa using active) inactive
  · simp only [bind_assoc]
    refine within_query fun now1 rely1 => ?_
    rw [view_clean clean]
    refine within_protectOwned clean rely1.inv ?_ rejected ?_
    · exact fun id member => present_of_owner rely1.inv.sound
        (mem_ownedWorkspaces.mp member)
    · intro now2 locks rely2 others
      have rely12 := rely1.trans rely2
      have kept := kept_user old.id .update rely2 locked
        ((kept_always rely1).users old.id userPresent)
      refine step now2 locks rely12
        ⟨stillStored rely12, same, by simp [locked], ?_⟩
      intro _ _ id owner
      obtain ⟨workspace, other⟩ :=
        others id (mem_ownedWorkspaces.mpr (kept.owned rfl id owner))
      exact ⟨by simp [workspace], other⟩

theorem within_storeUser {old : Option UserRow} {row : UserRow}
    {next : Unit → Tx α}
    (rejected : ∀ later now failure, failed failure later now)
    (step : ∀ now locks, Relies environment drawn context world now →
      Within environment drawn (next ()) post failed
        (context.extend locks { users := [.put row] }) now) :
    Within environment drawn (storeUser environment.runtime old row >>= next)
      post failed context world := by
  refine within_execute (fun now _ failure _ => rejected _ now failure) ?_
  intro now rely value writes stepped
  split at stepped
  · cases stepped
  · cases stepped
    exact step now _ rely

/-- `quiet`: an update that does not fire the trigger deactivates nobody. -/
theorem within_updateUser {id : Nat} {lifecycle : Bool}
    {change : Nat → UserRow → UserRow} {next : Option UserRow → Tx α}
    (clean : context.writes = ∅)
    (sameId : ∀ row, (change context.now row).id = row.id)
    (quiet : lifecycle = false → ∀ now row,
      Relies environment drawn context world now → row ∈ now.db.users →
      row.id = id → row.Active → (change context.now row).Active)
    (rejected : ∀ later now failure, failed failure later now)
    (missing : ∀ now, Relies environment drawn context world now →
      now.db.users.find id = none →
      Within environment drawn (next none) post failed context now)
    (step : ∀ now old locks, Relies environment drawn context world now →
      old.id = id →
      Protected (context.extend locks ∅) now.db old
        (change context.now old) →
      Within environment drawn (next (some (change context.now old))) post
        failed
        (context.extend locks
          { users := [.put (change context.now old)] }) now) :
    Within environment drawn
      (updateUser environment.runtime id lifecycle change >>= next) post failed
      context world := by
  simp only [updateUser, bind_assoc]
  refine within_run.mpr fun now1 rely1 => ?_
  simp only [view_clean clean]
  cases found : now1.db.users.find id with
  | none => simpa using missing now1 rely1 found
  | some old =>
      obtain ⟨stored, sameKey⟩ := Table.find_eq_some.mp found
      have oldId : old.id = id := sameKey
      simp only [Option.isSome_some, if_true, Option.map_some]
      have clean1 :
          (context.extend [(.user id, .update)] ∅).writes = ∅ := by
        simp [clean]
      have grows := (Context.Grows.refl context).extend
        [(Lock.user id, LockMode.update)] (∅ : Writes)
      -- Both branches reach the storing of the row with `Protected`.
      have store : ∀ now2 locks,
          Relies environment drawn
            (context.extend [(.user id, .update)] ∅) now1 now2 →
          Protected ((context.extend [(.user id, .update)] ∅).extend locks ∅)
            now2.db old (change context.now old) →
          Within environment drawn
            (storeUser environment.runtime (some old)
                (change context.now old) >>= fun _ =>
              pure (some (change context.now old)) >>= next)
            post failed
            ((context.extend [(.user id, .update)] ∅).extend locks ∅) now2 := by
        intro now2 locks rely2 guarded
        refine within_storeUser rejected fun now3 keys rely3 => ?_
        have rely12 : Relies environment drawn context world now2 :=
          rely1.trans (rely2.weaken grows)
        have rely13 : Relies environment drawn context world now3 :=
          rely12.trans (rely3.weaken (grows.extend _ _))
        have kept := (guarded.kept rely2.inv.sound rely3.keeps).grow
          ((Context.Grows.refl _).extend keys ∅)
        simp only [extend_extend, Writes.empty_append] at kept ⊢
        exact step now3 old _ rely13 oldId kept
      split
      · simp only [bind_assoc]
        refine within_protectWorkspaceOwner clean1 rely1.inv
          (by simp [oldId]) stored (sameId old) rejected ?_
        exact fun now2 locks rely2 guarded => store now2 locks rely2 guarded
      · rename_i silent
        have guarded : Protected
            ((context.extend [(.user id, .update)] ∅).extend [] ∅) now1.db old
            (change context.now old) := by
          refine ⟨stored, sameId old, by simp [oldId], ?_⟩
          intro active inactive
          exact absurd (quiet (by simpa using silent) now1 old rely1 stored
            oldId active) inactive
        have stored1 := store now1 [] (.refl rely1.inv) guarded
        rw [extend_nothing] at stored1
        simpa only [bind_assoc] using stored1

/-- The row of a deleted user. -/
def deletedUser (now : Nat) (row : UserRow) : UserRow :=
  { row with deletedAt := some now, updatedAt := now }

theorem within_softDeleteUser {id : Nat} {next : Unit → Tx α}
    (clean : context.writes = ∅)
    (rejected : ∀ later now failure, failed failure later now)
    (missing : ∀ now, Relies environment drawn context world now →
      now.db.users.find id = none →
      Within environment drawn (next ()) post failed context now)
    (step : ∀ now old locks, Relies environment drawn context world now →
      old.id = id →
      Protected (context.extend locks ∅) now.db old
        (deletedUser context.now old) →
      Within environment drawn (next ()) post failed
        (context.extend locks
          { users := [.put (deletedUser context.now old)] }) now) :
    Within environment drawn
      (softDeleteUser environment.runtime id >>= next) post failed context
      world := by
  simp only [softDeleteUser, bind_assoc, pure_bind]
  exact within_updateUser clean (fun _ => rfl) (by simp) rejected missing step

/-- The live sessions of a user but for the excluded one, all locked. -/
structure Ends (context : DbContext) (db : Db) (userId : Nat)
    (exclude : Option Nat) (rows : List SessionRow) : Prop where
  distinct : (rows.map key).Nodup
  listed : ∀ row, row ∈ rows ↔ row ∈ db.sessions ∧ row.userId = userId ∧
    row.deletedAt = none ∧ some row.id ≠ exclude
  locked : ∀ row ∈ rows, (Lock.session row.id, LockMode.update) ∈ context.locks

theorem Ends.grow {later : DbContext} {db : Db} {userId : Nat}
    {exclude : Option Nat} {rows : List SessionRow}
    (ends : Ends context db userId exclude rows)
    (grows : context.Grows later) : Ends later db userId exclude rows where
  distinct := ends.distinct
  listed := ends.listed
  locked row member := grows.locks _ (ends.locked row member)

/-- No session of a locked user appears, and the ended ones stay. -/
theorem Ends.kept {later : DbWorld} {userId : Nat} {exclude : Option Nat}
    {rows : List SessionRow} (ends : Ends context world.db userId exclude rows)
    (locked : (Lock.user userId, LockMode.update) ∈ context.locks)
    (present : (world.db.users.find userId).isSome)
    (keeps : ∀ hold, context.Has hold → Keeps environment world later hold) :
    Ends context later.db userId exclude rows where
  distinct := ends.distinct
  listed := by
    have user := keeps (.lock (.user userId) .update) locked present
    have same : ∀ row ∈ rows, later.db.sessions.find row.id = some row := by
      intro row member
      have stored := ((ends.listed row).mp member).1
      have session := keeps (.lock (.session row.id) .update)
        (ends.locked row member)
        (Table.find_isSome.mpr ⟨row, stored, rfl⟩)
      exact session.trans (Table.find_key stored)
    intro row
    constructor
    · intro member
      exact ⟨(Table.find_eq_some.mp (same row member)).1,
        ((ends.listed row).mp member).2⟩
    · rintro ⟨stored, owner, live, included⟩
      obtain ⟨old, oldStored, sameId, oldUser, oldLive⟩ :=
        user.sessions rfl row stored owner live
      have member : old ∈ rows :=
        (ends.listed old).mpr ⟨oldStored, oldUser, oldLive, sameId ▸ included⟩
      have rows : old = row :=
        Table.eq_of_key (Table.find_eq_some.mp (same old member)).1 stored
          sameId
      exact rows ▸ member
  locked := ends.locked

theorem within_revokeUserSessions {userId : Nat} {exclude : Option Nat}
    {next : Unit → Tx α} (plain : context.writes.sessions = [])
    (step : ∀ now locks rows, Relies environment drawn context world now →
      Ends (context.extend locks ∅) now.db userId exclude rows →
      Within environment drawn (next ()) post failed
        (context.extend locks
          { sessions := rows.map fun row =>
              .put { row with deletedAt := some context.now } }) now) :
    Within environment drawn (revokeUserSessions userId exclude >>= next) post
      failed context world := by
  refine within_execute (fun now _ failure stepped => by cases stepped) ?_
  intro now rely value writes stepped
  cases stepped
  have same : (now.view context).sessions = now.db.sessions := by
    simp [World.view, plain]
  refine step now _ (revocableSessions (now.view context) userId exclude) rely
    ⟨?_, ?_, ?_⟩
  · exact (now.view context).sessions.nodup.sublist
      (List.filter_sublist.map _)
  · intro row
    simp only [revocableSessions, same, List.mem_filter, decide_eq_true_eq]
    rfl
  · intro row member
    simp only [extend_locks, List.mem_append, List.mem_map]
    exact .inl ⟨row, member, rfl⟩

/-- The sessions written by an optional revocation. -/
def Revocation (context : DbContext) (db : Db) (userId : Nat)
    (sessions : List (Change SessionRow Nat)) :
    Option (Option Nat) → Prop
  | none => sessions = []
  | some exclude => ∃ rows, Ends context db userId exclude rows ∧
      sessions = rows.map fun row =>
        .put { row with deletedAt := some context.now }

theorem Ends.revocation {db : Db} {userId : Nat} {exclude : Option Nat}
    {rows : List SessionRow} (ends : Ends context db userId exclude rows) :
    Revocation context db userId
      (rows.map fun row => .put { row with deletedAt := some context.now })
      (some exclude) :=
  ⟨rows, ends, rfl⟩

theorem Revocation.grow {later : DbContext} {db : Db} {userId : Nat}
    {sessions : List (Change SessionRow Nat)}
    {requested : Option (Option Nat)}
    (revocation : Revocation context db userId sessions requested)
    (grows : context.Grows later) (now : later.now = context.now) :
    Revocation later db userId sessions requested := by
  cases requested with
  | none => exact revocation
  | some exclude =>
      obtain ⟨rows, ends, writes⟩ := revocation
      exact ⟨rows, ends.grow grows, by rw [writes, now]⟩

theorem Revocation.kept {later : DbWorld} {userId : Nat}
    {sessions : List (Change SessionRow Nat)}
    {requested : Option (Option Nat)}
    (revocation : Revocation context world.db userId sessions requested)
    (locked : (Lock.user userId, LockMode.update) ∈ context.locks)
    (present : (world.db.users.find userId).isSome)
    (keeps : ∀ hold, context.Has hold → Keeps environment world later hold) :
    Revocation context later.db userId sessions requested := by
  cases requested with
  | none => exact revocation
  | some exclude =>
      obtain ⟨rows, ends, writes⟩ := revocation
      exact ⟨rows, ends.kept locked present keeps, writes⟩

theorem within_revokeRequested {userId : Nat}
    {requested : Option (Option Nat)} {next : Unit → Tx α}
    (inv : Invariant environment drawn world)
    (plain : context.writes.sessions = [])
    (step : ∀ now locks sessions, Relies environment drawn context world now →
      Revocation (context.extend locks ∅) now.db userId sessions requested →
      Within environment drawn (next ()) post failed
        (context.extend locks { sessions }) now) :
    Within environment drawn
      (UserRepository.revokeRequested userId requested >>= next) post failed
      context world := by
  cases requested with
  | none =>
      rw [← extend_nothing context]
      exact step world [] [] (.refl inv) rfl
  | some exclude =>
      refine within_revokeUserSessions plain ?_
      intro now locks rows rely ends
      exact step now locks _ rely ends.revocation

end SaasFoundation
