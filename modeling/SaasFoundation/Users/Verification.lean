import SaasFoundation.Accounts.Verification
import SaasFoundation.Auth.Service

/-!
# `UsersService` and its repository follow the discipline

`updateAtomically` locks the account, lets its caller inspect it, stores the
changes and ends sessions.  Its callers change credentials in one way only,
`Modest`: no role, no status but the active one, no password without ending
the sessions.
-/

namespace SaasFoundation

open Relational Transaction Discipline Api

variable {environment : Environment} {drawn : Prop} {α β : Type}
  {post : α → DbContext → DbWorld → Prop}
  {failed : Failure → DbContext → DbWorld → Prop} {context : DbContext}
  {world : DbWorld}

theorem effect_of_auth {call : AuthCall}
    (core : context.request.core = .auth call)
    (effect : AuthEffect environment.runtime drawn (world.record context)
      world.commits call) :
    Effect environment.runtime drawn (world.record context) world.commits := by
  have request : (world.record context).request.core = .auth call := core
  unfold Effect
  rw [request]
  exact effect

/-- The changes the callers of `updateAtomically` ask for. -/
structure Modest (exclude : Option Nat) (mutation : Mutation UserChanges) :
    Prop where
  role : mutation.changes.role = none
  status : mutation.changes.status = none ∨
    mutation.changes.status = some StatusId.active
  password : mutation.changes.password.isSome →
    mutation.revokeSessions ≠ none
  excluded : ∀ other, mutation.revokeSessions = some other → other = exclude

namespace UserRepository

theorem liveUser_eq_some {db : Db} {id : Nat} {user : UserRow} :
    liveUser db id = some user ↔
      user ∈ db.users ∧ user.id = id ∧ user.deletedAt = none := by
  simp only [liveUser, Option.filter_eq_some_iff, Table.find_eq_some,
    UserRow.key_eq, Option.isNone_iff_eq_none, and_assoc]

theorem within_lockUser {id : Nat} {next : Bool → Tx α}
    (clean : context.writes = ∅)
    (rejected : ∀ later now failure, failed failure later now)
    (missing : ∀ now, Relies environment drawn context world now →
      Within environment drawn (next false) post failed context now)
    (step : ∀ now, Relies environment drawn context world now →
      Within environment drawn (next true) post failed
        (context.extend [(.user id, .update)] ∅) now) :
    Within environment drawn (lockUser id >>= next) post failed context
      world := by
  refine within_execute (fun now _ failure _ => rejected _ now failure) ?_
  intro now rely value writes stepped
  rw [view_clean clean] at stepped ⊢
  split at stepped
  · rename_i fits
    cases stepped
    cases found : (liveUser now.db id).isSome with
    | false => simpa [fits] using missing now rely
    | true => simpa [fits] using step now rely
  · cases stepped

theorem quiet_findById {id : Nat} :
    (findById id).Quiet fun _ => True :=
  quiet_query fun _ _ => trivial

theorem quiet_findByEmail {email : String} :
    (findByEmail email).Quiet fun _ => True := by
  unfold findByEmail
  split
  · trivial
  · exact quiet_query fun _ _ => trivial

theorem within_save {id : Nat} {stored : UserRow} {changes : UserChanges}
    {next : UserRow → Tx α} (clean : context.writes = ∅)
    (inv : Invariant environment drawn world)
    (locked : (Lock.user id, LockMode.update) ∈ context.locks)
    (member : stored ∈ world.db.users) (sameId : stored.id = id)
    (rejected : ∀ later now failure, failed failure later now)
    (step : ∀ now updated new locks users,
      Relies environment drawn context world now →
      Protected (context.extend locks ∅) now.db stored new →
      (users = [] ∧ new = stored ∧ changes.applyTo stored = stored ∨
        users = [.put new] ∧
          new = { changes.applyTo stored with updatedAt := context.now }) →
      Within environment drawn (next updated) post failed
        (context.extend locks { users }) now) :
    Within environment drawn
      (save environment.runtime stored
        ((UserMapper.toDomain stored).merge changes) >>= next) post failed
      context world := by
  subst sameId
  have row : ∀ {now : DbWorld}, Relies environment drawn context world now →
      now.db.users.find stored.id = some stored := by
    intro now rely
    have present : (world.db.users.find stored.id).isSome :=
      Table.find_isSome.mpr ⟨stored, member, rfl⟩
    have kept := kept_user stored.id .update rely locked present
    exact kept.row.trans (Table.find_key member)
  have same : ∀ {now : DbWorld} {old : UserRow},
      Relies environment drawn context world now → old ∈ now.db.users →
      old.id = stored.id → old = stored := by
    intro now old rely oldMember oldId
    exact Table.eq_of_key oldMember (Table.find_eq_some.mp (row rely)).1 oldId
  unfold save
  dsimp only
  split
  · rename_i unchanged
    rw [← extend_nothing context]
    refine step world stored stored [] [] (.refl inv)
      ⟨member, rfl, by simp [locked], ?_⟩ (.inl ⟨rfl, rfl, unchanged⟩)
    exact fun active inactive => absurd active inactive
  · simp only [bind_assoc]
    refine within_updateUser clean (fun _ => rfl) ?_ rejected ?_ ?_
    · intro silent now old rely oldMember oldId active
      obtain rfl := same rely oldMember oldId
      exact ⟨active.1, (of_not_not (of_decide_eq_false silent)).trans active.2⟩
    · intro now rely missing
      rw [row rely] at missing
      cases missing
    · intro now old locks rely oldId guarded
      obtain rfl := same rely guarded.stored oldId
      exact step now _ _ locks _ rely guarded (.inr ⟨rfl, rfl⟩)

/-- A modest mutation leaves the role and does not deactivate. -/
theorem applyTo_modest {stored : UserRow} {exclude : Option Nat}
    {mutation : Mutation UserChanges} (modest : Modest exclude mutation) :
    let new := mutation.changes.applyTo stored
    new.roleId = stored.roleId ∧ (stored.Active → new.Active) ∧
      new.deletedAt = stored.deletedAt := by
  refine ⟨?_, ?_, rfl⟩
  · simp [UserChanges.applyTo, UserMapper.toPersistence, User.merge,
      UserMapper.toDomain, modest.role]
  · intro active
    refine ⟨active.1, ?_⟩
    rcases modest.status with same | activates
    · simpa [UserChanges.applyTo, UserMapper.toPersistence, User.merge,
        UserMapper.toDomain, same] using active.2
    · simp [UserChanges.applyTo, UserMapper.toPersistence, User.merge,
        UserMapper.toDomain, activates]

theorem applyTo_password {stored : UserRow} {exclude : Option Nat}
    {mutation : Mutation UserChanges} (modest : Modest exclude mutation)
    (unrequested : mutation.revokeSessions = none) :
    (mutation.changes.applyTo stored).password = stored.password := by
  have none : mutation.changes.password = none := by
    rw [← Option.not_isSome_iff_eq_none]
    exact fun given => modest.password given unrequested
  simp [UserChanges.applyTo, UserMapper.toPersistence, User.merge,
    UserMapper.toDomain, none]

theorem verify_updateAtomically {id : Nat} {exclude : Option Nat}
    {call : AuthCall} {prepare : User → Tx (Mutation UserChanges)}
    {asks : User → Mutation UserChanges → Prop}
    (core : context.request.core = .auth call) (clean : context.writes = ∅)
    (quiet : ∀ current, (prepare current).Quiet fun mutation =>
      Modest exclude mutation ∧ asks current mutation)
    (effect : ∀ (commit : DbCommit) earlier old new mutation, old.id = id →
      asks (UserMapper.toDomain old) mutation →
      ProfileChanged commit old new exclude mutation.changes →
      (mutation.revokeSessions.isSome → Revokes commit old.id exclude) →
      AuthEffect environment.runtime drawn commit earlier call) :
    Wp environment drawn (updateAtomically environment.runtime id prepare)
      (fun _ _ _ => True) (fun _ _ _ => True) context world := by
  refine wp_mapError (wp_opened fun opened start same rely => ?_)
  have openedClean : opened.writes = ∅ := same.writes.trans clean
  have request : opened.request.core = .auth call :=
    (congrArg Request.core same.request).trans core
  refine within_lockUser openedClean (fun _ _ _ => trivial)
    (fun _ _ => trivial) ?_
  intro now1 rely1
  refine within_query fun now2 rely2 => ?_
  rw [view_clean (by simp [openedClean])]
  cases found : liveUser now2.db id with
  | none => trivial
  | some entity =>
      obtain ⟨member, sameId, live⟩ := liveUser_eq_some.mp found
      dsimp only
      refine within_quiet (quiet _) rely2.inv (fun _ _ _ => trivial) ?_
      intro mutation later now3 still rely3 ⟨modest, asked⟩
      have lockedLater : (Lock.user id, LockMode.update) ∈ later.locks := by
        rw [still.locks]
        simp
      have cleanLater : later.writes = ∅ := by
        rw [still.writes]
        simp [openedClean]
      have member3 : entity ∈ now3.db.users := by
        have present : (now2.db.users.find id).isSome :=
          Table.find_isSome.mpr ⟨entity, member, sameId⟩
        have kept := kept_user id .update rely3 (by simp) present
        refine (Table.find_eq_some.mp (kept.row.trans ?_)).1
        exact sameId ▸ Table.find_key member
      refine within_save cleanLater rely3.inv lockedLater member3 sameId
        (fun _ _ _ => trivial) ?_
      intro now4 updated new locks users rely4 guarded written
      refine within_revokeRequested rely4.inv (by simp [cleanLater]) ?_
      intro now5 sessionLocks sessions rely5 revocation
      refine within_relies rely5.inv ?_
      refine within_done fun now6 rely6 keeps => ⟨?_, trivial⟩
      have facts : new.roleId = entity.roleId ∧
          (entity.Active → new.Active) ∧
          new.deletedAt = entity.deletedAt ∧
          (mutation.revokeSessions = none →
            new.password = entity.password) := by
        rcases written with ⟨_, rfl, _⟩ | ⟨_, rfl⟩
        · exact ⟨rfl, fun active => active, rfl, fun _ => rfl⟩
        · obtain ⟨role, active, deleted⟩ := applyTo_modest modest
          exact ⟨role, active, deleted,
            fun unrequested => applyTo_password modest unrequested⟩
      obtain ⟨role, active, deleted, password⟩ := facts
      refine changed_guarantee rely6.inv rely5.inv.sound keeps (.refl _) rfl
        (((guarded.grow grows_writes).kept rely4.inv.sound rely5.keeps).grow
          ((Context.Grows.refl _).extend _ _))
        sameId (revocation.grow grows_writes rfl) (by simp [cleanLater])
        ?_ ?_ ?_ modest.excluded ?_ ?_ fun changed revokes =>
          effect_of_auth ?_ (effect _ _ entity new mutation sameId asked
            ⟨changed, role, active, deleted.trans live, ?_⟩ revokes)
      · rcases written with ⟨rfl, rfl, _⟩ | ⟨rfl, rfl⟩
        · exact .inl (by simp [cleanLater])
        · exact .inr (by simp [cleanLater])
      · rw [deleted]
        exact fun deleted => deleted
      · exact fun unrequested => ⟨role, password unrequested,
          fun alive => .inl (active alive)⟩
      · constructor <;> simp [cleanLater]
      · exact fun admin demoted =>
          absurd ⟨active admin.1, role.trans admin.2⟩ demoted
      · exact (congrArg Request.core still.request).trans request
      · rcases written with ⟨rfl, same⟩ | ⟨rfl, same⟩
        · exact .inl ⟨by simp [World.record, cleanLater], same⟩
        · exact .inr ⟨by simp [World.record, cleanLater], same⟩

/-- A new account, for requests that only say what it is to be. -/
theorem verify_create {data : User} {call : AuthCall}
    (core : context.request.core = .auth call) (clean : context.writes = ∅)
    (effect : ∀ (commit : DbCommit) earlier id,
      AccountInserted commit (UserMapper.toPersistence data
        (UserMapper.unsaved id commit.started)) →
      AuthEffect environment.runtime drawn commit earlier call) :
    Wp environment drawn (create environment.runtime data) (fun _ _ _ => True)
      (fun _ _ _ => True) context world := by
  refine wp_opened fun opened start same rely => ?_
  have openedClean : opened.writes = ∅ := same.writes.trans clean
  have request : opened.request.core = .auth call :=
    (congrArg Request.core same.request).trans core
  refine within_fresh fun now1 rely1 id _ _ => ?_
  refine within_insertUser (fun _ _ _ => trivial) ?_
  intro now2 keys rely2 absent
  have unused : now2.db.users.find id = none := by
    simpa [World.view, openedClean, UserMapper.toPersistence,
      UserMapper.unsaved] using absent
  refine within_hold (.value .userId id) (by simp [Context.Has]) rely2.inv ?_
  refine within_done fun now3 rely3 fresh => ⟨?_, trivial⟩
  refine inserted_guarantee rely3.inv (fresh unused)
    (by simp [UserMapper.toPersistence, UserMapper.unsaved])
    (by simp [openedClean, World.record]) (by simp [openedClean]) ?_
    fun inserted => effect_of_auth request (effect _ _ id inserted)
  constructor <;> simp [openedClean]

end UserRepository

namespace UsersService

theorem quiet_checkEmail {email : Option (Option String)}
    {userId : Option Nat} :
    (checkEmail email userId).Quiet fun _ => True := by
  unfold checkEmail
  split
  · trivial
  · refine UserRepository.quiet_findByEmail.bind fun found _ => ?_
    split
    · trivial
    · split <;> trivial

theorem quiet_checkPhoto {photo : Option (Option Nat)} :
    (checkPhoto photo).Quiet fun _ => True := by
  unfold checkPhoto
  split
  · trivial
  · rename_i id _
    have looked : (Tx.query fun _ (db : Db) => (db.files.find id).isSome).Quiet
        fun _ => True := quiet_query fun _ _ => trivial
    refine looked.bind fun found _ => ?_
    split <;> trivial

/-- The changes `prepareChanges` makes of a request. -/
def Prepares (runtime : Runtime) (dto : UpdateUserDto)
    (changes : UserChanges) : Prop :=
  ∃ password, Hashed runtime dto.password password ∧
    changes =
      { firstName := dto.firstName
        lastName := dto.lastName
        email := dto.email
        provider := dto.provider
        socialId := dto.socialId
        password
        photo := dto.photo
        role := dto.role
        status := dto.status }

theorem quiet_prepareChanges {runtime : Runtime} {dto : UpdateUserDto}
    {userId : Option Nat} :
    (prepareChanges runtime dto userId).Quiet (Prepares runtime dto) := by
  refine quiet_checkEmail.bind fun _ _ => ?_
  refine quiet_hashGiven.bind fun password hashed => ?_
  refine quiet_checkPhoto.bind fun _ _ => ?_
  split
  · trivial
  · split
    · trivial
    · exact ⟨password, hashed, rfl⟩

/-- `Modest` before the changes are prepared. -/
structure ModestRequest (exclude : Option Nat)
    (mutation : Mutation UpdateUserDto) : Prop where
  role : mutation.changes.role = none
  status : mutation.changes.status = none ∨
    mutation.changes.status = some StatusId.active
  password : (mutation.changes.password.any fun password => password ≠ "") =
    true → mutation.revokeSessions ≠ none
  excluded : ∀ other, mutation.revokeSessions = some other → other = exclude

theorem verify_updateAtomically {id : Nat} {exclude : Option Nat}
    {call : AuthCall} {prepare : User → Tx (Mutation UpdateUserDto)}
    {asks : User → Mutation UpdateUserDto → Prop}
    (core : context.request.core = .auth call) (clean : context.writes = ∅)
    (quiet : ∀ current, (prepare current).Quiet fun mutation =>
      ModestRequest exclude mutation ∧ asks current mutation)
    (effect : ∀ (commit : DbCommit) earlier old new mutation changes,
      old.id = id → asks (UserMapper.toDomain old) mutation →
      Prepares environment.runtime mutation.changes changes →
      ProfileChanged commit old new exclude changes →
      (mutation.revokeSessions.isSome → Revokes commit old.id exclude) →
      AuthEffect environment.runtime drawn commit earlier call) :
    Wp environment drawn (updateAtomically environment.runtime id prepare)
      (fun _ _ _ => True) (fun _ _ _ => True) context world := by
  let asked : User → Mutation UserChanges → Prop := fun current prepared =>
    ∃ mutation, asks current mutation ∧
      Prepares environment.runtime mutation.changes prepared.changes ∧
      prepared.revokeSessions = mutation.revokeSessions
  have quietly : ∀ current,
      (do
        let mutation ← prepare current
        let changes ← prepareChanges environment.runtime mutation.changes
          (some id)
        pure { changes, revokeSessions := mutation.revokeSessions } :
          Tx (Mutation UserChanges)).Quiet fun mutation =>
        Modest exclude mutation ∧ asked current mutation := by
    intro current
    refine (quiet current).bind fun mutation ⟨modest, asks⟩ => ?_
    refine quiet_prepareChanges.bind fun changes prepared => ?_
    refine Program.Quiet.done ⟨?_, mutation, asks, prepared, rfl⟩
    obtain ⟨password, hashed, rfl⟩ := prepared
    exact
      { role := modest.role
        status := modest.status
        password := fun given => modest.password (hashed.given given)
        excluded := modest.excluded }
  refine wp_mapError
    (UserRepository.verify_updateAtomically core clean quietly ?_)
  rintro commit earlier old new prepared sameId
    ⟨mutation, asks, prepares, sameSessions⟩ changed revokes
  exact effect commit earlier old new mutation prepared.changes sameId asks
    prepares changed (sameSessions ▸ revokes)

end UsersService

end SaasFoundation
