import SaasFoundation.Database.Alone
import SaasFoundation.Users.Verification

/-!
# Changes of an account by a request that runs alone

One rule for each statement of `updateAtomically`: what it comes to, given what
the request sees.
-/

namespace SaasFoundation

open Relational Transaction Tx

variable {α : Type} {runtime : Runtime} {clock : Nat} {id : Nat}
  {failed : Failure → Db → Prop} {stand : Stand Db Writes}

/-- The trigger refuses to take the last active owner from a workspace. -/
def ownsAlone (db : Db) (userId : Nat) : Prop :=
  ∃ owned ∈ ownedWorkspaces db userId, otherActiveOwner db owned userId = false

instance (db : Db) (userId : Nat) : Decidable (ownsAlone db userId) :=
  inferInstanceAs (Decidable (∃ _ ∈ _, _))

/-- Why an update of a row is refused. -/
def updateRefusal (runtime : Runtime) (db : Db) (lifecycle : Bool)
    (old new : UserRow) : Option Failure :=
  if lifecycle = true ∧ ¬new.Active ∧ ownsAlone db old.id then
    some (.query .checkViolation (some .workspaceActiveOwner))
  else userViolation runtime db new

theorem serially_protectOwned {post : Unit → Stand Db Writes → Prop}
    {owned : List Nat} :
    (protectOwned id owned).serially clock post failed stand ↔
      if ∃ workspace ∈ owned, otherActiveOwner stand.view workspace id = false
      then
        failed (.query .checkViolation (some .workspaceActiveOwner)) stand.db
      else post () stand := by
  induction owned with
  | nil => simp [protectOwned]
  | cons workspace rest ih =>
      simp only [protectOwned, WorkspacesService.lockWorkspace,
        Program.serially_bind, serially_select, serially_query]
      cases other : otherActiveOwner stand.view workspace id with
      | false => simp [other]
      | true => simp [other, ih]

theorem serially_protectWorkspaceOwner {post : Unit → Stand Db Writes → Prop}
    {old new : UserRow} :
    (protectWorkspaceOwner old (some new)).serially clock post failed stand ↔
      if ¬new.Active ∧ ownsAlone stand.view old.id then
        failed (.query .checkViolation (some .workspaceActiveOwner)) stand.db
      else post () stand := by
  unfold protectWorkspaceOwner
  by_cases active : new.Active
  · simp [active]
  · simp [active, serially_protectOwned, ownsAlone]

theorem serially_storeUser {post : Unit → Stand Db Writes → Prop}
    {old : Option UserRow} {new : UserRow} :
    (storeUser runtime old new).serially clock post failed stand ↔
      match userViolation runtime stand.view new with
      | some failure => failed failure stand.db
      | none => post () (stand.write { users := [.put new] }) := by
  rw [storeUser, serially_execute]
  cases userViolation runtime stand.view new with
  | some failure => rfl
  | none => rfl

theorem serially_updateUser {post : Option UserRow → Stand Db Writes → Prop}
    {lifecycle : Bool} {change : Nat → UserRow → UserRow} {old : UserRow}
    (stored : stand.view.users.find id = some old) :
    (updateUser runtime id lifecycle change).serially clock post failed stand ↔
      match updateRefusal runtime stand.view lifecycle old
          (change stand.now old) with
      | some failure => failed failure stand.db
      | none => post (some (change stand.now old))
          (stand.write { users := [.put (change stand.now old)] }) := by
  unfold updateUser updateRefusal
  simp only [lockForUpdate, Program.serially_bind, Program.serially_run, stored,
    Option.map_some]
  rw [Stand.write_nothing]
  cases lifecycle with
  | false => simp [serially_storeUser]
  | true =>
      simp only [if_true, Program.serially_bind,
        serially_protectWorkspaceOwner, serially_storeUser,
        Program.serially_pure, true_and]
      split
      · rfl
      · rfl

theorem AdminMutationService.serially_audit {actor : Nat} {event uri : String}
    {post : Unit → Stand Db Writes → Prop}
    (rejected : ∀ failure db, failed failure db)
    (step : ∀ activities, post () (stand.drawn.write { activities })) :
    (audit actor event uri : Tx Unit).serially clock post failed stand := by
  rw [audit_eq, Program.serially_bind, Program.serially_draw, serially_execute]
  split
  · rename_i outcome ran
    split at ran
    · cases ran
    · split at ran
      · cases ran
      · cases ran
        exact step _
  · exact rejected _ _

namespace UserRepository

/-- The row after saving changes at a time. -/
def savedRow (changes : UserChanges) (now : Nat) (row : UserRow) : UserRow :=
  if changes.applyTo row = row then row
  else { changes.applyTo row with updatedAt := now }

/-- Nothing is sent when no column differs. -/
def savedUsers (changes : UserChanges) (now : Nat) (row : UserRow) :
    List (Change UserRow Nat) :=
  if changes.applyTo row = row then []
  else [.put { changes.applyTo row with updatedAt := now }]

def saveRefusal (runtime : Runtime) (db : Db) (changes : UserChanges)
    (now : Nat) (row : UserRow) : Option Failure :=
  if changes.applyTo row = row then none
  else
    updateRefusal runtime db
      (decide ((changes.applyTo row).statusId ≠ row.statusId)) row
      { changes.applyTo row with updatedAt := now }

theorem serially_save {post : UserRow → Stand Db Writes → Prop}
    {changes : UserChanges} {row : UserRow}
    (stored : stand.view.users.find row.id = some row) :
    (save runtime row ((UserMapper.toDomain row).merge changes)).serially clock
        post failed stand ↔
      match saveRefusal runtime stand.view changes stand.now row with
      | some failure => failed failure stand.db
      | none => post (savedRow changes stand.now row)
          (stand.write { users := savedUsers changes stand.now row }) := by
  unfold save saveRefusal savedRow savedUsers
  by_cases same : changes.applyTo row = row
  · have unchanged : UserMapper.toPersistence
        ((UserMapper.toDomain row).merge changes) row = row := same
    have nothing : stand.write { users := [] } = stand := stand.write_nothing
    simp [same, unchanged, nothing]
  · have changed : ¬UserMapper.toPersistence
        ((UserMapper.toDomain row).merge changes) row = row := same
    simp only [same, changed, if_false, Program.serially_bind]
    rw [serially_updateUser stored]
    rfl

/-- The database after an account has been changed, with the sessions that
ends. -/
def mutated (db : Db) (now : Nat) (row : UserRow)
    (mutation : Mutation UserChanges) : Db :=
  { db with
    users := Table.applyAll (savedUsers mutation.changes now row) db.users
    sessions :=
      match mutation.revokeSessions with
      | none => db.sessions
      | some exclude =>
          Table.applyAll ((revocableSessions db row.id exclude).map fun row =>
            .put { row with deletedAt := some now }) db.sessions }

theorem serially_revokeRequested {post : Unit → Stand Db Writes → Prop}
    {row : UserRow} {mutation : Mutation UserChanges}
    (step : ∀ later : Stand Db Writes,
      later.view = mutated stand.view stand.now row mutation → post () later) :
    (revokeRequested row.id mutation.revokeSessions).serially clock post failed
      (stand.write
        { users := savedUsers mutation.changes stand.now row }) := by
  cases requested : mutation.revokeSessions with
  | none =>
      refine step _ ?_
      rw [Stand.view_write, mutated, requested]
      rfl
  | some exclude =>
      rw [revokeRequested, revokeUserSessions, serially_execute]
      refine step _ ?_
      rw [Stand.view_write, Stand.view_write, mutated, requested]
      rfl

/-- To show a fact about `updateAtomically`, show it of every way it may end. -/
theorem serially_updateAtomically {prepare : User → Tx (Mutation UserChanges)}
    {post : User → Stand Db Writes → Prop} {allowed : Failure → Prop}
    {asks : User → Mutation UserChanges → Prop}
    (quiet : ∀ current, (prepare current).Quiet (asks current))
    (fails : ∀ current, (prepare current).FailsWith allowed)
    (unfit : fitsInteger id = false →
      failed (.query .numericValueOutOfRange none) stand.db)
    (missing : failed (.notFound "User not found") stand.db)
    (rejected : ∀ failure, allowed failure →
      failed (rethrowOwnerConflict failure) stand.db)
    (refused : ∀ row mutation failure, liveUser stand.view id = some row →
      asks (UserMapper.toDomain row) mutation →
      saveRefusal runtime stand.view mutation.changes clock row =
        some failure → failed (rethrowOwnerConflict failure) stand.db)
    (step : ∀ row mutation later, liveUser stand.view id = some row →
      asks (UserMapper.toDomain row) mutation →
      saveRefusal runtime stand.view mutation.changes clock row = none →
      later.db = mutated stand.view clock row mutation →
      later.view = later.db →
      post (UserMapper.toDomain (savedRow mutation.changes clock row)) later) :
    (updateAtomically runtime id prepare).serially clock post failed stand := by
  unfold updateAtomically
  simp only [Program.serially_mapError, Program.serially_transaction,
    Program.serially_bind, lockUser, serially_execute, Stand.view_started]
  by_cases fits : fitsInteger id = true
  · simp only [fits, if_true]
    cases found : liveUser stand.view id with
    | none => exact missing
    | some row =>
        obtain ⟨stored, rfl, _⟩ := liveUser_eq_some.mp found
        rw [Option.isSome_some, if_neg (by simp), Stand.write_nothing]
        simp only [Program.serially_bind, serially_query, Stand.view_started,
          found]
        refine Program.serially_quiet (quiet _) (fails _) rejected ?_
        intro mutation later asked still
        have seen : later.view = stand.view := still.view
        have now : later.now = clock := still.now
        have kept : later.db = stand.db := still.db
        have present : later.view.users.find row.id = some row :=
          seen ▸ Table.find_key stored
        rw [Program.serially_bind, serially_save present, seen, now, kept]
        cases refusal : saveRefusal runtime stand.view mutation.changes clock
            row with
        | some failure => exact refused row mutation failure found asked refusal
        | none =>
            rw [Program.serially_bind, ← now]
            refine serially_revokeRequested fun final same => ?_
            rw [seen, now] at same
            rw [now]
            exact step row mutation final.commit found asked refusal same
              final.view_commit
  · simp only [fits]
    exact unfit (by simpa using fits)

/-- Why a new row is refused. -/
def insertRefusal (runtime : Runtime) (db : Db) (row : UserRow) :
    Option Failure :=
  if (db.users.find row.id).isSome then
    some (.query .uniqueViolation (some .primaryKey))
  else userViolation runtime db row

theorem serially_insertUser {post : UserRow → Stand Db Writes → Prop}
    {row : Nat → UserRow} :
    (insertUser runtime row).serially clock post failed stand ↔
      match insertRefusal runtime stand.view (row stand.now) with
      | some failure => failed failure stand.db
      | none => post (row stand.now)
          (stand.write { users := [.put (row stand.now)] }) := by
  rw [insertUser, serially_execute, insertRefusal]
  by_cases taken : (stand.view.users.find (row stand.now).id).isSome = true
  · simp only [taken, if_true]
  · simp only [taken]
    cases userViolation runtime stand.view (row stand.now) with
    | some failure => rfl
    | none => rfl

theorem serially_create {data : User} {post : User → Stand Db Writes → Prop}
    (refused : ∀ failure, failed failure stand.db)
    (step : ∀ id later,
      let row := UserMapper.toPersistence data (UserMapper.unsaved id clock)
      insertRefusal runtime stand.view row = none →
      later.db = { stand.view with users := stand.view.users.put row } →
      post (UserMapper.toDomain row) later) :
    (create runtime data).serially clock post failed stand := by
  simp only [create, Program.serially_transaction, Program.serially_bind,
    Program.serially_draw, serially_insertUser, Stand.view_drawn,
    Stand.view_started, Stand.db_drawn, Stand.db_started, Stand.now_drawn,
    Stand.now_started]
  split
  · exact refused _
  · rename_i allowed
    refine step _ _ allowed ?_
    rw [Stand.db_commit, Stand.view_write, Stand.view_drawn,
      Stand.view_started]
    rfl

end UserRepository

namespace UsersService

/-- Rejected by a validation of the service. -/
def Unprocessable (failure : Failure) : Prop := failure.status = 422

theorem failsWith_findByEmail {email : String} {allowed : Failure → Prop} :
    (UserRepository.findByEmail email).FailsWith allowed := by
  unfold UserRepository.findByEmail
  split
  · trivial
  · exact failsWith_query

theorem failsWith_checkEmail {email : Option (Option String)}
    {userId : Option Nat} :
    (checkEmail email userId).FailsWith Unprocessable := by
  unfold checkEmail
  split
  · trivial
  · refine failsWith_findByEmail.bind fun found => ?_
    split
    · trivial
    · split
      · rfl
      · trivial

theorem failsWith_hashGiven {password : Option String} {tooLong : Failure}
    (allowed : Unprocessable tooLong) :
    (hashGiven runtime password tooLong).FailsWith Unprocessable := by
  unfold hashGiven
  split
  · trivial
  · unfold hashPassword
    split
    · exact allowed
    · exact fun _ => trivial

theorem failsWith_checkPhoto {photo : Option (Option Nat)} :
    (checkPhoto photo).FailsWith Unprocessable := by
  unfold checkPhoto
  split
  · trivial
  · refine Program.FailsWith.bind failsWith_query fun found => ?_
    split
    · rfl
    · trivial

theorem failsWith_prepareChanges {dto : UpdateUserDto} {userId : Option Nat} :
    (prepareChanges runtime dto userId).FailsWith Unprocessable := by
  have tooLong : Unprocessable (invalidField "password" "passwordTooLong") :=
    rfl
  refine failsWith_checkEmail.bind fun _ => ?_
  refine (failsWith_hashGiven tooLong).bind fun _ => ?_
  refine failsWith_checkPhoto.bind fun _ => ?_
  split
  · rfl
  · split
    · rfl
    · trivial

theorem rethrow_unprocessable {failure : Failure}
    (unprocessable : Unprocessable failure) :
    rethrow (rethrowOwnerConflict failure) = failure := by
  cases failure with
  | http => rfl
  | query | entityNotFound | typeError | error => cases unprocessable

theorem serially_updateAtomically {prepare : User → Tx (Mutation UpdateUserDto)}
    {post : User → Stand Db Writes → Prop}
    {asks : User → Mutation UpdateUserDto → Prop}
    (quiet : ∀ current, (prepare current).Quiet (asks current))
    (fails : ∀ current, (prepare current).FailsWith Unprocessable)
    (unfit : fitsInteger id = false →
      failed (.query .numericValueOutOfRange none) stand.db)
    (missing : failed (.notFound "User not found") stand.db)
    (rejected : ∀ failure, Unprocessable failure → failed failure stand.db)
    (refused : ∀ row mutation changes failure,
      UserRepository.liveUser stand.view id = some row →
      asks (UserMapper.toDomain row) mutation →
      Prepares runtime mutation.changes changes →
      UserRepository.saveRefusal runtime stand.view changes clock row =
        some failure → failed (rethrow (rethrowOwnerConflict failure)) stand.db)
    (step : ∀ row mutation changes later,
      UserRepository.liveUser stand.view id = some row →
      asks (UserMapper.toDomain row) mutation →
      Prepares runtime mutation.changes changes →
      UserRepository.saveRefusal runtime stand.view changes clock row = none →
      later.db = UserRepository.mutated stand.view clock row
        { changes, revokeSessions := mutation.revokeSessions } →
      later.view = later.db →
      post (UserMapper.toDomain (UserRepository.savedRow changes clock row))
        later) :
    (updateAtomically runtime id prepare).serially clock post failed stand := by
  unfold updateAtomically
  rw [Program.serially_mapError]
  have quietly (current : User) :
      (do
        let mutation ← prepare current
        let changes ← prepareChanges runtime mutation.changes (some id)
        pure ({ changes, revokeSessions := mutation.revokeSessions } :
          Mutation UserChanges) : Tx _).Quiet
        fun saved => ∃ mutation, asks current mutation ∧
          Prepares runtime mutation.changes saved.changes ∧
            saved.revokeSessions = mutation.revokeSessions := by
    refine (quiet current).bind fun mutation asked => ?_
    refine quiet_prepareChanges.bind fun changes prepared => ?_
    exact Program.Quiet.done ⟨mutation, asked, prepared, rfl⟩
  have failing (current : User) :
      (do
        let mutation ← prepare current
        let changes ← prepareChanges runtime mutation.changes (some id)
        pure ({ changes, revokeSessions := mutation.revokeSessions } :
          Mutation UserChanges) : Tx _).FailsWith Unprocessable := by
    refine (fails current).bind fun mutation => ?_
    exact failsWith_prepareChanges.bind fun _ => trivial
  refine UserRepository.serially_updateAtomically quietly failing unfit missing
    (fun failure allowed => ?_) ?_ ?_
  · rw [rethrow_unprocessable allowed]
    exact rejected failure allowed
  · rintro row saved failure found ⟨mutation, asked, prepared, _⟩ refusal
    exact refused row mutation saved.changes failure found asked prepared refusal
  · rintro row saved later found ⟨mutation, asked, prepared, revokes⟩ allowed
      same seen
    refine step row mutation saved.changes later found asked prepared allowed
      ?_ seen
    rw [same, ← revokes]

end UsersService

end SaasFoundation
