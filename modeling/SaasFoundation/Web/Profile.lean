import SaasFoundation.Auth.Rejections
import SaasFoundation.Web.Access

/-!
# The permissions a client keeps after a profile update

`GET /auth/me` answers with an entity that was loaded, `PATCH /auth/me` with the
one that was saved, whose role `user.mapper.ts` has rebuilt from its identifier
alone.  The client replaces its session from either.
-/

namespace SaasFoundation

open Relational Transaction Web

/-- `roles/domain/role.ts`; `none` is an absent property. -/
structure Role where
  id : Nat
  name : Option String := none
  resources : Option String := none
  deriving DecidableEq, Repr

/-- A role with its columns. -/
def Role.ofRow (row : RoleRow) : Role :=
  { id := row.id, name := some row.name, resources := some row.resources }

namespace UserMapper

/-- `role = new RoleEntity(); role.id = Number(domainEntity.role.id)`. -/
def roleToPersistence (role : Option Role) : Option Role :=
  role.map fun role => { id := role.id }

end UserMapper

namespace UserRepository

/-- The eager join of a loaded account, which `toDomain` hands out. -/
def loadedRole (db : Db) (row : UserRow) : Option Role :=
  (row.roleId.bind db.roles.find).map .ofRow

/-- The role of the user `updateAtomically` returns: `save` does not load the
relation it was given. -/
def savedRole (db : Db) (row : UserRow) (changes : UserChanges) :
    Option Role :=
  let requested : Option Role := changes.role.map fun id => { id }
  UserMapper.roleToPersistence (requested.or (loadedRole db row))

end UserRepository

namespace Web

/-- The user object of a response; `ApiUser` knows no absent address. -/
def ApiUser.ofUser (user : User) (role : Option Role) : ApiUser where
  id := user.id
  email := user.email.getD ""
  firstName := user.firstName
  lastName := user.lastName
  role := role.map fun role => { id := role.id, resources := role.resources }

/-- The client ends up with the role and the permissions of the profile. -/
def SamePermissions (response profile : ApiUser) : Prop :=
  ∀ (auth : AuthService) (value : BrowserSession),
    let patched := auth.updateCurrentUser response
    let fresh := auth.applySession { value with user := some profile }
    patched.session.roleId = fresh.session.roleId ∧
      patched.session.resources = fresh.session.resources

end Web

/-- The permissions of a role, as the client reads them. -/
def Role.permissions (role : Role) : List String :=
  ((role.resources.map Text.splitCommas).getD []).filter (· ≠ "")

/-- The permissions of an account that may have no role. -/
def Role.permissionsOf (role : Option Role) : List String :=
  (role.map Role.permissions).getD []

section Client

variable {user : User} {role response profile : Option Role}

/-- What a session shows of a role. -/
def ShowsRole (role : Option Role) (session : Session) : Prop :=
  session.roleId = role.map (fun role => (role.id : Int)) ∧
    session.resources = some (Role.permissionsOf role)

theorem showsRole_applySession (auth : Web.AuthService)
    (value : BrowserSession) :
    ShowsRole role (auth.applySession
      { value with user := some (.ofUser user role) }).session := by
  cases role with
  | none => exact ⟨rfl, rfl⟩
  | some role => exact ⟨rfl, rfl⟩

theorem showsRole_updateCurrentUser (auth : Web.AuthService) :
    ShowsRole role (auth.updateCurrentUser (.ofUser user role)).session :=
  showsRole_applySession auth ⟨auth.session.token.getD "", 0, none⟩

theorem ShowsRole.same_iff {first second : Session}
    (left : ShowsRole response first) (right : ShowsRole profile second)
    (same : response.map Role.id = profile.map Role.id) :
    first.roleId = second.roleId ∧ first.resources = second.resources ↔
      Role.permissionsOf response = Role.permissionsOf profile := by
  have ids : response.map (fun role => (role.id : Int)) =
      profile.map fun role => (role.id : Int) := by
    have lifted := congrArg (Option.map Int.ofNat) same
    rwa [Option.map_map, Option.map_map] at lifted
  rw [left.1, left.2, right.1, right.2, Option.some.injEq]
  exact and_iff_right ids

theorem samePermissions_iff
    (same : response.map Role.id = profile.map Role.id) :
    SamePermissions (.ofUser user response) (.ofUser user profile) ↔
      Role.permissionsOf response = Role.permissionsOf profile := by
  have compare (auth : Web.AuthService) (value : BrowserSession) :
      (auth.updateCurrentUser (.ofUser user response)).session.roleId =
          (auth.applySession { value with
            user := some (.ofUser user profile) }).session.roleId ∧
        (auth.updateCurrentUser (.ofUser user response)).session.resources =
          (auth.applySession { value with
            user := some (.ofUser user profile) }).session.resources ↔
      Role.permissionsOf response = Role.permissionsOf profile :=
    (showsRole_updateCurrentUser auth).same_iff
      (showsRole_applySession auth value) same
  constructor
  · exact fun kept => (compare {} ⟨"", 0, none⟩).mp (kept {} ⟨"", 0, none⟩)
  · exact fun kept auth value => (compare auth value).mpr kept

end Client

namespace UserRepository

variable {db : Db} {row : UserRow} {changes : UserChanges} {now : Nat}

theorem savedRole_of_unchanged (unchanged : changes.role = none) :
    savedRole db row changes =
      UserMapper.roleToPersistence (loadedRole db row) := by
  rw [savedRole, unchanged]
  rfl

theorem roleId_savedRow (unchanged : changes.role = none) :
    (savedRow changes now row).roleId = row.roleId := by
  have kept : (changes.applyTo row).roleId = row.roleId := by
    rw [UserChanges.applyTo_eq, unchanged]
    rfl
  unfold savedRow
  split
  · rfl
  · exact kept

theorem liveUser_mutated {id : Nat} {revokes : Option (Option Nat)}
    (found : liveUser db id = some row) :
    liveUser (mutated db now row ⟨changes, revokes⟩) id =
      some (savedRow changes now row) := by
  obtain ⟨member, identified, live⟩ := liveUser_eq_some.mp found
  have columns : (changes.applyTo row).id = row.id ∧
      (changes.applyTo row).deletedAt = row.deletedAt := by
    rw [UserChanges.applyTo_eq]
    exact ⟨rfl, rfl⟩
  have kept : (savedRow changes now row).id = id ∧
      (savedRow changes now row).deletedAt = none := by
    unfold savedRow
    split
    · exact ⟨identified, live⟩
    · exact ⟨columns.1.trans identified, columns.2.trans live⟩
  have stored : savedRow changes now row ∈
      (mutated db now row ⟨changes, revokes⟩).users := by
    change _ ∈ Table.applyAll (savedUsers changes now row) db.users
    unfold savedUsers savedRow
    split
    · exact member
    · exact Table.mem_put.mpr (.inl rfl)
  exact liveUser_eq_some.mpr ⟨stored, kept⟩

end UserRepository

namespace AuthService

/-- The answer to `GET /auth/me`. -/
def meResponse (db : Db) (id : Nat) : Option ApiUser :=
  (UserRepository.liveUser db id).map fun row =>
    .ofUser (UserMapper.toDomain row) (UserRepository.loadedRole db row)

/-- The answer to `PATCH /auth/me`. -/
def patchResponse (db : Db) (row : UserRow) (changes : UserChanges)
    (updated : User) : ApiUser :=
  .ofUser updated (UserRepository.savedRole db row changes)

variable {runtime : Runtime} {moment : Moment} {payload : JwtPayload}
  {dto : AuthUpdateDto}

theorem committed_of_update {user : User} {after : Db}
    (updated : moment.outcome (update runtime payload dto) =
      (.ok user, after)) :
    AccountRequest.Committed runtime moment user after
      (.update payload dto) := by
  let request := AccountRequest.update payload dto
  have follows : (request.account runtime ⟨true, true⟩).serially moment.clock
      _ _ moment.stand := request.serially_account
  have change : ∀ returned,
      (moment.outcome (update runtime payload dto)).1 = .ok returned →
        request.Committed runtime moment returned
          (moment.outcome (update runtime payload dto)).2 := by
    refine (Moment.outcome_iff fun outcome : Except Failure User × Db =>
      ∀ returned, outcome.1 = .ok returned →
        request.Committed runtime moment returned outcome.2).mpr ?_
    unfold update
    rw [Program.serially_bind]
    refine Program.serially_mono follows ?_ fun failure db _ _ same =>
      nomatch same
    intro stored later committed
    have answer : ∀ returned, Except.ok (ε := Failure) stored = .ok returned →
        request.Committed runtime moment returned later.db := by
      intro returned same
      cases same
      exact committed
    cases requestedEmail dto stored with
    | none => exact answer
    | some email =>
        unfold mailNewEmail mailLink
        dsimp only
        split
        · exact answer
        · exact fun _ same => nomatch same
  rw [updated] at change
  exact change user rfl

/-- A committed update gives the client the role of the profile, and its
permissions exactly when the role has none. -/
theorem permissionsKept_iff (runtime : Runtime) (moment : Moment)
    (payload : JwtPayload) (dto : AuthUpdateDto) (user : User) (after : Db)
    (updated : moment.outcome (update runtime payload dto) =
      (.ok user, after)) :
    ∃ row password profile,
      UserRepository.liveUser moment.db payload.id = some row ∧
        meResponse after payload.id = some profile ∧
        (SamePermissions
            (patchResponse moment.db row (dto.changes password) user) profile ↔
          ∀ role ∈ UserRepository.loadedRole moment.db row,
            role.permissions = []) := by
  obtain ⟨row, password, found, -, rfl, rfl⟩ := committed_of_update updated
  have unchanged : (dto.changes password).role = none := rfl
  have live : UserRepository.liveUser
      (UserRepository.mutated moment.db moment.clock row
        ⟨dto.changes password, (given dto.password).map fun _ =>
          some payload.sessionId⟩) payload.id =
      some (UserRepository.savedRow (dto.changes password) moment.clock row) :=
    UserRepository.liveUser_mutated found
  let profile : ApiUser := .ofUser
    (UserMapper.toDomain
      (UserRepository.savedRow (dto.changes password) moment.clock row))
    (UserRepository.loadedRole
      (UserRepository.mutated moment.db moment.clock row
        ⟨dto.changes password, (given dto.password).map fun _ =>
          some payload.sessionId⟩)
      (UserRepository.savedRow (dto.changes password) moment.clock row))
  refine ⟨row, password, profile, found, by rw [meResponse, live]; rfl, ?_⟩
  dsimp only [profile]
  have role : UserRepository.loadedRole
      (UserRepository.mutated moment.db moment.clock row
        ⟨dto.changes password, (given dto.password).map fun _ =>
          some payload.sessionId⟩)
      (UserRepository.savedRow (dto.changes password) moment.clock row) =
      UserRepository.loadedRole moment.db row := by
    unfold UserRepository.loadedRole
    rw [UserRepository.roleId_savedRow unchanged]
    rfl
  rw [role, patchResponse, UserRepository.savedRole_of_unchanged unchanged]
  rw [samePermissions_iff]
  · cases UserRepository.loadedRole moment.db row with
    | none => simp [UserMapper.roleToPersistence]
    | some role =>
        change [] = role.permissions ↔
          ∀ loaded ∈ some role, loaded.permissions = []
        constructor
        · intro same loaded assigned
          cases assigned
          exact same.symm
        · exact fun lacking => (lacking role rfl).symm
  · cases UserRepository.loadedRole moment.db row with
    | none => rfl
    | some role => rfl

/-- The account with a role of its own renames itself. -/
def renameDto : AuthUpdateDto := { firstName := some (some "f") }

def delegate : Moment := { db := delegateDb, clock := 5, draws := id }

def renamed : Except Failure User × Db :=
  delegate.outcome (update Sample.runtime delegateIdentity.payload renameDto)

def delegateRow : UserRow := Sample.user 5 3 "e"

theorem renamed_eq :
    renamed = (.ok (UserMapper.toDomain
        (UserRepository.savedRow (renameDto.changes none) 5 delegateRow)),
      UserRepository.mutated delegateDb 5 delegateRow
        ⟨renameDto.changes none, none⟩) := by
  rfl

theorem permissionsKept_iff_renameDto :
    ∃ row password profile,
      UserRepository.liveUser delegateDb 5 = some row ∧
        meResponse renamed.2 5 = some profile ∧
        (SamePermissions (patchResponse delegateDb row
            (renameDto.changes password)
            (UserMapper.toDomain (UserRepository.savedRow
              (renameDto.changes none) 5 delegateRow))) profile ↔
          ∀ role ∈ UserRepository.loadedRole delegateDb row,
            role.permissions = []) :=
  permissionsKept_iff Sample.runtime delegate delegateIdentity.payload renameDto
    _ renamed.2 renamed_eq

/-- The client loses `role:write` until the next `GET /auth/me`. -/
theorem rename_hides_permissions :
    delegate.outcome (update Sample.runtime delegateIdentity.payload renameDto) =
        (.ok (UserMapper.toDomain
          (UserRepository.savedRow (renameDto.changes none) 5 delegateRow)),
        renamed.2) ∧
      UserRepository.liveUser delegateDb 5 = some delegateRow ∧
      ∃ profile, meResponse renamed.2 5 = some profile ∧
        profile.role = some ⟨3, some "role:write"⟩ ∧
        ¬ SamePermissions (patchResponse delegateDb delegateRow
          (renameDto.changes none)
          (UserMapper.toDomain (UserRepository.savedRow
            (renameDto.changes none) 5 delegateRow))) profile := by
  refine ⟨renamed_eq, by decide, _, rfl, rfl, ?_⟩
  intro kept
  have lost := (kept {} ⟨"", 0, none⟩).2
  revert lost
  decide

end AuthService

end SaasFoundation
