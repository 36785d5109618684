import SaasFoundation.Auth.Service
import SaasFoundation.Database.SeedService
import SaasFoundation.Transaction.UniqueIndex

/-!
# The unique columns of `"user"`

Every statement that stores an account holds the lock of the row, or has drawn
its identifier, and claims new keys in the indexes.  The addresses stored are
`Storable` when those handed to the statements are.
-/

namespace SaasFoundation

open Relational Transaction

/-- An address may be stored, if there is one. -/
def Admissible (Storable : String → Prop) (email : Option String) : Prop :=
  ∀ address, email = some address → Storable address

section

variable (runtime : Runtime) (Storable : String → Prop)

/-- The columns of `"user"` under a unique index.  Deleted accounts are in the
indexes too. -/
inductive UniqueColumn where
  | email
  | photo
  | username
  deriving DecidableEq, Repr

/-- The key an account claims in the index of a column. -/
def UniqueColumn.entry : UniqueColumn → UserRow → Option Lock
  | .email, row => row.email.map .userEmail
  | .photo, row => row.photoId.map .userPhoto
  | .username, row => row.username.map fun name =>
      .userName (runtime.lower name)

/-- The unique index over a column. -/
def userIndex (column : UniqueColumn) :
    Index Db Writes Lock Draw UserRow Lock where
  table := Db.users
  changes := Writes.users
  entry := column.entry runtime
  rowLock := .user
  entryLock := id
  sequence := .userId
  Valid db := (∀ row ∈ db.users, Admissible Storable row.email) ∧
    ∀ row ∈ db.invitations, Storable row.email
  Allowed writes :=
    (∀ row, .put row ∈ writes.users → Admissible Storable row.email) ∧
    ∀ row, .put row ∈ writes.invitations → Storable row.email
  table_apply _ _ := rfl
  changes_empty := rfl
  changes_append _ _ := rfl
  valid_apply writes db valid allowed := by
    refine ⟨fun row member => ?_, fun row member => ?_⟩
    · rcases Table.mem_of_mem_applyAll member with put | ⟨old, _⟩
      · exact allowed.1 row put
      · exact valid.1 row old
    · rcases Table.mem_of_mem_applyAll member with put | ⟨old, _⟩
      · exact allowed.2 row put
      · exact valid.2 row old
  allowed_empty := by simp
  allowed_append first second left right := by
    refine ⟨fun row put => ?_, fun row put => ?_⟩
    · exact (List.mem_append.mp put).elim (left.1 row) (right.1 row)
    · exact (List.mem_append.mp put).elim (left.2 row) (right.2 row)

end

variable {runtime : Runtime} {Storable : String → Prop}
  {column : UniqueColumn} {α : Type} {mayDraw : Draw → Nat → Bool} {ρ τ : Type} {result : α → Prop}

namespace Emails

/-- The program stores no account; its values satisfy `result`. -/
abbrev Spares (runtime : Runtime) (Storable : String → Prop)
    (column : UniqueColumn) (program : Tx α) (result : α → Prop) : Prop :=
  program.Writes (userIndex runtime Storable column).Valid
    (userIndex runtime Storable column).Spares result

/-- The program stores accounts as the index asks. -/
abbrev Respects (runtime : Runtime) (Storable : String → Prop)
    (column : UniqueColumn) (mayDraw : Draw → Nat → Bool) (ρ τ : Type) (program : Tx α)
    (result : α → Prop) : Prop :=
  (userIndex runtime Storable column).Respects mayDraw ρ τ program result

/-- Neither accounts nor invitations are written. -/
theorem spares_others {writes : Writes} (users : writes.users = [])
    (invitations : writes.invitations = []) :
    (userIndex runtime Storable column).Spares writes := by
  refine ⟨users, ?_, ?_⟩
  · simp [users]
  · simp [invitations]

theorem spares_empty : (userIndex runtime Storable column).Spares ∅ :=
  spares_others rfl rfl

@[simp] theorem spares_query {read : Nat → Db → α} :
    Spares runtime Storable column (Tx.query read) result ↔
      ∀ now db, (userIndex runtime Storable column).Valid db →
        result (read now db) := by
  refine forall_congr' fun now => forall_congr' fun db =>
    forall_congr' fun _ => ?_
  exact ⟨And.right, fun holds => ⟨spares_empty, holds⟩⟩

theorem query_respects {read : Nat → Db → α} :
    Respects runtime Storable column mayDraw ρ τ (Tx.query read) fun _ => True :=
  Index.Respects.ofWrites (spares_query.mpr fun _ _ _ => trivial)

@[simp] theorem spares_select {locks : Db → List (Lock × LockMode)}
    {read : Nat → Db → α} :
    Spares runtime Storable column (Tx.select locks read) result ↔
      ∀ now db, (userIndex runtime Storable column).Valid db →
        result (read now db) :=
  spares_query

@[simp] theorem spares_throw {failure : Failure} :
    Spares runtime Storable column (Tx.throw failure) result ↔ True :=
  Iff.rfl

theorem spares_execute {locks : Db → List (Lock × LockMode)}
    {effect : Nat → Db → Except Failure (α × Writes)}
    (step : ∀ now db value writes, (userIndex runtime Storable column).Valid db →
      effect now db = .ok (value, writes) →
      (userIndex runtime Storable column).Spares writes ∧ result value) :
    Spares runtime Storable column (Tx.execute locks effect) result := by
  intro now db valid
  dsimp only
  cases ran : effect now db with
  | error failure => trivial
  | ok outcome => exact step now db outcome.1 outcome.2 valid ran

/-- A statement on other tables. -/
theorem spares_statement {locks : Db → List (Lock × LockMode)}
    {effect : Nat → Db → Except Failure (α × Writes)}
    (step : ∀ now db value writes, effect now db = .ok (value, writes) →
      (writes.users = [] ∧ writes.invitations = []) ∧ result value) :
    Spares runtime Storable column (Tx.execute locks effect) result := by
  apply spares_execute
  intro now db value writes valid ran
  obtain ⟨⟨users, invitations⟩, holds⟩ := step now db value writes ran
  exact ⟨spares_others users invitations, holds⟩

/-- Nobody else has a key of a row that violates nothing. -/
theorem fits {db : Db} {row : UserRow}
    (accepted : userViolation runtime db row = none) :
    (userIndex runtime Storable column).Fits db.users row := by
  unfold userViolation at accepted
  split at accepted
  · cases accepted
  split at accepted
  · cases accepted
  split at accepted
  · cases accepted
  rename_i email photo username
  intro other member apart lock has hit
  cases column with
  | email =>
      obtain ⟨address, given, rfl⟩ := Option.map_eq_some_iff.mp has
      obtain ⟨_, same, ⟨⟩⟩ := Option.map_eq_some_iff.mp hit
      exact email ⟨given ▸ rfl, other, member, apart, same.trans given.symm⟩
  | photo =>
      obtain ⟨id, given, rfl⟩ := Option.map_eq_some_iff.mp has
      obtain ⟨_, same, ⟨⟩⟩ := Option.map_eq_some_iff.mp hit
      exact photo ⟨given ▸ rfl, other, member, apart, same.trans given.symm⟩
  | username =>
      obtain ⟨name, given, rfl⟩ := Option.map_eq_some_iff.mp has
      obtain ⟨otherName, same, lowered⟩ := Option.map_eq_some_iff.mp hit
      refine username ⟨given ▸ rfl, other, member, apart, ?_⟩
      rw [same, given]
      exact congrArg some (Lock.userName.inj lowered)

theorem mem_userKeys {row : UserRow} {lock : Lock} :
    (lock, LockMode.update) ∈ userKeys runtime row ↔
      ∃ column : UniqueColumn, column.entry runtime row = some lock := by
  simp only [userKeys, List.mem_append, Option.mem_toList,
    Option.map_eq_some_iff, Prod.mk.injEq, and_true]
  constructor
  · rintro ((⟨email, given, rfl⟩ | ⟨id, given, rfl⟩) | ⟨name, given, rfl⟩)
    · exact ⟨.email, Option.map_eq_some_iff.mpr ⟨email, given, rfl⟩⟩
    · exact ⟨.photo, Option.map_eq_some_iff.mpr ⟨id, given, rfl⟩⟩
    · exact ⟨.username, Option.map_eq_some_iff.mpr ⟨name, given, rfl⟩⟩
  · rintro ⟨column, has⟩
    cases column with
    | email => exact .inl (.inl (Option.map_eq_some_iff.mp has))
    | photo => exact .inl (.inr (Option.map_eq_some_iff.mp has))
    | username => exact .inr (Option.map_eq_some_iff.mp has)

/-- A key tells its column. -/
theorem column_of_entry {left right : UniqueColumn} {row other : UserRow}
    {lock : Lock} (has : left.entry runtime row = some lock)
    (hit : right.entry runtime other = some lock) : left = right := by
  cases left <;> cases right <;>
    first
    | rfl
    | (obtain ⟨_, _, rfl⟩ := Option.map_eq_some_iff.mp has
       obtain ⟨_, _, same⟩ := Option.map_eq_some_iff.mp hit
       cases same)

theorem allowed_put {row : UserRow}
    (normal : Admissible Storable row.email) :
    (userIndex runtime Storable column).Allowed { users := [.put row] } := by
  refine ⟨fun other put => ?_, fun other put => absurd put List.not_mem_nil⟩
  obtain rfl : other = row := by simpa using put
  exact normal

/-- A new version of the row that is held. -/
theorem storeUser_triple {old row : UserRow} (same : row.id = old.id)
    (normal : Admissible Storable row.email) :
    ((userIndex runtime Storable column).discipline :
      Discipline Db Writes Lock Draw Failure ρ τ).Triple mayDraw
      ((userIndex runtime Storable column).Holding old)
      (storeUser runtime (some old) row)
      fun _ => (userIndex runtime Storable column).Ready := by
  apply Discipline.Triple.run Index.settled_holding
  intro context world value writes holding ran
  dsimp only at ran
  cases accepted : userViolation runtime (world.view context) row with
  | some failure => simp [accepted] at ran
  | none =>
      obtain rfl : ({ users := [.put row] } : Writes) = writes := by
        simpa [accepted] using ran
      apply holding.ready.update _ rfl (allowed_put normal) holding.stored same
        holding.locked
      by_cases unchanged :
          column.entry runtime row = column.entry runtime old
      · exact .inl unchanged
      · refine .inr ⟨fun lock has => ?_, fits accepted⟩
        apply List.mem_append_left
        apply List.mem_filter.mpr
        refine ⟨mem_userKeys.mpr ⟨column, has⟩, decide_eq_true fun claimed => ?_⟩
        obtain ⟨other, hit⟩ := mem_userKeys.mp claimed
        obtain rfl := column_of_entry has hit
        exact unchanged (has.trans hit.symm)

/-- A row under an identifier of one's own. -/
theorem insertUser_triple {id : Nat} {row : Nat → UserRow}
    (owned : ∀ now, (row now).id = id)
    (fixed : ∀ now, userKeys runtime (row now) = userKeys runtime (row 0))
    (normal : ∀ now, Admissible Storable (row now).email) :
    ((userIndex runtime Storable column).discipline :
      Discipline Db Writes Lock Draw Failure ρ τ).Triple mayDraw
      ((userIndex runtime Storable column).Owning id)
      (UserRepository.insertUser runtime row)
      fun _ => (userIndex runtime Storable column).Ready := by
  apply Discipline.Triple.run Index.settled_owning
  rintro context world value writes ⟨ready, own⟩ ran
  dsimp only at ran
  split at ran
  · cases ran
  · rename_i fresh
    cases accepted : userViolation runtime (world.view context)
        (row context.now) with
    | some failure => simp [accepted] at ran
    | none =>
        obtain ⟨_, rfl⟩ : row context.now = value ∧
            ({ users := [.put (row context.now)] } : Writes) = writes := by
          simpa [accepted] using ran
        have mine : (Draw.userId, (row context.now).id) ∈ context.owned := by
          rw [owned]
          exact own
        apply ready.insert _ rfl (allowed_put (normal _)) ?_ mine ?_
          (fits accepted)
        · intro old member same
          apply fresh
          exact Option.isSome_iff_exists.mpr
            ⟨old, Table.find_eq_some.mpr ⟨member, same⟩⟩
        · intro lock has
          apply List.mem_append_left
          change (lock, LockMode.update) ∈ userKeys runtime (row 0)
          rw [← fixed context.now]
          exact mem_userKeys.mpr ⟨column, has⟩

theorem spares_protectOwned {userId : Nat} (owned : List Nat) :
    Spares runtime Storable column (protectOwned userId owned) fun _ => True := by
  induction owned with
  | nil => trivial
  | cons owned rest ih =>
      have next (other : Bool) : Spares runtime Storable column
          (if other then protectOwned userId rest
            else Tx.throw (.query .checkViolation (some .workspaceActiveOwner)))
          fun _ => True := by
        cases other with
        | true => exact ih
        | false => trivial
      simp [protectOwned, WorkspacesService.lockWorkspace, next]

theorem spares_protectWorkspaceOwner (old : UserRow) (new : Option UserRow) :
    Spares runtime Storable column (protectWorkspaceOwner old new) fun _ => True := by
  unfold protectWorkspaceOwner
  split
  · trivial
  · simp [spares_protectOwned]

/-- What an update may do to a row. -/
structure Keeps (Storable : String → Prop) (change : UserRow → UserRow) : Prop where
  id : ∀ row, (change row).id = row.id
  normal : ∀ row, Admissible Storable row.email →
    Admissible Storable (change row).email

/-- The row is locked, and its new version may be stored. -/
theorem lockForUpdate_triple {id : Nat} {change : Nat → UserRow → UserRow}
    (keeps : ∀ now, Keeps Storable (change now)) :
    ((userIndex runtime Storable column).discipline :
      Discipline Db Writes Lock Draw Failure ρ τ).Triple mayDraw
      (userIndex runtime Storable column).Ready (lockForUpdate id change)
      fun found context world =>
        (userIndex runtime Storable column).Ready context world ∧
          ∀ pair ∈ found,
            (userIndex runtime Storable column).Holding pair.1 context world ∧
            pair.2.id = pair.1.id ∧ Admissible Storable pair.2.email := by
  apply Discipline.Triple.run Index.settled_ready
  intro context world value writes ready ran
  obtain ⟨rfl, rfl⟩ := Prod.mk.inj (Except.ok.inj ran)
  have here := ready.spare
    (if ((world.view context).users.find id).isSome then
      [(Lock.user id, LockMode.update)] else []) spares_empty
  refine ⟨here, fun pair found => ?_⟩
  obtain ⟨row, stored, rfl⟩ := Option.map_eq_some_iff.mp found
  obtain ⟨member, rfl⟩ := Table.find_eq_some.mp stored
  refine ⟨⟨here, ?_, ?_⟩, (keeps _).id row,
    (keeps _).normal row (ready.valid.1 row member)⟩
  · change row ∈ (WriteSet.apply (context.writes ++ ∅) world.db).users
    rw [Writes.append_empty]
    exact member
  · apply List.mem_append_left
    change (Lock.user row.id, LockMode.update) ∈
      if ((world.view context).users.find (key row)).isSome then
        [(Lock.user row.id, LockMode.update)] else []
    rw [if_pos (Option.isSome_iff_exists.mpr ⟨row, stored⟩)]
    exact List.mem_singleton.mpr rfl

theorem updateUser_respects {id : Nat} {lifecycle : Bool}
    {change : Nat → UserRow → UserRow}
    (keeps : ∀ now, Keeps Storable (change now)) :
    Respects runtime Storable column mayDraw ρ τ
      (updateUser runtime id lifecycle change) fun _ => True := by
  apply Discipline.Triple.bind (lockForUpdate_triple keeps)
  intro found
  cases found with
  | none => exact fun _ _ locked => ⟨locked.1, trivial⟩
  | some pair =>
      obtain ⟨old, new⟩ := pair
      intro context world locked
      obtain ⟨holding, same, normal⟩ := locked.2 (old, new) rfl
      have stores : ((userIndex runtime Storable column).discipline :
          Discipline Db Writes Lock Draw Failure ρ τ).Triple mayDraw
          ((userIndex runtime Storable column).Holding old) (do
            storeUser runtime (some old) new
            pure (some new))
          fun _ context world =>
            (userIndex runtime Storable column).Ready context world ∧ True := by
        apply Discipline.Triple.bind (storeUser_triple same normal)
        exact fun _ _ _ ready => ⟨ready, trivial⟩
      cases lifecycle with
      | false => exact stores context world holding
      | true =>
          have checked := Discipline.Triple.bind
            (Index.holding_ofWrites
              (spares_protectWorkspaceOwner old (some new)))
            fun _ => Discipline.Triple.assuming fun _ => stores
          exact checked context world holding

theorem softDeleteUser_respects {id : Nat} :
    Respects runtime Storable column mayDraw ρ τ (softDeleteUser runtime id)
      fun _ => True := by
  unfold softDeleteUser
  apply Index.Respects.bind (updateUser_respects ?_)
  · exact fun _ _ => Index.Respects.ofWrites trivial
  · exact fun now => ⟨fun _ => rfl, fun row normal => normal⟩

theorem spares_findByEmail {email : String} :
    Spares runtime Storable column (UserRepository.findByEmail email)
      fun _ => True := by
  unfold UserRepository.findByEmail
  split <;> simp

theorem spares_checkEmail {email : Option (Option String)}
    {userId : Option Nat} :
    Spares runtime Storable column (UsersService.checkEmail email userId)
      fun _ => True := by
  unfold UsersService.checkEmail
  cases email.join.filter fun email => email ≠ "" with
  | none => trivial
  | some email =>
      refine Program.writes_bind.mpr (spares_findByEmail.mono ?_)
      intro found _
      cases found with
      | none => trivial
      | some existing => dsimp only; split <;> trivial

theorem spares_checkPhoto {photo : Option (Option Nat)} :
    Spares runtime Storable column (UsersService.checkPhoto photo) fun _ => True := by
  unfold UsersService.checkPhoto
  cases photo.join with
  | none => trivial
  | some id =>
      simp only [Program.writes_bind, spares_query]
      intro now db valid
      split <;> trivial

theorem spares_hashGiven {password : Option String} {tooLong : Failure} :
    Spares runtime Storable column (hashGiven runtime password tooLong)
      fun _ => True := by
  unfold hashGiven
  cases password.filter fun password => password ≠ "" with
  | none => trivial
  | some password =>
      unfold hashPassword
      dsimp only
      split
      · trivial
      · exact fun _ => trivial

/-- The address to store is the one of the request. -/
theorem spares_prepareChanges {dto : UpdateUserDto} {userId : Option Nat} :
    Spares runtime Storable column (UsersService.prepareChanges runtime dto userId)
      fun changes => changes.email = dto.email := by
  unfold UsersService.prepareChanges
  simp only [Program.writes_bind]
  refine spares_checkEmail.mono fun _ _ => spares_hashGiven.mono fun _ _ =>
    spares_checkPhoto.mono fun _ _ => ?_
  split
  · trivial
  · split
    · trivial
    · exact rfl

theorem spares_lockUser {id : Nat} :
    Spares runtime Storable column (UserRepository.lockUser id) fun _ => True := by
  apply spares_statement
  intro now db value writes ran
  split at ran
  · obtain ⟨rfl, rfl⟩ := Prod.mk.inj (Except.ok.inj ran)
    exact ⟨⟨rfl, rfl⟩, trivial⟩
  · cases ran

theorem spares_revokeUserSessions {userId : Nat} {exclude : Option Nat} :
    Spares runtime Storable column (revokeUserSessions userId exclude)
      fun _ => True := by
  apply spares_statement
  intro now db value writes ran
  obtain ⟨_, rfl⟩ := Prod.mk.inj (Except.ok.inj ran)
  exact ⟨⟨rfl, rfl⟩, trivial⟩

theorem spares_revokeRequested {id : Nat} {revoke : Option (Option Nat)} :
    Spares runtime Storable column (UserRepository.revokeRequested id revoke)
      fun _ => True := by
  cases revoke with
  | none => trivial
  | some exclude => exact spares_revokeUserSessions

theorem save_respects {stored : UserRow} {entity : User}
    (normal : Admissible Storable entity.email) :
    Respects runtime Storable column mayDraw ρ τ
      (UserRepository.save runtime stored entity) fun _ => True := by
  unfold UserRepository.save
  dsimp only
  split
  · exact Index.Respects.ofWrites trivial
  · apply Index.Respects.bind (updateUser_respects ?_)
    · exact fun _ _ => Index.Respects.ofWrites trivial
    · exact fun now => ⟨fun row => rfl, fun row _ => normal⟩

theorem updateAtomically_respects {id : Nat}
    {prepare : User → Tx (Mutation UserChanges)}
    (prepares : ∀ current,
      Spares runtime Storable column (prepare current) fun mutation =>
        Admissible Storable mutation.changes.email.join) :
    Respects runtime Storable column mayDraw ρ τ
      (UserRepository.updateAtomically runtime id prepare) fun _ => True := by
  apply Index.Respects.mapError
  apply Index.Respects.transaction
  apply Index.Respects.bind (Index.Respects.ofWrites spares_lockUser)
  intro locked _
  split
  · exact Index.Respects.fail
  · have reads : Spares runtime Storable column
        (Tx.query fun _ db => UserRepository.liveUser db id) fun found =>
          ∀ entity ∈ found, Admissible Storable entity.email := by
      apply spares_query.mpr
      intro now db valid entity found
      have stored := (Option.filter_eq_some_iff.mp found).1
      exact valid.1 entity (Table.find_eq_some.mp stored).1
    apply Index.Respects.bind (Index.Respects.ofWrites reads)
    intro found normal
    cases found with
    | none => exact Index.Respects.fail
    | some entity =>
        apply Index.Respects.bind
          (Index.Respects.ofWrites (prepares (UserMapper.toDomain entity)))
        intro mutation asked
        have merged : Admissible Storable
            ((UserMapper.toDomain entity).merge mutation.changes).email := by
          intro address given
          change mutation.changes.email.getD entity.email = some address
            at given
          cases change : mutation.changes.email with
          | none => exact normal entity rfl address (by simpa [change] using given)
          | some email =>
              exact asked address (by simpa [change] using given)
        apply Index.Respects.bind (save_respects merged)
        intro updated _
        apply Index.Respects.bind
          (Index.Respects.ofWrites spares_revokeRequested)
        exact fun _ _ => Index.Respects.ofWrites trivial

/-- The identifier is drawn, and the row stored under it. -/
theorem insert_respects {row : Nat → Nat → UserRow}
    {rest : Nat → UserRow → Tx α} (owned : ∀ id now, (row id now).id = id)
    (fixed : ∀ id now,
      userKeys runtime (row id now) = userKeys runtime (row id 0))
    (normal : ∀ id now, Admissible Storable (row id now).email)
    (next : ∀ id created,
      Respects runtime Storable column mayDraw ρ τ (rest id created) result) :
    Respects runtime Storable column mayDraw ρ τ (do
      let id ← Program.draw .userId
      let created ← UserRepository.insertUser runtime (row id)
      rest id created) result := by
  apply Discipline.Triple.bind Index.owning_draw
  intro id
  apply Discipline.Triple.bind
    (insertUser_triple (owned id) (fixed id) (normal id))
  exact next id

/-- A new account. -/
theorem create_respects {data : User}
    (normal : Admissible Storable data.email) :
    Respects runtime Storable column mayDraw ρ τ (UserRepository.create runtime data)
      fun _ => True := by
  unfold UserRepository.create
  apply Index.Respects.transaction
  apply insert_respects (fun _ _ => rfl) (fun _ _ => rfl) fun _ _ => normal
  exact fun _ _ => Index.Respects.ofWrites trivial

end Emails

namespace UsersService

open Emails

theorem create_respects {dto : UpdateUserDto}
    (normal : Admissible Storable dto.email.join) :
    Respects runtime Storable column mayDraw ρ τ (create runtime dto)
      fun _ => True := by
  apply Index.Respects.bind (Index.Respects.ofWrites spares_prepareChanges)
  exact fun _ _ => Emails.create_respects normal

theorem updateAtomically_respects {id : Nat}
    {prepare : User → Tx (Mutation UpdateUserDto)}
    (prepares : ∀ current,
      Spares runtime Storable column (prepare current) fun mutation =>
        Admissible Storable mutation.changes.email.join) :
    Respects runtime Storable column mayDraw ρ τ
      (updateAtomically runtime id prepare) fun _ => True := by
  apply Index.Respects.mapError
  apply Emails.updateAtomically_respects
  intro current
  simp only [Program.writes_bind]
  apply (prepares current).mono
  intro mutation normal
  apply spares_prepareChanges.mono
  intro changes same
  simp only [Program.writes_pure]
  exact same ▸ normal

end UsersService

end SaasFoundation
