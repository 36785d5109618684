import SaasFoundation.Api.Runs
import SaasFoundation.Users.Alone
import SaasFoundation.Utils.Words

/-!
# The full name of an account

`AccountsService.save` takes a name apart into two columns, and the projection
of the responses and lists puts it together again.
-/

namespace SaasFoundation

open Relational Transaction Tx

namespace AccountsService

variable {runtime : Runtime} {type : AccountType} {dto : AdminAccountDto}
  {actor : Nat} {clock : Nat} {failed : Failure → Db → Prop}
  {stand : Stand Db Writes}

/-- The changes `checkUpdate` returns. -/
def checked (changes : AccountChanges) (existing : UserRow) : AccountChanges :=
  { changes with
    roleId := if changes.roleId = existing.roleId then none
      else changes.roleId }

/-- Leaving out a role that is stored already changes nothing. -/
theorem applyTo_checked (changes : AccountChanges) (existing : UserRow)
    (now : Nat) :
    (checked changes existing).applyTo now existing =
      changes.applyTo now existing := by
  have role : (if changes.roleId = existing.roleId then none
      else changes.roleId).or existing.roleId =
      changes.roleId.or existing.roleId := by
    split
    · rename_i same
      rw [same]
      cases existing.roleId <;> rfl
    · rfl
  simp [checked, AccountChanges.applyTo, role]

theorem serially_revokeChanged {changes : AccountChanges} {id : Nat}
    {post : Unit → Stand Db Writes → Prop}
    (step : ∀ sessions, post () (stand.write { sessions })) :
    (revokeChanged id dto changes).serially clock post failed stand := by
  unfold revokeChanged
  split
  · rw [revokeUserSessions, serially_execute]
    exact step _
  · have nothing : stand.write { sessions := [] } = stand :=
      stand.write_nothing
    have kept := step []
    rw [nothing] at kept
    exact kept

theorem serially_selectAccount {id : Nat} {row : UserRow}
    {post : AccountResponse → Stand Db Writes → Prop}
    (stored : stand.view.users.find id = some row)
    (live : row.deletedAt = none) (step : post (selection row) stand) :
    (selectAccount id).serially clock post failed stand := by
  unfold selectAccount
  rw [Program.serially_bind, serially_query, stored, Option.filter_some,
    if_pos (by simp [live])]
  exact step

section Successful

variable (rejected : ∀ failure db, failed failure db)

include rejected

theorem serially_checkUpdate {changes : AccountChanges} {id : Nat}
    {existing : UserRow} {post : AccountChanges → Stand Db Writes → Prop}
    (step : post (checked changes existing) stand) :
    (checkUpdate changes actor id existing).serially clock post failed
      stand := by
  unfold checkUpdate
  split
  · exact rejected _ _
  · dsimp only
    rw [stripped_eq, ← checked]
    split
    · rw [Program.serially_bind, serially_query]
      split
      · exact rejected _ _
      · exact step
    · exact step

theorem serially_storeChanges {changes : AccountChanges} {id : Nat}
    {existing : UserRow} {post : Unit → Stand Db Writes → Prop}
    (named : changes.firstName ≠ none)
    (stored : stand.view.users.find id = some existing)
    (step : post () (stand.write
      { users := [.put (changes.applyTo stand.now existing)] })) :
    (storeChanges runtime id changes).serially clock post failed stand := by
  unfold storeChanges
  split
  · rename_i nothing
    exact absurd (congrArg AccountChanges.firstName nothing) named
  · rw [Program.serially_bind, serially_updateUser stored]
    split
    · exact rejected _ _
    · exact step

theorem serially_update {changes : AccountChanges} {id : Nat}
    {post : AccountResponse → Stand Db Writes → Prop}
    (named : changes.firstName ≠ none)
    (step : ∀ existing later, existing ∈ stand.view.users →
      existing.id = id → existing.accountType = type →
      existing.deletedAt = none →
      later.view.users =
        stand.view.users.put (changes.applyTo stand.now existing) →
      post (selection (changes.applyTo stand.now existing)) later) :
    (update runtime type dto actor id changes).serially clock post failed
      stand := by
  simp only [update, lockAccount, Program.serially_bind, serially_select]
  cases found : (stand.view.users.find id).filter (matchesAccount type) with
  | none => exact rejected _ _
  | some existing =>
      obtain ⟨stored, matched⟩ := Option.filter_eq_some_iff.mp found
      obtain ⟨member, rfl⟩ := Table.find_eq_some.mp stored
      simp only [matchesAccount, Bool.decide_and, Bool.and_eq_true,
        decide_eq_true_eq] at matched
      simp only [Program.serially_pure, Program.serially_bind]
      refine serially_checkUpdate rejected ?_
      rw [Program.serially_bind]
      refine serially_storeChanges rejected named stored ?_
      rw [Program.serially_bind]
      refine serially_revokeChanged fun sessions => ?_
      rw [Program.serially_bind]
      refine AdminMutationService.serially_audit rejected fun activities => ?_
      rw [applyTo_checked]
      generalize reached : ((_ : Stand Db Writes).write _) = later
      have users : later.view.users =
          stand.view.users.put (changes.applyTo stand.now existing) := by
        rw [← reached]
        simp
      have stored : later.view.users.find existing.id =
          some (changes.applyTo stand.now existing) := by
        rw [users]
        exact Table.find_put.trans (if_pos rfl)
      exact serially_selectAccount stored matched.2
        (step existing later member rfl matched.1 matched.2 users)

theorem serially_insert {changes : AccountChanges}
    {post : AccountResponse → Stand Db Writes → Prop}
    (step : ∀ id later, stand.view.users.find id = none →
      later.view.users = stand.view.users.put (changes.newRow id stand.now) →
      post (selection (changes.newRow id stand.now)) later) :
    (insert runtime type actor changes).serially clock post failed stand := by
  simp only [insert, Program.serially_bind, Program.serially_draw,
    UserRepository.serially_insertUser, Stand.view_drawn, Stand.now_drawn]
  split
  · exact rejected _ _
  · rename_i allowed
    unfold UserRepository.insertRefusal at allowed
    split at allowed
    · cases allowed
    · rename_i absent
      refine AdminMutationService.serially_audit rejected fun activities => ?_
      generalize reached : ((_ : Stand Db Writes).write { activities }) = later
      have users : later.view.users = stand.view.users.put
          (changes.newRow (stand.draws 0) stand.now) := by
        rw [← reached]
        simp
      have stored : later.view.users.find (stand.draws 0) =
          some (changes.newRow (stand.draws 0) stand.now) := by
        rw [users]
        exact Table.find_put.trans (if_pos rfl)
      exact serially_selectAccount stored rfl
        (step _ later (Option.not_isSome_iff_eq_none.mp absent) users)

/-- The row a successful request with a name has stored. -/
def SavedRow (runtime : Runtime) (type : AccountType) (dto : AdminAccountDto)
    (db : Db) (now : Nat) (row : UserRow) : Option Nat → Prop
  | none => ∃ stored, Hashed runtime dto.password stored ∧
      db.users.find row.id = none ∧
      let prepared := dto.prepared runtime type stored
      row = { prepared with
        accountType := some type
        roleId := prepared.roleId.or (some RoleId.user) : AccountChanges }.newRow
          row.id now
  | some id => ∃ stored, Hashed runtime dto.password stored ∧
      ∃ existing ∈ db.users, existing.id = id ∧ existing.accountType = type ∧
        existing.deletedAt = none ∧
        row = (dto.prepared runtime type stored).applyTo now existing

theorem serially_save {id : Option Nat}
    {post : AccountResponse → Stand Db Writes → Prop}
    (named : dto.fullName ≠ none)
    (step : ∀ row later, SavedRow runtime type dto stand.view clock row id →
      later.db.users = stand.view.users.put row → post (selection row) later) :
    (save runtime type dto actor id).serially clock post failed stand := by
  unfold save
  rw [Program.serially_bind]
  refine Program.serially_quiet quiet_prepare (Program.failsWith_any _)
    (fun failure _ => rejected failure _) ?_
  intro changes later prepared still
  have seen : later.view = stand.view := still.view
  unfold AdminMutationService.mutate lockAdministration
  simp only [Program.serially_mapError, Program.serially_transaction,
    Program.serially_bind, serially_execute, Stand.view_started, seen]
  by_cases administered : (stand.view.roles.find RoleId.admin).isSome = true
  swap
  · rw [if_neg administered]
    exact rejected _ _
  rw [if_pos administered]
  dsimp only
  rw [Stand.write_nothing]
  have firstName {stored : Option String} :
      (dto.prepared runtime type stored).firstName ≠ none := by
    intro none
    exact named (by simpa [AdminAccountDto.prepared, AdminAccountDto.columns]
      using none)
  have fails : ∀ failure db,
      (fun error => failed (AdminMutationService.rethrow error)) failure db :=
    fun failure db => rejected _ db
  cases id with
  | none =>
      obtain ⟨columns, ⟨stored, hashed, rfl⟩, rfl⟩ := prepared
      refine serially_insert fails fun id final absent users => ?_
      rw [Stand.view_started, seen] at absent users
      exact step _ final.commit ⟨stored, hashed, absent, rfl⟩ users
  | some id =>
      obtain ⟨stored, hashed, rfl⟩ := prepared
      refine serially_update fails firstName ?_
      intro existing final member sameId ofType live users
      rw [Stand.view_started, seen] at member users
      exact step _ final.commit ⟨stored, hashed, existing, member, sameId,
        ofType, live, rfl⟩ users

end Successful

/-- A successful answer shows the row that has been stored. -/
def Shows (runtime : Runtime) (type : AccountType) (dto : AdminAccountDto)
    (moment : Moment) (id : Option Nat) :
    Except Failure AccountResponse × Db → Prop
  | (.ok response, after) => ∃ row,
      SavedRow runtime type dto moment.db moment.clock row id ∧
        after.users = moment.db.users.put row ∧ response = selection row
  | (.error _, _) => True

theorem shows_save {moment : Moment} {id : Option Nat}
    (named : dto.fullName ≠ none) :
    Shows runtime type dto moment id
      (moment.outcome (save runtime type dto actor id)) := by
  rw [Moment.outcome_iff (Shows runtime type dto moment id)]
  refine serially_save (fun _ _ => trivial) named fun row later stored users => ?_
  rw [Moment.view_stand] at stored users
  exact ⟨row, stored, users, rfl⟩

/-- The columns of a name. -/
theorem SavedRow.named {db : Db} {now : Nat} {row : UserRow} {id : Option Nat}
    {name : String} (given : dto.fullName = some name)
    (saved : SavedRow runtime type dto db now row id) :
    row.firstName = some (Text.firstWord name) ∧
      row.lastName = some (Text.otherWords name) ∧
      (type = .customer → row.roleId = some RoleId.user) ∧
      row.accountType = type ∧ row.deletedAt = none := by
  cases id with
  | none =>
      obtain ⟨stored, _, _, same⟩ := saved
      rw [same]
      refine ⟨?_, ?_, ?_, ?_, rfl⟩
      · simp [AccountChanges.newRow, AccountChanges.applyTo,
          AdminAccountDto.prepared, AdminAccountDto.columns, given,
          Text.firstWord]
      · simp [AccountChanges.newRow, AccountChanges.applyTo,
          AdminAccountDto.prepared, AdminAccountDto.columns, given,
          Text.otherWords]
      · rintro rfl
        simp [AccountChanges.newRow, AccountChanges.applyTo,
          AdminAccountDto.prepared]
      · simp [AccountChanges.newRow, AccountChanges.applyTo]
  | some id =>
      obtain ⟨stored, _, existing, _, _, ofType, live, rfl⟩ := saved
      refine ⟨?_, ?_, ?_, ?_, live⟩
      · simp [AccountChanges.applyTo, AdminAccountDto.prepared,
          AdminAccountDto.columns, given, Text.firstWord]
      · simp [AccountChanges.applyTo, AdminAccountDto.prepared,
          AdminAccountDto.columns, given, Text.otherWords]
      · rintro rfl
        simp [AccountChanges.applyTo, AdminAccountDto.prepared]
      · simp [AccountChanges.applyTo, AdminAccountDto.prepared,
          AdminAccountDto.columns, ofType]

/-- Saving the name that is shown stores the same columns. -/
theorem SavedRow.same {db : Db} {now : Nat} {row row' : UserRow}
    {name : String} (first : row.firstName = some (Text.firstWord name))
    (last : row.lastName = some (Text.otherWords name))
    (customer : type = .customer → row.roleId = some RoleId.user)
    (member : row ∈ db.users)
    (saved : SavedRow runtime type { fullName := some (Text.rejoin name) } db now
      row' (some row.id)) :
    row' = { row with updatedAt := now } := by
  obtain ⟨stored, hashed, existing, stored', sameId, _, _, rfl⟩ := saved
  obtain rfl := Table.eq_of_key stored' member sameId
  obtain rfl : stored = none := hashed
  have words := Text.splitSpaces_rejoin name
  have role : (if type = .customer then some RoleId.user else none).or
      existing.roleId = existing.roleId := by
    split
    · rename_i isCustomer
      rw [customer isCustomer]
      rfl
    · rfl
  simp [AccountChanges.applyTo, AdminAccountDto.prepared,
    AdminAccountDto.columns, words, role, first, last, Text.firstWord,
    Text.otherWords]

/-- The accounts of a type, as the lists show them. -/
def listing (db : Db) (type : AccountType) : List AccountResponse :=
  (db.users.rows.filter (matchesAccount type)).map selection

/-- The name is shown as it was given, but for white space, and saving what is
shown changes no column but `updatedAt`. -/
structure NameKept (runtime : Runtime) (type : AccountType) (name : String)
    (response : AccountResponse) (after : Db) : Prop where
  shown : response.fullName = Text.collapse name
  listed : ∀ entry ∈ listing after type, entry.id = response.id →
    entry.fullName = Text.collapse name
  again : ∀ (moment : Moment) (actor : Nat) (response' : AccountResponse)
    (final : Db), moment.db = after →
    moment.outcome (save runtime type { fullName := some response.fullName }
      actor (some response.id)) = (.ok response', final) →
    response' = response ∧ ∃ row ∈ after.users, row.id = response.id ∧
      final.users = after.users.put { row with updatedAt := moment.clock }

/-- A name is kept exactly when it has more than one word. -/
theorem nameKept_iff (runtime : Runtime) (moment : Moment)
    (type : AccountType) (dto : AdminAccountDto) (actor : Nat)
    (id : Option Nat) (name : String) (response : AccountResponse) (after : Db)
    (given : dto.fullName = some name)
    (saved : moment.outcome (save runtime type dto actor id) =
      (.ok response, after)) :
    NameKept runtime type name response after ↔
      (Text.trim name).toList.any Text.isSpace = true := by
  have named : dto.fullName ≠ none := by simp [given]
  have answer : Shows runtime type dto moment id
      (moment.outcome (save runtime type dto actor id)) := shows_save named
  rw [saved] at answer
  obtain ⟨row, stored, users, rfl⟩ := answer
  obtain ⟨first, last, customer, ofType, live⟩ := stored.named given
  have shown : (selection row).fullName = Text.rejoin name := by
    simp [selection, WorkspacesService.concatWs, first, last, Text.rejoin]
  have member : row ∈ after.users := users ▸ Table.mem_put.mpr (.inl rfl)
  constructor
  · intro kept
    exact Text.rejoin_eq_collapse_iff.mp (shown.symm.trans kept.shown)
  · intro spaced
    have collapsed := shown.trans (Text.rejoin_of_words spaced)
    refine ⟨collapsed, ?_, ?_⟩
    · intro entry listed same
      obtain ⟨other, ofList, rfl⟩ := List.mem_map.mp listed
      have stored := Table.mem_rows.mp (List.mem_filter.mp ofList).1
      rw [Table.eq_of_key stored member same]
      exact collapsed
    · rintro later actor' response' final rfl again
      have answer : Shows runtime type
          { fullName := some (selection row).fullName } later (some row.id)
          (later.outcome (save runtime type
            { fullName := some (selection row).fullName } actor'
            (some row.id))) := shows_save (by simp)
      have answered : later.outcome (save runtime type
          { fullName := some (selection row).fullName } actor' (some row.id)) =
          (.ok response', final) := again
      rw [answered, shown] at answer
      obtain ⟨row', stored', users', rfl⟩ := answer
      obtain rfl := SavedRow.same first last customer member stored'
      exact ⟨rfl, row, member, rfl, users'⟩

/-- Account 1 gives account 2 another name. -/
def renamed (name : String) : Except Failure AccountResponse × Db :=
  (Moment.mk Sample.world.db 5 fun _ => 9).outcome
    (save Sample.runtime .user { fullName := some name } 1 (some 2))

/-- The answer to that request. -/
def shownAs (fullName : String) : AccountResponse :=
  { id := 2, fullName, username := none, email := some "b", phone := none
    type := .user, roleId := some RoleId.user, status := .active }

theorem nameKept_iff_renamed :
    NameKept Sample.runtime .user " Ada   Lovelace " (shownAs "Ada Lovelace")
      (renamed " Ada   Lovelace ").2 :=
  (nameKept_iff Sample.runtime (Moment.mk Sample.world.db 5 fun _ => 9) .user
    { fullName := some " Ada   Lovelace " } 1 (some 2) " Ada   Lovelace "
    (shownAs "Ada Lovelace") (renamed " Ada   Lovelace ").2 rfl rfl).mpr rfl

/-- A name of one word is answered with a blank behind it. -/
theorem single_word_gains_blank :
    (renamed "Ada").1 = .ok (shownAs "Ada ") ∧
      ¬NameKept Sample.runtime .user "Ada" (shownAs "Ada ")
        (renamed "Ada").2 := by
  refine ⟨rfl, fun kept => ?_⟩
  have shown : (shownAs "Ada ").fullName = Text.collapse "Ada" := kept.shown
  exact absurd shown (by decide +kernel)

end AccountsService

end SaasFoundation
