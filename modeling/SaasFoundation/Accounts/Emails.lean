import SaasFoundation.Accounts.RolesController
import SaasFoundation.Accounts.Service
import SaasFoundation.Users.Emails

/-!
# Addresses in administrative mutations and in seeding

`AccountsService` and the seeder get addresses as they were typed, and
transform them themselves.
-/

namespace SaasFoundation

open Relational Transaction Emails

variable {runtime : Runtime} {Storable : String → Prop}
  {column : UniqueColumn} {mayDraw : Draw → Nat → Bool} {ρ τ : Type}

theorem AdminMutationService.spares_audit {actor : Nat} {event uri : String} :
    Spares runtime Storable column (audit actor event uri) fun _ => True := by
  rw [audit_eq]
  apply Program.writes_bind.mpr
  intro id
  apply spares_statement
  intro now db value writes ran
  split at ran
  · cases ran
  · split at ran
    · cases ran
    · obtain ⟨_, rfl⟩ := Prod.mk.inj (Except.ok.inj ran)
      exact ⟨⟨rfl, rfl⟩, trivial⟩

open AdminMutationService

namespace AccountsService

theorem spares_lockAdministration :
    Spares runtime Storable column lockAdministration fun _ => True := by
  apply spares_statement
  intro now db value writes ran
  split at ran
  · obtain ⟨_, rfl⟩ := Prod.mk.inj (Except.ok.inj ran)
    exact ⟨⟨rfl, rfl⟩, trivial⟩
  · cases ran

theorem spares_lockAccount {type : AccountType} {id : Nat} :
    Spares runtime Storable column (lockAccount type id) fun _ => True := by
  unfold lockAccount
  simp only [Program.writes_bind, spares_select]
  intro now db valid
  cases (db.users.find id).filter (matchesAccount type) <;> trivial

theorem spares_selectAccount {id : Nat} :
    Spares runtime Storable column (selectAccount id) fun _ => True := by
  unfold selectAccount
  simp only [Program.writes_bind, spares_query]
  intro now db valid
  cases Option.filter _ _ <;> trivial

/-- The address is transformed here, not by the pipe. -/
theorem spares_prepare {type : AccountType} {dto : AdminAccountDto}
    {actor : Nat} {id : Option Nat}
    (admissible :
      Admissible Storable (dto.email.map (lowerCaseTransformer runtime))) :
    Spares runtime Storable column (prepare runtime type dto actor id)
      fun changes => Admissible Storable changes.email := by
  have normal (password : Option String) : Admissible Storable
      (dto.prepared runtime type password).email :=
    admissible
  unfold prepare
  split
  · trivial
  · dsimp only
    split
    · trivial
    · apply Program.Writes.bind spares_hashGiven
      intro password _
      split
      · trivial
      · split
        · exact normal password
        · exact normal password

/-- The checks may drop a role, nothing else. -/
theorem spares_checkUpdate {changes : AccountChanges} {actor id : Nat}
    {existing : UserRow} :
    Spares runtime Storable column (checkUpdate changes actor id existing)
      fun left => left.email = changes.email := by
  unfold checkUpdate
  split
  · trivial
  · have checked (left : AccountChanges) (same : left.email = changes.email)
        (critical : Prop) [Decidable critical] :
        Spares runtime Storable column
          (if critical then do
            let admins ← Tx.query fun _ db => adminCount db
            if admins ≤ 1 then
              Tx.throw (.badRequest
                "At least one active administrator is required")
            else pure left
          else pure left) fun left => left.email = changes.email := by
      split
      · simp only [Program.writes_bind, spares_query]
        intro now db valid
        split
        · trivial
        · exact same
      · exact same
    dsimp only
    split
    · apply checked
      rfl
    · apply checked
      rfl

theorem storeChanges_respects {id : Nat} {changes : AccountChanges}
    (normal : Admissible Storable changes.email) :
    Respects runtime Storable column mayDraw ρ τ (storeChanges runtime id changes)
      fun _ => True := by
  unfold storeChanges
  split
  · exact Index.Respects.ofWrites trivial
  · have keeps (now : Nat) : Keeps Storable (changes.applyTo now) := by
      refine ⟨fun _ => rfl, fun row kept address given => ?_⟩
      change changes.email.or row.email = some address at given
      cases sent : changes.email with
      | none => exact kept address (by simpa [sent] using given)
      | some email => exact normal address (by simpa [sent] using given)
    apply Index.Respects.bind (updateUser_respects keeps)
    exact fun _ _ => Index.Respects.ofWrites trivial

theorem spares_revokeChanged {id : Nat} {dto : AdminAccountDto}
    {changes : AccountChanges} :
    Spares runtime Storable column (revokeChanged id dto changes) fun _ => True := by
  unfold revokeChanged
  split
  · exact spares_revokeUserSessions
  · trivial

theorem update_respects {type : AccountType} {dto : AdminAccountDto}
    {actor id : Nat} {changes : AccountChanges}
    (normal : Admissible Storable changes.email) :
    Respects runtime Storable column mayDraw ρ τ
      (update runtime type dto actor id changes) fun _ => True := by
  apply Index.Respects.bind (Index.Respects.ofWrites spares_lockAccount)
  intro existing _
  apply Index.Respects.bind (Index.Respects.ofWrites spares_checkUpdate)
  intro left same
  apply Index.Respects.bind (storeChanges_respects (same ▸ normal))
  intro _ _
  apply Index.Respects.ofWrites
  simp only [Program.writes_bind]
  exact spares_revokeChanged.mono fun _ _ =>
    spares_audit.mono fun _ _ => spares_selectAccount

theorem insert_respects {type : AccountType} {actor : Nat}
    {changes : AccountChanges}
    (normal : Admissible Storable changes.email) :
    Respects runtime Storable column mayDraw ρ τ (insert runtime type actor changes)
      fun _ => True := by
  have stored (id now : Nat) : (changes.newRow id now).email =
      changes.email := by
    change changes.email.or none = changes.email
    exact Option.or_none
  apply Emails.insert_respects (fun _ _ => rfl) (fun _ _ => rfl)
    fun id now => (stored id now).symm ▸ normal
  intro id _
  apply Index.Respects.ofWrites
  simp only [Program.writes_bind]
  exact spares_audit.mono fun _ _ => spares_selectAccount

theorem save_respects {type : AccountType} {dto : AdminAccountDto}
    {actor : Nat} {id : Option Nat}
    (admissible :
      Admissible Storable (dto.email.map (lowerCaseTransformer runtime))) :
    Respects runtime Storable column mayDraw ρ τ (save runtime type dto actor id)
      fun _ => True := by
  apply Index.Respects.bind (Index.Respects.ofWrites (spares_prepare admissible))
  intro changes normal
  apply Index.Respects.mapError
  apply Index.Respects.transaction
  apply Index.Respects.bind (Index.Respects.ofWrites spares_lockAdministration)
  intro _ _
  cases id with
  | none => exact insert_respects normal
  | some id => exact update_respects normal

theorem remove_respects {type : AccountType} {id actor : Nat} :
    Respects runtime Storable column mayDraw ρ τ (remove runtime type id actor)
      fun _ => True := by
  unfold remove
  split
  · exact Index.Respects.fail
  · apply Index.Respects.mapError
    apply Index.Respects.transaction
    apply Index.Respects.bind
      (Index.Respects.ofWrites spares_lockAdministration)
    intro _ _
    apply Index.Respects.bind (Index.Respects.ofWrites spares_lockAccount)
    intro account _
    split
    · exact Index.Respects.fail
    · apply Index.Respects.bind softDeleteUser_respects
      intro _ _
      apply Index.Respects.ofWrites
      simp only [Program.writes_bind]
      exact spares_revokeUserSessions.mono fun _ _ => spares_audit

end AccountsService

namespace AdminRolesController

variable {body : AdminRoleDto} {actor id : Nat}

theorem spares_insertRole :
    Spares runtime Storable column
      (insertRole id (AdminStore.changes resource body.values))
      fun _ => True := by
  rw [insertRole_values]
  apply spares_statement
  intro now db value writes ran
  split at ran
  · cases ran
  · obtain ⟨_, rfl⟩ := Prod.mk.inj (Except.ok.inj ran)
    exact ⟨⟨rfl, rfl⟩, trivial⟩

theorem spares_updateRole {changes : List (String × Cell)} :
    Spares runtime Storable column (updateRole id changes) fun _ => True := by
  apply spares_statement
  intro now db value writes ran
  cases stored : db.roles.find id with
  | none =>
      obtain ⟨_, rfl⟩ : none = value ∧ (∅ : Writes) = writes := by
        simpa [stored] using ran
      exact ⟨⟨rfl, rfl⟩, trivial⟩
  | some row =>
      simp only [stored] at ran
      obtain ⟨_, rfl⟩ := Prod.mk.inj (Except.ok.inj ran)
      exact ⟨⟨rfl, rfl⟩, trivial⟩

theorem spares_deleteRole :
    Spares runtime Storable column (deleteRole id) fun _ => True := by
  apply spares_statement
  intro now db value writes ran
  split at ran
  · obtain ⟨_, rfl⟩ := Prod.mk.inj (Except.ok.inj ran)
    exact ⟨⟨rfl, rfl⟩, trivial⟩
  · split at ran
    · cases ran
    · obtain ⟨_, rfl⟩ := Prod.mk.inj (Except.ok.inj ran)
      exact ⟨⟨rfl, rfl⟩, trivial⟩

theorem spares_answer {known : Option Nat} (found : Option RoleRow) :
    Spares runtime Storable column
      (AdminStore.answer resource actor known found) fun _ => True := by
  cases found with
  | none => trivial
  | some row => exact Program.Writes.bind spares_audit fun _ _ => trivial

theorem save_respects {known : Option Nat} :
    Respects runtime Storable column mayDraw ρ τ
      (AdminStore.save resource body.values actor known) fun _ => True := by
  rw [save_values]
  apply Index.Respects.mapError
  apply Index.Respects.transaction
  apply Index.Respects.ofWrites
  cases known with
  | none =>
      apply Program.Writes.bind (Program.writes_draw.mpr fun _ => trivial)
      intro id _
      apply Program.Writes.bind spares_insertRole
      exact fun found _ => spares_answer found
  | some id =>
      apply Program.Writes.bind spares_updateRole
      exact fun found _ => spares_answer found

theorem store_remove_respects :
    Respects runtime Storable column mayDraw ρ τ
      (AdminStore.remove resource id actor) fun _ => True := by
  apply Index.Respects.mapError
  apply Index.Respects.transaction
  apply Index.Respects.ofWrites
  apply Program.Writes.bind spares_deleteRole
  intro affected _
  split
  · trivial
  · exact spares_audit

theorem spares_validate :
    Spares runtime Storable column (validate body) fun _ => True := by
  unfold validate
  dsimp only
  split <;> trivial

theorem create_respects :
    Respects runtime Storable column mayDraw ρ τ (create body actor)
      fun _ => True := by
  apply Index.Respects.bind (Index.Respects.ofWrites spares_validate)
  exact fun _ _ => save_respects

theorem update_respects :
    Respects runtime Storable column mayDraw ρ τ (update id body actor)
      fun _ => True := by
  unfold update
  split
  · exact Index.Respects.fail
  · apply Index.Respects.bind (Index.Respects.ofWrites spares_validate)
    exact fun _ _ => save_respects

theorem remove_respects :
    Respects runtime Storable column mayDraw ρ τ (remove id actor)
      fun _ => True := by
  unfold remove
  split
  · exact Index.Respects.fail
  · exact store_remove_respects

end AdminRolesController

namespace SeedService

/-- The transformed addresses of the settings may be stored. -/
def Admits (runtime : Runtime) (Storable : String → Prop)
    (settings : SeedVariables) : Prop :=
  ∀ account ∈ accounts settings, ∀ email, given account.email = some email →
    Storable (lowerCaseTransformer runtime email)

theorem spares_check (accounts : List SeedAccount) :
    Spares runtime Storable column (check accounts) fun _ => True := by
  induction accounts with
  | nil => trivial
  | cons account rest ih =>
      unfold check
      split
      · trivial
      · split
        · trivial
        · exact ih

theorem spares_upsertRole {id : Nat} {name : String} :
    Spares runtime Storable column (upsertRole id name) fun _ => True := by
  apply spares_statement
  intro now db value writes ran
  cases stored : db.roles.find id with
  | none =>
      obtain rfl : ({ roles := [.put { id, name, resources := "" }] } :
          Writes) = writes := by simpa [stored] using ran
      exact ⟨⟨rfl, rfl⟩, trivial⟩
  | some row =>
      obtain rfl : ({ roles := [.put { row with name }] } : Writes) =
          writes := by simpa [stored] using ran
      exact ⟨⟨rfl, rfl⟩, trivial⟩

theorem spares_hashPassword {password : String} {tooLong : Failure} :
    Spares runtime Storable column (hashPassword runtime password tooLong)
      fun _ => True := by
  unfold hashPassword
  split
  · trivial
  · exact fun _ => trivial

theorem seedAccount_respects {account : SeedAccount}
    (admitted : ∀ email, given account.email = some email →
      Storable (lowerCaseTransformer runtime email)) :
    Respects runtime Storable column mayDraw ρ τ (seedAccount runtime account)
      fun _ => True := by
  unfold seedAccount
  cases sent : given account.email with
  | none => exact Index.Respects.ofWrites trivial
  | some raw =>
      cases given account.password with
      | none => exact Index.Respects.ofWrites trivial
      | some password =>
          dsimp only
          apply Index.Respects.bind query_respects
          intro known _
          split
          · exact Index.Respects.ofWrites trivial
          · apply Index.Respects.bind
              (Index.Respects.ofWrites spares_hashPassword)
            intro hash _
            apply Emails.insert_respects (fun _ _ => rfl) (fun _ _ => rfl)
            · rintro _ _ _ ⟨⟩
              exact admitted raw sent
            · exact fun _ _ => Index.Respects.ofWrites trivial

theorem seedAll_respects {accounts : List SeedAccount}
    (admitted : ∀ account ∈ accounts, ∀ email,
      given account.email = some email →
        Storable (lowerCaseTransformer runtime email)) :
    Respects runtime Storable column mayDraw ρ τ (seedAll runtime accounts)
      fun _ => True := by
  induction accounts with
  | nil => exact Index.Respects.ofWrites trivial
  | cons account rest ih =>
      apply Index.Respects.bind
        (seedAccount_respects (admitted account List.mem_cons_self))
      intro _ _
      exact ih fun other listed =>
        admitted other (List.mem_cons_of_mem _ listed)

theorem run_respects {settings : SeedVariables}
    (admitted : Admits runtime Storable settings) :
    Respects runtime Storable column mayDraw ρ τ (run runtime settings)
      fun _ => True := by
  apply Index.Respects.bind (Index.Respects.ofWrites (spares_check _))
  intro _ _
  apply Index.Respects.transaction
  apply Index.Respects.bind (Index.Respects.ofWrites spares_upsertRole)
  intro _ _
  apply Index.Respects.bind (Index.Respects.ofWrites spares_upsertRole)
  exact fun _ _ => seedAll_respects admitted

end SeedService

end SaasFoundation
