import SaasFoundation.Api.Runs
import SaasFoundation.Users.Alone
import SaasFoundation.Utils.Words
import SaasFoundation.Web.RoleDialog

/-!
# The permissions of a role

A role keeps its permissions as one text.  It is written by
`AdminRolesController.validate`, read by `JwtStrategy.validate`, and taken
apart and joined again by the role dialog.
-/

namespace SaasFoundation

open Relational Transaction Tx Web

namespace AdminRolesController

variable {body : AdminRoleDto} {actor : Nat} {moment : Moment}

/-- The permissions a text asks for: trimmed, without empty pieces and
repeats. -/
def asked (resources : String) : List String :=
  (Text.values resources).eraseDups

/-- Every permission asked for is in the shared catalog. -/
def Known (resources : String) : Prop :=
  ∀ permission ∈ asked resources,
    permission ∈ Permission.catalog.map Permission.code

instance (resources : String) : Decidable (Known resources) :=
  inferInstanceAs (Decidable (∀ _ ∈ _, _))

/-- The text that is stored. -/
def stored (resources : String) : String :=
  ",".intercalate (asked resources)

theorem validate_eq (body : AdminRoleDto) :
    validate body =
      if Known body.resources then
        pure { body with resources := stored body.resources }
      else Tx.throw (.badRequest "Unknown permission") := by
  have unknown : ((asked body.resources).any fun permission =>
      decide (permission ∉ Permission.catalog.map Permission.code)) = true ↔
      ¬Known body.resources := by
    rw [List.any_eq_true, Known]
    push Not
    simp only [decide_eq_true_eq]
  by_cases known : Known body.resources
  · rw [if_pos known]
    exact if_neg fun some => unknown.mp some known
  · rw [if_neg known]
    exact if_pos (unknown.mpr known)

theorem clean_of_mem_asked {resources permission : String}
    (member : permission ∈ asked resources) : Text.Clean permission :=
  Text.clean_of_mem_values (List.mem_eraseDups.mp member)

theorem values_stored (resources : String) :
    Text.values (stored resources) = asked resources :=
  Text.values_intercalate fun _ => clean_of_mem_asked

theorem asked_stored (resources : String) :
    asked (stored resources) = asked resources := by
  rw [asked, values_stored]
  exact Text.eraseDups_of_nodup (Text.nodup_eraseDups _)

/-- A request to create a role, or to change one. -/
def submit (id : Option Nat) (body : AdminRoleDto) (actor : Nat) : Tx RoleRow :=
  match id with
  | none => create body actor
  | some id => update id body actor

/-- The role that is returned is stored, with the values of the request. -/
theorem serially_store {clock : Nat} {values : AdminRoleDto} {id : Option Nat}
    {post : RoleRow → Stand Db Writes → Prop} {failed : Failure → Db → Prop}
    {stand : Stand Db Writes} (rejected : ∀ failure db, failed failure db)
    (step : ∀ row later, row ∈ later.db.roles →
      row.resources = values.resources → post row later) :
    (AdminStore.save resource values.values actor id).serially clock post failed
      stand := by
  have answered {known : Option Nat} {row : RoleRow} {here : Stand Db Writes}
      (stored : row ∈ here.view.roles)
      (resources : row.resources = values.resources) :
      (AdminStore.answer resource actor known (some row)).serially clock
        (fun row later => post row later.commit)
        (fun failure db => failed (AdminMutationService.rethrow failure) db)
        here := by
    rw [AdminStore.answer, Program.serially_bind]
    refine AdminMutationService.serially_audit (fun _ _ => rejected _ _)
      fun activities => step row _ ?_ resources
    rw [Stand.db_commit, Stand.view_write, Stand.view_drawn]
    exact stored
  have put {row : RoleRow} {here : Stand Db Writes} :
      row ∈ (here.write { roles := [.put row] }).view.roles := by
    rw [Stand.view_write]
    exact Table.mem_put.mpr (.inl rfl)
  rw [save_values, AdminMutationService.mutate, Program.serially_mapError,
    Program.serially_transaction]
  cases id with
  | none =>
      simp only [insertRole_values, Program.serially_bind,
        Program.serially_draw, serially_execute]
      split
      · rename_i outcome ran
        split at ran
        · cases ran
        · cases ran
          exact answered put rfl
      · exact rejected _ _
  | some id =>
      simp only [updateRole_values, Program.serially_bind,
        serially_execute]
      split
      · rename_i outcome ran
        split at ran
        · cases ran
          exact rejected _ _
        · cases ran
          exact answered put rfl
      · exact rejected _ _

/-- The ways of a text that is accepted. -/
structure RoundTrips (body values : AdminRoleDto) : Prop where
  known : ∀ permission ∈ asked body.resources,
    permission ∈ Permission.catalog.map Permission.code
  stored : ∀ (moment : Moment) (actor : Nat) (id : Option Nat)
    (row : RoleRow) (after : Db),
    moment.outcome (submit id body actor) = (.ok row, after) →
    row ∈ after.roles ∧ row.resources = values.resources
  derived : ∀ (db : Db) (payload : JwtPayload) (identity : Identity)
    (row : RoleRow), row ∈ db.roles → row.resources = values.resources →
    JwtStrategy.identify db payload = some identity →
    identity.payload.role = some row.id →
    identity.permissions = asked body.resources
  resubmitted : validate { body with resources := values.resources } =
    pure { body with resources := values.resources }
  dialog : ∀ row : RoleRow, row.resources = values.resources →
    RoleDialogComponent.save (RoleDialogComponent.createForm (some row)) =
      { name := row.name, resources := row.resources }

/-- A successful request has stored the text. -/
def Stores (resources : String) : Except Failure RoleRow × Db → Prop
  | (.ok row, after) => row ∈ after.roles ∧ row.resources = resources
  | (.error _, _) => True

theorem stores_submit {id : Option Nat} (known : Known body.resources) :
    Stores (stored body.resources) (moment.outcome (submit id body actor)) := by
  have saved {id : Option Nat} :
      (validate body >>= fun values =>
          AdminStore.save resource values.values actor id).serially
        moment.clock
        (fun row later => Stores (stored body.resources) (.ok row, later.db))
        (fun failure db => Stores (stored body.resources) (.error failure, db))
        moment.stand := by
    rw [validate_eq, if_pos known, pure_bind]
    exact serially_store (fun _ _ => trivial)
      fun row later member resources => ⟨member, resources⟩
  rw [Moment.outcome_iff (Stores (stored body.resources))]
  cases id with
  | none => exact saved
  | some id =>
      unfold submit update
      dsimp only
      split
      · trivial
      · exact saved

theorem derived_of_stored {db : Db} {payload : JwtPayload} {identity : Identity}
    {row : RoleRow} {resources : String} (member : row ∈ db.roles)
    (text : row.resources = stored resources)
    (identified : JwtStrategy.identify db payload = some identity)
    (role : identity.payload.role = some row.id) :
    identity.permissions = asked resources := by
  obtain ⟨⟨roleId, csv⟩, account, rfl⟩ := Option.map_eq_some_iff.mp identified
  have csvOfRow : csv = row.resources := by
    unfold JwtStrategy.account at account
    split at account
    · split at account
      · obtain ⟨other, found, same⟩ := Option.map_eq_some_iff.mp account
        obtain ⟨id, _, stored⟩ := Option.bind_eq_some_iff.mp found
        cases same
        injection role with role
        rw [Table.eq_of_key (Table.find_eq_some.mp stored).1 member role]
      · cases account
    · cases account
  dsimp only
  rw [csvOfRow, text]
  exact Text.filter_splitCommas_intercalate fun _ => clean_of_mem_asked

/-- A text is accepted and read back everywhere as the permissions it asks
for, or it is rejected. -/
theorem permissions_round_trip (body : AdminRoleDto) :
    (∀ values, validate body = pure values → RoundTrips body values) ∧
    ((∃ permission ∈ asked body.resources,
      permission ∉ Permission.catalog.map Permission.code) →
      ∀ (moment : Moment) (actor : Nat) (id : Option Nat), ∃ failure,
        moment.outcome (submit id body actor) =
          (.error failure, moment.db)) := by
  constructor
  · intro values accepted
    rw [validate_eq] at accepted
    by_cases known : Known body.resources
    · rw [if_pos known] at accepted
      injection accepted with accepted
      subst accepted
      refine ⟨known, ?_, ?_, ?_, ?_⟩
      · intro moment actor id row after answered
        have stores : Stores (stored body.resources)
            (moment.outcome (submit id body actor)) := stores_submit known
        rw [answered] at stores
        exact stores
      · intro db payload identity row member text identified role
        exact derived_of_stored member text identified role
      · have again : Known (stored body.resources) := by
          rw [Known, asked_stored]
          exact known
        have same : stored (stored body.resources) = stored body.resources := by
          rw [stored, asked_stored, ← stored]
        rw [validate_eq, if_pos again, same]
      · intro row text
        have read : Text.values row.resources = asked body.resources := by
          rw [text]
          exact values_stored body.resources
        have joined : ",".intercalate (Text.values row.resources) =
            row.resources := by
          rw [read, text]
          rfl
        exact congrArg (AdminRoleDto.mk row.name) joined
    · rw [if_neg known] at accepted
      exact nomatch accepted
  · rintro ⟨permission, member, unknown⟩ moment actor id
    have rejected : ¬Known body.resources := fun known =>
      unknown (known permission member)
    have refused {id : Option Nat} :
        (validate body >>= fun values =>
          AdminStore.save resource values.values actor id) =
          Tx.throw (.badRequest "Unknown permission") := by
      rw [validate_eq, if_neg rejected]
      rfl
    cases id with
    | none =>
        refine ⟨.badRequest "Unknown permission", ?_⟩
        rw [submit, create, refused]
        rfl
    | some id =>
        by_cases builtIn : id ≤ 2
        · refine ⟨.badRequest "Built-in roles cannot be modified", ?_⟩
          rw [submit, update, if_pos builtIn]
          rfl
        · refine ⟨.badRequest "Unknown permission", ?_⟩
          rw [submit, update, if_neg builtIn, refused]
          rfl

/-- A text that is accepted, and what is stored. -/
example : validate ⟨"Clerk", " user:read,, account:read ,user:read"⟩ =
    pure ⟨"Clerk", "user:read,account:read"⟩ := by
  rw [validate_eq, if_pos (by decide +kernel)]
  exact congrArg pure (by decide +kernel)

end AdminRolesController

end SaasFoundation
