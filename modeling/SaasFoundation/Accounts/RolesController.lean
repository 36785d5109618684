import SaasFoundation.Admin.AdminStore
import SaasFoundation.Auth.PermissionGuard

/-!
# `admin/roles.controller.ts` and the role resource of `AdminStore`
-/

namespace SaasFoundation

open Relational Transaction

/-- `AdminRoleDto`. -/
structure AdminRoleDto where
  name : String
  resources : String
  deriving DecidableEq, Repr

def AdminRoleDto.values (body : AdminRoleDto) : Values :=
  [("name", some (.text body.name)),
    ("resources", some (.text body.resources))]

namespace AdminRolesController

/-- The text that is given for a column. -/
def given (changes : List (String × Cell)) (column : String) : Option String :=
  match changes.lookup column with
  | some (.text value) => some value
  | _ => none

/-- `INSERT INTO role ... RETURNING`. -/
def insertRole (id : Nat) (changes : List (String × Cell)) :
    Tx (Option RoleRow) :=
  .execute (fun _ => []) fun _ db =>
    match given changes "name", given changes "resources" with
    | some name, some resources =>
        if (db.roles.find id).isSome then
          .error (.query .uniqueViolation (some .primaryKey))
        else
          let row : RoleRow := { id, name, resources }
          .ok (some row, { roles := [.put row] })
    | _, _ => .error (.error "null value violates not-null constraint")

/-- `UPDATE role SET ... WHERE id = $1 RETURNING`. -/
def updateRole (id : Nat) (changes : List (String × Cell)) :
    Tx (Option RoleRow) :=
  .execute
    (fun db => if (db.roles.find id).isSome then
      [(.role id, .update)] else [])
    fun _ db =>
      match db.roles.find id with
      | none => .ok (none, ∅)
      | some stored =>
          let row : RoleRow :=
            { stored with
              name := (given changes "name").getD stored.name
              resources := (given changes "resources").getD stored.resources }
          .ok (some row, { roles := [.put row] })

/-- `DELETE FROM role WHERE id = $1`; the affected count. -/
def deleteRole (id : Nat) : Tx Nat :=
  .execute
    (fun db => if (db.roles.find id).isSome then
      [(.role id, .update)] else [])
    fun _ db =>
      if (db.roles.find id).isNone then .ok (0, ∅)
      else if db.users.rows.any fun user => user.roleId = some id then
        .error (.query .foreignKeyViolation (some .userRole))
      else .ok (1, { roles := [.drop id] })

/-- `roles` of `admin/catalog-resources.ts`. -/
def resource : WritableResource Db Writes Lock Draw RoleRow where
  writable := ["name", "resources"]
  eventPrefix := "role"
  insert changes := do
    let id ← Program.draw .roleId
    insertRole id changes
  update := updateRole
  delete := deleteRole

def validate (body : AdminRoleDto) : Tx AdminRoleDto :=
  let permissions := (((Text.splitCommas body.resources).map Text.trim).filter
    (· ≠ "")).eraseDups
  if permissions.any fun permission =>
      permission ∉ Permission.catalog.map Permission.code then
    Tx.throw (.badRequest "Unknown permission")
  else pure { body with resources := ",".intercalate permissions }

def create (body : AdminRoleDto) (actor : Nat) : Tx RoleRow := do
  let values ← validate body
  AdminStore.save resource values.values actor none

def update (id : Nat) (body : AdminRoleDto) (actor : Nat) : Tx RoleRow :=
  if id ≤ 2 then
    Tx.throw (.badRequest "Built-in roles cannot be modified")
  else do
    let values ← validate body
    AdminStore.save resource values.values actor (some id)

def remove (id actor : Nat) : Tx Unit :=
  if id ≤ 2 then Tx.throw (.badRequest "Built-in roles cannot be deleted")
  else AdminStore.remove resource id actor

theorem insert_eq (changes : List (String × Cell)) :
    resource.insert changes =
      (Program.draw .roleId >>= fun id => insertRole id changes) :=
  rfl

theorem update_eq (id : Nat) (changes : List (String × Cell)) :
    resource.update id changes = updateRole id changes :=
  rfl

/-- What `INSERT` makes of a body. -/
theorem insertRole_values (id : Nat) (body : AdminRoleDto) :
    insertRole id (AdminStore.changes resource body.values) =
      Tx.execute (fun _ => []) fun _ db =>
        if (db.roles.find id).isSome then
          .error (.query .uniqueViolation (some .primaryKey))
        else
          .ok (some ⟨id, body.name, body.resources⟩,
            { roles := [.put ⟨id, body.name, body.resources⟩] }) :=
  rfl

/-- What `UPDATE` makes of a body. -/
theorem updateRole_values (id : Nat) (body : AdminRoleDto) :
    updateRole id (AdminStore.changes resource body.values) =
      Tx.execute
        (fun db => if (db.roles.find id).isSome then
          [(.role id, .update)] else [])
        fun _ db =>
          match db.roles.find id with
          | none => .ok (none, ∅)
          | some stored =>
              .ok (some
                  { stored with name := body.name, resources := body.resources },
                { roles := [.put
                  { stored with
                    name := body.name, resources := body.resources }] }) :=
  rfl

/-- A save runs one of the two statements. -/
theorem save_values (body : AdminRoleDto) (actor : Nat) (id : Option Nat) :
    AdminStore.save resource body.values actor id =
      AdminMutationService.mutate (do
        let row ← match id with
          | none => do
              let id ← Program.draw .roleId
              insertRole id (AdminStore.changes resource body.values)
          | some id => updateRole id (AdminStore.changes resource body.values)
        AdminStore.answer resource actor id row) := by
  cases id with
  | none => rfl
  | some id => rfl

end AdminRolesController

end SaasFoundation
