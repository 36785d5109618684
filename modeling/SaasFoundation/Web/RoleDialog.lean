import SaasFoundation.Accounts.RolesController

/-!
# `features/setting/components/roles/role-dialog.component.ts`
-/

namespace SaasFoundation

namespace Web

/-- The controls of the form. -/
structure RoleForm where
  name : String
  resources : List String
  deriving DecidableEq, Repr

namespace RoleDialogComponent

/-- `row` is the role that is edited. -/
def createForm (row : Option RoleRow) : RoleForm :=
  { name := (row.map RoleRow.name).getD ""
    resources :=
      ((Text.splitCommas ((row.map RoleRow.resources).getD "")).map
        Text.trim).filter (· ≠ "") }

/-- The payload of `save`. -/
def save (form : RoleForm) : AdminRoleDto :=
  { name := form.name, resources := ",".intercalate form.resources }

end RoleDialogComponent

end Web

end SaasFoundation
