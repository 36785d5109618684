import SaasFoundation.Auth.Service

/-!
# `admin/permission.guard.ts`
-/

namespace SaasFoundation

/-- `libs/contracts/src/permissions.ts`. -/
inductive Permission where
  | activityRead
  | settingWrite
  | cityRead
  | cityWrite
  | regionRead
  | regionWrite
  | accountRead
  | accountWrite
  | roleRead
  | roleWrite
  | userRead
  | userWrite
  | currencyRead
  | currencyWrite
  | accountCreditRead
  | accountCreditWrite
  deriving DecidableEq, Repr

namespace Permission

def code : Permission → String
  | .activityRead => "activity:read"
  | .settingWrite => "setting:write"
  | .cityRead => "city:read"
  | .cityWrite => "city:write"
  | .regionRead => "region:read"
  | .regionWrite => "region:write"
  | .accountRead => "account:read"
  | .accountWrite => "account:write"
  | .roleRead => "role:read"
  | .roleWrite => "role:write"
  | .userRead => "user:read"
  | .userWrite => "user:write"
  | .currencyRead => "currency:read"
  | .currencyWrite => "currency:write"
  | .accountCreditRead => "account-credit:read"
  | .accountCreditWrite => "account-credit:write"

/-- `permission.replace(':read', ':write')` for a code that ends in `:read`. -/
def writeCode : Permission → Option String
  | .activityRead => some "activity:write"
  | .cityRead => some "city:write"
  | .regionRead => some "region:write"
  | .accountRead => some "account:write"
  | .roleRead => some "role:write"
  | .userRead => some "user:write"
  | .currencyRead => some "currency:write"
  | .accountCreditRead => some "account-credit:write"
  | _ => none

/-- `PERMISSIONS`. -/
def catalog : List Permission :=
  [.activityRead, .settingWrite, .cityRead, .cityWrite, .regionRead,
    .regionWrite, .accountRead, .accountWrite, .roleRead, .roleWrite,
    .userRead, .userWrite, .currencyRead, .currencyWrite, .accountCreditRead,
    .accountCreditWrite]

end Permission

namespace PermissionGuard

/-- `permission = none` is a handler without permission metadata. -/
def canActivate (identity : Identity) (permission : Option Permission) : Bool :=
  match permission with
  | none => false
  | some permission =>
      if identity.payload.role ≠ some RoleId.admin ∧
          permission ∈ [.roleWrite, .userWrite] then false
      else
        identity.payload.role = some RoleId.admin ||
          identity.permissions.contains permission.code ||
          permission.writeCode.any identity.permissions.contains

end PermissionGuard

end SaasFoundation
