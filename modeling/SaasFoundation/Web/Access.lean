import SaasFoundation.Web.AuthService
import SaasFoundation.Accounts.RolesController
import SaasFoundation.Api.Runs

/-!
# What the client shows and what the server admits

`AuthService.hasAccess` decides in the browser which pages and buttons a role
gets, `PermissionGuard` on the server which requests.  Both read the same role,
the one through `GET /auth/me`, the other through `JwtStrategy`.
-/

namespace SaasFoundation

open Relational

namespace Web

namespace AuthService

/-- `resources.includes`, where a write implies the read. -/
def grants (resources : List String) (key : String) : Bool :=
  resources.contains key ||
    Text.endsWith key ":read" &&
      resources.contains (Text.replace key ":read" ":write")

/-- A single permission is a list of one. -/
def hasAccess (permission : List String) (auth : AuthService) : Bool :=
  if auth.session.roleId = some 1 then true
  else permission.any (grants (auth.session.resources.getD []))

end AuthService

/-- What `/auth/me` returns of a role. -/
def ApiRole.ofRow (role : RoleRow) : ApiRole :=
  { id := role.id, resources := some role.resources }

end Web

open Web

/-- The guard's rule for reads is the client's. -/
theorem Permission.writeCode_eq (permission : Permission) :
    permission.writeCode =
      if Text.endsWith permission.code ":read" then
        some (Text.replace permission.code ":read" ":write")
      else none := by
  cases permission <;> decide

theorem Permission.grants_code (permission : Permission)
    (resources : List String) :
    AuthService.grants resources permission.code =
      (resources.contains permission.code ||
        permission.writeCode.any resources.contains) := by
  rw [AuthService.grants, writeCode_eq]
  split
  · rename_i read
    rw [read, Bool.true_and]
    rfl
  · rename_i other
    rw [Bool.not_eq_true] at other
    rw [other, Bool.false_and]
    rfl

/-- Both sides decode the resources alike. -/
theorem hasAccess_applySession (auth : AuthService) (value : BrowserSession)
    (user : ApiUser) (role : RoleRow) (shown : value.user = some user)
    (has : user.role = some (.ofRow role)) (keys : List String) :
    (auth.applySession value).hasAccess keys =
      (decide (role.id = RoleId.admin) || keys.any (AuthService.grants
        ((Text.splitCommas role.resources).filter (· ≠ "")))) := by
  have admin : some (role.id : Int) = some 1 ↔ role.id = RoleId.admin := by
    rw [Option.some.injEq]
    exact Int.ofNat_inj
  simp only [AuthService.hasAccess, AuthService.applySession,
    Session.ofBrowserSession, shown, has, Option.bind_some, Option.map_some,
    ApiRole.ofRow, Option.getD_some, admin]
  by_cases builtIn : role.id = RoleId.admin
  · rw [if_pos builtIn, decide_eq_true builtIn, Bool.true_or]
  · rw [if_neg builtIn, decide_eq_false builtIn, Bool.false_or]

/-- The server admits what the client shows, except that it reserves the
writing of users and roles for the built-in administrator. -/
theorem canActivate_eq_hasAccess (db : Db) (payload : JwtPayload)
    (identity : Identity) (role : RoleRow) (auth : AuthService)
    (value : BrowserSession) (user : ApiUser) (permission : Permission)
    (loaded : JwtStrategy.account db payload.sessionId payload.id =
      some (role.id, role.resources))
    (identified : JwtStrategy.identify db payload = some identity)
    (shown : value.user = some user) (has : user.role = some (.ofRow role)) :
    PermissionGuard.canActivate identity (some permission) =
      ((auth.applySession value).hasAccess [permission.code] &&
        decide (role.id = RoleId.admin ∨
          permission ∉ [Permission.roleWrite, .userWrite])) := by
  simp only [JwtStrategy.identify, loaded, Option.map_some, Option.some.injEq]
    at identified
  subst identified
  rw [hasAccess_applySession auth value user role shown has,
    PermissionGuard.canActivate]
  simp only [Option.some.injEq, List.any_cons, List.any_nil, Bool.or_false,
    Permission.grants_code, ne_eq]
  by_cases builtIn : role.id = RoleId.admin
  · simp [builtIn]
  · by_cases reserved : permission ∈ [Permission.roleWrite, .userWrite]
    · rw [if_pos ⟨builtIn, reserved⟩]
      simp [builtIn, reserved]
    · rw [if_neg (fun both => reserved both.2)]
      simp [builtIn, reserved]

/-- A role `AdminRolesController` stores, and an account that has it. -/
def delegateRole : RoleRow := ⟨3, "Delegate", "role:write"⟩

def delegateDb : Db :=
  { Sample.world.db with
    roles := Sample.world.db.roles.put delegateRole
    users := (∅ : Table UserRow).put (Sample.user 5 3 "e")
    sessions := (∅ : Table SessionRow).put ⟨6, 5, 7, none⟩ }

def delegateIdentity : Identity := ⟨⟨5, 6, some 3⟩, ["role:write"]⟩

def delegateUser : ApiUser :=
  ⟨5, "e", none, none, some (.ofRow delegateRole)⟩

theorem canActivate_eq_hasAccess_delegate :
    PermissionGuard.canActivate delegateIdentity (some .roleRead) =
      ((AuthService.applySession ⟨"t", 0, some delegateUser⟩ {}).hasAccess
          [Permission.code .roleRead] &&
        decide (delegateRole.id = RoleId.admin ∨
          Permission.roleRead ∉ [Permission.roleWrite, .userWrite])) :=
  canActivate_eq_hasAccess delegateDb ⟨5, 6, none⟩ delegateIdentity delegateRole
    {} ⟨"t", 0, some delegateUser⟩ delegateUser .roleRead (by decide)
    (by decide) rfl rfl

/-- The guard refuses what the client shows. -/
theorem delegate_disagrees :
    AdminRolesController.validate ⟨"Delegate", "role:write"⟩ =
        pure ⟨"Delegate", "role:write"⟩ ∧
      JwtStrategy.account delegateDb 6 5 = some (3, "role:write") ∧
      JwtStrategy.identify delegateDb ⟨5, 6, none⟩ = some delegateIdentity ∧
      (AuthService.applySession ⟨"t", 0, some delegateUser⟩ {}).hasAccess
        [Permission.code .roleWrite] = true ∧
      PermissionGuard.canActivate delegateIdentity (some .roleWrite) = false :=
  ⟨rfl, by decide, by decide, by decide, by decide⟩

end SaasFoundation
