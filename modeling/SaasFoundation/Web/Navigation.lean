import SaasFoundation.Web.Access
import SaasFoundation.Web.Router

/-!
# Navigation of the web application

`app.routes.ts`, `features/home/home.routes.ts`,
`features/platform/platform.routes.ts`, `core/nav/admin-nav.ts` and the guards
of `core/guard/auth.guard.ts`.  A url is the list of its path segments; the
return url of the login page is absent.
-/

namespace SaasFoundation

open Router

namespace Web

/-- `AdminTab`, without its name and symbol. -/
structure AdminTab where
  path : String
  permission : Permission
  deriving DecidableEq, Repr

def ADMIN_TABS : List AdminTab :=
  [{ path := "users", permission := .userRead },
    { path := "roles", permission := .roleRead },
    { path := "activity", permission := .activityRead },
    { path := "security", permission := .settingWrite },
    { path := "configuration", permission := .settingWrite },
    { path := "maintenance", permission := .settingWrite }]

/-- The components the routes load. -/
inductive AppPage where
  | accountAction (mode : String)
  | login
  | start
  | workspaces
  | workspaceDetail
  | joinWorkspace
  | profile
  | sectionIndex
  | users
  | roles
  | activities
  | loginBlocks
  | systemSettings
  | cache
  | status (statusCode : Option Nat)
  deriving DecidableEq, Repr

inductive RouteGuard where
  | authGuard
  | guestGuard
  | permissionGuard (permission : List Permission)
  | firstTabGuard (tabs : List AdminTab) (name : String)
  deriving DecidableEq, Repr

/-- What the guards ask the session about: `loggedIn` is what `isLoggedIn`
answers, `restored` what the refresh of `ensureSession` comes to otherwise, and
`auth` has the role of the session. -/
structure Visitor where
  loggedIn : Bool
  restored : Bool
  auth : AuthService

namespace Visitor

def ensureSession (visitor : Visitor) : Bool :=
  visitor.loggedIn || visitor.restored

def hasAccess (visitor : Visitor) (permission : List Permission) : Bool :=
  visitor.auth.hasAccess (permission.map Permission.code)

/-- `adminTabs` of the side navigation. -/
def adminTabs (visitor : Visitor) : List AdminTab :=
  ADMIN_TABS.filter fun tab => visitor.hasAccess [tab.permission]

/-- A list of permissions asks for one of them. -/
theorem hasAccess_of_mem {visitor : Visitor} {permissions : List Permission}
    {permission : Permission} (member : permission ∈ permissions)
    (allowed : visitor.hasAccess [permission] = true) :
    visitor.hasAccess permissions = true := by
  rw [hasAccess, AuthService.hasAccess] at allowed ⊢
  split
  · rfl
  · rename_i other
    rw [if_neg other, List.map_cons, List.any_cons, List.map_nil, List.any_nil,
      Bool.or_false] at allowed
    rw [List.any_map, List.any_eq_true]
    exact ⟨permission, member, allowed⟩

end Visitor

def RouteGuard.verdict (visitor : Visitor) : RouteGuard → Verdict
  | .authGuard => if visitor.ensureSession then .pass else .goTo ["login"]
  | .guestGuard => if visitor.loggedIn then .goTo ["start"] else .pass
  | .permissionGuard permission =>
      if visitor.hasAccess permission then .pass else .goTo ["403"]
  | .firstTabGuard tabs name =>
      match tabs.find? fun tab => visitor.hasAccess [tab.permission] with
      | none => .goTo ["403"]
      | some tab => .goTo [name, tab.path]

abbrev AppRoute := Router.Route RouteGuard AppPage

def literals (path : List String) : Path :=
  .segments (path.map .literal) false

def full (path : List String) : Path :=
  .segments (path.map .literal) true

def platformRoutes : List AppRoute :=
  [.page (full []) [.firstTabGuard ADMIN_TABS "admin"] .sectionIndex,
    .page (literals ["users"]) [.permissionGuard [.userRead]] .users,
    .page (literals ["roles"]) [.permissionGuard [.roleRead]] .roles,
    .page (literals ["activity"]) [.permissionGuard [.activityRead]]
      .activities,
    .page (literals ["security"]) [.permissionGuard [.settingWrite]]
      .loginBlocks,
    .page (literals ["configuration"]) [.permissionGuard [.settingWrite]]
      .systemSettings,
    .page (literals ["maintenance"]) [.permissionGuard [.settingWrite]] .cache]

def homeRoutes : List AppRoute :=
  [.group (literals []) [] [.authGuard]
    [.redirect (full []) ["start"],
      .page (literals ["start"]) [] .start,
      .page (literals ["workspaces"]) [] .workspaces,
      .page (.segments [.literal "workspaces", .param] false) []
        .workspaceDetail,
      .page (literals ["join"]) [] .joinWorkspace,
      .page (literals ["profile"]) [] .profile,
      .group (literals ["admin"])
        [.permissionGuard (ADMIN_TABS.map AdminTab.permission)] []
        platformRoutes,
      .redirect (full ["dashboard"]) ["start"],
      .redirect (full ["accounts", "users"]) ["admin", "users"],
      .redirect (full ["accounts", "roles"]) ["admin", "roles"],
      .redirect (full ["accounts", "login-blocks"]) ["admin", "security"],
      .redirect (full ["accounts"]) ["admin"],
      .redirect (full ["settings", "system"]) ["admin", "configuration"],
      .redirect (full ["settings", "activities"]) ["admin", "activity"],
      .redirect (full ["settings", "cache"]) ["admin", "maintenance"],
      .redirect (full ["settings"]) ["admin"],
      .page (literals ["403"]) [] (.status (some 403)),
      .page .wildcard [] (.status none)]]

/-- `routes` of `app.routes.ts`. -/
def appRoutes : List AppRoute :=
  [.page (literals ["register"]) [] (.accountAction "register"),
    .page (literals ["resend-confirmation"]) [] (.accountAction "resend"),
    .page (literals ["forgot-password"]) [] (.accountAction "forgot"),
    .page (literals ["password-change"]) [] (.accountAction "reset"),
    .page (literals ["confirm-email"]) [] (.accountAction "confirm"),
    .page (literals ["confirm-new-email"]) [] (.accountAction "confirm-new"),
    .page (literals ["login"]) [.guestGuard] .login,
    .group (literals []) [.authGuard] [] homeRoutes,
    .page .wildcard [] (.status none)]

/-- The page a url of the application ends at, within a number of
navigations. -/
def visit (visitor : Visitor) : Nat → List String → Option AppPage :=
  navigate (RouteGuard.verdict visitor) appRoutes

/-- The permission the screen of a page works with. -/
def AppPage.permission : AppPage → Option Permission
  | .users => some .userRead
  | .roles => some .roleRead
  | .activities => some .activityRead
  | .loginBlocks | .systemSettings | .cache => some .settingWrite
  | _ => none

/-- What a visitor without a session may see. -/
def AppPage.isPublic : AppPage → Bool
  | .accountAction _ | .login => true
  | _ => false

/-- The screen a tab stands for. -/
def AdminTab.page (tab : AdminTab) : AppPage :=
  if tab.path = "users" then .users
  else if tab.path = "roles" then .roles
  else if tab.path = "activity" then .activities
  else if tab.path = "security" then .loginBlocks
  else if tab.path = "configuration" then .systemSettings
  else .cache

def forbiddenPage : AppPage := .status (some 403)

/-- Paths of earlier versions and where they lead. -/
def movedPaths : List (List String × List String) :=
  [([], ["start"]), (["dashboard"], ["start"]),
    (["accounts", "users"], ["admin", "users"]),
    (["accounts", "roles"], ["admin", "roles"]),
    (["accounts", "login-blocks"], ["admin", "security"]),
    (["accounts"], ["admin"]),
    (["settings", "system"], ["admin", "configuration"]),
    (["settings", "activities"], ["admin", "activity"]),
    (["settings", "cache"], ["admin", "maintenance"]),
    (["settings"], ["admin"])]

/-- The routes in front of the last one. -/
def shownRoutes : List AppRoute := appRoutes.dropLast

theorem total_homeRoutes : Total homeRoutes := by
  refine total_of_group ?_ List.mem_cons_self
  refine @total_of_wildcard _ _ _ [] (.status none) ?_
  simp

theorem total_shownRoutes : Total shownRoutes := by
  refine @total_of_group _ _ _ homeRoutes [.authGuard] [] total_homeRoutes ?_
  simp [shownRoutes, appRoutes, literals]

theorem recognize_appRoutes (url : List String) :
    recognize appRoutes url = recognize shownRoutes url :=
  recognize_append total_shownRoutes [.page .wildcard [] (.status none)] url

theorem recognize_total (url : List String) :
    (recognize appRoutes url).isSome = true := by
  rw [recognize_appRoutes]
  exact total_shownRoutes _ _ _

theorem leaf_of_recognize {url : List String}
    {found : List RouteGuard × AppPage}
    (recognized : recognize appRoutes url = some found) :
    found ∈ leavesIn [] shownRoutes :=
  recognize_mem (recognize_appRoutes url ▸ recognized)

/-- The only tabs of a first tab guard are those of the administration. -/
def RouteGuard.known : RouteGuard → Bool
  | .firstTabGuard tabs name => tabs == ADMIN_TABS && name == "admin"
  | _ => true

/-- A page that is not public is behind the session guard, and one that needs
a permission is behind the guard that asks for it. -/
theorem leaf_guards : ∀ leaf ∈ leavesIn [] shownRoutes,
    (leaf.2.isPublic = true ∨ .authGuard ∈ leaf.1) ∧
      (∀ permission ∈ leaf.2.permission,
        .permissionGuard [permission] ∈ leaf.1) ∧
      ∀ guard ∈ leaf.1, guard.known = true := by
  decide +kernel

theorem recognize_tab : ∀ tab ∈ ADMIN_TABS,
    recognize appRoutes ["admin", tab.path] =
      some ([.authGuard, .authGuard,
        .permissionGuard (ADMIN_TABS.map AdminTab.permission), .authGuard,
        .permissionGuard [tab.permission]], tab.page) := by
  decide +kernel

theorem recognize_admin : recognize appRoutes ["admin"] =
    some ([.authGuard, .authGuard,
      .permissionGuard (ADMIN_TABS.map AdminTab.permission), .authGuard,
      .firstTabGuard ADMIN_TABS "admin"], .sectionIndex) := by
  decide +kernel

theorem recognize_login :
    recognize appRoutes ["login"] = some ([.guestGuard], .login) := by
  decide +kernel

theorem recognize_forbidden : recognize appRoutes ["403"] =
    some ([.authGuard, .authGuard], forbiddenPage) := by
  decide +kernel

theorem recognize_start : recognize appRoutes ["start"] =
    some ([.authGuard, .authGuard], .start) := by
  decide +kernel

theorem recognize_moved : ∀ moved ∈ movedPaths,
    recognize appRoutes moved.1 = recognize appRoutes moved.2 := by
  decide +kernel

variable {visitor : Visitor}

theorem allowed_of_find {tab : AdminTab}
    (found : (ADMIN_TABS.find? fun tab =>
      visitor.hasAccess [tab.permission]) = some tab) :
    visitor.hasAccess [tab.permission] = true :=
  @List.find?_some _ (fun tab => visitor.hasAccess [tab.permission]) tab _ found

theorem visit_succ {guards : List RouteGuard} {page : AppPage}
    {url : List String}
    (recognized : recognize appRoutes url = some (guards, page))
    (navigations : Nat) :
    visit visitor (navigations + 1) url =
      (objection (RouteGuard.verdict visitor) guards).elim (some page)
        (visit visitor navigations) :=
  navigate_succ recognized navigations

theorem visit_forbidden (known : visitor.ensureSession = true)
    (navigations : Nat) :
    visit visitor (navigations + 1) ["403"] = some forbiddenPage := by
  rw [visit_succ recognize_forbidden]
  simp only [objection, RouteGuard.verdict, known, if_true, Option.elim_none]

theorem visit_start (known : visitor.ensureSession = true)
    (navigations : Nat) :
    visit visitor (navigations + 1) ["start"] = some .start := by
  rw [visit_succ recognize_start]
  simp only [objection, RouteGuard.verdict, known, if_true, Option.elim_none]

theorem visit_login (navigations : Nat) :
    visit visitor (navigations + 2) ["login"] =
      some (if visitor.loggedIn then .start else .login) := by
  rw [visit_succ recognize_login]
  cases loggedIn : visitor.loggedIn with
  | true =>
      have session : visitor.ensureSession = true :=
        Bool.or_eq_true_iff.mpr (.inl loggedIn)
      simp only [objection, RouteGuard.verdict, loggedIn, if_true,
        Option.elim_some]
      exact visit_start session navigations
  | false =>
      simp only [objection, RouteGuard.verdict, loggedIn, Bool.false_eq_true,
        if_false, Option.elim_none]

theorem visit_login_guest (unknown : visitor.ensureSession = false)
    (navigations : Nat) :
    visit visitor (navigations + 1) ["login"] = some .login := by
  have out : visitor.loggedIn = false := (Bool.or_eq_false_iff.mp unknown).1
  rw [visit_succ recognize_login]
  simp only [objection, RouteGuard.verdict, out, Bool.false_eq_true, if_false,
    Option.elim_none]

/-- A tab opens its screen for those it is shown to. -/
theorem visit_tab (known : visitor.ensureSession = true) {tab : AdminTab}
    (member : tab ∈ ADMIN_TABS)
    (allowed : visitor.hasAccess [tab.permission] = true)
    (navigations : Nat) :
    visit visitor (navigations + 1) ["admin", tab.path] = some tab.page := by
  have parent :
      visitor.hasAccess (ADMIN_TABS.map AdminTab.permission) = true :=
    Visitor.hasAccess_of_mem (List.mem_map_of_mem member) allowed
  rw [visit_succ (recognize_tab tab member)]
  simp only [objection, RouteGuard.verdict, known, if_true, parent, allowed,
    Option.elim_none]

/-- The others are sent to the page that refuses. -/
theorem visit_tab_refused (known : visitor.ensureSession = true)
    {tab : AdminTab} (member : tab ∈ ADMIN_TABS)
    (refused : visitor.hasAccess [tab.permission] = false)
    (navigations : Nat) :
    visit visitor (navigations + 2) ["admin", tab.path] =
      some forbiddenPage := by
  rw [visit_succ (recognize_tab tab member)]
  -- The guard of the parent may refuse as well, and sends to the same page.
  by_cases parent :
      visitor.hasAccess (ADMIN_TABS.map AdminTab.permission) = true
  · simp only [objection, RouteGuard.verdict, known, if_true, parent, refused,
      Bool.false_eq_true, if_false, Option.elim_some]
    exact visit_forbidden known navigations
  · simp only [objection, RouteGuard.verdict, known, if_true, parent,
      Bool.false_eq_true, if_false, Option.elim_some]
    exact visit_forbidden known navigations

/-- The administration opens at the first tab that is shown. -/
theorem visit_admin (known : visitor.ensureSession = true)
    (navigations : Nat) :
    visit visitor (navigations + 2) ["admin"] =
      some ((visitor.adminTabs.head?.map AdminTab.page).getD
        forbiddenPage) := by
  have first : visitor.adminTabs.head? =
      ADMIN_TABS.find? fun tab => visitor.hasAccess [tab.permission] := by
    rw [Visitor.adminTabs, List.head?_filter]
  rw [first, visit_succ recognize_admin]
  cases found : ADMIN_TABS.find? fun tab =>
      visitor.hasAccess [tab.permission] with
  | none =>
      by_cases parent :
          visitor.hasAccess (ADMIN_TABS.map AdminTab.permission) = true
      · simp only [objection, RouteGuard.verdict, known, if_true, parent, found,
          Option.elim_some, Option.map_none, Option.getD_none]
        exact visit_forbidden known navigations
      · simp only [objection, RouteGuard.verdict, known, if_true, parent,
          Bool.false_eq_true, if_false, Option.elim_some, Option.map_none,
          Option.getD_none]
        exact visit_forbidden known navigations
  | some tab =>
      have member := List.mem_of_find?_eq_some found
      have allowed := allowed_of_find found
      have parent :
          visitor.hasAccess (ADMIN_TABS.map AdminTab.permission) = true :=
        Visitor.hasAccess_of_mem (List.mem_map_of_mem member) allowed
      simp only [objection, RouteGuard.verdict, known, if_true, parent, found,
        Option.elim_some, Option.map_some, Option.getD_some]
      exact visit_tab known member allowed navigations

/-- A page behind the session guard is not for visitors without a session. -/
theorem visit_guarded (unknown : visitor.ensureSession = false)
    {url : List String} {guards : List RouteGuard} {page : AppPage}
    (recognized : recognize appRoutes url = some (.authGuard :: guards, page)) :
    visit visitor 2 url = some .login := by
  rw [visit_succ recognized]
  simp only [objection, RouteGuard.verdict, unknown, Bool.false_eq_true,
    if_false, Option.elim_some]
  exact visit_login_guest unknown 0

theorem isSome_forbidden : (visit visitor 2 ["403"]).isSome = true := by
  cases session : visitor.ensureSession with
  | true => rw [visit_forbidden session 1, Option.isSome_some]
  | false => rw [visit_guarded session recognize_forbidden, Option.isSome_some]

/-- Wherever a guard sends a navigation, it ends two navigations later. -/
theorem isSome_of_goTo {guard : RouteGuard} {url : List String}
    (known : guard.known = true)
    (sent : guard.verdict visitor = .goTo url) :
    (visit visitor 2 url).isSome = true := by
  cases guard with
  | authGuard =>
      rw [RouteGuard.verdict] at sent
      split at sent
      · exact absurd sent (by simp)
      · rename_i unknown
        obtain rfl := Verdict.goTo.inj sent
        rw [visit_login_guest (Bool.eq_false_iff.mpr unknown) 1,
          Option.isSome_some]
  | guestGuard =>
      rw [RouteGuard.verdict] at sent
      split at sent
      · rename_i loggedIn
        obtain rfl := Verdict.goTo.inj sent
        have session : visitor.ensureSession = true :=
          Bool.or_eq_true_iff.mpr (.inl loggedIn)
        rw [visit_start session 1, Option.isSome_some]
      · exact absurd sent (by simp)
  | permissionGuard permission =>
      rw [RouteGuard.verdict] at sent
      split at sent
      · exact absurd sent (by simp)
      · obtain rfl := Verdict.goTo.inj sent
        exact isSome_forbidden
  | firstTabGuard tabs name =>
      rw [RouteGuard.known, Bool.and_eq_true, beq_iff_eq, beq_iff_eq] at known
      obtain ⟨rfl, rfl⟩ := known
      rw [RouteGuard.verdict] at sent
      cases found : ADMIN_TABS.find? fun tab =>
          visitor.hasAccess [tab.permission] with
      | none =>
          rw [found] at sent
          obtain rfl := Verdict.goTo.inj sent
          exact isSome_forbidden
      | some tab =>
          rw [found] at sent
          obtain rfl := Verdict.goTo.inj sent
          have member := List.mem_of_find?_eq_some found
          cases session : visitor.ensureSession with
          | true =>
              rw [visit_tab session member (allowed_of_find found) 1,
                Option.isSome_some]
          | false =>
              rw [visit_guarded session (recognize_tab tab member),
                Option.isSome_some]

/-- Every navigation ends, at a page that the guards let through. -/
structure Navigates (visitor : Visitor) : Prop where
  /-- A third navigation is the last one, whatever the url. -/
  ends : ∀ url, ∃ page, visit visitor 3 url = some page
  /-- Pages with a permission are for those who hold it. -/
  permitted : ∀ navigations url page,
    visit visitor navigations url = some page →
      (∀ permission ∈ page.permission, visitor.hasAccess [permission] = true) ∧
        (visitor.ensureSession = false → page.isPublic = true)
  /-- A tab that is shown opens its screen, another one is refused. -/
  tabs : visitor.ensureSession = true → ∀ tab ∈ ADMIN_TABS,
    visit visitor 2 ["admin", tab.path] =
      some (if tab ∈ visitor.adminTabs then tab.page else forbiddenPage)
  index : visitor.ensureSession = true → visit visitor 2 ["admin"] =
    some ((visitor.adminTabs.head?.map AdminTab.page).getD forbiddenPage)
  moved : ∀ moved ∈ movedPaths, ∀ navigations,
    visit visitor navigations moved.1 = visit visitor navigations moved.2
  /-- The login page is for those who are not logged in. -/
  login : visit visitor 2 ["login"] =
    some (if visitor.loggedIn then .start else .login)

theorem navigates (visitor : Visitor) : Navigates visitor where
  ends := by
    intro url
    apply Option.isSome_iff_exists.mp
    apply navigate_isSome (fun _ _ => leaf_of_recognize) recognize_total
    intro found member guard asked elsewhere sent
    exact isSome_of_goTo ((leaf_guards found member).2.2 guard asked) sent
  permitted := by
    intro navigations url page reached
    obtain ⟨guards, member, passed⟩ :=
      guards_of_navigate (fun _ _ => leaf_of_recognize) reached
    obtain ⟨visible, asked, _⟩ := leaf_guards _ member
    constructor
    · intro permission needed
      have pass := passed _ (asked permission needed)
      rw [RouteGuard.verdict] at pass
      split at pass
      · assumption
      · exact absurd pass (by simp)
    · intro unknown
      obtain free | guarded := visible
      · exact free
      · have pass := passed _ guarded
        rw [RouteGuard.verdict, unknown] at pass
        exact absurd pass (by simp)
  tabs := by
    intro known tab member
    by_cases allowed : visitor.hasAccess [tab.permission] = true
    · have shown : tab ∈ visitor.adminTabs :=
        List.mem_filter.mpr ⟨member, allowed⟩
      rw [if_pos shown]
      exact visit_tab known member allowed 1
    · have absent : tab ∉ visitor.adminTabs := by
        intro shown
        exact allowed (List.mem_filter.mp shown).2
      rw [if_neg absent]
      exact visit_tab_refused known member (Bool.eq_false_iff.mpr allowed) 0
  index := by
    intro known
    exact visit_admin known 0
  moved := by
    intro moved member navigations
    cases navigations with
    | zero => rfl
    | succ navigations =>
        rw [visit, navigate, navigate, recognize_moved moved member]
  login := visit_login 0

end Web

end SaasFoundation
