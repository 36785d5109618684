import SaasFoundation.Utils.Text

/-!
# Values of the browser session

`core/models/models.ts`, the interfaces of `core/services/auth.service.ts`,
`core/util/jwt.ts` and `core/util/return-url.ts`.
-/

namespace SaasFoundation

namespace Web

structure ApiRole where
  id : Int
  resources : Option String
  deriving DecidableEq, Repr

structure ApiUser where
  id : Int
  email : String
  firstName : Option String
  lastName : Option String
  role : Option ApiRole
  deriving DecidableEq, Repr

structure BrowserSession where
  token : String
  tokenExpires : Int
  user : Option ApiUser
  deriving DecidableEq, Repr

structure Session where
  token : Option String := none
  id : Option Int := none
  email : Option String := none
  username : Option String := none
  fullName : Option String := none
  roleId : Option Int := none
  resources : Option (List String) := none
  deriving DecidableEq, Repr

namespace Session

/-- `[firstName, lastName].filter(Boolean).join(' ')`. -/
def fullNameOf (user : Option ApiUser) : String :=
  let names := [user.bind ApiUser.firstName, user.bind ApiUser.lastName]
  let given := names.filterMap fun name => name.filter (· ≠ "")
  .ofList ([' '].intercalate (given.map String.toList))

/-- The session `applySession` stores. -/
def ofBrowserSession (value : BrowserSession) : Session where
  token := some value.token
  id := value.user.map ApiUser.id
  email := value.user.map ApiUser.email
  username := value.user.map ApiUser.email
  fullName := some (fullNameOf value.user)
  roleId := (value.user.bind ApiUser.role).map ApiRole.id
  resources :=
    let csv := (value.user.bind ApiUser.role).bind ApiRole.resources
    some ((csv.map Text.splitCommas).getD [] |>.filter (· ≠ ""))

end Session

/-- `split('.')`. -/
def splitDots (text : String) : List String :=
  (Text.splitList (· == '.') false false text.toList).map .ofList

/-- `isTokenExpired`; `expiry` is the numeric `exp` that `atob` and
`JSON.parse` find in the payload part, if they find one. -/
def isTokenExpired (expiry : String → Option Int) (now : Int)
    (token : Option String) : Bool :=
  match token with
  | none => true
  | some text =>
      if text = "" then true
      else
        match splitDots text with
        | [_, payload, _] =>
            match expiry payload with
            | none => false
            | some seconds => seconds * 1000 ≤ now + 30000
        | _ => false

/-- `isAppReturnUrl`. -/
def isAppReturnUrl (url : String) : Bool :=
  let starts (text : String) := text.toList.isPrefixOf url.toList
  url ≠ "" && starts "/" && !starts "//" && !starts "/login"

end Web

end SaasFoundation
