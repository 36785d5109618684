import SaasFoundation.Auth.Service
import SaasFoundation.Encoding.Cookies
import SaasFoundation.Encoding.Uri

/-!
# `auth/browser-auth.controller.ts`

The refresh token of a browser travels in a cookie.  The guards and the captcha
of the routes are not part of the model, and a request is handled at one
moment of the wall clock.
-/

namespace SaasFoundation

open Relational Transaction Cookies

/-- The settings of `platform/runtime.config.ts` the controller reads. -/
structure BrowserRuntime where
  production : Bool
  origins : List String
  deriving DecidableEq, Repr

/-- What `loadRuntimeConfig` makes of `NODE_ENV`, `APP_CORS_ORIGINS` and
`FRONTEND_DOMAIN`; `none` where it throws for want of origins.  Its checks of
other variables and, in production, of `https:` in the origins are left out:
where one of them throws, no controller runs. -/
def loadRuntimeConfig (environment corsOrigins frontendDomain : Option String) :
    Option BrowserRuntime :=
  let production := environment == some "production"
  let origins := Text.values
    ((AuthService.given corsOrigins <|> AuthService.given frontendDomain).getD "")
  if production && (origins.isEmpty || origins.contains "*") then none
  else some { production, origins }

/-- `JwtRefreshPayloadType`; a field a payload lacks is `none`. -/
structure JwtRefreshPayload where
  sessionId : Option Nat
  hash : Option Nat
  deriving DecidableEq, Repr

/-- `JwtService` with the refresh secret; times are in milliseconds. -/
structure RefreshJwt where
  sign : (sessionId hash : Nat) → (now : Int) → String
  /-- `none` when it throws. -/
  verify : String → (now : Int) → Option JwtRefreshPayload

/-- The headers of a request the controller reads. -/
structure BrowserRequest where
  origin : Option String
  cookie : Option String
  deriving DecidableEq, Repr

/-- An answer with its headers and the access token of its body. -/
structure SessionAnswer where
  cacheControl : String
  cookies : List SetCookie
  token : JwtPayload
  deriving DecidableEq, Repr

namespace BrowserAuthController

def untrusted : Failure := .forbidden "Untrusted request origin"

def unavailable : Failure := .forbidden "Session unavailable"

/-- Neither field is missing, and the id is not zero. -/
def session (payload : JwtRefreshPayload) : Option (Nat × Nat) :=
  (payload.sessionId.filter (· ≠ 0)).bind fun sessionId =>
    payload.hash.map fun hash => (sessionId, hash)

section Controller

variable (config : BrowserRuntime)

def trusted (request : BrowserRequest) : Bool :=
  config.origins.contains (request.origin.getD "")

def checkOrigin (request : BrowserRequest) : Tx Unit :=
  if trusted config request then pure () else Tx.throw untrusted

def cookieName : String :=
  if config.production then "__Host-refresh" else "refresh"

/-- A cookie with the options of `cookieOptions`. -/
def withOptions (value : String) : SetCookie where
  pair := cookieName config ++ "=" ++ Uri.encodeURIComponent value
  httpOnly := true
  secure := config.production
  sameSite := .strict
  path := "/"

/-- `response.clearCookie`. -/
def clearedCookie : SetCookie :=
  { withOptions config "" with expires := some 1 }

/-- The text of the cookie behind its name. -/
def sessionCookie (request : BrowserRequest) : Option String :=
  (request.cookie.bind fun header =>
      ((Text.splitAt ';' header).map Text.trim).find?
        (Text.startsWith · (cookieName config ++ "="))).map fun cookie =>
    .ofList (cookie.toList.drop ((cookieName config).length + 1))

variable (jwt : RefreshJwt) (lifetime now : Int)

def readSession (request : BrowserRequest) : Except Failure (Nat × Nat) :=
  match ((sessionCookie config request).bind Uri.decodeURIComponent).bind
      fun token => (jwt.verify token now).bind session with
  | none => .error unavailable
  | some found => .ok found

/-- `response.cookie` with `auth.refreshExpires` in milliseconds, on the token
pair `getTokensData` signs. -/
def sessionSet (tokens : Tokens) : SetCookie :=
  { withOptions config (jwt.sign tokens.sessionId tokens.hash now) with
    maxAge := some (lifetime / 1000)
    expires := some (now + lifetime) }

def setSession (tokens : Tokens) : SessionAnswer where
  cacheControl := "no-store"
  cookies := [sessionSet config jwt lifetime now tokens]
  token :=
    { id := tokens.userId, sessionId := tokens.sessionId, role := tokens.role }

def login (runtime : Runtime) (auth : AuthConfig) (email password : String)
    (request : BrowserRequest) : Tx SessionAnswer := do
  checkOrigin config request
  let tokens ← AuthService.validateLogin runtime auth email password
  pure (setSession config jwt lifetime now tokens)

def refresh (request : BrowserRequest) : Tx SessionAnswer := do
  checkOrigin config request
  match readSession config jwt now request with
  | .error failure => Tx.throw failure
  | .ok (sessionId, hash) => do
      let tokens ← AuthService.refreshToken sessionId hash
      pure (setSession config jwt lifetime now tokens)

/-- The cookies an answer sets, also when the request fails, and the request. -/
def logout (request : BrowserRequest) : List SetCookie × Tx Unit :=
  if trusted config request then
    ([clearedCookie config],
      match readSession config jwt now request with
      | .error _ => pure ()
      | .ok (sessionId, _) => AuthService.logout sessionId)
  else ([], Tx.throw untrusted)

end Controller

end BrowserAuthController

end SaasFoundation
