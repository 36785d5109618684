import SaasFoundation.Web.AuthService

/-!
# `core/interceptor/http.interceptor.ts`

`apiInterceptor` for one request, and `AuthService.logout`, which sends its own
request through it.
-/

namespace SaasFoundation

open Relational

namespace Web

inductive InterceptedStage where
  | refreshing
  | sent (retried : Bool)
  | settled (status : Nat)
  deriving DecidableEq, Repr

/-- A request of `HttpClient`; `login` marks the one `AuthService.login` sends. -/
structure HttpRequest where
  url : String
  method : String
  localFeedback : Bool := false
  login : Bool := false
  deriving DecidableEq, Repr

/-- A request inside the interceptor; `spinners` counts the finalizers that
still have to hide the spinner. -/
structure Intercepted extends HttpRequest where
  id : Nat
  stage : InterceptedStage
  spinners : Nat
  deriving DecidableEq, Repr

instance : Keyed Intercepted Nat := ⟨Intercepted.id⟩

@[simp] theorem Intercepted.key_eq (request : Intercepted) :
    key request = request.id := rfl

/-- What a call of `refreshAccessToken` or `ensureSession` ended with. -/
inductive Outcome where
  | token (value : String)
  | failed
  | ready (loggedIn : Bool)
  deriving DecidableEq, Repr

structure InvalidParam where
  field : Option String
  reason : Option String
  deriving DecidableEq, Repr

/-- A request that left the browser, with the bearer token it carries. -/
structure Transmission where
  request : Nat
  bearer : Option String
  deriving DecidableEq, Repr

/-- The services of one tab. -/
structure Browser where
  auth : AuthService := {}
  requests : Table Intercepted := ∅
  nextRequest : Nat := 0
  transmitted : List Transmission := []
  nextCall : Nat := 0
  outcomes : List (Nat × Outcome) := []
  messages : List (Nat × Option String) := []
  fieldErrors : List InvalidParam := []
  spinner : Nat := 0
  url : String := "/"
  navigations : List (Option String) := []

/-- `environment.apiUrl`. -/
def apiUrl : String := "/api/v1"

def mutating : List String := ["POST", "PUT", "PATCH", "DELETE"]

def includes (text piece : String) : Bool :=
  text.toList.tails.any piece.toList.isPrefixOf

def endsWith (text piece : String) : Bool :=
  piece.toList.isSuffixOf text.toList

def isAuthPublic (url : String) : Bool :=
  includes url "/auth/browser/" ||
    ["/auth/email/register", "/auth/email/resend", "/auth/email/confirm",
      "/auth/email/confirm/new", "/auth/forgot/password",
      "/auth/reset/password"].any (endsWith url)

/-- `message` or `error` of an error body. -/
inductive Payload where
  | absent
  | text (value : String)
  | invalid (params : List InvalidParam)
  deriving DecidableEq, Repr

structure ErrorResponse where
  status : Nat
  payload : Payload
  errors : Option (List (String × String))
  message : String
  deriving DecidableEq, Repr

/-- What the back end answers; the answer to a login carries a session. -/
inductive Response where
  | success (status : Nat) (session : Option BrowserSession)
  | failure (error : ErrorResponse)
  deriving DecidableEq, Repr

namespace HttpRequest

def publicAuth (request : HttpRequest) : Bool := isAuthPublic request.url

def inApi (request : HttpRequest) : Bool :=
  request.url == apiUrl || (apiUrl ++ "/").toList.isPrefixOf request.url.toList

def showSpinner (request : HttpRequest) : Bool :=
  mutating.contains request.method &&
    !endsWith request.url "/auth/browser/refresh"

end HttpRequest

namespace Browser

def raise (status : Nat) (message : Option String) (browser : Browser) :
    Browser :=
  { browser with messages := browser.messages ++ [(status, message)] }

/-- A request waits for a refresh. -/
def awaitRefresh (request : Intercepted) (browser : Browser) : Browser :=
  { browser with
    requests := browser.requests.put { request with stage := .refreshing }
    auth := browser.auth.refreshAccessToken (.request request.id) }

def store (request : Intercepted) (browser : Browser) : Browser :=
  { browser with requests := browser.requests.put request }

/-- `send(withToken(token, retried))`. -/
def send (request : Intercepted) (token : Option String) (retried : Bool)
    (browser : Browser) : Browser :=
  let bearer :=
    if request.publicAuth then none
    else some ((token <|> browser.auth.session.token).getD "")
  let shown := if request.showSpinner then 1 else 0
  { browser.store
      { request with
        stage := .sent retried, spinners := request.spinners + shown } with
    spinner := browser.spinner + shown
    transmitted := browser.transmitted ++ [{ request := request.id, bearer }] }

/-- The request is over: its finalizers hide the spinners it has shown. -/
def settle (request : Intercepted) (status : Nat) (browser : Browser) :
    Browser :=
  { browser.store { request with stage := .settled status, spinners := 0 } with
    spinner := browser.spinner - request.spinners }

/-- `apiInterceptor`, up to the moment it has to wait for something. -/
def intercept (expiry : String → Option Int) (now : Int)
    (http : HttpRequest) (browser : Browser) : Browser :=
  let request : Intercepted :=
    { http with
      id := browser.nextRequest, stage := .refreshing, spinners := 0 }
  let arrived := { browser with nextRequest := browser.nextRequest + 1 }
  if !request.inApi || includes request.url "assets/i18n" then
    { arrived.store { request with stage := .sent false } with
      transmitted :=
        browser.transmitted ++ [{ request := request.id, bearer := none }] }
  else
    let cleared := { arrived with fieldErrors := [] }
    if !request.publicAuth &&
        isTokenExpired expiry now browser.auth.session.token then
      cleared.awaitRefresh request
    else cleared.send request none false

/-- `router.navigate(['/login'], …)`. -/
def navigateToLogin (notify : Bool) (browser : Browser) : Browser :=
  let returnUrl :=
    if !notify && isAppReturnUrl browser.url then some browser.url else none
  { browser with navigations := browser.navigations ++ [returnUrl] }

/-- `logout`. -/
def logout (expiry : String → Option Int) (now : Int) (notify : Bool)
    (browser : Browser) : Browser :=
  let forgotten := { browser with auth := browser.auth.forget }
  if notify then
    ((forgotten.intercept expiry now
          { url := "/api/v1/auth/browser/logout", method := "POST" })
        |>.navigateToLogin notify).raise 200 (some "messages.loggedOut")
  else forgotten.navigateToLogin notify

/-- `logout(false)`. -/
def dismiss (browser : Browser) : Browser :=
  { browser with auth := browser.auth.forget }.navigateToLogin false

/-- `sessionExpired()`; the error it throws ends the request. -/
def sessionExpired (request : Intercepted) (browser : Browser) : Browser :=
  ((browser.raise 401 (some "errors.sessionExpired")).dismiss).settle request 401

def Payload.message : Payload → Option String
  | .text value => some value
  | _ => none

/-- The messages and field errors of an error that is not a 401. -/
def report (request : Intercepted) (error : ErrorResponse)
    (browser : Browser) : Browser :=
  if request.localFeedback then browser
  else if error.status = 403 then
    browser.raise 403 (Payload.message error.payload)
  else
    match error.errors, error.payload with
    | some errors, _ =>
        { browser with
          fieldErrors := errors.map fun (name, reason) =>
            ⟨some name, some reason⟩ }.raise error.status
            (some "Please check the highlighted fields.")
    | none, .invalid (first :: rest) =>
        { browser with fieldErrors := first :: rest }.raise error.status
          first.reason
    | none, .text value => browser.raise error.status (some value)
    | none, .invalid [] => browser.raise error.status none
    | none, .absent => browser.raise error.status (some error.message)

/-- The answer to a transmitted request. -/
def answered (request : Intercepted) (retried : Bool) (response : Response)
    (browser : Browser) : Browser :=
  if !request.inApi || includes request.url "assets/i18n" then
    match response with
    | .success status _ => browser.settle request status
    | .failure error => browser.settle request error.status
  else
    match response with
    | .success status session =>
        let toasted :=
          if status = 200 && request.showSpinner && !request.publicAuth &&
              !request.localFeedback then
            browser.raise 200 (some "messages.saved")
          else browser
        let applied :=
          match session with
          | some value =>
              if request.login then
                { toasted with auth := toasted.auth.login value }
              else toasted
          | none => toasted
        applied.settle request status
    | .failure error =>
        if request.publicAuth then browser.settle request error.status
        else if error.status = 401 then
          if retried then
            ((browser.raise 401 (Payload.message error.payload)).dismiss).settle
              request 401
          else
            browser.awaitRefresh request
        else (browser.report request error).settle request error.status

/-- `AuthService.ensureSession`. -/
def ensureSession (expiry : String → Option Int) (now : Int)
    (browser : Browser) : Browser :=
  let called := { browser with nextCall := browser.nextCall + 1 }
  if browser.auth.isLoggedIn expiry now then
    { called with
      outcomes := browser.outcomes ++ [(browser.nextCall, .ready true)] }
  else
    { called with
      auth := browser.auth.refreshAccessToken (.recovery browser.nextCall) }

/-- `AuthService.login`. -/
def login (expiry : String → Option Int) (now : Int) (browser : Browser) :
    Browser :=
  browser.intercept expiry now
    { url := "/api/v1/auth/browser/login", method := "POST", login := true }

end Browser

end Web

end SaasFoundation
