import SaasFoundation.Web.Interceptor

/-!
# Runs of the browser

One event at a time: a call, a response, one subscriber told, or a finalizer
run.  A subscriber may react with calls of its own, which are further events.
-/

namespace SaasFoundation

open Relational

namespace Web

inductive Event where
  | login (now : Int)
  | logout (now : Int) (notify : Bool)
  | updateCurrentUser (user : ApiUser)
  | refreshAccessToken
  | ensureSession (now : Int)
  | request (now : Int) (http : HttpRequest)
  | answer (request : Nat) (response : Response)
  | posted (operation : Nat) (response : Option BrowserSession)
  | loaded (operation : Nat) (response : Option ApiUser)
  | deliver (operation : Nat)
  | finish (operation : Nat)
  | arrive (url : String)
  deriving DecidableEq, Repr

/-- The refresh an event belongs to. -/
def Event.operation : Event → Option Nat
  | .posted id _ | .loaded id _ | .deliver id | .finish id => some id
  | _ => none

/-- The refresh whose finalizer an event runs. -/
def Event.finalizes : Event → Option Nat
  | .finish id => some id
  | _ => none

theorem Event.finalizes_of_call {event : Event}
    (calls : event.operation = none) : event.finalizes = none := by
  cases event with
  | finish => cases calls
  | _ => rfl

namespace Browser

/-- One subscriber learns the token, or that the refresh failed. -/
def tell (subscriber : Subscriber) (token : Option String) (browser : Browser) :
    Browser :=
  match subscriber with
  | .call id =>
      { browser with
        outcomes := browser.outcomes ++ [(id, token.elim .failed .token)] }
  | .recovery id =>
      { browser with
        outcomes := browser.outcomes ++ [(id, .ready token.isSome)] }
  | .request id =>
      match browser.requests.find id with
      | none => browser
      | some request =>
          match token with
          | some value => browser.send request (some value) true
          | none => browser.sessionExpired request

/-- The token goes to the next subscriber, or the error does. -/
def deliver (operation : Operation) (browser : Browser) : Option Browser :=
  let told := { browser with auth := browser.auth.told operation }
  match operation.subscribers, operation.stage with
  | subscriber :: _, .succeeded token =>
      some (told.tell subscriber (some token))
  | subscriber :: _, .failed => some (told.tell subscriber none)
  | _, _ => none

/-- The finalizer runs once the subscribers have the token or the error. -/
def finish (operation : Operation) (browser : Browser) : Option Browser :=
  if operation.finalized then none
  else
    match operation.subscribers, operation.stage with
    | [], .succeeded _ | [], .failed =>
        some { browser with auth := browser.auth.finish operation }
    | _, _ => none

variable (expiry : String → Option Int)

/-- The effect of an event; `none` when it cannot happen. -/
def perform (event : Event) (browser : Browser) : Option Browser :=
  match event with
  | .login now => some (browser.login expiry now)
  | .logout now notify => some (browser.logout expiry now notify)
  | .updateCurrentUser user =>
      some { browser with auth := browser.auth.updateCurrentUser user }
  | .refreshAccessToken =>
      some
        { browser with
          nextCall := browser.nextCall + 1
          auth := browser.auth.refreshAccessToken (.call browser.nextCall) }
  | .ensureSession now => some (browser.ensureSession expiry now)
  | .request now http => some (browser.intercept expiry now http)
  | .answer id response => do
      let request ← browser.requests.find id
      match request.stage with
      | .sent retried => some (browser.answered request retried response)
      | _ => none
  | .posted id response => do
      let operation ← browser.auth.operations.find id
      if operation.stage = .posting then
        some { browser with auth := browser.auth.posted operation response }
      else none
  | .loaded id response => do
      let operation ← browser.auth.operations.find id
      match operation.stage with
      | .loading value =>
          some
            { browser with
              auth := browser.auth.loaded operation value response }
      | _ => none
  | .deliver id => do
      let operation ← browser.auth.operations.find id
      browser.deliver operation
  | .finish id => do
      let operation ← browser.auth.operations.find id
      browser.finish operation
  | .arrive url => some { browser with url }

/-- Every event advances the clock. -/
def step (event : Event) (browser : Browser) : Option Browser :=
  { browser with auth := browser.auth.tick }.perform expiry event

end Browser

/-- One step of a run. -/
structure Move where
  before : Browser
  event : Event
  after : Browser

/-- The steps a list of events makes; events that cannot happen are skipped. -/
def moves (expiry : String → Option Int) : List Event → Browser → List Move
  | [], _ => []
  | event :: rest, browser =>
      match browser.step expiry event with
      | none => moves expiry rest browser
      | some after => ⟨browser, event, after⟩ :: moves expiry rest after

/-- The states a list of events leads through. -/
def states (expiry : String → Option Int) (events : List Event)
    (browser : Browser) : List Browser :=
  browser :: (moves expiry events browser).map Move.after

theorem moves_cons_of_step {expiry : String → Option Int} {event : Event}
    {rest : List Event} {browser after : Browser}
    (stepped : browser.step expiry event = some after) :
    moves expiry (event :: rest) browser =
      ⟨browser, event, after⟩ :: moves expiry rest after := by
  simp only [moves, stepped]

theorem moves_cons_of_skip {expiry : String → Option Int} {event : Event}
    {rest : List Event} {browser : Browser}
    (skipped : browser.step expiry event = none) :
    moves expiry (event :: rest) browser = moves expiry rest browser := by
  simp only [moves, skipped]

/-- What every step keeps holds before every step of a run. -/
theorem invariant_moves {expiry : String → Option Int} {holds : Browser → Prop}
    (keeps : ∀ browser event after, holds browser →
      browser.step expiry event = some after → holds after)
    {events : List Event} {browser : Browser} (initially : holds browser)
    {move : Move} (member : move ∈ moves expiry events browser) :
    holds move.before ∧
      move.before.step expiry move.event = some move.after := by
  induction events generalizing browser with
  | nil => cases member
  | cons event rest induction =>
      cases stepped : browser.step expiry event with
      | none =>
          rw [moves_cons_of_skip stepped] at member
          exact induction initially member
      | some after =>
          rw [moves_cons_of_step stepped] at member
          rcases List.mem_cons.mp member with rfl | member
          · exact ⟨initially, stepped⟩
          · exact induction (keeps _ _ _ initially stepped) member

/-- What an event does to the session service. -/
inductive Effect : Event → AuthService → AuthService → Prop
  | same {event : Event} {auth : AuthService} (calls : event.operation = none) :
      Effect event auth auth
  | refresh {event : Event} {auth : AuthService}
      (calls : event.operation = none) (subscriber : Subscriber) :
      Effect event auth (auth.refreshAccessToken subscriber)
  | login {event : Event} {auth : AuthService}
      (calls : event.operation = none) (value : BrowserSession) :
      Effect event auth (auth.login value)
  | updateCurrentUser {auth : AuthService} (user : ApiUser) :
      Effect (.updateCurrentUser user) auth (auth.updateCurrentUser user)
  | logout {event : Event} {auth : AuthService}
      (calls : event.operation = none) : Effect event auth auth.forget
  | posted {auth : AuthService} {id : Nat} {operation : Operation}
      (found : auth.operations.find id = some operation)
      (stage : operation.stage = .posting)
      (response : Option BrowserSession) :
      Effect (.posted id response) auth (auth.posted operation response)
  | loaded {auth : AuthService} {id : Nat} {operation : Operation}
      {value : BrowserSession}
      (found : auth.operations.find id = some operation)
      (stage : operation.stage = .loading value) (response : Option ApiUser) :
      Effect (.loaded id response) auth (auth.loaded operation value response)
  | told {auth : AuthService} {id : Nat} {operation : Operation}
      (found : auth.operations.find id = some operation) :
      Effect (.deliver id) auth (auth.told operation)
  | expired {auth : AuthService} {id request : Nat} {operation : Operation}
      {rest : List Subscriber}
      (found : auth.operations.find id = some operation)
      (stage : operation.stage = .failed)
      (waiting : operation.subscribers = .request request :: rest) :
      Effect (.deliver id) auth (auth.told operation).forget
  | finish {auth : AuthService} {id : Nat} {operation : Operation}
      (found : auth.operations.find id = some operation)
      (told : operation.subscribers = []) :
      Effect (.finish id) auth (auth.finish operation)

namespace Browser

variable {expiry : String → Option Int} {browser after : Browser}

@[simp] theorem auth_send (request : Intercepted) (token : Option String)
    (retried : Bool) : (browser.send request token retried).auth = browser.auth :=
  rfl

@[simp] theorem auth_settle (request : Intercepted) (status : Nat) :
    (browser.settle request status).auth = browser.auth := rfl

@[simp] theorem auth_raise (status : Nat) (message : Option String) :
    (browser.raise status message).auth = browser.auth := rfl

@[simp] theorem auth_report (request : Intercepted) (error : ErrorResponse) :
    (browser.report request error).auth = browser.auth := by
  unfold report
  repeat' split
  all_goals rfl

theorem auth_intercept (expiry : String → Option Int) (browser : Browser)
    (now : Int) (http : HttpRequest) :
    (browser.intercept expiry now http).auth = browser.auth ∨
      ∃ subscriber, (browser.intercept expiry now http).auth =
        browser.auth.refreshAccessToken subscriber := by
  unfold intercept
  dsimp only
  split
  · exact .inl rfl
  · split
    · exact .inr ⟨_, rfl⟩
    · exact .inl rfl

/-- A request to a public endpoint does not refresh. -/
theorem auth_intercept_public {now : Int} {http : HttpRequest}
    (open_ : http.publicAuth = true) :
    (browser.intercept expiry now http).auth = browser.auth := by
  unfold intercept
  dsimp only
  split
  · rfl
  · rw [if_neg]
    · rfl
    · simp [HttpRequest.publicAuth] at open_
      simp [HttpRequest.publicAuth, open_]

theorem auth_answered {request : Intercepted} {retried : Bool}
    {response : Response} {event : Event} (calls : event.operation = none) :
    Effect event browser.auth
      (browser.answered request retried response).auth := by
  unfold answered
  split
  · cases response <;> exact .same calls
  · cases response with
    | success status session =>
        have toast : ∀ condition : Bool,
            (if condition then browser.raise 200 (some "messages.saved")
              else browser).auth = browser.auth := by
          intro condition
          cases condition <;> rfl
        cases session with
        | none =>
            dsimp only
            rw [auth_settle, toast]
            exact .same calls
        | some value =>
            dsimp only
            rw [auth_settle]
            split
            · rw [toast]
              exact .login calls value
            · rw [toast]
              exact .same calls
    | failure error =>
        dsimp only
        split
        · exact .same calls
        · split
          · split
            · exact .logout calls
            · exact .refresh calls _
          · rw [auth_settle, auth_report]
            exact .same calls

theorem auth_tell_token (subscriber : Subscriber) (token : String) :
    (browser.tell subscriber (some token)).auth = browser.auth := by
  cases subscriber with
  | call id => rfl
  | recovery id => rfl
  | request id => cases found : browser.requests.find id <;> simp [tell, found]

theorem auth_tell_none (browser : Browser) (subscriber : Subscriber) :
    (browser.tell subscriber none).auth = browser.auth ∨
      ∃ id, subscriber = .request id ∧
        (browser.tell subscriber none).auth = browser.auth.forget := by
  cases subscriber with
  | call id => exact .inl rfl
  | recovery id => exact .inl rfl
  | request id =>
      cases found : browser.requests.find id with
      | none => exact .inl (by simp [tell, found])
      | some request =>
          refine .inr ⟨id, rfl, ?_⟩
          simp only [tell, found]
          rfl

theorem finish_eq_some {operation : Operation}
    (finished : browser.finish operation = some after) :
    operation.subscribers = [] ∧
      after = { browser with auth := browser.auth.finish operation } := by
  unfold finish at finished
  split at finished
  · cases finished
  · split at finished
    · rename_i told _
      exact ⟨told, (Option.some.inj finished).symm⟩
    · rename_i told _
      exact ⟨told, (Option.some.inj finished).symm⟩
    · cases finished

theorem step_effect {event : Event}
    (stepped : browser.step expiry event = some after) :
    Effect event browser.auth.tick after.auth := by
  unfold step at stepped
  generalize ticked : { browser with auth := browser.auth.tick } = start
    at stepped
  have auth : start.auth = browser.auth.tick := by rw [← ticked]
  rw [← auth]
  cases event with
  | login now =>
      obtain rfl := Option.some.inj stepped
      rw [login, auth_intercept_public (by decide)]
      exact .same rfl
  | logout now notify =>
      obtain rfl := Option.some.inj stepped
      unfold logout
      split
      · rw [auth_raise]
        change Effect _ _ (intercept expiry now _ _).auth
        rw [auth_intercept_public (by decide)]
        exact .logout rfl
      · exact .logout rfl
  | updateCurrentUser user =>
      obtain rfl := Option.some.inj stepped
      exact .updateCurrentUser user
  | refreshAccessToken =>
      obtain rfl := Option.some.inj stepped
      exact .refresh rfl _
  | ensureSession now =>
      obtain rfl := Option.some.inj stepped
      unfold ensureSession
      dsimp only
      split
      · exact .same rfl
      · exact .refresh rfl _
  | request now http =>
      obtain rfl := Option.some.inj stepped
      rcases auth_intercept expiry start now http with
        same | ⟨subscriber, joined⟩
      · rw [same]
        exact .same rfl
      · rw [joined]
        exact .refresh rfl subscriber
  | answer id response =>
      obtain ⟨request, -, answered⟩ := Option.bind_eq_some_iff.mp stepped
      split at answered
      · obtain rfl := Option.some.inj answered
        exact auth_answered rfl
      · cases answered
  | posted id response =>
      obtain ⟨operation, found, answered⟩ := Option.bind_eq_some_iff.mp stepped
      split at answered
      · rename_i stage
        obtain rfl := Option.some.inj answered
        exact .posted found stage response
      · cases answered
  | loaded id response =>
      obtain ⟨operation, found, answered⟩ := Option.bind_eq_some_iff.mp stepped
      split at answered
      · rename_i value stage
        obtain rfl := Option.some.inj answered
        exact .loaded found stage response
      · cases answered
  | deliver id =>
      obtain ⟨operation, found, delivered⟩ := Option.bind_eq_some_iff.mp stepped
      unfold deliver at delivered
      dsimp only at delivered
      split at delivered
      · obtain rfl := Option.some.inj delivered
        rw [auth_tell_token]
        exact .told found
      · rename_i subscriber rest waiting stage
        obtain rfl := Option.some.inj delivered
        rcases auth_tell_none { start with auth := start.auth.told operation }
            subscriber with same | ⟨id, rfl, expelled⟩
        · rw [same]
          exact .told found
        · rw [expelled]
          exact .expired found stage waiting
      · cases delivered
  | finish id =>
      obtain ⟨operation, found, finished⟩ := Option.bind_eq_some_iff.mp stepped
      obtain ⟨told, rfl⟩ := finish_eq_some finished
      exact .finish found told
  | arrive url =>
      obtain rfl := Option.some.inj stepped
      exact .same rfl

end Browser

end Web

end SaasFoundation
