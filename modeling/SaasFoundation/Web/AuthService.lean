import SaasFoundation.Relational.Table
import SaasFoundation.Web.Session

/-!
# `core/services/auth.service.ts`

The service runs on one thread; responses and the callbacks they trigger are
events.  A refresh sends its `POST`, then loads the profile, then hands the
token to its subscribers, or the error of a request that failed, and runs its
finalizer last.  `shareReplay` keeps a token for late subscribers and forgets
an error: who subscribes to a refresh that has failed sends the `POST` again.
-/

namespace SaasFoundation

open Relational

namespace Web

/-- Who waits for the result of a refresh. -/
inductive Subscriber where
  | call (id : Nat)
  | recovery (id : Nat)
  | request (id : Nat)
  deriving DecidableEq, Repr

inductive Stage where
  | posting
  | loading (value : BrowserSession)
  | succeeded (token : String)
  | failed
  deriving DecidableEq, Repr

/-- One refresh operation, from its `POST` on.  `startedAt` is not read by the
service. -/
structure Operation where
  id : Nat
  generation : Nat
  startedAt : Nat
  stage : Stage
  subscribers : List Subscriber
  finalized : Bool := false
  deriving DecidableEq, Repr

instance : Keyed Operation Nat := ⟨Operation.id⟩

@[simp] theorem Operation.key_eq (operation : Operation) :
    key operation = operation.id := rfl

/-- From the `POST` to the failure of a request, or else to the finalizer. -/
def Operation.InFlight (operation : Operation) : Prop :=
  operation.stage ≠ .failed ∧ operation.finalized = false

instance (operation : Operation) : Decidable operation.InFlight :=
  inferInstanceAs (Decidable (_ ∧ _))

/-- The service.  `refresh` is the handle `refresh$`, named by its latest
operation.  `clock`, `lastLogin` and `lastLogout` record when sessions were
replaced; nothing reads them. -/
structure AuthService where
  session : Session := {}
  refresh : Option Nat := none
  generation : Nat := 0
  sessionRevision : Nat := 0
  operations : Table Operation := ∅
  nextOperation : Nat := 0
  clock : Nat := 0
  lastLogin : Nat := 0
  lastLogout : Nat := 0

namespace AuthService

def tick (auth : AuthService) : AuthService :=
  { auth with clock := auth.clock + 1 }

def applySession (value : BrowserSession) (auth : AuthService) : AuthService :=
  { auth with
    session := .ofBrowserSession value
    sessionRevision := auth.sessionRevision + 1 }

def updateCurrentUser (user : ApiUser) (auth : AuthService) : AuthService :=
  auth.applySession
    { token := auth.session.token.getD "", tokenExpires := 0
      user := some user }

def isLoggedIn (expiry : String → Option Int) (now : Int) (auth : AuthService) :
    Bool :=
  auth.session.token.any (· ≠ "") &&
    !isTokenExpired expiry now auth.session.token

/-- The `tap` of `login`. -/
def login (value : BrowserSession) (auth : AuthService) : AuthService :=
  { auth.applySession value with lastLogin := auth.clock }

/-- A new operation sends its `POST`. -/
def start (generation : Nat) (subscriber : Subscriber) (auth : AuthService) :
    AuthService :=
  { auth with
    refresh := some auth.nextOperation
    nextOperation := auth.nextOperation + 1
    operations := auth.operations.put
      { id := auth.nextOperation, generation, startedAt := auth.clock
        stage := .posting, subscribers := [subscriber] } }

/-- Another subscriber of an operation. -/
def join (operation : Operation) (subscriber : Subscriber)
    (auth : AuthService) : AuthService :=
  { auth with
    operations := auth.operations.put
      { operation with
        subscribers := operation.subscribers ++ [subscriber] } }

/-- Subscribing to the handle.  After an error `shareReplay` starts over, with
the generation the handle was made in. -/
def subscribe (id : Nat) (subscriber : Subscriber) (auth : AuthService) :
    AuthService :=
  match auth.operations.find id with
  | none => auth
  | some operation =>
      if operation.stage = .failed then
        auth.start operation.generation subscriber
      else auth.join operation subscriber

/-- `refreshAccessToken`, subscribed to at once. -/
def refreshAccessToken (subscriber : Subscriber) (auth : AuthService) :
    AuthService :=
  match auth.refresh with
  | some id => auth.subscribe id subscriber
  | none => auth.start auth.generation subscriber

/-- What a call of `refreshAccessToken` does. -/
inductive Refreshes (subscriber : Subscriber) (auth : AuthService) :
    AuthService → Prop
  | fresh (idle : auth.refresh = none) :
      Refreshes subscriber auth (auth.start auth.generation subscriber)
  | again {id : Nat} {operation : Operation} (held : auth.refresh = some id)
      (found : auth.operations.find id = some operation)
      (failed : operation.stage = .failed) :
      Refreshes subscriber auth (auth.start operation.generation subscriber)
  | shared {id : Nat} {operation : Operation} (held : auth.refresh = some id)
      (found : auth.operations.find id = some operation)
      (unfailed : operation.stage ≠ .failed) :
      Refreshes subscriber auth (auth.join operation subscriber)
  | lost {id : Nat} (held : auth.refresh = some id)
      (absent : auth.operations.find id = none) : Refreshes subscriber auth auth

theorem refreshes (subscriber : Subscriber) (auth : AuthService) :
    Refreshes subscriber auth (auth.refreshAccessToken subscriber) := by
  cases held : auth.refresh with
  | none =>
      rw [refreshAccessToken, held]
      exact .fresh held
  | some id =>
      have called : auth.refreshAccessToken subscriber =
          auth.subscribe id subscriber := by
        rw [refreshAccessToken, held]
      rw [called, subscribe]
      cases found : auth.operations.find id with
      | none => exact .lost held found
      | some operation =>
          dsimp only
          split
          · rename_i failed
            exact .again held found failed
          · rename_i unfailed
            exact .shared held found unfailed

theorem Refreshes.kept {subscriber : Subscriber} {auth after : AuthService}
    (refreshes : Refreshes subscriber auth after) :
    after.session = auth.session ∧ after.generation = auth.generation := by
  cases refreshes <;> exact ⟨rfl, rfl⟩

/-- A request of the operation failed; its subscribers are told next. -/
def fail (operation : Operation) (auth : AuthService) : AuthService :=
  { auth with
    operations := auth.operations.put { operation with stage := .failed } }

/-- The answer to `POST /auth/browser/refresh`. -/
def posted (operation : Operation) (response : Option BrowserSession)
    (auth : AuthService) : AuthService :=
  match response with
  | none => auth.fail operation
  | some value =>
      let stored :=
        if operation.generation = auth.generation then
          { auth with
            session := { auth.session with token := some value.token } }
        else auth
      { stored with
        operations := auth.operations.put
          { operation with stage := .loading value } }

/-- The answer to `GET /auth/me`. -/
def loaded (operation : Operation) (value : BrowserSession)
    (response : Option ApiUser) (auth : AuthService) : AuthService :=
  match response with
  | none => auth.fail operation
  | some user =>
      let stored :=
        if operation.generation = auth.generation then
          auth.applySession { value with user := some user }
        else auth
      { stored with
        operations := auth.operations.put
          { operation with stage := .succeeded value.token } }

/-- The first subscriber has been told. -/
def told (operation : Operation) (auth : AuthService) : AuthService :=
  { auth with
    operations := auth.operations.put
      { operation with subscribers := operation.subscribers.tail } }

/-- The finalizer, which runs once the subscribers have been told. -/
def finish (operation : Operation) (auth : AuthService) : AuthService :=
  { auth with
    refresh := none
    operations := auth.operations.put { operation with finalized := true } }

/-- What `logout` does to the service. -/
def forget (auth : AuthService) : AuthService :=
  { auth with
    generation := auth.generation + 1
    session := {}
    sessionRevision := auth.sessionRevision + 1
    refresh := none
    lastLogout := auth.clock }

end AuthService

end Web

end SaasFoundation
