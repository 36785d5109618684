import SaasFoundation.Web.Browser

/-!
# Requests inside the interceptor

The steps of a run with what each of them does for the requests: what
`apiInterceptor` asks of the services, and what the caller of a request hears.
A caller may also unsubscribe, which runs the finalizers.
-/

namespace SaasFoundation

open Relational

namespace Web

/-- An event, or a caller that gives up its request. -/
inductive Action where
  | event (event : Event)
  | unsubscribe (request : Nat)
  deriving DecidableEq, Repr

/-- What is done for a request.  `completed` and `failed` are what its caller
hears in the end. -/
inductive Note where
  | received (http : HttpRequest)
  | transmit (bearer : Option String)
  | refreshAccessToken
  | logout
  | shown
  | hidden
  | completed (status : Nat)
  | failed (status : Nat)
  | unsubscribed
  deriving DecidableEq, Repr

namespace Note

def isTransmit : Note → Bool
  | .transmit _ => true
  | _ => false

/-- The request has ended. -/
def ends : Note → Bool
  | .completed _ | .failed _ | .unsubscribed => true
  | _ => false

end Note

/-- The interceptor hands the request on untouched. -/
def HttpRequest.passes (http : HttpRequest) : Bool :=
  !http.inApi || includes http.url "assets/i18n"

/-- The finalizers of a request. -/
def Intercepted.finalizers (request : Intercepted) : List Note :=
  List.replicate request.spinners .hidden

namespace Browser

variable (expiry : String → Option Int)

/-- Notes of `send`. -/
def sending (http : HttpRequest) (token : Option String) (browser : Browser) :
    List Note :=
  (if http.showSpinner then [.shown] else []) ++
    [.transmit
      (if http.publicAuth then none
      else some ((token <|> browser.auth.session.token).getD ""))]

/-- Notes of `intercept`. -/
def intercepting (now : Int) (http : HttpRequest) (browser : Browser) :
    List Note :=
  .received http ::
    if http.passes then [.transmit none]
    else if !http.publicAuth &&
        isTokenExpired expiry now browser.auth.session.token then
      [.refreshAccessToken]
    else browser.sending http none

/-- Notes of `answered`. -/
def answering (request : Intercepted) (retried : Bool) : Response → List Note
  | .success status _ => .completed status :: request.finalizers
  | .failure error =>
      if request.passes || request.publicAuth || error.status != 401 then
        .failed error.status :: request.finalizers
      else if retried then .logout :: .failed 401 :: request.finalizers
      else [.refreshAccessToken]

/-- Notes of `tell`. -/
def telling (request : Intercepted) (token : Option String)
    (browser : Browser) : List Note :=
  match token with
  | some value => browser.sending request.toHttpRequest (some value)
  | none => .logout :: .failed 401 :: request.finalizers

/-- Notes about the next subscriber when it is told. -/
def tellingNext (subscriber : Subscriber) (token : Option String)
    (browser : Browser) : List (Nat × Note) :=
  match subscriber with
  | .request name =>
      match browser.requests.find name with
      | some request =>
          (browser.telling request token).map fun note => (name, note)
      | none => []
  | _ => []

/-- The notes of a step. -/
def notes (action : Action) (browser : Browser) : List (Nat × Note) :=
  let about (id : Nat) (notes : List Note) := notes.map fun note => (id, note)
  match action with
  | .event (.login now) =>
      about browser.nextRequest (browser.intercepting expiry now
        { url := "/api/v1/auth/browser/login", method := "POST", login := true })
  | .event (.logout now true) =>
      about browser.nextRequest (browser.intercepting expiry now
        { url := "/api/v1/auth/browser/logout", method := "POST" })
  | .event (.request now http) =>
      about browser.nextRequest (browser.intercepting expiry now http)
  | .event (.answer id response) =>
      match browser.requests.find id with
      | some request =>
          match request.stage with
          | .sent retried => about id (answering request retried response)
          | _ => []
      | none => []
  | .event (.deliver id) =>
      match browser.auth.operations.find id with
      | some operation =>
          match operation.subscribers, operation.stage with
          | subscriber :: _, .succeeded token =>
              browser.tellingNext subscriber (some token)
          | subscriber :: _, .failed => browser.tellingNext subscriber none
          | _, _ => []
      | none => []
  | .unsubscribe id =>
      match browser.requests.find id with
      | some request => about id (.unsubscribed :: request.finalizers)
      | none => []
  | _ => []

/-- The finalizers run and the answer is no longer waited for; nothing is left
to give up once the request has ended. -/
def unsubscribe (id : Nat) (browser : Browser) : Option Browser := do
  let request ← browser.requests.find id
  match request.stage with
  | .settled _ => none
  | _ =>
      some
        { browser with
          requests := browser.requests.drop id
          spinner := browser.spinner - request.spinners }

def act (action : Action) (browser : Browser) : Option Browser :=
  match action with
  | .event event => browser.step expiry event
  | .unsubscribe id => browser.unsubscribe id

/-- Where a list of actions leads, and the notes of its steps; actions that
cannot happen are skipped. -/
def watch : List Action → Browser → Browser × List (Nat × Note)
  | [], browser => (browser, [])
  | action :: rest, browser =>
      match browser.act expiry action with
      | none => watch rest browser
      | some after =>
          let later := watch rest after
          (later.1, browser.notes expiry action ++ later.2)

variable {expiry : String → Option Int} {browser after : Browser}

/-- A public request does not read the session. -/
theorem intercepting_public {http : HttpRequest}
    (open_ : http.publicAuth = true) (now : Int) (first second : Browser) :
    first.intercepting expiry now http =
      second.intercepting expiry now http := by
  simp only [intercepting, sending, open_, Bool.not_true, Bool.false_and,
    if_true]

theorem notes_answer {id : Nat} {request : Intercepted} {retried : Bool}
    (found : browser.requests.find id = some request)
    (stage : request.stage = .sent retried) (response : Response) :
    browser.notes expiry (.event (.answer id response)) =
      (answering request retried response).map fun note => (id, note) := by
  unfold notes
  simp only [found, stage]

/-- What a refresh reports: its token, or that it failed. -/
def Reports (operation : Operation) : Option String → Prop
  | some token => operation.stage = .succeeded token
  | none => operation.stage = .failed

theorem notes_deliver {id : Nat} {operation : Operation}
    {subscriber : Subscriber} {rest : List Subscriber} {token : Option String}
    (found : browser.auth.operations.find id = some operation)
    (waiting : operation.subscribers = subscriber :: rest)
    (reports : Reports operation token) :
    browser.notes expiry (.event (.deliver id)) =
      browser.tellingNext subscriber token := by
  cases token with
  | none =>
      have stage : operation.stage = .failed := reports
      unfold notes
      simp only [found, waiting, stage]
  | some token =>
      have stage : operation.stage = .succeeded token := reports
      unfold notes
      simp only [found, waiting, stage]

theorem answer_eq_some {id : Nat} {response : Response}
    (answered : browser.perform expiry (.answer id response) = some after) :
    ∃ request retried, browser.requests.find id = some request ∧
      request.stage = .sent retried ∧
        after = browser.answered request retried response := by
  obtain ⟨request, found, answered⟩ := Option.bind_eq_some_iff.mp answered
  cases stage : request.stage with
  | sent retried =>
      rw [stage] at answered
      exact ⟨request, retried, found, stage, (Option.some.inj answered).symm⟩
  | refreshing =>
      rw [stage] at answered
      cases answered
  | settled status =>
      rw [stage] at answered
      cases answered

theorem deliver_eq_some {id : Nat}
    (delivered : browser.perform expiry (.deliver id) = some after) :
    ∃ operation subscriber rest token,
      browser.auth.operations.find id = some operation ∧
        operation.subscribers = subscriber :: rest ∧ Reports operation token ∧
          after = tell subscriber token
            { browser with auth := browser.auth.told operation } := by
  obtain ⟨operation, found, delivered⟩ := Option.bind_eq_some_iff.mp delivered
  unfold deliver at delivered
  cases waiting : operation.subscribers with
  | nil => simp [waiting] at delivered
  | cons subscriber rest =>
      cases stage : operation.stage with
      | succeeded token =>
          rw [waiting, stage] at delivered
          exact ⟨operation, subscriber, rest, some token, found, waiting, stage,
            (Option.some.inj delivered).symm⟩
      | failed =>
          rw [waiting, stage] at delivered
          exact ⟨operation, subscriber, rest, none, found, waiting, stage,
            (Option.some.inj delivered).symm⟩
      | posting => simp [waiting, stage] at delivered
      | loading value => simp [waiting, stage] at delivered

end Browser

/-- The notes about one request. -/
def notesOf (id : Nat) (notes : List (Nat × Note)) : List Note :=
  notes.filterMap fun note => if note.1 = id then some note.2 else none

@[simp] theorem notesOf_nil (id : Nat) : notesOf id [] = [] := rfl

@[simp] theorem notesOf_append (id : Nat) (first second : List (Nat × Note)) :
    notesOf id (first ++ second) = notesOf id first ++ notesOf id second :=
  List.filterMap_append

theorem notesOf_about (id name : Nat) (notes : List Note) :
    notesOf id (notes.map fun note => (name, note)) =
      if id = name then notes else [] := by
  rw [notesOf, List.filterMap_map]
  by_cases same : id = name
  · subst same
    rw [if_pos rfl]
    exact (List.filterMap_congr (by simp)).trans List.filterMap_some
  · rw [if_neg same, List.filterMap_eq_nil_iff]
    intro note _
    exact if_neg (Ne.symm same)

/-- What the notes are about: the requests that left, the spinner, and how
often the session was given up. -/
structure Services where
  transmitted : List Transmission
  spinner : Nat
  logouts : Nat

namespace Services

def record (services : Services) (note : Nat × Note) : Services :=
  match note.2 with
  | .transmit bearer =>
      { services with
        transmitted := services.transmitted ++ [{ request := note.1, bearer }] }
  | .logout => { services with logouts := services.logouts + 1 }
  | .shown => { services with spinner := services.spinner + 1 }
  | .hidden => { services with spinner := services.spinner - 1 }
  | _ => services

def logout (services : Services) : Services :=
  { services with logouts := services.logouts + 1 }

def recordAll (id : Nat) (notes : List Note) (services : Services) : Services :=
  notes.foldl (fun services note => services.record (id, note)) services

theorem foldl_about (id : Nat) (notes : List Note) (services : Services) :
    (notes.map fun note => (id, note)).foldl record services =
      services.recordAll id notes := by
  rw [List.foldl_map, recordAll]

theorem recordAll_finalizers (id : Nat) (request : Intercepted)
    (services : Services) :
    services.recordAll id request.finalizers =
      { services with spinner := services.spinner - request.spinners } := by
  unfold recordAll Intercepted.finalizers
  induction request.spinners generalizing services with
  | zero => rfl
  | succ count induction =>
      rw [List.replicate_succ, List.foldl_cons, induction]
      simp only [record, Services.mk.injEq, true_and, and_true]
      omega

end Services

namespace Browser

variable {expiry : String → Option Int} {browser after : Browser}

def services (browser : Browser) : Services where
  transmitted := browser.transmitted
  spinner := browser.spinner
  logouts := browser.auth.generation

theorem services_awaitRefresh (request : Intercepted) :
    (browser.awaitRefresh request).services = browser.services := by
  unfold services awaitRefresh
  dsimp only
  rw [(browser.auth.refreshes _).kept.2]

theorem services_send (request : Intercepted) (token : Option String)
    (retried : Bool) :
    (browser.send request token retried).services =
      browser.services.recordAll request.id
        (browser.sending request.toHttpRequest token) := by
  unfold services send sending
  dsimp only
  by_cases shows : request.showSpinner = true
  · rw [if_pos shows, if_pos shows]
    rfl
  · rw [if_neg shows, if_neg shows]
    rfl

theorem services_intercept (now : Int) (http : HttpRequest) :
    (browser.intercept expiry now http).services =
      browser.services.recordAll browser.nextRequest
        (browser.intercepting expiry now http) := by
  unfold intercept intercepting HttpRequest.passes
  dsimp only
  split
  · rfl
  · split
    · rw [services_awaitRefresh]
      rfl
    · rw [services_send]
      rfl

theorem services_settle (request : Intercepted) (status : Nat) :
    (browser.settle request status).services =
      browser.services.recordAll request.id request.finalizers := by
  rw [Services.recordAll_finalizers]
  rfl

end Browser

end Web

end SaasFoundation
