import SaasFoundation.Relational.Total
import SaasFoundation.Web.Calls
import SaasFoundation.Web.Requests

/-!
# Where a request stands

One request is followed through the steps of a run: the entry the interceptor
keeps for it, and how often it waits for a refresh.
-/

namespace SaasFoundation

open Relational

namespace Web

namespace AuthService

variable {auth after : AuthService}

/-- How often a request waits for a refresh. -/
def subscriptions (id : Nat) (auth : AuthService) : Nat :=
  auth.operations.total fun operation =>
    operation.subscribers.count (.request id)

theorem subscriptions_put {id name : Nat} {old new : Operation}
    (found : auth.operations.find name = some old)
    (operations : after.operations = auth.operations.put new)
    (same : new.id = old.id) :
    after.subscriptions id + old.subscribers.count (.request id) =
      auth.subscriptions id + new.subscribers.count (.request id) := by
  rw [subscriptions, operations]
  exact Table.total_put_of_find found
    (same.trans (Table.find_eq_some.mp found).2)

theorem subscriptions_kept {id name : Nat} {old new : Operation}
    (found : auth.operations.find name = some old)
    (operations : after.operations = auth.operations.put new)
    (same : new.id = old.id) (kept : new.subscribers = old.subscribers) :
    after.subscriptions id = auth.subscriptions id := by
  have moved : after.subscriptions id + _ = _ :=
    subscriptions_put found operations same
  rw [kept] at moved
  exact Nat.add_right_cancel moved

theorem operations_told (operation : Operation) :
    (auth.told operation).operations =
      auth.operations.put
        { operation with subscribers := operation.subscribers.tail } := rfl

theorem subscriptions_start {generation : Nat} (coherent : auth.Coherent)
    (id : Nat) (subscriber : Subscriber) :
    (auth.start generation subscriber).subscriptions id =
      auth.subscriptions id + [subscriber].count (.request id) := by
  have absent : auth.operations.find auth.nextOperation = none :=
    Table.find_eq_none.mpr fun operation member =>
      Nat.ne_of_lt (coherent.numbered operation member)
  exact Table.total_put_of_absent absent

theorem subscriptions_join {name : Nat} {operation : Operation}
    (found : auth.operations.find name = some operation) (id : Nat)
    (subscriber : Subscriber) :
    (auth.join operation subscriber).subscriptions id =
      auth.subscriptions id + [subscriber].count (.request id) := by
  have moved : (auth.join operation subscriber).subscriptions id + _ = _ :=
    subscriptions_put found rfl rfl
  rw [List.count_append] at moved
  omega

theorem Refreshes.subscriptions {subscriber : Subscriber}
    (refreshes : Refreshes subscriber auth after) (coherent : auth.Coherent)
    (id : Nat) :
    after.subscriptions id =
      auth.subscriptions id + [subscriber].count (.request id) := by
  cases refreshes with
  | fresh => exact subscriptions_start coherent id subscriber
  | again => exact subscriptions_start coherent id subscriber
  | shared _ found => exact subscriptions_join found id subscriber
  | @lost name held absent =>
      obtain ⟨operation, ⟨member, -, -⟩, identified⟩ := coherent.handle name held
      exact absurd identified (Table.find_eq_none.mp absent operation member)

theorem subscriptions_told {id name : Nat} {operation : Operation}
    {subscriber : Subscriber} {rest : List Subscriber}
    (found : auth.operations.find name = some operation)
    (waiting : operation.subscribers = subscriber :: rest) :
    (auth.told operation).subscriptions id + [subscriber].count (.request id) =
      auth.subscriptions id := by
  have moved : (auth.told operation).subscriptions id + _ = _ :=
    subscriptions_put found (operations_told operation) rfl
  rw [waiting, List.tail_cons, ← List.singleton_append, List.count_append]
    at moved
  dsimp only at moved
  omega

end AuthService

/-- A request as the interceptor holds it, and how often it waits for a
refresh. -/
structure Standing where
  entry : Option Intercepted
  subscriptions : Nat

/-- `apiInterceptor` takes a request. -/
inductive Begins (id : Nat) (http : HttpRequest) (waits : Nat) :
    List Note → Standing → Prop
  | passed (passes : http.passes = true) :
      Begins id http waits [.received http, .transmit none]
        ⟨some { http with id, stage := .sent false, spinners := 0 }, waits⟩
  | waiting (passes : http.passes = false) (guarded : http.publicAuth = false) :
      Begins id http waits [.received http, .refreshAccessToken]
        ⟨some { http with id, stage := .refreshing, spinners := 0 }, waits + 1⟩
  | sent (passes : http.passes = false) (browser : Browser) :
      Begins id http waits (.received http :: browser.sending http none)
        ⟨some
          { http with
            id, stage := .sent false
            spinners := if http.showSpinner then 1 else 0 }, waits⟩

/-- What a step does for a request that has been taken. -/
inductive Treats : Standing → List Note → Standing → Prop
  | idle (standing : Standing) : Treats standing [] standing
  | settled {request : Intercepted} {retried : Bool} {waits : Nat}
      (stage : request.stage = .sent retried) (response : Response)
      (status : Nat)
      (final : Browser.answering request retried response ≠
        [.refreshAccessToken]) :
      Treats ⟨some request, waits⟩
        (Browser.answering request retried response)
        ⟨some { request with stage := .settled status, spinners := 0 }, waits⟩
  | retry {request : Intercepted} {waits : Nat}
      (stage : request.stage = .sent false) (passes : request.passes = false)
      (guarded : request.publicAuth = false) :
      Treats ⟨some request, waits⟩ [.refreshAccessToken]
        ⟨some { request with stage := .refreshing }, waits + 1⟩
  | refreshed {request : Intercepted} {waits : Nat} (token : String)
      (browser : Browser) :
      Treats ⟨some request, waits + 1⟩
        (browser.sending request.toHttpRequest (some token))
        ⟨some
          { request with
            stage := .sent true
            spinners :=
              request.spinners + if request.showSpinner then 1 else 0 },
          waits⟩
  | expelled {request : Intercepted} {waits : Nat} :
      Treats ⟨some request, waits + 1⟩
        (.logout :: .failed 401 :: request.finalizers)
        ⟨some { request with stage := .settled 401, spinners := 0 }, waits⟩
  | unheard {waits : Nat} : Treats ⟨none, waits + 1⟩ [] ⟨none, waits⟩
  | unsubscribed {request : Intercepted} {waits : Nat}
      (stage : ∀ status, request.stage ≠ .settled status) :
      Treats ⟨some request, waits⟩ (.unsubscribed :: request.finalizers)
        ⟨none, waits⟩

namespace Browser

variable {expiry : String → Option Int} {browser after : Browser} {id : Nat}

def standing (id : Nat) (browser : Browser) : Standing where
  entry := browser.requests.find id
  subscriptions := browser.auth.subscriptions id

@[simp] theorem standing_raise (status : Nat) (message : Option String) :
    (browser.raise status message).standing id = browser.standing id := rfl

@[simp] theorem standing_dismiss :
    browser.dismiss.standing id = browser.standing id := rfl

@[simp] theorem standing_report (request : Intercepted)
    (error : ErrorResponse) :
    (browser.report request error).standing id = browser.standing id := by
  unfold report
  repeat' split
  all_goals rfl

theorem standing_store (request : Intercepted) :
    (browser.store request).standing id =
      if id = request.id then
        ⟨some request, browser.auth.subscriptions id⟩
      else browser.standing id := by
  unfold standing store
  rw [Table.find_put, Intercepted.key_eq]
  split <;> rfl

theorem standing_settle (request : Intercepted) (status : Nat) :
    (browser.settle request status).standing id =
      if id = request.id then
        ⟨some { request with stage := .settled status, spinners := 0 },
          browser.auth.subscriptions id⟩
      else browser.standing id :=
  standing_store _

theorem standing_send (request : Intercepted) (token : Option String)
    (retried : Bool) :
    (browser.send request token retried).standing id =
      if id = request.id then
        ⟨some
          { request with
            stage := .sent retried
            spinners :=
              request.spinners + if request.showSpinner then 1 else 0 },
          browser.auth.subscriptions id⟩
      else browser.standing id :=
  standing_store _

theorem standing_awaitRefresh (coherent : browser.auth.Coherent)
    (request : Intercepted) :
    (browser.awaitRefresh request).standing id =
      if id = request.id then
        ⟨some { request with stage := .refreshing },
          browser.auth.subscriptions id + 1⟩
      else browser.standing id := by
  unfold standing awaitRefresh
  dsimp only
  rw [Table.find_put, Intercepted.key_eq,
    (browser.auth.refreshes _).subscriptions coherent]
  by_cases same : id = request.id
  · rw [if_pos same, if_pos same, same]
    simp
  · rw [if_neg same, if_neg same]
    simp [Ne.symm same]

/-- What a step does about one request. -/
inductive Followed (id : Nat) (browser after : Browser) (notes : List Note) :
    Prop
  | begins (number : browser.nextRequest = id)
      (next : after.nextRequest = id + 1) (http : HttpRequest)
      (begins : Begins id http (browser.auth.subscriptions id) notes
        (after.standing id))
  | treats (next : id < after.nextRequest ↔ id < browser.nextRequest)
      (treats : Treats (browser.standing id) notes (after.standing id))

theorem followed_idle (next : after.nextRequest = browser.nextRequest)
    (same : after.standing id = browser.standing id) :
    Followed id browser after [] := by
  refine .treats (by rw [next]) ?_
  rw [same]
  exact .idle _

theorem nextRequest_intercept (now : Int) (http : HttpRequest)
    (browser : Browser) :
    (browser.intercept expiry now http).nextRequest =
      browser.nextRequest + 1 := by
  unfold intercept
  dsimp only
  split
  · rfl
  · split <;> rfl

/-- A new request. -/
theorem followed_intercept (coherent : browser.auth.Coherent) (now : Int)
    (http : HttpRequest) :
    Followed id browser (browser.intercept expiry now http)
      (if id = browser.nextRequest then browser.intercepting expiry now http
      else []) := by
  have next : (browser.intercept expiry now http).nextRequest =
      browser.nextRequest + 1 := nextRequest_intercept now http browser
  by_cases own : id = browser.nextRequest
  · rw [if_pos own]
    refine .begins own.symm (by rw [next, own]) http ?_
    clear next
    unfold intercept intercepting
    by_cases passes : http.passes = true
    · rw [if_pos passes]
      unfold HttpRequest.passes at passes
      dsimp only
      rw [if_pos passes]
      change Begins _ _ _ _ ((store _ _).standing id)
      rw [standing_store, if_pos own, ← own]
      exact .passed passes
    · rw [if_neg passes]
      have handled := (Bool.not_eq_true _).mp passes
      unfold HttpRequest.passes at passes
      dsimp only
      rw [if_neg passes]
      by_cases expired : (!http.publicAuth &&
          isTokenExpired expiry now browser.auth.session.token) = true
      · rw [if_pos expired, if_pos expired, standing_awaitRefresh (by exact coherent),
          if_pos own, ← own]
        have guarded : http.publicAuth = false := by
          simp only [Bool.and_eq_true, Bool.not_eq_true'] at expired
          exact expired.1
        exact .waiting handled guarded
      · rw [if_neg expired, if_neg expired, standing_send, if_pos own, ← own,
          Nat.zero_add]
        exact .sent handled browser
  · rw [if_neg own]
    refine .treats (by rw [next]; omega) ?_
    have same : (browser.intercept expiry now http).standing id =
        browser.standing id := by
      clear next
      unfold intercept
      dsimp only
      split
      · change (store _ _).standing id = _
        rw [standing_store, if_neg own]
        rfl
      · split
        · rw [standing_awaitRefresh (by exact coherent), if_neg own]
          rfl
        · rw [standing_send, if_neg own]
          rfl
    rw [same]
    exact .idle _

theorem standing_of_find {request : Intercepted}
    (found : browser.requests.find id = some request) :
    browser.standing id =
      ⟨some request, browser.auth.subscriptions id⟩ := by
  rw [standing, found]

/-- An answer ends the request, or sends it to wait for a refresh. -/
inductive Answers (request : Intercepted) (retried : Bool) (response : Response)
    (browser after : Browser) : Prop
  | settles (settling : Browser) (status : Nat)
      (after_eq : after = settling.settle request status)
      (final : answering request retried response ≠ [.refreshAccessToken])
      (next : settling.nextRequest = browser.nextRequest)
      (same : ∀ id, settling.standing id = browser.standing id)
      (noted : settling.services.recordAll request.id request.finalizers =
        browser.services.recordAll request.id
          (answering request retried response))
  | waits (after_eq : after = browser.awaitRefresh request)
      (asks : answering request retried response = [.refreshAccessToken])
      (first : retried = false) (passes : request.passes = false)
      (guarded : request.publicAuth = false)

theorem answering_success (request : Intercepted) (retried : Bool)
    (status : Nat) (session : Option BrowserSession) :
    answering request retried (.success status session) ≠
      [.refreshAccessToken] := by
  rw [answering]
  exact fun same => nomatch (List.cons.inj same).1

/-- What a successful answer does before the request ends. -/
theorem standing_applied (browser : Browser) (status : Nat) (toast login : Bool)
    (session : Option BrowserSession) :
    let toasted :=
      if toast then browser.raise status (some "messages.saved") else browser
    let applied :=
      match session with
      | some value =>
          if login then { toasted with auth := toasted.auth.login value }
          else toasted
      | none => toasted
    applied.nextRequest = browser.nextRequest ∧
      applied.services = browser.services ∧
        ∀ id, applied.standing id = browser.standing id := by
  cases toast <;> cases login <;> cases session <;>
    exact ⟨rfl, rfl, fun _ => rfl⟩

theorem services_report (browser : Browser) (request : Intercepted)
    (error : ErrorResponse) :
    (browser.report request error).services = browser.services ∧
      (browser.report request error).nextRequest = browser.nextRequest := by
  unfold report
  repeat' split
  all_goals exact ⟨rfl, rfl⟩

theorem answers (request : Intercepted) (retried : Bool) (response : Response)
    (browser : Browser) :
    Answers request retried response browser
      (browser.answered request retried response) := by
  unfold answered
  by_cases passes : (!request.inApi ||
      includes request.url "assets/i18n") = true
  · rw [if_pos passes]
    cases response with
    | success status session =>
        exact .settles browser status rfl (answering_success _ _ _ _) rfl
          (fun _ => rfl) rfl
    | failure error =>
        have handed : request.passes = true := passes
        have asks : answering request retried (.failure error) =
            .failed error.status :: request.finalizers := by
          simp [answering, handed]
        refine .settles browser error.status rfl ?_ rfl (fun _ => rfl) ?_
        · rw [asks]
          exact fun same => nomatch (List.cons.inj same).1
        · rw [asks]
          rfl
  · rw [if_neg passes]
    have handled : request.passes = false := (Bool.not_eq_true _).mp passes
    cases response with
    | success status session =>
        obtain ⟨next, services, standing⟩ := standing_applied browser
          200 (status = 200 && request.showSpinner && !request.publicAuth &&
            !request.localFeedback) request.login session
        exact .settles _ status rfl (answering_success _ _ _ _) next standing
          (congrArg (Services.recordAll request.id request.finalizers) services)
    | failure error =>
        dsimp only
        by_cases guarded : request.publicAuth = true
        · rw [if_pos guarded]
          have asks : answering request retried (.failure error) =
              .failed error.status :: request.finalizers := by
            simp [answering, guarded]
          refine .settles browser error.status rfl ?_ rfl (fun _ => rfl) ?_
          · rw [asks]
            exact fun same => nomatch (List.cons.inj same).1
          · rw [asks]
            rfl
        · rw [if_neg guarded]
          by_cases unauthorized : error.status = 401
          · rw [if_pos unauthorized]
            cases retried with
            | true =>
                have asks : answering request true (.failure error) =
                    .logout :: .failed 401 :: request.finalizers := by
                  simp [answering, guarded, handled, unauthorized]
                refine .settles _ 401 rfl ?_ rfl (fun _ => rfl) ?_
                · rw [asks]
                  exact fun same => nomatch (List.cons.inj same).1
                · rw [asks]
                  rfl
            | false =>
                refine .waits rfl ?_ rfl handled
                  ((Bool.not_eq_true _).mp guarded)
                simp [answering, guarded, handled, unauthorized]
          · rw [if_neg unauthorized]
            have asks : answering request retried (.failure error) =
                .failed error.status :: request.finalizers := by
              simp [answering, unauthorized]
            obtain ⟨services, next⟩ := services_report browser request error
            refine .settles _ error.status rfl ?_ next
              (fun _ => standing_report request error) ?_
            · rw [asks]
              exact fun same => nomatch (List.cons.inj same).1
            · rw [asks, services]
              rfl

/-- The answer to a request. -/
theorem followed_answered {name : Nat} {request : Intercepted} {retried : Bool}
    (coherent : browser.auth.Coherent)
    (found : browser.requests.find name = some request)
    (stage : request.stage = .sent retried) (response : Response) :
    Followed id browser (browser.answered request retried response)
      (if id = name then answering request retried response else []) := by
  have identified : request.id = name := (Table.find_eq_some.mp found).2
  cases answers request retried response browser with
  | settles settling status after_eq final next same noted =>
      rw [after_eq]
      refine .treats (by rw [← next]; rfl) ?_
      rw [standing_settle]
      by_cases own : id = name
      · have kept : settling.auth.subscriptions id =
            browser.auth.subscriptions id :=
          congrArg Standing.subscriptions (same id)
        rw [if_pos (own.trans identified.symm), if_pos own, kept,
          standing_of_find (own ▸ found)]
        exact .settled stage response status final
      · have foreign : id ≠ request.id := fun same =>
          own (same.trans identified)
        rw [if_neg own, if_neg foreign, same]
        exact .idle _
  | waits after_eq asks first passes guarded =>
      rw [after_eq]
      refine .treats Iff.rfl ?_
      rw [standing_awaitRefresh coherent, asks]
      by_cases own : id = name
      · rw [if_pos (own.trans identified.symm), if_pos own,
          standing_of_find (own ▸ found)]
        subst first
        exact .retry stage passes guarded
      · have foreign : id ≠ request.id := fun same =>
          own (same.trans identified)
        rw [if_neg own, if_neg foreign]
        exact .idle _

theorem standing_told {name : Nat} {operation : Operation}
    {subscriber : Subscriber} {rest : List Subscriber}
    (found : browser.auth.operations.find name = some operation)
    (waiting : operation.subscribers = subscriber :: rest)
    (other : subscriber ≠ .request id) :
    ({ browser with auth := browser.auth.told operation }).standing id =
      browser.standing id := by
  have told : (browser.auth.told operation).subscriptions id + _ = _ :=
    AuthService.subscriptions_told found waiting
  rw [List.count_singleton, if_neg (by simpa using other), Nat.add_zero] at told
  unfold standing
  rw [told]

theorem subscriptions_told_request {name : Nat} {operation : Operation}
    {rest : List Subscriber}
    (found : browser.auth.operations.find name = some operation)
    (waiting : operation.subscribers = .request id :: rest) :
    (browser.auth.told operation).subscriptions id + 1 =
      browser.auth.subscriptions id := by
  have told : (browser.auth.told operation).subscriptions id + _ = _ :=
    AuthService.subscriptions_told found waiting
  simpa using told

/-- A waiting request learns the result of its refresh. -/
theorem followed_tell_request {refresh name : Nat} {operation : Operation}
    {rest : List Subscriber}
    (found : browser.auth.operations.find refresh = some operation)
    (waiting : operation.subscribers = .request name :: rest)
    (token : Option String) :
    Followed id browser
      (tell (.request name) token
        { browser with auth := browser.auth.told operation })
      (notesOf id (browser.tellingNext (.request name) token)) := by
  unfold tell tellingNext
  dsimp only
  by_cases own : id = name
  · subst own
    have told := subscriptions_told_request found waiting
    cases held : browser.requests.find id with
    | none =>
        refine .treats Iff.rfl ?_
        unfold standing
        rw [held, ← told]
        exact .unheard
    | some request =>
        have identified : id = request.id :=
          (Table.find_eq_some.mp held).2.symm
        dsimp only
        rw [notesOf_about, if_pos rfl]
        cases token with
        | none =>
            refine .treats Iff.rfl ?_
            rw [sessionExpired, standing_settle, if_pos identified,
              standing_of_find held, ← told]
            exact .expelled
        | some value =>
            refine .treats Iff.rfl ?_
            rw [standing_send, if_pos identified, standing_of_find held, ← told]
            exact .refreshed value browser
  · have other : Subscriber.request name ≠ .request id := by
      simpa using Ne.symm own
    have kept := standing_told found waiting other
    cases held : browser.requests.find name with
    | none => exact followed_idle rfl kept
    | some request =>
        have foreign : id ≠ request.id := fun same =>
          own (same.trans (Table.find_eq_some.mp held).2)
        dsimp only
        rw [notesOf_about, if_neg own]
        cases token with
        | none =>
            refine followed_idle rfl ?_
            rw [sessionExpired, standing_settle, if_neg foreign]
            exact kept
        | some value =>
            refine followed_idle rfl ?_
            rw [standing_send, if_neg foreign]
            exact kept

/-- The next subscriber of a refresh is told. -/
theorem followed_tell {name : Nat} {operation : Operation}
    {subscriber : Subscriber} {rest : List Subscriber}
    (found : browser.auth.operations.find name = some operation)
    (waiting : operation.subscribers = subscriber :: rest)
    (token : Option String) :
    Followed id browser
      (tell subscriber token
        { browser with auth := browser.auth.told operation })
      (notesOf id (browser.tellingNext subscriber token)) := by
  cases subscriber with
  | call call => exact followed_idle rfl (standing_told found waiting nofun)
  | recovery call => exact followed_idle rfl (standing_told found waiting nofun)
  | request request => exact followed_tell_request found waiting token

/-- A caller gives up its request. -/
theorem followed_unsubscribe {name : Nat}
    (given : browser.unsubscribe name = some after) :
    Followed id browser after
      (notesOf id (browser.notes expiry (.unsubscribe name))) := by
  obtain ⟨request, found, given⟩ := Option.bind_eq_some_iff.mp given
  unfold notes
  dsimp only
  rw [found]
  dsimp only
  rw [notesOf_about]
  split at given
  · cases given
  · rename_i stage
    obtain rfl := Option.some.inj given
    refine .treats Iff.rfl ?_
    unfold standing
    rw [Table.find_drop]
    by_cases own : id = name
    · subst own
      rw [if_pos rfl, if_pos rfl, found]
      exact .unsubscribed stage
    · rw [if_neg own, if_neg own]
      exact .idle _

theorem Followed.congr {earlier later : Browser} {notes : List Note}
    (followed : Followed id browser after notes)
    (before : earlier.nextRequest = browser.nextRequest ∧
      earlier.standing id = browser.standing id)
    (behind : later.nextRequest = after.nextRequest ∧
      later.standing id = after.standing id) :
    Followed id earlier later notes := by
  have waits : earlier.auth.subscriptions id = browser.auth.subscriptions id :=
    congrArg Standing.subscriptions before.2
  cases followed with
  | begins number next http begins =>
      refine .begins (before.1.trans number) (behind.1.trans next) http ?_
      rw [waits, behind.2]
      exact begins
  | treats next treats =>
      refine .treats ?_ ?_
      · rw [before.1, behind.1]
        exact next
      · rw [before.2, behind.2]
        exact treats

theorem followed_logout (coherent : browser.auth.Coherent) (now : Int)
    (notify : Bool) :
    Followed id browser (browser.logout expiry now notify)
      (notesOf id (browser.notes expiry (.event (.logout now notify)))) := by
  cases notify with
  | false => exact followed_idle rfl rfl
  | true =>
      have sent : Followed id { browser with auth := browser.auth.forget }
          (intercept expiry now _ _) _ :=
        followed_intercept coherent.forget now
          { url := "/api/v1/auth/browser/logout", method := "POST" }
      have left (sent : Browser) :
          ((sent.navigateToLogin true).raise 200
              (some "messages.loggedOut")).nextRequest = sent.nextRequest ∧
            ((sent.navigateToLogin true).raise 200
              (some "messages.loggedOut")).standing id = sent.standing id :=
        ⟨rfl, rfl⟩
      rw [notes]
      dsimp only
      rw [notesOf_about, intercepting_public (by decide) now browser
        { browser with auth := browser.auth.forget }]
      exact sent.congr ⟨rfl, rfl⟩ (left _)

/-- A call of the service itself. -/
theorem followed_call (coherent : browser.auth.Coherent)
    (subscriber : Subscriber) (caller : subscriber ≠ .request id)
    (next : after.nextRequest = browser.nextRequest)
    (requests : after.requests = browser.requests)
    (auth : after.auth = browser.auth.refreshAccessToken subscriber) :
    Followed id browser after [] := by
  refine followed_idle next ?_
  unfold standing
  rw [requests, auth, (browser.auth.refreshes _).subscriptions coherent,
    List.count_singleton, if_neg (by simpa using caller), Nat.add_zero]

theorem followed_moved {name : Nat} {old new : Operation}
    (found : browser.auth.operations.find name = some old)
    (operations : after.auth.operations = browser.auth.operations.put new)
    (same : new.id = old.id) (kept : new.subscribers = old.subscribers)
    (next : after.nextRequest = browser.nextRequest)
    (requests : after.requests = browser.requests) :
    Followed id browser after [] := by
  refine followed_idle next ?_
  unfold standing
  rw [requests, AuthService.subscriptions_kept found operations same kept]

/-- What an event does about one request. -/
theorem followed_step {event : Event} (coherent : browser.auth.Coherent)
    (stepped : browser.step expiry event = some after) :
    Followed id browser after
      (notesOf id (browser.notes expiry (.event event))) := by
  unfold step at stepped
  generalize ticked : { browser with auth := browser.auth.tick } = start
    at stepped
  have ready : start.auth.Coherent := by
    subst ticked
    exact coherent.tick
  suffices followed : Followed id start after
      (notesOf id (start.notes expiry (.event event))) by
    subst ticked
    exact followed.congr ⟨rfl, rfl⟩ ⟨rfl, rfl⟩
  cases event with
  | login now =>
      obtain rfl := Option.some.inj stepped
      rw [notes]
      dsimp only
      rw [notesOf_about]
      exact followed_intercept ready now _
  | logout now notify =>
      obtain rfl := Option.some.inj stepped
      exact followed_logout ready now notify
  | updateCurrentUser user =>
      obtain rfl := Option.some.inj stepped
      exact followed_idle rfl rfl
  | refreshAccessToken =>
      obtain rfl := Option.some.inj stepped
      exact followed_call ready (.call _) nofun rfl rfl rfl
  | ensureSession now =>
      obtain rfl := Option.some.inj stepped
      unfold ensureSession
      dsimp only
      split
      · exact followed_idle rfl rfl
      · exact followed_call ready (.recovery _) nofun rfl rfl rfl
  | request now http =>
      obtain rfl := Option.some.inj stepped
      rw [notes]
      dsimp only
      rw [notesOf_about]
      exact followed_intercept ready now http
  | answer name response =>
      obtain ⟨request, retried, found, stage, rfl⟩ := answer_eq_some stepped
      rw [notes_answer found stage, notesOf_about]
      exact followed_answered ready found stage response
  | posted name response =>
      obtain ⟨operation, found, answered⟩ := Option.bind_eq_some_iff.mp stepped
      split at answered
      · obtain rfl := Option.some.inj answered
        cases response with
        | none => exact followed_moved found rfl rfl rfl rfl rfl
        | some value => exact followed_moved found rfl rfl rfl rfl rfl
      · cases answered
  | loaded name response =>
      obtain ⟨operation, found, answered⟩ := Option.bind_eq_some_iff.mp stepped
      split at answered
      · obtain rfl := Option.some.inj answered
        cases response with
        | none => exact followed_moved found rfl rfl rfl rfl rfl
        | some user => exact followed_moved found rfl rfl rfl rfl rfl
      · cases answered
  | deliver name =>
      obtain ⟨operation, subscriber, rest, token, found, waiting, reports, rfl⟩ :=
        deliver_eq_some stepped
      rw [notes_deliver found waiting reports]
      exact followed_tell found waiting token
  | finish name =>
      obtain ⟨operation, found, finished⟩ := Option.bind_eq_some_iff.mp stepped
      obtain ⟨-, rfl⟩ := finish_eq_some finished
      exact followed_moved found rfl rfl rfl rfl rfl
  | arrive url =>
      obtain rfl := Option.some.inj stepped
      exact followed_idle rfl rfl

/-- What an action does about one request. -/
theorem followed_act {action : Action} (coherent : browser.auth.Coherent)
    (acted : browser.act expiry action = some after) :
    Followed id browser after (notesOf id (browser.notes expiry action)) := by
  cases action with
  | unsubscribe name => exact followed_unsubscribe acted
  | event event => exact followed_step coherent acted

/-- A step does to the services what its notes say; a `logout` that no request
asks for comes before them. -/
def direct (action : Action) (services : Services) : Services :=
  match action with
  | .event (.logout _ _) => services.logout
  | _ => services

theorem services_answered {request : Intercepted} {retried : Bool}
    (response : Response) :
    (browser.answered request retried response).services =
      browser.services.recordAll request.id
        (answering request retried response) := by
  cases answers request retried response browser with
  | settles settling status after_eq final next same noted =>
      rw [after_eq, services_settle, noted]
  | waits after_eq asks =>
      rw [after_eq, services_awaitRefresh, asks]
      rfl

theorem services_tell (subscriber : Subscriber) (token : Option String) :
    (browser.tell subscriber token).services =
      (browser.tellingNext subscriber token).foldl Services.record
        browser.services := by
  cases subscriber with
  | call call => rfl
  | recovery call => rfl
  | request name =>
      unfold tell tellingNext
      dsimp only
      cases found : browser.requests.find name with
      | none => rfl
      | some request =>
          have identified : request.id = name := (Table.find_eq_some.mp found).2
          dsimp only
          rw [Services.foldl_about, ← identified]
          cases token with
          | none =>
              change ((dismiss _).settle _ _).services = _
              rw [services_settle]
              rfl
          | some value => exact services_send _ _ _

theorem services_request (now : Int) (http : HttpRequest)
    (name : Nat) (next : name = browser.nextRequest) :
    (browser.intercept expiry now http).services =
      ((browser.intercepting expiry now http).map
        fun note => (name, note)).foldl Services.record browser.services := by
  rw [Services.foldl_about, services_intercept, next]

theorem services_logout (now : Int) (notify : Bool) :
    (browser.logout expiry now notify).services =
      (browser.notes expiry (.event (.logout now notify))).foldl
        Services.record browser.services.logout := by
  cases notify with
  | false => rfl
  | true =>
      have sent : Browser.services (intercept expiry now _
          { browser with auth := browser.auth.forget }) = _ :=
        services_request now
          { url := "/api/v1/auth/browser/logout", method := "POST" } _ rfl
      have left (sent : Browser) :
          ((sent.navigateToLogin true).raise 200
            (some "messages.loggedOut")).services = sent.services := rfl
      rw [notes]
      dsimp only
      rw [intercepting_public (by decide) now browser
        { browser with auth := browser.auth.forget }]
      exact (left _).trans sent

theorem services_step {event : Event}
    (stepped : browser.step expiry event = some after) :
    after.services = (browser.notes expiry (.event event)).foldl
      Services.record (direct (.event event) browser.services) := by
  unfold step at stepped
  generalize ticked : { browser with auth := browser.auth.tick } = start
    at stepped
  suffices recorded : after.services =
      (start.notes expiry (.event event)).foldl Services.record
        (direct (.event event) start.services) by
    subst ticked
    exact recorded
  cases event with
  | login now =>
      obtain rfl := Option.some.inj stepped
      exact services_request now _ _ rfl
  | logout now notify =>
      obtain rfl := Option.some.inj stepped
      exact services_logout now notify
  | updateCurrentUser user =>
      obtain rfl := Option.some.inj stepped
      rfl
  | refreshAccessToken =>
      obtain rfl := Option.some.inj stepped
      unfold services
      rw [(start.auth.refreshes _).kept.2]
      rfl
  | ensureSession now =>
      obtain rfl := Option.some.inj stepped
      unfold ensureSession
      dsimp only
      split
      · rfl
      · unfold services
        rw [(start.auth.refreshes _).kept.2]
        rfl
  | request now http =>
      obtain rfl := Option.some.inj stepped
      exact services_request now http _ rfl
  | answer name response =>
      obtain ⟨request, retried, found, stage, rfl⟩ := answer_eq_some stepped
      have identified : request.id = name := (Table.find_eq_some.mp found).2
      rw [notes_answer found stage, Services.foldl_about, services_answered,
        identified]
      rfl
  | posted name response =>
      obtain ⟨operation, found, answered⟩ := Option.bind_eq_some_iff.mp stepped
      split at answered
      · obtain rfl := Option.some.inj answered
        cases response with
        | none => rfl
        | some value =>
            unfold services AuthService.posted
            dsimp only
            split <;> rfl
      · cases answered
  | loaded name response =>
      obtain ⟨operation, found, answered⟩ := Option.bind_eq_some_iff.mp stepped
      split at answered
      · obtain rfl := Option.some.inj answered
        cases response with
        | none => rfl
        | some user =>
            unfold services AuthService.loaded
            dsimp only
            split <;> rfl
      · cases answered
  | deliver name =>
      obtain ⟨operation, subscriber, rest, token, found, waiting, reports, rfl⟩ :=
        deliver_eq_some stepped
      rw [notes_deliver found waiting reports]
      exact services_tell subscriber token
  | finish name =>
      obtain ⟨operation, found, finished⟩ := Option.bind_eq_some_iff.mp stepped
      obtain ⟨-, rfl⟩ := finish_eq_some finished
      rfl
  | arrive url =>
      obtain rfl := Option.some.inj stepped
      rfl

theorem services_unsubscribe {name : Nat}
    (given : browser.unsubscribe name = some after) :
    after.services = (browser.notes expiry (.unsubscribe name)).foldl
      Services.record browser.services := by
  obtain ⟨request, found, given⟩ := Option.bind_eq_some_iff.mp given
  have identified : request.id = name := (Table.find_eq_some.mp found).2
  rw [notes]
  dsimp only
  rw [found]
  dsimp only
  rw [Services.foldl_about]
  split at given
  · cases given
  · obtain rfl := Option.some.inj given
    change _ = browser.services.recordAll _ request.finalizers
    rw [Services.recordAll_finalizers]
    rfl

theorem services_act {action : Action}
    (acted : browser.act expiry action = some after) :
    after.services = (browser.notes expiry action).foldl Services.record
      (direct action browser.services) := by
  cases action with
  | unsubscribe name => exact services_unsubscribe acted
  | event event => exact services_step acted

end Browser

end Web

end SaasFoundation
