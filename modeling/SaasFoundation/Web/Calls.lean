import SaasFoundation.Web.Refresh

/-!
# Refreshes and the calls that wait for them

Every step of a run is followed for one refresh: the stage it is at, and the
calls that wait for its result.
-/

namespace SaasFoundation

open Relational

namespace Web

/-- The call a subscriber reports to. -/
def Subscriber.caller : Subscriber → Option Nat
  | .call id | .recovery id => some id
  | .request _ => none

/-- The refresh one of whose two requests is answered. -/
def Event.answers : Event → Option Nat
  | .posted id _ | .loaded id _ => some id
  | _ => none

theorem Event.answers_of_call {event : Event} {id : Nat}
    (calls : event.operation = none) : event.answers ≠ some id := by
  cases event with
  | posted | loaded => cases calls
  | _ => exact fun own => nomatch own

/-- How an event moves a refresh. -/
inductive Progress (id : Nat) : Event → Option Stage → Option Stage → Prop
  | other {event : Event} (stage : Option Stage)
      (foreign : event.answers ≠ some id) : Progress id event stage stage
  | refused : Progress id (.posted id none) (some .posting) (some .failed)
  | posted (value : BrowserSession) :
      Progress id (.posted id (some value)) (some .posting)
        (some (.loading value))
  | missed (value : BrowserSession) :
      Progress id (.loaded id none) (some (.loading value)) (some .failed)
  | loaded (value : BrowserSession) (user : ApiUser) :
      Progress id (.loaded id (some user)) (some (.loading value))
        (some (.succeeded value.token))

namespace AuthService

variable {auth after : AuthService} {id : Nat}

def stage (id : Nat) (auth : AuthService) : Option Stage :=
  (auth.operations.find id).map Operation.stage

theorem stage_of_find {operation : Operation}
    (found : auth.operations.find id = some operation) :
    auth.stage id = some operation.stage := by
  rw [stage, found, Option.map_some]

/-- One operation moves on. -/
theorem stage_put {name : Nat} {old new : Operation}
    (found : auth.operations.find name = some old)
    (operations : after.operations = auth.operations.put new)
    (same : new.id = old.id) :
    after.stage id =
      if id = name then some new.stage else auth.stage id := by
  have identified : old.id = name := (Table.find_eq_some.mp found).2
  rw [stage, operations, Table.find_put, Operation.key_eq, same, identified]
  by_cases own : id = name
  · rw [if_pos own, if_pos own]
    rfl
  · rw [if_neg own, if_neg own]
    rfl

theorem stage_put_same {name : Nat} {old new : Operation}
    (found : auth.operations.find name = some old)
    (operations : after.operations = auth.operations.put new)
    (same : new.id = old.id) (kept : new.stage = old.stage) :
    after.stage id = auth.stage id := by
  rw [stage_put found operations same]
  by_cases own : id = name
  · rw [if_pos own, kept, own, stage_of_find found]
  · rw [if_neg own]

theorem stage_start {generation : Nat} (numbered : id < auth.nextOperation)
    (subscriber : Subscriber) :
    (auth.start generation subscriber).stage id = auth.stage id := by
  have other : id ≠ auth.nextOperation := Nat.ne_of_lt numbered
  change ((auth.operations.put _).find id).map _ = _
  rw [Table.find_put, Operation.key_eq, if_neg other]
  rfl

theorem Refreshes.stage {subscriber : Subscriber}
    (refreshes : Refreshes subscriber auth after)
    (numbered : id < auth.nextOperation) : after.stage id = auth.stage id := by
  cases refreshes with
  | fresh => exact stage_start numbered subscriber
  | again => exact stage_start numbered subscriber
  | shared _ found => exact stage_put_same found rfl rfl rfl
  | lost => rfl

theorem operations_fail (operation : Operation) :
    (auth.fail operation).operations =
      auth.operations.put { operation with stage := .failed } := rfl

theorem operations_posted (operation : Operation) (value : BrowserSession) :
    (auth.posted operation (some value)).operations =
      auth.operations.put { operation with stage := .loading value } := rfl

theorem operations_loaded (operation : Operation) (value : BrowserSession)
    (user : ApiUser) :
    (auth.loaded operation value (some user)).operations =
      auth.operations.put
        { operation with stage := .succeeded value.token } := rfl

theorem progress_posted {name : Nat} {operation : Operation}
    (found : auth.operations.find name = some operation)
    (stage : operation.stage = .posting) (response : Option BrowserSession) :
    Progress id (.posted name response) (auth.stage id)
      ((auth.posted operation response).stage id) := by
  cases response with
  | none =>
      rw [AuthService.posted, stage_put found (operations_fail operation) rfl]
      by_cases own : id = name
      · subst own
        rw [if_pos rfl, stage_of_find found, stage]
        exact .refused
      · rw [if_neg own]
        exact .other _ fun same => own (Option.some.inj same).symm
  | some value =>
      rw [stage_put found (operations_posted operation value) rfl]
      by_cases own : id = name
      · subst own
        rw [if_pos rfl, stage_of_find found, stage]
        exact .posted value
      · rw [if_neg own]
        exact .other _ fun same => own (Option.some.inj same).symm

theorem progress_loaded {name : Nat} {operation : Operation}
    {value : BrowserSession}
    (found : auth.operations.find name = some operation)
    (stage : operation.stage = .loading value) (response : Option ApiUser) :
    Progress id (.loaded name response) (auth.stage id)
      ((auth.loaded operation value response).stage id) := by
  cases response with
  | none =>
      rw [AuthService.loaded, stage_put found (operations_fail operation) rfl]
      by_cases own : id = name
      · subst own
        rw [if_pos rfl, stage_of_find found, stage]
        exact .missed value
      · rw [if_neg own]
        exact .other _ fun same => own (Option.some.inj same).symm
  | some user =>
      rw [stage_put found (operations_loaded operation value user) rfl]
      by_cases own : id = name
      · subst own
        rw [if_pos rfl, stage_of_find found, stage]
        exact .loaded value user
      · rw [if_neg own]
        exact .other _ fun same => own (Option.some.inj same).symm

theorem stage_told {name : Nat} {operation : Operation}
    (found : auth.operations.find name = some operation) :
    (auth.told operation).stage id = auth.stage id :=
  stage_put_same found rfl rfl rfl

theorem stage_finish {name : Nat} {operation : Operation}
    (found : auth.operations.find name = some operation) :
    (auth.finish operation).stage id = auth.stage id :=
  stage_put_same found rfl rfl rfl

/-- A step of the service moves a refresh by its own events only. -/
theorem progress_effect {event : Event} (numbered : id < auth.nextOperation)
    (effect : Effect event auth after) :
    Progress id event (auth.stage id) (after.stage id) := by
  cases effect with
  | same calls => exact .other _ (Event.answers_of_call calls)
  | refresh calls subscriber =>
      rw [(auth.refreshes subscriber).stage numbered]
      exact .other _ (Event.answers_of_call calls)
  | login calls value => exact .other _ (Event.answers_of_call calls)
  | updateCurrentUser user => exact .other _ (fun own => nomatch own)
  | logout calls => exact .other _ (Event.answers_of_call calls)
  | posted found stage response => exact progress_posted found stage response
  | loaded found stage response => exact progress_loaded found stage response
  | told found =>
      rw [stage_told found]
      exact .other _ (fun own => nomatch own)
  | @expired _ _ _ _ _ found stage waiting =>
      have kept : (auth.told _).forget.stage id = auth.stage id :=
        stage_told found
      rw [kept]
      exact .other _ (fun own => nomatch own)
  | finish found told =>
      rw [stage_finish found]
      exact .other _ (fun own => nomatch own)

/-- The refresh has a token. -/
def Succeeded (id : Nat) (auth : AuthService) : Prop :=
  ∃ token, auth.stage id = some (.succeeded token)

theorem Succeeded.not_failed (succeeded : auth.Succeeded id) :
    auth.stage id ≠ some .failed := by
  obtain ⟨token, succeeded⟩ := succeeded
  rw [succeeded]
  exact fun same => nomatch same

theorem Succeeded.progress {event : Event} (succeeded : auth.Succeeded id)
    (progress : Progress id event (auth.stage id) (after.stage id)) :
    after.Succeeded id := by
  obtain ⟨token, succeeded⟩ := succeeded
  rw [succeeded] at progress
  unfold Succeeded
  generalize after.stage id = later at progress ⊢
  cases progress with
  | other => exact ⟨token, rfl⟩

/-- No second answer to the `POST`. -/
theorem stage_ne_posting {event : Event}
    (answered : auth.stage id ≠ some .posting)
    (progress : Progress id event (auth.stage id) (after.stage id)) :
    after.stage id ≠ some .posting := by
  generalize auth.stage id = before at progress answered
  generalize after.stage id = later at progress ⊢
  cases progress with
  | other => exact answered
  | _ => exact fun same => nomatch same

theorem Refreshes.nextOperation_le {subscriber : Subscriber}
    (refreshes : Refreshes subscriber auth after) :
    auth.nextOperation ≤ after.nextOperation := by
  cases refreshes with
  | fresh => exact Nat.le_succ _
  | again => exact Nat.le_succ _
  | shared => exact Nat.le_refl _
  | lost => exact Nat.le_refl _

theorem nextOperation_le {event : Event} (effect : Effect event auth after) :
    auth.nextOperation ≤ after.nextOperation := by
  cases effect with
  | refresh _ subscriber => exact (auth.refreshes subscriber).nextOperation_le
  | posted found stage response =>
      cases response with
      | none => exact Nat.le_refl _
      | some value =>
          unfold AuthService.posted
          dsimp only
          split <;> exact Nat.le_refl _
  | loaded found stage response =>
      cases response with
      | none => exact Nat.le_refl _
      | some user =>
          unfold AuthService.loaded
          dsimp only
          split <;> exact Nat.le_refl _
  | _ => exact Nat.le_refl _

end AuthService

namespace Browser

variable {expiry : String → Option Int} {browser after : Browser}

/-- A subscriber of a refresh reports to the call. -/
def Waiting (call id : Nat) (browser : Browser) : Prop :=
  ∃ operation ∈ browser.auth.operations, operation.id = id ∧
    ∃ subscriber ∈ operation.subscribers, subscriber.caller = some call

/-- No call is made, answered or joins a refresh. -/
structure Quiet (browser after : Browser) : Prop where
  outcomes : after.outcomes = browser.outcomes
  nextCall : after.nextCall = browser.nextCall
  waiting : ∀ call id, after.Waiting call id → browser.Waiting call id

/-- What a step does to the calls: it leaves them, takes a new one, which waits
for a refresh or is answered at once, or tells one the result. -/
inductive CallEffect (browser after : Browser) : Prop
  | quiet (kept : Quiet browser after)
  | called (outcomes : after.outcomes = browser.outcomes)
      (nextCall : after.nextCall = browser.nextCall + 1)
      (waiting : ∀ call id, after.Waiting call id →
        browser.Waiting call id ∨
          call = browser.nextCall ∧ after.auth.refresh = some id)
  | ready
      (outcomes : after.outcomes =
        browser.outcomes ++ [(browser.nextCall, .ready true)])
      (nextCall : after.nextCall = browser.nextCall + 1)
      (waiting : ∀ call id, after.Waiting call id → browser.Waiting call id)
  | told (call id : Nat) (outcome : Outcome)
      (waited : browser.Waiting call id)
      (failed : outcome = .failed ∨ outcome = .ready false →
        browser.auth.stage id = some .failed)
      (outcomes : after.outcomes = browser.outcomes ++ [(call, outcome)])
      (nextCall : after.nextCall = browser.nextCall)
      (waiting : ∀ call id, after.Waiting call id → browser.Waiting call id)

theorem waiting_put {call id : Nat} {name : Nat} {old new : Operation}
    (found : browser.auth.operations.find name = some old)
    (operations : after.auth.operations = browser.auth.operations.put new)
    (same : new.id = old.id)
    (subscribers : ∀ subscriber ∈ new.subscribers,
      subscriber.caller = some call → subscriber ∈ old.subscribers)
    (waits : after.Waiting call id) : browser.Waiting call id := by
  obtain ⟨operation, member, identified, subscriber, waiting, caller⟩ := waits
  rw [operations, Table.mem_put] at member
  rcases member with rfl | ⟨member, -⟩
  · exact ⟨old, (Table.find_eq_some.mp found).1, same ▸ identified, subscriber,
      subscribers subscriber waiting caller, caller⟩
  · exact ⟨operation, member, identified, subscriber, waiting, caller⟩

theorem waiting_start {call id generation : Nat} {subscriber : Subscriber}
    (started : after.auth = browser.auth.start generation subscriber)
    (waits : after.Waiting call id) :
    browser.Waiting call id ∨
      subscriber.caller = some call ∧ after.auth.refresh = some id := by
  obtain ⟨operation, member, identified, waiter, waiting, caller⟩ := waits
  rw [started] at member ⊢
  rcases Table.mem_put.mp member with rfl | ⟨member, -⟩
  · rw [List.mem_singleton.mp waiting] at caller
    exact .inr ⟨caller, congrArg some identified⟩
  · exact .inl ⟨operation, member, identified, waiter, waiting, caller⟩

/-- Only the new subscriber joins. -/
theorem waiting_refreshAccessToken {call id : Nat} {subscriber : Subscriber}
    (joined : after.auth = browser.auth.refreshAccessToken subscriber)
    (waits : after.Waiting call id) :
    browser.Waiting call id ∨
      subscriber.caller = some call ∧ after.auth.refresh = some id := by
  have refreshes := joined ▸ browser.auth.refreshes subscriber
  generalize result : after.auth = later at refreshes
  cases refreshes with
  | fresh => exact result ▸ waiting_start result waits
  | again => exact result ▸ waiting_start result waits
  | @shared name old held found =>
      obtain ⟨operation, member, identified, waiter, waiting, caller⟩ := waits
      obtain ⟨oldMember, named⟩ := Table.find_eq_some.mp found
      rw [result] at member
      rcases Table.mem_put.mp member with rfl | ⟨member, -⟩
      · rcases List.mem_append.mp waiting with waiting | new
        · exact .inl ⟨old, oldMember, identified, waiter, waiting, caller⟩
        · rw [List.mem_singleton.mp new] at caller
          have own : name = id := named.symm.trans identified
          exact .inr ⟨caller, held.trans (congrArg some own)⟩
      · exact .inl ⟨operation, member, identified, waiter, waiting, caller⟩
  | lost =>
      obtain ⟨operation, member, kept⟩ := waits
      exact .inl ⟨operation, result ▸ member, kept⟩

theorem Quiet.trans {later : Browser} (first : Quiet browser after)
    (second : Quiet after later) : Quiet browser later where
  outcomes := second.outcomes.trans first.outcomes
  nextCall := second.nextCall.trans first.nextCall
  waiting call id waits := first.waiting call id (second.waiting call id waits)

theorem quiet_of_operations
    (operations : after.auth.operations = browser.auth.operations)
    (outcomes : after.outcomes = browser.outcomes)
    (nextCall : after.nextCall = browser.nextCall) : Quiet browser after where
  outcomes
  nextCall
  waiting call id waits := by
    obtain ⟨operation, member, waits⟩ := waits
    rw [operations] at member
    exact ⟨operation, member, waits⟩

theorem quiet_put {name : Nat} {old new : Operation}
    (found : browser.auth.operations.find name = some old)
    (operations : after.auth.operations = browser.auth.operations.put new)
    (same : new.id = old.id) (subscribers : new.subscribers = old.subscribers)
    (outcomes : after.outcomes = browser.outcomes)
    (nextCall : after.nextCall = browser.nextCall) : Quiet browser after where
  outcomes
  nextCall
  waiting _ _ := waiting_put found operations same fun _ waiting _ =>
    subscribers ▸ waiting

theorem quiet_awaitRefresh (request : Intercepted) (browser : Browser) :
    Quiet browser (browser.awaitRefresh request) where
  outcomes := rfl
  nextCall := rfl
  waiting call id waits := by
    rcases waiting_refreshAccessToken rfl waits with waits | ⟨caller, -⟩
    · exact waits
    · exact nomatch caller

theorem quiet_settle (request : Intercepted) (status : Nat)
    (browser : Browser) : Quiet browser (browser.settle request status) :=
  quiet_of_operations rfl rfl rfl

theorem quiet_report (request : Intercepted) (error : ErrorResponse)
    (browser : Browser) : Quiet browser (browser.report request error) := by
  unfold report
  repeat' split
  all_goals exact quiet_of_operations rfl rfl rfl

theorem quiet_intercept (expiry : String → Option Int) (now : Int)
    (http : HttpRequest) (browser : Browser) :
    Quiet browser (browser.intercept expiry now http) := by
  unfold intercept
  dsimp only
  split
  · exact quiet_of_operations rfl rfl rfl
  · split
    · refine Quiet.trans ?_ (quiet_awaitRefresh _ _)
      exact quiet_of_operations rfl rfl rfl
    · exact quiet_of_operations rfl rfl rfl

theorem quiet_answered (request : Intercepted) (retried : Bool)
    (response : Response) (browser : Browser) :
    Quiet browser (browser.answered request retried response) := by
  unfold answered
  split
  · cases response <;> exact quiet_settle _ _ _
  · cases response with
    | success status session =>
        refine Quiet.trans ?_ (quiet_settle _ _ _)
        repeat' split
        all_goals exact quiet_of_operations rfl rfl rfl
    | failure error =>
        dsimp only
        split
        · exact quiet_settle _ _ _
        · split
          · split
            · exact quiet_of_operations rfl rfl rfl
            · exact quiet_awaitRefresh _ _
          · exact (quiet_report _ _ _).trans (quiet_settle _ _ _)

theorem quiet_logout (now : Int) (notify : Bool) (browser : Browser) :
    Quiet browser (browser.logout expiry now notify) := by
  unfold logout
  dsimp only
  split
  · have forgotten : Quiet browser
        { browser with auth := browser.auth.forget } :=
      quiet_of_operations rfl rfl rfl
    have sent := quiet_intercept expiry now
      { url := "/api/v1/auth/browser/logout", method := "POST" }
      { browser with auth := browser.auth.forget }
    have left (browser : Browser) : Quiet browser
        ((browser.navigateToLogin notify).raise 200
          (some "messages.loggedOut")) :=
      quiet_of_operations rfl rfl rfl
    exact (forgotten.trans sent).trans (left _)
  · exact quiet_of_operations rfl rfl rfl

/-- A waiting request reacts without touching the calls. -/
theorem quiet_tell (request : Nat) (token : Option String)
    (browser : Browser) : Quiet browser (browser.tell (.request request) token) := by
  unfold tell
  dsimp only
  cases browser.requests.find request with
  | none => exact quiet_of_operations rfl rfl rfl
  | some waiting => cases token <;> exact quiet_of_operations rfl rfl rfl

theorem quiet_told {name : Nat} {operation : Operation}
    (found : browser.auth.operations.find name = some operation) :
    Quiet browser { browser with auth := browser.auth.told operation } where
  outcomes := rfl
  nextCall := rfl
  waiting _ _ := waiting_put found rfl rfl fun _ waiting _ =>
    List.mem_of_mem_tail waiting

/-- The next subscriber is told. -/
theorem callEffect_tell {name : Nat} {operation : Operation}
    {subscriber : Subscriber} {rest : List Subscriber}
    (found : browser.auth.operations.find name = some operation)
    (waiting : operation.subscribers = subscriber :: rest)
    (token : Option String)
    (failed : token = none → operation.stage = .failed) :
    CallEffect browser
      (tell subscriber token
        { browser with auth := browser.auth.told operation }) := by
  have told := quiet_told found
  have first : subscriber ∈ operation.subscribers := by simp [waiting]
  obtain ⟨member, identified⟩ := Table.find_eq_some.mp found
  have stage := AuthService.stage_of_find found
  cases subscriber with
  | request request => exact .quiet (told.trans (quiet_tell _ _ _))
  | call call =>
      refine .told call name (token.elim .failed .token)
        ⟨operation, member, identified, _, first, rfl⟩ (fun bad => ?_) rfl rfl
        told.waiting
      cases token with
      | none => rw [stage, failed rfl]
      | some token => rcases bad with bad | bad <;> cases bad
  | recovery call =>
      refine .told call name (.ready token.isSome)
        ⟨operation, member, identified, _, first, rfl⟩ (fun bad => ?_) rfl rfl
        told.waiting
      cases token with
      | none => rw [stage, failed rfl]
      | some token => rcases bad with bad | bad <;> cases bad

/-- The clock is not read. -/
theorem CallEffect.of_tick
    (effect : CallEffect { browser with auth := browser.auth.tick } after) :
    CallEffect browser after := by
  cases effect with
  | quiet kept => exact .quiet ⟨kept.outcomes, kept.nextCall, kept.waiting⟩
  | called outcomes nextCall waiting => exact .called outcomes nextCall waiting
  | ready outcomes nextCall waiting => exact .ready outcomes nextCall waiting
  | told call id outcome waited failed outcomes nextCall waiting =>
      exact .told call id outcome waited failed outcomes nextCall waiting

theorem step_callEffect {event : Event}
    (stepped : browser.step expiry event = some after) :
    CallEffect browser after := by
  unfold step at stepped
  generalize ticked : { browser with auth := browser.auth.tick } = start
    at stepped
  suffices effect : CallEffect start after by
    subst ticked
    exact effect.of_tick
  cases event with
  | login now =>
      obtain rfl := Option.some.inj stepped
      exact .quiet (quiet_intercept _ _ _ _)
  | logout now notify =>
      obtain rfl := Option.some.inj stepped
      exact .quiet (quiet_logout now notify _)
  | updateCurrentUser user =>
      obtain rfl := Option.some.inj stepped
      exact .quiet (quiet_of_operations rfl rfl rfl)
  | refreshAccessToken =>
      obtain rfl := Option.some.inj stepped
      refine .called rfl rfl fun call id waits => ?_
      rcases waiting_refreshAccessToken rfl waits with waits | ⟨caller, held⟩
      · exact .inl waits
      · exact .inr ⟨(Option.some.inj caller).symm, held⟩
  | ensureSession now =>
      obtain rfl := Option.some.inj stepped
      unfold ensureSession
      dsimp only
      split
      · exact .ready rfl rfl fun _ _ waits => waits
      · refine .called rfl rfl fun call id waits => ?_
        rcases waiting_refreshAccessToken rfl waits with waits | ⟨caller, held⟩
        · exact .inl waits
        · exact .inr ⟨(Option.some.inj caller).symm, held⟩
  | request now http =>
      obtain rfl := Option.some.inj stepped
      exact .quiet (quiet_intercept _ _ _ _)
  | answer id response =>
      obtain ⟨request, -, answered⟩ := Option.bind_eq_some_iff.mp stepped
      split at answered
      · obtain rfl := Option.some.inj answered
        exact .quiet (quiet_answered _ _ _ _)
      · cases answered
  | posted id response =>
      obtain ⟨operation, found, answered⟩ := Option.bind_eq_some_iff.mp stepped
      split at answered
      · obtain rfl := Option.some.inj answered
        cases response with
        | none => exact .quiet (quiet_put found rfl rfl rfl rfl rfl)
        | some value => exact .quiet (quiet_put found rfl rfl rfl rfl rfl)
      · cases answered
  | loaded id response =>
      obtain ⟨operation, found, answered⟩ := Option.bind_eq_some_iff.mp stepped
      split at answered
      · obtain rfl := Option.some.inj answered
        cases response with
        | none => exact .quiet (quiet_put found rfl rfl rfl rfl rfl)
        | some user => exact .quiet (quiet_put found rfl rfl rfl rfl rfl)
      · cases answered
  | deliver id =>
      obtain ⟨operation, found, delivered⟩ := Option.bind_eq_some_iff.mp stepped
      unfold deliver at delivered
      dsimp only at delivered
      split at delivered
      · rename_i waiting stage
        obtain rfl := Option.some.inj delivered
        exact callEffect_tell found waiting _ fun bad => nomatch bad
      · rename_i waiting stage
        obtain rfl := Option.some.inj delivered
        exact callEffect_tell found waiting none fun _ => stage
      · cases delivered
  | finish id =>
      obtain ⟨operation, found, finished⟩ := Option.bind_eq_some_iff.mp stepped
      obtain ⟨-, rfl⟩ := finish_eq_some finished
      exact .quiet (quiet_put found rfl rfl rfl rfl rfl)
  | arrive url =>
      obtain rfl := Option.some.inj stepped
      exact .quiet (quiet_of_operations rfl rfl rfl)

/-- The calls are numbered as they come. -/
structure Numbered (browser : Browser) : Prop where
  outcomes : ∀ result ∈ browser.outcomes, result.1 < browser.nextCall
  waiting : ∀ call id, browser.Waiting call id → call < browser.nextCall

theorem numbered_initially : Numbered {} where
  outcomes _ member := absurd member List.not_mem_nil
  waiting _ _ waits := by
    obtain ⟨operation, member, -⟩ := waits
    exact absurd member (Table.not_mem_empty _)

theorem numbered_step {event : Event} (numbered : browser.Numbered)
    (stepped : browser.step expiry event = some after) : after.Numbered := by
  cases step_callEffect stepped with
  | quiet kept =>
      obtain ⟨outcomes, nextCall, waiting⟩ := kept
      constructor
      · rw [outcomes, nextCall]
        exact numbered.outcomes
      · intro call id waits
        rw [nextCall]
        exact numbered.waiting call id (waiting call id waits)
  | called outcomes nextCall waiting =>
      constructor
      · rw [outcomes, nextCall]
        intro result member
        exact Nat.lt_succ_of_lt (numbered.outcomes result member)
      · intro call id waits
        rw [nextCall]
        rcases waiting call id waits with waits | ⟨rfl, -⟩
        · exact Nat.lt_succ_of_lt (numbered.waiting call id waits)
        · exact Nat.lt_succ_self _
  | ready outcomes nextCall waiting =>
      constructor
      · rw [outcomes, nextCall]
        intro result member
        rcases List.mem_append.mp member with member | member
        · exact Nat.lt_succ_of_lt (numbered.outcomes result member)
        · rw [List.mem_singleton.mp member]
          exact Nat.lt_succ_self _
      · intro call id waits
        rw [nextCall]
        exact Nat.lt_succ_of_lt (numbered.waiting call id (waiting call id waits))
  | told call id outcome waited failed outcomes nextCall waiting =>
      constructor
      · rw [outcomes, nextCall]
        intro result member
        rcases List.mem_append.mp member with member | member
        · exact numbered.outcomes result member
        · rw [List.mem_singleton.mp member]
          exact numbered.waiting call id waited
      · intro other name waits
        rw [nextCall]
        exact numbered.waiting other name (waiting other name waits)

/-- The call waits for one refresh, and hears of a failure only from it. -/
structure Follows (call : Nat) (handle : Option Nat) (browser : Browser) :
    Prop where
  called : call < browser.nextCall
  started : ∀ id ∈ handle, id < browser.auth.nextOperation
  waiting : ∀ id, browser.Waiting call id → handle = some id
  failed : ∀ outcome, (call, outcome) ∈ browser.outcomes →
    outcome = .failed ∨ outcome = .ready false →
      ∃ id ∈ handle, browser.auth.stage id = some .failed

/-- A refresh that has failed stays failed. -/
theorem stage_failed {id : Nat} {event : Event}
    (numbered : id < browser.auth.nextOperation)
    (failed : browser.auth.stage id = some .failed)
    (stepped : browser.step expiry event = some after) :
    after.auth.stage id = some .failed := by
  have progress : Progress id event (browser.auth.tick.stage id)
      (after.auth.stage id) :=
    AuthService.progress_effect numbered (step_effect stepped)
  change Progress id event (browser.auth.stage id) _ at progress
  rw [failed] at progress
  generalize after.auth.stage id = later at progress ⊢
  cases progress
  rfl

theorem follows_step {call : Nat} {handle : Option Nat} {event : Event}
    (follows : browser.Follows call handle)
    (stepped : browser.step expiry event = some after) :
    after.Follows call handle := by
  have later : browser.auth.tick.nextOperation ≤ after.auth.nextOperation :=
    AuthService.nextOperation_le (step_effect stepped)
  have started : ∀ id ∈ handle, id < after.auth.nextOperation :=
    fun id member => Nat.lt_of_lt_of_le (follows.started id member) later
  have failed : (∃ id ∈ handle, browser.auth.stage id = some .failed) →
      ∃ id ∈ handle, after.auth.stage id = some .failed := by
    rintro ⟨id, member, failed⟩
    exact ⟨id, member, stage_failed (follows.started id member) failed stepped⟩
  cases step_callEffect stepped with
  | quiet kept =>
      obtain ⟨outcomes, nextCall, waiting⟩ := kept
      refine ⟨?_, started, fun id waits =>
        follows.waiting id (waiting call id waits), ?_⟩
      · rw [nextCall]
        exact follows.called
      · rw [outcomes]
        exact fun outcome member bad =>
          failed (follows.failed outcome member bad)
  | called outcomes nextCall waiting =>
      refine ⟨?_, started, fun id waits => ?_, ?_⟩
      · rw [nextCall]
        exact Nat.lt_succ_of_lt follows.called
      · rcases waiting call id waits with waits | ⟨new, -⟩
        · exact follows.waiting id waits
        · exact absurd new (Nat.ne_of_lt follows.called)
      · rw [outcomes]
        exact fun outcome member bad =>
          failed (follows.failed outcome member bad)
  | ready outcomes nextCall waiting =>
      refine ⟨?_, started, fun id waits =>
        follows.waiting id (waiting call id waits), ?_⟩
      · rw [nextCall]
        exact Nat.lt_succ_of_lt follows.called
      · intro outcome member bad
        rw [outcomes] at member
        rcases List.mem_append.mp member with member | member
        · exact failed (follows.failed outcome member bad)
        · have own := congrArg Prod.fst (List.mem_singleton.mp member)
          exact absurd own (Nat.ne_of_lt follows.called)
  | told other id result waited stage outcomes nextCall waiting =>
      refine ⟨?_, started, fun name waits =>
        follows.waiting name (waiting call name waits), ?_⟩
      · rw [nextCall]
        exact follows.called
      · intro outcome member bad
        rw [outcomes] at member
        rcases List.mem_append.mp member with member | member
        · exact failed (follows.failed outcome member bad)
        · obtain ⟨rfl, rfl⟩ := Prod.mk.inj (List.mem_singleton.mp member)
          exact failed ⟨id, follows.waiting id waited, stage bad⟩

end Browser

end Web

end SaasFoundation
