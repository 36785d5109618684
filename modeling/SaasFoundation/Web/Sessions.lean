import SaasFoundation.Web.Refresh

/-!
# Sessions and the refreshes that were started before them

Every event of a refresh is examined: its two answers and the errors it hands
to its subscribers.
-/

namespace SaasFoundation

open Relational

namespace Web

/-- The refresh whose success an event reports. -/
def Event.succeeds : Event → Option Nat
  | .posted id (some _) | .loaded id (some _) => some id
  | _ => none

def Subscriber.isRequest : Subscriber → Bool
  | .request _ => true
  | _ => false

namespace AuthService

variable {auth after : AuthService}

/-- Started before the most recent completed login or logout. -/
def Outdated (auth : AuthService) (operation : Operation) : Prop :=
  operation.startedAt < max auth.lastLogin auth.lastLogout

/-- The next subscriber to be told is an intercepted request. -/
def NextIsRequest (operation : Operation) : Prop :=
  ∃ subscriber ∈ operation.subscribers.head?, subscriber.isRequest = true

/-- A refresh that answers under its own generation has seen no login since its
start, and one that failed reports to an intercepted request only while it is
not outdated or no session is held. -/
def Timely (auth : AuthService) (event : Event) : Prop :=
  (∀ operation ∈ auth.operations, event.succeeds = some operation.id →
    operation.generation = auth.generation →
      auth.lastLogin < operation.startedAt) ∧
  ∀ operation ∈ auth.operations, event = .deliver operation.id →
    operation.stage = .failed → NextIsRequest operation →
      ¬ auth.Outdated operation ∨ auth.session = {}

instance (auth : AuthService) (operation : Operation) :
    Decidable (auth.Outdated operation) :=
  inferInstanceAs (Decidable (_ < _))

instance (operation : Operation) : Decidable (NextIsRequest operation) :=
  inferInstanceAs (Decidable (∃ _ ∈ operation.subscribers.head?, _))

instance (auth : AuthService) (event : Event) :
    Decidable (auth.Timely event) :=
  inferInstanceAs (Decidable (_ ∧ _))

/-- An outdated refresh leaves the session as it is. -/
def Settled (auth : AuthService) (event : Event) (after : AuthService) : Prop :=
  ∀ operation ∈ auth.operations, event.operation = some operation.id →
    auth.Outdated operation → after.session = auth.session

theorem session_posted {operation : Operation} {value : BrowserSession}
    (older : operation.generation ≠ auth.generation) :
    (auth.posted operation (some value)).session = auth.session := by
  simp [AuthService.posted, older]

theorem session_loaded {operation : Operation} {value : BrowserSession}
    {user : ApiUser} (older : operation.generation ≠ auth.generation) :
    (auth.loaded operation value (some user)).session = auth.session := by
  simp [AuthService.loaded, older]

/-- Under its own generation a timely answer is not outdated. -/
theorem Timely.not_current {operation : Operation} (coherent : Coherent auth)
    (member : operation ∈ auth.operations)
    (outdated : auth.Outdated operation)
    (timely : operation.generation = auth.generation →
      auth.lastLogin < operation.startedAt) :
    operation.generation ≠ auth.generation := by
  intro same
  have login := timely same
  have logout := (coherent.generation_eq operation member).mp same
  unfold Outdated at outdated
  omega

theorem operation_eq {id : Nat} {found operation : Operation}
    (stored : auth.operations.find id = some found)
    (member : operation ∈ auth.operations) (own : some id = some operation.id) :
    found = operation := by
  obtain rfl := Option.some.inj own
  have same : auth.operations.find operation.id = some operation :=
    Table.find_key member
  rw [same] at stored
  exact (Option.some.inj stored).symm

theorem nextIsRequest_of_waiting {operation : Operation} {request : Nat}
    {rest : List Subscriber}
    (waiting : operation.subscribers = .request request :: rest) :
    NextIsRequest operation := by
  unfold NextIsRequest
  rw [waiting]
  exact ⟨_, rfl, rfl⟩

theorem settled_effect {event : Event} (coherent : Coherent auth)
    (timely : Timely auth event) (effect : Effect event auth after) :
    Settled auth event after := by
  intro operation member own outdated
  cases effect with
  | same calls => rfl
  | refresh calls | login calls | logout calls =>
      rw [calls] at own
      cases own
  | updateCurrentUser => cases own
  | posted found stage response =>
      obtain rfl := operation_eq found member own
      obtain rfl := Option.some.inj own
      cases response with
      | none => rfl
      | some value =>
          exact session_posted (Timely.not_current coherent member outdated
            (timely.1 _ member rfl))
  | loaded found stage response =>
      obtain rfl := operation_eq found member own
      obtain rfl := Option.some.inj own
      cases response with
      | none => rfl
      | some user =>
          exact session_loaded (Timely.not_current coherent member outdated
            (timely.1 _ member rfl))
  | told found => rfl
  | expired found stage waiting =>
      obtain rfl := operation_eq found member own
      obtain rfl := Option.some.inj own
      rcases timely.2 _ member rfl stage (nextIsRequest_of_waiting waiting)
        with fresh | empty
      · exact absurd outdated fresh
      · exact empty.symm
  | finish => rfl

end AuthService

/-- In a run whose refresh events are timely, no outdated refresh changes the
session. -/
theorem settled_of_timely (expiry : String → Option Int) (events : List Event)
    (timely : ∀ move ∈ moves expiry events {},
      move.before.auth.Timely move.event) :
    ∀ move ∈ moves expiry events {},
      move.before.auth.Settled move.event move.after.auth := by
  intro move member
  obtain ⟨coherent, stepped⟩ := invariant_moves
    (fun _ _ _ => coherent_step) AuthService.coherent_initially member
  have ticked : move.before.auth.tick.Timely move.event :=
    timely move member
  have settled := AuthService.settled_effect coherent.tick ticked
    (Browser.step_effect stepped)
  exact settled

namespace Sample

def fresh : BrowserSession := { token := "new", tokenExpires := 0, user := none }

def stale : BrowserSession := { token := "old", tokenExpires := 0, user := none }

/-- A refresh answers after a logout and a login. -/
def timely : List Event :=
  [.refreshAccessToken, .logout 0 false, .login 0,
    .answer 0 (.success 200 (some fresh)), .posted 0 (some stale)]

/-- A refresh answers after a login. -/
def overtaken : List Event :=
  [.refreshAccessToken, .login 0, .answer 0 (.success 200 (some fresh)),
    .posted 0 (some stale)]

end Sample

theorem settled_of_timely_logout :
    (moves (fun _ => none) Sample.timely {}).length = 5 ∧
      ∀ move ∈ moves (fun _ => none) Sample.timely {},
        move.before.auth.Settled move.event move.after.auth :=
  ⟨by decide, settled_of_timely _ Sample.timely (by decide)⟩

/-- A login does not advance the generation, so that a refresh from before it
replaces its token. -/
theorem login_overtaken_by_refresh :
    ¬ ∀ events, ∀ move ∈ moves (fun _ => none) events {},
        move.before.auth.Settled move.event move.after.auth := by
  intro always
  have settled := always Sample.overtaken _
    (List.getElem_mem (show 3 < List.length _ by decide))
    ⟨0, 0, 1, .posting, [.call 0], false⟩ (Table.mem_rows.mp (by decide)) (by decide)
    (by decide)
  exact absurd settled (by decide)

end Web

end SaasFoundation
