import SaasFoundation.Web.Browser

/-!
# Refresh operations in flight

The generation a refresh captures tells whether a logout came after its start,
and the shared handle always belongs to an operation that was started since the
last logout and whose finalizer has not run.  Whether the handle knows all that
are in flight depends on the order in which operations finish.
-/

namespace SaasFoundation

open Relational

namespace Web

/-- The same operation at a later stage. -/
def Operation.Continues (later earlier : Operation) : Prop :=
  later.id = earlier.id ∧ later.generation = earlier.generation ∧
    later.startedAt = earlier.startedAt

namespace AuthService

variable {auth after : AuthService}

/-- Started since the last logout and in flight. -/
def Current (auth : AuthService) (operation : Operation) : Prop :=
  operation ∈ auth.operations ∧ operation.InFlight ∧
    auth.lastLogout < operation.startedAt

/-- Started since the last logout and not finalized; it may have failed. -/
def Unfinalized (auth : AuthService) (operation : Operation) : Prop :=
  operation ∈ auth.operations ∧ operation.finalized = false ∧
    auth.lastLogout < operation.startedAt

structure Coherent (auth : AuthService) : Prop where
  numbered : ∀ operation ∈ auth.operations, operation.id < auth.nextOperation
  dated : ∀ operation ∈ auth.operations, operation.startedAt ≤ auth.clock
  login_le : auth.lastLogin ≤ auth.clock
  logout_le : auth.lastLogout ≤ auth.clock
  generation_le : ∀ operation ∈ auth.operations,
    operation.generation ≤ auth.generation
  generation_eq : ∀ operation ∈ auth.operations,
    operation.generation = auth.generation ↔
      auth.lastLogout < operation.startedAt
  handle : ∀ id, auth.refresh = some id →
    ∃ operation, auth.Unfinalized operation ∧ operation.id = id

theorem coherent_initially : Coherent {} where
  numbered _ member := absurd member (Table.not_mem_empty _)
  dated _ member := absurd member (Table.not_mem_empty _)
  login_le := Nat.le_refl _
  logout_le := Nat.le_refl _
  generation_le _ member := absurd member (Table.not_mem_empty _)
  generation_eq _ member := absurd member (Table.not_mem_empty _)
  handle _ held := by cases held

/-- Coherence of a state whose operations continue those of a coherent one. -/
theorem Coherent.continue (coherent : Coherent auth)
    (operations : ∀ operation ∈ after.operations,
      ∃ old ∈ auth.operations, operation.Continues old)
    (nextOperation : after.nextOperation = auth.nextOperation)
    (generation : after.generation = auth.generation)
    (clock : after.clock = auth.clock)
    (lastLogout : after.lastLogout = auth.lastLogout)
    (login_le : after.lastLogin ≤ auth.clock)
    (handle : ∀ id, after.refresh = some id →
      ∃ operation, after.Unfinalized operation ∧ operation.id = id) :
    Coherent after where
  numbered operation member := by
    obtain ⟨old, oldMember, same, -, -⟩ := operations operation member
    rw [nextOperation, same]
    exact coherent.numbered old oldMember
  dated operation member := by
    obtain ⟨old, oldMember, -, -, same⟩ := operations operation member
    rw [clock, same]
    exact coherent.dated old oldMember
  login_le := clock ▸ login_le
  logout_le := by
    rw [lastLogout, clock]
    exact coherent.logout_le
  generation_le operation member := by
    obtain ⟨old, oldMember, -, same, -⟩ := operations operation member
    rw [generation, same]
    exact coherent.generation_le old oldMember
  generation_eq operation member := by
    obtain ⟨old, oldMember, -, sameGeneration, sameStart⟩ :=
      operations operation member
    rw [generation, lastLogout, sameGeneration, sameStart]
    exact coherent.generation_eq old oldMember
  handle := handle

/-- One operation moves on and the handle is kept or cleared. -/
theorem Coherent.put {old new : Operation} {id : Nat}
    (coherent : Coherent auth)
    (found : auth.operations.find id = some old)
    (operations : after.operations = auth.operations.put new)
    (continues : new.Continues old)
    (nextOperation : after.nextOperation = auth.nextOperation)
    (generation : after.generation = auth.generation)
    (clock : after.clock = auth.clock)
    (lastLogout : after.lastLogout = auth.lastLogout)
    (lastLogin : after.lastLogin = auth.lastLogin)
    (handle : after.refresh = none ∨
      after.refresh = auth.refresh ∧ new.finalized = old.finalized) :
    Coherent after := by
  have oldMember := (Table.find_eq_some.mp found).1
  refine coherent.continue (fun operation member => ?_) nextOperation generation
    clock lastLogout (lastLogin ▸ coherent.login_le) (fun name held => ?_)
  · rw [operations, Table.mem_put] at member
    rcases member with rfl | ⟨member, -⟩
    · exact ⟨old, oldMember, continues⟩
    · exact ⟨operation, member, rfl, rfl, rfl⟩
  · rcases handle with cleared | ⟨kept, finalized⟩
    · rw [cleared] at held
      cases held
    · obtain ⟨owner, ⟨member, unfinalized, started⟩, same⟩ :=
        coherent.handle name (kept ▸ held)
      by_cases moved : owner.id = new.id
      · have unique : owner = old :=
          Table.eq_of_key member oldMember (moved.trans continues.1)
        subst unique
        refine ⟨new, ⟨?_, finalized.trans unfinalized, ?_⟩, ?_⟩
        · rw [operations]
          exact Table.mem_put.mpr (.inl rfl)
        · rw [lastLogout, continues.2.2]
          exact started
        · rw [continues.1]
          exact same
      · refine ⟨owner, ⟨?_, unfinalized, ?_⟩, same⟩
        · rw [operations]
          exact Table.mem_put.mpr (.inr ⟨member, moved⟩)
        · rw [lastLogout]
          exact started

theorem Coherent.tick (coherent : Coherent auth) : Coherent auth.tick :=
  { coherent with
    dated := fun operation member =>
      Nat.le_succ_of_le (coherent.dated operation member)
    login_le := Nat.le_succ_of_le coherent.login_le
    logout_le := Nat.le_succ_of_le coherent.logout_le }

theorem Coherent.forget (coherent : Coherent auth) : Coherent auth.forget where
  numbered := coherent.numbered
  dated := coherent.dated
  login_le := coherent.login_le
  logout_le := Nat.le_refl _
  generation_le operation member :=
    Nat.le_succ_of_le (coherent.generation_le operation member)
  generation_eq operation member := by
    have earlier := coherent.generation_le operation member
    have dated := coherent.dated operation member
    change operation.generation = auth.generation + 1 ↔
      auth.clock < operation.startedAt
    omega
  handle _ held := by cases held

theorem Coherent.start {generation : Nat} (coherent : Coherent auth)
    (fresh : auth.lastLogout < auth.clock)
    (captured : generation = auth.generation) (subscriber : Subscriber) :
    Coherent (auth.start generation subscriber) where
  numbered operation member := by
    rcases Table.mem_put.mp member with rfl | ⟨member, -⟩
    · exact Nat.lt_succ_self _
    · exact Nat.lt_succ_of_lt (coherent.numbered operation member)
  dated operation member := by
    rcases Table.mem_put.mp member with rfl | ⟨member, -⟩
    · exact Nat.le_refl _
    · exact coherent.dated operation member
  login_le := coherent.login_le
  logout_le := coherent.logout_le
  generation_le operation member := by
    rcases Table.mem_put.mp member with rfl | ⟨member, -⟩
    · exact Nat.le_of_eq captured
    · exact coherent.generation_le operation member
  generation_eq operation member := by
    rcases Table.mem_put.mp member with rfl | ⟨member, -⟩
    · exact iff_of_true captured fresh
    · exact coherent.generation_eq operation member
  handle name held := by
    obtain rfl := Option.some.inj held
    exact ⟨_, ⟨Table.mem_put.mpr (.inl rfl), rfl, fresh⟩, rfl⟩

/-- The handle's own generation is the service's. -/
theorem Coherent.captured {id : Nat} {operation : Operation}
    (coherent : Coherent auth) (held : auth.refresh = some id)
    (found : auth.operations.find id = some operation) :
    operation.generation = auth.generation := by
  obtain ⟨owner, ⟨member, -, started⟩, rfl⟩ := coherent.handle id held
  have same : auth.operations.find owner.id = some owner :=
    Table.find_key member
  obtain rfl := Option.some.inj (same.symm.trans found)
  exact (coherent.generation_eq owner member).mpr started

theorem Coherent.refreshes {subscriber : Subscriber} (coherent : Coherent auth)
    (fresh : auth.lastLogout < auth.clock)
    (refreshes : Refreshes subscriber auth after) : Coherent after := by
  cases refreshes with
  | fresh => exact coherent.start fresh rfl subscriber
  | again held found =>
      exact coherent.start fresh (coherent.captured held found) subscriber
  | shared held found =>
      exact coherent.put found rfl ⟨rfl, rfl, rfl⟩ rfl rfl rfl rfl rfl
        (.inr ⟨rfl, rfl⟩)
  | lost => exact coherent

theorem Coherent.fail {operation : Operation} {id : Nat}
    (coherent : Coherent auth)
    (found : auth.operations.find id = some operation) :
    Coherent (auth.fail operation) :=
  coherent.put found rfl ⟨rfl, rfl, rfl⟩ rfl rfl rfl rfl rfl (.inr ⟨rfl, rfl⟩)

theorem Coherent.posted {operation : Operation} {id : Nat}
    (coherent : Coherent auth)
    (found : auth.operations.find id = some operation)
    (value : BrowserSession) :
    Coherent (auth.posted operation (some value)) := by
  unfold AuthService.posted
  dsimp only
  split
  all_goals
    exact coherent.put found rfl ⟨rfl, rfl, rfl⟩ rfl rfl rfl rfl rfl
      (.inr ⟨rfl, rfl⟩)

theorem Coherent.loaded {operation : Operation} {id : Nat}
    (coherent : Coherent auth)
    (found : auth.operations.find id = some operation)
    (value : BrowserSession) (user : ApiUser) :
    Coherent (auth.loaded operation value (some user)) := by
  unfold AuthService.loaded
  dsimp only
  split
  all_goals
    exact coherent.put found rfl ⟨rfl, rfl, rfl⟩ rfl rfl rfl rfl rfl
      (.inr ⟨rfl, rfl⟩)

theorem Coherent.told {operation : Operation} {id : Nat}
    (coherent : Coherent auth)
    (found : auth.operations.find id = some operation) :
    Coherent (auth.told operation) :=
  coherent.put found rfl ⟨rfl, rfl, rfl⟩ rfl rfl rfl rfl rfl (.inr ⟨rfl, rfl⟩)

theorem Coherent.finish {operation : Operation} {id : Nat}
    (coherent : Coherent auth)
    (found : auth.operations.find id = some operation) :
    Coherent (auth.finish operation) :=
  coherent.put found rfl ⟨rfl, rfl, rfl⟩ rfl rfl rfl rfl rfl (.inl rfl)

/-- A step of the service keeps it coherent. -/
theorem Coherent.effect {event : Event} (coherent : Coherent auth)
    (fresh : auth.lastLogout < auth.clock) (effect : Effect event auth after) :
    Coherent after := by
  cases effect with
  | same => exact coherent
  | refresh _ subscriber => exact coherent.refreshes fresh (auth.refreshes _)
  | login _ value =>
      exact { coherent with login_le := Nat.le_refl _ }
  | updateCurrentUser user => exact { coherent with }
  | logout => exact coherent.forget
  | posted found stage response =>
      cases response with
      | none => exact coherent.fail found
      | some value => exact coherent.posted found value
  | loaded found stage response =>
      cases response with
      | none => exact coherent.fail found
      | some user => exact coherent.loaded found _ user
  | told found => exact coherent.told found
  | expired found stage waiting => exact (coherent.told found).forget
  | finish found told => exact coherent.finish found

/-- At most one refresh started since the last logout is in flight, and a call
of `refreshAccessToken` meanwhile subscribes to it and sends no `POST`. -/
structure SingleFlight (auth : AuthService) : Prop where
  one : ∀ left right, auth.Current left → auth.Current right → left = right
  shared : ∀ operation, auth.Current operation → ∀ subscriber,
    (auth.refreshAccessToken subscriber).nextOperation = auth.nextOperation ∧
      ∃ joined ∈ (auth.refreshAccessToken subscriber).operations,
        joined.id = operation.id ∧ subscriber ∈ joined.subscribers

/-- The handle knows every refresh started since the last logout that is in
flight. -/
def Tracked (auth : AuthService) : Prop :=
  ∀ operation, auth.Current operation → auth.refresh = some operation.id

/-- A call joins a refresh in flight that the handle belongs to. -/
theorem refreshAccessToken_of_inFlight {operation : Operation}
    (held : auth.refresh = some operation.id)
    (member : operation ∈ auth.operations) (inFlight : operation.InFlight)
    (subscriber : Subscriber) :
    auth.refreshAccessToken subscriber = auth.join operation subscriber := by
  have found : auth.operations.find operation.id = some operation :=
    Table.find_key member
  simp only [AuthService.refreshAccessToken, held, AuthService.subscribe, found,
    if_neg inFlight.1]

theorem singleFlight_iff_tracked (coherent : Coherent auth) :
    SingleFlight auth ↔ Tracked auth := by
  constructor
  · intro single operation current
    have shared := (single.shared operation current (.call 0)).1
    cases held : auth.refresh with
    | none => simp [AuthService.refreshAccessToken, held, AuthService.start]
        at shared
    | some name =>
        obtain ⟨owner, ⟨member, unfinalized, started⟩, rfl⟩ :=
          coherent.handle name held
        have found : auth.operations.find owner.id = some owner :=
          Table.find_key member
        by_cases failed : owner.stage = .failed
        · simp [AuthService.refreshAccessToken, held, AuthService.subscribe,
            found, failed, AuthService.start] at shared
        · rw [single.one owner operation ⟨member, ⟨failed, unfinalized⟩, started⟩
            current]
  · intro tracked
    constructor
    · intro left right leftCurrent rightCurrent
      have same : some left.id = some right.id :=
        (tracked left leftCurrent).symm.trans (tracked right rightCurrent)
      exact Table.eq_of_key leftCurrent.1 rightCurrent.1 (Option.some.inj same)
    · intro operation current subscriber
      rw [refreshAccessToken_of_inFlight (tracked operation current) current.1
        current.2.1]
      exact ⟨rfl, _, Table.mem_put.mpr (.inl rfl), rfl, by simp⟩

/-- The finalizer of an event leaves the handle of another refresh in flight
alone. -/
def OwnHandle (auth : AuthService) (event : Event) : Prop :=
  ∀ id ∈ event.finalizes, ∀ operation ∈ auth.operations, operation.InFlight →
    auth.refresh = some operation.id → operation.id = id

theorem ownHandle_of_finalizes {event : Event}
    (nothing : event.finalizes = none) : OwnHandle auth event := by
  intro id member
  rw [nothing] at member
  cases member

theorem Tracked.put {old new : Operation} {id : Nat} (tracked : Tracked auth)
    (found : auth.operations.find id = some old)
    (operations : after.operations = auth.operations.put new)
    (continues : new.Continues old) (refresh : after.refresh = auth.refresh)
    (lastLogout : after.lastLogout = auth.lastLogout)
    (flight : new.InFlight → old.InFlight) : Tracked after := by
  rintro operation ⟨member, inFlight, started⟩
  rw [operations, Table.mem_put] at member
  rw [lastLogout] at started
  rw [refresh]
  rcases member with rfl | ⟨member, -⟩
  · have oldStarted : auth.lastLogout < old.startedAt := by
      rw [← continues.2.2]
      exact started
    rw [continues.1]
    exact tracked old
      ⟨(Table.find_eq_some.mp found).1, flight inFlight, oldStarted⟩
  · exact tracked operation ⟨member, inFlight, started⟩

theorem Tracked.forget (coherent : Coherent auth) : Tracked auth.forget := by
  rintro operation ⟨member, -, started⟩
  have dated := coherent.dated operation member
  change auth.clock < operation.startedAt at started
  omega

theorem Tracked.start {generation : Nat} (tracked : Tracked auth)
    (idle : ∀ operation, auth.Current operation →
      auth.refresh ≠ some operation.id) (subscriber : Subscriber) :
    Tracked (auth.start generation subscriber) := by
  rintro operation ⟨member, inFlight, started⟩
  rcases Table.mem_put.mp member with rfl | ⟨member, -⟩
  · rfl
  · have current : auth.Current operation := ⟨member, inFlight, started⟩
    exact absurd (tracked operation current) (idle operation current)

theorem Tracked.refreshes {subscriber : Subscriber} (tracked : Tracked auth)
    (refreshes : Refreshes subscriber auth after) : Tracked after := by
  cases refreshes with
  | fresh idle =>
      apply tracked.start
      intro operation _ own
      rw [idle] at own
      cases own
  | again held found failed =>
      apply tracked.start
      rintro operation ⟨member, inFlight, -⟩ own
      obtain rfl := Option.some.inj (held.symm.trans own)
      have same : auth.operations.find operation.id = some operation :=
        Table.find_key member
      obtain rfl := Option.some.inj (same.symm.trans found)
      exact inFlight.1 failed
  | shared held found =>
      exact tracked.put found rfl ⟨rfl, rfl, rfl⟩ rfl rfl
        fun inFlight => inFlight
  | lost => exact tracked

theorem Tracked.fail {operation : Operation} {id : Nat}
    (tracked : Tracked auth)
    (found : auth.operations.find id = some operation) :
    Tracked (auth.fail operation) :=
  tracked.put found rfl ⟨rfl, rfl, rfl⟩ rfl rfl
    fun inFlight => absurd rfl inFlight.1

theorem Tracked.posted {operation : Operation} {id : Nat}
    (tracked : Tracked auth)
    (found : auth.operations.find id = some operation)
    (stage : operation.stage = .posting) (value : BrowserSession) :
    Tracked (auth.posted operation (some value)) := by
  have unfailed : operation.stage ≠ .failed := by
    rw [stage]
    exact Stage.noConfusion
  unfold AuthService.posted
  dsimp only
  split
  all_goals
    exact tracked.put found rfl ⟨rfl, rfl, rfl⟩ rfl rfl
      fun inFlight => ⟨unfailed, inFlight.2⟩

theorem Tracked.loaded {operation : Operation} {id : Nat}
    {value : BrowserSession} (tracked : Tracked auth)
    (found : auth.operations.find id = some operation)
    (stage : operation.stage = .loading value) (user : ApiUser) :
    Tracked (auth.loaded operation value (some user)) := by
  have unfailed : operation.stage ≠ .failed := by
    rw [stage]
    exact Stage.noConfusion
  unfold AuthService.loaded
  dsimp only
  split
  all_goals
    exact tracked.put found rfl ⟨rfl, rfl, rfl⟩ rfl rfl
      fun inFlight => ⟨unfailed, inFlight.2⟩

/-- The finalizer clears the handle, and another refresh in flight is lost from
sight with it. -/
theorem tracked_finish {operation : Operation} (coherent : Coherent auth)
    (tracked : Tracked auth) {id : Nat}
    (found : auth.operations.find id = some operation) :
    Tracked (auth.finish operation) ↔ OwnHandle auth (.finish id) := by
  obtain ⟨-, same⟩ := Table.find_eq_some.mp found
  constructor
  · intro trackedAfter name finalizes other member inFlight held
    obtain rfl := Option.some.inj finalizes
    by_contra different
    obtain ⟨owner, ⟨present, -, started⟩, own⟩ := coherent.handle _ held
    obtain rfl := Table.eq_of_key member present own.symm
    have kept : other ∈ (auth.finish operation).operations :=
      Table.mem_put.mpr (.inr ⟨member, fun hit => different (hit.trans same)⟩)
    exact nomatch trackedAfter other ⟨kept, inFlight, started⟩
  · rintro own other ⟨member, inFlight, started⟩
    rcases Table.mem_put.mp member with rfl | ⟨member, different⟩
    · exact nomatch inFlight.2
    · have held := tracked other ⟨member, inFlight, started⟩
      exact absurd ((own id rfl other member inFlight held).trans same.symm)
        different

/-- A step keeps track exactly when its finalizer clears no foreign handle. -/
theorem tracked_effect {event : Event} (coherent : Coherent auth)
    (tracked : Tracked auth) (effect : Effect event auth after) :
    Tracked after ↔ OwnHandle auth event := by
  cases effect with
  | same calls =>
      exact iff_of_true tracked
        (ownHandle_of_finalizes (Event.finalizes_of_call calls))
  | refresh calls subscriber =>
      exact iff_of_true (tracked.refreshes (auth.refreshes subscriber))
        (ownHandle_of_finalizes (Event.finalizes_of_call calls))
  | login calls value =>
      exact iff_of_true tracked
        (ownHandle_of_finalizes (Event.finalizes_of_call calls))
  | updateCurrentUser user =>
      exact iff_of_true tracked (ownHandle_of_finalizes rfl)
  | logout calls =>
      exact iff_of_true (Tracked.forget coherent)
        (ownHandle_of_finalizes (Event.finalizes_of_call calls))
  | posted found stage response =>
      cases response with
      | none =>
          exact iff_of_true (tracked.fail found) (ownHandle_of_finalizes rfl)
      | some value =>
          exact iff_of_true (tracked.posted found stage value)
            (ownHandle_of_finalizes rfl)
  | loaded found stage response =>
      cases response with
      | none =>
          exact iff_of_true (tracked.fail found) (ownHandle_of_finalizes rfl)
      | some user =>
          exact iff_of_true (tracked.loaded found stage user)
            (ownHandle_of_finalizes rfl)
  | told found =>
      exact iff_of_true
        (tracked.put found rfl ⟨rfl, rfl, rfl⟩ rfl rfl fun inFlight => inFlight)
        (ownHandle_of_finalizes rfl)
  | expired found stage waiting =>
      exact iff_of_true (Tracked.forget (coherent.told found))
        (ownHandle_of_finalizes rfl)
  | finish found told => exact tracked_finish coherent tracked found

end AuthService

section Runs

variable {expiry : String → Option Int} {browser after : Browser}

theorem coherent_step {event : Event}
    (coherent : browser.auth.Coherent)
    (stepped : browser.step expiry event = some after) :
    after.auth.Coherent := by
  have fresh : browser.auth.tick.lastLogout < browser.auth.tick.clock :=
    Nat.lt_succ_of_le coherent.logout_le
  exact coherent.tick.effect fresh (Browser.step_effect stepped)

theorem singleFlight_step {event : Event} (coherent : browser.auth.Coherent)
    (single : browser.auth.SingleFlight)
    (stepped : browser.step expiry event = some after) :
    after.auth.SingleFlight ↔ browser.auth.OwnHandle event := by
  have tracked : browser.auth.tick.Tracked :=
    (AuthService.singleFlight_iff_tracked coherent).mp single
  have moved := AuthService.tracked_effect coherent.tick tracked
    (Browser.step_effect stepped)
  rw [AuthService.singleFlight_iff_tracked (coherent_step coherent stepped)]
  exact moved

/-- Over a run the refreshes stay single-flight exactly when no finalizer
clears the handle of another operation. -/
theorem singleFlight_moves {events : List Event}
    (coherent : browser.auth.Coherent) (single : browser.auth.SingleFlight) :
    (∀ reached ∈ states expiry events browser, reached.auth.SingleFlight) ↔
      ∀ move ∈ moves expiry events browser,
        move.before.auth.OwnHandle move.event := by
  induction events generalizing browser with
  | nil => simpa [states, moves] using single
  | cons event rest induction =>
      cases stepped : browser.step expiry event with
      | none =>
          unfold states
          rw [moves_cons_of_skip stepped]
          exact induction coherent single
      | some after =>
          have here := singleFlight_step coherent single stepped
          have there := fun singleAfter =>
            induction (coherent_step coherent stepped) singleAfter
          unfold states at there ⊢
          rw [moves_cons_of_step stepped]
          simp only [List.map_cons, List.forall_mem_cons] at there ⊢
          constructor
          · rintro ⟨-, singleAfter, later⟩
            exact ⟨here.mp singleAfter,
              (there singleAfter).mp ⟨singleAfter, later⟩⟩
          · rintro ⟨own, later⟩
            have singleAfter := here.mpr own
            exact ⟨single, singleAfter, ((there singleAfter).mpr later).2⟩

end Runs

theorem single_flight_iff_own_handles (expiry : String → Option Int)
    (events : List Event) :
    (∀ reached ∈ states expiry events {}, reached.auth.SingleFlight) ↔
      ∀ move ∈ moves expiry events {},
        move.before.auth.OwnHandle move.event := by
  refine singleFlight_moves AuthService.coherent_initially ?_
  constructor
  · intro left _ current
    exact absurd current.1 (Table.not_mem_empty _)
  · intro operation current
    exact absurd current.1 (Table.not_mem_empty _)

namespace Sample

/-- A refresh from before a logout fails after the next one has started: its
finalizer hides the newer refresh, and the third call sends a second `POST`. -/
def lateFinalizer : List Event :=
  [.refreshAccessToken, .logout 0 false, .refreshAccessToken, .posted 0 none,
    .deliver 0, .finish 0, .refreshAccessToken]

end Sample

theorem late_finalizer_breaks_single_flight :
    ¬ ∀ events, ∀ reached ∈ states (fun _ => none) events {},
        reached.auth.SingleFlight := by
  intro always
  have single := always Sample.lateFinalizer _
    (List.getElem_mem (show 7 < List.length _ by decide))
  have same : (⟨1, 1, 3, .posting, [.call 1], false⟩ : Operation) =
      ⟨2, 1, 7, .posting, [.call 2], false⟩ :=
    single.one _ _
      ⟨Table.mem_rows.mp (by decide), by decide, by decide⟩
      ⟨Table.mem_rows.mp (by decide), by decide, by decide⟩
  exact absurd same (by decide)

end Web

end SaasFoundation
