import SaasFoundation.Web.Access
import SaasFoundation.Web.Calls
import SaasFoundation.Web.Sessions

/-!
# Session recoveries that fail

A refresh writes the session after its `POST` and again after the profile, so
that a profile request that fails leaves the first write behind.
-/

namespace SaasFoundation

open Relational

namespace Web

namespace Browser

variable (expiry : String → Option Int)

/-- The browser after a list of events. -/
def run : List Event → Browser → Browser
  | [], browser => browser
  | event :: rest, browser =>
      run rest ((browser.step expiry event).getD browser)

variable {expiry : String → Option Int} {browser after : Browser}

theorem run_of_step {event : Event} {rest : List Event}
    (stepped : browser.step expiry event = some after) :
    run expiry (event :: rest) browser = run expiry rest after := by
  rw [run, stepped, Option.getD_some]

theorem run_of_skip {event : Event} {rest : List Event}
    (skipped : browser.step expiry event = none) :
    run expiry (event :: rest) browser = run expiry rest browser := by
  rw [run, skipped, Option.getD_none]

/-- What every step keeps holds at the end of a run. -/
theorem invariant_run (holds : Browser → Prop)
    (keeps : ∀ browser event after, holds browser →
      browser.step expiry event = some after → holds after)
    (events : List Event) (initially : holds browser) :
    holds (run expiry events browser) := by
  induction events generalizing browser with
  | nil => exact initially
  | cons event rest induction =>
      cases stepped : browser.step expiry event with
      | none =>
          rw [run_of_skip stepped]
          exact induction initially
      | some after =>
          rw [run_of_step stepped]
          exact induction (keeps _ _ _ initially stepped)

theorem progress_step {id : Nat} {event : Event}
    (started : id < browser.auth.nextOperation)
    (stepped : browser.step expiry event = some after) :
    Progress id event (browser.auth.stage id) (after.auth.stage id) := by
  have progress : Progress id event (browser.auth.tick.stage id)
      (after.auth.stage id) :=
    AuthService.progress_effect started (step_effect stepped)
  exact progress

theorem started_step {id : Nat} {event : Event}
    (started : id < browser.auth.nextOperation)
    (stepped : browser.step expiry event = some after) :
    id < after.auth.nextOperation := by
  have later : browser.auth.tick.nextOperation ≤ after.auth.nextOperation :=
    AuthService.nextOperation_le (step_effect stepped)
  exact Nat.lt_of_lt_of_le started later

/-- A refresh that has a token will not fail. -/
theorem succeeded_run {id : Nat} (events : List Event)
    (started : id < browser.auth.nextOperation)
    (succeeded : browser.auth.Succeeded id) :
    (run expiry events browser).auth.Succeeded id :=
  (invariant_run
    (fun browser => id < browser.auth.nextOperation ∧ browser.auth.Succeeded id)
    (fun _ _ _ kept stepped => ⟨started_step kept.1 stepped,
      kept.2.progress (progress_step kept.1 stepped)⟩)
    events ⟨started, succeeded⟩).2

/-- The answer to the `POST` of a refresh has come. -/
def Answered (id : Nat) (browser : Browser) : Prop :=
  id < browser.auth.nextOperation ∧ browser.auth.stage id ≠ some .posting

theorem answered_step {id : Nat} {event : Event}
    (answered : browser.Answered id)
    (stepped : browser.step expiry event = some after) : after.Answered id :=
  ⟨started_step answered.1 stepped,
    AuthService.stage_ne_posting answered.2 (progress_step answered.1 stepped)⟩

end Browser

section Answers

variable {expiry : String → Option Int} {browser after : Browser} {id : Nat}

/-- The profile never came for a refresh that fails. -/
theorem not_loaded_of_failed {events : List Event}
    (started : id < browser.auth.nextOperation)
    (failed : (Browser.run expiry events browser).auth.stage id = some .failed)
    {move : Move} (member : move ∈ moves expiry events browser)
    (user : ApiUser) : move.event ≠ .loaded id (some user) := by
  induction events generalizing browser with
  | nil => cases member
  | cons event rest induction =>
      cases stepped : browser.step expiry event with
      | none =>
          rw [moves_cons_of_skip stepped] at member
          rw [Browser.run_of_skip stepped] at failed
          exact induction started failed member
      | some after =>
          rw [moves_cons_of_step stepped] at member
          rw [Browser.run_of_step stepped] at failed
          have startedAfter := Browser.started_step started stepped
          rcases List.mem_cons.mp member with rfl | member
          · rintro rfl
            have progress := Browser.progress_step started stepped
            have succeeded : after.auth.Succeeded id := by
              unfold AuthService.Succeeded
              generalize browser.auth.stage id = earlier at progress
              generalize after.auth.stage id = later at progress ⊢
              cases progress with
              | other stage foreign => exact absurd rfl foreign
              | loaded value user => exact ⟨_, rfl⟩
            exact (Browser.succeeded_run rest startedAfter succeeded).not_failed failed
          · exact induction startedAfter failed member

/-- The token the `POST` answered is stored unless a logout came before. -/
theorem AuthService.session_posted_iff {auth : AuthService}
    {operation : Operation} {value : BrowserSession} :
    (auth.posted operation (some value)).session = auth.session ↔
      (operation.generation = auth.generation →
        auth.session.token = some value.token) := by
  by_cases same : operation.generation = auth.generation
  · have stored : (auth.posted operation (some value)).session =
        { auth.session with token := some value.token } := by
      simp only [AuthService.posted, if_pos same]
    rw [stored]
    constructor
    · intro kept _
      exact (congrArg Session.token kept).symm
    · intro held
      rw [← held same]
  · rw [AuthService.session_posted same]
    exact iff_of_true rfl fun equal => absurd equal same

/-- An answer that is not the profile writes at most the token of the `POST`. -/
theorem session_answer_iff {event : Event}
    (stepped : browser.step expiry event = some after)
    (answers : event.answers = some id)
    (unloaded : ∀ user, event ≠ .loaded id (some user)) :
    after.auth.session = browser.auth.session ↔
      ∀ operation ∈ browser.auth.operations, operation.id = id →
        operation.generation = browser.auth.generation →
          ∀ value, event = .posted id (some value) →
            browser.auth.session.token = some value.token := by
  have effect := Browser.step_effect stepped
  have kept : browser.auth.tick.session = browser.auth.session := rfl
  rw [← kept]
  generalize after.auth = later at effect ⊢
  cases effect with
  | same calls | refresh calls | login calls | logout calls =>
      exact absurd answers (Event.answers_of_call calls)
  | updateCurrentUser | told | expired | finish => cases answers
  | posted found stage response =>
      obtain rfl := Option.some.inj answers
      obtain ⟨member, identified⟩ := Table.find_eq_some.mp found
      cases response with
      | none => exact iff_of_true rfl fun _ _ _ _ _ same => nomatch same
      | some value =>
          rw [AuthService.session_posted_iff]
          constructor
          · intro held operation present own same other answered
            cases answered
            have unique := Table.eq_of_key present member
              (own.trans identified.symm)
            subst unique
            exact held same
          · intro held same
            exact held _ member identified same value rfl
  | loaded found stage response =>
      obtain rfl := Option.some.inj answers
      cases response with
      | none => exact iff_of_true rfl fun _ _ _ _ _ same => nomatch same
      | some user => exact absurd rfl (unloaded user)

theorem session_run {events : List Event}
    (kept : ∀ move ∈ moves expiry events browser,
      move.after.auth.session = move.before.auth.session) :
    (Browser.run expiry events browser).auth.session =
      browser.auth.session := by
  induction events generalizing browser with
  | nil => rfl
  | cons event rest induction =>
      cases stepped : browser.step expiry event with
      | none =>
          rw [moves_cons_of_skip stepped] at kept
          rw [Browser.run_of_skip stepped]
          exact induction kept
      | some after =>
          rw [moves_cons_of_step stepped] at kept
          rw [Browser.run_of_step stepped]
          have here : after.auth.session = browser.auth.session :=
            kept _ List.mem_cons_self
          rw [← here]
          exact induction fun move member =>
            kept move (List.mem_cons_of_mem _ member)

/-- After the answer to its `POST` a refresh that fails writes nothing. -/
theorem kept_of_answered {events : List Event}
    (answered : browser.Answered id)
    (failed : (Browser.run expiry events browser).auth.stage id = some .failed)
    (undisturbed : ∀ move ∈ moves expiry events browser,
      move.event.answers ≠ some id →
        move.after.auth.session = move.before.auth.session) :
    ∀ move ∈ moves expiry events browser,
      move.after.auth.session = move.before.auth.session := by
  intro move member
  by_cases answers : move.event.answers = some id
  · obtain ⟨⟨started, unposted⟩, stepped⟩ := invariant_moves
      (fun _ _ _ => Browser.answered_step) answered member
    refine (session_answer_iff stepped answers
      (not_loaded_of_failed answered.1 failed member)).mpr ?_
    intro operation present own same value posted
    have progress := Browser.progress_step started stepped
    rw [posted] at progress
    generalize move.before.auth.stage id = earlier at progress unposted
    generalize move.after.auth.stage id = later at progress
    cases progress with
    | other stage foreign => exact absurd rfl foreign
    | posted value => exact absurd rfl unposted
  · exact undisturbed move member answers

/-- When nobody else writes, the session is kept to the end exactly when every
step keeps it. -/
theorem session_run_iff {events : List Event}
    (started : id < browser.auth.nextOperation)
    (failed : (Browser.run expiry events browser).auth.stage id = some .failed)
    (undisturbed : ∀ move ∈ moves expiry events browser,
      move.event.answers ≠ some id →
        move.after.auth.session = move.before.auth.session) :
    (Browser.run expiry events browser).auth.session = browser.auth.session ↔
      ∀ move ∈ moves expiry events browser,
        move.after.auth.session = move.before.auth.session := by
  induction events generalizing browser with
  | nil => exact iff_of_true rfl fun _ member => nomatch member
  | cons event rest induction =>
      cases stepped : browser.step expiry event with
      | none =>
          rw [moves_cons_of_skip stepped] at undisturbed ⊢
          rw [Browser.run_of_skip stepped] at failed ⊢
          exact induction started failed undisturbed
      | some after =>
          rw [moves_cons_of_step stepped] at undisturbed ⊢
          rw [Browser.run_of_step stepped] at failed ⊢
          rw [List.forall_mem_cons] at undisturbed ⊢
          have startedAfter := Browser.started_step started stepped
          have progress := Browser.progress_step started stepped
          by_cases answers : event.answers = some id
          · have answered : after.auth.stage id ≠ some .posting := by
              generalize browser.auth.stage id = earlier at progress
              generalize after.auth.stage id = later at progress ⊢
              cases progress with
              | other stage foreign => exact absurd answers foreign
              | _ => exact fun same => nomatch same
            have rest := kept_of_answered ⟨startedAfter, answered⟩ failed
              undisturbed.2
            rw [session_run rest]
            exact ⟨fun kept => ⟨kept, rest⟩, fun kept => kept.1⟩
          · have here : after.auth.session = browser.auth.session :=
              undisturbed.1 answers
            rw [← here, induction startedAfter failed undisturbed.2]
            exact ⟨fun kept => ⟨rfl, kept⟩, fun kept => kept.2⟩

end Answers

/-- A call of `refreshAccessToken` or `ensureSession` in a run, followed until
it has ended in an error. -/
structure FailedCall (expiry : String → Option Int) where
  earlier : List Event
  call : Event
  calls : call = .refreshAccessToken ∨ ∃ now, call = .ensureSession now
  during : List Event
  ended : ∃ outcome, (outcome = .failed ∨ outcome = .ready false) ∧
    ((Browser.run expiry earlier {}).nextCall, outcome) ∈
      (Browser.run expiry (call :: during)
        (Browser.run expiry earlier {})).outcomes

namespace FailedCall

variable {expiry : String → Option Int} (recovery : FailedCall expiry)

def before : Browser := Browser.run expiry recovery.earlier {}

def called : Browser := Browser.run expiry [recovery.call] recovery.before

def after : Browser := Browser.run expiry recovery.during recovery.called

/-- What happens between the call and its end. -/
def steps : List Move := moves expiry recovery.during recovery.called

/-- The refresh the call waits for. -/
def refresh : Option Nat := recovery.called.auth.refresh

/-- A step in which one of the two requests is answered. -/
def Answers (move : Move) : Prop :=
  ∃ id ∈ recovery.refresh, move.event.answers = some id

/-- A login, a logout and a profile update stay away meanwhile. -/
def Undisturbed : Prop :=
  ∀ move ∈ recovery.steps, ¬recovery.Answers move →
    move.after.auth.session = move.before.auth.session

/-- The answers write nothing; undisturbed, the session is the one from before
the call, and so is what it admits. -/
structure ChangesNothing : Prop where
  answers : ∀ move ∈ recovery.steps, recovery.Answers move →
    move.after.auth.session = move.before.auth.session
  session : recovery.Undisturbed →
    recovery.after.auth.session = recovery.before.auth.session
  isLoggedIn : recovery.Undisturbed → ∀ now,
    recovery.after.auth.isLoggedIn expiry now =
      recovery.before.auth.isLoggedIn expiry now
  hasAccess : recovery.Undisturbed → ∀ permission,
    recovery.after.auth.hasAccess permission =
      recovery.before.auth.hasAccess permission

/-- The `POST` fails, or a logout came before its answer, or it answers with the
token that is held. -/
def TokenHeld : Prop :=
  ∀ move ∈ recovery.steps, ∀ operation ∈ move.before.auth.operations,
    recovery.refresh = some operation.id →
      operation.generation = move.before.auth.generation →
        ∀ value, move.event = .posted operation.id (some value) →
          move.before.auth.session.token = some value.token

theorem coherent_before : recovery.before.auth.Coherent :=
  Browser.invariant_run (fun browser => browser.auth.Coherent)
    (fun _ _ _ => coherent_step) recovery.earlier AuthService.coherent_initially

theorem numbered_before : recovery.before.Numbered :=
  Browser.invariant_run Browser.Numbered (fun _ _ _ => Browser.numbered_step)
    recovery.earlier Browser.numbered_initially

theorem step_call : recovery.before.step expiry recovery.call =
      some recovery.called ∧
    recovery.called.nextCall = recovery.before.nextCall + 1 := by
  have run : recovery.called =
      (recovery.before.step expiry recovery.call).getD recovery.before := rfl
  rcases recovery.calls with call | ⟨now, call⟩
  · rw [run, call]
    exact ⟨rfl, rfl⟩
  · rw [run, call]
    refine ⟨rfl, ?_⟩
    change (Browser.ensureSession _ _ _).nextCall = _
    unfold Browser.ensureSession
    dsimp only
    split
    · rfl
    · rfl

/-- The call is numbered and waits for the refresh it has joined. -/
theorem follows_called : recovery.called.Follows recovery.before.nextCall
    recovery.refresh := by
  obtain ⟨stepped, next⟩ := recovery.step_call
  have coherent := coherent_step recovery.coherent_before stepped
  have numbered := recovery.numbered_before
  have fresh (id : Nat) : ¬recovery.before.Waiting recovery.before.nextCall id :=
    fun waits => Nat.lt_irrefl _ (numbered.waiting _ id waits)
  have unheard (outcome : Outcome) :
      (recovery.before.nextCall, outcome) ∉ recovery.before.outcomes :=
    fun told => Nat.lt_irrefl _ (numbered.outcomes _ told)
  have started : ∀ id ∈ recovery.refresh,
      id < recovery.called.auth.nextOperation := by
    intro id held
    obtain ⟨operation, current, identified⟩ := coherent.handle id held
    rw [← identified]
    exact coherent.numbered operation current.1
  have later : recovery.before.nextCall < recovery.called.nextCall := by omega
  cases Browser.step_callEffect stepped with
  | quiet kept =>
      have := kept.nextCall
      omega
  | told call id outcome waited failed outcomes nextCall waiting => omega
  | called outcomes nextCall waiting =>
      refine ⟨later, started, fun id waits => ?_, fun outcome told => ?_⟩
      · rcases waiting _ id waits with waits | ⟨-, held⟩
        · exact absurd waits (fresh id)
        · exact held
      · rw [outcomes] at told
        exact absurd told (unheard outcome)
  | ready outcomes nextCall waiting =>
      refine ⟨later, started, fun id waits => ?_, fun outcome told bad => ?_⟩
      · exact absurd (waiting _ id waits) (fresh id)
      · rw [outcomes] at told
        rcases List.mem_append.mp told with told | own
        · exact absurd told (unheard outcome)
        · have answered := congrArg Prod.snd (List.mem_singleton.mp own)
          rcases bad with rfl | rfl
          · cases answered
          · cases answered

theorem exists_failed : ∃ id, recovery.refresh = some id ∧
    id < recovery.called.auth.nextOperation ∧
    recovery.after.auth.stage id = some .failed := by
  have follows : recovery.after.Follows recovery.before.nextCall
      recovery.refresh :=
    Browser.invariant_run (Browser.Follows _ _)
      (fun _ _ _ => Browser.follows_step) recovery.during
      recovery.follows_called
  obtain ⟨outcome, bad, told⟩ := recovery.ended
  obtain ⟨id, waits, failed⟩ := follows.failed outcome told bad
  exact ⟨id, waits, recovery.follows_called.started id waits, failed⟩

theorem session_called :
    recovery.called.auth.session = recovery.before.auth.session := by
  have run : recovery.called =
      (recovery.before.step expiry recovery.call).getD recovery.before := rfl
  rcases recovery.calls with call | ⟨now, call⟩
  · rw [run, call]
    exact (AuthService.refreshes _ _).kept.1
  · rw [run, call]
    change (Browser.ensureSession _ _ _).auth.session = _
    unfold Browser.ensureSession
    dsimp only
    split
    · rfl
    · exact (AuthService.refreshes _ _).kept.1

theorem answers_iff {id : Nat} (waits : recovery.refresh = some id)
    (move : Move) : recovery.Answers move ↔ move.event.answers = some id := by
  rw [Answers, waits]
  simp

theorem tokenHeld_iff :
    (∀ move ∈ recovery.steps, recovery.Answers move →
      move.after.auth.session = move.before.auth.session) ↔
        recovery.TokenHeld := by
  obtain ⟨id, waits, started, failed⟩ := recovery.exists_failed
  unfold TokenHeld
  refine forall₂_congr fun move member => ?_
  obtain ⟨-, stepped⟩ := invariant_moves (fun _ _ _ _ _ => trivial) trivial
    member
  have unloaded := not_loaded_of_failed started failed member
  rw [recovery.answers_iff waits, waits]
  constructor
  · intro kept operation present own same value posted
    obtain rfl := Option.some.inj own
    have answers : move.event.answers = some operation.id := by
      rw [posted]
      rfl
    exact (session_answer_iff stepped answers unloaded).mp (kept answers)
      operation present rfl same value posted
  · intro held answers
    refine (session_answer_iff stepped answers unloaded).mpr ?_
    intro operation present own same value posted
    subst own
    exact held operation present rfl same value posted

theorem session_iff (undisturbed : recovery.Undisturbed) :
    recovery.after.auth.session = recovery.before.auth.session ↔
      recovery.TokenHeld := by
  obtain ⟨id, waits, started, failed⟩ := recovery.exists_failed
  have others : ∀ move ∈ recovery.steps, move.event.answers ≠ some id →
      move.after.auth.session = move.before.auth.session := by
    intro move member foreign
    refine undisturbed move member fun answers => ?_
    exact foreign ((recovery.answers_iff waits move).mp answers)
  rw [← session_called, ← tokenHeld_iff]
  refine (session_run_iff started failed others).trans ?_
  constructor
  · exact fun kept move member _ => kept move member
  · intro kept move member
    by_cases answers : recovery.Answers move
    · exact kept move member answers
    · exact undisturbed move member answers

/-- A recovery that fails changes nothing exactly when the token its `POST`
answered, if it was still wanted, is the one that is held. -/
theorem changesNothing_iff :
    (recovery.ChangesNothing ↔ recovery.TokenHeld) ∧
      (recovery.Undisturbed →
        (recovery.after.auth.session = recovery.before.auth.session ↔
          recovery.TokenHeld)) := by
  refine ⟨?_, recovery.session_iff⟩
  constructor
  · exact fun kept => recovery.tokenHeld_iff.mp kept.answers
  · intro held
    have session (undisturbed : recovery.Undisturbed) :
        recovery.after.auth.session = recovery.before.auth.session :=
      (recovery.session_iff undisturbed).mpr held
    constructor
    · exact recovery.tokenHeld_iff.mpr held
    · exact session
    · intro undisturbed now
      rw [AuthService.isLoggedIn, session undisturbed]
      rfl
    · intro undisturbed permission
      rw [AuthService.hasAccess, session undisturbed]
      rfl

end FailedCall

namespace Sample

/-- `ensureSession` answers `false` after its `POST` has stored a token. -/
def halfRecovered : FailedCall fun _ => none where
  earlier := []
  call := .ensureSession 0
  calls := .inr ⟨0, rfl⟩
  during := [.posted 0 (some fresh), .loaded 0 none, .deliver 0]
  ended := ⟨.ready false, .inr rfl, by decide⟩

end Sample

theorem failed_recovery_logs_in :
    ¬(∀ recovery : FailedCall fun _ => none, recovery.ChangesNothing) ∧
      Sample.halfRecovered.Undisturbed ∧
      Sample.halfRecovered.before.auth.isLoggedIn (fun _ => none) 0 = false ∧
      Sample.halfRecovered.after.auth.isLoggedIn (fun _ => none) 0 = true := by
  have undisturbed : Sample.halfRecovered.Undisturbed := by
    have waits : Sample.halfRecovered.refresh = some 0 := by decide
    have kept : ∀ move ∈ Sample.halfRecovered.steps,
        move.event.answers = some 0 ∨
          move.after.auth.session = move.before.auth.session := by decide
    intro move member foreign
    rw [Sample.halfRecovered.answers_iff waits] at foreign
    exact (kept move member).resolve_left foreign
  refine ⟨fun always => ?_, undisturbed, by decide, by decide⟩
  have same := (always Sample.halfRecovered).isLoggedIn undisturbed 0
  exact absurd same (by decide)

end Web

end SaasFoundation
