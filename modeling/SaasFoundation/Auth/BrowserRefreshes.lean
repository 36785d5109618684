import SaasFoundation.Auth.BrowserCookies
import SaasFoundation.Auth.Refresh

/-!
# A session that is refreshed in time

The cookie of a browser and the session row of the server change together: an
answered refresh replaces the hash in the row and the token in the cookie.  As
long as nobody else uses or ends the session and the token does not expire, the
next refresh succeeds, whatever else is served and stored in between.  A token
counts whole seconds, a cookie milliseconds, and the cookie outlives the token.
-/

namespace SaasFoundation

open Relational Transaction Tx Cookies

namespace AuthService

open SessionRepository (matchesHash)

/-- The hash is the current one of a session whose account may sign in. -/
def Standing (db : Db) (sessionId hash : Nat) : Prop :=
  fitsInteger sessionId = true ∧ 0 < sessionId ∧
    ∃ row user role, matchesHash db sessionId hash = some row ∧
      UserRepository.liveUser db row.userId = some user ∧
      user.statusId = some StatusId.active ∧ user.roleId = some role

variable {moment : Moment} {sessionId hash : Nat}

/-- A current token is exchanged for the tokens of the drawn hash. -/
theorem outcome_refreshToken (standing : Standing moment.db sessionId hash) :
    ∃ row tokens, matchesHash moment.db sessionId hash = some row ∧
      moment.outcome (refreshToken sessionId hash) =
        (.ok tokens, rotated moment row) ∧
      tokens.sessionId = sessionId ∧ tokens.hash = moment.draws 0 := by
  obtain ⟨fits, _, row, user, role, current, live, active, has⟩ := standing
  obtain ⟨_, rowId, _⟩ := SessionRepository.matchesHash_eq_some.mp current
  refine ⟨row,
    { userId := user.id, role := some role, sessionId := row.id
      hash := moment.draws 0 }, current, ?_, rowId, rfl⟩
  have sameId : user.id = row.userId := by
    have found := (Option.filter_eq_some_iff.mp live).1
    exact (Table.find_eq_some.mp found).2
  have seen : ((moment.stand.drawn.started moment.clock).write
      { sessions := [.put { row with hash := moment.draws 0 }] }).view =
      rotated moment row := by
    simp
    rfl
  rw [Moment.outcome_iff (· = _)]
  simp only [refreshToken, SessionRepository.updateByHash,
    SessionRepository.rotate, Program.serially_bind, Program.serially_draw,
    Program.serially_transaction, serially_execute, Stand.view_started,
    Stand.view_drawn, Moment.view_stand, Moment.draws_stand, fits, if_true,
    current]
  rw [if_neg (by simp)]
  refine (serially_findSession current
    ((Stand.view_commit _).trans seen)).mpr ?_
  have again : UserRepository.liveUser (rotated moment row) user.id =
      some user := by
    rw [sameId]
    exact live
  rw [live]
  simp only [answerRotation, Program.serially_bind, UserRepository.findById,
    serially_query]
  have read : (UserRepository.liveUser
      ((moment.stand.drawn.started moment.clock).write
        { sessions := [.put { row with hash := moment.draws 0 }] }).commit.view
      user.id).map UserMapper.toDomain = some (UserMapper.toDomain user) := by
    rw [Stand.view_commit, seen, again]
    rfl
  rw [read]
  simp [Option.filter_some, UserMapper.toDomain, active, has]
  rfl

/-- The new hash stands after the exchange. -/
theorem Standing.rotated (standing : Standing moment.db sessionId hash)
    {row : SessionRow}
    (current : matchesHash moment.db sessionId hash = some row) :
    Standing (rotated moment row) sessionId (moment.draws 0) := by
  obtain ⟨fits, positive, stored, user, role, found, live, active, has⟩ :=
    standing
  obtain rfl : stored = row := Option.some.inj (found.symm.trans current)
  obtain ⟨_, _, _, alive⟩ := SessionRepository.matchesHash_eq_some.mp current
  refine ⟨fits, positive, { stored with hash := moment.draws 0 }, user, role,
    ?_, live, active, has⟩
  have kept := @find_rotated moment _ _ _ current
  rw [matchesHash, kept]
  simp [Option.filter_some, alive]

variable {runtime : Runtime} {config : AuthConfig} {email password : String}

/-- The token of a login is one of the session it has created. -/
theorem standing_of_validateLogin {tokens : Tokens} {after : Db}
    (unused : moment.NewSession) (fits : fitsInteger (moment.draws 1) = true)
    (positive : 0 < moment.draws 1)
    (signedIn : moment.outcome (validateLogin runtime config email password) =
      (.ok tokens, after)) (role : tokens.role ≠ none) :
    Standing after tokens.sessionId tokens.hash := by
  obtain ⟨errors, rejected⟩ | ⟨row, stored, live, active, created⟩ :=
    @outcome_validateLogin runtime config email password moment unused
  · have answer := congrArg Prod.fst (rejected.symm.trans signedIn)
    exact absurd answer (by simp)
  · obtain ⟨answer, rfl⟩ := Prod.mk.inj (created.symm.trans signedIn)
    obtain rfl := Except.ok.inj answer
    obtain ⟨roleId, has⟩ := Option.ne_none_iff_exists'.mp role
    have found : (moment.db.sessions.put
        { id := moment.draws 1, userId := row.id, hash := moment.draws 0
          deletedAt := none }).find (moment.draws 1) =
        some { id := moment.draws 1, userId := row.id, hash := moment.draws 0
               deletedAt := none } :=
      Table.find_put.trans (if_pos rfl)
    refine ⟨fits, positive, { id := moment.draws 1, userId := row.id
                              hash := moment.draws 0, deletedAt := none },
      row, roleId, ?_, ?_, active, has⟩
    · rw [matchesHash]
      dsimp only
      rw [found]
      simp [Option.filter_some]
    · rw [UserRepository.liveUser]
      dsimp only
      rw [stored]
      simp [Option.filter_some, live]

end AuthService

namespace BrowserAuthController

/-- `exp` lies the lifetime after `iat`, and both are whole seconds. -/
def Unexpired (lifetime issued now : Int) : Prop :=
  now / 1000 < issued / 1000 + lifetime / 1000

instance (lifetime issued now : Int) :
    Decidable (Unexpired lifetime issued now) :=
  inferInstanceAs (Decidable (_ < _))

/-- What the refresh token of a browser verifies as until it expires. -/
def Honest (jwt : RefreshJwt) (lifetime : Int) : Prop :=
  ∀ sessionId hash issued now, Unexpired lifetime issued now →
    jwt.verify (jwt.sign sessionId hash issued) now =
      some { sessionId := some sessionId, hash := some hash }

/-- The server and one of its browsers.  `issued` records when the last token
the browser has received was signed; nothing reads it. -/
structure Deployment where
  db : Db
  browser : Browser
  issued : Int

inductive Turn where
  | waited (duration : Nat)
  /-- Other code of the host sets a cookie. -/
  | stored (cookie : Cookie)
  | removed (name : String)
  /-- Other requests are served. -/
  | served (after : Db)
  /-- The browser refreshes its session and receives the answer. -/
  | refreshed (clock : Nat) (draws : Nat → Nat)

section Turns

variable (config : BrowserRuntime) (jwt : RefreshJwt) (lifetime : Int)
  (origin : String)

/-- The answer to a refresh of the browser and the database it leaves. -/
def Deployment.refresh (deployment : Deployment) (clock : Nat)
    (draws : Nat → Nat) : Except Failure SessionAnswer × Db :=
  Moment.outcome { db := deployment.db, clock, draws }
    (BrowserAuthController.refresh config jwt lifetime deployment.browser.now
      (deployment.browser.request (some origin)))

/-- A failed refresh sets no cookie. -/
def Deployment.receive (deployment : Deployment) :
    Except Failure SessionAnswer × Db → Deployment
  | (.ok answer, after) =>
      { db := after, browser := deployment.browser.receive answer.cookies
        issued := deployment.browser.now }
  | (.error _, after) => { deployment with db := after }

def Deployment.step (deployment : Deployment) : Turn → Deployment
  | .waited duration =>
      { deployment with
        browser := deployment.browser.step config jwt lifetime
          (.waited duration) }
  | .stored cookie =>
      { deployment with
        browser := deployment.browser.step config jwt lifetime
          (.stored cookie) }
  | .removed name =>
      { deployment with
        browser := deployment.browser.step config jwt lifetime (.removed name) }
  | .served after => { deployment with db := after }
  | .refreshed clock draws =>
      deployment.receive
        (deployment.refresh config jwt lifetime origin clock draws)

/-- The token does not expire while the browser waits, other code leaves the
cookie alone, and other requests leave the session and the standing of its
account. -/
def Turn.Spares (sessionId : Nat) (deployment : Deployment) : Turn → Prop
  | .waited duration =>
      Unexpired lifetime deployment.issued (deployment.browser.now + duration)
  | .stored cookie => cookie.Proper ∧ cookie.name ≠ cookieName config
  | .removed name => name ≠ cookieName config
  | .served after => ∀ hash, AuthService.Standing deployment.db sessionId hash →
      AuthService.Standing after sessionId hash
  | .refreshed _ _ => True

/-- Turns that spare the session, each in the state it is taken in. -/
inductive Lasts (sessionId : Nat) : Deployment → List Turn → Deployment → Prop
  where
  | nil (deployment : Deployment) : Lasts sessionId deployment [] deployment
  | cons {deployment final : Deployment} {turn : Turn} {turns : List Turn} :
      turn.Spares config lifetime sessionId deployment →
      Lasts sessionId (deployment.step config jwt lifetime origin turn) turns
        final →
      Lasts sessionId deployment (turn :: turns) final

end Turns

variable {config : BrowserRuntime} {jwt : RefreshJwt} {lifetime : Int}
  {origin : String}

/-- The browser keeps an unexpired token of the current hash. -/
def Usable (config : BrowserRuntime) (jwt : RefreshJwt) (lifetime : Int)
    (sessionId : Nat) (deployment : Deployment) : Prop :=
  ∃ hash, AuthService.Standing deployment.db sessionId hash ∧
    Unexpired lifetime deployment.issued deployment.browser.now ∧
    Agrees config deployment.browser
      { now := deployment.browser.now
        held := some (jwt.sign sessionId hash deployment.issued,
          deployment.issued + 1000 * (lifetime / 1000)) }

variable {sessionId : Nat} {deployment : Deployment}

/-- The cookie set with a token lasts as long as the token. -/
theorem Unexpired.cookie {issued now : Int}
    (unexpired : Unexpired lifetime issued now) :
    now < issued + 1000 * (lifetime / 1000) := by
  unfold Unexpired at unexpired
  omega

theorem unexpired_issued (enough : 1000 ≤ lifetime) (issued : Int) :
    Unexpired lifetime issued issued := by
  unfold Unexpired
  omega

theorem Usable.readSession (honest : Honest jwt lifetime)
    (usable : Usable config jwt lifetime sessionId deployment) :
    ∃ hash, AuthService.Standing deployment.db sessionId hash ∧
      readSession config jwt deployment.browser.now
        (deployment.browser.request (some origin)) = .ok (sessionId, hash) := by
  obtain ⟨hash, standing, unexpired, agrees⟩ := usable
  refine ⟨hash, standing, ?_⟩
  have verified := honest sessionId hash deployment.issued
    deployment.browser.now unexpired
  have lasts := unexpired.cookie
  have positive : sessionId ≠ 0 := standing.2.1.ne'
  rw [agrees.readSession, Memory.session, Memory.live]
  simp [Option.filter, lasts, verified, BrowserAuthController.session, positive]

theorem outcome_bind_pure {α β : Type} (moment : Moment) (program : Tx α)
    (reply : α → β) :
    moment.outcome (program >>= fun value => pure (reply value)) =
      ((moment.outcome program).1.map reply, (moment.outcome program).2) := by
  rw [Moment.outcome_iff (· = _), Program.serially_bind]
  exact (Moment.outcome_iff fun outcome : Except Failure α × Db =>
    (outcome.1.map reply, outcome.2) =
      ((moment.outcome program).1.map reply, (moment.outcome program).2)).mp rfl

/-- A token just issued for the current hash of a session. -/
theorem usable_received {tokens : Tokens} {after : Db} {memory : Memory}
    (enough : 1000 ≤ lifetime)
    (agrees : Agrees config deployment.browser memory)
    (owner : tokens.sessionId = sessionId)
    (standing : AuthService.Standing after sessionId tokens.hash) :
    Usable config jwt lifetime sessionId
      { db := after
        browser := deployment.browser.receive (setSession config jwt lifetime
          deployment.browser.now tokens).cookies
        issued := deployment.browser.now } := by
  have kept := agrees.put (jwt.sign tokens.sessionId tokens.hash
    deployment.browser.now, deployment.browser.now + 1000 * (lifetime / 1000))
  refine ⟨tokens.hash, standing, ?_, ?_⟩
  · rw [receive_sessionSet]
    exact unexpired_issued enough _
  · rw [receive_sessionSet, ← owner]
    rwa [← agrees.now] at kept

/-- The refresh succeeds, and the session remains usable. -/
theorem Usable.refreshed (honest : Honest jwt lifetime)
    (enough : 1000 ≤ lifetime) (known : origin ∈ config.origins)
    (usable : Usable config jwt lifetime sessionId deployment) (clock : Nat)
    (draws : Nat → Nat) :
    ∃ tokens after,
      deployment.refresh config jwt lifetime origin clock draws =
        (.ok (setSession config jwt lifetime deployment.browser.now tokens),
          after) ∧
      tokens.sessionId = sessionId ∧
      Usable config jwt lifetime sessionId
        (deployment.step config jwt lifetime origin
          (.refreshed clock draws)) := by
  obtain ⟨hash, standing, read⟩ :=
    @Usable.readSession _ _ _ origin _ _ honest usable
  obtain ⟨_, _, _, agrees⟩ := usable
  have accepted := trusted_of_mem known deployment.browser
  obtain ⟨row, tokens, current, exchanged, owner, drawn⟩ :=
    @AuthService.outcome_refreshToken { db := deployment.db, clock, draws }
      sessionId hash standing
  have program : refresh config jwt lifetime deployment.browser.now
      (deployment.browser.request (some origin)) =
      AuthService.refreshToken sessionId hash >>= fun tokens =>
        pure
          (setSession config jwt lifetime deployment.browser.now tokens) := by
    unfold BrowserAuthController.refresh checkOrigin
    rw [if_pos accepted, read]
    rfl
  have answer : deployment.refresh config jwt lifetime origin clock draws =
      (.ok (setSession config jwt lifetime deployment.browser.now tokens),
        AuthService.rotated { db := deployment.db, clock, draws } row) := by
    rw [Deployment.refresh, program, outcome_bind_pure, exchanged]
    rfl
  refine ⟨tokens, _, answer, owner, ?_⟩
  rw [Deployment.step, answer, Deployment.receive]
  apply usable_received enough agrees owner
  rw [drawn]
  exact standing.rotated current

/-- What one turn preserves. -/
theorem Usable.step (honest : Honest jwt lifetime) (enough : 1000 ≤ lifetime)
    (known : origin ∈ config.origins)
    (usable : Usable config jwt lifetime sessionId deployment) {turn : Turn}
    (spares : turn.Spares config lifetime sessionId deployment) :
    Usable config jwt lifetime sessionId
      (deployment.step config jwt lifetime origin turn) := by
  have whole := usable
  obtain ⟨hash, standing, unexpired, agrees⟩ := usable
  cases turn with
  | refreshed clock draws =>
      obtain ⟨_, _, _, _, kept⟩ :=
        whole.refreshed honest enough known clock draws
      exact kept
  | served after =>
      exact ⟨hash, spares hash standing, unexpired, agrees⟩
  | stored cookie =>
      exact ⟨hash, standing, unexpired, agrees.stored spares.1 spares.2⟩
  | removed name =>
      exact ⟨hash, standing, unexpired, agrees.removed spares⟩
  | waited duration =>
      exact ⟨hash, standing, spares, agrees.waited duration⟩

/-- What a run preserves. -/
theorem Usable.lasts (honest : Honest jwt lifetime) (enough : 1000 ≤ lifetime)
    (known : origin ∈ config.origins)
    (usable : Usable config jwt lifetime sessionId deployment)
    {turns : List Turn} {final : Deployment}
    (run : Lasts config jwt lifetime origin sessionId deployment turns final) :
    Usable config jwt lifetime sessionId final := by
  induction run with
  | nil deployment => exact usable
  | cons spares rest hypothesis =>
      exact hypothesis (usable.step honest enough known spares)

/-- What an answered login has set and stored. -/
theorem answered_login {browser : Browser} (known : origin ∈ config.origins)
    {moment : Moment} {runtime : Runtime} {auth : AuthConfig}
    {email password : String} {answer : SessionAnswer} {after : Db}
    (signedIn : moment.outcome (login config jwt lifetime browser.now runtime
        auth email password (browser.request (some origin))) =
      (.ok answer, after)) :
    ∃ tokens,
      moment.outcome (AuthService.validateLogin runtime auth email password) =
        (.ok tokens, after) ∧
      answer = setSession config jwt lifetime browser.now tokens := by
  have program : login config jwt lifetime browser.now runtime auth email
      password (browser.request (some origin)) =
      AuthService.validateLogin runtime auth email password >>= fun tokens =>
        pure (setSession config jwt lifetime browser.now tokens) := by
    unfold login checkOrigin
    rw [if_pos (trusted_of_mem known browser)]
    rfl
  rw [program, outcome_bind_pure] at signedIn
  obtain ⟨answered, stored⟩ := Prod.mk.inj signedIn
  cases result : (moment.outcome
      (AuthService.validateLogin runtime auth email password)).1 with
  | error failure =>
      rw [result] at answered
      exact absurd answered (by simp [Except.map])
  | ok tokens =>
      rw [result] at answered
      exact ⟨tokens, Prod.ext result stored, (Except.ok.inj answered).symm⟩

/-- A session lasts from its login on: after every run that spares it, the next
refresh succeeds and answers with a token of the same session. -/
theorem session_lasts (honest : Honest jwt lifetime) (enough : 1000 ≤ lifetime)
    (known : origin ∈ config.origins) {start : Int} (dated : 1 ≤ start)
    {events : List BrowserEvent}
    (foreign : ∀ event ∈ events, event.Foreign config) {browser : Browser}
    (before : browser = Browser.run config jwt lifetime start events)
    {moment : Moment} (unused : moment.NewSession)
    (fits : fitsInteger (moment.draws 1) = true)
    (positive : 0 < moment.draws 1) {runtime : Runtime} {auth : AuthConfig}
    {email password : String} {answer : SessionAnswer} {after : Db}
    (signedIn : moment.outcome (login config jwt lifetime browser.now runtime
        auth email password (browser.request (some origin))) =
      (.ok answer, after))
    (role : answer.token.role ≠ none) {turns : List Turn} {final : Deployment}
    (run : Lasts config jwt lifetime origin answer.token.sessionId
      { db := after, browser := browser.receive answer.cookies
        issued := browser.now } turns final)
    (clock : Nat) (draws : Nat → Nat) :
    ∃ fresh later,
      final.refresh config jwt lifetime origin clock draws =
        (.ok fresh, later) ∧
      fresh.token.sessionId = answer.token.sessionId := by
  have agrees : Agrees config browser (Memory.run jwt lifetime start events) :=
    before ▸ agrees_run dated foreign
  obtain ⟨tokens, exchanged, rfl⟩ := answered_login known signedIn
  have standing :=
    AuthService.standing_of_validateLogin unused fits positive exchanged role
  have received := @usable_received config jwt lifetime tokens.sessionId
    { db := after, browser, issued := browser.now } tokens after _ enough agrees
    rfl standing
  obtain ⟨fresh, later, answered, owner, _⟩ :=
    (received.lasts honest enough known run).refreshed honest enough known clock
      draws
  exact ⟨_, later, answered, owner⟩

namespace Sample

/-- Tokens of a minute that spell their fields and `exp` in unary. -/
def unaryJwt : RefreshJwt where
  sign sessionId hash issued :=
    .ofList (List.replicate sessionId 's' ++ List.replicate hash 'h' ++
      List.replicate (issued / 1000 + 60).toNat 'e')
  verify token now :=
    if now / 1000 < token.toList.count 'e' then
      some { sessionId := some (token.toList.count 's')
             hash := some (token.toList.count 'h') }
    else none

theorem honest_unaryJwt : Honest unaryJwt 60000 := by
  intro sessionId hash issued now unexpired
  have lasts : now / 1000 < issued / 1000 + 60 := unexpired
  simp [unaryJwt, List.count_replicate]
  omega

def beforeLogin : Moment where
  db := SaasFoundation.Sample.world.db
  clock := 5
  draws := fun _ => 9

def answer : SessionAnswer :=
  setSession runtime unaryJwt 60000 1
    { userId := 2, role := some 2, sessionId := 9, hash := 9 }

def received : Deployment where
  db := (beforeLogin.outcome (AuthService.validateLogin
    SaasFoundation.Sample.environment.runtime
    SaasFoundation.Sample.environment.config "b" "b")).2
  browser := (Browser.run runtime unaryJwt 60000 1 []).receive answer.cookies
  issued := 1

def turns : List Turn :=
  [.waited 5000, .refreshed 6 fun _ => 31]

end Sample

theorem session_lasts_refreshed :
    ∃ final, Lasts Sample.runtime Sample.unaryJwt 60000 "https://app.test" 9
        Sample.received Sample.turns final ∧
      ∃ fresh later,
        final.refresh Sample.runtime Sample.unaryJwt 60000 "https://app.test" 7
          (fun _ => 32) = (.ok fresh, later) ∧
        fresh.token.sessionId = 9 := by
  have lasting : Unexpired 60000 Sample.received.issued
      (Sample.received.browser.now + (5000 : Nat)) := by
    decide +kernel
  have run : Lasts Sample.runtime Sample.unaryJwt 60000 "https://app.test" 9
      Sample.received Sample.turns _ :=
    .cons lasting (.cons trivial (.nil _))
  refine ⟨_, run, ?_⟩
  exact @session_lasts Sample.runtime Sample.unaryJwt 60000 "https://app.test"
    Sample.honest_unaryJwt (by decide) (by decide) 1 (by decide) []
    (fun _ member => absurd member List.not_mem_nil) _ rfl Sample.beforeLogin
    rfl (by decide) (by decide)
    SaasFoundation.Sample.environment.runtime
    SaasFoundation.Sample.environment.config "b" "b" Sample.answer _ rfl
    (by decide) _ _ run 7 _

end BrowserAuthController

end SaasFoundation
