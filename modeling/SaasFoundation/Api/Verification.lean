import SaasFoundation.Accounting.Verification
import SaasFoundation.Accounts.RolesVerification
import SaasFoundation.Auth.Verification
import SaasFoundation.Workspaces.Verification

/-!
# Every request follows the discipline

The methods are verified one by one in the modules before.  Here each call of
a controller is its method, `GuardedCall.program` runs the guards first, and
`verifies` covers the systems of all requests a caller may send.
-/

namespace SaasFoundation

open Relational Transaction Discipline

namespace Api

variable {environment : Environment} {drawn : Prop} {α : Type}
  {context : DbContext} {world : DbWorld}

/-- What every request owes. -/
abbrev Follows (environment : Environment) (drawn : Prop) (program : Tx Reply)
    (context : DbContext) (world : DbWorld) : Prop :=
  Wp environment drawn program Answers (Refuses drawn) context world

/-- A method behind a controller. -/
theorem follows_reply {service : Tx α} {reply : α → Reply}
    {post : α → DbContext → DbWorld → Prop}
    {failed : Failure → DbContext → DbWorld → Prop}
    (verified : Wp environment drawn service post failed context world)
    (answers : ∀ value later now, later.request = context.request →
      post value later now → Answers (reply value) later now)
    (refuses : ∀ failure later now, later.request = context.request →
      failed failure later now → Refuses drawn failure later now) :
    Follows environment drawn (service.reply reply) context world := by
  refine wp_then (wp_mono (wp_request verified) ?_ ?_)
  · exact fun value later now returned =>
      answers value later now returned.1 returned.2
  · exact fun failure later now rejected =>
      refuses failure later now rejected.1 rejected.2

/-- A method that says nothing about its answer. -/
theorem follows_plain {service : Tx α} {reply : α → Reply}
    (verified : Wp environment drawn service (fun _ _ _ => True)
      (fun _ _ _ => True) context world)
    (answers : ∀ answer later now, later.request = context.request →
      Answers answer later now)
    (refuses : ∀ failure later now, later.request = context.request →
      Refuses drawn failure later now) :
    Follows environment drawn (service.reply reply) context world :=
  follows_reply verified (fun _ later now same _ => answers _ later now same)
    fun _ later now same _ => refuses _ later now same

/-- A workspace transaction is in the log when it answers. -/
theorem follows_transaction {body : Tx α} {reply : α → Reply}
    {call : WorkspaceCall} {failed : Failure → DbContext → DbWorld → Prop}
    (core : context.request.core = .workspace call)
    (verified : Wp environment drawn (.transaction body) (fun _ _ _ => True)
      failed context world)
    (refuses : ∀ failure later now, later.request = context.request →
      failed failure later now → Refuses drawn failure later now) :
    Follows environment drawn (Tx.reply (.transaction body) reply) context
      world := by
  refine follows_reply (wp_committed verified) ?_ refuses
  intro value later now same committed
  unfold Answers
  rw [same, core]
  split
  · rename_i impossible
    cases impossible
  · rename_i impossible
    cases impossible
  · trivial
  · exact committed.2
  · trivial

theorem follows_workspace {call : WorkspaceCall}
    (core : context.request.core = .workspace call)
    (clean : context.writes = ∅)
    (named : ∀ id, (Request.workspace call).workspaceId = some id →
      (world.db.workspaces.find id).isSome ∨
        environment.guessable id = true) :
    Follows environment drawn (call.program environment.runtime) context
      world := by
  cases call with
  | list userId =>
      refine follows_plain WorkspacesService.verify_list ?_ ?_
      · intro answer later now same
        simp only [Answers, same, core]
      · intro failure later now same
        simp only [Refuses, same, core]
  | create userId name =>
      refine follows_transaction core
        (WorkspacesService.verify_create core clean) ?_
      intro failure later now same _
      simp only [Refuses, same, core]
  | details id userId =>
      refine follows_transaction core
        (WorkspacesService.verify_details core clean (named id rfl)) ?_
      intro failure later now same _
      simp only [Refuses, same, core]
  | rename id userId name =>
      refine follows_transaction core
        (WorkspacesService.verify_rename core clean (named id rfl)) ?_
      intro failure later now same _
      simp only [Refuses, same, core]
  | invite id userId body =>
      refine follows_transaction core
        (WorkspacesService.verify_invite core clean (named id rfl)) ?_
      intro failure later now same allowed
      simp only [Refuses, same, core]
      exact allowed
  | accept userId token =>
      refine follows_transaction core
        (WorkspacesService.verify_accept core clean) ?_
      intro failure later now same _
      simp only [Refuses, same, core]
  | revoke id userId invitationId =>
      refine follows_transaction core
        (WorkspacesService.verify_revoke core clean (named id rfl)) ?_
      intro failure later now same _
      simp only [Refuses, same, core]
  | changeMember id userId memberId role =>
      refine follows_transaction core
        (WorkspacesService.verify_changeMember core clean (named id rfl)) ?_
      intro failure later now same _
      simp only [Refuses, same, core]

theorem follows_account {call : AccountCall}
    (inv : Invariant environment drawn world)
    (core : context.request.core = .account call)
    (clean : context.writes = ∅) :
    Follows environment drawn (call.program environment.runtime) context
      world := by
  have answers : ∀ answer (later : DbContext) (now : DbWorld),
      later.request = context.request → Answers answer later now := by
    intro answer later now same
    simp only [Answers, same, core]
  have refuses : ∀ failure (later : DbContext) (now : DbWorld),
      later.request = context.request → Refuses drawn failure later now := by
    intro failure later now same
    simp only [Refuses, same, core]
  cases call with
  | save type dto actor id =>
      exact follows_plain (AccountsService.verify_save inv core clean) answers
        refuses
  | remove type id actor =>
      exact follows_plain (AccountsService.verify_remove core clean) answers
        refuses

theorem follows_auth {call : AuthCall}
    (inv : Invariant environment drawn world)
    (core : context.request.core = .auth call) (clean : context.writes = ∅) :
    Follows environment drawn
      (call.program environment.runtime environment.config) context world := by
  have refuses : ∀ failure (later : DbContext) (now : DbWorld),
      later.request = context.request → Refuses drawn failure later now := by
    intro failure later now same
    simp only [Refuses, same, core]
  have answers (other : ∀ sessionId hash, call ≠ .refreshToken sessionId hash) :
      ∀ answer (later : DbContext) (now : DbWorld),
        later.request = context.request → Answers answer later now := by
    intro answer later now same
    unfold Answers
    rw [same, core]
    split
    · rename_i impossible
      cases impossible
    · rename_i sessionId hash same
      cases same
      exact absurd rfl (other sessionId hash)
    · trivial
    · rename_i impossible
      cases impossible
    · trivial
  cases call with
  | validateLogin email password =>
      exact follows_plain (AuthService.verify_validateLogin inv core clean)
        (answers nofun) refuses
  | register dto =>
      exact follows_plain (AuthService.verify_register inv core clean)
        (answers nofun) refuses
  | resendConfirmation email =>
      exact follows_plain AuthService.verify_resendConfirmation
        (answers nofun) refuses
  | forgotPassword email =>
      exact follows_plain AuthService.verify_forgotPassword
        (answers nofun) refuses
  | confirmEmail hash =>
      exact follows_plain (AuthService.verify_confirmEmail inv core clean)
        (answers nofun) refuses
  | confirmNewEmail hash =>
      exact follows_plain (AuthService.verify_confirmNewEmail inv core clean)
        (answers nofun) refuses
  | resetPassword hash password =>
      exact follows_plain (AuthService.verify_resetPassword inv core clean)
        (answers nofun) refuses
  | update payload dto =>
      exact follows_plain (AuthService.verify_update core rfl rfl clean)
        (answers nofun) refuses
  | refreshToken sessionId hash =>
      refine follows_reply (AuthService.verify_refreshToken core clean) ?_
        fun failure later now same _ => refuses failure later now same
      intro tokens later now same accepted
      simp only [Answers, same, core]
      exact ⟨tokens, rfl, accepted⟩
  | logout sessionId =>
      exact follows_plain (AuthService.verify_logout core clean)
        (answers nofun) refuses
  | softDelete payload =>
      exact follows_plain (AuthService.verify_softDelete core rfl clean)
        (answers nofun) refuses
  | validate payload =>
      have idle : Wp environment drawn (JwtStrategy.validate payload)
          (fun _ _ _ => True) (fun _ _ _ => True) context world :=
        wp_quiet JwtStrategy.quiet_validate inv (fun _ _ _ => trivial)
          fun _ _ _ _ _ _ => trivial
      exact follows_plain idle (answers nofun) refuses

theorem follows_adjust {body : CreditAdjustmentDto} {actor : Nat}
    (core : context.request.core = .adjust body actor)
    (clean : context.writes = ∅) (uncommitted : context.commits = 0) :
    Follows environment drawn
      ((AccountCreditsService.adjust body actor).reply .adjustment) context
      world := by
  refine follows_reply
    (AccountCreditsService.verify_adjust core clean uncommitted) ?_ ?_
  · intro result later now same adjusts
    simp only [Answers, same, core]
    exact ⟨result, rfl, adjusts⟩
  · intro failure later now same refusal
    simp only [Refuses, same, core]
    exact refusal

theorem follows_role {call : RoleCall} {actor : Nat}
    (inv : Invariant environment drawn world)
    (core : context.request.core = .role call actor)
    (clean : context.writes = ∅) :
    Follows environment drawn (call.program actor) context world := by
  have answers : ∀ answer (later : DbContext) (now : DbWorld),
      later.request = context.request → Answers answer later now := by
    intro answer later now same
    simp only [Answers, same, core]
  have refuses : ∀ failure (later : DbContext) (now : DbWorld),
      later.request = context.request → Refuses drawn failure later now := by
    intro failure later now same
    simp only [Refuses, same, core]
  cases call with
  | create body =>
      exact follows_plain (AdminRolesController.verify_create inv core clean)
        answers refuses
  | update id body =>
      exact follows_plain (AdminRolesController.verify_update inv core clean)
        answers refuses
  | remove id =>
      exact follows_plain (AdminRolesController.verify_remove core clean)
        answers refuses

/-- An admin route is its handler, for the caller the guards identified. -/
theorem follows_admin {identity : Identity} {call : AdminCall}
    (inv : Invariant environment drawn world)
    (request : context.request = .admin identity call)
    (clean : context.writes = ∅) (uncommitted : context.commits = 0) :
    Follows environment drawn
      (call.program environment.runtime identity.payload.id) context world := by
  cases call with
  | save type dto id =>
      exact follows_account inv (congrArg Request.core request) clean
  | remove type id =>
      exact follows_account inv (congrArg Request.core request) clean
  | role call => exact follows_role inv (congrArg Request.core request) clean
  | adjust body =>
      exact follows_adjust (congrArg Request.core request) clean uncommitted

/-- The handler behind the guards acts for the caller of the token, with the
role read from the session. -/
theorem follows_handler {payload current : JwtPayload} {call : GuardedCall}
    (inv : Invariant environment drawn world)
    (request : context.request = .guarded payload call)
    (clean : context.writes = ∅) (sameId : current.id = payload.id)
    (sameSession : current.sessionId = payload.sessionId) :
    Follows environment drawn
      (call.handler environment.runtime environment.config current) context
      world := by
  cases call with
  | save type dto id =>
      have core : context.request.core =
          .account (.save type dto current.id id) := by
        rw [request, sameId]
        rfl
      exact follows_account inv core clean
  | remove type id =>
      have core : context.request.core =
          .account (.remove type id current.id) := by
        rw [request, sameId]
        rfl
      exact follows_account inv core clean
  | update dto =>
      have core : context.request.core = .auth (.update payload dto) := by
        rw [request]
        rfl
      refine follows_plain
        (AuthService.verify_update core sameId sameSession clean) ?_ ?_
      · intro answer later now same
        simp only [Answers, same, core]
      · intro failure later now same
        simp only [Refuses, same, core]
  | softDelete =>
      have core : context.request.core = .auth (.softDelete payload) := by
        rw [request]
        rfl
      refine follows_plain
        (AuthService.verify_softDelete core sameId.symm clean) ?_ ?_
      · intro answer later now same
        simp only [Answers, same, core]
      · intro failure later now same
        simp only [Refuses, same, core]

theorem refuses_guarded {payload : JwtPayload} {call : GuardedCall}
    {failure : Failure} (request : context.request = .guarded payload call) :
    Refuses drawn failure context world := by
  unfold Refuses
  rw [request]
  cases call with
  | save | remove | update | softDelete => trivial

theorem follows_guarded {payload : JwtPayload} {call : GuardedCall}
    (inv : Invariant environment drawn world)
    (request : context.request = .guarded payload call)
    (clean : context.writes = ∅) :
    Follows environment drawn
      (call.program environment.runtime environment.config payload) context
      world := by
  have guards : Wp environment drawn (JwtStrategy.validate payload)
      (fun identity later now => Invariant environment drawn now ∧
        later.request = context.request ∧ later.writes = context.writes ∧
        identity.payload.id = payload.id ∧
        identity.payload.sessionId = payload.sessionId)
      (fun _ _ _ => True) context world :=
    wp_quiet JwtStrategy.quiet_validate inv (fun _ _ _ => trivial)
      fun _ _ _ still rely same =>
        ⟨rely.inv, still.request, still.writes, same⟩
  refine wp_then (wp_mono (wp_request guards) ?_ ?_)
  · rintro identity later now ⟨same, inv, _, writes, sameId, sameSession⟩
    split
    · exact follows_handler inv (same.trans request) (writes.trans clean) sameId
        sameSession
    · exact refuses_guarded (same.trans request)
  · rintro failure later now ⟨same, _⟩
    exact refuses_guarded (same.trans request)

/-- Whatever requests are let in, each one follows the discipline. -/
theorem verifies (environment : Environment) (drawn : Prop)
    (admits : Request → Bool) :
    (discipline environment drawn).Verifies (system environment admits) := by
  intro request world tid now inv starts
  simp only [system, Bool.and_eq_true, mayName] at starts
  cases request with
  | workspace call =>
      refine follows_workspace rfl rfl ?_
      intro id names
      simpa [names] using starts.2.1
  | account call => exact follows_account inv rfl rfl
  | auth call => exact follows_auth inv rfl rfl
  | adjust body actor => exact follows_adjust rfl rfl rfl
  | role call actor => exact follows_role inv rfl rfl
  | guarded payload call => exact follows_guarded inv rfl rfl
  | admin identity call => exact follows_admin inv rfl rfl rfl

end Api

end SaasFoundation
