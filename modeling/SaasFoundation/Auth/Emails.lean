import SaasFoundation.Users.Emails
import SaasFoundation.Api.Effects

/-!
# Addresses in the requests of `auth.service.ts`

The validation pipe hands on transformed addresses.  The address of an
email-change link was one of them when the link was signed.
-/

namespace SaasFoundation

open Relational Transaction Emails

variable {runtime : Runtime} {Storable : String → Prop}
  {column : UniqueColumn} {mayDraw : Draw → Nat → Bool} {ρ τ : Type}

/-- What the pipe leaves of the addresses in a request may be stored.  The DTO
of the account routes has no transform. -/
def Request.Transformed (runtime : Runtime) (Storable : String → Prop)
    (request : Request) : Prop :=
  match request.core with
  | .auth (.register dto) => Storable dto.email
  | .auth (.update _ dto) => Admissible Storable dto.email
  | .account (.save _ dto _ _) =>
      Admissible Storable (dto.email.map (lowerCaseTransformer runtime))
  | .workspace (.invite _ _ body) => Storable body.email
  | _ => True

/-- The claims that are signed while such requests are served. -/
inductive Signed (admits : Request → Bool) : LinkClaims → Prop where
  | confirmation (user : User) :
      Signed admits (AuthService.confirmationClaims user)
  | reset (user : User) :
      Signed admits { forgotUserId := some (.integer user.id) }
  | emailChange (user : User) (newEmail : String) (request : Request)
      (payload : JwtPayload) (dto : AuthUpdateDto)
      (admitted : admits request = true)
      (core : request.core = .auth (.update payload dto))
      (asked : AuthService.requestedEmail dto user = some newEmail) :
      Signed admits
        { AuthService.confirmationClaims user with newEmail := some newEmail }

/-- Nobody else has the keys of the links. -/
def Unforged (runtime : Runtime) (admits : Request → Bool) : Prop :=
  ∀ hash secret claims, runtime.verify hash secret = some claims →
    Signed admits claims

/-- Every address in a link may be stored. -/
def LinksAdmissible (runtime : Runtime) (Storable : String → Prop) : Prop :=
  ∀ hash secret claims, runtime.verify hash secret = some claims →
    Admissible Storable claims.newEmail

theorem Unforged.admissible {admits : Request → Bool}
    (unforged : Unforged runtime admits)
    (transformed : ∀ request, admits request = true →
      request.Transformed runtime Storable) :
    LinksAdmissible runtime Storable := by
  intro hash secret claims verified
  cases unforged hash secret claims verified with
  | confirmation | reset => exact fun _ given => nomatch given
  | emailChange user newEmail request payload dto admitted core asked =>
      rintro _ ⟨⟩
      have admissible := transformed request admitted
      rw [Request.Transformed, core] at admissible
      have given := (Option.filter_eq_some_iff.mp asked).1
      exact admissible newEmail (Option.filter_eq_some_iff.mp given).1

namespace SessionRepository

theorem spares_insertSession {id userId hash : Nat} :
    Spares runtime Storable column (insertSession id userId hash) fun _ => True := by
  apply spares_statement
  intro now db value writes ran
  split at ran
  · cases ran
  · split at ran
    · cases ran
    · obtain ⟨_, rfl⟩ := Prod.mk.inj (Except.ok.inj ran)
      exact ⟨⟨rfl, rfl⟩, trivial⟩

theorem create_respects {user hash : Nat} {password : Option String} :
    Respects runtime Storable column mayDraw ρ τ (create user password hash)
      fun _ => True := by
  apply Index.Respects.transaction
  apply Index.Respects.ofWrites
  simp only [Program.writes_bind, lockUser, spares_select]
  intro now db valid
  cases (db.users.find user).filter (·.deletedAt.isNone) with
  | none => trivial
  | some locked =>
      dsimp only
      split
      · trivial
      · simp only [Program.writes_bind, Program.writes_draw]
        exact fun _ => spares_insertSession

theorem rotate_respects {id hash next : Nat} :
    Respects runtime Storable column mayDraw ρ τ (rotate id hash next)
      fun _ => True := by
  apply Index.Respects.transaction
  apply Index.Respects.ofWrites
  apply spares_statement
  intro now db value writes ran
  split at ran
  · obtain ⟨_, rfl⟩ := Prod.mk.inj (Except.ok.inj ran)
    exact ⟨⟨rfl, rfl⟩, trivial⟩
  · cases ran

theorem updateByHash_respects {id hash next : Nat} :
    Respects runtime Storable column mayDraw ρ τ (updateByHash id hash next)
      fun _ => True := by
  apply Index.Respects.bind rotate_respects
  intro affected _
  apply Index.Respects.ofWrites
  split
  · trivial
  · simp [findSession]

theorem deleteById_respects {id : Nat} :
    Respects runtime Storable column mayDraw ρ τ (deleteById id) fun _ => True := by
  apply Index.Respects.transaction
  apply Index.Respects.ofWrites
  apply spares_statement
  intro now db value writes ran
  split at ran
  · obtain ⟨_, rfl⟩ := Prod.mk.inj (Except.ok.inj ran)
    exact ⟨⟨rfl, rfl⟩, trivial⟩
  · obtain ⟨_, rfl⟩ := Prod.mk.inj (Except.ok.inj ran)
    exact ⟨⟨rfl, rfl⟩, trivial⟩

end SessionRepository

namespace AuthService

theorem spares_mailLink {recipient : String} {claims : LinkClaims}
    {secret : LinkSecret} :
    Spares runtime Storable column (mailLink runtime recipient claims secret)
      fun _ => True := by
  unfold mailLink
  split <;> trivial

theorem spares_linkSubject {hash : String}
    {field : LinkClaims → Option ClaimValue} :
    Spares runtime Storable column (linkSubject runtime hash field)
      fun _ => True := by
  unfold linkSubject
  cases (runtime.decode hash).bind field with
  | none => trivial
  | some value =>
      cases value with
      | other => trivial
      | integer id => dsimp only; split <;> trivial

theorem validateLogin_respects {config : AuthConfig} {email password : String} :
    Respects runtime Storable column mayDraw ρ τ
      (validateLogin runtime config email password) fun _ => True := by
  apply Index.Respects.bind (Index.Respects.ofWrites spares_findByEmail)
  intro found _
  cases found with
  | none => exact Index.Respects.fail
  | some user =>
      dsimp only
      split
      · exact Index.Respects.fail
      · cases given user.password with
        | none => exact Index.Respects.fail
        | some stored =>
            dsimp only
            split
            · exact Index.Respects.fail
            · split
              · exact Index.Respects.fail
              · apply Index.Respects.bind (Index.Respects.ofWrites
                  (Program.writes_draw.mpr fun _ => trivial))
                intro hash _
                apply Index.Respects.bind SessionRepository.create_respects
                exact fun _ _ => Index.Respects.ofWrites trivial

theorem register_respects {config : AuthConfig} {dto : AuthRegisterLoginDto}
    (normal : Storable dto.email) :
    Respects runtime Storable column mayDraw ρ τ (register runtime config dto)
      fun _ => True := by
  apply Index.Respects.bind (UsersService.create_respects ?_)
  · intro user _
    apply Index.Respects.ofWrites
    split
    · exact spares_mailLink
    · trivial
  · rintro _ ⟨⟩
    exact normal

theorem spares_resendConfirmation {email : String} :
    Spares runtime Storable column (resendConfirmation runtime email)
      fun _ => True := by
  unfold resendConfirmation
  apply Program.Writes.bind spares_findByEmail
  intro found _
  cases found with
  | none => trivial
  | some user =>
      dsimp only
      split
      · trivial
      · exact spares_mailLink

theorem spares_forgotPassword {config : AuthConfig} {email : String} :
    Spares runtime Storable column (forgotPassword runtime config email)
      fun _ => True := by
  unfold forgotPassword
  apply Program.Writes.bind spares_findByEmail
  intro found _
  cases found with
  | none => dsimp only; split <;> trivial
  | some user => exact spares_mailLink

theorem consumeLink_respects {id : Nat}
    {prepare : User → Tx (Mutation UpdateUserDto)}
    (prepares : ∀ current,
      Spares runtime Storable column (prepare current) fun mutation =>
        Admissible Storable mutation.changes.email.join) :
    Respects runtime Storable column mayDraw ρ τ (consumeLink runtime id prepare)
      fun _ => True := by
  apply Index.Respects.mapError
  apply Index.Respects.bind (UsersService.updateAtomically_respects prepares)
  exact fun _ _ => Index.Respects.ofWrites trivial

section Links

variable (links : LinksAdmissible runtime Storable)

include links

theorem spares_readConfirmation {hash : String} {user : User} :
    Spares runtime Storable column (readConfirmation runtime hash user)
      (Admissible Storable) := by
  unfold readConfirmation
  cases verified : runtime.verify hash (confirmationSecret user) with
  | none => trivial
  | some claims => exact links _ _ _ verified

theorem confirmEmail_respects {hash : String} :
    Respects runtime Storable column mayDraw ρ τ (confirmEmail runtime hash)
      fun _ => True := by
  apply Index.Respects.bind (Index.Respects.ofWrites spares_linkSubject)
  intro id _
  apply consumeLink_respects
  intro user
  apply Program.Writes.bind (spares_readConfirmation links)
  intro newEmail _
  split
  · trivial
  · exact fun _ given => nomatch given

theorem confirmNewEmail_respects {hash : String} :
    Respects runtime Storable column mayDraw ρ τ (confirmNewEmail runtime hash)
      fun _ => True := by
  apply Index.Respects.bind (Index.Respects.ofWrites spares_linkSubject)
  intro id _
  apply consumeLink_respects
  intro user
  apply Program.Writes.bind (spares_readConfirmation links)
  intro newEmail normal
  cases present : given newEmail with
  | none => trivial
  | some address =>
      dsimp only
      split
      · trivial
      · rintro _ ⟨⟩
        exact normal address (Option.filter_eq_some_iff.mp present).1

end Links

theorem resetPassword_respects {hash password : String} :
    Respects runtime Storable column mayDraw ρ τ (resetPassword runtime hash password)
      fun _ => True := by
  apply Index.Respects.bind (Index.Respects.ofWrites spares_linkSubject)
  intro id _
  apply consumeLink_respects
  intro user
  cases runtime.verify hash (getForgotSecret user) with
  | none => trivial
  | some claims => exact fun _ given => nomatch given

theorem spares_checkOldPassword {dto : AuthUpdateDto} {current : User} :
    Spares runtime Storable column (checkOldPassword runtime dto current)
      fun _ => True := by
  unfold checkOldPassword
  cases given dto.password with
  | none => trivial
  | some password =>
      cases given dto.oldPassword with
      | none => trivial
      | some oldPassword =>
          cases given current.password with
          | none => trivial
          | some stored => dsimp only; split <;> trivial

theorem spares_checkNewEmail {email : Option String} {current : User} :
    Spares runtime Storable column (checkNewEmail email current) fun _ => True := by
  unfold checkNewEmail
  cases email with
  | none => trivial
  | some email =>
      apply Program.Writes.bind spares_findByEmail
      intro found _
      cases found with
      | none => trivial
      | some existing => dsimp only; split <;> trivial

/-- The address of an update goes into a link, not into the row. -/
theorem spares_prepareUpdate {payload : JwtPayload} {dto : AuthUpdateDto}
    {current : User} :
    Spares runtime Storable column (prepareUpdate runtime payload dto current)
      fun mutation => mutation.changes.email = none := by
  apply Program.Writes.bind spares_checkOldPassword
  intro _ _
  apply Program.Writes.bind spares_checkNewEmail
  exact fun _ _ => rfl

theorem update_respects {payload : JwtPayload} {dto : AuthUpdateDto} :
    Respects runtime Storable column mayDraw ρ τ (update runtime payload dto)
      fun _ => True := by
  apply Index.Respects.bind (UsersService.updateAtomically_respects ?_)
  · intro updated _
    apply Index.Respects.ofWrites
    cases requestedEmail dto updated with
    | none => trivial
    | some newEmail =>
        apply Program.Writes.bind spares_mailLink
        exact fun _ _ => trivial
  · intro current
    apply spares_prepareUpdate.mono
    intro mutation absent address given
    rw [absent] at given
    cases given

theorem spares_answerRotation {next : Nat}
    {found : Option (SessionRow × Option UserRow)} :
    Spares runtime Storable column (answerRotation next found) fun _ => True := by
  match found with
  | none => trivial
  | some (_, none) => trivial
  | some (session, some user) =>
      unfold answerRotation UserRepository.findById
      simp only [Program.writes_bind, spares_query]
      intro now db valid
      cases Option.filter _ _ with
      | none => trivial
      | some found =>
          dsimp only
          cases found.role <;> trivial

theorem refreshToken_respects {sessionId hash : Nat} :
    Respects runtime Storable column mayDraw ρ τ (refreshToken sessionId hash)
      fun _ => True := by
  apply Index.Respects.bind (Index.Respects.ofWrites
    (Program.writes_draw.mpr fun _ => trivial))
  intro next _
  apply Index.Respects.bind SessionRepository.updateByHash_respects
  exact fun _ _ => Index.Respects.ofWrites spares_answerRotation

theorem softDelete_respects {payload : JwtPayload} :
    Respects runtime Storable column mayDraw ρ τ (softDelete runtime payload)
      fun _ => True := by
  unfold softDelete
  split
  · exact Index.Respects.fail
  · apply Index.Respects.mapError
    exact Index.Respects.transaction softDeleteUser_respects

end AuthService

theorem JwtStrategy.spares_validate {payload : JwtPayload} :
    Spares runtime Storable column (validate payload) fun _ => True := by
  unfold validate
  simp only [Program.writes_bind, spares_query]
  intro now db valid
  cases identify db payload <;> trivial

end SaasFoundation
