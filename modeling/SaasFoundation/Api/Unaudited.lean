import SaasFoundation.Accounts.Verification
import SaasFoundation.Auth.Verification
import SaasFoundation.Users.Audits

/-!
# Services that write no audit row
-/

namespace SaasFoundation

open Relational Transaction Audits

variable {runtime : Runtime} {config : AuthConfig}

namespace UserRepository

@[grind ←]
theorem unaudited_findByEmail {email : String} :
    Unaudited (findByEmail email) :=
  unaudited_ofQuiet quiet_findByEmail

theorem unaudited_lockUser {id : Nat} : Unaudited (lockUser id) := by
  apply unaudited_execute
  intro now db value writes ran
  split at ran
  · obtain ⟨_, rfl⟩ := Prod.mk.inj (Except.ok.inj ran)
    rfl
  · cases ran

theorem unaudited_save {stored : UserRow} {entity : User} :
    Unaudited (save runtime stored entity) := by
  have updates {change : Nat → UserRow → UserRow} {lifecycle : Bool} :
      Unaudited (updateUser runtime stored.id lifecycle change) :=
    unaudited_updateUser
  unfold save
  grind

theorem unaudited_revokeRequested {id : Nat} {revoke : Option (Option Nat)} :
    Unaudited (revokeRequested id revoke) := by
  cases revoke with
  | none => trivial
  | some exclude => exact unaudited_revokeUserSessions

theorem unaudited_updateAtomically {id : Nat}
    {prepare : User → Tx (Mutation UserChanges)}
    (prepares : ∀ current, Unaudited (prepare current)) :
    Unaudited (updateAtomically runtime id prepare) := by
  apply Program.Only.mapError
  apply Program.Only.transaction
  apply Program.Only.bind unaudited_lockUser
  intro locked
  split
  · trivial
  · apply Program.Only.bind unaudited_query
    intro found
    cases found with
    | none => trivial
    | some entity =>
        apply Program.Only.bind (prepares _)
        intro mutation
        apply Program.Only.bind unaudited_save
        intro updated
        apply Program.Only.bind unaudited_revokeRequested
        exact fun _ => trivial

theorem unaudited_insertUser {row : Nat → UserRow} :
    Unaudited (insertUser runtime row) := by
  apply unaudited_execute
  intro now db value writes ran
  split at ran
  · cases ran
  · split at ran
    · cases ran
    · obtain ⟨_, rfl⟩ := Prod.mk.inj (Except.ok.inj ran)
      rfl

theorem unaudited_create {data : User} : Unaudited (create runtime data) := by
  apply Program.Only.transaction
  apply Program.Only.bind Program.Only.draw
  intro id
  apply Program.Only.bind unaudited_insertUser
  exact fun _ => trivial

end UserRepository

namespace UsersService

theorem unaudited_create {dto : UpdateUserDto} :
    Unaudited (create runtime dto) := by
  apply Program.Only.bind (unaudited_ofQuiet quiet_prepareChanges)
  exact fun _ => UserRepository.unaudited_create

theorem unaudited_updateAtomically {id : Nat}
    {prepare : User → Tx (Mutation UpdateUserDto)}
    (prepares : ∀ current, Unaudited (prepare current)) :
    Unaudited (updateAtomically runtime id prepare) := by
  apply Program.Only.mapError
  apply UserRepository.unaudited_updateAtomically
  intro current
  apply Program.Only.bind (prepares current)
  intro mutation
  apply Program.Only.bind (unaudited_ofQuiet quiet_prepareChanges)
  exact fun _ => trivial

end UsersService

namespace SessionRepository

theorem unaudited_insertSession {id userId hash : Nat} :
    Unaudited (insertSession id userId hash) := by
  apply unaudited_execute
  intro now db value writes ran
  split at ran
  · cases ran
  · split at ran
    · cases ran
    · obtain ⟨_, rfl⟩ := Prod.mk.inj (Except.ok.inj ran)
      rfl

@[grind ←]
theorem unaudited_create {user hash : Nat} {password : Option String} :
    Unaudited (create user password hash) := by
  have inserts {id : Nat} : Unaudited (insertSession id user hash) :=
    unaudited_insertSession
  unfold create lockUser
  grind

theorem unaudited_rotate {id hash next : Nat} :
    Unaudited (rotate id hash next) := by
  apply Program.Only.transaction
  apply unaudited_execute
  intro now db value writes ran
  split at ran
  · obtain ⟨_, rfl⟩ := Prod.mk.inj (Except.ok.inj ran)
    rfl
  · cases ran

theorem unaudited_updateByHash {id hash next : Nat} :
    Unaudited (updateByHash id hash next) := by
  apply Program.Only.bind unaudited_rotate
  intro affected
  unfold findSession
  split
  · trivial
  · exact unaudited_query

theorem unaudited_deleteById {id : Nat} : Unaudited (deleteById id) := by
  apply Program.Only.transaction
  apply unaudited_execute
  intro now db value writes ran
  split at ran
  · obtain ⟨_, rfl⟩ := Prod.mk.inj (Except.ok.inj ran)
    rfl
  · obtain ⟨_, rfl⟩ := Prod.mk.inj (Except.ok.inj ran)
    rfl

end SessionRepository

namespace AuthService

@[grind ←]
theorem unaudited_mailLink {recipient : String} {claims : LinkClaims}
    {secret : LinkSecret} :
    Unaudited (mailLink runtime recipient claims secret) :=
  unaudited_ofQuiet quiet_mailLink

theorem unaudited_validateLogin {email password : String} :
    Unaudited (validateLogin runtime config email password) := by
  unfold validateLogin
  grind

theorem unaudited_register {dto : AuthRegisterLoginDto} :
    Unaudited (register runtime config dto) := by
  apply Program.Only.bind UsersService.unaudited_create
  intro user
  split
  · exact unaudited_mailLink
  · trivial

theorem unaudited_resendConfirmation {email : String} :
    Unaudited (resendConfirmation runtime email) := by
  unfold resendConfirmation
  grind

theorem unaudited_forgotPassword {email : String} :
    Unaudited (forgotPassword runtime config email) := by
  unfold forgotPassword
  grind

theorem unaudited_consumeLink {id : Nat}
    {prepare : User → Tx (Mutation UpdateUserDto)}
    (prepares : ∀ current, Unaudited (prepare current)) :
    Unaudited (consumeLink runtime id prepare) := by
  apply Program.Only.mapError
  apply Program.Only.bind (UsersService.unaudited_updateAtomically prepares)
  exact fun _ => trivial

theorem unaudited_confirmEmail {hash : String} :
    Unaudited (confirmEmail runtime hash) := by
  apply Program.Only.bind (unaudited_ofQuiet quiet_linkSubject)
  intro id
  apply unaudited_consumeLink
  intro user
  apply Program.Only.bind (unaudited_ofQuiet quiet_readConfirmation)
  intro newEmail
  split <;> trivial

theorem unaudited_confirmNewEmail {hash : String} :
    Unaudited (confirmNewEmail runtime hash) := by
  apply Program.Only.bind (unaudited_ofQuiet quiet_linkSubject)
  intro id
  apply unaudited_consumeLink
  intro user
  apply Program.Only.bind (unaudited_ofQuiet quiet_readConfirmation)
  intro newEmail
  cases given newEmail with
  | none => trivial
  | some address =>
      dsimp only
      split <;> trivial

theorem unaudited_resetPassword {hash password : String} :
    Unaudited (resetPassword runtime hash password) := by
  apply Program.Only.bind (unaudited_ofQuiet quiet_linkSubject)
  intro id
  apply unaudited_consumeLink
  intro user
  cases runtime.verify hash (getForgotSecret user) <;> trivial

theorem unaudited_mailNewEmail {updated : User} {newEmail : String} :
    Unaudited (mailNewEmail runtime updated newEmail) :=
  unaudited_mailLink

theorem unaudited_update {payload : JwtPayload} {dto : AuthUpdateDto} :
    Unaudited (update runtime payload dto) := by
  apply Program.Only.bind (UsersService.unaudited_updateAtomically
    fun current => unaudited_ofQuiet quiet_prepareUpdate)
  intro updated
  split
  · trivial
  · apply Program.Only.bind unaudited_mailNewEmail
    exact fun _ => trivial

theorem unaudited_refreshToken {sessionId hash : Nat} :
    Unaudited (refreshToken sessionId hash) := by
  apply Program.Only.bind Program.Only.draw
  intro next
  apply Program.Only.bind SessionRepository.unaudited_updateByHash
  intro found
  unfold answerRotation UserRepository.findById
  grind

theorem unaudited_softDelete {payload : JwtPayload} :
    Unaudited (softDelete runtime payload) := by
  unfold softDelete
  split
  · trivial
  · apply Program.Only.mapError
    apply Program.Only.transaction
    apply Program.Only.bind unaudited_updateUser
    exact fun _ => trivial

end AuthService

theorem AuthCall.unaudited (call : AuthCall) :
    Unaudited (call.program runtime config) := by
  unfold AuthCall.program
  cases call with
  | validateLogin => exact AuthService.unaudited_validateLogin.bind fun _ => trivial
  | register => exact AuthService.unaudited_register.bind fun _ => trivial
  | resendConfirmation =>
      exact AuthService.unaudited_resendConfirmation.bind fun _ => trivial
  | forgotPassword =>
      exact AuthService.unaudited_forgotPassword.bind fun _ => trivial
  | confirmEmail => exact AuthService.unaudited_confirmEmail.bind fun _ => trivial
  | confirmNewEmail =>
      exact AuthService.unaudited_confirmNewEmail.bind fun _ => trivial
  | resetPassword =>
      exact AuthService.unaudited_resetPassword.bind fun _ => trivial
  | update => exact AuthService.unaudited_update.bind fun _ => trivial
  | refreshToken =>
      exact AuthService.unaudited_refreshToken.bind fun _ => trivial
  | logout => exact SessionRepository.unaudited_deleteById.bind fun _ => trivial
  | softDelete => exact AuthService.unaudited_softDelete.bind fun _ => trivial
  | validate =>
      exact (unaudited_ofQuiet JwtStrategy.quiet_validate).bind fun _ => trivial

namespace WorkspacesService

theorem unaudited_authorize {id userId : Nat} {manage : Bool} :
    Unaudited (authorize id userId manage) := by
  unfold authorize lockWorkspace
  grind

theorem unaudited_insertWorkspace {id : Nat} {name : String} :
    Unaudited (insertWorkspace id name) := by
  apply unaudited_execute
  intro now db value writes ran
  split at ran
  · cases ran
  · obtain ⟨_, rfl⟩ := Prod.mk.inj (Except.ok.inj ran)
    rfl

theorem unaudited_insertMember {workspaceId userId : Nat} {role : WorkspaceRole}
    {ignore : Bool} : Unaudited (insertMember workspaceId userId role ignore) := by
  apply unaudited_execute
  intro now db value writes ran
  split at ran
  · split at ran
    · obtain ⟨_, rfl⟩ := Prod.mk.inj (Except.ok.inj ran)
      rfl
    · cases ran
  · split at ran
    · cases ran
    · split at ran
      · cases ran
      · obtain ⟨_, rfl⟩ := Prod.mk.inj (Except.ok.inj ran)
        rfl

theorem unaudited_updateWorkspaceName {id : Nat} {name : String} :
    Unaudited (updateWorkspaceName id name) := by
  apply unaudited_execute
  intro now db value writes ran
  cases stored : db.workspaces.find id with
  | none =>
      obtain rfl : (∅ : Writes) = writes := by simpa [stored] using ran
      rfl
  | some row =>
      obtain rfl : ({ workspaces := [.put { row with name }] } : Writes) =
          writes := by simpa [stored] using ran
      rfl

theorem unaudited_revokePending {id : Nat} {email : String} :
    Unaudited (revokePending id email) := by
  apply unaudited_execute
  intro now db value writes ran
  obtain ⟨_, rfl⟩ := Prod.mk.inj (Except.ok.inj ran)
  rfl

theorem unaudited_insertInvitation {row : Nat → InvitationRow} :
    Unaudited (insertInvitation row) := by
  apply unaudited_execute
  intro now db value writes ran
  dsimp only at ran
  split at ran
  · cases ran
  · split at ran
    · cases ran
    · split at ran
      · cases ran
      · split at ran
        · cases ran
        · obtain ⟨_, rfl⟩ := Prod.mk.inj (Except.ok.inj ran)
          rfl

theorem unaudited_acceptInvitation {id : Nat} :
    Unaudited (acceptInvitation id) := by
  apply unaudited_execute
  intro now db value writes ran
  cases stored : db.invitations.find id with
  | none =>
      obtain rfl : (∅ : Writes) = writes := by simpa [stored] using ran
      rfl
  | some row =>
      obtain rfl : ({ invitations :=
          [.put { row with acceptedAt := some now }] } : Writes) = writes := by
        simpa [stored] using ran
      rfl

theorem unaudited_revokeById {workspaceId id : Nat} {actor : WorkspaceRole} :
    Unaudited (revokeById workspaceId id actor) := by
  apply unaudited_execute
  intro now db value writes ran
  obtain ⟨_, rfl⟩ := Prod.mk.inj (Except.ok.inj ran)
  rfl

theorem unaudited_changeOrDelete {id memberId : Nat}
    {role : Option WorkspaceRole} :
    Unaudited (changeOrDelete id memberId role) := by
  cases role with
  | none =>
      apply unaudited_execute
      intro now db value writes ran
      split at ran
      · obtain ⟨_, rfl⟩ := Prod.mk.inj (Except.ok.inj ran)
        rfl
      · obtain ⟨_, rfl⟩ := Prod.mk.inj (Except.ok.inj ran)
        rfl
  | some role =>
      apply unaudited_execute
      intro now db value writes ran
      cases stored : db.members.find (id, memberId) with
      | none =>
          obtain rfl : (∅ : Writes) = writes := by simpa [stored] using ran
          rfl
      | some row =>
          obtain rfl : ({ members := [.put { row with role }] } : Writes) =
              writes := by simpa [stored] using ran
          rfl

theorem unaudited_create {userId : Nat} {name : String} :
    Unaudited (create userId name) := by
  apply Program.Only.transaction
  apply Program.Only.bind
    (unaudited_select : Unaudited (selectActiveUser userId .update))
  intro found
  cases found with
  | none => trivial
  | some user =>
      apply Program.Only.bind unaudited_query
      intro count
      split
      · trivial
      · apply Program.Only.bind Program.Only.draw
        intro id
        apply Program.Only.bind unaudited_insertWorkspace
        intro _
        apply Program.Only.bind unaudited_insertMember
        exact fun _ => trivial

theorem unaudited_details {id userId : Nat} : Unaudited (details id userId) := by
  apply Program.Only.transaction
  apply Program.Only.bind unaudited_authorize
  intro workspace
  grind

theorem unaudited_rename {id userId : Nat} {name : String} :
    Unaudited (rename id userId name) := by
  apply Program.Only.transaction
  apply Program.Only.bind unaudited_authorize
  exact fun _ => unaudited_updateWorkspaceName

theorem unaudited_invite {id userId : Nat} {body : InviteDto} :
    Unaudited (invite runtime id userId body) := by
  apply Program.Only.transaction
  apply Program.Only.bind unaudited_authorize
  intro actor
  split
  · trivial
  · apply Program.Only.bind unaudited_query
    intro existing
    split
    · trivial
    · apply Program.Only.bind unaudited_query
      intro count
      split
      · trivial
      · apply Program.Only.bind unaudited_revokePending
        intro _ token invitationId
        apply Program.Only.bind unaudited_insertInvitation
        exact fun _ => trivial

theorem unaudited_selectActiveInvitation {tokenHash : Nat} :
    Unaudited (selectActiveInvitation tokenHash) := by
  apply Program.Only.run
  intro now db value writes _ ran
  obtain ⟨_, rfl⟩ := Prod.mk.inj (Except.ok.inj ran)
  rfl

theorem unaudited_accept {userId token : Nat} :
    Unaudited (accept runtime userId token) := by
  apply Program.Only.transaction
  apply Program.Only.bind unaudited_query
  intro candidate
  cases candidate with
  | none => trivial
  | some candidate =>
      apply Program.Only.bind
        (unaudited_select : Unaudited (lockWorkspace candidate.workspaceId))
      intro _
      apply Program.Only.bind unaudited_selectActiveInvitation
      intro found
      cases found with
      | none => trivial
      | some invitation =>
          apply Program.Only.bind unaudited_query
          intro user
          split
          · apply Program.Only.bind unaudited_insertMember
            intro _
            apply Program.Only.bind unaudited_acceptInvitation
            exact fun _ => trivial
          · trivial

theorem unaudited_revoke {id userId invitationId : Nat} :
    Unaudited (revoke id userId invitationId) := by
  apply Program.Only.transaction
  apply Program.Only.bind unaudited_authorize
  intro actor
  apply Program.Only.bind unaudited_revokeById
  intro rows
  split <;> trivial

theorem unaudited_changeTarget {id userId memberId : Nat}
    {role : Option WorkspaceRole} {actor : WorkspaceRole} :
    Unaudited (changeTarget id userId memberId role actor) := by
  have ends (last : Bool) : Unaudited
      (if last = true then Tx.throw (.conflict "lastOwner")
        else changeOrDelete id memberId role) := by
    split
    · trivial
    · exact unaudited_changeOrDelete
  apply Program.Only.bind unaudited_query
  intro found
  cases found with
  | none => trivial
  | some target =>
      dsimp only
      split
      · trivial
      · split
        · exact unaudited_query.bind ends
        · exact ends false

theorem unaudited_changeMember {id userId memberId : Nat}
    {role : Option WorkspaceRole} :
    Unaudited (changeMember id userId memberId role) := by
  have ends (active : Bool) (actor : WorkspaceRole) : Unaudited
      (if active = false then Tx.throw (.conflict "memberInactive")
        else changeTarget id userId memberId role actor) := by
    split
    · trivial
    · exact unaudited_changeTarget
  apply Program.Only.transaction
  apply Program.Only.bind unaudited_authorize
  intro actor
  split
  · exact ends true actor.role
  · have selects : Unaudited
        ((·.isSome) <$> selectActiveUser memberId .share) :=
      Program.Only.bind unaudited_select fun _ => Program.Only.done
    exact selects.bind fun active => ends active actor.role

end WorkspacesService

theorem WorkspaceCall.unaudited (call : WorkspaceCall) :
    Unaudited (call.program runtime) := by
  unfold WorkspaceCall.program
  cases call with
  | list => exact unaudited_query.bind fun _ => trivial
  | create => exact WorkspacesService.unaudited_create.bind fun _ => trivial
  | details => exact WorkspacesService.unaudited_details.bind fun _ => trivial
  | rename => exact WorkspacesService.unaudited_rename.bind fun _ => trivial
  | invite => exact WorkspacesService.unaudited_invite.bind fun _ => trivial
  | accept => exact WorkspacesService.unaudited_accept.bind fun _ => trivial
  | revoke => exact WorkspacesService.unaudited_revoke.bind fun _ => trivial
  | changeMember =>
      exact WorkspacesService.unaudited_changeMember.bind fun _ => trivial

end SaasFoundation
