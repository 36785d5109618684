import SaasFoundation.Users.Emails

/-!
# Addresses in `workspaces.service.ts`

Invitations are stored for the address of the request.  No workspace method
stores an account.
-/

namespace SaasFoundation

open Relational Transaction Emails

variable {runtime : Runtime} {Storable : String → Prop}
  {column : UniqueColumn} {mayDraw : Draw → Nat → Bool} {ρ τ : Type}

namespace WorkspacesService

theorem spares_authorize {id userId : Nat} {manage : Bool} :
    Spares runtime Storable column (authorize id userId manage) fun _ => True := by
  unfold authorize lockWorkspace
  simp only [Program.writes_bind, spares_select, spares_query]
  intro _ _ _ now db valid
  cases membership db id userId with
  | none => trivial
  | some workspace => dsimp only; split <;> trivial

theorem spares_insertWorkspace {id : Nat} {name : String} :
    Spares runtime Storable column (insertWorkspace id name) fun _ => True := by
  apply spares_statement
  intro now db value writes ran
  split at ran
  · cases ran
  · obtain ⟨_, rfl⟩ := Prod.mk.inj (Except.ok.inj ran)
    exact ⟨⟨rfl, rfl⟩, trivial⟩

theorem spares_insertMember {workspaceId userId : Nat} {role : WorkspaceRole}
    {ignore : Bool} :
    Spares runtime Storable column (insertMember workspaceId userId role ignore)
      fun _ => True := by
  apply spares_statement
  intro now db value writes ran
  split at ran
  · split at ran
    · obtain ⟨_, rfl⟩ := Prod.mk.inj (Except.ok.inj ran)
      exact ⟨⟨rfl, rfl⟩, trivial⟩
    · cases ran
  · split at ran
    · cases ran
    · split at ran
      · cases ran
      · obtain ⟨_, rfl⟩ := Prod.mk.inj (Except.ok.inj ran)
        exact ⟨⟨rfl, rfl⟩, trivial⟩

theorem spares_updateWorkspaceName {id : Nat} {name : String} :
    Spares runtime Storable column (updateWorkspaceName id name) fun _ => True := by
  apply spares_statement
  intro now db value writes ran
  cases stored : db.workspaces.find id with
  | none =>
      obtain rfl : (∅ : Writes) = writes := by simpa [stored] using ran
      exact ⟨⟨rfl, rfl⟩, trivial⟩
  | some row =>
      obtain rfl : ({ workspaces := [.put { row with name }] } : Writes) =
          writes := by simpa [stored] using ran
      exact ⟨⟨rfl, rfl⟩, trivial⟩

/-- Invitations are written, to addresses that may be stored. -/
theorem spares_invitations {changes : List (Change InvitationRow Nat)}
    (normal : ∀ row, .put row ∈ changes → Storable row.email) :
    (userIndex runtime Storable column).Spares { invitations := changes } :=
  ⟨rfl, fun _ put => absurd put List.not_mem_nil, normal⟩

theorem spares_revokePending {id : Nat} {email : String} :
    Spares runtime Storable column (revokePending id email) fun _ => True := by
  apply spares_execute
  intro now db value writes valid ran
  obtain ⟨_, rfl⟩ := Prod.mk.inj (Except.ok.inj ran)
  refine ⟨spares_invitations fun row put => ?_, trivial⟩
  obtain ⟨old, listed, same⟩ := List.mem_map.mp put
  obtain rfl := Change.put.inj same
  exact valid.2 old (List.mem_filter.mp listed).1

theorem spares_insertInvitation {row : Nat → InvitationRow}
    (normal : ∀ now, Storable (row now).email) :
    Spares runtime Storable column (insertInvitation row) fun _ => True := by
  apply spares_execute
  intro now db value writes valid ran
  dsimp only at ran
  split at ran
  · cases ran
  · split at ran
    · cases ran
    · split at ran
      · cases ran
      · split at ran
        · cases ran
        · obtain ⟨_, rfl⟩ := Prod.mk.inj (Except.ok.inj ran)
          refine ⟨spares_invitations fun other put => ?_, trivial⟩
          obtain rfl := Change.put.inj (List.mem_singleton.mp put)
          exact normal now

theorem spares_selectActiveInvitation {tokenHash : Nat} :
    Spares runtime Storable column (selectActiveInvitation tokenHash)
      fun _ => True :=
  fun _ _ _ => ⟨spares_empty, trivial⟩

theorem spares_acceptInvitation {id : Nat} :
    Spares runtime Storable column (acceptInvitation id) fun _ => True := by
  apply spares_execute
  intro now db value writes valid ran
  cases stored : db.invitations.find id with
  | none =>
      obtain rfl : (∅ : Writes) = writes := by simpa [stored] using ran
      exact ⟨spares_empty, trivial⟩
  | some row =>
      obtain rfl : ({ invitations :=
          [.put { row with acceptedAt := some now }] } : Writes) = writes := by
        simpa [stored] using ran
      refine ⟨spares_invitations fun other put => ?_, trivial⟩
      obtain rfl := Change.put.inj (List.mem_singleton.mp put)
      exact valid.2 row (Table.find_eq_some.mp stored).1

theorem spares_revokeById {workspaceId id : Nat} {actor : WorkspaceRole} :
    Spares runtime Storable column (revokeById workspaceId id actor)
      fun _ => True := by
  apply spares_execute
  intro now db value writes valid ran
  obtain ⟨_, rfl⟩ := Prod.mk.inj (Except.ok.inj ran)
  refine ⟨spares_invitations fun row put => ?_, trivial⟩
  obtain ⟨old, listed, same⟩ := List.mem_map.mp put
  obtain rfl := Change.put.inj same
  have stored := (Option.filter_eq_some_iff.mp (Option.mem_toList.mp listed)).1
  exact valid.2 old (Table.find_eq_some.mp stored).1

theorem spares_deleteMember {id memberId : Nat} :
    Spares runtime Storable column (deleteMember id memberId) fun _ => True := by
  apply spares_statement
  intro now db value writes ran
  split at ran
  · obtain ⟨_, rfl⟩ := Prod.mk.inj (Except.ok.inj ran)
    exact ⟨⟨rfl, rfl⟩, trivial⟩
  · obtain ⟨_, rfl⟩ := Prod.mk.inj (Except.ok.inj ran)
    exact ⟨⟨rfl, rfl⟩, trivial⟩

theorem spares_updateMemberRole {id memberId : Nat} {role : WorkspaceRole} :
    Spares runtime Storable column (updateMemberRole id memberId role)
      fun _ => True := by
  apply spares_statement
  intro now db value writes ran
  cases stored : db.members.find (id, memberId) with
  | none =>
      obtain rfl : (∅ : Writes) = writes := by simpa [stored] using ran
      exact ⟨⟨rfl, rfl⟩, trivial⟩
  | some row =>
      obtain rfl : ({ members := [.put { row with role }] } : Writes) =
          writes := by simpa [stored] using ran
      exact ⟨⟨rfl, rfl⟩, trivial⟩

theorem create_respects {userId : Nat} {name : String} :
    Respects runtime Storable column mayDraw ρ τ (create userId name)
      fun _ => True := by
  apply Index.Respects.transaction
  apply Index.Respects.ofWrites
  simp only [Program.writes_bind, selectActiveUser, spares_select]
  intro _ db _
  cases activeUser db userId with
  | none => trivial
  | some user =>
      simp only [Program.writes_bind, spares_query]
      intro now db valid
      split
      · trivial
      · simp only [Program.writes_bind, Program.writes_draw]
        exact fun id => spares_insertWorkspace.mono fun _ _ =>
          spares_insertMember.mono fun _ _ => trivial

theorem details_respects {id userId : Nat} :
    Respects runtime Storable column mayDraw ρ τ (details id userId)
      fun _ => True := by
  apply Index.Respects.transaction
  apply Index.Respects.ofWrites
  apply Program.Writes.bind spares_authorize
  intro workspace _
  simp only [Program.writes_bind, spares_query]
  intro now db valid
  split
  · trivial
  · simp

theorem rename_respects {id userId : Nat} {name : String} :
    Respects runtime Storable column mayDraw ρ τ (rename id userId name)
      fun _ => True := by
  apply Index.Respects.transaction
  apply Index.Respects.ofWrites
  apply Program.Writes.bind spares_authorize
  exact fun _ _ => spares_updateWorkspaceName

theorem invite_respects {id userId : Nat} {body : InviteDto}
    (normal : Storable body.email) :
    Respects runtime Storable column mayDraw ρ τ (invite runtime id userId body)
      fun _ => True := by
  apply Index.Respects.transaction
  apply Index.Respects.ofWrites
  apply Program.Writes.bind spares_authorize
  intro actor _
  split
  · trivial
  · simp only [Program.writes_bind, spares_query]
    intro _ _ _
    split
    · trivial
    · simp only [Program.writes_bind, spares_query]
      intro _ _ _
      split
      · trivial
      · simp only [Program.writes_bind, Program.writes_draw]
        exact spares_revokePending.mono fun _ _ token invitationId =>
          (spares_insertInvitation fun now => normal).mono fun _ _ => trivial

theorem accept_respects {userId token : Nat} :
    Respects runtime Storable column mayDraw ρ τ (accept runtime userId token)
      fun _ => True := by
  apply Index.Respects.transaction
  apply Index.Respects.ofWrites
  simp only [Program.writes_bind, spares_query]
  intro _ db _
  cases invitationByToken db (runtime.digest token) with
  | none => trivial
  | some candidate =>
      simp only [Program.writes_bind, lockWorkspace, spares_select]
      intro _ _ _
      apply spares_selectActiveInvitation.mono
      intro found _
      cases found with
      | none => trivial
      | some invitation =>
          simp only [Program.writes_bind, spares_query]
          intro _ db _
          split
          · simp only [Program.writes_bind]
            exact spares_insertMember.mono fun _ _ =>
              spares_acceptInvitation.mono fun _ _ => trivial
          · trivial

theorem revoke_respects {id userId invitationId : Nat} :
    Respects runtime Storable column mayDraw ρ τ (revoke id userId invitationId)
      fun _ => True := by
  apply Index.Respects.transaction
  apply Index.Respects.ofWrites
  apply Program.Writes.bind spares_authorize
  intro actor _
  apply Program.Writes.bind spares_revokeById
  intro rows _
  split <;> trivial

theorem spares_changeOrDelete {id memberId : Nat} {role : Option WorkspaceRole}
    (last : Bool) :
    Spares runtime Storable column
      (if last = true then Tx.throw (.conflict "lastOwner")
        else changeOrDelete id memberId role) fun _ => True := by
  split
  · trivial
  · cases role with
    | none => exact spares_deleteMember
    | some role => exact spares_updateMemberRole

theorem spares_changeTarget {id userId memberId : Nat}
    {role : Option WorkspaceRole} {actor : WorkspaceRole} :
    Spares runtime Storable column (changeTarget id userId memberId role actor)
      fun _ => True := by
  unfold changeTarget
  simp only [Program.writes_bind, spares_query]
  intro _ db _
  cases db.members.find (id, memberId) with
  | none => trivial
  | some target =>
      dsimp only
      split
      · trivial
      · split
        · simp only [Program.writes_bind, spares_query]
          exact fun _ _ _ => spares_changeOrDelete _
        · exact spares_changeOrDelete false

theorem changeMember_respects {id userId memberId : Nat}
    {role : Option WorkspaceRole} :
    Respects runtime Storable column mayDraw ρ τ
      (changeMember id userId memberId role) fun _ => True := by
  have ends (active : Bool) (actor : WorkspaceRole) : Spares runtime Storable column
      (if active = false then Tx.throw (.conflict "memberInactive")
        else changeTarget id userId memberId role actor) fun _ => True := by
    split
    · trivial
    · exact spares_changeTarget
  apply Index.Respects.transaction
  apply Index.Respects.ofWrites
  apply Program.Writes.bind spares_authorize
  intro actor _
  split
  · exact ends true actor.role
  · simp only [Program.writes_bind, Program.writes_map, selectActiveUser,
      spares_select]
    exact fun _ _ _ => ends _ actor.role

end WorkspacesService

end SaasFoundation
