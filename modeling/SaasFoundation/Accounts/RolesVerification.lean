import SaasFoundation.Accounts.RolesController
import SaasFoundation.Api.Rules

/-!
# Role mutations follow the discipline

No lock protects a role row against other requests, and nobody relies on one:
what matters is that the built-in roles are out of reach.
-/

namespace SaasFoundation

open Relational Transaction Discipline Api

variable {environment : Environment} {drawn : Prop} {α : Type}
  {context : DbContext} {world : DbWorld}

namespace AdminRolesController

/-- A transaction with nothing but changes of custom roles may commit. -/
theorem roles_guarantee {call : RoleCall} {actor : Nat}
    (inv : Invariant environment drawn world)
    (core : context.request.core = .role call actor)
    (written : RoleWritten (world.record context)) :
    (discipline environment drawn).Guarantee context world
      (world.commit context) := by
  have covered : Covered environment context world :=
    { workspaces := by
        rw [show context.writes.workspaces = [] from written.workspaces]
        simp
      members := by
        rw [show context.writes.members = [] from written.members]
        simp
      invitations := by
        rw [show context.writes.invitations = [] from written.invitations]
        exact ⟨none, by simp⟩
      users := by
        rw [show context.writes.users = [] from written.users]
        simp
      sessions := by
        rw [show context.writes.sessions = [] from written.sessions]
        simp
      credits := by
        rw [show context.writes.credits = [] from written.credits]
        exact ⟨none, by simp⟩
      entries := by
        rw [show context.writes.entries = [] from written.entries]
        exact ⟨none, by simp⟩ }
  refine guarantee inv covered ?_
  have request : (world.record context).request.core = .role call actor := core
  unfold Effect
  rw [request]
  exact written

/-- The writes of a role mutation before its audit entry. -/
def Custom (writes : Writes) : Prop :=
  ∃ changes, writes = { roles := changes } ∧
    ∀ change ∈ changes, 2 < change.target

theorem custom_empty : Custom ∅ :=
  ⟨[], rfl, by simp⟩

theorem custom_put {row : RoleRow} (custom : 2 < row.id) :
    Custom { roles := [.put row] } :=
  ⟨_, rfl, by simpa [Change.target] using custom⟩

theorem within_insertRole {id : Nat} {body : AdminRoleDto}
    {next : Option RoleRow → Tx α}
    {post : α → DbContext → DbWorld → Prop} (custom : 2 < id)
    (step : ∀ now row writes, Relies environment drawn context world now →
      Custom writes →
      Within environment drawn (next row) post (fun _ _ _ => True)
        (context.extend [] writes) now) :
    Within environment drawn
      (insertRole id (AdminStore.changes resource body.values) >>= next) post
      (fun _ _ _ => True) context world := by
  rw [insertRole_values]
  refine within_execute (fun _ _ _ _ => trivial) ?_
  intro now rely row writes stepped
  split at stepped
  · cases stepped
  · cases stepped
    exact step now _ _ rely (custom_put custom)

theorem within_updateRole {id : Nat} {changes : List (String × Cell)}
    {next : Option RoleRow → Tx α}
    {post : α → DbContext → DbWorld → Prop} (custom : 2 < id)
    (step : ∀ now locks row writes, Relies environment drawn context world now →
      Custom writes →
      Within environment drawn (next row) post (fun _ _ _ => True)
        (context.extend locks writes) now) :
    Within environment drawn (updateRole id changes >>= next) post
      (fun _ _ _ => True) context world := by
  refine within_execute (fun _ _ _ _ => trivial) ?_
  intro now rely row writes stepped
  split at stepped
  · cases stepped
    exact step now _ _ _ rely custom_empty
  · rename_i stored found
    cases stepped
    have sameId : stored.id = id := (Table.find_eq_some.mp found).2
    exact step now _ _ _ rely (custom_put (sameId ▸ custom))

theorem within_deleteRole {id : Nat} {next : Nat → Tx α}
    {post : α → DbContext → DbWorld → Prop} (custom : 2 < id)
    (step : ∀ now locks affected writes,
      Relies environment drawn context world now → Custom writes →
      Within environment drawn (next affected) post (fun _ _ _ => True)
        (context.extend locks writes) now) :
    Within environment drawn (deleteRole id >>= next) post
      (fun _ _ _ => True) context world := by
  refine within_execute (fun _ _ _ _ => trivial) ?_
  intro now rely affected writes stepped
  split at stepped
  · cases stepped
    exact step now _ _ _ rely custom_empty
  · split at stepped
    · cases stepped
    · cases stepped
      exact step now _ _ _ rely
        ⟨_, rfl, by simpa [Change.target] using custom⟩

/-- After the audit entry the transaction commits. -/
theorem within_finish {call : RoleCall} {actor : Nat} {event uri : String}
    (result : α) {writes : Writes} {locks : List (Lock × LockMode)}
    (core : context.request.core = .role call actor)
    (clean : context.writes = ∅) (custom : Custom writes) :
    Within environment drawn
      (do
        AdminMutationService.audit actor event uri
        pure result)
      (fun _ context world =>
        (discipline environment drawn).Guarantee context world
          (world.commit context) ∧ True)
      (fun _ _ _ => True) (context.extend locks writes) world := by
  obtain ⟨changes, rfl, each⟩ := custom
  refine within_audit (fun _ _ _ => trivial) ?_
  intro now value activities rely
  refine within_done fun last relyLast => ⟨?_, trivial⟩
  refine roles_guarantee relyLast.inv core ?_
  constructor <;> simp [World.record, clean]
  exact each

/-- A row that was stored is recorded, and the transaction commits. -/
theorem within_answer {call : RoleCall} {actor : Nat} {id : Option Nat}
    {writes : Writes} {locks : List (Lock × LockMode)}
    (core : context.request.core = .role call actor)
    (clean : context.writes = ∅) (custom : Custom writes)
    (found : Option RoleRow) :
    Within environment drawn (AdminStore.answer resource actor id found)
      (fun _ context world =>
        (discipline environment drawn).Guarantee context world
          (world.commit context) ∧ True)
      (fun _ _ _ => True) (context.extend locks writes) world := by
  cases found with
  | none => trivial
  | some row => exact within_finish row core clean custom

theorem verify_save {call : RoleCall} {body : AdminRoleDto} {actor : Nat}
    {id : Option Nat} (core : context.request.core = .role call actor)
    (clean : context.writes = ∅) (custom : ∀ stored ∈ id, 2 < stored) :
    Wp environment drawn (AdminStore.save resource body.values actor id)
      (fun _ _ _ => True) (fun _ _ _ => True) context world := by
  rw [save_values]
  refine wp_mapError (wp_opened fun opened start same rely => ?_)
  have openedClean : opened.writes = ∅ := same.writes.trans clean
  have request : opened.request.core = .role call actor :=
    (congrArg Request.core same.request).trans core
  cases id with
  | none =>
      refine within_fresh fun now rely id allowed _ => ?_
      refine within_insertRole (by simpa [mayDraw] using allowed) ?_
      intro now1 row writes rely1 custom
      have owned : (opened.own .roleId id).request.core = .role call actor :=
        request
      exact within_answer owned openedClean custom row
  | some id =>
      refine within_updateRole (custom id rfl) ?_
      intro now1 locks row writes rely1 custom
      exact within_answer request openedClean custom row

theorem verify_storeRemove {call : RoleCall} {id actor : Nat}
    (core : context.request.core = .role call actor)
    (clean : context.writes = ∅) (custom : 2 < id) :
    Wp environment drawn (AdminStore.remove resource id actor)
      (fun _ _ _ => True) (fun _ _ _ => True) context world := by
  refine wp_mapError (wp_opened fun opened start same rely => ?_)
  have openedClean : opened.writes = ∅ := same.writes.trans clean
  have request : opened.request.core = .role call actor :=
    (congrArg Request.core same.request).trans core
  refine within_deleteRole custom ?_
  intro now locks affected writes rely1 custom
  split
  · trivial
  · exact within_last
      (within_finish () request openedClean custom)

theorem quiet_validate {body : AdminRoleDto} :
    (validate body).Quiet fun _ => True := by
  unfold validate
  dsimp only
  split
  · trivial
  · trivial

theorem verify_create {body : AdminRoleDto} {actor : Nat}
    (inv : Invariant environment drawn world)
    (core : context.request.core = .role (.create body) actor)
    (clean : context.writes = ∅) :
    Wp environment drawn (create body actor) (fun _ _ _ => True)
      (fun _ _ _ => True) context world := by
  refine wp_then (wp_quiet quiet_validate inv (fun _ _ _ => trivial) ?_)
  intro values later now still _ _
  exact verify_save ((congrArg Request.core still.request).trans core)
    (still.writes.trans clean) (by simp)

theorem verify_update {id : Nat} {body : AdminRoleDto} {actor : Nat}
    (inv : Invariant environment drawn world)
    (core : context.request.core = .role (.update id body) actor)
    (clean : context.writes = ∅) :
    Wp environment drawn (update id body actor) (fun _ _ _ => True)
      (fun _ _ _ => True) context world := by
  unfold update
  split
  · trivial
  · rename_i custom
    refine wp_then (wp_quiet quiet_validate inv (fun _ _ _ => trivial) ?_)
    intro values later now still _ _
    refine verify_save
      ((congrArg Request.core still.request).trans core)
      (still.writes.trans clean) ?_
    rintro stored ⟨⟩
    omega

theorem verify_remove {id actor : Nat}
    (core : context.request.core = .role (.remove id) actor)
    (clean : context.writes = ∅) :
    Wp environment drawn (remove id actor) (fun _ _ _ => True)
      (fun _ _ _ => True) context world := by
  unfold remove
  split
  · trivial
  · rename_i custom
    exact verify_storeRemove core clean (Nat.lt_of_not_le custom)

end AdminRolesController

end SaasFoundation
