import SaasFoundation.Workspaces.Roles

/-!
# How many workspaces a user owns

`create` counts under the lock of the user, which `changeMember` shares when it
appoints an owner.  Creation therefore never takes a user past the limit;
appointments do, and by no more than their number.
-/

namespace SaasFoundation

open Relational Transaction Api WorkspacesService

variable {runtime : Runtime} {drawn : Prop} {commit : DbCommit}
  {earlier : List DbCommit}

/-- The request appoints the user an owner. -/
def Request.appoints (userId : Nat) : Request → Bool
  | .workspace (.changeMember _ _ memberId (some .owner)) => memberId = userId
  | _ => false

/-- How often the user was appointed an owner. -/
def appointments (commits : List DbCommit) (userId : Nat) : Nat :=
  (commits.filter fun commit => commit.request.appoints userId).length

/-- The commit created a workspace for the user. -/
def CreatesFor (commit : DbCommit) (userId id : Nat) : Prop :=
  ∃ name, commit.request.core = .workspace (.create userId name) ∧
    Created commit userId name id

/-- An owner was one before, or has created the workspace, or was appointed. -/
theorem ownerOf_after (effect : Effect runtime drawn commit earlier)
    {id userId : Nat} (owner : OwnerOf commit.after id userId) :
    OwnerOf commit.before id userId ∨ CreatesFor commit userId id ∨
      ∃ actorId, commit.request =
        .workspace (.changeMember id actorId userId (some .owner)) := by
  obtain ⟨row, member, rfl, rfl, owns⟩ := owner
  cases memberOrigin effect member with
  | kept stored => exact .inl ⟨row, stored, rfl, rfl, owns⟩
  | created userId name core created user =>
      subst user
      exact .inr (.inl ⟨name, core, created⟩)
  | accepted userId token invitation core accepted absent workspace user role =>
      rw [owns] at role
      cases kind : invitation.role <;>
        simp [kind, InvitationRole.toWorkspaceRole] at role
  | changed userId actor target core changed =>
      rw [owns] at core
      exact .inr (.inr ⟨userId, Request.core_workspace core⟩)

theorem created_of_effect (effect : Effect runtime drawn commit earlier)
    {userId : Nat} {name : String}
    (request : commit.request = .workspace (.create userId name)) :
    ∃ id, Created commit userId name id := by
  unfold Effect at effect
  rw [request] at effect
  exact effect.2

theorem ownedCount_created (effect : Effect runtime drawn commit earlier)
    {userId id : Nat} (creates : CreatesFor commit userId id) :
    ownedCount commit.after userId ≤ 20 := by
  obtain ⟨name, core, created⟩ := creates
  have request := Request.core_workspace core
  have gained : ∀ other, OwnerOf commit.after other userId →
      other ∈ [id] ∨ OwnerOf commit.before other userId := by
    intro other owner
    rcases ownerOf_after effect owner with
      before | ⟨again, _, created'⟩ | ⟨actorId, appointed⟩
    · exact .inr before
    · have same := created'.workspaces.symm.trans created.workspaces
      simp only [List.cons.injEq, Change.put.injEq, WorkspaceRow.mk.injEq] at same
      exact .inl (List.mem_singleton.mpr same.1.1)
    · rw [request] at appointed
      cases appointed
  have counted := ownedCount_le [id] gained
  have limit := created.limit
  rw [List.length_singleton] at counted
  omega

/-- Every other commit adds at most one workspace, and only by an
appointment. -/
theorem ownedCount_after (effect : Effect runtime drawn commit earlier)
    {userId : Nat} (creates : ∀ id, ¬CreatesFor commit userId id) :
    ownedCount commit.after userId ≤
      appointments [commit] userId + ownedCount commit.before userId := by
  by_cases appointed : ∃ id actorId, commit.request =
      .workspace (.changeMember id actorId userId (some .owner))
  · obtain ⟨id, actorId, request⟩ := appointed
    have once : appointments [commit] userId = 1 := by
      simp [appointments, request, Request.appoints]
    rw [once]
    refine ownedCount_le [id] fun other owner => ?_
    rcases ownerOf_after effect owner with before | created | ⟨_, again⟩
    · exact .inr before
    · exact absurd created (creates other)
    · rw [request] at again
      cases again
      exact .inl (List.mem_singleton.mpr rfl)
  · have kept : ownedCount commit.after userId ≤
        0 + ownedCount commit.before userId := by
      refine ownedCount_le [] fun other owner => ?_
      rcases ownerOf_after effect owner with before | created | ⟨actorId, again⟩
      · exact .inr before
      · exact absurd created (creates other)
      · exact absurd ⟨other, actorId, again⟩ appointed
    omega

theorem appointments_cons (commit : DbCommit) (earlier : List DbCommit)
    (userId : Nat) :
    appointments (commit :: earlier) userId =
      appointments [commit] userId + appointments earlier userId := by
  simp only [appointments, ← List.length_append, ← List.filter_append,
    List.singleton_append]

/-- No user owns more workspaces than twenty and those she was appointed an
owner of, and after creating one she owns at most twenty. -/
theorem ownedLimit_of_reachable (environment : Environment)
    (admits : Request → Bool) (world : DbWorld) (config : DbConfig)
    (begins : Begins world) (empty : world.db.members = ∅)
    (reachable :
      (system environment admits).Reachable (.idle world) config) :
    (∀ userId, ownedCount config.world.db userId ≤
      20 + appointments config.world.commits userId) ∧
    ∀ commit ∈ config.world.commits, ∀ userId name,
      commit.request = .workspace (.create userId name) →
        ownedCount commit.after userId ≤ 20 := by
  have run : Run environment False world.db config :=
    .of_reachable begins False.elim reachable
  constructor
  · refine Leads.induction (motive := fun commits db => ∀ userId,
        ownedCount db userId ≤ 20 + appointments commits userId)
      run.leads run.legal ?_ ?_
    · intro userId
      have none : ownedCount world.db userId = 0 := by
        rw [ownedCount, empty]
        rfl
      omega
    · intro commit earlier _ counted effect userId
      rw [appointments_cons]
      by_cases creates : ∃ id, CreatesFor commit userId id
      · obtain ⟨id, created⟩ := creates
        have limit := ownedCount_created effect.1 created
        omega
      · have gained := ownedCount_after effect.1
          fun id created => creates ⟨id, created⟩
        have before := counted userId
        omega
  · intro commit logged userId name request
    obtain ⟨earlier, _, effect, _⟩ := run.legal.mem logged
    obtain ⟨id, created⟩ := created_of_effect effect request
    exact ownedCount_created effect ⟨name, congrArg Request.core request, created⟩

theorem ownedLimit_of_reachable_created :
    ∃ config : DbConfig, ownedCount config.world.db 1 = 1 ∧
      (∀ userId, ownedCount config.world.db userId ≤
        20 + appointments config.world.commits userId) ∧
      ∀ commit ∈ config.world.commits, ∀ userId name,
        commit.request = .workspace (.create userId name) →
          ownedCount commit.after userId ≤ 20 :=
  ⟨Sample.after (fun _ => true)
      (Sample.serve (.workspace (.create 1 "team")) 7 8), by decide,
    ownedLimit_of_reachable _ _ _ _ Sample.begins rfl (Sample.reachable _ _)⟩

/-- User 1 creates twenty workspaces and is appointed an owner of another. -/
def appointedSchedule : List (Choice Request) :=
  ((List.range 20).flatMap fun index =>
    Sample.serve (.workspace (.create 1 "team")) (10 + index) 8) ++
    Sample.serve (.workspace (.create 2 "team")) 7 8 ++
    Sample.serve (.workspace (.invite 7 2 ⟨"a", .admin⟩)) 9 11 ++
    Sample.serve (.workspace (.accept 1 9)) 0 8 ++
    Sample.serve (.workspace (.changeMember 7 2 1 (some .owner))) 0 7

/-- The limit does not hold of appointments. -/
theorem appointed_beyond :
    ∃ config : DbConfig,
      (system Sample.environment fun _ => true).Reachable
        (.idle Sample.world) config ∧
      Begins Sample.world ∧ Sample.world.db.members = ∅ ∧
      ownedCount config.world.db 1 = 21 :=
  ⟨Sample.after (fun _ => true) appointedSchedule, Sample.reachable _ _,
    Sample.begins, rfl, by decide +kernel⟩

end SaasFoundation
