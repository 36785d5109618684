import SaasFoundation.Transaction.Clock
import SaasFoundation.Workspaces.Invitations

/-!
# How many invitations of a workspace are active

`invite` counts the invitations of the other addresses before it revokes the
pending one of its own, as of the start of its transaction.  An invitation that
was active then and has expired since is counted all the same, so the limit can
be reported for an address whose invitation is active.
-/

namespace SaasFoundation

open Relational Transaction Api

namespace WorkspacesService

/-- Active invitations of the workspace. -/
def activeInvitationCount (now : Nat) (db : Db) (id : Nat) : Nat :=
  (db.invitations.rows.filter fun row =>
    row.workspaceId = id ∧ row.ActiveAt now).length

end WorkspacesService

open WorkspacesService

/-- The address has an active invitation. -/
def Invites (now : Nat) (db : Db) (id : Nat) (email : String) : Prop :=
  ∃ row ∈ db.invitations, row.workspaceId = id ∧ row.email = email ∧
    row.ActiveAt now

variable {runtime : Runtime} {drawn : Prop} {commit : DbCommit}
  {earlier : List DbCommit} {now later id : Nat}

theorem InvitationRow.ActiveAt.of_later {row : InvitationRow}
    (active : row.ActiveAt later) (ordered : now ≤ later) :
    row.ActiveAt now :=
  ⟨active.1, Nat.lt_of_le_of_lt ordered active.2⟩

/-- The other addresses of an invited one leave it its place. -/
theorem otherInvitationCount_lt {db : Db} {email : String}
    (invites : Invites now db id email) :
    otherInvitationCount now db id email < activeInvitationCount now db id := by
  obtain ⟨row, stored, workspace, address, active⟩ := invites
  have others : (row :: db.invitations.rows.filter fun row =>
      decide (row.workspaceId = id ∧ row.email ≠ email ∧
        row.ActiveAt now)).Nodup := by
    refine List.nodup_cons.mpr ⟨fun listed => ?_,
      db.invitations.nodup.of_map.filter _⟩
    have other := of_decide_eq_true (List.mem_filter.mp listed).2
    exact other.2.1 address
  refine others.length_le_of_subset fun other listed => ?_
  rw [List.mem_filter, decide_eq_true_eq]
  rcases List.mem_cons.mp listed with rfl | listed
  · exact ⟨stored, workspace, active⟩
  · obtain ⟨member, holds⟩ := List.mem_filter.mp listed
    have kept := of_decide_eq_true holds
    exact ⟨member, kept.1, kept.2.2⟩

/-- Without an expiry in between, a count is as good as a later one. -/
theorem otherInvitationCount_le_later {db : Db} {email : String}
    (steady : ¬∃ row ∈ db.invitations, row.workspaceId = id ∧
      row.email ≠ email ∧ row.Pending ∧ now < row.expiresAt ∧
        row.expiresAt ≤ later) :
    otherInvitationCount now db id email ≤
      otherInvitationCount later db id email := by
  have counted : otherInvitationCount now db id email ≤
      ([] : List InvitationRow).length +
        otherInvitationCount later db id email := by
    refine Table.length_filter_le [] fun row member active => ?_
    obtain ⟨workspace, other, pending, unexpired⟩ := of_decide_eq_true active
    refine .inr ⟨member, decide_eq_true ⟨workspace, other, pending, ?_⟩⟩
    by_contra expired
    exact steady ⟨row, member, workspace, other, pending, unexpired,
      Nat.not_lt.mp expired⟩
  rwa [List.length_nil, Nat.zero_add] at counted

/-- An invitation that is pending after the commit was stored before, or the
commit has issued it. -/
theorem pending_after (effect : Effect runtime drawn commit earlier)
    {row : InvitationRow} (member : row ∈ commit.after.invitations)
    (pending : row.Pending) :
    row ∈ commit.before.invitations ∨ Issues commit row := by
  obtain ⟨rows, next, fresh, written, issues⟩ := written_of_effect effect
  rcases written.mem_after.mp member with added | ⟨old, _, rfl⟩ | kept
  · exact .inr (issues row added)
  · exact absurd pending (written.not_pending old)
  · exact .inl kept.1

/-- A commit that issues no invitation of the workspace adds none. -/
theorem activeInvitationCount_kept
    (effect : Effect runtime drawn commit earlier)
    (issues : ∀ new, Issues commit new → new.workspaceId ≠ id) :
    activeInvitationCount now commit.after id ≤
      activeInvitationCount now commit.before id := by
  have counted : activeInvitationCount now commit.after id ≤
      ([] : List InvitationRow).length +
        activeInvitationCount now commit.before id := by
    refine Table.length_filter_le [] fun row member active => ?_
    obtain ⟨workspace, pending, unexpired⟩ := of_decide_eq_true active
    rcases pending_after effect member pending with stored | issued
    · exact .inr ⟨stored, active⟩
    · exact absurd workspace (issues row issued)
  rwa [List.length_nil, Nat.zero_add] at counted

/-- After an `invite` the others of its address are settled. -/
theorem activeInvitationCount_issued {new : InvitationRow}
    (issues : Issues commit new) (started : commit.started ≤ now) :
    activeInvitationCount now commit.after new.workspaceId ≤ 100 := by
  obtain ⟨_, userId, body, actor, revoked, core, invited⟩ := issues
  obtain rfl := invited.workspaceId
  have written := written_invited invited
  have counted : activeInvitationCount now commit.after new.workspaceId ≤
      [new].length + otherInvitationCount commit.started commit.before
        new.workspaceId body.email := by
    refine Table.length_filter_le [new] fun row member active => ?_
    obtain ⟨workspace, activeNow⟩ := of_decide_eq_true active
    rcases written.mem_after.mp member with
      added | ⟨old, _, rfl⟩ | ⟨stored, untouched⟩
    · exact .inl (List.mem_singleton.mpr (Option.some.inj added).symm)
    · exact absurd activeNow.1 (written.not_pending old)
    · refine .inr ⟨stored, decide_eq_true
        ⟨workspace, fun email => ?_, activeNow.of_later started⟩⟩
      exact untouched row ((invited.pending.2 row).mpr
        ⟨stored, workspace, email, activeNow.1⟩) rfl
  have limit := invited.limit
  rw [List.length_singleton] at counted
  omega

/-- One commit keeps the limit at every time from its start on. -/
theorem activeInvitationCount_after
    (effect : Effect runtime drawn commit earlier)
    (started : commit.started ≤ now)
    (few : activeInvitationCount now commit.before id ≤ 100) :
    activeInvitationCount now commit.after id ≤ 100 := by
  by_cases issued : ∃ new, Issues commit new ∧ new.workspaceId = id
  · obtain ⟨new, issues, rfl⟩ := issued
    exact activeInvitationCount_issued issues started
  · refine (activeInvitationCount_kept effect fun new issues same => ?_).trans
      few
    exact issued ⟨new, issues, same⟩

theorem activeInvitationCount_later {db : Db} (ordered : now ≤ later) :
    activeInvitationCount later db id ≤ activeInvitationCount now db id := by
  have counted : activeInvitationCount later db id ≤
      ([] : List InvitationRow).length + activeInvitationCount now db id := by
    refine Table.length_filter_le [] fun row member active => ?_
    obtain ⟨workspace, activeLater⟩ := of_decide_eq_true active
    exact .inr ⟨member,
      decide_eq_true ⟨workspace, activeLater.of_later ordered⟩⟩
  rwa [List.length_nil, Nat.zero_add] at counted

/-- Every workspace has a hundred active invitations at most, at every moment.
The limit is reported for an address that has one only when another invitation
has expired since the start of the transaction. -/
theorem invitationLimit_of_reachable (environment : Environment)
    (admits : Request → Bool) (world : DbWorld) (config : DbConfig)
    (begins : Begins world)
    (few : ∀ id, activeInvitationCount world.clock world.db id ≤ 100)
    (reachable :
      (system environment admits).Reachable (.idle world) config) :
    (∀ id, activeInvitationCount config.world.clock config.world.db id ≤ 100) ∧
    ∀ thread ∈ config.threads, ∀ id userId body,
      thread.context.request = .workspace (.invite id userId body) →
        thread.program = .fail (.conflict "invitationLimit") →
        Invites config.world.clock config.world.db id body.email →
        ∃ row ∈ config.world.db.invitations, row.workspaceId = id ∧
          row.email ≠ body.email ∧ row.Pending ∧
            thread.context.now < row.expiresAt ∧
              row.expiresAt ≤ config.world.clock := by
  have run : Run environment False world.db config :=
    .of_reachable begins False.elim reachable
  obtain ⟨elapsed, timely⟩ := reachable.timely begins.unlogged
  have limit : ∀ id,
      activeInvitationCount config.world.clock config.world.db id ≤ 100 := by
    intro id
    refine Leads.induction (motive := fun commits db =>
      (∀ commit ∈ commits, commit.started ≤ config.world.clock) →
        activeInvitationCount config.world.clock db id ≤ 100)
      run.leads run.legal ?_ ?_ timely.commits
    · exact fun _ => (activeInvitationCount_later elapsed).trans (few id)
    · intro commit earlier _ counted effect started
      rw [List.forall_mem_cons] at started
      exact activeInvitationCount_after effect.1 started.1 (counted started.2)
  refine ⟨limit, ?_⟩
  intro thread member id userId body request failed invites
  have refused := run.refuses thread member _ failed
  unfold Refuses at refused
  rw [request] at refused
  have full := (refused.limit rfl).count
  by_contra steady
  have before := otherInvitationCount_le_later steady
  have others := otherInvitationCount_lt invites
  have most := limit id
  omega

theorem invitationLimit_of_reachable_invited :
    ∃ config : DbConfig, activeInvitationCount 5 config.world.db 7 = 1 ∧
      ∀ id, activeInvitationCount config.world.clock config.world.db id ≤ 100 :=
  ⟨Sample.after (fun _ => true)
      (Sample.serve (.workspace (.create 1 "team")) 7 8 ++
        Sample.serve (.workspace (.invite 7 1 ⟨"b", .admin⟩)) 9 11),
    by decide,
    (invitationLimit_of_reachable _ _ _ _ Sample.begins
      (fun _ => Nat.zero_le _) (Sample.reachable _ _)).1⟩

/-- Why a request has failed. -/
def Program.failure {σ ω ℓ δ ε α : Type} : Program σ ω ℓ δ ε α → Option ε
  | .fail error => some error
  | _ => none

theorem Program.failure_eq_some {σ ω ℓ δ ε α : Type}
    {program : Program σ ω ℓ δ ε α} {error : ε}
    (failed : Program.failure program = some error) :
    program = .fail error := by
  cases program with
  | fail =>
      cases failed
      rfl
  | done | start | commit | fresh | perform => cases failed

/-- An invitation to workspace 7. -/
def pendingInvitation (id : Nat) (email : String) (expiresAt : Nat) :
    InvitationRow :=
  { id, workspaceId := 7, email, role := .member, tokenHash := id, expiresAt
    createdAt := 5, acceptedAt := none, revokedAt := none }

/-- Workspace 7 has a hundred active invitations; the one numbered 100 is for
`b`, and the one numbered 101 expires at the next tick. -/
def crowdedWorld : DbWorld :=
  { Sample.world with
    db :=
      { Sample.world.db with
        workspaces := (∅ : Table WorkspaceRow).put ⟨7, "team", 5⟩
        members := (∅ : Table MemberRow).put ⟨7, 1, .owner, 5⟩
        invitations :=
          (((List.range 98).foldl
            (fun table id => table.put (pendingInvitation id (toString id) 99))
            (∅ : Table InvitationRow)).put
              (pendingInvitation 100 "b" 99)).put
                (pendingInvitation 101 "x" 6) } }

/-- The transaction that invites `b` again opens before the tick, and the one
that invites `y` takes the free place. -/
def crowdedSchedule : List (Choice Request) :=
  .arrive (.workspace (.invite 7 1 ⟨"b", .member⟩)) :: .advance 0 0 :: .tick ::
    .arrive (.workspace (.invite 7 1 ⟨"y", .member⟩)) ::
      (List.replicate 11 (.advance 0 200) ++
        List.replicate 4 (.advance 0 201))

def crowded : DbConfig :=
  (system Sample.environment fun _ => true).after crowdedSchedule
    (.idle crowdedWorld)

theorem crowded_begins : Begins crowdedWorld ∧
    ∀ id, activeInvitationCount crowdedWorld.clock crowdedWorld.db id ≤ 100 := by
  refine ⟨⟨?_, rfl⟩, fun id => ?_⟩
  · constructor <;> decide +kernel
  · exact (List.length_filter_le _ _).trans (by decide +kernel)

theorem crowded_refused : ∃ thread ∈ crowded.threads,
    thread.context.request = .workspace (.invite 7 1 ⟨"b", .member⟩) ∧
      Program.failure thread.program =
        some (.conflict "invitationLimit") := by
  decide +kernel

/-- The address keeps its invitation and is refused a new one. -/
theorem limit_refuses_again :
    ¬∀ (environment : Environment) (admits : Request → Bool) (world : DbWorld)
      (config : DbConfig), Begins world →
      (∀ id, activeInvitationCount world.clock world.db id ≤ 100) →
      (system environment admits).Reachable (.idle world) config →
      ∀ thread ∈ config.threads, ∀ id userId body,
        thread.context.request = .workspace (.invite id userId body) →
          Invites config.world.clock config.world.db id body.email →
          thread.program ≠ .fail (.conflict "invitationLimit") := by
  intro claimed
  obtain ⟨begins, few⟩ := crowded_begins
  obtain ⟨thread, member, request, failed⟩ := crowded_refused
  have invites : Invites crowded.world.clock crowded.world.db 7 "b" := by
    unfold Invites
    decide +kernel
  exact claimed Sample.environment (fun _ => true) crowdedWorld crowded begins
    few (System.reachable_after _ _ _) thread member 7 1 ⟨"b", .member⟩ request
    invites (Program.failure_eq_some failed)

end SaasFoundation
