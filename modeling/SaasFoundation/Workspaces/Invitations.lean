import SaasFoundation.Workspaces.Ownership

/-!
# The life of an invitation

Every commit settles some pending invitations, all of them in one way, and
adds at most one.  `InvitationsWritten` is this normal form; transitions,
uniqueness of the pending invitation and single use follow from it.
-/

namespace SaasFoundation

open Relational Transaction Api

variable {runtime : Runtime} {drawn : Prop} {commit : DbCommit}
  {earlier : List DbCommit}

/-- `rows` are settled by `next`, and `fresh` is added. -/
structure InvitationsWritten (commit : DbCommit) (rows : List InvitationRow)
    (next : InvitationRow → InvitationRow) (fresh : Option InvitationRow) :
    Prop where
  stored : ∀ row ∈ rows, row ∈ commit.before.invitations ∧ row.Pending
  distinct : (rows.map key).Nodup
  settled : (∀ row, next row = { row with
      acceptedAt := some commit.started }) ∨
    ∀ row, next row = { row with revokedAt := some commit.started }
  unused : ∀ row, fresh = some row →
    commit.before.invitations.find row.id = none
  opens : ∀ row, fresh = some row → row.Pending
  clears : ∀ new, fresh = some new → ∀ row ∈ commit.before.invitations,
    row.Pending → row.workspaceId = new.workspaceId → row.email = new.email →
      row ∈ rows
  writes : commit.writes.invitations =
    (rows.map fun row => .put (next row)) ++ fresh.toList.map .put

namespace InvitationsWritten

variable {rows : List InvitationRow} {next : InvitationRow → InvitationRow}
  {fresh : Option InvitationRow}

theorem same (written : InvitationsWritten commit rows next fresh)
    (row : InvitationRow) : SameOffer (next row) row := by
  rcases written.settled with accepted | revoked
  · rw [accepted]
    exact ⟨rfl, rfl, rfl, rfl, rfl⟩
  · rw [revoked]
    exact ⟨rfl, rfl, rfl, rfl, rfl⟩

theorem not_pending (written : InvitationsWritten commit rows next fresh)
    (row : InvitationRow) : ¬(next row).Pending := by
  rcases written.settled with accepted | revoked
  · rw [accepted]
    exact fun pending => nomatch pending.1
  · rw [revoked]
    exact fun pending => nomatch pending.2

/-- The invitations after the commit. -/
theorem mem_after (written : InvitationsWritten commit rows next fresh)
    {row : InvitationRow} :
    row ∈ commit.after.invitations ↔
      fresh = some row ∨ (∃ old ∈ rows, row = next old) ∨
        row ∈ commit.before.invitations ∧ ∀ old ∈ rows, old.id ≠ row.id := by
  have sameKeys : (rows.map next).map key = rows.map key := by
    rw [List.map_map]
    exact List.map_congr_left fun old _ => (written.same old).id
  have settled : row ∈ Table.applyAll ((rows.map next).map .put)
      commit.before.invitations ↔ (∃ old ∈ rows, row = next old) ∨
        row ∈ commit.before.invitations ∧ ∀ old ∈ rows, old.id ≠ row.id := by
    rw [Table.mem_applyAll_puts (sameKeys ▸ written.distinct), sameKeys]
    simp only [List.mem_map, InvitationRow.key_eq, not_exists, not_and, ne_eq,
      eq_comm]
  have puts : (rows.map fun row => Change.put (next row)) =
      (rows.map next).map (Change.put : _ → Change InvitationRow Nat) := by
    rw [List.map_map]
    rfl
  rw [after_invitations, written.writes, Table.applyAll_append, puts]
  cases given : fresh with
  | none => simpa using settled
  | some new =>
      rw [Option.toList_some, List.map_singleton, Table.applyAll_put,
        Table.mem_put, settled]
      have absent := Table.find_eq_none.mp (written.unused new given)
      have others : ((∃ old ∈ rows, row = next old) ∨
            row ∈ commit.before.invitations ∧ ∀ old ∈ rows, old.id ≠ row.id) →
          row.id ≠ new.id := by
        rintro (⟨old, member, rfl⟩ | ⟨member, _⟩)
        · rw [(written.same old).id]
          exact absent old (written.stored old member).1
        · exact absent row member
      constructor
      · rintro (rfl | ⟨rest, _⟩)
        · exact .inl rfl
        · exact .inr rest
      · rintro (same | rest)
        · exact .inl (Option.some.inj same).symm
        · exact .inr ⟨rest, others rest⟩

end InvitationsWritten

def InvitationRow.accept (now : Nat) (row : InvitationRow) : InvitationRow :=
  { row with acceptedAt := some now }

def InvitationRow.revoke (now : Nat) (row : InvitationRow) : InvitationRow :=
  { row with revokedAt := some now }

theorem written_nothing (invitations : commit.writes.invitations = []) :
    InvitationsWritten commit [] (InvitationRow.revoke commit.started) none where
  stored := by simp
  distinct := List.nodup_nil
  settled := .inr fun _ => rfl
  unused := nofun
  opens := nofun
  clears := nofun
  writes := invitations

theorem written_invited {id userId : Nat} {body : WorkspacesService.InviteDto}
    {actor : WorkspaceRole} {revoked : List InvitationRow} {new : InvitationRow}
    (invited : Invited commit id userId body actor revoked new) :
    InvitationsWritten commit revoked (InvitationRow.revoke commit.started) (some new) where
  stored row member :=
    let found := (invited.pending.2 row).mp member
    ⟨found.1, found.2.2.2⟩
  distinct := invited.pending.1
  settled := .inr fun _ => rfl
  unused _ same := Option.some.inj same ▸ invited.freshId
  opens _ same := Option.some.inj same ▸ invited.isPending
  clears _ same row member pending workspace email := by
    obtain rfl := Option.some.inj same
    exact (invited.pending.2 row).mpr ⟨member,
      workspace.trans invited.workspaceId, email.trans invited.email, pending⟩
  writes := invited.invitations

theorem written_accepted {userId token : Nat} {row : InvitationRow}
    (accepted : Accepted runtime commit earlier userId token row) :
    InvitationsWritten commit [row] (InvitationRow.accept commit.started) none where
  stored := by
    rw [List.forall_mem_singleton]
    exact ⟨accepted.stored, accepted.active.1⟩
  distinct := List.nodup_singleton _
  settled := .inl fun _ => rfl
  unused := nofun
  opens := nofun
  clears := nofun
  writes := accepted.invitations

theorem written_revoked {id userId invitationId : Nat} {actor : WorkspaceRole}
    (revoked : Revoked commit id userId invitationId actor) :
    InvitationsWritten commit
      (WorkspacesService.revocable commit.before id invitationId actor).toList
      (InvitationRow.revoke commit.started) none where
  stored row member := by
    have found := WorkspacesService.revocable_eq_some.mp
      (Option.mem_toList.mp member)
    exact ⟨found.1, found.2.2.2.1⟩
  distinct := by
    cases WorkspacesService.revocable commit.before id invitationId actor with
    | none => exact List.nodup_nil
    | some row => exact List.nodup_singleton _
  settled := .inr fun _ => rfl
  unused := nofun
  opens := nofun
  clears := nofun
  writes := by
    rw [revoked.invitations]
    simp [InvitationRow.revoke]

/-- The commit is an `invite` that made this invitation. -/
def Issues (commit : DbCommit) (new : InvitationRow) : Prop :=
  ∃ id userId body actor revoked,
    commit.request.core = .workspace (.invite id userId body) ∧
      Invited commit id userId body actor revoked new

theorem written_of_effect (effect : Effect runtime drawn commit earlier) :
    ∃ rows next fresh, InvitationsWritten commit rows next fresh ∧
      ∀ new, fresh = some new → Issues commit new := by
  rcases workspace_of_effect effect with
    ⟨call, core, _, effect⟩ | ⟨_, _, invitations⟩
  · cases call with
    | list => exact effect.elim
    | create =>
        obtain ⟨id, created⟩ := effect
        exact ⟨_, _, _, written_nothing created.invitations, nofun⟩
    | details =>
        obtain ⟨_, nothing⟩ := effect
        exact ⟨_, _, _, written_nothing (by rw [nothing]; rfl), nofun⟩
    | rename =>
        obtain ⟨actor, row, renamed⟩ := effect
        exact ⟨_, _, _, written_nothing renamed.invitations, nofun⟩
    | invite =>
        obtain ⟨actor, revoked, new, invited⟩ := effect
        refine ⟨_, _, _, written_invited invited, fun row same => ?_⟩
        obtain rfl := Option.some.inj same
        exact ⟨_, _, _, _, _, core, invited⟩
    | accept =>
        obtain ⟨row, accepted⟩ := effect
        exact ⟨_, _, _, written_accepted accepted, nofun⟩
    | revoke =>
        obtain ⟨actor, revoked⟩ := effect
        exact ⟨_, _, _, written_revoked revoked, nofun⟩
    | changeMember =>
        obtain ⟨actor, target, changed⟩ := effect
        exact ⟨_, _, _, written_nothing changed.invitations, nofun⟩
  · exact ⟨_, _, _, written_nothing invitations, nofun⟩

/-- An invitation stays as it is, or it is pending and is settled. -/
def Transition (commit : DbCommit) (old new : InvitationRow) : Prop :=
  new = old ∨ old.Pending ∧
    (new = { old with acceptedAt := some commit.started } ∨
      new = { old with revokedAt := some commit.started })

namespace InvitationsWritten

variable {rows : List InvitationRow} {next : InvitationRow → InvitationRow}
  {fresh : Option InvitationRow}

theorem transition_next (written : InvitationsWritten commit rows next fresh)
    {old : InvitationRow} (member : old ∈ rows) :
    Transition commit old (next old) := by
  refine .inr ⟨(written.stored old member).2, ?_⟩
  rcases written.settled with accepted | revoked
  · exact .inl (accepted old)
  · exact .inr (revoked old)

theorem transition (written : InvitationsWritten commit rows next fresh)
    {old : InvitationRow} (member : old ∈ commit.before.invitations) :
    ∃ new ∈ commit.after.invitations, new.id = old.id ∧
      Transition commit old new := by
  by_cases settled : old ∈ rows
  · exact ⟨next old, written.mem_after.mpr (.inr (.inl ⟨old, settled, rfl⟩)),
      (written.same old).id, written.transition_next settled⟩
  · refine ⟨old, written.mem_after.mpr (.inr (.inr ⟨member, ?_⟩)), rfl,
      .inl rfl⟩
    rintro row rowMember same
    have rows := Table.eq_of_key (written.stored row rowMember).1 member same
    exact settled (rows ▸ rowMember)

/-- Where an invitation of the new state comes from. -/
theorem origin (written : InvitationsWritten commit rows next fresh)
    {new : InvitationRow} (member : new ∈ commit.after.invitations) :
    fresh = some new ∨
      ∃ old ∈ commit.before.invitations, SameOffer new old ∧
        Transition commit old new := by
  rcases written.mem_after.mp member with added | ⟨old, old', rfl⟩ | ⟨old, _⟩
  · exact .inl added
  · exact .inr ⟨old, (written.stored old old').1, written.same old,
      written.transition_next old'⟩
  · exact .inr ⟨new, old, ⟨rfl, rfl, rfl, rfl, rfl⟩, .inl rfl⟩

end InvitationsWritten

theorem Transition.settled {old new : InvitationRow}
    (transition : Transition commit old new)
    (once : old.acceptedAt = none ∨ old.revokedAt = none) :
    new.acceptedAt = none ∨ new.revokedAt = none := by
  rcases transition with rfl | ⟨pending, rfl | rfl⟩
  · exact once
  · exact .inr pending.2
  · exact .inl pending.1

/-- `workspace_invitations_pending_idx`. -/
def PendingUnique (db : Db) : Prop :=
  ∀ left ∈ db.invitations, ∀ right ∈ db.invitations, left.Pending →
    right.Pending → left.workspaceId = right.workspaceId →
      left.email = right.email → left = right

/-- `accepted_at` and `revoked_at` exclude each other. -/
def SettledOnce (db : Db) : Prop :=
  ∀ row ∈ db.invitations, row.acceptedAt = none ∨ row.revokedAt = none

theorem pendingUnique_of_effect (effect : Effect runtime drawn commit earlier)
    (unique : PendingUnique commit.before) : PendingUnique commit.after := by
  obtain ⟨rows, next, fresh, written, _⟩ := written_of_effect effect
  have pending : ∀ row ∈ commit.after.invitations, row.Pending →
      fresh = some row ∨
        row ∈ commit.before.invitations ∧ ∀ old ∈ rows, old.id ≠ row.id := by
    intro row member pending
    rcases written.mem_after.mp member with added | ⟨old, _, rfl⟩ | kept
    · exact .inl added
    · exact absurd pending (written.not_pending old)
    · exact .inr kept
  -- The pending invitation of the address has been revoked for the new one.
  have other : ∀ new row : InvitationRow, fresh = some new → row.Pending →
      row.workspaceId = new.workspaceId → row.email = new.email →
      ¬(row ∈ commit.before.invitations ∧ ∀ old ∈ rows, old.id ≠ row.id) := by
    rintro new row added rowPending workspace email ⟨member, untouched⟩
    exact untouched row
      (written.clears new added row member rowPending workspace email) rfl
  intro left leftMember right rightMember leftPending rightPending workspace
    email
  rcases pending left leftMember leftPending with leftNew | leftOld <;>
    rcases pending right rightMember rightPending with rightNew | rightOld
  · exact Option.some.inj (leftNew.symm.trans rightNew)
  · exact absurd rightOld
      (other left right leftNew rightPending workspace.symm email.symm)
  · exact absurd leftOld
      (other right left rightNew leftPending workspace email)
  · exact unique left leftOld.1 right rightOld.1 leftPending rightPending
      workspace email

theorem settledOnce_of_effect (effect : Effect runtime drawn commit earlier)
    (once : SettledOnce commit.before) : SettledOnce commit.after := by
  obtain ⟨rows, next, fresh, written, _⟩ := written_of_effect effect
  intro row member
  rcases written.origin member with added | ⟨old, stored, _, transition⟩
  · exact .inl (written.opens row added).1
  · exact transition.settled (once old stored)

/-- What `accept` has redeemed is accepted for good. -/
def Redeemed (runtime : Runtime) (commits : List DbCommit) (db : Db) : Prop :=
  ∀ commit ∈ commits, ∀ userId token,
    commit.request.core = .workspace (.accept userId token) →
      ∃ row ∈ db.invitations, row.tokenHash = runtime.digest token ∧
        row.acceptedAt.isSome

theorem accepted_of_effect {userId token : Nat}
    (effect : Effect runtime drawn commit earlier)
    (core : commit.request.core = .workspace (.accept userId token)) :
    ∃ row, Accepted runtime commit earlier userId token row := by
  unfold Effect at effect
  rw [core] at effect
  exact effect.2

theorem redeemed_of_effect (effect : Effect runtime drawn commit earlier)
    (redeemed : Redeemed runtime earlier commit.before) :
    Redeemed runtime (commit :: earlier) commit.after := by
  intro logged member userId token core
  rcases List.mem_cons.mp member with rfl | older
  · obtain ⟨row, accepted⟩ := accepted_of_effect effect core
    refine ⟨_, (written_accepted accepted).mem_after.mpr
      (.inr (.inl ⟨row, List.mem_singleton.mpr rfl, rfl⟩)), accepted.token, rfl⟩
  · obtain ⟨row, stored, hash, settled⟩ := redeemed logged older userId token core
    obtain ⟨rows, next, fresh, written, _⟩ := written_of_effect effect
    obtain ⟨new, newMember, _, transition⟩ := written.transition stored
    rcases transition with rfl | ⟨pending, _⟩
    · exact ⟨new, newMember, hash, settled⟩
    · simp [pending.1] at settled

/-- The second acceptance of a token would find its row accepted. -/
theorem not_redeemed_again (effect : Effect runtime drawn commit earlier)
    (sound : Sound commit.before)
    (redeemed : Redeemed runtime earlier commit.before) {userId token : Nat}
    (core : commit.request.core = .workspace (.accept userId token)) :
    ∀ past ∈ earlier, ∀ other,
      past.request.core ≠ .workspace (.accept other token) := by
  intro past member other pastCore
  obtain ⟨row, accepted⟩ := accepted_of_effect effect core
  obtain ⟨old, stored, hash, settled⟩ := redeemed past member other token pastCore
  have rows : old = row :=
    sound.tokenUnique old stored row accepted.stored
      (hash.trans accepted.token.symm)
  subst rows
  simp [accepted.active.1.1] at settled

/-- The acceptances in a log. -/
theorem accepts_once {initial state : Db} {commits : List DbCommit}
    (leads : Leads initial commits state)
    (legal : Legal (fun commit earlier =>
      Effect runtime drawn commit earlier ∧ Sound commit.before) commits) :
    Redeemed runtime commits state ∧
      commits.Pairwise fun later past => ∀ userId other token,
        later.request.core = .workspace (.accept userId token) →
          past.request.core ≠ .workspace (.accept other token) := by
  refine Leads.induction (motive := fun commits state =>
    Redeemed runtime commits state ∧ commits.Pairwise fun later past =>
      ∀ userId other token,
        later.request.core = .workspace (.accept userId token) →
          past.request.core ≠ .workspace (.accept other token))
    leads legal ⟨fun _ member => absurd member List.not_mem_nil, .nil⟩ ?_
  rintro commit earlier _ ⟨redeemed, once⟩ ⟨effect, sound⟩
  refine ⟨redeemed_of_effect effect redeemed, List.pairwise_cons.mpr ⟨?_, once⟩⟩
  exact fun past member userId other token core =>
    not_redeemed_again effect sound redeemed core past member other

/-- The memberships an acceptance leaves behind. -/
theorem memberOf_accepted {userId token : Nat} {row : InvitationRow}
    (accepted : Accepted runtime commit earlier userId token row) :
    MemberOf commit.after row.workspaceId userId := by
  rcases accepted.members with ⟨⟨member, stored, same⟩, members⟩ | ⟨_, members⟩
  · refine ⟨member, ?_, same⟩
    rw [after_members, members]
    exact stored
  · let joined : MemberRow :=
      { workspaceId := row.workspaceId, userId
        role := row.role.toWorkspaceRole, createdAt := commit.started }
    refine ⟨joined, ?_, rfl, rfl⟩
    rw [after_members, members, Table.applyAll_put]
    exact Table.mem_put.mpr (.inl rfl)

/-- Runs of workspace requests: what happens to invitations and who redeems
them.  Whether an invitation has expired is decided by the time at which the
accepting transaction started. -/
theorem invitations_of_reachable (environment : Environment)
    (admits : Request → Bool) (world : DbWorld) (config : DbConfig)
    (workspaces : ∀ request, admits request = true →
      ∃ call, request = .workspace call)
    (begins : Begins world) (unique : PendingUnique world.db)
    (once : SettledOnce world.db)
    (reachable :
      (system environment admits).Reachable (.idle world) config) :
    (∀ commit ∈ config.world.commits, ∀ old ∈ commit.before.invitations,
      ∃ new ∈ commit.after.invitations, new.id = old.id ∧
        Transition commit old new) ∧
    SettledOnce config.world.db ∧
    PendingUnique config.world.db ∧
    (∀ thread ∈ config.threads, ∀ id userId body,
      thread.context.request = .workspace (.invite id userId body) →
        thread.program ≠
          .fail (.query .uniqueViolation (some .pendingInvitation))) ∧
    (config.world.commits.Pairwise fun later past =>
      ∀ userId other token,
        later.request = .workspace (.accept userId token) →
          past.request ≠ .workspace (.accept other token)) ∧
    (∀ commit ∈ config.world.commits, ∀ userId token,
      commit.request = .workspace (.accept userId token) →
        ∃ row ∈ commit.before.invitations,
          row.tokenHash = environment.runtime.digest token ∧
          row.Pending ∧ commit.started < row.expiresAt ∧
          (∃ user ∈ commit.before.users, user.id = userId ∧ user.Active ∧
            user.email.map environment.runtime.toLowerCase =
              some row.email) ∧
          MemberOf commit.after row.workspaceId userId) ∧
    (∀ thread ∈ config.threads, ∀ userId token reply,
      thread.context.request = .workspace (.accept userId token) →
        thread.program = .done reply →
        ∃ commit ∈ config.world.commits, commit.tid = thread.context.tid ∧
          commit.request = .workspace (.accept userId token)) := by
  have run : Run environment False world.db config :=
    .of_reachable begins False.elim reachable
  have requests := reachable.admitted begins.unlogged
    (motive := fun request => ∃ call, request = .workspace call)
    fun state request starts => by
      simp only [system, Bool.and_eq_true] at starts
      exact workspaces request starts.1
  refine ⟨?_, ?_, ?_, ?_, ?_, ?_, ?_⟩
  · intro commit member old stored
    obtain ⟨earlier, _, effect, _⟩ := run.legal.mem member
    obtain ⟨rows, next, fresh, written, _⟩ := written_of_effect effect
    exact written.transition stored
  · exact Leads.induction (motive := fun _ db => SettledOnce db) run.leads
      run.legal once fun commit earlier _ once effect =>
        settledOnce_of_effect effect.1 once
  · exact Leads.induction (motive := fun _ db => PendingUnique db) run.leads
      run.legal unique fun commit earlier _ unique effect =>
        pendingUnique_of_effect effect.1 unique
  · intro thread member id userId body request failed
    have refused := run.refuses thread member _ failed
    unfold Refuses at refused
    rw [request] at refused
    exact refused.pending rfl
  · refine (accepts_once run.leads run.legal).2.imp ?_
    intro later past apart userId other token request again
    exact apart userId other token (by rw [request]; rfl) (by rw [again]; rfl)
  · intro commit member userId token request
    obtain ⟨earlier, suffix, effect, _⟩ := run.legal.mem member
    obtain ⟨row, accepted⟩ := accepted_of_effect effect (by rw [request]; rfl)
    refine ⟨row, accepted.stored, accepted.token, accepted.active.1,
      accepted.active.2, ?_, memberOf_accepted accepted⟩
    obtain ⟨state, past, user, stored, checked⟩ := accepted.user
    have quiet : ∀ logged ∈ earlier, logged.writes.users = [] := by
      intro logged older
      have inLog := suffix.subset (List.mem_cons_of_mem _ older)
      obtain ⟨call, workspace⟩ := requests.2 logged inLog
      obtain ⟨_, _, effect, _⟩ := run.legal.mem inLog
      unfold Effect at effect
      rw [workspace] at effect
      exact effect.1.users
    have same := users_constant (run.leads.of_suffix suffix) quiet
    have users : state.users = commit.before.users :=
      (same state past).trans (same _ List.mem_cons_self).symm
    exact ⟨user, users ▸ stored, checked⟩
  · intro thread member userId token reply request done
    have answered := run.answers thread member reply done
    unfold Answers at answered
    rw [request] at answered
    obtain ⟨commit, logged, tid⟩ := answered
    exact ⟨commit, logged, tid,
      (run.numbered.requests thread member commit logged tid).trans request⟩

def Request.isWorkspace : Request → Bool
  | .workspace _ => true
  | _ => false

theorem Request.isWorkspace_iff {request : Request} :
    request.isWorkspace = true ↔ ∃ call, request = .workspace call := by
  cases request <;> simp [Request.isWorkspace]

/-- Account 1 invites account 2, which accepts. -/
def joinSchedule : List (Choice Request) :=
  Sample.serve (.workspace (.create 1 "team")) 7 8 ++
    Sample.serve (.workspace (.invite 7 1 ⟨"b", .admin⟩)) 9 11 ++
    Sample.serve (.workspace (.accept 2 9)) 0 8

theorem invitations_of_reachable_join :
    ∃ config : DbConfig,
      config.world.db.members.rows.map (·.userId) = [1, 2] ∧
      config.threads.length = 1 ∧
      ∀ commit ∈ config.world.commits, ∀ old ∈ commit.before.invitations,
        ∃ new ∈ commit.after.invitations, new.id = old.id ∧
          Transition commit old new :=
  ⟨Sample.after Request.isWorkspace joinSchedule, by decide, by decide,
    (invitations_of_reachable _ _ _ _
      (fun _ admitted => Request.isWorkspace_iff.mp admitted)
      Sample.begins (fun _ member => absurd member (Table.not_mem_empty _))
      (fun _ member => absurd member (Table.not_mem_empty _))
      (Sample.reachable _ _)).1⟩

/-- A workspace whose invitation expires one microsecond from now. -/
def expiringWorld : DbWorld :=
  { Sample.world with
    clock := WorkspacesService.sevenDays + 5
    db :=
      { Sample.world.db with
        workspaces := (∅ : Table WorkspaceRow).put ⟨7, "team", 5⟩
        members := (∅ : Table MemberRow).put ⟨7, 1, .owner, 5⟩
        invitations := (∅ : Table InvitationRow).put
          { id := 8, workspaceId := 7, email := "b", role := .member
            tokenHash := 9, expiresAt := WorkspacesService.sevenDays + 6
            createdAt := 6, acceptedAt := none, revokedAt := none } } }

/-- The transaction starts in time and commits late. -/
def lateSchedule : List (Choice Request) :=
  Sample.serve (.workspace (.accept 2 9)) 0 7 ++
    [.tick, .tick, .advance 0 0]

theorem expiring_begins : Begins expiringWorld ∧
    PendingUnique expiringWorld.db ∧ SettledOnce expiringWorld.db := by
  refine ⟨⟨?_, rfl⟩, ?_, ?_⟩
  · constructor <;> decide
  · unfold PendingUnique
    decide
  · unfold SettledOnce
    decide

/-- An invitation can be redeemed after it has expired. -/
theorem redeemed_after_expiry :
    ¬∀ (environment : Environment) (admits : Request → Bool) (world : DbWorld)
      (config : DbConfig),
      (∀ request, admits request = true → ∃ call, request = .workspace call) →
      Begins world → PendingUnique world.db → SettledOnce world.db →
      (system environment admits).Reachable (.idle world) config →
      ∀ commit ∈ config.world.commits, ∀ userId token,
        commit.request = .workspace (.accept userId token) →
          ∃ row ∈ commit.before.invitations,
            row.tokenHash = environment.runtime.digest token ∧
            row.Pending ∧ commit.clock < row.expiresAt := by
  intro unexpired
  obtain ⟨begins, unique, once⟩ := expiring_begins
  have claimed := unexpired Sample.environment Request.isWorkspace expiringWorld
    _ (fun _ admitted => Request.isWorkspace_iff.mp admitted) begins unique once
    (System.reachable_after _ lateSchedule _)
  have late : ∃ commit ∈ ((system Sample.environment
        Request.isWorkspace).after lateSchedule
          (.idle expiringWorld)).world.commits,
      commit.request = .workspace (.accept 2 9) ∧
        ∀ row ∈ commit.before.invitations,
          ¬commit.clock < row.expiresAt := by
    decide
  obtain ⟨commit, member, request, expired⟩ := late
  obtain ⟨row, stored, _, _, inTime⟩ := claimed commit member 2 9 request
  exact expired row stored inTime

end SaasFoundation
