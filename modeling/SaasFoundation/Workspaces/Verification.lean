import SaasFoundation.Workspaces.Statements

/-!
# `WorkspacesService` follows the discipline

For every method: whatever other requests do between its statements, its
commit is covered by the locks it holds and is one of the commits
`WorkspaceEffect` describes.
-/

namespace SaasFoundation

open Relational Transaction Discipline Api

namespace WorkspacesService

variable {environment : Environment} {drawn : Prop} {context : DbContext}
  {world : DbWorld}

/-- The effect of a workspace request, at the moment of its commit. -/
theorem effect_of_workspace {call : WorkspaceCall}
    (core : context.request.core = .workspace call)
    (only : OnlyWorkspaces context.writes)
    (effect : WorkspaceEffect environment.runtime (world.record context)
      world.commits call) :
    Effect environment.runtime drawn (world.record context) world.commits := by
  have request : (world.record context).request.core = .workspace call := core
  unfold Effect
  rw [request]
  exact ⟨only, effect⟩

/-- A workspace transaction owes coverage of three tables and its effect. -/
theorem workspace_guarantee {call : WorkspaceCall}
    (inv : Invariant environment drawn world)
    (core : context.request.core = .workspace call)
    (only : OnlyWorkspaces context.writes)
    (workspaces : ∀ change ∈ context.writes.workspaces,
      WorkspaceCovered environment context world.db change)
    (members : ∀ change ∈ context.writes.members,
      MemberCovered context world.db change)
    (invitations : ∃ fresh, ∀ change ∈ context.writes.invitations,
      InvitationCovered context world.db fresh change)
    (effect : WorkspaceEffect environment.runtime (world.record context)
      world.commits call) :
    (discipline environment drawn).Guarantee context world
      (world.commit context) := by
  refine guarantee inv ?_ (effect_of_workspace core only effect)
  exact
    { workspaces, members, invitations
      users := by simp [only.users]
      sessions := by simp [only.sessions]
      credits := ⟨none, by simp [only.credits]⟩
      entries := ⟨none, by simp [only.entries]⟩ }

theorem liveUser_kept {db later : Db} {id : Nat} {mode : LockMode}
    (kept : UserKept id mode db later) (live : LiveUser db id) :
    LiveUser later id := by
  obtain ⟨user, stored, rfl, active⟩ := live
  have found : later.users.find user.id = some user := by
    rw [kept.row]
    exact Table.find_key stored
  exact ⟨user, (Table.find_eq_some.mp found).1, rfl, active⟩

theorem verify_create {userId : Nat} {name : String}
    (core : context.request.core = .workspace (.create userId name))
    (clean : context.writes = ∅) :
    Wp environment drawn (create userId name) (fun _ _ _ => True)
      (fun _ _ _ => True) context world := by
  refine wp_opened fun opened start same rely => ?_
  have openedClean : opened.writes = ∅ := same.writes.trans clean
  refine within_selectActiveUser openedClean (fun _ _ => trivial) ?_
  intro now1 rely1 user stored id active
  refine within_hold (.lock (.user userId) .update)
    (by simp [Context.Has]) rely1.inv ?_
  refine within_query fun now2 rely2 => ?_
  rw [view_clean (by simp [openedClean])]
  split
  · exact fun _ => trivial
  · rename_i few
    refine within_hold (.lock (.user userId) .update)
      (by simp [Context.Has]) rely2.inv ?_
    refine within_fresh fun now3 rely3 workspaceId allowed _ => ?_
    refine within_insertWorkspace (fun _ _ _ _ => trivial) ?_
    intro now4 rely4 absent
    have unnamed : now4.db.workspaces.find workspaceId = none := by
      simpa [World.view, openedClean] using absent
    refine within_hold (.value .uuid workspaceId)
      (by simp [Context.Has]) rely4.inv ?_
    refine within_insertMember (fun _ _ _ _ _ => trivial) (by simp) ?_
    intro now5 rely5 _ _
    refine within_done fun now6 rely6 fresh counted exclusive => ⟨?_, trivial⟩
    have present : (now1.db.users.find userId).isSome :=
      Table.find_isSome.mpr ⟨user, stored, id⟩
    have limit : ownedCount now6.db userId < 20 := by
      have kept : UserKept userId .update now2.db now6.db :=
        counted ((kept_always rely2).users userId present)
      have stays := ownedCount_le [] fun workspace owner =>
        .inr (kept.owned rfl workspace owner)
      rw [List.length_nil, Nat.zero_add] at stays
      omega
    have live : LiveUser now6.db userId :=
      liveUser_kept (exclusive present) ⟨user, stored, id, active⟩
    have gone : now6.db.workspaces.find workspaceId = none := fresh.1 unnamed
    have hidden : environment.guessable workspaceId = false := by
      simpa [mayDraw] using allowed
    have request : opened.request.core = .workspace (.create userId name) :=
      (congrArg Request.core same.request).trans core
    refine workspace_guarantee rely6.inv request ?_ ?_ ?_ ?_ ?_
    · constructor <;> simp [openedClean]
    · simp [openedClean]
      exact .insert _ gone (by simp) hidden
    · simp [openedClean]
      refine .put _ (.inr ⟨by simp, gone⟩) ?_ fun _ => .inr ⟨.update, by simp⟩
      simp [openedClean, Table.find_put]
    · exact ⟨none, by simp [openedClean]⟩
    · refine ⟨workspaceId, gone, live, limit, ?_, ?_, ?_⟩ <;>
        simp [World.record, openedClean]

/-- The caller's membership at the commit is the one `authorize` read. -/
theorem acts_of_kept {commit : DbCommit} {db : Db} {id userId : Nat}
    {row : WorkspaceRow} {member : MemberRow}
    (kept : WorkspaceKept id db commit.before)
    (rowFound : db.workspaces.find id = some row)
    (memberFound : db.members.find (id, userId) = some member) :
    Acts commit id userId member.role where
  workspace := by
    rw [kept.workspace, rowFound]
    rfl
  member := by
    obtain ⟨stored, sameId, sameUser⟩ := find_member memberFound
    exact ⟨member, (kept.members member sameId).mpr stored, sameId, sameUser,
      rfl⟩

theorem named_kept {id : Nat} {next : DbWorld}
    (named : (world.db.workspaces.find id).isSome ∨
      environment.guessable id = true)
    (rely : Relies environment drawn context world next) :
    (next.db.workspaces.find id).isSome ∨ environment.guessable id = true :=
  named.imp_left ((kept_always rely).workspaces id)

theorem verify_details {id userId : Nat}
    (core : context.request.core = .workspace (.details id userId))
    (clean : context.writes = ∅)
    (named : (world.db.workspaces.find id).isSome ∨
      environment.guessable id = true) :
    Wp environment drawn (details id userId) (fun _ _ _ => True)
      (fun _ _ _ => True) context world := by
  refine wp_opened fun opened start same rely => ?_
  have openedClean : opened.writes = ∅ := same.writes.trans clean
  have request : opened.request.core = .workspace (.details id userId) :=
    (congrArg Request.core same.request).trans core
  refine within_authorize openedClean (named_kept named rely)
    (fun _ _ _ _ => trivial) ?_
  intro now1 rely1 row member rowFound memberFound _
  refine within_hold (.lock (.workspace id) .update)
    (by simp [Context.Has]) rely1.inv ?_
  refine within_query fun now2 rely2 => ?_
  have finish : ∀ now3,
      Relies environment drawn
        (opened.extend [(.workspace id, .update)] ∅) now2 now3 →
      Keeps environment now1 now3 (.lock (.workspace id) .update) →
      (discipline environment drawn).Guarantee
        (opened.extend [(.workspace id, .update)] ∅) now3
        (now3.commit (opened.extend [(.workspace id, .update)] ∅)) ∧ True := by
    intro now3 rely3 keeps
    have kept := keeps (by rw [rowFound]; rfl)
    refine ⟨workspace_guarantee rely3.inv request ?_ ?_ ?_ ?_ ?_, trivial⟩
    · constructor <;> simp [openedClean]
    · simp [openedClean]
    · simp [openedClean]
    · exact ⟨none, by simp [openedClean]⟩
    · exact ⟨⟨_, acts_of_kept kept rowFound memberFound⟩,
        by simp [World.record, openedClean]⟩
  dsimp only
  split
  · exact within_done finish
  · refine within_query fun now3 rely3 => ?_
    exact within_done fun now4 rely4 => finish now4 (rely3.trans rely4)

theorem verify_rename {id userId : Nat} {name : String}
    (core : context.request.core = .workspace (.rename id userId name))
    (clean : context.writes = ∅)
    (named : (world.db.workspaces.find id).isSome ∨
      environment.guessable id = true) :
    Wp environment drawn (rename id userId name) (fun _ _ _ => True)
      (fun _ _ _ => True) context world := by
  refine wp_opened fun opened start same rely => ?_
  have openedClean : opened.writes = ∅ := same.writes.trans clean
  have request : opened.request.core = .workspace (.rename id userId name) :=
    (congrArg Request.core same.request).trans core
  refine within_authorize openedClean (named_kept named rely)
    (fun _ _ _ _ => trivial) ?_
  intro now1 rely1 row member rowFound memberFound manages
  refine within_hold (.lock (.workspace id) .update)
    (by simp [Context.Has]) rely1.inv ?_
  refine within_last (within_updateWorkspaceName ?_ ?_)
  · intro now2 rely2 absent
    have kept := kept_workspace id rely2 (by simp) (by rw [rowFound]; rfl)
    simp [World.view, openedClean, kept.workspace, rowFound] at absent
  · intro now2 rely2 stored found
    refine within_done fun now3 rely3 keeps => ⟨?_, trivial⟩
    have present : (now1.db.workspaces.find id).isSome := by
      rw [rowFound]
      rfl
    have early := kept_workspace id rely2 (by simp) present
    have kept := keeps present
    have rows : stored = row := by
      simpa [World.view, openedClean, early.workspace, rowFound, eq_comm]
        using found
    subst rows
    have rowId : stored.id = id := (Table.find_eq_some.mp rowFound).2
    have now : now3.db.workspaces.find id = some stored :=
      kept.workspace.trans rowFound
    refine workspace_guarantee rely3.inv request ?_ ?_ ?_ ?_ ?_
    · constructor <;> simp [openedClean]
    · simp [openedClean]
      exact .update _ (by simp [rowId, now]) (by simp [rowId])
    · simp [openedClean]
    · exact ⟨none, by simp [openedClean]⟩
    · exact ⟨member.role, stored, acts_of_kept kept rowFound memberFound,
        manages rfl, now, by simp [World.record, openedClean],
        by simp [World.record, openedClean],
        by simp [World.record, openedClean]⟩

/-- Under the workspace lock the pending invitations are those read before. -/
theorem pending_kept {id : Nat} {before after : Db} (email : String)
    (kept : WorkspaceKept id before after) (row : InvitationRow) :
    row ∈ pendingInvitations before id email ↔
      row ∈ after.invitations ∧ row.workspaceId = id ∧ row.email = email ∧
        row.Pending := by
  rw [mem_pendingInvitations]
  constructor
  · rintro ⟨member, same, rest⟩
    exact ⟨(kept.invitations row same).mpr member, same, rest⟩
  · rintro ⟨member, same, rest⟩
    exact ⟨(kept.invitations row same).mp member, same, rest⟩

/-- After the pending invitations of an address are revoked, it has none. -/
theorem revoked_pending (now : Nat) {db : Db} {rows : List InvitationRow}
    {id : Nat} {email : String} (distinct : (rows.map key).Nodup)
    (listed : ∀ row, row ∈ rows ↔ row ∈ db.invitations ∧
      row.workspaceId = id ∧ row.email = email ∧ row.Pending)
    {row : InvitationRow}
    (member : row ∈ db.invitations.applyAll (rows.map fun row =>
      .put { row with revokedAt := some now })) :
    ¬(row.workspaceId = id ∧ row.email = email ∧ row.Pending) := by
  rintro ⟨sameId, sameEmail, pending⟩
  rcases (mem_revoked distinct).mp member with ⟨old, _, rfl⟩ | ⟨stored, others⟩
  · exact absurd pending.2 (by simp [revokedAt])
  · exact others row ((listed row).mpr ⟨stored, sameId, sameEmail, pending⟩) rfl

/-- Revoking does not change the tokens of a table. -/
theorem revoked_tokens (now : Nat) {db : Db} {rows : List InvitationRow}
    {hash : Nat} (distinct : (rows.map key).Nodup)
    (stored : ∀ row ∈ rows, row ∈ db.invitations)
    (unused : ∀ row ∈ db.invitations.applyAll (rows.map fun row =>
      .put { row with revokedAt := some now }), row.tokenHash ≠ hash) :
    ∀ row ∈ db.invitations, row.tokenHash ≠ hash := by
  intro row member
  by_cases named : ∃ old ∈ rows, old.id = row.id
  · obtain ⟨old, listed, same⟩ := named
    have rows : old = row := Table.eq_of_key (stored old listed) member same
    subst rows
    exact unused (revokedAt now old)
      ((mem_revoked distinct).mpr (.inl ⟨old, listed, rfl⟩))
  · refine unused row ((mem_revoked distinct).mpr (.inr ⟨member, ?_⟩))
    exact fun old listed same => named ⟨old, listed, same⟩

theorem verify_invite {id userId : Nat} {body : InviteDto}
    (core : context.request.core = .workspace (.invite id userId body))
    (clean : context.writes = ∅)
    (named : (world.db.workspaces.find id).isSome ∨
      environment.guessable id = true) :
    Wp environment drawn (invite environment.runtime id userId body)
      (fun _ _ _ => True) (InviteRefused id body.email)
      context world := by
  refine wp_opened fun opened start same rely => ?_
  have openedClean : opened.writes = ∅ := same.writes.trans clean
  have request : opened.request.core = .workspace (.invite id userId body) :=
    (congrArg Request.core same.request).trans core
  refine within_authorize openedClean (named_kept named rely) ?_ ?_
  · rintro locks now failure (rfl | rfl)
    · exact ⟨nofun, nofun⟩
    · exact ⟨nofun, nofun⟩
  intro now1 rely1 row member rowFound memberFound manages
  have present : (now1.db.workspaces.find id).isSome := by
    rw [rowFound]
    rfl
  refine within_hold (.lock (.workspace id) .update)
    (by simp [Context.Has]) rely1.inv ?_
  dsimp only
  split
  · exact fun _ => ⟨nofun, nofun⟩
  rename_i grants
  refine within_query fun now2 rely2 => ?_
  split
  · exact fun _ => ⟨nofun, by simp [Failure.conflict]⟩
  refine within_query fun now3 rely3 => ?_
  have kept3 : WorkspaceKept id now1.db now3.db :=
    kept_workspace id (rely2.trans rely3) (by simp) present
  have present3 := kept3.present present
  rw [view_clean (by simp [openedClean])]
  split
  · rename_i taken
    exact fun _ => ⟨nofun, fun _ => ⟨by simp, present3, taken⟩⟩
  rename_i few
  refine within_hold (.lock (.workspace id) .update)
    (by simp [Context.Has]) rely3.inv ?_
  refine within_revokePending fun now4 rely4 => ?_
  have early : WorkspaceKept id now1.db now4.db :=
    kept_workspace id ((rely2.trans rely3).trans rely4) (by simp) present
  have present4 : (now4.db.workspaces.find id).isSome := by
    rw [early.workspace]
    exact present
  refine within_hold (.lock (.workspace id) .update)
    (by simp [Context.Has]) rely4.inv ?_
  have plain : now4.view (opened.extend [(.workspace id, .update)] ∅) =
      now4.db := view_clean (by simp [openedClean])
  rw [plain]
  refine within_fresh fun now5 rely5 token _ _ => ?_
  refine within_fresh fun now6 rely6 invitationId _ _ => ?_
  have kept5 := kept_workspace id rely5 (by simp) present4
  have kept56 := kept_workspace id rely6 (by simp) (kept5.present present4)
  have kept6 := kept5.trans kept56
  have distinct := nodup_pendingInvitations now4.db id body.email
  refine within_insertInvitation ?_ ?_ ?_
  · exact fun _ _ _ other _ _ _ => ⟨other, nofun⟩
  · intro now7 rely7
    have kept67 := kept_workspace id rely7 (by simp) (kept6.present present4)
    have kept7 := kept6.trans kept67
    rw [List.eq_nil_iff_forall_not_mem]
    intro row member
    obtain ⟨stored, pending⟩ := mem_pendingInvitations.mp member
    refine revoked_pending opened.now distinct
      (pending_kept body.email kept7) ?_ pending
    simpa [World.view, openedClean] using stored
  · intro now7 rely7 absent unused known
    have kept67 := kept_workspace id rely7 (by simp) (kept6.present present4)
    have kept7 := kept6.trans kept67
    have listed7 := pending_kept body.email kept7
    have unused7 : ∀ row ∈ now7.db.invitations,
        row.tokenHash ≠ environment.runtime.digest token := by
      refine revoked_tokens opened.now distinct (fun row listed => ?_) ?_
      · exact ((listed7 row).mp listed).1
      · simpa [World.view, openedClean] using unused
    have absent7 : now7.db.invitations.find invitationId = none := by
      refine Table.find_eq_none_of_applyAll ?_ absent
      simp [openedClean]
    refine within_hold (.value .uuid invitationId) (by simp [Context.Has])
      rely7.inv ?_
    refine within_hold
      (.lock (.invitationToken (environment.runtime.digest token)) .update)
      (by simp [Context.Has]) rely7.inv ?_
    refine within_done fun now8 rely8 keepsToken keepsId keeps4 keeps3 keeps1 =>
      ⟨?_, trivial⟩
    have kept1 := keeps1 present
    have kept4 := keeps4 present4
    have listed := pending_kept body.email kept4
    have unused8 := keepsToken unused7
    have absent8 := keepsId.2 absent7
    have known8 : (now8.db.workspaces.find id).isSome := kept4.present present4
    let new : InvitationRow :=
      { id := invitationId
        workspaceId := id
        email := body.email
        role := body.role
        tokenHash := environment.runtime.digest token
        expiresAt := opened.now + sevenDays
        createdAt := opened.now
        acceptedAt := none
        revokedAt := none }
    refine workspace_guarantee rely8.inv request ?_ ?_ ?_ ?_ ?_
    · constructor <;> simp [openedClean]
    · simp [openedClean]
    · simp [openedClean]
    · refine ⟨some new, fun change member => ?_⟩
      simp only [extend_writes, own_writes, openedClean, Writes.empty_append,
        Writes.append_invitations, List.mem_append, List.mem_map,
        List.mem_singleton] at member
      rcases member with ⟨old, oldListed, rfl⟩ | rfl
      · obtain ⟨stored, workspace, _⟩ := (listed old).mp oldListed
        exact .update _ old stored ⟨rfl, rfl, rfl, rfl, rfl⟩
          (.inl (by simp [workspace]))
      · exact .insert new rfl absent8 (by simp [new]) (by simp [new]) unused8
          known8 (.inl (by simp [new]))
    · refine ⟨member.role, pendingInvitations now4.db id body.email, new, ?_⟩
      exact
        { acts := acts_of_kept kept1 rowFound memberFound
          manages := manages rfl
          grants := by
            by_contra neither
            push Not at neither
            refine grants ⟨neither.1, ?_⟩
            exact neither.2
          limit := by
            have counted := (keeps3 present3).otherInvitationCount opened.now
              body.email
            exact counted.trans_lt (Nat.not_le.mp few)
          pending := ⟨distinct, listed⟩
          workspaceId := rfl
          email := rfl
          role := rfl
          isPending := ⟨rfl, rfl⟩
          expiresAt := rfl
          freshId := absent8
          freshToken := unused8
          workspaces := by simp [World.record, openedClean]
          members := by simp [World.record, openedClean]
          invitations := by simp [World.record, openedClean, new] }

/-- An invitation keeps its workspace, and its token names it for good. -/
theorem workspace_of_token {before after : DbWorld} {candidate row : InvitationRow}
    (kept : Kept environment before after) (sound : Sound after.db)
    (stored : candidate ∈ before.db.invitations)
    (member : row ∈ after.db.invitations)
    (token : row.tokenHash = candidate.tokenHash) :
    row.workspaceId = candidate.workspaceId := by
  obtain ⟨later, laterMember, offer⟩ := kept.invitations candidate stored
  have rows : later = row :=
    sound.tokenUnique later laterMember row member
      (offer.tokenHash.trans token.symm)
  exact rows ▸ offer.workspaceId

theorem memberOf_kept {id : Nat} {before after : Db}
    (kept : WorkspaceKept id before after) (userId : Nat) :
    MemberOf after id userId ↔ MemberOf before id userId := by
  constructor
  · rintro ⟨row, member, same, user⟩
    exact ⟨row, (kept.members row same).mp member, same, user⟩
  · rintro ⟨row, member, same, user⟩
    exact ⟨row, (kept.members row same).mpr member, same, user⟩

/-- The last statement of `accept`, once the membership is settled. -/
theorem verify_acceptInvitation {id userId token : Nat} {row : InvitationRow}
    (members : List (Change MemberRow (Nat × Nat)))
    (inv : Invariant environment drawn world)
    (request : context.request.core = .workspace (.accept userId token))
    (writes : context.writes = { members })
    (locked : (Lock.workspace id, LockMode.update) ∈ context.locks)
    (stored : row ∈ world.db.invitations)
    (rowToken : row.tokenHash = environment.runtime.digest token)
    (active : row.ActiveAt context.now) (workspace : row.workspaceId = id)
    (user : ∃ state ∈ world.states, ∃ user ∈ state.users,
      user.id = userId ∧ user.Active ∧
        user.email.map environment.runtime.toLowerCase = some row.email)
    (joins : MemberOf world.db id userId ∧ members = [] ∨
      ¬MemberOf world.db id userId ∧
        members = [.put { workspaceId := id, userId
                          role := row.role.toWorkspaceRole
                          createdAt := context.now }]) :
    Within environment drawn (acceptInvitation row.id >>= fun _ => pure id)
      (fun _ context world =>
        (discipline environment drawn).Guarantee context world
          (world.commit context) ∧ True)
      (fun _ _ _ => True) context world := by
  have present : (world.db.workspaces.find id).isSome :=
    workspace ▸ inv.sound.invitationWorkspace row stored
  have found : ∀ later : DbWorld, WorkspaceKept id world.db later.db →
      later.db.invitations.find row.id = some row := by
    intro later kept
    exact Table.find_key ((kept.invitations row workspace).mpr stored)
  refine within_acceptInvitation ?_ ?_
  · intro now1 rely1 absent
    have kept1 := kept_workspace id rely1 locked present
    simp [World.view, writes, found now1 kept1] at absent
  · intro now1 rely1 same foundSame
    have kept1 := kept_workspace id rely1 locked present
    have rows : row = same := by
      simpa [World.view, writes, found now1 kept1] using foundSame
    subst rows
    refine within_done fun now2 rely2 => ⟨?_, trivial⟩
    have kept12 := kept_workspace id rely2 (by simp [locked])
      (kept1.present present)
    have kept2 := kept1.trans kept12
    have present2 := kept2.present present
    have stored2 : row ∈ now2.db.invitations :=
      (kept2.invitations row workspace).mpr stored
    have past := ((kept_always rely1).trans (kept_always rely2)).states
    have joins2 := joins
    rw [← memberOf_kept kept2 userId] at joins2
    refine workspace_guarantee rely2.inv request ?_ ?_ ?_ ?_ ?_
    · constructor <;> simp [writes]
    · simp [writes]
    · rcases joins2 with ⟨_, rfl⟩ | ⟨_, rfl⟩
      · simp [writes]
      · simp [writes]
        refine .put _ (.inl (by simp [locked])) ?_ ?_
        · simpa [writes] using present2
        · cases row.role <;> simp [InvitationRole.toWorkspaceRole]
    · refine ⟨none, ?_⟩
      simp [writes]
      exact .update _ row stored2 ⟨rfl, rfl, rfl, rfl, rfl⟩
        (.inl (by simp [workspace, locked]))
    · obtain ⟨state, member, witness⟩ := user
      refine ⟨row, ?_⟩
      exact
        { stored := stored2
          token := rowToken
          active := active
          user := ⟨state, past state member, witness⟩
          workspaces := by simp [World.record, writes]
          members := by simpa [World.record, writes, workspace] using joins2
          invitations := by simp [World.record, writes] }

theorem verify_accept {userId token : Nat}
    (core : context.request.core = .workspace (.accept userId token))
    (clean : context.writes = ∅) :
    Wp environment drawn (accept environment.runtime userId token)
      (fun _ _ _ => True) (fun _ _ _ => True) context world := by
  refine wp_opened fun opened start same rely => ?_
  have openedClean : opened.writes = ∅ := same.writes.trans clean
  have request : opened.request.core = .workspace (.accept userId token) :=
    (congrArg Request.core same.request).trans core
  refine within_query fun now1 rely1 => ?_
  rw [view_clean openedClean]
  cases candidateFound :
      invitationByToken now1.db (environment.runtime.digest token) with
  | none => trivial
  | some candidate =>
    have candidateStored : candidate ∈ now1.db.invitations :=
      List.mem_of_find?_eq_some candidateFound
    have candidateToken :
        candidate.tokenHash = environment.runtime.digest token := by
      simpa using List.find?_some candidateFound
    refine within_lockWorkspace fun now2 rely2 => ?_
    have present2 : (now2.db.workspaces.find candidate.workspaceId).isSome :=
      (kept_always rely2).workspaces _
        (rely1.inv.sound.invitationWorkspace candidate candidateStored)
    rw [view_clean openedClean, if_pos present2]
    refine within_selectActiveInvitation (by simp [openedClean])
      (fun _ _ => trivial) ?_
    intro now3 rely3 row stored rowToken active
    have kept13 := (kept_always rely2).trans (kept_always rely3)
    have workspace : row.workspaceId = candidate.workspaceId :=
      workspace_of_token kept13 rely3.inv.sound candidateStored stored
        (rowToken.trans candidateToken.symm)
    have kept23 :=
      kept_workspace candidate.workspaceId rely3 (by simp) present2
    have present3 := kept23.present present2
    refine within_query fun now4 rely4 => ?_
    have kept34 :=
      kept_workspace candidate.workspaceId rely4 (by simp) present3
    have present4 := kept34.present present3
    split
    · rename_i email
      have user : ∃ user ∈ now4.db.users, user.id = userId ∧ user.Active ∧
          user.email.map environment.runtime.toLowerCase = some row.email := by
        rw [view_clean (by simp [openedClean])] at email
        cases found : activeUser now4.db userId with
        | none => simp [found] at email
        | some user =>
            obtain ⟨member, id, alive⟩ := activeUser_eq_some.mp found
            exact ⟨user, member, id, alive, by simpa [found] using email⟩
      refine within_insertMember (fun _ _ => trivial) ?_ ?_
      · intro now5 rely5 _ found
        have kept45 :=
          kept_workspace candidate.workspaceId rely5 (by simp) present4
        have kept35 := kept34.trans kept45
        have joined : MemberOf now5.db candidate.workspaceId userId := by
          rw [memberOf_iff]
          simpa [World.view, openedClean] using found
        refine verify_acceptInvitation [] rely5.inv request
          (by simp [openedClean]; rfl) (by simp)
          ((kept35.invitations row workspace).mpr stored) rowToken active
          workspace ?_ (.inl ⟨joined, rfl⟩)
        exact ⟨now4.db, (kept_always rely5).states _ List.mem_cons_self, user⟩
      · intro now5 rely5 absent _
        have kept45 :=
          kept_workspace candidate.workspaceId rely5 (by simp) present4
        have kept35 := kept34.trans kept45
        have apart : ¬MemberOf now5.db candidate.workspaceId userId := by
          rw [memberOf_iff]
          simpa [World.view, openedClean] using absent
        refine verify_acceptInvitation _ rely5.inv request
          (by simp [openedClean]) (by simp)
          ((kept35.invitations row workspace).mpr stored) rowToken active
          workspace ?_ (.inr ⟨apart, rfl⟩)
        exact ⟨now4.db, (kept_always rely5).states _ List.mem_cons_self, user⟩
    · trivial

/-- Under the workspace lock `revoke` reaches the same row. -/
theorem revocable_kept {id : Nat} {before after : Db}
    (kept : WorkspaceKept id before after) (invitationId : Nat)
    (actor : WorkspaceRole) :
    revocable after id invitationId actor =
      revocable before id invitationId actor := by
  apply Option.ext
  intro row
  rw [revocable_eq_some, revocable_eq_some]
  constructor
  · rintro ⟨stored, same, workspace, rest⟩
    exact ⟨(kept.invitations row workspace).mp stored, same, workspace, rest⟩
  · rintro ⟨stored, same, workspace, rest⟩
    exact ⟨(kept.invitations row workspace).mpr stored, same, workspace, rest⟩

theorem verify_revoke {id userId invitationId : Nat}
    (core : context.request.core =
      .workspace (.revoke id userId invitationId))
    (clean : context.writes = ∅)
    (named : (world.db.workspaces.find id).isSome ∨
      environment.guessable id = true) :
    Wp environment drawn (revoke id userId invitationId) (fun _ _ _ => True)
      (fun _ _ _ => True) context world := by
  refine wp_opened fun opened start same rely => ?_
  have openedClean : opened.writes = ∅ := same.writes.trans clean
  have request : opened.request.core =
      .workspace (.revoke id userId invitationId) :=
    (congrArg Request.core same.request).trans core
  refine within_authorize openedClean (named_kept named rely)
    (fun _ _ _ _ => trivial) ?_
  intro now1 rely1 row member rowFound memberFound manages
  have present : (now1.db.workspaces.find id).isSome := by
    rw [rowFound]
    rfl
  refine within_hold (.lock (.workspace id) .update)
    (by simp [Context.Has]) rely1.inv ?_
  refine within_revokeById fun now2 rely2 result => ?_
  have early := kept_workspace id rely2 (by simp) present
  rw [view_clean (by simp [openedClean])]
  rw [revocable_kept early]
  split
  · exact fun _ => trivial
  · refine within_done fun now3 rely3 keeps => ⟨?_, trivial⟩
    have kept := keeps present
    refine workspace_guarantee rely3.inv request ?_ ?_ ?_ ?_ ?_
    · constructor <;> simp [openedClean]
    · simp [openedClean]
    · simp [openedClean]
    · refine ⟨none, fun change listed => ?_⟩
      simp only [extend_writes, openedClean, Writes.empty_append,
        List.mem_map, Option.mem_toList] at listed
      obtain ⟨old, found, rfl⟩ := listed
      rw [← revocable_kept kept] at found
      obtain ⟨stored, _, workspace, _⟩ := revocable_eq_some.mp found
      exact .update _ old stored ⟨rfl, rfl, rfl, rfl, rfl⟩
        (.inl (by simp [workspace]))
    · refine ⟨member.role, acts_of_kept kept rowFound memberFound,
        manages rfl, by simp [World.record, openedClean],
        by simp [World.record, openedClean], ?_⟩
      have rows : revocable now3.db id invitationId member.role =
          revocable now1.db id invitationId member.role :=
        revocable_kept kept invitationId member.role
      simp [World.record, openedClean, rows]

theorem find_member_kept {id : Nat} {before after : Db}
    (kept : WorkspaceKept id before after) (memberId : Nat) :
    after.members.find (id, memberId) = before.members.find (id, memberId) := by
  apply Table.find_congr
  intro row same
  exact kept.members row (congrArg Prod.fst same)

/-- The second half of `changeMember`: the workspace is locked, and the target
user is shared when the call stores a role for it. -/
theorem verify_changeTarget {id userId memberId : Nat}
    {role : Option WorkspaceRole} {row : WorkspaceRow} {actor : MemberRow}
    (request : context.request.core =
      .workspace (.changeMember id userId memberId role))
    (inv : Invariant environment drawn world)
    (clean : context.writes = ∅)
    (locked : (Lock.workspace id, LockMode.update) ∈ context.locks)
    (rowFound : world.db.workspaces.find id = some row)
    (actorFound : world.db.members.find (id, userId) = some actor)
    (promoted : role.isSome →
      (Lock.user memberId, LockMode.share) ∈ context.locks ∧
        LiveUser world.db memberId) :
    Within environment drawn (changeTarget id userId memberId role actor.role)
      (fun _ context world =>
        (discipline environment drawn).Guarantee context world
          (world.commit context) ∧ True)
      (fun _ _ _ => True) context world := by
  have present : (world.db.workspaces.find id).isSome := by
    rw [rowFound]
    rfl
  refine within_hold (.lock (.workspace id) .update) locked inv ?_
  refine within_query fun now1 rely1 => ?_
  rw [view_clean clean]
  have kept1 := kept_workspace id rely1 locked present
  cases targetFound : now1.db.members.find (id, memberId) with
  | none => exact fun _ => trivial
  | some target =>
      have targetStored : world.db.members.find (id, memberId) =
          some target := (find_member_kept kept1 memberId).symm.trans targetFound
      obtain ⟨_, targetId, targetUser⟩ := find_member targetStored
      dsimp only
      split
      · exact fun _ => trivial
      rename_i refused
      have allowed : memberId = userId ∧ role = none ∨ actor.role = .owner ∨
          actor.role = .admin ∧ target.role = .member ∧
            (role = some .member ∨ role = none) := by
        by_contra neither
        push Not at neither
        refine refused ⟨by simpa using neither.1, neither.2.1, ?_⟩
        rintro ⟨admin, ordinary, stays | leaves⟩
        · exact (neither.2.2 admin ordinary).1 stays
        · exact (neither.2.2 admin ordinary).2 leaves
      -- The count of active owners was taken under the workspace lock.
      have finish : ∀ now2,
          Relies environment drawn context now1 now2 →
          (target.role = .owner → role ≠ some .owner →
            ∃ other, other ≠ memberId ∧ ActiveOwner now2.db id other) →
          Within environment drawn
            (changeOrDelete id memberId role)
            (fun _ context now => Keeps environment world now
                (.lock (.workspace id) .update) →
              (discipline environment drawn).Guarantee context now
                (now.commit context) ∧ True)
            (fun _ _ now => Keeps environment world now
                (.lock (.workspace id) .update) → True)
            context now2 := by
        intro now2 rely2 owners2
        have kept2 := kept1.trans
          (kept_workspace id rely2 locked (kept1.present present))
        have present2 := kept2.present present
        have owners : ∀ now3, WorkspaceKept id now2.db now3 →
            target.role = .owner → role ≠ some .owner →
            ∃ other, other ≠ memberId ∧ ActiveOwner now3 id other := by
          intro now3 kept owner demoted
          obtain ⟨other, different, active⟩ := owners2 owner demoted
          exact ⟨other, different, kept.owners other active⟩
        cases role with
        | none =>
            refine within_last (within_deleteMember ?_ ?_)
            · intro now3 rely3 absent
              have kept3 := kept2.trans (kept_workspace id rely3 locked present2)
              rw [view_clean clean, find_member_kept kept3, targetStored]
                at absent
              cases absent
            · intro now3 rely3
              refine within_done fun now4 rely4 keeps => ⟨?_, trivial⟩
              have kept4 := keeps present
              have kept34 := kept_workspace id (rely3.trans
                (rely4.weaken ((Context.Grows.refl context).extend _ _)))
                locked present2
              refine workspace_guarantee rely4.inv request ?_ ?_ ?_ ?_ ?_
              · constructor <;> simp [clean]
              · simp [clean]
              · simp [clean]
                exact .drop id memberId (.inl (by simp [locked]))
              · exact ⟨none, by simp [clean]⟩
              · exact ⟨actor.role, target,
                  { acts := acts_of_kept kept4 rowFound actorFound
                    stored := (find_member_kept kept4 memberId).trans
                      targetStored
                    allowed
                    promoted := by simp
                    owners := owners now4.db kept34
                    workspaces := by simp [World.record, clean]
                    members := by simp [World.record, clean]
                    invitations := by simp [World.record, clean] }⟩
        | some granted =>
            refine within_last (within_updateMemberRole ?_ ?_)
            · intro now3 rely3 absent
              have kept3 := kept2.trans (kept_workspace id rely3 locked present2)
              rw [view_clean clean, find_member_kept kept3, targetStored]
                at absent
              cases absent
            · intro now3 rely3 found foundNow
              have kept3 := kept2.trans (kept_workspace id rely3 locked present2)
              rw [view_clean clean, find_member_kept kept3, targetStored]
                at foundNow
              cases foundNow
              refine within_done fun now4 rely4 keeps => ⟨?_, trivial⟩
              have kept4 := keeps present
              have rely14 : Relies environment drawn context world now4 :=
                ((rely1.trans rely2).trans rely3).trans
                  (rely4.weaken ((Context.Grows.refl context).extend _ _))
              have kept34 := kept_workspace id (rely3.trans
                (rely4.weaken ((Context.Grows.refl context).extend _ _)))
                locked present2
              obtain ⟨shared, live⟩ := promoted rfl
              have userPresent : (world.db.users.find memberId).isSome := by
                obtain ⟨user, stored, same, _⟩ := live
                exact Table.find_isSome.mpr ⟨user, stored, same⟩
              have liveNow : LiveUser now4.db memberId :=
                liveUser_kept (kept_user memberId .share rely14 shared
                  userPresent) live
              refine workspace_guarantee rely4.inv request ?_ ?_ ?_ ?_ ?_
              · constructor <;> simp [clean]
              · simp [clean]
              · simp [clean]
                refine .put _ (.inl (by simp [targetId, locked])) ?_ ?_
                · simpa [clean, targetId] using kept4.present present
                · exact fun _ => .inr ⟨.share, by simp [targetUser, shared]⟩
              · exact ⟨none, by simp [clean]⟩
              · exact ⟨actor.role, target,
                  { acts := acts_of_kept kept4 rowFound actorFound
                    stored := (find_member_kept kept4 memberId).trans
                      targetStored
                    allowed
                    promoted := fun _ => liveNow
                    owners := owners now4.db kept34
                    workspaces := by simp [World.record, clean]
                    members := by simp [World.record, clean]
                    invitations := by simp [World.record, clean] }⟩
      split
      · refine within_query fun now2 rely2 => ?_
        split
        · exact fun _ => trivial
        · rename_i several
          refine finish now2 rely2 fun _ _ => ?_
          rw [view_clean clean] at several
          exact other_activeOwner memberId (by simpa using several)
      · rename_i kept
        exact finish now1 (.refl rely1.inv) fun owner demoted =>
          absurd ⟨owner, demoted⟩ kept

theorem verify_changeMember {id userId memberId : Nat}
    {role : Option WorkspaceRole}
    (core : context.request.core =
      .workspace (.changeMember id userId memberId role))
    (clean : context.writes = ∅)
    (named : (world.db.workspaces.find id).isSome ∨
      environment.guessable id = true) :
    Wp environment drawn (changeMember id userId memberId role)
      (fun _ _ _ => True) (fun _ _ _ => True) context world := by
  refine wp_opened fun opened start same rely => ?_
  have openedClean : opened.writes = ∅ := same.writes.trans clean
  have request : opened.request.core =
      .workspace (.changeMember id userId memberId role) :=
    (congrArg Request.core same.request).trans core
  refine within_authorize openedClean (named_kept named rely)
    (fun _ _ _ _ => trivial) ?_
  intro now1 rely1 row actor rowFound actorFound _
  have present : (now1.db.workspaces.find id).isSome := by
    rw [rowFound]
    rfl
  cases role with
  | none =>
      exact verify_changeTarget request rely1.inv (by simp [openedClean])
        (by simp) rowFound actorFound (by simp)
  | some role =>
      simp only [reduceCtorEq, if_false, bind_map_left]
      refine within_selectActiveUser (by simp [openedClean])
        (fun _ _ => trivial) ?_
      intro now2 rely2 user stored sameUser active
      have kept := kept_workspace id rely2 (by simp) present
      exact verify_changeTarget request rely2.inv (by simp [openedClean])
        (by simp) (kept.workspace.trans rowFound)
        ((find_member_kept kept userId).trans actorFound)
        fun _ => ⟨by simp, user, stored, sameUser, active⟩

theorem verify_list {userId : Nat} :
    Wp environment drawn (list userId) (fun _ _ _ => True)
      (fun _ _ _ => True) context world :=
  wp_run.mpr fun _ _ => trivial

end WorkspacesService

end SaasFoundation
