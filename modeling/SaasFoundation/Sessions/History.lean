import SaasFoundation.Api.Commits

/-!
# Sessions along a run

A session keeps its account, and once it has ended it stays ended.  It gets a
new hash through a rotation only.
-/

namespace SaasFoundation

open Relational Transaction Api

variable {runtime : Runtime} {drawn : Prop} {commit : DbCommit}
  {earlier : List DbCommit}

/-- The commit of an accepted refresh token. -/
def Redeems (commit : DbCommit) (sessionId hash next : Nat) : Prop :=
  commit.request.core = .auth (.refreshToken sessionId hash) ∧
    Accepts commit sessionId hash next

/-- What a commit does to the sessions. -/
inductive SessionsWritten (runtime : Runtime) (drawn : Prop)
    (commit : DbCommit) (earlier : List DbCommit) : Prop where
  | nothing (sessions : commit.writes.sessions = [])
  | ended (userId : Nat) (exclude : Option Nat)
      (revokes : Revokes commit userId exclude)
  | opened (password : String) (user : UserRow) (session : SessionRow)
      (loggedIn : LoggedIn runtime commit password user session)
      (unissued : drawn →
        Unissued session.hash (statesBefore commit earlier))
  | rotated (sessionId hash next : Nat)
      (redeems : Redeems commit sessionId hash next)
      (unissued : drawn → Unissued next (statesBefore commit earlier))
  | loggedOut (sessionId : Nat) (row : SessionRow)
      (stored : commit.before.sessions.find sessionId = some row)
      (sessions : commit.writes.sessions =
        [.put { row with deletedAt := some commit.started }])

theorem sessionsWritten_of_changed {old new : UserRow} {exclude : Option Nat}
    (changed : UserChanged commit old new exclude) :
    SessionsWritten runtime drawn commit earlier := by
  rcases changed.sessions with ⟨sessions, _⟩ | revokes
  · exact .nothing sessions
  · exact .ended old.id exclude revokes

theorem sessions_of_auth {call : AuthCall}
    (core : commit.request.core = .auth call)
    (effect : AuthEffect runtime drawn commit earlier call) :
    SessionsWritten runtime drawn commit earlier := by
  cases call with
  | validateLogin email password =>
      obtain ⟨user, session, loggedIn, unissued⟩ := effect
      exact .opened password user session loggedIn unissued
  | register dto =>
      obtain ⟨new, registered⟩ := effect
      exact .nothing registered.inserted.sessions
  | confirmEmail hash =>
      obtain ⟨old, new, profile, _⟩ := effect
      exact sessionsWritten_of_changed profile.changed
  | confirmNewEmail hash =>
      obtain ⟨old, new, _, profile, _⟩ := effect
      exact sessionsWritten_of_changed profile.changed
  | resetPassword hash password =>
      obtain ⟨old, new, _, profile, _⟩ := effect
      exact sessionsWritten_of_changed profile.changed
  | update payload dto =>
      obtain ⟨old, new, _, _, profile, _⟩ := effect
      exact sessionsWritten_of_changed profile.changed
  | refreshToken sessionId hash =>
      obtain ⟨next, rotated, unissued⟩ := effect
      rcases rotated.sessions with sessions | accepts
      · exact .nothing sessions
      · exact .rotated sessionId hash next ⟨core, accepts⟩ unissued
  | logout sessionId =>
      rcases effect.sessions with sessions | ⟨row, stored, sessions⟩
      · exact .nothing sessions
      · exact .loggedOut sessionId row stored sessions
  | softDelete payload =>
      rcases effect with ⟨old, new, deleted⟩ | nothing
      · exact sessionsWritten_of_changed deleted.changed
      · exact .nothing (by rw [nothing]; rfl)
  | resendConfirmation | forgotPassword | validate => exact effect.elim

theorem sessions_of_effect (effect : Effect runtime drawn commit earlier) :
    SessionsWritten runtime drawn commit earlier := by
  rcases kind_of_effect effect with
    ⟨_, _, only, _⟩ | (⟨call, core⟩ | ⟨call, core⟩) | ⟨_, _, _, only, _⟩ |
      ⟨_, _, _, written⟩
  · exact .nothing only.sessions
  · unfold Effect at effect
    rw [core] at effect
    cases call with
    | save type dto actor id =>
        cases id with
        | none =>
            obtain ⟨new, created⟩ := effect
            exact .nothing created.inserted.sessions
        | some id =>
            obtain ⟨old, new, changes, updated⟩ := effect
            exact sessionsWritten_of_changed updated.changed
    | remove type id actor =>
        obtain ⟨old, new, removed⟩ := effect
        exact sessionsWritten_of_changed removed.changed
  · unfold Effect at effect
    rw [core] at effect
    exact sessions_of_auth core effect
  · exact .nothing only.sessions
  · exact .nothing written.sessions

/-- A session before and after a commit. -/
structure Continues (old new : SessionRow) : Prop where
  id : new.id = old.id
  userId : new.userId = old.userId
  live : new.deletedAt = none → old.deletedAt = none

theorem Continues.refl (row : SessionRow) : Continues row row :=
  ⟨rfl, rfl, fun live => live⟩

theorem Continues.trans {first second third : SessionRow}
    (left : Continues first second) (right : Continues second third) :
    Continues first third :=
  ⟨right.id.trans left.id, right.userId.trans left.userId,
    fun live => left.live (right.live live)⟩

/-- A session keeps its hash, unless the commit redeems it. -/
def Rehashed (commit : DbCommit) (old new : SessionRow) : Prop :=
  new.hash = old.hash ∨ Redeems commit old.id old.hash new.hash

/-- A written session continues a stored one, or it is new. -/
theorem session_put (written : SessionsWritten runtime drawn commit earlier)
    {row : SessionRow} (put : .put row ∈ commit.writes.sessions) :
    (∃ old ∈ commit.before.sessions,
      Continues old row ∧ Rehashed commit old row) ∨
    ∃ password user, LoggedIn runtime commit password user row := by
  cases written with
  | nothing sessions => simp [sessions] at put
  | ended userId exclude revokes =>
      obtain ⟨rows, _, stored, sessions⟩ := revokes
      rw [sessions, List.mem_map] at put
      obtain ⟨old, listed, same⟩ := put
      cases same
      exact .inl ⟨old, ((stored old).mp listed).1, ⟨rfl, rfl, nofun⟩, .inl rfl⟩
  | opened password user session loggedIn =>
      rw [loggedIn.sessions, List.mem_singleton] at put
      cases put
      exact .inr ⟨password, user, loggedIn⟩
  | rotated sessionId hash next redeems =>
      obtain ⟨core, old, found, sessions⟩ := redeems
      obtain ⟨stored, rfl, rfl, live⟩ :=
        SessionRepository.matchesHash_eq_some.mp found
      rw [sessions, List.mem_singleton] at put
      cases put
      exact .inl ⟨old, stored, ⟨rfl, rfl, fun _ => live⟩,
        .inr ⟨core, old, found, sessions⟩⟩
  | loggedOut sessionId old found sessions =>
      rw [sessions, List.mem_singleton] at put
      cases put
      exact .inl ⟨old, (Table.find_eq_some.mp found).1, ⟨rfl, rfl, nofun⟩,
        .inl rfl⟩

theorem session_puts (written : SessionsWritten runtime drawn commit earlier) :
    ∀ change ∈ commit.writes.sessions, ∃ row, change = .put row := by
  cases written with
  | nothing sessions => simp [sessions]
  | ended userId exclude revokes =>
      obtain ⟨rows, _, _, sessions⟩ := revokes
      simp [sessions]
  | opened password user session loggedIn => simp [loggedIn.sessions]
  | rotated sessionId hash next redeems =>
      obtain ⟨_, row, _, sessions⟩ := redeems
      simp [sessions]
  | loggedOut sessionId row found sessions => simp [sessions]

theorem session_origin (written : SessionsWritten runtime drawn commit earlier)
    {row : SessionRow} (member : row ∈ commit.after.sessions) :
    (∃ old ∈ commit.before.sessions,
      Continues old row ∧ Rehashed commit old row) ∨
    ∃ password user, LoggedIn runtime commit password user row := by
  rcases Table.mem_of_mem_applyAll member with put | ⟨stored, _⟩
  · exact session_put written put
  · exact .inl ⟨row, stored, .refl row, .inl rfl⟩

theorem session_kept (written : SessionsWritten runtime drawn commit earlier)
    {row : SessionRow} (stored : row ∈ commit.before.sessions) :
    ∃ later ∈ commit.after.sessions, Continues row later := by
  rcases Table.mem_or_replaced (session_puts written) stored with
    still | ⟨later, put, same, laterStored⟩
  · exact ⟨row, still, .refl row⟩
  · refine ⟨later, laterStored, ?_⟩
    rcases session_put written put with
      ⟨old, oldStored, continues, _⟩ | ⟨_, _, loggedIn⟩
    · have rows : old = row :=
        Table.eq_of_key oldStored stored (continues.id.symm.trans same)
      exact rows ▸ continues
    · exact absurd same.symm
        (Table.find_eq_none.mp loggedIn.freshId row stored)

/-- Every session of the earlier state is still there. -/
def SessionsContinue (later past : Db) : Prop :=
  ∀ row ∈ past.sessions, ∃ row' ∈ later.sessions, Continues row row'

def SessionsKept (commits : List DbCommit) (db : Db) : Prop :=
  ∀ past ∈ commits, SessionsContinue db past.before

theorem sessionsKept_of_effect (effect : Effect runtime drawn commit earlier)
    (kept : SessionsKept earlier commit.before) :
    SessionsKept (commit :: earlier) commit.after := by
  have written := sessions_of_effect effect
  intro past logged row stored
  rcases List.mem_cons.mp logged with rfl | older
  · exact session_kept written stored
  · obtain ⟨middle, middleStored, first⟩ := kept past older row stored
    obtain ⟨later, laterStored, second⟩ := session_kept written middleStored
    exact ⟨later, laterStored, first.trans second⟩

/-- A session no state before has is new to the whole log. -/
theorem SessionsKept.unseen {commits : List DbCommit} {db : Db}
    (kept : SessionsKept commits db) {id : Nat}
    (fresh : db.sessions.find id = none) {past : DbCommit}
    (logged : past ∈ commits) {row : SessionRow}
    (stored : row ∈ past.before.sessions) : row.id ≠ id := by
  obtain ⟨later, laterStored, continues⟩ := kept past logged row stored
  intro same
  exact Table.find_eq_none.mp fresh later laterStored (continues.id.trans same)

end SaasFoundation
