import SaasFoundation.Accounts.Administrators
import SaasFoundation.Sessions.History
import SaasFoundation.Users.History

/-!
# A live session stands for the credentials it was made with

Six kinds of requests change the password, the role or the status of an
account.  Each ends the sessions of the account in the same commit, all but
the one a profile update is made from, and a login is refused when the account
has changed since the password was checked.
-/

namespace SaasFoundation

open Relational Transaction Api

variable {runtime : Runtime} {drawn : Prop} {commit : DbCommit}
  {earlier : List DbCommit}

/-- A profile update made from this session. -/
def OwnUpdate (commit : DbCommit) (session : SessionRow) : Prop :=
  ∃ payload dto, commit.request.core = .auth (.update payload dto) ∧
    payload.sessionId = session.id

/-- The commit is a password reset of this account. -/
def ResetsAccount (runtime : Runtime) (commit : DbCommit) (id : Nat) : Prop :=
  ∃ hash password, commit.request.core = .auth (.resetPassword hash password) ∧
    (runtime.decode hash).bind (·.forgotUserId) = some (.integer id)

/-- What a commit leaves of the credentials behind a session. -/
structure KeepsCredentials (runtime : Runtime) (commit : DbCommit)
    (session : SessionRow) (old new : UserRow) : Prop where
  active : new.Active
  role : new.roleId = old.roleId
  password : new.password = old.password ∨ OwnUpdate commit session
  unreset : ¬ResetsAccount runtime commit old.id

/-- Every commit since the session was there kept its credentials. -/
def KeptSince (runtime : Runtime) (commits : List DbCommit)
    (session : SessionRow) : Prop :=
  ∀ past ∈ commits, (past.before.sessions.find session.id).isSome →
    ∀ old ∈ past.before.users, old.id = session.userId →
    ∀ new ∈ past.after.users, new.id = session.userId →
      KeepsCredentials runtime past session old new

/-- A session in use: neither it nor its account has ended. -/
def InUse (db : Db) (session : SessionRow) (user : UserRow) : Prop :=
  session ∈ db.sessions ∧ session.deletedAt = none ∧ user ∈ db.users ∧
    user.id = session.userId ∧ user.deletedAt = none

/-- `FK_session_userId`. -/
def SessionUsers (db : Db) : Prop :=
  ∀ session ∈ db.sessions, (db.users.find session.userId).isSome

structure Credentials (runtime : Runtime) (commits : List DbCommit) (db : Db) :
    Prop where
  users : SessionUsers db
  kept : SessionsKept commits db
  inUse : ∀ session user, InUse db session user →
    user.Active ∧ KeptSince runtime commits session

theorem sessionUsers_of_effect (effect : Effect runtime drawn commit earlier)
    (users : SessionUsers commit.before) : SessionUsers commit.after := by
  intro session member
  apply Table.find_applyAll_isSome (user_puts (users_of_effect effect))
  rcases session_origin (sessions_of_effect effect) member with
    ⟨old, stored, continues, _⟩ | ⟨_, user, loggedIn⟩
  · rw [continues.userId]
    exact users old stored
  · exact Table.find_isSome.mpr
      ⟨user, loggedIn.stored, loggedIn.userId.symm⟩

/-- How the account of a session got to the row after a commit. -/
inductive AccountStep (runtime : Runtime) (commit : DbCommit)
    (old new : UserRow) : Prop where
  | same (unchanged : new = old)
  | managed (changed : UserChanged commit old new none)
  | profile (call : AuthCall) (exclude : Option Nat) (changes : UserChanges)
      (core : commit.request.core = .auth call)
      (asked : ProfileCall runtime commit old call exclude changes)
      (profile : ProfileChanged commit old new exclude changes)

theorem accountStep (effect : Effect runtime drawn commit earlier)
    {old new : UserRow} (stored : old ∈ commit.before.users)
    (member : new ∈ commit.after.users) (same : new.id = old.id) :
    AccountStep runtime commit old new := by
  cases rowStep effect stored member same with
  | same unchanged => exact .same unchanged
  | updated type dto actor id changes core updated =>
      exact .managed updated.changed
  | removed type id actor core removed => exact .managed removed.changed
  | profile call exclude changes core asked profile =>
      exact .profile call exclude changes core asked profile
  | deleted payload core deleted => exact .managed deleted.changed

/-- A revocation spares the excluded session only. -/
theorem excluded_of_revokes {userId : Nat} {exclude : Option Nat}
    (revokes : Revokes commit userId exclude) {old new : SessionRow}
    (stored : old ∈ commit.before.sessions) (owner : old.userId = userId)
    (oldLive : old.deletedAt = none) (member : new ∈ commit.after.sessions)
    (same : new.id = old.id) (live : new.deletedAt = none) :
    exclude = some old.id := by
  by_contra other
  obtain ⟨rows, _, listed, sessions⟩ := revokes
  have ended : old ∈ rows :=
    (listed old).mpr ⟨stored, owner, oldLive, fun same => other same.symm⟩
  rcases Table.mem_of_mem_applyAll member with put | ⟨_, untouched⟩
  · rw [sessions, List.mem_map] at put
    obtain ⟨row, _, isRow⟩ := put
    cases isRow
    cases live
  · refine untouched (.put { old with deletedAt := some commit.started }) ?_
      same.symm
    rw [sessions]
    exact List.mem_map_of_mem ended

/-- A reset ends every session of its account, whatever it stores. -/
theorem reset_of_effect (effect : Effect runtime drawn commit earlier)
    {hash password : String}
    (core : commit.request.core = .auth (.resetPassword hash password)) :
    ∃ old, Resets runtime hash old ∧ Revokes commit old.id none := by
  unfold Effect at effect
  rw [core] at effect
  obtain ⟨old, _, _, _, _, resets, revokes⟩ := effect
  exact ⟨old, resets, revokes⟩

theorem keepsCredentials_of_effect (effect : Effect runtime drawn commit earlier)
    {session later : SessionRow} {old new : UserRow}
    (stored : session ∈ commit.before.sessions)
    (live : session.deletedAt = none) (member : later ∈ commit.after.sessions)
    (sameSession : later.id = session.id) (laterLive : later.deletedAt = none)
    (oldStored : old ∈ commit.before.users) (owner : old.id = session.userId)
    (active : old.Active) (newStored : new ∈ commit.after.users)
    (sameUser : new.id = old.id) (alive : new.deletedAt = none) :
    KeepsCredentials runtime commit later old new := by
  have spares {exclude : Option Nat} (revokes : Revokes commit old.id exclude) :
      exclude = some session.id :=
    excluded_of_revokes revokes stored owner.symm live member sameSession
      laterLive
  have unreset : ¬ResetsAccount runtime commit old.id := by
    rintro ⟨hash, password, core, subject⟩
    obtain ⟨reset, resets, revokes⟩ := reset_of_effect effect core
    have same : reset.id = old.id := by
      simpa using resets.subject.symm.trans subject
    cases spares (same ▸ revokes)
  cases accountStep effect oldStored newStored sameUser with
  | same unchanged =>
      subst unchanged
      exact ⟨active, rfl, .inl rfl, unreset⟩
  | managed changed =>
      rcases changed.sessions with ⟨_, same⟩ | revokes
      · refine ⟨?_, same.role, .inl same.password, unreset⟩
        rcases same.active active with stays | deleted
        · exact stays
        · simp [alive] at deleted
      · cases spares revokes
  | profile call exclude changes core asked profile =>
      refine ⟨profile.active active, profile.role, ?_, unreset⟩
      rcases profile.changed.sessions with ⟨_, same⟩ | revokes
      · exact .inl same.password
      · have excluded := spares revokes
        cases asked with
        | update payload dto =>
            exact .inr ⟨payload, dto, core,
              (Option.some.inj excluded).trans sameSession.symm⟩
        | confirmEmail | confirmNewEmail | resetPassword => cases excluded

theorem credentials_of_effect (effect : Effect runtime drawn commit earlier)
    (credentials : Credentials runtime earlier commit.before) :
    Credentials runtime (commit :: earlier) commit.after where
  users := sessionUsers_of_effect effect credentials.users
  kept := sessionsKept_of_effect effect credentials.kept
  inUse := by
    rintro session user ⟨member, live, userMember, sameUser, alive⟩
    rcases session_origin (sessions_of_effect effect) member with
      ⟨old, stored, continues, _⟩ | ⟨_, account, loggedIn⟩
    · obtain ⟨account, accountStored, accountId⟩ :=
        Table.find_isSome.mp (credentials.users old stored)
      rw [UserRow.key_eq] at accountId
      have same : user.id = account.id :=
        (sameUser.trans continues.userId).trans accountId.symm
      have undeleted : account.deletedAt = none := by
        cases accountStep effect accountStored userMember same with
        | same unchanged => exact unchanged ▸ alive
        | managed changed =>
            by_contra deleted
            have still :=
              changed.undeleted (Option.isSome_iff_ne_none.mpr deleted)
            simp [alive] at still
        | profile call exclude changes core asked profile =>
            by_contra deleted
            have still := profile.changed.undeleted
              (Option.isSome_iff_ne_none.mpr deleted)
            simp [alive] at still
      obtain ⟨active, keptSince⟩ := credentials.inUse old account
        ⟨stored, continues.live live, accountStored, accountId, undeleted⟩
      have keeps : KeepsCredentials runtime commit session account user :=
        keepsCredentials_of_effect effect stored (continues.live live) member
          continues.id live accountStored accountId active userMember same alive
      refine ⟨keeps.active, ?_⟩
      intro past logged there first firstStored firstId second secondStored
        secondId
      rcases List.mem_cons.mp logged with rfl | older
      · obtain rfl := Table.eq_of_key firstStored accountStored
          ((firstId.trans continues.userId).trans accountId.symm)
        obtain rfl := Table.eq_of_key secondStored userMember
          (secondId.trans sameUser.symm)
        exact keeps
      · rw [continues.id] at there
        rw [continues.userId] at firstId secondId
        obtain ⟨active, role, password, unreset⟩ := keptSince past older there
          first firstStored firstId second secondStored secondId
        refine ⟨active, role, password.imp_right ?_, unreset⟩
        rintro ⟨payload, dto, core, same⟩
        exact ⟨payload, dto, core, same.trans continues.id.symm⟩
    · rw [mem_users_nothing loggedIn.users] at userMember
      obtain rfl := Table.eq_of_key userMember loggedIn.stored
        (sameUser.trans loggedIn.userId)
      refine ⟨loggedIn.active, ?_⟩
      intro past logged there
      obtain ⟨row, stored, same⟩ := Table.find_isSome.mp there
      rcases List.mem_cons.mp logged with rfl | older
      · exact absurd same
          (Table.find_eq_none.mp loggedIn.freshId row stored)
      · exact absurd same
          (credentials.kept.unseen loggedIn.freshId older stored)

/-- A token is accepted for a session in use. -/
theorem inUse_of_identify {db : Db} {payload : JwtPayload}
    {identity : Identity}
    (accepted : JwtStrategy.identify db payload = some identity) :
    ∃ session user, InUse db session user ∧ session.id = payload.sessionId ∧
      user.id = payload.id := by
  simp only [JwtStrategy.identify, Option.map_eq_some_iff] at accepted
  obtain ⟨⟨roleId, resources⟩, found, _⟩ := accepted
  unfold JwtStrategy.account at found
  split at found
  · rename_i session user foundSession foundUser
    split at found
    · rename_i passes
      obtain ⟨live, owner, active⟩ := passes
      obtain ⟨stored, sameSession⟩ := Table.find_eq_some.mp foundSession
      obtain ⟨userStored, sameUser⟩ := Table.find_eq_some.mp foundUser
      exact ⟨session, user,
        ⟨stored, live, userStored, sameUser.trans owner.symm, active.1⟩,
        sameSession, sameUser⟩
    · cases found
  · cases found

/-- A session in use has an active account whose role and password are those
of the login, but for new passwords set from the session itself; and no token
is accepted that was issued before its account was suspended, deleted, reset
or given another role. -/
theorem credentials_of_reachable (environment : Environment)
    (admits : Request → Bool) (world : DbWorld) (config : DbConfig)
    (begins : Begins world) (users : SessionUsers world.db)
    (initial : ∀ session user, InUse world.db session user → user.Active)
    (reachable :
      (system environment admits).Reachable (.idle world) config) :
    (∀ session user, InUse config.world.db session user →
      user.statusId = some StatusId.active ∧
      ∀ past ∈ config.world.commits,
        (past.before.sessions.find session.id).isSome →
        ∀ old ∈ past.before.users, old.id = user.id →
        ∀ new ∈ past.after.users, new.id = user.id →
          new.roleId = old.roleId ∧
          (new.password = old.password ∨ OwnUpdate past session)) ∧
    ∀ payload identity,
      JwtStrategy.identify config.world.db payload = some identity →
      ∀ past ∈ config.world.commits,
        (past.before.sessions.find payload.sessionId).isSome →
        ∀ old ∈ past.before.users, old.id = payload.id →
        ∀ new ∈ past.after.users, new.id = payload.id →
          new.statusId = some StatusId.active ∧ new.deletedAt = none ∧
          new.roleId = old.roleId ∧
          ¬ResetsAccount environment.runtime past payload.id := by
  have run : Run environment False world.db config :=
    .of_reachable begins False.elim reachable
  have credentials : Credentials environment.runtime config.world.commits
      config.world.db := by
    refine Leads.induction
      (motive := fun commits db => Credentials environment.runtime commits db)
      run.leads run.legal ⟨users, by simp [SessionsKept], ?_⟩
      fun commit earlier _ credentials effect =>
        credentials_of_effect effect.1 credentials
    exact fun session user inUse =>
      ⟨initial session user inUse, by simp [KeptSince]⟩
  constructor
  · intro session user inUse
    obtain ⟨active, kept⟩ := credentials.inUse session user inUse
    refine ⟨active.2, ?_⟩
    intro past logged there old stored oldId new newStored newId
    rw [inUse.2.2.2.1] at oldId newId
    have keeps := kept past logged there old stored oldId new newStored newId
    exact ⟨keeps.role, keeps.password⟩
  · intro payload identity accepted past logged there old stored oldId new
      newStored newId
    obtain ⟨session, user, inUse, sameSession, sameUser⟩ :=
      inUse_of_identify accepted
    have owner := inUse.2.2.2.1
    have keeps := (credentials.inUse session user inUse).2 past logged
      (sameSession ▸ there) old stored (oldId.trans (sameUser.symm.trans owner))
      new newStored (newId.trans (sameUser.symm.trans owner))
    exact ⟨keeps.active.2, keeps.active.1, keeps.role, oldId ▸ keeps.unreset⟩

theorem sessionsWorld_users : SessionUsers sessionsWorld.db := by
  unfold SessionUsers
  decide

theorem sessionsWorld_active (session : SessionRow) (user : UserRow)
    (inUse : InUse sessionsWorld.db session user) : user.Active := by
  have active : ∀ user ∈ sessionsWorld.db.users, user.Active := by decide
  exact active user inUse.2.2.1

/-- Account 2 logs in and sets a password from the session it had before, which
ends the new session and keeps the other. -/
theorem credentials_of_reachable_updated :
    ∃ config : DbConfig,
      config.world.db.sessions.rows.map (·.deletedAt.isSome) =
        [false, false, false, true] ∧
      ∀ session user, InUse config.world.db session user →
        user.statusId = some StatusId.active :=
  ⟨(system Sample.environment fun _ => true).after
      (Sample.serve (.auth (.validateLogin "b" "b")) 9 8 ++
        Sample.serve (asCaller 2 (.update
          { password := some "bb", oldPassword := some "b" })) 1 9)
      (.idle sessionsWorld),
    by decide, fun session user inUse =>
      ((credentials_of_reachable _ _ _ _ sessionsWorld_begins
        sessionsWorld_users sessionsWorld_active
        (System.reachable_after _ _ _)).1 session user inUse).1⟩

end SaasFoundation
