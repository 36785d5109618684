import SaasFoundation.Users.Verification

/-!
# Sessions and `AuthService` follow the discipline

A login creates its session under the lock of the account, for the password it
has checked before.  A rotation is one statement on the session row, and so is
a logout.
-/

namespace SaasFoundation

open Relational Transaction Discipline Api

variable {environment : Environment} {drawn : Prop} {α β : Type}
  {post : α → DbContext → DbWorld → Prop}
  {failed : Failure → DbContext → DbWorld → Prop} {context : DbContext}
  {world : DbWorld}

/-- A commit that writes sessions only. -/
theorem sessions_guarantee {call : AuthCall}
    (inv : Invariant environment drawn world)
    (core : context.request.core = .auth call)
    (frame : OnlyAccounts context.writes) (users : context.writes.users = [])
    (sessions : ∀ change ∈ context.writes.sessions,
      SessionCovered context world change)
    (effect : AuthEffect environment.runtime drawn (world.record context)
      world.commits call) :
    (discipline environment drawn).Guarantee context world
      (world.commit context) := by
  refine guarantee inv ?_ (effect_of_auth core effect)
  exact
    { workspaces := by simp [frame.workspaces]
      members := by simp [frame.members]
      invitations := ⟨none, by simp [frame.invitations]⟩
      users := by simp [users]
      sessions
      credits := ⟨none, by simp [frame.credits]⟩
      entries := ⟨none, by simp [frame.entries]⟩ }

/-- A value drawn just now has not been a hash before. -/
theorem unissued_of_fresh {hash : Nat} (inv : Invariant environment drawn world)
    (unused : (Draw.randomBytes, hash) ∉ world.drawn) (all : drawn) :
    Unissued hash world.states := by
  rintro state member row stored rfl
  exact unused (inv.hashes all state member row stored)

namespace SessionRepository

theorem within_lockUser {id : Nat} {next : Option UserRow → Tx α}
    (clean : context.writes = ∅)
    (missing : ∀ now, Relies environment drawn context world now →
      Within environment drawn (next none) post failed context now)
    (step : ∀ now row, Relies environment drawn context world now →
      row ∈ now.db.users → row.id = id → row.deletedAt = none →
      Within environment drawn (next (some row)) post failed
        (context.extend [(.user id, .update)] ∅) now) :
    Within environment drawn (lockUser id >>= next) post failed context
      world := by
  refine within_select fun now rely => ?_
  rw [view_clean clean]
  cases found : (now.db.users.find id).filter (·.deletedAt.isNone) with
  | none => simpa using missing now rely
  | some row =>
      obtain ⟨stored, live⟩ := Option.filter_eq_some_iff.mp found
      obtain ⟨member, sameId⟩ := Table.find_eq_some.mp stored
      simpa using step now row rely member sameId (by simpa using live)

theorem within_insertSession {id userId hash : Nat} {next : Unit → Tx α}
    (rejected : ∀ later now failure, failed failure later now)
    (step : ∀ now, Relies environment drawn context world now →
      (now.view context).sessions.find id = none →
      Within environment drawn (next ()) post failed
        (context.extend []
          { sessions := [.put { id, userId, hash, deletedAt := none }] })
        now) :
    Within environment drawn (insertSession id userId hash >>= next) post
      failed context world := by
  refine within_execute (fun now _ failure _ => rejected _ now failure) ?_
  intro now rely value writes stepped
  split at stepped
  · cases stepped
  · rename_i absent
    split at stepped
    · cases stepped
    · cases stepped
      exact step now rely (by simpa using absent)

/-- `stored` is the hash the password was compared with. -/
theorem verify_create {email password stored : String} {user hash : Nat}
    (core : context.request.core = .auth (.validateLogin email password))
    (clean : context.writes = ∅)
    (compared : environment.runtime.bcryptCompare password stored = true)
    (owned : (Draw.randomBytes, hash) ∈ context.owned)
    (recorded : (Draw.randomBytes, hash) ∈ world.drawn)
    (unissued : drawn → Unissued hash world.states) :
    Wp environment drawn (create user (some stored) hash)
      (fun _ _ _ => True) (fun _ _ _ => True) context world := by
  refine wp_opened fun opened start same rely => ?_
  have openedClean : opened.writes = ∅ := same.writes.trans clean
  have request : opened.request.core =
      .auth (.validateLogin email password) :=
    (congrArg Request.core same.request).trans core
  have ownedHere : (Draw.randomBytes, hash) ∈ opened.owned :=
    same.owned ▸ owned
  have recordedHere : (Draw.randomBytes, hash) ∈ start.drawn :=
    (kept_always rely).drawn _ recorded
  have unissuedHere : drawn → Unissued hash start.states := fun all =>
    rely.keeps (.value .randomBytes hash) owned (unissued all)
  refine within_relies rely.inv ?_
  refine within_lockUser openedClean (fun _ _ _ => trivial) ?_
  intro now1 row rely1 member sameId live
  dsimp only
  split
  · exact fun _ => trivial
  rename_i unchanged
  push Not at unchanged
  refine within_hold (.lock (.user user) .update) (by simp [Context.Has])
    rely1.inv ?_
  refine within_fresh fun now2 rely2 id _ _ => ?_
  refine within_insertSession (fun _ _ _ _ _ => trivial) ?_
  intro now3 rely3 absent
  have unused : now3.db.sessions.find id = none := by
    simpa [World.view, openedClean] using absent
  refine within_hold (.value .sessionId id) (by simp [Context.Has])
    rely3.inv ?_
  refine within_done fun now4 rely4 fresh exclusive keeps => ⟨?_, trivial⟩
  have present : (now1.db.users.find user).isSome :=
    Table.find_isSome.mpr ⟨row, member, sameId⟩
  have memberLater : row ∈ now4.db.users := by
    refine (Table.find_eq_some.mp ((exclusive present).row.trans ?_)).1
    exact sameId ▸ Table.find_key member
  have gone : now4.db.sessions.find id = none := fresh unused
  have recordedLater : (Draw.randomBytes, hash) ∈ now4.drawn :=
    Kept.drawn (keeps .always trivial) _ recordedHere
  refine sessions_guarantee rely4.inv request ?_ ?_ ?_ ?_
  · constructor <;> simp [openedClean]
  · simp [openedClean]
  · simp [openedClean]
    exact .insert _ gone (by simp) (by simp) ⟨by simp [ownedHere],
      recordedLater⟩
  · refine ⟨row, { id, userId := user, hash, deletedAt := none }, ?_, ?_⟩
    · exact
        { stored := memberLater
          active := ⟨live, unchanged.1⟩
          password := ⟨stored, unchanged.2, compared⟩
          userId := sameId.symm
          live := rfl
          freshId := gone
          users := by simp [World.record, openedClean]
          sessions := by simp [World.record, openedClean]
          frame := by constructor <;> simp [World.record, openedClean] }
    · exact fun all =>
        keeps (.value .randomBytes hash) ownedHere (unissuedHere all)

theorem matchesHash_eq_some {db : Db} {id hash : Nat} {row : SessionRow} :
    matchesHash db id hash = some row ↔
      row ∈ db.sessions ∧ row.id = id ∧ row.hash = hash ∧
        row.deletedAt = none := by
  simp only [matchesHash, Option.filter_eq_some_iff, Table.find_eq_some,
    SessionRow.key_eq, decide_eq_true_eq, and_assoc]

theorem verify_rotate {sessionId hash next : Nat}
    (core : context.request.core = .auth (.refreshToken sessionId hash))
    (clean : context.writes = ∅)
    (owned : (Draw.randomBytes, next) ∈ context.owned)
    (recorded : (Draw.randomBytes, next) ∈ world.drawn)
    (unissued : drawn → Unissued next world.states) :
    Wp environment drawn (rotate sessionId hash next)
      (fun affected later now => Invariant environment drawn now ∧
        later.request.core = .auth (.refreshToken sessionId hash) ∧
        (affected ≠ 0 → ∃ commit ∈ now.commits, commit.tid = later.tid ∧
          Accepts commit sessionId hash next))
      (fun _ _ _ => True) context world := by
  refine wp_opened fun opened start same rely => ?_
  have openedClean : opened.writes = ∅ := same.writes.trans clean
  have request : opened.request.core =
      .auth (.refreshToken sessionId hash) :=
    (congrArg Request.core same.request).trans core
  have ownedHere : (Draw.randomBytes, next) ∈ opened.owned :=
    same.owned ▸ owned
  have recordedHere : (Draw.randomBytes, next) ∈ start.drawn :=
    (kept_always rely).drawn _ recorded
  have unissuedHere : drawn → Unissued next start.states := fun all =>
    rely.keeps (.value .randomBytes next) owned (unissued all)
  refine within_relies rely.inv ?_
  by_cases fits : fitsInteger sessionId = true
  swap
  · refine within_last (within_execute (by simp [fits]) ?_)
    intro now1 rely1 affected writes stepped
    rw [if_neg fits] at stepped
    cases stepped
  refine within_last (within_execute (by simp [fits]) ?_)
  intro now1 rely1 affected writes stepped
  rw [if_pos fits] at stepped
  cases stepped
  rw [view_clean openedClean]
  simp only [fits, if_true]
  cases found : matchesHash now1.db sessionId hash with
  | none =>
      refine within_done fun now2 rely2 keepsStart => guarantee_and ?_
        fun inv => ⟨inv, request, by simp⟩
      have unissuedLater : drawn → Unissued next now2.states := fun all =>
        keepsStart (.value .randomBytes next) ownedHere (unissuedHere all)
      refine sessions_guarantee rely2.inv request ?_ ?_ ?_
        ⟨next, ⟨?_, .inl ?_, ?_⟩, unissuedLater⟩
      · constructor <;> simp [openedClean]
      · simp [openedClean]
      · simp [openedClean]
      · simp [World.record, openedClean]
      · simp [World.record, openedClean]
      · constructor <;> simp [World.record, openedClean]
  | some row =>
      obtain ⟨stored, sameId, sameHash, live⟩ := matchesHash_eq_some.mp found
      refine within_hold (.lock (.session row.id) .update)
        (by simp [Context.Has]) rely1.inv ?_
      refine within_done fun now2 rely2 keeps keepsStart => ?_
      have recordedLater : (Draw.randomBytes, next) ∈ now2.drawn :=
        Kept.drawn (keepsStart .always trivial) _ recordedHere
      have unissuedLater : drawn → Unissued next now2.states := fun all =>
        keepsStart (.value .randomBytes next) ownedHere (unissuedHere all)
      have foundLater : now2.db.sessions.find row.id = some row :=
        (keeps (Table.find_isSome.mpr ⟨row, stored, rfl⟩)).trans
          (Table.find_key stored)
      have storedLater : row ∈ now2.db.sessions :=
        (Table.find_eq_some.mp foundLater).1
      have accepts : ∀ commit : DbCommit, commit.before = now2.db →
          commit.writes.sessions = [.put { row with hash := next }] →
          Accepts commit sessionId hash next := by
        intro commit before writes
        refine ⟨row, ?_, writes⟩
        rw [before]
        exact matchesHash_eq_some.mpr ⟨storedLater, sameId, sameHash, live⟩
      refine guarantee_and ?_ fun inv => ⟨inv, request, fun _ =>
        ⟨_, List.mem_cons_self, rfl, accepts _ rfl ?_⟩⟩
      · refine sessions_guarantee rely2.inv request ?_ ?_ ?_
          ⟨next, ⟨?_, .inr (accepts _ rfl ?_), ?_⟩, unissuedLater⟩
        · constructor <;> simp [openedClean]
        · simp [openedClean]
        · simp [openedClean]
          exact .update _ row storedLater rfl rfl (by simp) (fun _ => live)
            (.inr ⟨by simp [ownedHere], recordedLater⟩)
        · simp [World.record, openedClean]
        · simp [World.record, openedClean]
        · constructor <;> simp [World.record, openedClean]
      · simp [World.record, openedClean]

theorem verify_deleteById {sessionId : Nat}
    (core : context.request.core = .auth (.logout sessionId))
    (clean : context.writes = ∅) :
    Wp environment drawn (deleteById sessionId) (fun _ _ _ => True)
      (fun _ _ _ => True) context world := by
  refine wp_opened fun opened start same rely => ?_
  have openedClean : opened.writes = ∅ := same.writes.trans clean
  have request : opened.request.core = .auth (.logout sessionId) :=
    (congrArg Request.core same.request).trans core
  refine within_last (within_execute ?_ ?_)
  · intro now rely failure stepped
    split at stepped <;> cases stepped
  intro now1 rely1 value writes stepped
  rw [view_clean openedClean] at stepped ⊢
  cases found : now1.db.sessions.find sessionId with
  | none =>
      simp only [found] at stepped
      cases stepped
      refine within_done fun now2 rely2 => ⟨?_, trivial⟩
      refine sessions_guarantee rely2.inv request ?_ ?_ ?_ ⟨?_, .inl ?_, ?_⟩
      · constructor <;> simp [openedClean]
      · simp [openedClean]
      · simp [openedClean]
      · simp [World.record, openedClean]
      · simp [World.record, openedClean]
      · constructor <;> simp [World.record, openedClean]
  | some row =>
      simp only [found] at stepped
      cases stepped
      obtain ⟨stored, sameId⟩ := Table.find_eq_some.mp found
      refine within_hold (.lock (.session sessionId) .update)
        (by simp [Context.Has]) rely1.inv ?_
      refine within_done fun now2 rely2 keeps => ⟨?_, trivial⟩
      have foundLater : now2.db.sessions.find sessionId = some row :=
        (keeps (by simp [found])).trans found
      refine sessions_guarantee rely2.inv request ?_ ?_ ?_
        ⟨?_, .inr ⟨row, foundLater, ?_⟩, ?_⟩
      · constructor <;> simp [openedClean]
      · simp [openedClean]
      · have id : row.id = sessionId := sameId
        simp [openedClean]
        exact .update _ row (Table.find_eq_some.mp foundLater).1 rfl rfl
          (by simp [id]) (by simp) (.inl rfl)
      · simp [World.record, openedClean]
      · simp [World.record, openedClean]
      · constructor <;> simp [World.record, openedClean]

end SessionRepository

theorem UserRepository.verify_remove {payload : JwtPayload} {id : Nat}
    (core : context.request.core = .auth (.softDelete payload))
    (self : payload.id = id) (clean : context.writes = ∅) :
    Wp environment drawn (UserRepository.remove environment.runtime id)
      (fun _ _ _ => True) (fun _ _ _ => True) context world := by
  refine wp_mapError (wp_opened fun opened start same rely => ?_)
  have openedClean : opened.writes = ∅ := same.writes.trans clean
  have request : opened.request.core = .auth (.softDelete payload) :=
    (congrArg Request.core same.request).trans core
  refine within_last (within_softDeleteUser openedClean
    (fun _ _ _ => trivial) ?_ ?_)
  · intro now1 rely1 _
    refine within_done fun now2 rely2 => ⟨?_, trivial⟩
    refine sessions_guarantee rely2.inv request ?_ ?_ ?_ (.inr openedClean)
    · constructor <;> simp [openedClean]
    · simp [openedClean]
    · simp [openedClean]
  · intro now1 old locks rely1 sameId guarded
    refine within_relies rely1.inv ?_
    refine within_done fun now2 rely2 keeps => ⟨?_, trivial⟩
    have deletion : opened.request.selfDeletion = some old.id := by
      simp [Request.selfDeletion, request, sameId, self]
    have noSessions : Revocation (opened.extend locks
        { users := [.put (deletedUser opened.now old)] }) now1.db id [] none :=
      rfl
    refine changed_guarantee rely2.inv rely1.inv.sound keeps (.refl _) rfl
      (guarded.grow grows_writes) sameId noSessions (by simp [openedClean])
      (.inr (by simp [openedClean])) (fun _ => rfl)
      (fun _ => ⟨rfl, rfl, fun _ => .inr rfl⟩) ?_ ?_ ?_ fun changed _ =>
        effect_of_auth request
          (.inl ⟨old, _, changed, sameId.trans self.symm,
            by simp [World.record, openedClean], rfl⟩)
    · exact fun other same => by cases same
    · constructor <;> simp [openedClean]
    · exact fun _ _ => .inr deletion

namespace AuthService

theorem quiet_linkSubject {runtime : Runtime} {hash : String}
    {field : LinkClaims → Option ClaimValue} :
    (linkSubject runtime hash field).Quiet fun id : Nat =>
      (runtime.decode hash).bind field = some (.integer id) := by
  unfold linkSubject
  split
  · rename_i id found
    split
    · rename_i inRange
      refine Program.Quiet.done ?_
      rw [found, Int.toNat_of_nonneg (Int.le_of_lt inRange.1)]
    · trivial
  · trivial

theorem quiet_mailLink {runtime : Runtime} {recipient : String}
    {claims : LinkClaims} {secret : LinkSecret} :
    (mailLink runtime recipient claims secret).Quiet fun _ => True := by
  unfold mailLink
  split <;> trivial

theorem quiet_readConfirmation {runtime : Runtime} {hash : String}
    {user : User} :
    (readConfirmation runtime hash user).Quiet fun newEmail => ∃ claims,
      runtime.verify hash (confirmationSecret user) = some claims ∧
        claims.newEmail = newEmail := by
  unfold readConfirmation
  split
  · trivial
  · rename_i claims verified
    exact ⟨claims, verified, rfl⟩

/-- A link is consumed by a modest change of its subject. -/
theorem verify_consumeLink {call : AuthCall} {hash : String}
    {field : LinkClaims → Option ClaimValue}
    {prepare : User → Tx (Mutation UpdateUserDto)}
    {asks : User → Mutation UpdateUserDto → Prop}
    (inv : Invariant environment drawn world)
    (core : context.request.core = .auth call) (clean : context.writes = ∅)
    (quiet : ∀ current, (prepare current).Quiet fun mutation =>
      UsersService.ModestRequest none mutation ∧ asks current mutation)
    (effect : ∀ (commit : DbCommit) earlier old new mutation changes,
      (environment.runtime.decode hash).bind field = some (.integer old.id) →
      asks (UserMapper.toDomain old) mutation →
      UsersService.Prepares environment.runtime mutation.changes changes →
      ProfileChanged commit old new none changes →
      (mutation.revokeSessions.isSome → Revokes commit old.id none) →
      AuthEffect environment.runtime drawn commit earlier call) :
    Wp environment drawn
      (linkSubject environment.runtime hash field >>= fun id =>
        consumeLink environment.runtime id prepare)
      (fun _ _ _ => True) (fun _ _ _ => True) context world := by
  refine wp_then (wp_quiet quiet_linkSubject inv (fun _ _ _ => trivial) ?_)
  intro id later now still _ subject
  have request : later.request.core = .auth call :=
    (congrArg Request.core still.request).trans core
  refine wp_mapError (wp_then ?_)
  refine UsersService.verify_updateAtomically request
    (still.writes.trans clean) quiet ?_
  intro commit earlier old new mutation changes sameId
  exact effect commit earlier old new mutation changes (sameId ▸ subject)

theorem verify_confirmEmail {hash : String}
    (inv : Invariant environment drawn world)
    (core : context.request.core = .auth (.confirmEmail hash))
    (clean : context.writes = ∅) :
    Wp environment drawn (confirmEmail environment.runtime hash)
      (fun _ _ _ => True) (fun _ _ _ => True) context world := by
  let asks : User → Mutation UpdateUserDto → Prop := fun user mutation =>
    mutation.changes = { status := some StatusId.active } ∧
      user.status = some StatusId.pendingVerification ∧ ∃ claims,
        environment.runtime.verify hash (confirmationSecret user) =
          some claims ∧ given claims.newEmail = none
  have quiet : ∀ user : User, (do
        let newEmail ← readConfirmation environment.runtime hash user
        if (given newEmail).isSome ∨
            user.status ≠ some StatusId.pendingVerification then
          Tx.throw invalidConfirmation
        else pure { changes := { status := some StatusId.active } } :
          Tx (Mutation UpdateUserDto)).Quiet fun mutation =>
      UsersService.ModestRequest none mutation ∧
        asks user mutation := by
    intro user
    refine quiet_readConfirmation.bind fun newEmail read => ?_
    obtain ⟨claims, verified, rfl⟩ := read
    split
    · trivial
    · rename_i pending
      push Not at pending
      exact ⟨⟨rfl, .inr rfl, by simp, by simp⟩, rfl, pending.2, claims,
        verified, by simpa using pending.1⟩
  refine verify_consumeLink inv core clean quiet ?_
  rintro commit earlier old new ⟨_, sessions⟩ changes subject
    ⟨rfl, pending, signed⟩ ⟨stored, hashed, rfl⟩ changed _
  have none : stored = none := hashed
  subst none
  exact ⟨old, new, changed, pending, subject, signed⟩

/-- What the callback of `confirmNewEmail` asks for. -/
theorem quiet_newEmail {runtime : Runtime} {hash : String} (user : User) :
    (do
      let newEmail ← readConfirmation runtime hash user
      match given newEmail with
      | none => Tx.throw invalidConfirmation
      | some newEmail =>
          if user.status ≠ some StatusId.active then
            Tx.throw invalidConfirmation
          else
            pure { changes := { email := some (some newEmail) }
                   revokeSessions := some none } :
        Tx (Mutation UpdateUserDto)).Quiet fun mutation =>
    UsersService.ModestRequest none mutation ∧ ∃ email,
      mutation = { changes := { email := some (some email) }
                   revokeSessions := some none } ∧
        user.status = some StatusId.active ∧ ∃ claims,
          runtime.verify hash (confirmationSecret user) = some claims ∧
            given claims.newEmail = some email := by
  refine quiet_readConfirmation.bind fun newEmail read => ?_
  obtain ⟨claims, verified, rfl⟩ := read
  cases found : given claims.newEmail with
  | none => trivial
  | some email =>
      dsimp only
      split
      · trivial
      · rename_i active
        exact ⟨⟨rfl, .inl rfl, by simp, by simp⟩, email, rfl,
          of_not_not active, claims, verified, found⟩

theorem verify_confirmNewEmail {hash : String}
    (inv : Invariant environment drawn world)
    (core : context.request.core = .auth (.confirmNewEmail hash))
    (clean : context.writes = ∅) :
    Wp environment drawn (confirmNewEmail environment.runtime hash)
      (fun _ _ _ => True) (fun _ _ _ => True) context world := by
  refine verify_consumeLink inv core clean quiet_newEmail ?_
  rintro commit earlier old new mutation changes subject
    ⟨email, rfl, active, signed⟩ ⟨stored, hashed, rfl⟩ changed revokes
  have none : stored = none := hashed
  subst none
  exact ⟨old, new, email, changed, active, ⟨subject, signed⟩, revokes rfl⟩

/-- What the callback of `resetPassword` asks for. -/
theorem quiet_newPassword {runtime : Runtime} {hash password : String}
    (user : User) :
    (match runtime.verify hash (getForgotSecret user) with
      | none => Tx.throw invalidHash
      | some _ =>
          pure { changes := { password := some password }
                 revokeSessions := some none } :
        Tx (Mutation UpdateUserDto)).Quiet fun mutation =>
    UsersService.ModestRequest none mutation ∧
      mutation = { changes := { password := some password }
                   revokeSessions := some none } ∧
        (runtime.verify hash (getForgotSecret user)).isSome := by
  cases verified : runtime.verify hash (getForgotSecret user) with
  | none => trivial
  | some claims =>
      exact ⟨⟨rfl, .inl rfl, by simp, by simp⟩, rfl, by simp⟩

theorem verify_resetPassword {hash password : String}
    (inv : Invariant environment drawn world)
    (core : context.request.core = .auth (.resetPassword hash password))
    (clean : context.writes = ∅) :
    Wp environment drawn (resetPassword environment.runtime hash password)
      (fun _ _ _ => True) (fun _ _ _ => True) context world := by
  refine verify_consumeLink inv core clean quiet_newPassword ?_
  rintro commit earlier old new mutation changes subject ⟨rfl, signed⟩
    ⟨stored, hashed, rfl⟩ changed revokes
  exact ⟨old, new, stored, changed, hashed, ⟨subject, signed⟩, revokes rfl⟩

theorem quiet_checkOldPassword {runtime : Runtime} {dto : AuthUpdateDto}
    {current : User} :
    (checkOldPassword runtime dto current).Quiet fun _ => True := by
  unfold checkOldPassword
  split
  · trivial
  · split
    · trivial
    · split
      · trivial
      · split <;> trivial

theorem quiet_checkNewEmail {email : Option String} {current : User} :
    (checkNewEmail email current).Quiet fun _ => True := by
  unfold checkNewEmail
  split
  · trivial
  · refine UserRepository.quiet_findByEmail.bind fun found _ => ?_
    split
    · trivial
    · split <;> trivial

/-- What a profile request asks of `updateAtomically`. -/
def profileRequest (dto : AuthUpdateDto) : UpdateUserDto :=
  { photo := dto.photo, firstName := dto.firstName, lastName := dto.lastName
    password := dto.password }

/-- A new password ends the other sessions of the account. -/
theorem quiet_prepareUpdate {runtime : Runtime} {payload : JwtPayload}
    {dto : AuthUpdateDto} {current : User} :
    (prepareUpdate runtime payload dto current).Quiet fun mutation =>
      UsersService.ModestRequest (some payload.sessionId) mutation ∧
        mutation.changes = profileRequest dto ∧
        ((given dto.password).isSome → mutation.revokeSessions.isSome) := by
  refine quiet_checkOldPassword.bind fun _ _ => ?_
  refine quiet_checkNewEmail.bind fun _ _ => ?_
  refine ⟨⟨rfl, .inl rfl, ?_, ?_⟩, rfl, by simp⟩
  · intro nonempty
    cases given : dto.password with
    | none => simp [given] at nonempty
    | some password =>
        have different : password ≠ "" := by simpa [given] using nonempty
        simp [AuthService.given, different]
  · intro other same
    obtain ⟨_, _, rfl⟩ := Option.map_eq_some_iff.mp same
    rfl

/-- `identity` is the payload the guards attached: the same account and
session, the role read anew. -/
theorem verify_update {payload identity : JwtPayload} {dto : AuthUpdateDto}
    (core : context.request.core = .auth (.update payload dto))
    (sameId : identity.id = payload.id)
    (sameSession : identity.sessionId = payload.sessionId)
    (clean : context.writes = ∅) :
    Wp environment drawn (update environment.runtime identity dto)
      (fun _ _ _ => True) (fun _ _ _ => True) context world := by
  let asks : User → Mutation UpdateUserDto → Prop := fun _ mutation =>
    mutation.changes = profileRequest dto ∧
      ((given dto.password).isSome → mutation.revokeSessions.isSome)
  have quiet : ∀ current,
      (prepareUpdate environment.runtime identity dto current).Quiet
        fun mutation =>
          UsersService.ModestRequest (some identity.sessionId) mutation ∧
            asks current mutation := fun _ => quiet_prepareUpdate
  refine wp_then (wp_mono (UsersService.verify_updateAtomically core clean quiet
    ?_) ?_ fun _ _ _ _ => trivial)
  · rintro commit earlier old new ⟨_, sessions⟩ changes id ⟨rfl, ends⟩
      ⟨stored, hashed, rfl⟩ changed revokes
    rw [sameSession] at changed revokes
    exact ⟨old, new, stored, id.trans sameId, changed, hashed,
      fun given => revokes (ends given)⟩
  · intro updated later now _
    have mailing : ∀ newEmail, (do
        mailNewEmail environment.runtime updated newEmail
        pure updated : Tx User).Quiet fun _ => True :=
      fun _ => quiet_mailLink.bind fun _ _ => trivial
    split
    · trivial
    · exact wp_idle (mailing _)

theorem verify_validateLogin {email password : String}
    (inv : Invariant environment drawn world)
    (core : context.request.core = .auth (.validateLogin email password))
    (clean : context.writes = ∅) :
    Wp environment drawn
      (validateLogin environment.runtime environment.config email password)
      (fun _ _ _ => True) (fun _ _ _ => True) context world := by
  refine wp_then (wp_quiet UserRepository.quiet_findByEmail inv
    (fun _ _ _ => trivial) ?_)
  intro found later now still _ _
  have request : later.request.core =
      .auth (.validateLogin email password) :=
    (congrArg Request.core still.request).trans core
  split
  · trivial
  rename_i user
  split
  · trivial
  split
  · trivial
  rename_i stored storedFound
  split
  · trivial
  rename_i compared
  split
  · trivial
  have current : user.password = some stored :=
    (Option.filter_eq_some_iff.mp storedFound).1
  refine wp_fresh fun now1 rely1 hash _ unused => wp_then ?_
  rw [current]
  refine wp_mono (SessionRepository.verify_create request
    (still.writes.trans clean) (by simpa using compared) ?_ ?_ ?_)
    (fun _ _ _ _ => trivial) fun _ _ _ _ => trivial
  · exact List.mem_cons_self
  · exact List.mem_cons_self
  · have unissued := fun all : drawn => unissued_of_fresh rely1.inv unused all
    exact unissued

theorem verify_register {dto : AuthRegisterLoginDto}
    (inv : Invariant environment drawn world)
    (core : context.request.core = .auth (.register dto))
    (clean : context.writes = ∅) :
    Wp environment drawn
      (register environment.runtime environment.config dto)
      (fun _ _ _ => True) (fun _ _ _ => True) context world := by
  simp only [register, UsersService.create, bind_assoc]
  refine wp_then (wp_quiet UsersService.quiet_prepareChanges inv
    (fun _ _ _ => trivial) ?_)
  rintro changes later now still _ ⟨stored, _, rfl⟩
  have request : later.request.core = .auth (.register dto) :=
    (congrArg Request.core still.request).trans core
  refine wp_then (wp_mono (UserRepository.verify_create request
    (still.writes.trans clean) ?_) ?_ fun _ _ _ _ => trivial)
  · exact fun commit earlier id inserted => ⟨_, inserted, rfl, rfl, rfl, rfl⟩
  · intro user last final _
    split
    · exact wp_idle quiet_mailLink
    · trivial

theorem verify_resendConfirmation {email : String} :
    Wp environment drawn (resendConfirmation environment.runtime email)
      (fun _ _ _ => True) (fun _ _ _ => True) context world := by
  have quiet : (resendConfirmation environment.runtime email).Quiet
      fun _ => True := by
    refine UserRepository.quiet_findByEmail.bind fun found _ => ?_
    split
    · trivial
    · split
      · trivial
      · exact quiet_mailLink
  exact wp_idle quiet

theorem verify_forgotPassword {email : String} :
    Wp environment drawn
      (forgotPassword environment.runtime environment.config email)
      (fun _ _ _ => True) (fun _ _ _ => True) context world := by
  have quiet : (forgotPassword environment.runtime environment.config
      email).Quiet fun _ => True := by
    refine UserRepository.quiet_findByEmail.bind fun found _ => ?_
    split
    · split <;> trivial
    · exact quiet_mailLink
  exact wp_idle quiet

theorem verify_refreshToken {sessionId hash : Nat}
    (core : context.request.core = .auth (.refreshToken sessionId hash))
    (clean : context.writes = ∅) :
    Wp environment drawn (refreshToken sessionId hash)
      (fun tokens later now => ∃ commit ∈ now.commits,
        commit.tid = later.tid ∧ Accepts commit sessionId hash tokens.hash)
      (fun _ _ _ => True) context world := by
  refine wp_fresh fun now1 rely1 next _ unused => ?_
  have unissued := fun all : drawn => unissued_of_fresh rely1.inv unused all
  simp only [SessionRepository.updateByHash, bind_assoc]
  refine wp_then (wp_mono (SessionRepository.verify_rotate core clean
    List.mem_cons_self List.mem_cons_self unissued) ?_
    fun _ _ _ failed => failed)
  rintro affected later now ⟨inv, _, accepted⟩
  split
  · trivial
  rename_i rotated
  have answer : ∀ found : Option (SessionRow × Option UserRow),
      (answerRotation next found).Quiet fun tokens => tokens.hash = next := by
    intro found
    unfold answerRotation
    split
    · trivial
    · trivial
    · refine UserRepository.quiet_findById.bind fun user _ => ?_
      split
      · trivial
      · split
        · trivial
        · rfl
  have found : (SessionRepository.findSession sessionId).Quiet fun _ => True :=
    quiet_query fun _ _ => trivial
  refine wp_quiet (found.bind fun found _ => answer found) inv
    (fun _ _ _ => trivial) ?_
  intro tokens final last still rely same
  obtain ⟨commit, member, tid, accepts⟩ := accepted rotated
  exact ⟨commit, (kept_always rely).commits.subset member,
    tid.trans still.tid.symm, same ▸ accepts⟩

theorem verify_logout {sessionId : Nat}
    (core : context.request.core = .auth (.logout sessionId))
    (clean : context.writes = ∅) :
    Wp environment drawn (logout sessionId) (fun _ _ _ => True)
      (fun _ _ _ => True) context world :=
  SessionRepository.verify_deleteById core clean

theorem verify_softDelete {payload identity : JwtPayload}
    (core : context.request.core = .auth (.softDelete payload))
    (sameId : payload.id = identity.id) (clean : context.writes = ∅) :
    Wp environment drawn (softDelete environment.runtime identity)
      (fun _ _ _ => True) (fun _ _ _ => True) context world := by
  unfold softDelete
  split
  · trivial
  · exact UserRepository.verify_remove core sameId clean

end AuthService

/-- The guard passes the payload on with the role it has read. -/
theorem JwtStrategy.quiet_validate {payload : JwtPayload} :
    (JwtStrategy.validate payload).Quiet fun identity =>
      identity.payload.id = payload.id ∧
        identity.payload.sessionId = payload.sessionId := by
  have looked : (Tx.query fun _ db => identify db payload).Quiet fun found =>
      ∀ identity ∈ found, identity.payload.id = payload.id ∧
        identity.payload.sessionId = payload.sessionId := by
    refine quiet_query fun _ db identity found => ?_
    obtain ⟨_, _, rfl⟩ := Option.map_eq_some_iff.mp found
    exact ⟨rfl, rfl⟩
  refine looked.bind fun found same => ?_
  split
  · trivial
  · exact same _ rfl

end SaasFoundation
