import SaasFoundation.Auth.Uniformity

/-!
# What a presented refresh token comes to

The hash of a session is replaced before the account is read again.  Where the
account is gone, suspended or without a role, the request fails with the old
token used up.
-/

namespace SaasFoundation

open Relational Transaction Tx

namespace AuthService

open SessionRepository (matchesHash)

variable {moment : Moment} {sessionId hash : Nat}

/-- New tokens for the replaced hash of a session, or a rejection that leaves
every session as it was. -/
def Exchanges (moment : Moment) (sessionId hash : Nat) :
    Except Failure Tokens × Db → Prop
  | (.ok tokens, after) =>
      ∃ row, matchesHash moment.db sessionId hash = some row ∧
        tokens.sessionId = row.id ∧ tokens.userId = row.userId ∧
        tokens.hash = moment.draws 0 ∧
        after =
          { moment.db with
            sessions := moment.db.sessions.put
              { row with hash := moment.draws 0 } }
  | (.error failure, after) =>
      failure = .unauthorized ∧ after.sessions = moment.db.sessions

/-- The identifier is one of an integer column, and if the token is the
current one of a session, its account is active and has a role. -/
def Exchangeable (db : Db) (sessionId hash : Nat) : Prop :=
  fitsInteger sessionId = true ∧
    ∀ row, matchesHash db sessionId hash = some row →
      ∃ user, UserRepository.liveUser db row.userId = some user ∧
        user.statusId = some StatusId.active ∧ user.roleId ≠ none

/-- The database after the rotation. -/
def rotated (moment : Moment) (row : SessionRow) : Db :=
  { moment.db with
    sessions := moment.db.sessions.put { row with hash := moment.draws 0 } }

section Rotated

variable {row : SessionRow}
  (current : matchesHash moment.db sessionId hash = some row)

include current

theorem find_rotated :
    (rotated moment row).sessions.find sessionId =
      some { row with hash := moment.draws 0 } := by
  obtain ⟨_, rfl, _⟩ := SessionRepository.matchesHash_eq_some.mp current
  exact Table.find_put.trans (if_pos rfl)

theorem rotated_changed (unused : row.hash ≠ moment.draws 0) :
    (rotated moment row).sessions ≠ moment.db.sessions := by
  intro same
  obtain ⟨stored, rfl, _⟩ := SessionRepository.matchesHash_eq_some.mp current
  have found := find_rotated current
  rw [same, ← SessionRow.key_eq, Table.find_key stored] at found
  injection found with found
  exact unused (congrArg SessionRow.hash found)

variable {stand : Stand Db Writes} (seen : stand.view = rotated moment row)

include seen

theorem serially_findSession
    {post : Option (SessionRow × Option UserRow) → Stand Db Writes → Prop}
    {failed : Failure → Db → Prop} :
    (SessionRepository.findSession sessionId).serially moment.clock post failed
        stand ↔
      post (some ({ row with hash := moment.draws 0 },
        UserRepository.liveUser moment.db row.userId)) stand := by
  obtain ⟨_, _, _, live⟩ := SessionRepository.matchesHash_eq_some.mp current
  have present : ((rotated moment row).sessions.find sessionId).filter
      (·.deletedAt.isNone) = some { row with hash := moment.draws 0 } := by
    rw [find_rotated current]
    simp [Option.filter_some, live]
  rw [SessionRepository.findSession, serially_query, seen, present]
  rfl

/-- After the rotation no failure leaves the sessions as they were. -/
theorem exchanges_answerRotation (unused : row.hash ≠ moment.draws 0)
    (stored : stand.db = rotated moment row) :
    (answerRotation (moment.draws 0)
        (some ({ row with hash := moment.draws 0 },
          UserRepository.liveUser moment.db row.userId))).serially moment.clock
        (fun tokens later => Exchanges moment sessionId hash
          (.ok tokens, later.db))
        (fun failure db => Exchanges moment sessionId hash
          (.error failure, db)) stand ↔
      ∃ user, UserRepository.liveUser moment.db row.userId = some user ∧
        user.statusId = some StatusId.active ∧ user.roleId ≠ none := by
  have changed := rotated_changed current unused
  cases found : UserRepository.liveUser moment.db row.userId with
  | none => simp [answerRotation, Exchanges, Failure.unauthorized]
  | some user =>
      have sameId : user.id = row.userId := by
        have stored := (Option.filter_eq_some_iff.mp found).1
        exact (Table.find_eq_some.mp stored).2
      have read : (UserRepository.liveUser stand.view user.id).map
          UserMapper.toDomain = some (UserMapper.toDomain user) := by
        have again : UserRepository.liveUser (rotated moment row) row.userId =
            some user := found
        rw [seen, sameId, again]
        rfl
      simp only [answerRotation, Program.serially_bind,
        UserRepository.findById, serially_query]
      rw [read]
      by_cases active : user.statusId = some StatusId.active
      · cases role : user.roleId with
        | none =>
            simp [Option.filter_some, UserMapper.toDomain, active, role,
              Exchanges, stored, changed]
        | some role =>
            simp [Option.filter_some, UserMapper.toDomain, active, role,
              Exchanges, stored, current, sameId, rotated]
      · simp [Option.filter_some, UserMapper.toDomain, active, Exchanges,
          stored, changed]

end Rotated

/-- A refresh does what it should exactly for tokens that are no session's,
and for tokens of accounts that may sign in. -/
theorem exchanges_iff (moment : Moment) (sessionId hash : Nat)
    (unused : ∀ row ∈ moment.db.sessions, row.hash ≠ moment.draws 0) :
    Exchanges moment sessionId hash
        (moment.outcome (refreshToken sessionId hash)) ↔
      Exchangeable moment.db sessionId hash := by
  rw [Moment.outcome_iff (Exchanges moment sessionId hash)]
  simp only [refreshToken, SessionRepository.updateByHash,
    SessionRepository.rotate, Program.serially_bind, Program.serially_draw,
    Program.serially_transaction, serially_execute, Stand.view_started,
    Stand.view_drawn, Moment.view_stand, Moment.draws_stand]
  by_cases fits : fitsInteger sessionId = true
  · simp only [fits, if_true]
    cases current : matchesHash moment.db sessionId hash with
    | none =>
        simp [Exchangeable, fits, current, answerRotation, Exchanges]
    | some row =>
        have stored := (SessionRepository.matchesHash_eq_some.mp current).1
        have seen : ((moment.stand.drawn.started moment.clock).write
            { sessions := [.put { row with hash := moment.draws 0 }] }).view =
            rotated moment row := by
          simp
          rfl
        rw [if_neg (by simp)]
        refine (serially_findSession current
          ((Stand.view_commit _).trans seen)).trans ?_
        refine (exchanges_answerRotation current
          ((Stand.view_commit _).trans seen) (unused row stored) seen).trans ?_
        simp [Exchangeable, fits, current]
  · simp [fits, Exchanges, Exchangeable, Failure.unauthorized]

/-- Account 2 signs in and draws 9 for its session; then `requests` are
served. -/
def signedIn (requests : List (Choice Request)) : Moment :=
  { db := (Sample.after (fun _ => true)
      (Sample.serve (.auth (.validateLogin "b" "b")) 9 8 ++
        requests)).world.db
    clock := 5
    draws := fun _ => 30 }

theorem exchanges_iff_signedIn :
    Exchanges (signedIn []) 9 9 ((signedIn []).outcome (refreshToken 9 9)) :=
  (exchanges_iff (signedIn []) 9 9 (by decide)).mpr
    ⟨by decide, by decide +kernel⟩

/-- Account 2 deletes itself, and its token is used afterwards. -/
theorem deleted_account_loses_token :
    let moment := signedIn (Sample.serve (.guarded ⟨2, 9, none⟩ .softDelete) 0 7)
    let outcome := moment.outcome (refreshToken 9 9)
    (∃ config, (Api.system Sample.environment fun _ => true).Reachable
        (.idle Sample.world) config ∧ config.world.db = moment.db) ∧
      outcome.1 = .error .typeError ∧
      moment.db.sessions.rows.map (·.hash) = [9] ∧
      outcome.2.sessions.rows.map (·.hash) = [30] ∧
      ¬Exchanges moment 9 9 outcome := by
  refine ⟨⟨_, Sample.reachable _ _, rfl⟩, rfl, by decide, by decide, ?_⟩
  rintro ⟨failure, _⟩
  exact nomatch failure

end AuthService

end SaasFoundation
