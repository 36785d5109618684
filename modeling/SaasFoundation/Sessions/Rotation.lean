import SaasFoundation.Sessions.History

/-!
# Refresh tokens are accepted once

The rotation is one statement that compares the hash and replaces it, so a
token stops being acceptable with the commit that accepts it.  It never
becomes acceptable again: new hashes are drawn, and a session that has ended
stays ended.
-/

namespace SaasFoundation

open Relational Transaction Api

variable {runtime : Runtime} {drawn : Prop} {commit : DbCommit}
  {earlier : List DbCommit}

/-- The pair would be accepted now. -/
def Acceptable (db : Db) (sessionId hash : Nat) : Prop :=
  (SessionRepository.matchesHash db sessionId hash).isSome

theorem acceptable_iff {db : Db} {sessionId hash : Nat} :
    Acceptable db sessionId hash ↔ ∃ row ∈ db.sessions,
      row.id = sessionId ∧ row.hash = hash ∧ row.deletedAt = none := by
  simp only [Acceptable, Option.isSome_iff_exists,
    SessionRepository.matchesHash_eq_some]

theorem Redeems.acceptable {sessionId hash next : Nat}
    (redeems : Redeems commit sessionId hash next) :
    Acceptable commit.before sessionId hash := by
  obtain ⟨_, row, found, _⟩ := redeems
  rw [Acceptable, found]
  rfl

/-- An accepted token leaves its session with the next hash. -/
theorem Redeems.hash_after {sessionId hash next : Nat}
    (redeems : Redeems commit sessionId hash next) {row : SessionRow}
    (member : row ∈ commit.after.sessions) (same : row.id = sessionId) :
    row.hash = next := by
  obtain ⟨_, old, found, sessions⟩ := redeems
  obtain ⟨_, sameId, _, _⟩ := SessionRepository.matchesHash_eq_some.mp found
  rw [after_sessions, sessions, Table.applyAll_put, Table.mem_put] at member
  rcases member with rfl | ⟨_, different⟩
  · rfl
  · exact absurd (same.trans sameId.symm) different

theorem Redeems.unissued (effect : Effect runtime drawn commit earlier)
    {sessionId hash next : Nat} (redeems : Redeems commit sessionId hash next)
    (all : drawn) : Unissued next (statesBefore commit earlier) := by
  obtain ⟨core, old, found, sessions⟩ := redeems
  unfold Effect at effect
  rw [core] at effect
  obtain ⟨other, rotated, unissued⟩ := effect
  rcases rotated.sessions with nothing | ⟨row, foundRow, put⟩
  · rw [sessions] at nothing
    cases nothing
  · rw [sessions] at put
    simp only [List.cons.injEq, Change.put.injEq, SessionRow.mk.injEq,
      and_true] at put
    exact put.2.2.1 ▸ unissued all

/-- No session has a hash it was redeemed for. -/
def Spent (commits : List DbCommit) (db : Db) : Prop :=
  ∀ past ∈ commits, ∀ sessionId hash next, Redeems past sessionId hash next →
    ∀ row ∈ db.sessions, row.id = sessionId → row.hash ≠ hash

theorem spent_of_effect (effect : Effect runtime drawn commit earlier)
    (all : drawn) (kept : SessionsKept earlier commit.before)
    (spent : Spent earlier commit.before) :
    Spent (commit :: earlier) commit.after := by
  -- A hash that is drawn now was no session's before.
  have unused {sessionId hash next other used : Nat} {past : Db}
      (redeems : Redeems commit sessionId hash next)
      (state : past ∈ statesBefore commit earlier)
      (acceptable : Acceptable past other used) : next ≠ used := by
    obtain ⟨row, stored, _, rfl, _⟩ := acceptable_iff.mp acceptable
    exact fun same =>
      redeems.unissued effect all past state row stored same.symm
  intro past logged sessionId hash next redeems row member same
  rcases List.mem_cons.mp logged with rfl | older
  · rw [redeems.hash_after member same]
    exact unused redeems List.mem_cons_self redeems.acceptable
  have state : past.before ∈ statesBefore commit earlier :=
    List.mem_cons_of_mem _ (List.mem_map_of_mem older)
  rcases session_origin (sessions_of_effect effect) member with
    ⟨old, stored, continues, rehashed⟩ | ⟨_, _, loggedIn⟩
  · rcases rehashed with unchanged | again
    · rw [unchanged]
      exact spent past older sessionId hash next redeems old stored
        (continues.id.symm.trans same)
    · exact unused again state redeems.acceptable
  · obtain ⟨old, stored, sameId, _, _⟩ :=
      acceptable_iff.mp redeems.acceptable
    exact absurd (sameId.trans same.symm)
      (kept.unseen loggedIn.freshId older stored)

/-- A session has the hash of its last rotation. -/
def Current (commits : List DbCommit) (db : Db) : Prop :=
  ∀ newer last older, commits = newer ++ last :: older →
    ∀ sessionId hash next, Redeems last sessionId hash next →
      (∀ since ∈ newer, ∀ used issued, ¬Redeems since sessionId used issued) →
        ∀ row ∈ db.sessions, row.id = sessionId → row.hash = next

theorem current_of_effect (effect : Effect runtime drawn commit earlier)
    (kept : SessionsKept earlier commit.before)
    (current : Current earlier commit.before) :
    Current (commit :: earlier) commit.after := by
  intro newer last older split sessionId hash next redeems latest row member
    same
  cases newer with
  | nil =>
      obtain ⟨rfl, rfl⟩ := List.cons.inj split
      exact redeems.hash_after member same
  | cons newest newer =>
      obtain ⟨rfl, rest⟩ := List.cons.inj split
      rw [List.forall_mem_cons] at latest
      have logged : last ∈ earlier := by simp [rest]
      rcases session_origin (sessions_of_effect effect) member with
        ⟨old, stored, continues, rehashed⟩ | ⟨_, _, loggedIn⟩
      · have sameId : old.id = sessionId := continues.id.symm.trans same
        rcases rehashed with unchanged | again
        · rw [unchanged]
          exact current newer last older rest sessionId hash next redeems
            latest.2 old stored sameId
        · exact absurd (sameId ▸ again) (latest.1 old.hash row.hash)
      · obtain ⟨old, stored, sameId, _, _⟩ :=
          acceptable_iff.mp redeems.acceptable
        exact absurd (sameId.trans same.symm)
          (kept.unseen loggedIn.freshId logged stored)

/-- What is known of the sessions after a run. -/
structure Rotations (commits : List DbCommit) (db : Db) : Prop where
  kept : SessionsKept commits db
  spent : Spent commits db
  current : Current commits db
  once : commits.Pairwise fun later past => ∀ sessionId hash next again,
    Redeems past sessionId hash next → ¬Redeems later sessionId hash again
  states : (db :: commits.map (·.before)).Pairwise SessionsContinue

theorem rotations_of_effect (effect : Effect runtime drawn commit earlier)
    (all : drawn) (rotations : Rotations earlier commit.before) :
    Rotations (commit :: earlier) commit.after where
  kept := sessionsKept_of_effect effect rotations.kept
  spent := spent_of_effect effect all rotations.kept rotations.spent
  current := current_of_effect effect rotations.kept rotations.current
  once := by
    refine List.pairwise_cons.mpr ⟨?_, rotations.once⟩
    intro past logged sessionId hash next again redeems redeemsAgain
    obtain ⟨row, stored, same, sameHash, _⟩ :=
      acceptable_iff.mp redeemsAgain.acceptable
    exact rotations.spent past logged sessionId hash next redeems row stored
      same sameHash
  states := by
    refine List.pairwise_cons.mpr ⟨?_, rotations.states⟩
    intro past state
    obtain ⟨logged, member, rfl⟩ := List.mem_map.mp state
    exact sessionsKept_of_effect effect rotations.kept logged member

/-- Refresh tokens: each is accepted at most once, a session has one acceptable
token, the one its last rotation issued, and ended sessions have none. -/
theorem rotations_of_reachable (environment : Environment)
    (admits : Request → Bool) (world : DbWorld) (config : DbConfig)
    (begins : Begins world) (sources : FromSources world)
    (reachable :
      (system environment admits).Reachable (.idle world) config) :
    -- No pair is accepted twice, and an answer tells of an acceptance.
    (config.world.commits.Pairwise fun later past =>
      ∀ sessionId hash next again, Redeems past sessionId hash next →
        ¬Redeems later sessionId hash again) ∧
    (∀ thread ∈ config.threads, ∀ sessionId hash reply,
      thread.context.request = .auth (.refreshToken sessionId hash) →
      thread.program = .done reply → ∃ tokens, reply = .tokens tokens ∧
        ∃ commit ∈ config.world.commits, commit.tid = thread.context.tid ∧
          Redeems commit sessionId hash tokens.hash) ∧
    -- One acceptable hash, which only a rotation replaces.
    (∀ sessionId hash other, Acceptable config.world.db sessionId hash →
      Acceptable config.world.db sessionId other → hash = other) ∧
    (∀ newer last older, config.world.commits = newer ++ last :: older →
      ∀ sessionId hash next, Redeems last sessionId hash next →
        (∀ since ∈ newer, ∀ used issued,
          ¬Redeems since sessionId used issued) →
        ∀ acceptable, Acceptable config.world.db sessionId acceptable →
          acceptable = next) ∧
    (∀ commit ∈ config.world.commits, ∀ old ∈ commit.before.sessions,
      ∀ new ∈ commit.after.sessions, new.id = old.id →
        new.hash = old.hash ∨ Redeems commit old.id old.hash new.hash) ∧
    -- An ended session stays ended, and nothing of it is accepted.
    (config.world.states.Pairwise fun later past => ∀ row ∈ past.sessions,
      row.deletedAt.isSome → ∃ row' ∈ later.sessions, row'.id = row.id ∧
        row'.deletedAt.isSome) ∧
    ∀ commit ∈ config.world.commits, ∀ row ∈ commit.before.sessions,
      row.deletedAt.isSome → ∀ hash next, ¬Redeems commit row.id hash next := by
  have run : Run environment True world.db config :=
    .of_reachable begins (fun _ => sources) reachable
  have rotations : Rotations config.world.commits config.world.db := by
    refine Leads.induction (motive := Rotations) run.leads run.legal ?_
      fun commit earlier _ rotations effect =>
        rotations_of_effect effect.1 trivial rotations
    constructor <;> simp [SessionsKept, Spent, Current]
  refine ⟨rotations.once, ?_, ?_, ?_, ?_, ?_, ?_⟩
  · intro thread member sessionId hash reply request done
    have answers := run.answers thread member reply done
    unfold Answers at answers
    rw [request] at answers
    obtain ⟨tokens, same, commit, logged, tid, accepts⟩ := answers
    have served : commit.request = thread.context.request :=
      run.numbered.requests thread member commit logged tid
    exact ⟨tokens, same, commit, logged, tid, by rw [served, request]; rfl,
      accepts⟩
  · intro sessionId hash other first second
    obtain ⟨row, stored, same, rfl, _⟩ := acceptable_iff.mp first
    obtain ⟨row', stored', same', rfl, _⟩ := acceptable_iff.mp second
    rw [Table.eq_of_key stored stored' (same.trans same'.symm)]
  · intro newer last older split sessionId hash next redeems latest acceptable
      accepts
    obtain ⟨row, stored, same, rfl, _⟩ := acceptable_iff.mp accepts
    exact rotations.current newer last older split sessionId hash next redeems
      latest row stored same
  · intro commit logged old stored new member same
    obtain ⟨earlier, _, effect, _⟩ := run.legal.mem logged
    rcases session_origin (sessions_of_effect effect) member with
      ⟨row, rowStored, continues, rehashed⟩ | ⟨_, _, loggedIn⟩
    · obtain rfl := Table.eq_of_key rowStored stored
        (continues.id.symm.trans same)
      exact rehashed
    · exact absurd same.symm
        (Table.find_eq_none.mp loggedIn.freshId old stored)
  · refine rotations.states.imp ?_
    intro later past continues row stored ended
    obtain ⟨row', stored', continued⟩ := continues row stored
    refine ⟨row', stored', continued.id, ?_⟩
    rw [Option.isSome_iff_ne_none] at ended ⊢
    exact fun live => ended (continued.live live)
  · intro commit _ row stored ended hash next redeems
    obtain ⟨row', stored', same, _, live⟩ :=
      acceptable_iff.mp redeems.acceptable
    rw [Table.eq_of_key stored' stored same] at live
    simp [live] at ended

/-- A deployment with one session, whose hash was drawn. -/
def rotationWorld : DbWorld :=
  { Sample.world with
    db :=
      { Sample.world.db with
        sessions := (∅ : Table SessionRow).put ⟨2, 2, 22, none⟩ }
    drawn := [(.randomBytes, 22)] }

theorem rotationWorld_begins :
    Begins rotationWorld ∧ FromSources rotationWorld := by
  refine ⟨⟨?_, rfl⟩, ?_⟩
  · constructor <;> decide
  · constructor <;> decide

/-- The token of the session is used twice, and accepted once. -/
theorem rotations_of_reachable_reused :
    ∃ config : DbConfig, config.world.commits.length = 2 ∧
      config.world.db.sessions.rows.map (·.hash) = [9] ∧
      config.world.commits.Pairwise fun later past =>
        ∀ sessionId hash next again, Redeems past sessionId hash next →
          ¬Redeems later sessionId hash again :=
  ⟨(system Sample.environment fun _ => true).after
      (Sample.serve (.auth (.refreshToken 2 22)) 9 7 ++
        Sample.serve (.auth (.refreshToken 2 22)) 10 4)
      (.idle rotationWorld),
    by decide, by decide,
    (rotations_of_reachable _ _ _ _ rotationWorld_begins.1
      rotationWorld_begins.2 (System.reachable_after _ _ _)).1⟩

end SaasFoundation
