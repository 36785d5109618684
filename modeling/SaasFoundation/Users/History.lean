import SaasFoundation.Api.Commits

/-!
# Accounts along a run

A commit changes one account at most.  The row of an account after a commit is
the stored one, or the stored one with the columns the request asked for.
-/

namespace SaasFoundation

open Relational Transaction Api

variable {runtime : Runtime} {drawn : Prop} {commit : DbCommit}
  {earlier : List DbCommit} {α : Type}

/-- How an account got to its row after a commit. -/
inductive RowStep (runtime : Runtime) (commit : DbCommit)
    (earlier : List DbCommit) (old new : UserRow) : Prop where
  | same (unchanged : new = old)
      (untouched : ∀ change ∈ commit.writes.users, change.target ≠ old.id)
  | updated (type : AccountType) (dto : AccountsService.AdminAccountDto)
      (actor id : Nat) (changes : AccountsService.AccountChanges)
      (core : commit.request.core = .account (.save type dto actor (some id)))
      (updated : AccountUpdated runtime commit earlier type dto id old new
        changes)
  | removed (type : AccountType) (id actor : Nat)
      (core : commit.request.core = .account (.remove type id actor))
      (removed : AccountRemoved commit type id old new)
  | profile (call : AuthCall) (exclude : Option Nat) (changes : UserChanges)
      (core : commit.request.core = .auth call)
      (asked : ProfileCall runtime commit old call exclude changes)
      (profile : ProfileChanged commit old new exclude changes)
  | deleted (payload : JwtPayload)
      (core : commit.request.core = .auth (.softDelete payload))
      (deleted : SelfDeleted commit payload.id old new)

theorem rowStep (effect : Effect runtime drawn commit earlier)
    {old new : UserRow} (stored : old ∈ commit.before.users)
    (member : new ∈ commit.after.users) (same : new.id = old.id) :
    RowStep runtime commit earlier old new := by
  have unchanged : new ∈ commit.before.users → new = old :=
    fun member => Table.eq_of_key member stored same
  -- The changed row is the one asked for, or another one.
  have step {first second : UserRow} {exclude : Option Nat}
      (changed : UserChanged commit first second exclude)
      (goes : first = old → second = new →
        RowStep runtime commit earlier old new) :
      RowStep runtime commit earlier old new := by
    rcases (mem_users_changed changed).mp member with rfl | ⟨member, apart⟩
    · exact goes (Table.eq_of_key changed.stored stored
        (changed.same.symm.trans same)) rfl
    · refine .same (unchanged member) fun change written target => apart ?_
      rcases changed.users with ⟨users, _⟩ | users
      · simp [users] at written
      · rw [users, List.mem_singleton] at written
        rw [written] at target
        exact same.trans (target.symm.trans changed.same)
  have created {second : UserRow} (inserted : AccountInserted commit second) :
      RowStep runtime commit earlier old new := by
    have other : old.id ≠ second.id :=
      Table.find_eq_none.mp inserted.fresh old stored
    rcases (mem_users_inserted inserted).mp member with rfl | member
    · exact absurd same.symm other
    · refine .same (unchanged member) fun change written target => ?_
      rw [inserted.users, List.mem_singleton] at written
      rw [written] at target
      exact other target.symm
  cases accounts_of_effect effect with
  | nothing users =>
      exact .same (unchanged ((mem_users_nothing users).mp member))
        (by simp [users])
  | created type dto actor row core isCreated => exact created isCreated.inserted
  | registered dto row core registered => exact created registered.inserted
  | updated type dto actor id first second changes core updated =>
      refine step updated.changed ?_
      rintro rfl rfl
      exact .updated type dto actor id changes core updated
  | removed type id actor first second core removed =>
      refine step removed.changed ?_
      rintro rfl rfl
      exact .removed type id actor core removed
  | profile call first second exclude changes core asked profile =>
      refine step profile.changed ?_
      rintro rfl rfl
      exact .profile call exclude changes core asked profile
  | deleted payload first second core deleted =>
      refine step deleted.changed ?_
      rintro rfl rfl
      exact .deleted payload core deleted

theorem user_puts (written : UsersWritten commit) :
    ∀ change ∈ commit.writes.users, ∃ row, change = .put row := by
  cases written with
  | nothing users => simp [users]
  | inserted new inserted => simp [inserted.users]
  | changed old new exclude changed =>
      rcases changed.users with ⟨users, _⟩ | users <;> simp [users]

/-- A written row replaces a stored one, or it is new. -/
theorem user_put (written : UsersWritten commit) {row : UserRow}
    (put : .put row ∈ commit.writes.users) :
    (∃ old ∈ commit.before.users, old.id = row.id ∧
      row ∈ commit.after.users) ∨ AccountInserted commit row := by
  cases written with
  | nothing users => simp [users] at put
  | inserted new inserted =>
      rw [inserted.users, List.mem_singleton] at put
      cases put
      exact .inr inserted
  | changed old new exclude changed =>
      rcases changed.users with ⟨users, _⟩ | users
      · simp [users] at put
      · rw [users, List.mem_singleton] at put
        cases put
        exact .inl ⟨old, changed.stored, changed.same.symm,
          (mem_users_changed changed).mpr (.inl rfl)⟩

def UsersKept (commits : List DbCommit) (db : Db) : Prop :=
  ∀ past ∈ commits, ∀ row ∈ past.before.users, (db.users.find row.id).isSome

theorem usersKept_of_effect (effect : Effect runtime drawn commit earlier)
    (kept : UsersKept earlier commit.before) :
    UsersKept (commit :: earlier) commit.after := by
  have stays : ∀ id, (commit.before.users.find id).isSome →
      (commit.after.users.find id).isSome := fun id present =>
    Table.find_applyAll_isSome (user_puts (users_of_effect effect)) present
  intro past logged row stored
  rcases List.mem_cons.mp logged with rfl | older
  · exact stays _ (Table.find_isSome.mpr ⟨row, stored, rfl⟩)
  · exact stays _ (kept past older row stored)

/-- No version of the account had this value in the field. -/
def Fresh (field : UserRow → α) (commit : DbCommit)
    (earlier : List DbCommit) (row : UserRow) : Prop :=
  ∀ state ∈ statesBefore commit earlier, ∀ old ∈ state.users,
    old.id = row.id → field row ≠ field old

/-- A written row has the field of the stored one, or a fresh value. -/
def KeptOrFresh (field : UserRow → α) (commit : DbCommit)
    (earlier : List DbCommit) : Prop :=
  ∀ row, .put row ∈ commit.writes.users →
    (∃ old ∈ commit.before.users, old.id = row.id ∧ field row = field old) ∨
      Fresh field commit earlier row

theorem statesBefore_suffix {past : DbCommit} {older : List DbCommit}
    (suffix : past :: older <:+ earlier) {state : Db}
    (member : state ∈ statesBefore past older) :
    state ∈ statesBefore commit earlier := by
  have sub : ((past :: older).map (·.before)).Subset (earlier.map (·.before)) :=
    List.map_subset _ suffix.subset
  exact .tail _ (sub member)

/-- A fresh value never gives way to one of the values before it. -/
theorem fresh_later {field : UserRow → α} {initial state : Db}
    {commits : List DbCommit} (leads : Leads initial commits state)
    (moves : Legal (KeptOrFresh field) commits) {past : DbCommit}
    {older : List DbCommit} (suffix : past :: older <:+ commits) {id : Nat}
    (written : ∃ row, .put row ∈ past.writes.users ∧ row.id = id)
    (fresh : ∀ row, .put row ∈ past.writes.users → row.id = id →
      Fresh field past older row)
    {now : UserRow} (member : now ∈ state.users) (same : now.id = id) :
    Fresh field past older now := by
  induction commits generalizing state now with
  | nil => simp at suffix
  | cons commit earlier ih =>
      obtain ⟨rfl, before⟩ := leads
      rcases List.suffix_cons_iff.mp suffix with isPast | deeper
      · cases isPast
        rcases Table.mem_of_mem_applyAll member with put | ⟨_, untouched⟩
        · exact fresh now put same
        · obtain ⟨row, put, sameId⟩ := written
          exact absurd (sameId.trans same.symm) (untouched _ put)
      · have known {row : UserRow} (stored : row ∈ commit.before.users)
            (sameId : row.id = id) : Fresh field past older row :=
          ih before moves.2 deeper stored sameId
        rcases Table.mem_of_mem_applyAll member with put | ⟨stored, _⟩
        · rcases moves.1 now put with ⟨old, oldStored, oldId, kept⟩ | new
          · have unseen := known oldStored (oldId.trans same)
            intro state past first firstStored firstId
            rw [kept]
            exact unseen state past first firstStored
              (firstId.trans oldId.symm)
          · exact fun state past =>
              new state (statesBefore_suffix deeper past)
        · exact known stored same

end SaasFoundation
