import SaasFoundation.Api.Runs
import SaasFoundation.Database.SeedService
import SaasFoundation.Users.Alone

/-!
# What seeding does to a database

`existsBy` passes over deleted accounts, the unique index on the address does
not.  Seeding is repeatable unless an address of the settings has only deleted
holders.
-/

namespace SaasFoundation

open Relational Transaction Tx

namespace SeedService

section

variable {runtime : Runtime} {settings : SeedVariables} {clock : Nat}
  {failed : Failure → Db → Prop} {stand : Stand Db Writes}

/-- What is demanded of one pair of settings. -/
def SeedAccount.Valid (account : SeedAccount) : Prop :=
  (given account.email).isSome = (given account.password).isSome ∧
    ∀ password ∈ given account.password, 12 ≤ Text.length password ∧
      password.utf8ByteSize ≤ bcryptMaxBytes

/-- The address under which an account is seeded, if it is. -/
def SeedAccount.address (runtime : Runtime) (account : SeedAccount) :
    Option String :=
  (given account.email).map (lowerCaseTransformer runtime)

/-- An account that is not deleted has the address. -/
def Present (db : Db) (email : String) : Prop :=
  ∃ row ∈ db.users, row.email = some email ∧ row.deletedAt = none

/-- Deleted accounts have the address, and no other has. -/
def Blocked (db : Db) (email : String) : Prop :=
  (∃ row ∈ db.users, row.email = some email) ∧ ¬Present db email

theorem isSome_liveByEmail {db : Db} {email : String} :
    (UserRepository.liveByEmail db email).isSome = true ↔ Present db email := by
  unfold UserRepository.liveByEmail Present
  rw [List.find?_isSome]
  simp only [decide_eq_true_eq]
  rfl

/-- The identifiers still to be drawn are new, and the roles are stored. -/
structure Ready (stand : Stand Db Writes) : Prop where
  fresh : ∀ index, ∀ row ∈ stand.view.users, row.id ≠ stand.draws index
  distinct : Function.Injective stand.draws
  roles : ∀ role, role = RoleId.admin ∨ role = RoleId.user →
    (stand.view.roles.find role).isSome

section Account

variable {account : SeedAccount} {email : String}
  {post : Unit → Stand Db Writes → Prop}

theorem address_eq_some (valid : account.Valid)
    (address : account.address runtime = some email) :
    ∃ text password, given account.email = some text ∧
      given account.password = some password ∧
        lowerCaseTransformer runtime text = email ∧
          password.utf8ByteSize ≤ bcryptMaxBytes := by
  obtain ⟨text, supplied, same⟩ := Option.map_eq_some_iff.mp address
  have both := valid.1
  rw [supplied, Option.isSome_some] at both
  obtain ⟨password, secret⟩ := Option.isSome_iff_exists.mp both.symm
  exact ⟨text, password, supplied, secret, same, (valid.2 password secret).2⟩

theorem serially_seedAccount_none (address : account.address runtime = none)
    (skipped : post () stand) :
    (seedAccount runtime account).serially clock post failed stand := by
  have missing : given account.email = none :=
    Option.map_eq_none_iff.mp address
  unfold seedAccount
  rw [missing]
  exact skipped

theorem serially_seedAccount_present (valid : account.Valid)
    (address : account.address runtime = some email)
    (present : Present stand.view email) (skipped : post () stand) :
    (seedAccount runtime account).serially clock post failed stand := by
  obtain ⟨text, password, supplied, secret, same, short⟩ :=
    address_eq_some valid address
  unfold seedAccount
  rw [supplied, secret]
  dsimp only
  rw [same, Program.serially_bind, serially_query,
    isSome_liveByEmail.mpr present]
  exact skipped

/-- Up to the insertion of the row. -/
theorem serially_seedAccount_absent (valid : account.Valid)
    (address : account.address runtime = some email)
    (absent : ¬Present stand.view email)
    (inserts : ∀ password, (UserRepository.insertUser runtime
        (seededRow email password account.role (stand.draws 1))).serially clock
          (fun _ => post ()) failed stand.drawn.drawn) :
    (seedAccount runtime account).serially clock post failed stand := by
  obtain ⟨text, password, supplied, secret, same, short⟩ :=
    address_eq_some valid address
  have unknown : (UserRepository.liveByEmail stand.view email).isSome = false :=
    Bool.eq_false_iff.mpr fun known => absent (isSome_liveByEmail.mp known)
  unfold seedAccount
  rw [supplied, secret]
  dsimp only
  rw [same, Program.serially_bind, serially_query, unknown, hashPassword,
    if_neg (Nat.not_lt.mpr short)]
  simp only [Bool.false_eq_true, if_false, Program.serially_bind,
    Program.serially_draw, Program.serially_pure]
  exact inserts _

theorem userViolation_seeded {db : Db} {password : String} {id now : Nat}
    (stored : (db.roles.find account.role).isSome)
    (free : ¬∃ row ∈ db.users, row.email = some email) :
    userViolation runtime db
      (seededRow email password account.role id now) = none := by
  obtain ⟨row, stored⟩ := Option.isSome_iff_exists.mp stored
  have untaken : ¬takenEmail db
      (seededRow email password account.role id now) := by
    rintro ⟨-, other, member, -, same⟩
    exact free ⟨other, member, same⟩
  unfold userViolation
  rw [if_neg untaken, if_neg, if_neg]
  · simp [seededRow, UserMapper.unsaved, stored]
  · rintro ⟨named, -⟩
    cases named
  · rintro ⟨pictured, -⟩
    cases pictured

theorem serially_seedAccount_free (valid : account.Valid)
    (role : account.role = RoleId.admin ∨ account.role = RoleId.user)
    (ready : Ready stand) (address : account.address runtime = some email)
    (free : ¬∃ row ∈ stand.view.users, row.email = some email)
    (inserted : ∀ row : UserRow, row.id = stand.draws 1 →
      row.email = some email → row.deletedAt = none →
        post () (stand.drawn.drawn.write { users := [.put row] })) :
    (seedAccount runtime account).serially clock post failed stand := by
  refine serially_seedAccount_absent valid address
    (fun ⟨row, member, same, _⟩ => free ⟨row, member, same⟩) fun password => ?_
  rw [UserRepository.serially_insertUser]
  have unused : ¬(stand.drawn.drawn.view.users.find
      (seededRow email password account.role (stand.draws 1)
        stand.drawn.drawn.now).id).isSome := by
    intro found
    obtain ⟨row, member, same⟩ := Table.find_isSome.mp found
    exact ready.fresh 1 row member same
  have violation : userViolation runtime stand.drawn.drawn.view
      (seededRow email password account.role (stand.draws 1)
        stand.drawn.drawn.now) = none :=
    userViolation_seeded (ready.roles _ role) free
  rw [UserRepository.insertRefusal, if_neg unused, violation]
  exact inserted _ rfl rfl rfl

theorem serially_seedAccount_blocked (valid : account.Valid)
    (ready : Ready stand) (address : account.address runtime = some email)
    (blocked : Blocked stand.view email)
    (refused : ∀ failure, failed failure stand.db) :
    (seedAccount runtime account).serially clock post failed stand := by
  refine serially_seedAccount_absent valid address blocked.2 fun password => ?_
  obtain ⟨row, member, same⟩ := blocked.1
  have taken : takenEmail stand.view
      (seededRow email password account.role (stand.draws 1) stand.now) :=
    ⟨rfl, row, member, ready.fresh 1 row member, same⟩
  have violation : userViolation runtime stand.drawn.drawn.view
      (seededRow email password account.role (stand.draws 1)
        stand.drawn.drawn.now) =
      some (.query .uniqueViolation (some .userEmail)) := if_pos taken
  rw [UserRepository.serially_insertUser, UserRepository.insertRefusal]
  by_cases present : (stand.drawn.drawn.view.users.find
      (seededRow email password account.role (stand.draws 1)
        stand.drawn.drawn.now).id).isSome = true
  · rw [if_pos present]
    exact refused _
  · rw [if_neg present, violation]
    exact refused _

end Account

/-- Further rows of new identifiers. -/
theorem Ready.insert (ready : Ready stand) {row : UserRow}
    (id : row.id = stand.draws 1) :
    Ready (stand.drawn.drawn.write { users := [.put row] }) where
  fresh index other member := by
    rw [Stand.view_write, Db.apply_users, Table.applyAll_put] at member
    rcases Table.mem_put.mp member with rfl | ⟨old, _⟩
    · rw [id]
      exact fun same => absurd (ready.distinct same) (by omega)
    · exact ready.fresh _ other old
  distinct left right same := by
    have shifted := ready.distinct same
    omega
  roles role known := by
    rw [Stand.view_write]
    exact ready.roles role known

theorem mem_view_insert {row other : UserRow} :
    other ∈ (stand.drawn.drawn.write { users := [.put row] }).view.users ↔
      other = row ∨ other ∈ stand.view.users ∧ other.id ≠ row.id := by
  rw [Stand.view_write, Db.apply_users, Table.applyAll_put]
  exact Table.mem_put

/-- What seeding some accounts leaves behind. -/
structure Seeded (runtime : Runtime) (accounts : List SeedAccount)
    (before after : Stand Db Writes) : Prop where
  roles : after.view.roles = before.view.roles
  kept : ∀ row ∈ before.view.users, row ∈ after.view.users
  present : ∀ account ∈ accounts, ∀ email ∈ account.address runtime,
    Present after.view email

theorem Seeded.cons {account : SeedAccount} {rest : List SeedAccount}
    {first second third : Stand Db Writes}
    (seeded : Seeded runtime rest second third)
    (roles : second.view.roles = first.view.roles)
    (kept : ∀ row ∈ first.view.users, row ∈ second.view.users)
    (present : ∀ email ∈ account.address runtime,
      Present second.view email) :
    Seeded runtime (account :: rest) first third where
  roles := seeded.roles.trans roles
  kept row member := seeded.kept row (kept row member)
  present := by
    refine List.forall_mem_cons.mpr ⟨fun email address => ?_, seeded.present⟩
    obtain ⟨row, member, same⟩ := present email address
    exact ⟨row, seeded.kept row member, same⟩

/-- One account with a role of its own. -/
structure SeedAccount.Good (account : SeedAccount) : Prop where
  valid : account.Valid
  role : account.role = RoleId.admin ∨ account.role = RoleId.user

theorem blocked_insert {row : UserRow} {email : String}
    (blocked : Blocked (stand.drawn.drawn.write { users := [.put row] }).view
      email) (fresh : ∀ other ∈ stand.view.users, other.id ≠ row.id)
    (live : row.deletedAt = none) : Blocked stand.view email := by
  obtain ⟨⟨holder, member, same⟩, none⟩ := blocked
  have apart : holder ≠ row := by
    rintro rfl
    exact none ⟨holder, mem_view_insert.mpr (.inl rfl), same, live⟩
  refine ⟨⟨holder, ?_, same⟩, fun ⟨other, listed, rest⟩ => none ⟨other, ?_, rest⟩⟩
  · exact ((mem_view_insert.mp member).resolve_left apart).1
  · exact mem_view_insert.mpr (.inr ⟨listed, fresh other listed⟩)

/-- A row with another address leaves the address as it was. -/
theorem Blocked.insert {row : UserRow} {email : String}
    (blocked : Blocked stand.view email) (id : row.id = stand.draws 1)
    (ready : Ready stand) (apart : row.email ≠ some email) :
    Blocked (stand.drawn.drawn.write { users := [.put row] }).view email := by
  obtain ⟨⟨holder, member, same⟩, none⟩ := blocked
  refine ⟨⟨holder, mem_view_insert.mpr (.inr ⟨member, ?_⟩), same⟩, ?_⟩
  · rw [id]
    exact ready.fresh 1 holder member
  · intro ⟨other, listed, named, live⟩
    rcases mem_view_insert.mp listed with rfl | ⟨old, -⟩
    · exact apart named
    · exact none ⟨other, old, named, live⟩

theorem serially_seedAll {accounts : List SeedAccount} (ready : Ready stand)
    (good : ∀ account ∈ accounts, account.Good)
    (free : ∀ account ∈ accounts, ∀ email ∈ account.address runtime,
      ¬Blocked stand.view email) :
    (seedAll runtime accounts).serially clock
      (fun _ later => Seeded runtime accounts stand later) failed stand := by
  induction accounts generalizing stand with
  | nil =>
      exact ⟨rfl, fun _ member => member,
        fun _ listed => absurd listed List.not_mem_nil⟩
  | cons account rest ih =>
      rw [List.forall_mem_cons] at good free
      unfold seedAll
      rw [Program.serially_bind]
      have same (present : ∀ email ∈ account.address runtime,
          Present stand.view email) :
          (seedAll runtime rest).serially clock (fun _ later =>
            Seeded runtime (account :: rest) stand later) failed stand :=
        Program.serially_mono (ih ready good.2 free.2)
          (fun _ later seeded =>
            seeded.cons rfl (fun _ member => member) present)
          fun _ _ failed => failed
      cases address : account.address runtime with
      | none =>
          refine serially_seedAccount_none address (same ?_)
          rw [address]
          exact nofun
      | some email =>
          have unblocked := free.1 email address
          by_cases present : Present stand.view email
          · refine serially_seedAccount_present good.1.valid address present
              (same fun other named => ?_)
            rw [address] at named
            exact Option.some.inj named ▸ present
          · have unheld : ¬∃ row ∈ stand.view.users, row.email = some email :=
              fun held => unblocked ⟨held, present⟩
            refine serially_seedAccount_free good.1.valid good.1.role ready
              address unheld fun row id named live => ?_
            have fresh : ∀ other ∈ stand.view.users, other.id ≠ row.id :=
              fun other member => id ▸ ready.fresh 1 other member
            have go := @ih (stand.drawn.drawn.write { users := [.put row] })
              (ready.insert id) good.2 fun other listed email address blocked =>
                free.2 other listed email address
                  (blocked_insert blocked fresh live)
            refine Program.serially_mono go (fun _ later seeded => ?_)
              fun _ _ failed => failed
            refine seeded.cons ?_ (fun other member => ?_) ?_
            · rw [Stand.view_write]
              rfl
            · exact mem_view_insert.mpr (.inr ⟨member, fresh other member⟩)
            · intro other address'
              rw [address] at address'
              obtain rfl := Option.some.inj address'
              exact ⟨row, mem_view_insert.mpr (.inl rfl), named, live⟩

/-- An address that only deleted accounts have stops the loop, whatever was
seeded before. -/
theorem serially_seedAll_blocked {accounts : List SeedAccount}
    {post : Unit → Stand Db Writes → Prop} (ready : Ready stand)
    (good : ∀ account ∈ accounts, account.Good)
    (refused : ∀ failure, failed failure stand.db)
    (blocked : ∃ account ∈ accounts, ∃ email ∈ account.address runtime,
      Blocked stand.view email) :
    (seedAll runtime accounts).serially clock post failed stand := by
  induction accounts generalizing stand with
  | nil =>
      obtain ⟨account, listed, -⟩ := blocked
      exact absurd listed List.not_mem_nil
  | cons account rest ih =>
      rw [List.forall_mem_cons] at good
      unfold seedAll
      rw [Program.serially_bind]
      by_cases here : ∃ email ∈ account.address runtime,
          Blocked stand.view email
      · obtain ⟨email, address, deleted⟩ := here
        exact serially_seedAccount_blocked good.1.valid ready address deleted
          refused
      · have later : ∃ account ∈ rest, ∃ email ∈ account.address runtime,
            Blocked stand.view email := by
          obtain ⟨other, listed, blocked⟩ := blocked
          rcases List.mem_cons.mp listed with rfl | listed
          · exact absurd blocked here
          · exact ⟨other, listed, blocked⟩
        cases address : account.address runtime with
        | none =>
            exact serially_seedAccount_none address
              (ih ready good.2 refused later)
        | some email =>
            by_cases present : Present stand.view email
            · exact serially_seedAccount_present good.1.valid address present
                (ih ready good.2 refused later)
            · have unheld :
                  ¬∃ row ∈ stand.view.users, row.email = some email :=
                fun held => here ⟨email, address, held, present⟩
              refine serially_seedAccount_free good.1.valid good.1.role ready
                address unheld fun row id named live => ?_
              refine ih (ready.insert id) good.2 refused ?_
              obtain ⟨other, listed, wanted, owned, deleted⟩ := later
              refine ⟨other, listed, wanted, owned, ?_⟩
              have apart : wanted ≠ email := by
                rintro rfl
                exact unheld deleted.1
              exact deleted.insert id ready fun same =>
                apart (Option.some.inj (same.symm.trans named))

/-- With every account in place the loop writes nothing. -/
theorem serially_seedAll_present {accounts : List SeedAccount}
    {post : Unit → Stand Db Writes → Prop}
    (good : ∀ account ∈ accounts, account.Good)
    (present : ∀ account ∈ accounts, ∀ email ∈ account.address runtime,
      Present stand.view email) (done : post () stand) :
    (seedAll runtime accounts).serially clock post failed stand := by
  induction accounts with
  | nil => exact done
  | cons account rest ih =>
      rw [List.forall_mem_cons] at good present
      unfold seedAll
      rw [Program.serially_bind]
      have next := ih good.2 present.2
      cases address : account.address runtime with
      | none => exact serially_seedAccount_none address next
      | some email =>
          exact serially_seedAccount_present good.1.valid address
            (present.1 email address) next

theorem check_eq {accounts : List SeedAccount}
    (valid : ∀ account ∈ accounts, account.Valid) :
    check accounts = pure () := by
  induction accounts with
  | nil => rfl
  | cons account rest ih =>
      rw [List.forall_mem_cons] at valid
      have long : ((given account.password).any fun password =>
          decide (Text.length password < 12)) = false := by
        rw [Option.any_eq_false]
        intro password supplied
        exact decide_eq_false
          (Nat.not_lt.mpr (valid.1.2 password supplied).1)
      unfold check
      rw [if_neg (not_not.mpr valid.1.1), long, ih valid.2]
      rfl

theorem good_accounts
    (valid : ∀ account ∈ accounts settings, account.Valid) :
    ∀ account ∈ accounts settings, account.Good := by
  refine fun account listed => ⟨valid account listed, ?_⟩
  rcases List.mem_cons.mp listed with rfl | listed
  · exact .inl rfl
  · rw [List.mem_singleton.mp listed]
    exact .inr rfl

/-- The role has the name it is seeded with. -/
def Named (db : Db) (id : Nat) (name : String) : Prop :=
  ∃ row, db.roles.find id = some row ∧ row.name = name

theorem serially_upsertRole {id : Nat} {name : String}
    {post : Unit → Stand Db Writes → Prop}
    (step : ∀ row : RoleRow, row.id = id → row.name = name →
      (Named stand.view id name → row ∈ stand.view.roles) →
        post () (stand.write { roles := [.put row] })) :
    (upsertRole id name).serially clock post failed stand := by
  rw [upsertRole, serially_execute]
  cases found : stand.view.roles.find id with
  | none =>
      refine step _ rfl rfl fun ⟨row, stored, _⟩ => ?_
      rw [found] at stored
      cases stored
  | some row =>
      obtain ⟨member, same⟩ := Table.find_eq_some.mp found
      refine step _ same rfl fun ⟨other, stored, named⟩ => ?_
      rw [found] at stored
      cases stored
      rw [← named]
      exact member

theorem named_write {row : RoleRow} {id : Nat} {name : String}
    (named : row.id = id → row.name = name)
    (before : row.id = id ∨ Named stand.view id name) :
    Named (stand.write { roles := [.put row] }).view id name := by
  unfold Named
  rw [Stand.view_write, Db.apply_roles, Table.applyAll_put, Table.find_put]
  by_cases same : id = row.id
  · exact ⟨row, if_pos same, named same.symm⟩
  · rw [if_neg (show ¬id = Relational.key row from same)]
    exact before.resolve_left fun hit => same hit.symm

/-- Roles and accounts are as seeding leaves them. -/
structure Settled (runtime : Runtime) (settings : SeedVariables) (db : Db) :
    Prop where
  admin : Named db RoleId.admin "Admin"
  user : Named db RoleId.user "User"
  present : ∀ account ∈ accounts settings, ∀ email ∈ account.address runtime,
    Present db email

theorem view_write_of_mem {row : RoleRow} (member : row ∈ stand.view.roles) :
    (stand.write { roles := [.put row] }).view = stand.view := by
  rw [Stand.view_write]
  have same : stand.view.roles.put row = stand.view.roles :=
    Table.put_of_mem member
  change { stand.view with roles := stand.view.roles.put row } = stand.view
  rw [same]

/-- Seeding again changes nothing. -/
theorem outcome_settled {moment : Moment}
    (valid : ∀ account ∈ accounts settings, account.Valid)
    (settled : Settled runtime settings moment.db) :
    moment.outcome (run runtime settings) = (.ok (), moment.db) := by
  rw [moment.outcome_iff (· = (.ok (), moment.db)), run, check_eq valid]
  rw [pure_bind, Program.serially_transaction, Program.serially_bind]
  have start : (moment.stand.started moment.clock).view = moment.db := by
    rw [Stand.view_started, Moment.view_stand]
  refine serially_upsertRole fun admin _ _ stored => ?_
  have first := view_write_of_mem (stored (start ▸ settled.admin))
  rw [Program.serially_bind]
  refine serially_upsertRole fun user _ _ stored => ?_
  have second := view_write_of_mem
    (stored (first.trans start ▸ settled.user))
  have same := second.trans (first.trans start)
  refine serially_seedAll_present (good_accounts valid)
    (same ▸ settled.present) ?_
  rw [Stand.db_commit, same]

/-- What holds of a state with fresh identifiers when the loop begins. -/
theorem serially_run {moment : Moment} {post : Unit → Stand Db Writes → Prop}
    (valid : ∀ account ∈ accounts settings, account.Valid)
    (fresh : ∀ index, ∀ row ∈ moment.db.users, row.id ≠ moment.draws index)
    (distinct : Function.Injective moment.draws)
    (step : ∀ here : Stand Db Writes, Ready here → here.db = moment.db →
      here.view.users = moment.db.users →
        Named here.view RoleId.admin "Admin" →
          Named here.view RoleId.user "User" →
            (seedAll runtime (accounts settings)).serially moment.clock
              (fun value later => post value later.commit) failed here) :
    (run runtime settings).serially moment.clock post failed moment.stand := by
  rw [run, check_eq valid]
  rw [pure_bind, Program.serially_transaction, Program.serially_bind]
  refine serially_upsertRole fun admin adminId adminName _ => ?_
  rw [Program.serially_bind]
  refine serially_upsertRole fun user userId userName _ => ?_
  let here := ((moment.stand.started moment.clock).write
    { roles := [.put admin] }).write { roles := [.put user] }
  have users : here.view.users = moment.db.users := by
    rw [Stand.view_write, Db.apply_users, Stand.view_write, Db.apply_users,
      Stand.view_started, Moment.view_stand]
    rfl
  have adminNamed : Named here.view RoleId.admin "Admin" := by
    refine named_write (fun same => ?_)
      (.inr (named_write (fun _ => adminName) (.inl adminId)))
    exact absurd (userId.symm.trans same) (by decide)
  have userNamed : Named here.view RoleId.user "User" :=
    named_write (fun _ => userName) (.inl userId)
  refine step here ⟨?_, distinct, ?_⟩ rfl users adminNamed userNamed
  · rw [users]
    exact fresh
  · intro role known
    rcases known with rfl | rfl
    · obtain ⟨row, stored, -⟩ := adminNamed
      rw [stored]
      rfl
    · obtain ⟨row, stored, -⟩ := userNamed
      rw [stored]
      rfl

/-- The state after further runs, each at a time and with draws of its own. -/
def rerun (runtime : Runtime) (settings : SeedVariables) :
    List (Nat × (Nat → Nat)) → Db → Db
  | [], db => db
  | (clock, draws) :: later, db =>
      rerun runtime settings later
        (Moment.outcome ⟨db, clock, draws⟩ (run runtime settings)).2

/-- What is expected of seeding at a moment. -/
structure Repeatable (runtime : Runtime) (settings : SeedVariables)
    (moment : Moment) : Prop where
  succeeds : moment.response (run runtime settings) = .ok ()
  kept : ∀ row ∈ moment.db.users,
    row ∈ (moment.outcome (run runtime settings)).2.users
  again : ∀ later : Moment,
    later.db = (moment.outcome (run runtime settings)).2 →
      later.response (run runtime settings) = .ok ()
  same : ∀ runs,
    rerun runtime settings runs (moment.outcome (run runtime settings)).2 =
      (moment.outcome (run runtime settings)).2

theorem rerun_settled {db : Db}
    (valid : ∀ account ∈ accounts settings, account.Valid)
    (settled : Settled runtime settings db) (runs : List (Nat × (Nat → Nat))) :
    rerun runtime settings runs db = db := by
  induction runs with
  | nil => rfl
  | cons turn later ih =>
      have once : Moment.outcome ⟨db, turn.1, turn.2⟩ (run runtime settings) =
          (.ok (), db) := outcome_settled valid settled
      unfold rerun
      rw [once]
      exact ih

/-- What the first run leaves behind. -/
theorem outcome_run {moment : Moment}
    (valid : ∀ account ∈ accounts settings, account.Valid)
    (fresh : ∀ index, ∀ row ∈ moment.db.users, row.id ≠ moment.draws index)
    (distinct : Function.Injective moment.draws)
    (free : ∀ account ∈ accounts settings, ∀ email ∈ account.address runtime,
      ¬Blocked moment.db email) :
    moment.response (run runtime settings) = .ok () ∧
      (∀ row ∈ moment.db.users,
        row ∈ (moment.outcome (run runtime settings)).2.users) ∧
      Settled runtime settings (moment.outcome (run runtime settings)).2 := by
  rw [Moment.response, moment.outcome_iff fun outcome => outcome.1 = .ok () ∧
    (∀ row ∈ moment.db.users, row ∈ outcome.2.users) ∧
      Settled runtime settings outcome.2]
  refine serially_run valid fresh distinct
    fun here ready _ users admin user => ?_
  have blockedAlike : ∀ email, Blocked here.view email →
      Blocked moment.db email := by
    unfold Blocked Present
    rw [users]
    exact fun _ blocked => blocked
  have seeded := @serially_seedAll runtime moment.clock
    (fun failure db => (Except.error failure : Except Failure Unit) = .ok () ∧
      (∀ row ∈ moment.db.users, row ∈ db.users) ∧ Settled runtime settings db)
    here (accounts settings) ready (good_accounts valid)
    fun account listed email address blocked =>
      free account listed email address (blockedAlike email blocked)
  refine Program.serially_mono seeded (fun _ later seeded => ?_)
    fun _ _ failed => failed
  rw [Stand.db_commit]
  refine ⟨rfl, fun row member => seeded.kept row (users ▸ member), ?_⟩
  have named (id : Nat) (name : String) (before : Named here.view id name) :
      Named later.view id name := by
    unfold Named
    rw [seeded.roles]
    exact before
  exact ⟨named _ _ admin, named _ _ user, seeded.present⟩

/-- Seeding is repeatable at a moment unless an address of the settings
belongs to deleted accounts only. -/
theorem repeatable_iff (runtime : Runtime) (settings : SeedVariables)
    (moment : Moment)
    (valid : ∀ account ∈ accounts settings, account.Valid)
    (fresh : ∀ index, ∀ row ∈ moment.db.users, row.id ≠ moment.draws index)
    (distinct : Function.Injective moment.draws) :
    Repeatable runtime settings moment ↔
      ∀ account ∈ accounts settings, ∀ email ∈ account.address runtime,
        ¬Blocked moment.db email := by
  constructor
  · intro repeatable account listed email address blocked
    have fails : moment.response (run runtime settings) ≠ .ok () := by
      rw [Moment.response, moment.outcome_iff fun outcome =>
        outcome.1 ≠ .ok ()]
      refine serially_run valid fresh distinct
        fun here ready _ users _ _ => ?_
      refine serially_seedAll_blocked ready (good_accounts valid)
        (fun _ => nofun) ⟨account, listed, email, address, ?_⟩
      unfold Blocked Present
      rw [users]
      exact blocked
    exact fails repeatable.succeeds
  · intro free
    obtain ⟨succeeds, kept, settled⟩ := outcome_run valid fresh distinct free
    refine ⟨succeeds, kept, fun later same => ?_, rerun_settled valid settled⟩
    have settledThere : Settled runtime settings later.db := same ▸ settled
    rw [Moment.response, outcome_settled valid settledThere]

end

namespace Sample

/-- Only the second account is configured. -/
def oneAccount : SeedVariables where
  adminEmail := none
  adminPassword := some ""
  userEmail := some "seed"
  userPassword := some "a seed password"

/-- The deployment at some time; identifiers from a number on are new. -/
def moment (db : Db) (clock first : Nat) : Moment :=
  ⟨db, clock, fun index => first + index⟩

/-- The sample deployment seeded once. -/
def seeded : Db :=
  ((moment SaasFoundation.Sample.world.db 5 10).outcome
    (run SaasFoundation.Sample.runtime oneAccount)).2

/-- An administrator deletes the seeded account. -/
def removed : Db :=
  ((moment seeded 6 20).outcome (AccountsService.remove
    SaasFoundation.Sample.runtime .user 11 1)).2

theorem valid : ∀ account ∈ accounts oneAccount, account.Valid := by
  unfold SeedAccount.Valid
  decide +kernel

end Sample

/-- Seeding a deployment in which the address is not known. -/
theorem repeatable_iff_unseeded :
    Repeatable SaasFoundation.Sample.runtime Sample.oneAccount
        (Sample.moment SaasFoundation.Sample.world.db 5 10) ↔
      ∀ account ∈ accounts Sample.oneAccount,
        ∀ email ∈ account.address SaasFoundation.Sample.runtime,
          ¬Blocked SaasFoundation.Sample.world.db email := by
  refine repeatable_iff SaasFoundation.Sample.runtime Sample.oneAccount
    (Sample.moment SaasFoundation.Sample.world.db 5 10) Sample.valid ?_
    fun left right same => Nat.add_left_cancel same
  have small : ∀ row ∈ SaasFoundation.Sample.world.db.users, row.id < 10 := by
    decide
  intro index row member
  have bound := small row member
  change row.id ≠ 10 + index
  omega

/-- The account is seeded, deleted by an administrator, and seeding fails. -/
theorem deleted_account_stops_seeding :
    (∀ account ∈ accounts Sample.oneAccount, account.Valid) ∧
      (Sample.moment SaasFoundation.Sample.world.db 5 10).response
          (run SaasFoundation.Sample.runtime Sample.oneAccount) = .ok () ∧
      (Sample.moment Sample.seeded 6 20).response (AccountsService.remove
          SaasFoundation.Sample.runtime .user 11 1) = .ok () ∧
      (Sample.moment Sample.removed 7 30).response
          (run SaasFoundation.Sample.runtime Sample.oneAccount) =
        .error (.query .uniqueViolation (some .userEmail)) ∧
      ¬Repeatable SaasFoundation.Sample.runtime Sample.oneAccount
        (Sample.moment Sample.removed 7 30) := by
  have fails : (Sample.moment Sample.removed 7 30).response
      (run SaasFoundation.Sample.runtime Sample.oneAccount) =
        .error (.query .uniqueViolation (some .userEmail)) := by
    decide +kernel
  refine ⟨Sample.valid, by decide +kernel, by decide +kernel, fails, ?_⟩
  intro repeatable
  have succeeds := repeatable.succeeds
  rw [fails] at succeeds
  cases succeeds

end SeedService

end SaasFoundation
