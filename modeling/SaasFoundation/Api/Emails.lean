import SaasFoundation.Accounts.Emails
import SaasFoundation.Api.Runs
import SaasFoundation.Auth.Emails
import SaasFoundation.Database.Alone
import SaasFoundation.Workspaces.Emails

/-!
# Addresses in all requests, and while the database is seeded

Every request stores addresses as the index asks, and so does a seeding that
runs at the same time.  What follows about reachable states is that an address
names one account, whoever looks it up.
-/

namespace SaasFoundation

open Relational Transaction Emails

variable {runtime : Runtime} {Storable : String → Prop}
  {column : UniqueColumn} {mayDraw : Draw → Nat → Bool} {ρ τ : Type}

open AdminMutationService

namespace AccountCreditsService

theorem spares_insertCredit {id accountId currencyId : Nat} :
    Spares runtime Storable column (insertCredit id accountId currencyId)
      fun _ => True := by
  apply spares_statement
  intro now db value writes ran
  split at ran
  · cases ran
  · split at ran
    · obtain ⟨_, rfl⟩ := Prod.mk.inj (Except.ok.inj ran)
      exact ⟨⟨rfl, rfl⟩, trivial⟩
    · split at ran
      · cases ran
      · split at ran
        · cases ran
        · obtain ⟨_, rfl⟩ := Prod.mk.inj (Except.ok.inj ran)
          exact ⟨⟨rfl, rfl⟩, trivial⟩

theorem spares_insertEntry {id creditId actor : Nat}
    {body : CreditAdjustmentDto} :
    Spares runtime Storable column (insertEntry id creditId actor body)
      fun _ => True := by
  apply spares_statement
  intro now db value writes ran
  cases prepared : entryRow id creditId actor now body with
  | error failure => simp [prepared] at ran
  | ok row =>
      simp only [prepared] at ran
      split at ran
      · obtain ⟨_, rfl⟩ := Prod.mk.inj (Except.ok.inj ran)
        exact ⟨⟨rfl, rfl⟩, trivial⟩
      · split at ran
        · cases ran
        · split at ran
          · cases ran
          · obtain ⟨_, rfl⟩ := Prod.mk.inj (Except.ok.inj ran)
            exact ⟨⟨rfl, rfl⟩, trivial⟩

theorem spares_increment {id : Nat} {amount : Int} :
    Spares runtime Storable column (increment id amount) fun _ => True := by
  apply spares_statement
  intro now db value writes ran
  cases stored : db.credits.find id with
  | none =>
      obtain rfl : (∅ : Writes) = writes := by simpa [stored] using ran
      exact ⟨⟨rfl, rfl⟩, trivial⟩
  | some row =>
      cases sum : Numeric.ofUnits (row.balance.units + amount) with
      | none => simp [stored, sum] at ran
      | some balance =>
          obtain rfl : ({ credits :=
              [.put { row with balance, updatedAt := now }] } : Writes) =
              writes := by simpa [stored, sum] using ran
          exact ⟨⟨rfl, rfl⟩, trivial⟩

theorem spares_findCredit {accountId currencyId : Nat} :
    Spares runtime Storable column (findCredit accountId currencyId)
      fun _ => True := by
  unfold findCredit
  simp only [Program.writes_bind, spares_query]
  intro now db valid
  cases creditOf db accountId currencyId <;> trivial

theorem spares_findCreditById {id : Nat} :
    Spares runtime Storable column (findCreditById id) fun _ => True := by
  unfold findCreditById
  simp only [Program.writes_bind, spares_query]
  intro now db valid
  cases db.credits.find id <;> trivial

theorem spares_replay {creditId actor : Nat} {body : CreditAdjustmentDto} :
    Spares runtime Storable column (replay creditId actor body) fun _ => True := by
  unfold replay existsBy
  simp only [Program.writes_bind, spares_query]
  intro now db valid
  split
  · trivial
  · exact Program.Writes.bind spares_findCreditById fun _ _ => trivial

theorem spares_book {creditId actor : Nat} {body : CreditAdjustmentDto} :
    Spares runtime Storable column (book creditId actor body) fun _ => True := by
  unfold book
  simp only [Program.writes_bind]
  exact spares_increment.mono fun _ _ => spares_findCreditById.mono fun _ _ =>
    spares_audit.mono fun _ _ => trivial

theorem adjust_respects {body : CreditAdjustmentDto} {actor : Nat} :
    Respects runtime Storable column mayDraw ρ τ (adjust body actor)
      fun _ => True := by
  unfold adjust
  split
  · exact Index.Respects.fail
  · apply Index.Respects.mapError
    apply Index.Respects.transaction
    apply Index.Respects.ofWrites
    unfold applyOnce
    simp only [Program.writes_bind, Program.writes_draw]
    refine fun creditId => spares_insertCredit.mono fun _ _ =>
      spares_findCredit.mono fun credit _ entryId =>
        spares_insertEntry.mono fun inserted _ => ?_
    split
    · exact spares_replay
    · exact spares_book

end AccountCreditsService

/-- A service whose result is passed on. -/
theorem reply_respects {α : Type} {service : Tx α} {reply : α → Reply}
    (respects : Respects runtime Storable column mayDraw ρ τ service fun _ => True) :
    Respects runtime Storable column mayDraw ρ τ (service.reply reply)
      fun _ => True := by
  apply Index.Respects.bind respects
  exact fun _ _ => Index.Respects.ofWrites trivial

theorem WorkspaceCall.respects {call : WorkspaceCall}
    (transformed : (Request.workspace call).Transformed runtime Storable) :
    Respects runtime Storable column mayDraw ρ τ (call.program runtime)
      fun _ => True := by
  cases call with
  | list userId => exact reply_respects query_respects
  | create => exact reply_respects WorkspacesService.create_respects
  | details => exact reply_respects WorkspacesService.details_respects
  | rename => exact reply_respects WorkspacesService.rename_respects
  | invite =>
      exact reply_respects (WorkspacesService.invite_respects transformed)
  | accept => exact reply_respects WorkspacesService.accept_respects
  | revoke => exact reply_respects WorkspacesService.revoke_respects
  | changeMember => exact reply_respects WorkspacesService.changeMember_respects

theorem AccountCall.respects {call : AccountCall}
    (transformed : (Request.account call).Transformed runtime Storable) :
    Respects runtime Storable column mayDraw ρ τ (call.program runtime)
      fun _ => True := by
  cases call with
  | save => exact reply_respects (AccountsService.save_respects transformed)
  | remove => exact reply_respects AccountsService.remove_respects

theorem AuthCall.respects {config : AuthConfig} {call : AuthCall}
    (links : LinksAdmissible runtime Storable)
    (sent : (Request.auth call).Transformed runtime Storable) :
    Respects runtime Storable column mayDraw ρ τ (call.program runtime config)
      fun _ => True := by
  cases call with
  | validateLogin => exact reply_respects AuthService.validateLogin_respects
  | register => exact reply_respects (AuthService.register_respects sent)
  | resendConfirmation =>
      exact reply_respects
        (Index.Respects.ofWrites AuthService.spares_resendConfirmation)
  | forgotPassword =>
      exact reply_respects
        (Index.Respects.ofWrites AuthService.spares_forgotPassword)
  | confirmEmail =>
      exact reply_respects
        (AuthService.confirmEmail_respects links)
  | confirmNewEmail =>
      exact reply_respects
        (AuthService.confirmNewEmail_respects links)
  | resetPassword => exact reply_respects AuthService.resetPassword_respects
  | update => exact reply_respects AuthService.update_respects
  | refreshToken => exact reply_respects AuthService.refreshToken_respects
  | logout =>
      exact reply_respects SessionRepository.deleteById_respects
  | softDelete => exact reply_respects AuthService.softDelete_respects
  | validate =>
      exact reply_respects
        (Index.Respects.ofWrites JwtStrategy.spares_validate)

theorem RoleCall.respects {actor : Nat} {call : RoleCall} :
    Respects runtime Storable column mayDraw ρ τ (call.program actor)
      fun _ => True := by
  cases call with
  | create => exact reply_respects AdminRolesController.create_respects
  | update => exact reply_respects AdminRolesController.update_respects
  | remove => exact reply_respects AdminRolesController.remove_respects

theorem GuardedCall.respects {config : AuthConfig} {payload : JwtPayload}
    {call : GuardedCall}
    (transformed : (Request.guarded payload call).Transformed runtime
      Storable) :
    Respects runtime Storable column mayDraw ρ τ (call.program runtime config payload)
      fun _ => True := by
  apply Index.Respects.bind (Index.Respects.ofWrites
    JwtStrategy.spares_validate)
  intro identity _
  split
  · cases call with
    | save =>
        exact reply_respects (AccountsService.save_respects transformed)
    | remove => exact reply_respects AccountsService.remove_respects
    | update => exact reply_respects AuthService.update_respects
    | softDelete => exact reply_respects AuthService.softDelete_respects
  · exact Index.Respects.fail

theorem Request.respects {environment : Environment} {request : Request}
    (links : LinksAdmissible environment.runtime Storable)
    (sent : request.Transformed environment.runtime Storable) :
    Respects environment.runtime Storable column mayDraw ρ τ
      (request.program environment) fun _ => True := by
  cases request with
  | workspace call => exact WorkspaceCall.respects sent
  | account call => exact AccountCall.respects sent
  | auth call => exact AuthCall.respects links sent
  | adjust => exact reply_respects AccountCreditsService.adjust_respects
  | role => exact RoleCall.respects
  | guarded => exact GuardedCall.respects sent
  | admin identity call =>
      cases call with
      | save => exact reply_respects (AccountsService.save_respects sent)
      | remove => exact reply_respects AccountsService.remove_respects
      | role => exact RoleCall.respects
      | adjust => exact reply_respects AccountCreditsService.adjust_respects

/-- A request, or a run of the seed command. -/
inductive Job where
  | request (request : Request)
  | seed (settings : SeedVariables)
  deriving DecidableEq

def Job.program (environment : Environment) : Job → Tx Reply
  | .request call => call.program environment
  | .seed settings =>
      (SeedService.run environment.runtime settings).reply fun _ => .none

namespace Api

/-- The requests of `system`, and seedings with the settings `seeds` lets
through. -/
def jobs (environment : Environment) (admits : Request → Bool)
    (seeds : SeedVariables → Bool) :
    System Db Writes Lock Draw Failure Job Reply where
  program := Job.program environment
  mayStart db
    | .request request => (system environment admits).mayStart db request
    | .seed settings => seeds settings
  mayDraw := Api.mayDraw environment

/-- Addresses that may be stored, as the callers and the settings supply them. -/
structure Supplies (environment : Environment) (Storable : String → Prop)
    (admits : Request → Bool) (seeds : SeedVariables → Bool) : Prop where
  requests : ∀ request, admits request = true →
    request.Transformed environment.runtime Storable
  seeds : ∀ settings, seeds settings = true →
    SeedService.Admits environment.runtime Storable settings
  links : LinksAdmissible environment.runtime Storable

/-- Before the first account. -/
structure Vacant (db : Db) : Prop where
  users : db.users = ∅
  invitations : db.invitations = ∅

theorem Vacant.sound {db : Db} (vacant : Vacant db) :
    (userIndex runtime Storable column).Sound db := by
  refine ⟨?_, ?_, ?_⟩
  · intro left member
    exact absurd (vacant.users ▸ member) (Table.not_mem_empty left)
  · rw [vacant.users]
    exact fun row member => absurd member (Table.not_mem_empty row)
  · rw [vacant.invitations]
    exact fun row member => absurd member (Table.not_mem_empty row)

/-- The index of the column is never violated, and all addresses stored are
among those that may be. -/
theorem sound_of_supplies {environment : Environment}
    {admits : Request → Bool} {seeds : SeedVariables → Bool}
    {world : World Db Writes Draw Job}
    {config : Config Db Writes Lock Draw Failure Job Reply}
    (supplies : Supplies environment Storable admits seeds)
    (sound : (userIndex environment.runtime Storable column).Sound world.db)
    (reachable :
      (jobs environment admits seeds).Reachable (.idle world) config) :
    (userIndex environment.runtime Storable column).Sound config.world.db := by
  apply Index.sound_of_reachable ?_ sound reachable
  intro state job starts
  refine ⟨fun _ => True, ?_⟩
  cases job with
  | request request =>
      have admitted := (Bool.and_eq_true_iff.mp starts).1
      exact request.respects supplies.links (supplies.requests request admitted)
  | seed settings =>
      exact reply_respects
        (SeedService.run_respects (supplies.seeds settings starts))

/-- An address as `trim` and `toLowerCase` leave it. -/
def Normal (runtime : Runtime) (Admitted : String → Prop) (email : String) :
    Prop :=
  ∃ raw, Admitted raw ∧ email = lowerCaseTransformer runtime raw

section Normal

variable {runtime : Runtime} {Admitted : String → Prop} {email : String}

theorem Normal.fixed (normal : Normal runtime Admitted email)
    (lowers : LowerCases runtime Admitted) :
    lowerCaseTransformer runtime email = email := by
  obtain ⟨raw, admitted, rfl⟩ := normal
  exact lowers.fixed admitted

theorem Normal.lowered (normal : Normal runtime Admitted email)
    (lowers : LowerCases runtime Admitted) :
    runtime.toLowerCase email = email := by
  obtain ⟨raw, admitted, rfl⟩ := normal
  exact lowers.idempotent raw admitted

/-- The database server lowers nothing either. -/
theorem Normal.lower (normal : Normal runtime Admitted email)
    (lowers : LowerCases runtime Admitted) : runtime.lower email = email := by
  have lowered := normal.lowered lowers
  obtain ⟨raw, admitted, rfl⟩ := normal
  exact (lowers.agrees raw admitted).trans lowered

end Normal

/-- What is assumed of lower-casing, the callers, the settings and the links. -/
structure Addressed (environment : Environment) (Admitted : String → Prop)
    (admits : Request → Bool) (seeds : SeedVariables → Bool) : Prop where
  lowers : LowerCases environment.runtime Admitted
  requests : ∀ request, admits request = true →
    request.Transformed environment.runtime (Normal environment.runtime Admitted)
  seeds : ∀ settings, seeds settings = true →
    ∀ account ∈ SeedService.accounts settings, ∀ email,
      SeedService.given account.email = some email → Admitted email
  links : Unforged environment.runtime admits

/-- Addresses are stored transformed, and name one account each, whoever looks
it up. -/
structure OneAddressing (runtime : Runtime) (db : Db) : Prop where
  users : ∀ row ∈ db.users, ∀ email, row.email = some email →
    lowerCaseTransformer runtime email = email
  invitations : ∀ row ∈ db.invitations,
    lowerCaseTransformer runtime row.email = row.email
  unique : ∀ left ∈ db.users, ∀ right ∈ db.users, ∀ first second,
    left.email = some first → right.email = some second →
    lowerCaseTransformer runtime first = lowerCaseTransformer runtime second →
    left = right
  /-- What `findByEmail` answers. -/
  looked : ∀ email clock draws, email ≠ "" →
    Moment.response ⟨db, clock, draws⟩ (UserRepository.findByEmail email) =
      .ok ((UserRepository.liveByEmail db email).map UserMapper.toDomain)
  /-- It finds every account that is not deleted. -/
  found : ∀ email row, UserRepository.liveByEmail db email = some row ↔
    row ∈ db.users ∧ row.email = some email ∧ row.deletedAt = none
  /-- `invite` compares with `lower(u.email)`. -/
  invited : ∀ id email userId,
    userId ∈ WorkspacesService.membersWithEmail runtime db id email ↔
      MemberOf db id userId ∧ ∃ row,
        UserRepository.liveByEmail db email = some row ∧ row.id = userId
  /-- `accept` compares with `toLowerCase`. -/
  accepted : ∀ userId email,
    ((WorkspacesService.activeUser db userId).bind (·.email)).map
        runtime.toLowerCase = some email ↔
      ∃ row, UserRepository.liveByEmail db email = some row ∧
        row.id = userId ∧ row.Active

section

variable {db : Db}

theorem unique_email
    (unique : (userIndex runtime Storable .email).Unique db.users)
    {left right : UserRow} (leftMember : left ∈ db.users)
    (rightMember : right ∈ db.users) {email : String}
    (leftHas : left.email = some email) (rightHas : right.email = some email) :
    left = right :=
  unique left leftMember right rightMember (.userEmail email)
    (congrArg (Option.map Lock.userEmail) leftHas)
    (congrArg (Option.map Lock.userEmail) rightHas)

theorem liveByEmail_iff
    (unique : (userIndex runtime Storable .email).Unique db.users)
    {email : String} {row : UserRow} :
    UserRepository.liveByEmail db email = some row ↔
      row ∈ db.users ∧ row.email = some email ∧ row.deletedAt = none := by
  unfold UserRepository.liveByEmail
  constructor
  · intro found
    have holds := List.find?_some found
    exact ⟨List.mem_of_find?_eq_some found, of_decide_eq_true holds⟩
  · rintro ⟨member, has, live⟩
    cases found : db.users.rows.find? fun row =>
        row.email = some email ∧ row.deletedAt = none with
    | none =>
        have absent := List.find?_eq_none.mp found row member
        exact absurd (decide_eq_true ⟨has, live⟩) absent
    | some other =>
        have holds := List.find?_some found
        obtain ⟨otherHas, _⟩ := of_decide_eq_true holds
        exact congrArg some (unique_email unique
          (List.mem_of_find?_eq_some found) member otherHas has)

/-- Lower-casing a stored address changes nothing. -/
theorem map_stored {lower : String → String} {stored : Option String}
    (fixed : ∀ email, stored = some email → lower email = email) :
    stored.map lower = stored := by
  cases stored with
  | none => rfl
  | some email => exact congrArg some (fixed email rfl)

theorem oneAddressing {Admitted : String → Prop}
    (lowers : LowerCases runtime Admitted)
    (sound : (userIndex runtime (Normal runtime Admitted) .email).Sound db) :
    OneAddressing runtime db := by
  obtain ⟨unique, users, invitations⟩ := sound
  refine
    { users := ?_, invitations := ?_, unique := ?_, looked := ?_
      found := fun email row => liveByEmail_iff unique
      invited := ?_, accepted := ?_ }
  · exact fun row member email has => (users row member email has).fixed lowers
  · exact fun row member => (invitations row member).fixed lowers
  · intro left leftMember right rightMember first second leftHas rightHas same
    rw [(users left leftMember first leftHas).fixed lowers,
      (users right rightMember second rightHas).fixed lowers] at same
    exact unique_email unique leftMember rightMember leftHas (same ▸ rightHas)
  · intro email clock draws given
    unfold UserRepository.findByEmail
    rw [if_neg given]
    rfl
  · intro id email userId
    have same (user : UserRow) (member : user ∈ db.users) :
        user.email.map runtime.lower = user.email :=
      map_stored fun address has => (users user member address has).lower lowers
    simp only [WorkspacesService.membersWithEmail, List.mem_filterMap,
      List.mem_filter, decide_eq_true_eq, Option.map_eq_some_iff,
      Option.filter_eq_some_iff, liveByEmail_iff unique]
    constructor
    · rintro ⟨row, ⟨rowMember, here⟩, user, ⟨stored, test⟩, rfl⟩
      obtain ⟨member, joined⟩ := Table.find_eq_some.mp stored
      rw [← Option.map_eq_some_iff, same user member,
        Option.isNone_iff_eq_none] at test
      exact ⟨⟨row, rowMember, here, joined.symm⟩, user,
        ⟨member, test.2, test.1⟩, rfl⟩
    · rintro ⟨⟨row, rowMember, here, joined⟩, user, ⟨member, has, live⟩, rfl⟩
      have stored := Table.find_eq_some.mpr ⟨member, joined.symm⟩
      refine ⟨row, ⟨rowMember, here⟩, user, ⟨stored, ?_⟩, rfl⟩
      rw [← Option.map_eq_some_iff, same user member,
        Option.isNone_iff_eq_none]
      exact ⟨live, has⟩
  · intro userId email
    have same (user : UserRow) (member : user ∈ db.users) :
        user.email.map runtime.toLowerCase = user.email :=
      map_stored fun address has =>
        (users user member address has).lowered lowers
    simp only [liveByEmail_iff unique]
    constructor
    · intro asked
      cases found : WorkspacesService.activeUser db userId with
      | none => simp [found] at asked
      | some user =>
          obtain ⟨stored, active⟩ := Option.filter_eq_some_iff.mp found
          obtain ⟨member, rfl⟩ := Table.find_eq_some.mp stored
          rw [found, Option.bind_some, same user member] at asked
          have alive := of_decide_eq_true active
          exact ⟨user, ⟨member, asked, alive.1⟩, rfl, alive⟩
    · rintro ⟨user, ⟨member, has, live⟩, rfl, active⟩
      have found : WorkspacesService.activeUser db user.id = some user :=
        Option.filter_eq_some_iff.mpr
          ⟨Table.find_eq_some.mpr ⟨member, rfl⟩, decide_eq_true active⟩
      rw [found, Option.bind_some, same user member]
      exact has

end

/-- From a database without accounts, in every state that requests and seedings
reach in any interleaving. -/
theorem addressing_of_reachable (environment : Environment)
    (Admitted : String → Prop) (admits : Request → Bool)
    (seeds : SeedVariables → Bool) (world : World Db Writes Draw Job)
    (config : Config Db Writes Lock Draw Failure Job Reply)
    (addressed : Addressed environment Admitted admits seeds)
    (vacant : Vacant world.db)
    (reachable :
      (jobs environment admits seeds).Reachable (.idle world) config) :
    OneAddressing environment.runtime config.world.db := by
  have supplies : Supplies environment (Normal environment.runtime Admitted)
      admits seeds :=
    { requests := addressed.requests
      seeds := fun settings starts account listed email given =>
        ⟨email, addressed.seeds settings starts account listed email given, rfl⟩
      links := addressed.links.admissible addressed.requests }
  exact oneAddressing addressed.lowers
    (sound_of_supplies supplies vacant.sound reachable)

end Api

namespace Sample

/-- `toLowerCase` on ASCII text. -/
def lowerAscii (text : String) : String :=
  String.ofList (text.toList.map Char.toLower)

/-- Addresses as they are typed. -/
def typed : List String :=
  ["  Ada@Example.org ", "Bob@Example.org", " Carol@Example.org"]

/-- The account of the run below when its email-change link is signed. -/
def bob : User :=
  UserMapper.toDomain
    { UserMapper.unsaved 7 5 with
      email := some "bob@example.org"
      password := some "bob's password"
      firstName := some "Bob"
      lastName := some "B"
      roleId := some RoleId.user
      statusId := some StatusId.active }

def bobsLink : LinkClaims :=
  { AuthService.confirmationClaims bob with
    newEmail := some "carol@example.org" }

/-- One link has been signed. -/
def addressRuntime : Runtime :=
  { Sample.runtime with
    toLowerCase := lowerAscii
    lower := lowerAscii
    sign := fun claims secret =>
      if claims = bobsLink ∧ secret = AuthService.confirmationSecret bob then
        "link" else ""
    decode := fun hash => if hash = "link" then some bobsLink else none
    verify := fun hash secret =>
      if hash = "link" ∧ secret = AuthService.confirmationSecret bob then
        some bobsLink else none }

def addressEnvironment : Environment :=
  { environment with
    runtime := addressRuntime, config := ⟨true, false⟩ }

def registration : Request :=
  .auth (.register
    { email := lowerCaseTransformer addressRuntime "Bob@Example.org"
      password := "bob's password", firstName := "Bob", lastName := "B" })

def asksForAddress : Request :=
  .auth (.update ⟨7, 1, some RoleId.user⟩
    { email :=
        some (lowerCaseTransformer addressRuntime " Carol@Example.org") })

def changesAddress : Request := .auth (.confirmNewEmail "link")

def seedSettings : SeedVariables where
  adminEmail := some "  Ada@Example.org "
  adminPassword := some "ada's password"
  userEmail := none
  userPassword := none

def addressAdmits (request : Request) : Bool :=
  request ∈ [registration, asksForAddress, changesAddress]

def addressSeeds (settings : SeedVariables) : Bool :=
  settings = seedSettings

def vacantWorld : World Db Writes Draw Job where
  db := { world.db with users := ∅ }
  clock := 5
  commits := []
  drawn := []
  nextTid := 0

def serveJob (job : Job) (value steps : Nat) : List (Choice Job) :=
  .arrive job :: List.replicate steps (.advance 0 value)

/-- An account is registered, changes its address, and another is seeded. -/
def addressed : Config Db Writes Lock Draw Failure Job Reply :=
  (Api.jobs addressEnvironment addressAdmits addressSeeds).after
    (serveJob (.request registration) 7 7 ++
      (serveJob (.request asksForAddress) 0 6 ++
        (serveJob (.request changesAddress) 0 9 ++
          serveJob (.seed seedSettings) 9 9))) (.idle vacantWorld)

theorem addressed_reachable :
    (Api.jobs addressEnvironment addressAdmits addressSeeds).Reachable
      (.idle vacantWorld) addressed :=
  System.reachable_after _ _ _

theorem addressSupplies : Api.Addressed addressEnvironment (· ∈ typed)
    addressAdmits addressSeeds where
  lowers :=
    { idempotent := by decide +kernel
      trimmed := by decide +kernel
      agrees := by decide +kernel }
  requests request admitted := by
    have listed := of_decide_eq_true admitted
    simp only [List.mem_cons, List.not_mem_nil, or_false] at listed
    rcases listed with rfl | rfl | rfl
    · exact ⟨"Bob@Example.org", by decide, rfl⟩
    · rintro _ ⟨⟩
      exact ⟨" Carol@Example.org", by decide, rfl⟩
    · trivial
  seeds settings starts := by
    obtain rfl := of_decide_eq_true starts
    decide +kernel
  links hash secret claims verified := by
    change (if _ then some bobsLink else none) = some claims at verified
    obtain ⟨_, ⟨⟩⟩ := Option.ite_none_right_eq_some.mp verified
    exact .emailChange bob "carol@example.org" asksForAddress _ _
      (by decide +kernel) rfl (by decide +kernel)

end Sample

namespace Api

theorem addressing_of_reachable_addressed :
    OneAddressing Sample.addressRuntime Sample.addressed.world.db ∧
      Sample.addressed.world.db.users.rows.map (·.email) =
        [some "carol@example.org", some "ada@example.org"] :=
  ⟨addressing_of_reachable Sample.addressEnvironment (· ∈ Sample.typed)
      Sample.addressAdmits Sample.addressSeeds Sample.vacantWorld
      Sample.addressed Sample.addressSupplies ⟨rfl, rfl⟩
      Sample.addressed_reachable,
    by decide +kernel⟩

/-- Accounts, deleted ones included, share no address, no photo and no user
name up to letter case. -/
structure UniqueUsers (runtime : Runtime) (db : Db) : Prop where
  email : ∀ left ∈ db.users, ∀ right ∈ db.users, ∀ email,
    left.email = some email → right.email = some email → left = right
  photo : ∀ left ∈ db.users, ∀ right ∈ db.users, ∀ photo,
    left.photoId = some photo → right.photoId = some photo → left = right
  username : ∀ left ∈ db.users, ∀ right ∈ db.users, ∀ first second,
    left.username = some first → right.username = some second →
    runtime.lower first = runtime.lower second → left = right

theorem uniqueUsers_iff {db : Db} : UniqueUsers runtime db ↔
    ∀ column, (userIndex runtime (fun _ => True) column).Sound db := by
  constructor
  · intro unique column
    refine ⟨?_, fun _ _ _ _ => trivial, fun _ _ => trivial⟩
    intro left leftMember right rightMember lock leftHas rightHas
    cases column with
    | email =>
        obtain ⟨address, given, rfl⟩ := Option.map_eq_some_iff.mp leftHas
        obtain ⟨_, other, ⟨⟩⟩ := Option.map_eq_some_iff.mp rightHas
        exact unique.email left leftMember right rightMember address given other
    | photo =>
        obtain ⟨id, given, rfl⟩ := Option.map_eq_some_iff.mp leftHas
        obtain ⟨_, other, ⟨⟩⟩ := Option.map_eq_some_iff.mp rightHas
        exact unique.photo left leftMember right rightMember id given other
    | username =>
        obtain ⟨name, given, rfl⟩ := Option.map_eq_some_iff.mp leftHas
        obtain ⟨second, other, same⟩ := Option.map_eq_some_iff.mp rightHas
        exact unique.username left leftMember right rightMember name second
          given other (Lock.userName.inj same).symm
  · intro sound
    refine ⟨?_, ?_, ?_⟩
    · intro left leftMember right rightMember email leftHas rightHas
      exact unique_email (sound .email).unique leftMember rightMember leftHas
        rightHas
    · intro left leftMember right rightMember photo leftHas rightHas
      exact (sound .photo).unique left leftMember right rightMember
        (.userPhoto photo) (congrArg (Option.map Lock.userPhoto) leftHas)
        (congrArg (Option.map Lock.userPhoto) rightHas)
    · intro left leftMember right rightMember first second leftHas rightHas same
      refine (sound .username).unique left leftMember right rightMember
        (.userName (runtime.lower first)) ?_ ?_
      · exact Option.map_eq_some_iff.mpr ⟨first, leftHas, rfl⟩
      · exact Option.map_eq_some_iff.mpr ⟨second, rightHas, same ▸ rfl⟩

/-- Although the services check before they write, and check other rows than
the indexes do, no interleaving stores a key twice. -/
theorem uniqueUsers_of_reachable (environment : Environment)
    (admits : Request → Bool) (seeds : SeedVariables → Bool)
    (world : World Db Writes Draw Job)
    (config : Config Db Writes Lock Draw Failure Job Reply)
    (unique : UniqueUsers environment.runtime world.db)
    (reachable :
      (jobs environment admits seeds).Reachable (.idle world) config) :
    UniqueUsers environment.runtime config.world.db := by
  apply uniqueUsers_iff.mpr
  intro column
  refine sound_of_supplies ⟨?_, ?_, ?_⟩ (uniqueUsers_iff.mp unique column)
    reachable
  · intro request _
    unfold Request.Transformed
    split
    all_goals first | trivial | exact fun _ _ => trivial
  · exact fun _ _ _ _ _ _ => trivial
  · exact fun _ _ _ _ _ _ => trivial

theorem uniqueUsers_of_reachable_addressed :
    UniqueUsers Sample.addressRuntime Sample.addressed.world.db :=
  uniqueUsers_of_reachable Sample.addressEnvironment Sample.addressAdmits
    Sample.addressSeeds Sample.vacantWorld Sample.addressed
    (uniqueUsers_iff.mpr fun _ => Vacant.sound ⟨rfl, rfl⟩)
    Sample.addressed_reachable

end Api

end SaasFoundation
