import SaasFoundation.Accounting.Ledger
import SaasFoundation.Accounts.Audits
import SaasFoundation.Api.Unaudited
import SaasFoundation.Auth.Links

/-!
# The audit trail of a run

Whatever requests to the workspace, account, role, credit and authentication
services are interleaved, the audit table grows by the rows of committed
administrative mutations, in the order of their commits, and by nothing else.
The catalog and settings routes and the unblocking of logins append rows too
and are not among these requests.  A mutation that failed has left no row, one
that answered has left its own.
-/

namespace SaasFoundation

open Relational Transaction Audits Api

variable {environment : Environment} {owned : List (Draw × Nat)}

/-- What the writes of a committed request say about themselves. -/
def Request.Records (request : Request) (writes : Writes) : Prop :=
  match request.core with
  | .account (.save type _ actor id) =>
      AccountsService.SaveRecords type actor writes id
  | .account (.remove type id actor) =>
      AccountsService.RemoveRecords type id actor writes
  | .role call actor => call.Records actor writes
  | .adjust body actor =>
      AccountCreditsService.AdjustRecords body actor writes
  | _ => Silent writes

/-- The requests that write audit rows. -/
def Request.audited (request : Request) : Bool :=
  match request.core with
  | .account _ => true
  | .role _ _ => true
  | .adjust _ _ => true
  | _ => false

theorem respects_of_unaudited {program : Tx Reply} {records : Writes → Prop}
    (unaudited : Unaudited program)
    (silent : ∀ writes, Silent writes → records writes) :
    program.Publishes (Publishing records) (fun _ _ _ => True) owned ∅ := by
  have quiet : Silent ∅ := rfl
  apply unaudited.publishes quiet quiet
  · intro first second left right
    change first.activities ++ second.activities = []
    rw [left, right, List.nil_append]
  · exact fun owned writes pending => ⟨silent writes pending,
      .nothing pending⟩

theorem AccountCall.publishes {runtime : Runtime} (call : AccountCall) :
    (call.program runtime).Publishes
      (Publishing (Request.account call).Records) (fun _ _ _ => True) owned
      ∅ := by
  cases call with
  | save => exact publishes_reply AccountsService.publishes_save
  | remove => exact publishes_reply AccountsService.publishes_remove

theorem GuardedCall.publishes {payload : JwtPayload} {runtime : Runtime}
    {config : AuthConfig} (call : GuardedCall) :
    (call.program runtime config payload).Publishes
      (Publishing (Request.guarded payload call).Records) (fun _ _ _ => True)
      owned ∅ := by
  apply Program.Quiet.publishes_bind JwtStrategy.quiet_validate
  intro identity later ⟨same, _⟩
  split
  · cases call with
    | save type dto id =>
        have records : (Request.guarded payload (.save type dto id)).Records =
            (Request.account (.save type dto identity.payload.id id)).Records := by
          rw [same]
          rfl
        rw [records]
        exact AccountCall.publishes (.save type dto _ id)
    | remove type id =>
        have records : (Request.guarded payload (.remove type id)).Records =
            (Request.account (.remove type id identity.payload.id)).Records := by
          rw [same]
          rfl
        rw [records]
        exact AccountCall.publishes (.remove type id _)
    | update dto =>
        have unaudited : Unaudited
            ((AuthCall.update identity.payload dto).program runtime config) :=
          AuthCall.unaudited _
        exact respects_of_unaudited unaudited fun _ silent => silent
    | softDelete =>
        have unaudited : Unaudited
            ((AuthCall.softDelete identity.payload).program runtime config) :=
          AuthCall.unaudited _
        exact respects_of_unaudited unaudited fun _ silent => silent
  · trivial

theorem Request.publishes (request : Request) :
    (request.program environment).Publishes (Publishing request.Records)
      (fun _ _ _ => True) owned ∅ := by
  cases request with
  | workspace call =>
      exact respects_of_unaudited call.unaudited fun _ silent => silent
  | account call => exact call.publishes
  | auth call =>
      exact respects_of_unaudited call.unaudited fun _ silent => silent
  | adjust body actor =>
      exact publishes_reply AccountCreditsService.publishes_adjust
  | role call actor => exact call.publishes
  | guarded payload call => exact call.publishes
  | admin identity call =>
      cases call with
      | save type dto id => exact AccountCall.publishes (.save type dto _ id)
      | remove type id => exact AccountCall.publishes (.remove type id _)
      | role call => exact call.publishes
      | adjust body =>
          exact publishes_reply AccountCreditsService.publishes_adjust

open AdminMutationService

namespace AccountsService

variable {runtime : Runtime}

theorem inside_lockAccount {type : AccountType} {id : Nat} :
    (lockAccount type id).Inside := by
  apply Program.Inside.bind (.run _)
  intro found
  cases found <;> trivial

theorem inside_selectAccount {id : Nat} : (selectAccount id).Inside := by
  apply Program.Inside.bind (.run _)
  intro found
  cases found <;> trivial

theorem inside_prepare {type : AccountType} {dto : AdminAccountDto}
    {actor : Nat} {id : Option Nat} :
    (prepare runtime type dto actor id).Inside := by
  unfold prepare
  split
  · trivial
  · dsimp only
    split
    · trivial
    · apply inside_hashGiven.bind
      intro password
      split
      · trivial
      · split <;> trivial

theorem inside_checkUpdate {changes : AccountChanges} {actor id : Nat}
    {existing : UserRow} :
    (checkUpdate changes actor id existing).Inside := by
  have checked (left : AccountChanges) (critical : Prop)
      [Decidable critical] :
      (if critical then do
        let admins ← Tx.query fun _ db => adminCount db
        if admins ≤ 1 then
          Tx.throw (.badRequest
            "At least one active administrator is required")
        else pure left
      else pure left : Tx AccountChanges).Inside := by
    split
    · apply Program.Inside.bind (.run _)
      intro admins
      split <;> trivial
    · trivial
  unfold checkUpdate
  split
  · trivial
  · dsimp only
    split <;> apply checked

theorem inside_update {type : AccountType} {dto : AdminAccountDto}
    {actor id : Nat} {changes : AccountChanges} :
    (update runtime type dto actor id changes).Inside := by
  have stores (left : AccountChanges) :
      (storeChanges runtime id left).Inside := by
    unfold storeChanges
    split
    · trivial
    · exact inside_updateUser.bind fun _ => trivial
  have revokes (left : AccountChanges) : (revokeChanged id dto left).Inside := by
    unfold revokeChanged
    split
    · exact .run _
    · trivial
  apply inside_lockAccount.bind
  intro existing
  apply inside_checkUpdate.bind
  intro left
  apply (stores left).bind
  intro _
  apply (revokes left).bind
  intro _
  apply inside_audit.bind
  exact fun _ => inside_selectAccount

theorem inside_insert {type : AccountType} {actor : Nat}
    {changes : AccountChanges} :
    (insert runtime type actor changes).Inside := by
  apply Program.Inside.bind (.draw _)
  intro id
  apply Program.Inside.bind (.run _)
  intro _
  apply inside_audit.bind
  exact fun _ => inside_selectAccount

theorem atomic_save {type : AccountType} {dto : AdminAccountDto} {actor : Nat}
    {id : Option Nat} : (save runtime type dto actor id).Atomic := by
  apply inside_prepare.atomic
  intro changes
  apply atomic_mutate
  apply Program.Inside.bind (.run _)
  intro _
  cases id with
  | none => exact inside_insert
  | some id => exact inside_update

theorem atomic_remove {type : AccountType} {id actor : Nat} :
    (remove runtime type id actor).Atomic := by
  unfold remove
  split
  · trivial
  · apply atomic_mutate
    apply Program.Inside.bind (.run _)
    intro _
    apply inside_lockAccount.bind
    intro account
    split
    · trivial
    · apply (inside_updateUser.bind fun _ => trivial :
        (softDeleteUser runtime id).Inside).bind
      intro _
      apply Program.Inside.bind (.run _)
      exact fun _ => inside_audit

end AccountsService

theorem AdminRolesController.atomic_store {body : AdminRoleDto} {actor : Nat}
    {id : Option Nat} :
    (AdminStore.save resource body.values actor id).Atomic := by
  apply AdminStore.atomic_save
  · exact (Program.Inside.draw _).bind fun _ => .run _
  · exact fun _ => .run _

theorem AdminRolesController.inside_validate {body : AdminRoleDto} :
    (validate body).Inside := by
  unfold validate
  dsimp only
  split <;> trivial

theorem RoleCall.atomic {actor : Nat} (call : RoleCall) :
    (call.program actor).Atomic := by
  cases call with
  | create body =>
      apply Program.Atomic.map
      apply AdminRolesController.inside_validate.atomic
      exact fun _ => AdminRolesController.atomic_store
  | update id body =>
      apply Program.Atomic.map
      unfold AdminRolesController.update
      split
      · trivial
      · apply AdminRolesController.inside_validate.atomic
        exact fun _ => AdminRolesController.atomic_store
  | remove id =>
      apply Program.Atomic.map
      unfold AdminRolesController.remove
      split
      · trivial
      · exact AdminStore.atomic_remove (.run _)

namespace AccountCreditsService

theorem inside_findCreditById {id : Nat} : (findCreditById id).Inside := by
  apply Program.Inside.bind (.run _)
  intro found
  cases found <;> trivial

theorem atomic_adjust {body : CreditAdjustmentDto} {actor : Nat} :
    (adjust body actor).Atomic := by
  have finds : (findCredit body.accountId body.currencyId).Inside := by
    apply Program.Inside.bind (.run _)
    intro found
    cases found <;> trivial
  have replays (id : Nat) : (replay id actor body).Inside := by
    apply Program.Inside.bind (.run _)
    intro known
    split
    · trivial
    · exact inside_findCreditById.bind fun _ => trivial
  have books (id : Nat) : (book id actor body).Inside := by
    apply Program.Inside.bind (.run _)
    intro _
    apply inside_findCreditById.bind
    intro updated
    exact inside_audit.bind fun _ => trivial
  unfold adjust
  split
  · trivial
  · apply atomic_mutate
    apply Program.Inside.bind (.draw _)
    intro creditId
    apply Program.Inside.bind (.run _)
    intro _
    apply finds.bind
    intro credit
    apply Program.Inside.bind (.draw _)
    intro entryId
    apply Program.Inside.bind (.run _)
    intro inserted
    split
    · exact replays credit.id
    · exact books credit.id

end AccountCreditsService

theorem atomic_of_audited (environment : Environment) (request : Request)
    (audited : request.audited = true) :
    (request.program environment).Atomic := by
  cases request with
  | workspace | auth => cases audited
  | account call =>
      cases call with
      | save => exact AccountsService.atomic_save.map _
      | remove => exact AccountsService.atomic_remove.map _
  | adjust body actor => exact AccountCreditsService.atomic_adjust.map _
  | role call actor => exact call.atomic
  | guarded payload call =>
      have guards : (JwtStrategy.validate payload).Inside := by
        apply Program.Inside.bind (.run _)
        intro found
        cases found <;> trivial
      apply guards.atomic
      intro identity
      cases call with
      | update | softDelete => cases audited
      | save =>
          split
          · exact AccountsService.atomic_save.map _
          · trivial
      | remove =>
          split
          · exact AccountsService.atomic_remove.map _
          · trivial
  | admin identity call =>
      cases call with
      | save => exact AccountsService.atomic_save.map _
      | remove => exact AccountsService.atomic_remove.map _
      | role call => exact call.atomic
      | adjust => exact AccountCreditsService.atomic_adjust.map _

/-- The audit rows of a commit. -/
def auditRows (commit : DbCommit) : List ActivityRow :=
  storedRows commit.writes.activities

/-- In every reachable state of these services the audit table is the one at the
start followed by the rows of the committed requests, in the order of their
commits.  Each of these left what it must record, no two of them are of the same
request, and a request that answered is one of them, one that failed is not. -/
theorem trail_complete {admits : Request → Bool} {world : DbWorld}
    {config : DbConfig} (unlogged : world.commits = [])
    (drawn : ∀ row ∈ world.db.activities,
      (Draw.activityId, row.id) ∈ world.drawn)
    (reachable : (system environment admits).Reachable (.idle world) config) :
    config.world.db.activities.rows =
        world.db.activities.rows ++
          config.world.commits.reverse.flatMap auditRows ∧
      (∀ commit ∈ config.world.commits,
        commit.request.Records commit.writes) ∧
      (config.world.commits.Pairwise fun later earlier =>
        later.request.audited = true → earlier.tid ≠ later.tid) ∧
      ∀ thread ∈ config.threads,
        thread.context.request.audited = true →
          (∀ failure, thread.program = .fail failure →
            ∀ commit ∈ config.world.commits,
              commit.tid ≠ thread.context.tid) ∧
          ∀ reply, thread.program = .done reply →
            ∃ commit ∈ config.world.commits,
              commit.tid = thread.context.tid ∧
                commit.request = thread.context.request := by
  have kept : activityJournal.Kept Request.Records world.db.activities.rows
      config.world := by
    apply Journal.kept_of_reachable ?_ unlogged drawn reachable
    exact fun _ request _ => request.publishes
  refine ⟨kept.rows, kept.legal, ?_, ?_⟩
  · exact reachable.once unlogged (atomic_of_audited environment)
  · intro thread member audited
    exact reachable.atomic unlogged (atomic_of_audited environment) member
      audited

namespace Sample

/-- The second request repeats the first. -/
def adjustedTwice : DbConfig :=
  after (fun _ => true) (serve credit 9 12 ++ serve credit 10 9)

end Sample

/-- The adjustment is recorded, its repetition is not. -/
theorem trail_complete_adjustedTwice :
    Sample.adjustedTwice.world.commits.length = 2 ∧
      Sample.adjustedTwice.world.db.activities.rows =
        [⟨9, some 1, "credit.adjusted", "9", 5⟩] ∧
      ∀ commit ∈ Sample.adjustedTwice.world.commits,
        commit.request.Records commit.writes := by
  have reachable := Sample.reachable (fun _ => true)
    (Sample.serve Sample.credit 9 12 ++ Sample.serve Sample.credit 10 9)
  have trail := trail_complete rfl
    (fun _ member => absurd member (Table.not_mem_empty _)) reachable
  exact ⟨by decide +kernel, by decide +kernel, trail.2.1⟩

end SaasFoundation
