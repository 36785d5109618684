import SaasFoundation.Accounts.RolesVerification
import SaasFoundation.Accounts.Verification
import SaasFoundation.Users.Audits

/-!
# Audited mutations

An administrative mutation publishes its change together with one audit row:
who did it, what happened, and to which record.
-/

namespace SaasFoundation

open Relational Transaction

namespace Audits

/-- The audit table; its identifiers come from a sequence. -/
def activityJournal : Journal Db Writes Draw ActivityRow where
  table := Db.activities
  changes := Writes.activities
  sequence := .activityId
  table_apply _ _ := rfl

/-- One audit row: this actor, event and record. -/
def Audit (actor : Nat) (event uri : String) (writes : Writes) : Prop :=
  ∃ id now, writes.activities =
    [.put { id, operatorId := some actor, event, uri, createdAt := now }]

/-- Accounts are stored only in this shape. -/
def AccountsIn (shape : UserRow → Prop) (writes : Writes) : Prop :=
  ∀ change ∈ writes.users, ∃ row, change = .put row ∧ shape row

/-- What a commit must publish: the records asked for, audit rows under drawn
identifiers. -/
def Publishing (records : Writes → Prop) (owned : List (Draw × Nat))
    (writes : Writes) : Prop :=
  records writes ∧ activityJournal.Appends owned writes

variable {α β : Type} {records : Writes → Prop} {owned : List (Draw × Nat)}
  {writes : Writes} {shape : UserRow → Prop}

theorem publishes_execute {legal : List (Draw × Nat) → Writes → Prop}
    {post : α → List (Draw × Nat) → Writes → Prop}
    {locks : Db → List (Lock × LockMode)}
    {effect : Nat → Db → Except Failure (α × Writes)}
    (step : ∀ now db value written, effect now db = .ok (value, written) →
      post value owned (writes ++ written)) :
    (Tx.execute locks effect).Publishes legal post owned writes :=
  Program.publishes_run step

theorem publishes_query {legal : List (Draw × Nat) → Writes → Prop}
    {post : α → List (Draw × Nat) → Writes → Prop} {read : Nat → Db → α}
    (step : ∀ now db, post (read now db) owned writes) :
    (Tx.query read).Publishes legal post owned writes := by
  apply Program.publishes_run
  intro now db value written ran
  obtain ⟨rfl, rfl⟩ := Prod.mk.inj (Except.ok.inj ran)
  simpa using step now db

/-- The audit row is the last thing a mutation writes. -/
theorem publishes_audit {legal : List (Draw × Nat) → Writes → Prop}
    {post : Unit → List (Draw × Nat) → Writes → Prop} {actor : Nat}
    {event uri : String} (silent : Silent writes)
    (step : ∀ later written, written.users = writes.users →
      written.roles = writes.roles → written.entries = writes.entries →
      Audit actor event uri written → activityJournal.Appends later written →
      post () later written) :
    (AdminMutationService.audit actor event uri : Tx Unit).Publishes legal post
      owned writes := by
  apply AdminMutationService.publishes_audit
  intro id now
  change post () ((.activityId, id) :: owned)
    (writes ++ { activities := [.put ⟨id, some actor, event, uri, now⟩] })
  have row : (writes ++
      ({ activities := [.put ⟨id, some actor, event, uri, now⟩] } :
        Writes)).activities = [.put ⟨id, some actor, event, uri, now⟩] := by
    rw [Writes.append_activities, silent, List.nil_append]
  apply step
  · simp
  · simp
  · simp
  · exact ⟨id, now, row⟩
  · exact .row List.mem_cons_self row

theorem publishes_reply {service : Tx α} {reply : α → Reply}
    {legal : List (Draw × Nat) → Writes → Prop}
    (publishes : service.Publishes legal (fun _ _ _ => True) owned writes) :
    (service.reply reply).Publishes legal (fun _ _ _ => True) owned writes :=
  publishes.bind fun _ _ _ _ => trivial

theorem Storing.publishes_bind {program : Tx α} {rest : α → Tx β}
    {legal : List (Draw × Nat) → Writes → Prop}
    {post : β → List (Draw × Nat) → Writes → Prop} {result : α → Prop}
    (storing : Storing shape program result) (pending : Stores shape writes)
    (next : ∀ value later written, result value → Stores shape written →
      (rest value).Publishes legal post later written) :
    (program >>= rest).Publishes legal post owned writes :=
  Program.Writes.publishes_bind storing pending (fun _ _ => Stores.append) next

end Audits

open Audits

variable {runtime : Runtime} {records : Writes → Prop}
  {owned : List (Draw × Nat)} {writes : Writes} {shape : UserRow → Prop}

namespace AccountsService

theorem storing_lockAdministration :
    Storing shape lockAdministration fun _ => True := by
  apply storing_execute
  intro now db value writes ran
  split at ran
  · obtain ⟨_, rfl⟩ := Prod.mk.inj (Except.ok.inj ran)
    exact ⟨stores_empty, trivial⟩
  · cases ran

theorem storing_lockAccount {type : AccountType} {id : Nat} :
    Storing shape (lockAccount type id) fun _ => True := by
  unfold lockAccount
  simp only [Program.writes_bind, storing_select]
  intro now db
  cases (db.users.find id).filter (matchesAccount type) <;> trivial

theorem storing_checkUpdate {changes : AccountChanges} {actor id : Nat}
    {existing : UserRow} :
    Storing shape (checkUpdate changes actor id existing) fun _ => True := by
  unfold checkUpdate
  split
  · trivial
  · have checked (left : AccountChanges) (critical : Prop)
        [Decidable critical] : Storing shape
          (if critical then do
            let admins ← Tx.query fun _ db => adminCount db
            if admins ≤ 1 then
              Tx.throw (.badRequest
                "At least one active administrator is required")
            else pure left
          else pure left) fun _ => True := by
      split
      · simp only [Program.writes_bind, storing_query]
        intro now db
        split <;> trivial
      · trivial
    dsimp only
    split <;> apply checked

theorem storing_storeChanges {id : Nat} {changes : AccountChanges}
    (fits : ∀ row : UserRow, row.id = id → ∀ now,
      shape (changes.applyTo now row)) :
    Storing shape (storeChanges runtime id changes) fun _ => True := by
  unfold storeChanges
  split
  · trivial
  · apply Program.Writes.bind
      (storing_updateUser fun now row same => fits row same now)
    exact fun _ _ => trivial

theorem storing_revokeChanged {id : Nat} {dto : AdminAccountDto}
    {changes : AccountChanges} :
    Storing shape (revokeChanged id dto changes) fun _ => True := by
  unfold revokeChanged
  split
  · exact storing_revokeUserSessions
  · trivial

/-- The account is read back after the audit row is written. -/
theorem publishes_selectAccount {id : Nat}
    (publishing : Publishing records owned writes) :
    (selectAccount id).Publishes (Publishing records)
      (fun _ => Publishing records) owned writes := by
  apply Program.publishes_bind.mpr
  apply publishes_query
  intro now db
  cases (db.users.find id).filter fun row => row.deletedAt.isNone with
  | none => trivial
  | some row => exact publishing

/-- The end of an account mutation: the audit row, then `selectAccount`. -/
theorem publishes_finish {actor id : Nat} {event uri : String}
    (silent : Silent writes)
    (fits : ∀ written, written.users = writes.users →
      Audit actor event uri written → records written) :
    (AdminMutationService.audit actor event uri >>= fun _ =>
      selectAccount id : Tx AccountResponse).Publishes (Publishing records)
      (fun _ => Publishing records) owned writes := by
  apply Program.publishes_bind.mpr
  apply publishes_audit silent
  intro later written users _ _ audit appends
  exact publishes_selectAccount ⟨fits written users audit, appends⟩

theorem publishes_update {type : AccountType} {dto : AdminAccountDto}
    {actor id : Nat} {changes : AccountChanges}
    (fits : ∀ written, AccountsIn (fun row => row.id = id) written →
      Audit actor (typeName type ++ ".updated") (toString id) written →
      records written) :
    (update runtime type dto actor id changes).Publishes (Publishing records)
      (fun _ => Publishing records) owned ∅ := by
  apply Storing.publishes_bind storing_lockAccount
    (stores_empty : Stores (fun row => row.id = id) ∅)
  intro existing later written _ stored
  apply Storing.publishes_bind storing_checkUpdate stored
  intro left later written _ stored
  apply Storing.publishes_bind
    (storing_storeChanges fun row same now => same) stored
  intro _ later written _ stored
  apply Storing.publishes_bind storing_revokeChanged stored
  intro _ later written _ stored
  apply publishes_finish stored.activities
  intro final users audit
  exact fits final (fun change member => stored.users change (users ▸ member))
    audit

theorem publishes_insert {type : AccountType} {actor : Nat}
    {changes : AccountChanges} (typed : changes.accountType = some type)
    (fits : ∀ written (user : UserRow), written.users = [.put user] →
      user.accountType = type →
      Audit actor (typeName type ++ ".created") (toString user.id) written →
      records written) :
    (insert runtime type actor changes).Publishes (Publishing records)
      (fun _ => Publishing records) owned ∅ := by
  apply Program.publishes_bind.mpr
  intro id
  apply Program.publishes_bind.mpr
  apply publishes_execute
  intro now db value written ran
  split at ran
  · cases ran
  · split at ran
    · cases ran
    · obtain ⟨_, rfl⟩ := Prod.mk.inj (Except.ok.inj ran)
      have silent : Silent (∅ ++
          { users := [.put (changes.newRow id now)] } : Writes) :=
        rfl
      apply publishes_finish silent
      intro final users audit
      have typeIs : (changes.newRow id now).accountType = type := by
        simp [AccountChanges.newRow, AccountChanges.applyTo, typed]
      exact fits final (changes.newRow id now) users typeIs audit

/-- What a committed call leaves: its accounts, and the audit row for them. -/
def SaveRecords (type : AccountType) (actor : Nat) (writes : Writes) :
    Option Nat → Prop
  | some id =>
      AccountsIn (fun row => row.id = id) writes ∧
        Audit actor (typeName type ++ ".updated") (toString id) writes
  | none => ∃ user : UserRow, writes.users = [.put user] ∧
      user.accountType = type ∧
      Audit actor (typeName type ++ ".created") (toString user.id) writes

def RemoveRecords (type : AccountType) (id actor : Nat) (writes : Writes) :
    Prop :=
  AccountsIn (fun row => row.id = id ∧ row.deletedAt.isSome) writes ∧
    Audit actor (typeName type ++ ".deleted") (toString id) writes

theorem publishes_save {type : AccountType} {dto : AdminAccountDto}
    {actor : Nat} {id : Option Nat} :
    (save runtime type dto actor id).Publishes
      (Publishing fun writes => SaveRecords type actor writes id)
      (fun _ _ _ => True) owned ∅ := by
  apply Program.Quiet.publishes_bind quiet_prepare
  intro changes later prepared
  apply AdminMutationService.publishes_mutate
  apply Program.publishes_bind.mpr
  apply publishes_execute
  intro now db value written ran
  split at ran
  · obtain ⟨_, rfl⟩ := Prod.mk.inj (Except.ok.inj ran)
    rw [Writes.append_empty]
    cases id with
    | none =>
        obtain ⟨_, _, completed⟩ := prepared
        apply publishes_insert (by rw [completed])
        exact fun written user users typed audit => ⟨user, users, typed, audit⟩
    | some id =>
        apply publishes_update
        exact fun written stored audit => ⟨stored, audit⟩
  · cases ran

theorem publishes_remove {type : AccountType} {id actor : Nat} :
    (remove runtime type id actor).Publishes
      (Publishing (RemoveRecords type id actor)) (fun _ _ _ => True) owned
      ∅ := by
  unfold remove
  split
  · trivial
  apply AdminMutationService.publishes_mutate
  apply Storing.publishes_bind storing_lockAdministration
    (stores_empty :
      Stores (fun row => row.id = id ∧ row.deletedAt.isSome) ∅)
  intro _ later written _ stored
  apply Storing.publishes_bind storing_lockAccount stored
  intro account later written _ stored
  split
  · trivial
  · have deletes : Storing (fun row => row.id = id ∧ row.deletedAt.isSome)
        (softDeleteUser runtime id) fun _ => True := by
      apply Program.Writes.bind
      · apply storing_updateUser
        exact fun now row same => ⟨same, rfl⟩
      · exact fun _ _ => trivial
    apply Storing.publishes_bind deletes stored
    intro _ later written _ stored
    apply Storing.publishes_bind storing_revokeUserSessions stored
    intro _ later written _ stored
    apply publishes_audit stored.activities
    intro final published users _ _ audit appends
    refine ⟨⟨fun change member => ?_, audit⟩, appends⟩
    exact stored.users change (users ▸ member)

end AccountsService

namespace AdminRolesController

def SaveRecords (actor : Nat) (writes : Writes) : Option Nat → Prop
  | some id => ∃ role : RoleRow, writes.roles = [.put role] ∧ role.id = id ∧
      Audit actor "role.updated" (toString id) writes
  | none => ∃ role : RoleRow, writes.roles = [.put role] ∧
      Audit actor "role.created" (toString role.id) writes

def RemoveRecords (id actor : Nat) (writes : Writes) : Prop :=
  writes.roles = [.drop id] ∧ Audit actor "role.deleted" (toString id) writes

/-- One role is put, and nothing is recorded yet. -/
def Stored (id : Option Nat) (row : RoleRow) (_ : List (Draw × Nat))
    (writes : Writes) : Prop :=
  writes.roles = [.put row] ∧ Silent writes ∧ ∀ known ∈ id, row.id = known

theorem publishes_store {body : AdminRoleDto} {actor : Nat}
    {id : Option Nat} :
    (AdminStore.save resource body.values actor id).Publishes
      (Publishing fun writes => SaveRecords actor writes id)
      (fun _ _ _ => True) owned ∅ := by
  apply AdminStore.publishes_save (Stored id)
  · rintro rfl
    rw [insert_eq, Program.publishes_bind, Program.publishes_draw]
    intro known
    rw [insertRole_values]
    apply publishes_execute
    intro now db value written ran
    split at ran
    · cases ran
    · obtain ⟨rfl, rfl⟩ := Prod.mk.inj (Except.ok.inj ran)
      rintro row ⟨⟩
      exact ⟨rfl, rfl, by simp⟩
  · rintro known rfl
    rw [update_eq, updateRole_values]
    apply publishes_execute
    intro now db value written ran
    cases stored : db.roles.find known with
    | none =>
        simp only [stored] at ran
        obtain ⟨rfl, _⟩ := Prod.mk.inj (Except.ok.inj ran)
        exact fun found absent => absurd absent (Option.not_mem_none found)
    | some role =>
        have same : role.id = known := (Table.find_eq_some.mp stored).2
        simp only [stored] at ran
        obtain ⟨rfl, rfl⟩ := Prod.mk.inj (Except.ok.inj ran)
        rintro row ⟨⟩
        exact ⟨rfl, rfl, by simpa using same⟩
  · intro row later written stored
    obtain ⟨roles, silent, known⟩ := stored
    apply publishes_audit silent
    intro later final _ same _ audit appends
    refine ⟨?_, appends⟩
    cases id with
    | none => exact ⟨row, same.trans roles, audit⟩
    | some id =>
        have own : row.id = id := known id rfl
        exact ⟨row, same.trans roles, own, own ▸ audit⟩

theorem publishes_storeRemove {id actor : Nat} :
    (AdminStore.remove resource id actor).Publishes
      (Publishing (RemoveRecords id actor)) (fun _ _ _ => True) owned ∅ := by
  apply AdminStore.publishes_remove
    fun _ writes => writes.roles = [.drop id] ∧ Silent writes
  · apply publishes_execute
    intro now db value written ran
    split at ran
    · obtain ⟨rfl, rfl⟩ := Prod.mk.inj (Except.ok.inj ran)
      exact fun some => absurd rfl some
    · split at ran
      · cases ran
      · obtain ⟨rfl, rfl⟩ := Prod.mk.inj (Except.ok.inj ran)
        exact fun _ => ⟨rfl, rfl⟩
  · intro later written dropped
    apply publishes_audit dropped.2
    intro later final _ same _ audit appends
    exact ⟨⟨same.trans dropped.1, audit⟩, appends⟩

end AdminRolesController

/-- What a committed call leaves: its role, and the audit row for it. -/
def RoleCall.Records (actor : Nat) (writes : Writes) : RoleCall → Prop
  | .create _ => AdminRolesController.SaveRecords actor writes none
  | .update id _ => AdminRolesController.SaveRecords actor writes (some id)
  | .remove id => AdminRolesController.RemoveRecords id actor writes

theorem AdminRolesController.publishes_save {body : AdminRoleDto}
    {actor : Nat} (id : Option Nat) :
    (validate body >>= fun values =>
        AdminStore.save resource values.values actor id).Publishes
      (Publishing fun writes => SaveRecords actor writes id)
      (fun _ _ _ => True) owned ∅ := by
  apply Program.Quiet.publishes_bind quiet_validate
  exact fun _ _ _ => publishes_store

theorem RoleCall.publishes {actor : Nat} (call : RoleCall) :
    (call.program actor).Publishes
      (Publishing fun writes => call.Records actor writes)
      (fun _ _ _ => True) owned ∅ := by
  cases call with
  | create body => exact publishes_reply (AdminRolesController.publishes_save none)
  | update id body =>
      apply publishes_reply
      unfold AdminRolesController.update
      split
      · trivial
      · exact AdminRolesController.publishes_save (some id)
  | remove id =>
      apply publishes_reply
      unfold AdminRolesController.remove
      split
      · trivial
      · exact AdminRolesController.publishes_storeRemove

namespace AccountCreditsService

/-- No entry and no audit row is written. -/
structure Unbooked (writes : Writes) : Prop where
  entries : writes.entries = []
  activities : writes.activities = []

theorem unbooked_empty : Unbooked ∅ := ⟨rfl, rfl⟩

theorem Unbooked.append {first second : Writes} (left : Unbooked first)
    (right : Unbooked second) : Unbooked (first ++ second) where
  entries := by simp [left.entries, right.entries]
  activities := by simp [left.activities, right.activities]

/-- No statement of the program writes entries or audit rows. -/
abbrev Unbooking {α : Type} (program : Tx α) : Prop :=
  program.Writes (fun _ => True) Unbooked fun _ => True

variable {α : Type}

theorem unbooking_execute {locks : Db → List (Lock × LockMode)}
    {effect : Nat → Db → Except Failure (α × Writes)}
    (step : ∀ now db value written, effect now db = .ok (value, written) →
      Unbooked written) : Unbooking (Tx.execute locks effect) := by
  intro now db _
  dsimp only
  cases ran : effect now db with
  | error failure => trivial
  | ok outcome => exact ⟨step now db outcome.1 outcome.2 ran, trivial⟩

theorem unbooking_query {read : Nat → Db → α} : Unbooking (Tx.query read) := by
  intro now db _
  exact ⟨unbooked_empty, trivial⟩

theorem unbooking_insertCredit {id accountId currencyId : Nat} :
    Unbooking (insertCredit id accountId currencyId) := by
  apply unbooking_execute
  intro now db value writes ran
  split at ran
  · cases ran
  · split at ran
    · obtain ⟨_, rfl⟩ := Prod.mk.inj (Except.ok.inj ran)
      exact unbooked_empty
    · split at ran
      · cases ran
      · split at ran
        · cases ran
        · obtain ⟨_, rfl⟩ := Prod.mk.inj (Except.ok.inj ran)
          exact ⟨rfl, rfl⟩

theorem unbooking_increment {id : Nat} {amount : Int} :
    Unbooking (increment id amount) := by
  apply unbooking_execute
  intro now db value writes ran
  cases stored : db.credits.find id with
  | none =>
      obtain rfl : (∅ : Writes) = writes := by simpa [stored] using ran
      exact unbooked_empty
  | some row =>
      cases sum : Numeric.ofUnits (row.balance.units + amount) with
      | none => simp [stored, sum] at ran
      | some balance =>
          obtain rfl : ({ credits :=
              [.put { row with balance, updatedAt := now }] } : Writes) =
              writes := by simpa [stored, sum] using ran
          exact ⟨rfl, rfl⟩

theorem unbooking_findCredit {accountId currencyId : Nat} :
    Unbooking (findCredit accountId currencyId) := by
  apply Program.Writes.bind unbooking_query
  intro found _
  cases found <;> trivial

theorem unbooking_findCreditById {id : Nat} :
    Unbooking (findCreditById id) := by
  apply Program.Writes.bind unbooking_query
  intro found _
  cases found <;> trivial

theorem unbooking_replay {creditId actor : Nat} {body : CreditAdjustmentDto} :
    Unbooking (replay creditId actor body) := by
  apply Program.Writes.bind unbooking_query
  intro known _
  split
  · trivial
  · apply Program.Writes.bind unbooking_findCreditById
    exact fun _ _ => trivial

/-- The entry of an adjustment and nothing in the audit table yet. -/
structure Entered (entry : EntryRow) (writes : Writes) : Prop where
  entries : writes.entries = [.put entry]
  activities : writes.activities = []

theorem Entered.append {entry : EntryRow} {first second : Writes}
    (left : Entered entry first) (right : Unbooked second) :
    Entered entry (first ++ second) where
  entries := by simp [left.entries, right.entries]
  activities := by simp [left.activities, right.activities]

/-- What a committed adjustment leaves: nothing when it was a replay, else its
entry and the audit row for its balance. -/
def AdjustRecords (body : CreditAdjustmentDto) (actor : Nat)
    (writes : Writes) : Prop :=
  Unbooked writes ∨ ∃ entry : EntryRow, writes.entries = [.put entry] ∧
    entry.operatorId = actor ∧ entry.idempotencyKey = body.idempotencyKey ∧
    Audit actor "credit.adjusted" (toString entry.creditId) writes

theorem entryRow_eq_ok {id creditId actor now : Nat}
    {body : CreditAdjustmentDto} {row : EntryRow}
    (prepared : entryRow id creditId actor now body = .ok row) :
    row.creditId = creditId ∧ row.operatorId = actor ∧
      row.idempotencyKey = body.idempotencyKey := by
  unfold entryRow at prepared
  split at prepared
  · cases prepared
  · split at prepared
    · cases prepared
    · split at prepared
      · cases prepared
      · split at prepared
        · cases prepared
        · cases prepared
          exact ⟨rfl, rfl, rfl⟩

theorem publishes_book {actor : Nat} {body : CreditAdjustmentDto}
    {entry : EntryRow} (entered : Entered entry writes)
    (operator : entry.operatorId = actor)
    (sameKey : entry.idempotencyKey = body.idempotencyKey) :
    (book entry.creditId actor body).Publishes
      (Publishing (AdjustRecords body actor))
      (fun _ => Publishing (AdjustRecords body actor)) owned writes := by
  apply Program.Writes.publishes_bind unbooking_increment entered
    fun _ _ => Entered.append
  intro _ later written _ entered
  apply Program.Writes.publishes_bind unbooking_findCreditById entered
    fun _ _ => Entered.append
  intro updated later written _ entered
  apply Program.publishes_bind.mpr
  apply publishes_audit entered.activities
  intro last final _ _ entries audit appends
  exact ⟨.inr ⟨entry, entries.trans entered.entries, operator, sameKey, audit⟩,
    appends⟩

theorem publishes_insertEntry {id creditId actor : Nat}
    {body : CreditAdjustmentDto}
    {legal : List (Draw × Nat) → Writes → Prop}
    {post : Bool → List (Draw × Nat) → Writes → Prop}
    (unbooked : Unbooked writes) (known : post false owned writes)
    (claimed : ∀ entry written, Entered entry written →
      entry.creditId = creditId → entry.operatorId = actor →
      entry.idempotencyKey = body.idempotencyKey → post true owned written) :
    (insertEntry id creditId actor body).Publishes legal post owned writes := by
  apply publishes_execute
  intro now db value written ran
  cases prepared : entryRow id creditId actor now body with
  | error failure => simp [prepared] at ran
  | ok row =>
      simp only [prepared] at ran
      split at ran
      · obtain ⟨rfl, rfl⟩ := Prod.mk.inj (Except.ok.inj ran)
        rwa [Writes.append_empty]
      · split at ran
        · cases ran
        · split at ran
          · cases ran
          · obtain ⟨rfl, rfl⟩ := Prod.mk.inj (Except.ok.inj ran)
            obtain ⟨credit, operator, sameKey⟩ := entryRow_eq_ok prepared
            refine claimed row _ ⟨?_, ?_⟩ credit operator sameKey
            · simp [unbooked.entries]
            · simp [unbooked.activities]

theorem publishes_adjust {body : CreditAdjustmentDto} {actor : Nat} :
    (adjust body actor).Publishes (Publishing (AdjustRecords body actor))
      (fun _ _ _ => True) owned ∅ := by
  unfold adjust
  split
  · trivial
  apply AdminMutationService.publishes_mutate
  apply Program.publishes_bind.mpr
  intro creditId
  apply Program.Writes.publishes_bind unbooking_insertCredit unbooked_empty
    fun _ _ => Unbooked.append
  intro _ later written _ unbooked
  apply Program.Writes.publishes_bind unbooking_findCredit unbooked
    fun _ _ => Unbooked.append
  intro credit later written _ unbooked
  apply Program.publishes_bind.mpr
  intro entryId
  apply Program.publishes_bind.mpr
  apply publishes_insertEntry unbooked
  · apply (unbooking_replay.publishes unbooked
      fun _ _ => Unbooked.append).mono
    · intro _ _ _ unbooked
      exact ⟨.inl unbooked.2, .nothing unbooked.2.activities⟩
    · exact fun _ _ => id
  · intro entry final entered sameCredit operator sameKey
    rw [← sameCredit]
    exact publishes_book entered operator sameKey

end AccountCreditsService

end SaasFoundation
