import SaasFoundation.Api.Requests
import SaasFoundation.Transaction.Journal

/-!
# Requests without audit rows

Users store accounts, sessions, workspaces, members and invitations; none of
these writes goes to `activities`.
-/

namespace SaasFoundation

open Relational Transaction

namespace Audits

/-- Accounts are stored only in this shape, and no audit row is written. -/
structure Stores (shape : UserRow → Prop) (writes : Writes) : Prop where
  users : ∀ change ∈ writes.users, ∃ row, change = .put row ∧ shape row
  activities : writes.activities = []

/-- No account of another shape, no audit row. -/
abbrev Storing {α : Type} (shape : UserRow → Prop) (program : Tx α)
    (result : α → Prop) : Prop :=
  program.Writes (fun _ => True) (Stores shape) result

/-- No audit row is written. -/
def Silent (writes : Writes) : Prop :=
  writes.activities = []

/-- No statement of the program writes an audit row. -/
abbrev Unaudited {α : Type} (program : Tx α) : Prop :=
  program.Only (fun _ => True) Silent

variable {α : Type} {shape : UserRow → Prop} {runtime : Runtime}
  {result : α → Prop}

theorem stores_empty : Stores shape ∅ :=
  ⟨fun _ none => absurd none List.not_mem_nil, rfl⟩

theorem Stores.append {first second : Writes} (left : Stores shape first)
    (right : Stores shape second) : Stores shape (first ++ second) where
  users change member := by
    rcases List.mem_append.mp member with early | late
    · exact left.users change early
    · exact right.users change late
  activities := by simp [left.activities, right.activities]

theorem unaudited_ofQuiet {program : Tx α} (quiet : program.Quiet result) :
    Unaudited program :=
  Program.Only.ofQuiet quiet rfl

theorem unaudited_execute {locks : Db → List (Lock × LockMode)}
    {effect : Nat → Db → Except Failure (α × Writes)}
    (step : ∀ now db value writes, effect now db = .ok (value, writes) →
      Silent writes) : Unaudited (Tx.execute locks effect) :=
  Program.Only.run fun now db value writes _ => step now db value writes

@[grind ←]
theorem unaudited_query {read : Nat → Db → α} : Unaudited (Tx.query read) := by
  apply Program.Only.run
  rintro now db value writes _ ⟨⟩
  rfl

@[grind ←]
theorem unaudited_select {locks : Db → List (Lock × LockMode)}
    {read : Nat → Db → α} : Unaudited (Tx.select locks read) :=
  unaudited_query

@[grind ←]
theorem unaudited_throw {failure : Failure} :
    Unaudited (Tx.throw failure : Tx α) :=
  trivial

@[simp] theorem storing_query {read : Nat → Db → α} :
    Storing shape (Tx.query read) result ↔ ∀ now db, result (read now db) := by
  refine forall_congr' fun now => forall_congr' fun db => ?_
  exact ⟨fun holds => (holds trivial).2, fun holds _ => ⟨stores_empty, holds⟩⟩

@[simp] theorem storing_select {locks : Db → List (Lock × LockMode)}
    {read : Nat → Db → α} :
    Storing shape (Tx.select locks read) result ↔
      ∀ now db, result (read now db) :=
  storing_query

@[simp] theorem storing_throw {failure : Failure} :
    Storing shape (Tx.throw failure) result ↔ True :=
  Iff.rfl

theorem storing_execute {locks : Db → List (Lock × LockMode)}
    {effect : Nat → Db → Except Failure (α × Writes)}
    (step : ∀ now db value writes, effect now db = .ok (value, writes) →
      Stores shape writes ∧ result value) :
    Storing shape (Tx.execute locks effect) result := by
  intro now db _
  dsimp only
  cases ran : effect now db with
  | error failure => trivial
  | ok outcome => exact step now db outcome.1 outcome.2 ran

theorem storing_protectOwned {userId : Nat} (owned : List Nat) :
    Storing shape (protectOwned userId owned) fun _ => True := by
  induction owned with
  | nil => trivial
  | cons owned rest ih =>
      have next (other : Bool) : Storing shape
          (if other then protectOwned userId rest
            else Tx.throw (.query .checkViolation (some .workspaceActiveOwner)))
          fun _ => True := by
        cases other with
        | true => exact ih
        | false => trivial
      simp [protectOwned, WorkspacesService.lockWorkspace, next]

theorem storing_protectWorkspaceOwner {old : UserRow} {new : Option UserRow} :
    Storing shape (protectWorkspaceOwner old new) fun _ => True := by
  unfold protectWorkspaceOwner
  split
  · trivial
  · simp [storing_protectOwned]

theorem storing_storeUser {old : Option UserRow} {row : UserRow}
    (fits : shape row) :
    Storing shape (storeUser runtime old row) fun _ => True := by
  apply storing_execute
  intro now db value writes ran
  split at ran
  · cases ran
  · obtain ⟨_, rfl⟩ := Prod.mk.inj (Except.ok.inj ran)
    refine ⟨⟨fun change put => ?_, rfl⟩, trivial⟩
    exact ⟨row, List.mem_singleton.mp put, fits⟩

theorem storing_updateUser {id : Nat} {lifecycle : Bool}
    {change : Nat → UserRow → UserRow}
    (fits : ∀ now row, row.id = id → shape (change now row)) :
    Storing shape (updateUser runtime id lifecycle change) fun _ => True := by
  have locks : Storing shape (lockForUpdate id change) fun found =>
      ∀ pair ∈ found, shape pair.2 := by
    intro now db _
    refine ⟨stores_empty, fun pair found => ?_⟩
    obtain ⟨row, stored, rfl⟩ := Option.map_eq_some_iff.mp found
    exact fits now row (Table.find_eq_some.mp stored).2
  apply Program.Writes.bind locks
  intro found shaped
  cases found with
  | none => trivial
  | some pair =>
      obtain ⟨old, new⟩ := pair
      have stores : Storing shape (do
          storeUser runtime (some old) new
          pure (some new)) fun _ => True := by
        apply Program.Writes.bind (storing_storeUser (shaped (old, new) rfl))
        exact fun _ _ => trivial
      cases lifecycle with
      | false => exact stores
      | true =>
          exact Program.Writes.bind storing_protectWorkspaceOwner
            fun _ _ => stores

theorem storing_revokeUserSessions {userId : Nat} {exclude : Option Nat} :
    Storing shape (revokeUserSessions userId exclude) fun _ => True := by
  apply storing_execute
  intro now db value writes ran
  obtain ⟨_, rfl⟩ := Prod.mk.inj (Except.ok.inj ran)
  exact ⟨⟨fun _ none => absurd none List.not_mem_nil, rfl⟩, trivial⟩

theorem Storing.unaudited {program : Tx α}
    (storing : Storing shape program result) : Unaudited program :=
  Program.Only.ofWrites storing fun _ stores => stores.activities

theorem unaudited_updateUser {id : Nat} {lifecycle : Bool}
    {change : Nat → UserRow → UserRow} :
    Unaudited (updateUser runtime id lifecycle change) := by
  have storing : Storing (fun _ => True)
      (updateUser runtime id lifecycle change) fun _ => True :=
    storing_updateUser fun _ _ _ => trivial
  exact storing.unaudited

theorem unaudited_revokeUserSessions {userId : Nat} {exclude : Option Nat} :
    Unaudited (revokeUserSessions userId exclude) := by
  have storing : Storing (fun _ => True) (revokeUserSessions userId exclude)
      fun _ => True :=
    storing_revokeUserSessions
  exact storing.unaudited

end Audits

end SaasFoundation
