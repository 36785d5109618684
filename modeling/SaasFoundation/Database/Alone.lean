import SaasFoundation.Database.Schema
import SaasFoundation.Transaction.Sequential

/-!
# Statements of a request that runs alone

How the answer of a request goes on after each kind of statement, and what has
to be shown of each statement.
-/

namespace SaasFoundation

open Relational Transaction

namespace Tx

variable {α β : Type} {clock now : Nat} {draws : Nat → Nat} {db : Db}

theorem alone_query {read : Nat → Db → β} {next : β → Tx α} {writes : Writes} :
    (Tx.query read >>= next).alone clock draws now db writes =
      (next (read now (WriteSet.apply writes db))).alone clock draws now db
        writes := by
  rw [Tx.query, Program.alone_run]
  exact congrArg _ (WriteSet.append_empty (σ := Db) writes)

theorem alone_select {locks : Db → List (Lock × LockMode)}
    {read : Nat → Db → β} {next : β → Tx α} {writes : Writes} :
    (Tx.select locks read >>= next).alone clock draws now db writes =
      (next (read now (WriteSet.apply writes db))).alone clock draws now db
        writes := by
  rw [Tx.select, Program.alone_run]
  exact congrArg _ (WriteSet.append_empty (σ := Db) writes)

theorem alone_execute {locks : Db → List (Lock × LockMode)}
    {effect : Nat → Db → Except Failure (β × Writes)} {next : β → Tx α}
    {writes : Writes} :
    (Tx.execute locks effect >>= next).alone clock draws now db writes =
      match effect now (WriteSet.apply writes db) with
      | .ok (value, more) =>
          (next value).alone clock draws now db (writes ++ more)
      | .error failure => (.error failure, db) := by
  rw [Tx.execute, Program.alone_run]
  dsimp only
  cases effect now (WriteSet.apply writes db) with
  | error failure => rfl
  | ok result => rfl

theorem alone_draw {source : Draw} {next : Nat → Tx α} {writes : Writes} :
    (Program.draw source >>= next : Tx α).alone clock draws now db writes =
      (next (draws 0)).alone clock (fun index => draws (index + 1)) now db
        writes := rfl

/-- A transaction takes the time of its start, and its writes are in the
database for what follows. -/
theorem alone_transaction {body : Tx β} {next : β → Tx α} {writes : Writes} :
    (Program.transaction body >>= next).alone clock draws now db writes =
      (body >>= fun value => Program.commit (next value) : Tx α).alone clock
        draws clock db writes := by
  have assoc := Program.bind_assoc body (fun value => .commit (.done value)) next
  change Program.alone clock ((body.bind _).bind next) draws clock db writes = _
  rw [assoc]
  rfl

theorem alone_commit {next : Tx α} {writes : Writes} :
    (Program.commit next : Tx α).alone clock draws now db writes =
      next.alone clock draws now (WriteSet.apply writes db) ∅ := rfl

section Serially

variable {post : β → Stand Db Writes → Prop} {failed : Failure → Db → Prop}
  {stand : Stand Db Writes}

@[simp] theorem serially_query {read : Nat → Db → β} :
    (Tx.query read).serially clock post failed stand =
      post (read stand.now stand.view) stand := by
  rw [Tx.query, Program.serially_run]
  exact congrArg (post _) stand.write_nothing

@[simp] theorem serially_select {locks : Db → List (Lock × LockMode)}
    {read : Nat → Db → β} :
    (Tx.select locks read).serially clock post failed stand =
      post (read stand.now stand.view) stand := by
  rw [Tx.select, Program.serially_run]
  exact congrArg (post _) stand.write_nothing

theorem serially_execute {locks : Db → List (Lock × LockMode)}
    {effect : Nat → Db → Except Failure (β × Writes)} :
    (Tx.execute locks effect).serially clock post failed stand =
      match effect stand.now stand.view with
      | .ok (value, writes) => post value (stand.write writes)
      | .error failure => failed failure stand.db := by
  rw [Tx.execute, Program.serially_run]
  dsimp only
  cases effect stand.now stand.view with
  | error failure => rfl
  | ok result => rfl

@[simp] theorem serially_throw {failure : Failure} :
    (Tx.throw failure : Tx β).serially clock post failed stand =
      failed failure stand.db := rfl

end Serially

theorem failsWith_query {allowed : Failure → Prop} {read : Nat → Db → α} :
    (Tx.query read).FailsWith allowed :=
  ⟨fun _ _ _ failed => (nomatch failed), fun _ => trivial⟩

end Tx

/-- A database at the moment a request reads it. -/
structure Moment where
  db : Db
  clock : Nat
  draws : Nat → Nat

namespace Moment

variable {α : Type}

/-- The answer to a request that nobody interferes with, and the database it
leaves. -/
def outcome (moment : Moment) (program : Tx α) : Except Failure α × Db :=
  program.alone moment.clock moment.draws moment.clock moment.db ∅

def response (moment : Moment) (program : Tx α) : Except Failure α :=
  (moment.outcome program).1

/-- Where a request stands that begins at this moment. -/
def stand (moment : Moment) : Stand Db Writes :=
  { draws := moment.draws, now := moment.clock, db := moment.db, writes := ∅ }

@[simp] theorem draws_stand (moment : Moment) :
    moment.stand.draws = moment.draws := rfl
@[simp] theorem now_stand (moment : Moment) :
    moment.stand.now = moment.clock := rfl
@[simp] theorem db_stand (moment : Moment) : moment.stand.db = moment.db := rfl

@[simp] theorem view_stand (moment : Moment) : moment.stand.view = moment.db :=
  WriteSet.apply_empty (ω := Writes) moment.db

/-- To show a fact about an outcome, follow the request. -/
theorem outcome_iff (holds : Except Failure α × Db → Prop) {moment : Moment}
    {program : Tx α} :
    holds (moment.outcome program) ↔
      program.serially moment.clock
        (fun value later => holds (.ok value, later.db))
        (fun failure db => holds (.error failure, db)) moment.stand :=
  (program.serially_alone moment.stand fun answer db =>
    holds (answer, db)).symm

end Moment

end SaasFoundation
