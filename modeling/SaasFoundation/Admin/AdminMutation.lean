import SaasFoundation.Database.Schema
import SaasFoundation.Transaction.Atomic
import SaasFoundation.Transaction.Journal

/-!
# `admin/admin-mutation.service.ts` and `workspaces/owner-conflict.ts`

Any database with an audit table can be changed under audit.
-/

namespace SaasFoundation

open Relational Transaction

def rethrowOwnerConflict : Failure → Failure
  | .query _ (some .workspaceActiveOwner) => .conflict "errors.workspaceOwner"
  | failure => failure

/-- The audit table of a database, and the accounts its rows refer to. -/
class Audited (σ : Type) (ω δ : outParam Type) where
  activities : σ → Table ActivityRow
  isAccount : σ → Nat → Bool
  record : ActivityRow → ω
  activityId : δ

instance : Audited Db Writes Draw where
  activities := Db.activities
  isAccount db id := (db.users.find id).isSome
  record row := { activities := [.put row] }
  activityId := .activityId

namespace AdminMutationService

variable {σ ω ℓ δ α : Type} {actor : Nat} {event uri : String}

/-- The audit row commits together with the business change. -/
def audit [Audited σ ω δ] (actor : Nat) (event uri : String) :
    Program σ ω ℓ δ Failure Unit := do
  let id ← Program.draw (@Audited.activityId σ ω δ _)
  .run
    { locks := fun _ _ => []
      run := fun now db =>
        if ((Audited.activities db).find id).isSome then
          .error (.query .uniqueViolation (some .primaryKey))
        else if Audited.isAccount db actor = false then
          .error (.query .foreignKeyViolation (some .activityOperator))
        else
          .ok ((), @Audited.record σ ω δ _
            { id, operatorId := some actor, event, uri, createdAt := now }) }

def rethrow : Failure → Failure
  | .query .uniqueViolation _ => .conflict "This value is already in use"
  | .query .foreignKeyViolation _ =>
      .conflict "The selected record does not exist or is still in use"
  | .query .checkViolation violated =>
      if violated = some .workspaceActiveOwner then
        rethrowOwnerConflict (.query .checkViolation violated)
      else .badRequest "Invalid value"
  | .query .numericValueOutOfRange _ =>
      .badRequest "The amount exceeds the supported range"
  | failure => failure

def mutate (work : Program σ ω ℓ δ Failure α) : Program σ ω ℓ δ Failure α :=
  (Program.transaction work).mapError rethrow

theorem inside_audit [Audited σ ω δ] :
    (audit actor event uri : Program σ ω ℓ δ Failure Unit).Inside := by
  apply Program.Inside.bind (.draw _)
  exact fun _ => .run _

theorem atomic_mutate {work : Program σ ω ℓ δ Failure α}
    (inside : work.Inside) : (mutate work).Atomic :=
  (Program.Atomic.transaction inside).mapError _

section Publishing

variable [WriteSet ω σ] {legal : List (δ × Nat) → ω → Prop}
  {owned : List (δ × Nat)} {writes : ω}

/-- A mutation publishes what its work leaves. -/
theorem publishes_mutate {work : Program σ ω ℓ δ Failure α}
    (publishes : work.Publishes legal (fun _ => legal) owned writes) :
    (mutate work).Publishes legal (fun _ _ _ => True) owned writes := by
  apply Program.Publishes.mapError
  apply Program.publishes_transaction.mpr
  exact publishes.mono (fun _ _ _ legal => ⟨legal, trivial⟩) fun _ _ => id

/-- One audit row under a drawn identifier is added to what is pending. -/
theorem publishes_audit [Audited σ ω δ]
    {post : Unit → List (δ × Nat) → ω → Prop}
    (step : ∀ id now, post () ((@Audited.activityId σ ω δ _, id) :: owned)
      (writes ++ @Audited.record σ ω δ _
        { id, operatorId := some actor, event, uri, createdAt := now })) :
    (audit actor event uri : Program σ ω ℓ δ Failure Unit).Publishes legal post
      owned writes := by
  apply Program.publishes_bind.mpr
  intro id
  apply Program.publishes_run
  intro now db value written ran
  dsimp only at ran
  split at ran
  · cases ran
  · split at ran
    · cases ran
    · obtain ⟨_, rfl⟩ := Prod.mk.inj (Except.ok.inj ran)
      exact step id now

end Publishing

/-- The audit on the tables of the schema. -/
theorem audit_eq (actor : Nat) (event uri : String) :
    (audit actor event uri : Tx Unit) = (do
      let id ← Program.draw .activityId
      Tx.execute (fun _ => []) fun now db =>
        if (db.activities.find id).isSome then
          .error (.query .uniqueViolation (some .primaryKey))
        else if (db.users.find actor).isSome = false then
          .error (.query .foreignKeyViolation (some .activityOperator))
        else
          .ok ((),
            { activities :=
                [.put { id, operatorId := some actor, event, uri
                        createdAt := now }] })) :=
  rfl

end AdminMutationService

end SaasFoundation
