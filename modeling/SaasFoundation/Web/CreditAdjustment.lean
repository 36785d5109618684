import SaasFoundation.Accounting.Idempotency
import SaasFoundation.Relational.Machine
import SaasFoundation.Utils.Text

/-!
# `credit-adjustment.component.ts` and `form-dialog.ts`

One adjustment dialog from its opening to its end.  A response may never reach
the browser although the server has committed; to the dialog this is an error
like any other.
-/

namespace SaasFoundation

open Relational Transaction Api

/-- `getRawValue()`; an emptied number field is null. -/
structure AdjustmentForm where
  accountId : Option Rat
  currencyId : Option Rat
  amount : String
  reason : String
  deriving DecidableEq, Repr

namespace AdjustmentForm

/-- `Validators.required` and `Validators.min(1)`. -/
def validId (id : Option Rat) : Bool :=
  id.any fun id => decide (1 ≤ id)

/-- A text that matches the pattern is read as a number. -/
def validAmount (amount : String) : Bool :=
  Amount.wellFormed amount && decide (Amount.units amount ≠ 0)

def validReason (reason : String) : Bool :=
  decide (5 ≤ Text.length reason ∧ Text.length reason ≤ 300)

def valid (form : AdjustmentForm) : Bool :=
  validId form.accountId && validId form.currencyId &&
    validAmount form.amount && validReason form.reason

end AdjustmentForm

/-- `{ ...this.submitted, idempotency_key: this.key }`. -/
structure AdjustmentBody where
  submitted : AdjustmentForm
  idempotencyKey : Nat
  deriving DecidableEq, Repr

/-- `@IsInt() @Min(1)`. -/
def positiveInteger (id : Option Rat) : Option Nat :=
  (id.filter fun id => id.isInt && decide (1 ≤ id)).map fun id => id.num.toNat

/-- What the pipe makes of a body; `none` when it is rejected. -/
def CreditAdjustmentDto.ofBody (body : AdjustmentBody) :
    Option CreditAdjustmentDto := do
  let accountId ← positiveInteger body.submitted.accountId
  let currencyId ← positiveInteger body.submitted.currencyId
  if AdjustmentForm.validReason body.submitted.reason then
    if wellFormed : Amount.wellFormed body.submitted.amount = true then
      some
        { accountId, currencyId
          amount := ⟨body.submitted.amount, wellFormed⟩
          idempotencyKey := body.idempotencyKey
          reason := body.submitted.reason }
    else none
  else none

/-- The state of `MatDialogRef`, with the result it was closed with last. -/
inductive DialogRef where
  | opened
  | closing (result : Bool)
  | closed (result : Bool)
  deriving DecidableEq, Repr

def DialogRef.close (result : Bool) : DialogRef → DialogRef
  | .opened | .closing _ => .closing result
  | .closed last => .closed last

structure CreditAdjustment where
  key : Nat
  form : AdjustmentForm
  disabled : Bool := false
  dirty : Bool := false
  touched : Bool := false
  saving : Bool := false
  submitted : Option AdjustmentForm := none
  /-- Posts that are neither answered nor cancelled. -/
  inFlight : List (Nat × AdjustmentBody) := []
  nextPost : Nat := 0
  /-- Every body that went out. -/
  sent : List AdjustmentBody := []
  ref : DialogRef := .opened
  /-- What the opener was told by `afterClosed`. -/
  afterClosed : List Bool := []
  /-- Open questions whether to leave unsaved changes. -/
  prompts : Nat := 0
  deriving DecidableEq, Repr

inductive DialogEvent where
  | edit (form : AdjustmentForm)
  | save
  | respond (post : Nat) (success : Bool)
  | resend (post : Nat)
  | discard
  | leave
  | confirm (ok : Bool)
  | animationDone
  deriving DecidableEq, Repr

namespace CreditAdjustment

section

variable (dialog : CreditAdjustment)

/-- `form.invalid`: a disabled form is not. -/
def invalid : Bool := !dialog.disabled && !dialog.form.valid

/-- The request of `save()`. -/
def post : CreditAdjustment :=
  let submitted := dialog.submitted.getD dialog.form
  let body : AdjustmentBody := { submitted, idempotencyKey := dialog.key }
  { dialog with
    submitted := some submitted
    disabled := true
    inFlight := dialog.inFlight ++ [(dialog.nextPost, body)]
    nextPost := dialog.nextPost + 1
    sent := dialog.sent ++ [body] }

/-- `submit`. -/
def submit : CreditAdjustment :=
  if dialog.saving then dialog
  else if dialog.invalid then { dialog with touched := true }
  else { dialog with saving := true }.post

def close (result : Bool) : CreditAdjustment :=
  { dialog with dirty := false, ref := dialog.ref.close result }

/-- `UnsavedFormService.tryDiscard`. -/
def tryDiscard : CreditAdjustment :=
  if dialog.dirty then { dialog with prompts := dialog.prompts + 1 }
  else dialog.close false

/-- The subscriber and `finalize`. -/
def answered (post : Nat) (success : Bool) : CreditAdjustment :=
  let dialog :=
    { dialog with
      inFlight := dialog.inFlight.filter (·.1 ≠ post)
      saving := false }
  if success then dialog.close true else dialog

/-- The dialog is gone: its component is destroyed and the opener told. -/
def finish (result : Bool) : CreditAdjustment :=
  { dialog with
    ref := .closed result
    afterClosed := dialog.afterClosed ++ [result]
    inFlight := []
    saving := false }

end

/-- What an event does to a dialog that is still there; `none` when it cannot
happen. -/
def act (event : DialogEvent) (dialog : CreditAdjustment) :
    Option CreditAdjustment :=
  match event with
  | .edit form => some { dialog with form, dirty := true }
  | .save => some dialog.submit
  | .respond post success =>
      if (dialog.inFlight.lookup post).isSome then
        some (dialog.answered post success)
      else none
  | .resend post =>
      -- The interceptor repeats a request after refreshing the session.
      (dialog.inFlight.lookup post).map fun body =>
        { dialog with sent := dialog.sent ++ [body] }
  | .discard => some (if dialog.saving then dialog else dialog.tryDiscard)
  | .leave => some dialog.tryDiscard
  | .confirm ok =>
      if dialog.prompts = 0 then none
      else
        let dialog := { dialog with prompts := dialog.prompts - 1 }
        some (if ok then dialog.close false else dialog)
  | .animationDone =>
      match dialog.ref with
      | .closing result => some (dialog.finish result)
      | _ => none

def Gone (dialog : CreditAdjustment) : Prop :=
  ∃ result, dialog.ref = .closed result

instance (dialog : CreditAdjustment) : Decidable dialog.Gone :=
  match ref : dialog.ref with
  | .closed result => isTrue ⟨result, ref⟩
  | .opened => isFalse fun ⟨_, same⟩ => nomatch ref.symm.trans same
  | .closing _ => isFalse fun ⟨_, same⟩ => nomatch ref.symm.trans same

def step (event : DialogEvent) (dialog : CreditAdjustment) :
    Option CreditAdjustment :=
  if dialog.Gone then none else dialog.act event

def machine : Relational.Machine CreditAdjustment DialogEvent where
  step := step

/-- A dialog that has just been opened. -/
def start (key : Nat) : CreditAdjustment where
  key
  form := { accountId := some 0, currencyId := some 0, amount := "", reason := "" }

/-- What holds of a dialog at any time. -/
structure Safe (dialog : CreditAdjustment) : Prop where
  single : dialog.inFlight.length ≤ 1
  idle : dialog.saving = false → dialog.inFlight = []
  captured : ∀ body ∈ dialog.sent,
    dialog.submitted = some body.submitted ∧ body.idempotencyKey = dialog.key
  pending : ∀ post ∈ dialog.inFlight, post.2 ∈ dialog.sent
  untold : ¬dialog.Gone → dialog.afterClosed = []
  told : dialog.afterClosed.length ≤ 1

variable {dialog : CreditAdjustment}

theorem safe_start (key : Nat) : Safe (start key) where
  single := Nat.zero_le 1
  idle _ := rfl
  captured _ member := absurd member List.not_mem_nil
  pending _ member := absurd member List.not_mem_nil
  untold _ := rfl
  told := Nat.zero_le 1

theorem Safe.inFlight_eq (safe : Safe dialog) {post : Nat}
    {body : AdjustmentBody} (found : dialog.inFlight.lookup post = some body) :
    dialog.inFlight = [(post, body)] := by
  have single := safe.single
  match listed : dialog.inFlight with
  | [] =>
      rw [listed] at found
      cases found
  | [(other, sent)] =>
      rw [listed, List.lookup_cons] at found
      by_cases same : post = other
      · subst same
        simp only [beq_self_eq_true, Option.some.injEq] at found
        rw [found]
      · rw [beq_eq_false_iff_ne.mpr same] at found
        cases found
  | _ :: _ :: _ =>
      rw [listed] at single
      simp at single

/-- Closing asks the reference only; who listens is told later. -/
theorem Safe.close (safe : Safe dialog) (result : Bool)
    (alive : ¬dialog.Gone) :
    Safe (dialog.close result) where
  single := safe.single
  idle := safe.idle
  captured := safe.captured
  pending := safe.pending
  untold _ := safe.untold alive
  told := safe.told

theorem Safe.tryDiscard (safe : Safe dialog)
    (alive : ¬dialog.Gone) :
    Safe dialog.tryDiscard := by
  unfold CreditAdjustment.tryDiscard
  split
  · exact ⟨safe.single, safe.idle, safe.captured, safe.pending, safe.untold,
      safe.told⟩
  · exact safe.close false alive

theorem Safe.post (safe : Safe dialog) (empty : dialog.inFlight = []) :
    Safe { dialog with saving := true }.post := by
  have same : ∀ body ∈ dialog.sent,
      dialog.submitted.getD dialog.form = body.submitted := by
    intro body member
    rw [(safe.captured body member).1, Option.getD_some]
  constructor
  · simp [CreditAdjustment.post, empty]
  · exact nofun
  · intro body member
    rcases List.mem_append.mp member with earlier | now
    · exact ⟨congrArg some (same body earlier), (safe.captured body earlier).2⟩
    · rw [List.mem_singleton.mp now]
      exact ⟨rfl, rfl⟩
  · intro post member
    rcases List.mem_append.mp member with earlier | now
    · rw [empty] at earlier
      exact absurd earlier List.not_mem_nil
    · rw [List.mem_singleton.mp now]
      exact List.mem_append_right _ (List.mem_singleton_self _)
  · exact safe.untold
  · exact safe.told

theorem Safe.submit (safe : Safe dialog) : Safe dialog.submit := by
  unfold CreditAdjustment.submit
  cases saving : dialog.saving with
  | true => exact safe
  | false =>
      rw [if_neg (by decide)]
      split
      · exact ⟨safe.single, fun _ => safe.idle saving, safe.captured,
          safe.pending, safe.untold, safe.told⟩
      · exact safe.post (safe.idle saving)

theorem Safe.answered (safe : Safe dialog) {post : Nat} (success : Bool)
    (alive : ¬dialog.Gone)
    (known : (dialog.inFlight.lookup post).isSome = true) :
    Safe (dialog.answered post success) := by
  obtain ⟨body, found⟩ := Option.isSome_iff_exists.mp known
  have empty : dialog.inFlight.filter (·.1 ≠ post) = [] := by
    rw [safe.inFlight_eq found]
    simp
  have settled : Safe
      { dialog with
        inFlight := dialog.inFlight.filter (·.1 ≠ post)
        saving := false } := by
    rw [empty]
    exact ⟨Nat.zero_le 1, fun _ => rfl, safe.captured,
      fun _ member => absurd member List.not_mem_nil, safe.untold, safe.told⟩
  unfold CreditAdjustment.answered
  dsimp only
  split
  · exact settled.close true alive
  · exact settled

theorem safe_step {event : DialogEvent} {after : CreditAdjustment}
    (safe : Safe dialog) (stepped : step event dialog = some after) :
    Safe after := by
  obtain ⟨alive, acted⟩ := Option.ite_none_left_eq_some.mp stepped
  cases event with
  | edit form =>
      cases acted
      exact ⟨safe.single, safe.idle, safe.captured, safe.pending, safe.untold,
        safe.told⟩
  | save =>
      cases acted
      exact safe.submit
  | respond post success =>
      obtain ⟨known, same⟩ := Option.ite_none_right_eq_some.mp acted
      cases same
      exact safe.answered success alive known
  | resend post =>
      obtain ⟨body, found, same⟩ := Option.map_eq_some_iff.mp acted
      cases same
      have member : body ∈ dialog.sent := by
        refine safe.pending (post, body) ?_
        rw [safe.inFlight_eq found]
        exact List.mem_singleton_self _
      refine ⟨safe.single, safe.idle, fun other listed => ?_,
        fun other listed => List.mem_append_left _ (safe.pending other listed),
        safe.untold, safe.told⟩
      rcases List.mem_append.mp listed with earlier | again
      · exact safe.captured other earlier
      · rw [List.mem_singleton.mp again]
        exact safe.captured body member
  | discard =>
      cases acted
      split
      · exact safe
      · exact safe.tryDiscard alive
  | leave =>
      cases acted
      exact safe.tryDiscard alive
  | confirm ok =>
      obtain ⟨-, same⟩ := Option.ite_none_left_eq_some.mp acted
      cases same
      have asked : Safe { dialog with prompts := dialog.prompts - 1 } :=
        ⟨safe.single, safe.idle, safe.captured, safe.pending, safe.untold,
          safe.told⟩
      split
      · exact asked.close false alive
      · exact asked
  | animationDone =>
      cases ref : dialog.ref with
      | opened | closed =>
          unfold act at acted
          rw [ref] at acted
          cases acted
      | closing result =>
          unfold act at acted
          rw [ref] at acted
          cases acted
          refine ⟨Nat.zero_le 1, fun _ => rfl, safe.captured,
            fun _ member => absurd member List.not_mem_nil,
            fun there => absurd ⟨result, rfl⟩ there, ?_⟩
          unfold finish
          rw [safe.untold alive]
          exact Nat.le_refl 1

theorem safe_of_reachable {key : Nat}
    (reachable : machine.Reachable (start key) dialog) : Safe dialog :=
  reachable.invariant (safe_start key)
    fun _ _ _ safe stepped => safe_step safe stepped

/-- All bodies of one dialog are the same. -/
theorem Safe.same (safe : Safe dialog) {first second : AdjustmentBody}
    (sent : first ∈ dialog.sent) (again : second ∈ dialog.sent) :
    first = second := by
  obtain ⟨submitted, key⟩ := safe.captured first sent
  obtain ⟨same, sameKey⟩ := safe.captured second again
  have payload : first.submitted = second.submitted :=
    Option.some.inj (submitted.symm.trans same)
  cases first
  cases second
  simp only [AdjustmentBody.mk.injEq]
  exact ⟨payload, key.trans sameKey.symm⟩

/-- The commit serves a request of the dialog. -/
def Serves (dialog : CreditAdjustment) (commit : DbCommit) : Prop :=
  ∃ sent ∈ dialog.sent, ∃ body actor,
    CreditAdjustmentDto.ofBody sent = some body ∧
      commit.request = .adjust body actor

/-- Of all commits that serve the dialog only the oldest can book. -/
def AppliedOnce (dialog : CreditAdjustment) (commits : List DbCommit) : Prop :=
  commits.Pairwise fun later past =>
    dialog.Serves past → dialog.Serves later → ¬Books later

theorem Safe.appliedOnce (safe : Safe dialog) {commits : List DbCommit}
    (once : KeysOnce commits) : AppliedOnce dialog commits := by
  refine List.Pairwise.imp ?_ once
  intro later past repeats
    ⟨first, firstSent, body, actor, parsed, request⟩
    ⟨second, secondSent, other, operator, again, repeated⟩ books
  have sameBody : other = body := by
    rw [safe.same secondSent firstSent] at again
    exact Option.some.inj (again.symm.trans parsed)
  have nothing := repeats body actor other operator request repeated
    (congrArg CreditAdjustmentDto.idempotencyKey sameBody)
  rcases books with credits | entries
  · exact credits nothing.credits
  · exact entries nothing.entries

/-- Whatever happens to one dialog, at most one of its requests is in flight,
all of them are the same, the opener is told at most once that something was
saved, and of the commits on the server that serve it at most one moves the
balance. -/
theorem adjusts_once (key : Nat) (dialog : CreditAdjustment)
    (opened : machine.Reachable (start key) dialog)
    (environment : Environment) (admits : Request → Bool) (world : DbWorld)
    (config : DbConfig) (begins : Begins world)
    (reachable :
      (system environment admits).Reachable (.idle world) config) :
    dialog.inFlight.length ≤ 1 ∧
      (∀ first ∈ dialog.sent, ∀ second ∈ dialog.sent, first = second) ∧
      dialog.afterClosed.count true ≤ 1 ∧
      AppliedOnce dialog config.world.commits := by
  have safe := safe_of_reachable opened
  have run : Run environment False world.db config :=
    .of_reachable begins False.elim reachable
  exact ⟨safe.single, fun first sent second again => safe.same sent again,
    List.count_le_length.trans safe.told,
    safe.appliedOnce (keysOnce_of_run run).2⟩

namespace Sample

def form : AdjustmentForm where
  accountId := some 2
  currencyId := some 1
  amount := "1.5"
  reason := "goodwill"

/-- The first response is lost; the request is sent again and succeeds. -/
def retried : List DialogEvent :=
  [.edit form, .save, .respond 0 false, .save, .respond 1 true, .animationDone]

def after : CreditAdjustment :=
  (machine.run retried (start 5)).getD (start 5)

theorem reachable : machine.Reachable (start 5) after :=
  Machine.Reachable.of_run retried (by decide +kernel)

/-- What the server makes of each of the two requests. -/
def request : Request :=
  .adjust ⟨2, 1, SaasFoundation.Sample.amount, 5, "goodwill"⟩ 1

/-- The lost response was to a request that had been committed. -/
def served : DbConfig :=
  SaasFoundation.Sample.after (fun _ => true)
    (SaasFoundation.Sample.serve request 9 12 ++
      SaasFoundation.Sample.serve request 10 9)

end Sample

theorem adjusts_once_retried :
    Sample.after.sent.length = 2 ∧ Sample.after.afterClosed = [true] ∧
      Sample.served.world.commits.length = 2 ∧
      Sample.served.world.db.credits.rows.map (·.balance.units) = [15000] ∧
      AppliedOnce Sample.after Sample.served.world.commits := by
  refine ⟨by decide +kernel, by decide +kernel, by decide +kernel,
    by decide +kernel, ?_⟩
  exact (adjusts_once 5 Sample.after Sample.reachable
    SaasFoundation.Sample.environment (fun _ => true)
    SaasFoundation.Sample.world Sample.served SaasFoundation.Sample.begins
    (SaasFoundation.Sample.reachable _ _)).2.2.2

end CreditAdjustment

end SaasFoundation
