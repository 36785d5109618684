import SaasFoundation.Api.Discipline
import SaasFoundation.Transaction.Quiet

/-!
# Rules for the statements of a transaction

`within_query`, `within_select` and `within_execute` step over one statement.
`within_hold` remembers, for a lock or a drawn value held now, that what it
protects is still the same when the transaction commits.
-/

namespace SaasFoundation

open Relational Transaction Discipline

namespace Api

/-- The weakest precondition of a transaction body in the database. -/
abbrev Within (environment : Environment) (drawn : Prop) {α : Type}
    (program : Tx α) (post : α → DbContext → DbWorld → Prop)
    (failed : Failure → DbContext → DbWorld → Prop) (context : DbContext)
    (world : DbWorld) : Prop :=
  (discipline environment drawn).within (mayDraw environment) program post
    failed context world

theorem view_clean {world : DbWorld} {context : DbContext}
    (clean : context.writes = ∅) : world.view context = world.db := by
  rw [World.view, clean, WriteSet.apply_empty]

/-- The weakest precondition of a request. -/
abbrev Wp (environment : Environment) (drawn : Prop) {α : Type}
    (program : Tx α) (post : α → DbContext → DbWorld → Prop)
    (failed : Failure → DbContext → DbWorld → Prop) (context : DbContext)
    (world : DbWorld) : Prop :=
  (discipline environment drawn).wp (mayDraw environment) program post
    failed context world

abbrev Relies (environment : Environment) (drawn : Prop) (context : DbContext)
    (world next : DbWorld) : Prop :=
  (discipline environment drawn).Rely context world next

variable {environment : Environment} {drawn : Prop} {α β : Type}
  {post : α → DbContext → DbWorld → Prop}
  {failed : Failure → DbContext → DbWorld → Prop} {context : DbContext}
  {world : DbWorld} {next : β → Tx α}

@[simp] theorem extend_nothing (context : DbContext) :
    context.extend [] ∅ = context := by
  simp [Context.extend]

@[simp] theorem extend_extend (context : DbContext)
    (first second : List (Lock × LockMode)) (writes more : Writes) :
    (context.extend first writes).extend second more =
      context.extend (second ++ first) (writes ++ more) := by
  simp only [Context.extend, List.append_assoc, Context.mk.injEq, and_true,
    true_and]
  simp only [HAppend.hAppend, Append.append]
  simp only [List.append_eq, List.append_assoc]

@[simp] theorem extend_request (context : DbContext)
    (locks : List (Lock × LockMode)) (writes : Writes) :
    (context.extend locks writes).request = context.request := rfl

@[simp] theorem extend_now (context : DbContext)
    (locks : List (Lock × LockMode)) (writes : Writes) :
    (context.extend locks writes).now = context.now := rfl

@[simp] theorem extend_writes (context : DbContext)
    (locks : List (Lock × LockMode)) (writes : Writes) :
    (context.extend locks writes).writes = context.writes ++ writes := rfl

@[simp] theorem extend_locks (context : DbContext)
    (locks : List (Lock × LockMode)) (writes : Writes) :
    (context.extend locks writes).locks = locks ++ context.locks := rfl

@[simp] theorem extend_owned (context : DbContext)
    (locks : List (Lock × LockMode)) (writes : Writes) :
    (context.extend locks writes).owned = context.owned := rfl

@[simp] theorem extend_commits (context : DbContext)
    (locks : List (Lock × LockMode)) (writes : Writes) :
    (context.extend locks writes).commits = context.commits := rfl

/-- What a context holds does not depend on its writes. -/
theorem grows_writes {context : DbContext} {locks : List (Lock × LockMode)}
    {first second : Writes} :
    (context.extend locks first).Grows (context.extend locks second) :=
  ⟨fun _ member => member, fun _ member => member⟩

@[simp] theorem own_request (context : DbContext) (source : Draw)
    (value : Nat) : (context.own source value).request = context.request := rfl

@[simp] theorem own_now (context : DbContext) (source : Draw) (value : Nat) :
    (context.own source value).now = context.now := rfl

@[simp] theorem own_writes (context : DbContext) (source : Draw)
    (value : Nat) : (context.own source value).writes = context.writes := rfl

@[simp] theorem own_locks (context : DbContext) (source : Draw) (value : Nat) :
    (context.own source value).locks = context.locks := rfl

@[simp] theorem own_owned (context : DbContext) (source : Draw) (value : Nat) :
    (context.own source value).owned = (source, value) :: context.owned := rfl

@[simp] theorem own_commits (context : DbContext) (source : Draw)
    (value : Nat) : (context.own source value).commits = context.commits := rfl

theorem within_query {read : Nat → Db → β}
    (step : ∀ now, Relies environment drawn context world now →
      Within environment drawn (next (read context.now (now.view context)))
        post failed context now) :
    Within environment drawn (Tx.query read >>= next) post failed context
      world := by
  refine within_run.mpr fun now rely => ?_
  change Within environment drawn _ post failed (context.extend [] ∅) now
  rw [extend_nothing]
  exact step now rely

theorem within_select {locks : Db → List (Lock × LockMode)}
    {read : Nat → Db → β}
    (step : ∀ now, Relies environment drawn context world now →
      Within environment drawn (next (read context.now (now.view context)))
        post failed (context.extend (locks (now.view context)) ∅) now) :
    Within environment drawn (Tx.select locks read >>= next) post failed
      context world :=
  within_run.mpr step

theorem within_execute {locks : Db → List (Lock × LockMode)}
    {effect : Nat → Db → Except Failure (β × Writes)}
    (rejected : ∀ now, Relies environment drawn context world now →
      ∀ failure, effect context.now (now.view context) = .error failure →
        failed failure context now)
    (step : ∀ now, Relies environment drawn context world now →
      ∀ value writes,
        effect context.now (now.view context) = .ok (value, writes) →
        Within environment drawn (next value) post failed
          (context.extend (locks (now.view context)) writes) now) :
    Within environment drawn (Tx.execute locks effect >>= next) post failed
      context world := by
  refine within_run.mpr fun now rely => ?_
  cases ran : effect context.now (now.view context) with
  | error failure =>
      simp only [ran]
      exact rejected now rely failure ran
  | ok result =>
      simp only [ran]
      exact step now rely result.1 result.2 ran

theorem within_fresh {source : Draw} {next : Nat → Tx α}
    (step : ∀ now, Relies environment drawn context world now →
      ∀ value, mayDraw environment source value = true →
        (source, value) ∉ now.drawn →
        Within environment drawn (next value) post failed
          (context.own source value)
          { now with drawn := (source, value) :: now.drawn }) :
    Within environment drawn (Program.draw source >>= next) post failed
      context world :=
  within_draw.mpr step

theorem within_done {value : α}
    (step : ∀ now, Relies environment drawn context world now →
      post value context now) :
    Within environment drawn (pure value) post failed context world :=
  step

/-- The last statement of a body. -/
theorem within_last {program : Tx α}
    (verified : Within environment drawn (program >>= pure) post failed context
      world) :
    Within environment drawn program post failed context world := by
  rw [bind_pure] at verified
  exact verified

theorem quiet_query {read : Nat → Db → β} {result : β → Prop}
    (holds : ∀ now db, result (read now db)) :
    (Tx.query read).Quiet result :=
  fun now db => ⟨rfl, rfl, holds now db⟩

/-- Sequencing outside of transactions. -/
theorem wp_then {program : Tx β}
    (verified : Wp environment drawn program
      (fun value => Wp environment drawn (next value) post failed) failed
      context world) :
    Wp environment drawn (program >>= next) post failed context world := by
  rw [Wp, wp_bind]
  exact verified

theorem wp_fresh {source : Draw} {next : Nat → Tx α}
    (step : ∀ now, Relies environment drawn context world now →
      ∀ value, mayDraw environment source value = true →
        (source, value) ∉ now.drawn →
        Wp environment drawn (next value) post failed
          (context.own source value)
          { now with drawn := (source, value) :: now.drawn }) :
    Wp environment drawn (Program.draw source >>= next) post failed context
      world :=
  step

/-- What is held now protects the same rows until the transaction ends. -/
theorem within_hold (hold : Hold Lock Draw) (held : context.Has hold)
    {program : Tx α} (inv : Invariant environment drawn world)
    (verified : Within environment drawn program
      (fun value context later => Keeps environment world later hold →
        post value context later)
      (fun failure context later => Keeps environment world later hold →
        failed failure context later) context world) :
    Within environment drawn program post failed context world := by
  refine within_keep (fun later => Keeps environment world later hold) inv
    (Keeps.refl environment hold (.refl world)) ?_ ?_ verified
  · intro now later _ kept rely
    exact kept.trans (rely.keeps hold held)
  · intro later value kept
    exact kept.trans (Keeps.refl environment hold (.draw value))

/-- Everything held now protects its rows until the transaction ends. -/
theorem within_relies {program : Tx α} (inv : Invariant environment drawn world)
    (verified : Within environment drawn program
      (fun value context' later =>
        (∀ hold, context.Has hold → Keeps environment world later hold) →
          post value context' later)
      (fun failure context' later =>
        (∀ hold, context.Has hold → Keeps environment world later hold) →
          failed failure context' later) context world) :
    Within environment drawn program post failed context world := by
  refine within_keep (fun later => ∀ hold, context.Has hold →
    Keeps environment world later hold) inv
    (fun hold _ => Keeps.refl environment hold (.refl world)) ?_ ?_ verified
  · intro now later _ kept rely hold held
    exact (kept hold held).trans (rely.keeps hold held)
  · intro later value kept hold held
    exact (kept hold held).trans (Keeps.refl environment hold (.draw value))

/-- The context of a transaction that has just been opened. -/
structure Opened (context opened : DbContext) : Prop where
  tid : opened.tid = context.tid
  request : opened.request = context.request
  writes : opened.writes = context.writes
  owned : opened.owned = context.owned
  commits : opened.commits = context.commits

theorem wp_opened {body : Tx α}
    (verified : ∀ opened start, Opened context opened →
      Relies environment drawn context world start →
      Within environment drawn body
        (fun value context world =>
          (discipline environment drawn).Guarantee context world
              (world.commit context) ∧
            post value context.release (world.commit context))
        failed opened start) :
    Wp environment drawn (.transaction body) post failed context world :=
  wp_of_within fun start rely =>
    verified _ start ⟨rfl, rfl, rfl, rfl, rfl⟩ rely

/-- What a guarantee gives to the rest of the request. -/
theorem guarantee_and {rest : Prop}
    (guaranteed : (discipline environment drawn).Guarantee context world
      (world.commit context))
    (more : Invariant environment drawn (world.commit context) → rest) :
    (discipline environment drawn).Guarantee context world
      (world.commit context) ∧ rest :=
  ⟨guaranteed, more guaranteed.inv⟩

theorem kept_always {later : DbWorld}
    (rely : Relies environment drawn context world later) :
    Kept environment world later :=
  rely.keeps .always trivial

theorem kept_workspace {later : DbWorld} (id : Nat)
    (rely : Relies environment drawn context world later)
    (held : (Lock.workspace id, LockMode.update) ∈ context.locks)
    (present : (world.db.workspaces.find id).isSome) :
    WorkspaceKept id world.db later.db :=
  rely.keeps (.lock (.workspace id) .update) held present

theorem kept_user {later : DbWorld} (id : Nat) (mode : LockMode)
    (rely : Relies environment drawn context world later)
    (held : (Lock.user id, mode) ∈ context.locks)
    (present : (world.db.users.find id).isSome) :
    UserKept id mode world.db later.db :=
  rely.keeps (.lock (.user id) mode) held present

theorem within_audit {actor : Nat} {event uri : String} {next : Unit → Tx α}
    (rejected : ∀ now failure value,
      failed failure (context.own .activityId value) now)
    (step : ∀ now value activities,
      Relies environment drawn context world now →
      Within environment drawn (next ()) post failed
        ((context.own .activityId value).extend [] { activities }) now) :
    Within environment drawn
      (AdminMutationService.audit actor event uri >>= next) post failed context
      world := by
  simp only [AdminMutationService.audit_eq, bind_assoc]
  refine within_fresh fun now1 rely1 value _ _ => ?_
  refine within_execute (fun now _ failure _ => rejected now failure _) ?_
  intro now2 rely2 result writes stepped
  have rely : Relies environment drawn context world now2 := by
    refine (rely1.trans (.ofSilent (.draw (.activityId, value)) rely1.inv)).trans
      (rely2.weaken ((Context.Grows.refl context).own _ _))
  split at stepped
  · cases stepped
  · split at stepped
    · cases stepped
    · cases stepped
      exact step now2 value _ rely

end Api

end SaasFoundation
