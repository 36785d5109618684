import SaasFoundation.Transaction.Body

/-!
# Programs that only look

A program that neither locks nor writes can only fail or return a value, and
whatever the other requests do meanwhile it leaves the request where it was.
`Quiet result` says so of a program all of whose values satisfy `result`.
-/

namespace Transaction

variable {σ ω ℓ δ ε ρ τ α β : Type}

/-- No lock, no write, no transaction; every value returned satisfies
`result`. -/
def Program.Quiet [EmptyCollection ω] (result : α → Prop) :
    Program σ ω ℓ δ ε α → Prop
  | .done value => result value
  | .fail _ => True
  | .start _ => False
  | .commit _ => False
  | .fresh _ next => ∀ value, Quiet result (next value)
  | .perform statement next => ∀ now state,
      match statement.run now state with
      | .ok (value, writes) =>
          writes = ∅ ∧ statement.locks now state = [] ∧
            Quiet result (next value)
      | .error _ => True

namespace Program.Quiet

variable [EmptyCollection ω] {result middle : α → Prop}
  {program : Program σ ω ℓ δ ε α}

theorem done {value : α} (holds : result value) :
    Quiet result (pure value : Program σ ω ℓ δ ε α) :=
  holds

theorem draw {source : δ} {result : Nat → Prop} (holds : ∀ value, result value) :
    Quiet result (.draw source : Program σ ω ℓ δ ε Nat) :=
  holds

/-- Sequencing: the rest may use what is known of the value. -/
theorem bind {result : β → Prop} {rest : α → Program σ ω ℓ δ ε β}
    (quiet : program.Quiet middle)
    (next : ∀ value, middle value → (rest value).Quiet result) :
    (program >>= rest).Quiet result := by
  rw [Program.bind_eq]
  induction program with
  | done value => exact next value quiet
  | fail error => trivial
  | start | commit => exact quiet.elim
  | fresh source program ih => exact fun value => ih value (quiet value)
  | perform statement program ih =>
      intro now state
      have step := quiet now state
      revert step
      dsimp only
      cases statement.run now state with
      | error error => exact id
      | ok result => exact fun step => ⟨step.1, step.2.1, ih _ step.2.2⟩

theorem mono (quiet : program.Quiet middle)
    (weaker : ∀ value, middle value → result value) : program.Quiet result := by
  induction program with
  | done value => exact weaker value quiet
  | fail error => trivial
  | start | commit => exact quiet
  | fresh source program ih => exact fun value => ih value (quiet value)
  | perform statement program ih =>
      intro now state
      have step := quiet now state
      revert step
      cases statement.run now state with
      | error error => exact id
      | ok result => exact fun step => ⟨step.1, step.2.1, ih _ step.2.2⟩

end Program.Quiet

/-- The same point of a request, possibly after further draws. -/
structure Context.Still (context later : Context ω ℓ δ ρ) : Prop where
  tid : later.tid = context.tid
  request : later.request = context.request
  writes : later.writes = context.writes
  locks : later.locks = context.locks
  now : later.now = context.now
  commits : later.commits = context.commits
  owned : ∀ value ∈ context.owned, value ∈ later.owned

namespace Context.Still

variable {context later : Context ω ℓ δ ρ}

theorem refl (context : Context ω ℓ δ ρ) : context.Still context :=
  ⟨rfl, rfl, rfl, rfl, rfl, rfl, fun _ member => member⟩

theorem trans {third : Context ω ℓ δ ρ} (left : context.Still later)
    (right : later.Still third) : context.Still third :=
  ⟨right.tid.trans left.tid, right.request.trans left.request,
    right.writes.trans left.writes, right.locks.trans left.locks,
    right.now.trans left.now, right.commits.trans left.commits,
    fun value member => right.owned value (left.owned value member)⟩

theorem own (context : Context ω ℓ δ ρ) (source : δ) (value : Nat) :
    context.Still (context.own source value) :=
  ⟨rfl, rfl, rfl, rfl, rfl, rfl, fun _ member => .tail _ member⟩

theorem grows (still : context.Still later) : context.Grows later :=
  ⟨fun _ member => still.locks ▸ member, still.owned⟩

end Context.Still

theorem Context.extend_nothing (σ : Type) [WriteSet ω σ]
    (context : Context ω ℓ δ ρ) : context.extend [] (∅ : ω) = context := by
  obtain ⟨tid, request, writes, locks, owned, now, commits⟩ := context
  simp only [Context.extend, List.nil_append, Context.mk.injEq, and_true,
    true_and]
  exact @WriteSet.append_empty ω σ _ writes

namespace Discipline

variable [WriteSet ω σ] {discipline : Discipline σ ω ℓ δ ε ρ τ}
  {mayDraw : δ → Nat → Bool} {context : Context ω ℓ δ ρ}
  {world : World σ ω δ ρ} {program : Program σ ω ℓ δ ε α} {result : α → Prop}

omit [WriteSet ω σ] in
private theorem rely_draw {now : World σ ω δ ρ} (value : δ × Nat)
    (rely : discipline.Rely context world now) :
    discipline.Rely context world
      { now with drawn := value :: now.drawn } :=
  rely.trans (.ofSilent (.draw value) rely.inv)

/-- A quiet program outside of transactions. -/
theorem wp_quiet {post : α → Context ω ℓ δ ρ → World σ ω δ ρ → Prop}
    {failed : ε → Context ω ℓ δ ρ → World σ ω δ ρ → Prop}
    (quiet : program.Quiet result) (inv : discipline.Inv world)
    (rejected : ∀ error later now, failed error later now)
    (step : ∀ value later now, context.Still later →
      discipline.Rely context world now → result value →
      post value later now) :
    discipline.wp mayDraw program post failed context world := by
  suffices ∀ here now, context.Still here →
      discipline.Rely context world now →
      discipline.wp mayDraw program post failed here now from
    this context world (.refl context) (.refl inv)
  induction program with
  | done value =>
      exact fun here now still rely => step value here now still rely quiet
  | fail error => exact fun here now _ _ => rejected error here now
  | start | commit => exact quiet.elim
  | fresh source program ih =>
      intro here now still rely later relyLater value _ _
      refine ih value (quiet value) _ _ (still.trans (.own _ _ _)) ?_
      exact rely_draw _ (rely.trans (relyLater.weaken still.grows))
  | perform statement program ih =>
      intro here now still rely later relyLater
      have stepped := quiet here.now (later.view here)
      revert stepped
      cases statement.run here.now (later.view here) with
      | error error => exact fun _ => rejected error here later
      | ok outcome =>
          rintro ⟨writes, locks, rest⟩
          have same : here.extend
              (statement.locks here.now (later.view here)) outcome.2 = here := by
            rw [writes, locks]
            exact Context.extend_nothing σ here
          dsimp only
          rw [same]
          exact ih outcome.1 rest here later still
            (rely.trans (relyLater.weaken still.grows))

/-- Nothing is asked of a quiet program. -/
theorem wp_idle (quiet : program.Quiet result) :
    discipline.wp mayDraw program (fun _ _ _ => True) (fun _ _ _ => True)
      context world := by
  induction program generalizing context world with
  | done | fail => trivial
  | start | commit => exact quiet.elim
  | fresh source program ih => exact fun _ _ value _ _ => ih value (quiet value)
  | perform statement program ih =>
      intro now _
      have stepped := quiet context.now (now.view context)
      revert stepped
      cases statement.run context.now (now.view context) with
      | error error => exact fun _ => trivial
      | ok outcome => exact fun stepped => ih outcome.1 stepped.2.2

/-- A quiet program inside a transaction. -/
theorem within_quiet {next : α → Program σ ω ℓ δ ε β}
    {post : β → Context ω ℓ δ ρ → World σ ω δ ρ → Prop}
    {failed : ε → Context ω ℓ δ ρ → World σ ω δ ρ → Prop}
    (quiet : program.Quiet result) (inv : discipline.Inv world)
    (rejected : ∀ error later now, failed error later now)
    (step : ∀ value later now, context.Still later →
      discipline.Rely context world now → result value →
      discipline.within mayDraw (next value) post failed later now) :
    discipline.within mayDraw (program >>= next) post failed context world := by
  have verified : discipline.wp mayDraw program
      (fun value => discipline.within mayDraw (next value) post failed) failed
      context world := wp_quiet quiet inv rejected step
  clear step inv
  rw [Program.bind_eq]
  induction program generalizing context world with
  | done | fail => exact verified
  | start | commit => exact quiet.elim
  | fresh source program ih =>
      exact fun now rely value allowed unused =>
        ih value (quiet value) (verified now rely value allowed unused)
  | perform statement program ih =>
      intro now rely
      have stepped := verified now rely
      have rest := quiet context.now (now.view context)
      revert stepped rest
      cases statement.run context.now (now.view context) with
      | error error => exact fun stepped _ => stepped
      | ok outcome => exact fun stepped rest => ih _ rest.2.2 stepped

end Discipline

end Transaction
