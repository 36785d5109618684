import SaasFoundation.Transaction.Quiet

/-!
# Triples over interfering requests

`Triple before program after` says that a program started where `before` holds
returns only where `after` does, whatever the others do meanwhile; nothing is
said of failures.  Assertions speak about the request and the committed state.
A `Settled` assertion survives the steps of the others and the request's own
draws.
-/

namespace Transaction

namespace Discipline

variable {σ ω ℓ δ ε ρ τ α β : Type} [WriteSet ω σ]

section

variable (discipline : Discipline σ ω ℓ δ ε ρ τ) (mayDraw : δ → Nat → Bool)

def Triple (before : Context ω ℓ δ ρ → World σ ω δ ρ → Prop)
    (program : Program σ ω ℓ δ ε α)
    (after : α → Context ω ℓ δ ρ → World σ ω δ ρ → Prop) : Prop :=
  ∀ context world, before context world →
    discipline.wp mayDraw program after (fun _ _ _ => True) context world

omit [WriteSet ω σ] in
/-- Nothing the others do, and no draw, invalidates the assertion. -/
structure Settled (assertion : Context ω ℓ δ ρ → World σ ω δ ρ → Prop) :
    Prop where
  rely : ∀ {context world now}, assertion context world →
    discipline.Rely context world now → assertion context now
  draw : ∀ {context : Context ω ℓ δ ρ} {world : World σ ω δ ρ} {source value},
    assertion context world → assertion (context.own source value)
      { world with drawn := (source, value) :: world.drawn }

end

namespace Triple

variable {discipline : Discipline σ ω ℓ δ ε ρ τ} {mayDraw : δ → Nat → Bool}
  {before : Context ω ℓ δ ρ → World σ ω δ ρ → Prop}
  {after after' : α → Context ω ℓ δ ρ → World σ ω δ ρ → Prop}
  {last : β → Context ω ℓ δ ρ → World σ ω δ ρ → Prop}
  {program : Program σ ω ℓ δ ε α}

theorem done {value : α}
    (holds : ∀ context world, before context world → after value context world) :
    discipline.Triple mayDraw before (pure value : Program σ ω ℓ δ ε α) after :=
  holds

theorem fail {error : ε} :
    discipline.Triple mayDraw before (.fail error : Program σ ω ℓ δ ε α)
      after :=
  fun _ _ _ => trivial

theorem bind {rest : α → Program σ ω ℓ δ ε β}
    (first : discipline.Triple mayDraw before program after)
    (next : ∀ value, discipline.Triple mayDraw (after value) (rest value) last) :
    discipline.Triple mayDraw before (program >>= rest) last := by
  intro context world holds
  rw [wp_bind]
  refine wp_mono (first context world holds) ?_ fun _ _ _ failed => failed
  exact fun value later now returned => next value later now returned

theorem mono (triple : discipline.Triple mayDraw before program after)
    (weaker : ∀ value context world, after value context world →
      after' value context world) :
    discipline.Triple mayDraw before program after' :=
  fun context world holds =>
    wp_mono (triple context world holds) weaker fun _ _ _ failed => failed

/-- Facts about values may be assumed first. -/
theorem assuming {fact : Prop}
    (triple : fact → discipline.Triple mayDraw before program after) :
    discipline.Triple mayDraw
      (fun context world => before context world ∧ fact) program after :=
  fun context world holds => triple holds.2 context world holds.1

theorem mapError (triple : discipline.Triple mayDraw before program after)
    (rethrow : ε → ε) :
    discipline.Triple mayDraw before (program.mapError rethrow) after :=
  fun context world holds => wp_mapError (triple context world holds)

theorem draw {source : δ}
    {after : Nat → Context ω ℓ δ ρ → World σ ω δ ρ → Prop}
    (settled : discipline.Settled before)
    (step : ∀ context world value, before context world →
      mayDraw source value = true → (source, value) ∉ world.drawn →
      after value (context.own source value)
        { world with drawn := (source, value) :: world.drawn }) :
    discipline.Triple mayDraw before
      (.draw source : Program σ ω ℓ δ ε Nat) after :=
  fun context _ holds now rely value allowed unused =>
    step context now value (settled.rely holds rely) allowed unused

theorem run {statement : Statement σ ω ℓ ε α}
    (settled : discipline.Settled before)
    (step : ∀ (context : Context ω ℓ δ ρ) (world : World σ ω δ ρ) value writes,
      before context world →
      statement.run context.now (world.view context) = .ok (value, writes) →
      after value
        (context.extend (statement.locks context.now (world.view context))
          writes) world) :
    discipline.Triple mayDraw before
      (.run statement : Program σ ω ℓ δ ε α) after := by
  intro context world holds
  refine wp_run.mpr fun now rely => ?_
  have here := settled.rely holds rely
  cases ran : statement.run context.now (now.view context) with
  | error error => trivial
  | ok result => exact step context now result.1 result.2 here ran

/-- A transaction opens, publishes what its body has left and releases. -/
theorem transaction (settled : discipline.Settled before)
    (opens : ∀ context world clock, before context world →
      before { context with now := clock } world)
    (triple : discipline.Triple mayDraw before program after)
    (settledAfter : ∀ value, discipline.Settled (after value))
    (commits : ∀ value context world, after value context world →
      discipline.Guarantee context world (world.commit context) ∧
        after' value context.release (world.commit context)) :
    discipline.Triple mayDraw before (.transaction program) after' := by
  intro context world holds
  refine wp_transaction.mpr fun now rely => ?_
  have opened := opens context now now.clock (settled.rely holds rely)
  refine wp_mono (triple _ now opened) ?_ fun _ _ _ failed => failed
  exact fun value later here returned last lastRely =>
    commits value later last ((settledAfter value).rely returned lastRely)

end Triple

omit [WriteSet ω σ] in
theorem Settled.assuming {discipline : Discipline σ ω ℓ δ ε ρ τ}
    {assertion : Context ω ℓ δ ρ → World σ ω δ ρ → Prop} {fact : Prop}
    (settled : discipline.Settled assertion) :
    discipline.Settled fun context world => assertion context world ∧ fact where
  rely holds rely := ⟨settled.rely holds.1 rely, holds.2⟩
  draw holds := ⟨settled.draw holds.1, holds.2⟩

end Discipline

namespace Program

variable {σ ω ℓ δ ε ρ τ α β : Type} {sound : σ → Prop} {allowed : ω → Prop}
  {result : α → Prop}

/-- No transaction; in sound states every write is `allowed`, and every value
satisfies `result`. -/
def Writes (sound : σ → Prop) (allowed : ω → Prop) (result : α → Prop) :
    Program σ ω ℓ δ ε α → Prop
  | .done value => result value
  | .fail _ => True
  | .start _ => False
  | .commit _ => False
  | .fresh _ next => ∀ value, Writes sound allowed result (next value)
  | .perform statement next => ∀ now state, sound state →
      match statement.run now state with
      | .ok (value, writes) =>
          allowed writes ∧ Writes sound allowed result (next value)
      | .error _ => True

@[simp] theorem writes_pure {value : α} :
    (pure value : Program σ ω ℓ δ ε α).Writes sound allowed result ↔ result value :=
  Iff.rfl

@[simp] theorem writes_fail {error : ε} :
    (.fail error : Program σ ω ℓ δ ε α).Writes sound allowed result ↔ True :=
  Iff.rfl

@[simp] theorem writes_draw {source : δ} {result : Nat → Prop} :
    (.draw source : Program σ ω ℓ δ ε Nat).Writes sound allowed result ↔
      ∀ value, result value :=
  Iff.rfl

/-- Sequencing: the rest is asked for where the first part ends. -/
@[simp] theorem writes_bind {program : Program σ ω ℓ δ ε α}
    {rest : α → Program σ ω ℓ δ ε β} {result : β → Prop} :
    (program >>= rest).Writes sound allowed result ↔
      program.Writes sound allowed fun value => (rest value).Writes sound allowed result := by
  rw [bind_eq]
  induction program with
  | done | fail | start | commit => rfl
  | fresh source next ih => exact forall_congr' fun value => ih value
  | perform statement next ih =>
      apply forall_congr'
      intro now
      apply forall_congr'
      intro state
      apply forall_congr'
      intro _
      dsimp only
      cases statement.run now state with
      | error error => rfl
      | ok outcome => exact and_congr_right fun _ => ih outcome.1

theorem Writes.mono {result' : α → Prop} {program : Program σ ω ℓ δ ε α}
    (writes : program.Writes sound allowed result)
    (weaker : ∀ value, result value → result' value) :
    program.Writes sound allowed result' := by
  induction program with
  | done value => exact weaker value writes
  | fail error => trivial
  | start | commit => exact writes
  | fresh source next ih => exact fun value => ih value (writes value)
  | perform statement next ih =>
      intro now state fine
      have step := writes now state fine
      revert step
      cases statement.run now state with
      | error error => exact id
      | ok outcome => exact fun step => ⟨step.1, ih _ step.2⟩

@[simp] theorem writes_map {program : Program σ ω ℓ δ ε α} {reply : α → β}
    {result : β → Prop} :
    (reply <$> program).Writes sound allowed result ↔
      program.Writes sound allowed fun value => result (reply value) :=
  writes_bind

/-- The rest may use what is known of the value. -/
theorem Writes.bind {program : Program σ ω ℓ δ ε α}
    {rest : α → Program σ ω ℓ δ ε β} {last : β → Prop}
    (first : program.Writes sound allowed result)
    (next : ∀ value, result value → (rest value).Writes sound allowed last) :
    (program >>= rest).Writes sound allowed last :=
  writes_bind.mpr (first.mono next)

end Program

namespace Discipline

variable {σ ω ℓ δ ε ρ τ α : Type} [WriteSet ω σ]
  {discipline : Discipline σ ω ℓ δ ε ρ τ} {mayDraw : δ → Nat → Bool}
  {assertion : Context ω ℓ δ ρ → World σ ω δ ρ → Prop} {sound : σ → Prop}
  {allowed : ω → Prop}

/-- An assertion that survives allowed writes survives a program of them. -/
theorem Triple.ofWrites {program : Program σ ω ℓ δ ε α} {result : α → Prop}
    (writes : program.Writes sound allowed result)
    (settled : discipline.Settled assertion)
    (reads : ∀ {context : Context ω ℓ δ ρ} {world : World σ ω δ ρ},
      assertion context world → sound (world.view context))
    (carried : ∀ {context : Context ω ℓ δ ρ} {world : World σ ω δ ρ} locks
      written, assertion context world → allowed written →
      assertion (context.extend locks written) world) :
    discipline.Triple mayDraw assertion program
      fun value context world => assertion context world ∧ result value := by
  induction program with
  | done value => exact fun context world holds => ⟨holds, writes⟩
  | fail error => exact fun _ _ _ => trivial
  | start | commit => exact writes.elim
  | fresh source next ih =>
      intro context world holds now rely value allowed unused
      exact ih value (writes value) _ _ (settled.draw (settled.rely holds rely))
  | perform statement next ih =>
      intro context world holds now rely
      have here := settled.rely holds rely
      have step := writes context.now (now.view context) (reads here)
      revert step
      dsimp only
      cases statement.run context.now (now.view context) with
      | error error => exact fun _ => trivial
      | ok outcome =>
          exact fun step => ih outcome.1 step.2 _ now
            (carried _ _ here step.1)

end Discipline

end Transaction
