import SaasFoundation.Transaction.Quiet
import SaasFoundation.Transaction.Triple

/-!
# Invariants kept by every write

`Only` looks at the statements of a program one by one: run on a state that is
sound, each of them writes what is allowed.  When allowed writes keep a state
sound, so do any requests of this kind, however they are interleaved; no lock
is needed for that.
-/

namespace Transaction

variable {σ ω ℓ δ ε ρ τ α β : Type}

namespace Program

/-- On sound states every statement of the program, in whichever transaction,
writes what is allowed. -/
def Only (sound : σ → Prop) (allowed : ω → Prop) : Program σ ω ℓ δ ε α → Prop
  | .done _ => True
  | .fail _ => True
  | .start next => next.Only sound allowed
  | .commit next => next.Only sound allowed
  | .fresh _ next => ∀ value, (next value).Only sound allowed
  | .perform statement next => ∀ now state, sound state →
      match statement.run now state with
      | .ok (value, written) => allowed written ∧ (next value).Only sound allowed
      | .error _ => True

namespace Only

variable {sound : σ → Prop} {allowed : ω → Prop}
  {program : Program σ ω ℓ δ ε α}

@[grind ←]
theorem done {value : α} :
    (pure value : Program σ ω ℓ δ ε α).Only sound allowed :=
  trivial

@[grind ←]
theorem fail {error : ε} :
    (.fail error : Program σ ω ℓ δ ε α).Only sound allowed :=
  trivial

@[grind ←]
theorem draw {source : δ} :
    (draw source : Program σ ω ℓ δ ε Nat).Only sound allowed :=
  fun _ => trivial

theorem run {statement : Statement σ ω ℓ ε α}
    (step : ∀ now state value written, sound state →
      statement.run now state = .ok (value, written) → allowed written) :
    (run statement : Program σ ω ℓ δ ε α).Only sound allowed := by
  intro now state here
  cases ran : statement.run now state with
  | error error => trivial
  | ok outcome => exact ⟨step now state outcome.1 outcome.2 here ran, trivial⟩

@[grind ←]
theorem bind {rest : α → Program σ ω ℓ δ ε β}
    (first : program.Only sound allowed)
    (next : ∀ value, (rest value).Only sound allowed) :
    (program >>= rest).Only sound allowed := by
  rw [bind_eq]
  induction program with
  | done value => exact next value
  | fail error => trivial
  | start program ih | commit program ih => exact ih first
  | fresh source program ih => exact fun value => ih value (first value)
  | perform statement program ih =>
      intro now state here
      have step := first now state here
      revert step
      dsimp only
      cases statement.run now state with
      | error error => exact id
      | ok outcome => exact fun step => ⟨step.1, ih _ step.2⟩

@[grind ←]
theorem transaction (body : program.Only sound allowed) :
    program.transaction.Only sound allowed :=
  body.bind fun _ => trivial

@[grind ←]
theorem mapError {rethrow : ε → ε} (only : program.Only sound allowed) :
    (program.mapError rethrow).Only sound allowed := by
  induction program with
  | done | fail => exact only
  | start next ih | commit next ih => exact ih only
  | fresh source next ih => exact fun value => ih value (only value)
  | perform statement next ih =>
      intro now state here
      have step := only now state here
      revert step
      dsimp only
      cases statement.run now state with
      | error error => exact id
      | ok outcome => exact fun step => ⟨step.1, ih _ step.2⟩

theorem ofWrites {asked : ω → Prop} {result : α → Prop}
    (writes : program.Writes sound asked result)
    (laxer : ∀ writes, asked writes → allowed writes) :
    program.Only sound allowed := by
  induction program with
  | done | fail => trivial
  | start | commit => exact writes.elim
  | fresh source next ih => exact fun value => ih value (writes value)
  | perform statement next ih =>
      intro now state here
      have step := writes now state here
      revert step
      cases statement.run now state with
      | error error => exact id
      | ok outcome => exact fun step => ⟨laxer _ step.1, ih _ step.2⟩

theorem ofQuiet [EmptyCollection ω] {result : α → Prop}
    (quiet : program.Quiet result) (nothing : allowed ∅) :
    program.Only sound allowed := by
  induction program with
  | done | fail => trivial
  | start | commit => exact quiet.elim
  | fresh source next ih => exact fun value => ih value (quiet value)
  | perform statement next ih =>
      intro now state here
      have step := quiet now state
      revert step
      cases statement.run now state with
      | error error => exact id
      | ok outcome =>
          exact fun step => ⟨step.1.symm ▸ nothing, ih _ step.2.2⟩

end Only

end Program

/-- Allowed writes on a sound state leave it sound. -/
structure Preserving [WriteSet ω σ] (sound : σ → Prop) (allowed : ω → Prop) :
    Prop where
  nothing : allowed ∅
  append : ∀ first second, allowed first → allowed second →
    allowed (first ++ second)
  apply : ∀ writes state, sound state → allowed writes →
    sound (WriteSet.apply writes state)

variable [WriteSet ω σ] [DecidableEq ℓ] [DecidableEq δ] {sound : σ → Prop}
  {allowed : ω → Prop}

/-- What is left of a request, and what it has pending, is allowed. -/
def Thread.Within (sound : σ → Prop) (allowed : ω → Prop)
    (thread : Thread σ ω ℓ δ ε ρ τ) : Prop :=
  thread.program.Only sound allowed ∧ allowed thread.context.writes

theorem Thread.Within.advance (preserving : Preserving sound allowed)
    {mayDraw : δ → Nat → Bool} {held : List (ℓ × LockMode)} {value : Nat}
    {world next : World σ ω δ ρ} {thread : Thread σ ω ℓ δ ε ρ τ}
    {moved : Option (Thread σ ω ℓ δ ε ρ τ)} (within : thread.Within sound allowed)
    (here : sound world.db)
    (advanced : thread.advance mayDraw held value world = some (next, moved)) :
    sound next.db ∧ ∀ thread ∈ moved, thread.Within sound allowed := by
  obtain ⟨context, program⟩ := thread
  obtain ⟨only, pending⟩ := within
  cases program with
  | done | fail =>
      simp only [Thread.advance, Option.some.injEq, Prod.mk.injEq] at advanced
      obtain ⟨rfl, rfl⟩ := advanced
      exact ⟨here, by simp⟩
  | start program =>
      simp only [Thread.advance, Option.some.injEq, Prod.mk.injEq] at advanced
      obtain ⟨rfl, rfl⟩ := advanced
      refine ⟨here, ?_⟩
      rintro _ ⟨⟩
      exact ⟨only, pending⟩
  | commit program =>
      simp only [Thread.advance, Option.some.injEq, Prod.mk.injEq] at advanced
      obtain ⟨rfl, rfl⟩ := advanced
      refine ⟨preserving.apply _ _ here pending, ?_⟩
      rintro _ ⟨⟩
      exact ⟨only, preserving.nothing⟩
  | fresh source program =>
      simp only [Thread.advance, Option.ite_none_right_eq_some,
        Option.some.injEq, Prod.mk.injEq] at advanced
      obtain ⟨_, rfl, rfl⟩ := advanced
      refine ⟨here, ?_⟩
      rintro _ ⟨⟩
      exact ⟨only value, pending⟩
  | perform statement program =>
      simp only [Thread.advance, Option.ite_none_right_eq_some] at advanced
      obtain ⟨_, advanced⟩ := advanced
      have step := only context.now (world.view context)
        (preserving.apply _ _ here pending)
      cases ran : statement.run context.now (world.view context) with
      | error error =>
          simp only [ran, Option.some.injEq, Prod.mk.injEq] at advanced
          obtain ⟨rfl, rfl⟩ := advanced
          refine ⟨here, ?_⟩
          rintro _ ⟨⟩
          exact ⟨trivial, pending⟩
      | ok outcome =>
          simp only [ran, Option.some.injEq, Prod.mk.injEq] at advanced
          obtain ⟨rfl, rfl⟩ := advanced
          rw [ran] at step
          refine ⟨here, ?_⟩
          rintro _ ⟨⟩
          exact ⟨step.2, preserving.append _ _ pending step.1⟩

namespace System.Reachable

variable {system : System σ ω ℓ δ ε ρ τ} {world : World σ ω δ ρ}
  {config : Config σ ω ℓ δ ε ρ τ}

/-- A state that all writes keep sound is sound in every reachable
configuration. -/
theorem preserved (reachable : system.Reachable (.idle world) config)
    (preserving : Preserving sound allowed)
    (only : ∀ state request, system.mayStart state request = true →
      (system.program request).Only sound allowed)
    (initial : sound world.db) : sound config.world.db := by
  suffices sound config.world.db ∧
      ∀ thread ∈ config.threads, thread.Within sound allowed from this.1
  induction reachable with
  | refl => exact ⟨initial, by simp [Config.idle]⟩
  | @step config next choice _ stepped ih =>
      obtain ⟨here, within⟩ := ih
      cases choice with
      | arrive request =>
          simp only [System.step, Option.ite_none_right_eq_some,
            Option.some.injEq] at stepped
          obtain ⟨starts, rfl⟩ := stepped
          refine ⟨here, List.forall_mem_cons.mpr ⟨?_, within⟩⟩
          exact ⟨only _ request starts, preserving.nothing⟩
      | tick =>
          simp only [System.step, Option.some.injEq] at stepped
          subst stepped
          exact ⟨here, within⟩
      | abort index =>
          simp only [System.step, Option.some.injEq] at stepped
          subst stepped
          exact ⟨here, fun thread member =>
            within thread (List.mem_of_mem_eraseIdx member)⟩
      | advance index value =>
          obtain ⟨before, thread, after, moved, split, advanced, kept⟩ :=
            System.step_advance stepped
          have step := (within thread (by simp [split])).advance preserving here
            advanced
          refine ⟨step.1, fun other member => ?_⟩
          rw [kept, List.mem_append, List.mem_append] at member
          rcases member with (left | this) | right
          · exact within other (by simp [split, left])
          · exact step.2 other (Option.mem_toList.mp this)
          · exact within other (by simp [split, right])

end System.Reachable

end Transaction
