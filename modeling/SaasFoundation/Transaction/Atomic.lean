import SaasFoundation.Transaction.History

/-!
# Requests that are one transaction

Such a request fails before it has committed anything, and it returns only
after its commit.  `Inside` is for the parts of a transaction, `Atomic` for the
whole request.
-/

namespace Transaction

variable {σ ω ℓ δ ε ρ τ α β : Type}

namespace Program

/-- Statements and draws only. -/
def Inside : Program σ ω ℓ δ ε α → Prop
  | .done _ => True
  | .fail _ => True
  | .start _ => False
  | .commit _ => False
  | .fresh _ next => ∀ value, (next value).Inside
  | .perform _ next => ∀ value, (next value).Inside

/-- The program returns right after its only commit. -/
def Atomic : Program σ ω ℓ δ ε α → Prop
  | .done _ => False
  | .fail _ => True
  | .start next => next.Atomic
  | .commit next => ∃ value, next = .done value
  | .fresh _ next => ∀ value, (next value).Atomic
  | .perform _ next => ∀ value, (next value).Atomic

variable {program : Program σ ω ℓ δ ε α} {rest : α → Program σ ω ℓ δ ε β}

theorem Inside.run (statement : Statement σ ω ℓ ε α) :
    (run statement : Program σ ω ℓ δ ε α).Inside :=
  fun _ => trivial

theorem Inside.draw (source : δ) :
    (draw source : Program σ ω ℓ δ ε Nat).Inside :=
  fun _ => trivial

theorem Inside.bind (first : program.Inside)
    (next : ∀ value, (rest value).Inside) : (program >>= rest).Inside := by
  rw [bind_eq]
  induction program with
  | done value => exact next value
  | fail error => trivial
  | start | commit => exact first.elim
  | fresh source program ih | perform statement program ih =>
      exact fun value => ih value (first value)

/-- What comes before the transaction. -/
theorem Inside.atomic (first : program.Inside)
    (next : ∀ value, (rest value).Atomic) : (program >>= rest).Atomic := by
  rw [bind_eq]
  induction program with
  | done value => exact next value
  | fail error => trivial
  | start | commit => exact first.elim
  | fresh source program ih | perform statement program ih =>
      exact fun value => ih value (first value)

theorem Atomic.transaction (body : program.Inside) :
    (transaction program).Atomic :=
  body.atomic fun value => ⟨value, rfl⟩

/-- What comes after the transaction neither fails nor touches the store. -/
theorem Atomic.map (atomic : program.Atomic) (reply : α → β) :
    (program >>= fun value => pure (reply value)).Atomic := by
  rw [bind_eq]
  induction program with
  | done value => exact atomic
  | fail error => trivial
  | start next ih => exact ih atomic
  | commit next ih =>
      obtain ⟨value, rfl⟩ := atomic
      exact ⟨reply value, rfl⟩
  | fresh source program ih | perform statement program ih =>
      exact fun value => ih value (atomic value)

theorem Atomic.mapError (atomic : program.Atomic) (rethrow : ε → ε) :
    (program.mapError rethrow).Atomic := by
  induction program with
  | done value => exact atomic
  | fail error => trivial
  | start next ih => exact ih atomic
  | commit next ih =>
      obtain ⟨value, rfl⟩ := atomic
      exact ⟨value, rfl⟩
  | fresh source program ih | perform statement program ih =>
      exact fun value => ih value (atomic value)

end Program

/-- Before the commit, or done after it. -/
def Thread.InOneCommit (thread : Thread σ ω ℓ δ ε ρ τ) : Prop :=
  thread.context.commits = 0 ∧ thread.program.Atomic ∨
    thread.context.commits ≠ 0 ∧ ∃ value, thread.program = .done value

variable [WriteSet ω σ] [DecidableEq ℓ] [DecidableEq δ]

theorem Thread.advance_inOneCommit {mayDraw : δ → Nat → Bool}
    {held : List (ℓ × LockMode)} {value : Nat} {world next : World σ ω δ ρ}
    {thread moved : Thread σ ω ℓ δ ε ρ τ} (one : thread.InOneCommit)
    (advanced : thread.advance mayDraw held value world =
      some (next, some moved)) :
    moved.InOneCommit := by
  obtain ⟨context, program⟩ := thread
  rcases one with ⟨before, atomic⟩ | ⟨_, result, done⟩
  · cases program with
    | done | fail => simp [Thread.advance] at advanced
    | start program =>
        simp only [Thread.advance, Option.some.injEq, Prod.mk.injEq] at advanced
        obtain ⟨_, rfl⟩ := advanced
        exact .inl ⟨before, atomic⟩
    | commit program =>
        simp only [Thread.advance, Option.some.injEq, Prod.mk.injEq] at advanced
        obtain ⟨_, rfl⟩ := advanced
        exact .inr ⟨Nat.succ_ne_zero _, atomic⟩
    | fresh source program =>
        simp only [Thread.advance, Option.ite_none_right_eq_some,
          Option.some.injEq, Prod.mk.injEq] at advanced
        obtain ⟨_, _, rfl⟩ := advanced
        exact .inl ⟨before, atomic value⟩
    | perform statement program =>
        simp only [Thread.advance, Option.ite_none_right_eq_some] at advanced
        obtain ⟨_, advanced⟩ := advanced
        cases ran : statement.run context.now (world.view context) with
        | error error =>
            simp only [ran, Option.some.injEq, Prod.mk.injEq] at advanced
            obtain ⟨_, rfl⟩ := advanced
            exact .inl ⟨before, trivial⟩
        | ok outcome =>
            simp only [ran, Option.some.injEq, Prod.mk.injEq] at advanced
            obtain ⟨_, rfl⟩ := advanced
            exact .inl ⟨before, atomic outcome.1⟩
  · subst done
    simp [Thread.advance] at advanced

namespace System.Reachable

variable {system : System σ ω ℓ δ ε ρ τ} {world : World σ ω δ ρ}
  {config : Config σ ω ℓ δ ε ρ τ}

theorem inOneCommit {concerned : ρ → Prop}
    (reachable : system.Reachable (.idle world) config)
    (atomic : ∀ request, concerned request → (system.program request).Atomic) :
    ∀ thread ∈ config.threads, concerned thread.context.request →
      thread.InOneCommit := by
  refine reachable.each ?_ ?_
  · exact fun _ _ request _ _ asked => .inl ⟨rfl, atomic request asked⟩
  · intro held value before after thread moved one advanced asked
    rw [thread.advance_request advanced] at asked
    exact Thread.advance_inOneCommit (one asked) advanced

/-- A request that has failed left nothing behind, one that has returned is in
the log. -/
theorem atomic {concerned : ρ → Prop}
    (reachable : system.Reachable (.idle world) config)
    (empty : world.commits = [])
    (each : ∀ request, concerned request → (system.program request).Atomic)
    {thread : Thread σ ω ℓ δ ε ρ τ} (member : thread ∈ config.threads)
    (asked : concerned thread.context.request) :
    (∀ error, thread.program = .fail error →
      ∀ commit ∈ config.world.commits, commit.tid ≠ thread.context.tid) ∧
    ∀ value, thread.program = .done value →
      ∃ commit ∈ config.world.commits, commit.tid = thread.context.tid ∧
        commit.request = thread.context.request := by
  have numbered := reachable.numbered empty
  rcases reachable.inOneCommit each thread member asked with
    ⟨before, waiting⟩ | ⟨committed, result, done⟩
  · refine ⟨fun _ _ => numbered.unseen thread member before, ?_⟩
    intro value done
    rw [done] at waiting
    exact waiting.elim
  · refine ⟨fun error failed => ?_, fun _ _ => ?_⟩
    · rw [done] at failed
      cases failed
    · obtain ⟨commit, logged, same⟩ := numbered.logged thread member committed
      exact ⟨commit, logged, same,
        numbered.requests thread member commit logged same⟩

/-- No two commits in the log are of the same request. -/
theorem once {concerned : ρ → Prop}
    (reachable : system.Reachable (.idle world) config)
    (empty : world.commits = [])
    (each : ∀ request, concerned request → (system.program request).Atomic) :
    config.world.commits.Pairwise fun later earlier =>
      concerned later.request → earlier.tid ≠ later.tid := by
  induction reachable with
  | refl => simp [Config.idle, empty]
  | @step config next choice reached stepped ih =>
      cases choice with
      | arrive request =>
          simp only [System.step, Option.ite_none_right_eq_some,
            Option.some.injEq] at stepped
          obtain ⟨_, rfl⟩ := stepped
          exact ih
      | tick | abort =>
          simp only [System.step, Option.some.injEq] at stepped
          subst stepped
          exact ih
      | advance index value =>
          obtain ⟨before, thread, after, moved, split, advanced, _⟩ :=
            System.step_advance stepped
          have member : thread ∈ config.threads := by simp [split]
          rcases thread.advance_world advanced with silent | committed
          · rw [silent.commits]
            exact ih
          · rw [committed]
            refine List.pairwise_cons.mpr ⟨?_, ih⟩
            intro commit logged asked
            rcases reached.inOneCommit each thread member asked with
              ⟨first, _⟩ | ⟨_, result, done⟩
            · exact (reached.numbered empty).unseen thread member first commit
                logged
            · obtain ⟨context, program⟩ := thread
              obtain rfl := done
              have same : next.world = config.world :=
                (congrArg Prod.fst (Option.some.inj advanced)).symm
              have longer := congrArg (·.commits.length)
                (same.symm.trans committed)
              simp [World.commit] at longer

end System.Reachable

end Transaction
