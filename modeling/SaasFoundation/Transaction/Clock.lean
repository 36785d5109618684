import SaasFoundation.Transaction.History

/-!
# The clock of a run

A transaction starts at the time of the clock, and the clock only advances.
So nothing in flight and nothing in the log has started in the future.
-/

namespace Transaction

variable {σ ω ℓ δ ε ρ τ : Type} [WriteSet ω σ] [DecidableEq ℓ] [DecidableEq δ]

/-- The next step of a thread takes no time. -/
theorem Thread.advance_clock {mayDraw : δ → Nat → Bool}
    {held : List (ℓ × LockMode)} {value : Nat} {world next : World σ ω δ ρ}
    {thread : Thread σ ω ℓ δ ε ρ τ} {stepped : Option (Thread σ ω ℓ δ ε ρ τ)}
    (started : thread.context.now ≤ world.clock)
    (advanced : thread.advance mayDraw held value world =
      some (next, stepped)) :
    next.clock = world.clock ∧
      ∀ moved ∈ stepped, moved.context.now ≤ world.clock := by
  obtain ⟨context, program⟩ := thread
  cases program with
  | done | fail =>
      simp only [Thread.advance, Option.some.injEq, Prod.mk.injEq] at advanced
      obtain ⟨rfl, rfl⟩ := advanced
      exact ⟨rfl, fun moved same => absurd same (Option.not_mem_none moved)⟩
  | start =>
      simp only [Thread.advance, Option.some.injEq, Prod.mk.injEq] at advanced
      obtain ⟨rfl, rfl⟩ := advanced
      refine ⟨rfl, fun moved same => ?_⟩
      cases same
      exact Nat.le_refl _
  | commit =>
      simp only [Thread.advance, Option.some.injEq, Prod.mk.injEq] at advanced
      obtain ⟨rfl, rfl⟩ := advanced
      refine ⟨rfl, fun moved same => ?_⟩
      cases same
      exact started
  | fresh =>
      simp only [Thread.advance, Option.ite_none_right_eq_some,
        Option.some.injEq, Prod.mk.injEq] at advanced
      obtain ⟨_, rfl, rfl⟩ := advanced
      refine ⟨rfl, fun moved same => ?_⟩
      cases same
      exact started
  | perform statement =>
      simp only [Thread.advance, Option.ite_none_right_eq_some] at advanced
      obtain ⟨_, advanced⟩ := advanced
      cases ran : statement.run context.now (world.view context) with
      | error | ok =>
          simp only [ran, Option.some.injEq, Prod.mk.injEq] at advanced
          obtain ⟨rfl, rfl⟩ := advanced
          refine ⟨rfl, fun moved same => ?_⟩
          cases same
          exact started

/-- Nothing has started in the future. -/
structure Config.Timely (config : Config σ ω ℓ δ ε ρ τ) : Prop where
  threads : ∀ thread ∈ config.threads,
    thread.context.now ≤ config.world.clock
  commits : ∀ commit ∈ config.world.commits,
    commit.started ≤ config.world.clock

variable {system : System σ ω ℓ δ ε ρ τ} {config next : Config σ ω ℓ δ ε ρ τ}

theorem Config.Timely.step {choice : Choice ρ} (timely : config.Timely)
    (stepped : system.step choice config = some next) :
    config.world.clock ≤ next.world.clock ∧ next.Timely := by
  cases choice with
  | arrive request =>
      simp only [System.step, Option.ite_none_right_eq_some,
        Option.some.injEq] at stepped
      obtain ⟨_, rfl⟩ := stepped
      refine ⟨Nat.le_refl _, ?_, timely.commits⟩
      exact List.forall_mem_cons.mpr ⟨Nat.le_refl _, timely.threads⟩
  | tick =>
      simp only [System.step, Option.some.injEq] at stepped
      subst stepped
      refine ⟨Nat.le_succ _, fun thread member => ?_, fun commit member => ?_⟩
      · exact Nat.le_trans (timely.threads thread member) (Nat.le_succ _)
      · exact Nat.le_trans (timely.commits commit member) (Nat.le_succ _)
  | abort index =>
      simp only [System.step, Option.some.injEq] at stepped
      subst stepped
      refine ⟨Nat.le_refl _, fun thread member => ?_, timely.commits⟩
      exact timely.threads thread (List.mem_of_mem_eraseIdx member)
  | advance index value =>
      obtain ⟨before, thread, after, moved, split, advanced, kept⟩ :=
        System.step_advance stepped
      have started := timely.threads thread (by simp [split])
      obtain ⟨clock, later⟩ := Thread.advance_clock started advanced
      rw [clock]
      refine ⟨Nat.le_refl _, fun other member => ?_, fun commit logged => ?_⟩
      · rw [clock]
        rw [kept, List.mem_append, List.mem_append] at member
        rcases member with (left | this) | right
        · exact timely.threads other (by simp [split, left])
        · exact later other (Option.mem_toList.mp this)
        · exact timely.threads other (by simp [split, right])
      · rw [clock]
        rcases thread.advance_world advanced with silent | committed
        · exact timely.commits commit (silent.commits ▸ logged)
        · rw [committed] at logged
          rcases List.mem_cons.mp logged with rfl | older
          · exact started
          · exact timely.commits commit older

namespace System.Reachable

variable {world : World σ ω δ ρ}

theorem timely (reachable : system.Reachable (.idle world) config)
    (empty : world.commits = []) :
    world.clock ≤ config.world.clock ∧ config.Timely := by
  induction reachable with
  | refl =>
      refine ⟨Nat.le_refl _, ?_, ?_⟩
      · exact fun _ member => absurd member List.not_mem_nil
      · intro commit logged
        have none : commit ∈ world.commits := logged
        rw [empty] at none
        exact absurd none List.not_mem_nil
  | step choice _ stepped ih =>
      obtain ⟨later, kept⟩ := ih.2.step stepped
      exact ⟨Nat.le_trans ih.1 later, kept⟩

end System.Reachable

end Transaction
