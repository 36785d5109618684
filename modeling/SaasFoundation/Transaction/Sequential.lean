import SaasFoundation.Transaction.Atomic
import SaasFoundation.Transaction.Quiet
import SaasFoundation.Transaction.Serial

/-!
# Weakest preconditions of a request that runs alone

`Program.serially` is the sequential counterpart of `Discipline.wp`: the
request sees the committed state and its own pending writes, and nobody else
changes either.  It computes, so that a goal about a request is unfolded
statement by statement.
-/

namespace Transaction

variable {σ ω ℓ δ ε α β : Type}

/-- Where a request that runs alone stands: the values still to be drawn, the
start of its transaction, the committed state and the pending writes. -/
structure Stand (σ ω : Type) where
  draws : Nat → Nat
  now : Nat
  db : σ
  writes : ω

namespace Stand

variable [WriteSet ω σ] (stand : Stand σ ω)

def view : σ := WriteSet.apply stand.writes stand.db

def write (writes : ω) : Stand σ ω :=
  { stand with writes := stand.writes ++ writes }

omit [WriteSet ω σ] in
def started (clock : Nat) : Stand σ ω := { stand with now := clock }

omit [WriteSet ω σ] in
def drawn : Stand σ ω :=
  { stand with draws := fun index => stand.draws (index + 1) }

def commit : Stand σ ω :=
  { stand with db := stand.view, writes := ∅ }

omit [WriteSet ω σ] in
@[simp] theorem view_drawn [WriteSet ω σ] : stand.drawn.view = stand.view := rfl
omit [WriteSet ω σ] in
@[simp] theorem db_drawn : stand.drawn.db = stand.db := rfl
omit [WriteSet ω σ] in
@[simp] theorem now_drawn : stand.drawn.now = stand.now := rfl
@[simp] theorem view_started (clock : Nat) :
    (stand.started clock).view = stand.view := rfl
omit [WriteSet ω σ] in
@[simp] theorem db_started (clock : Nat) :
    (stand.started clock).db = stand.db := rfl
omit [WriteSet ω σ] in
@[simp] theorem now_started (clock : Nat) :
    (stand.started clock).now = clock := rfl
omit [WriteSet ω σ] in
@[simp] theorem draws_started (clock : Nat) :
    (stand.started clock).draws = stand.draws := rfl
@[simp] theorem db_write (writes : ω) : (stand.write writes).db = stand.db :=
  rfl
@[simp] theorem now_write (writes : ω) : (stand.write writes).now = stand.now :=
  rfl
@[simp] theorem db_commit : stand.commit.db = stand.view := rfl
@[simp] theorem now_commit : stand.commit.now = stand.now := rfl

@[simp] theorem view_write (writes : ω) :
    (stand.write writes).view = WriteSet.apply writes stand.view :=
  WriteSet.apply_append stand.writes writes stand.db

@[simp] theorem view_commit : stand.commit.view = stand.view :=
  WriteSet.apply_empty (ω := ω) stand.view

@[simp] theorem write_nothing : stand.write (∅ : ω) = stand := by
  unfold write
  rw [WriteSet.append_empty (σ := σ)]

omit [WriteSet ω σ] in
/-- The same stand, possibly after further draws. -/
structure Still (later : Stand σ ω) : Prop where
  now : later.now = stand.now
  db : later.db = stand.db
  writes : later.writes = stand.writes

omit [WriteSet ω σ] in
theorem Still.refl : stand.Still stand := ⟨rfl, rfl, rfl⟩

variable {stand} in
theorem Still.view {later : Stand σ ω} (still : stand.Still later) :
    later.view = stand.view := by
  rw [Stand.view, Stand.view, still.db, still.writes]

end Stand

namespace Program

variable [WriteSet ω σ] {clock : Nat}

/-- `post` holds of the result and of where the request stands then, or
`failed` of the error and the state it leaves. -/
def serially (clock : Nat) : Program σ ω ℓ δ ε α →
    (α → Stand σ ω → Prop) → (ε → σ → Prop) → Stand σ ω → Prop
  | .done value, post, _, stand => post value stand
  | .fail error, _, failed, stand => failed error stand.db
  | .start next, post, failed, stand =>
      serially clock next post failed (stand.started clock)
  | .commit next, post, failed, stand =>
      serially clock next post failed stand.commit
  | .fresh _ next, post, failed, stand =>
      serially clock (next (stand.draws 0)) post failed stand.drawn
  | .perform statement next, post, failed, stand =>
      match statement.run stand.now stand.view with
      | .ok (value, writes) =>
          serially clock (next value) post failed (stand.write writes)
      | .error error => failed error stand.db

section Rules

variable {program : Program σ ω ℓ δ ε α} {rest : α → Program σ ω ℓ δ ε β}
  {post : α → Stand σ ω → Prop} {after : β → Stand σ ω → Prop}
  {failed : ε → σ → Prop} {stand : Stand σ ω}

@[simp] theorem serially_pure (value : α) :
    (pure value : Program σ ω ℓ δ ε α).serially clock post failed stand =
      post value stand :=
  rfl

@[simp] theorem serially_fail (error : ε) :
    (fail error : Program σ ω ℓ δ ε α).serially clock post failed stand =
      failed error stand.db :=
  rfl

@[simp] theorem serially_bind :
    (program >>= rest).serially clock after failed stand =
      program.serially clock
        (fun value => (rest value).serially clock after failed) failed
        stand := by
  rw [bind_eq]
  induction program generalizing stand with
  | done | fail => rfl
  | start next ih | commit next ih => exact ih
  | fresh source next ih => exact ih _
  | perform statement next ih =>
      simp only [Program.bind, serially, ih]

@[simp] theorem serially_map {reply : α → β} :
    (reply <$> program).serially clock after failed stand =
      program.serially clock (fun value => after (reply value)) failed
        stand := by
  rw [map_eq_pure_bind, serially_bind]
  rfl

theorem serially_run {statement : Statement σ ω ℓ ε α} :
    (run statement : Program σ ω ℓ δ ε α).serially clock post failed stand =
      match statement.run stand.now stand.view with
      | .ok (value, writes) => post value (stand.write writes)
      | .error error => failed error stand.db := by
  simp only [run, serially]

@[simp] theorem serially_draw {source : δ} {post : Nat → Stand σ ω → Prop} :
    (draw source : Program σ ω ℓ δ ε Nat).serially clock post failed stand =
      post (stand.draws 0) stand.drawn :=
  rfl

@[simp] theorem serially_transaction :
    (transaction program).serially clock post failed stand =
      program.serially clock (fun value later => post value later.commit)
        failed (stand.started clock) := by
  have unfolded : (transaction program).serially clock post failed stand =
      (program >>= fun value => Program.commit (pure value)).serially clock
        post failed (stand.started clock) := rfl
  rw [unfolded, serially_bind]
  rfl

@[simp] theorem serially_mapError {rethrow : ε → ε} :
    (program.mapError rethrow).serially clock post failed stand =
      program.serially clock post (fun error => failed (rethrow error))
        stand := by
  induction program generalizing stand with
  | done | fail => rfl
  | start next ih | commit next ih => exact ih
  | fresh source next ih => exact ih _
  | perform statement next ih =>
      simp only [mapError, serially]
      cases statement.run stand.now stand.view with
      | error error => rfl
      | ok result => exact ih result.1

theorem serially_mono {post' : α → Stand σ ω → Prop} {failed' : ε → σ → Prop}
    (holds : program.serially clock post failed stand)
    (returns : ∀ value later, post value later → post' value later)
    (fails : ∀ error db, failed error db → failed' error db) :
    program.serially clock post' failed' stand := by
  induction program generalizing stand with
  | done value => exact returns value stand holds
  | fail error => exact fails error stand.db holds
  | start next ih | commit next ih => exact ih holds
  | fresh source next ih => exact ih _ holds
  | perform statement next ih =>
      simp only [serially] at holds ⊢
      cases ran : statement.run stand.now stand.view with
      | error error =>
          rw [ran] at holds
          exact fails error stand.db holds
      | ok result =>
          rw [ran] at holds
          exact ih result.1 holds

/-- What is shown of the run is true of its answer and of the state left. -/
theorem serially_alone (program : Program σ ω ℓ δ ε α)
    (stand : Stand σ ω) (holds : Except ε α → σ → Prop) :
    program.serially clock (fun value later => holds (.ok value) later.db)
        (fun error db => holds (.error error) db) stand ↔
      holds (program.alone clock stand.draws stand.now stand.db stand.writes).1
        (program.alone clock stand.draws stand.now stand.db stand.writes).2 := by
  induction program generalizing stand with
  | done | fail => rfl
  | start next ih | commit next ih => exact ih _
  | fresh source next ih => exact ih _ _
  | perform statement next ih =>
      simp only [serially, alone, Stand.view]
      cases statement.run stand.now (WriteSet.apply stand.writes stand.db) with
      | error error => rfl
      | ok result => exact ih result.1 _

end Rules

/-- Every error the program may end with is allowed. -/
def FailsWith (allowed : ε → Prop) : Program σ ω ℓ δ ε α → Prop
  | .done _ => True
  | .fail error => allowed error
  | .start next => next.FailsWith allowed
  | .commit next => next.FailsWith allowed
  | .fresh _ next => ∀ value, (next value).FailsWith allowed
  | .perform statement next =>
      (∀ now view error, statement.run now view = .error error →
        allowed error) ∧ ∀ value, (next value).FailsWith allowed

section FailsWith

variable {program : Program σ ω ℓ δ ε α} {rest : α → Program σ ω ℓ δ ε β}
  {allowed : ε → Prop}

omit [WriteSet ω σ] in
theorem FailsWith.bind (first : program.FailsWith allowed)
    (next : ∀ value, (rest value).FailsWith allowed) :
    (program >>= rest).FailsWith allowed := by
  rw [bind_eq]
  induction program with
  | done value => exact next value
  | fail error => exact first
  | start program ih | commit program ih => exact ih first
  | fresh source program ih => exact fun value => ih value (first value)
  | perform statement program ih =>
      exact ⟨first.1, fun value => ih value (first.2 value)⟩

omit [WriteSet ω σ] in
theorem failsWith_any (program : Program σ ω ℓ δ ε α) :
    program.FailsWith fun _ => True := by
  induction program with
  | done | fail => trivial
  | start program ih | commit program ih => exact ih
  | fresh source program ih => exact ih
  | perform statement program ih => exact ⟨fun _ _ _ _ => trivial, ih⟩

omit [WriteSet ω σ] in
theorem FailsWith.run {statement : Statement σ ω ℓ ε α}
    (step : ∀ now view error, statement.run now view = .error error →
      allowed error) :
    (run statement : Program σ ω ℓ δ ε α).FailsWith allowed :=
  ⟨step, fun _ => trivial⟩

omit [WriteSet ω σ] in
theorem FailsWith.transaction (body : program.FailsWith allowed) :
    program.transaction.FailsWith allowed :=
  body.bind fun _ => trivial

omit [WriteSet ω σ] in
theorem FailsWith.mapError {rethrow : ε → ε} {answered : ε → Prop}
    (fails : program.FailsWith allowed)
    (translates : ∀ error, allowed error → answered (rethrow error)) :
    (program.mapError rethrow).FailsWith answered := by
  induction program with
  | done value => trivial
  | fail error => exact translates error fails
  | start program ih | commit program ih => exact ih fails
  | fresh source program ih => exact fun value => ih value (fails value)
  | perform statement program ih =>
      refine ⟨fun now view error failed => ?_, fun value =>
        ih value (fails.2 value)⟩
      dsimp only at failed
      cases ran : statement.run now view with
      | ok outcome =>
          rw [ran] at failed
          cases failed
      | error inner =>
          rw [ran] at failed
          obtain rfl := Except.error.inj failed
          exact translates inner (fails.1 now view inner ran)

/-- What a program that neither writes nor commits comes to. -/
theorem serially_quiet {result : α → Prop} {post : α → Stand σ ω → Prop}
    {failed : ε → σ → Prop} {stand : Stand σ ω}
    (quiet : program.Quiet result) (fails : program.FailsWith allowed)
    (rejected : ∀ error, allowed error → failed error stand.db)
    (returned : ∀ value later, result value → stand.Still later →
      post value later) :
    program.serially clock post failed stand := by
  suffices ∀ here : Stand σ ω, stand.Still here →
      program.serially clock post failed here from this stand (.refl stand)
  induction program with
  | done value => exact fun here still => returned value here quiet still
  | fail error =>
      intro here still
      rw [serially, still.db]
      exact rejected error fails
  | start | commit => exact quiet.elim
  | fresh source program ih =>
      exact fun here still =>
        ih _ (quiet _) (fails _) here.drawn ⟨still.now, still.db, still.writes⟩
  | perform statement program ih =>
      intro here still
      have stepped := quiet here.now here.view
      simp only [serially]
      cases ran : statement.run here.now here.view with
      | error error =>
          dsimp only
          rw [still.db]
          exact rejected error (fails.1 _ _ _ ran)
      | ok outcome =>
          rw [ran] at stepped
          obtain ⟨nothing, _, rest⟩ := stepped
          have same : here.write outcome.2 = here := by
            rw [nothing, Stand.write_nothing]
          dsimp only
          rw [same]
          exact ih outcome.1 rest (fails.2 _) here still

end FailsWith

end Program

/-- The errors of the requests in flight are among those their programs may
end with. -/
theorem System.Reachable.failed [WriteSet ω σ] [DecidableEq ℓ] [DecidableEq δ]
    {ρ τ : Type} {system : System σ ω ℓ δ ε ρ τ} {world : World σ ω δ ρ}
    {config : Config σ ω ℓ δ ε ρ τ} {allowed : ρ → ε → Prop}
    (reachable : system.Reachable (.idle world) config)
    (fails : ∀ state request, system.mayStart state request = true →
      (system.program request).FailsWith (allowed request)) :
    ∀ thread ∈ config.threads, ∀ error, thread.program = .fail error →
      allowed thread.context.request error := by
  have each : ∀ thread ∈ config.threads,
      thread.program.FailsWith (allowed thread.context.request) := by
    refine reachable.each ?_ ?_
    · exact fun state _ request _ starts => fails state request starts
    · intro held value before next thread moved within advanced
      rw [thread.advance_request advanced]
      obtain ⟨context, program⟩ := thread
      cases program with
      | done | fail => simp [Thread.advance] at advanced
      | start program | commit program =>
          simp only [Thread.advance, Option.some.injEq, Prod.mk.injEq]
            at advanced
          obtain ⟨_, rfl⟩ := advanced
          exact within
      | fresh source program =>
          simp only [Thread.advance, Option.ite_none_right_eq_some,
            Option.some.injEq, Prod.mk.injEq] at advanced
          obtain ⟨_, _, rfl⟩ := advanced
          exact within value
      | perform statement program =>
          simp only [Thread.advance, Option.ite_none_right_eq_some] at advanced
          obtain ⟨_, advanced⟩ := advanced
          cases ran : statement.run context.now (before.view context) with
          | error error =>
              simp only [ran, Option.some.injEq, Prod.mk.injEq] at advanced
              obtain ⟨_, rfl⟩ := advanced
              exact within.1 _ _ error ran
          | ok outcome =>
              simp only [ran, Option.some.injEq, Prod.mk.injEq] at advanced
              obtain ⟨_, rfl⟩ := advanced
              exact within.2 outcome.1
  intro thread member error failed
  have here := each thread member
  rw [failed] at here
  exact here

end Transaction
