import SaasFoundation.Transaction.Program

/-!
# Statement-level interleaving

Any number of requests run against one store.  The scheduler picks a request
and lets it take its next step; a statement runs only when the locks it asks
for are free.  Every statement reads the latest committed rows below the
pending rows of its own transaction.  A request can be aborted between any two
steps (deadlock victim, timeout, lost connection): its open transaction
disappears, what it committed earlier stays.

`World` also keeps the commits in order, newest first, so that a property can
speak about the history of a run.
-/

namespace Transaction

/-- What a request in flight holds. -/
structure Context (ω ℓ δ ρ : Type) where
  tid : Nat
  request : ρ
  writes : ω
  locks : List (ℓ × LockMode)
  owned : List (δ × Nat)
  now : Nat
  commits : Nat

/-- One published transaction: who committed it, the committed state it was
applied to, its writes, and the start time and moment of the commit. -/
structure Commit (σ ω ρ : Type) where
  tid : Nat
  request : ρ
  before : σ
  writes : ω
  started : Nat
  clock : Nat

def Commit.after {σ ω ρ : Type} [WriteSet ω σ] (commit : Commit σ ω ρ) : σ :=
  WriteSet.apply commit.writes commit.before

structure World (σ ω δ ρ : Type) where
  db : σ
  clock : Nat
  commits : List (Commit σ ω ρ)
  drawn : List (δ × Nat)
  nextTid : Nat

variable {σ ω ℓ δ ε ρ τ : Type}

namespace Context

/-- Whether two requests in flight hold no lock against each other. -/
def Compatible (left right : Context ω ℓ δ ρ) : Prop :=
  ∀ held ∈ left.locks, ∀ other ∈ right.locks, held.1 = other.1 →
    held.2.conflicts other.2 = false

def start (tid : Nat) (request : ρ) (now : Nat) [EmptyCollection ω] :
    Context ω ℓ δ ρ :=
  { tid, request, now, writes := ∅, locks := [], owned := [], commits := 0 }

/-- After a statement: further pending writes, further locks. -/
def extend [Append ω] (context : Context ω ℓ δ ρ)
    (locks : List (ℓ × LockMode)) (writes : ω) : Context ω ℓ δ ρ :=
  { context with
    writes := context.writes ++ writes
    locks := locks ++ context.locks }

/-- After a commit: nothing pending, nothing locked. -/
def release [EmptyCollection ω] (context : Context ω ℓ δ ρ) :
    Context ω ℓ δ ρ :=
  { context with
    writes := ∅, locks := [], owned := [], commits := context.commits + 1 }

def own (context : Context ω ℓ δ ρ) (source : δ) (value : Nat) :
    Context ω ℓ δ ρ :=
  { context with owned := (source, value) :: context.owned }

theorem Compatible.symm {left right : Context ω ℓ δ ρ}
    (compatible : left.Compatible right) : right.Compatible left := by
  intro held heldMember other otherMember same
  rw [LockMode.conflicts_comm]
  exact compatible other otherMember held heldMember same.symm

end Context

namespace World

variable [WriteSet ω σ]

/-- The rows a transaction sees: its own pending ones over the committed. -/
def view (world : World σ ω δ ρ) (context : Context ω ℓ δ ρ) : σ :=
  WriteSet.apply context.writes world.db

omit [WriteSet ω σ] in
/-- What the log keeps of a commit. -/
def record (world : World σ ω δ ρ) (context : Context ω ℓ δ ρ) :
    Commit σ ω ρ :=
  { tid := context.tid
    request := context.request
    before := world.db
    writes := context.writes
    started := context.now
    clock := world.clock }

def commit (world : World σ ω δ ρ) (context : Context ω ℓ δ ρ) :
    World σ ω δ ρ :=
  { world with
    db := WriteSet.apply context.writes world.db
    commits := world.record context :: world.commits }

omit [WriteSet ω σ] in
/-- A step that publishes nothing: time passes, requests arrive, values are
drawn. -/
structure Silent (world next : World σ ω δ ρ) : Prop where
  db : next.db = world.db
  commits : next.commits = world.commits
  clock : world.clock ≤ next.clock
  drawn : ∀ value ∈ world.drawn, value ∈ next.drawn

omit [WriteSet ω σ] in
theorem Silent.refl (world : World σ ω δ ρ) : world.Silent world :=
  ⟨rfl, rfl, Nat.le_refl _, fun _ member => member⟩

end World

/-- A request in flight together with what remains of its program. -/
structure Thread (σ ω ℓ δ ε ρ τ : Type) : Type 1 where
  context : Context ω ℓ δ ρ
  program : Program σ ω ℓ δ ε τ

/-- The requests a store serves.  `mayStart` says which requests callers can
send in a given committed state, `mayDraw` which values a source can return;
both stand for what the environment is known to do. -/
structure System (σ ω ℓ δ ε ρ τ : Type) : Type 1 where
  program : ρ → Program σ ω ℓ δ ε τ
  mayStart : σ → ρ → Bool
  mayDraw : δ → Nat → Bool

structure Config (σ ω ℓ δ ε ρ τ : Type) : Type 1 where
  world : World σ ω δ ρ
  threads : List (Thread σ ω ℓ δ ε ρ τ)

/-- The scheduler's choices.  `value` is what a `fresh` draw returns. -/
inductive Choice (ρ : Type) where
  | arrive (request : ρ)
  | tick
  | advance (index value : Nat)
  | abort (index : Nat)

def Config.idle (world : World σ ω δ ρ) : Config σ ω ℓ δ ε ρ τ :=
  { world, threads := [] }

variable [WriteSet ω σ] [DecidableEq ℓ] [DecidableEq δ]

/-- Whether all the locks asked for are free or shared. -/
def available (held wanted : List (ℓ × LockMode)) : Bool :=
  wanted.all fun want => held.all fun other =>
    !(decide (other.1 = want.1) && other.2.conflicts want.2)

/-- The next step of one thread against the locks held by all others: the new
world, and the thread if it is still in flight. -/
def Thread.advance (mayDraw : δ → Nat → Bool) (held : List (ℓ × LockMode))
    (value : Nat) (world : World σ ω δ ρ) (thread : Thread σ ω ℓ δ ε ρ τ) :
    Option (World σ ω δ ρ × Option (Thread σ ω ℓ δ ε ρ τ)) :=
  match thread.program with
  | .done _ => some (world, none)
  | .fail _ => some (world, none)
  | .start next =>
      some (world,
        some { context := { thread.context with now := world.clock }
               program := next })
  | .commit next =>
      some (world.commit thread.context,
        some { context := thread.context.release, program := next })
  | .fresh source next =>
      if mayDraw source value ∧ (source, value) ∉ world.drawn then
        some ({ world with drawn := (source, value) :: world.drawn },
          some { context := thread.context.own source value
                 program := next value })
      else none
  | .perform statement next =>
      let view := world.view thread.context
      let locks := statement.locks thread.context.now view
      if available held locks then
        match statement.run thread.context.now view with
        | .ok (result, writes) =>
            some (world,
              some { context := thread.context.extend locks writes
                     program := next result })
        | .error error =>
            some (world, some { thread with program := .fail error })
      else none

omit [WriteSet ω σ] [DecidableEq ℓ] [DecidableEq δ] in
theorem World.Silent.draw {world : World σ ω δ ρ} (value : δ × Nat) :
    world.Silent { world with drawn := value :: world.drawn } :=
  ⟨rfl, rfl, Nat.le_refl _, fun _ member => .tail _ member⟩

/-- A step publishes nothing, or it commits. -/
theorem Thread.advance_world {mayDraw : δ → Nat → Bool}
    {held : List (ℓ × LockMode)} {value : Nat} {world next : World σ ω δ ρ}
    {thread : Thread σ ω ℓ δ ε ρ τ}
    {stepped : Option (Thread σ ω ℓ δ ε ρ τ)}
    (advanced : thread.advance mayDraw held value world =
      some (next, stepped)) :
    world.Silent next ∨ next = world.commit thread.context := by
  obtain ⟨context, program⟩ := thread
  cases program with
  | done | fail | start =>
      simp only [Thread.advance, Option.some.injEq, Prod.mk.injEq] at advanced
      obtain ⟨rfl, _⟩ := advanced
      exact .inl (.refl _)
  | commit =>
      simp only [Thread.advance, Option.some.injEq, Prod.mk.injEq] at advanced
      obtain ⟨rfl, _⟩ := advanced
      exact .inr rfl
  | fresh =>
      simp only [Thread.advance, Option.ite_none_right_eq_some,
        Option.some.injEq, Prod.mk.injEq] at advanced
      obtain ⟨_, rfl, _⟩ := advanced
      exact .inl (.draw _)
  | perform statement =>
      simp only [Thread.advance, Option.ite_none_right_eq_some] at advanced
      obtain ⟨_, advanced⟩ := advanced
      cases ran : statement.run context.now (world.view context) with
      | error | ok =>
          simp only [ran, Option.some.injEq, Prod.mk.injEq] at advanced
          obtain ⟨rfl, _⟩ := advanced
          exact .inl (.refl _)

/-- A step keeps the request its thread serves. -/
theorem Thread.advance_request {mayDraw : δ → Nat → Bool}
    {held : List (ℓ × LockMode)} {value : Nat} {world next : World σ ω δ ρ}
    {thread moved : Thread σ ω ℓ δ ε ρ τ}
    (advanced : thread.advance mayDraw held value world =
      some (next, some moved)) :
    moved.context.request = thread.context.request := by
  obtain ⟨context, program⟩ := thread
  cases program with
  | done | fail => simp [Thread.advance] at advanced
  | start | commit =>
      simp only [Thread.advance, Option.some.injEq, Prod.mk.injEq] at advanced
      obtain ⟨_, rfl⟩ := advanced
      rfl
  | fresh =>
      simp only [Thread.advance, Option.ite_none_right_eq_some,
        Option.some.injEq, Prod.mk.injEq] at advanced
      obtain ⟨_, _, rfl⟩ := advanced
      rfl
  | perform statement =>
      simp only [Thread.advance, Option.ite_none_right_eq_some] at advanced
      obtain ⟨_, advanced⟩ := advanced
      cases ran : statement.run context.now (world.view context) with
      | error | ok =>
          simp only [ran, Option.some.injEq, Prod.mk.injEq] at advanced
          obtain ⟨_, rfl⟩ := advanced
          rfl

theorem Thread.advance_drawsFrom {sources : δ → Prop}
    {mayDraw : δ → Nat → Bool} {held : List (ℓ × LockMode)} {value : Nat}
    {world next : World σ ω δ ρ} {thread moved : Thread σ ω ℓ δ ε ρ τ}
    (draws : thread.program.DrawsFrom sources)
    (advanced : thread.advance mayDraw held value world =
      some (next, some moved)) :
    moved.program.DrawsFrom sources := by
  obtain ⟨context, program⟩ := thread
  cases program with
  | done | fail => simp [Thread.advance] at advanced
  | start | commit =>
      simp only [Thread.advance, Option.some.injEq, Prod.mk.injEq] at advanced
      obtain ⟨_, rfl⟩ := advanced
      exact draws
  | fresh =>
      simp only [Thread.advance, Option.ite_none_right_eq_some,
        Option.some.injEq, Prod.mk.injEq] at advanced
      obtain ⟨_, _, rfl⟩ := advanced
      exact draws.2 value
  | perform statement =>
      simp only [Thread.advance, Option.ite_none_right_eq_some] at advanced
      obtain ⟨_, advanced⟩ := advanced
      cases ran : statement.run context.now (world.view context) with
      | error error =>
          simp only [ran, Option.some.injEq, Prod.mk.injEq] at advanced
          obtain ⟨_, rfl⟩ := advanced
          trivial
      | ok result =>
          simp only [ran, Option.some.injEq, Prod.mk.injEq] at advanced
          obtain ⟨_, rfl⟩ := advanced
          exact draws result.1

/-- The locks held by every thread but the one at `index`. -/
def Config.heldByOthers (config : Config σ ω ℓ δ ε ρ τ) (index : Nat) :
    List (ℓ × LockMode) :=
  (config.threads.eraseIdx index).flatMap fun thread => thread.context.locks

namespace System

/-- One step of the whole system, when the scheduler's choice is possible. -/
def step (system : System σ ω ℓ δ ε ρ τ) (choice : Choice ρ)
    (config : Config σ ω ℓ δ ε ρ τ) : Option (Config σ ω ℓ δ ε ρ τ) :=
  match choice with
  | .arrive request =>
      if system.mayStart config.world.db request then
        some
          { world := { config.world with nextTid := config.world.nextTid + 1 }
            threads :=
              { context :=
                  .start config.world.nextTid request config.world.clock
                program := system.program request } :: config.threads }
      else none
  | .tick =>
      some { config with
        world := { config.world with clock := config.world.clock + 1 } }
  | .advance index value =>
      match config.threads[index]? with
      | none => none
      | some thread =>
          (thread.advance system.mayDraw (config.heldByOthers index) value
              config.world).map fun (world, next) =>
            { world
              threads :=
                match next with
                | some next => config.threads.set index next
                | none => config.threads.eraseIdx index }
  | .abort index =>
      some { config with threads := config.threads.eraseIdx index }

omit [WriteSet ω σ] [DecidableEq ℓ] [DecidableEq δ] in
private theorem split_at {threads : List (Thread σ ω ℓ δ ε ρ τ)} {index : Nat}
    {thread : Thread σ ω ℓ δ ε ρ τ} (found : threads[index]? = some thread) :
    ∃ before after, threads = before ++ thread :: after ∧
      threads.eraseIdx index = before ++ after ∧
      ∀ next, threads.set index next = before ++ next :: after := by
  obtain ⟨inside, rfl⟩ := List.getElem?_eq_some_iff.mp found
  refine ⟨threads.take index, threads.drop (index + 1), ?_, ?_, ?_⟩
  · rw [List.getElem_cons_drop, List.take_append_drop]
  · exact List.eraseIdx_eq_take_drop_succ threads index
  · intro next
    exact List.set_eq_take_append_cons_drop.trans (if_pos inside)

/-- What an `advance` does: one thread of the list steps against the locks of
all others. -/
theorem step_advance {system : System σ ω ℓ δ ε ρ τ} {index value : Nat}
    {config next : Config σ ω ℓ δ ε ρ τ}
    (stepped : system.step (.advance index value) config = some next) :
    ∃ before thread after moved,
      config.threads = before ++ thread :: after ∧
      thread.advance system.mayDraw
        ((before ++ after).flatMap fun other => other.context.locks) value
          config.world = some (next.world, moved) ∧
      next.threads = before ++ moved.toList ++ after := by
  simp only [System.step] at stepped
  cases found : config.threads[index]? with
  | none => simp [found] at stepped
  | some thread =>
      obtain ⟨before, after, split, erased, replaced⟩ := split_at found
      simp only [found, Option.map_eq_some_iff] at stepped
      obtain ⟨⟨world, moved⟩, advanced, rfl⟩ := stepped
      rw [Config.heldByOthers, erased] at advanced
      refine ⟨before, thread, after, moved, split, advanced, ?_⟩
      cases moved with
      | none => simp [erased]
      | some moved => simp [replaced]

inductive Reachable (system : System σ ω ℓ δ ε ρ τ)
    (initial : Config σ ω ℓ δ ε ρ τ) : Config σ ω ℓ δ ε ρ τ → Prop where
  | refl : Reachable system initial initial
  | step {config next : Config σ ω ℓ δ ε ρ τ} (choice : Choice ρ) :
      Reachable system initial config →
      system.step choice config = some next →
      Reachable system initial next

/-- Follow a schedule as far as every choice is possible. -/
def follow (system : System σ ω ℓ δ ε ρ τ) :
    List (Choice ρ) → Config σ ω ℓ δ ε ρ τ → Option (Config σ ω ℓ δ ε ρ τ)
  | [], config => some config
  | choice :: choices, config =>
      (system.step choice config).bind (system.follow choices)

theorem Reachable.follow {system : System σ ω ℓ δ ε ρ τ}
    {initial config final : Config σ ω ℓ δ ε ρ τ} {choices : List (Choice ρ)}
    (reachable : system.Reachable initial config)
    (followed : system.follow choices config = some final) :
    system.Reachable initial final := by
  induction choices generalizing config with
  | nil =>
      cases followed
      exact reachable
  | cons choice choices ih =>
      obtain ⟨next, stepped, rest⟩ := Option.bind_eq_some_iff.mp followed
      exact ih (.step choice reachable stepped) rest

theorem Reachable.trans {system : System σ ω ℓ δ ε ρ τ}
    {first second third : Config σ ω ℓ δ ε ρ τ}
    (left : system.Reachable first second)
    (right : system.Reachable second third) : system.Reachable first third := by
  induction right with
  | refl => exact left
  | step choice _ stepped ih => exact .step choice ih stepped

/-- The last configuration of a schedule, or the first if it is impossible. -/
def after (system : System σ ω ℓ δ ε ρ τ) (choices : List (Choice ρ))
    (config : Config σ ω ℓ δ ε ρ τ) : Config σ ω ℓ δ ε ρ τ :=
  (system.follow choices config).getD config

theorem reachable_after (system : System σ ω ℓ δ ε ρ τ)
    (choices : List (Choice ρ)) (config : Config σ ω ℓ δ ε ρ τ) :
    system.Reachable config (system.after choices config) := by
  unfold after
  cases followed : system.follow choices config with
  | none => exact .refl
  | some final => exact .follow .refl followed

/-- The thread of a configuration that holds no other takes its next step. -/
theorem step_alone {system : System σ ω ℓ δ ε ρ τ} (value : Nat)
    {world next : World σ ω δ ρ} {thread moved : Thread σ ω ℓ δ ε ρ τ}
    (advanced : thread.advance system.mayDraw [] value world =
      some (next, some moved)) :
    system.Reachable ⟨world, [thread]⟩ ⟨next, [moved]⟩ := by
  refine .step (.advance 0 value) .refl ?_
  simp [System.step, Config.heldByOthers, advanced]

/-- A request whose steps nobody delays comes to an end. -/
theorem completes (system : System σ ω ℓ δ ε ρ τ) {sources : δ → Prop}
    (supply : ∀ source, sources source → ∀ used : List (δ × Nat),
      ∃ value, system.mayDraw source value = true ∧ (source, value) ∉ used)
    (world : World σ ω δ ρ) (thread : Thread σ ω ℓ δ ε ρ τ)
    (draws : thread.program.DrawsFrom sources) :
    ∃ final ended, system.Reachable ⟨world, [thread]⟩ final ∧
      final.threads = [ended] ∧ ended.context.tid = thread.context.tid ∧
      ended.context.request = thread.context.request ∧
      ((∃ value, ended.program = .done value) ∨
        ∃ error, ended.program = .fail error) := by
  obtain ⟨context, program⟩ := thread
  induction program generalizing world context with
  | done value => exact ⟨_, _, .refl, rfl, rfl, rfl, .inl ⟨value, rfl⟩⟩
  | fail error => exact ⟨_, _, .refl, rfl, rfl, rfl, .inr ⟨error, rfl⟩⟩
  | start program ih =>
      obtain ⟨final, ended, reached, rest⟩ :=
        ih world { context with now := world.clock } draws
      have stepped : system.Reachable ⟨world, [⟨context, .start program⟩]⟩ _ :=
        step_alone 0 rfl
      exact ⟨final, ended, stepped.trans reached, rest⟩
  | commit program ih =>
      obtain ⟨final, ended, reached, rest⟩ :=
        ih (world.commit context) context.release draws
      have stepped : system.Reachable ⟨world, [⟨context, .commit program⟩]⟩ _ :=
        step_alone 0 rfl
      exact ⟨final, ended, stepped.trans reached, rest⟩
  | fresh source program ih =>
      obtain ⟨value, allowed, unused⟩ := supply source draws.1 world.drawn
      obtain ⟨final, ended, reached, rest⟩ := ih value
        { world with drawn := (source, value) :: world.drawn }
        (context.own source value) (draws.2 value)
      have stepped : system.Reachable
          ⟨world, [⟨context, .fresh source program⟩]⟩
          ⟨_, [⟨context.own source value, program value⟩]⟩ :=
        step_alone value (if_pos ⟨allowed, unused⟩)
      exact ⟨final, ended, stepped.trans reached, rest⟩
  | perform statement program ih =>
      cases ran : statement.run context.now (world.view context) with
      | error error =>
          have stepped : system.Reachable
              ⟨world, [⟨context, .perform statement program⟩]⟩
              ⟨world, [⟨context, .fail error⟩]⟩ := by
            refine step_alone 0 ?_
            simp [Thread.advance, available, ran]
          exact ⟨_, _, stepped, rfl, rfl, rfl, .inr ⟨error, rfl⟩⟩
      | ok result =>
          obtain ⟨final, ended, reached, rest⟩ := ih result.1 world
            (context.extend (statement.locks context.now (world.view context))
              result.2) (draws result.1)
          refine ⟨final, ended, .trans (step_alone 0 ?_) reached, rest⟩
          simp [Thread.advance, available, ran]

end System

end Transaction
