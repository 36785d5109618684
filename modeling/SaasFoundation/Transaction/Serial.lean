import SaasFoundation.Transaction.System

/-!
# Requests on their own

`Program.alone` runs a request nobody interferes with: its answer and the
committed state it leaves.  `System.reachable_alone` says that this is a run
of the system.  A program whose statements see only part of the state, and
write only there, answers alike in states that agree on that part; `Local`
is that condition, statement by statement.
-/

namespace Transaction

variable {σ ω ℓ δ ε ρ τ α β : Type} [WriteSet ω σ]

/-- The answer of a request that runs alone, and the state it leaves.
`draws` are the values it draws, in order; writes that are not committed are
lost. -/
def Program.alone (clock : Nat) : Program σ ω ℓ δ ε α → (Nat → Nat) →
    Nat → σ → ω → Except ε α × σ
  | .done value, _, _, db, _ => (.ok value, db)
  | .fail error, _, _, db, _ => (.error error, db)
  | .start next, draws, _, db, writes =>
      alone clock next draws clock db writes
  | .commit next, draws, now, db, writes =>
      alone clock next draws now (WriteSet.apply writes db) ∅
  | .fresh _ next, draws, now, db, writes =>
      alone clock (next (draws 0)) (fun index => draws (index + 1)) now db
        writes
  | .perform statement next, draws, now, db, writes =>
      match statement.run now (WriteSet.apply writes db) with
      | .ok (value, more) =>
          alone clock (next value) draws now db (writes ++ more)
      | .error error => (.error error, db)

section Statements

variable {clock now : Nat} {draws : Nat → Nat} {db : σ} {writes : ω}

theorem Program.alone_transaction (body : Program σ ω ℓ δ ε α) :
    (transaction body).alone clock draws now db writes =
      (body >>= fun value => commit (pure value)).alone clock draws clock db
        writes := rfl

theorem Program.alone_run {statement : Statement σ ω ℓ ε β}
    {next : β → Program σ ω ℓ δ ε α} :
    (run statement >>= next).alone clock draws now db writes =
      match statement.run now (WriteSet.apply writes db) with
      | .ok (value, more) =>
          (next value).alone clock draws now db (writes ++ more)
      | .error error => (.error error, db) := by
  change (perform statement next).alone clock draws now db writes = _
  rw [alone]

theorem Program.alone_commit (value : α) :
    (commit (pure value) : Program σ ω ℓ δ ε α).alone clock draws now db
      writes = (.ok value, WriteSet.apply writes db) := rfl

end Statements

/-- The program a request is left with when it has answered. -/
def Program.answer : Except ε α → Program σ ω ℓ δ ε α
  | .ok value => .done value
  | .error error => .fail error

namespace System

variable [DecidableEq ℓ] [DecidableEq δ]

/-- Values the system lets a request draw, whatever the sources. -/
structure Drawable (system : System σ ω ℓ δ ε ρ τ) (world : World σ ω δ ρ)
    (draws : Nat → Nat) : Prop where
  allowed : ∀ source index, system.mayDraw source (draws index) = true
  unused : ∀ source index, (source, draws index) ∉ world.drawn
  distinct : Function.Injective draws

theorem reachable_alone (system : System σ ω ℓ δ ε ρ τ)
    (world : World σ ω δ ρ) (context : Context ω ℓ δ ρ)
    (program : Program σ ω ℓ δ ε τ) {draws : Nat → Nat}
    (drawable : system.Drawable world draws) :
    let result := program.alone world.clock draws context.now world.db
      context.writes
    ∃ final ended, system.Reachable ⟨world, [⟨context, program⟩]⟩ final ∧
      final.threads = [ended] ∧ ended.context.tid = context.tid ∧
      ended.program = Program.answer result.1 ∧ final.world.db = result.2 := by
  induction program generalizing world context draws with
  | done value => exact ⟨_, _, .refl, rfl, rfl, rfl, rfl⟩
  | fail error => exact ⟨_, _, .refl, rfl, rfl, rfl, rfl⟩
  | start program ih =>
      obtain ⟨final, ended, reached, rest⟩ :=
        ih world { context with now := world.clock } drawable
      have stepped : system.Reachable ⟨world, [⟨context, .start program⟩]⟩ _ :=
        step_alone 0 rfl
      exact ⟨final, ended, stepped.trans reached, rest⟩
  | commit program ih =>
      obtain ⟨final, ended, reached, rest⟩ :=
        ih (world.commit context) context.release
          ⟨drawable.allowed, drawable.unused, drawable.distinct⟩
      have stepped : system.Reachable ⟨world, [⟨context, .commit program⟩]⟩ _ :=
        step_alone 0 rfl
      exact ⟨final, ended, stepped.trans reached, rest⟩
  | fresh source program ih =>
      have later : system.Drawable
          { world with drawn := (source, draws 0) :: world.drawn }
          fun index => draws (index + 1) := by
        refine ⟨fun source index => drawable.allowed source _, ?_, ?_⟩
        · intro other index member
          rcases List.mem_cons.mp member with same | member
          · exact absurd (drawable.distinct (congrArg Prod.snd same))
              (Nat.succ_ne_zero index)
          · exact drawable.unused other _ member
        · exact fun left right same =>
            Nat.succ.inj (drawable.distinct same)
      obtain ⟨final, ended, reached, rest⟩ := ih (draws 0) _
        (context.own source (draws 0)) later
      have stepped : system.Reachable
          ⟨world, [⟨context, .fresh source program⟩]⟩
          ⟨_, [⟨context.own source (draws 0), program (draws 0)⟩]⟩ :=
        step_alone (draws 0)
          (if_pos ⟨drawable.allowed source 0, drawable.unused source 0⟩)
      exact ⟨final, ended, stepped.trans reached, rest⟩
  | perform statement program ih =>
      cases ran : statement.run context.now (world.view context) with
      | error error =>
          have stepped : system.Reachable
              ⟨world, [⟨context, .perform statement program⟩]⟩
              ⟨world, [⟨context, .fail error⟩]⟩ := by
            refine step_alone 0 ?_
            simp [Thread.advance, available, ran]
          rw [World.view] at ran
          refine ⟨_, _, stepped, rfl, rfl, ?_, ?_⟩
          · simp only [Program.alone, ran, Program.answer]
          · simp only [Program.alone, ran]
      | ok result =>
          obtain ⟨final, ended, reached, alone, tid, answered, left⟩ :=
            ih result.1 world
              (context.extend (statement.locks context.now (world.view context))
                result.2) drawable
          refine ⟨final, ended, .trans (step_alone 0 ?_) reached, alone, tid,
            ?_, ?_⟩
          · simp [Thread.advance, available, ran]
          · rw [World.view] at ran
            simp only [Program.alone, ran]
            exact answered
          · rw [World.view] at ran
            simp only [Program.alone, ran]
            exact left

/-- Everything in flight can be aborted. -/
theorem reachable_idle (system : System σ ω ℓ δ ε ρ τ)
    (world : World σ ω δ ρ) (threads : List (Thread σ ω ℓ δ ε ρ τ)) :
    system.Reachable ⟨world, threads⟩ (.idle world) := by
  induction threads with
  | nil => exact .refl
  | cons thread threads ih =>
      have aborted : system.Reachable ⟨world, thread :: threads⟩
          ⟨world, threads⟩ :=
        .step (.abort 0) .refl rfl
      exact aborted.trans ih

end System

/-- A part of the state: when two states agree on it, and when a state differs
from an earlier one in nothing else. -/
structure Part (σ : Type) where
  Agree : σ → σ → Prop
  Outside : σ → σ → Prop
  outside_refl : ∀ state, Outside state state
  outside_trans : ∀ {first second third}, Outside first second →
    Outside second third → Outside first third

/-- Every statement answers alike in states that agree on the part, and writes
only there.  The values drawn satisfy `fresh`. -/
def Program.Local (part : Part σ) (fresh : Nat → Prop) :
    Program σ ω ℓ δ ε α → Prop
  | .done _ => True
  | .fail _ => True
  | .start next => Local part fresh next
  | .commit next => Local part fresh next
  | .fresh _ next => ∀ value, fresh value → Local part fresh (next value)
  | .perform statement next => ∀ now left right, part.Agree left right →
      statement.run now right = statement.run now left ∧
      ∀ value writes, statement.run now left = .ok (value, writes) →
        part.Agree (WriteSet.apply writes left) (WriteSet.apply writes right) ∧
        part.Outside left (WriteSet.apply writes left) ∧
        Local part fresh (next value)

namespace Program.Local

variable {part : Part σ} {fresh : Nat → Prop} {program : Program σ ω ℓ δ ε α}

theorem bind {rest : α → Program σ ω ℓ δ ε β}
    (first : program.Local part fresh)
    (next : ∀ value, (rest value).Local part fresh) :
    (program >>= rest).Local part fresh := by
  rw [Program.bind_eq]
  induction program with
  | done value => exact next value
  | fail error => trivial
  | start program ih | commit program ih => exact ih first
  | fresh source program ih =>
      exact fun value drawn => ih value (first value drawn)
  | perform statement program ih =>
      intro now left right agree
      obtain ⟨same, ok⟩ := first now left right agree
      refine ⟨same, fun value writes ran => ?_⟩
      obtain ⟨agrees, outside, here⟩ := ok value writes ran
      exact ⟨agrees, outside, ih value here⟩

theorem draw_bind {source : δ} {rest : Nat → Program σ ω ℓ δ ε β}
    (next : ∀ value, fresh value → (rest value).Local part fresh) :
    (.draw source >>= rest : Program σ ω ℓ δ ε β).Local part fresh :=
  next

theorem transaction (body : program.Local part fresh) :
    (Program.transaction program).Local part fresh := by
  have ends : ∀ value : α, (Program.commit (.done value) :
      Program σ ω ℓ δ ε α).Local part fresh := fun _ => trivial
  exact bind body ends

/-- The answer is the same, the states left agree on the part again, and
nothing else has changed. -/
theorem alone (part : Part σ) (isLocal : program.Local part fresh) {clock : Nat}
    {draws : Nat → Nat} (drawn : ∀ index, fresh (draws index)) {now : Nat}
    {left right : σ} {writes : ω} (agree : part.Agree left right)
    (views : part.Agree (WriteSet.apply writes left)
      (WriteSet.apply writes right))
    (outside : part.Outside left (WriteSet.apply writes left)) :
    let first := program.alone clock draws now left writes
    let second := program.alone clock draws now right writes
    second.1 = first.1 ∧ part.Agree first.2 second.2 ∧
      part.Outside left first.2 := by
  induction program generalizing draws now left right writes with
  | done | fail => exact ⟨rfl, agree, part.outside_refl left⟩
  | start program ih => exact ih isLocal drawn agree views outside
  | commit program ih =>
      have again : part.Agree
          (WriteSet.apply (∅ : ω) (WriteSet.apply writes left))
          (WriteSet.apply (∅ : ω) (WriteSet.apply writes right)) := by
        simpa using views
      have unchanged : part.Outside (WriteSet.apply writes left)
          (WriteSet.apply (∅ : ω) (WriteSet.apply writes left)) := by
        simpa using part.outside_refl _
      obtain ⟨same, agrees, rest⟩ :=
        @ih isLocal draws drawn now _ _ (∅ : ω) views again unchanged
      exact ⟨same, agrees, part.outside_trans outside rest⟩
  | fresh source program ih =>
      exact ih (draws 0) (isLocal _ (drawn 0)) (fun index => drawn _) agree
        views outside
  | perform statement program ih =>
      obtain ⟨same, ok⟩ := isLocal now _ _ views
      simp only [Program.alone, same]
      cases ran : statement.run now (WriteSet.apply writes left) with
      | error error => exact ⟨rfl, agree, part.outside_refl left⟩
      | ok result =>
          obtain ⟨agrees, more, next⟩ := ok result.1 result.2 ran
          refine ih result.1 next drawn agree ?_ ?_
          · simpa using agrees
          · simpa using part.outside_trans outside more

end Program.Local

end Transaction
