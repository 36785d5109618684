import Mathlib.Data.List.Basic

/-!
# Programs of database statements

A request to a transactional store is a sequence of statements.  Every
statement names the row locks it waits for, reads one view of the store, and
either fails or returns a value together with the rows it writes.  `Program`
is the resumption form of such a sequence, so that a scheduler can stop
between any two statements.
-/

namespace Transaction

/-- Row locks are held to keep a row from changing, or to change it. -/
inductive LockMode where
  | share
  | update
  deriving DecidableEq, Repr

/-- Two holders of one lock exclude each other unless both only share it. -/
def LockMode.conflicts : LockMode → LockMode → Bool
  | .share, .share => false
  | _, _ => true

theorem LockMode.conflicts_comm (left right : LockMode) :
    left.conflicts right = right.conflicts left := by
  cases left <;> cases right <;> rfl

@[simp] theorem LockMode.update_conflicts (mode : LockMode) :
    LockMode.update.conflicts mode = true := by
  cases mode <;> rfl

@[simp] theorem LockMode.conflicts_update (mode : LockMode) :
    mode.conflicts .update = true := by
  cases mode <;> rfl

/-- Pending row changes of a transaction, in statement order.  A transaction
sees its own pending rows on top of the committed ones. -/
class WriteSet (ω σ : Type) extends Append ω, EmptyCollection ω where
  apply : ω → σ → σ
  apply_empty : ∀ state, apply ∅ state = state
  apply_append : ∀ first second state,
    apply (first ++ second) state = apply second (apply first state)
  append_empty : ∀ writes : ω, writes ++ ∅ = writes
  empty_append : ∀ writes : ω, ∅ ++ writes = writes

attribute [simp] WriteSet.apply_empty WriteSet.apply_append
  WriteSet.append_empty WriteSet.empty_append

/-- One statement.  `locks` are the row locks it waits for and then keeps,
`run` its effect; both see the transaction's start time and its view. -/
structure Statement (σ ω ℓ ε β : Type) where
  locks : Nat → σ → List (ℓ × LockMode)
  run : Nat → σ → Except ε (β × ω)

/-- A request.  `start` opens a transaction, `commit` publishes its writes and
releases its locks, `fresh` draws a value nobody has drawn before (a sequence
number, a random identifier). -/
inductive Program (σ ω ℓ δ ε α : Type) : Type 1 where
  | done (value : α)
  | fail (error : ε)
  | start (next : Program σ ω ℓ δ ε α)
  | commit (next : Program σ ω ℓ δ ε α)
  | fresh (source : δ) (next : Nat → Program σ ω ℓ δ ε α)
  | perform {β : Type} (statement : Statement σ ω ℓ ε β)
      (next : β → Program σ ω ℓ δ ε α)

namespace Program

variable {σ ω ℓ δ ε α β γ : Type}

def bind : Program σ ω ℓ δ ε α → (α → Program σ ω ℓ δ ε β) →
    Program σ ω ℓ δ ε β
  | .done value, rest => rest value
  | .fail error, _ => .fail error
  | .start next, rest => .start (next.bind rest)
  | .commit next, rest => .commit (next.bind rest)
  | .fresh source next, rest => .fresh source fun value =>
      (next value).bind rest
  | .perform statement next, rest => .perform statement fun value =>
      (next value).bind rest

instance : Monad (Program σ ω ℓ δ ε) where
  pure := .done
  bind := Program.bind

theorem bind_eq (program : Program σ ω ℓ δ ε α)
    (rest : α → Program σ ω ℓ δ ε β) :
    program >>= rest = program.bind rest :=
  rfl

theorem bind_done (program : Program σ ω ℓ δ ε α) :
    program.bind .done = program := by
  induction program with
  | done | fail => rfl
  | start next ih | commit next ih => simp [Program.bind, ih]
  | fresh source next ih | perform statement next ih =>
      simp only [Program.bind, ih]

theorem bind_assoc (program : Program σ ω ℓ δ ε α)
    (middle : α → Program σ ω ℓ δ ε β) (rest : β → Program σ ω ℓ δ ε γ) :
    (program.bind middle).bind rest =
      program.bind fun value => (middle value).bind rest := by
  induction program with
  | done | fail => rfl
  | start next ih | commit next ih => simp [Program.bind, ih]
  | fresh source next ih | perform statement next ih =>
      simp only [Program.bind, ih]

instance : LawfulMonad (Program σ ω ℓ δ ε) :=
  LawfulMonad.mk' _ bind_done (fun _ _ => rfl) bind_assoc

/-- A single statement as a program. -/
def run (statement : Statement σ ω ℓ ε β) : Program σ ω ℓ δ ε β :=
  .perform statement .done

/-- Draw one value from a source. -/
def draw (source : δ) : Program σ ω ℓ δ ε Nat :=
  .fresh source .done

/-- A body in a transaction of its own: its writes are published together
when it returns, and nothing is published when it fails. -/
def transaction (body : Program σ ω ℓ δ ε α) : Program σ ω ℓ δ ε α :=
  .start (body.bind fun value => .commit (.done value))

/-- Rewrite the error of a failing program (a `catch` that always rethrows). -/
def mapError (rethrow : ε → ε) : Program σ ω ℓ δ ε α → Program σ ω ℓ δ ε α
  | .done value => .done value
  | .fail error => .fail (rethrow error)
  | .start next => .start (next.mapError rethrow)
  | .commit next => .commit (next.mapError rethrow)
  | .fresh source next => .fresh source fun value =>
      (next value).mapError rethrow
  | .perform statement next =>
      .perform
        { statement with
          run := fun now view => (statement.run now view).mapError rethrow }
        fun value => (next value).mapError rethrow

/-- The program draws from these sources only. -/
def DrawsFrom (sources : δ → Prop) : Program σ ω ℓ δ ε α → Prop
  | .done _ => True
  | .fail _ => True
  | .start next => next.DrawsFrom sources
  | .commit next => next.DrawsFrom sources
  | .fresh source next =>
      sources source ∧ ∀ value, (next value).DrawsFrom sources
  | .perform _ next => ∀ value, (next value).DrawsFrom sources

theorem DrawsFrom.run {sources : δ → Prop} (statement : Statement σ ω ℓ ε β) :
    (run statement : Program σ ω ℓ δ ε β).DrawsFrom sources :=
  fun _ => trivial

theorem DrawsFrom.draw {sources : δ → Prop} {source : δ}
    (allowed : sources source) :
    (draw source : Program σ ω ℓ δ ε Nat).DrawsFrom sources :=
  ⟨allowed, fun _ => trivial⟩

theorem DrawsFrom.bind {sources : δ → Prop} {program : Program σ ω ℓ δ ε α}
    (draws : program.DrawsFrom sources) {rest : α → Program σ ω ℓ δ ε β}
    (restDraws : ∀ value, (rest value).DrawsFrom sources) :
    (program >>= rest).DrawsFrom sources := by
  rw [bind_eq]
  induction program with
  | done value => exact restDraws value
  | fail => trivial
  | start next ih | commit next ih => exact ih draws
  | fresh source next ih =>
      exact ⟨draws.1, fun value => ih value (draws.2 value)⟩
  | perform statement next ih => exact fun value => ih value (draws value)

theorem DrawsFrom.mapError {sources : δ → Prop}
    {program : Program σ ω ℓ δ ε α} (draws : program.DrawsFrom sources)
    (rethrow : ε → ε) : (program.mapError rethrow).DrawsFrom sources := by
  induction program with
  | done | fail => trivial
  | start next ih | commit next ih => exact ih draws
  | fresh source next ih =>
      exact ⟨draws.1, fun value => ih value (draws.2 value)⟩
  | perform statement next ih => exact fun value => ih value (draws value)

theorem DrawsFrom.transaction {sources : δ → Prop}
    {program : Program σ ω ℓ δ ε α} (draws : program.DrawsFrom sources) :
    (transaction program).DrawsFrom sources := by
  have ends : ∀ value : α, (Program.commit (.done value) :
      Program σ ω ℓ δ ε α).DrawsFrom sources := fun _ => trivial
  exact draws.bind ends

end Program

end Transaction
