import SaasFoundation.Transaction.Sequential

/-!
# Requests that may break down anywhere

`Program.Ends` is a run of a request that is alone, in which a fault may end
the request before any of its steps and after its last one.  A transaction
that has not been committed leaves nothing behind.
-/

namespace Transaction

variable {σ ω ℓ δ ε α β : Type} [WriteSet ω σ] {clock : Nat}

namespace Program

/-- How a run may end, where it then stands, and how often it has committed. -/
inductive Ends (clock : Nat) : Program σ ω ℓ δ ε α → Stand σ ω →
    Except ε α → Stand σ ω → Nat → Prop where
  | fault (program : Program σ ω ℓ δ ε α) (stand : Stand σ ω) (error : ε) :
      Ends clock program stand (.error error) stand 0
  | done (value : α) (stand : Stand σ ω) :
      Ends clock (.done value) stand (.ok value) stand 0
  | fail (error : ε) (stand : Stand σ ω) :
      Ends clock (.fail error) stand (.error error) stand 0
  | start {next : Program σ ω ℓ δ ε α} {stand final : Stand σ ω}
      {answer : Except ε α} {commits : Nat} :
      Ends clock next (stand.started clock) answer final commits →
      Ends clock (.start next) stand answer final commits
  | commit {next : Program σ ω ℓ δ ε α} {stand final : Stand σ ω}
      {answer : Except ε α} {commits : Nat} :
      Ends clock next stand.commit answer final commits →
      Ends clock (.commit next) stand answer final (commits + 1)
  | fresh {source : δ} {next : Nat → Program σ ω ℓ δ ε α}
      {stand final : Stand σ ω} {answer : Except ε α} {commits : Nat} :
      Ends clock (next (stand.draws 0)) stand.drawn answer final commits →
      Ends clock (.fresh source next) stand answer final commits
  | perform {γ : Type} {statement : Statement σ ω ℓ ε γ}
      {next : γ → Program σ ω ℓ δ ε α} {stand final : Stand σ ω} {value : γ}
      {writes : ω} {answer : Except ε α} {commits : Nat} :
      statement.run stand.now stand.view = .ok (value, writes) →
      Ends clock (next value) (stand.write writes) answer final commits →
      Ends clock (.perform statement next) stand answer final commits
  | refused {γ : Type} {statement : Statement σ ω ℓ ε γ}
      {next : γ → Program σ ω ℓ δ ε α} {stand : Stand σ ω} {error : ε} :
      statement.run stand.now stand.view = .error error →
      Ends clock (.perform statement next) stand (.error error) stand 0

/-- No statement is left: the program returns or fails on its own. -/
def Idle : Program σ ω ℓ δ ε α → Prop
  | .done _ => True
  | .fail _ => True
  | _ => False

theorem Ends.of_idle {program : Program σ ω ℓ δ ε α} {stand final : Stand σ ω}
    {answer : Except ε α} {commits : Nat} (idle : program.Idle)
    (ends : program.Ends clock stand answer final commits) :
    final = stand ∧ commits = 0 := by
  cases ends with
  | fault | done | fail => exact ⟨rfl, rfl⟩
  | start | commit | fresh | perform | refused => exact idle.elim

/-- A request that has failed either left everything as it was, or had
committed, and then the whole of its transaction. -/
theorem Ends.of_atomic {program : Program σ ω ℓ δ ε α}
    {rest : α → Program σ ω ℓ δ ε β} {stand final : Stand σ ω}
    {answer : Except ε β} {commits : Nat} (atomic : program.Atomic)
    (idle : ∀ value, (rest value).Idle)
    (ends : (program >>= rest).Ends clock stand answer final commits) :
    commits = 0 ∧ final.db = stand.db ∧ (∃ error, answer = .error error) ∨
      commits = 1 ∧ ∃ value,
        program.alone clock stand.draws stand.now stand.db stand.writes =
          (.ok value, final.db) := by
  rw [bind_eq] at ends
  induction program generalizing stand with
  | done value => exact atomic.elim
  | fail error =>
      cases ends with
      | fault _ _ error => exact .inl ⟨rfl, rfl, error, rfl⟩
      | fail => exact .inl ⟨rfl, rfl, error, rfl⟩
  | start next ih =>
      cases ends with
      | fault _ _ error => exact .inl ⟨rfl, rfl, error, rfl⟩
      | start ends => exact ih atomic ends
  | commit next ih =>
      obtain ⟨value, rfl⟩ := atomic
      cases ends with
      | fault _ _ error => exact .inl ⟨rfl, rfl, error, rfl⟩
      | commit ends =>
          obtain ⟨rfl, rfl⟩ := Ends.of_idle (idle value) ends
          exact .inr ⟨rfl, value, rfl⟩
  | fresh source next ih =>
      cases ends with
      | fault _ _ error => exact .inl ⟨rfl, rfl, error, rfl⟩
      | fresh ends => exact ih _ (atomic _) ends
  | perform statement next ih =>
      cases ends with
      | fault _ _ error => exact .inl ⟨rfl, rfl, error, rfl⟩
      | refused => exact .inl ⟨rfl, rfl, _, rfl⟩
      | perform ran ends =>
          rw [Stand.view] at ran
          simp only [alone, ran]
          exact ih _ (atomic _) ends

end Program

end Transaction
