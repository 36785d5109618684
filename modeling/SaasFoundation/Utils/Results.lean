import Mathlib.Data.List.Basic

/-!
# Computations that may fail

How a sequence of computations succeeds, and how it fails.
-/

namespace Except

variable {ε α β : Type} {first : Except ε α} {rest : α → Except ε β}

theorem bind_eq_ok_iff {value : β} :
    (first >>= rest) = .ok value ↔
      ∃ middle, first = .ok middle ∧ rest middle = .ok value := by
  cases first with
  | error error => simp [bind, Except.bind]
  | ok middle => simp [bind, Except.bind]

theorem bind_eq_error_iff {error : ε} :
    (first >>= rest) = .error error ↔
      first = .error error ∨
        ∃ middle, first = .ok middle ∧ rest middle = .error error := by
  cases first with
  | error error => simp [bind, Except.bind]
  | ok middle => simp [bind, Except.bind]

theorem map_eq_ok_iff {function : α → β} {value : β} :
    function <$> first = .ok value ↔
      ∃ middle, first = .ok middle ∧ function middle = value := by
  cases first with
  | error error => simp [Functor.map, Except.map]
  | ok middle => simp [Functor.map, Except.map]

theorem map_eq_error_iff {function : α → β} {error : ε} :
    function <$> first = .error error ↔ first = .error error := by
  cases first with
  | error error => simp [Functor.map, Except.map]
  | ok middle => simp [Functor.map, Except.map]

end Except
