import Mathlib.Data.List.Basic

/-!
# The latest request wins

Requests are numbered in the order they are issued.  An answer is heard when
no later request was issued before it arrived and nobody stopped listening.
-/

namespace Relational

namespace Latest

variable {α : Type}

inductive Happening (α : Type) where
  | issued
  | answered (number : Nat) (answer : α)
  | closed
  deriving DecidableEq, Repr

def issuedCount : List (Happening α) → Nat
  | [] => 0
  | .issued :: rest => issuedCount rest + 1
  | _ :: rest => issuedCount rest

theorem issuedCount_append (first second : List (Happening α)) :
    issuedCount (first ++ second) = issuedCount first + issuedCount second := by
  induction first with
  | nil => simp [issuedCount]
  | cons happening rest ih =>
      cases happening with
      | issued =>
          simp only [List.cons_append, issuedCount, ih]
          omega
      | answered | closed => exact ih

@[simp] theorem issuedCount_concat_issued (log : List (Happening α)) :
    issuedCount (log ++ [.issued]) = issuedCount log + 1 :=
  issuedCount_append log [.issued]

@[simp] theorem issuedCount_concat_answered (log : List (Happening α))
    (number : Nat) (answer : α) :
    issuedCount (log ++ [.answered number answer]) = issuedCount log :=
  issuedCount_append log [.answered number answer]

@[simp] theorem issuedCount_concat_closed (log : List (Happening α)) :
    issuedCount (log ++ [.closed]) = issuedCount log :=
  issuedCount_append log [.closed]

/-- The answer arrived while its request was the latest one. -/
def Heard (log : List (Happening α)) (number : Nat) (answer : α) : Prop :=
  ∃ before after, log = before ++ .answered number answer :: after ∧
    issuedCount before = number + 1 ∧ .closed ∉ before

/-- Among the answers that were heard this is the one to the latest request. -/
structure Newest (log : List (Happening α)) (number : Nat) (answer : α) :
    Prop where
  heard : Heard log number answer
  newest : ∀ other earlier, Heard log other earlier → other ≤ number

/-- The latest request has no answer that somebody listened to. -/
structure Unanswered (log : List (Happening α)) (number : Nat) : Prop where
  latest : issuedCount log = number + 1
  open_ : ∀ before answer after,
    log = before ++ .answered number answer :: after → .closed ∈ before

/-- Answers are to requests that were issued. -/
def Numbered (log : List (Happening α)) : Prop :=
  ∀ number answer, .answered number answer ∈ log → number < issuedCount log

section Append

variable {log before after : List (Happening α)}
  {happening happened : Happening α} {number : Nat} {answer : α}

/-- A place in a log with one more entry is at its end or in the log before. -/
theorem concat_eq_append_cons :
    log ++ [happening] = before ++ happened :: after ↔
      (before = log ∧ happened = happening ∧ after = []) ∨
        ∃ shorter, after = shorter ++ [happening] ∧
          log = before ++ happened :: shorter := by
  constructor
  · intro same
    rcases List.eq_nil_or_concat after with rfl | ⟨shorter, last, rfl⟩
    · obtain ⟨rfl, rest⟩ := List.append_inj' same rfl
      exact .inl ⟨rfl, (List.head_eq_of_cons_eq rest).symm, rfl⟩
    · have shaped : log ++ [happening] =
          (before ++ happened :: shorter) ++ [last] := by
        simpa using same
      obtain ⟨inner, rest⟩ := List.append_inj' shaped rfl
      refine .inr ⟨shorter, ?_, inner⟩
      rw [List.concat_eq_append, List.head_eq_of_cons_eq rest]
  · rintro (⟨rfl, rfl, rfl⟩ | ⟨shorter, rfl, rfl⟩)
    · rfl
    · simp

theorem heard_concat :
    Heard (log ++ [happening]) number answer ↔
      Heard log number answer ∨
        happening = .answered number answer ∧
          issuedCount log = number + 1 ∧ .closed ∉ log := by
  constructor
  · rintro ⟨before, after, same, latest, listening⟩
    rcases concat_eq_append_cons.mp same with
      ⟨rfl, rfl, -⟩ | ⟨shorter, -, inner⟩
    · exact .inr ⟨rfl, latest, listening⟩
    · exact .inl ⟨before, shorter, inner, latest, listening⟩
  · rintro (⟨before, after, rfl, latest, listening⟩ | ⟨rfl, latest, listening⟩)
    · exact ⟨before, after ++ [happening], by simp, latest, listening⟩
    · exact ⟨log, [], rfl, latest, listening⟩

theorem Heard.lt (heard : Heard log number answer) :
    number < issuedCount log := by
  obtain ⟨before, after, rfl, latest, -⟩ := heard
  rw [issuedCount_append, latest]
  omega

/-- What nobody hears leaves the newest answer as it is. -/
theorem newest_concat_of_unheard
    (unheard : ¬(∃ number answer, happening = .answered number answer ∧
      issuedCount log = number + 1 ∧ .closed ∉ log)) :
    Newest (log ++ [happening]) number answer ↔ Newest log number answer := by
  have same (number : Nat) (answer : α) :
      Heard (log ++ [happening]) number answer ↔ Heard log number answer := by
    rw [heard_concat, or_iff_left]
    exact fun heard => unheard ⟨number, answer, heard⟩
  constructor
  · exact fun ⟨heard, newest⟩ => ⟨(same _ _).mp heard,
      fun other earlier heard => newest other earlier ((same _ _).mpr heard)⟩
  · exact fun ⟨heard, newest⟩ => ⟨(same _ _).mpr heard,
      fun other earlier heard => newest other earlier ((same _ _).mp heard)⟩

/-- An answer to the latest request is the newest. -/
theorem newest_concat (latest : issuedCount log = number + 1)
    (listening : .closed ∉ log) :
    Newest (log ++ [.answered number answer]) number answer where
  heard := heard_concat.mpr (.inr ⟨rfl, latest, listening⟩)
  newest other earlier heard := by
    rcases heard_concat.mp heard with before | ⟨same, -⟩
    · have bound := before.lt
      omega
    · cases same
      exact Nat.le_refl _

theorem unanswered_concat_answered (other : Nat) :
    Unanswered (log ++ [.answered other answer]) number ↔
      Unanswered log number ∧ (other = number → .closed ∈ log) := by
  constructor
  · rintro ⟨latest, open_⟩
    rw [issuedCount_concat_answered] at latest
    refine ⟨⟨latest, fun before given after same => ?_⟩, ?_⟩
    · exact open_ before given (after ++ [.answered other answer]) (by simp [same])
    · rintro rfl
      exact open_ log answer [] rfl
  · rintro ⟨⟨latest, open_⟩, closed⟩
    refine ⟨(issuedCount_concat_answered log other answer).trans latest, ?_⟩
    intro before given after same
    rcases concat_eq_append_cons.mp same with
      ⟨rfl, hit, -⟩ | ⟨shorter, -, inner⟩
    · cases hit
      exact closed rfl
    · exact open_ before given shorter inner

theorem unanswered_concat_closed :
    Unanswered (log ++ [.closed]) number ↔ Unanswered log number := by
  constructor
  · rintro ⟨latest, open_⟩
    rw [issuedCount_concat_closed] at latest
    exact ⟨latest, fun before given after same =>
      open_ before given (after ++ [.closed]) (by simp [same])⟩
  · rintro ⟨latest, open_⟩
    refine ⟨(issuedCount_concat_closed log).trans latest, ?_⟩
    intro before given after same
    rcases concat_eq_append_cons.mp same with
      ⟨-, hit, -⟩ | ⟨shorter, -, inner⟩
    · cases hit
    · exact open_ before given shorter inner

theorem unanswered_concat_issued (numbered : Numbered log) :
    Unanswered (log ++ [.issued]) number ↔ number = issuedCount log := by
  have count := issuedCount_concat_issued log
  constructor
  · rintro ⟨latest, -⟩
    omega
  · intro last
    refine ⟨by omega, fun before given after same => ?_⟩
    rcases concat_eq_append_cons.mp same with
      ⟨-, hit, -⟩ | ⟨shorter, -, inner⟩
    · cases hit
    · have member : .answered number given ∈ log := by
        rw [inner]
        exact List.mem_append_right before List.mem_cons_self
      have bound := numbered number given member
      omega

theorem Numbered.concat (numbered : Numbered log)
    (known : ∀ number answer, happening = .answered number answer →
      number < issuedCount log) : Numbered (log ++ [happening]) := by
  intro number answer member
  rw [issuedCount_append]
  rcases List.mem_append.mp member with earlier | last
  · exact Nat.lt_add_right _ (numbered number answer earlier)
  · have same := (List.mem_singleton.mp last).symm
    exact Nat.lt_add_right _ (known number answer same)

end Append

theorem numbered_nil : Numbered ([] : List (Happening α)) :=
  fun _ _ member => absurd member List.not_mem_nil

theorem not_heard_nil {number : Nat} {answer : α} : ¬Heard [] number answer :=
  fun ⟨_, _, same, _⟩ => by simp at same

end Latest

end Relational
