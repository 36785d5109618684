import Mathlib.Data.Option.Basic

/-!
# Machines

A machine takes one event after the other; an event that cannot happen in a
state has no next state.
-/

namespace Relational

structure Machine (σ ε : Type) where
  step : ε → σ → Option σ

namespace Machine

variable {σ ε : Type} (machine : Machine σ ε)

def run : List ε → σ → Option σ
  | [], state => some state
  | event :: rest, state => (machine.step event state).bind (run rest)

def Reachable (start state : σ) : Prop :=
  ∃ events, machine.run events start = some state

variable {machine} {start state : σ}

theorem run_append (first second : List ε) :
    machine.run (first ++ second) start =
      (machine.run first start).bind (machine.run second) := by
  induction first generalizing start with
  | nil => rfl
  | cons event rest ih =>
      rw [List.cons_append, run, run, Option.bind_assoc]
      exact congrArg _ (funext fun next => ih)

/-- The state a run that succeeds ends in. -/
theorem Reachable.of_run (events : List ε)
    (ran : (machine.run events start).isSome) :
    machine.Reachable start ((machine.run events start).getD start) := by
  obtain ⟨state, same⟩ := Option.isSome_iff_exists.mp ran
  rw [same]
  exact ⟨events, same⟩

theorem Reachable.refl : machine.Reachable start start := ⟨[], rfl⟩

theorem Reachable.step {event : ε} {after : σ}
    (reachable : machine.Reachable start state)
    (stepped : machine.step event state = some after) :
    machine.Reachable start after := by
  obtain ⟨events, ran⟩ := reachable
  refine ⟨events ++ [event], ?_⟩
  rw [run_append, ran, Option.bind_some, run, stepped]
  rfl

/-- What holds at the start and is kept by every step holds in every reachable
state. -/
theorem Reachable.invariant {holds : σ → Prop}
    (reachable : machine.Reachable start state) (initially : holds start)
    (keeps : ∀ event before after, holds before →
      machine.step event before = some after → holds after) :
    holds state := by
  obtain ⟨events, ran⟩ := reachable
  induction events generalizing start with
  | nil =>
      obtain rfl := Option.some.inj ran
      exact initially
  | cons event rest ih =>
      obtain ⟨next, stepped, ran⟩ := Option.bind_eq_some_iff.mp ran
      exact ih (keeps event _ next initially stepped) ran

/-- Only the steps that are allowed. -/
def restrict (machine : Machine σ ε) (allowed : ε → σ → Prop)
    [∀ event state, Decidable (allowed event state)] : Machine σ ε where
  step event state :=
    if allowed event state then machine.step event state else none

theorem restrict_step {allowed : ε → σ → Prop}
    [∀ event state, Decidable (allowed event state)] {event : ε}
    {before after : σ} :
    (machine.restrict allowed).step event before = some after ↔
      allowed event before ∧ machine.step event before = some after := by
  change (if _ then _ else _) = _ ↔ _
  split
  · rename_i permitted
    exact ⟨fun stepped => ⟨permitted, stepped⟩, And.right⟩
  · rename_i refused
    exact ⟨nofun, fun both => absurd both.1 refused⟩

end Machine

end Relational
