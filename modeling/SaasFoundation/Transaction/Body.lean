import SaasFoundation.Transaction.Discipline

/-!
# Verifying the body of a transaction

Inside a transaction locks are only ever added.  What was established under
the locks held at some point therefore still holds when the transaction
commits: `within_keep` carries such a fact to the end of the body, so that a
proof states each fact where the code reads it and uses it at the commit.
-/

namespace Transaction

variable {σ ω ℓ δ ε ρ τ α β : Type}

/-- Locks and drawn values accumulate. -/
structure Context.Grows (context later : Context ω ℓ δ ρ) : Prop where
  locks : ∀ held ∈ context.locks, held ∈ later.locks
  owned : ∀ value ∈ context.owned, value ∈ later.owned

namespace Context.Grows

variable {context later : Context ω ℓ δ ρ}

theorem refl (context : Context ω ℓ δ ρ) : context.Grows context :=
  ⟨fun _ member => member, fun _ member => member⟩

theorem extend [Append ω] (grows : context.Grows later)
    (locks : List (ℓ × LockMode)) (writes : ω) :
    context.Grows (later.extend locks writes) where
  locks held member := List.mem_append_right _ (grows.locks held member)
  owned := grows.owned

theorem own (grows : context.Grows later) (source : δ) (value : Nat) :
    context.Grows (later.own source value) where
  locks := grows.locks
  owned drawn member := .tail _ (grows.owned drawn member)

theorem has (grows : context.Grows later) {hold : Hold ℓ δ}
    (held : context.Has hold) : later.Has hold := by
  cases hold with
  | always => trivial
  | lock resource mode => exact grows.locks _ held
  | value source drawn => exact grows.owned _ held

end Context.Grows

namespace Discipline

variable {discipline : Discipline σ ω ℓ δ ε ρ τ}

theorem Rely.weaken {context later : Context ω ℓ δ ρ}
    {world next : World σ ω δ ρ} (rely : discipline.Rely later world next)
    (grows : context.Grows later) : discipline.Rely context world next :=
  ⟨rely.inv, fun hold has => rely.keeps hold (grows.has has)⟩

/-- The start time of a transaction does not matter for what it holds. -/
theorem Rely.at {context : Context ω ℓ δ ρ} {world next : World σ ω δ ρ}
    (rely : discipline.Rely context world next) (now : Nat) :
    discipline.Rely { context with now } world next :=
  ⟨rely.inv, fun hold has => rely.keeps hold (by cases hold <;> exact has)⟩

/-- A fact about the committed state that interference keeps. -/
def Stable (discipline : Discipline σ ω ℓ δ ε ρ τ) (context : Context ω ℓ δ ρ)
    (fact : World σ ω δ ρ → Prop) : Prop :=
  ∀ {world next}, discipline.Inv world → fact world →
    discipline.Rely context world next → fact next

variable [WriteSet ω σ]

/-- Weakest precondition of a body that runs inside one transaction; the
postcondition speaks about the moment of the commit. -/
def within (discipline : Discipline σ ω ℓ δ ε ρ τ)
    (mayDraw : δ → Nat → Bool) : Program σ ω ℓ δ ε α →
    (α → Context ω ℓ δ ρ → World σ ω δ ρ → Prop) →
    (ε → Context ω ℓ δ ρ → World σ ω δ ρ → Prop) →
    Context ω ℓ δ ρ → World σ ω δ ρ → Prop
  | .done value, post, _, context, world =>
      ∀ now, discipline.Rely context world now → post value context now
  | .fail error, _, failed, context, world => failed error context world
  | .start _, _, _, _, _ => False
  | .commit _, _, _, _, _ => False
  | .fresh source next, post, failed, context, world =>
      ∀ now, discipline.Rely context world now →
        ∀ value, mayDraw source value = true →
          (source, value) ∉ now.drawn →
          within discipline mayDraw (next value) post failed
            (context.own source value)
            { now with drawn := (source, value) :: now.drawn }
  | .perform statement next, post, failed, context, world =>
      ∀ now, discipline.Rely context world now →
        match statement.run context.now (now.view context) with
        | .ok (value, writes) =>
            within discipline mayDraw (next value) post failed
              (context.extend
                (statement.locks context.now (now.view context)) writes) now
        | .error error => failed error context now

variable {mayDraw : δ → Nat → Bool}
  {post : α → Context ω ℓ δ ρ → World σ ω δ ρ → Prop}
  {failed : ε → Context ω ℓ δ ρ → World σ ω δ ρ → Prop}
  {context : Context ω ℓ δ ρ} {world : World σ ω δ ρ}

theorem within_run {statement : Statement σ ω ℓ ε β}
    {next : β → Program σ ω ℓ δ ε α} :
    discipline.within mayDraw (.run statement >>= next) post failed
        context world ↔
      ∀ now, discipline.Rely context world now →
        match statement.run context.now (now.view context) with
        | .ok (value, writes) =>
            discipline.within mayDraw (next value) post failed
              (context.extend
                (statement.locks context.now (now.view context)) writes) now
        | .error error => failed error context now :=
  Iff.rfl

theorem within_draw {source : δ} {next : Nat → Program σ ω ℓ δ ε α} :
    discipline.within mayDraw (.draw source >>= next) post failed
        context world ↔
      ∀ now, discipline.Rely context world now →
        ∀ value, mayDraw source value = true →
          (source, value) ∉ now.drawn →
          discipline.within mayDraw (next value) post failed
            (context.own source value)
            { now with drawn := (source, value) :: now.drawn } :=
  Iff.rfl

/-- What holds now and is kept by the locks held now also holds when the body
ends. -/
theorem within_keep (fact : World σ ω δ ρ → Prop)
    {program : Program σ ω ℓ δ ε α} (inv : discipline.Inv world)
    (holds : fact world) (stable : discipline.Stable context fact)
    (drawn : ∀ {world : World σ ω δ ρ} (value : δ × Nat), fact world →
      fact { world with drawn := value :: world.drawn })
    (verified : discipline.within mayDraw program
      (fun value context world => fact world → post value context world)
      (fun error context world => fact world → failed error context world)
      context world) :
    discipline.within mayDraw program post failed context world := by
  suffices ∀ later, context.Grows later →
      discipline.within mayDraw program
        (fun value context world => fact world → post value context world)
        (fun error context world => fact world → failed error context world)
        later world →
      discipline.within mayDraw program post failed later world from
    this context (.refl context) verified
  clear verified
  induction program generalizing world with
  | done value =>
      intro later grows verified now rely
      exact verified now rely (stable inv holds (rely.weaken grows))
  | fail error => exact fun later _ verified => verified holds
  | start | commit => exact fun _ _ verified => verified
  | fresh source next ih =>
      intro later grows verified now rely value allowed unused
      have kept : fact now := stable inv holds (rely.weaken grows)
      exact ih value (discipline.inv_silent (.draw _) rely.inv)
        (drawn _ kept) _ (grows.own source value)
        (verified now rely value allowed unused)
  | perform statement next ih =>
      intro later grows verified now rely
      have kept : fact now := stable inv holds (rely.weaken grows)
      have stepped := verified now rely
      revert stepped
      cases statement.run later.now (now.view later) with
      | error error => exact fun stepped => stepped kept
      | ok result =>
          exact fun stepped =>
            ih result.1 rely.inv kept _ (grows.extend _ _) stepped

private theorem wp_of_body {program : Program σ ω ℓ δ ε α}
    (verified : discipline.within mayDraw program post failed context world) :
    discipline.wp mayDraw program
      (fun value context world => ∀ now, discipline.Rely context world now →
        post value context now)
      failed context world := by
  induction program generalizing context world with
  | done | fail => exact verified
  | start | commit => exact verified.elim
  | fresh source next ih =>
      exact fun now rely value allowed unused =>
        ih value (verified now rely value allowed unused)
  | perform statement next ih =>
      intro now rely
      have stepped := verified now rely
      revert stepped
      cases statement.run context.now (now.view context) with
      | error error => exact id
      | ok result => exact ih result.1

/-- A transaction is verified by its body: the guarantee is owed for the
committed state the writes are applied to. -/
theorem wp_of_within {body : Program σ ω ℓ δ ε α}
    (verified : ∀ now, discipline.Rely context world now →
      discipline.within mayDraw body
        (fun value context world =>
          discipline.Guarantee context world (world.commit context) ∧
            post value context.release (world.commit context))
        failed { context with now := now.clock } now) :
    discipline.wp mayDraw (.transaction body) post failed context world :=
  wp_transaction.mpr fun now rely => wp_of_body (verified now rely)

end Discipline

end Transaction
