import SaasFoundation.Transaction.System

/-!
# Rely and guarantee under row locks

A `Discipline` says what the holder of a lock may rely on while it holds it.
A request that publishes writes must keep the invariant, and must keep, for
every lock that somebody else could hold at that moment, what the holder of
that lock relies on.  `Discipline.wp` is the weakest precondition of a program
under interference from requests that follow the same discipline, and
`Discipline.holds_of_reachable` says that it is enough to verify each request
alone.
-/

namespace Transaction

/-- Reasons for which a request may rely on part of the committed state: it
holds a row lock, it drew a value, or nobody ever breaks it. -/
inductive Hold (ℓ δ : Type) where
  | always
  | lock (resource : ℓ) (mode : LockMode)
  | value (source : δ) (drawn : Nat)

variable {σ ω ℓ δ ε ρ τ α β : Type}

namespace Context

/-- What the request holds itself. -/
def Has (context : Context ω ℓ δ ρ) : Hold ℓ δ → Prop
  | .always => True
  | .lock resource mode => (resource, mode) ∈ context.locks
  | .value source drawn => (source, drawn) ∈ context.owned

/-- What other requests may hold at the same time. -/
def Leaves (context : Context ω ℓ δ ρ) : Hold ℓ δ → Prop
  | .always => True
  | .lock resource mode => ∀ held ∈ context.locks, held.1 = resource →
      held.2.conflicts mode = false
  | .value source drawn => (source, drawn) ∉ context.owned

end Context

/-- `Keeps hold before after`: the change from `before` to `after` keeps what
a request with that hold relies on. -/
structure Discipline (σ ω ℓ δ ε ρ τ : Type) where
  Inv : World σ ω δ ρ → Prop
  Keeps : Hold ℓ δ → World σ ω δ ρ → World σ ω δ ρ → Prop
  Returns : τ → Context ω ℓ δ ρ → World σ ω δ ρ → Prop
  Fails : ε → Context ω ℓ δ ρ → World σ ω δ ρ → Prop
  keeps_trans : ∀ {hold first second third},
    Keeps hold first second → Keeps hold second third →
      Keeps hold first third
  inv_silent : ∀ {world next : World σ ω δ ρ}, world.Silent next →
    Inv world → Inv next
  keeps_silent : ∀ {hold} {world next : World σ ω δ ρ}, world.Silent next →
    Inv world → Keeps hold world next
  returns_stable : ∀ {value context world next}, Returns value context world →
    Inv world → Inv next → (∀ hold, context.Has hold → Keeps hold world next) →
      Returns value context next
  fails_stable : ∀ {error context world next}, Fails error context world →
    Inv world → Inv next → (∀ hold, context.Has hold → Keeps hold world next) →
      Fails error context next

namespace Discipline

variable (discipline : Discipline σ ω ℓ δ ε ρ τ)

/-- What the other requests may have done between two steps of this one. -/
structure Rely (context : Context ω ℓ δ ρ) (world next : World σ ω δ ρ) :
    Prop where
  inv : discipline.Inv next
  keeps : ∀ hold, context.Has hold → discipline.Keeps hold world next

/-- What a step that changes the committed state owes the other requests. -/
structure Guarantee (context : Context ω ℓ δ ρ)
    (world next : World σ ω δ ρ) : Prop where
  inv : discipline.Inv next
  keeps : ∀ hold, context.Leaves hold → discipline.Keeps hold world next

variable {discipline}

theorem Rely.refl {context : Context ω ℓ δ ρ} {world : World σ ω δ ρ}
    (inv : discipline.Inv world) : discipline.Rely context world world :=
  ⟨inv, fun _ _ => discipline.keeps_silent (.refl world) inv⟩

theorem Rely.trans {context : Context ω ℓ δ ρ}
    {first second third : World σ ω δ ρ}
    (left : discipline.Rely context first second)
    (right : discipline.Rely context second third) :
    discipline.Rely context first third :=
  ⟨right.inv, fun hold has =>
    discipline.keeps_trans (left.keeps hold has) (right.keeps hold has)⟩

theorem Rely.always {context : Context ω ℓ δ ρ} {world next : World σ ω δ ρ}
    (rely : discipline.Rely context world next) :
    discipline.Keeps .always world next :=
  rely.keeps .always trivial

theorem Rely.lock {context : Context ω ℓ δ ρ} {world next : World σ ω δ ρ}
    (rely : discipline.Rely context world next) {resource : ℓ}
    {mode : LockMode} (held : (resource, mode) ∈ context.locks) :
    discipline.Keeps (.lock resource mode) world next :=
  rely.keeps _ held

theorem Rely.value {context : Context ω ℓ δ ρ} {world next : World σ ω δ ρ}
    (rely : discipline.Rely context world next) {source : δ} {drawn : Nat}
    (owned : (source, drawn) ∈ context.owned) :
    discipline.Keeps (.value source drawn) world next :=
  rely.keeps _ owned

theorem Rely.ofSilent {context : Context ω ℓ δ ρ}
    {world next : World σ ω δ ρ} (silent : world.Silent next)
    (inv : discipline.Inv world) : discipline.Rely context world next :=
  ⟨discipline.inv_silent silent inv,
    fun _ _ => discipline.keeps_silent silent inv⟩

theorem Guarantee.rely {mine other : Context ω ℓ δ ρ}
    {world next : World σ ω δ ρ}
    (guarantee : discipline.Guarantee mine world next)
    (compatible : mine.Compatible other)
    (disjoint : ∀ value ∈ mine.owned, value ∉ other.owned) :
    discipline.Rely other world next := by
  refine ⟨guarantee.inv, fun hold has => guarantee.keeps hold ?_⟩
  cases hold with
  | always => trivial
  | lock resource mode =>
      exact fun held member same => compatible held member _ has same
  | value source drawn => exact fun owned => disjoint _ owned has

variable (discipline) [WriteSet ω σ]

/-- Weakest precondition of a program for a result and an error condition,
when other requests may interfere between any two steps. -/
def wp (mayDraw : δ → Nat → Bool) : Program σ ω ℓ δ ε α →
    (α → Context ω ℓ δ ρ → World σ ω δ ρ → Prop) →
    (ε → Context ω ℓ δ ρ → World σ ω δ ρ → Prop) →
    Context ω ℓ δ ρ → World σ ω δ ρ → Prop
  | .done value, post, _, context, world => post value context world
  | .fail error, _, failed, context, world => failed error context world
  | .start next, post, failed, context, world =>
      ∀ now, discipline.Rely context world now →
        wp mayDraw next post failed { context with now := now.clock } now
  | .commit next, post, failed, context, world =>
      ∀ now, discipline.Rely context world now →
        discipline.Guarantee context now (now.commit context) ∧
          wp mayDraw next post failed context.release (now.commit context)
  | .fresh source next, post, failed, context, world =>
      ∀ now, discipline.Rely context world now →
        ∀ value, mayDraw source value = true →
          (source, value) ∉ now.drawn →
          wp mayDraw (next value) post failed (context.own source value)
            { now with drawn := (source, value) :: now.drawn }
  | .perform statement next, post, failed, context, world =>
      ∀ now, discipline.Rely context world now →
        match statement.run context.now (now.view context) with
        | .ok (value, writes) =>
            wp mayDraw (next value) post failed
              (context.extend
                (statement.locks context.now (now.view context)) writes) now
        | .error error => failed error context now

variable {discipline} {mayDraw : δ → Nat → Bool}

@[simp] theorem wp_done (value : α)
    (post : α → Context ω ℓ δ ρ → World σ ω δ ρ → Prop)
    (failed : ε → Context ω ℓ δ ρ → World σ ω δ ρ → Prop)
    (context : Context ω ℓ δ ρ) (world : World σ ω δ ρ) :
    discipline.wp mayDraw (.done value) post failed context world =
      post value context world :=
  rfl

@[simp] theorem wp_pure (value : α)
    (post : α → Context ω ℓ δ ρ → World σ ω δ ρ → Prop)
    (failed : ε → Context ω ℓ δ ρ → World σ ω δ ρ → Prop)
    (context : Context ω ℓ δ ρ) (world : World σ ω δ ρ) :
    discipline.wp mayDraw (pure value : Program σ ω ℓ δ ε α) post failed
        context world =
      post value context world :=
  rfl

@[simp] theorem wp_fail (error : ε)
    (post : α → Context ω ℓ δ ρ → World σ ω δ ρ → Prop)
    (failed : ε → Context ω ℓ δ ρ → World σ ω δ ρ → Prop)
    (context : Context ω ℓ δ ρ) (world : World σ ω δ ρ) :
    discipline.wp mayDraw (.fail error) post failed context world =
      failed error context world :=
  rfl

theorem wp_program_bind (program : Program σ ω ℓ δ ε α)
    (rest : α → Program σ ω ℓ δ ε β)
    (post : β → Context ω ℓ δ ρ → World σ ω δ ρ → Prop)
    (failed : ε → Context ω ℓ δ ρ → World σ ω δ ρ → Prop)
    (context : Context ω ℓ δ ρ) (world : World σ ω δ ρ) :
    discipline.wp mayDraw (program.bind rest) post failed context world =
      discipline.wp mayDraw program
        (fun value => discipline.wp mayDraw (rest value) post failed)
        failed context world := by
  induction program generalizing context world with
  | done | fail => rfl
  | start next ih => simp only [Program.bind, wp, ih]
  | commit next ih => simp only [Program.bind, wp, ih]
  | fresh source next ih => simp only [Program.bind, wp, ih]
  | perform statement next ih => simp only [Program.bind, wp, ih]

@[simp] theorem wp_bind (program : Program σ ω ℓ δ ε α)
    (rest : α → Program σ ω ℓ δ ε β)
    (post : β → Context ω ℓ δ ρ → World σ ω δ ρ → Prop)
    (failed : ε → Context ω ℓ δ ρ → World σ ω δ ρ → Prop)
    (context : Context ω ℓ δ ρ) (world : World σ ω δ ρ) :
    discipline.wp mayDraw (program >>= rest) post failed context world =
      discipline.wp mayDraw program
        (fun value => discipline.wp mayDraw (rest value) post failed)
        failed context world :=
  wp_program_bind program rest post failed context world

theorem wp_run {statement : Statement σ ω ℓ ε α}
    {post : α → Context ω ℓ δ ρ → World σ ω δ ρ → Prop}
    {failed : ε → Context ω ℓ δ ρ → World σ ω δ ρ → Prop}
    {context : Context ω ℓ δ ρ} {world : World σ ω δ ρ} :
    discipline.wp mayDraw (.run statement) post failed context world ↔
      ∀ now, discipline.Rely context world now →
        match statement.run context.now (now.view context) with
        | .ok (value, writes) =>
            post value
              (context.extend
                (statement.locks context.now (now.view context)) writes) now
        | .error error => failed error context now :=
  Iff.rfl

/-- A transaction owes its guarantee once, when it commits. -/
theorem wp_transaction {body : Program σ ω ℓ δ ε α}
    {post : α → Context ω ℓ δ ρ → World σ ω δ ρ → Prop}
    {failed : ε → Context ω ℓ δ ρ → World σ ω δ ρ → Prop}
    {context : Context ω ℓ δ ρ} {world : World σ ω δ ρ} :
    discipline.wp mayDraw (.transaction body) post failed context world ↔
      ∀ now, discipline.Rely context world now →
        discipline.wp mayDraw body
          (fun value context world => ∀ now,
            discipline.Rely context world now →
              discipline.Guarantee context now (now.commit context) ∧
                post value context.release (now.commit context))
          failed { context with now := now.clock } now := by
  simp only [Program.transaction, wp, wp_program_bind]

theorem wp_mapError {rethrow : ε → ε} {program : Program σ ω ℓ δ ε α}
    {post : α → Context ω ℓ δ ρ → World σ ω δ ρ → Prop}
    {failed : ε → Context ω ℓ δ ρ → World σ ω δ ρ → Prop}
    {context : Context ω ℓ δ ρ} {world : World σ ω δ ρ}
    (verified : discipline.wp mayDraw program post
      (fun error => failed (rethrow error)) context world) :
    discipline.wp mayDraw (program.mapError rethrow) post failed
      context world := by
  induction program generalizing context world with
  | done | fail => exact verified
  | start next ih => exact fun now rely => ih (verified now rely)
  | commit next ih =>
      exact fun now rely =>
        ⟨(verified now rely).1, ih (verified now rely).2⟩
  | fresh source next ih =>
      exact fun now rely value allowed unused =>
        ih value (verified now rely value allowed unused)
  | perform statement next ih =>
      intro now rely
      have stepped := verified now rely
      revert stepped
      simp only
      cases statement.run context.now (now.view context) with
      | ok result => exact ih result.1
      | error error => exact id

/-- Consequence rule. -/
theorem wp_mono {program : Program σ ω ℓ δ ε α}
    {post post' : α → Context ω ℓ δ ρ → World σ ω δ ρ → Prop}
    {failed failed' : ε → Context ω ℓ δ ρ → World σ ω δ ρ → Prop}
    {context : Context ω ℓ δ ρ} {world : World σ ω δ ρ}
    (verified : discipline.wp mayDraw program post failed context world)
    (weaker : ∀ value context world, post value context world →
      post' value context world)
    (weakerFailed : ∀ error context world, failed error context world →
      failed' error context world) :
    discipline.wp mayDraw program post' failed' context world := by
  induction program generalizing context world with
  | done value => exact weaker _ _ _ verified
  | fail error => exact weakerFailed _ _ _ verified
  | start next ih => exact fun now rely => ih (verified now rely)
  | commit next ih =>
      exact fun now rely =>
        ⟨(verified now rely).1, ih (verified now rely).2⟩
  | fresh source next ih =>
      exact fun now rely value allowed unused =>
        ih value (verified now rely value allowed unused)
  | perform statement next ih =>
      intro now rely
      have stepped := verified now rely
      revert stepped
      cases statement.run context.now (now.view context) with
      | ok result => exact ih result.1
      | error error => exact weakerFailed _ _ _

/-- The steps of a program never change the request it serves. -/
theorem wp_request {program : Program σ ω ℓ δ ε α}
    {post : α → Context ω ℓ δ ρ → World σ ω δ ρ → Prop}
    {failed : ε → Context ω ℓ δ ρ → World σ ω δ ρ → Prop}
    {context : Context ω ℓ δ ρ} {world : World σ ω δ ρ}
    (verified : discipline.wp mayDraw program post failed context world) :
    discipline.wp mayDraw program
      (fun value later now => later.request = context.request ∧
        post value later now)
      (fun error later now => later.request = context.request ∧
        failed error later now) context world := by
  induction program generalizing context world with
  | done | fail => exact ⟨rfl, verified⟩
  | start next ih => exact fun now rely => ih (verified now rely)
  | commit next ih =>
      exact fun now rely =>
        ⟨(verified now rely).1, ih (verified now rely).2⟩
  | fresh source next ih =>
      exact fun now rely value allowed unused =>
        ih value (verified now rely value allowed unused)
  | perform statement next ih =>
      intro now rely
      have stepped := verified now rely
      revert stepped
      cases statement.run context.now (now.view context) with
      | ok result => exact ih result.1
      | error error => exact fun failure => ⟨rfl, failure⟩

/-- A transaction that returns is in the log. -/
theorem wp_committed {body : Program σ ω ℓ δ ε α}
    {post : α → Context ω ℓ δ ρ → World σ ω δ ρ → Prop}
    {failed : ε → Context ω ℓ δ ρ → World σ ω δ ρ → Prop}
    {context : Context ω ℓ δ ρ} {world : World σ ω δ ρ}
    (verified : discipline.wp mayDraw (.transaction body) post failed context
      world) :
    discipline.wp mayDraw (.transaction body)
      (fun value later now => post value later now ∧
        ∃ commit ∈ now.commits, commit.tid = later.tid)
      failed context world := by
  rw [wp_transaction] at verified ⊢
  intro now rely
  refine wp_mono (verified now rely) ?_ (fun _ _ _ failure => failure)
  intro value later next owed last relyLast
  obtain ⟨guaranteed, returns⟩ := owed last relyLast
  exact ⟨guaranteed, returns, _, List.mem_cons_self, rfl⟩

/-- What the other requests do while this one waits does not invalidate its
verification. -/
theorem wp_rely {program : Program σ ω ℓ δ ε τ}
    {context : Context ω ℓ δ ρ} {world next : World σ ω δ ρ}
    (verified : discipline.wp mayDraw program discipline.Returns
      discipline.Fails context world)
    (inv : discipline.Inv world)
    (rely : discipline.Rely context world next) :
    discipline.wp mayDraw program discipline.Returns discipline.Fails
      context next := by
  cases program with
  | done value =>
      exact discipline.returns_stable verified inv rely.inv rely.keeps
  | fail error =>
      exact discipline.fails_stable verified inv rely.inv rely.keeps
  | start program => exact fun now later => verified now (rely.trans later)
  | commit program => exact fun now later => verified now (rely.trans later)
  | fresh source program =>
      exact fun now later => verified now (rely.trans later)
  | perform statement program =>
      exact fun now later => verified now (rely.trans later)

variable (discipline)

/-- Every request the system serves follows the discipline. -/
def Verifies (system : System σ ω ℓ δ ε ρ τ) : Prop :=
  ∀ request (world : World σ ω δ ρ) tid now, discipline.Inv world →
    system.mayStart world.db request = true →
    discipline.wp system.mayDraw (system.program request) discipline.Returns
      discipline.Fails (.start tid request now) world

/-- Two threads hold neither a lock nor a drawn value against each other. -/
def Apart (left right : Thread σ ω ℓ δ ε ρ τ) : Prop :=
  left.context.Compatible right.context ∧
    ∀ value ∈ left.context.owned, value ∉ right.context.owned

/-- A configuration in which the invariant holds, every request in flight is
still verified, and every two of them are apart. -/
structure Holds (mayDraw : δ → Nat → Bool)
    (config : Config σ ω ℓ δ ε ρ τ) : Prop where
  inv : discipline.Inv config.world
  threads : ∀ thread ∈ config.threads,
    discipline.wp mayDraw thread.program discipline.Returns discipline.Fails
      thread.context config.world
  compatible : config.threads.Pairwise Apart
  drawn : ∀ thread ∈ config.threads, ∀ value ∈ thread.context.owned,
    value ∈ config.world.drawn

variable {discipline}

omit [WriteSet ω σ] in
private theorem apart_symm {left right : Thread σ ω ℓ δ ε ρ τ}
    (apart : Apart left right) : Apart right left :=
  ⟨apart.1.symm, fun value owned other => apart.2 value other owned⟩

/-- Only the order in which the scheduler lists the threads differs. -/
private theorem Holds.middle {world : World σ ω δ ρ}
    {thread : Thread σ ω ℓ δ ε ρ τ}
    {before after : List (Thread σ ω ℓ δ ε ρ τ)} :
    discipline.Holds mayDraw ⟨world, before ++ thread :: after⟩ ↔
      discipline.Holds mayDraw ⟨world, thread :: (before ++ after)⟩ := by
  have members : ∀ candidate, candidate ∈ before ++ thread :: after ↔
      candidate ∈ thread :: (before ++ after) := by
    intro candidate
    simp only [List.mem_append, List.mem_cons]
    tauto
  constructor
  · intro holds
    exact ⟨holds.inv,
      fun candidate member =>
        holds.threads candidate ((members candidate).mpr member),
      (List.pairwise_middle apart_symm).mp holds.compatible,
      fun candidate member =>
        holds.drawn candidate ((members candidate).mpr member)⟩
  · intro holds
    exact ⟨holds.inv,
      fun candidate member =>
        holds.threads candidate ((members candidate).mp member),
      (List.pairwise_middle apart_symm).mpr holds.compatible,
      fun candidate member =>
        holds.drawn candidate ((members candidate).mp member)⟩

/-- A change nobody objects to keeps the requests that wait. -/
private theorem Holds.others {world next : World σ ω δ ρ}
    {others : List (Thread σ ω ℓ δ ε ρ τ)}
    (holds : discipline.Holds mayDraw ⟨world, others⟩)
    (inv : discipline.Inv next)
    (relies : ∀ thread ∈ others,
      discipline.Rely thread.context world next)
    (drawn : ∀ value ∈ world.drawn, value ∈ next.drawn) :
    discipline.Holds mayDraw ⟨next, others⟩ where
  inv := inv
  threads thread member :=
    wp_rely (holds.threads thread member) holds.inv (relies thread member)
  compatible := holds.compatible
  drawn thread member value owned :=
    drawn value (holds.drawn thread member value owned)

private theorem Holds.silent {world next : World σ ω δ ρ}
    {threads : List (Thread σ ω ℓ δ ε ρ τ)}
    (holds : discipline.Holds mayDraw ⟨world, threads⟩)
    (silent : world.Silent next) :
    discipline.Holds mayDraw ⟨next, threads⟩ :=
  holds.others (discipline.inv_silent silent holds.inv)
    (fun _ _ => .ofSilent silent holds.inv) silent.drawn

private theorem Holds.tail {world : World σ ω δ ρ}
    {thread : Thread σ ω ℓ δ ε ρ τ} {others : List (Thread σ ω ℓ δ ε ρ τ)}
    (holds : discipline.Holds mayDraw ⟨world, thread :: others⟩) :
    discipline.Holds mayDraw ⟨world, others⟩ where
  inv := holds.inv
  threads candidate member := holds.threads candidate (.tail _ member)
  compatible := (List.pairwise_cons.mp holds.compatible).2
  drawn candidate member := holds.drawn candidate (.tail _ member)

private theorem Holds.cons {world : World σ ω δ ρ}
    {thread : Thread σ ω ℓ δ ε ρ τ} {others : List (Thread σ ω ℓ δ ε ρ τ)}
    (holds : discipline.Holds mayDraw ⟨world, others⟩)
    (verified : discipline.wp mayDraw thread.program discipline.Returns
      discipline.Fails thread.context world)
    (compatible : ∀ other ∈ others, Apart thread other)
    (drawn : ∀ value ∈ thread.context.owned, value ∈ world.drawn) :
    discipline.Holds mayDraw ⟨world, thread :: others⟩ where
  inv := holds.inv
  threads := by
    intro candidate member
    rcases List.mem_cons.mp member with rfl | later
    · exact verified
    · exact holds.threads candidate later
  compatible := List.pairwise_cons.mpr ⟨compatible, holds.compatible⟩
  drawn := by
    intro candidate member
    rcases List.mem_cons.mp member with rfl | later
    · exact drawn
    · exact holds.drawn candidate later

variable [DecidableEq ℓ]

omit [WriteSet ω σ] in
private theorem compatible_of_available {others : List (Thread σ ω ℓ δ ε ρ τ)}
    {wanted : List (ℓ × LockMode)}
    (free : available (others.flatMap fun thread => thread.context.locks)
      wanted = true)
    {other : Thread σ ω ℓ δ ε ρ τ} (member : other ∈ others)
    {held : ℓ × LockMode} (heldMember : held ∈ wanted)
    {theirs : ℓ × LockMode} (theirsMember : theirs ∈ other.context.locks)
    (same : held.1 = theirs.1) :
    held.2.conflicts theirs.2 = false := by
  simp only [available, List.all_eq_true] at free
  have apart := free held heldMember theirs
    (List.mem_flatMap.mpr ⟨other, member, theirsMember⟩)
  rw [LockMode.conflicts_comm]
  simpa [same] using apart

variable [DecidableEq δ]

/-- The head thread's step keeps the configuration verified. -/
private theorem Holds.advance {world next : World σ ω δ ρ}
    {thread : Thread σ ω ℓ δ ε ρ τ} {others : List (Thread σ ω ℓ δ ε ρ τ)}
    {value : Nat} {stepped : Option (Thread σ ω ℓ δ ε ρ τ)}
    (holds : discipline.Holds mayDraw ⟨world, thread :: others⟩)
    (advanced : thread.advance mayDraw
      (others.flatMap fun other => other.context.locks) value world =
        some (next, stepped)) :
    discipline.Holds mayDraw ⟨next, stepped.toList ++ others⟩ := by
  obtain ⟨context, program⟩ := thread
  have verified := holds.threads _ List.mem_cons_self
  have rely : discipline.Rely context world world := .refl holds.inv
  have apart := (List.pairwise_cons.mp holds.compatible).1
  have drawn := holds.drawn _ List.mem_cons_self
  cases program with
  | done result =>
      simp only [Thread.advance, Option.some.injEq, Prod.mk.injEq] at advanced
      obtain ⟨rfl, rfl⟩ := advanced
      exact holds.tail
  | fail error =>
      simp only [Thread.advance, Option.some.injEq, Prod.mk.injEq] at advanced
      obtain ⟨rfl, rfl⟩ := advanced
      exact holds.tail
  | start program =>
      simp only [Thread.advance, Option.some.injEq, Prod.mk.injEq] at advanced
      obtain ⟨rfl, rfl⟩ := advanced
      exact holds.tail.cons (verified world rely) apart drawn
  | commit program =>
      simp only [Thread.advance, Option.some.injEq, Prod.mk.injEq] at advanced
      obtain ⟨rfl, rfl⟩ := advanced
      obtain ⟨guarantee, rest⟩ := verified world rely
      have waiting : discipline.Holds mayDraw
          ⟨world.commit context, others⟩ :=
        holds.tail.others guarantee.inv
          (fun other member =>
            guarantee.rely (apart other member).1 (apart other member).2)
          (fun _ member => member)
      refine waiting.cons rest ?_ ?_
      · intro other _
        exact ⟨fun held member => by simp [Context.release] at member,
          fun value member => by simp [Context.release] at member⟩
      · intro value member
        simp [Context.release] at member
  | fresh source program =>
      simp only [Thread.advance, Option.ite_none_right_eq_some,
        Option.some.injEq, Prod.mk.injEq] at advanced
      obtain ⟨⟨allowed, unused⟩, rfl, rfl⟩ := advanced
      have silent : world.Silent
          { world with drawn := (source, value) :: world.drawn } :=
        ⟨rfl, rfl, Nat.le_refl _, fun _ member => .tail _ member⟩
      refine (holds.tail.silent silent).cons
        (verified world rely value allowed unused) ?_ ?_
      · intro other member
        refine ⟨(apart other member).1, ?_⟩
        intro candidate owned theirs
        rcases List.mem_cons.mp owned with rfl | earlier
        · exact unused (holds.tail.drawn other member _ theirs)
        · exact (apart other member).2 candidate earlier theirs
      · intro candidate owned
        rcases List.mem_cons.mp owned with rfl | earlier
        · exact List.mem_cons_self
        · exact .tail _ (drawn candidate earlier)
  | perform statement program =>
      have afterwards := verified world rely
      revert afterwards
      simp only [Thread.advance, Option.ite_none_right_eq_some] at advanced
      obtain ⟨free, advanced⟩ := advanced
      cases ran : statement.run context.now (world.view context) with
      | error error =>
          simp only [ran, Option.some.injEq, Prod.mk.injEq] at advanced
          obtain ⟨rfl, rfl⟩ := advanced
          intro afterwards
          exact holds.tail.cons afterwards apart drawn
      | ok result =>
          simp only [ran, Option.some.injEq, Prod.mk.injEq] at advanced
          obtain ⟨rfl, rfl⟩ := advanced
          intro afterwards
          refine holds.tail.cons afterwards ?_ drawn
          intro other member
          refine ⟨?_, (apart other member).2⟩
          intro held heldMember theirs theirsMember same
          rcases List.mem_append.mp heldMember with asked | earlier
          · exact compatible_of_available free member asked theirsMember same
          · exact (apart other member).1 held earlier theirs theirsMember same

theorem Holds.step {system : System σ ω ℓ δ ε ρ τ}
    (verifies : discipline.Verifies system) {choice : Choice ρ}
    {config next : Config σ ω ℓ δ ε ρ τ}
    (holds : discipline.Holds system.mayDraw config)
    (stepped : system.step choice config = some next) :
    discipline.Holds system.mayDraw next := by
  cases choice with
  | arrive request =>
      simp only [System.step, Option.ite_none_right_eq_some,
        Option.some.injEq] at stepped
      obtain ⟨allowed, rfl⟩ := stepped
      have silent : config.world.Silent
          { config.world with nextTid := config.world.nextTid + 1 } :=
        ⟨rfl, rfl, Nat.le_refl _, fun _ member => member⟩
      refine (holds.silent silent).cons
        (verifies request _ _ _ (discipline.inv_silent silent holds.inv)
          allowed) ?_ ?_
      · intro other _
        exact ⟨fun held member => by simp [Context.start] at member,
          fun value member => by simp [Context.start] at member⟩
      · intro value member
        simp [Context.start] at member
  | tick =>
      simp only [System.step, Option.some.injEq] at stepped
      subst stepped
      exact holds.silent ⟨rfl, rfl, Nat.le_succ _, fun _ member => member⟩
  | abort index =>
      simp only [System.step, Option.some.injEq] at stepped
      subst stepped
      have sublist := List.eraseIdx_sublist config.threads index
      exact ⟨holds.inv,
        fun thread member => holds.threads thread (sublist.subset member),
        holds.compatible.sublist sublist,
        fun thread member => holds.drawn thread (sublist.subset member)⟩
  | advance index value =>
      obtain ⟨world, threads⟩ := config
      obtain ⟨nextWorld, nextThreads⟩ := next
      obtain ⟨before, thread, after, moved, split, advanced, moves⟩ :=
        System.step_advance stepped
      simp only at split moves
      rw [split, Holds.middle] at holds
      have progressed := holds.advance advanced
      rw [moves]
      cases moved with
      | none => simpa using progressed
      | some moved =>
          have regrouped : discipline.Holds system.mayDraw
              ⟨nextWorld, before ++ moved :: after⟩ :=
            Holds.middle.mpr progressed
          simpa using regrouped

/-- Rely-guarantee rule: when the invariant holds at the start and every
request follows the discipline, every reachable configuration is verified. -/
theorem holds_of_reachable {system : System σ ω ℓ δ ε ρ τ}
    (verifies : discipline.Verifies system) {world : World σ ω δ ρ}
    (initial : discipline.Inv world) {config : Config σ ω ℓ δ ε ρ τ}
    (reachable : system.Reachable (.idle world) config) :
    discipline.Holds system.mayDraw config := by
  induction reachable with
  | refl =>
      exact ⟨initial, fun _ member => by simp [Config.idle] at member,
        List.Pairwise.nil, fun _ member => by simp [Config.idle] at member⟩
  | step choice _ stepped ih => exact ih.step verifies stepped

end Discipline

end Transaction
