import SaasFoundation.Transaction.System

/-!
# Histories

The log of a run leads from the initial state to the current one, each commit
applied to the state the previous one left.  A property of every reachable
state is an induction over that log: `Leads.induction`.
-/

namespace Transaction

variable {σ ω ℓ δ ε ρ τ : Type}

/-- The committed states of a run, newest first. -/
def World.states (world : World σ ω δ ρ) : List σ :=
  world.db :: world.commits.map (·.before)

/-- Each commit of a log, together with the older ones, satisfies `legal`. -/
def Legal (legal : Commit σ ω ρ → List (Commit σ ω ρ) → Prop) :
    List (Commit σ ω ρ) → Prop
  | [] => True
  | commit :: earlier => legal commit earlier ∧ Legal legal earlier

theorem Legal.mem {legal : Commit σ ω ρ → List (Commit σ ω ρ) → Prop}
    {commits : List (Commit σ ω ρ)} (lawful : Legal legal commits)
    {commit : Commit σ ω ρ} (member : commit ∈ commits) :
    ∃ earlier, commit :: earlier <:+ commits ∧ legal commit earlier := by
  induction commits with
  | nil => cases member
  | cons newest commits ih =>
      rcases List.mem_cons.mp member with rfl | older
      · exact ⟨commits, List.suffix_rfl, lawful.1⟩
      · obtain ⟨earlier, suffix, holds⟩ := ih lawful.2 older
        exact ⟨earlier, suffix.trans (List.suffix_cons newest commits), holds⟩

/-- What holds of every commit of a lawful log can be assumed in an induction
over it. -/
theorem Legal.and {legal : Commit σ ω ρ → List (Commit σ ω ρ) → Prop}
    {holds : Commit σ ω ρ → Prop} {commits : List (Commit σ ω ρ)}
    (lawful : Legal legal commits) (each : ∀ commit ∈ commits, holds commit) :
    Legal (fun commit earlier => legal commit earlier ∧ holds commit)
      commits := by
  induction commits with
  | nil => trivial
  | cons commit earlier ih =>
      rw [List.forall_mem_cons] at each
      exact ⟨⟨lawful.1, each.1⟩, ih lawful.2 each.2⟩

theorem legal_iff {legal : Commit σ ω ρ → List (Commit σ ω ρ) → Prop}
    {commits : List (Commit σ ω ρ)} :
    Legal legal commits ↔ ∀ commit earlier, commit :: earlier <:+ commits →
      legal commit earlier := by
  induction commits with
  | nil => simp [Legal]
  | cons newest commits ih =>
      simp only [Legal, ih, List.suffix_cons_iff]
      constructor
      · rintro ⟨first, others⟩ commit earlier (same | deeper)
        · cases same
          exact first
        · exact others commit earlier deeper
      · intro each
        exact ⟨each newest commits (.inl rfl),
          fun commit earlier deeper => each commit earlier (.inr deeper)⟩

theorem Legal.suffix {legal : Commit σ ω ρ → List (Commit σ ω ρ) → Prop}
    {commits part : List (Commit σ ω ρ)} (lawful : Legal legal commits)
    (suffix : part <:+ commits) : Legal legal part :=
  legal_iff.mpr fun commit earlier inside =>
    legal_iff.mp lawful commit earlier (inside.trans suffix)

variable [WriteSet ω σ]

/-- The commits of the log, oldest first, lead from `initial` to a state. -/
def Leads (initial : σ) : List (Commit σ ω ρ) → σ → Prop
  | [], state => state = initial
  | commit :: earlier, state =>
      state = commit.after ∧ Leads initial earlier commit.before

/-- What holds initially and is kept by every legal commit holds of the
current state. -/
theorem Leads.induction
    {legal : Commit σ ω ρ → List (Commit σ ω ρ) → Prop}
    {motive : List (Commit σ ω ρ) → σ → Prop} {initial state : σ}
    {commits : List (Commit σ ω ρ)} (leads : Leads initial commits state)
    (lawful : Legal legal commits) (base : motive [] initial)
    (step : ∀ commit earlier, Leads initial earlier commit.before →
      motive earlier commit.before → legal commit earlier →
      motive (commit :: earlier) commit.after) :
    motive commits state := by
  induction commits generalizing state with
  | nil =>
      cases leads
      exact base
  | cons commit earlier ih =>
      obtain ⟨rfl, before⟩ := leads
      exact step commit earlier before (ih before lawful.2) lawful.1

theorem Leads.unique {initial first second : σ} {commits : List (Commit σ ω ρ)}
    (left : Leads initial commits first) (right : Leads initial commits second) :
    first = second := by
  cases commits with
  | nil => exact left.trans right.symm
  | cons commit earlier => exact left.1.trans right.1.symm

theorem Leads.of_suffix {initial state : σ} {commits : List (Commit σ ω ρ)}
    (leads : Leads initial commits state) {commit : Commit σ ω ρ}
    {earlier : List (Commit σ ω ρ)} (suffix : commit :: earlier <:+ commits) :
    Leads initial earlier commit.before := by
  induction commits generalizing state with
  | nil => simp at suffix
  | cons newest older ih =>
      rcases List.suffix_cons_iff.mp suffix with same | deeper
      · cases same
        exact leads.2
      · exact ih leads.2 deeper

/-- Requests in flight carry different numbers, a commit in the log is by the
request that carries its number, and a request that has committed is there. -/
structure Numbered (world : World σ ω δ ρ)
    (threads : List (Thread σ ω ℓ δ ε ρ τ)) : Prop where
  distinct : threads.Pairwise fun left right =>
    left.context.tid ≠ right.context.tid
  threadBound : ∀ thread ∈ threads, thread.context.tid < world.nextTid
  commitBound : ∀ commit ∈ world.commits, commit.tid < world.nextTid
  unseen : ∀ thread ∈ threads, thread.context.commits = 0 →
    ∀ commit ∈ world.commits, commit.tid ≠ thread.context.tid
  requests : ∀ thread ∈ threads, ∀ commit ∈ world.commits,
    commit.tid = thread.context.tid → commit.request = thread.context.request
  logged : ∀ thread ∈ threads, thread.context.commits ≠ 0 →
    ∃ commit ∈ world.commits, commit.tid = thread.context.tid

namespace Numbered

variable {world next : World σ ω δ ρ} {thread moved : Thread σ ω ℓ δ ε ρ τ}
  {before after others : List (Thread σ ω ℓ δ ε ρ τ)}

omit [WriteSet ω σ] in
private theorem middle :
    Numbered world (before ++ thread :: after) ↔
      Numbered world (thread :: (before ++ after)) := by
  have members : ∀ candidate, candidate ∈ before ++ thread :: after ↔
      candidate ∈ thread :: (before ++ after) := by
    intro candidate
    simp only [List.mem_append, List.mem_cons]
    tauto
  constructor
  · intro numbered
    exact ⟨(List.pairwise_middle Ne.symm).mp numbered.distinct,
      fun other member =>
        numbered.threadBound other ((members other).mpr member),
      numbered.commitBound,
      fun other member => numbered.unseen other ((members other).mpr member),
      fun other member => numbered.requests other ((members other).mpr member),
      fun other member => numbered.logged other ((members other).mpr member)⟩
  · intro numbered
    exact ⟨(List.pairwise_middle Ne.symm).mpr numbered.distinct,
      fun other member =>
        numbered.threadBound other ((members other).mp member),
      numbered.commitBound,
      fun other member => numbered.unseen other ((members other).mp member),
      fun other member => numbered.requests other ((members other).mp member),
      fun other member => numbered.logged other ((members other).mp member)⟩

omit [WriteSet ω σ] in
private theorem sublist {all fewer : List (Thread σ ω ℓ δ ε ρ τ)}
    (numbered : Numbered world all) (part : fewer.Sublist all) :
    Numbered world fewer where
  distinct := numbered.distinct.sublist part
  threadBound thread member := numbered.threadBound thread (part.subset member)
  commitBound := numbered.commitBound
  unseen thread member := numbered.unseen thread (part.subset member)
  requests thread member := numbered.requests thread (part.subset member)
  logged thread member := numbered.logged thread (part.subset member)

omit [WriteSet ω σ] in
/-- A step that does not commit keeps the log and the numbers. -/
private theorem quiet (numbered : Numbered world (thread :: others))
    (log : next.commits = world.commits) (bound : next.nextTid = world.nextTid)
    (tid : moved.context.tid = thread.context.tid)
    (request : moved.context.request = thread.context.request)
    (commits : moved.context.commits = thread.context.commits) :
    Numbered next (moved :: others) := by
  obtain ⟨distinct, threadBound, commitBound, unseen, requests, logged⟩ := numbered
  rw [List.forall_mem_cons] at threadBound unseen requests logged
  rw [List.pairwise_cons] at distinct
  refine ⟨?_, ?_, ?_, ?_, ?_, ?_⟩
  · exact List.pairwise_cons.mpr ⟨tid ▸ distinct.1, distinct.2⟩
  · rw [List.forall_mem_cons, bound, tid]
    exact threadBound
  · rw [log, bound]
    exact commitBound
  · rw [List.forall_mem_cons, log, tid, commits]
    exact unseen
  · rw [List.forall_mem_cons, log, tid, request]
    exact requests
  · rw [List.forall_mem_cons, log, tid, commits]
    exact logged

private theorem commit (numbered : Numbered world (thread :: others))
    {program : Program σ ω ℓ δ ε τ} :
    Numbered (world.commit thread.context)
      ({ context := thread.context.release, program } :: others) := by
  obtain ⟨distinct, threadBound, commitBound, unseen, requests, logged⟩ := numbered
  rw [List.forall_mem_cons] at threadBound unseen requests logged
  rw [List.pairwise_cons] at distinct
  refine ⟨?_, ?_, ?_, ?_, ?_, ?_⟩
  · exact List.pairwise_cons.mpr distinct
  · exact List.forall_mem_cons.mpr threadBound
  · exact List.forall_mem_cons.mpr ⟨threadBound.1, commitBound⟩
  · rw [List.forall_mem_cons]
    constructor
    · exact fun none => absurd none (Nat.succ_ne_zero _)
    · intro other member none
      exact List.forall_mem_cons.mpr
        ⟨distinct.1 other member, unseen.2 other member none⟩
  · rw [List.forall_mem_cons]
    constructor
    · exact List.forall_mem_cons.mpr ⟨fun _ => rfl, requests.1⟩
    · intro other member
      exact List.forall_mem_cons.mpr
        ⟨fun same => absurd same (distinct.1 other member),
          requests.2 other member⟩
  · rw [List.forall_mem_cons]
    constructor
    · exact fun _ => ⟨_, List.mem_cons_self, rfl⟩
    · intro other member committed
      obtain ⟨commit, logged, same⟩ := logged.2 other member committed
      exact ⟨commit, .tail _ logged, same⟩

variable [DecidableEq ℓ] [DecidableEq δ]

private theorem advance {mayDraw : δ → Nat → Bool}
    {held : List (ℓ × LockMode)} {value : Nat}
    {stepped : Option (Thread σ ω ℓ δ ε ρ τ)}
    (numbered : Numbered world (thread :: others))
    (advanced : thread.advance mayDraw held value world =
      some (next, stepped)) :
    Numbered next (stepped.toList ++ others) := by
  obtain ⟨context, program⟩ := thread
  cases program with
  | done result | fail error =>
      simp only [Thread.advance, Option.some.injEq, Prod.mk.injEq] at advanced
      obtain ⟨rfl, rfl⟩ := advanced
      exact numbered.sublist (List.sublist_cons_self _ _)
  | start program =>
      simp only [Thread.advance, Option.some.injEq, Prod.mk.injEq] at advanced
      obtain ⟨rfl, rfl⟩ := advanced
      exact numbered.quiet rfl rfl rfl rfl rfl
  | commit program =>
      simp only [Thread.advance, Option.some.injEq, Prod.mk.injEq] at advanced
      obtain ⟨rfl, rfl⟩ := advanced
      exact numbered.commit
  | fresh source program =>
      simp only [Thread.advance, Option.ite_none_right_eq_some,
        Option.some.injEq, Prod.mk.injEq] at advanced
      obtain ⟨_, rfl, rfl⟩ := advanced
      exact numbered.quiet rfl rfl rfl rfl rfl
  | perform statement program =>
      simp only [Thread.advance, Option.ite_none_right_eq_some] at advanced
      obtain ⟨_, advanced⟩ := advanced
      cases ran : statement.run context.now (world.view context) with
      | error error =>
          simp only [ran, Option.some.injEq, Prod.mk.injEq] at advanced
          obtain ⟨rfl, rfl⟩ := advanced
          exact numbered.quiet rfl rfl rfl rfl rfl
      | ok result =>
          simp only [ran, Option.some.injEq, Prod.mk.injEq] at advanced
          obtain ⟨rfl, rfl⟩ := advanced
          exact numbered.quiet rfl rfl rfl rfl rfl

omit [DecidableEq ℓ] [DecidableEq δ] in
private theorem arrive (numbered : Numbered world others) {request : ρ}
    {program : Program σ ω ℓ δ ε τ} :
    Numbered { world with nextTid := world.nextTid + 1 }
      ({ context := .start world.nextTid request world.clock, program } ::
        others) := by
  obtain ⟨distinct, threadBound, commitBound, unseen, requests, logged⟩ := numbered
  refine ⟨?_, ?_, ?_, ?_, ?_, ?_⟩
  · refine List.pairwise_cons.mpr ⟨fun other member => ?_, distinct⟩
    exact Nat.ne_of_gt (threadBound other member)
  · exact List.forall_mem_cons.mpr ⟨Nat.lt_succ_self _, fun other member =>
      Nat.lt_succ_of_lt (threadBound other member)⟩
  · exact fun commit member =>
      Nat.lt_succ_of_lt (commitBound commit member)
  · exact List.forall_mem_cons.mpr
      ⟨fun _ commit member => Nat.ne_of_lt (commitBound commit member),
        unseen⟩
  · exact List.forall_mem_cons.mpr
      ⟨fun commit member same => 
        absurd same (Nat.ne_of_lt (commitBound commit member)), requests⟩
  · exact List.forall_mem_cons.mpr ⟨fun some => absurd rfl some, logged⟩

end Numbered

namespace System.Reachable

variable [DecidableEq ℓ] [DecidableEq δ] {system : System σ ω ℓ δ ε ρ τ}
  {world : World σ ω δ ρ} {config : Config σ ω ℓ δ ε ρ τ}

theorem numbered (reachable : system.Reachable (.idle world) config)
    (empty : world.commits = []) : Numbered config.world config.threads := by
  induction reachable with
  | refl =>
      exact ⟨List.Pairwise.nil, by simp [Config.idle], by simp [Config.idle, empty],
        by simp [Config.idle], by simp [Config.idle], by simp [Config.idle]⟩
  | @step config next choice _ stepped ih =>
      cases choice with
      | arrive request =>
          simp only [System.step, Option.ite_none_right_eq_some,
            Option.some.injEq] at stepped
          obtain ⟨_, rfl⟩ := stepped
          exact ih.arrive
      | tick =>
          simp only [System.step, Option.some.injEq] at stepped
          subst stepped
          exact ⟨ih.distinct, ih.threadBound, ih.commitBound, ih.unseen,
            ih.requests, ih.logged⟩
      | abort index =>
          simp only [System.step, Option.some.injEq] at stepped
          subst stepped
          exact ih.sublist (List.eraseIdx_sublist _ _)
      | advance index value =>
          obtain ⟨before, thread, after, moved, split, advanced, threads⟩ :=
            System.step_advance stepped
          rw [split, Numbered.middle] at ih
          have numbered := ih.advance advanced
          rw [threads]
          cases moved with
          | none => simpa using numbered
          | some moved =>
              have regrouped : Numbered next.world
                  (before ++ moved :: after) :=
                Numbered.middle.mpr numbered
              simpa using regrouped

/-- The log accounts for every change of the committed state. -/
theorem leads (reachable : system.Reachable (.idle world) config)
    (empty : world.commits = []) :
    Leads world.db config.world.commits config.world.db := by
  induction reachable with
  | refl => simp [Config.idle, empty, Leads]
  | @step config next choice _ stepped ih =>
      cases choice with
      | arrive request =>
          simp only [System.step, Option.ite_none_right_eq_some,
            Option.some.injEq] at stepped
          obtain ⟨_, rfl⟩ := stepped
          exact ih
      | tick =>
          simp only [System.step, Option.some.injEq] at stepped
          subst stepped
          exact ih
      | abort index =>
          simp only [System.step, Option.some.injEq] at stepped
          subst stepped
          exact ih
      | advance index value =>
          obtain ⟨before, thread, after, moved, _, advanced, _⟩ :=
            System.step_advance stepped
          rcases thread.advance_world advanced with silent | committed
          · rw [silent.db, silent.commits]
            exact ih
          · rw [committed]
            exact ⟨rfl, ih⟩

/-- What holds of a request that arrives and is kept by its steps holds of
every request in flight. -/
theorem each {motive : Thread σ ω ℓ δ ε ρ τ → Prop}
    (reachable : system.Reachable (.idle world) config)
    (arrives : ∀ state tid request now, system.mayStart state request = true →
      motive ⟨.start tid request now, system.program request⟩)
    (advances : ∀ held value (world next : World σ ω δ ρ)
        (thread moved : Thread σ ω ℓ δ ε ρ τ),
      motive thread → thread.advance system.mayDraw held value world =
        some (next, some moved) → motive moved) :
    ∀ thread ∈ config.threads, motive thread := by
  induction reachable with
  | refl => simp [Config.idle]
  | @step config next choice _ stepped ih =>
      cases choice with
      | arrive request =>
          simp only [System.step, Option.ite_none_right_eq_some,
            Option.some.injEq] at stepped
          obtain ⟨starts, rfl⟩ := stepped
          exact List.forall_mem_cons.mpr ⟨arrives _ _ _ _ starts, ih⟩
      | tick =>
          simp only [System.step, Option.some.injEq] at stepped
          subst stepped
          exact ih
      | abort index =>
          simp only [System.step, Option.some.injEq] at stepped
          subst stepped
          exact fun thread member => ih thread (List.mem_of_mem_eraseIdx member)
      | advance index value =>
          obtain ⟨before, thread, after, moved, split, advanced, kept⟩ :=
            System.step_advance stepped
          intro other member
          rw [kept, List.mem_append, List.mem_append] at member
          rcases member with (left | this) | right
          · exact ih other (by simp [split, left])
          · obtain rfl := Option.mem_toList.mp this
            exact advances _ _ _ _ _ _ (ih thread (by simp [split])) advanced
          · exact ih other (by simp [split, right])

/-- A step of a run extends the log, if it changes it. -/
theorem log {first last : Config σ ω ℓ δ ε ρ τ}
    (reachable : system.Reachable first last) :
    first.world.commits <:+ last.world.commits := by
  induction reachable with
  | refl => exact List.suffix_rfl
  | @step config next choice _ stepped ih =>
      refine ih.trans ?_
      cases choice with
      | arrive request =>
          simp only [System.step, Option.ite_none_right_eq_some,
            Option.some.injEq] at stepped
          obtain ⟨_, rfl⟩ := stepped
          exact List.suffix_rfl
      | tick | abort =>
          simp only [System.step, Option.some.injEq] at stepped
          subst stepped
          exact List.suffix_rfl
      | advance index value =>
          obtain ⟨_, thread, _, _, _, advanced, _⟩ :=
            System.step_advance stepped
          rcases thread.advance_world advanced with silent | committed
          · exact ⟨[], silent.commits.symm⟩
          · rw [committed]
            exact List.suffix_cons _ _

/-- Requests in flight and in the log were let in. -/
theorem admitted {motive : ρ → Prop}
    (reachable : system.Reachable (.idle world) config)
    (empty : world.commits = [])
    (lets : ∀ state request, system.mayStart state request = true →
      motive request) :
    (∀ thread ∈ config.threads, motive thread.context.request) ∧
      ∀ commit ∈ config.world.commits, motive commit.request := by
  have threads {config : Config σ ω ℓ δ ε ρ τ}
      (reachable : system.Reachable (.idle world) config) :
      ∀ thread ∈ config.threads, motive thread.context.request :=
    reachable.each (fun state _ request _ starts => lets state request starts)
      fun _ _ _ _ thread _ own advanced =>
        thread.advance_request advanced ▸ own
  refine ⟨threads reachable, ?_⟩
  induction reachable with
  | refl => simp [Config.idle, empty]
  | @step config next choice earlier stepped ih =>
      cases choice with
      | arrive request =>
          simp only [System.step, Option.ite_none_right_eq_some,
            Option.some.injEq] at stepped
          obtain ⟨_, rfl⟩ := stepped
          exact ih
      | tick | abort =>
          simp only [System.step, Option.some.injEq] at stepped
          subst stepped
          exact ih
      | advance index value =>
          obtain ⟨before, thread, after, moved, split, advanced, _⟩ :=
            System.step_advance stepped
          rcases thread.advance_world advanced with silent | committed
          · exact silent.commits ▸ ih
          · rw [committed]
            have own := threads earlier thread (by simp [split])
            exact List.forall_mem_cons.mpr ⟨own, ih⟩

/-- Every state a commit was applied to is the state of an earlier moment of
the run. -/
theorem before (reachable : system.Reachable (.idle world) config)
    (empty : world.commits = []) {commit : Commit σ ω ρ}
    (member : commit ∈ config.world.commits) :
    ∃ earlier, system.Reachable (.idle world) earlier ∧
      earlier.world.db = commit.before := by
  induction reachable with
  | refl => simp [Config.idle, empty] at member
  | @step config next choice earlier stepped ih =>
      cases choice with
      | arrive request =>
          simp only [System.step, Option.ite_none_right_eq_some,
            Option.some.injEq] at stepped
          obtain ⟨_, rfl⟩ := stepped
          exact ih member
      | tick =>
          simp only [System.step, Option.some.injEq] at stepped
          subst stepped
          exact ih member
      | abort index =>
          simp only [System.step, Option.some.injEq] at stepped
          subst stepped
          exact ih member
      | advance index value =>
          obtain ⟨_, thread, _, moved, _, advanced, _⟩ :=
            System.step_advance stepped
          rcases thread.advance_world advanced with silent | committed
          · exact ih (silent.commits ▸ member)
          · rw [committed] at member
            rcases List.mem_cons.mp member with rfl | older
            · exact ⟨config, earlier, rfl⟩
            · exact ih older

end System.Reachable

end Transaction
