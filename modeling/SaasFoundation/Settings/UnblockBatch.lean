import SaasFoundation.Settings.UnblockResets

/-!
# The batch of one `reconcile`

The loop of `reconcile` awaits one `process` after the other and catches
nothing, so the first one that throws ends it.  `watched` follows one run of a
worker in any interleaving and notes which jobs it has started, and which of
them have found their request locked.
-/

namespace SaasFoundation

open Relational RedisService

namespace LoginUnblock

variable {config : RuntimeConfig} {mode : RedisMode} {sha256 : String → String}
  {lag : Int} {before after state : State}

/-- The requests a run has read, the jobs it has started for them so far, and
the jobs that have found a request locked. -/
structure Batch where
  requests : List Uuid
  jobs : List Nat
  skipped : List Nat

def Batch.read (state : State) : Batch :=
  { requests := state.oldest, jobs := [], skipped := [] }

def Batch.observe (worker : Nat) (event : Event) (state : State)
    (batch : Batch) : Batch :=
  match event with
  | .worker id (.process job) =>
      if id = worker then { batch with jobs := batch.jobs ++ [job] } else batch
  | .job id .select =>
      match state.jobs.find id with
      | some job =>
          if state.Locked job.request then
            { batch with skipped := id :: batch.skipped }
          else batch
      | none => batch
  | _ => batch

/-- The worker reads a new batch. -/
def Event.restarts (worker : Nat) : Event → Bool
  | .worker id .reconcile => id = worker
  | _ => false

variable (config mode sha256 lag) in
/-- One run of a worker, with everything that happens meanwhile. -/
def watched (worker : Nat) : Machine (State × Batch) Event where
  step event pair :=
    if event.restarts worker then none
    else
      ((machine config mode sha256 lag).step event pair.1).map fun after =>
        (after, pair.2.observe worker event pair.1)

/-- The request of a job. -/
def State.asked (state : State) (job : Nat) : Option Uuid :=
  (state.jobs.find job).map Job.request

def State.outcome (state : State) (job : Nat) : Option Outcome :=
  match (state.jobs.find job).map Job.stage with
  | some (.ended outcome) => some outcome
  | _ => none

def Completed (state : State) (request : Uuid) : Prop :=
  ∃ row ∈ state.requests, row.id = request ∧ row.completedAt ≠ none

instance (state : State) (request : Uuid) :
    Decidable (Completed state request) :=
  inferInstanceAs (Decidable (∃ row ∈ state.requests, _))

/-- Every request of the batch has been attempted in order, and completed
unless it was locked or its own processing has failed. -/
structure Worked (batch : Batch) (state : State) : Prop where
  attempts : batch.jobs.map state.asked = batch.requests.map some
  completes : ∀ job ∈ batch.jobs, state.outcome job ≠ some .threw →
    job ∉ batch.skipped → ∀ request ∈ state.asked job, Completed state request

/-- A job keeps its request, and its outcome once it has one. -/
structure JobKept (old new : Job) : Prop where
  id : new.id = old.id
  request : new.request = old.request
  ended : ∀ outcome, old.stage = .ended outcome → new.stage = .ended outcome

theorem JobKept.refl (job : Job) : JobKept job job :=
  ⟨rfl, rfl, fun _ ended => ended⟩

theorem JobKept.put {jobs : Table Job} {old new job : Job}
    (kept : JobKept old new) (member : old ∈ jobs) (listed : job ∈ jobs) :
    ∃ found ∈ jobs.put new, JobKept job found := by
  by_cases same : job.id = new.id
  · obtain rfl := Table.eq_of_key listed member (same.trans kept.id)
    exact ⟨new, Table.mem_put.mpr (.inl rfl), kept⟩
  · exact ⟨job, Table.mem_put.mpr (.inr ⟨listed, same⟩), .refl job⟩

theorem JobMove.kept {job : Job} {step : JobStep}
    (moved : JobMove config lag before job step after) :
    ∃ new, after.jobs = before.jobs.put new ∧ JobKept job new := by
  cases moved with
  | skip stage | already stage | lock stage | tooOld stage | send stage
    | reset stage | release acknowledged stage | complete acknowledged stage
    | expire acknowledged stage =>
      refine ⟨_, rfl, rfl, rfl, fun outcome ended => ?_⟩
      rw [stage] at ended
      cases ended
  | execute => exact ⟨_, rfl, rfl, rfl, fun _ ended => ended⟩
  | statement inner follows =>
      refine ⟨_, rfl, rfl, rfl, fun outcome ended => ?_⟩
      rw [ended] at inner
      exact inner.elim
  | fail running =>
      exact ⟨_, rfl, rfl, rfl, fun outcome ended => absurd ended (running outcome)⟩

theorem jobs_kept (transition : Transition config lag before after) :
    ∀ job ∈ before.jobs, ∃ found ∈ after.jobs, JobKept job found := by
  intro job listed
  have started {new : Job} (absent : before.jobs.find new.id = none) :
      ∃ found ∈ before.jobs.put new, JobKept job found := by
    refine ⟨job, Table.mem_put.mpr (.inr ⟨listed, ?_⟩), .refl job⟩
    exact Table.find_eq_none.mp absent job listed
  cases transition with
  | attempt | unblock => exact ⟨job, listed, .refl job⟩
  | worker moved =>
      cases moved with
      | only => exact ⟨job, listed, .refl job⟩
      | start request worker absent => exact started absent
  | call member moved =>
      cases moved with
      | process stage absent => exact started absent
      | _ => exact ⟨job, listed, .refl job⟩
  | job member moved =>
      obtain ⟨new, jobs, kept⟩ := moved.kept
      rw [jobs]
      exact kept.put member listed

theorem asked_eq_some {job : Nat} {request : Uuid} :
    state.asked job = some request ↔
      ∃ row ∈ state.jobs, row.id = job ∧ row.request = request := by
  rw [State.asked, Option.map_eq_some_iff]
  constructor
  · rintro ⟨row, found, same⟩
    obtain ⟨member, id⟩ := Table.find_eq_some.mp found
    exact ⟨row, member, id, same⟩
  · rintro ⟨row, member, rfl, same⟩
    exact ⟨row, Table.find_key member, same⟩

theorem outcome_eq_some {job : Nat} {outcome : Outcome} :
    state.outcome job = some outcome ↔
      ∃ row ∈ state.jobs, row.id = job ∧ row.stage = .ended outcome := by
  unfold State.outcome
  constructor
  · intro same
    split at same
    · rename_i found
      obtain ⟨row, known, ended⟩ := Option.map_eq_some_iff.mp found
      obtain ⟨member, id⟩ := Table.find_eq_some.mp known
      exact ⟨row, member, id, ended.trans (congrArg _ (Option.some.inj same))⟩
    · cases same
  · rintro ⟨row, member, rfl, ended⟩
    have found : state.jobs.find row.id = some row := Table.find_key member
    rw [found, Option.map_some, ended]

theorem asked_kept (transition : Transition config lag before after)
    {job : Nat} {request : Uuid} (asked : before.asked job = some request) :
    after.asked job = some request := by
  obtain ⟨row, member, rfl, rfl⟩ := asked_eq_some.mp asked
  obtain ⟨found, listed, kept⟩ := jobs_kept transition row member
  exact asked_eq_some.mpr ⟨found, listed, kept.id, kept.request⟩

theorem outcome_kept (transition : Transition config lag before after)
    {job : Nat} {outcome : Outcome}
    (ended : before.outcome job = some outcome) :
    after.outcome job = some outcome := by
  obtain ⟨row, member, rfl, stage⟩ := outcome_eq_some.mp ended
  obtain ⟨found, listed, kept⟩ := jobs_kept transition row member
  exact outcome_eq_some.mpr ⟨found, listed, kept.id, kept.ended outcome stage⟩

theorem completed_put {requests : Table UnblockRequest} {row : UnblockRequest}
    {moment : Int} {request : Uuid}
    (completed : ∃ row ∈ requests, row.id = request ∧ row.completedAt ≠ none) :
    ∃ found ∈ requests.put { row with completedAt := some moment },
      found.id = request ∧ found.completedAt ≠ none := by
  obtain ⟨old, stored, rfl, done⟩ := completed
  by_cases same : old.id = row.id
  · exact ⟨_, Table.mem_put.mpr (.inl rfl), same.symm, Option.some_ne_none _⟩
  · exact ⟨old, Table.mem_put.mpr (.inr ⟨stored, same⟩), rfl, done⟩

theorem completed_kept (stored : Stored before)
    (transition : Transition config lag before after) {request : Uuid}
    (completed : Completed before request) : Completed after request := by
  cases transition with
  | attempt | unblock => exact completed
  | worker moved => cases moved <;> exact completed
  | job member moved =>
      cases moved with
      | complete | expire => exact completed_put completed
      | _ => exact completed
  | call member moved =>
      cases moved with
      | store acknowledged stage =>
          have held := stored.calls _ member
          rw [stage] at held
          obtain ⟨old, known, same, done⟩ := completed
          refine ⟨old, Table.mem_put.mpr (.inr ⟨known, fun ids => ?_⟩), same, done⟩
          exact Table.find_eq_none.mp held.2.1 old known ids
      | _ => exact completed

def Accounted (state : State) (skipped : List Nat) (job : Job) : Prop :=
  match job.stage with
  | .already => Completed state job.request
  | .ended (.returned _) => Completed state job.request ∨ job.id ∈ skipped
  | _ => True

theorem Accounted.mono {skipped more : List Nat} {job : Job}
    (accounted : Accounted before skipped job)
    (completed : Completed before job.request → Completed after job.request)
    (grows : skipped ⊆ more) : Accounted after more job := by
  unfold Accounted at accounted ⊢
  split
  · rename_i stage
    rw [stage] at accounted
    exact completed accounted
  · rename_i stage
    rw [stage] at accounted
    exact accounted.imp completed fun listed => grows listed
  · trivial

/-- The job that moves; a request is passed over only when it is locked. -/
theorem accounted_move {job : Job} {step : JobStep} {skipped : List Nat}
    (moved : JobMove config lag before job step after)
    (known : ∃ row, before.requests.find job.request = some row)
    (accounted : Accounted before skipped job)
    (noted : step = .select → before.Locked job.request → job.id ∈ skipped) :
    ∀ new ∈ after.jobs, new.id = job.id → Accounted after skipped new := by
  have put {new next : Job} {jobs : Table Job} (listed : next ∈ jobs.put new)
      (same : next.id = new.id) : next = new := by
    rcases Table.mem_put.mp listed with rfl | ⟨_, apart⟩
    · rfl
    · exact absurd same apart
  cases moved with
  | skip stage busy =>
      intro new listed same
      obtain rfl := put listed same
      rcases busy with missing | locked
      · obtain ⟨row, found⟩ := known
        rw [missing] at found
        cases found
      · exact .inr (noted rfl locked)
  | already stage found free completed =>
      intro new listed same
      obtain rfl := put listed same
      obtain ⟨stored, id⟩ := Table.find_eq_some.mp found
      exact ⟨_, stored, id, completed⟩
  | lock | tooOld | send | reset | fail =>
      intro new listed same
      obtain rfl := put listed same
      trivial
  | execute =>
      intro new listed same
      obtain rfl := put listed same
      exact accounted
  | statement inner follows =>
      intro new listed same
      obtain rfl := put listed same
      rename_i next
      cases stage : job.stage <;> rw [stage] at inner follows <;>
        first
        | exact inner.elim
        | (cases follows; trivial)
  | release acknowledged stage =>
      intro new listed same
      obtain rfl := put listed same
      unfold Accounted at accounted
      rw [stage] at accounted
      cases acknowledged with
      | true => exact .inl accounted
      | false => trivial
  | complete acknowledged stage found | expire acknowledged stage found =>
      intro new listed same
      obtain rfl := put listed same
      cases acknowledged with
      | true =>
          exact .inl ⟨_, Table.mem_put.mpr (.inl rfl),
            (Table.find_eq_some.mp found).2, Option.some_ne_none _⟩
      | false => trivial

theorem accounted_others {skipped more : List Nat} {job : Job}
    (stored : Stored before) (transition : Transition config lag before after)
    (accounted : Accounted before skipped job) (grows : skipped ⊆ more) :
    Accounted after more job :=
  accounted.mono (completed_kept stored transition) grows

/-- Where the loop stands: between two requests, in one, or at its end after
one has thrown.  The jobs before that have returned. -/
inductive Loop (state : State) (batch : Batch) (id : Nat) : Worker → Prop where
  | waiting {rest : List Uuid}
      (split : batch.jobs.map state.asked ++ rest.map some =
        batch.requests.map some)
      (returned : ∀ job ∈ batch.jobs, ∃ value,
        state.outcome job = some (.returned value)) :
      Loop state batch id { id, pending := rest, job := none }
  | processing {done : List Nat} {job : Nat} {rest : List Uuid}
      (jobs : batch.jobs = done ++ [job])
      (split : batch.jobs.map state.asked ++ rest.map some =
        batch.requests.map some)
      (returned : ∀ job ∈ done, ∃ value,
        state.outcome job = some (.returned value)) :
      Loop state batch id { id, pending := rest, job := some job }
  | stopped {done : List Nat} {job : Nat} {rest : List Uuid}
      (jobs : batch.jobs = done ++ [job])
      (split : batch.jobs.map state.asked ++ rest.map some =
        batch.requests.map some)
      (returned : ∀ job ∈ done, ∃ value,
        state.outcome job = some (.returned value))
      (threw : state.outcome job = some .threw) :
      Loop state batch id { id, pending := [], job := none }

theorem map_asked_kept (transition : Transition config lag before after)
    {jobs : List Nat} {rest requests : List Uuid}
    (split : jobs.map before.asked ++ rest.map some = requests.map some) :
    jobs.map after.asked ++ rest.map some = requests.map some := by
  rw [← split]
  refine congrArg (· ++ rest.map some) (List.map_congr_left fun job listed => ?_)
  have member : before.asked job ∈ requests.map some := by
    rw [← split]
    exact List.mem_append_left _ (List.mem_map_of_mem listed)
  obtain ⟨request, _, same⟩ := List.mem_map.mp member
  rw [← same]
  exact asked_kept transition same.symm

theorem Loop.kept {batch : Batch} {id : Nat} {worker : Worker}
    (loop : Loop before batch id worker)
    (transition : Transition config lag before after) :
    Loop after batch id worker := by
  have stays {jobs : List Nat} (returned : ∀ job ∈ jobs, ∃ value,
      before.outcome job = some (.returned value)) :
      ∀ job ∈ jobs, ∃ value, after.outcome job = some (.returned value) := by
    intro job listed
    obtain ⟨value, ended⟩ := returned job listed
    exact ⟨value, outcome_kept transition ended⟩
  cases loop with
  | waiting split returned =>
      exact .waiting (map_asked_kept transition split) (stays returned)
  | processing jobs split returned =>
      exact .processing jobs (map_asked_kept transition split) (stays returned)
  | stopped jobs split returned threw =>
      exact .stopped jobs (map_asked_kept transition split) (stays returned)
        (outcome_kept transition threw)

/-- What `watched` keeps. -/
structure Watched (config : RuntimeConfig) (id : Nat) (state : State)
    (batch : Batch) : Prop where
  kept : Kept config state
  distinct : batch.requests.Nodup
  known : ∀ request ∈ batch.requests, ∃ row ∈ state.requests, row.id = request
  loop : ∃ worker, state.workers.find id = some worker ∧
    Loop state batch id worker
  accounted : ∀ job ∈ state.jobs, job.id ∈ batch.jobs →
    Accounted state batch.skipped job

/-- The requests of the batch are in the order of the jobs. -/
theorem Loop.asked {batch : Batch} {id : Nat} {worker : Worker}
    (loop : Loop state batch id worker) :
    ∃ rest : List Uuid, batch.jobs.map state.asked ++ rest.map some =
      batch.requests.map some := by
  cases loop with
  | waiting split returned => exact ⟨_, split⟩
  | processing jobs split returned => exact ⟨_, split⟩
  | stopped jobs split returned threw => exact ⟨_, split⟩

theorem Watched.asked {batch : Batch} {id job : Nat}
    (watched : Watched config id state batch) (listed : job ∈ batch.jobs) :
    ∃ request ∈ batch.requests, state.asked job = some request := by
  obtain ⟨worker, _, loop⟩ := watched.loop
  obtain ⟨rest, split⟩ := loop.asked
  have member : state.asked job ∈ batch.requests.map some := by
    rw [← split]
    exact List.mem_append_left _ (List.mem_map_of_mem listed)
  obtain ⟨request, inside, same⟩ := List.mem_map.mp member
  exact ⟨request, inside, same.symm⟩

@[simp] theorem Batch.observe_requests (worker : Nat) (event : Event)
    (state : State) (batch : Batch) :
    (batch.observe worker event state).requests = batch.requests := by
  unfold Batch.observe
  split
  · split <;> rfl
  · split
    · split <;> rfl
    · rfl
  · rfl

theorem Batch.skipped_subset (worker : Nat) (event : Event) (state : State)
    (batch : Batch) :
    batch.skipped ⊆ (batch.observe worker event state).skipped := by
  unfold Batch.observe
  split
  · split <;> exact List.Subset.refl _
  · split
    · split
      · exact List.subset_cons_self _ _
      · exact List.Subset.refl _
    · exact List.Subset.refl _
  · exact List.Subset.refl _

/-- Only the worker itself starts jobs for its batch. -/
theorem Batch.observe_jobs {worker : Nat} {event : Event} (state : State)
    (batch : Batch) (other : ∀ step, event ≠ .worker worker step) :
    (batch.observe worker event state).jobs = batch.jobs := by
  unfold Batch.observe
  split
  · rename_i id job
    exact if_neg (fun same : id = worker => other (.process job)
      (congrArg (Event.worker · _) same)) ▸ rfl
  · split
    · split <;> rfl
    · rfl
  · rfl

theorem workers_kept {event : Event} {id : Nat}
    (stepped : (machine config mode sha256 lag).step event before = some after)
    (other : ∀ step, event ≠ .worker id step) :
    after.workers.find id = before.workers.find id := by
  change act config mode sha256 lag event before = some after at stepped
  cases event with
  | attempt event =>
      simp only [act] at stepped
      split at stepped
      · obtain ⟨guard, -, rfl⟩ := Option.map_eq_some_iff.mp stepped
        rfl
      · cases stepped
  | miscount request =>
      obtain rfl := Option.some.inj stepped
      rfl
  | unblock call key actor =>
      simp only [act] at stepped
      split at stepped
      · cases stepped
      · obtain rfl := Option.some.inj stepped
        rfl
  | call call step =>
      obtain ⟨call, found, acted⟩ := Option.bind_eq_some_iff.mp stepped
      cases CallMove.of_act acted <;> rfl
  | job job step =>
      obtain ⟨job, found, acted⟩ := Option.bind_eq_some_iff.mp stepped
      cases JobMove.of_act acted <;> rfl
  | worker worker step =>
      have apart : id ≠ worker := fun same =>
        other step (congrArg (Event.worker · step) same.symm)
      have put (row : Worker) (named : row.id = worker) (state : State)
          (same : state.workers = before.workers) :
          (state.setWorker row).workers.find id = before.workers.find id := by
        change (state.workers.put row).find id = _
        rw [Table.find_put, same]
        exact if_neg fun key => apart (key.trans named)
      change actWorker step worker before = some after at stepped
      unfold actWorker at stepped
      split at stepped
      · obtain rfl := Option.some.inj stepped
        exact put _ rfl _ rfl
      · obtain rfl := Option.some.inj stepped
        exact put _ rfl _ rfl
      · split at stepped
        · cases stepped
        · obtain rfl := Option.some.inj stepped
          exact put _ rfl _ rfl
      · split at stepped
        · obtain rfl := Option.some.inj stepped
          exact put _ rfl _ rfl
        · obtain rfl := Option.some.inj stepped
          exact put _ rfl _ rfl
        · cases stepped
      · cases stepped

/-- The steps of the worker itself. -/
inductive OwnMove (before : State) (id : Nat) (batch : Batch) :
    Batch → State → Prop where
  | process {request : Uuid} {rest : List Uuid} {job : Nat}
      (found : before.workers.find id =
        some { id, pending := request :: rest, job := none })
      (absent : before.jobs.find job = none) :
      OwnMove before id batch { batch with jobs := batch.jobs ++ [job] }
        ((before.setJob { id := job, request }).setWorker
          { id, pending := rest, job := some job })
  | returned {pending : List Uuid} {job : Nat} {value : Bool}
      (found : before.workers.find id = some { id, pending, job := some job })
      (ended : before.outcome job = some (.returned value)) :
      OwnMove before id batch batch
        (before.setWorker { id, pending, job := none })
  | threw {pending : List Uuid} {job : Nat}
      (found : before.workers.find id = some { id, pending, job := some job })
      (ended : before.outcome job = some .threw) :
      OwnMove before id batch batch
        (before.setWorker { id, pending := [], job := none })

theorem OwnMove.of_act {step : WorkerStep} {id : Nat} {batch : Batch}
    (runs : (Event.worker id step).restarts id = false)
    (acted : actWorker step id before = some after) :
    OwnMove before id batch (batch.observe id (.worker id step) before) after := by
  have named {worker : Worker} (found : before.workers.find id = some worker) :
      worker.id = id := (Table.find_eq_some.mp found).2
  cases step with
  | reconcile => simp [Event.restarts] at runs
  | process job =>
      have observed : batch.observe id (.worker id (.process job)) before =
          { batch with jobs := batch.jobs ++ [job] } := if_pos rfl
      rw [observed]
      unfold actWorker at acted
      split at acted
      · rename_i impossible _
        cases impossible
      · rename_i impossible _
        cases impossible
      · rename_i other worker request rest same found
        cases same
        obtain rfl := named found
        split at acted
        · cases acted
        · rename_i absent
          obtain rfl := Option.some.inj acted
          exact .process found (Option.not_isSome_iff_eq_none.mp absent)
      · rename_i impossible _
        cases impossible
      · cases acted
  | processed =>
      change OwnMove before id batch batch after
      unfold actWorker at acted
      split at acted
      · rename_i impossible _
        cases impossible
      · rename_i impossible _
        cases impossible
      · rename_i impossible _
        cases impossible
      · rename_i worker pending job same found
        obtain rfl := named found
        split at acted
        · rename_i value ended
          obtain rfl := Option.some.inj acted
          have outcome : before.outcome job = some (.returned value) := by
            unfold State.outcome
            rw [ended]
          exact .returned found outcome
        · rename_i ended
          obtain rfl := Option.some.inj acted
          have outcome : before.outcome job = some .threw := by
            unfold State.outcome
            rw [ended]
          exact .threw found outcome
        · cases acted
      · cases acted

theorem find_setWorker (worker : Worker) (state : State) :
    (state.setWorker worker).workers.find worker.id = some worker := by
  change (state.workers.put worker).find worker.id = some worker
  rw [Table.find_put]
  exact if_pos rfl

/-- The worker goes on: the next job of the loop, or its end. -/
theorem Loop.own {batch observed : Batch} {id : Nat} {worker : Worker}
    (loop : Loop before batch id worker)
    (found : before.workers.find id = some worker)
    (transition : Transition config lag before after)
    (moved : OwnMove before id batch observed after) :
    ∃ worker, after.workers.find id = some worker ∧
      Loop after observed id worker := by
  have kept := loop.kept transition
  cases moved with
  | @process request rest job here absent =>
      obtain rfl := Option.some.inj (found.symm.trans here)
      refine ⟨_, find_setWorker _ _, ?_⟩
      have started : ((before.setJob { id := job, request }).setWorker
          { id, pending := rest, job := some job }).asked job =
          some request :=
        asked_eq_some.mpr ⟨_, Table.mem_put.mpr (.inl rfl), rfl, rfl⟩
      cases kept with
      | waiting split returned =>
          refine .processing rfl ?_ returned
          rw [List.map_append, List.map_singleton, started, List.append_assoc]
          exact split
  | @returned pending job value here ended =>
      obtain rfl := Option.some.inj (found.symm.trans here)
      refine ⟨_, find_setWorker _ _, ?_⟩
      cases kept with
      | processing jobs split returned =>
          refine .waiting split ?_
          rw [jobs, List.forall_mem_append, List.forall_mem_singleton]
          exact ⟨returned, value, outcome_kept transition ended⟩
  | @threw pending job here ended =>
      obtain rfl := Option.some.inj (found.symm.trans here)
      refine ⟨_, find_setWorker _ _, ?_⟩
      cases kept with
      | processing jobs split returned =>
          exact .stopped jobs split returned (outcome_kept transition ended)

/-- A job that is new has done nothing yet. -/
theorem jobs_origin {event : Event}
    (stepped : (machine config mode sha256 lag).step event before = some after)
    (other : ∀ id step, event ≠ .job id step) :
    ∀ job ∈ after.jobs, job.stage = .begun ∨ job ∈ before.jobs := by
  have put {id : Nat} {request : Uuid} :
      ∀ job ∈ before.jobs.put { id, request },
        job.stage = .begun ∨ job ∈ before.jobs := by
    intro job listed
    rcases Table.mem_put.mp listed with rfl | ⟨old, _⟩
    · exact .inl rfl
    · exact .inr old
  change act config mode sha256 lag event before = some after at stepped
  cases event with
  | attempt event =>
      simp only [act] at stepped
      split at stepped
      · obtain ⟨guard, -, rfl⟩ := Option.map_eq_some_iff.mp stepped
        exact fun _ old => .inr old
      · cases stepped
  | miscount request =>
      obtain rfl := Option.some.inj stepped
      exact fun _ old => .inr old
  | unblock call key actor =>
      simp only [act] at stepped
      split at stepped
      · cases stepped
      · obtain rfl := Option.some.inj stepped
        exact fun _ old => .inr old
  | call call step =>
      obtain ⟨call, found, acted⟩ := Option.bind_eq_some_iff.mp stepped
      cases CallMove.of_act acted with
      | process => exact put
      | _ => exact fun _ old => .inr old
  | job id step => exact absurd rfl (other id step)
  | worker worker step =>
      cases WorkerMove.of_act stepped with
      | only => exact fun _ old => .inr old
      | start => exact put

theorem Accounted.begun {skipped : List Nat} {job : Job}
    (stage : job.stage = .begun) : Accounted state skipped job := by
  unfold Accounted
  rw [stage]
  trivial

theorem known_kept (stored : Stored before)
    (transition : Transition config lag before after) {request : Uuid}
    (known : ∃ row ∈ before.requests, row.id = request) :
    ∃ row ∈ after.requests, row.id = request := by
  obtain ⟨row, stored', rfl⟩ := known
  obtain ⟨found, listed, same⟩ := requests_kept stored transition row stored'
  exact ⟨found, listed, same.id⟩

/-- A step of another party, or of a job of the batch. -/
theorem Watched.other {batch : Batch} {id : Nat} {event : Event}
    (watched : Watched config id before batch)
    (stepped : (machine config mode sha256 lag).step event before = some after)
    (foreign : ∀ step, event ≠ .worker id step) :
    Watched config id after (batch.observe id event before) := by
  have stored := watched.kept.stored
  have transition := Transition.of_step watched.kept.logged.sound stepped
  have jobs := Batch.observe_jobs before batch foreign
  have grows := Batch.skipped_subset id event before batch
  obtain ⟨worker, found, loop⟩ := watched.loop
  have goes : Loop after (batch.observe id event before) id worker := by
    have same := loop.kept transition
    cases same with
    | waiting split returned =>
        refine .waiting ?_ ?_
        · rwa [jobs, Batch.observe_requests]
        · rwa [jobs]
    | processing done split returned =>
        refine .processing (jobs.trans done) ?_ returned
        rwa [jobs, Batch.observe_requests]
    | @stopped earlier last rest done split returned threw =>
        have again : (batch.observe id event before).jobs.map after.asked ++
            rest.map some = (batch.observe id event before).requests.map some := by
          rwa [jobs, Batch.observe_requests]
        exact .stopped (jobs.trans done) again returned threw
  refine ⟨kept_transition watched.kept transition, ?_, ?_,
    ⟨worker, (workers_kept stepped foreign).trans found, goes⟩, ?_⟩
  · rw [Batch.observe_requests]
    exact watched.distinct
  · rw [Batch.observe_requests]
    exact fun request listed =>
      known_kept stored transition (watched.known request listed)
  · rw [jobs]
    intro job member listed
    by_cases own : ∃ number step, event = .job number step
    · obtain ⟨number, step, rfl⟩ := own
      obtain ⟨row, present, acted⟩ := Option.bind_eq_some_iff.mp stepped
      have moved := JobMove.of_act acted
      obtain ⟨rowMember, rowId⟩ := Table.find_eq_some.mp present
      by_cases same : job.id = row.id
      · obtain ⟨request, inside, asked⟩ := watched.asked (same ▸ listed)
        obtain ⟨old, oldMember, oldId, oldRequest⟩ := asked_eq_some.mp asked
        obtain rfl := Table.eq_of_key oldMember rowMember oldId
        obtain ⟨entry, entryMember, entryId⟩ := watched.known request inside
        have known : ∃ entry, before.requests.find old.request = some entry :=
          ⟨entry, Table.find_eq_some.mpr
            ⟨entryMember, entryId.trans oldRequest.symm⟩⟩
        refine accounted_move moved known ((watched.accounted old oldMember
          (same ▸ listed)).mono (fun done => done) grows) ?_ job member same
        rintro rfl locked
        have observed : batch.observe id (.job number .select) before =
            { batch with skipped := number :: batch.skipped } := by
          simp only [Batch.observe, present, if_pos locked]
        rw [observed]
        exact List.mem_cons.mpr (.inl rowId)
      · obtain ⟨new, table, kept⟩ := moved.kept
        rw [table] at member
        rcases Table.mem_put.mp member with rfl | ⟨old, _⟩
        · exact absurd kept.id same
        · exact accounted_others stored transition
            (watched.accounted job old listed) grows
    · rcases jobs_origin stepped (fun number step same =>
        own ⟨number, step, same⟩) job member with begun | old
      · exact .begun begun
      · exact accounted_others stored transition
          (watched.accounted job old listed) grows

theorem Watched.own {batch : Batch} {id : Nat} {step : WorkerStep}
    (watched : Watched config id before batch)
    (runs : (Event.worker id step).restarts id = false)
    (stepped : (machine config mode sha256 lag).step (.worker id step) before =
      some after) :
    Watched config id after (batch.observe id (.worker id step) before) := by
  have stored := watched.kept.stored
  have transition := Transition.of_step watched.kept.logged.sound stepped
  have moved : OwnMove before id batch
      (batch.observe id (.worker id step) before) after := .of_act runs stepped
  obtain ⟨worker, found, loop⟩ := watched.loop
  refine ⟨kept_transition watched.kept transition, ?_, ?_,
    loop.own found transition moved, ?_⟩
  · rw [Batch.observe_requests]
    exact watched.distinct
  · rw [Batch.observe_requests]
    exact fun request listed =>
      known_kept stored transition (watched.known request listed)
  · have old {job : Job} (member : job ∈ before.jobs)
        (listed : job.id ∈ batch.jobs) :
        Accounted after batch.skipped job :=
      accounted_others stored transition (watched.accounted job member listed)
        (List.Subset.refl _)
    revert moved
    generalize batch.observe id (.worker id step) before = observed
    intro moved job member listed
    cases moved with
    | process here absent =>
        rcases Table.mem_put.mp member with rfl | ⟨stays, apart⟩
        · exact .begun rfl
        · refine old stays ((List.mem_append.mp listed).resolve_right ?_)
          exact fun same => apart (List.mem_singleton.mp same)
    | returned => exact old member listed
    | threw => exact old member listed

theorem watched_step (id : Nat) (event : Event) (before after : State × Batch)
    (known : Watched config id before.1 before.2)
    (stepped : (watched config mode sha256 lag id).step event before =
      some after) : Watched config id after.1 after.2 := by
  simp only [watched, Option.ite_none_left_eq_some] at stepped
  obtain ⟨runs, stepped⟩ := stepped
  obtain ⟨state, acted, rfl⟩ := Option.map_eq_some_iff.mp stepped
  by_cases own : ∃ step, event = .worker id step
  · obtain ⟨step, rfl⟩ := own
    exact known.own (Bool.eq_false_iff.mpr runs) acted
  · exact known.other acted fun step same => own ⟨step, same⟩

theorem nodup_oldest (state : State) : state.oldest.Nodup := by
  have rows : ((state.requests.rows.filter fun row =>
      decide (row.completedAt = none)).map UnblockRequest.id).Nodup :=
    state.requests.nodup.sublist (List.filter_sublist.map _)
  unfold State.oldest
  refine List.Nodup.sublist ((List.take_sublist _ _).map _) ?_
  exact ((List.mergeSort_perm _ _).map _).nodup_iff.mpr rows

theorem known_oldest {request : Uuid} (listed : request ∈ state.oldest) :
    ∃ row ∈ state.requests, row.id = request := by
  obtain ⟨row, taken, same⟩ := List.mem_map.mp listed
  have sorted := List.mem_of_mem_take taken
  have filtered := (List.mergeSort_perm _ _).mem_iff.mp sorted
  exact ⟨row, (List.mem_filter.mp filtered).1, same⟩

/-- A run of `reconcile` starts with the oldest requests. -/
theorem watched_read {id : Nat} (kept : Kept config before)
    (read : (machine config mode sha256 lag).step (.worker id .reconcile) before =
      some after) : Watched config id after (.read before) := by
  have transition := Transition.of_step kept.logged.sound read
  have idle : ∃ worker : Worker, worker.id = id ∧
      worker = { id, pending := before.oldest, job := none } ∧
      after = before.setWorker worker := by
    change actWorker .reconcile id before = some after at read
    unfold actWorker at read
    split at read
    · exact ⟨_, rfl, rfl, (Option.some.inj read).symm⟩
    · exact ⟨_, rfl, rfl, (Option.some.inj read).symm⟩
    · rename_i impossible _
      cases impossible
    · rename_i impossible _
      cases impossible
    · cases read
  obtain ⟨worker, named, fresh, rfl⟩ := idle
  refine ⟨kept_transition kept transition, nodup_oldest before,
    fun request => known_oldest, ⟨worker, ?_, ?_⟩, ?_⟩
  · rw [← named]
    exact find_setWorker worker before
  · rw [fresh]
    exact .waiting rfl (fun job listed => absurd listed List.not_mem_nil)
  · exact fun job _ listed => absurd listed List.not_mem_nil

/-- A job that did not throw has returned. -/
theorem Loop.returned {batch : Batch} {id job : Nat}
    (loop : Loop state batch id { id, pending := [], job := none })
    (listed : job ∈ batch.jobs) (survived : state.outcome job ≠ some .threw) :
    ∃ value, state.outcome job = some (.returned value) := by
  cases loop with
  | waiting split returned => exact returned job listed
  | stopped jobs split returned threw =>
      rw [jobs] at listed
      rcases List.mem_append.mp listed with earlier | last
      · exact returned job earlier
      · exact absurd (List.mem_singleton.mp last ▸ threw) survived

theorem Watched.completes {batch : Batch} {id : Nat}
    (watched : Watched config id state batch)
    (loop : Loop state batch id { id, pending := [], job := none }) :
    ∀ job ∈ batch.jobs, state.outcome job ≠ some .threw →
      job ∉ batch.skipped → ∀ request ∈ state.asked job,
        Completed state request := by
  intro job listed survived free request asked
  obtain ⟨value, outcome⟩ := loop.returned listed survived
  obtain ⟨row, member, rfl, stage⟩ := outcome_eq_some.mp outcome
  obtain ⟨other, otherMember, same, rfl⟩ := asked_eq_some.mp asked
  obtain rfl := Table.eq_of_key otherMember member same
  have accounted := watched.accounted other member listed
  unfold Accounted at accounted
  rw [stage] at accounted
  exact accounted.resolve_right free

/-- An element that is the last one is not followed by anything. -/
theorem rest_nil_of_last {α : Type} {front rest whole : List α} {item : α}
    (split : front ++ rest = whole) (distinct : whole.Nodup)
    (inside : item ∈ front) (last : whole.getLast? = some item) :
    rest = [] := by
  by_contra more
  have later : item ∈ rest := by
    rw [← split, List.getLast?_append_of_ne_nil _ more] at last
    exact List.mem_of_getLast? last
  rw [← split] at distinct
  exact List.disjoint_of_nodup_append distinct inside later

/-- All requests have been attempted exactly when none but the last throws. -/
theorem Loop.attempts_iff {batch : Batch} {id : Nat}
    (loop : Loop state batch id { id, pending := [], job := none })
    (distinct : batch.requests.Nodup) :
    batch.jobs.map state.asked = batch.requests.map some ↔
      ∀ job ∈ batch.jobs, state.outcome job = some .threw →
        state.asked job = batch.requests.getLast? := by
  cases loop with
  | waiting split returned =>
      rw [List.map_nil, List.append_nil] at split
      refine ⟨fun _ job listed threw => ?_, fun _ => split⟩
      obtain ⟨value, outcome⟩ := returned job listed
      rw [outcome] at threw
      cases threw
  | @stopped earlier last rest jobs split returned threw =>
      have attempted : last ∈ batch.jobs := by
        rw [jobs]
        exact List.mem_append_right _ List.mem_cons_self
      have asked : (batch.jobs.map state.asked).getLast? =
          some (state.asked last) := by
        rw [jobs, List.map_append, List.map_singleton, List.getLast?_concat]
      constructor
      · intro attempts job listed failed
        have same : job = last := by
          rw [jobs] at listed
          rcases List.mem_append.mp listed with before | last
          · obtain ⟨value, outcome⟩ := returned job before
            rw [outcome] at failed
            cases failed
          · exact List.mem_singleton.mp last
        rw [attempts, List.getLast?_map, ← same] at asked
        cases ends : batch.requests.getLast? with
        | none =>
            rw [ends] at asked
            cases asked
        | some request =>
            rw [ends] at asked
            exact (Option.some.inj asked).symm
      · intro only
        have ends := only last attempted threw
        have whole : (batch.requests.map some).getLast? =
            some (state.asked last) := by
          have member : state.asked last ∈ batch.requests.map some := by
            rw [← split]
            exact List.mem_append_left _ (List.mem_map_of_mem attempted)
          obtain ⟨request, _, same⟩ := List.mem_map.mp member
          rw [List.getLast?_map, ← ends, ← same, Option.map_some]
        have nothing := rest_nil_of_last split
          (distinct.map (Option.some_injective _))
          (List.mem_map_of_mem attempted) whole
        rw [List.map_eq_nil_iff.mp nothing, List.map_nil, List.append_nil]
          at split
        exact split

/-- In the run of a worker every request of the batch is attempted and, unless
it is locked or fails itself, completed, exactly if no request but the last one
throws. -/
theorem worked_iff (now : Int) (worker : Nat) {batch : Batch}
    (reachable : (machine config mode sha256 lag).Reachable
      (State.start mode now) before)
    (read : (machine config mode sha256 lag).step (.worker worker .reconcile)
      before = some after)
    (processed : (watched config mode sha256 lag worker).Reachable
      (after, .read before) (state, batch))
    (ended : state.workers.find worker =
      some { id := worker, pending := [], job := none }) :
    batch.requests = before.oldest ∧
      (Worked batch state ↔ ∀ job ∈ batch.jobs,
        state.outcome job = some .threw →
          state.asked job = before.oldest.getLast?) := by
  have kept : Kept config before := by
    refine reachable.invariant (kept_start now) ?_
    exact fun event before after kept stepped =>
      kept_transition kept (Transition.of_step kept.logged.sound stepped)
  have known : Watched config worker state batch :=
    processed.invariant (watched_read kept read) (watched_step worker)
  have requests : batch.requests = before.oldest := by
    refine @Machine.Reachable.invariant _ _ _ _ _
      (fun pair => pair.2.requests = before.oldest) processed rfl ?_
    intro event first second same stepped
    simp only [watched, Option.ite_none_left_eq_some] at stepped
    obtain ⟨next, _, rfl⟩ := Option.map_eq_some_iff.mp stepped.2
    rwa [Batch.observe_requests]
  obtain ⟨row, found, loop⟩ := known.loop
  obtain rfl := Option.some.inj (found.symm.trans ended)
  refine ⟨requests, ?_⟩
  rw [← requests, ← loop.attempts_iff known.distinct]
  constructor
  · exact fun worked => worked.attempts
  · exact fun attempts => ⟨attempts, known.completes loop⟩

namespace Sample

/-- Two addresses have been unblocked and wait for a worker. -/
def twoPending : List Event :=
  asked 1 generation ++
    [.unblock 2 "10.0.0.2" 7, .call 2 .transaction, .call 2 .findBlock,
      .call 2 (.insert request), .call 2 .audit, .call 2 (.commit true)]

def succeed (job : Nat) : List Event :=
  [.worker 1 (.process job), .job job .select, .job job .checkAge,
    .job job .execute, .job job .statement, .job job .statement,
    .job job .statement, .job job .statement, .job job (.commit true),
    .worker 1 .processed]

def throw (job : Nat) : List Event :=
  [.worker 1 (.process job), .job job .select, .job job .fail,
    .worker 1 .processed]

def waiting : State :=
  ((machine strict .cluster id 3000).run twoPending
    (State.start .cluster 0)).getD (State.start .cluster 0)

/-- The worker has read both. -/
def picked : State × Batch :=
  (waiting.setWorker { id := 1, pending := [generation, request], job := none },
    { requests := [generation, request], jobs := [], skipped := [] })

def worked (events : List Event) : State × Batch :=
  ((watched strict .cluster id 3000 1).run events picked).getD picked

theorem reachable_waiting : (machine strict .cluster id 3000).Reachable
    (State.start .cluster 0) waiting :=
  .of_run twoPending (by decide +kernel)

theorem oldest_waiting : waiting.oldest = [generation, request] := by
  have rows : (waiting.requests.rows.filter fun row =>
      decide (row.completedAt = none)).Pairwise fun left right =>
        decide (left.createdAt < right.createdAt ∨
          left.createdAt = right.createdAt ∧ left.id.text ≤ right.id.text) =
            true := by
    decide +kernel
  rw [State.oldest, List.mergeSort_of_pairwise rows]
  decide +kernel

theorem step_picked :
    (machine strict .cluster id 3000).step (.worker 1 .reconcile) waiting =
      some picked.1 := by
  rw [picked, ← oldest_waiting]
  rfl

theorem reachable_worked (events : List Event)
    (ran : ((watched strict .cluster id 3000 1).run events picked).isSome) :
    (watched strict .cluster id 3000 1).Reachable (picked.1, .read waiting)
      ((worked events).1, (worked events).2) := by
  rw [Batch.read, oldest_waiting]
  exact .of_run events ran

end Sample

theorem worked_iff_twice :
    Worked (Sample.worked (Sample.succeed 1 ++ Sample.succeed 2)).2
      (Sample.worked (Sample.succeed 1 ++ Sample.succeed 2)).1 := by
  have ended : (Sample.worked (Sample.succeed 1 ++ Sample.succeed
      2)).1.workers.find 1 = some { id := 1, pending := [], job := none } := by
    decide +kernel
  refine (worked_iff 0 1 Sample.reachable_waiting Sample.step_picked
    (Sample.reachable_worked (Sample.succeed 1 ++ Sample.succeed 2)
      (by decide +kernel)) ended).2.mpr ?_
  rw [Sample.oldest_waiting]
  decide +kernel

/-- The second request is not attempted after the first one has thrown. -/
theorem thrown_request_ends_batch :
    ¬∀ (before after state : State) (batch : Batch),
      (machine Sample.strict .cluster id 3000).Reachable
        (State.start .cluster 0) before →
      (machine Sample.strict .cluster id 3000).step (.worker 1 .reconcile)
        before = some after →
      (watched Sample.strict .cluster id 3000 1).Reachable
        (after, .read before) (state, batch) →
      state.workers.find 1 = some { id := 1, pending := [], job := none } →
      Worked batch state := by
  intro claimed
  have attempts := (claimed _ _ _ _ Sample.reachable_waiting Sample.step_picked
    (Sample.reachable_worked (Sample.throw 1) (by decide +kernel))
    (by decide +kernel)).attempts
  revert attempts
  decide +kernel

end LoginUnblock

end SaasFoundation
