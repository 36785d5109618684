import SaasFoundation.Settings.UnblockRequests

/-!
# The reset of a request

What an execution of the reset does, and what the log of performed resets says
about requests, markers and jobs.
-/

namespace SaasFoundation

open Relational RedisService

namespace LoginUnblock

variable {config : RuntimeConfig} {mode : RedisMode} {sha256 : String → String}
  {lag : Int}

def State.storage (state : State) : Storage := state.guard.storages 0

def State.marker (config : RuntimeConfig) (state : State) (key : String)
    (request : Uuid) : Option Int :=
  state.storage.marker config.keyPrefix state.guard.now key request.text

/-- The storage of the service is replaced, the others are not. -/
theorem sound_setStorage {guard : AuthProtectionGuard.State} {storage : Storage}
    (sound : ∀ store, (guard.storages store).Sound) (place : Nat)
    (new : storage.Sound) :
    ∀ store, ((guard.setStorage place storage).storages store).Sound := by
  intro store
  change (Function.update guard.storages place storage store).Sound
  by_cases here : store = place
  · subst here
    rwa [Function.update_self]
  · rw [Function.update_of_ne here]
    exact sound store

/-- How an execution ends: the reset is recorded already, it is refused, or it
is performed. -/
inductive Executed (config : RuntimeConfig) (row : UnblockRequest)
    (before : State) : Prop where
  | recorded
      (known : (before.marker config (authKey row.key) row.id).isSome)
      (ok : (before.execute config row).1.isOk = true)
      (unchanged : before.storage.Unchanged config.keyPrefix before.guard.now
        (before.execute config row).2.storage)
      (performed : (before.execute config row).2.performed = before.performed)
  | refused
      (failed : (before.execute config row).1.isOk = false)
      (unchanged : before.storage.Unchanged config.keyPrefix before.guard.now
        (before.execute config row).2.storage)
      (performed : (before.execute config row).2.performed = before.performed)
  | performed
      (unknown : before.marker config (authKey row.key) row.id = none)
      (reset : Storage.Reset config.keyPrefix before.guard.now (authKey row.key)
        row.id before.storage (before.execute config row).2.storage)
      (performed : (before.execute config row).2.performed =
        before.performed ++
          [{ request := row.id, key := row.key, moment := before.guard.now }])

theorem execute_storage (row : UnblockRequest) (before : State) :
    (before.execute config row).2.storage =
      (before.storage.resetOnce config.keyPrefix before.guard.now
        (authKey row.key) row.id.text).2 := by
  change Function.update before.guard.storages 0 _ 0 = _
  rw [Function.update_self]
  rfl

theorem execute_performed (row : UnblockRequest) (before : State) :
    (before.execute config row).2.performed =
      if (before.storage.resetOnce config.keyPrefix before.guard.now
          (authKey row.key) row.id.text).1.isOk ∧
        before.marker config (authKey row.key) row.id = none then
          before.performed ++
            [{ request := row.id, key := row.key, moment := before.guard.now }]
      else before.performed :=
  rfl

theorem execute_result (row : UnblockRequest) (before : State) :
    (before.execute config row).1 =
      (before.storage.resetOnce config.keyPrefix before.guard.now
        (authKey row.key) row.id.text).1 :=
  rfl

theorem executed (row : UnblockRequest) {before : State}
    (sound : before.storage.Sound) : Executed config row before := by
  cases known : before.marker config (authKey row.key) row.id with
  | some expires =>
      have present : (before.storage.marker config.keyPrefix before.guard.now
          (authKey row.key) row.id.text).isSome := by
        rw [show before.storage.marker _ _ _ _ = some expires from known]
        rfl
      obtain ⟨answered, unchanged⟩ := Storage.resetOnce_recorded present
      refine .recorded (by rw [known]; rfl) ?_ ?_ ?_
      · rw [execute_result, answered]
        rfl
      · rwa [execute_storage]
      · rw [execute_performed, known]
        exact if_neg fun both => nomatch both.2
  | none =>
      have absent : before.storage.marker config.keyPrefix before.guard.now
          (authKey row.key) row.id.text = none := known
      rcases Storage.resetOnce_new sound absent with
        ⟨failure, answered, unchanged⟩ | ⟨answered, reset⟩
      · refine .refused ?_ ?_ ?_
        · rw [execute_result, answered]
          rfl
        · rwa [execute_storage]
        · rw [execute_performed, answered]
          exact if_neg fun both => nomatch both.1
      · refine .performed known ?_ ?_
        · rwa [execute_storage]
        · rw [execute_performed, answered]
          exact if_pos ⟨rfl, known⟩

/-- A request that is still stored; only its completion may differ. -/
structure SameRequest (old new : UnblockRequest) : Prop where
  id : new.id = old.id
  key : new.key = old.key
  blockGeneration : new.blockGeneration = old.blockGeneration
  createdAt : new.createdAt = old.createdAt

theorem SameRequest.refl (row : UnblockRequest) : SameRequest row row :=
  ⟨rfl, rfl, rfl, rfl⟩

def RequestsKept (before after : State) : Prop :=
  ∀ row ∈ before.requests, ∃ found ∈ after.requests, SameRequest row found

theorem requestsKept_finish {before after : State} {row : UnblockRequest}
    (moment : Int)
    (requests : after.requests =
      before.requests.put { row with completedAt := some moment })
    (member : row ∈ before.requests) : RequestsKept before after := by
  intro other known
  rw [requests]
  by_cases same : other.id = row.id
  · obtain rfl := Table.eq_of_key known member same
    exact ⟨_, Table.mem_put.mpr (.inl rfl), rfl, rfl, rfl, rfl⟩
  · exact ⟨other, Table.mem_put.mpr (.inr ⟨known, same⟩), .refl other⟩

theorem requests_kept {before after : State} (stored : Stored before)
    (transition : Transition config lag before after) :
    RequestsKept before after := by
  have kept : RequestsKept before before := fun row known => ⟨row, known, .refl row⟩
  cases transition with
  | attempt | unblock => exact kept
  | worker moved => cases moved <;> exact kept
  | job member moved =>
      cases moved with
      | complete acknowledged stage found
      | expire acknowledged stage found =>
          exact requestsKept_finish _ rfl (Table.find_eq_some.mp found).1
      | _ => exact kept
  | call member moved =>
      cases moved with
      | store acknowledged stage =>
          have held := stored.calls _ member
          rw [stage] at held
          intro other known
          refine ⟨other, Table.mem_put.mpr (.inr ⟨known, fun same => ?_⟩),
            .refl other⟩
          exact Table.find_eq_none.mp held.2.1 other known same
      | _ => exact kept

/-- The job has got the answer to its reset. -/
def JobStage.PastReset : JobStage → Prop
  | .reset | .deleted | .audited | .completed _ => True
  | _ => False

/-- The reset of the request is in the log. -/
def Performed.For (log : List Performed) (request : Uuid) : Prop :=
  ∃ performed ∈ log, performed.request = request

variable (config) in
structure Logged (state : State) : Prop where
  sound : ∀ store, (state.guard.storages store).Sound
  stored : ∀ performed ∈ state.performed, ∃ row ∈ state.requests,
    row.id = performed.request ∧ row.key = performed.key ∧
      row.createdAt ≤ performed.moment
  marked : ∀ key (request : Uuid), (state.marker config key request).isSome →
    Performed.For state.performed request
  jobs : ∀ job ∈ state.jobs, job.executed = true ∨ job.stage.PastReset →
    Performed.For state.performed job.request

/-- No marker appears, and no request is lost. -/
theorem Logged.carry {before after : State} (logged : Logged config before)
    (kept : RequestsKept before after)
    (sound : ∀ store, (after.guard.storages store).Sound)
    (markers : ∀ key request, (after.marker config key request).isSome →
      (before.marker config key request).isSome)
    (performed : after.performed = before.performed)
    (jobs : ∀ job ∈ after.jobs, job.executed = true ∨ job.stage.PastReset →
      Performed.For before.performed job.request) :
    Logged config after where
  sound := sound
  stored reset listed := by
    rw [performed] at listed
    obtain ⟨row, known, id, key, past⟩ := logged.stored reset listed
    obtain ⟨found, stored, same⟩ := kept row known
    exact ⟨found, stored, same.id.trans id, same.key.trans key,
      same.createdAt.symm ▸ past⟩
  marked key request present := by
    rw [performed]
    exact logged.marked key request (markers key request present)
  jobs := performed ▸ jobs

theorem Advanced.marker {before : State} {guard : AuthProtectionGuard.State}
    (advanced : Advanced config before.guard guard) (key : String)
    (request : Uuid) :
    ({ before with guard } : State).marker config key request =
      (before.marker config key request).filter fun expires =>
        guard.now < expires :=
  (advanced.markers key request.text).trans
    (Storage.marker_later advanced.later key request.text _)

theorem Logged.execute {before : State} (logged : Logged config before)
    (stored : Stored before) {job : Job} (member : job ∈ before.jobs)
    {row : UnblockRequest} (found : before.requests.find job.request = some row) :
    Logged config ((before.execute config row).2.setJob
      { job with
        executed := job.executed || (before.execute config row).1.isOk }) := by
  obtain ⟨listed, same⟩ := Table.find_eq_some.mp found
  have soundAfter : ∀ store, ((before.execute config row).2.guard.storages
      store).Sound :=
    sound_setStorage logged.sound 0 (Storage.resetOnce_sound (logged.sound 0))
  have kept : RequestsKept before before := fun row known => ⟨row, known, .refl row⟩
  have old (log : List Performed) (grows : before.performed ⊆ log)
      (known : (before.execute config row).1.isOk = true →
        Performed.For log row.id) :
      ∀ other ∈ before.jobs.put { job with
          executed := job.executed || (before.execute config row).1.isOk },
        other.executed = true ∨ other.stage.PastReset →
          Performed.For log other.request := by
    have earlier (other : Job) (member : other ∈ before.jobs)
        (past : other.executed = true ∨ other.stage.PastReset) :
        Performed.For log other.request := by
      obtain ⟨performed, logged, id⟩ := logged.jobs other member past
      exact ⟨performed, grows logged, id⟩
    intro other put past
    rcases Table.mem_put.mp put with rfl | ⟨known, -⟩
    · rcases past with executed | past
      · rcases Bool.or_eq_true_iff.mp executed with before | now
        · exact earlier job member (.inl before)
        · exact same ▸ known now
      · exact earlier job member (.inr past)
    · exact earlier other known past
  have still (unchanged : before.storage.Unchanged config.keyPrefix
      before.guard.now (before.execute config row).2.storage) (key : String)
      (request : Uuid)
      (present : ((before.execute config row).2.marker config key request).isSome) :
      (before.marker config key request).isSome := by
    have same : (before.execute config row).2.marker config key request =
        before.marker config key request := unchanged.markers key request.text
    rwa [← same]
  rcases executed row (logged.sound 0) with
    ⟨known, -, unchanged, performed⟩ | ⟨failed, unchanged, performed⟩ |
    ⟨-, reset, performed⟩
  · exact logged.carry kept soundAfter (still unchanged) performed
      (old _ (List.Subset.refl _) fun _ => logged.marked _ _ known)
  · refine logged.carry kept soundAfter (still unchanged) performed
      (old _ (List.Subset.refl _) fun ok => ?_)
    rw [failed] at ok
    cases ok
  · have grows : before.performed ⊆ (before.execute config row).2.performed := by
      rw [performed]
      exact List.subset_append_left _ _
    have new : Performed.For (before.execute config row).2.performed row.id := by
      rw [performed]
      exact ⟨_, List.mem_append_right _ (List.mem_singleton_self _), rfl⟩
    constructor
    · exact soundAfter
    · intro earlier logged'
      change earlier ∈ (before.execute config row).2.performed at logged'
      rw [performed] at logged'
      rcases List.mem_append.mp logged' with old | new
      · exact logged.stored earlier old
      · rw [List.mem_singleton.mp new]
        exact ⟨row, listed, rfl, rfl, (stored.rows row listed).2⟩
    · intro key request present
      by_cases here : request = row.id
      · exact here ▸ new
      · have earlier : (before.marker config key request).isSome := by
          have shown := reset.markers key request here
          unfold State.marker
          rw [← shown]
          exact present
        obtain ⟨logged, old, id⟩ := logged.marked key request earlier
        exact ⟨logged, grows old, id⟩
    · exact old _ grows fun _ => new

theorem logged_transition {before after : State} (stored : Stored before)
    (logged : Logged config before)
    (transition : Transition config lag before after) : Logged config after := by
  have kept := requests_kept stored transition
  have started (id : Nat) (request : Uuid) :
      ∀ job ∈ before.jobs.put { id, request },
        job.executed = true ∨ job.stage.PastReset →
          Performed.For before.performed job.request := by
    intro job put past
    rcases Table.mem_put.mp put with rfl | ⟨known, -⟩
    · rcases past with executed | past
      · cases executed
      · exact past.elim
    · exact logged.jobs job known past
  have moved {job : Job} (member : job ∈ before.jobs) {stage : JobStage}
      (earlier : stage.PastReset → job.executed = true ∨ job.stage.PastReset)
      (sent : Option Int) :
      ∀ other ∈ before.jobs.put { job with stage, sent },
        other.executed = true ∨ other.stage.PastReset →
          Performed.For before.performed other.request := by
    intro other put past
    rcases Table.mem_put.mp put with rfl | ⟨known, -⟩
    · exact logged.jobs job member (past.elim .inl earlier)
    · exact logged.jobs other known past
  cases transition with
  | attempt advanced =>
      refine logged.carry kept advanced.sound (fun key request present => ?_) rfl
        logged.jobs
      rw [advanced.marker] at present
      obtain ⟨expires, found⟩ := Option.isSome_iff_exists.mp present
      rw [(Option.filter_eq_some_iff.mp found).1]
      rfl
  | unblock =>
      exact logged.carry kept logged.sound (fun _ _ => id) rfl logged.jobs
  | worker worked =>
      cases worked with
      | only =>
          exact logged.carry kept logged.sound (fun _ _ => id) rfl logged.jobs
      | start request worker absent =>
          exact logged.carry kept logged.sound (fun _ _ => id) rfl
            (started _ request)
  | job member worked =>
      cases worked with
      | execute known soon found => exact logged.execute stored member found
      | reset stage executed =>
          exact logged.carry kept logged.sound (fun _ _ => id) rfl
            (moved member (fun _ => .inl executed) _)
      | statement inner follows =>
          refine logged.carry kept logged.sound (fun _ _ => id) rfl
            (moved member (fun past => .inr ?_) _)
          rename_i job next
          cases stage : job.stage <;>
            simp only [stage, JobStage.next, reduceCtorEq, Option.some.injEq]
              at follows <;> subst follows <;> trivial
      | _ =>
          exact logged.carry kept logged.sound (fun _ _ => id) rfl
            (moved member (by exact False.elim) _)
  | call member worked =>
      cases worked with
      | process stage absent =>
          exact logged.carry kept logged.sound (fun _ _ => id) rfl (started _ _)
      | _ => exact logged.carry kept logged.sound (fun _ _ => id) rfl logged.jobs

variable (config) in
structure Kept (state : State) : Prop where
  stored : Stored state
  locks : LocksKept state
  audits : AuditsKept state
  logged : Logged config state

theorem kept_start (now : Int) : Kept config (State.start mode now) where
  stored :=
    { rows := fun row member => absurd member (Table.not_mem_empty row)
      calls := fun call member => absurd member (Table.not_mem_empty call)
      distinct := fun left member => absurd member (Table.not_mem_empty left) }
  locks :=
    { alone := fun left member => absurd member (Table.not_mem_empty left)
      open_ := fun job member => absurd member (Table.not_mem_empty job) }
  audits :=
    { rows := fun row member => absurd member (Table.not_mem_empty row)
      known := fun _ member => absurd member List.not_mem_nil }
  logged :=
    { sound := fun _ => Storage.sound_start mode
      stored := fun _ member => absurd member List.not_mem_nil
      marked := fun key request present => by
        cases mode <;> cases present
      jobs := fun job member => absurd member (Table.not_mem_empty job) }

theorem kept_transition {before after : State} (kept : Kept config before)
    (transition : Transition config lag before after) : Kept config after where
  stored := stored_transition kept.stored transition
  locks := locks_transition kept.stored kept.locks transition
  audits := audits_transition kept.stored kept.locks kept.audits transition
  logged := logged_transition kept.stored kept.logged transition

end LoginUnblock

end SaasFoundation
