import SaasFoundation.Settings.UnblockResets

/-!
# Safety of the unblock service

A request is reset once: its marker outlives everything its jobs have sent, as
no reset is sent for a request older than the cut-off.
-/

namespace SaasFoundation

open Relational RedisService

namespace LoginUnblock

variable {config : RuntimeConfig} {mode : RedisMode} {sha256 : String → String}
  {lag : Int}

variable (config) in
/-- The marker of a reset stands for its seven days. -/
structure ResetsKept (state : State) : Prop where
  sent : ∀ job ∈ state.jobs, ∀ sent, job.sent = some sent →
    ∃ row ∈ state.requests, row.id = job.request ∧ sent ≤ row.createdAt + cutOff
  lasting : ∀ performed ∈ state.performed,
    state.guard.now < performed.moment + markerSeconds * 1000 →
      state.marker config (authKey performed.key) performed.request =
        some (performed.moment + markerSeconds * 1000)
  once : (state.performed.map Performed.request).Nodup

/-- No marker changes, and no request is lost. -/
theorem ResetsKept.carry {before after : State} (resets : ResetsKept config before)
    (now : after.guard.now = before.guard.now)
    (markers : ∀ key request, after.marker config key request =
      before.marker config key request)
    (performed : after.performed = before.performed)
    (sent : ∀ job ∈ after.jobs, ∀ sent, job.sent = some sent →
      ∃ row ∈ after.requests, row.id = job.request ∧
        sent ≤ row.createdAt + cutOff) :
    ResetsKept config after where
  sent := sent
  lasting reset listed := by
    rw [performed] at listed
    rw [now, markers]
    exact resets.lasting reset listed
  once := performed ▸ resets.once

theorem ResetsKept.sent_kept {before after : State}
    (resets : ResetsKept config before) (kept : RequestsKept before after)
    {job : Job} (member : job ∈ before.jobs) {sent : Int}
    (known : job.sent = some sent) :
    ∃ row ∈ after.requests, row.id = job.request ∧
      sent ≤ row.createdAt + cutOff := by
  obtain ⟨row, stored, id, young⟩ := resets.sent job member sent known
  obtain ⟨found, listed, same⟩ := kept row stored
  exact ⟨found, listed, same.id.trans id, same.createdAt ▸ young⟩

theorem ResetsKept.attempt {before : State} (resets : ResetsKept config before)
    {guard : AuthProtectionGuard.State}
    (advanced : Advanced config before.guard guard) :
    ResetsKept config { before with guard } where
  sent := resets.sent
  lasting reset listed lasts := by
    have later : guard.now < reset.moment + markerSeconds * 1000 := lasts
    have earlier := resets.lasting reset listed
      (lt_of_le_of_lt advanced.later later)
    rw [advanced.marker, earlier]
    exact Option.filter_eq_some_iff.mpr ⟨rfl, decide_eq_true later⟩
  once := resets.once

/-- A reset that is executed: when it is performed, it is for the first time. -/
theorem ResetsKept.execute {before : State} (resets : ResetsKept config before)
    (logged : Logged config before)
    (bounded : cutOff + lag < markerSeconds * 1000) {job : Job}
    (member : job ∈ before.jobs) {sent : Int} (known : job.sent = some sent)
    (soon : before.guard.now ≤ sent + lag) {row : UnblockRequest}
    (found : before.requests.find job.request = some row) (executed' : Bool) :
    ResetsKept config ((before.execute config row).2.setJob
      { job with executed := executed' }) := by
  obtain ⟨listed, same⟩ := Table.find_eq_some.mp found
  have sentAfter : ∀ other ∈ before.jobs.put { job with executed := executed' },
      ∀ sent, other.sent = some sent → ∃ row ∈ before.requests,
        row.id = other.request ∧ sent ≤ row.createdAt + cutOff := by
    intro other put moment sent
    rcases Table.mem_put.mp put with rfl | ⟨old, -⟩
    · exact resets.sent job member moment sent
    · exact resets.sent other old moment sent
  rcases executed row (logged.sound 0) with
    ⟨-, -, unchanged, performed⟩ | ⟨-, unchanged, performed⟩ |
    ⟨unknown, reset, performed⟩
  · exact resets.carry rfl
      (fun key request => unchanged.markers key request.text) performed sentAfter
  · exact resets.carry rfl
      (fun key request => unchanged.markers key request.text) performed sentAfter
  · have first : ∀ earlier ∈ before.performed, earlier.request ≠ row.id := by
      intro earlier logged' again
      obtain ⟨other, otherKnown, id, key, past⟩ := logged.stored earlier logged'
      obtain rfl := Table.eq_of_key otherKnown listed (id.trans again)
      obtain ⟨young, youngKnown, youngId, limit⟩ :=
        resets.sent job member sent known
      obtain rfl := Table.eq_of_key youngKnown listed (youngId.trans same.symm)
      have standing := resets.lasting earlier logged' (by omega)
      rw [← key, again, unknown] at standing
      cases standing
    constructor
    · exact sentAfter
    · intro earlier logged' lasts
      change earlier ∈ (before.execute config row).2.performed at logged'
      rw [performed] at logged'
      rcases List.mem_append.mp logged' with old | new
      · rw [← resets.lasting earlier old lasts]
        exact reset.markers _ earlier.request (first earlier old)
      · rw [List.mem_singleton.mp new]
        exact reset.recorded
    · change ((before.execute config row).2.performed.map _).Nodup
      rw [performed, List.map_append, List.map_singleton]
      refine List.nodup_append.mpr ⟨resets.once, List.nodup_singleton _, ?_⟩
      intro old logged' new last
      obtain ⟨earlier, member, rfl⟩ := List.mem_map.mp logged'
      rw [List.mem_singleton.mp last]
      exact first earlier member

theorem resets_transition {before after : State} (stored : Stored before)
    (logged : Logged config before)
    (bounded : cutOff + lag < markerSeconds * 1000)
    (resets : ResetsKept config before)
    (transition : Transition config lag before after) :
    ResetsKept config after := by
  have kept := requests_kept stored transition
  have carried {jobs : Table Job}
      (known : ∀ job ∈ jobs, job.sent = none ∨ ∃ old ∈ before.jobs,
        old.sent = job.sent ∧ old.request = job.request) :
      ∀ job ∈ jobs, ∀ sent, job.sent = some sent →
        ∃ row ∈ after.requests, row.id = job.request ∧
          sent ≤ row.createdAt + cutOff := by
    intro job member sent some
    rcases known job member with none | ⟨old, listed, same, request⟩
    · rw [none] at some
      cases some
    · rw [← request]
      exact resets.sent_kept kept listed (same.trans some)
  have same : ∀ job ∈ before.jobs, job.sent = none ∨ ∃ old ∈ before.jobs,
      old.sent = job.sent ∧ old.request = job.request :=
    fun job member => .inr ⟨job, member, rfl, rfl⟩
  have moved (job : Job) (member : job ∈ before.jobs) (stage : JobStage) :
      ∀ other ∈ before.jobs.put { job with stage }, other.sent = none ∨
        ∃ old ∈ before.jobs, old.sent = other.sent ∧
          old.request = other.request := by
    intro other put
    rcases Table.mem_put.mp put with rfl | ⟨old, -⟩
    · exact .inr ⟨job, member, rfl, rfl⟩
    · exact same other old
  have started (id : Nat) (request : Uuid) :
      ∀ other ∈ before.jobs.put { id, request }, other.sent = none ∨
        ∃ old ∈ before.jobs, old.sent = other.sent ∧
          old.request = other.request := by
    intro other put
    rcases Table.mem_put.mp put with rfl | ⟨old, -⟩
    · exact .inl rfl
    · exact same other old
  cases transition with
  | attempt advanced => exact resets.attempt advanced
  | unblock => exact resets.carry rfl (fun _ _ => rfl) rfl (carried same)
  | worker worked =>
      cases worked with
      | only => exact resets.carry rfl (fun _ _ => rfl) rfl (carried same)
      | start request worker absent =>
          exact resets.carry rfl (fun _ _ => rfl) rfl
            (carried (started _ request))
  | job member worked =>
      rename_i job step
      cases worked with
      | send stage found young =>
          refine resets.carry rfl (fun _ _ => rfl) rfl ?_
          intro other put sent some
          rcases Table.mem_put.mp put with rfl | ⟨old, -⟩
          · obtain ⟨listed, same⟩ := Table.find_eq_some.mp found
            obtain rfl := Option.some.inj some
            exact ⟨_, listed, same, young⟩
          · exact resets.sent other old sent some
      | execute known soon found =>
          exact resets.execute logged bounded member known soon found _
      | _ =>
          exact resets.carry rfl (fun _ _ => rfl) rfl
            (carried (moved job member _))
  | call member worked =>
      cases worked with
      | process stage absent =>
          exact resets.carry rfl (fun _ _ => rfl) rfl (carried (started _ _))
      | _ => exact resets.carry rfl (fun _ _ => rfl) rfl (carried same)

theorem resets_start (now : Int) : ResetsKept config (State.start mode now) where
  sent job member := absurd member (Table.not_mem_empty job)
  lasting _ member := absurd member List.not_mem_nil
  once := List.nodup_nil

theorem resets_of_reachable {now : Int} {state : State}
    (bounded : cutOff + lag < markerSeconds * 1000)
    (reachable : (machine config mode sha256 lag).Reachable
      (State.start mode now) state) :
    Kept config state ∧ ResetsKept config state := by
  refine @Machine.Reachable.invariant _ _ _ _ _
    (fun state => Kept config state ∧ ResetsKept config state) reachable ?_ ?_
  · exact ⟨kept_start now, resets_start now⟩
  · rintro event before after ⟨kept, resets⟩ stepped
    have transition := Transition.of_step kept.logged.sound stepped
    exact ⟨kept_transition kept transition, resets_transition kept.stored
      kept.logged bounded resets transition⟩

/-- A step of the unblock service. -/
def Event.Service : Event → Prop
  | .attempt _ | .miscount _ => False
  | _ => True

def State.terminalEvents (state : State) (request : Uuid) : List Activity :=
  (auditsOf request state.activities).filter fun activity =>
    activity.event = "login.unblocked" ∨ activity.event = "login.unblock.expired"

structure Safe (state : State) : Prop where
  once : ∀ request, (state.performed.filter fun performed =>
    performed.request = request).length ≤ 1
  terminal : ∀ request, (state.terminalEvents request).length ≤ 1

/-- The counters are as before. -/
def SameCounters (config : RuntimeConfig) (before after : State) : Prop :=
  ∀ key, after.storage.counter config.keyPrefix after.guard.now key =
    before.storage.counter config.keyPrefix before.guard.now key

structure SafeStep (config : RuntimeConfig) (before : State) (event : Event)
    (after : State) : Prop where
  logged : event.Service → after.performed = before.performed →
    SameCounters config before after
  retry : ∀ id job, event = .job id .execute →
    before.jobs.find id = some job →
      (∃ performed ∈ before.performed, performed.request = job.request) →
        SameCounters config before after
  blocks : event.Service → ∀ block ∈ before.guard.blocks,
    block ∈ after.guard.blocks ∨
      ∃ id step job row, event = .job id step ∧
        before.jobs.find id = some job ∧
        before.requests.find job.request = some row ∧ row.key = block.key ∧
        row.blockGeneration = some block.generation

/-- A job changes no counter unless it performs the reset of its request. -/
theorem counters_of_job {before after : State} {job : Job} {step : JobStep}
    (sound : before.storage.Sound)
    (moved : JobMove config lag before job step after) :
    SameCounters config before after ∨
      ∃ performed, after.performed = before.performed ++ [performed] ∧
        performed.request = job.request := by
  cases moved with
  | execute known soon found =>
      rename_i row sent
      rcases executed row sound with ⟨-, -, unchanged, -⟩ | ⟨-, unchanged, -⟩ |
        ⟨-, -, performed⟩
      · exact .inl unchanged.counters
      · exact .inl unchanged.counters
      · exact .inr ⟨_, performed, (Table.find_eq_some.mp found).2⟩
  | _ => exact .inl fun _ => rfl

/-- A row is deleted for the request that has captured its generation. -/
theorem deleteBlock_keeps {row : UnblockRequest} {blocks : Table LoginBlock}
    {block : LoginBlock} (member : block ∈ blocks) :
    block ∈ deleteBlock row blocks ∨
      row.key = block.key ∧ row.blockGeneration = some block.generation := by
  unfold deleteBlock
  split
  · rename_i matched
    obtain ⟨found, known, generation⟩ := (Option.any_eq_true _ _).mp matched
    obtain ⟨stored, key⟩ := Table.find_eq_some.mp known
    by_cases here : block.key = row.key
    · obtain rfl := Table.eq_of_key stored member (key.trans here.symm)
      exact .inr ⟨here.symm, of_decide_eq_true generation⟩
    · exact .inl (Table.mem_drop.mpr ⟨member, here⟩)
  · exact .inl member

theorem blocks_of_job {before after : State} {job : Job} {step : JobStep}
    (moved : JobMove config lag before job step after) {block : LoginBlock}
    (member : block ∈ before.guard.blocks) :
    block ∈ after.guard.blocks ∨
      ∃ row, before.requests.find job.request = some row ∧
        row.key = block.key ∧ row.blockGeneration = some block.generation := by
  cases moved with
  | complete acknowledged stage found =>
      exact (deleteBlock_keeps member).imp_right fun captured =>
        ⟨_, found, captured⟩
  | _ => exact .inl member

theorem CallMove.guard {before after : State} {call : Call} {step : CallStep}
    (moved : CallMove before call step after) :
    after.guard = before.guard ∧ after.performed = before.performed := by
  cases moved <;> exact ⟨rfl, rfl⟩

theorem WorkerMove.guard {before after : State}
    (moved : WorkerMove before after) :
    after.guard = before.guard ∧ after.performed = before.performed := by
  cases moved <;> exact ⟨rfl, rfl⟩

/-- A step that leaves the guard's state alone is safe. -/
theorem SafeStep.of_guard {before after : State} {event : Event}
    (same : after.guard = before.guard) : SafeStep config before event after := by
  have counters : SameCounters config before after := by
    intro key
    unfold State.storage
    rw [same]
  exact ⟨fun _ _ => counters, fun _ _ _ _ _ => counters,
    fun _ block member => .inl (same ▸ member)⟩

theorem safeStep_of_kept {before after : State} {event : Event}
    (bounded : cutOff + lag < markerSeconds * 1000) (kept : Kept config before)
    (resets : ResetsKept config before)
    (stepped : (machine config mode sha256 lag).step event before = some after) :
    SafeStep config before event after := by
  have resetsAfter := resets_transition kept.stored kept.logged bounded resets
    (.of_step kept.logged.sound stepped)
  change act config mode sha256 lag event before = some after at stepped
  cases event with
  | attempt | miscount => exact ⟨False.elim, nofun, False.elim⟩
  | unblock id key actor =>
      simp only [act] at stepped
      split at stepped
      · cases stepped
      · obtain rfl := Option.some.inj stepped
        exact .of_guard rfl
  | call id step =>
      obtain ⟨call, -, acted⟩ := Option.bind_eq_some_iff.mp stepped
      exact .of_guard (CallMove.of_act acted).guard.1
  | worker id step => exact .of_guard (WorkerMove.of_act stepped).guard.1
  | job id step =>
      obtain ⟨job, found, acted⟩ := Option.bind_eq_some_iff.mp stepped
      have moved := JobMove.of_act acted
      have counted := counters_of_job (kept.logged.sound 0) moved
      constructor
      · intro _ same
        rcases counted with counters | ⟨performed, logged, -⟩
        · exact counters
        · rw [same] at logged
          exact absurd logged (by simp)
      · rintro _ other ⟨⟩ known ⟨earlier, listed, again⟩
        obtain rfl := Option.some.inj (found.symm.trans known)
        rcases counted with counters | ⟨performed, logged, request⟩
        · exact counters
        · have once := resetsAfter.once
          rw [logged, List.map_append, List.nodup_append] at once
          exact absurd (again.trans request.symm) (once.2.2 _
            (List.mem_map_of_mem listed) _ (List.mem_singleton_self _))
      · intro _ block member
        refine (blocks_of_job moved member).imp_right ?_
        rintro ⟨row, stored, captured⟩
        exact ⟨id, step, job, row, rfl, found, stored, captured⟩

theorem safe_of_kept {state : State} (kept : Kept config state)
    (resets : ResetsKept config state) : Safe state where
  once request := by
    have distinct : ((state.performed.filter fun performed =>
        performed.request = request).map Performed.request).Nodup :=
      resets.once.sublist (List.filter_sublist.map _)
    have same : (state.performed.filter fun performed =>
        performed.request = request).map Performed.request ⊆ [request] := by
      intro other listed
      obtain ⟨performed, member, rfl⟩ := List.mem_map.mp listed
      exact List.mem_singleton.mpr
        (of_decide_eq_true (List.mem_filter.mp member).2)
    have length := List.Nodup.length_le_of_subset distinct same
    rwa [List.length_map] at length
  terminal request := by
    unfold State.terminalEvents
    cases found : state.requests.find request with
    | none =>
        have none : auditsOf request state.activities = [] := by
          refine List.filter_eq_nil_iff.mpr fun activity listed same => ?_
          obtain ⟨row, known, id⟩ := kept.audits.known activity listed
          exact Table.find_eq_none.mp found row known
            (id.trans (of_decide_eq_true same))
        rw [none]
        exact Nat.zero_le 1
    | some row =>
        obtain ⟨member, rfl⟩ := Table.find_eq_some.mp found
        have audited := kept.audits.rows row member
        unfold Audited at audited
        simp only [UnblockRequest.key_eq]
        cases completed : row.completedAt with
        | none =>
            rw [completed] at audited
            rw [audited]
            simp [UnblockRequest.audit]
        | some moment =>
            rw [completed] at audited
            rcases audited with audited | audited <;>
              · rw [audited]
                simp [UnblockRequest.audit]

/-- A request resets the counter at most once, a retry erases no attempt, only
blocks of its own generation are deleted, and it ends at most once. -/
theorem unblock_safe (now : Int) (bounded : cutOff + lag < markerSeconds * 1000)
    {state : State}
    (reachable : (machine config mode sha256 lag).Reachable
      (State.start mode now) state) :
    Safe state ∧ ∀ event after,
      (machine config mode sha256 lag).step event state = some after →
        SafeStep config state event after := by
  obtain ⟨kept, resets⟩ := resets_of_reachable bounded reachable
  exact ⟨safe_of_kept kept resets, fun _ _ stepped =>
    safeStep_of_kept bounded kept resets stepped⟩

namespace Sample

/-- The audit of the first job fails, after its reset; a worker retries. -/
def recovered : List Event :=
  blocked ++ asked 1 request ++
    [.call 1 (.process 1), .job 1 .select, .job 1 .checkAge, .job 1 .execute,
      .job 1 .statement, .job 1 .statement, .job 1 .fail, .call 1 .processed,
      .call 1 .answer] ++
    attempt 3 ++
    [.worker 1 .reconcile, .worker 1 (.process 2), .job 2 .select,
      .job 2 .checkAge, .job 2 .execute, .job 2 .statement, .job 2 .statement,
      .job 2 .statement, .job 2 .statement, .job 2 (.commit true),
      .worker 1 .processed]

end Sample

theorem unblock_safe_recovered :
    ((machine Sample.strict .cluster id 3000).run Sample.recovered
        (State.start .cluster 0)).isSome ∧
      Safe (((machine Sample.strict .cluster id 3000).run Sample.recovered
        (State.start .cluster 0)).getD (State.start .cluster 0)) := by
  have ran : ((machine Sample.strict .cluster id 3000).run Sample.recovered
      (State.start .cluster 0)).isSome := by decide +kernel
  exact ⟨ran, (unblock_safe 0 (by decide) (.of_run Sample.recovered ran)).1⟩

end LoginUnblock

end SaasFoundation
