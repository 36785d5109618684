import SaasFoundation.Settings.UnblockAnswers

/-!
# When `unblock` tells the truth

In runs of regular steps every answer is true.
-/

namespace SaasFoundation

open Relational RedisService

namespace LoginUnblock

variable {config : RuntimeConfig} {mode : RedisMode} {sha256 : String → String}
  {lag : Int} {before after : State}

theorem JobTrue.carry {call : Call} {request : Uuid} {id : Nat}
    (known : JobTrue before call request id) (follows : Follows before after)
    (started : Started before call)
    (jobs : ∀ job ∈ before.jobs, job.id = id → job ∈ after.jobs)
    (pending : PendingStored before call.key → PendingStored after call.key) :
    JobTrue after call request id := by
  obtain ⟨job, member, same, of_, unblocked, failed⟩ := known
  exact ⟨job, jobs job member same, same, of_,
    fun ended => (unblocked ended).carry follows started,
    fun ended => pending (failed ended)⟩

/-- No request and no job changes. -/
theorem stages_same (answering : Answering before)
    (follows : Follows before after)
    (requests : after.requests = before.requests)
    (jobs : ∀ job ∈ before.jobs, job ∈ after.jobs) {call : Call}
    (member : call ∈ before.calls) : StageTrue after call call.stage := by
  have known := answering.stages call member
  have started := answering.started call member
  refine known.carry follows started requests fun request id stage => ?_
  rw [stage] at known
  refine known.2.carry follows started (fun job listed _ => jobs job listed) ?_
  unfold PendingStored
  rw [requests]
  exact fun stored => stored

/-- A job gets on; what it ends with is what its call has to answer. -/
theorem stages_setJob (answering : Answering before)
    (follows : Follows before after)
    (requests : after.requests = before.requests) {job next : Job}
    (member : job ∈ before.jobs) (jobs : after.jobs = before.jobs.put next)
    (id : next.id = job.id) (of_ : next.request = job.request)
    (verdict : ∀ call ∈ before.calls,
      call.stage = .processing job.request job.id →
        Awaits before call job.request →
          JobTrue before call job.request job.id →
            (next.stage = .ended (.returned true) → Settled before call) ∧
              (next.stage.Unsuccessful → PendingStored before call.key))
    {call : Call} (called : call ∈ before.calls) :
    StageTrue after call call.stage := by
  have known := answering.stages call called
  have started := answering.started call called
  have pending : PendingStored before call.key → PendingStored after call.key := by
    unfold PendingStored
    rw [requests]
    exact fun stored => stored
  refine known.carry follows started requests fun request held stage => ?_
  rw [stage] at known
  by_cases here : held = job.id
  · subst here
    have jobTrue := known.2
    obtain ⟨old, listed, same, asked, -, -⟩ := jobTrue
    obtain rfl := Table.eq_of_key listed member same
    subst asked
    obtain ⟨unblocked, failed⟩ := verdict call called stage known.1 known.2
    refine ⟨next, jobs ▸ Table.mem_put.mpr (.inl rfl), id, of_, ?_, ?_⟩
    · exact fun ended => (unblocked ended).carry follows started
    · exact fun ended => pending (failed ended)
  · refine known.2.carry follows started (fun old listed same => ?_) pending
    rw [jobs]
    refine Table.mem_put.mpr (.inr ⟨listed, fun again => here ?_⟩)
    exact same.symm.trans (again.trans id)

/-- A request that is joined and reset is all the call has asked for. -/
theorem Joins.settle {call : Call} {row : UnblockRequest}
    (logged : Logged config before) (joins : Joins before call row)
    (listed : row ∈ before.requests) (key : row.key = call.key)
    (performed : Performed.For before.performed row.id)
    (log : after.performed = before.performed)
    (blocks : after.guard.blocks = deleteBlock row before.guard.blocks) :
    Settled after call := by
  obtain ⟨reset, member, request⟩ := performed
  obtain ⟨other, known, id, same, -⟩ := logged.stored reset member
  obtain rfl := Table.eq_of_key known listed (id.trans request)
  constructor
  · rw [log]
    rw [← List.take_append_drop call.seen before.performed] at member
    rcases List.mem_append.mp member with early | late
    · exact absurd request (joins.2 reset early)
    · exact ⟨reset, late, same.symm.trans key⟩
  · intro block found current stored sameKey
    rw [blocks] at stored
    rcases joins.1 block found with captured | gone
    · exact deleteBlock_gone captured stored (sameKey.trans key.symm)
    · exact gone current (mem_deleteBlock stored) sameKey

/-- A request is completed; the calls that wait for it are settled by that, or
there are none. -/
theorem stages_finish (answering : Answering before) (unique : Unique before)
    (follows : Follows before after) {row : UnblockRequest} {moment : Int}
    (listed : row ∈ before.requests) (open_ : row.completedAt = none)
    (requests : after.requests =
      before.requests.put { row with completedAt := some moment })
    {job : Job} (member : job ∈ before.jobs) {next : Job}
    (jobs : after.jobs = before.jobs.put next) (id : next.id = job.id)
    (of_ : next.request = job.request) (same : row.id = job.request)
    (settles : ∀ call ∈ before.calls, call.key = row.key → call.stage.Waits →
      (Joins before call row → Settled after call) ∧ ¬Disappointed before call)
    (succeeds : ∀ call ∈ before.calls,
      call.stage = .processing job.request job.id → call.key = row.key →
        ¬next.stage.Unsuccessful) {call : Call}
    (called : call ∈ before.calls) : StageTrue after call call.stage := by
  have known := answering.stages call called
  have started := answering.started call called
  have kept : ∀ other ∈ before.requests, other.id ≠ row.id →
      other ∈ after.requests := by
    intro other stored apart
    rw [requests]
    exact Table.mem_put.mpr (.inr ⟨stored, apart⟩)
  have fewer : PendingStored after call.key → PendingStored before call.key :=
    pending_finish requests
  have pending (apart : call.key ≠ row.key)
      (stored : PendingStored before call.key) :
      PendingStored after call.key := by
    obtain ⟨other, old, key, none⟩ := stored
    refine ⟨other, kept other old ?_, key, none⟩
    intro ids
    obtain rfl := Table.eq_of_key old listed ids
    exact apart key.symm
  have settled (waits : call.stage.Waits) (key : call.key = row.key)
      (joins : Joins before call row) : Settled after call :=
    (settles call called key waits).1 joins
  have awaits (waits : call.stage.Waits) (request : Uuid)
      (awaits : Awaits before call request) : Awaits after call request := by
    by_cases here : request = row.id
    · obtain ⟨other, old, ids, key, uncompleted, -⟩ := awaits
      obtain rfl := Table.eq_of_key old listed (ids.trans here)
      refine ⟨{ other with completedAt := some moment }, ?_, here.symm, key,
        nofun, fun _ => settled waits key.symm (uncompleted open_)⟩
      rw [requests]
      exact Table.mem_put.mpr (.inl rfl)
    · exact awaits.carry follows started fun other stored ids =>
        kept other stored fun again => here (ids.symm.trans again)
  cases stage : call.stage with
  | called | begun | answered | failed => trivial
  | read now block =>
      rw [stage] at known
      exact Captured.carry known follows started
  | inserted other | audited other =>
      rw [stage] at known
      exact ⟨known.1, known.2.1.carry follows started,
        fun stored => known.2.2 (fewer stored)⟩
  | conflicted =>
      rw [stage] at known
      have waits : call.stage.Waits := by rw [stage]; trivial
      by_cases key : call.key = row.key
      · refine ⟨fun other stored otherKey none => ?_, fun _ =>
          settled waits key (known.1 row listed key.symm open_)⟩
        rw [requests] at stored
        rcases Table.mem_put.mp stored with rfl | ⟨old, apart⟩
        · cases none
        · exact absurd (congrArg UnblockRequest.id (unique.rows other old row
            listed none open_ (otherKey.trans key))) apart
      · refine ⟨fun other stored otherKey none => ?_, fun none => ?_⟩
        · rw [requests] at stored
          rcases Table.mem_put.mp stored with rfl | ⟨old, -⟩
          · cases none
          · exact (known.1 other old otherKey none).carry follows started
        · exact (known.2 fun stored => none (pending key stored)).carry follows
            started
  | found request =>
      rw [stage] at known
      cases request with
      | none => exact Settled.carry known follows started
      | some request =>
          exact awaits (by rw [stage]; trivial) request known
  | stored request =>
      rw [stage] at known
      exact awaits (by rw [stage]; trivial) request known
  | processing request held =>
      rw [stage] at known
      have waits : call.stage.Waits := by rw [stage]; trivial
      have after_ := awaits waits request known.1
      refine ⟨after_, ?_⟩
      have jobTrue := known.2
      obtain ⟨old, oldMember, ids, asked, unblocked, failed⟩ := jobTrue
      by_cases here : held = job.id
      · obtain rfl := Table.eq_of_key oldMember member (ids.trans here)
        obtain ⟨found, stored, found_id, key, -, -⟩ := known.1
        obtain rfl := Table.eq_of_key stored listed
          (found_id.trans (asked.symm.trans same.symm))
        refine ⟨next, jobs ▸ Table.mem_put.mpr (.inl rfl), id.trans here.symm,
          of_.trans asked, fun _ => ?_, fun ended => ?_⟩
        · obtain ⟨row', stored', ids', -, -, completed⟩ := after_
          have renewed : row' = { found with completedAt := some moment } := by
            rw [requests] at stored'
            rcases Table.mem_put.mp stored' with rfl | ⟨-, apart⟩
            · rfl
            · exact absurd (ids'.trans found_id.symm) apart
          exact completed (by rw [renewed]; exact Option.some_ne_none moment)
        · refine absurd ended (succeeds call called ?_ key.symm)
          rw [stage, ← asked, here]
      · refine ⟨old, ?_, ids, asked, fun ended => ?_, fun ended => ?_⟩
        · rw [jobs]
          refine Table.mem_put.mpr (.inr ⟨oldMember, fun again => here ?_⟩)
          exact ids.symm.trans (again.trans id)
        · exact (unblocked ended).carry follows started
        · by_cases key : call.key = row.key
          · refine absurd (.inr ⟨old, oldMember, ?_, ended⟩)
              (settles call called key waits).2
            rw [stage, ids]
            rfl
          · exact pending key (failed ended)
  | answering answer =>
      rw [stage] at known
      cases answer with
      | unblocked => exact Settled.carry known follows started
      | saved =>
          by_cases key : call.key = row.key
          · exact absurd (.inl stage) (settles call called key
              (by rw [stage]; trivial)).2
          · exact pending key known

/-- A row that was held back is stored: whoever has met a pending request of
its key is settled by now. -/
theorem stages_store (answering : Answering before) (unique : Unique before)
    (logged : Logged config before) (follows : Follows before after)
    {owner : Call} (owning : owner ∈ before.calls) {row : UnblockRequest}
    (held : owner.stage.uncommitted = some row)
    (missing : before.requests.find row.id = none)
    (requests : after.requests = before.requests.put row)
    (jobs : after.jobs = before.jobs) {call : Call} (called : call ∈ before.calls)
    (other : call ≠ owner) : StageTrue after call call.stage := by
  have known := answering.stages call called
  have started := answering.started call called
  have free := unique.free owner owning row held
  have kept : ∀ old ∈ before.requests, old ∈ after.requests := by
    intro old stored
    rw [requests]
    exact Table.mem_put.mpr (.inr ⟨stored, Table.find_eq_none.mp missing old stored⟩)
  have pending : PendingStored before call.key → PendingStored after call.key := by
    rintro ⟨old, stored, key, open_⟩
    exact ⟨old, kept old stored, key, open_⟩
  have unlogged : ∀ performed ∈ before.performed, performed.request ≠ row.id := by
    intro performed listed same
    obtain ⟨old, stored, id, -⟩ := logged.stored performed listed
    exact Table.find_eq_none.mp missing old stored (id.trans same)
  have fewer (apart : row.key ≠ call.key)
      (stored : PendingStored after call.key) : PendingStored before call.key := by
    obtain ⟨old, member, key, open_⟩ := stored
    rw [requests] at member
    rcases Table.mem_put.mp member with rfl | ⟨member, -⟩
    · exact absurd key apart
    · exact ⟨old, member, key, open_⟩
  cases stage : call.stage with
  | called | begun | answered | failed => trivial
  | read now block =>
      rw [stage] at known
      exact Captured.carry known follows started
  | inserted mine | audited mine =>
      rw [stage] at known
      have uncommitted : call.stage.uncommitted = some mine := by rw [stage]; rfl
      have apart : row.key ≠ call.key := fun same =>
        other (unique.calls call called owner owning mine row uncommitted held
          (known.1.trans same.symm))
      exact ⟨known.1, known.2.1.carry follows started,
        fun stored => known.2.2 (fewer apart stored)⟩
  | conflicted =>
      rw [stage] at known
      by_cases same : row.key = call.key
      · have settled : Settled after call :=
          (known.2 (same ▸ free)).carry follows started
        refine ⟨fun old member key open_ => ?_, fun _ => settled⟩
        rw [requests] at member
        rcases Table.mem_put.mp member with rfl | ⟨member, -⟩
        · refine ⟨fun block found => .inr (settled.2 block found), ?_⟩
          obtain ⟨more, grown⟩ := follows.performed
          rw [grown, List.take_append_of_le_length started.seen]
          exact fun performed listed =>
            unlogged performed (List.mem_of_mem_take listed)
        · exact absurd ⟨old, member, key.trans same.symm, open_⟩ free
      · refine ⟨fun old member key open_ => ?_, fun none =>
          (known.2 fun stored => none (pending stored)).carry follows started⟩
        rw [requests] at member
        rcases Table.mem_put.mp member with rfl | ⟨member, -⟩
        · exact absurd key same
        · exact (known.1 old member key open_).carry follows started
  | found request =>
      rw [stage] at known
      cases request with
      | none => exact Settled.carry known follows started
      | some request =>
          exact Awaits.carry known follows started fun old member _ =>
            kept old member
  | stored request =>
      rw [stage] at known
      exact Awaits.carry known follows started fun old member _ => kept old member
  | processing request job =>
      rw [stage] at known
      exact ⟨known.1.carry follows started fun old member _ => kept old member,
        known.2.carry follows started (fun old member _ => jobs ▸ member) pending⟩
  | answering answer =>
      rw [stage] at known
      cases answer with
      | unblocked => exact Settled.carry known follows started
      | saved => exact pending known

/-- The row of a call is stored: the call awaits it. -/
theorem awaits_stored (answering : Answering before)
    (logged : Logged config before) (follows : Follows before after)
    {call : Call} (called : call ∈ before.calls) {row : UnblockRequest}
    (stage : call.stage = .audited row)
    (missing : before.requests.find row.id = none) (open_ : row.completedAt = none)
    (requests : after.requests = before.requests.put row) :
    Awaits after call row.id := by
  have known := answering.stages call called
  have started := answering.started call called
  rw [stage] at known
  refine ⟨row, requests ▸ Table.mem_put.mpr (.inl rfl), rfl, known.1, fun _ => ?_,
    fun completed => absurd open_ completed⟩
  refine ⟨known.2.1.carry follows started, ?_⟩
  obtain ⟨more, grown⟩ := follows.performed
  rw [grown, List.take_append_of_le_length started.seen]
  intro performed listed same
  obtain ⟨old, stored, id, -⟩ :=
    logged.stored performed (List.mem_of_mem_take listed)
  exact Table.find_eq_none.mp missing old stored (id.trans same)

/-- The block a call reads is the one it has found, or that one is gone. -/
theorem captured_now (state : State) (call : Call) :
    Captured state call
      ((state.guard.blocks.find call.key).map LoginBlock.generation) := by
  intro block _
  cases found : state.guard.blocks.find call.key with
  | none =>
      exact .inr fun other member key _ =>
        Table.find_eq_none.mp found other member key
  | some current =>
      obtain ⟨stored, same⟩ := Table.find_eq_some.mp found
      by_cases here : current.generation = block.generation
      · exact .inl (congrArg some here)
      · refine .inr fun other member key => ?_
        obtain rfl := Table.eq_of_key member stored (key.trans same.symm)
        exact here

/-- What a call that moves has to answer from now on. -/
theorem stage_of_call (known : Known config before) {call : Call}
    (called : call ∈ before.calls) {step : CallStep}
    (moved : CallMove before call step after)
    (regular : ∀ candidate, step = .insert candidate →
      ∀ row ∈ before.pending call.key, Joins before call row) :
    ∃ stage, after.calls = before.calls.put { call with stage } ∧
      StageTrue after { call with stage } stage := by
  have here := known.answering.stages call called
  cases moved with
  | transaction stage => exact ⟨_, rfl, trivial⟩
  | findBlock stage => exact ⟨_, rfl, captured_now before call⟩
  | insert stage fresh free none =>
      rw [stage] at here
      exact ⟨_, rfl, rfl, here, pending_eq_none none⟩
  | conflict stage pending =>
      refine ⟨_, rfl, fun row member key open_ => ?_, fun none => ?_⟩
      · obtain ⟨stored, same, uncompleted⟩ := pending_eq_some pending
        obtain rfl := known.unique.rows row member _ stored open_ uncompleted
          (key.trans same.symm)
        exact regular _ rfl row pending
      · exact absurd ⟨_, pending_eq_some pending⟩ none
  | audit stage =>
      rw [stage] at here
      exact ⟨_, rfl, here⟩
  | findPending stage =>
      rw [stage] at here
      refine ⟨_, rfl, ?_⟩
      cases found : before.pending call.key with
      | none =>
          have settled : Settled before call := here.2 (pending_eq_none found)
          exact settled
      | some row =>
          obtain ⟨stored, same, open_⟩ := pending_eq_some found
          exact ⟨row, stored, rfl, same, fun _ => here.1 row stored same open_,
            fun completed => absurd open_ completed⟩
  | store acknowledged stage =>
      rename_i row
      have held := known.kept.stored.calls call called
      rw [stage] at held
      refine ⟨_, rfl, ?_⟩
      have follows : Follows before (before.store row) := .of_same rfl rfl
      have awaits : Awaits (before.store row) call row.id :=
        awaits_stored known.answering known.kept.logged follows called stage
          held.2.1 held.2.2.2 rfl
      cases acknowledged with
      | true => exact awaits
      | false => trivial
  | join stage =>
      rw [stage] at here
      exact ⟨_, rfl, here⟩
  | nothing stage =>
      rw [stage] at here
      exact ⟨_, rfl, here⟩
  | fail step early => exact ⟨_, rfl, trivial⟩
  | process stage absent =>
      rw [stage] at here
      exact ⟨_, rfl, here, _, Table.mem_put.mpr (.inl rfl), rfl, rfl, nofun,
        False.elim⟩
  | unblocked stage found ended =>
      rw [stage] at here
      obtain ⟨job, member, id, -, settled, -⟩ := here.2
      obtain ⟨stored, same⟩ := Table.find_eq_some.mp found
      obtain rfl := Table.eq_of_key member stored (id.trans same.symm)
      exact ⟨_, rfl, settled ended⟩
  | saved stage found ended unsettled =>
      rename_i request id job outcome
      rw [stage] at here
      obtain ⟨old, member, same, -, -, failed⟩ := here.2
      obtain ⟨stored, again⟩ := Table.find_eq_some.mp found
      obtain rfl := Table.eq_of_key member stored (same.trans again.symm)
      refine ⟨_, rfl, failed ?_⟩
      rw [ended]
      match outcome, unsettled with
      | .returned false, _ => trivial
      | .threw, _ => trivial
      | .returned true, unsettled => exact absurd rfl unsettled
  | answer stage => exact ⟨_, rfl, trivial⟩

theorem stages_call (known : Known config before) {call : Call}
    (called : call ∈ before.calls) {step : CallStep}
    (moved : CallMove before call step after)
    (regular : ∀ candidate, step = .insert candidate →
      ∀ row ∈ before.pending call.key, Joins before call row) :
    ∀ other ∈ after.calls, StageTrue after other other.stage := by
  obtain ⟨stage, calls, true_⟩ := stage_of_call known called moved regular
  have follows : Follows before after := by cases moved <;> exact .of_same rfl rfl
  intro other member
  rw [calls] at member
  rcases Table.mem_put.mp member with rfl | ⟨old, apart⟩
  · exact true_
  · cases moved with
    | store acknowledged held =>
        have stored := known.kept.stored.calls call called
        rw [held] at stored
        refine stages_store known.answering known.unique known.kept.logged follows
          called (by rw [held]; rfl) stored.2.1 rfl rfl old ?_
        rintro rfl
        exact apart rfl
    | process held absent =>
        refine stages_same known.answering follows rfl (fun job listed => ?_) old
        exact Table.mem_put.mpr (.inr
          ⟨listed, Table.find_eq_none.mp absent job listed⟩)
    | _ =>
        exact stages_same known.answering follows rfl (fun _ listed => listed) old

theorem stages_worker (known : Known config before)
    (moved : WorkerMove before after) :
    ∀ call ∈ after.calls, StageTrue after call call.stage := by
  have follows : Follows before after := by cases moved <;> exact .of_same rfl rfl
  intro call member
  cases moved with
  | only =>
      exact stages_same known.answering follows rfl (fun _ listed => listed) member
  | start request worker absent =>
      refine stages_same known.answering follows rfl (fun job listed => ?_) member
      exact Table.mem_put.mpr (.inr
        ⟨listed, Table.find_eq_none.mp absent job listed⟩)

/-- The request of a call's job, when it is not completed, is saved. -/
theorem pending_of_awaits {call : Call} {request : Uuid}
    (awaits : Awaits before call request) (open_ : Uncompleted before request) :
    PendingStored before call.key := by
  obtain ⟨row, member, id, key, -, -⟩ := awaits
  obtain ⟨other, stored, same, none⟩ := open_
  obtain rfl := Table.eq_of_key stored member (same.trans id.symm)
  exact ⟨other, stored, key, none⟩

theorem stages_job (known : Known config before) {job : Job}
    (listed : job ∈ before.jobs) {step : JobStep}
    (moved : JobMove config lag before job step after)
    (regular : RegularJob before job step) :
    ∀ call ∈ after.calls, StageTrue after call call.stage := by
  have follows := follows_job (known.kept.logged.sound 0) moved
  have calledFor {call : Call} (member : call ∈ before.calls)
      (stage : call.stage = .processing job.request job.id) :
      CalledFor before job := ⟨call, member, by rw [stage]; rfl⟩
  have quiet (stage : JobStage) (sent : Option Int)
      (requests : after.requests = before.requests)
      (jobs : after.jobs = before.jobs.put { job with stage, sent })
      (running : ∀ outcome, stage ≠ .ended outcome) :
      ∀ call ∈ before.calls, StageTrue after call call.stage := by
    refine fun call member => stages_setJob known.answering follows requests
      listed jobs rfl rfl (fun _ _ _ _ _ => ?_) member
    refine ⟨fun ended => absurd ended (running _), fun failed => ?_⟩
    cases stage with
    | ended outcome => exact absurd rfl (running outcome)
    | _ => exact False.elim failed
  cases moved with
  | skip stage busy =>
      refine fun call member => stages_setJob known.answering follows rfl listed
        rfl rfl rfl (fun other called processing awaits _ => ?_) member
      refine ⟨(by simp), fun _ => pending_of_awaits awaits ?_⟩
      rcases busy with missing | locked
      · obtain ⟨row, stored, id, -⟩ := awaits
        exact absurd id (Table.find_eq_none.mp missing row stored)
      · exact regular (calledFor called processing) locked
  | already stage found free completed => exact quiet _ _ rfl rfl (by simp)
  | lock stage found free open_ => exact quiet _ _ rfl rfl (by simp)
  | tooOld stage found old => exact quiet _ _ rfl rfl (by simp)
  | send stage found young => exact quiet _ _ rfl rfl (by simp)
  | reset stage executed => exact quiet _ _ rfl rfl (by simp)
  | execute sent soon found =>
      refine fun call member => stages_setJob known.answering follows rfl listed
        rfl rfl rfl (fun other called processing awaits jobTrue => ?_) member
      obtain ⟨old, stored, same, -, verdict⟩ := jobTrue
      obtain rfl := Table.eq_of_key stored listed same
      exact verdict
  | statement inner next =>
      refine quiet _ _ rfl rfl ?_
      rintro outcome rfl
      cases stage : job.stage <;> simp [stage, JobStage.next] at next
  | release acknowledged stage =>
      refine fun call member => stages_setJob known.answering follows rfl listed
        rfl rfl rfl (fun other called processing awaits _ => ?_) member
      obtain rfl := regular.1 (calledFor called processing)
      refine ⟨fun _ => ?_, False.elim⟩
      obtain ⟨row, stored, id, -, -, completed⟩ := awaits
      obtain ⟨done, known, same, some⟩ := known.answering.already job listed stage
      obtain rfl := Table.eq_of_key known stored (same.trans id.symm)
      exact completed some
  | complete acknowledged stage found =>
      rename_i row moment
      have works : job.stage.Works := by rw [stage]; trivial
      obtain ⟨stored, open_⟩ := known.kept.locks.uncompleted listed works found
      have same : row.id = job.request := (Table.find_eq_some.mp found).2
      have performed : Performed.For before.performed row.id := by
        rw [same]
        exact known.kept.logged.jobs job listed (.inr (by rw [stage]; trivial))
      have free := regular.2 row found
      rw [stage] at free
      refine fun call member => stages_finish known.answering known.unique follows
        stored open_ rfl listed rfl rfl rfl same ?_ ?_ member
      · intro other called key waits
        exact ⟨fun joins => joins.settle known.kept.logged stored key.symm
          performed rfl rfl, fun disappointed =>
            free ⟨other, called, key, disappointed⟩⟩
      · intro other called processing _
        obtain rfl := regular.1 (calledFor called processing)
        exact id
  | expire acknowledged stage found =>
      rename_i row moment
      have works : job.stage.Works := by rw [stage]; trivial
      obtain ⟨stored, open_⟩ := known.kept.locks.uncompleted listed works found
      have same : row.id = job.request := (Table.find_eq_some.mp found).2
      have free := regular.2 row found
      rw [stage] at free
      refine fun call member => stages_finish known.answering known.unique follows
        stored open_ rfl listed rfl rfl rfl same ?_ ?_ member
      · intro other called key waits
        exact absurd ⟨other, called, key, waits⟩ free
      · intro other called processing key
        exact absurd ⟨other, called, key, by rw [processing]; trivial⟩ free
  | fail running =>
      refine fun call member => stages_setJob known.answering follows rfl listed
        rfl rfl rfl (fun other called processing awaits _ => ?_) member
      exact ⟨(by simp), fun _ => pending_of_awaits awaits
        (regular (calledFor called processing))⟩

theorem known_start (now : Int) : Known config (State.start mode now) where
  kept := kept_start now
  unique :=
    { rows := fun row member => absurd member (Table.not_mem_empty row)
      calls := fun call member => absurd member (Table.not_mem_empty call)
      free := fun call member => absurd member (Table.not_mem_empty call) }
  answering :=
    { written := fun block member => absurd member (Table.not_mem_empty block)
      started := fun call member => absurd member (Table.not_mem_empty call)
      already := fun job member => absurd member (Table.not_mem_empty job)
      stages := fun call member => absurd member (Table.not_mem_empty call) }

theorem stages_step (known : Known config before) {event : Event}
    (regular : Regular event before)
    (stepped : (machine config mode sha256 lag).step event before = some after) :
    ∀ call ∈ after.calls, StageTrue after call call.stage := by
  have follows := follows_transition (known.kept.logged.sound 0)
    (Transition.of_step known.kept.logged.sound stepped)
  change act config mode sha256 lag event before = some after at stepped
  cases event with
  | attempt event =>
      simp only [act] at stepped
      split at stepped
      · obtain ⟨guard, -, rfl⟩ := Option.map_eq_some_iff.mp stepped
        exact fun call => stages_same known.answering follows rfl
          fun _ listed => listed
      · cases stepped
  | miscount request =>
      obtain rfl := Option.some.inj stepped
      exact fun call => stages_same known.answering follows rfl
        fun _ listed => listed
  | unblock id key actor =>
      simp only [act] at stepped
      split at stepped
      · cases stepped
      · obtain rfl := Option.some.inj stepped
        intro call member
        rcases Table.mem_put.mp member with rfl | ⟨old, -⟩
        · trivial
        · exact stages_same known.answering follows rfl (fun _ listed => listed) old
  | call id step =>
      obtain ⟨call, found, acted⟩ := Option.bind_eq_some_iff.mp stepped
      refine stages_call known (Table.find_eq_some.mp found).1
        (CallMove.of_act acted) ?_
      rintro candidate rfl
      exact regular call found
  | job id step =>
      obtain ⟨job, found, acted⟩ := Option.bind_eq_some_iff.mp stepped
      exact stages_job known (Table.find_eq_some.mp found).1 (JobMove.of_act acted)
        (regular job found)
  | worker id step => exact stages_worker known (WorkerMove.of_act stepped)

theorem known_step (event : Event) (before after : State)
    (known : Known config before)
    (stepped : ((machine config mode sha256 lag).restrict Regular).step event
      before = some after) : Known config after := by
  obtain ⟨regular, stepped⟩ := Machine.restrict_step.mp stepped
  have sound := known.kept.logged.sound
  have transition := Transition.of_step sound stepped
  exact {
    kept := kept_transition known.kept transition
    unique := unique_transition known.unique transition
    answering :=
      { written := written_transition known.answering transition
        started := started_transition (sound 0) known.answering transition
        already := already_transition known.kept.stored known.answering transition
        stages := stages_step known regular stepped } }

/-- In a run of regular steps `unblock` tells the truth. -/
theorem truthful_of_regular (now : Int) {state : State}
    (reachable : ((machine config mode sha256 lag).restrict Regular).Reachable
      (State.start mode now) state) :
    Truthful state := by
  have known : Known config state :=
    reachable.invariant (known_start now) known_step
  constructor
  · intro call member stage
    have answer := known.answering.stages call member
    rwa [stage] at answer
  · intro call member stage
    have answer := known.answering.stages call member
    rwa [stage] at answer

namespace Sample

/-- A call whose request is processed without delay. -/
def served : List Event :=
  blocked ++ asked 1 request ++
    [.call 1 (.process 1), .job 1 .select, .job 1 .checkAge, .job 1 .execute,
      .job 1 .statement, .job 1 .statement, .job 1 .statement, .job 1 .statement,
      .job 1 (.commit true), .call 1 .processed]

/-- A second call finds the request of the first one past the cut-off. -/
def late : List Event :=
  blocked ++ asked 1 request ++
    [.call 1 (.process 1), .job 1 .select, .job 1 .checkAge, .job 1 .fail,
      .call 1 .processed, .call 1 .answer, .attempt (.wait 86400001),
      .unblock 2 "10.0.0.1" 7, .call 2 .transaction, .call 2 .findBlock,
      .call 2 (.insert generation), .call 2 .findPending, .call 2 (.commit true),
      .call 2 (.process 2), .job 2 .select, .job 2 .checkAge, .job 2 .statement,
      .job 2 .statement, .job 2 (.commit true), .call 2 .processed]

end Sample

theorem truthful_of_regular_served :
    (((machine Sample.strict .cluster id 3000).restrict Regular).run
        Sample.served (State.start .cluster 0)).isSome ∧
      Truthful ((((machine Sample.strict .cluster id 3000).restrict
        Regular).run Sample.served (State.start .cluster 0)).getD
          (State.start .cluster 0)) := by
  have ran : (((machine Sample.strict .cluster id 3000).restrict Regular).run
      Sample.served (State.start .cluster 0)).isSome := by decide +kernel
  exact ⟨ran, truthful_of_regular 0 (.of_run Sample.served ran)⟩

/-- A request that expires is said to be saved for automatic retry. -/
theorem expired_is_saved :
    ¬∀ state, (machine Sample.strict .cluster id 3000).Reachable
      (State.start .cluster 0) state → Truthful state := by
  intro truthful
  have ran : ((machine Sample.strict .cluster id 3000).run Sample.late
      (State.start .cluster 0)).isSome := by decide +kernel
  have saved := (truthful _ (.of_run Sample.late ran)).saved
  revert saved
  decide +kernel

end LoginUnblock

end SaasFoundation
