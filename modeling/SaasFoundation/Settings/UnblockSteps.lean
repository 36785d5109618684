import SaasFoundation.Settings.LoginUnblock

/-!
# What a step can do

The steps of calls and jobs with everything they require, and what the attempts
do to the part of the state they share with the unblock service.
-/

namespace SaasFoundation

open Relational RedisService

namespace LoginUnblock

variable {config : RuntimeConfig} {mode : RedisMode} {sha256 : String → String}
  {lag : Int}

/-- No row of the call is committed yet. -/
def CallStage.Early : CallStage → Prop
  | .called | .begun _ | .read _ _ | .inserted _ | .audited _ | .conflicted
  | .found _ => True
  | _ => False

inductive CallMove (before : State) (call : Call) :
    CallStep → State → Prop where
  | transaction (stage : call.stage = .called) :
      CallMove before call .transaction (before.moveCall call (.begun before.guard.now))
  | findBlock {now : Int} (stage : call.stage = .begun now) :
      CallMove before call .findBlock
        (before.moveCall call (.read now (before.guard.blocks.find call.key)))
  | insert {candidate : Uuid} {now : Int} {block : Option LoginBlock}
      (stage : call.stage = .read now block) (fresh : candidate ∉ before.used)
      (free : ¬before.Reserved call.key) (none : before.pending call.key = none) :
      CallMove before call (.insert candidate)
        ({ before with used := candidate :: before.used }.moveCall call
          (.inserted
            { id := candidate
              key := call.key
              actorId := call.actor
              blockGeneration := block.map LoginBlock.generation
              createdAt := now
              completedAt := Option.none }))
  | conflict {candidate : Uuid} {now : Int} {block : Option LoginBlock}
      {row : UnblockRequest} (stage : call.stage = .read now block)
      (pending : before.pending call.key = some row) :
      CallMove before call (.insert candidate)
        ({ before with used := candidate :: before.used }.moveCall call
          .conflicted)
  | audit {row : UnblockRequest} (stage : call.stage = .inserted row) :
      CallMove before call .audit (before.moveCall call (.audited row))
  | findPending (stage : call.stage = .conflicted) :
      CallMove before call .findPending
        (before.moveCall call
          (.found ((before.pending call.key).map UnblockRequest.id)))
  | store {row : UnblockRequest} (acknowledged : Bool)
      (stage : call.stage = .audited row) :
      CallMove before call (.commit acknowledged)
        ((before.store row).moveCall call
          (if acknowledged then .stored row.id else .failed))
  | join {request : Uuid} (stage : call.stage = .found (some request)) :
      CallMove before call (.commit true) (before.moveCall call (.stored request))
  | nothing (stage : call.stage = .found none) :
      CallMove before call (.commit true) (before.moveCall call (.answering .unblocked))
  | fail (step : CallStep) (early : call.stage.Early) :
      CallMove before call step (before.moveCall call .failed)
  | process {request : Uuid} {job : Nat} (stage : call.stage = .stored request)
      (absent : before.jobs.find job = none) :
      CallMove before call (.process job)
        ((before.setJob { id := job, request }).moveCall call
          (.processing request job))
  | unblocked {request : Uuid} {id : Nat} {job : Job}
      (stage : call.stage = .processing request id)
      (found : before.jobs.find id = some job)
      (ended : job.stage = .ended (.returned true)) :
      CallMove before call .processed (before.moveCall call (.answering .unblocked))
  | saved {request : Uuid} {id : Nat} {job : Job} {outcome : Outcome}
      (stage : call.stage = .processing request id)
      (found : before.jobs.find id = some job)
      (ended : job.stage = .ended outcome)
      (unsettled : outcome ≠ .returned true) :
      CallMove before call .processed (before.moveCall call (.answering .saved))
  | answer {answer : Answer} (stage : call.stage = .answering answer) :
      CallMove before call .answer (before.moveCall call (.answered answer))

theorem CallMove.of_act {step : CallStep} {call : Call} {before after : State}
    (acted : actCall step call before = some after) :
    CallMove before call step after := by
  unfold actCall at acted
  split at acted
  · rename_i stage
    obtain rfl := Option.some.inj acted
    exact .transaction stage
  · rename_i stage
    obtain rfl := Option.some.inj acted
    exact .findBlock stage
  · rename_i candidate now block stage
    split at acted
    · cases acted
    · rename_i free
      obtain ⟨fresh, unreserved⟩ := not_or.mp free
      cases pending : before.pending call.key with
      | none =>
          simp only [pending] at acted
          obtain rfl := Option.some.inj acted
          exact .insert stage fresh unreserved pending
      | some row =>
          simp only [pending] at acted
          obtain rfl := Option.some.inj acted
          exact .conflict stage pending
  · rename_i row stage
    obtain rfl := Option.some.inj acted
    exact .audit stage
  · rename_i stage
    obtain rfl := Option.some.inj acted
    exact .findPending stage
  · rename_i acknowledged row stage
    obtain rfl := Option.some.inj acted
    exact .store acknowledged stage
  · rename_i acknowledged request stage
    obtain rfl := Option.some.inj acted
    cases acknowledged with
    | true => exact .join stage
    | false => exact .fail _ (by simp [stage, CallStage.Early])
  · rename_i acknowledged stage
    obtain rfl := Option.some.inj acted
    cases acknowledged with
    | true => exact .nothing stage
    | false => exact .fail _ (by simp [stage, CallStage.Early])
  iterate 7
    · rename_i stage
      obtain rfl := Option.some.inj acted
      exact .fail _ (by simp [stage, CallStage.Early])
  · rename_i job request stage
    split at acted
    · cases acted
    · rename_i absent
      obtain rfl := Option.some.inj acted
      exact .process stage (Option.not_isSome_iff_eq_none.mp absent)
  · rename_i request id stage
    split at acted
    · rename_i found
      obtain ⟨job, known, ended⟩ := Option.map_eq_some_iff.mp found
      obtain rfl := Option.some.inj acted
      exact .unblocked stage known ended
    · rename_i outcome other found
      obtain ⟨job, known, ended⟩ := Option.map_eq_some_iff.mp found
      obtain rfl := Option.some.inj acted
      refine .saved stage known ended ?_
      rintro rfl
      exact other rfl
    · cases acted
  · rename_i answer stage
    obtain rfl := Option.some.inj acted
    exact .answer stage
  · cases acted

/-- The statements between the first one and the commit. -/
def JobStage.Inner : JobStage → Prop
  | .reset | .deleted | .audited | .expired | .expiredCompleted _ => True
  | _ => False

variable (config lag) in
inductive JobMove (before : State) (job : Job) : JobStep → State → Prop where
  | skip (stage : job.stage = .begun)
      (busy : before.requests.find job.request = none ∨
        before.Locked job.request) :
      JobMove before job .select
        (before.setJob { job with stage := .ended (.returned false) })
  | already {row : UnblockRequest} (stage : job.stage = .begun)
      (found : before.requests.find job.request = some row)
      (free : ¬before.Locked job.request) (completed : row.completedAt ≠ none) :
      JobMove before job .select (before.setJob { job with stage := .already })
  | lock {row : UnblockRequest} (stage : job.stage = .begun)
      (found : before.requests.find job.request = some row)
      (free : ¬before.Locked job.request) (open_ : row.completedAt = none) :
      JobMove before job .select (before.setJob { job with stage := .locked })
  | tooOld {row : UnblockRequest} (stage : job.stage = .locked)
      (found : before.requests.find job.request = some row)
      (old : cutOff < before.guard.now - row.createdAt) :
      JobMove before job .checkAge (before.setJob { job with stage := .expired })
  | send {row : UnblockRequest} (stage : job.stage = .locked)
      (found : before.requests.find job.request = some row)
      (young : before.guard.now ≤ row.createdAt + cutOff) :
      JobMove before job .checkAge
        (before.setJob
          { job with stage := .resetting, sent := some before.guard.now })
  | execute {row : UnblockRequest} {sent : Int} (known : job.sent = some sent)
      (soon : before.guard.now ≤ sent + lag)
      (found : before.requests.find job.request = some row) :
      JobMove before job .execute
        ((before.execute config row).2.setJob
          { job with
            executed := job.executed || (before.execute config row).1.isOk })
  | reset (stage : job.stage = .resetting) (executed : job.executed = true) :
      JobMove before job .statement (before.setJob { job with stage := .reset })
  | statement {next : JobStage} (inner : job.stage.Inner)
      (follows : job.stage.next before.guard.now = some next) :
      JobMove before job .statement (before.setJob { job with stage := next })
  | release (acknowledged : Bool) (stage : job.stage = .already) :
      JobMove before job (.commit acknowledged)
        (before.setJob (job.commit acknowledged true))
  | complete {row : UnblockRequest} {moment : Int} (acknowledged : Bool)
      (stage : job.stage = .completed moment)
      (found : before.requests.find job.request = some row) :
      JobMove before job (.commit acknowledged)
        ((before.complete row moment).setJob (job.commit acknowledged true))
  | expire {row : UnblockRequest} {moment : Int} (acknowledged : Bool)
      (stage : job.stage = .expiredAudited moment)
      (found : before.requests.find job.request = some row) :
      JobMove before job (.commit acknowledged)
        ((before.expire row moment).setJob (job.commit acknowledged false))
  | fail (running : ∀ outcome, job.stage ≠ .ended outcome) :
      JobMove before job .fail (before.setJob { job with stage := .ended .threw })

theorem JobMove.of_act {step : JobStep} {job : Job} {before after : State}
    (acted : actJob config lag step job before = some after) :
    JobMove config lag before job step after := by
  unfold actJob at acted
  split at acted
  · rename_i stage
    cases found : before.requests.find job.request with
    | none =>
        simp only [found] at acted
        obtain rfl := Option.some.inj acted
        exact .skip stage (.inl found)
    | some row =>
        have same : row.id = job.request := (Table.find_eq_some.mp found).2
        simp only [found, same] at acted
        split at acted
        · rename_i busy
          obtain rfl := Option.some.inj acted
          exact .skip stage (.inr busy)
        · rename_i free
          split at acted
          · rename_i completed
            obtain rfl := Option.some.inj acted
            exact .already stage found free
              (Option.isSome_iff_ne_none.mp completed)
          · rename_i open_
            obtain rfl := Option.some.inj acted
            exact .lock stage found free (Option.not_isSome_iff_eq_none.mp open_)
  · rename_i stage
    obtain ⟨row, found, moved⟩ := Option.map_eq_some_iff.mp acted
    split at moved
    · rename_i old
      subst moved
      exact .tooOld stage found old
    · rename_i young
      subst moved
      exact .send stage found (by omega)
  · obtain ⟨sent, known, acted⟩ := Option.bind_eq_some_iff.mp acted
    split at acted
    · rename_i soon
      obtain ⟨row, found, rfl⟩ := Option.map_eq_some_iff.mp acted
      exact .execute known soon found
    · cases acted
  · rename_i stage
    split at acted
    · rename_i executed
      obtain rfl := Option.some.inj acted
      exact .reset stage executed
    · cases acted
  · obtain ⟨next, follows, rfl⟩ := Option.map_eq_some_iff.mp acted
    refine .statement ?_ follows
    cases stage : job.stage <;> simp [stage, JobStage.next] at follows <;>
      trivial
  · rename_i acknowledged
    cases stage : job.stage <;> simp only [stage, reduceCtorEq] at acted
    · obtain rfl := Option.some.inj acted
      exact .release acknowledged stage
    · obtain ⟨row, found, rfl⟩ := Option.map_eq_some_iff.mp acted
      exact .complete acknowledged stage found
    · obtain ⟨row, found, rfl⟩ := Option.map_eq_some_iff.mp acted
      exact .expire acknowledged stage found
  · cases acted
  · rename_i running
    obtain rfl := Option.some.inj acted
    exact .fail fun outcome same => running outcome same
  · cases acted

/-- A worker starts at most one job. -/
inductive WorkerMove (before : State) : State → Prop where
  | only (worker : Worker) : WorkerMove before (before.setWorker worker)
  | start {job : Nat} (request : Uuid) (worker : Worker)
      (absent : before.jobs.find job = none) :
      WorkerMove before
        ((before.setJob { id := job, request }).setWorker worker)

theorem WorkerMove.of_act {step : WorkerStep} {id : Nat} {before after : State}
    (acted : actWorker step id before = some after) :
    WorkerMove before after := by
  unfold actWorker at acted
  split at acted
  · obtain rfl := Option.some.inj acted
    exact .only _
  · obtain rfl := Option.some.inj acted
    exact .only _
  · split at acted
    · cases acted
    · rename_i absent
      obtain rfl := Option.some.inj acted
      exact .start _ _ (Option.not_isSome_iff_eq_none.mp absent)
  · split at acted
    · obtain rfl := Option.some.inj acted
      exact .only _
    · obtain rfl := Option.some.inj acted
      exact .only _
    · cases acted
  · cases acted

/-- What attempts may do: they count, and write blocks of new generations. -/
structure Advanced (config : RuntimeConfig)
    (before after : AuthProtectionGuard.State) : Prop where
  later : before.now ≤ after.now
  sound : ∀ store, (after.storages store).Sound
  markers : ∀ key id : String,
    (after.storages 0).marker config.keyPrefix after.now key id =
      (before.storages 0).marker config.keyPrefix after.now key id
  blocks : after.blocks = before.blocks ∨
    ∃ block : LoginBlock,
      block.generation ∉
          before.writes.map AuthProtectionGuard.BlockWrite.generation ∧
        block.generation ∈
          after.writes.map AuthProtectionGuard.BlockWrite.generation ∧
        after.blocks = before.blocks.put block
  writes : before.writes.map AuthProtectionGuard.BlockWrite.generation ⊆
    after.writes.map AuthProtectionGuard.BlockWrite.generation

section Attempts

variable {guard : AuthProtectionGuard.State}

/-- The blocks, the writes, the storages and the time are the same. -/
theorem Advanced.of_same (sound : ∀ store, (guard.storages store).Sound)
    {after : AuthProtectionGuard.State} (now : after.now = guard.now)
    (storages : after.storages = guard.storages)
    (blocks : after.blocks = guard.blocks) (writes : after.writes = guard.writes) :
    Advanced config guard after where
  later := le_of_eq now.symm
  sound := storages ▸ sound
  markers _ _ := by rw [storages]
  blocks := .inl blocks
  writes := by rw [writes]; exact List.Subset.refl _

/-- One key is counted. -/
theorem Advanced.consume (sound : ∀ store, (guard.storages store).Sound)
    (place : Nat) (key : String) {seconds : Int} (positive : 0 < seconds)
    {after : AuthProtectionGuard.State} (now : after.now = guard.now)
    (storages : after.storages = Function.update guard.storages place
      ((guard.storages place).consume config.keyPrefix guard.now key seconds).2)
    (blocks : after.blocks = guard.blocks) (writes : after.writes = guard.writes) :
    Advanced config guard after where
  later := le_of_eq now.symm
  sound := by
    intro other
    rw [storages]
    by_cases here : other = place
    · subst here
      rw [Function.update_self]
      exact Storage.consume_sound (sound other)
    · rw [Function.update_of_ne here]
      exact sound other
  markers := by
    intro other id
    rw [storages, now]
    by_cases here : 0 = place
    · subst here
      rw [Function.update_self]
      exact Storage.consume_marker positive (sound 0)
    · rw [Function.update_of_ne here]
  blocks := .inl blocks
  writes := by rw [writes]; exact List.Subset.refl _

theorem Advanced.of_act {event : AuthProtectionGuard.Event}
    (sound : ∀ store, (guard.storages store).Sound)
    (admissible : Admissible event) {after : AuthProtectionGuard.State}
    (acted : AuthProtectionGuard.act config mode sha256 event guard = some after) :
    Advanced config guard after := by
  have positive : 0 < config.rateWindowSeconds := config.rateWindowSeconds_pos
  cases event with
  | arrive id replica request captchaAction =>
      simp only [AuthProtectionGuard.act] at acted
      split at acted
      · cases acted
      · obtain rfl := Option.some.inj acted
        exact .of_same sound rfl rfl rfl rfl
  | consume id =>
      obtain ⟨attempt, -, moved⟩ := Option.bind_eq_some_iff.mp acted
      cases stage : attempt.stage <;> simp only [stage, reduceCtorEq] at moved
      obtain rfl := Option.some.inj moved
      generalize answer : (guard.storages _).consume _ _ _ _ = result
      obtain ⟨result, storage⟩ := result
      have stored := congrArg Prod.snd answer
      cases result with
      | error failure =>
          exact .consume sound _ _ positive rfl (by rw [stored]; rfl) rfl rfl
      | ok window =>
          exact .consume sound _ _ positive rfl (by rw [stored]; rfl) rfl rfl
  | block id generation =>
      obtain ⟨attempt, -, moved⟩ := Option.bind_eq_some_iff.mp acted
      cases stage : attempt.stage <;> simp only [stage, reduceCtorEq] at moved
      split at moved
      · cases moved
      · rename_i unused
        obtain rfl := Option.some.inj moved
        refine ⟨le_rfl, sound, fun _ _ => rfl, .inr ⟨_, unused, ?_, rfl⟩, ?_⟩
        · exact List.mem_map_of_mem
            (List.mem_append_right _ (List.mem_singleton_self _))
        · exact List.map_subset _ (List.subset_append_left _ _)
  | verify id refusal =>
      obtain ⟨attempt, -, moved⟩ := Option.bind_eq_some_iff.mp acted
      split at moved
      · obtain rfl := Option.some.inj moved
        exact .of_same sound rfl rfl rfl rfl
      · obtain rfl := Option.some.inj moved
        exact .of_same sound rfl rfl rfl rfl
      · cases moved
  | otherLimiter replica request route =>
      obtain rfl := Option.some.inj acted
      exact .consume sound _ _ (route.windowSeconds_pos config) rfl rfl rfl rfl
  | wait milliseconds =>
      obtain rfl := Option.some.inj acted
      refine ⟨?_, sound, fun _ _ => rfl, .inl rfl, List.Subset.refl _⟩
      exact le_add_of_nonneg_right (Int.natCast_nonneg milliseconds)
  | resetOnce | unblock | restart => exact admissible.elim

end Attempts

variable (config lag) in
inductive Transition (before : State) : State → Prop where
  | attempt {guard : AuthProtectionGuard.State}
      (advanced : Advanced config before.guard guard) :
      Transition before { before with guard }
  | unblock {call : Call} (absent : before.calls.find call.id = none)
      (block : call.blockAtStart = before.guard.blocks.find call.key)
      (seen : call.seen = before.performed.length)
      (stage : call.stage = .called) :
      Transition before { before with calls := before.calls.put call }
  | call {call : Call} {step : CallStep} {after : State}
      (member : call ∈ before.calls) (moved : CallMove before call step after) :
      Transition before after
  | job {job : Job} {step : JobStep} {after : State} (member : job ∈ before.jobs)
      (moved : JobMove config lag before job step after) :
      Transition before after
  | worker {after : State} (moved : WorkerMove before after) :
      Transition before after

theorem Transition.of_step {event : Event} {before after : State}
    (sound : ∀ store, (before.guard.storages store).Sound)
    (stepped : (machine config mode sha256 lag).step event before = some after) :
    Transition config lag before after := by
  change act config mode sha256 lag event before = some after at stepped
  cases event with
  | attempt event =>
      simp only [act] at stepped
      split at stepped
      · rename_i admissible
        obtain ⟨guard, acted, rfl⟩ := Option.map_eq_some_iff.mp stepped
        exact .attempt (.of_act sound admissible acted)
      · cases stepped
  | miscount request =>
      obtain rfl := Option.some.inj stepped
      exact .attempt (.consume sound 0 _ config.rateWindowSeconds_pos rfl rfl rfl
        rfl)
  | unblock id key actor =>
      simp only [act] at stepped
      split at stepped
      · cases stepped
      · rename_i absent
        obtain rfl := Option.some.inj stepped
        exact .unblock (Option.not_isSome_iff_eq_none.mp absent) rfl rfl rfl
  | call id step =>
      obtain ⟨call, found, acted⟩ := Option.bind_eq_some_iff.mp stepped
      exact .call (Table.find_eq_some.mp found).1 (.of_act acted)
  | job id step =>
      obtain ⟨job, found, acted⟩ := Option.bind_eq_some_iff.mp stepped
      exact .job (Table.find_eq_some.mp found).1 (.of_act acted)
  | worker id step => exact .worker (.of_act stepped)

end LoginUnblock

end SaasFoundation
