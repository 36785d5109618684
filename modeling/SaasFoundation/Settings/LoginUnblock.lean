import SaasFoundation.Platform.AuthProtectionGuard

/-!
# `settings/login-unblock.service.ts`

Calls of `unblock`, the workers of all replicas and the attempts of
`AuthProtectionGuard` over one database and one rate-limit storage.  Every
statement is a step of its own and may fail.  What a transaction writes is
applied at its commit, as the rows it changes stay locked until then; a commit
may be applied although its acknowledgement is lost.  The reset sent by a
transaction may be executed late and more than once.
-/

namespace SaasFoundation

open Relational RedisService

namespace LoginUnblock

/-- A row of `login_unblock_requests`. -/
structure UnblockRequest where
  id : Uuid
  key : String
  actorId : Nat
  blockGeneration : Option Uuid
  createdAt : Int
  completedAt : Option Int
  deriving DecidableEq

instance : Keyed UnblockRequest Uuid := ⟨UnblockRequest.id⟩

@[simp] theorem UnblockRequest.key_eq (row : UnblockRequest) :
    Relational.key row = row.id := rfl

/-- A row of `activities`; `request` is what it was written for. -/
structure Activity where
  request : Uuid
  operatorId : Nat
  event : String
  uri : String
  deriving DecidableEq

/-- `this.mutations.audit` for a request. -/
def UnblockRequest.audit (row : UnblockRequest) (event : String) : Activity :=
  { request := row.id, operatorId := row.actorId, event, uri := row.key }

inductive Answer where
  | unblocked
  | saved
  deriving DecidableEq

/-- Where a call of `unblock` stands; the rows at `inserted` and `audited` are
not committed. -/
inductive CallStage where
  | called
  | begun (now : Int)
  | read (now : Int) (block : Option LoginBlock)
  | inserted (row : UnblockRequest)
  | audited (row : UnblockRequest)
  | conflicted
  | found (request : Option Uuid)
  | stored (request : Uuid)
  | processing (request : Uuid) (job : Nat)
  | answering (answer : Answer)
  | answered (answer : Answer)
  | failed
  deriving DecidableEq

/-- How a call of `process` ended. -/
inductive Outcome where
  | returned (value : Bool)
  | threw
  deriving DecidableEq

inductive JobStage where
  | begun
  | already
  | locked
  | resetting
  | reset
  | deleted
  | audited
  | completed (moment : Int)
  | expired
  | expiredCompleted (moment : Int)
  | expiredAudited (moment : Int)
  | ended (outcome : Outcome)
  deriving DecidableEq

/-- A call of `process`; `sent` is when its request was found young enough,
and `executed` whether its reset has been executed. -/
structure Job where
  id : Nat
  request : Uuid
  stage : JobStage := .begun
  sent : Option Int := none
  executed : Bool := false
  deriving DecidableEq

/-- A reset the storage has performed. -/
structure Performed where
  request : Uuid
  key : String
  moment : Int
  deriving DecidableEq

/-- `blockAtStart` is the block there was when the call started, and `seen`
the number of resets performed before. -/
structure Call where
  id : Nat
  key : String
  actor : Nat
  blockAtStart : Option LoginBlock
  seen : Nat
  stage : CallStage
  deriving DecidableEq

/-- A running `reconcile`: the requests it still has to process. -/
structure Worker where
  id : Nat
  pending : List Uuid
  job : Option Nat
  deriving DecidableEq

instance : Keyed Job Nat := ⟨Job.id⟩
instance : Keyed Call Nat := ⟨Call.id⟩
instance : Keyed Worker Nat := ⟨Worker.id⟩

@[simp] theorem Job.key_eq (job : Job) : Relational.key job = job.id := rfl

@[simp] theorem Call.key_eq (call : Call) : Relational.key call = call.id := rfl

/-- `used` are the request ids `randomUUID` has answered. -/
structure State where
  guard : AuthProtectionGuard.State
  requests : Table UnblockRequest := ∅
  activities : List Activity := []
  calls : Table Call := ∅
  jobs : Table Job := ∅
  workers : Table Worker := ∅
  performed : List Performed := []
  used : List Uuid := []

inductive CallStep where
  | transaction
  | findBlock
  | insert (candidate : Uuid)
  | audit
  | findPending
  | commit (acknowledged : Bool)
  | fail
  | process (job : Nat)
  | processed
  | answer

inductive JobStep where
  | select
  | checkAge
  | execute
  | statement
  | commit (acknowledged : Bool)
  | fail

inductive WorkerStep where
  | reconcile
  | process (job : Nat)
  | processed

/-- `miscount` is an attempt that is counted but gets an error. -/
inductive Event where
  | attempt (event : AuthProtectionGuard.Event)
  | miscount (request : HttpRequest)
  | unblock (id : Nat) (key : String) (actor : Nat)
  | call (id : Nat) (step : CallStep)
  | job (id : Nat) (step : JobStep)
  | worker (id : Nat) (step : WorkerStep)

/-- The row lock of `SELECT .. FOR UPDATE` is held. -/
def JobStage.Holds : JobStage → Prop
  | .begun | .ended _ => False
  | _ => True

instance (stage : JobStage) : Decidable stage.Holds := by
  cases stage <;> unfold JobStage.Holds <;> infer_instance

/-- `completed_at` is set, but not committed. -/
def JobStage.Completes : JobStage → Prop
  | .completed _ | .expiredCompleted _ | .expiredAudited _ => True
  | _ => False

instance (stage : JobStage) : Decidable stage.Completes := by
  cases stage <;> unfold JobStage.Completes <;> infer_instance

/-- The row a call has inserted but not committed. -/
def CallStage.uncommitted : CallStage → Option UnblockRequest
  | .inserted row | .audited row => some row
  | _ => none

/-- Requests older than this, in milliseconds, are not processed. -/
def cutOff : Int := 86400000

/-- The next statement of `process`, unless it is the reset. -/
def JobStage.next (now : Int) : JobStage → Option JobStage
  | .reset => some .deleted
  | .deleted => some .audited
  | .audited => some (.completed now)
  | .expired => some (.expiredCompleted now)
  | .expiredCompleted moment => some (.expiredAudited moment)
  | _ => none

/-- `DELETE FROM login_blocks WHERE key = .. AND generation = ..`. -/
def deleteBlock (row : UnblockRequest) (blocks : Table LoginBlock) :
    Table LoginBlock :=
  if (blocks.find row.key).any fun block =>
    row.blockGeneration = some block.generation then blocks.drop row.key
  else blocks

namespace State

def moveCall (call : Call) (stage : CallStage) (state : State) : State :=
  { state with calls := state.calls.put { call with stage } }

def setJob (job : Job) (state : State) : State :=
  { state with jobs := state.jobs.put job }

def setWorker (worker : Worker) (state : State) : State :=
  { state with workers := state.workers.put worker }

/-- The request the unique index admits for a key. -/
def pending (state : State) (key : String) : Option UnblockRequest :=
  state.requests.rows.find? fun row => row.key = key ∧ row.completedAt = none

def Locked (state : State) (request : Uuid) : Prop :=
  ∃ job ∈ state.jobs, job.request = request ∧ job.stage.Holds

instance (state : State) (request : Uuid) : Decidable (state.Locked request) :=
  inferInstanceAs (Decidable (∃ job ∈ state.jobs, _))

/-- An `INSERT` has to wait for what another transaction does to the key. -/
def Reserved (state : State) (key : String) : Prop :=
  (∃ call ∈ state.calls,
    call.stage.uncommitted.map UnblockRequest.key = some key) ∨
  ∃ job ∈ state.jobs, job.stage.Completes ∧
    (state.requests.find job.request).map UnblockRequest.key = some key

instance (state : State) (key : String) : Decidable (state.Reserved key) :=
  inferInstanceAs (Decidable (_ ∨ _))

/-- The request and its audit are committed. -/
def store (row : UnblockRequest) (state : State) : State :=
  { state with
    requests := state.requests.put row
    activities := state.activities ++ [row.audit "login.unblock.requested"] }

/-- The request is completed, its block deleted, and the audit written. -/
def complete (row : UnblockRequest) (moment : Int) (state : State) : State :=
  { state with
    guard :=
      { state.guard with blocks := deleteBlock row state.guard.blocks }
    requests := state.requests.put { row with completedAt := some moment }
    activities := state.activities ++ [row.audit "login.unblocked"] }

def expire (row : UnblockRequest) (moment : Int) (state : State) : State :=
  { state with
    requests := state.requests.put { row with completedAt := some moment }
    activities := state.activities ++ [row.audit "login.unblock.expired"] }

/-- The oldest uncompleted requests, twenty at most. -/
def oldest (state : State) : List Uuid :=
  (((state.requests.rows.filter fun row => row.completedAt = none).mergeSort
    fun left right => left.createdAt < right.createdAt ∨
      left.createdAt = right.createdAt ∧ left.id.text ≤ right.id.text).take
        20).map UnblockRequest.id

end State

section Steps

variable (config : RuntimeConfig) (mode : RedisMode) (sha256 : String → String)
  (lag : Int)

def actCall (step : CallStep) (call : Call) (state : State) : Option State :=
  match step, call.stage with
  | .transaction, .called => some (state.moveCall call (.begun state.guard.now))
  | .findBlock, .begun now =>
      some (state.moveCall call (.read now (state.guard.blocks.find call.key)))
  | .insert candidate, .read now block =>
      if candidate ∈ state.used ∨ state.Reserved call.key then none
      else
        let stage : CallStage :=
          match state.pending call.key with
          | some _ => .conflicted
          | none =>
              .inserted
                { id := candidate
                  key := call.key
                  actorId := call.actor
                  blockGeneration := block.map LoginBlock.generation
                  createdAt := now
                  completedAt := none }
        some ({ state with used := candidate :: state.used }.moveCall call stage)
  | .audit, .inserted row => some (state.moveCall call (.audited row))
  | .findPending, .conflicted =>
      some (state.moveCall call
        (.found ((state.pending call.key).map UnblockRequest.id)))
  | .commit acknowledged, .audited row =>
      some ((state.store row).moveCall call
        (if acknowledged then .stored row.id else .failed))
  | .commit acknowledged, .found (some request) =>
      some (state.moveCall call
        (if acknowledged then .stored request else .failed))
  | .commit acknowledged, .found none =>
      some (state.moveCall call
        (if acknowledged then .answering .unblocked else .failed))
  | .fail, .called | .fail, .begun _ | .fail, .read _ _ | .fail, .inserted _
  | .fail, .audited _ | .fail, .conflicted | .fail, .found _ =>
      some (state.moveCall call .failed)
  | .process job, .stored request =>
      if (state.jobs.find job).isSome then none
      else
        some ((state.setJob { id := job, request }).moveCall call
          (.processing request job))
  | .processed, .processing _ job =>
      match (state.jobs.find job).map Job.stage with
      | some (.ended (.returned true)) =>
          some (state.moveCall call (.answering .unblocked))
      | some (.ended _) => some (state.moveCall call (.answering .saved))
      | _ => none
  | .answer, .answering answer => some (state.moveCall call (.answered answer))
  | _, _ => none

/-- The reset of a request is executed; a deletion is recorded. -/
def State.execute (row : UnblockRequest) (state : State) :
    Except Failure Unit × State :=
  let storage := state.guard.storages 0
  let answer := storage.resetOnce config.keyPrefix state.guard.now
    (authKey row.key) row.id.text
  let known := storage.marker config.keyPrefix state.guard.now
    (authKey row.key) row.id.text
  (answer.1,
    { state with
      guard := state.guard.setStorage 0 answer.2
      performed :=
        if answer.1.isOk ∧ known = none then
          state.performed ++
            [{ request := row.id, key := row.key, moment := state.guard.now }]
        else state.performed })

/-- The commit is applied; without its acknowledgement `process` throws. -/
def Job.commit (acknowledged value : Bool) (job : Job) : Job :=
  { job with
    stage := .ended (if acknowledged then .returned value else .threw) }

def actJob (step : JobStep) (job : Job) (state : State) : Option State :=
  match step, job.stage with
  | .select, .begun =>
      match state.requests.find job.request with
      | none => some (state.setJob { job with stage := .ended (.returned false) })
      | some row =>
          if state.Locked row.id then
            some (state.setJob { job with stage := .ended (.returned false) })
          else if row.completedAt.isSome then
            some (state.setJob { job with stage := .already })
          else some (state.setJob { job with stage := .locked })
  | .checkAge, .locked =>
      (state.requests.find job.request).map fun row =>
        if cutOff < state.guard.now - row.createdAt then
          state.setJob { job with stage := .expired }
        else
          state.setJob
            { job with stage := .resetting, sent := some state.guard.now }
  | .execute, _ =>
      job.sent.bind fun sent =>
        if state.guard.now ≤ sent + lag then
          (state.requests.find job.request).map fun row =>
            let (result, after) := state.execute config row
            after.setJob { job with executed := job.executed || result.isOk }
        else none
  | .statement, .resetting =>
      if job.executed then some (state.setJob { job with stage := .reset })
      else none
  | .statement, stage =>
      (stage.next state.guard.now).map fun stage =>
        state.setJob { job with stage }
  | .commit acknowledged, stage =>
      match stage with
      | .already => some (state.setJob (job.commit acknowledged true))
      | .completed moment =>
          (state.requests.find job.request).map fun row =>
            (state.complete row moment).setJob (job.commit acknowledged true)
      | .expiredAudited moment =>
          (state.requests.find job.request).map fun row =>
            (state.expire row moment).setJob (job.commit acknowledged false)
      | _ => none
  | .fail, .ended _ => none
  | .fail, _ => some (state.setJob { job with stage := .ended .threw })
  | _, _ => none

def actWorker (step : WorkerStep) (id : Nat) (state : State) : Option State :=
  match step, state.workers.find id with
  | .reconcile, none =>
      some (state.setWorker { id, pending := state.oldest, job := none })
  | .reconcile, some { pending := [], job := none, .. } =>
      some (state.setWorker { id, pending := state.oldest, job := none })
  | .process job, some { pending := request :: rest, job := none, .. } =>
      if (state.jobs.find job).isSome then none
      else
        some ((state.setJob { id := job, request }).setWorker
          { id, pending := rest, job := some job })
  | .processed, some { pending, job := some job, .. } =>
      match (state.jobs.find job).map Job.stage with
      | some (.ended (.returned _)) =>
          some (state.setWorker { id, pending, job := none })
      | some (.ended .threw) =>
          some (state.setWorker { id, pending := [], job := none })
      | _ => none
  | _, _ => none

/-- What the attempts do, and the time. -/
def Admissible : AuthProtectionGuard.Event → Prop
  | .resetOnce _ _ _ | .unblock _ | .restart _ => False
  | _ => True

instance (event : AuthProtectionGuard.Event) : Decidable (Admissible event) := by
  cases event <;> unfold Admissible <;> infer_instance

def act (event : Event) (state : State) : Option State :=
  match event with
  | .attempt event =>
      if Admissible event then
        (AuthProtectionGuard.act config mode sha256 event state.guard).map
          fun guard => { state with guard }
      else none
  | .miscount request =>
      let answer := (state.guard.storages 0).consume config.keyPrefix
        state.guard.now (authKey (sha256 request.address))
        config.rateWindowSeconds
      some { state with guard := state.guard.setStorage 0 answer.2 }
  | .unblock id key actor =>
      if (state.calls.find id).isSome then none
      else
        let call : Call :=
          { id, key, actor
            blockAtStart := state.guard.blocks.find key
            seen := state.performed.length
            stage := .called }
        some { state with calls := state.calls.put call }
  | .call id step => (state.calls.find id).bind fun call => actCall step call state
  | .job id step =>
      (state.jobs.find id).bind fun job => actJob config lag step job state
  | .worker id step => actWorker step id state

def machine : Machine State Event := ⟨act config mode sha256 lag⟩

def State.start (now : Int) : State :=
  { guard := AuthProtectionGuard.State.start mode now }

end Steps

namespace Sample

/-- One attempt passes, the second one is blocked. -/
def strict : RuntimeConfig where
  keyPrefix := "enterprise"
  rateLimit := 1
  rateWindowSeconds := 60
  apiRateLimit := 120
  apiRateWindowSeconds := 60
  rateLimit_pos := Nat.one_pos
  rateWindowSeconds_pos := defaultConfig.rateWindowSeconds_pos
  apiRateWindowSeconds_pos := defaultConfig.apiRateWindowSeconds_pos

def request : Uuid := RedisService.Sample.operation

def generation : Uuid where
  text := "1b4e28ba-2fa1-41d2-883f-0016d3cca427"
  digits := @of_decide_eq_true _ (List.decidableBAll _ _) rfl
  groups := by decide

def attempt (id : Nat) : List Event :=
  [.attempt (.arrive id 0
      { ip := some "10.0.0.1", remoteAddress := none, bearer := 0 } none),
    .attempt (.consume id)]

/-- Two attempts, the second of which writes a block. -/
def blocked : List Event :=
  attempt 1 ++ attempt 2 ++ [.attempt (.block 2 generation)]

def asked (call : Nat) (candidate : Uuid) : List Event :=
  [.unblock call "10.0.0.1" 7, .call call .transaction, .call call .findBlock,
    .call call (.insert candidate), .call call .audit,
    .call call (.commit true)]

end Sample

end LoginUnblock

end SaasFoundation
