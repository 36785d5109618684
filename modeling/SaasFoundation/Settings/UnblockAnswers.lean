import SaasFoundation.Settings.UnblockResets

/-!
# The answers of `unblock`

A call that joins a pending request answers for what the job of that request
does; a request that is past the cut-off is completed without a reset.
-/

namespace SaasFoundation

open Relational RedisService

namespace LoginUnblock

variable {config : RuntimeConfig} {mode : RedisMode} {sha256 : String → String}
  {lag : Int}

/-- No block of the generation is stored. -/
def Gone (state : State) (key : String) (generation : Uuid) : Prop :=
  ∀ block ∈ state.guard.blocks, block.key = key → block.generation ≠ generation

instance (state : State) (key : String) (generation : Uuid) :
    Decidable (Gone state key generation) :=
  inferInstanceAs (Decidable (∀ block ∈ state.guard.blocks, _))

/-- The counter has been reset since the call started, and the block there was
is gone. -/
def Settled (state : State) (call : Call) : Prop :=
  (∃ performed ∈ state.performed.drop call.seen, performed.key = call.key) ∧
    ∀ block ∈ call.blockAtStart, Gone state call.key block.generation

/-- A request for the key is saved for retry. -/
def PendingStored (state : State) (key : String) : Prop :=
  ∃ row ∈ state.requests, row.key = key ∧ row.completedAt = none

instance (state : State) (key : String) : Decidable (PendingStored state key) :=
  inferInstanceAs (Decidable (∃ row ∈ state.requests, _))

/-- Every call that is about to answer tells the truth. -/
structure Truthful (state : State) : Prop where
  unblocked : ∀ call ∈ state.calls, call.stage = .answering .unblocked →
    Settled state call
  saved : ∀ call ∈ state.calls, call.stage = .answering .saved →
    PendingStored state call.key

/-- The pending request is about the block the call has found, and has not been
reset yet when the call started. -/
def Joins (state : State) (call : Call) (row : UnblockRequest) : Prop :=
  (∀ block ∈ call.blockAtStart, row.blockGeneration = some block.generation ∨
    Gone state call.key block.generation) ∧
  ∀ performed ∈ state.performed.take call.seen, performed.request ≠ row.id

instance (state : State) (call : Call) (row : UnblockRequest) :
    Decidable (Joins state call row) :=
  inferInstanceAs (Decidable (_ ∧ _))

def CallStage.job : CallStage → Option Nat
  | .processing _ job => some job
  | _ => none

/-- The call depends on a request that is stored. -/
def CallStage.Waits : CallStage → Prop
  | .conflicted | .found (some _) | .stored _ | .processing _ _
  | .answering .saved => True
  | _ => False

instance (stage : CallStage) : Decidable stage.Waits := by
  unfold CallStage.Waits
  split <;> infer_instance

def JobStage.Unsuccessful : JobStage → Prop
  | .ended (.returned false) | .ended .threw => True
  | _ => False

instance (stage : JobStage) : Decidable stage.Unsuccessful := by
  unfold JobStage.Unsuccessful
  split <;> infer_instance

/-- The processing of the call has ended without success, and the call has yet
to answer. -/
def Disappointed (state : State) (call : Call) : Prop :=
  call.stage = .answering .saved ∨
    ∃ job ∈ state.jobs, call.stage.job = some job.id ∧ job.stage.Unsuccessful

instance (state : State) (call : Call) : Decidable (Disappointed state call) :=
  inferInstanceAs (Decidable (_ ∨ _))

/-- The job runs for a call of `unblock`. -/
def CalledFor (state : State) (job : Job) : Prop :=
  ∃ call ∈ state.calls, call.stage.job = some job.id

instance (state : State) (job : Job) : Decidable (CalledFor state job) :=
  inferInstanceAs (Decidable (∃ call ∈ state.calls, _))

def Uncompleted (state : State) (request : Uuid) : Prop :=
  ∃ row ∈ state.requests, row.id = request ∧ row.completedAt = none

instance (state : State) (request : Uuid) :
    Decidable (Uncompleted state request) :=
  inferInstanceAs (Decidable (∃ row ∈ state.requests, _))

/-- Who must not depend on a request that is completed. -/
def Hindered (state : State) (row : UnblockRequest) : JobStage → Prop
  | .completed _ => ∃ call ∈ state.calls,
      call.key = row.key ∧ Disappointed state call
  | .expiredAudited _ => ∃ call ∈ state.calls,
      call.key = row.key ∧ call.stage.Waits
  | _ => False

instance (state : State) (row : UnblockRequest) (stage : JobStage) :
    Decidable (Hindered state row stage) :=
  match stage with
  | .completed _ | .expiredAudited _ =>
      inferInstanceAs (Decidable (∃ call ∈ state.calls, _))
  | .begun | .already | .locked | .resetting | .reset | .deleted | .audited |
    .expired | .expiredCompleted _ | .ended _ =>
      inferInstanceAs (Decidable False)

def RegularJob (state : State) (job : Job) : JobStep → Prop
  | .select => CalledFor state job → state.Locked job.request →
      Uncompleted state job.request
  | .fail => CalledFor state job → Uncompleted state job.request
  | .commit acknowledged =>
      (CalledFor state job → acknowledged = true) ∧
        ∀ row ∈ state.requests.find job.request,
          ¬Hindered state row job.stage
  | _ => True

instance (state : State) (job : Job) (step : JobStep) :
    Decidable (RegularJob state job step) := by
  cases step <;> unfold RegularJob <;> infer_instance

/-- A call joins a request only in its favour; what it depends on is neither
expired nor completed behind its back; its own job does not fail on a request
that is completed already. -/
def Regular (event : Event) (state : State) : Prop :=
  match event with
  | .call id (.insert _) => ∀ call ∈ state.calls.find id,
      ∀ row ∈ state.pending call.key, Joins state call row
  | .job id step => ∀ job ∈ state.jobs.find id, RegularJob state job step
  | _ => True

instance (event : Event) (state : State) : Decidable (Regular event state) := by
  unfold Regular
  split <;> infer_instance

def State.generations (state : State) : List Uuid :=
  state.guard.writes.map AuthProtectionGuard.BlockWrite.generation

theorem mem_deleteBlock {row : UnblockRequest} {blocks : Table LoginBlock}
    {block : LoginBlock} (member : block ∈ deleteBlock row blocks) :
    block ∈ blocks := by
  unfold deleteBlock at member
  split at member
  · exact (Table.mem_drop.mp member).1
  · exact member

/-- The captured generation is gone once it is deleted. -/
theorem deleteBlock_gone {row : UnblockRequest} {blocks : Table LoginBlock}
    {generation : Uuid} (captured : row.blockGeneration = some generation)
    {block : LoginBlock} (member : block ∈ deleteBlock row blocks)
    (key : block.key = row.key) : block.generation ≠ generation := by
  rintro rfl
  have stored := mem_deleteBlock member
  have found : blocks.find row.key = some block := key ▸ Table.find_key stored
  unfold deleteBlock at member
  rw [found] at member
  simp only [Option.any_some, captured, decide_true, ↓reduceIte] at member
  exact (Table.mem_drop.mp member).2 key

/-- The log grows, and what is gone stays gone. -/
structure Follows (before after : State) : Prop where
  performed : ∃ more, after.performed = before.performed ++ more
  generations : before.generations ⊆ after.generations
  gone : ∀ key, ∀ generation ∈ before.generations,
    Gone before key generation → Gone after key generation

theorem Follows.of_same {before after : State}
    (performed : after.performed = before.performed)
    (guard : after.guard = before.guard) : Follows before after where
  performed := ⟨[], by rw [performed, List.append_nil]⟩
  generations := by
    unfold State.generations
    rw [guard]
    exact List.Subset.refl _
  gone key generation _ gone := by
    unfold Gone
    rwa [guard]

theorem Follows.attempt {before : State} {guard : AuthProtectionGuard.State}
    (advanced : Advanced config before.guard guard) :
    Follows before { before with guard } where
  performed := ⟨[], (List.append_nil _).symm⟩
  generations := advanced.writes
  gone key generation listed gone := by
    intro block member same
    change block ∈ guard.blocks at member
    rcases advanced.blocks with blocks | ⟨new, fresh, -, blocks⟩
    · exact gone block (blocks ▸ member) same
    · rw [blocks] at member
      rcases Table.mem_put.mp member with rfl | ⟨stored, -⟩
      · rintro rfl
        exact fresh listed
      · exact gone block stored same

theorem follows_job {before after : State} {job : Job} {step : JobStep}
    (sound : before.storage.Sound)
    (moved : JobMove config lag before job step after) :
    Follows before after := by
  cases moved with
  | execute known soon found =>
      rename_i row sent
      refine ⟨?_, List.Subset.refl _, fun _ _ _ gone => gone⟩
      rcases executed row sound with ⟨-, -, -, performed⟩ | ⟨-, -, performed⟩ |
        ⟨-, -, performed⟩
      · exact ⟨[], performed.trans (List.append_nil _).symm⟩
      · exact ⟨[], performed.trans (List.append_nil _).symm⟩
      · exact ⟨_, performed⟩
  | complete acknowledged stage found =>
      refine ⟨⟨[], (List.append_nil _).symm⟩, List.Subset.refl _, ?_⟩
      intro key generation _ gone block member
      exact gone block (mem_deleteBlock member)
  | _ => exact .of_same rfl rfl

theorem follows_transition {before after : State} (sound : before.storage.Sound)
    (transition : Transition config lag before after) :
    Follows before after := by
  cases transition with
  | attempt advanced => exact .attempt advanced
  | unblock => exact .of_same rfl rfl
  | worker moved => cases moved <;> exact .of_same rfl rfl
  | call member moved => cases moved <;> exact .of_same rfl rfl
  | job member moved => exact follows_job sound moved

/-- The request a call waits for: still to be reset, or completed with all the
call has asked for. -/
def Awaits (state : State) (call : Call) (request : Uuid) : Prop :=
  ∃ row ∈ state.requests, row.id = request ∧ row.key = call.key ∧
    (row.completedAt = none → Joins state call row) ∧
    (row.completedAt ≠ none → Settled state call)

/-- The job of a call ends as the call has to answer. -/
def JobTrue (state : State) (call : Call) (request : Uuid) (id : Nat) : Prop :=
  ∃ job ∈ state.jobs, job.id = id ∧ job.request = request ∧
    (job.stage = .ended (.returned true) → Settled state call) ∧
    (job.stage.Unsuccessful → PendingStored state call.key)

def Captured (state : State) (call : Call) (generation : Option Uuid) : Prop :=
  ∀ block ∈ call.blockAtStart, generation = some block.generation ∨
    Gone state call.key block.generation

def StageTrue (state : State) (call : Call) : CallStage → Prop
  | .called | .begun _ | .answered _ | .failed => True
  | .read _ block => Captured state call (block.map LoginBlock.generation)
  | .inserted row | .audited row =>
      row.key = call.key ∧ Captured state call row.blockGeneration ∧
        ¬PendingStored state call.key
  | .conflicted =>
      (∀ row ∈ state.requests, row.key = call.key → row.completedAt = none →
        Joins state call row) ∧
      (¬PendingStored state call.key → Settled state call)
  | .found none => Settled state call
  | .found (some request) | .stored request => Awaits state call request
  | .processing request job =>
      Awaits state call request ∧ JobTrue state call request job
  | .answering .unblocked => Settled state call
  | .answering .saved => PendingStored state call.key

/-- What is known of a call since its start. -/
structure Started (state : State) (call : Call) : Prop where
  seen : call.seen ≤ state.performed.length
  start : ∀ block ∈ call.blockAtStart, block.generation ∈ state.generations

section Carry

variable {before after : State} {call : Call}

theorem Settled.carry (settled : Settled before call)
    (follows : Follows before after) (started : Started before call) :
    Settled after call := by
  obtain ⟨⟨performed, listed, key⟩, gone⟩ := settled
  obtain ⟨more, grown⟩ := follows.performed
  refine ⟨⟨performed, ?_, key⟩, fun block found =>
    follows.gone _ _ (started.start block found) (gone block found)⟩
  rw [grown, List.drop_append_of_le_length started.seen]
  exact List.mem_append_left _ listed

theorem Captured.carry {generation : Option Uuid}
    (captured : Captured before call generation) (follows : Follows before after)
    (started : Started before call) : Captured after call generation :=
  fun block found => (captured block found).imp_right
    (follows.gone _ _ (started.start block found))

theorem Joins.carry {row : UnblockRequest} (joins : Joins before call row)
    (follows : Follows before after) (started : Started before call) :
    Joins after call row := by
  refine ⟨fun block found => (joins.1 block found).imp_right
    (follows.gone _ _ (started.start block found)), ?_⟩
  obtain ⟨more, grown⟩ := follows.performed
  rw [grown, List.take_append_of_le_length started.seen]
  exact joins.2

theorem Started.carry (started : Started before call)
    (follows : Follows before after) : Started after call where
  seen := by
    obtain ⟨more, grown⟩ := follows.performed
    rw [grown, List.length_append]
    exact started.seen.trans (Nat.le_add_right _ _)
  start block found := follows.generations (started.start block found)

theorem Awaits.carry {request : Uuid} (awaits : Awaits before call request)
    (follows : Follows before after) (started : Started before call)
    (kept : ∀ row ∈ before.requests, row.id = request → row ∈ after.requests) :
    Awaits after call request := by
  obtain ⟨row, known, id, key, open_, completed⟩ := awaits
  exact ⟨row, kept row known id, id, key,
    fun none => (open_ none).carry follows started,
    fun some => (completed some).carry follows started⟩

/-- A step that changes no request. -/
theorem StageTrue.carry {stage : CallStage} (known : StageTrue before call stage)
    (follows : Follows before after) (started : Started before call)
    (requests : after.requests = before.requests)
    (jobs : ∀ request job, stage = .processing request job →
      JobTrue after call request job) :
    StageTrue after call stage := by
  have pending : PendingStored after call.key ↔ PendingStored before call.key := by
    unfold PendingStored
    rw [requests]
  have kept : ∀ request, ∀ row ∈ before.requests, row.id = request →
      row ∈ after.requests := fun _ row member _ => requests.symm ▸ member
  cases stage with
  | called | begun | answered | failed => trivial
  | read moment block => exact Captured.carry known follows started
  | inserted row | audited row =>
      exact ⟨known.1, known.2.1.carry follows started,
        fun stored => known.2.2 (pending.mp stored)⟩
  | conflicted =>
      refine ⟨fun row member key open_ => ?_, fun none => ?_⟩
      · exact (known.1 row (requests ▸ member) key open_).carry follows started
      · exact (known.2 fun stored => none (pending.mpr stored)).carry follows
          started
  | found request =>
      cases request with
      | none => exact Settled.carry known follows started
      | some request => exact Awaits.carry known follows started (kept request)
  | stored request => exact Awaits.carry known follows started (kept request)
  | processing request job =>
      exact ⟨known.1.carry follows started (kept request), jobs request job rfl⟩
  | answering answer =>
      cases answer with
      | unblocked => exact Settled.carry known follows started
      | saved => exact pending.mpr known

end Carry

theorem pending_eq_some {state : State} {key : String} {row : UnblockRequest}
    (found : state.pending key = some row) :
    row ∈ state.requests ∧ row.key = key ∧ row.completedAt = none := by
  refine ⟨List.mem_of_find?_eq_some found, ?_⟩
  simpa using List.find?_some found

theorem pending_eq_none {state : State} {key : String}
    (none : state.pending key = none) : ¬PendingStored state key := by
  rintro ⟨row, member, same⟩
  have refused := List.find?_eq_none.mp none row member
  exact refused (decide_eq_true same)

/-- The partial unique index, and what its insertions wait for. -/
structure Unique (state : State) : Prop where
  rows : ∀ left ∈ state.requests, ∀ right ∈ state.requests,
    left.completedAt = none → right.completedAt = none → left.key = right.key →
      left = right
  calls : ∀ left ∈ state.calls, ∀ right ∈ state.calls, ∀ row other,
    left.stage.uncommitted = some row → right.stage.uncommitted = some other →
      row.key = other.key → left = right
  free : ∀ call ∈ state.calls, ∀ row, call.stage.uncommitted = some row →
    ¬PendingStored state row.key

theorem Unique.of_same {before after : State} (unique : Unique before)
    (requests : after.requests = before.requests)
    (calls : after.calls = before.calls) : Unique after where
  rows := by rw [requests]; exact unique.rows
  calls := by rw [calls]; exact unique.calls
  free := by
    rw [calls]
    intro call member row uncommitted stored
    refine unique.free call member row uncommitted ?_
    unfold PendingStored at stored
    rwa [requests] at stored

/-- A call gets on with the row it has, or with none. -/
theorem Unique.moveCall {state : State} (unique : Unique state) {call : Call}
    (member : call ∈ state.calls) {stage : CallStage}
    (held : ∀ row, stage.uncommitted = some row →
      call.stage.uncommitted = some row) :
    Unique (state.moveCall call stage) where
  rows := unique.rows
  calls left leftMember right rightMember row other leftRow rightRow same := by
    rcases Table.mem_put.mp leftMember with rfl | ⟨leftKnown, leftApart⟩
    · rcases Table.mem_put.mp rightMember with rfl | ⟨rightKnown, rightApart⟩
      · rfl
      · obtain rfl := unique.calls call member right rightKnown row other
          (held row leftRow) rightRow same
        exact absurd rfl rightApart
    · rcases Table.mem_put.mp rightMember with rfl | ⟨rightKnown, rightApart⟩
      · obtain rfl := unique.calls left leftKnown call member row other leftRow
          (held other rightRow) same
        exact absurd rfl leftApart
      · exact unique.calls left leftKnown right rightKnown row other leftRow
          rightRow same
  free other listed row uncommitted := by
    rcases Table.mem_put.mp listed with rfl | ⟨known, -⟩
    · exact unique.free call member row (held row uncommitted)
    · exact unique.free other known row uncommitted

/-- A call has no row any more. -/
theorem Unique.withdraw {state : State} (unique : Unique state) {call : Call}
    (member : call ∈ state.calls) {stage : CallStage}
    (none : stage.uncommitted = none) : Unique (state.moveCall call stage) :=
  unique.moveCall member fun row some => by
    rw [none] at some
    cases some

theorem Unique.insert {state : State} (unique : Unique state) {call : Call}
    {row : UnblockRequest} (key : row.key = call.key)
    (free : ¬state.Reserved call.key) (none : state.pending call.key = none) :
    Unique (state.moveCall call (.inserted row)) where
  rows := unique.rows
  calls left leftMember right rightMember first second leftRow rightRow same := by
    have alone (other : Call) (known : other ∈ state.calls)
        (held : UnblockRequest) (uncommitted : other.stage.uncommitted = some held)
        (same : row.key = held.key) : False := by
      refine free (.inl ⟨other, known, ?_⟩)
      rw [uncommitted, Option.map_some, ← same, key]
    rcases Table.mem_put.mp leftMember with rfl | ⟨leftKnown, -⟩
    · obtain rfl := Option.some.inj leftRow
      rcases Table.mem_put.mp rightMember with rfl | ⟨rightKnown, -⟩
      · rfl
      · exact (alone right rightKnown second rightRow same).elim
    · rcases Table.mem_put.mp rightMember with rfl | ⟨rightKnown, -⟩
      · obtain rfl := Option.some.inj rightRow
        exact (alone left leftKnown first leftRow same.symm).elim
      · exact unique.calls left leftKnown right rightKnown first second leftRow
          rightRow same
  free other listed held uncommitted := by
    rcases Table.mem_put.mp listed with rfl | ⟨known, -⟩
    · obtain rfl := Option.some.inj uncommitted
      rw [key]
      exact pending_eq_none none
    · exact unique.free other known held uncommitted

/-- The row that was held back is stored. -/
theorem Unique.store {state : State} (unique : Unique state)
    {row : UnblockRequest} (free : ¬PendingStored state row.key)
    (alone : ∀ call ∈ state.calls, ∀ other,
      call.stage.uncommitted = some other → other.key ≠ row.key) :
    Unique (state.store row) where
  rows left leftMember right rightMember leftOpen rightOpen same := by
    rcases Table.mem_put.mp leftMember with rfl | ⟨leftKnown, -⟩
    · rcases Table.mem_put.mp rightMember with rfl | ⟨rightKnown, -⟩
      · rfl
      · exact absurd ⟨right, rightKnown, same.symm, rightOpen⟩ free
    · rcases Table.mem_put.mp rightMember with rfl | ⟨rightKnown, -⟩
      · exact absurd ⟨left, leftKnown, same, leftOpen⟩ free
      · exact unique.rows left leftKnown right rightKnown leftOpen rightOpen same
  calls := unique.calls
  free call member other uncommitted := by
    rintro ⟨found, stored, key, open_⟩
    rcases Table.mem_put.mp stored with rfl | ⟨known, -⟩
    · exact alone call member other uncommitted key.symm
    · exact unique.free call member other uncommitted ⟨found, known, key, open_⟩

theorem pending_finish {before after : State} {row : UnblockRequest} {moment : Int}
    {key : String}
    (requests : after.requests =
      before.requests.put { row with completedAt := some moment })
    (stored : PendingStored after key) : PendingStored before key := by
  obtain ⟨other, member, same, open_⟩ := stored
  rw [requests] at member
  rcases Table.mem_put.mp member with rfl | ⟨known, -⟩
  · cases open_
  · exact ⟨other, known, same, open_⟩

theorem Unique.finish {before after : State} (unique : Unique before)
    {row : UnblockRequest} {moment : Int}
    (requests : after.requests =
      before.requests.put { row with completedAt := some moment })
    (calls : after.calls = before.calls) : Unique after where
  rows left leftMember right rightMember leftOpen rightOpen same := by
    rw [requests] at leftMember rightMember
    rcases Table.mem_put.mp leftMember with rfl | ⟨leftKnown, -⟩
    · cases leftOpen
    · rcases Table.mem_put.mp rightMember with rfl | ⟨rightKnown, -⟩
      · cases rightOpen
      · exact unique.rows left leftKnown right rightKnown leftOpen rightOpen same
  calls := calls ▸ unique.calls
  free := by
    rw [calls]
    intro call member other uncommitted stored
    exact unique.free call member other uncommitted
      (pending_finish requests stored)

theorem unique_transition {before after : State} (unique : Unique before)
    (transition : Transition config lag before after) : Unique after := by
  cases transition with
  | attempt => exact unique.of_same rfl rfl
  | unblock absent block seen stage =>
      rename_i call
      have none : call.stage.uncommitted = Option.none := by rw [stage]; rfl
      constructor
      · exact unique.rows
      · intro left leftMember right rightMember row other leftRow rightRow same
        rcases Table.mem_put.mp leftMember with rfl | ⟨leftKnown, -⟩
        · rw [none] at leftRow
          cases leftRow
        · rcases Table.mem_put.mp rightMember with rfl | ⟨rightKnown, -⟩
          · rw [none] at rightRow
            cases rightRow
          · exact unique.calls left leftKnown right rightKnown row other leftRow
              rightRow same
      · intro other member row uncommitted
        rcases Table.mem_put.mp member with rfl | ⟨known, -⟩
        · rw [none] at uncommitted
          cases uncommitted
        · exact unique.free other known row uncommitted
  | worker moved => cases moved <;> exact unique.of_same rfl rfl
  | job member moved =>
      cases moved with
      | complete acknowledged stage found
      | expire acknowledged stage found => exact unique.finish rfl rfl
      | _ => exact unique.of_same rfl rfl
  | call member moved =>
      rename_i call step
      cases moved with
      | insert stage fresh free none =>
          exact (unique.insert rfl free none).of_same rfl rfl
      | conflict stage pending =>
          have moved : Unique (before.moveCall call .conflicted) :=
            unique.withdraw member rfl
          exact moved.of_same rfl rfl
      | audit stage =>
          exact unique.moveCall member fun row some => by
            rw [stage]
            exact some
      | store acknowledged stage =>
          rename_i row
          have held : call.stage.uncommitted = some row := by rw [stage]; rfl
          have withdrawn : Unique (before.moveCall call
              (if acknowledged then .stored row.id else .failed)) :=
            unique.withdraw member (by cases acknowledged <;> rfl)
          have free := unique.free call member row held
          refine (withdrawn.store free ?_).of_same rfl rfl
          intro other known otherRow uncommitted same
          rcases Table.mem_put.mp known with rfl | ⟨old, apart⟩
          · cases acknowledged <;> cases uncommitted
          · obtain rfl := unique.calls other old call member otherRow row
              uncommitted held same
            exact apart rfl
      | process stage absent =>
          exact (unique.withdraw member rfl).of_same rfl rfl
      | _ => exact unique.withdraw member rfl

structure Answering (state : State) : Prop where
  written : ∀ block ∈ state.guard.blocks, block.generation ∈ state.generations
  started : ∀ call ∈ state.calls, Started state call
  already : ∀ job ∈ state.jobs, job.stage = .already →
    ∃ row ∈ state.requests, row.id = job.request ∧ row.completedAt ≠ none
  stages : ∀ call ∈ state.calls, StageTrue state call call.stage

/-- The known facts about a state. -/
structure Known (config : RuntimeConfig) (state : State) : Prop where
  kept : Kept config state
  unique : Unique state
  answering : Answering state

theorem written_transition {before after : State} (answering : Answering before)
    (transition : Transition config lag before after) :
    ∀ block ∈ after.guard.blocks, block.generation ∈ after.generations := by
  cases transition with
  | attempt advanced =>
      rename_i guard
      intro block member
      change block ∈ guard.blocks at member
      rcases advanced.blocks with blocks | ⟨new, -, written, blocks⟩
      · exact advanced.writes (answering.written block (blocks ▸ member))
      · rw [blocks] at member
        rcases Table.mem_put.mp member with rfl | ⟨known, -⟩
        · exact written
        · exact advanced.writes (answering.written block known)
  | unblock => exact answering.written
  | worker moved => cases moved <;> exact answering.written
  | call member moved => cases moved <;> exact answering.written
  | job member moved =>
      cases moved with
      | complete acknowledged stage found =>
          exact fun block member => answering.written block (mem_deleteBlock member)
      | _ => exact answering.written

theorem started_transition {before after : State} (sound : before.storage.Sound)
    (answering : Answering before)
    (transition : Transition config lag before after) :
    ∀ call ∈ after.calls, Started after call := by
  have follows := follows_transition sound transition
  have old : ∀ call ∈ before.calls, Started after call :=
    fun call member => (answering.started call member).carry follows
  have moved (call : Call) (member : call ∈ before.calls) (stage : CallStage) :
      ∀ other ∈ before.calls.put { call with stage }, Started after other := by
    intro other listed
    rcases Table.mem_put.mp listed with rfl | ⟨known, -⟩
    · exact ⟨(old call member).seen, (old call member).start⟩
    · exact old other known
  cases transition with
  | attempt => exact old
  | unblock absent block seen stage =>
      rename_i call
      intro other listed
      rcases Table.mem_put.mp listed with rfl | ⟨known, -⟩
      · refine ⟨le_of_eq seen, fun found stored => ?_⟩
        rw [block] at stored
        exact answering.written found (Table.find_eq_some.mp stored).1
      · exact old other known
  | worker worked => cases worked <;> exact old
  | job member worked => cases worked <;> exact old
  | call member worked => cases worked <;> exact moved _ member _

theorem already_transition {before after : State} (stored : Stored before)
    (answering : Answering before)
    (transition : Transition config lag before after) :
    ∀ job ∈ after.jobs, job.stage = .already →
      ∃ row ∈ after.requests, row.id = job.request ∧ row.completedAt ≠ none := by
  have put {jobs : Table Job} {job : Job} (known : ∀ old ∈ jobs,
      old.stage = .already → ∃ row ∈ before.requests,
        row.id = old.request ∧ row.completedAt ≠ none)
      (new : job.stage = .already → ∃ row ∈ before.requests,
        row.id = job.request ∧ row.completedAt ≠ none) :
      ∀ other ∈ jobs.put job, other.stage = .already →
        ∃ row ∈ before.requests, row.id = other.request ∧ row.completedAt ≠ none := by
    intro other listed stage
    rcases Table.mem_put.mp listed with rfl | ⟨old, -⟩
    · exact new stage
    · exact known other old stage
  cases transition with
  | attempt | unblock => exact answering.already
  | worker moved =>
      cases moved with
      | only => exact answering.already
      | start => exact put answering.already (by simp)
  | call member moved =>
      cases moved with
      | process => exact put answering.already (by simp)
      | store acknowledged stage =>
          rename_i call row
          have held := stored.calls call member
          rw [stage] at held
          intro job listed already
          obtain ⟨other, known, id, completed⟩ :=
            answering.already job listed already
          refine ⟨other, Table.mem_put.mpr (.inr ⟨known, fun same => ?_⟩), id,
            completed⟩
          exact Table.find_eq_none.mp held.2.1 other known same
      | _ => exact answering.already
  | job member moved =>
      rename_i job step
      cases moved with
      | already stage found free completed =>
          obtain ⟨known, same⟩ := Table.find_eq_some.mp found
          exact put answering.already fun _ => ⟨_, known, same, completed⟩
      | execute known soon found =>
          exact put answering.already (answering.already job member)
      | statement inner follows =>
          refine put answering.already fun same => ?_
          rename_i next
          change next = .already at same
          subst same
          cases stage : job.stage <;> simp [stage, JobStage.next] at follows
      | complete acknowledged stage found | expire acknowledged stage found =>
          intro other listed already
          rcases Table.mem_put.mp listed with rfl | ⟨old, -⟩
          · cases acknowledged <;> cases already
          · obtain ⟨row, known, id, completed⟩ :=
              answering.already other old already
            by_cases same : row.id = job.request
            · obtain ⟨here, request⟩ := Table.find_eq_some.mp found
              refine ⟨_, Table.mem_put.mpr (.inl rfl), ?_, by simp⟩
              exact (request.trans same.symm).trans id
            · refine ⟨row, Table.mem_put.mpr (.inr ⟨known, fun ids => ?_⟩), id,
                completed⟩
              exact same (ids.trans (Table.find_eq_some.mp found).2)
      | release acknowledged stage =>
          refine put answering.already fun same => ?_
          cases acknowledged <;> cases same
      | _ => exact put answering.already (by simp)

end LoginUnblock

end SaasFoundation
