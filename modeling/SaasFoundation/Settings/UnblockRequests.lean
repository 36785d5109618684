import SaasFoundation.Settings.UnblockSteps

/-!
# Requests, locks and audits

Every request is stored once and completed at most once, by the job that holds
its lock, and the audit rows tell exactly that.
-/

namespace SaasFoundation

open Relational RedisService

namespace LoginUnblock

variable {config : RuntimeConfig} {lag : Int}

/-- A time that was read is past; a row that is not committed is new. -/
def CallKept (now : Int) (used : List Uuid) (requests : Table UnblockRequest) :
    CallStage → Prop
  | .begun moment | .read moment _ => moment ≤ now
  | .inserted row | .audited row =>
      row.id ∈ used ∧ requests.find row.id = none ∧ row.createdAt ≤ now ∧
        row.completedAt = none
  | _ => True

structure Stored (state : State) : Prop where
  rows : ∀ row ∈ state.requests,
    row.id ∈ state.used ∧ row.createdAt ≤ state.guard.now
  calls : ∀ call ∈ state.calls,
    CallKept state.guard.now state.used state.requests call.stage
  distinct : ∀ left ∈ state.calls, ∀ right ∈ state.calls, ∀ row other,
    left.stage.uncommitted = some row → right.stage.uncommitted = some other →
      row.id = other.id → left = right

theorem CallKept.mono {now later : Int} {used wider : List Uuid}
    {requests after : Table UnblockRequest} {stage : CallStage}
    (kept : CallKept now used requests stage) (follows : now ≤ later)
    (grows : used ⊆ wider)
    (absent : ∀ row, stage.uncommitted = some row →
      requests.find row.id = none → after.find row.id = none) :
    CallKept later wider after stage := by
  cases stage with
  | begun | read => exact le_trans kept follows
  | inserted row | audited row =>
      obtain ⟨listed, missing, past, open_⟩ := kept
      exact ⟨grows listed, absent row rfl missing, past.trans follows, open_⟩
  | called | conflicted | found | stored | processing | answering | answered
  | failed => trivial

/-- What a call that moves may do to the rows that are not committed. -/
theorem Stored.moveCall {state : State} (stored : Stored state) {call : Call}
    {stage : CallStage}
    (kept : CallKept state.guard.now state.used state.requests stage)
    (alone : ∀ row, stage.uncommitted = some row → ∀ other ∈ state.calls,
      ∀ old, other.stage.uncommitted = some old → row.id = old.id →
        other.id = call.id) :
    Stored (state.moveCall call stage) where
  rows := stored.rows
  calls other member := by
    rcases Table.mem_put.mp member with rfl | ⟨known, -⟩
    · exact kept
    · exact stored.calls other known
  distinct left leftMember right rightMember row other leftRow rightRow same := by
    rcases Table.mem_put.mp leftMember with rfl | ⟨leftKnown, leftApart⟩
    · rcases Table.mem_put.mp rightMember with rfl | ⟨rightKnown, rightApart⟩
      · rfl
      · exact absurd (alone row leftRow right rightKnown other rightRow same)
          rightApart
    · rcases Table.mem_put.mp rightMember with rfl | ⟨rightKnown, rightApart⟩
      · exact absurd (alone other rightRow left leftKnown row leftRow same.symm)
          leftApart
      · exact stored.distinct left leftKnown right rightKnown row other leftRow
          rightRow same

theorem Stored.withdraw {state : State} (stored : Stored state) {call : Call}
    {stage : CallStage}
    (kept : CallKept state.guard.now state.used state.requests stage)
    (none : stage.uncommitted = none) : Stored (state.moveCall call stage) := by
  refine stored.moveCall kept fun row some => ?_
  rw [none] at some
  cases some

/-- Completing a request stores no new one. -/
theorem Stored.update {state : State} (stored : Stored state)
    {row : UnblockRequest} (member : row ∈ state.requests) (moment : Int)
    (guard : AuthProtectionGuard.State) (now : guard.now = state.guard.now) :
    Stored { state with
      guard
      requests := state.requests.put { row with completedAt := some moment } } where
  rows other listed := by
    change _ ∧ _ ≤ guard.now
    rw [now]
    rcases Table.mem_put.mp listed with rfl | ⟨known, -⟩
    · exact stored.rows row member
    · exact stored.rows other known
  calls call known := by
    refine (stored.calls call known).mono (le_of_eq now.symm)
      (List.Subset.refl _) fun other _ missing => ?_
    rw [Table.find_put, if_neg]
    · exact missing
    · rintro same
      exact Table.find_eq_none.mp missing row member same.symm
  distinct := stored.distinct

/-- `randomUUID` answers a further id. -/
theorem Stored.use {state : State} (stored : Stored state) (candidate : Uuid) :
    Stored { state with used := candidate :: state.used } where
  rows row member := by
    obtain ⟨listed, past⟩ := stored.rows row member
    exact ⟨List.mem_cons_of_mem _ listed, past⟩
  calls call member := (stored.calls call member).mono le_rfl
    (List.subset_cons_self _ _) fun _ _ missing => missing
  distinct := stored.distinct

/-- A row is committed that no call holds any more. -/
theorem Stored.store {state : State} (stored : Stored state)
    {row : UnblockRequest} (used : row.id ∈ state.used)
    (past : row.createdAt ≤ state.guard.now)
    (alone : ∀ call ∈ state.calls, ∀ other,
      call.stage.uncommitted = some other → other.id ≠ row.id) :
    Stored (state.store row) where
  rows other member := by
    rcases Table.mem_put.mp member with rfl | ⟨known, -⟩
    · exact ⟨used, past⟩
    · exact stored.rows other known
  calls call member := by
    refine (stored.calls call member).mono le_rfl (List.Subset.refl _)
      fun other some missing => ?_
    change (state.requests.put row).find other.id = none
    rw [Table.find_put, UnblockRequest.key_eq,
      if_neg (alone call member other some), missing]
  distinct := stored.distinct

theorem CallKept.uncommitted {now : Int} {used : List Uuid}
    {requests : Table UnblockRequest} {stage : CallStage} {row : UnblockRequest}
    (kept : CallKept now used requests stage)
    (some : stage.uncommitted = some row) :
    row.id ∈ used ∧ requests.find row.id = none ∧ row.createdAt ≤ now ∧
      row.completedAt = none := by
  cases stage with
  | inserted other | audited other =>
      obtain rfl := Option.some.inj some
      exact kept
  | called | begun | read | conflicted | found | stored | processing
  | answering | answered | failed => cases some

theorem stored_transition {before after : State} (stored : Stored before)
    (transition : Transition config lag before after) : Stored after := by
  cases transition with
  | attempt advanced =>
      constructor
      · intro row member
        obtain ⟨listed, past⟩ := stored.rows row member
        exact ⟨listed, past.trans advanced.later⟩
      · intro call member
        exact (stored.calls call member).mono advanced.later
          (List.Subset.refl _) fun _ _ missing => missing
      · exact stored.distinct
  | unblock absent block seen stage =>
      rename_i call
      have moved : Stored (before.moveCall call .called) :=
        stored.withdraw trivial rfl
      have same : { call with stage := CallStage.called } = call := by
        rw [← stage]
      unfold State.moveCall at moved
      rwa [same] at moved
  | worker moved =>
      cases moved with
      | only | start => exact ⟨stored.rows, stored.calls, stored.distinct⟩
  | job member moved =>
      cases moved with
      | complete acknowledged stage found
      | expire acknowledged stage found =>
          rename_i row moment
          obtain ⟨known, -⟩ := Table.find_eq_some.mp found
          have updated := stored.update known moment before.guard rfl
          exact ⟨updated.rows, updated.calls, updated.distinct⟩
      | _ => exact ⟨stored.rows, stored.calls, stored.distinct⟩
  | call member moved =>
      rename_i call step
      have kept := stored.calls call member
      cases moved with
      | transaction stage => exact stored.withdraw le_rfl rfl
      | findBlock stage =>
          rw [stage] at kept
          exact stored.withdraw kept rfl
      | insert stage fresh free none =>
          rename_i candidate now block
          rw [stage] at kept
          have missing : before.requests.find candidate = Option.none :=
            Table.find_eq_none.mpr fun row known same =>
              fresh (same ▸ (stored.rows row known).1)
          refine (stored.use candidate).moveCall
            ⟨List.mem_cons_self, missing, kept, rfl⟩ ?_
          intro row some other known old uncommitted same
          obtain rfl := Option.some.inj some
          have used := ((stored.calls other known).uncommitted uncommitted).1
          change candidate = old.id at same
          exact absurd (same ▸ used) fresh
      | conflict stage pending =>
          exact (stored.use _).withdraw trivial rfl
      | audit stage =>
          rename_i row
          rw [stage] at kept
          refine stored.moveCall kept ?_
          intro same some other known old uncommitted ids
          obtain rfl := Option.some.inj some
          have here := congrArg CallStage.uncommitted stage
          rw [stored.distinct other known _ member old row uncommitted here
            ids.symm]
      | store acknowledged stage =>
          rename_i row
          rw [stage] at kept
          have here := congrArg CallStage.uncommitted stage
          have withdrawn : Stored (before.moveCall call
              (if acknowledged then .stored row.id else .failed)) :=
            stored.withdraw (by cases acknowledged <;> trivial)
              (by cases acknowledged <;> rfl)
          refine withdrawn.store kept.1 kept.2.2.1 ?_
          intro holder known other uncommitted same
          rcases Table.mem_put.mp known with rfl | ⟨old, apart⟩
          · cases acknowledged <;> cases uncommitted
          · obtain rfl := stored.distinct holder old call member other row
              uncommitted here same
            exact apart rfl
      | process stage absent =>
          rename_i request job
          have added : Stored (before.setJob { id := job, request }) :=
            ⟨stored.rows, stored.calls, stored.distinct⟩
          exact added.withdraw trivial rfl
      | _ => exact stored.withdraw trivial rfl

/-- The stages between the lock and the commit, of a request to be completed. -/
def JobStage.Works : JobStage → Prop
  | .begun | .already | .ended _ => False
  | _ => True

theorem JobStage.Works.holds {stage : JobStage} (works : stage.Works) :
    stage.Holds := by
  cases stage <;> trivial

structure LocksKept (state : State) : Prop where
  alone : ∀ left ∈ state.jobs, ∀ right ∈ state.jobs,
    left.request = right.request → left.stage.Holds → right.stage.Holds →
      left = right
  open_ : ∀ job ∈ state.jobs, job.stage.Works → ∃ row ∈ state.requests,
    row.id = job.request ∧ row.completedAt = none

/-- A job that gets on keeps its lock, or gives it up. -/
theorem LocksKept.setJob {state : State} (locks : LocksKept state) {job : Job}
    (stage : JobStage) (sent : Option Int) (executed : Bool)
    (holds : stage.Holds → ∀ other ∈ state.jobs, other.request = job.request →
      other.stage.Holds → other.id = job.id)
    (works : stage.Works → ∃ row ∈ state.requests,
      row.id = job.request ∧ row.completedAt = none) :
    LocksKept (state.setJob { job with stage, sent, executed }) where
  alone left leftMember right rightMember same leftHolds rightHolds := by
    rcases Table.mem_put.mp leftMember with rfl | ⟨leftKnown, leftApart⟩
    · rcases Table.mem_put.mp rightMember with rfl | ⟨rightKnown, rightApart⟩
      · rfl
      · exact absurd (holds leftHolds right rightKnown same.symm rightHolds)
          rightApart
    · rcases Table.mem_put.mp rightMember with rfl | ⟨rightKnown, rightApart⟩
      · exact absurd (holds rightHolds left leftKnown same leftHolds) leftApart
      · exact locks.alone left leftKnown right rightKnown same leftHolds
          rightHolds
  open_ other member otherWorks := by
    rcases Table.mem_put.mp member with rfl | ⟨known, -⟩
    · exact works otherWorks
    · exact locks.open_ other known otherWorks

/-- A job that has no lock any more, or not yet. -/
theorem LocksKept.release {state : State} (locks : LocksKept state) (job : Job)
    (released : ¬job.stage.Holds) : LocksKept (state.setJob job) := by
  have set : LocksKept (state.setJob { job with
      stage := job.stage, sent := job.sent, executed := job.executed }) :=
    locks.setJob _ _ _ (fun holds => absurd holds released)
      fun works => absurd works.holds released
  exact set

/-- A job that works goes on working. -/
theorem LocksKept.continue {state : State} (locks : LocksKept state) {job : Job}
    (member : job ∈ state.jobs) (works : job.stage.Works) (stage : JobStage)
    (sent : Option Int) (executed : Bool) :
    LocksKept (state.setJob { job with stage, sent, executed }) :=
  locks.setJob stage sent executed
    (fun _ other known same holds => congrArg Job.id
      (locks.alone other known job member same holds works.holds))
    fun _ => locks.open_ job member works

/-- A request is completed by the only job that works on it. -/
theorem LocksKept.update {state : State} (locks : LocksKept state) {job : Job}
    (member : job ∈ state.jobs) (works : job.stage.Works) {row : UnblockRequest}
    (same : row.id = job.request) (moment : Int) (acknowledged value : Bool) :
    LocksKept ({ state with
      requests := state.requests.put
        { row with completedAt := some moment } }.setJob
          (job.commit acknowledged value)) where
  alone := (locks.release (job.commit acknowledged value) id).alone
  open_ other listed otherWorks := by
    rcases Table.mem_put.mp listed with rfl | ⟨otherKnown, apart⟩
    · exact otherWorks.elim
    · obtain ⟨found, stored, id, open_⟩ := locks.open_ other otherKnown otherWorks
      refine ⟨found, Table.mem_put.mpr (.inr ⟨stored, ?_⟩), id, open_⟩
      rintro ids
      have requests : other.request = job.request :=
        id.symm.trans (ids.trans same)
      obtain rfl := locks.alone other otherKnown job member requests
        otherWorks.holds works.holds
      exact apart rfl

theorem JobStage.Inner.works {stage : JobStage} (inner : stage.Inner) :
    stage.Works := by
  cases stage <;> trivial

/-- Rows may be added, and jobs that hold nothing. -/
theorem LocksKept.grow {state after : State} (locks : LocksKept state)
    (jobs : after.jobs = state.jobs)
    (requests : ∀ row ∈ state.requests, row ∈ after.requests) :
    LocksKept after where
  alone := by rw [jobs]; exact locks.alone
  open_ job member works := by
    rw [jobs] at member
    obtain ⟨row, known, id, open_⟩ := locks.open_ job member works
    exact ⟨row, requests row known, id, open_⟩

theorem locks_transition {before after : State} (stored : Stored before)
    (locks : LocksKept before)
    (transition : Transition config lag before after) : LocksKept after := by
  cases transition with
  | attempt advanced => exact ⟨locks.alone, locks.open_⟩
  | unblock => exact ⟨locks.alone, locks.open_⟩
  | worker moved =>
      cases moved with
      | only => exact ⟨locks.alone, locks.open_⟩
      | start request worker absent =>
          rename_i job
          have started := locks.release { id := job, request } id
          exact ⟨started.alone, started.open_⟩
  | job member moved =>
      rename_i job step
      cases moved with
      | skip stage busy | release acknowledged stage | fail running =>
          exact locks.release _ id
      | already stage found free completed =>
          exact locks.setJob .already job.sent job.executed
            (fun _ other known same holds =>
              absurd ⟨other, known, same, holds⟩ free) fun works => works.elim
      | lock stage found free open_ =>
          obtain ⟨known, same⟩ := Table.find_eq_some.mp found
          exact locks.setJob .locked job.sent job.executed
            (fun _ other known same holds =>
              absurd ⟨other, known, same, holds⟩ free)
            fun _ => ⟨_, known, same, open_⟩
      | tooOld stage found old | send stage found young
      | reset stage executed =>
          exact locks.continue member (by rw [stage]; trivial) _ _ _
      | execute known soon found =>
          rename_i row sent
          have updated := locks.setJob job.stage job.sent
            (job.executed || (before.execute config row).1.isOk)
            (fun holds other known same otherHolds => congrArg Job.id
              (locks.alone other known job member same otherHolds holds))
            (locks.open_ job member)
          exact ⟨updated.alone, updated.open_⟩
      | statement inner follows =>
          exact locks.continue member inner.works _ _ _
      | complete acknowledged stage found
      | expire acknowledged stage found =>
          rename_i row moment
          have updated := locks.update member (by rw [stage]; trivial)
            (Table.find_eq_some.mp found).2 moment acknowledged
          exact ⟨(updated _).alone, (updated _).open_⟩
  | call member moved =>
      cases moved with
      | store acknowledged stage =>
          rename_i call row
          have kept := stored.calls call member
          rw [stage] at kept
          refine locks.grow rfl fun other known =>
            Table.mem_put.mpr (.inr ⟨known, fun same => ?_⟩)
          exact Table.find_eq_none.mp kept.2.1 other known same
      | process stage absent =>
          rename_i call request job
          have started := locks.release { id := job, request } id
          exact ⟨started.alone, started.open_⟩
      | _ => exact ⟨locks.alone, locks.open_⟩

/-- The audit rows written for a request. -/
def auditsOf (request : Uuid) (activities : List Activity) : List Activity :=
  activities.filter fun activity => activity.request = request

/-- One row for the request, and one for how it was completed. -/
def Audited (activities : List Activity) (row : UnblockRequest) : Prop :=
  match row.completedAt with
  | none => auditsOf row.id activities = [row.audit "login.unblock.requested"]
  | some _ =>
      auditsOf row.id activities =
          [row.audit "login.unblock.requested", row.audit "login.unblocked"] ∨
        auditsOf row.id activities =
          [row.audit "login.unblock.requested",
            row.audit "login.unblock.expired"]

structure AuditsKept (state : State) : Prop where
  rows : ∀ row ∈ state.requests, Audited state.activities row
  known : ∀ activity ∈ state.activities, ∃ row ∈ state.requests,
    row.id = activity.request

theorem auditsOf_append (request : Uuid) (activities : List Activity)
    (activity : Activity) :
    auditsOf request (activities ++ [activity]) =
      auditsOf request activities ++
        if activity.request = request then [activity] else [] := by
  unfold auditsOf
  rw [List.filter_append]
  by_cases here : activity.request = request <;> simp [here]

/-- The rows of other requests are as before. -/
theorem Audited.append {activities : List Activity} {row : UnblockRequest}
    {activity : Activity} (audited : Audited activities row)
    (other : activity.request ≠ row.id) :
    Audited (activities ++ [activity]) row := by
  unfold Audited at audited ⊢
  rwa [auditsOf_append, if_neg other, List.append_nil]

theorem AuditsKept.store {state : State} (audits : AuditsKept state)
    {row : UnblockRequest} (missing : state.requests.find row.id = none)
    (open_ : row.completedAt = none) : AuditsKept (state.store row) where
  rows other member := by
    rcases Table.mem_put.mp member with rfl | ⟨known, apart⟩
    · have none : auditsOf other.id state.activities = [] := by
        refine List.filter_eq_nil_iff.mpr fun activity listed same => ?_
        obtain ⟨row, known, id⟩ := audits.known activity listed
        exact Table.find_eq_none.mp missing row known
          (id.trans (of_decide_eq_true same))
      unfold Audited
      rw [open_]
      change auditsOf other.id (state.activities ++ [_]) = _
      rw [auditsOf_append, none]
      exact if_pos rfl
    · exact (audits.rows other known).append (Ne.symm apart)
  known activity listed := by
    rcases List.mem_append.mp listed with old | new
    · obtain ⟨other, known, id⟩ := audits.known activity old
      have apart : other.id ≠ row.id := Table.find_eq_none.mp missing other known
      exact ⟨other, Table.mem_put.mpr (.inr ⟨known, apart⟩), id⟩
    · rw [List.mem_singleton.mp new]
      exact ⟨row, Table.mem_put.mpr (.inl rfl), rfl⟩

/-- The one terminal row is written with the completion. -/
theorem AuditsKept.finish {state : State} (audits : AuditsKept state)
    {row : UnblockRequest} (member : row ∈ state.requests)
    (open_ : row.completedAt = none) (moment : Int) (event : String)
    (terminal : event = "login.unblocked" ∨ event = "login.unblock.expired") :
    AuditsKept { state with
      requests := state.requests.put { row with completedAt := some moment }
      activities := state.activities ++ [row.audit event] } where
  rows other listed := by
    rcases Table.mem_put.mp listed with rfl | ⟨known, apart⟩
    · have requested := audits.rows row member
      unfold Audited at requested ⊢
      rw [open_] at requested
      change auditsOf row.id (state.activities ++ [_]) = _ ∨
        auditsOf row.id (state.activities ++ [_]) = _
      have same : (row.audit event).request = row.id := rfl
      rw [auditsOf_append, requested, if_pos same]
      rcases terminal with rfl | rfl
      · exact .inl rfl
      · exact .inr rfl
    · exact (audits.rows other known).append (Ne.symm apart)
  known activity listed := by
    have renewed : ∀ other ∈ state.requests, ∃ found ∈ state.requests.put
        { row with completedAt := some moment }, found.id = other.id := by
      intro other known
      by_cases same : other.id = row.id
      · exact ⟨_, Table.mem_put.mpr (.inl rfl), same.symm⟩
      · exact ⟨other, Table.mem_put.mpr (.inr ⟨known, same⟩), rfl⟩
    rcases List.mem_append.mp listed with old | new
    · obtain ⟨other, known, id⟩ := audits.known activity old
      obtain ⟨found, stored, same⟩ := renewed other known
      exact ⟨found, stored, same.trans id⟩
    · rw [List.mem_singleton.mp new]
      exact renewed row member

/-- The request a job works on is not completed. -/
theorem LocksKept.uncompleted {state : State} (locks : LocksKept state)
    {job : Job} (member : job ∈ state.jobs) (works : job.stage.Works)
    {row : UnblockRequest} (found : state.requests.find job.request = some row) :
    row ∈ state.requests ∧ row.completedAt = none := by
  obtain ⟨known, same⟩ := Table.find_eq_some.mp found
  obtain ⟨other, stored, id, open_⟩ := locks.open_ job member works
  obtain rfl := Table.eq_of_key stored known (id.trans same.symm)
  exact ⟨known, open_⟩

theorem audits_transition {before after : State} (stored : Stored before)
    (locks : LocksKept before) (audits : AuditsKept before)
    (transition : Transition config lag before after) : AuditsKept after := by
  cases transition with
  | attempt | unblock => exact ⟨audits.rows, audits.known⟩
  | worker moved => cases moved <;> exact ⟨audits.rows, audits.known⟩
  | job member moved =>
      cases moved with
      | complete acknowledged stage found =>
          rename_i job row moment
          obtain ⟨known, open_⟩ :=
            locks.uncompleted member (by rw [stage]; trivial) found
          have finished := audits.finish known open_ moment _ (.inl rfl)
          exact ⟨finished.rows, finished.known⟩
      | expire acknowledged stage found =>
          rename_i job row moment
          obtain ⟨known, open_⟩ :=
            locks.uncompleted member (by rw [stage]; trivial) found
          have finished := audits.finish known open_ moment _ (.inr rfl)
          exact ⟨finished.rows, finished.known⟩
      | _ => exact ⟨audits.rows, audits.known⟩
  | call member moved =>
      cases moved with
      | store acknowledged stage =>
          have kept := stored.calls _ member
          rw [stage] at kept
          have added := audits.store kept.2.1 kept.2.2.2
          exact ⟨added.rows, added.known⟩
      | _ => exact ⟨audits.rows, audits.known⟩

end LoginUnblock

end SaasFoundation
