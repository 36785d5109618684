import SaasFoundation.Relational.Machine
import SaasFoundation.Relational.Table

/-!
# `cached` and `invalidate` of `platform/redis.service.ts`

Calls from any number of replicas on one namespace.  A command is executed by
the server at one moment, or fails; a `SET` may be executed long after its
sender has given up.  Every loaded value carries the moment its load started.
-/

namespace SaasFoundation

open Relational

namespace Cache

/-- `JSON.stringify` and `JSON.parse`; `none` when there is no text, or it
cannot be parsed. -/
structure Codec (α : Type) where
  stringify : α → Option String
  parse : String → Option α

structure Loaded (α : Type) where
  value : α
  started : Nat
  deriving DecidableEq

/-- A stored value; `started` belongs to the load the text came from. -/
structure CacheEntry where
  name : String
  text : String
  started : Nat
  deriving DecidableEq

instance : Keyed CacheEntry String := ⟨CacheEntry.name⟩

@[simp] theorem CacheEntry.key_eq (entry : CacheEntry) :
    key entry = entry.name := rfl

/-- Where a call of `cached` stands.  Without a cache key the value will not be
stored. -/
inductive Stage (α : Type) where
  | begun
  | versioned (cacheKey : String)
  | missed (cacheKey : Option String)
  | loading (cacheKey : Option String) (started : Nat)
  | storing (value : Loaded α)
  | returned (value : Loaded α)
  | failed
  deriving DecidableEq

structure CachedCall (α : Type) where
  id : Nat
  key : String
  started : Nat
  stage : Stage α
  deriving DecidableEq

/-- A call of `invalidate`: when its `INCR` was first executed, and when it
resolved. -/
structure Invalidation where
  id : Nat
  effect : Option Nat
  completed : Option Nat
  deriving DecidableEq

instance {α : Type} : Keyed (CachedCall α) Nat := ⟨CachedCall.id⟩
instance : Keyed Invalidation Nat := ⟨Invalidation.id⟩

@[simp] theorem CachedCall.key_eq {α : Type} (call : CachedCall α) :
    Relational.key call = call.id := rfl

@[simp] theorem Invalidation.key_eq (call : Invalidation) :
    Relational.key call = call.id := rfl

/-- `client` says whether Redis is used.  `increments` are the moments the
version was increased at. -/
structure State (α : Type) where
  client : Bool
  version : Option Nat := none
  values : Table CacheEntry := ∅
  sent : List CacheEntry := []
  calls : Table (CachedCall α) := ∅
  invalidations : Table Invalidation := ∅
  clock : Nat := 0
  increments : List Nat := []

inductive Event (α : Type) where
  | cached (id : Nat) (key : String)
  | readVersion (id : Nat) (answered : Bool)
  | readValue (id : Nat) (answered : Bool)
  | load (id : Nat)
  | loaded (id : Nat) (result : Option α)
  | deliver (index : Nat)
  | settle (id : Nat)
  | invalidate (id : Nat)
  | increment (id : Nat)
  | complete (id : Nat)
  | forget (name : String)

section Steps

variable {α : Type} (codec : Codec α) (keyPrefix namespace_ : String)

/-- `cacheVersion`. -/
def State.cacheVersion (state : State α) : String :=
  (state.version.map toString).getD "0"

def cacheKey (version key : String) : String :=
  keyPrefix ++ ":cache:" ++ namespace_ ++ ":" ++ version ++ ":" ++ key

/-- The stage after `get`; what cannot be parsed is loaded like an error. -/
def lookup (name : String) (entry : Option CacheEntry) : Stage α :=
  match entry with
  | none => .missed (some name)
  | some entry =>
      if entry.text = "" then .missed (some name)
      else
        match codec.parse entry.text with
        | none => .missed none
        | some value => .returned { value, started := entry.started }

def State.moveTo (call : CachedCall α) (stage : Stage α) (state : State α) :
    State α :=
  { state with calls := state.calls.put { call with stage } }

def State.tick (state : State α) : State α :=
  { state with clock := state.clock + 1 }

def act (event : Event α) (state : State α) : Option (State α) :=
  match event with
  | .cached id key =>
      if (state.calls.find id).isSome then none
      else
        let stage := if state.client then .begun else .missed none
        some (state.moveTo { id, key, started := state.clock, stage } stage)
  | .readVersion id answered =>
      (state.calls.find id).bind fun call =>
        match call.stage with
        | .begun =>
            some (state.moveTo call
              (if answered then
                .versioned
                  (cacheKey keyPrefix namespace_ state.cacheVersion call.key)
              else .missed none))
        | _ => none
  | .readValue id answered =>
      (state.calls.find id).bind fun call =>
        match call.stage with
        | .versioned name =>
            some (state.moveTo call
              (if answered then lookup codec name (state.values.find name)
              else .missed none))
        | _ => none
  | .load id =>
      (state.calls.find id).bind fun call =>
        match call.stage with
        | .missed name => some (state.moveTo call (.loading name state.clock))
        | _ => none
  | .loaded id result =>
      (state.calls.find id).bind fun call =>
        match call.stage, result with
        | .loading _ _, none => some (state.moveTo call .failed)
        | .loading none started, some value =>
            some (state.moveTo call (.returned { value, started }))
        | .loading (some name) started, some value =>
            let stored : Option CacheEntry :=
              (codec.stringify value).map fun text => { name, text, started }
            some ({ state with sent := state.sent ++ stored.toList }.moveTo call
              (.storing { value, started }))
        | _, _ => none
  | .deliver index =>
      state.sent[index]?.map fun entry =>
        { state with values := state.values.put entry }
  | .settle id =>
      (state.calls.find id).bind fun call =>
        match call.stage with
        | .storing value => some (state.moveTo call (.returned value))
        | _ => none
  | .invalidate id =>
      if (state.invalidations.find id).isSome then none
      else if state.client then
        some { state with
          invalidations := state.invalidations.put
            { id, effect := none, completed := none } }
      else
        some { state with
          invalidations := state.invalidations.put
            { id, effect := some state.clock, completed := some state.clock } }
  | .increment id =>
      (state.invalidations.find id).bind fun call =>
        if state.client then
          some { state with
            version := some (state.version.getD 0 + 1)
            increments := state.increments ++ [state.clock]
            invalidations := state.invalidations.put
              { call with effect := call.effect.or (some state.clock) } }
        else none
  | .complete id =>
      (state.invalidations.find id).bind fun call =>
        if call.effect.isSome ∧ call.completed = none then
          some { state with
            invalidations := state.invalidations.put
              { call with completed := some state.clock } }
        else none
  | .forget name => some { state with values := state.values.drop name }

/-- One event; no two happen at the same moment. -/
def machine : Machine (State α) (Event α) where
  step event state :=
    (act codec keyPrefix namespace_ event state).map State.tick

end Steps

theorem separator_not_mem_toString (version : Nat) :
    ':' ∉ (toString version).toList := by
  intro member
  rw [Nat.toString_eq_repr, Nat.repr, String.toList_ofList] at member
  have digit := Nat.isDigit_of_mem_toDigits (by decide) (by decide) member
  exact absurd digit (by decide)

theorem toString_injective {left right : Nat}
    (same : toString left = toString right) : left = right := by
  rw [Nat.toString_eq_repr, Nat.toString_eq_repr, Nat.repr, Nat.repr] at same
  have digits := congrArg String.toList same
  rw [String.toList_ofList, String.toList_ofList] at digits
  rw [← @Nat.ofDigitChars_ten_toDigits left, digits,
    Nat.ofDigitChars_ten_toDigits]

/-- The version ends at the first separator. -/
theorem version_eq_of_cacheKey {keyPrefix namespace_ : String} {left right : Nat}
    {key other : String}
    (same : cacheKey keyPrefix namespace_ (toString left) key =
      cacheKey keyPrefix namespace_ (toString right) other) :
    left = right := by
  have lists := congrArg String.toList same
  simp only [cacheKey, String.toList_append, List.append_assoc,
    List.append_cancel_left_eq] at lists
  have version : ∀ (number : Nat) (rest : List Char),
      ((toString number).toList ++ (":".toList ++ rest)).takeWhile (· ≠ ':') =
        (toString number).toList := by
    intro number rest
    rw [List.takeWhile_append_of_pos]
    · exact List.append_nil _
    · intro char member
      exact decide_eq_true fun same =>
        separator_not_mem_toString number (same ▸ member)
  have digits := congrArg (List.takeWhile (· ≠ ':')) lists
  rw [version, version] at digits
  exact toString_injective (String.toList_inj.mp digits)

section Invariant

variable {α : Type} {codec : Codec α} (keyPrefix namespace_ : String)

/-- The increments that made the version lie before the moment. -/
def After (increments : List Nat) (version moment : Nat) : Prop :=
  ∀ increment ∈ increments.take version, increment < moment

/-- The value was loaded after its version had come up. -/
def Stored (increments : List Nat) (entry : CacheEntry) : Prop :=
  ∃ version key,
    entry.name = cacheKey keyPrefix namespace_ (toString version) key ∧
      version ≤ increments.length ∧ After increments version entry.started

/-- The call looks under a version no older than its start. -/
def Versioned (increments : List Nat) (started : Nat) (name : String) : Prop :=
  ∃ version key, name = cacheKey keyPrefix namespace_ (toString version) key ∧
    version ≤ increments.length ∧
      ∀ increment ∈ increments, increment < started →
        increment ∈ increments.take version

/-- What holds of a call at each stage. -/
def StageFresh (client : Bool) (increments : List Nat) (started : Nat) :
    Stage α → Prop
  | .begun => client = true
  | .versioned name =>
      client = true ∧ Versioned keyPrefix namespace_ increments started name
  | .missed none => True
  | .missed (some name) =>
      client = true ∧ Versioned keyPrefix namespace_ increments started name
  | .loading none since => started ≤ since
  | .loading (some name) since =>
      client = true ∧ started ≤ since ∧
        Stored keyPrefix namespace_ increments { name, text := "", started := since }
  | .storing value => client = true ∧ started ≤ value.started
  | .returned value =>
      started ≤ value.started ∨ client = true ∧
        ∀ increment ∈ increments, increment < started →
          increment < value.started
  | .failed => True

/-- An invalidation completes once its increment is logged. -/
def Effected (client : Bool) (increments : List Nat) (clock : Nat)
    (call : Invalidation) : Prop :=
  match call.effect with
  | none => call.completed = none
  | some effect =>
      (client = true → effect ∈ increments) ∧ effect < clock ∧
        ∀ completed, call.completed = some completed → effect ≤ completed

structure Fresh (state : State α) : Prop where
  counted : state.version.getD 0 = state.increments.length
  past : ∀ increment ∈ state.increments, increment < state.clock
  begun : ∀ call ∈ state.calls, call.started < state.clock
  values : ∀ entry ∈ state.values,
    Stored keyPrefix namespace_ state.increments entry
  sent : ∀ entry ∈ state.sent,
    Stored keyPrefix namespace_ state.increments entry
  calls : ∀ call ∈ state.calls, StageFresh keyPrefix namespace_ state.client
    state.increments call.started call.stage
  effects : ∀ call ∈ state.invalidations,
    Effected state.client state.increments state.clock call

variable {keyPrefix namespace_} {increments : List Nat} {state : State α}

theorem Stored.append {entry : CacheEntry} (moment : Nat)
    (stored : Stored keyPrefix namespace_ increments entry) :
    Stored keyPrefix namespace_ (increments ++ [moment]) entry := by
  obtain ⟨version, key, name, bounded, later⟩ := stored
  refine ⟨version, key, name, ?_, ?_⟩
  · rw [List.length_append]
    exact Nat.le_trans bounded (Nat.le_add_right _ _)
  · unfold After
    rw [List.take_append_of_le_length bounded]
    exact later

theorem Versioned.append {started moment : Nat} {name : String}
    (versioned : Versioned keyPrefix namespace_ increments started name)
    (later : started ≤ moment) :
    Versioned keyPrefix namespace_ (increments ++ [moment]) started name := by
  obtain ⟨version, key, same, bounded, covered⟩ := versioned
  refine ⟨version, key, same, ?_, ?_⟩
  · rw [List.length_append]
    exact Nat.le_trans bounded (Nat.le_add_right _ _)
  · rw [List.take_append_of_le_length bounded]
    intro increment member early
    rcases List.mem_append.mp member with member | member
    · exact covered increment member early
    · rw [List.mem_singleton] at member
      omega

theorem StageFresh.append {client : Bool} {started moment : Nat}
    {stage : Stage α}
    (fresh : StageFresh keyPrefix namespace_ client increments started stage)
    (later : started ≤ moment) :
    StageFresh keyPrefix namespace_ client (increments ++ [moment]) started
      stage := by
  cases stage with
  | begun | failed | storing => exact fresh
  | versioned name => exact ⟨fresh.1, fresh.2.append later⟩
  | missed name =>
      cases name with
      | none => trivial
      | some name => exact ⟨fresh.1, fresh.2.append later⟩
  | loading name since =>
      cases name with
      | none => exact fresh
      | some name => exact ⟨fresh.1, fresh.2.1, fresh.2.2.append moment⟩
  | returned value =>
      refine fresh.imp_right fun shared => ⟨shared.1, ?_⟩
      intro increment member early
      rcases List.mem_append.mp member with member | member
      · exact shared.2 increment member early
      · rw [List.mem_singleton] at member
        omega

theorem cacheVersion_eq (fresh : Fresh keyPrefix namespace_ state) :
    state.cacheVersion = toString state.increments.length := by
  unfold State.cacheVersion
  rw [← fresh.counted]
  cases state.version <;> rfl

/-- Under the version of the moment every earlier increment is covered. -/
theorem versioned_now (fresh : Fresh keyPrefix namespace_ state)
    (started : Nat) (key : String) :
    Versioned keyPrefix namespace_ state.increments started
      (cacheKey keyPrefix namespace_ state.cacheVersion key) := by
  refine ⟨state.increments.length, key, ?_, Nat.le_refl _, ?_⟩
  · rw [cacheVersion_eq fresh]
  · intro increment member _
    rwa [List.take_length]

/-- A load that starts now follows all increments. -/
theorem stored_now (fresh : Fresh keyPrefix namespace_ state) {started : Nat}
    {name : String}
    (versioned : Versioned keyPrefix namespace_ state.increments started name) :
    Stored keyPrefix namespace_ state.increments
      { name, text := "", started := state.clock } := by
  obtain ⟨version, key, same, bounded, _⟩ := versioned
  refine ⟨version, key, same, bounded, fun increment member => ?_⟩
  exact fresh.past increment (List.mem_of_mem_take member)

/-- What is found under the version was loaded after the increments the call
has to see. -/
theorem lookup_fresh {client : Bool} {started : Nat} {name : String}
    (connected : client = true)
    (versioned : Versioned keyPrefix namespace_ increments started name)
    (entry : Option CacheEntry)
    (stored : ∀ found ∈ entry, found.name = name ∧
      Stored keyPrefix namespace_ increments found) :
    StageFresh keyPrefix namespace_ client increments started
      (lookup codec name entry) := by
  unfold lookup
  cases entry with
  | none => exact ⟨connected, versioned⟩
  | some entry =>
      dsimp only
      split
      · exact ⟨connected, versioned⟩
      · cases codec.parse entry.text with
        | none => trivial
        | some value =>
            refine .inr ⟨connected, fun increment member early => ?_⟩
            obtain ⟨version, key, same, _, covered⟩ := versioned
            obtain ⟨named, other, otherKey, otherSame, _, later⟩ :=
              stored entry rfl
            have names : cacheKey keyPrefix namespace_ (toString version) key =
                cacheKey keyPrefix namespace_ (toString other) otherKey :=
              same.symm.trans (named.symm.trans otherSame)
            have versions : version = other := version_eq_of_cacheKey names
            exact later increment (versions ▸ covered increment member early)

theorem Effected.tick {client : Bool} {clock : Nat} {call : Invalidation}
    (effected : Effected client increments clock call) :
    Effected client increments (clock + 1) call := by
  unfold Effected at effected ⊢
  cases effect : call.effect with
  | none => simpa [effect] using effected
  | some moment =>
      simp only [effect] at effected
      exact ⟨effected.1, Nat.lt_succ_of_lt effected.2.1, effected.2.2⟩

/-- A further increment is the effect of a call that had none. -/
theorem Effected.increment {client : Bool} {clock : Nat} {call : Invalidation}
    (effected : Effected client increments clock call) :
    Effected client (increments ++ [clock]) (clock + 1)
      { call with effect := call.effect.or (some clock) } := by
  unfold Effected at effected ⊢
  cases effect : call.effect with
  | none =>
      simp only [effect] at effected
      refine ⟨fun _ => by simp, Nat.lt_succ_self _, fun completed same => ?_⟩
      rw [effected] at same
      cases same
  | some moment =>
      simp only [effect] at effected
      refine ⟨fun connected => ?_, Nat.lt_succ_of_lt effected.2.1, effected.2.2⟩
      exact List.mem_append_left _ (effected.1 connected)

theorem Effected.complete {client : Bool} {clock : Nat} {call : Invalidation}
    (effected : Effected client increments clock call)
    (effective : call.effect.isSome) :
    Effected client increments (clock + 1)
      { call with completed := some clock } := by
  obtain ⟨moment, effect⟩ := Option.isSome_iff_exists.mp effective
  unfold Effected at effected ⊢
  simp only [effect] at effected ⊢
  refine ⟨effected.1, Nat.lt_succ_of_lt effected.2.1, fun completed same => ?_⟩
  exact Option.some.inj same ▸ Nat.le_of_lt effected.2.1

theorem Effected.append {client : Bool} {clock : Nat} {call : Invalidation}
    (effected : Effected client increments clock call) (moment : Nat) :
    Effected client (increments ++ [moment]) clock call := by
  unfold Effected at effected ⊢
  cases effect : call.effect with
  | none => simpa [effect] using effected
  | some moment =>
      simp only [effect] at effected
      exact ⟨fun connected => List.mem_append_left _ (effected.1 connected),
        effected.2⟩

/-- A call moves on, or begins. -/
theorem Fresh.moveTo (fresh : Fresh keyPrefix namespace_ state)
    {call : CachedCall α} {stage : Stage α} (begun : call.started ≤ state.clock)
    (stageFresh : StageFresh keyPrefix namespace_ state.client state.increments
      call.started stage) :
    Fresh keyPrefix namespace_ (state.moveTo call stage).tick where
  counted := fresh.counted
  past increment member := Nat.lt_succ_of_lt (fresh.past increment member)
  begun other member := by
    rcases Table.mem_put.mp member with rfl | ⟨stored, -⟩
    · exact Nat.lt_succ_of_le begun
    · exact Nat.lt_succ_of_lt (fresh.begun other stored)
  values := fresh.values
  sent := fresh.sent
  calls other member := by
    rcases Table.mem_put.mp member with rfl | ⟨stored, -⟩
    · exact stageFresh
    · exact fresh.calls other stored
  effects call member := (fresh.effects call member).tick

/-- The cache or the calls of `invalidate` change. -/
theorem Fresh.replace (fresh : Fresh keyPrefix namespace_ state)
    (values : Table CacheEntry) (sent : List CacheEntry)
    (invalidations : Table Invalidation)
    (valuesFresh : ∀ entry ∈ values,
      Stored keyPrefix namespace_ state.increments entry)
    (sentFresh : ∀ entry ∈ sent,
      Stored keyPrefix namespace_ state.increments entry)
    (effects : ∀ call ∈ invalidations,
      Effected state.client state.increments (state.clock + 1) call) :
    Fresh keyPrefix namespace_
      ({ state with values, sent, invalidations } : State α).tick where
  counted := fresh.counted
  past increment member := Nat.lt_succ_of_lt (fresh.past increment member)
  begun call member := Nat.lt_succ_of_lt (fresh.begun call member)
  values := valuesFresh
  sent := sentFresh
  calls := fresh.calls
  effects := effects

/-- A `SET` is sent. -/
theorem Fresh.send (fresh : Fresh keyPrefix namespace_ state)
    (entry : Option CacheEntry)
    (stored : ∀ sent ∈ entry,
      Stored keyPrefix namespace_ state.increments sent) :
    Fresh keyPrefix namespace_
      ({ state with sent := state.sent ++ entry.toList } : State α) where
  counted := fresh.counted
  past := fresh.past
  begun := fresh.begun
  values := fresh.values
  sent other member := by
    rcases List.mem_append.mp member with member | member
    · exact fresh.sent other member
    · exact stored other (Option.mem_toList.mp member)
  calls := fresh.calls
  effects := fresh.effects

/-- The server executes an `INCR`. -/
theorem Fresh.increment (fresh : Fresh keyPrefix namespace_ state)
    {call : Invalidation} (member : call ∈ state.invalidations) :
    Fresh keyPrefix namespace_
      ({ state with
        version := some (state.version.getD 0 + 1)
        increments := state.increments ++ [state.clock]
        invalidations := state.invalidations.put
          { call with effect := call.effect.or (some state.clock) } } :
        State α).tick where
  counted := by
    change state.version.getD 0 + 1 = (state.increments ++ [state.clock]).length
    rw [List.length_append, fresh.counted]
    rfl
  past increment logged := by
    rcases List.mem_append.mp logged with logged | logged
    · exact Nat.lt_succ_of_lt (fresh.past increment logged)
    · exact List.mem_singleton.mp logged ▸ Nat.lt_succ_self _
  begun other member := Nat.lt_succ_of_lt (fresh.begun other member)
  values entry member := (fresh.values entry member).append _
  sent entry member := (fresh.sent entry member).append _
  calls other member := (fresh.calls other member).append
    (Nat.le_of_lt (fresh.begun other member))
  effects other member' := by
    rcases Table.mem_put.mp member' with rfl | ⟨stored, -⟩
    · exact (fresh.effects call member).increment
    · exact (fresh.effects other stored).tick.append _

theorem fresh_step (event : Event α) (before after : State α)
    (fresh : Fresh keyPrefix namespace_ before)
    (stepped : (machine codec keyPrefix namespace_).step event before =
      some after) :
    Fresh keyPrefix namespace_ after := by
  obtain ⟨next, acted, rfl⟩ := Option.map_eq_some_iff.mp stepped
  cases event with
  | cached id key =>
      simp only [act] at acted
      split at acted
      · cases acted
      · obtain rfl := Option.some.inj acted
        refine fresh.moveTo (Nat.le_refl _) ?_
        split
        · assumption
        · trivial
  | readVersion id answered =>
      obtain ⟨call, found, moved⟩ := Option.bind_eq_some_iff.mp acted
      have member := (Table.find_eq_some.mp found).1
      have here := fresh.calls call member
      cases stage : call.stage <;> simp only [stage, reduceCtorEq] at moved
      rw [stage] at here
      obtain rfl := Option.some.inj moved
      refine fresh.moveTo (Nat.le_of_lt (fresh.begun call member)) ?_
      cases answered with
      | true => exact ⟨here, versioned_now fresh call.started call.key⟩
      | false => trivial
  | readValue id answered =>
      obtain ⟨call, found, moved⟩ := Option.bind_eq_some_iff.mp acted
      have member := (Table.find_eq_some.mp found).1
      have here := fresh.calls call member
      cases stage : call.stage <;> simp only [stage, reduceCtorEq] at moved
      rename_i name
      rw [stage] at here
      obtain rfl := Option.some.inj moved
      refine fresh.moveTo (Nat.le_of_lt (fresh.begun call member)) ?_
      cases answered with
      | true =>
          refine lookup_fresh here.1 here.2 _ fun entry hit => ?_
          obtain ⟨stored, named⟩ := Table.find_eq_some.mp hit
          exact ⟨named, fresh.values entry stored⟩
      | false => trivial
  | load id =>
      obtain ⟨call, found, moved⟩ := Option.bind_eq_some_iff.mp acted
      have member := (Table.find_eq_some.mp found).1
      have here := fresh.calls call member
      have begun := Nat.le_of_lt (fresh.begun call member)
      cases stage : call.stage <;> simp only [stage, reduceCtorEq] at moved
      rename_i name
      rw [stage] at here
      obtain rfl := Option.some.inj moved
      refine fresh.moveTo begun ?_
      cases name with
      | none => exact begun
      | some name => exact ⟨here.1, begun, stored_now fresh here.2⟩
  | loaded id result =>
      obtain ⟨call, found, moved⟩ := Option.bind_eq_some_iff.mp acted
      have member := (Table.find_eq_some.mp found).1
      have here := fresh.calls call member
      have begun := Nat.le_of_lt (fresh.begun call member)
      cases stage : call.stage <;> simp only [stage, reduceCtorEq] at moved
      rename_i name since
      rw [stage] at here
      cases result with
      | none =>
          obtain rfl := Option.some.inj moved
          exact fresh.moveTo begun trivial
      | some value =>
          cases name with
          | none =>
              obtain rfl := Option.some.inj moved
              exact fresh.moveTo begun (.inl here)
          | some name =>
              obtain rfl := Option.some.inj moved
              obtain ⟨connected, later, stored⟩ := here
              have extended := fresh.send
                ((codec.stringify value).map fun text =>
                  { name, text, started := since }) fun entry sent => by
                    obtain ⟨text, -, rfl⟩ := Option.map_eq_some_iff.mp sent
                    exact stored
              exact extended.moveTo begun ⟨connected, later⟩
  | deliver index =>
      obtain ⟨entry, sent, rfl⟩ := Option.map_eq_some_iff.mp acted
      refine fresh.replace _ before.sent before.invalidations ?_ fresh.sent
        fun call member => (fresh.effects call member).tick
      intro other member
      rcases Table.mem_put.mp member with rfl | ⟨stored, -⟩
      · exact fresh.sent _ (List.mem_of_getElem? sent)
      · exact fresh.values other stored
  | settle id =>
      obtain ⟨call, found, moved⟩ := Option.bind_eq_some_iff.mp acted
      have member := (Table.find_eq_some.mp found).1
      have here := fresh.calls call member
      cases stage : call.stage <;> simp only [stage, reduceCtorEq] at moved
      rw [stage] at here
      obtain rfl := Option.some.inj moved
      exact fresh.moveTo (Nat.le_of_lt (fresh.begun call member)) (.inl here.2)
  | invalidate id =>
      simp only [act] at acted
      split at acted
      · cases acted
      · split at acted
        · obtain rfl := Option.some.inj acted
          refine fresh.replace before.values before.sent _ fresh.values fresh.sent
            fun call member => ?_
          rcases Table.mem_put.mp member with rfl | ⟨stored, -⟩
          · rfl
          · exact (fresh.effects call stored).tick
        · rename_i disconnected
          obtain rfl := Option.some.inj acted
          refine fresh.replace before.values before.sent _ fresh.values fresh.sent
            fun call member => ?_
          rcases Table.mem_put.mp member with rfl | ⟨stored, -⟩
          · refine ⟨fun connected => absurd connected disconnected,
              Nat.lt_succ_self _, fun completed same => ?_⟩
            exact Nat.le_of_eq (Option.some.inj same)
          · exact (fresh.effects call stored).tick
  | increment id =>
      obtain ⟨call, found, moved⟩ := Option.bind_eq_some_iff.mp acted
      have member := (Table.find_eq_some.mp found).1
      split at moved
      · obtain rfl := Option.some.inj moved
        exact fresh.increment member
      · cases moved
  | complete id =>
      obtain ⟨call, found, moved⟩ := Option.bind_eq_some_iff.mp acted
      have member := (Table.find_eq_some.mp found).1
      split at moved
      · rename_i open_
        obtain rfl := Option.some.inj moved
        refine fresh.replace before.values before.sent _ fresh.values fresh.sent
          fun other member' => ?_
        rcases Table.mem_put.mp member' with rfl | ⟨stored, -⟩
        · exact (fresh.effects call member).complete open_.1
        · exact (fresh.effects other stored).tick
      · cases moved
  | forget name =>
      obtain rfl := Option.some.inj acted
      refine fresh.replace _ before.sent before.invalidations ?_ fresh.sent
        fun call member => (fresh.effects call member).tick
      exact fun entry member => fresh.values entry (Table.mem_drop.mp member).1

def State.start (client : Bool) : State α := { client }

theorem fresh_start (client : Bool) :
    Fresh keyPrefix namespace_ (State.start client : State α) where
  counted := rfl
  past _ member := absurd member List.not_mem_nil
  begun call member := absurd member (Table.not_mem_empty call)
  values entry member := absurd member (Table.not_mem_empty entry)
  sent _ member := absurd member List.not_mem_nil
  calls call member := absurd member (Table.not_mem_empty call)
  effects call member := absurd member (Table.not_mem_empty call)

theorem Effected.of_completed {client : Bool} {clock effect completed : Nat}
    {call : Invalidation} (effected : Effected client increments clock call)
    (effective : call.effect = some effect)
    (done : call.completed = some completed) :
    (client = true → effect ∈ increments) ∧ effect ≤ completed := by
  simp only [Effected, effective] at effected
  exact ⟨effected.1, effected.2.2 completed done⟩

/-- A call that starts after an invalidation has completed returns no value
whose load was started before that invalidation took effect. -/
theorem loaded_after_invalidation (client : Bool)
    (reachable : (machine codec keyPrefix namespace_).Reachable
      (State.start client) state)
    (call : CachedCall α) (called : call ∈ state.calls) (value : Loaded α)
    (returned : call.stage = .returned value) (invalidation : Invalidation)
    (invalidated : invalidation ∈ state.invalidations) (completed : Nat) (done : invalidation.completed = some completed)
    (follows : completed < call.started) :
    ∃ effect, invalidation.effect = some effect ∧ effect < value.started := by
  have fresh : Fresh keyPrefix namespace_ state :=
    reachable.invariant (fresh_start client) fresh_step
  have effected := fresh.effects invalidation invalidated
  have here := fresh.calls call called
  rw [returned] at here
  cases effective : invalidation.effect with
  | none =>
      simp only [Effected, effective, done, reduceCtorEq] at effected
  | some effect =>
      obtain ⟨logged, bounded⟩ := effected.of_completed effective done
      refine ⟨effect, rfl, ?_⟩
      rcases here with own | ⟨connected, shared⟩
      · omega
      · exact shared effect (logged connected) (by omega)

end Invariant

/-- Text stored as it is. -/
def plain : Codec String := { stringify := some, parse := some }

/-- The first load is overtaken by an invalidation; the third call answers what
the second one has stored. -/
def overtaken : List (Event String) :=
  [.cached 1 "stats", .readVersion 1 true, .readValue 1 true, .load 1,
    .invalidate 9, .increment 9, .complete 9,
    .loaded 1 (some "old"), .deliver 0, .settle 1,
    .cached 2 "stats", .readVersion 2 true, .readValue 2 true, .load 2,
    .loaded 2 (some "new"), .deliver 1, .settle 2,
    .cached 3 "stats", .readVersion 3 true, .readValue 3 true]

theorem loaded_after_invalidation_overtaken :
    ((machine plain "saas" "dashboard").run overtaken
        (State.start true)).isSome ∧
      ∃ effect, some 5 = some effect ∧ effect < 13 := by
  have ran : ((machine plain "saas" "dashboard").run overtaken
      (State.start true)).isSome := by decide +kernel
  refine ⟨ran, ?_⟩
  exact loaded_after_invalidation true (.of_run overtaken ran)
    ⟨3, "stats", 17, .returned ⟨"new", 13⟩⟩ (by decide +kernel) _ rfl
    ⟨9, some 5, some 6⟩ (by decide +kernel) 6 rfl (by decide)

end Cache

end SaasFoundation
