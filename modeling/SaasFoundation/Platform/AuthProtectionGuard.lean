import SaasFoundation.Platform.RateLimitGuard
import SaasFoundation.Relational.Machine

/-!
# `platform/auth-protection.guard.ts`

Attempts from any address, on any number of replicas.  Counting and writing the
block are separate steps; without Redis every replica counts for itself.  An
attempt is counted in the window its `consume` found open, or opened.
-/

namespace SaasFoundation

open Relational RedisService

/-- A row of `login_blocks`. -/
structure LoginBlock where
  key : String
  generation : Uuid
  attempts : Nat
  lockedUntil : Int
  deriving DecidableEq

instance : Keyed LoginBlock String := ⟨LoginBlock.key⟩

@[simp] theorem LoginBlock.key_eq (block : LoginBlock) :
    key block = block.key := rfl

/-- The key `consume` and `resetOnce` get for a client key. -/
def authKey (key : String) : String := "auth:" ++ key

theorem authKey_injective {left right : String}
    (same : authKey left = authKey right) : left = right := by
  have lists := congrArg String.toList same
  simp only [authKey, String.toList_append, List.append_cancel_left_eq] at lists
  exact String.toList_inj.mp lists

inductive CaptchaAction where
  | login
  | register
  deriving DecidableEq, Repr

namespace AuthProtectionGuard

/-- Where an attempt stands in `canActivate`. -/
inductive Stage where
  | arrived
  | uncounted (failure : Failure)
  | blocking (window : Window)
  | limited (failure : Failure) (headers : List (String × String))
  | passed
  | verified
  | unverified (failure : Failure)
  deriving DecidableEq

structure Attempt where
  id : Nat
  replica : Nat
  request : HttpRequest
  captchaAction : Option CaptchaAction
  stage : Stage
  deriving DecidableEq

instance : Keyed Attempt Nat := ⟨Attempt.id⟩

@[simp] theorem Attempt.key_eq (attempt : Attempt) :
    key attempt = attempt.id := rfl

/-- A counter from the attempt that created it on. -/
structure WindowId where
  store : Nat
  key : String
  opener : Nat
  deriving DecidableEq

/-- That an attempt was counted in a window, and its number there. -/
structure Tally where
  attempt : Nat
  window : WindowId
  number : Nat
  deriving DecidableEq

structure BlockWrite where
  attempt : Nat
  key : String
  generation : Uuid
  deriving DecidableEq

/-- `opener` names the attempt that created the latest counter of a key. -/
structure State where
  now : Int
  storages : Nat → Storage
  opener : Nat → String → Nat := fun _ _ => 0
  attempts : Table Attempt := ∅
  blocks : Table LoginBlock := ∅
  tallies : List Tally := []
  writes : List BlockWrite := []

/-- `generation` is what `randomUUID` answers. -/
inductive Event where
  | arrive (id replica : Nat) (request : HttpRequest)
      (captchaAction : Option CaptchaAction)
  | consume (id : Nat)
  | block (id : Nat) (generation : Uuid)
  | verify (id : Nat) (refusal : Option Failure)
  | otherLimiter (replica : Nat) (request : HttpRequest) (route : Route)
  | resetOnce (replica : Nat) (key : String) (operation : Uuid)
  | unblock (key : String)
  | restart (replica : Nat)
  | wait (milliseconds : Nat)

section Steps

variable (config : RuntimeConfig) (mode : RedisMode) (sha256 : String → String)

/-- Where a replica keeps its counters. -/
def store (replica : Nat) : Nat :=
  match mode with
  | .disabled => replica
  | _ => 0

def Attempt.clientKey (attempt : Attempt) : String :=
  sha256 attempt.request.address

def tooMany : Failure :=
  .http 429 "Too many authentication attempts. Please try again later." []

def limited (window : Window) : Stage :=
  .limited tooMany [("Retry-After", toString window.retryAfter)]

/-- What follows `consume`. -/
def afterConsume : Except Failure Window → Stage
  | .error failure => .uncounted failure
  | .ok window =>
      if config.rateLimit < window.count then
        if window.count = config.rateLimit + 1 then .blocking window
        else limited window
      else .passed

/-- The row `INSERT .. ON CONFLICT (key) DO UPDATE` leaves. -/
def loginBlock (now : Int) (key : String) (generation : Uuid)
    (window : Window) : LoginBlock :=
  { key, generation, attempts := window.count
    lockedUntil := now + window.retryAfter * 1000 }

def State.counter (state : State) (store : Nat) (key : String) :
    Option OpenWindow :=
  (state.storages store).counter config.keyPrefix state.now (authKey key)

def State.setStorage (store : Nat) (storage : Storage) (state : State) : State :=
  { state with storages := Function.update state.storages store storage }

def State.moveTo (attempt : Attempt) (stage : Stage) (state : State) : State :=
  { state with attempts := state.attempts.put { attempt with stage } }

def State.write (block : LoginBlock) (attempt : Nat) (state : State) : State :=
  { state with
    blocks := state.blocks.put block
    writes := state.writes ++
      [{ attempt, key := block.key, generation := block.generation }] }

/-- The window the next count of a key falls in. -/
def State.windowFor (state : State) (store : Nat) (key : String) (id : Nat) :
    WindowId :=
  { store, key
    opener :=
      if (state.counter config store key).isSome then state.opener store key
      else id }

def setOpener (window : WindowId) (opener : Nat → String → Nat) :
    Nat → String → Nat :=
  fun store key =>
    if store = window.store ∧ key = window.key then window.opener
    else opener store key

def State.tally (state : State) (window : WindowId) (attempt : Nat) :
    Except Failure Window → State
  | .error _ => state
  | .ok answer =>
      { state with
        opener := setOpener window state.opener
        tallies := state.tallies ++
          [{ attempt, window, number := answer.count }] }

def act (event : Event) (state : State) : Option State :=
  match event with
  | .arrive id replica request captchaAction =>
      if (state.attempts.find id).isSome then none
      else
        some { state with
          attempts := state.attempts.put
            { id, replica, request, captchaAction, stage := .arrived } }
  | .consume id =>
      (state.attempts.find id).bind fun attempt =>
        match attempt.stage with
        | .arrived =>
            let store := store mode attempt.replica
            let key := attempt.clientKey sha256
            let answer := (state.storages store).consume config.keyPrefix
              state.now (authKey key) config.rateWindowSeconds
            some (((state.setStorage store answer.2).moveTo attempt
              (afterConsume config answer.1)).tally
                (state.windowFor config store key id) id answer.1)
        | _ => none
  | .block id generation =>
      (state.attempts.find id).bind fun attempt =>
        match attempt.stage with
        | .blocking window =>
            let key := attempt.clientKey sha256
            if generation ∈ state.writes.map BlockWrite.generation then none
            else
              some ((state.write (loginBlock state.now key generation window)
                id).moveTo attempt (limited window))
        | _ => none
  | .verify id refusal =>
      (state.attempts.find id).bind fun attempt =>
        match attempt.stage, refusal, attempt.captchaAction with
        | .passed, none, _ => some (state.moveTo attempt .verified)
        | .passed, some failure, some _ =>
            some (state.moveTo attempt (.unverified failure))
        | _, _, _ => none
  | .otherLimiter replica request route =>
      let store := store mode replica
      some (state.setStorage store ((state.storages store).consume
        config.keyPrefix state.now
        (RateLimitGuard.counterKey sha256 request route)
        (route.windowSeconds config)).2)
  | .resetOnce replica key operation =>
      let store := store mode replica
      some (state.setStorage store ((state.storages store).resetOnce
        config.keyPrefix state.now (authKey key) operation.text).2)
  | .unblock key => some { state with blocks := state.blocks.drop key }
  | .restart replica =>
      if mode = .disabled then
        some (state.setStorage replica (Storage.start mode))
      else none
  | .wait milliseconds => some { state with now := state.now + milliseconds }

def machine : Machine State Event := ⟨act config mode sha256⟩

def State.start (now : Int) : State :=
  { now, storages := fun _ => Storage.start mode }

end Steps

/-- The attempts counted in a window, in their order. -/
def countedIn (window : WindowId) (tallies : List Tally) : List Tally :=
  tallies.filter fun tally => tally.window = window

/-- The window of the latest counter of a key. -/
def State.latest (state : State) (store : Nat) (key : String) : WindowId :=
  { store, key, opener := state.opener store key }

section Invariant

variable (config : RuntimeConfig) (mode : RedisMode) (sha256 : String → String)

def Allowed (retryAfter : Int) : Prop :=
  1 ≤ retryAfter ∧ retryAfter ≤ config.rateWindowSeconds

/-- What an attempt's stage says about its number. -/
def StageTallied (tallies : List Tally) (writes : List BlockWrite) (id : Nat) :
    Stage → Prop
  | .arrived | .uncounted _ => ∀ tally ∈ tallies, tally.attempt ≠ id
  | .blocking answer =>
      Allowed config answer.retryAfter ∧
        (∃ tally ∈ tallies, tally.attempt = id ∧
          tally.number = config.rateLimit + 1) ∧
        ∀ write ∈ writes, write.attempt ≠ id
  | .limited failure headers =>
      (failure = tooMany ∧ ∃ retryAfter, Allowed config retryAfter ∧
        headers = [("Retry-After", toString retryAfter)]) ∧
        ∃ tally ∈ tallies, tally.attempt = id ∧
          config.rateLimit < tally.number ∧
          (tally.number = config.rateLimit + 1 →
            ∃ write ∈ writes, write.attempt = id)
  | .passed | .verified | .unverified _ =>
      ∃ tally ∈ tallies, tally.attempt = id ∧ tally.number ≤ config.rateLimit

/-- The attempt of a tally, and the attempt that opened its window. -/
structure Tallied (attempts : Table Attempt) (tallies : List Tally)
    (tally : Tally) : Prop where
  attempted : ∃ attempt ∈ attempts, attempt.id = tally.attempt ∧
    tally.window.store = store mode attempt.replica ∧
    tally.window.key = attempt.clientKey sha256
  opened : ∃ opening ∈ tallies, opening.attempt = tally.window.opener

structure Ordered (state : State) : Prop where
  sound : ∀ store, (state.storages store).Sound
  current : ∀ store key opened, state.counter config store key = some opened →
    (countedIn (state.latest store key) state.tallies).length = opened.count ∧
      opened.expires ≤ state.now + config.rateWindowSeconds * 1000
  numbered : ∀ window, (countedIn window state.tallies).map Tally.number =
    List.range' 1 (countedIn window state.tallies).length
  distinct : (state.tallies.map Tally.attempt).Nodup
  tallied : ∀ tally ∈ state.tallies,
    Tallied mode sha256 state.attempts state.tallies tally
  stages : ∀ attempt ∈ state.attempts,
    StageTallied config state.tallies state.writes attempt.id attempt.stage
  writes : ∀ write ∈ state.writes, ∃ tally ∈ state.tallies,
    tally.attempt = write.attempt ∧ tally.number = config.rateLimit + 1 ∧
      write.key = tally.window.key
  once : (state.writes.map BlockWrite.attempt).Nodup
  fresh : (state.writes.map BlockWrite.generation).Nodup

variable {config mode sha256} {state : State}

/-- Time passes, or other keys are counted, or counters are dropped. -/
theorem Ordered.close (ordered : Ordered config mode sha256 state) {later : Int}
    {storages : Nat → Storage} (blocks : Table LoginBlock)
    (follows : state.now ≤ later) (sound : ∀ store, (storages store).Sound)
    (closed : ∀ store key opened,
      (storages store).counter config.keyPrefix later (authKey key) =
        some opened → state.counter config store key = some opened) :
    Ordered config mode sha256
      { state with now := later, storages, blocks } where
  sound := sound
  current store key opened found := by
    obtain ⟨counted, soon⟩ :=
      ordered.current store key opened (closed store key opened found)
    refine ⟨counted, soon.trans ?_⟩
    change state.now + _ ≤ later + _
    omega
  numbered := ordered.numbered
  distinct := ordered.distinct
  tallied := ordered.tallied
  stages := ordered.stages
  writes := ordered.writes
  once := ordered.once
  fresh := ordered.fresh

/-- One store is replaced. -/
theorem Ordered.setStorage (ordered : Ordered config mode sha256 state)
    (store : Nat) {storage : Storage} (sound : storage.Sound)
    (closed : ∀ key opened,
      storage.counter config.keyPrefix state.now (authKey key) = some opened →
        state.counter config store key = some opened) :
    Ordered config mode sha256 (state.setStorage store storage) := by
  refine ordered.close state.blocks le_rfl ?_ ?_
  · intro other
    by_cases here : other = store
    · subst here
      rwa [Function.update_self]
    · rw [Function.update_of_ne here]
      exact ordered.sound other
  · intro other key opened found
    by_cases here : other = store
    · subst here
      rw [Function.update_self] at found
      exact closed key opened found
    · rw [Function.update_of_ne here] at found
      exact found

/-- The attempt of a tally stays the same at another stage. -/
theorem Tallied.put {attempts : Table Attempt} {tallies : List Tally}
    {tally : Tally} {attempt : Attempt}
    (before : Tallied mode sha256 attempts tallies tally) (stage : Stage)
    (same : ∀ old ∈ attempts, old.id = attempt.id →
      old.replica = attempt.replica ∧ old.request = attempt.request) :
    Tallied mode sha256 (attempts.put { attempt with stage }) tallies tally := by
  obtain ⟨⟨old, stored, id, place, client⟩, opened⟩ := before
  refine ⟨?_, opened⟩
  by_cases here : old.id = attempt.id
  · obtain ⟨replica, request⟩ := same old stored here
    refine ⟨{ attempt with stage }, Table.mem_put.mpr (.inl rfl), ?_, ?_, ?_⟩
    · exact here.symm.trans id
    · rw [place, replica]
    · rw [client, Attempt.clientKey, request]
      rfl
  · exact ⟨old, Table.mem_put.mpr (.inr ⟨stored, here⟩), id, place, client⟩

theorem unchanged_attempt {attempt : Attempt} {attempts : Table Attempt}
    (member : attempt ∈ attempts) :
    ∀ old ∈ attempts, old.id = attempt.id →
      old.replica = attempt.replica ∧ old.request = attempt.request := by
  intro old stored same
  rw [Table.eq_of_key stored member same]
  exact ⟨rfl, rfl⟩

/-- An attempt arrives, or gets on without being counted. -/
theorem Ordered.moveTo (ordered : Ordered config mode sha256 state)
    (attempt : Attempt) (stage : Stage)
    (same : ∀ old ∈ state.attempts, old.id = attempt.id →
      old.replica = attempt.replica ∧ old.request = attempt.request)
    (next : StageTallied config state.tallies state.writes attempt.id stage) :
    Ordered config mode sha256 (state.moveTo attempt stage) where
  sound := ordered.sound
  current := ordered.current
  numbered := ordered.numbered
  distinct := ordered.distinct
  tallied tally member := (ordered.tallied tally member).put stage same
  stages other member := by
    rcases Table.mem_put.mp member with rfl | ⟨stored, -⟩
    · exact next
    · exact ordered.stages other stored
  writes := ordered.writes
  once := ordered.once
  fresh := ordered.fresh

theorem StageTallied.append {id : Nat} {stage : Stage} {tallies : List Tally}
    {writes : List BlockWrite} {tally : Tally} (other : tally.attempt ≠ id)
    (before : StageTallied config tallies writes id stage) :
    StageTallied config (tallies ++ [tally]) writes id stage := by
  have absent (none : ∀ old ∈ tallies, old.attempt ≠ id) :
      ∀ old ∈ tallies ++ [tally], old.attempt ≠ id := by
    intro old member
    rcases List.mem_append.mp member with member | member
    · exact none old member
    · rwa [List.mem_singleton.mp member]
  have present {holds : Tally → Prop} (one : ∃ old ∈ tallies, holds old) :
      ∃ old ∈ tallies ++ [tally], holds old := by
    obtain ⟨old, member, held⟩ := one
    exact ⟨old, List.mem_append_left _ member, held⟩
  cases stage with
  | arrived | uncounted => exact absent before
  | blocking => exact ⟨before.1, present before.2.1, before.2.2⟩
  | limited => exact ⟨before.1, present before.2⟩
  | passed | verified | unverified => exact present before

/-- An attempt that arrives is counted after all those of the window. -/
theorem windowFor_length (ordered : Ordered config mode sha256 state) (id : Nat)
    (uncounted : ∀ tally ∈ state.tallies, tally.attempt ≠ id) (store : Nat)
    (key : String) :
    (countedIn (state.windowFor config store key id) state.tallies).length =
      ((state.counter config store key).map OpenWindow.count).getD 0 := by
  unfold State.windowFor
  cases found : state.counter config store key with
  | some opened => exact (ordered.current store key opened found).1
  | none =>
      refine List.length_eq_zero_iff.mpr (List.filter_eq_nil_iff.mpr ?_)
      intro tally member same
      obtain ⟨opening, stored, opener⟩ := (ordered.tallied tally member).opened
      have same := of_decide_eq_true same
      rw [same] at opener
      exact uncounted opening stored opener

/-- Its window was opened by itself or by an attempt counted before. -/
theorem windowFor_opened (ordered : Ordered config mode sha256 state)
    (store : Nat) (key : String) (id : Nat) :
    (state.windowFor config store key id).opener = id ∨
      ∃ opening ∈ state.tallies,
        opening.attempt = (state.windowFor config store key id).opener := by
  unfold State.windowFor
  cases found : state.counter config store key with
  | none => exact .inl rfl
  | some opened =>
      have positive := Storage.counter_pos (ordered.sound store) found
      have length := (ordered.current store key opened found).1
      obtain ⟨tally, member⟩ := List.exists_mem_of_length_pos
        (by omega : 0 < (countedIn (state.latest store key) state.tallies).length)
      obtain ⟨stored, same⟩ := List.mem_filter.mp member
      obtain ⟨opening, known, opener⟩ := (ordered.tallied tally stored).opened
      rw [of_decide_eq_true same] at opener
      exact .inr ⟨opening, known, opener⟩

theorem next_expires (ordered : Ordered config mode sha256 state) (store : Nat)
    (key : String) :
    (OpenWindow.next state.now config.rateWindowSeconds
      (state.counter config store key)).expires ≤
        state.now + config.rateWindowSeconds * 1000 := by
  cases found : state.counter config store key with
  | some opened => exact (ordered.current store key opened found).2
  | none => exact le_rfl

theorem countedIn_append (window : WindowId) (tallies : List Tally)
    (tally : Tally) :
    countedIn window (tallies ++ [tally]) =
      countedIn window tallies ++
        if tally.window = window then [tally] else [] := by
  unfold countedIn
  rw [List.filter_append]
  by_cases here : tally.window = window <;> simp [here]

theorem numbered_append {tallies : List Tally} (tally : Tally)
    (numbered : ∀ window, (countedIn window tallies).map Tally.number =
      List.range' 1 (countedIn window tallies).length)
    (next : tally.number = (countedIn tally.window tallies).length + 1)
    (window : WindowId) :
    (countedIn window (tallies ++ [tally])).map Tally.number =
      List.range' 1 (countedIn window (tallies ++ [tally])).length := by
  rw [countedIn_append]
  by_cases here : tally.window = window
  · subst here
    rw [if_pos rfl, List.map_append, List.length_append, List.map_singleton,
      List.length_singleton, List.range'_concat, numbered, next, Nat.one_mul,
      Nat.add_comm]
  · rw [if_neg here, List.append_nil, numbered]

theorem latest_tally {opener : Nat → String → Nat} {window : WindowId}
    (store : Nat) (key : String) :
    ({ store, key, opener := setOpener window opener store key } : WindowId) =
      if store = window.store ∧ key = window.key then window
      else { store, key, opener := opener store key } := by
  unfold setOpener
  by_cases here : store = window.store ∧ key = window.key
  · obtain ⟨rfl, rfl⟩ := here
    simp
  · simp [here]

/-- The counters once one of them has counted. -/
theorem counter_counted {place : Nat} {client : String} {seconds : Int}
    {storage : Storage} {answer : Window}
    (counted : Storage.Counted config.keyPrefix state.now (authKey client)
      seconds (state.storages place) storage answer)
    (store : Nat) (key : String) :
    (Function.update state.storages place storage store).counter
        config.keyPrefix state.now (authKey key) =
      if store = place ∧ key = client then
        some (OpenWindow.next state.now seconds
          (state.counter config place client))
      else state.counter config store key := by
  by_cases same : store = place
  · subst same
    rw [Function.update_self, counted.counters]
    by_cases here : key = client
    · rw [here, if_pos rfl, if_pos ⟨rfl, rfl⟩]
      rfl
    · rw [if_neg fun same => here (authKey_injective same),
        if_neg fun both => here both.2]
      rfl
  · rw [Function.update_of_ne same, if_neg fun both => same both.1]
    rfl

/-- The stage an attempt gets with its number. -/
theorem stage_afterConsume {answer : Window} {id : Nat} {tallies : List Tally}
    {writes : List BlockWrite} (allowed : Allowed config answer.retryAfter)
    (unwritten : ∀ write ∈ writes, write.attempt ≠ id)
    (counted : ∃ tally ∈ tallies, tally.attempt = id ∧
      tally.number = answer.count) :
    StageTallied config tallies writes id
      (afterConsume config (.ok answer)) := by
  obtain ⟨tally, member, attempt, number⟩ := counted
  change StageTallied config tallies writes id (if _ then _ else _)
  split
  · rename_i exceeds
    split
    · rename_i first
      exact ⟨allowed, ⟨tally, member, attempt, number.trans first⟩, unwritten⟩
    · rename_i later
      refine ⟨⟨rfl, answer.retryAfter, allowed, rfl⟩, tally, member, attempt, ?_, ?_⟩
      · rwa [number]
      · exact fun first => absurd (number.symm.trans first) later
  · rename_i within
    refine ⟨tally, member, attempt, ?_⟩
    rw [number]
    exact Nat.le_of_not_lt within

/-- An attempt is counted. -/
theorem Ordered.tally (ordered : Ordered config mode sha256 state)
    {attempt : Attempt}
    (uncounted : ∀ tally ∈ state.tallies, tally.attempt ≠ attempt.id)
    {storage : Storage} {answer : Window} (sound : storage.Sound)
    (counted : Storage.Counted config.keyPrefix state.now
      (authKey (attempt.clientKey sha256)) config.rateWindowSeconds
      (state.storages (store mode attempt.replica)) storage answer) :
    Ordered config mode sha256
      (((state.setStorage (store mode attempt.replica) storage).moveTo attempt
        (afterConsume config (.ok answer))).tally
          (state.windowFor config (store mode attempt.replica)
            (attempt.clientKey sha256) attempt.id) attempt.id (.ok answer)) := by
  have before := windowFor_length ordered attempt.id uncounted
    (store mode attempt.replica) (attempt.clientKey sha256)
  have opened := windowFor_opened ordered (store mode attempt.replica)
    (attempt.clientKey sha256) attempt.id
  have place : (state.windowFor config (store mode attempt.replica)
      (attempt.clientKey sha256) attempt.id).store = store mode attempt.replica :=
    rfl
  have client : (state.windowFor config (store mode attempt.replica)
      (attempt.clientKey sha256) attempt.id).key = attempt.clientKey sha256 :=
    rfl
  generalize state.windowFor config (store mode attempt.replica)
    (attempt.clientKey sha256) attempt.id = window at *
  have soon := next_expires ordered (store mode attempt.replica)
    (attempt.clientKey sha256)
  have number : answer.count = (countedIn window state.tallies).length + 1 := by
    rw [counted.count, OpenWindow.next_count, before]
    rfl
  have numbered := numbered_append ⟨attempt.id, window, answer.count⟩
    ordered.numbered number
  exact {
    sound := by
      intro other
      change (Function.update state.storages _ storage other).Sound
      by_cases here : other = store mode attempt.replica
      · subst here
        rwa [Function.update_self]
      · rw [Function.update_of_ne here]
        exact ordered.sound other
    current := by
      intro other key latest found
      have shown := (counter_counted counted other key).symm.trans found
      change (countedIn ⟨other, key, setOpener window state.opener other key⟩
        (state.tallies ++ [_])).length = _ ∧ _
      rw [latest_tally, place, client, countedIn_append]
      by_cases here : other = store mode attempt.replica ∧
          key = attempt.clientKey sha256
      · rw [if_pos here] at shown ⊢
        obtain rfl := Option.some.inj shown
        rw [if_pos rfl, List.length_append, List.length_singleton, ← number,
          counted.count]
        exact ⟨rfl, soon⟩
      · rw [if_neg here] at shown ⊢
        have apart : window ≠ ⟨other, key, state.opener other key⟩ := by
          rintro rfl
          exact here ⟨place, client⟩
        rw [if_neg apart, List.append_nil]
        exact ordered.current other key latest shown
    numbered := numbered
    distinct := by
      change ((state.tallies ++ [_]).map Tally.attempt).Nodup
      rw [List.map_append, List.map_singleton]
      refine List.nodup_append.mpr
        ⟨ordered.distinct, List.nodup_singleton _, ?_⟩
      intro old listed new same
      obtain ⟨tally, stored, rfl⟩ := List.mem_map.mp listed
      rw [List.mem_singleton.mp same]
      exact uncounted tally stored
    tallied := by
      intro tally listed
      rcases List.mem_append.mp listed with stored | new
      · obtain ⟨⟨old, known, id, old_place⟩, opening, earlier, opener⟩ :=
          ordered.tallied tally stored
        have different : old.id ≠ attempt.id := fun same =>
          uncounted tally stored (id.symm.trans same)
        exact ⟨⟨old, Table.mem_put.mpr (.inr ⟨known, different⟩), id, old_place⟩,
          opening, List.mem_append_left _ earlier, opener⟩
      · obtain rfl := List.mem_singleton.mp new
        refine ⟨⟨_, Table.mem_put.mpr (.inl rfl), rfl, place, client⟩, ?_⟩
        rcases opened with itself | ⟨opening, stored, opener⟩
        · exact ⟨_, List.mem_append_right _ (List.mem_singleton_self _),
            itself.symm⟩
        · exact ⟨opening, List.mem_append_left _ stored, opener⟩
    stages := by
      intro other listed
      rcases Table.mem_put.mp listed with rfl | ⟨stored, different⟩
      · refine stage_afterConsume
          ⟨counted.least, counted.most _ config.rateWindowSeconds_pos soon⟩ ?_
          ⟨_, List.mem_append_right _ (List.mem_singleton_self _), rfl, rfl⟩
        intro write written same
        obtain ⟨tally, stored, wrote, -⟩ := ordered.writes write written
        exact uncounted tally stored (wrote.trans same)
      · exact (ordered.stages other stored).append (Ne.symm different)
    writes := by
      intro write listed
      obtain ⟨tally, stored, known⟩ := ordered.writes write listed
      exact ⟨tally, List.mem_append_left _ stored, known⟩
    once := ordered.once
    fresh := ordered.fresh }

theorem StageTallied.write {id : Nat} {stage : Stage} {tallies : List Tally}
    {writes : List BlockWrite} {write : BlockWrite} (other : write.attempt ≠ id)
    (before : StageTallied config tallies writes id stage) :
    StageTallied config tallies (writes ++ [write]) id stage := by
  cases stage with
  | arrived | uncounted | passed | verified | unverified => exact before
  | blocking =>
      refine ⟨before.1, before.2.1, fun old member => ?_⟩
      rcases List.mem_append.mp member with member | member
      · exact before.2.2 old member
      · rwa [List.mem_singleton.mp member]
  | limited =>
      obtain ⟨answered, tally, member, attempt, exceeds, written⟩ := before
      refine ⟨answered, tally, member, attempt, exceeds, fun first => ?_⟩
      obtain ⟨old, listed, wrote⟩ := written first
      exact ⟨old, List.mem_append_left _ listed, wrote⟩

theorem Ordered.write (ordered : Ordered config mode sha256 state)
    {attempt : Attempt} (member : attempt ∈ state.attempts) {window : Window}
    (blocking : attempt.stage = .blocking window) {generation : Uuid}
    (unused : generation ∉ state.writes.map BlockWrite.generation) :
    Ordered config mode sha256
      ((state.write (loginBlock state.now (attempt.clientKey sha256) generation
        window) attempt.id).moveTo attempt (limited window)) := by
  have here := ordered.stages attempt member
  rw [blocking] at here
  obtain ⟨allowed, ⟨tally, stored, counted, first⟩, unwritten⟩ := here
  have client : tally.window.key = attempt.clientKey sha256 := by
    obtain ⟨old, known, id, -, key⟩ := (ordered.tallied tally stored).attempted
    rw [key, Table.eq_of_key known member (id.trans counted)]
  exact {
    sound := ordered.sound
    current := ordered.current
    numbered := ordered.numbered
    distinct := ordered.distinct
    tallied := fun tally stored =>
      (ordered.tallied tally stored).put _ (unchanged_attempt member)
    stages := by
      intro other listed
      rcases Table.mem_put.mp listed with rfl | ⟨stored', different⟩
      · refine ⟨⟨rfl, window.retryAfter, allowed, rfl⟩, tally, stored, counted,
          ?_, fun _ => ⟨_, List.mem_append_right _ (List.mem_singleton_self _),
            rfl⟩⟩
        omega
      · exact (ordered.stages other stored').write (Ne.symm different)
    writes := by
      intro write listed
      rcases List.mem_append.mp listed with earlier | new
      · exact ordered.writes write earlier
      · obtain rfl := List.mem_singleton.mp new
        exact ⟨tally, stored, counted, first, client.symm⟩
    once := by
      change ((state.writes ++ [_]).map BlockWrite.attempt).Nodup
      rw [List.map_append, List.map_singleton]
      refine List.nodup_append.mpr ⟨ordered.once, List.nodup_singleton _, ?_⟩
      intro old listed new same
      obtain ⟨write, earlier, rfl⟩ := List.mem_map.mp listed
      rw [List.mem_singleton.mp same]
      exact unwritten write earlier
    fresh := by
      change ((state.writes ++ [_]).map BlockWrite.generation).Nodup
      rw [List.map_append, List.map_singleton]
      refine List.nodup_append.mpr ⟨ordered.fresh, List.nodup_singleton _, ?_⟩
      intro old listed new same
      obtain rfl := List.mem_singleton.mp same
      rintro rfl
      exact unused listed }

/-- The attempt is past the limit check. -/
def Stage.Passed : Stage → Prop
  | .passed | .verified | .unverified _ => True
  | _ => False

instance (stage : Stage) : Decidable stage.Passed := by
  cases stage <;> unfold Stage.Passed <;> infer_instance

/-- The attempts of a window that are past the limit check. -/
def State.passing (state : State) (window : WindowId) : List Tally :=
  (countedIn window state.tallies).filter fun tally =>
    ∃ attempt ∈ state.attempts, attempt.id = tally.attempt ∧ attempt.stage.Passed

/-- What the attempts of a window have written. -/
def State.writesIn (state : State) (window : WindowId) : List BlockWrite :=
  state.writes.filter fun write =>
    write.attempt ∈ (countedIn window state.tallies).map Tally.attempt

/-- The attempt has its answer, or is about to write the block. -/
def Rejected (config : RuntimeConfig) (tally : Tally) (stage : Stage) : Prop :=
  tally.number = config.rateLimit + 1 ∧ (∃ answer, stage = .blocking answer) ∨
    ∃ retryAfter, 1 ≤ retryAfter ∧ retryAfter ≤ config.rateWindowSeconds ∧
      stage = .limited tooMany [("Retry-After", toString retryAfter)]

/-- The limit is kept in a window, and its block is written once. -/
structure Limited (config : RuntimeConfig) (state : State) (window : WindowId) :
    Prop where
  numbers : (countedIn window state.tallies).map Tally.number =
    List.range' 1 (countedIn window state.tallies).length
  few : (state.passing window).length ≤ config.rateLimit
  rejected : ∀ tally ∈ countedIn window state.tallies,
    config.rateLimit < tally.number → ∀ attempt ∈ state.attempts,
      attempt.id = tally.attempt → Rejected config tally attempt.stage
  atMostOnce : (state.writesIn window).length ≤ 1
  byFirst : ∀ write ∈ state.writesIn window,
    ∃ tally ∈ countedIn window state.tallies, tally.attempt = write.attempt ∧
      tally.number = config.rateLimit + 1 ∧ write.key = window.key
  once : ∀ tally ∈ countedIn window state.tallies,
    config.rateLimit < tally.number →
      ∃ first ∈ countedIn window state.tallies,
        first.number = config.rateLimit + 1 ∧ ∀ attempt ∈ state.attempts,
          attempt.id = first.attempt →
            (∃ answer, attempt.stage = .blocking answer) ∨
              ∃ write, state.writesIn window = [write] ∧
                write.attempt = first.attempt ∧ write.key = window.key
  fresh : (state.writes.map BlockWrite.generation).Nodup

theorem Ordered.tally_unique (ordered : Ordered config mode sha256 state)
    {left right : Tally} (leftMember : left ∈ state.tallies)
    (rightMember : right ∈ state.tallies) (same : left.attempt = right.attempt) :
    left = right :=
  List.inj_on_of_nodup_map ordered.distinct leftMember rightMember same

theorem mem_countedIn {window : WindowId} {tallies : List Tally} {tally : Tally} :
    tally ∈ countedIn window tallies ↔ tally ∈ tallies ∧ tally.window = window := by
  simp [countedIn]

theorem Ordered.number_unique (ordered : Ordered config mode sha256 state)
    {window : WindowId} {left right : Tally}
    (leftMember : left ∈ countedIn window state.tallies)
    (rightMember : right ∈ countedIn window state.tallies)
    (same : left.number = right.number) : left = right := by
  have distinct : ((countedIn window state.tallies).map Tally.number).Nodup := by
    rw [ordered.numbered]
    exact List.nodup_range'
  exact List.inj_on_of_nodup_map distinct leftMember rightMember same

/-- The attempt of a tally beyond the limit is rejected, and has written the
block when it is the first. -/
theorem Ordered.rejected (ordered : Ordered config mode sha256 state)
    {tally : Tally} (stored : tally ∈ state.tallies)
    (exceeds : config.rateLimit < tally.number) {attempt : Attempt}
    (member : attempt ∈ state.attempts) (same : attempt.id = tally.attempt) :
    Rejected config tally attempt.stage ∧
      (tally.number = config.rateLimit + 1 →
        (∃ answer, attempt.stage = .blocking answer) ∨
          ∃ write ∈ state.writes, write.attempt = tally.attempt) := by
  have here := ordered.stages attempt member
  have within (few : ∃ other ∈ state.tallies, other.attempt = attempt.id ∧
      other.number ≤ config.rateLimit) : False := by
    obtain ⟨other, known, counted, few⟩ := few
    have := ordered.tally_unique known stored (counted.trans same)
    subst this
    omega
  cases stage : attempt.stage with
  | arrived | uncounted =>
      rw [stage] at here
      exact absurd same.symm (here tally stored)
  | passed | verified | unverified =>
      rw [stage] at here
      exact absurd here within
  | blocking answer =>
      rw [stage] at here
      obtain ⟨-, ⟨other, known, counted, first⟩, -⟩ := here
      obtain rfl := ordered.tally_unique known stored (counted.trans same)
      exact ⟨.inl ⟨first, answer, rfl⟩, fun _ => .inl ⟨answer, rfl⟩⟩
  | limited failure headers =>
      rw [stage] at here
      obtain ⟨⟨rfl, retryAfter, allowed, rfl⟩, other, known, counted, -, wrote⟩ :=
        here
      obtain rfl := ordered.tally_unique known stored (counted.trans same)
      refine ⟨.inr ⟨retryAfter, allowed.1, allowed.2, rfl⟩, fun first => .inr ?_⟩
      obtain ⟨write, written, by_⟩ := wrote first
      exact ⟨write, written, by_.trans same⟩

theorem Ordered.byFirst (ordered : Ordered config mode sha256 state)
    {window : WindowId} {write : BlockWrite}
    (written : write ∈ state.writesIn window) :
    ∃ tally ∈ countedIn window state.tallies, tally.attempt = write.attempt ∧
      tally.number = config.rateLimit + 1 ∧ write.key = window.key := by
  obtain ⟨listed, inside⟩ := List.mem_filter.mp written
  obtain ⟨tally, counted, same⟩ := List.mem_map.mp (of_decide_eq_true inside)
  obtain ⟨stored, placed⟩ := mem_countedIn.mp counted
  obtain ⟨first, known, wrote, number, client⟩ := ordered.writes write listed
  obtain rfl := ordered.tally_unique known stored (wrote.trans same.symm)
  exact ⟨first, counted, wrote, number, placed ▸ client⟩

theorem Ordered.atMostOnce (ordered : Ordered config mode sha256 state)
    (window : WindowId) : (state.writesIn window).length ≤ 1 := by
  rcases List.eq_nil_or_concat (state.writesIn window) with none | ⟨_, some, _⟩
  · simp [none]
  · have member : some ∈ state.writesIn window := by simp_all
    obtain ⟨tally, counted, wrote, number, -⟩ := ordered.byFirst member
    have distinct : ((state.writesIn window).map BlockWrite.attempt).Nodup :=
      ordered.once.sublist (List.filter_sublist.map _)
    have same : (state.writesIn window).map BlockWrite.attempt ⊆
        [some.attempt] := by
      intro attempt listed
      obtain ⟨write, written, rfl⟩ := List.mem_map.mp listed
      obtain ⟨other, counted', wrote', number', -⟩ := ordered.byFirst written
      have := ordered.number_unique counted counted' (number.trans number'.symm)
      subst this
      rw [List.mem_singleton]
      exact wrote'.symm.trans wrote
    have length := List.Nodup.length_le_of_subset distinct same
    rwa [List.length_map] at length

end Invariant

end AuthProtectionGuard

end SaasFoundation
