import SaasFoundation.Platform.Limiter

/-!
# `RedisService` in either mode

What `consume` and the resets do to the open windows and to the markers of
performed resets, wherever these are kept.
-/

namespace SaasFoundation

open Relational Redis

namespace RedisService

/-- `REDIS_MODE`. -/
inductive RedisMode where
  | disabled
  | standalone
  | cluster
  deriving DecidableEq, Repr

/-- Maps of the process when Redis is disabled, otherwise a server. -/
inductive Storage where
  | disabled (maps : Maps)
  | connected (server : Server)

/-- A counter that has not expired. -/
structure OpenWindow where
  count : Nat
  expires : Int
  deriving DecidableEq, Repr

/-- The window after one more count; the first count opens it. -/
def OpenWindow.next (now seconds : Int) : Option OpenWindow → OpenWindow
  | none => { count := 1, expires := now + seconds * 1000 }
  | some window => { window with count := window.count + 1 }

theorem OpenWindow.next_count (now seconds : Int)
    (before : Option OpenWindow) :
    (next now seconds before).count = (before.map count).getD 0 + 1 := by
  cases before <;> rfl

namespace Storage

variable (keyPrefix : String) (now : Int)

def consume (key : String) (seconds : Int) :
    Storage → Except Failure Window × Storage
  | .disabled maps =>
      let (result, after) := Disabled.consume now key seconds maps
      (result, .disabled after)
  | .connected server =>
      let (window, after) := Connected.consume keyPrefix now key seconds server
      (.ok window, .connected after)

def resetOnce (key operationId : String) :
    Storage → Except Failure Unit × Storage
  | .disabled maps =>
      let (result, after) := Disabled.resetOnce now key operationId maps
      (result, .disabled after)
  | .connected server =>
      (.ok (), .connected
        (Connected.resetOnce keyPrefix now key operationId server))

def Entry.window (entry : Entry) : Option OpenWindow :=
  entry.expires.map fun expires => { count := entry.value, expires }

/-- The open window under a key. -/
def counter (key : String) : Storage → Option OpenWindow
  | .disabled maps => (maps.counters.live now key).map fun counter =>
      { count := counter.count, expires := counter.expires }
  | .connected server =>
      (server.keys.live now (Connected.rateKey keyPrefix key)).bind Entry.window

/-- When the marker of a performed reset expires. -/
def marker (key operationId : String) : Storage → Option Int
  | .disabled maps =>
      (maps.resetOperations.live now operationId).map ResetOperation.expires
  | .connected server =>
      (server.keys.live now
        (Connected.markerKey keyPrefix key operationId)).bind Entry.expires

/-- Counters are positive, and every key was stored with an expiry. -/
def Sound : Storage → Prop
  | .disabled maps => ∀ counter ∈ maps.counters, 0 < counter.count
  | .connected server =>
      ∀ entry ∈ server.keys, 0 < entry.value ∧ entry.expires.isSome

/-- Nothing that can be seen has changed. -/
structure Unchanged (before after : Storage) : Prop where
  counters : ∀ key, after.counter keyPrefix now key =
    before.counter keyPrefix now key
  markers : ∀ key id, after.marker keyPrefix now key id =
    before.marker keyPrefix now key id

/-- What the service starts with. -/
def start : RedisMode → Storage
  | .disabled => .disabled {}
  | .standalone => .connected {}
  | .cluster => .connected {}

variable {keyPrefix : String} {now : Int}

theorem counter_start (mode : RedisMode) (key : String) :
    (start mode).counter keyPrefix now key = none := by
  cases mode <;> rfl

theorem sound_start (mode : RedisMode) : (start mode).Sound := by
  cases mode <;> exact fun _ member => absurd member (Table.not_mem_empty _)

theorem counter_disabled (key : String) (maps : Maps) :
    counter keyPrefix now key (.disabled maps) =
      (maps.counters.live now key).map fun counter =>
        { count := counter.count, expires := counter.expires } := rfl

theorem counter_connected (key : String) (server : Server) :
    counter keyPrefix now key (.connected server) =
      (server.keys.live now (Connected.rateKey keyPrefix key)).bind
        Entry.window := rfl

theorem marker_disabled (key id : String) (maps : Maps) :
    marker keyPrefix now key id (.disabled maps) =
      (maps.resetOperations.live now id).map ResetOperation.expires := rfl

theorem marker_connected (key id : String) (server : Server) :
    marker keyPrefix now key id (.connected server) =
      (server.keys.live now (Connected.markerKey keyPrefix key id)).bind
        Entry.expires := rfl

theorem Unchanged.refl (storage : Storage) :
    storage.Unchanged keyPrefix now storage :=
  ⟨fun _ => rfl, fun _ _ => rfl⟩

/-- A window closes when its time has come; nothing else happens to it. -/
theorem counter_later {later : Int} (ordered : now ≤ later) (key : String)
    (storage : Storage) :
    storage.counter keyPrefix later key =
      (storage.counter keyPrefix now key).filter fun window =>
        later < window.expires := by
  cases storage with
  | disabled maps =>
      rw [counter_disabled, counter_disabled, Table.live_later ordered]
      cases maps.counters.live now key with
      | none => rfl
      | some counter =>
          by_cases lasts : later < counter.expires
          · simp [Option.filter, lasts]
          · simp [Option.filter, lasts]
  | connected server =>
      rw [counter_connected, counter_connected, Table.live_later ordered]
      cases server.keys.live now (Connected.rateKey keyPrefix key) with
      | none => rfl
      | some entry =>
          cases expires : entry.expires with
          | none => simp [Option.filter, Entry.window, expires]
          | some moment =>
              by_cases lasts : later < moment
              · simp [Option.filter, Entry.window, expires, lasts]
              · simp [Option.filter, Entry.window, expires, lasts]

theorem marker_later {later : Int} (ordered : now ≤ later) (key id : String)
    (storage : Storage) :
    storage.marker keyPrefix later key id =
      (storage.marker keyPrefix now key id).filter fun expires =>
        later < expires := by
  cases storage with
  | disabled maps =>
      rw [marker_disabled, marker_disabled, Table.live_later ordered]
      cases maps.resetOperations.live now id with
      | none => rfl
      | some operation =>
          by_cases lasts : later < operation.expires
          · simp [Option.filter, lasts]
          · simp [Option.filter, lasts]
  | connected server =>
      rw [marker_connected, marker_connected, Table.live_later ordered]
      cases server.keys.live now (Connected.markerKey keyPrefix key id) with
      | none => rfl
      | some entry =>
          cases expires : entry.expires with
          | none => simp [Option.filter, expires]
          | some moment =>
              by_cases lasts : later < moment
              · simp [Option.filter, expires, lasts]
              · simp [Option.filter, expires, lasts]

theorem counter_pos {key : String} {window : OpenWindow} {storage : Storage}
    (sound : storage.Sound)
    (found : storage.counter keyPrefix now key = some window) :
    0 < window.count := by
  cases storage with
  | disabled maps =>
      obtain ⟨counter, stored, rfl⟩ := Option.map_eq_some_iff.mp found
      exact sound counter (Table.live_eq_some.mp stored).1
  | connected server =>
      obtain ⟨entry, stored, shown⟩ := Option.bind_eq_some_iff.mp found
      obtain ⟨expires, -, rfl⟩ := Option.map_eq_some_iff.mp shown
      exact (sound entry (Table.live_eq_some.mp stored).1).1

/-- Only the process has a limit to what it keeps. -/
def Roomy (now : Int) : Storage → Prop
  | .disabled maps => (maps.counters.sweep now).rows.length < 10000
  | .connected _ => True

/-- One more count under a key, and what is answered. -/
structure Counted (keyPrefix : String) (now : Int) (key : String)
    (seconds : Int) (before after : Storage) (window : Window) : Prop where
  count : window.count =
    (OpenWindow.next now seconds (before.counter keyPrefix now key)).count
  least : 1 ≤ window.retryAfter
  most : ∀ limit : Int, 1 ≤ limit →
    (OpenWindow.next now seconds (before.counter keyPrefix now key)).expires ≤
      now + limit * 1000 → window.retryAfter ≤ limit
  counters : ∀ other, after.counter keyPrefix now other =
    if other = key then
      some (OpenWindow.next now seconds (before.counter keyPrefix now key))
    else before.counter keyPrefix now other
  markers : ∀ other id, after.marker keyPrefix now other id =
    before.marker keyPrefix now other id

private theorem ceilSeconds_le {expires limit : Int} (positive : 1 ≤ limit)
    (soon : expires ≤ now + limit * 1000) :
    max 1 (ceilSeconds (expires - now)) ≤ limit := by
  unfold ceilSeconds
  omega

private theorem ttl_le {expires limit : Int} (positive : 1 ≤ limit)
    (soon : expires ≤ now + limit * 1000) :
    max 1 ((expires - now + 500) / 1000) ≤ limit := by
  omega

theorem counted_disabled {seconds : Int} {key : String} {maps : Maps}
    (positive : 0 < seconds)
    (room : (maps.counters.sweep now).rows.length < 10000 ∨
      (maps.counters.live now key).isSome) :
    ∃ window, (Disabled.consume now key seconds maps).1 = .ok window ∧
      Counted keyPrefix now key seconds (.disabled maps)
        (.disabled (Disabled.consume now key seconds maps).2) window := by
  cases found : maps.counters.live now key with
  | none =>
      rw [found] at room
      have roomy := room.resolve_right Bool.false_ne_true
      obtain ⟨answered, operations, -, shown⟩ :=
        Disabled.consume_absent seconds roomy found
      refine ⟨_, answered, ?_⟩
      have next : OpenWindow.next now seconds
          (counter keyPrefix now key (.disabled maps)) =
            { count := 1, expires := now + seconds * 1000 } := by
        rw [counter_disabled, found]
        rfl
      constructor
      · rw [next]
      · exact le_max_left _ _
      · rw [next]
        exact fun limit => ceilSeconds_le
      · intro other
        rw [next, counter_disabled, shown, if_neg (by omega : ¬seconds ≤ 0)]
        split <;> rfl
      · intro other id
        rw [marker_disabled, operations]
        rfl
  | some current =>
      obtain ⟨answered, operations, -, shown⟩ :=
        Disabled.consume_present seconds found
      refine ⟨_, answered, ?_⟩
      have next : OpenWindow.next now seconds
          (counter keyPrefix now key (.disabled maps)) =
            { count := current.count + 1, expires := current.expires } := by
        rw [counter_disabled, found]
        rfl
      constructor
      · rw [next]
      · exact le_max_left _ _
      · rw [next]
        exact fun limit => ceilSeconds_le
      · intro other
        rw [next, counter_disabled, shown]
        split <;> rfl
      · intro other id
        rw [marker_disabled, operations]
        rfl

private theorem windowScript_ttl {seconds expires : Int} {value : Nat}
    {name : String} {server : Server}
    (stored : (windowScript now name seconds server).2.keys.live now name =
      some { name, value, expires := some expires }) :
    (windowScript now name seconds server).1.2 =
      (expires - now + 500) / 1000 := by
  change (windowScript now name seconds server).2.ttl now name = _
  unfold Server.ttl
  rw [stored]

/-- What a server shows after one name was counted. -/
private theorem counted_of_shown {key : String} {seconds : Int}
    {before after : Server} {window : Window} (opened : OpenWindow)
    (next : OpenWindow.next now seconds
      (counter keyPrefix now key (.connected before)) = opened)
    (count : window.count = opened.count)
    (retry : window.retryAfter = max 1 ((opened.expires - now + 500) / 1000))
    (shown : ∀ name, after.keys.live now name =
      if name = Connected.rateKey keyPrefix key then
        some { name, value := opened.count, expires := some opened.expires }
      else before.keys.live now name) :
    Counted keyPrefix now key seconds (.connected before) (.connected after)
      window where
  count := count.trans (congrArg OpenWindow.count next).symm
  least := retry ▸ le_max_left _ _
  most := by
    rw [next, retry]
    exact fun limit => ttl_le
  counters other := by
    rw [next, counter_connected, shown]
    by_cases here : other = key
    · rw [here, if_pos rfl, if_pos rfl]
      rfl
    · have apart : Connected.rateKey keyPrefix other ≠
          Connected.rateKey keyPrefix key :=
        fun same => here (Connected.rateKey_injective same)
      rw [if_neg apart, if_neg here]
      rfl
  markers other id := by
    rw [marker_connected, shown,
      if_neg (Connected.rateKey_ne_markerKey _ _ _).symm]
    rfl

theorem counted_connected {seconds : Int} {key : String} {server : Server}
    (positive : 0 < seconds) (sound : (connected server).Sound) :
    Counted keyPrefix now key seconds (.connected server)
      (.connected (Connected.consume keyPrefix now key seconds server).2)
      (Connected.consume keyPrefix now key seconds server).1 := by
  cases found : server.keys.live now (Connected.rateKey keyPrefix key) with
  | none =>
      obtain ⟨count, -, shown⟩ := windowScript_absent seconds found
      rw [if_neg (by omega : ¬seconds ≤ 0)] at shown
      have stored := (shown (Connected.rateKey keyPrefix key)).trans
        (if_pos rfl)
      refine counted_of_shown { count := 1, expires := now + seconds * 1000 }
        ?_ count (congrArg (max 1) (windowScript_ttl stored)) fun name => ?_
      · rw [counter_connected, found]
        rfl
      · refine (shown name).trans ?_
        split
        · rename_i same
          rw [same]
        · rfl
  | some entry =>
      obtain ⟨member, name, -⟩ := Table.live_eq_some.mp found
      obtain ⟨positiveValue, hasExpiry⟩ := sound entry member
      obtain ⟨expires, expiry⟩ := Option.isSome_iff_exists.mp hasExpiry
      obtain ⟨count, -, shown⟩ := windowScript_present seconds found positiveValue
      have stored := (shown (Connected.rateKey keyPrefix key)).trans
        (if_pos rfl)
      have entry_eq : { entry with value := entry.value + 1 } =
          ({ name := Connected.rateKey keyPrefix key, value := entry.value + 1
             expires := some expires } : Entry) := by
        rw [← name, ← expiry]
        rfl
      rw [entry_eq] at shown stored
      refine counted_of_shown { count := entry.value + 1, expires } ?_ count
        (congrArg (max 1) (windowScript_ttl stored)) fun name => ?_
      · rw [counter_connected, found, Option.bind_some, Entry.window, expiry]
        rfl
      · refine (shown name).trans ?_
        split
        · rename_i same
          rw [same]
        · rfl

/-- An attempt is counted unless the process has no room for a new window. -/
theorem consume_counted (keyPrefix key : String) {seconds : Int}
    {storage : Storage} (positive : 0 < seconds) (sound : storage.Sound)
    (room : storage.Roomy now ∨ (storage.counter keyPrefix now key).isSome) :
    ∃ window, (storage.consume keyPrefix now key seconds).1 = .ok window ∧
      Counted keyPrefix now key seconds storage
        (storage.consume keyPrefix now key seconds).2 window := by
  cases storage with
  | disabled maps =>
      refine counted_disabled positive (room.imp_right fun stored => ?_)
      rwa [counter_disabled, Option.isSome_map] at stored
  | connected server => exact ⟨_, rfl, counted_connected positive sound⟩

theorem consume_refused {seconds : Int} {key : String} {storage : Storage}
    (full : ¬storage.Roomy now)
    (absent : storage.counter keyPrefix now key = none) :
    (storage.consume keyPrefix now key seconds).1 =
        .error (unavailable "Rate-limit capacity reached") ∧
      storage.Unchanged keyPrefix now
        (storage.consume keyPrefix now key seconds).2 := by
  cases storage with
  | disabled maps =>
      rw [counter_disabled, Option.map_eq_none_iff] at absent
      have refused := Disabled.consume_full seconds (Nat.le_of_not_lt full) absent
      unfold consume
      simp only [refused, true_and]
      constructor
      · intro other
        rw [counter_disabled, Table.live_sweep le_rfl]
        rfl
      · exact fun _ _ => rfl
  | connected server => exact absurd trivial full

/-- `consume` counts, or refuses a new window. -/
theorem consume_cases (keyPrefix : String) (now : Int) (key : String)
    {seconds : Int} {storage : Storage} (positive : 0 < seconds)
    (sound : storage.Sound) :
    (∃ window, (storage.consume keyPrefix now key seconds).1 = .ok window ∧
      Counted keyPrefix now key seconds storage
        (storage.consume keyPrefix now key seconds).2 window) ∨
    (storage.consume keyPrefix now key seconds).1 =
        .error (unavailable "Rate-limit capacity reached") ∧
      storage.Unchanged keyPrefix now
        (storage.consume keyPrefix now key seconds).2 := by
  cases found : storage.counter keyPrefix now key with
  | some window =>
      exact .inl (consume_counted keyPrefix key positive sound
        (.inr (found ▸ rfl)))
  | none =>
      by_cases room : storage.Roomy now
      · exact .inl (consume_counted keyPrefix key positive sound (.inl room))
      · exact .inr (consume_refused room found)

theorem consume_marker {key other id : String} {seconds : Int}
    {storage : Storage} (positive : 0 < seconds) (sound : storage.Sound) :
    (storage.consume keyPrefix now key seconds).2.marker keyPrefix now other id =
      storage.marker keyPrefix now other id := by
  rcases consume_cases keyPrefix now key positive sound with
    ⟨window, -, counted⟩ | ⟨-, unchanged⟩
  · exact counted.markers other id
  · exact unchanged.markers other id

private theorem sound_put {server : Server} {entry : Entry}
    (sound : (connected server).Sound) (positive : 0 < entry.value)
    (expires : entry.expires.isSome) :
    ∀ other ∈ server.keys.put entry, 0 < other.value ∧ other.expires.isSome := by
  intro other member
  rcases Table.mem_put.mp member with rfl | ⟨stored, -⟩
  · exact ⟨positive, expires⟩
  · exact sound other stored

theorem consume_sound {seconds : Int} {key : String} {storage : Storage}
    (sound : storage.Sound) :
    (storage.consume keyPrefix now key seconds).2.Sound := by
  cases storage with
  | disabled maps =>
      have swept : ∀ counter ∈ maps.counters.sweep now, 0 < counter.count :=
        fun counter member => sound counter (Table.mem_keep.mp member).1
      change ∀ counter ∈ (Disabled.consume now key seconds maps).2.counters,
        0 < counter.count
      unfold Disabled.consume
      dsimp only
      split
      · exact swept
      · intro counter member
        rcases Table.mem_put.mp member with rfl | ⟨stored, -⟩
        · exact Nat.succ_pos _
        · exact swept counter stored
  | connected server =>
      change ∀ entry ∈ (windowScript now (Connected.rateKey keyPrefix key)
        seconds server).2.keys, 0 < entry.value ∧ entry.expires.isSome
      unfold windowScript Server.incr
      cases found : server.keys.live now (Connected.rateKey keyPrefix key) with
      | none =>
          have started : (server.keys.put
              { name := Connected.rateKey keyPrefix key, value := 1
                expires := none }).live now (Connected.rateKey keyPrefix key) =
                some { name := Connected.rateKey keyPrefix key, value := 1
                       expires := none } := by
            rw [Table.live_put]
            simp
          simp only [↓reduceIte, Server.expire, started]
          intro entry member
          rcases Table.mem_put.mp member with rfl | ⟨stored, different⟩
          · exact ⟨Nat.one_pos, rfl⟩
          · rcases Table.mem_put.mp stored with rfl | ⟨stored, -⟩
            · exact absurd rfl different
            · exact sound entry stored
      | some entry =>
          obtain ⟨member, -, -⟩ := Table.live_eq_some.mp found
          obtain ⟨positive, expires⟩ := sound entry member
          have again : entry.value + 1 ≠ 1 := by omega
          simp only [again, ↓reduceIte]
          exact sound_put sound (Nat.succ_pos _) expires

/-- The keys the process keeps counters for. -/
def names : Storage → List String
  | .disabled maps => maps.counters.rows.map Counter.name
  | .connected _ => []

theorem names_start (mode : RedisMode) : (start mode).names = [] := by
  cases mode <;> rfl

theorem consume_names {seconds : Int} {key : String} {storage : Storage} :
    (storage.consume keyPrefix now key seconds).2.names ⊆
      key :: storage.names := by
  cases storage with
  | disabled maps =>
      have swept : ∀ counter ∈ maps.counters.sweep now,
          counter.name ∈ key :: (disabled maps).names := by
        intro counter member
        exact List.mem_cons_of_mem _
          (List.mem_map_of_mem (Table.mem_keep.mp member).1)
      suffices named : ∀ counter ∈
          (Disabled.consume now key seconds maps).2.counters,
          counter.name ∈ key :: (disabled maps).names by
        intro name listed
        obtain ⟨counter, member, rfl⟩ := List.mem_map.mp listed
        exact named counter member
      unfold Disabled.consume
      dsimp only
      split
      · exact swept
      · intro counter member
        rcases Table.mem_put.mp member with rfl | ⟨stored, -⟩
        · cases found : (maps.counters.sweep now).find key with
          | none => exact List.mem_cons_self
          | some current => exact swept current (Table.find_eq_some.mp found).1
        · exact swept counter stored
  | connected server => exact List.nil_subset _

/-- A process that counts under few keys never runs out of room. -/
theorem roomy_of_names {keys : List String} {storage : Storage}
    (few : keys.length < 10000) (confined : storage.names ⊆ keys) :
    storage.Roomy now := by
  cases storage with
  | disabled maps =>
      have distinct : ((maps.counters.sweep now).rows.map Counter.name).Nodup :=
        (maps.counters.sweep now).nodup
      have within : (maps.counters.sweep now).rows.map Counter.name ⊆ keys :=
        fun name member => confined
          (List.map_subset Counter.name (List.filter_subset_self _) member)
      have bounded := List.Nodup.length_le_of_subset distinct within
      rw [List.length_map] at bounded
      exact lt_of_le_of_lt bounded few
  | connected server => trivial

/-- The counter is gone, and the reset is recorded. -/
structure Reset (keyPrefix : String) (now : Int) (key : String) (id : Uuid)
    (before after : Storage) : Prop where
  counters : ∀ other, after.counter keyPrefix now other =
    if other = key then none else before.counter keyPrefix now other
  recorded : after.marker keyPrefix now key id.text =
    some (now + markerSeconds * 1000)
  markers : ∀ otherKey (other : Uuid), other ≠ id →
    after.marker keyPrefix now otherKey other.text =
      before.marker keyPrefix now otherKey other.text

/-- A recorded reset is not performed again. -/
theorem resetOnce_recorded {key : String} {id : Uuid} {storage : Storage}
    (recorded : (storage.marker keyPrefix now key id.text).isSome) :
    (storage.resetOnce keyPrefix now key id.text).1 = .ok () ∧
      storage.Unchanged keyPrefix now
        (storage.resetOnce keyPrefix now key id.text).2 := by
  cases storage with
  | disabled maps =>
      rw [marker_disabled, Option.isSome_map] at recorded
      obtain ⟨operation, found⟩ := Option.isSome_iff_exists.mp recorded
      unfold resetOnce
      simp only [Disabled.resetOnce_recorded found, true_and]
      refine ⟨fun _ => rfl, fun other id => ?_⟩
      rw [marker_disabled, Table.live_sweep le_rfl]
      rfl
  | connected server =>
      obtain ⟨expires, marked⟩ := Option.isSome_iff_exists.mp recorded
      rw [marker_connected, Option.bind_eq_some_iff] at marked
      obtain ⟨entry, found, -⟩ := marked
      have same : Connected.resetOnce keyPrefix now key id.text server = server :=
        congrArg Prod.snd (resetOnceScript_recorded _ _ found)
      unfold resetOnce
      simp only [same, true_and]
      exact .refl _

/-- A new reset is performed, unless the process has no room for its marker. -/
theorem resetOnce_new {key : String} {id : Uuid} {storage : Storage}
    (sound : storage.Sound)
    (new : storage.marker keyPrefix now key id.text = none) :
    (∃ failure, (storage.resetOnce keyPrefix now key id.text).1 =
        .error failure ∧
      storage.Unchanged keyPrefix now
        (storage.resetOnce keyPrefix now key id.text).2) ∨
    (storage.resetOnce keyPrefix now key id.text).1 = .ok () ∧
      Reset keyPrefix now key id storage
        (storage.resetOnce keyPrefix now key id.text).2 := by
  have lasting : ¬now + markerSeconds * 1000 ≤ now := by
    unfold markerSeconds
    omega
  cases storage with
  | disabled maps =>
      rw [marker_disabled, Option.map_eq_none_iff] at new
      by_cases room : (maps.resetOperations.sweep now).rows.length < 10000
      · refine .inr ?_
        unfold resetOnce
        simp only [Disabled.resetOnce_new room new, true_and]
        refine ⟨fun other => ?_, ?_, fun otherKey other different => ?_⟩
        · rw [counter_disabled, Table.live_drop]
          split <;> rfl
        · rw [marker_disabled, Table.live_put, ResetOperation.key_eq,
            if_pos rfl, ResetOperation.expired_eq, if_neg (by simp [lasting])]
          rfl
        · rw [marker_disabled, Table.live_put, Table.live_sweep le_rfl,
            ResetOperation.key_eq,
            if_neg (fun same => different (Uuid.ext same))]
          rfl
      · refine .inl ⟨unavailable "Reset capacity reached", ?_⟩
        unfold resetOnce
        simp only [Disabled.resetOnce_full (Nat.le_of_not_lt room) new, true_and]
        refine ⟨fun _ => rfl, fun other id => ?_⟩
        rw [marker_disabled, Table.live_sweep le_rfl]
        rfl
  | connected server =>
      have absent : server.keys.live now
          (Connected.markerKey keyPrefix key id.text) = none := by
        rw [marker_connected, Option.bind_eq_none_iff] at new
        rw [Option.eq_none_iff_forall_ne_some]
        intro entry found
        have member := (Table.live_eq_some.mp found).1
        have expires := (sound entry member).2
        rw [new entry found] at expires
        cases expires
      have performed :
          Connected.resetOnce keyPrefix now key id.text server =
            (server.setEx now (Connected.markerKey keyPrefix key id.text) 1
              markerSeconds).del (Connected.rateKey keyPrefix key) :=
        congrArg Prod.snd (resetOnceScript_new _ _ absent)
      refine .inr ⟨rfl, ?_⟩
      unfold resetOnce
      simp only [performed]
      have shown : ∀ name, ((server.setEx now
          (Connected.markerKey keyPrefix key id.text) 1 markerSeconds).del
            (Connected.rateKey keyPrefix key)).keys.live now name =
          if name = Connected.rateKey keyPrefix key then none
          else if name = Connected.markerKey keyPrefix key id.text then
            some { name, value := 1, expires := some (now + markerSeconds * 1000) }
          else server.keys.live now name := by
        intro name
        change ((server.keys.put _).drop _).live now name = _
        rw [Table.live_drop, Table.live_put, Entry.key_eq, Entry.expired_eq]
        refine if_congr Iff.rfl rfl ?_
        by_cases here : name = Connected.markerKey keyPrefix key id.text
        · rw [if_pos here, if_pos here, if_neg (by simp [lasting]), here]
        · rw [if_neg here, if_neg here]
      refine ⟨fun other => ?_, ?_, fun otherKey other different => ?_⟩
      · rw [counter_connected, shown,
          if_neg (Connected.rateKey_ne_markerKey _ _ _)]
        by_cases here : other = key
        · rw [here, if_pos rfl, if_pos rfl]
          rfl
        · have apart : Connected.rateKey keyPrefix other ≠
              Connected.rateKey keyPrefix key :=
            fun same => here (Connected.rateKey_injective same)
          rw [if_neg apart, if_neg here]
          rfl
      · rw [marker_connected, shown,
          if_neg (Connected.rateKey_ne_markerKey _ _ _).symm, if_pos rfl]
        rfl
      · have apart : Connected.markerKey keyPrefix otherKey other.text ≠
            Connected.markerKey keyPrefix key id.text :=
          fun same =>
            different (Uuid.ext (Connected.markerKey_injective same).2)
        rw [marker_connected, shown,
          if_neg (Connected.rateKey_ne_markerKey _ _ _).symm, if_neg apart]
        rfl

theorem resetOnce_sound {key id : String} {storage : Storage}
    (sound : storage.Sound) :
    (storage.resetOnce keyPrefix now key id).2.Sound := by
  cases storage with
  | disabled maps =>
      change ∀ counter ∈ (Disabled.resetOnce now key id maps).2.counters,
        0 < counter.count
      unfold Disabled.resetOnce
      dsimp only
      split
      · exact sound
      · split
        · exact sound
        · exact fun counter member => sound counter (Table.mem_drop.mp member).1
  | connected server =>
      change ∀ entry ∈ (Connected.resetOnce keyPrefix now key id server).keys,
        0 < entry.value ∧ entry.expires.isSome
      unfold Connected.resetOnce resetOnceScript
      split
      · exact sound
      · exact fun entry member => sound_put sound Nat.one_pos rfl entry
          (Table.mem_drop.mp member).1

end Storage

end RedisService

end SaasFoundation
