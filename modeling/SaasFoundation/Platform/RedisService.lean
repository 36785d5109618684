import SaasFoundation.Platform.Redis
import SaasFoundation.Database.Schema

/-!
# `platform/redis.service.ts`

`consume`, `reset` and `resetOnce` in both modes: `Disabled` keeps counters and
operation ids in maps of the process, `Connected` runs the scripts on a server.
-/

namespace SaasFoundation

open Relational Redis

/-- What `consume` answers. -/
structure Window where
  count : Nat
  retryAfter : Int
  deriving DecidableEq, Repr

/-- A UUID as PostgreSQL and `randomUUID` write it. -/
@[ext] structure Uuid where
  text : String
  digits : ∀ char ∈ text.toList,
    char = '-' ∨ '0' ≤ char ∧ char ≤ '9' ∨ 'a' ≤ char ∧ char ≤ 'f'
  groups : (text.toList.splitOn '-').map List.length = [8, 4, 4, 4, 12]
  deriving DecidableEq

namespace RedisService

def unavailable (message : String) : Failure := .http 503 message []

/-- Seven days, the `EX` of a reset marker. -/
def markerSeconds : Int := 7 * 86400

/-- `Math.ceil(milliseconds / 1000)`. -/
def ceilSeconds (milliseconds : Int) : Int := -(-milliseconds / 1000)

/-- An entry of `counters`. -/
structure Counter where
  name : String
  count : Nat
  expires : Int
  deriving DecidableEq, Repr

/-- An entry of `resetOperations`. -/
structure ResetOperation where
  id : String
  expires : Int
  deriving DecidableEq, Repr

instance : Keyed Counter String := ⟨Counter.name⟩
instance : Keyed ResetOperation String := ⟨ResetOperation.id⟩

@[simp] theorem Counter.key_eq (entry : Counter) : key entry = entry.name := rfl

@[simp] theorem ResetOperation.key_eq (entry : ResetOperation) :
    key entry = entry.id := rfl

instance : Expiring Counter where
  expired now entry := entry.expires ≤ now
  expired_later := by
    intro entry now later ordered before
    have early : entry.expires ≤ now := by simpa using before
    have late : entry.expires ≤ later := by omega
    simpa using late

instance : Expiring ResetOperation where
  expired now entry := entry.expires ≤ now
  expired_later := by
    intro entry now later ordered before
    have early : entry.expires ≤ now := by simpa using before
    have late : entry.expires ≤ later := by omega
    simpa using late

@[simp] theorem Counter.expired_eq (now : Int) (entry : Counter) :
    expired now entry = decide (entry.expires ≤ now) := rfl

@[simp] theorem ResetOperation.expired_eq (now : Int)
    (entry : ResetOperation) :
    expired now entry = decide (entry.expires ≤ now) := rfl

/-- The maps of a process, and the keys `counters.delete` was called with. -/
structure Maps where
  counters : Table Counter := ∅
  resetOperations : Table ResetOperation := ∅
  deletions : List String := []

namespace Maps

/-- `counters.delete(key)` of a reset; expired entries are swept apart. -/
def deleteCounter (key : String) (maps : Maps) : Maps :=
  { maps with
    counters := maps.counters.drop key
    deletions := maps.deletions ++ [key] }

end Maps

namespace Disabled

def consume (now : Int) (key : String) (seconds : Int) (maps : Maps) :
    Except Failure Window × Maps :=
  let counters := maps.counters.sweep now
  if 10000 ≤ counters.rows.length ∧ (counters.find key).isNone then
    (.error (unavailable "Rate-limit capacity reached"),
      { maps with counters })
  else
    let current := (counters.find key).getD
      { name := key, count := 0, expires := now + seconds * 1000 }
    let counted := { current with count := current.count + 1 }
    (.ok
      { count := counted.count
        retryAfter := max 1 (ceilSeconds (counted.expires - now)) },
      { maps with counters := counters.put counted })

def reset (key : String) (maps : Maps) : Maps :=
  maps.deleteCounter key

def resetOnce (now : Int) (key operationId : String) (maps : Maps) :
    Except Failure Unit × Maps :=
  let resetOperations := maps.resetOperations.sweep now
  let swept := { maps with resetOperations }
  if (resetOperations.find operationId).isSome then (.ok (), swept)
  else if 10000 ≤ resetOperations.rows.length then
    (.error (unavailable "Reset capacity reached"), swept)
  else
    let cleared := swept.deleteCounter key
    (.ok (),
      { cleared with
        resetOperations := resetOperations.put
          { id := operationId, expires := now + markerSeconds * 1000 } })

private theorem not_full {now : Int} {maps : Maps}
    (room : (maps.counters.sweep now).rows.length < 10000) (key : String) :
    ¬ (10000 ≤ (maps.counters.sweep now).rows.length ∧
      ((maps.counters.sweep now).find key).isNone) := by
  intro full
  omega

/-- While there is room, a counter that is not live starts a window. -/
theorem consume_absent {now : Int} (seconds : Int) {key : String} {maps : Maps}
    (room : (maps.counters.sweep now).rows.length < 10000)
    (absent : maps.counters.live now key = none) :
    (consume now key seconds maps).1 = .ok
        { count := 1
          retryAfter := max 1 (ceilSeconds (now + seconds * 1000 - now)) } ∧
      (consume now key seconds maps).2.resetOperations = maps.resetOperations ∧
      (consume now key seconds maps).2.deletions = maps.deletions ∧
      ∀ other, (consume now key seconds maps).2.counters.live now other =
        if other = key then
          if seconds ≤ 0 then none
          else some { name := key, count := 1, expires := now + seconds * 1000 }
        else maps.counters.live now other := by
  unfold consume
  rw [if_neg (not_full room key), Table.find_sweep, absent]
  refine ⟨rfl, rfl, rfl, fun other => ?_⟩
  rw [Table.live_put, Table.live_sweep le_rfl]
  by_cases here : other = key
  · have lapsed : now + seconds * 1000 ≤ now ↔ seconds ≤ 0 := by omega
    simp [here, lapsed]
  · simp [here]

/-- A live counter goes up by one and keeps its expiry; it needs no room. -/
theorem consume_present {now : Int} (seconds : Int) {key : String} {maps : Maps}
    {counter : Counter}
    (present : maps.counters.live now key = some counter) :
    (consume now key seconds maps).1 = .ok
        { count := counter.count + 1
          retryAfter := max 1 (ceilSeconds (counter.expires - now)) } ∧
      (consume now key seconds maps).2.resetOperations = maps.resetOperations ∧
      (consume now key seconds maps).2.deletions = maps.deletions ∧
      ∀ other, (consume now key seconds maps).2.counters.live now other =
        if other = key then some { counter with count := counter.count + 1 }
        else maps.counters.live now other := by
  obtain ⟨-, name, fresh⟩ := Table.live_eq_some.mp present
  have lasting : ¬ counter.expires ≤ now := by simpa using fresh
  have stored : ¬ (10000 ≤ (maps.counters.sweep now).rows.length ∧
      ((maps.counters.sweep now).find key).isNone) := by
    rw [Table.find_sweep, present]
    simp
  unfold consume
  rw [if_neg stored, Table.find_sweep, present]
  refine ⟨rfl, rfl, rfl, fun other => ?_⟩
  rw [Table.live_put, Table.live_sweep le_rfl]
  by_cases here : other = key
  · simp [here, ← name, lasting]
  · have apart : other ≠ counter.name := fun same => here (same.trans name)
    simp [here, apart]

/-- Without room no window is started. -/
theorem consume_full {now : Int} (seconds : Int) {key : String} {maps : Maps}
    (full : 10000 ≤ (maps.counters.sweep now).rows.length)
    (absent : maps.counters.live now key = none) :
    consume now key seconds maps =
      (.error (unavailable "Rate-limit capacity reached"),
        { maps with counters := maps.counters.sweep now }) := by
  have missing : ((maps.counters.sweep now).find key).isNone := by
    rw [Table.find_sweep, absent]
    rfl
  unfold consume
  rw [if_pos ⟨full, missing⟩]

/-- A recorded operation is not performed again. -/
theorem resetOnce_recorded {now : Int} {key operationId : String} {maps : Maps}
    {operation : ResetOperation}
    (recorded : maps.resetOperations.live now operationId = some operation) :
    resetOnce now key operationId maps =
      (.ok (),
        { maps with resetOperations := maps.resetOperations.sweep now }) := by
  unfold resetOnce
  simp only [Table.find_sweep, recorded, Option.isSome_some, ↓reduceIte]

/-- While there is room, a new operation deletes the counter and is recorded. -/
theorem resetOnce_new {now : Int} {key operationId : String} {maps : Maps}
    (room : (maps.resetOperations.sweep now).rows.length < 10000)
    (new : maps.resetOperations.live now operationId = none) :
    resetOnce now key operationId maps =
      (.ok (),
        { counters := maps.counters.drop key
          resetOperations := (maps.resetOperations.sweep now).put
            { id := operationId, expires := now + markerSeconds * 1000 }
          deletions := maps.deletions ++ [key] }) := by
  have notFull : ¬ 10000 ≤ (maps.resetOperations.sweep now).rows.length := by
    omega
  unfold resetOnce
  simp only [Table.find_sweep, new, Option.isSome_none, Bool.false_eq_true,
    ↓reduceIte, notFull, Maps.deleteCounter]

/-- Without room no operation is performed. -/
theorem resetOnce_full {now : Int} {key operationId : String} {maps : Maps}
    (full : 10000 ≤ (maps.resetOperations.sweep now).rows.length)
    (new : maps.resetOperations.live now operationId = none) :
    resetOnce now key operationId maps =
      (.error (unavailable "Reset capacity reached"),
        { maps with resetOperations := maps.resetOperations.sweep now }) := by
  unfold resetOnce
  simp only [Table.find_sweep, new, Option.isSome_none, Bool.false_eq_true,
    ↓reduceIte, full]

end Disabled

/-- `WINDOW_SCRIPT`. -/
def windowScript (now : Int) (name : String) (seconds : Int)
    (server : Server) : (Nat × Int) × Server :=
  let (count, counted) := server.incr now name
  let limited :=
    if count = 1 then counted.expire now name seconds else counted
  ((count, limited.ttl now name), limited)

/-- The first count of a window starts it. -/
theorem windowScript_absent {now : Int} (seconds : Int) {name : String}
    {server : Server} (absent : server.keys.live now name = none) :
    (windowScript now name seconds server).1.1 = 1 ∧
      (windowScript now name seconds server).2.deletions = server.deletions ∧
      ∀ other, (windowScript now name seconds server).2.keys.live now other =
        if other = name then
          if seconds ≤ 0 then none
          else some { name, value := 1, expires := some (now + seconds * 1000) }
        else server.keys.live now other := by
  have counted : server.incr now name =
      (1, { server with
        keys := server.keys.put { name, value := 1, expires := none } }) := by
    unfold Server.incr
    rw [absent]
  have started : (server.keys.put
      { name, value := 1, expires := none }).live now name =
        some { name, value := 1, expires := none } := by
    rw [Table.live_put]
    simp
  unfold windowScript
  rw [counted]
  simp only [↓reduceIte, Server.expire, started, true_and]
  intro other
  rw [Table.live_put, Table.live_put]
  by_cases here : other = name
  · have lapsed : now + seconds * 1000 ≤ now ↔ seconds ≤ 0 := by omega
    simp [here, lapsed]
  · simp [here]

/-- Later counts keep the window. -/
theorem windowScript_present {now : Int} (seconds : Int) {name : String}
    {server : Server} {entry : Entry}
    (present : server.keys.live now name = some entry)
    (positive : 0 < entry.value) :
    (windowScript now name seconds server).1.1 = entry.value + 1 ∧
      (windowScript now name seconds server).2.deletions = server.deletions ∧
      ∀ other, (windowScript now name seconds server).2.keys.live now other =
        if other = name then some { entry with value := entry.value + 1 }
        else server.keys.live now other := by
  have counted : server.incr now name =
      (entry.value + 1, { server with
        keys := server.keys.put { entry with value := entry.value + 1 } }) := by
    unfold Server.incr
    rw [present]
  have again : entry.value + 1 ≠ 1 := by omega
  have found := Table.live_eq_some.mp present
  unfold windowScript
  rw [counted]
  simp only [again, ↓reduceIte, true_and]
  intro other
  rw [Table.live_put]
  have name_eq : entry.name = name := found.2.1
  have fresh : expired now entry = false := found.2.2
  rw [Entry.expired_eq] at fresh
  by_cases here : other = name <;> simp [here, name_eq, fresh]

/-- `RESET_ONCE_SCRIPT`. -/
def resetOnceScript (now : Int) (name marker : String) (seconds : Int)
    (server : Server) : Nat × Server :=
  if server.present now marker then (0, server)
  else (1, (server.setEx now marker 1 seconds).del name)

theorem resetOnceScript_recorded {now : Int} (seconds : Int)
    (name : String) {marker : String} {server : Server} {entry : Entry}
    (recorded : server.keys.live now marker = some entry) :
    resetOnceScript now name marker seconds server = (0, server) := by
  simp [resetOnceScript, Server.present, recorded]

theorem resetOnceScript_new {now : Int} (seconds : Int) (name : String)
    {marker : String} {server : Server} (new : server.keys.live now marker = none) :
    resetOnceScript now name marker seconds server =
      (1, (server.setEx now marker 1 seconds).del name) := by
  simp [resetOnceScript, Server.present, new]

namespace Connected

variable (keyPrefix : String)

def rateKey (key : String) : String :=
  keyPrefix ++ ":rate:\x7b" ++ key ++ "\x7d"

def markerKey (key operationId : String) : String :=
  keyPrefix ++ ":reset:\x7b" ++ key ++ "\x7d:" ++ operationId

def consume (now : Int) (key : String) (seconds : Int) (server : Server) :
    Window × Server :=
  let (result, after) := windowScript now (rateKey keyPrefix key) seconds server
  ({ count := result.1, retryAfter := max 1 result.2 }, after)

def reset (key : String) (server : Server) : Server :=
  server.del (rateKey keyPrefix key)

def resetOnce (now : Int) (key operationId : String) (server : Server) :
    Server :=
  (resetOnceScript now (rateKey keyPrefix key)
    (markerKey keyPrefix key operationId) markerSeconds server).2

end Connected

end RedisService

end SaasFoundation
