import SaasFoundation.Platform.RedisService
import Mathlib.Order.Lattice
import Mathlib.Data.Int.Order.Basic

/-!
# The in-process limiter refines the Redis one

Both modes of `RedisService` are run over the same sequence of timed calls.
An expired entry that has not been swept yet is invisible, so that the maps
and the server are compared by what is live.
-/

namespace SaasFoundation

open Relational Redis

namespace RedisService

/-- The calls the limiter answers.  Operation ids are the ids of
`login_unblock_requests`. -/
inductive Call where
  | consume (key : String) (seconds : Int)
  | reset (key : String)
  | resetOnce (key : String) (operationId : Uuid)

structure Timed where
  time : Int
  call : Call

/-- The count a `consume` returns; the resets return nothing. -/
abbrev Answer := Except Failure (Option Nat)

namespace Disabled

def perform (timed : Timed) (maps : Maps) : Answer × Maps :=
  match timed.call with
  | .consume key seconds =>
      let (window, after) := consume timed.time key seconds maps
      (window.map fun window => some window.count, after)
  | .reset key => (.ok none, reset key maps)
  | .resetOnce key operationId =>
      let (result, after) := resetOnce timed.time key operationId.text maps
      (result.map fun _ => none, after)

end Disabled

namespace Connected

def perform (keyPrefix : String) (timed : Timed) (server : Server) :
    Answer × Server :=
  match timed.call with
  | .consume key seconds =>
      let (window, after) := consume keyPrefix timed.time key seconds server
      (.ok (some window.count), after)
  | .reset key => (.ok none, reset keyPrefix key server)
  | .resetOnce key operationId =>
      (.ok none,
        resetOnce keyPrefix timed.time key operationId.text server)

end Connected

/-- Answers and final state of a sequence of calls. -/
def run {σ : Type} (perform : Timed → σ → Answer × σ) :
    List Timed → σ → List Answer × σ
  | [], state => ([], state)
  | timed :: rest, state =>
      let (answer, after) := perform timed state
      let (answers, final) := run perform rest after
      (answer :: answers, final)

/-- Every operation id is used for the reset of one key. -/
def OneKeyPerOperation (calls : List Timed) (intended : Uuid → String) :
    Prop :=
  ∀ timed ∈ calls, ∀ key operationId,
    timed.call = .resetOnce key operationId → key = intended operationId

/-- Whenever a call arrives, fewer than 10000 counters and operation ids are
live. -/
def Roomy : List Timed → Maps → Prop
  | [], _ => True
  | timed :: rest, maps =>
      (maps.counters.sweep timed.time).rows.length < 10000 ∧
        (maps.resetOperations.sweep timed.time).rows.length < 10000 ∧
        Roomy rest (Disabled.perform timed maps).2

instance Roomy.decide : (calls : List Timed) → (maps : Maps) →
    Decidable (Roomy calls maps)
  | [], _ => inferInstanceAs (Decidable True)
  | timed :: rest, maps =>
      have := Roomy.decide rest (Disabled.perform timed maps).2
      inferInstanceAs (Decidable (_ ∧ _ ∧ _))

namespace Connected

variable {keyPrefix : String}

theorem rateKey_injective {left right : String}
    (same : rateKey keyPrefix left = rateKey keyPrefix right) :
    left = right := by
  have lists := congrArg String.toList same
  simp only [rateKey, String.toList_append, List.append_assoc,
    List.append_cancel_left_eq, List.append_cancel_right_eq] at lists
  exact String.toList_inj.mp lists

theorem rateKey_ne_markerKey (rate key operationId : String) :
    rateKey keyPrefix rate ≠ markerKey keyPrefix key operationId := by
  intro same
  have lists := congrArg String.toList same
  simp [rateKey, markerKey] at lists

private theorem eq_of_append_mark {mark : Char} {left right : List Char}
    {first second : List Char} (firstFree : mark ∉ first)
    (secondFree : mark ∉ second)
    (same : left ++ mark :: first = right ++ mark :: second) :
    left = right ∧ first = second := by
  rcases List.append_eq_append_iff.mp same with
    ⟨gap, rfl, rest⟩ | ⟨gap, rfl, rest⟩
  · cases gap with
    | nil => simpa using rest
    | cons char gap =>
        have member : mark ∈ first := by
          rw [List.cons_append] at rest
          simp [(List.cons.inj rest).2]
        exact absurd member firstFree
  · cases gap with
    | nil => simpa using rest.symm
    | cons char gap =>
        have member : mark ∈ second := by
          rw [List.cons_append] at rest
          simp [(List.cons.inj rest).2]
        exact absurd member secondFree

/-- A UUID holds no brace, so that the last brace ends the key. -/
theorem markerKey_injective {left right : String} {first second : Uuid}
    (same : markerKey keyPrefix left first.text =
      markerKey keyPrefix right second.text) :
    left = right ∧ first.text = second.text := by
  have noBrace : ∀ id : Uuid, '\x7d' ∉ ':' :: id.text.toList := by
    intro id member
    rcases List.mem_cons.mp member with separator | member
    · exact absurd separator (by decide)
    · have digit := id.digits _ member
      revert digit
      decide
  have lists := congrArg String.toList same
  simp only [markerKey, String.toList_append, List.append_assoc,
    List.append_cancel_left_eq] at lists
  obtain ⟨keys, ids⟩ :=
    eq_of_append_mark (noBrace first) (noBrace second) lists
  exact ⟨String.toList_inj.mp keys,
    String.toList_inj.mp (List.cons.inj ids).2⟩

end Connected

section Refinement

variable {keyPrefix : String} {intended : Uuid → String}

/-- The key a counter of the process has on the server. -/
def Counter.entry (keyPrefix : String) (counter : Counter) : Entry where
  name := Connected.rateKey keyPrefix counter.name
  value := counter.count
  expires := some counter.expires

/-- The marker of a recorded operation. -/
def ResetOperation.entry (keyPrefix key : String) (operation : ResetOperation) :
    Entry where
  name := Connected.markerKey keyPrefix key operation.id
  value := 1
  expires := some operation.expires

/-- At time `now` the maps and the server show the same counters and markers
and have performed the same deletions. -/
structure Agrees (keyPrefix : String) (intended : Uuid → String) (now : Int)
    (maps : Maps) (server : Server) : Prop where
  counters : ∀ key,
    server.keys.live now (Connected.rateKey keyPrefix key) =
      (maps.counters.live now key).map (Counter.entry keyPrefix)
  markers : ∀ id : Uuid,
    server.keys.live now
        (Connected.markerKey keyPrefix (intended id) id.text) =
      (maps.resetOperations.live now id.text).map
        (ResetOperation.entry keyPrefix (intended id))
  deletions :
    server.deletions = maps.deletions.map (Connected.rateKey keyPrefix)
  counted : ∀ key counter,
    maps.counters.live now key = some counter → 0 < counter.count

namespace Agrees

theorem initially (now : Int) : Agrees keyPrefix intended now {} {} where
  counters _ := rfl
  markers _ := rfl
  deletions := rfl
  counted _ _ found := by simp at found

/-- Both sides forget the same keys as time passes. -/
theorem later {now later : Int} {maps : Maps} {server : Server}
    (ordered : now ≤ later) (agrees : Agrees keyPrefix intended now maps server) :
    Agrees keyPrefix intended later maps server where
  counters key := by
    rw [Table.live_later ordered, Table.live_later ordered, agrees.counters,
      Option.filter_map]
    rfl
  markers id := by
    rw [Table.live_later ordered, Table.live_later ordered, agrees.markers,
      Option.filter_map]
    rfl
  deletions := agrees.deletions
  counted key counter found := by
    rw [Table.live_later ordered, Option.filter_eq_some_iff] at found
    exact agrees.counted key counter found.1

/-- Counting under one key on both sides. -/
theorem count {now : Int} {key : String} {maps maps' : Maps}
    {server server' : Server} (agrees : Agrees keyPrefix intended now maps server)
    (counter : Option Counter)
    (process : ∀ other, maps'.counters.live now other =
      if other = key then counter else maps.counters.live now other)
    (remote : ∀ name, server'.keys.live now name =
      if name = Connected.rateKey keyPrefix key then
        counter.map (Counter.entry keyPrefix)
      else server.keys.live now name)
    (positive : ∀ current ∈ counter, 0 < current.count)
    (sameOperations : maps'.resetOperations = maps.resetOperations)
    (sameDeletions : maps'.deletions = maps.deletions)
    (remoteDeletions : server'.deletions = server.deletions) :
    Agrees keyPrefix intended now maps' server' where
  counters other := by
    rw [remote, process]
    by_cases here : other = key
    · rw [here, if_pos rfl, if_pos rfl]
    · have apart : Connected.rateKey keyPrefix other ≠
          Connected.rateKey keyPrefix key :=
        fun same => here (Connected.rateKey_injective same)
      rw [if_neg apart, if_neg here]
      exact agrees.counters other
  markers id := by
    rw [remote, if_neg (Connected.rateKey_ne_markerKey _ _ _).symm,
      sameOperations]
    exact agrees.markers id
  deletions := by
    rw [remoteDeletions, sameDeletions]
    exact agrees.deletions
  counted other current found := by
    rw [process] at found
    by_cases here : other = key
    · rw [if_pos here] at found
      exact positive current found
    · rw [if_neg here] at found
      exact agrees.counted other current found

/-- Deleting one counter on both sides. -/
theorem delete {now : Int} {maps : Maps} {server : Server}
    (agrees : Agrees keyPrefix intended now maps server) (key : String) :
    Agrees keyPrefix intended now (maps.deleteCounter key)
      (server.del (Connected.rateKey keyPrefix key)) where
  counters other := by
    change (server.keys.drop _).live now _ =
      ((maps.counters.drop key).live now other).map _
    rw [Table.live_drop, Table.live_drop]
    by_cases here : other = key
    · rw [here, if_pos rfl, if_pos rfl, Option.map_none]
    · have apart : Connected.rateKey keyPrefix other ≠
          Connected.rateKey keyPrefix key :=
        fun same => here (Connected.rateKey_injective same)
      rw [if_neg apart, if_neg here]
      exact agrees.counters other
  markers id := by
    change (server.keys.drop _).live now _ = _
    rw [Table.live_drop, if_neg (Connected.rateKey_ne_markerKey _ _ _).symm]
    exact agrees.markers id
  deletions := by
    change server.deletions ++ _ = (maps.deletions ++ [key]).map _
    rw [agrees.deletions, List.map_append, List.map_singleton]
  counted other current found := by
    change (maps.counters.drop key).live now other = some current at found
    rw [Table.live_drop] at found
    by_cases here : other = key
    · simp [here] at found
    · rw [if_neg here] at found
      exact agrees.counted other current found

/-- Recording one operation on both sides. -/
theorem record {now : Int} {maps : Maps} {server : Server}
    (agrees : Agrees keyPrefix intended now maps server) (id : Uuid) :
    Agrees keyPrefix intended now
      { maps with
        resetOperations := (maps.resetOperations.sweep now).put
          { id := id.text, expires := now + markerSeconds * 1000 } }
      (server.setEx now
        (Connected.markerKey keyPrefix (intended id) id.text) 1
        markerSeconds) where
  counters key := by
    change (server.keys.put _).live now _ = _
    rw [Table.live_put, Entry.key_eq,
      if_neg (Connected.rateKey_ne_markerKey _ _ _)]
    exact agrees.counters key
  markers other := by
    change (server.keys.put _).live now _ =
      (((maps.resetOperations.sweep now).put _).live now other.text).map _
    rw [Table.live_put, Table.live_put, Table.live_sweep le_rfl]
    have lasting : ¬ now + markerSeconds * 1000 ≤ now := by
      unfold markerSeconds
      omega
    by_cases here : other.text = id.text
    · have same : other = id := Uuid.ext here
      subst same
      simp [lasting, ResetOperation.entry]
    · have apart : Connected.markerKey keyPrefix (intended other) other.text ≠
          Connected.markerKey keyPrefix (intended id) id.text :=
        fun same => here (Connected.markerKey_injective same).2
      simp only [Entry.key_eq, ResetOperation.key_eq, if_neg apart, if_neg here]
      exact agrees.markers other
  deletions := agrees.deletions
  counted := agrees.counted

/-- Sweeping the operation ids changes nothing that can be seen. -/
theorem sweep {now : Int} {maps : Maps} {server : Server}
    (agrees : Agrees keyPrefix intended now maps server) :
    Agrees keyPrefix intended now
      { maps with resetOperations := maps.resetOperations.sweep now }
      server where
  counters := agrees.counters
  markers id := by
    rw [agrees.markers, Table.live_sweep le_rfl]
  deletions := agrees.deletions
  counted := agrees.counted

end Agrees

/-- One call leaves both sides in agreement and answers the same. -/
def Matches (keyPrefix : String) (intended : Uuid → String) (timed : Timed)
    (maps : Maps) (server : Server) : Prop :=
  (Disabled.perform timed maps).1 =
      (Connected.perform keyPrefix timed server).1 ∧
    Agrees keyPrefix intended timed.time (Disabled.perform timed maps).2
      (Connected.perform keyPrefix timed server).2

private theorem answer_of_count {result : Except Failure Window}
    {window : Window} (counted : result = .ok window) :
    result.map (fun window => some window.count) = .ok (some window.count) := by
  rw [counted]
  rfl

theorem matches_consume {now seconds : Int} {key : String} {maps : Maps}
    {server : Server} (agrees : Agrees keyPrefix intended now maps server)
    (room : (maps.counters.sweep now).rows.length < 10000) :
    Matches keyPrefix intended ⟨now, .consume key seconds⟩ maps server := by
  have shared := agrees.counters key
  cases found : maps.counters.live now key with
  | none =>
      rw [found, Option.map_none] at shared
      obtain ⟨count, operations, deletions, process⟩ :=
        Disabled.consume_absent seconds room found
      obtain ⟨remoteCount, remoteDeletions, remote⟩ :=
        windowScript_absent seconds shared
      constructor
      · refine (answer_of_count count).trans ?_
        exact congrArg (fun count => Except.ok (some count)) remoteCount.symm
      · refine agrees.count _ process (fun name => ?_) ?_ operations deletions
          remoteDeletions
        · refine (remote name).trans ?_
          by_cases lapsed : seconds ≤ 0 <;> simp [lapsed, Counter.entry]
        · by_cases lapsed : seconds ≤ 0 <;> simp [lapsed]
  | some counter =>
      rw [found, Option.map_some] at shared
      have positive := agrees.counted key counter found
      have name : counter.name = key := (Table.live_eq_some.mp found).2.1
      obtain ⟨count, operations, deletions, process⟩ :=
        Disabled.consume_present seconds found
      obtain ⟨remoteCount, remoteDeletions, remote⟩ :=
        windowScript_present seconds shared positive
      constructor
      · refine (answer_of_count count).trans ?_
        exact congrArg (fun count => Except.ok (some count)) remoteCount.symm
      · refine agrees.count _ process remote ?_ operations deletions
          remoteDeletions
        simp

theorem matches_reset {now : Int} {key : String} {maps : Maps}
    {server : Server} (agrees : Agrees keyPrefix intended now maps server) :
    Matches keyPrefix intended ⟨now, .reset key⟩ maps server :=
  ⟨rfl, agrees.delete key⟩

private theorem matches_of_resetOnce {now : Int} {key : String} {id : Uuid}
    {maps maps' : Maps} {server server' : Server}
    (process : Disabled.resetOnce now key id.text maps = (.ok (), maps'))
    (remote : Connected.resetOnce keyPrefix now key id.text server = server')
    (agrees : Agrees keyPrefix intended now maps' server') :
    Matches keyPrefix intended ⟨now, .resetOnce key id⟩ maps server := by
  unfold Matches Disabled.perform Connected.perform
  simp only [process, remote]
  exact ⟨rfl, agrees⟩

theorem matches_resetOnce {now : Int} {id : Uuid} {maps : Maps}
    {server : Server} (agrees : Agrees keyPrefix intended now maps server)
    (room : (maps.resetOperations.sweep now).rows.length < 10000) :
    Matches keyPrefix intended ⟨now, .resetOnce (intended id) id⟩ maps
      server := by
  have shared := agrees.markers id
  cases found : maps.resetOperations.live now id.text with
  | some operation =>
      rw [found, Option.map_some] at shared
      have remote := resetOnceScript_recorded markerSeconds
        (Connected.rateKey keyPrefix (intended id)) shared
      exact matches_of_resetOnce (Disabled.resetOnce_recorded found)
        (congrArg Prod.snd remote) agrees.sweep
  | none =>
      rw [found, Option.map_none] at shared
      have remote := resetOnceScript_new markerSeconds
        (Connected.rateKey keyPrefix (intended id)) shared
      exact matches_of_resetOnce (Disabled.resetOnce_new room found)
        (congrArg Prod.snd remote) ((agrees.record id).delete (intended id))

theorem matches_of_roomy {timed : Timed} {rest : List Timed} {maps : Maps}
    {server : Server}
    (agrees : Agrees keyPrefix intended timed.time maps server)
    (consistent : OneKeyPerOperation (timed :: rest) intended)
    (roomy : Roomy (timed :: rest) maps) :
    Matches keyPrefix intended timed maps server := by
  obtain ⟨time, call⟩ := timed
  cases call with
  | consume key seconds => exact matches_consume agrees roomy.1
  | reset key => exact matches_reset agrees
  | resetOnce key id =>
      have keyOfId := consistent _ List.mem_cons_self key id rfl
      rw [keyOfId]
      exact matches_resetOnce agrees roomy.2.1

/-- The run lemma: agreement is carried through the calls. -/
theorem run_agrees {now : Int} {calls : List Timed} {maps : Maps}
    {server : Server} (agrees : Agrees keyPrefix intended now maps server)
    (started : ∀ timed ∈ calls, now ≤ timed.time)
    (ordered : (calls.map Timed.time).Pairwise (· ≤ ·))
    (consistent : OneKeyPerOperation calls intended)
    (roomy : Roomy calls maps) (final : Int) (now_le : now ≤ final)
    (finished : ∀ timed ∈ calls, timed.time ≤ final) :
    (run Disabled.perform calls maps).1 =
        (run (Connected.perform keyPrefix) calls server).1 ∧
      Agrees keyPrefix intended final (run Disabled.perform calls maps).2
        (run (Connected.perform keyPrefix) calls server).2 := by
  induction calls generalizing now maps server with
  | nil => exact ⟨rfl, agrees.later now_le⟩
  | cons timed rest induction =>
      have before := agrees.later (started timed List.mem_cons_self)
      obtain ⟨answer, after⟩ := matches_of_roomy before consistent roomy
      rw [List.map_cons, List.pairwise_cons] at ordered
      have next := induction after
        (fun other member =>
          ordered.1 other.time (List.mem_map_of_mem member))
        ordered.2 (fun other member => consistent other (.tail _ member))
        roomy.2.2 (finished timed List.mem_cons_self)
        (fun other member => finished other (.tail _ member))
      exact ⟨congrArg₂ List.cons answer next.1, next.2⟩

end Refinement

private theorem exists_bounds (calls : List Timed) :
    ∃ start finish : Int,
      ∀ timed ∈ calls, start ≤ timed.time ∧ timed.time ≤ finish := by
  induction calls with
  | nil => exact ⟨0, 0, by simp⟩
  | cons timed rest induction =>
      obtain ⟨start, finish, bounded⟩ := induction
      refine ⟨min start timed.time, max finish timed.time, ?_⟩
      intro other member
      rcases List.mem_cons.mp member with rfl | member
      · omega
      · have inside := bounded other member
        omega

/-- In disabled mode the limiter returns the counts of the scripts, performs
the deletions they perform, and shows the counters they show. -/
theorem disabled_refines_connected (keyPrefix : String) (calls : List Timed)
    (intended : Uuid → String)
    (ordered : (calls.map Timed.time).Pairwise (· ≤ ·))
    (consistent : OneKeyPerOperation calls intended)
    (roomy : Roomy calls {}) :
    let process := run Disabled.perform calls {}
    let remote := run (Connected.perform keyPrefix) calls {}
    process.1 = remote.1 ∧
      remote.2.deletions =
        process.2.deletions.map (Connected.rateKey keyPrefix) ∧
      ∀ now, (∀ timed ∈ calls, timed.time ≤ now) → ∀ key,
        (remote.2.keys.live now (Connected.rateKey keyPrefix key)).map
            Entry.value =
          (process.2.counters.live now key).map Counter.count := by
  intro process remote
  obtain ⟨start, finish, bounded⟩ := exists_bounds calls
  have agreed : ∀ final, (∀ timed ∈ calls, timed.time ≤ final) →
      process.1 = remote.1 ∧
        Agrees keyPrefix intended final process.2 remote.2 := by
    intro final finished
    have initially : Agrees keyPrefix intended (min start final) {} {} :=
      Agrees.initially _
    refine run_agrees initially (fun timed member => ?_) ordered consistent
      roomy final (min_le_right start final) finished
    exact (min_le_left start final).trans (bounded timed member).1
  obtain ⟨answers, agrees⟩ := agreed finish fun timed member =>
    (bounded timed member).2
  refine ⟨answers, agrees.deletions, fun now finished key => ?_⟩
  rw [(agreed now finished).2.counters, Option.map_map]
  rfl

namespace Sample

def operation : Uuid where
  text := "9f1c2b7e-3a54-4d1e-8c0f-6b7a5d4e3f21"
  digits := @of_decide_eq_true _ (List.decidableBAll _ _) rfl
  groups := by decide

/-- Two attempts, a reset with a retry, and a window that runs out. -/
def calls : List Timed :=
  [⟨0, .consume "auth:d" 60⟩, ⟨1000, .consume "auth:d" 60⟩,
    ⟨2000, .resetOnce "auth:d" operation⟩, ⟨3000, .consume "auth:d" 60⟩,
    ⟨4000, .resetOnce "auth:d" operation⟩, ⟨5000, .consume "auth:d" 60⟩,
    ⟨63000, .consume "auth:d" 60⟩, ⟨63000, .reset "auth:d"⟩]

end Sample

theorem disabled_refines_connected_retry :
    (run (Connected.perform "app") Sample.calls {}).1 =
      [.ok (some 1), .ok (some 2), .ok none, .ok (some 1), .ok none,
        .ok (some 2), .ok (some 1), .ok none] := by
  have consistent : OneKeyPerOperation Sample.calls fun _ => "auth:d" := by
    simp [OneKeyPerOperation, Sample.calls, eq_comm]
  exact (disabled_refines_connected "app" Sample.calls _ (by decide)
    consistent (by decide)).1.symm

end RedisService

end SaasFoundation
