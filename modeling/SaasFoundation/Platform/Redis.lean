import SaasFoundation.Relational.Expiry

/-!
# The commands of a Redis server

Times are milliseconds.  A key that was given `seconds` at time `now` is absent
from `now + seconds` on.  Only integer values occur.
-/

namespace Redis

open Relational

structure Entry where
  name : String
  value : Nat
  expires : Option Int
  deriving DecidableEq, Repr

instance : Keyed Entry String := ⟨Entry.name⟩

@[simp] theorem Entry.key_eq (entry : Entry) : key entry = entry.name := rfl

instance : Expiring Entry where
  expired now entry := entry.expires.any fun moment => moment ≤ now
  expired_later := by
    intro entry now later ordered before
    cases expires : entry.expires with
    | none => simp [expires] at before
    | some moment =>
        have early : moment ≤ now := by simpa [expires] using before
        have late : moment ≤ later := by omega
        simpa using late

@[simp] theorem Entry.expired_eq (now : Int) (entry : Entry) :
    expired now entry = entry.expires.any fun moment => moment ≤ now := rfl

/-- The stored keys, and the names `DEL` was called with so far. -/
structure Server where
  keys : Table Entry := ∅
  deletions : List String := []

namespace Server

variable (now : Int) (name : String) (server : Server)

/-- `INCR`: a key that is absent counts as 0, the expiry stays. -/
def incr : Nat × Server :=
  match server.keys.live now name with
  | none =>
      (1, { server with
        keys := server.keys.put { name, value := 1, expires := none } })
  | some entry =>
      (entry.value + 1, { server with
        keys := server.keys.put { entry with value := entry.value + 1 } })

/-- `EXPIRE`. -/
def expire (seconds : Int) : Server :=
  match server.keys.live now name with
  | none => server
  | some entry =>
      { server with
        keys := server.keys.put
          { entry with expires := some (now + seconds * 1000) } }

/-- `TTL`, rounded to the nearest second. -/
def ttl : Int :=
  match server.keys.live now name with
  | none => -2
  | some entry =>
      match entry.expires with
      | none => -1
      | some moment => (moment - now + 500) / 1000

/-- `EXISTS`. -/
def present : Bool :=
  (server.keys.live now name).isSome

/-- `SET … EX`. -/
def setEx (value : Nat) (seconds : Int) : Server :=
  { server with
    keys := server.keys.put
      { name, value, expires := some (now + seconds * 1000) } }

/-- `DEL`. -/
def del : Server where
  keys := server.keys.drop name
  deletions := server.deletions ++ [name]

end Server

end Redis
