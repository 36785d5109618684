import Mathlib.Data.Rat.Defs
import Mathlib.Tactic.Ring
import SaasFoundation.Relational.Table

/-!
# `numeric(20,4)`

PostgreSQL stores a `numeric(20,4)` exactly: an integer number of units of
`0.0001` with at most twenty digits.  Arithmetic is exact and leaves the type
only by raising `22003`.
-/

namespace SaasFoundation

open Relational

/-- A value of a `numeric(20,4)` column. -/
structure Numeric where
  units : Int
  inRange : units.natAbs < 10 ^ 20
  deriving DecidableEq

namespace Numeric

/-- The number the stored units stand for. -/
def toRat (value : Numeric) : ℚ :=
  value.units / 10000

def zero : Numeric := ⟨0, by decide⟩

/-- Store a number of units, unless it needs more than twenty digits. -/
def ofUnits (units : Int) : Option Numeric :=
  if inRange : units.natAbs < 10 ^ 20 then some ⟨units, inRange⟩ else none

theorem ofUnits_eq_some {units : Int} {value : Numeric} :
    ofUnits units = some value ↔ value.units = units := by
  obtain ⟨stored, inRange⟩ := value
  unfold ofUnits
  constructor
  · intro fits
    split at fits
    · cases fits
      rfl
    · cases fits
  · rintro rfl
    exact dif_pos inRange

@[ext] theorem ext {left right : Numeric} (same : left.units = right.units) :
    left = right := by
  cases left
  cases right
  cases same
  rfl

end Numeric

/-- `currencies`. -/
structure CurrencyRow where
  id : Nat
  name : String
  symbol : String
  deriving DecidableEq

/-- `account_credits`. -/
structure CreditRow where
  id : Nat
  accountId : Nat
  currencyId : Nat
  balance : Numeric
  createdAt : Nat
  updatedAt : Nat
  deriving DecidableEq

/-- `credit_entries`. -/
structure EntryRow where
  id : Nat
  creditId : Nat
  amount : Numeric
  idempotencyKey : Nat
  reason : String
  operatorId : Nat
  createdAt : Nat
  deriving DecidableEq

instance : Keyed CurrencyRow Nat := ⟨CurrencyRow.id⟩
instance : Keyed CreditRow Nat := ⟨CreditRow.id⟩
instance : Keyed EntryRow Nat := ⟨EntryRow.id⟩

@[simp] theorem CurrencyRow.key_eq (row : CurrencyRow) :
    key row = row.id := rfl
@[simp] theorem CreditRow.key_eq (row : CreditRow) : key row = row.id := rfl
@[simp] theorem EntryRow.key_eq (row : EntryRow) : key row = row.id := rfl

end SaasFoundation
