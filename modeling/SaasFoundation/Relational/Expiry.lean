import SaasFoundation.Relational.Table

/-!
# Tables whose rows expire

A row expires once and for all.  Reading a table at a moment ignores the rows
that have expired by then, so it does not matter whether they have been swept
out or are still stored.
-/

namespace Relational

/-- Rows that stop counting at some moment. -/
class Expiring (ρ : Type) where
  expired : Int → ρ → Bool
  expired_later : ∀ {row : ρ} {now later : Int}, now ≤ later →
    expired now row = true → expired later row = true

export Expiring (expired)

variable {ρ κ : Type} [Keyed ρ κ]

namespace Table

/-- The rows that satisfy a test. -/
def keep (wanted : ρ → Bool) (table : Table ρ) : Table ρ where
  rows := table.rows.filter wanted
  nodup := table.nodup.sublist (List.filter_sublist.map _)

theorem mem_keep {wanted : ρ → Bool} {table : Table ρ} {row : ρ} :
    row ∈ table.keep wanted ↔ row ∈ table ∧ wanted row = true :=
  List.mem_filter

variable [DecidableEq κ]

theorem find_keep {wanted : ρ → Bool} {table : Table ρ} {name : κ} :
    (table.keep wanted).find name = (table.find name).filter wanted := by
  cases found : table.find name with
  | none =>
      have absent := find_eq_none.mp found
      refine find_eq_none.mpr fun row member => ?_
      exact absent row (mem_keep.mp member).1
  | some row =>
      have member := find_eq_some.mp found
      by_cases holds : wanted row = true
      · rw [Option.filter_some_pos holds]
        exact find_eq_some.mpr ⟨mem_keep.mpr ⟨member.1, holds⟩, member.2⟩
      · rw [Option.filter_some_neg (Bool.eq_false_iff.mpr holds)]
        refine find_eq_none.mpr fun other kept same => holds ?_
        have parts := mem_keep.mp kept
        have unique : other = row :=
          eq_of_key parts.1 member.1 (same.trans member.2.symm)
        exact unique ▸ parts.2

variable [Expiring ρ]

/-- The table without the rows that have expired. -/
def sweep (now : Int) (table : Table ρ) : Table ρ :=
  table.keep fun row => !expired now row

/-- The row under a key, unless it has expired. -/
def live (now : Int) (table : Table ρ) (name : κ) : Option ρ :=
  (table.find name).filter fun row => !expired now row

theorem find_sweep {now : Int} {table : Table ρ} {name : κ} :
    (table.sweep now).find name = table.live now name :=
  find_keep

theorem live_eq_some {now : Int} {table : Table ρ} {name : κ} {row : ρ} :
    table.live now name = some row ↔
      row ∈ table ∧ key row = name ∧ expired now row = false := by
  unfold live
  rw [Option.filter_eq_some_iff, find_eq_some]
  simp [and_assoc]

@[simp] theorem live_empty (now : Int) (name : κ) :
    (∅ : Table ρ).live now name = none := rfl

/-- What is live later is what was live before and has not expired since. -/
theorem live_later {now later : Int} (ordered : now ≤ later)
    (table : Table ρ) (name : κ) :
    table.live later name =
      (table.live now name).filter fun row => !expired later row := by
  unfold live
  cases table.find name with
  | none => rfl
  | some row =>
      by_cases before : expired now row = true
      · have after := Expiring.expired_later ordered before
        simp [Option.filter, before, after]
      · simp [Option.filter, before]

/-- Sweeping changes nothing for the reads that follow. -/
theorem live_sweep {now later : Int} (ordered : now ≤ later)
    (table : Table ρ) (name : κ) :
    (table.sweep now).live later name = table.live later name := by
  rw [live_later ordered table]
  unfold live
  rw [find_sweep]
  rfl

theorem live_put {now : Int} {table : Table ρ} {row : ρ} {name : κ} :
    (table.put row).live now name =
      if name = key row then
        if expired now row = true then none else some row
      else table.live now name := by
  unfold live
  rw [find_put]
  split
  · cases stale : expired now row <;> simp [Option.filter, stale]
  · rfl

theorem live_drop {now : Int} {table : Table ρ} {unwanted name : κ} :
    (table.drop unwanted).live now name =
      if name = unwanted then none else table.live now name := by
  unfold live
  rw [find_drop]
  split <;> rfl

end Table

end Relational
