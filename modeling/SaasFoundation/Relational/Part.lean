import SaasFoundation.Relational.Table

/-!
# Parts of tables

Two tables agree on a part when they hold the same rows of it in the same
order, and a change within the part leaves every other row as it was.
-/

namespace Relational

variable {ρ κ : Type} [Keyed ρ κ]

namespace Table

/-- The same rows of the part, in the same order. -/
def SameRows (part : ρ → Bool) (left right : Table ρ) : Prop :=
  left.rows.filter part = right.rows.filter part

/-- The same rows outside of the part. -/
def SameOthers (part : ρ → Bool) (before after : Table ρ) : Prop :=
  ∀ row, part row = false → (row ∈ after ↔ row ∈ before)

theorem SameOthers.refl (part : ρ → Bool) (table : Table ρ) :
    SameOthers part table table :=
  fun _ _ => Iff.rfl

theorem SameOthers.trans {part : ρ → Bool} {first second third : Table ρ}
    (left : SameOthers part first second)
    (right : SameOthers part second third) : SameOthers part first third :=
  fun row other => (right row other).trans (left row other)

variable {part : ρ → Bool} {left right : Table ρ}

theorem SameRows.mem (same : SameRows part left right) {row : ρ}
    (inside : part row = true) : row ∈ left ↔ row ∈ right := by
  have filtered : row ∈ left.rows.filter part ↔ row ∈ right.rows.filter part := by
    rw [same]
  simpa [List.mem_filter, inside, mem_rows] using filtered

/-- Selections within the part are the same, too. -/
theorem SameRows.select (same : SameRows part left right) {keep : ρ → Bool}
    (inside : ∀ row, keep row = true → part row = true) :
    left.rows.filter keep = right.rows.filter keep := by
  have narrow : ∀ rows : List ρ,
      rows.filter keep = (rows.filter part).filter keep := by
    intro rows
    rw [List.filter_filter]
    apply List.filter_congr
    intro row _
    cases kept : keep row with
    | false => simp
    | true => simp [inside row kept]
  rw [narrow left.rows, narrow right.rows, same]

variable [DecidableEq κ]

theorem SameRows.find (same : SameRows part left right) {wanted : κ}
    (inside : ∀ row, key row = wanted → part row = true) :
    left.find wanted = right.find wanted :=
  find_congr fun row hit => same.mem (inside row hit)

/-- The rows of a part after one of them is replaced. -/
theorem filter_put_stored {table : Table ρ} {row old : ρ} (stored : old ∈ table)
    (sameKey : key old = key row) (kept : part old = true)
    (keeps : part row = true) :
    (table.put row).rows.filter part = (table.rows.filter part).map fun other =>
      if key other = key row then row else other := by
  have present : key row ∈ table.rows.map key :=
    List.mem_map.mpr ⟨old, stored, sameKey⟩
  have replaced : (table.put row).rows = table.rows.map fun other =>
      if key other = key row then row else other := if_pos present
  rw [replaced, List.filter_map]
  congr 1
  apply List.filter_congr
  intro other member
  by_cases hit : key other = key row
  · have rows : other = old := eq_of_key member stored (hit.trans sameKey.symm)
    subst rows
    simp [sameKey, keeps, kept]
  · simp [hit]

theorem SameRows.put_stored (same : SameRows part left right) {row old : ρ}
    (stored : old ∈ left) (sameKey : key old = key row)
    (kept : part old = true) (keeps : part row = true) :
    SameRows part (left.put row) (right.put row) := by
  unfold SameRows
  rw [filter_put_stored stored sameKey kept keeps,
    filter_put_stored ((same.mem kept).mp stored) sameKey kept keeps, same]

theorem SameRows.put_new (same : SameRows part left right) {row : ρ}
    (absent : left.find (key row) = none)
    (absentRight : right.find (key row) = none) :
    SameRows part (left.put row) (right.put row) := by
  unfold SameRows
  rw [rows_put_of_absent absent, rows_put_of_absent absentRight,
    List.filter_append, List.filter_append, same]

theorem SameRows.drop (same : SameRows part left right) (unwanted : κ) :
    SameRows part (left.drop unwanted) (right.drop unwanted) := by
  have commuted : ∀ table : Table ρ, (table.drop unwanted).rows.filter part =
      (table.rows.filter part).filter fun row => key row ≠ unwanted := by
    intro table
    change (table.rows.filter _).filter part = _
    rw [List.filter_filter, List.filter_filter]
    apply List.filter_congr
    intro row _
    exact Bool.and_comm _ _
  unfold SameRows
  rw [commuted, commuted, same]

/-- Several rows of the part are replaced. -/
theorem SameRows.puts_stored {rows : List ρ} {left right : Table ρ}
    (same : SameRows part left right)
    (stored : ∀ row ∈ rows, part row = true ∧
      ∃ old ∈ left, key old = key row ∧ part old = true) :
    SameRows part (applyAll (rows.map .put) left)
      (applyAll (rows.map .put) right) := by
  induction rows generalizing left right with
  | nil => exact same
  | cons row rows ih =>
      obtain ⟨keeps, old, oldStored, sameKey, kept⟩ :=
        stored row List.mem_cons_self
      refine ih (same.put_stored oldStored sameKey kept keeps) ?_
      intro other listed
      obtain ⟨otherKeeps, first, firstStored, firstKey, firstKept⟩ :=
        stored other (.tail _ listed)
      refine ⟨otherKeeps, ?_⟩
      by_cases hit : key first = key row
      · exact ⟨row, mem_put.mpr (.inl rfl), hit.symm.trans firstKey, keeps⟩
      · exact ⟨first, mem_put.mpr (.inr ⟨firstStored, hit⟩), firstKey,
          firstKept⟩

/-- Changes of stored rows of the part, and rows with new keys, leave the
others alone. -/
theorem sameOthers_of_changes {changes : List (Change ρ κ)} {table : Table ρ}
    (puts : ∀ row, .put row ∈ changes → part row = true)
    (targets : ∀ change ∈ changes, ∀ row ∈ table, key row = change.target →
      part row = true) :
    SameOthers part table (applyAll changes table) := by
  intro row other
  constructor
  · intro member
    rcases mem_of_mem_applyAll member with put | ⟨stored, _⟩
    · simp [puts row put] at other
    · exact stored
  · intro stored
    refine mem_of_untouched stored fun change member target => ?_
    simp [targets change member row stored target.symm] at other

end Table

end Relational
