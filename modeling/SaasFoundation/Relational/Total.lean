import Mathlib.Algebra.BigOperators.Group.List.Basic
import Mathlib.Algebra.GroupWithZero.Nat
import SaasFoundation.Relational.Table

/-!
# Totals over a table

A measure of the rows, added up.  Replacing a row moves the total by the
difference of the two measures.
-/

namespace Relational

namespace Table

variable {ρ κ : Type} [Keyed ρ κ] {table : Table ρ}

theorem rows_nodup (table : Table ρ) : table.rows.Nodup :=
  table.nodup.of_map

def total (measure : ρ → Nat) (table : Table ρ) : Nat :=
  (table.rows.map measure).sum

@[simp] theorem total_empty (measure : ρ → Nat) :
    total measure (∅ : Table ρ) = 0 := rfl

theorem total_of_perm {measure : ρ → Nat} {row : ρ} {rest : Table ρ}
    (same : table.rows.Perm (row :: rest.rows)) :
    table.total measure = measure row + rest.total measure := by
  rw [total, (same.map measure).sum_eq, List.map_cons, List.sum_cons, total]

theorem exists_of_total_pos {measure : ρ → Nat}
    (positive : 0 < table.total measure) : ∃ row ∈ table, 0 < measure row := by
  by_contra absent
  have zero : table.total measure = 0 :=
    List.sum_eq_zero fun count member => by
      obtain ⟨row, listed, rfl⟩ := List.mem_map.mp member
      exact Nat.eq_zero_of_not_pos fun some => absent ⟨row, listed, some⟩
  omega

variable [DecidableEq κ]

theorem perm_of_find {wanted : κ} {row : ρ}
    (found : table.find wanted = some row) :
    table.rows.Perm (row :: (table.drop wanted).rows) := by
  obtain ⟨member, rfl⟩ := find_eq_some.mp found
  have fresh : row ∉ (table.drop (key row)).rows := fun listed =>
    (mem_drop.mp listed).2 rfl
  refine (List.perm_ext_iff_of_nodup table.rows_nodup
    (List.nodup_cons.mpr ⟨fresh, rows_nodup _⟩)).mpr fun other => ?_
  rw [List.mem_cons, mem_rows, mem_rows, mem_drop]
  constructor
  · intro otherMember
    by_cases same : key other = key row
    · exact .inl (eq_of_key otherMember member same)
    · exact .inr ⟨otherMember, same⟩
  · rintro (rfl | ⟨otherMember, -⟩)
    · exact member
    · exact otherMember

theorem perm_put (table : Table ρ) (row : ρ) :
    (table.put row).rows.Perm (row :: (table.drop (key row)).rows) := by
  have found : (table.put row).find (key row) = some row := by
    rw [find_put, if_pos rfl]
  refine (perm_of_find found).trans (.cons row ?_)
  refine (List.perm_ext_iff_of_nodup (rows_nodup _) (rows_nodup _)).mpr
    fun other => ?_
  rw [mem_rows, mem_rows, mem_drop, mem_drop, mem_put]
  constructor
  · rintro ⟨rfl | ⟨member, -⟩, different⟩
    · exact absurd rfl different
    · exact ⟨member, different⟩
  · rintro ⟨member, different⟩
    exact ⟨.inr ⟨member, different⟩, different⟩

theorem total_of_find {measure : ρ → Nat} {wanted : κ} {row : ρ}
    (found : table.find wanted = some row) :
    table.total measure = measure row + (table.drop wanted).total measure :=
  total_of_perm (perm_of_find found)

theorem total_drop_of_absent {measure : ρ → Nat} {wanted : κ}
    (absent : table.find wanted = none) :
    (table.drop wanted).total measure = table.total measure := by
  have kept : (table.drop wanted).rows = table.rows :=
    List.filter_eq_self.mpr fun row member =>
      decide_eq_true (find_eq_none.mp absent row member)
  rw [total, total, kept]

/-- A row takes the place of another. -/
theorem total_put_of_find {measure : ρ → Nat} {old new : ρ} {wanted : κ}
    (found : table.find wanted = some old) (same : key new = wanted) :
    (table.put new).total measure + measure old =
      table.total measure + measure new := by
  have after : (table.put new).total measure = _ :=
    total_of_perm (perm_put table new)
  have before : table.total measure = _ := total_of_find found
  rw [same] at after
  omega

/-- A new row. -/
theorem total_put_of_absent {measure : ρ → Nat} {new : ρ}
    (absent : table.find (key new) = none) :
    (table.put new).total measure = table.total measure + measure new := by
  have after : (table.put new).total measure = _ :=
    total_of_perm (perm_put table new)
  rw [total_drop_of_absent absent] at after
  omega

end Table

end Relational
