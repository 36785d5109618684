import Mathlib.Data.List.Nodup
import Mathlib.Data.List.Perm.Basic

/-!
# Keyed tables

A table is a list of rows whose keys are pairwise distinct, so that a primary
key cannot be violated by construction.  Row changes are applied by key: `put`
replaces the row with the same key in place or appends a new one, `drop`
removes it.
-/

namespace Relational

/-- The primary key of a row type. -/
class Keyed (ρ : Type) (κ : outParam Type) where
  key : ρ → κ

export Keyed (key)

structure Table (ρ : Type) {κ : Type} [Keyed ρ κ] where
  rows : List ρ
  nodup : (rows.map key).Nodup

/-- One pending change of a table. -/
inductive Change (ρ κ : Type) where
  | put (row : ρ)
  | drop (key : κ)
  deriving DecidableEq, Repr

variable {ρ κ : Type} [Keyed ρ κ]

/-- The key a change is about. -/
def Change.target : Change ρ κ → κ
  | .put row => key row
  | .drop unwanted => unwanted

namespace Table

instance : Membership ρ (Table ρ) := ⟨fun table row => row ∈ table.rows⟩

instance : EmptyCollection (Table ρ) := ⟨⟨[], List.nodup_nil⟩⟩

theorem mem_rows {table : Table ρ} {row : ρ} :
    row ∈ table.rows ↔ row ∈ table :=
  Iff.rfl

@[simp] theorem not_mem_empty (row : ρ) : row ∉ (∅ : Table ρ) :=
  List.not_mem_nil

instance [DecidableEq ρ] {table : Table ρ} {row : ρ} :
    Decidable (row ∈ table) :=
  inferInstanceAs (Decidable (row ∈ table.rows))

instance {table : Table ρ} {holds : ρ → Prop} [DecidablePred holds] :
    Decidable (∀ row ∈ table, holds row) :=
  inferInstanceAs (Decidable (∀ row ∈ table.rows, holds row))

instance {table : Table ρ} {holds : ρ → Prop} [DecidablePred holds] :
    Decidable (∃ row ∈ table, holds row) :=
  inferInstanceAs (Decidable (∃ row ∈ table.rows, holds row))

/-- Rows are determined by their key. -/
theorem eq_of_key {table : Table ρ} {left right : ρ} (leftMember : left ∈ table)
    (rightMember : right ∈ table) (same : key left = key right) :
    left = right :=
  List.inj_on_of_nodup_map table.nodup leftMember rightMember same

/-- Who satisfies the second condition now satisfied the first one before, or
is one of a few more. -/
theorem length_filter_le {before after : Table ρ} {was now : ρ → Bool}
    (more : List ρ)
    (origin : ∀ row ∈ after, now row = true →
      row ∈ more ∨ row ∈ before ∧ was row = true) :
    (after.rows.filter now).length ≤
      more.length + (before.rows.filter was).length := by
  have distinct : (after.rows.filter now).Nodup := after.nodup.of_map.filter _
  have covered : after.rows.filter now ⊆ more ++ before.rows.filter was := by
    intro row listed
    obtain ⟨member, holds⟩ := List.mem_filter.mp listed
    rw [List.mem_append, List.mem_filter]
    exact origin row member holds
  rw [← List.length_append]
  exact distinct.length_le_of_subset covered

variable [DecidableEq κ]

def find (table : Table ρ) (wanted : κ) : Option ρ :=
  table.rows.find? fun row => key row = wanted

theorem find_eq_some {table : Table ρ} {wanted : κ} {row : ρ} :
    table.find wanted = some row ↔ row ∈ table ∧ key row = wanted := by
  constructor
  · intro found
    exact ⟨List.mem_of_find?_eq_some found,
      by simpa using List.find?_some found⟩
  · rintro ⟨member, rfl⟩
    cases found : table.find (key row) with
    | none =>
        have missing := List.find?_eq_none.mp found row member
        simp at missing
    | some other =>
        have otherMember : other ∈ table := List.mem_of_find?_eq_some found
        have same : key other = key row := by
          simpa using List.find?_some found
        rw [eq_of_key otherMember member same]

theorem find_eq_none {table : Table ρ} {wanted : κ} :
    table.find wanted = none ↔ ∀ row ∈ table, key row ≠ wanted := by
  simp [find, List.find?_eq_none, mem_rows]

theorem find_key {table : Table ρ} {row : ρ} (member : row ∈ table) :
    table.find (key row) = some row :=
  find_eq_some.mpr ⟨member, rfl⟩

/-- Two tables with the same rows under a key answer alike. -/
theorem find_congr {left right : Table ρ} {wanted : κ}
    (same : ∀ row, key row = wanted → (row ∈ left ↔ row ∈ right)) :
    left.find wanted = right.find wanted := by
  cases found : right.find wanted with
  | none =>
      rw [find_eq_none] at found ⊢
      intro row member hit
      exact found row ((same row hit).mp member) hit
  | some row =>
      rw [find_eq_some] at found ⊢
      exact ⟨(same row found.2).mpr found.1, found.2⟩

def putRows (row : ρ) (rows : List ρ) : List ρ :=
  if key row ∈ rows.map key then
    rows.map fun old => if key old = key row then row else old
  else rows ++ [row]

private theorem map_key_replace (row : ρ) (rows : List ρ) :
    (rows.map fun old => if key old = key row then row else old).map key =
      rows.map key := by
  rw [List.map_map]
  apply List.map_congr_left
  intro old _
  by_cases same : key old = key row <;> simp [same]

def put (table : Table ρ) (row : ρ) : Table ρ where
  rows := putRows row table.rows
  nodup := by
    unfold putRows
    split
    · rw [map_key_replace]
      exact table.nodup
    · rename_i fresh
      rw [List.map_append, List.map_cons, List.map_nil]
      exact List.nodup_append.mpr ⟨table.nodup, List.nodup_singleton _, by
        intro old member new newMember same
        rw [List.mem_singleton.mp newMember] at same
        exact fresh (same ▸ member)⟩

def drop (table : Table ρ) (unwanted : κ) : Table ρ where
  rows := table.rows.filter fun row => key row ≠ unwanted
  nodup := table.nodup.sublist (List.filter_sublist.map _)

theorem mem_put {table : Table ρ} {row other : ρ} :
    other ∈ table.put row ↔
      other = row ∨ other ∈ table ∧ key other ≠ key row := by
  change other ∈ putRows row table.rows ↔ _
  unfold putRows
  split
  · rename_i present
    obtain ⟨old, oldMember, oldKey⟩ := List.mem_map.mp present
    simp only [List.mem_map]
    constructor
    · rintro ⟨candidate, member, rfl⟩
      by_cases same : key candidate = key row
      · exact .inl (if_pos same)
      · rw [if_neg same]
        exact .inr ⟨member, same⟩
    · rintro (rfl | ⟨member, different⟩)
      · exact ⟨old, oldMember, if_pos oldKey⟩
      · exact ⟨other, member, if_neg different⟩
  · rename_i fresh
    rw [List.mem_append, List.mem_singleton]
    constructor
    · rintro (member | rfl)
      · refine .inr ⟨member, fun same => fresh ?_⟩
        exact List.mem_map.mpr ⟨other, member, same⟩
      · exact .inl rfl
    · rintro (rfl | ⟨member, _⟩)
      · exact .inr rfl
      · exact .inl member

/-- Putting a row that is there already changes nothing. -/
theorem put_of_mem {table : Table ρ} {row : ρ} (member : row ∈ table) :
    table.put row = table := by
  have same : ∀ old ∈ table.rows,
      (if key old = key row then row else old) = old := by
    intro old listed
    by_cases hit : key old = key row
    · rw [if_pos hit]
      exact (eq_of_key listed member hit).symm
    · exact if_neg hit
  have rows : putRows row table.rows = table.rows := by
    unfold putRows
    rw [if_pos (List.mem_map_of_mem member)]
    exact (List.map_congr_left same).trans (List.map_id' table.rows)
  cases table
  simp only [put, rows]

/-- A row that is replaced by one that looks the same. -/
theorem map_rows_put {β : Type} {look : ρ → β} {table : Table ρ}
    {row old : ρ} (member : old ∈ table) (same : key old = key row)
    (alike : look row = look old) :
    (table.put row).rows.map look = table.rows.map look := by
  have present : key row ∈ table.rows.map key :=
    List.mem_map.mpr ⟨old, member, same⟩
  change (putRows row table.rows).map look = _
  rw [putRows, if_pos present, List.map_map]
  apply List.map_congr_left
  intro other listed
  by_cases hit : key other = key row
  · obtain rfl := eq_of_key listed member (hit.trans same.symm)
    simp [hit, alike]
  · simp [hit]

theorem mem_drop {table : Table ρ} {unwanted : κ} {row : ρ} :
    row ∈ table.drop unwanted ↔ row ∈ table ∧ key row ≠ unwanted := by
  change row ∈ table.rows.filter _ ↔ _
  simp [List.mem_filter, mem_rows]

def apply (table : Table ρ) : Change ρ κ → Table ρ
  | .put row => table.put row
  | .drop unwanted => table.drop unwanted

def applyAll (changes : List (Change ρ κ)) (table : Table ρ) : Table ρ :=
  changes.foldl apply table

@[simp] theorem applyAll_nil (table : Table ρ) :
    applyAll [] table = table :=
  rfl

@[simp] theorem applyAll_append (first second : List (Change ρ κ))
    (table : Table ρ) :
    applyAll (first ++ second) table = applyAll second (applyAll first table) :=
  List.foldl_append

theorem applyAll_cons (change : Change ρ κ) (changes : List (Change ρ κ))
    (table : Table ρ) :
    applyAll (change :: changes) table = applyAll changes (table.apply change) :=
  rfl

@[simp] theorem applyAll_put (row : ρ) (table : Table ρ) :
    applyAll [.put row] table = table.put row :=
  rfl

@[simp] theorem applyAll_drop (unwanted : κ) (table : Table ρ) :
    applyAll [.drop unwanted] table = table.drop unwanted :=
  rfl

theorem find_put {table : Table ρ} {row : ρ} {wanted : κ} :
    (table.put row).find wanted =
      if wanted = key row then some row else table.find wanted := by
  split
  · rename_i same
    exact find_eq_some.mpr ⟨mem_put.mpr (.inl rfl), same.symm⟩
  · rename_i different
    apply find_congr
    intro other hit
    rw [mem_put]
    constructor
    · rintro (rfl | ⟨member, _⟩)
      · exact absurd hit.symm different
      · exact member
    · intro member
      exact .inr ⟨member, fun same => different (hit ▸ same)⟩

/-- A row with a new key goes to the end. -/
theorem rows_put_of_absent {table : Table ρ} {row : ρ}
    (absent : table.find (key row) = none) :
    (table.put row).rows = table.rows ++ [row] := by
  have unused : key row ∉ table.rows.map key := by
    intro listed
    obtain ⟨old, member, same⟩ := List.mem_map.mp listed
    exact find_eq_none.mp absent old member same
  exact if_neg unused

theorem find_drop {table : Table ρ} {unwanted wanted : κ} :
    (table.drop unwanted).find wanted =
      if wanted = unwanted then none else table.find wanted := by
  split
  · rename_i same
    subst same
    exact find_eq_none.mpr fun row member => (mem_drop.mp member).2
  · rename_i different
    apply find_congr
    intro other hit
    rw [mem_drop]
    constructor
    · exact fun member => member.1
    · exact fun member => ⟨member, fun same => different (hit ▸ same)⟩

/-- Rows that no change names stay as they are. -/
theorem mem_applyAll_of_untouched {changes : List (Change ρ κ)}
    {table : Table ρ} {row : ρ}
    (untouched : ∀ change ∈ changes, change.target ≠ key row) :
    row ∈ applyAll changes table ↔ row ∈ table := by
  induction changes generalizing table with
  | nil => rfl
  | cons change changes ih =>
      have here : change.target ≠ key row := untouched _ List.mem_cons_self
      rw [applyAll_cons, ih fun other member => untouched _ (.tail _ member)]
      cases change with
      | put new =>
          change row ∈ table.put new ↔ _
          rw [mem_put]
          constructor
          · rintro (rfl | ⟨member, _⟩)
            · exact absurd rfl here
            · exact member
          · exact fun member => .inr ⟨member, fun same => here same.symm⟩
      | drop unwanted =>
          change row ∈ table.drop unwanted ↔ _
          rw [mem_drop]
          exact ⟨fun member => member.1,
            fun member => ⟨member, fun same => here same.symm⟩⟩

/-- A row of the new table was put, or it is an old one no change names. -/
theorem mem_of_mem_applyAll {changes : List (Change ρ κ)} {table : Table ρ}
    {row : ρ} (member : row ∈ applyAll changes table) :
    .put row ∈ changes ∨
      row ∈ table ∧ ∀ change ∈ changes, change.target ≠ key row := by
  by_cases untouched : ∀ change ∈ changes, change.target ≠ key row
  · exact .inr ⟨(mem_applyAll_of_untouched untouched).mp member, untouched⟩
  · left
    induction changes generalizing table with
    | nil => simp at untouched
    | cons change changes ih =>
        rw [applyAll_cons] at member
        by_cases later : ∀ other ∈ changes, other.target ≠ key row
        · rw [mem_applyAll_of_untouched later] at member
          have here : change.target = key row := by
            by_contra different
            exact untouched fun other otherMember => by
              rcases List.mem_cons.mp otherMember with rfl | otherMember
              · exact different
              · exact later other otherMember
          cases change with
          | put new =>
              rcases mem_put.mp member with rfl | ⟨_, different⟩
              · exact List.mem_cons_self
              · exact absurd here.symm different
          | drop unwanted =>
              exact absurd here.symm (mem_drop.mp member).2
        · exact .tail _ (ih member later)

theorem mem_of_untouched {changes : List (Change ρ κ)} {table : Table ρ}
    {row : ρ} (member : row ∈ table)
    (untouched : ∀ change ∈ changes, change.target ≠ key row) :
    row ∈ applyAll changes table :=
  (mem_applyAll_of_untouched untouched).mpr member

theorem find_applyAll_of_untouched {changes : List (Change ρ κ)}
    {table : Table ρ} {wanted : κ}
    (untouched : ∀ change ∈ changes, change.target ≠ wanted) :
    (applyAll changes table).find wanted = table.find wanted := by
  apply find_congr
  rintro row rfl
  exact mem_applyAll_of_untouched untouched

/-- Putting rows never removes a key. -/
theorem find_applyAll_isSome {changes : List (Change ρ κ)} {table : Table ρ}
    {wanted : κ} (puts : ∀ change ∈ changes, ∃ row, change = .put row)
    (present : (table.find wanted).isSome) :
    ((applyAll changes table).find wanted).isSome := by
  induction changes generalizing table with
  | nil => exact present
  | cons change changes ih =>
      obtain ⟨row, rfl⟩ := puts change List.mem_cons_self
      rw [applyAll_cons]
      apply ih fun other member => puts other (.tail _ member)
      change ((table.put row).find wanted).isSome
      rw [find_put]
      split
      · rfl
      · exact present

theorem find_eq_none_of_applyAll {changes : List (Change ρ κ)}
    {table : Table ρ} {wanted : κ}
    (puts : ∀ change ∈ changes, ∃ row, change = .put row)
    (absent : (applyAll changes table).find wanted = none) :
    table.find wanted = none := by
  by_contra found
  have still :=
    find_applyAll_isSome puts (Option.isSome_iff_ne_none.mpr found)
  rw [absent] at still
  cases still

/-- After putting rows, an old row is still there or has been replaced. -/
theorem mem_or_replaced {changes : List (Change ρ κ)} {table : Table ρ}
    {row : ρ} (puts : ∀ change ∈ changes, ∃ row, change = .put row)
    (member : row ∈ table) :
    row ∈ applyAll changes table ∨ ∃ later, .put later ∈ changes ∧
      key later = key row ∧ later ∈ applyAll changes table := by
  by_cases untouched : ∀ change ∈ changes, change.target ≠ key row
  · exact .inl (mem_of_untouched member untouched)
  · have present : (table.find (key row)).isSome := by
      rw [find_key member]
      rfl
    obtain ⟨later, found⟩ :=
      Option.isSome_iff_exists.mp (find_applyAll_isSome puts present)
    obtain ⟨laterMember, same⟩ := find_eq_some.mp found
    rcases mem_of_mem_applyAll laterMember with put | ⟨_, fresh⟩
    · exact .inr ⟨later, put, same, laterMember⟩
    · exact absurd (same ▸ fresh) untouched

theorem find_isSome {table : Table ρ} {wanted : κ} :
    (table.find wanted).isSome ↔ ∃ row ∈ table, key row = wanted := by
  rw [Option.isSome_iff_exists]
  simp only [find_eq_some]

/-- Of two rows that a filter lets through, one has another key. -/
theorem exists_other {table : Table ρ} {keep : ρ → Bool}
    (several : 1 < (table.rows.filter keep).length) (wanted : κ) :
    ∃ row ∈ table, keep row = true ∧ key row ≠ wanted := by
  have distinct : ((table.rows.filter keep).map key).Nodup :=
    table.nodup.sublist (List.filter_sublist.map _)
  have kept : ∀ row ∈ table.rows.filter keep, row ∈ table ∧ keep row = true :=
    fun row listed => List.mem_filter.mp listed
  match listed : table.rows.filter keep, several with
  | first :: second :: rest, _ =>
      rw [listed] at distinct kept
      have firstKept := kept first (by simp)
      have secondKept := kept second (by simp)
      by_cases same : key first = wanted
      · refine ⟨second, secondKept.1, secondKept.2, fun again => ?_⟩
        simp [same, again] at distinct
      · exact ⟨first, firstKept.1, firstKept.2, same⟩

/-- Putting rows with distinct keys replaces exactly the rows they name. -/
theorem mem_applyAll_puts {rows : List ρ} (distinct : (rows.map key).Nodup)
    {table : Table ρ} {row : ρ} :
    row ∈ applyAll (rows.map .put) table ↔
      row ∈ rows ∨ row ∈ table ∧ key row ∉ rows.map key := by
  induction rows generalizing table with
  | nil => simp
  | cons first rest ih =>
      obtain ⟨notLater, restDistinct⟩ := List.nodup_cons.mp distinct
      rw [List.map_cons, applyAll_cons, ih restDistinct]
      change row ∈ rest ∨ row ∈ table.put first ∧ _ ↔ _
      rw [mem_put]
      simp only [List.map_cons, List.mem_cons, not_or]
      constructor
      · rintro (later | ⟨rfl | ⟨member, notFirst⟩, notRest⟩)
        · exact .inl (.inr later)
        · exact .inl (.inl rfl)
        · exact .inr ⟨member, notFirst, notRest⟩
      · rintro ((rfl | later) | ⟨member, notFirst, notRest⟩)
        · exact .inr ⟨.inl rfl, notLater⟩
        · exact .inl later
        · exact .inr ⟨.inr ⟨member, notFirst⟩, notRest⟩

end Table

end Relational
