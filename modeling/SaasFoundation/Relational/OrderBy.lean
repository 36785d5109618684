import Mathlib.Data.List.Basic
import Mathlib.Data.List.Perm.Basic
import Mathlib.Data.List.Sort
import Mathlib.Order.Basic

/-!
# `ORDER BY`, `LIMIT` and `OFFSET`

A statement may arrange rows that its `ORDER BY` does not tell apart in any
way, and in another way the next time.  Pages of one list fit together when
the terms tell all rows apart.
-/

namespace Relational

/-- A value a query returns or sorts by. -/
inductive Datum where
  | null
  | number (value : Int)
  | text (value : String)
  | boolean (value : Bool)
  deriving DecidableEq, Repr

/-- A deterministic collation: different texts have an order. -/
structure Collation where
  le : String → String → Bool
  total : ∀ left right, le left right = true ∨ le right left = true
  trans : ∀ left middle right, le left middle = true →
    le middle right = true → le left right = true
  antisymm : ∀ left right, le left right = true → le right left = true →
    left = right

namespace Datum

def ofNat (value : Nat) : Datum := .number value

def ofId (value : Option Nat) : Datum := value.elim .null ofNat

def ofText (value : Option String) : Datum := value.elim .null .text

theorem ofNat_injective {left right : Nat} (same : ofNat left = ofNat right) :
    left = right :=
  Int.ofNat.inj (Datum.number.inj same)

/-- Ascending order; `NULL` sorts as if larger than any other value. -/
def le (collation : Collation) : Datum → Datum → Bool
  | _, .null => true
  | .null, _ => false
  | .number left, .number right => left ≤ right
  | .number _, _ => true
  | _, .number _ => false
  | .text left, .text right => collation.le left right
  | .text _, .boolean _ => true
  | .boolean _, .text _ => false
  | .boolean left, .boolean right => left ≤ right

variable {collation : Collation}

theorem le_total (left right : Datum) :
    le collation left right = true ∨ le collation right left = true := by
  cases left with
  | null => cases right <;> simp [le]
  | number left =>
      cases right with
      | number right => simpa [le] using Int.le_total left right
      | null | text _ | boolean _ => simp [le]
  | text left =>
      cases right with
      | text right => exact collation.total left right
      | null | number _ | boolean _ => simp [le]
  | boolean left =>
      cases right with
      | boolean right => simpa [le] using Bool.le_total left right
      | null | number _ | text _ => simp [le]

theorem le_antisymm {left right : Datum} (below : le collation left right = true)
    (above : le collation right left = true) : left = right := by
  cases left <;> cases right <;> simp [le] at below above ⊢
  · exact Int.le_antisymm below above
  · exact collation.antisymm _ _ below above
  · rename_i left right
    revert below above
    cases left <;> cases right <;> decide

theorem le_trans {left middle right : Datum}
    (first : le collation left middle = true)
    (second : le collation middle right = true) :
    le collation left right = true := by
  cases left <;> cases middle <;> cases right <;>
    simp [le] at first second ⊢
  · exact Int.le_trans first second
  · exact collation.trans _ _ _ first second
  · rename_i left middle right
    revert first second
    cases left <;> cases middle <;> cases right <;> decide

end Datum

inductive Direction where
  | asc
  | desc
  deriving DecidableEq, Repr

variable {ρ : Type}

/-- One term of an `ORDER BY` clause. -/
structure OrderTerm (ρ : Type) where
  value : ρ → Datum
  direction : Direction

def OrderTerm.le (collation : Collation) (term : OrderTerm ρ)
    (left right : ρ) : Bool :=
  match term.direction with
  | .asc => (term.value left).le collation (term.value right)
  | .desc => (term.value right).le collation (term.value left)

/-- The first term that tells two rows apart decides. -/
def orderedBy (collation : Collation) : List (OrderTerm ρ) → ρ → ρ → Bool
  | [], _, _ => true
  | term :: terms, left, right =>
      term.le collation left right &&
        (!term.le collation right left || orderedBy collation terms left right)

section Ordered

variable {collation : Collation} {term : OrderTerm ρ}
  {terms : List (OrderTerm ρ)}

theorem OrderTerm.le_total (left right : ρ) :
    term.le collation left right = true ∨
      term.le collation right left = true := by
  unfold OrderTerm.le
  cases term.direction with
  | asc => exact Datum.le_total _ _
  | desc => exact Datum.le_total _ _

theorem OrderTerm.le_trans {left middle right : ρ}
    (first : term.le collation left middle = true)
    (second : term.le collation middle right = true) :
    term.le collation left right = true := by
  unfold OrderTerm.le at first second ⊢
  cases way : term.direction with
  | asc =>
      simp only [way] at first second ⊢
      exact Datum.le_trans first second
  | desc =>
      simp only [way] at first second ⊢
      exact Datum.le_trans second first

/-- A term that does not tell two rows apart has the same value on both. -/
theorem OrderTerm.tie {left right : ρ}
    (below : term.le collation left right = true)
    (above : term.le collation right left = true) :
    term.value left = term.value right := by
  unfold OrderTerm.le at below above
  cases way : term.direction with
  | asc =>
      simp only [way] at below above
      exact Datum.le_antisymm below above
  | desc =>
      simp only [way] at below above
      exact Datum.le_antisymm above below

theorem orderedBy_cons {left right : ρ} :
    orderedBy collation (term :: terms) left right = true ↔
      term.le collation left right = true ∧
        (term.le collation right left = true →
          orderedBy collation terms left right = true) := by
  cases above : term.le collation right left <;> simp [orderedBy, above]

theorem orderedBy_total (left right : ρ) :
    orderedBy collation terms left right = true ∨
      orderedBy collation terms right left = true := by
  induction terms with
  | nil => exact .inl rfl
  | cons term terms ih =>
      rw [orderedBy_cons, orderedBy_cons]
      by_cases below : term.le collation left right = true
      · by_cases above : term.le collation right left = true
        · rcases ih with first | second
          · exact .inl ⟨below, fun _ => first⟩
          · exact .inr ⟨above, fun _ => second⟩
        · exact .inl ⟨below, fun tie => absurd tie above⟩
      · have above := (term.le_total left right).resolve_left below
        exact .inr ⟨above, fun tie => absurd tie below⟩

theorem orderedBy_trans {left middle right : ρ}
    (first : orderedBy collation terms left middle = true)
    (second : orderedBy collation terms middle right = true) :
    orderedBy collation terms left right = true := by
  induction terms with
  | nil => rfl
  | cons term terms ih =>
      rw [orderedBy_cons] at first second ⊢
      obtain ⟨firstBelow, firstTie⟩ := first
      obtain ⟨secondBelow, secondTie⟩ := second
      refine ⟨OrderTerm.le_trans firstBelow secondBelow, fun above => ?_⟩
      have firstAbove := OrderTerm.le_trans secondBelow above
      have secondAbove := OrderTerm.le_trans above firstBelow
      exact ih (firstTie firstAbove) (secondTie secondAbove)

/-- Rows no term tells apart agree in every term. -/
theorem orderedBy_tie {left right : ρ}
    (below : orderedBy collation terms left right = true)
    (above : orderedBy collation terms right left = true)
    {term : OrderTerm ρ} (member : term ∈ terms) :
    term.value left = term.value right := by
  induction terms with
  | nil => exact absurd member List.not_mem_nil
  | cons first terms ih =>
      rw [orderedBy_cons] at below above
      rcases List.mem_cons.mp member with rfl | later
      · exact OrderTerm.tie below.1 above.1
      · exact ih (below.2 above.1) (above.2 below.1) later

end Ordered

/-- How a statement happens to arrange the rows of its result. -/
structure Plan where
  arrange : {ρ : Type} → (ρ → ρ → Bool) → List ρ → List ρ
  perm : ∀ {ρ : Type} (le : ρ → ρ → Bool) (rows : List ρ),
    (arrange le rows).Perm rows
  sorted : ∀ {ρ : Type} (le : ρ → ρ → Bool) (rows : List ρ),
    (∀ left right, le left right = true ∨ le right left = true) →
    (∀ left middle right, le left middle = true → le middle right = true →
      le left right = true) →
    (arrange le rows).Pairwise fun left right => le left right = true

/-- Rows that tie stay in the order they were read in. -/
def Plan.stable : Plan :=
  { arrange := fun le rows => rows.insertionSort fun left right => le left right
    perm := fun le rows => rows.perm_insertionSort _
    sorted := fun le rows total trans => by
      have := Std.Total.mk (r := fun left right => le left right = true) total
      have : IsTrans _ fun left right => le left right = true := ⟨trans⟩
      exact rows.pairwise_insertionSort _ }

/-- Terms that tell the rows apart leave one arrangement. -/
theorem Plan.arrange_eq {collation : Collation} {terms : List (OrderTerm ρ)}
    {rows : List ρ} (plan other : Plan)
    (apart : ∀ left ∈ rows, ∀ right ∈ rows,
      (∀ term ∈ terms, term.value left = term.value right) → left = right) :
    plan.arrange (orderedBy collation terms) rows =
      other.arrange (orderedBy collation terms) rows := by
  have perm := plan.perm (orderedBy collation terms) rows
  have otherPerm := other.perm (orderedBy collation terms) rows
  have sorted (plan : Plan) := plan.sorted (orderedBy collation terms) rows
    orderedBy_total fun _ _ _ => orderedBy_trans
  refine List.Perm.eq_of_pairwise ?_ (sorted plan) (sorted other)
    (perm.trans otherPerm.symm)
  intro left right leftMember rightMember below above
  exact apart left (perm.mem_iff.mp leftMember) right
    (otherPerm.mem_iff.mp rightMember) fun _ => orderedBy_tie below above

/-- `LIMIT size OFFSET (number - 1) * size`. -/
def page (size number : Nat) (rows : List ρ) : List ρ :=
  (rows.drop ((number - 1) * size)).take size

theorem pages_flatten (size count : Nat) (rows : List ρ) :
    ((List.range count).map fun index =>
      page size (index + 1) rows).flatten = rows.take (count * size) := by
  induction count with
  | zero => simp
  | succ count ih =>
      rw [List.range_succ, List.map_append, List.flatten_append, ih,
        Nat.succ_mul, List.take_add]
      simp [page]

/-- How many pages hold that many rows. -/
def pageCount (total size : Nat) : Nat :=
  (total + size - 1) / size

variable {total size : Nat}

theorem pageCount_le {limit : Nat} (positive : 0 < size)
    (few : total ≤ limit * size) : pageCount total size ≤ limit := by
  unfold pageCount
  have bound : total + size - 1 < (limit + 1) * size := by
    rw [Nat.succ_mul]
    omega
  exact Nat.lt_succ_iff.mp ((Nat.div_lt_iff_lt_mul positive).mpr bound)

theorem le_pageCount_mul (positive : 0 < size) :
    total ≤ pageCount total size * size := by
  unfold pageCount
  have parts := Nat.div_add_mod (total + size - 1) size
  have rest := Nat.mod_lt (total + size - 1) positive
  rw [Nat.mul_comm] at parts
  omega

/-- All pages of a list are the list. -/
theorem all_pages {β : Type} (rows : List ρ) (select : ρ → β)
    (lists : Nat → List β) (positive : 0 < size)
    (slices : ∀ index < pageCount rows.length size,
      lists index = (page size (index + 1) rows).map select) :
    ((List.range (pageCount rows.length size)).map lists).flatten =
      rows.map select := by
  have enough : rows.length ≤ pageCount rows.length size * size :=
    le_pageCount_mul positive
  calc
    ((List.range (pageCount rows.length size)).map lists).flatten =
        ((List.range (pageCount rows.length size)).map fun index =>
          (page size (index + 1) rows).map select).flatten := by
      congr 1
      apply List.map_congr_left
      intro index within
      exact slices index (List.mem_range.mp within)
    _ = ((List.range (pageCount rows.length size)).map fun index =>
          page size (index + 1) rows).flatten.map select := by
      rw [List.map_flatten, List.map_map]
      rfl
    _ = rows.map select := by
      rw [pages_flatten, List.take_of_length_le enough]

end Relational
