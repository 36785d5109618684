import Mathlib.Data.List.Dedup
import SaasFoundation.Admin.AdminQuery
import SaasFoundation.Database.Schema
import SaasFoundation.Relational.OrderBy

/-!
# Pages of the admin lists

`applySearch` and `paginateRaw` of `admin/admin-query.ts`.  A builder holds the
rows of its `FROM` clause, joins included, and the conditions of its `WHERE`
clause.  Both statements of a page fail when a parameter has a NUL character,
which PostgreSQL takes in no text.
-/

namespace SaasFoundation

open Relational

/-- `AdminQueryDto`; `order_by` and `search` are any texts. -/
structure AdminQueryDto where
  page : Nat := 1
  pageSize : Nat := 25
  orderBy : String := "id"
  direction : Direction := .desc
  search : Option String := none
  pageMin : 1 ≤ page := by decide
  pageMax : page ≤ 10000 := by decide
  pageSizeMin : 1 ≤ pageSize := by decide
  pageSizeMax : pageSize ≤ 100 := by decide

/-- The query for another page of the same list. -/
def AdminQueryDto.turn (query : AdminQueryDto) (number : Nat)
    (admitted : 1 ≤ number ∧ number ≤ 10000) : AdminQueryDto :=
  { query with page := number, pageMin := admitted.1, pageMax := admitted.2 }

/-- An SQL expression over the rows of a builder. -/
structure Expression (ρ : Type) where
  sql : String
  value : ρ → Datum

/-- A row of `getRawMany`: values under the aliases of the projection. -/
abbrev RawRow := List (String × Datum)

/-- `Page<T>['data']`. -/
structure Page where
  list : List RawRow
  count : Nat
  deriving DecidableEq, Repr

/-- The settings of the database cluster that lists depend on. -/
structure Cluster where
  collation : Collation
  /-- Lower-casing of `ILIKE`. -/
  fold : Char → Char
  folds : AdminQuery.Folds fold

/-- A `SelectQueryBuilder`. -/
structure SelectBuilder (ρ κ : Type) where
  source : List ρ
  primaryKey : ρ → κ
  joins : Bool := false
  select : ρ → RawRow
  conditions : List (ρ → Bool) := []
  parameters : List String := []

namespace SelectBuilder

variable {ρ κ : Type} (builder : SelectBuilder ρ κ)

def andWhere (condition : ρ → Bool) (parameters : List String := []) :
    SelectBuilder ρ κ :=
  { builder with
    conditions := builder.conditions ++ [condition]
    parameters := builder.parameters ++ parameters }

/-- The rows every condition is true of. -/
def matching : List ρ :=
  builder.source.filter fun row => builder.conditions.all (· row)

/-- A NUL character in a parameter: `22021`. -/
def checkParameters : Except Failure Unit :=
  if builder.parameters.any (·.toList.contains (Char.ofNat 0)) then
    .error (.query .characterNotInRepertoire none)
  else .ok ()

/-- `COUNT(1)`, or `COUNT(DISTINCT primary key)` over joins. -/
def getCount [DecidableEq κ] : Except Failure Nat := do
  builder.checkParameters
  if builder.joins then
    pure (builder.matching.map builder.primaryKey).dedup.length
  else pure builder.matching.length

def getRawMany (cluster : Cluster) (plan : Plan) (terms : List (OrderTerm ρ))
    (limit offset : Nat) : Except Failure (List RawRow) := do
  builder.checkParameters
  let rows := plan.arrange (orderedBy cluster.collation terms) builder.matching
  pure (((rows.drop offset).take limit).map builder.select)

end SelectBuilder

namespace AdminQuery

variable {ρ κ : Type}

/-- `ILIKE` on a nullable expression; `NULL` is not true. -/
def ilikeNullable (fold : Char → Char) (text : Option String)
    (pattern : String) : Bool :=
  text.any fun text => ilike fold text pattern

/-- `if (!search || !expressions.length) return`, else one bracket of
alternatives. -/
def applySearch (cluster : Cluster) (builder : SelectBuilder ρ κ)
    (expressions : List (ρ → Option String)) (search : Option String) :
    SelectBuilder ρ κ :=
  match search with
  | none => builder
  | some search =>
      if search = "" ∨ expressions = [] then builder
      else
        builder.andWhere
          (fun row => expressions.any fun expression =>
            ilikeNullable cluster.fold (expression row)
              (containsPattern search))
          [containsPattern search]

/-- `Object.hasOwn(sorts, name) ? sorts[name] : defaultSort`. -/
def sortFor (sorts : List (String × Expression ρ))
    (defaultSort : Expression ρ) (name : String) : Expression ρ :=
  (sorts.lookup name).getD defaultSort

def orderTerms (sort tieBreaker : Expression ρ) (direction : Direction) :
    List (OrderTerm ρ) :=
  ⟨sort.value, direction⟩ ::
    if sort.sql ≠ tieBreaker.sql then [⟨tieBreaker.value, .asc⟩] else []

def paginateRaw [DecidableEq κ] (cluster : Cluster) (plan : Plan)
    (builder : SelectBuilder ρ κ) (query : AdminQueryDto)
    (sorts : List (String × Expression ρ))
    (defaultSort : Expression ρ)
    (tieBreaker : Expression ρ := defaultSort) : Except Failure Page := do
  let count ← builder.getCount
  let sort := sortFor sorts defaultSort query.orderBy
  let list ← builder.getRawMany cluster plan
    (orderTerms sort tieBreaker query.direction)
    query.pageSize ((query.page - 1) * query.pageSize)
  pure { list, count }

/-- A search that is given and not empty occurs in one of the texts, up to
letter case. -/
def Found (cluster : Cluster) (texts : List (Option String))
    (search : Option String) : Prop :=
  ∀ wanted, search = some wanted → wanted ≠ "" →
    ∃ text, some text ∈ texts ∧ Contains cluster.fold text wanted

theorem ilikeNullable_iff {cluster : Cluster} {text : Option String}
    {wanted : String} :
    ilikeNullable cluster.fold text (containsPattern wanted) = true ↔
      ∃ value, text = some value ∧ Contains cluster.fold value wanted := by
  cases text with
  | none => simp [ilikeNullable]
  | some value =>
      have literal := ilike_containsPattern cluster.fold wanted value
        cluster.folds
      simpa [ilikeNullable] using literal

section Search

variable {cluster : Cluster} {builder : SelectBuilder ρ κ}
  {search : Option String}

theorem mem_matching {row : ρ} :
    row ∈ builder.matching ↔
      row ∈ builder.source ∧
        ∀ condition ∈ builder.conditions, condition row = true := by
  unfold SelectBuilder.matching
  rw [List.mem_filter, List.all_eq_true]

theorem mem_matching_andWhere {condition : ρ → Bool}
    {parameters : List String} {row : ρ} :
    row ∈ (builder.andWhere condition parameters).matching ↔
      row ∈ builder.matching ∧ condition row = true := by
  rw [mem_matching, mem_matching, and_assoc]
  apply and_congr_right
  intro _
  simp [SelectBuilder.andWhere, or_imp, forall_and]

/-- A search narrows the other conditions. -/
theorem mem_matching_applySearch {expressions : List (ρ → Option String)}
    (searchable : expressions ≠ []) {row : ρ} :
    row ∈ (applySearch cluster builder expressions search).matching ↔
      row ∈ builder.matching ∧
        Found cluster (expressions.map (· row)) search := by
  cases search with
  | none => simp [applySearch, Found]
  | some wanted =>
      by_cases empty : wanted = ""
      · simp [applySearch, Found, empty]
      · have anywhere : (expressions.any fun expression =>
            ilikeNullable cluster.fold (expression row)
              (containsPattern wanted)) = true ↔
            Found cluster (expressions.map (· row)) (some wanted) := by
          rw [List.any_eq_true]
          constructor
          · intro found other given _
            obtain ⟨expression, listed, hit⟩ := found
            obtain ⟨text, value, contains⟩ := ilikeNullable_iff.mp hit
            cases given
            exact ⟨text, List.mem_map.mpr ⟨expression, listed, value⟩, contains⟩
          · intro found
            obtain ⟨text, listed, contains⟩ := found wanted rfl empty
            obtain ⟨expression, member, value⟩ := List.mem_map.mp listed
            exact ⟨expression, member,
              ilikeNullable_iff.mpr ⟨text, value, contains⟩⟩
        have searched : ¬(wanted = "" ∨ expressions = []) :=
          not_or.mpr ⟨empty, searchable⟩
        unfold applySearch
        dsimp only
        rw [if_neg searched, mem_matching_andWhere, anywhere]

/-- A text PostgreSQL can store. -/
def Storable (text : String) : Prop :=
  Char.ofNat 0 ∉ text.toList

instance (text : String) : Decidable (Storable text) :=
  inferInstanceAs (Decidable (_ ∉ _))

theorem mem_escape {char : Char} (plain : Like.isSpecial char = false)
    {text : List Char} : char ∈ Like.escape text ↔ char ∈ text := by
  induction text with
  | nil => rfl
  | cons first text ih =>
      have other : char ≠ '\\' := by
        rintro rfl
        exact absurd plain (by decide)
      unfold Like.escape
      split <;> simp [ih, other]

theorem storable_containsPattern {text : String} :
    Storable (containsPattern text) ↔ Storable text := by
  have nul : Like.isSpecial (Char.ofNat 0) = false := by decide
  have percent : Char.ofNat 0 ≠ '%' := by decide
  simp [Storable, containsPattern, mem_escape nul, percent]

theorem checkParameters_eq_ok :
    builder.checkParameters = .ok () ↔
      ∀ text ∈ builder.parameters, Storable text := by
  unfold SelectBuilder.checkParameters Storable
  by_cases refused : builder.parameters.any
      (·.toList.contains (Char.ofNat 0)) = true
  · rw [if_pos refused]
    simpa using refused
  · rw [if_neg refused]
    simpa using refused

theorem accepted_applySearch {expressions : List (ρ → Option String)}
    (accepted : builder.checkParameters = .ok ())
    (storable : ∀ wanted, search = some wanted → Storable wanted) :
    (applySearch cluster builder expressions search).checkParameters =
      .ok () := by
  unfold applySearch
  cases search with
  | none => exact accepted
  | some wanted =>
      dsimp only
      split
      · exact accepted
      · rw [checkParameters_eq_ok] at accepted ⊢
        intro text listed
        rcases List.mem_append.mp listed with before | added
        · exact accepted text before
        · obtain rfl := List.mem_singleton.mp added
          exact storable_containsPattern.mpr (storable wanted rfl)

end Search

/-- The sort keys of a list: its tie-breaker tells the rows apart, and an
expression with the text of the tie-breaker is the tie-breaker. -/
structure Sortable (builder : SelectBuilder ρ κ)
    (sorts : List (String × Expression ρ))
    (defaultSort tieBreaker : Expression ρ) : Prop where
  roots : (builder.source.map builder.primaryKey).Nodup
  apart : ∀ left ∈ builder.source, ∀ right ∈ builder.source,
    tieBreaker.value left = tieBreaker.value right → left = right
  same : ∀ name, (sortFor sorts defaultSort name).sql = tieBreaker.sql →
    (sortFor sorts defaultSort name).value = tieBreaker.value

section Pages

variable [DecidableEq κ] {cluster : Cluster} {builder : SelectBuilder ρ κ}
  {query : AdminQueryDto} {sorts : List (String × Expression ρ)}
  {defaultSort tieBreaker : Expression ρ}

omit [DecidableEq κ] in
theorem matching_subset {row : ρ} (listed : row ∈ builder.matching) :
    row ∈ builder.source :=
  (List.mem_filter.mp listed).1

/-- The joins of a builder add no rows, so that rows are counted once. -/
theorem getCount_eq (roots : (builder.source.map builder.primaryKey).Nodup)
    (accepted : builder.checkParameters = .ok ()) :
    builder.getCount = .ok builder.matching.length := by
  have distinct : (builder.matching.map builder.primaryKey).Nodup :=
    roots.sublist (List.filter_sublist.map _)
  unfold SelectBuilder.getCount
  rw [accepted]
  cases builder.joins with
  | true =>
      have counted : (builder.matching.map builder.primaryKey).dedup.length =
          builder.matching.length := by
        rw [List.dedup_eq_self.mpr distinct, List.length_map]
      exact congrArg Except.ok counted
  | false => rfl

omit [DecidableEq κ] in
/-- Rows that agree in every term of the order agree in the tie-breaker. -/
theorem Sortable.tie
    (sortable : Sortable builder sorts defaultSort tieBreaker) {left right : ρ}
    {name : String} {direction : Direction}
    (ties : ∀ term ∈ orderTerms (sortFor sorts defaultSort name) tieBreaker
      direction, term.value left = term.value right) :
    tieBreaker.value left = tieBreaker.value right := by
  by_cases alone : (sortFor sorts defaultSort name).sql = tieBreaker.sql
  · rw [← sortable.same name alone]
    exact ties _ List.mem_cons_self
  · have listed : (⟨tieBreaker.value, .asc⟩ : OrderTerm ρ) ∈
        orderTerms (sortFor sorts defaultSort name) tieBreaker direction := by
      unfold orderTerms
      rw [if_pos alone]
      exact .tail _ List.mem_cons_self
    exact ties _ listed

/-- The order a query asks for. -/
def requested (cluster : Cluster) (sort : Expression ρ)
    (direction : Direction) (left right : ρ) : Prop :=
  (OrderTerm.mk sort.value direction).le cluster.collation left right = true

/-- The rows of a list in the order of a query, as some statement puts them. -/
def arrangement (cluster : Cluster) (plan : Plan) (builder : SelectBuilder ρ κ)
    (sorts : List (String × Expression ρ)) (defaultSort tieBreaker : Expression ρ)
    (query : AdminQueryDto) : List ρ :=
  plan.arrange
    (orderedBy cluster.collation
      (orderTerms (sortFor sorts defaultSort query.orderBy) tieBreaker
        query.direction))
    builder.matching

/-- Every page is a slice of one arrangement, however its own statement
arranges ties. -/
theorem paginateRaw_eq
    (sortable : Sortable builder sorts defaultSort tieBreaker)
    (accepted : builder.checkParameters = .ok ()) (plan other : Plan) :
    paginateRaw cluster plan builder query sorts defaultSort tieBreaker =
      .ok
        { list := (page query.pageSize query.page (arrangement cluster other
            builder sorts defaultSort tieBreaker query)).map builder.select
          count := builder.matching.length } := by
  have unique : arrangement cluster plan builder sorts defaultSort tieBreaker
      query = arrangement cluster other builder sorts defaultSort tieBreaker
        query := by
    apply Plan.arrange_eq
    intro left leftMember right rightMember ties
    exact sortable.apart left (matching_subset leftMember) right
      (matching_subset rightMember) (sortable.tie ties)
  rw [← unique]
  unfold paginateRaw SelectBuilder.getRawMany
  rw [getCount_eq sortable.roots accepted, accepted]
  rfl

/-- What the pages of a list are made of: `rows` are the rows that match, each
once and in the requested order, every page counts them, and all pages together
show them. -/
structure Partition (cluster : Cluster)
    (list : Plan → AdminQueryDto → Except Failure Page) (query : AdminQueryDto)
    (Matches : ρ → Prop) (sort : Expression ρ) (select : ρ → RawRow)
    (rows : List ρ) : Prop where
  once : rows.Nodup
  complete : ∀ row, row ∈ rows ↔ Matches row
  ordered : rows.Pairwise (requested cluster sort query.direction)
  counted : ∀ plan number admitted, ∃ answer,
    list plan (query.turn number admitted) = .ok answer ∧
      answer.count = rows.length
  whole : rows.length ≤ 10000 * query.pageSize →
    ∀ (plans : Nat → Plan) (answers : Nat → Page),
    (∀ number admitted, list (plans number) (query.turn number admitted) =
      .ok (answers number)) →
    ((List.range (pageCount rows.length query.pageSize)).map fun index =>
      (answers (index + 1)).list).flatten = rows.map select

theorem paginateRaw_partition (plan : Plan)
    (sortable : Sortable builder sorts defaultSort tieBreaker)
    (accepted : builder.checkParameters = .ok ()) :
    Partition cluster
      (fun plan query =>
        paginateRaw cluster plan builder query sorts defaultSort tieBreaker)
      query (fun row => row ∈ builder.matching)
      (sortFor sorts defaultSort query.orderBy) builder.select
      (arrangement cluster plan builder sorts defaultSort tieBreaker query) := by
  have perm : (arrangement cluster plan builder sorts defaultSort tieBreaker
      query).Perm builder.matching := plan.perm _ _
  have positive : 0 < query.pageSize := query.pageSizeMin
  refine ⟨?_, fun row => perm.mem_iff, ?_, ?_, ?_⟩
  · have distinct := sortable.roots.of_map.filter fun row =>
      builder.conditions.all (· row)
    exact perm.nodup_iff.mpr distinct
  · have sorted := plan.sorted
      (orderedBy cluster.collation (orderTerms
        (sortFor sorts defaultSort query.orderBy) tieBreaker query.direction))
      builder.matching orderedBy_total fun _ _ _ => orderedBy_trans
    exact sorted.imp fun below => (orderedBy_cons.mp below).1
  · intro other number admitted
    exact ⟨_, paginateRaw_eq sortable accepted other plan, perm.length_eq.symm⟩
  · intro few plans answers answered
    have last := pageCount_le positive few
    apply all_pages _ _ _ positive
    intro index within
    have admitted : 1 ≤ index + 1 ∧ index + 1 ≤ 10000 := by omega
    have answer := (paginateRaw_eq sortable accepted (plans (index + 1))
      plan).symm.trans (answered (index + 1) admitted)
    exact congrArg Page.list (Except.ok.inj answer).symm

end Pages

end AdminQuery

end SaasFoundation
