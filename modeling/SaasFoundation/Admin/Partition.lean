import SaasFoundation.Admin.Lists

/-!
# The pages of every admin list are a partition

Each list gives its tie-breaker a column that no two of its rows share: the
primary key of its root, which a join to one row keeps unique.
-/

namespace SaasFoundation

open Relational

namespace AdminQuery

variable {ρ κ : Type} {builder : SelectBuilder ρ κ} {cluster : Cluster}
  {sorts : List (String × Expression ρ)} {defaultSort tieBreaker : Expression ρ}
  {search : Option String} {expressions : List (ρ → Option String)}

theorem sortFor_mem (name : String) :
    sortFor sorts defaultSort name = defaultSort ∨
      ∃ entry ∈ sorts, sortFor sorts defaultSort name = entry.2 := by
  unfold sortFor
  cases found : sorts.lookup name with
  | none => exact .inl rfl
  | some sort =>
      obtain ⟨before, after, rfl, _⟩ := List.lookup_eq_some_iff.mp found
      exact .inr ⟨(name, sort), by simp, rfl⟩

/-- A search changes only the conditions and parameters. -/
theorem applySearch_frame :
    ∃ conditions parameters, applySearch cluster builder expressions search =
      { builder with conditions, parameters } := by
  unfold applySearch
  cases search with
  | none => exact ⟨_, _, rfl⟩
  | some wanted =>
      dsimp only
      split
      · exact ⟨_, _, rfl⟩
      · exact ⟨_, _, rfl⟩

theorem Sortable.applySearch
    (sortable : Sortable builder sorts defaultSort tieBreaker) :
    Sortable (applySearch cluster builder expressions search) sorts
      defaultSort tieBreaker := by
  obtain ⟨conditions, parameters, searched⟩ :=
    @applySearch_frame ρ κ builder cluster search expressions
  rw [searched]
  exact ⟨sortable.roots, sortable.apart, sortable.same⟩

/-- Rows are told apart by a tie-breaker that determines the primary key. -/
theorem sortable_of_key (roots : (builder.source.map builder.primaryKey).Nodup)
    (key : ∀ left right : ρ, tieBreaker.value left = tieBreaker.value right →
      builder.primaryKey left = builder.primaryKey right)
    (default : defaultSort.sql = tieBreaker.sql →
      defaultSort.value = tieBreaker.value)
    (listed : ∀ entry ∈ sorts, entry.2.sql = tieBreaker.sql →
      entry.2.value = tieBreaker.value) :
    Sortable builder sorts defaultSort tieBreaker := by
  refine ⟨roots, ?_, ?_⟩
  · intro left leftMember right rightMember tie
    exact List.inj_on_of_nodup_map roots leftMember rightMember
      (key left right tie)
  · intro name text
    have origin : sortFor sorts defaultSort name = defaultSort ∨
        ∃ entry ∈ sorts, sortFor sorts defaultSort name = entry.2 :=
      sortFor_mem name
    rcases origin with unknown | ⟨entry, member, known⟩
    · rw [unknown] at text ⊢
      exact default text
    · rw [known] at text ⊢
      exact listed entry member text

/-- A join that finds at most one row for each root keeps the keys apart. -/
theorem nodup_filterMap {α β : Type} {rows : List α} {join : α → Option β}
    {rowKey : α → κ} {joinedKey : β → κ} (distinct : (rows.map rowKey).Nodup)
    (kept : ∀ row joined, join row = some joined →
      joinedKey joined = rowKey row) :
    ((rows.filterMap join).map joinedKey).Nodup := by
  have part : ((rows.filterMap join).map joinedKey).Sublist
      (rows.map rowKey) := by
    clear distinct
    induction rows with
    | nil => exact List.Sublist.slnil
    | cons row rows ih =>
        cases found : join row with
        | none =>
            rw [List.filterMap_cons_none found]
            exact ih.cons _
        | some joined =>
            rw [List.filterMap_cons_some found, List.map_cons, List.map_cons,
              kept row joined found]
            exact ih.cons_cons _
  exact distinct.sublist part

variable {list other : Plan → AdminQueryDto → Except Failure Page}
  {query : AdminQueryDto} {Matches Matches' : ρ → Prop} {sort : Expression ρ}
  {select : ρ → RawRow} {rows : List ρ}

theorem Partition.of_eq
    (partition : Partition cluster list query Matches sort select rows)
    (same : ∀ plan number admitted, other plan (query.turn number admitted) =
      list plan (query.turn number admitted))
    (described : ∀ row, Matches row ↔ Matches' row) :
    Partition cluster other query Matches' sort select rows := by
  refine ⟨partition.once, fun row => (partition.complete row).trans
    (described row), partition.ordered, ?_, ?_⟩
  · intro plan number admitted
    rw [same]
    exact partition.counted plan number admitted
  · intro few plans answers answered
    apply partition.whole few plans answers
    intro number admitted
    rw [← same]
    exact answered number admitted

variable [DecidableEq κ]

theorem search_partition
    (sortable : Sortable builder sorts defaultSort tieBreaker)
    (accepted : builder.checkParameters = .ok ())
    (searchable : expressions ≠ [])
    (storable : ∀ wanted, query.search = some wanted → Storable wanted) :
    ∃ rows, Partition cluster
      (fun plan query => paginateRaw cluster plan
        (applySearch cluster builder expressions query.search) query sorts
        defaultSort tieBreaker)
      query
      (fun row => row ∈ builder.matching ∧
        Found cluster (expressions.map (· row)) query.search)
      (sortFor sorts defaultSort query.orderBy) builder.select rows := by
  have searchedSortable : Sortable
      (applySearch cluster builder expressions query.search) sorts defaultSort
      tieBreaker := sortable.applySearch
  have searched : Partition cluster _ query _ _ _ _ :=
    paginateRaw_partition .stable searchedSortable
      (accepted_applySearch accepted storable)
  obtain ⟨conditions, parameters, frame⟩ :=
    @applySearch_frame ρ κ builder cluster query.search expressions
  have selects : (applySearch cluster builder expressions query.search).select =
      builder.select := by rw [frame]
  rw [selects] at searched
  exact ⟨_, searched.of_eq (fun _ _ _ => rfl) fun row =>
    mem_matching_applySearch searchable⟩

end AdminQuery

open AdminQuery

section Lists

variable (cluster : Cluster) (tables : AdminTables) (search : Option String)

/-- An account of the type that is not deleted and has the searched text in its
name, user name, email or telephone number. -/
def AccountsService.Matches (type : AccountType) (account : UserRow) : Prop :=
  account ∈ tables.db.users ∧ account.deletedAt = none ∧
    account.accountType = type ∧
    Found cluster (AccountsService.searchColumns.map (· account)) search

def AdminStore.Matches {ρ : Type} [Keyed ρ Nat]
    (resource : ResourceDefinition ρ) (row : ρ) : Prop :=
  row ∈ resource.entity tables ∧
    (resource.search ≠ [] →
      Found cluster (resource.search.map fun column => some (column row))
        search)

/-- A credit and the currency it is in. -/
def AccountCreditsService.Matches (row : AccountCreditsService.JoinedCredit) :
    Prop :=
  row.1 ∈ tables.db.credits ∧ row.2 ∈ tables.db.currencies ∧
    row.1.currencyId = row.2.id ∧ Found cluster [some row.2.name] search

/-- An activity and its operator, who may be deleted or missing. -/
def SettingsService.Matches (row : SettingsService.JoinedActivity) : Prop :=
  row.1 ∈ tables.db.activities ∧
    row.2 = row.1.operatorId.bind tables.db.users.find ∧
    Found cluster [some row.1.event, some row.1.uri] search

def SettingsService.Blocked (block : LoginBlock) : Prop :=
  block ∈ tables.loginBlocks ∧ tables.now < block.lockedUntil

end Lists

section Lists

variable {cluster : Cluster} {tables : AdminTables} {query : AdminQueryDto}

namespace AccountsService

theorem sortable (type : AccountType) :
    Sortable (accounts tables type) sortColumns accountId accountId := by
  apply sortable_of_key tables.db.users.nodup
  · exact fun _ _ tie => Datum.ofNat_injective tie
  · exact fun _ => rfl
  · simp [sortColumns, accountId]

theorem storable_type (type : AccountType) :
    Storable (typeName type) := by
  cases type <;> decide

theorem list_partition (type : AccountType)
    (storable : ∀ wanted, query.search = some wanted → Storable wanted) :
    ∃ rows, Partition cluster (list cluster tables type) query
      (Matches cluster tables query.search type)
      (sortFor sortColumns accountId query.orderBy) rawAccount rows := by
  have accepted : (accounts tables type).checkParameters = .ok () := by
    rw [checkParameters_eq_ok]
    intro text listed
    obtain rfl := List.mem_singleton.mp listed
    exact storable_type type
  obtain ⟨rows, partition⟩ := @search_partition _ _ _ cluster _ _ _
    searchColumns query _ (sortable type) accepted (by simp [searchColumns])
    storable
  refine ⟨rows, partition.of_eq (fun _ _ _ => rfl) fun account => ?_⟩
  rw [mem_matching]
  simp [accounts, Matches, Table.mem_rows, and_assoc]

end AccountsService

namespace AdminStore

variable {ρ : Type} [Keyed ρ Nat] {resource : ResourceDefinition ρ}

theorem sortable : Sortable (selection resource tables) (sorts resource)
    resourceId resourceId := by
  apply sortable_of_key (resource.entity tables).nodup
  · exact fun _ _ tie => Datum.ofNat_injective tie
  · exact fun _ => rfl
  · intro entry listed text
    obtain ⟨column, member, rfl⟩ := List.mem_map.mp listed
    have named : "resource." ++ column.name = "resource." ++ "id" := text
    have lists := congrArg String.toList named
    simp only [String.toList_append, List.append_cancel_left_eq] at lists
    exact resource.idColumn column member (String.toList_inj.mp lists)

theorem list_partition
    (storable : ∀ wanted, query.search = some wanted → Storable wanted) :
    ∃ rows, Partition cluster (list resource cluster tables) query
      (Matches cluster tables query.search resource)
      (sortFor (sorts resource) resourceId query.orderBy)
      (selection resource tables).select rows := by
  have accepted : (selection resource tables).checkParameters = .ok () := rfl
  by_cases empty : resource.search = []
  · have whole : Partition cluster _ query _ _ _ _ :=
      paginateRaw_partition .stable (@sortable tables ρ _ resource) accepted
    refine ⟨_, whole.of_eq ?_ fun row => ?_⟩
    · intro plan number admitted
      have unsearched : ∀ search, applySearch cluster (selection resource tables)
          [] search = selection resource tables := by
        intro search
        cases search <;> simp [applySearch]
      unfold list
      rw [empty, List.map_nil, unsearched]
    · rw [mem_matching]
      simp [selection, Matches, empty, Table.mem_rows]
  · obtain ⟨rows, partition⟩ := @search_partition _ _ _ cluster _ _ _
      (resource.search.map fun column row => some (column row)) query _
      sortable accepted (by simpa using empty) storable
    refine ⟨rows, partition.of_eq (fun _ _ _ => rfl) fun row => ?_⟩
    rw [mem_matching, List.map_map]
    simp [selection, Matches, empty, Table.mem_rows, Function.comp_def]

end AdminStore

namespace AccountCreditsService

theorem mem_joinCurrency {row : JoinedCredit} :
    row ∈ (credits tables).source ↔
      row.1 ∈ tables.db.credits ∧ row.2 ∈ tables.db.currencies ∧
        row.1.currencyId = row.2.id := by
  obtain ⟨credit, currency⟩ := row
  unfold credits joinCurrency
  rw [List.mem_filterMap]
  constructor
  · rintro ⟨stored, member, joined⟩
    obtain ⟨found, present, same⟩ := Option.map_eq_some_iff.mp joined
    cases same
    obtain ⟨known, named⟩ := Table.find_eq_some.mp present
    exact ⟨member, known, named.symm⟩
  · rintro ⟨member, known, named⟩
    have present : tables.db.currencies.find credit.currencyId =
        some currency := Table.find_eq_some.mpr ⟨known, named.symm⟩
    exact ⟨credit, member, by rw [present]; rfl⟩

theorem sortable : Sortable (credits tables) sortColumns creditId creditId := by
  apply sortable_of_key
  · apply nodup_filterMap tables.db.credits.nodup
    intro credit row joined
    obtain ⟨currency, _, rfl⟩ := Option.map_eq_some_iff.mp joined
    rfl
  · exact fun _ _ tie => Datum.ofNat_injective tie
  · exact fun _ => rfl
  · simp [sortColumns, creditId]

theorem list_partition
    (storable : ∀ wanted, query.search = some wanted → Storable wanted) :
    ∃ rows, Partition cluster (list cluster tables) query
      (Matches cluster tables query.search)
      (sortFor sortColumns creditId query.orderBy) rawCredit rows := by
  obtain ⟨rows, partition⟩ := @search_partition _ _ _ cluster _ _ _
    [fun row => some row.2.name] query _ (@sortable tables) rfl (by simp)
    storable
  refine ⟨rows, partition.of_eq (fun _ _ _ => rfl) fun row => ?_⟩
  rw [mem_matching, mem_joinCurrency]
  simp [credits, Matches, and_assoc]

end AccountCreditsService

namespace SettingsService

theorem mem_joinOperator {row : JoinedActivity} :
    row ∈ (joinedActivities tables).source ↔
      row.1 ∈ tables.db.activities ∧
        row.2 = row.1.operatorId.bind tables.db.users.find := by
  obtain ⟨activity, operator⟩ := row
  unfold joinedActivities joinOperator
  rw [List.mem_map]
  constructor
  · rintro ⟨stored, member, same⟩
    cases same
    exact ⟨member, rfl⟩
  · rintro ⟨member, joined⟩
    exact ⟨activity, member, Prod.ext rfl joined.symm⟩

theorem activitySortable :
    Sortable (joinedActivities tables) activitySorts activityId activityId := by
  apply sortable_of_key
  · have keys : (joinedActivities tables).source.map
        (joinedActivities tables).primaryKey =
        tables.db.activities.rows.map ActivityRow.id := List.map_map
    rw [keys]
    exact tables.db.activities.nodup
  · exact fun _ _ tie => Datum.ofNat_injective tie
  · exact fun _ => rfl
  · simp [activitySorts, activityId]

theorem activities_partition
    (storable : ∀ wanted, query.search = some wanted → Storable wanted) :
    ∃ rows, Partition cluster (activities cluster tables) query
      (Matches cluster tables query.search)
      (sortFor activitySorts activityId query.orderBy) rawActivity rows := by
  obtain ⟨rows, partition⟩ := @search_partition _ _ _ cluster _ _ _
    [fun row => some row.1.event, fun row => some row.1.uri] query _
    (@activitySortable tables) rfl (by simp) storable
  refine ⟨rows, partition.of_eq (fun _ _ _ => rfl) fun row => ?_⟩
  rw [mem_matching, mem_joinOperator]
  simp [joinedActivities, Matches, and_assoc]

/-- Blocks are sorted by expiry unless asked otherwise, and ties by key. -/
theorem blockSortable :
    Sortable (activeBlocks tables) blockSorts blockLockedUntil blockKey := by
  apply sortable_of_key tables.loginBlocks.nodup
  · exact fun _ _ tie => Datum.text.inj tie
  · simp [blockLockedUntil, blockKey]
  · simp [blockSorts, blockLockedUntil, blockKey]

theorem blocks_partition :
    ∃ rows, Partition cluster (blocks cluster tables) query (Blocked tables)
      (sortFor blockSorts blockLockedUntil query.orderBy)
      (rawBlock tables.now) rows := by
  have whole : Partition cluster _ query _ _ _ _ :=
    paginateRaw_partition .stable (@blockSortable tables) rfl
  refine ⟨_, whole.of_eq (fun _ _ _ => rfl) fun block => ?_⟩
  rw [mem_matching]
  simp [activeBlocks, Blocked, Table.mem_rows]

end SettingsService

namespace AdminLists

/-- A row shows the type it was asked for. -/
def ShowsType (type : AccountType) (row : RawRow) : Prop :=
  row.lookup "type" = some (.text (AccountsService.typeName type))

theorem mem_getRawMany {ρ κ : Type} {builder : SelectBuilder ρ κ}
    {plan : Plan} {terms : List (OrderTerm ρ)} {limit offset : Nat}
    {answered : List RawRow} {raw : RawRow}
    (answer : builder.getRawMany cluster plan terms limit offset = .ok answered)
    (listed : raw ∈ answered) :
    ∃ row ∈ builder.matching, raw = builder.select row := by
  unfold SelectBuilder.getRawMany at answer
  cases checked : builder.checkParameters with
  | error failure =>
      rw [checked] at answer
      cases answer
  | ok _ =>
      rw [checked] at answer
      cases answer
      obtain ⟨row, taken, rfl⟩ := List.mem_map.mp listed
      have arranged := List.mem_of_mem_drop (List.mem_of_mem_take taken)
      exact ⟨row, (plan.perm _ _).mem_iff.mp arranged, rfl⟩

theorem mem_paginateRaw {ρ κ : Type} [DecidableEq κ]
    {builder : SelectBuilder ρ κ} {plan : Plan}
    {sorts : List (String × Expression ρ)}
    {defaultSort tieBreaker : Expression ρ} {answer : Page} {raw : RawRow}
    (answered : paginateRaw cluster plan builder query sorts defaultSort
      tieBreaker = .ok answer) (listed : raw ∈ answer.list) :
    ∃ row ∈ builder.matching, raw = builder.select row := by
  unfold paginateRaw at answered
  cases counted : builder.getCount with
  | error failure =>
      rw [counted] at answered
      cases answered
  | ok count =>
      rw [counted] at answered
      cases read : builder.getRawMany cluster plan
          (orderTerms (sortFor sorts defaultSort query.orderBy) tieBreaker
            query.direction) query.pageSize
          ((query.page - 1) * query.pageSize) with
      | error failure =>
          simp only [bind, Except.bind, read] at answered
          cases answered
      | ok list =>
          simp only [bind, Except.bind, read, pure, Except.pure] at answered
          cases answered
          exact mem_getRawMany read listed

/-- An account list shows one type only. -/
theorem shows_type {type : AccountType} {plan : Plan} {answer : Page}
    {raw : RawRow}
    (answered : AccountsService.list cluster tables type plan query =
      .ok answer) (listed : raw ∈ answer.list) : ShowsType type raw := by
  obtain ⟨account, member, rfl⟩ := mem_paginateRaw answered listed
  obtain ⟨conditions, parameters, frame⟩ :=
    @applySearch_frame _ _ (AccountsService.accounts tables type) cluster
      query.search AccountsService.searchColumns
  rw [mem_matching_applySearch (by simp [AccountsService.searchColumns]),
    mem_matching] at member
  have ofType : account.accountType = type := by
    simpa [AccountsService.accounts] using
      member.1.2 (fun account => account.accountType = type)
        (by simp [AccountsService.accounts])
  rw [frame]
  simp [ShowsType, AccountsService.accounts, AccountsService.rawAccount,
    AccountsService.selection, ofType, List.lookup_cons]

/-- Every admin list is cut into pages without a gap or an overlap, in the
order asked for, and no account list shows an account of the other type. -/
theorem lists_partition (cluster : Cluster) (tables : AdminTables)
    (query : AdminQueryDto) :
    ((∀ wanted, query.search = some wanted → Storable wanted) →
      (∀ type, ∃ rows, Partition cluster
        (AccountsService.list cluster tables type) query
        (AccountsService.Matches cluster tables query.search type)
        (sortFor AccountsService.sortColumns AccountsService.accountId
          query.orderBy) AccountsService.rawAccount rows) ∧
      (∀ (ρ : Type) [Keyed ρ Nat] (resource : ResourceDefinition ρ),
        ∃ rows, Partition cluster (AdminStore.list resource cluster tables)
          query (AdminStore.Matches cluster tables query.search resource)
          (sortFor (AdminStore.sorts resource) AdminStore.resourceId
            query.orderBy) (AdminStore.selection resource tables).select
          rows) ∧
      (∃ rows, Partition cluster (AccountCreditsService.list cluster tables)
        query (AccountCreditsService.Matches cluster tables query.search)
        (sortFor AccountCreditsService.sortColumns
          AccountCreditsService.creditId query.orderBy)
        AccountCreditsService.rawCredit rows) ∧
      (∃ rows, Partition cluster (SettingsService.activities cluster tables)
        query (SettingsService.Matches cluster tables query.search)
        (sortFor SettingsService.activitySorts SettingsService.activityId
          query.orderBy) SettingsService.rawActivity rows)) ∧
    (∃ rows, Partition cluster (SettingsService.blocks cluster tables) query
      (SettingsService.Blocked tables)
      (sortFor SettingsService.blockSorts SettingsService.blockLockedUntil
        query.orderBy) (SettingsService.rawBlock tables.now) rows) ∧
    (∀ type plan answer,
      AccountsService.list cluster tables type plan query = .ok answer →
      ∀ raw ∈ answer.list, ShowsType type raw) := by
  refine ⟨fun storable => ⟨?_, ?_, ?_, ?_⟩, SettingsService.blocks_partition, ?_⟩
  · exact fun type => AccountsService.list_partition type storable
  · exact fun _ _ _ => AdminStore.list_partition storable
  · exact AccountCreditsService.list_partition storable
  · exact SettingsService.activities_partition storable
  · exact fun _ _ _ answered _ listed => shows_type answered listed

end AdminLists

end Lists

namespace AdminLists

namespace Sample

/-- The collation `C`: texts in the order of their characters. -/
def binary : Collation :=
  { le := fun left right => left ≤ right
    total := fun left right => by simpa using String.le_total left right
    trans := fun _ _ _ first second => by
      simp only [decide_eq_true_eq] at first second ⊢
      exact String.le_trans first second
    antisymm := fun _ _ below above => by
      simp only [decide_eq_true_eq] at below above
      exact String.le_antisymm below above }

def cluster : Cluster :=
  { collation := binary
    fold := Char.toLower
    folds := folds_toLower }

def regions : Table RegionRow :=
  ⟨[⟨1, "North"⟩, ⟨2, "South"⟩, ⟨3, "North East"⟩], by decide⟩

def tables : AdminTables :=
  { db :=
      { roles := ∅, files := ∅, users := ∅, sessions := ∅, workspaces := ∅
        members := ∅, invitations := ∅, currencies := ∅, credits := ∅
        entries := ∅, activities := ∅ }
    regions, cities := ∅, settings := ∅, loginBlocks := ∅, now := 0 }

/-- The regions with `nor` in their name, one on a page, by an unknown key. -/
def query : AdminQueryDto :=
  { pageSize := 1, orderBy := "__proto__", search := some "nor" }

/-- A search with a NUL character. -/
def nulQuery : AdminQueryDto :=
  { search := some (String.singleton (Char.ofNat 0)) }

end Sample

theorem lists_partition_regions :
    ∃ rows, Partition Sample.cluster
      (AdminStore.list CatalogResources.regions Sample.cluster Sample.tables)
      Sample.query
      (AdminStore.Matches Sample.cluster Sample.tables (some "nor")
        CatalogResources.regions)
      AdminStore.resourceId
      (AdminStore.selection CatalogResources.regions Sample.tables).select
      rows :=
  ((lists_partition Sample.cluster Sample.tables Sample.query).1
    (by
      intro wanted given
      cases given
      decide)).2.1 RegionRow CatalogResources.regions

example : AdminStore.list CatalogResources.regions Sample.cluster
    Sample.tables .stable Sample.query =
    .ok ⟨[[("id", .number 3), ("name", .text "North East")]], 2⟩ := by
  decide +kernel

/-- PostgreSQL refuses a search with a NUL character, so that no page of the
list is answered. -/
theorem nul_search_fails :
    (∀ plan, AccountsService.list Sample.cluster Sample.tables .user plan
      Sample.nulQuery = .error (.query .characterNotInRepertoire none)) ∧
    ¬∃ rows, Partition Sample.cluster
      (AccountsService.list Sample.cluster Sample.tables .user) Sample.nulQuery
      (AccountsService.Matches Sample.cluster Sample.tables
        Sample.nulQuery.search .user)
      (sortFor AccountsService.sortColumns AccountsService.accountId
        Sample.nulQuery.orderBy) AccountsService.rawAccount rows := by
  have refused : ∀ plan query, query.search = Sample.nulQuery.search →
      AccountsService.list Sample.cluster Sample.tables .user plan query =
        .error (.query .characterNotInRepertoire none) := by
    intro plan query same
    unfold AccountsService.list
    rw [same]
    rfl
  refine ⟨fun plan => refused plan _ rfl, ?_⟩
  rintro ⟨rows, partition⟩
  obtain ⟨answer, answered, _⟩ := partition.counted .stable 1 (by decide)
  have failed := (refused .stable _ rfl).symm.trans answered
  cases failed

end AdminLists

end SaasFoundation
