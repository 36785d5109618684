import SaasFoundation.Accounts.Service
import SaasFoundation.Admin.PaginateRaw
import SaasFoundation.Platform.AuthProtectionGuard

/-!
# The admin lists

`list` of `admin/accounts.service.ts`, `admin/admin-store.service.ts` and
`accounting/account-credits.service.ts`, `activities` and `blocks` of
`settings/settings.service.ts`.  Timestamps are numbers.
-/

namespace SaasFoundation

open Relational AdminQuery

/-- `regions`. -/
structure RegionRow where
  id : Nat
  name : String
  deriving DecidableEq, Repr

/-- `cities`. -/
structure CityRow where
  id : Nat
  name : String
  regionId : Nat
  deriving DecidableEq, Repr

/-- `app_settings`. -/
structure SettingRow where
  id : Nat
  property : String
  value : String
  description : String
  deriving DecidableEq, Repr

instance : Keyed RegionRow Nat := ⟨RegionRow.id⟩
instance : Keyed CityRow Nat := ⟨CityRow.id⟩
instance : Keyed SettingRow Nat := ⟨SettingRow.id⟩

/-- The tables the lists read and the time of the statements, in milliseconds. -/
structure AdminTables where
  db : Db
  regions : Table RegionRow
  cities : Table CityRow
  settings : Table SettingRow
  loginBlocks : Table LoginBlock
  now : Int

namespace AccountsService

def AccountStatus.text : AccountStatus → String
  | .active => "active"
  | .inActive => "in_active"

/-- The projection of `selection` as a raw row. -/
def rawAccount (account : UserRow) : RawRow :=
  let response := selection account
  [("id", .ofNat response.id), ("full_name", .text response.fullName),
    ("username", .ofText response.username), ("email", .ofText response.email),
    ("phone", .ofText response.phone),
    ("type", .text (typeName response.type)),
    ("role_id", .ofId response.roleId),
    ("status", .text (AccountStatus.text response.status))]

def accountId : Expression UserRow :=
  ⟨"account.id", fun account => .ofNat account.id⟩

def sortColumns : List (String × Expression UserRow) :=
  [("id", accountId),
    ("email", ⟨"account.email", fun account => .ofText account.email⟩),
    ("username", ⟨"account.username", fun account => .ofText account.username⟩),
    ("phone", ⟨"account.phone", fun account => .ofText account.phone⟩),
    ("full_name", ⟨"concat_ws(' ', account.firstName, account.lastName)",
      fun account => .text (selection account).fullName⟩),
    ("status",
      ⟨"CASE WHEN account.statusId = 1 THEN 'active' ELSE 'in_active' END",
        fun account => .text (AccountStatus.text (selection account).status)⟩)]

def searchColumns : List (UserRow → Option String) :=
  [fun account => some (selection account).fullName, UserRow.username,
    UserRow.email, UserRow.phone]

/-- Deleted accounts are left out by the entity's delete date. -/
def accounts (tables : AdminTables) (type : AccountType) :
    SelectBuilder UserRow Nat :=
  { source := tables.db.users.rows
    primaryKey := UserRow.id
    select := rawAccount
    conditions := [fun account => account.deletedAt.isNone,
      fun account => account.accountType = type]
    parameters := [typeName type] }

def list (cluster : Cluster) (tables : AdminTables) (type : AccountType)
    (plan : Plan) (query : AdminQueryDto) : Except Failure Page :=
  paginateRaw cluster plan
    (applySearch cluster (accounts tables type) searchColumns query.search)
    query sortColumns accountId

end AccountsService

structure Column (ρ : Type) where
  name : String
  value : ρ → Datum

/-- A `ResourceDefinition` as far as lists read it; its rows have the column
`id`. -/
structure ResourceDefinition (ρ : Type) [Keyed ρ Nat] where
  entity : AdminTables → Table ρ
  columns : List (Column ρ)
  search : List (ρ → String)
  idColumn : ∀ column ∈ columns, column.name = "id" →
    column.value = fun row => .ofNat (key row)

namespace CatalogResources

def regions : ResourceDefinition RegionRow :=
  { entity := AdminTables.regions
    columns := [⟨"id", fun row => .ofNat row.id⟩, ⟨"name", (.text ·.name)⟩]
    search := [RegionRow.name]
    idColumn := by simp [key] }

def cities : ResourceDefinition CityRow :=
  { entity := AdminTables.cities
    columns := [⟨"id", fun row => .ofNat row.id⟩, ⟨"name", (.text ·.name)⟩,
      ⟨"region_id", fun row => .ofNat row.regionId⟩]
    search := [CityRow.name]
    idColumn := by simp [key] }

def currencies : ResourceDefinition CurrencyRow :=
  { entity := fun tables => tables.db.currencies
    columns := [⟨"id", fun row => .ofNat row.id⟩, ⟨"name", (.text ·.name)⟩,
      ⟨"symbol", (.text ·.symbol)⟩]
    search := [CurrencyRow.name, CurrencyRow.symbol]
    idColumn := by simp [key] }

def settings : ResourceDefinition SettingRow :=
  { entity := AdminTables.settings
    columns := [⟨"id", fun row => .ofNat row.id⟩,
      ⟨"property", (.text ·.property)⟩, ⟨"value", (.text ·.value)⟩,
      ⟨"description", (.text ·.description)⟩]
    search := [SettingRow.property, SettingRow.description]
    idColumn := by simp [key] }

def roles : ResourceDefinition RoleRow :=
  { entity := fun tables => tables.db.roles
    columns := [⟨"id", fun row => .ofNat row.id⟩, ⟨"name", (.text ·.name)⟩,
      ⟨"resources", (.text ·.resources)⟩]
    search := [RoleRow.name]
    idColumn := by simp [key] }

end CatalogResources

namespace AdminStore

variable {ρ : Type} [Keyed ρ Nat] (resource : ResourceDefinition ρ)

def selection (tables : AdminTables) : SelectBuilder ρ Nat :=
  { source := (resource.entity tables).rows
    primaryKey := key
    select := fun row =>
      resource.columns.map fun column => (column.name, column.value row) }

def sorts : List (String × Expression ρ) :=
  resource.columns.map fun column =>
    (column.name, ⟨"resource." ++ column.name, column.value⟩)

def resourceId : Expression ρ :=
  ⟨"resource.id", fun row => .ofNat (key row)⟩

def list (cluster : Cluster) (tables : AdminTables) (plan : Plan)
    (query : AdminQueryDto) : Except Failure Page :=
  paginateRaw cluster plan
    (applySearch cluster (selection resource tables)
      (resource.search.map fun column row => some (column row)) query.search)
    query (sorts resource) resourceId

end AdminStore

namespace AccountCreditsService

/-- A credit with its currency; `INNER JOIN` leaves out a credit without. -/
abbrev JoinedCredit := CreditRow × CurrencyRow

def joinCurrency (db : Db) (credit : CreditRow) : Option JoinedCredit :=
  (db.currencies.find credit.currencyId).map fun currency => (credit, currency)

def rawCredit (row : JoinedCredit) : RawRow :=
  [("id", .ofNat row.1.id), ("account_id", .ofNat row.1.accountId),
    ("currency_id", .ofNat row.1.currencyId),
    ("balance", .number row.1.balance.units),
    ("created_at", .ofNat row.1.createdAt),
    ("updated_at", .ofNat row.1.updatedAt), ("currency", .text row.2.name)]

def creditId : Expression JoinedCredit :=
  ⟨"credit.id", fun row => .ofNat row.1.id⟩

def sortColumns : List (String × Expression JoinedCredit) :=
  [("id", creditId),
    ("balance", ⟨"credit.balance", fun row => .number row.1.balance.units⟩),
    ("currency", ⟨"currency.name", fun row => .text row.2.name⟩),
    ("created_at", ⟨"credit.created_at", fun row => .ofNat row.1.createdAt⟩),
    ("updated_at", ⟨"credit.updated_at", fun row => .ofNat row.1.updatedAt⟩)]

def credits (tables : AdminTables) : SelectBuilder JoinedCredit Nat :=
  { source := tables.db.credits.rows.filterMap (joinCurrency tables.db)
    primaryKey := fun row => row.1.id
    joins := true
    select := rawCredit }

def list (cluster : Cluster) (tables : AdminTables) (plan : Plan)
    (query : AdminQueryDto) : Except Failure Page :=
  paginateRaw cluster plan
    (applySearch cluster (credits tables) [fun row => some row.2.name]
      query.search)
    query sortColumns creditId

end AccountCreditsService

namespace SettingsService

/-- An activity with its operator, who may be deleted. -/
abbrev JoinedActivity := ActivityRow × Option UserRow

def joinOperator (db : Db) (activity : ActivityRow) : JoinedActivity :=
  (activity, activity.operatorId.bind db.users.find)

/-- `COALESCE(operator.username, operator.email)`. -/
def operatorName (row : JoinedActivity) : Option String :=
  row.2.bind fun operator => operator.username.or operator.email

def rawActivity (row : JoinedActivity) : RawRow :=
  [("id", .ofNat row.1.id), ("created_at", .ofNat row.1.createdAt),
    ("event", .text row.1.event), ("operator_id", .ofId row.1.operatorId),
    ("uri", .text row.1.uri), ("username", .ofText (operatorName row))]

def activityId : Expression JoinedActivity :=
  ⟨"activity.id", fun row => .ofNat row.1.id⟩

def activitySorts : List (String × Expression JoinedActivity) :=
  [("id", activityId),
    ("created_at", ⟨"activity.created_at", fun row => .ofNat row.1.createdAt⟩),
    ("event", ⟨"activity.event", fun row => .text row.1.event⟩)]

def joinedActivities (tables : AdminTables) :
    SelectBuilder JoinedActivity Nat :=
  { source := tables.db.activities.rows.map (joinOperator tables.db)
    primaryKey := fun row => row.1.id
    joins := true
    select := rawActivity }

def activities (cluster : Cluster) (tables : AdminTables) (plan : Plan)
    (query : AdminQueryDto) : Except Failure Page :=
  paginateRaw cluster plan
    (applySearch cluster (joinedActivities tables)
      [fun row => some row.1.event, fun row => some row.1.uri] query.search)
    query activitySorts activityId

/-- `GREATEST(0, EXTRACT(EPOCH FROM locked_until - now())::integer)`: a
difference in milliseconds rounded to seconds, halves upwards. -/
def retryAfterSec (now : Int) (block : LoginBlock) : Int :=
  max 0 ((block.lockedUntil - now + 500) / 1000)

def rawBlock (now : Int) (block : LoginBlock) : RawRow :=
  [("key", .text block.key), ("attempts", .ofNat block.attempts),
    ("stage", .number 1), ("locked", .boolean true),
    ("locked_until", .number block.lockedUntil),
    ("retry_after_sec", .number (retryAfterSec now block))]

def blockLockedUntil : Expression LoginBlock :=
  ⟨"block.locked_until", fun block => .number block.lockedUntil⟩

def blockKey : Expression LoginBlock :=
  ⟨"block.key", fun block => .text block.key⟩

def blockSorts : List (String × Expression LoginBlock) :=
  [("locked_until", blockLockedUntil),
    ("attempts", ⟨"block.attempts", fun block => .ofNat block.attempts⟩),
    ("key", blockKey)]

def activeBlocks (tables : AdminTables) : SelectBuilder LoginBlock String :=
  { source := tables.loginBlocks.rows
    primaryKey := LoginBlock.key
    select := rawBlock tables.now
    conditions := [fun block => tables.now < block.lockedUntil] }

def blocks (cluster : Cluster) (tables : AdminTables) (plan : Plan)
    (query : AdminQueryDto) : Except Failure Page :=
  paginateRaw cluster plan (activeBlocks tables) query blockSorts
    blockLockedUntil blockKey

end SettingsService

end SaasFoundation
