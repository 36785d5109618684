import SaasFoundation.Admin.AdminStore
import SaasFoundation.Transaction.System

/-!
# `admin/catalog-resources.ts` and the tables of reference data

`AdminStore` writes regions, cities and currencies for their controllers and
settings for `SettingsService`.  A row is kept as its columns by name, the way
the store handles it.  Accounts and their credits are there already.
-/

namespace SaasFoundation

open Relational Transaction

namespace Catalogs

/-- The entities of the resources. -/
inductive Catalog where
  | regions
  | cities
  | currencies
  | settings
  deriving DecidableEq, Repr

inductive Kind where
  | varchar (limit : Nat)
  | integer
  deriving DecidableEq, Repr

/-- A column besides the identifier; all of them are `NOT NULL`. -/
structure Column where
  name : String
  kind : Kind
  default : Option Cell := none
  deriving DecidableEq, Repr

/-- The columns of the tables. -/
def Catalog.schema : Catalog → List Column
  | .regions => [⟨"name", .varchar 100, none⟩]
  | .cities => [⟨"name", .varchar 100, none⟩, ⟨"region_id", .integer, none⟩]
  | .currencies => [⟨"name", .varchar 100, none⟩, ⟨"symbol", .varchar 12, none⟩]
  | .settings =>
      [⟨"property", .varchar 100, none⟩, ⟨"value", .varchar 2000, none⟩,
        ⟨"description", .varchar 500, some (.text "")⟩]

/-- The columns of the unique constraint. -/
def Catalog.uniqueColumns : Catalog → List String
  | .regions => ["name"]
  | .cities => ["name", "region_id"]
  | .currencies => ["name"]
  | .settings => ["property"]

structure CatalogRow where
  id : Nat
  cells : List (String × Cell)
  deriving DecidableEq, Repr

instance : Keyed CatalogRow Nat := ⟨CatalogRow.id⟩

@[simp] theorem CatalogRow.key_eq (row : CatalogRow) : key row = row.id := rfl

def CatalogRow.cell (row : CatalogRow) (column : String) : Option Cell :=
  row.cells.lookup column

/-- What the unique constraint compares. -/
def CatalogRow.uniqueKey (entity : Catalog) (row : CatalogRow) :
    List (Option Cell) :=
  entity.uniqueColumns.map row.cell

/-- The region a city names. -/
def CatalogRow.region (row : CatalogRow) : Option Nat :=
  match row.cell "region_id" with
  | some (.integer id) => some id
  | _ => none

/-- `credits` are the currencies of the rows of `account_credits`, `accounts`
the identifiers of `"user"`. -/
structure CatalogDb where
  tables : Catalog → Table CatalogRow
  credits : List Nat
  accounts : List Nat
  activities : Table ActivityRow

structure CatalogWrites where
  tables : Catalog → List (Change CatalogRow Nat)
  activities : List (Change ActivityRow Nat)

namespace CatalogWrites

instance : EmptyCollection CatalogWrites := ⟨⟨fun _ => [], []⟩⟩

instance : Append CatalogWrites := ⟨fun first second =>
  { tables := fun entity => first.tables entity ++ second.tables entity
    activities := first.activities ++ second.activities }⟩

/-- Changes of one table. -/
def change (entity : Catalog) (changes : List (Change CatalogRow Nat)) :
    CatalogWrites where
  tables other := if other = entity then changes else []
  activities := []

def apply (writes : CatalogWrites) (db : CatalogDb) : CatalogDb where
  tables entity := (db.tables entity).applyAll (writes.tables entity)
  credits := db.credits
  accounts := db.accounts
  activities := db.activities.applyAll writes.activities

variable (first second : CatalogWrites) (entity : Catalog)

@[simp] theorem append_tables : (first ++ second).tables entity =
    first.tables entity ++ second.tables entity := rfl
@[simp] theorem append_activities : (first ++ second).activities =
    first.activities ++ second.activities := rfl
@[simp] theorem empty_tables : (∅ : CatalogWrites).tables entity = [] := rfl
@[simp] theorem empty_activities : (∅ : CatalogWrites).activities = [] := rfl
@[simp] theorem change_activities {changes : List (Change CatalogRow Nat)} :
    (change entity changes).activities = [] := rfl

theorem ext {left right : CatalogWrites}
    (tables : ∀ entity, left.tables entity = right.tables entity)
    (activities : left.activities = right.activities) : left = right := by
  cases left
  cases right
  simp only [mk.injEq]
  exact ⟨funext tables, activities⟩

end CatalogWrites

instance : WriteSet CatalogWrites CatalogDb where
  apply := CatalogWrites.apply
  apply_empty db := by
    obtain ⟨tables, credits, accounts, activities⟩ := db
    simp [CatalogWrites.apply]
  apply_append first second db := by
    simp [CatalogWrites.apply]
  append_empty writes := by
    apply CatalogWrites.ext <;> simp
  empty_append _ := rfl

@[simp] theorem CatalogDb.apply_tables (writes : CatalogWrites)
    (db : CatalogDb) (entity : Catalog) :
    (WriteSet.apply writes db).tables entity =
      (db.tables entity).applyAll (writes.tables entity) := rfl

/-- Rows, and entries of the unique constraints. -/
inductive CatalogLock where
  | row (entity : Catalog) (id : Nat)
  | entry (entity : Catalog) (cells : List (Option Cell))
  deriving DecidableEq, Repr

/-- The sequences of the tables. -/
inductive CatalogDraw where
  | rowId (entity : Catalog)
  | activityId
  deriving DecidableEq, Repr

abbrev CatalogTx :=
  Program CatalogDb CatalogWrites CatalogLock CatalogDraw Failure

instance : Audited CatalogDb CatalogWrites CatalogDraw where
  activities := CatalogDb.activities
  isAccount db id := db.accounts.contains id
  record row := { tables := fun _ => [], activities := [.put row] }
  activityId := .activityId

/-- A statement that locks, may fail, and writes. -/
def CatalogTx.execute {α : Type}
    (locks : CatalogDb → List (CatalogLock × LockMode))
    (effect : Nat → CatalogDb → Except Failure (α × CatalogWrites)) :
    CatalogTx α :=
  .run { locks := fun _ db => locks db, run := effect }

/-- An integer on its way to the server.  The driver sends it as text, from
`10 ^ 21` on with an exponent. -/
def checkInteger (value : Nat) : Except Failure Unit :=
  if value < 2 ^ 31 then .ok ()
  else if value < 10 ^ 21 then .error (.query .numericValueOutOfRange none)
  else .error (.query .invalidTextRepresentation none)

/-- What a column keeps of a value: a text up to its limit. -/
def Column.cut (column : Column) (cell : Cell) : Cell :=
  match column.kind, cell with
  | .varchar limit, .text value => .text (.ofList (value.toList.take limit))
  | _, _ => cell

/-- A value on its way into a column.  Of a text nothing but blanks may exceed
the limit; no DTO has a value of another type than its column. -/
def Column.store (column : Column) (cell : Cell) : Except Failure Cell :=
  match column.kind, cell with
  | .varchar limit, .text value =>
      if value.toList.contains '\x00' then
        .error (.query .characterNotInRepertoire none)
      else if (value.toList.drop limit).all (· = ' ') then
        .ok (column.cut cell)
      else .error (.query .stringDataRightTruncation none)
  | .integer, .integer value => do
      checkInteger value
      .ok (column.cut cell)
  | _, _ => .error (.query .invalidTextRepresentation none)

/-- The value of a column: the change, else what is there. -/
def columnCell (changes : List (String × Cell))
    (present : Column → Except Failure (Option Cell)) (column : Column) :
    Except Failure (Option Cell) :=
  match changes.lookup column.name with
  | some cell => some <$> column.store cell
  | none => present column

/-- The values of a row, column by column. -/
def rowCells (changes : List (String × Cell))
    (present : Column → Except Failure (Option Cell)) :
    List Column → Except Failure (List (String × Cell))
  | [] => .ok []
  | column :: columns => do
      let rest ← rowCells changes present columns
      let kept ← columnCell changes present column
      .ok ((kept.map fun cell => (column.name, cell)).toList ++ rest)

/-- The values of a new row: column defaults where nothing is given. -/
def newCells (changes : List (String × Cell)) :
    List Column → Except Failure (List (String × Cell)) :=
  rowCells changes fun column =>
    match column.default with
    | none => .error (.error "null value violates not-null constraint")
    | some cell => .ok (some cell)

/-- The values of an updated row. -/
def setCells (changes : List (String × Cell)) (row : CatalogRow) :
    List Column → Except Failure (List (String × Cell)) :=
  rowCells changes fun column => .ok (row.cell column.name)

/-- The constraints of a row that is to be stored: the unique constraint and
the reference of a city. -/
def checkRow (entity : Catalog) (row : CatalogRow) (db : CatalogDb) :
    Except Failure Unit :=
  if (db.tables entity).rows.any fun other =>
      other.id ≠ row.id ∧ other.uniqueKey entity = row.uniqueKey entity then
    .error (.query .uniqueViolation none)
  else if entity = .cities ∧
      (row.region.bind (db.tables .regions).find).isNone then
    .error (.query .foreignKeyViolation none)
  else .ok ()

/-- The locks under which a row is stored. -/
def storeLocks (entity : Catalog) (row : CatalogRow) :
    List (CatalogLock × LockMode) :=
  (.entry entity (row.uniqueKey entity), .update) ::
    if entity = .cities then
      row.region.toList.map fun id => (.row .regions id, .share)
    else []

def insertEffect (entity : Catalog) (id : Nat)
    (changes : List (String × Cell)) (db : CatalogDb) :
    Except Failure (Option CatalogRow × CatalogWrites) := do
  let cells ← newCells changes entity.schema
  let row : CatalogRow := ⟨id, cells⟩
  if ((db.tables entity).find id).isSome then
    .error (.query .uniqueViolation (some .primaryKey))
  else do
    checkRow entity row db
    .ok (some row, .change entity [.put row])

/-- `INSERT INTO ... RETURNING`. -/
def insertRow (entity : Catalog) (id : Nat) (changes : List (String × Cell)) :
    CatalogTx (Option CatalogRow) :=
  .execute
    (fun _ => match newCells changes entity.schema with
      | .error _ => []
      | .ok cells => storeLocks entity ⟨id, cells⟩)
    fun _ db => insertEffect entity id changes db

def updateEffect (entity : Catalog) (id : Nat)
    (changes : List (String × Cell)) (db : CatalogDb) :
    Except Failure (Option CatalogRow × CatalogWrites) := do
  checkInteger id
  match (db.tables entity).find id with
  | none => .ok (none, ∅)
  | some old => do
      let cells ← setCells changes old entity.schema
      let row : CatalogRow := ⟨id, cells⟩
      checkRow entity row db
      .ok (some row, .change entity [.put row])

/-- `UPDATE ... SET ... WHERE id = $1 RETURNING`. -/
def updateRow (entity : Catalog) (id : Nat) (changes : List (String × Cell)) :
    CatalogTx (Option CatalogRow) :=
  .execute
    (fun db => match (db.tables entity).find id with
      | none => []
      | some old =>
          match setCells changes old entity.schema with
          | .error _ => [(.row entity id, .update)]
          | .ok cells =>
              (.row entity id, .update) :: storeLocks entity ⟨id, cells⟩)
    fun _ db => updateEffect entity id changes db

/-- Rows that refer to this one; the references are `RESTRICT`. -/
def inUse (entity : Catalog) (id : Nat) (db : CatalogDb) : Bool :=
  match entity with
  | .regions => (db.tables .cities).rows.any fun city => city.region = some id
  | .currencies => db.credits.contains id
  | .cities => false
  | .settings => false

def deleteEffect (entity : Catalog) (id : Nat) (db : CatalogDb) :
    Except Failure (Nat × CatalogWrites) := do
  checkInteger id
  if ((db.tables entity).find id).isNone then .ok (0, ∅)
  else if inUse entity id db then
    .error (.query .foreignKeyViolation none)
  else .ok (1, .change entity [.drop id])

/-- `DELETE FROM ... WHERE id = $1`; the affected count. -/
def deleteRow (entity : Catalog) (id : Nat) : CatalogTx Nat :=
  .execute
    (fun db => if ((db.tables entity).find id).isSome then
      [(.row entity id, .update)] else [])
    fun _ db => deleteEffect entity id db

/-- A resource whose rows are stored in the table of an entity. -/
def resource (entity : Catalog) (writable : List String)
    (eventPrefix : String) :
    WritableResource CatalogDb CatalogWrites CatalogLock CatalogDraw
      CatalogRow where
  writable
  eventPrefix
  insert changes := do
    let id ← Program.draw (.rowId entity)
    insertRow entity id changes
  update := updateRow entity
  delete := deleteRow entity

def regions := resource .regions ["name"] "regions"

def cities := resource .cities ["name", "region_id"] "cities"

def currencies := resource .currencies ["name", "symbol"] "currencies"

def settings := resource .settings ["value", "description"] "app_settings"

def Catalog.resource :
    Catalog → WritableResource CatalogDb CatalogWrites CatalogLock CatalogDraw
      CatalogRow
  | .regions => Catalogs.regions
  | .cities => Catalogs.cities
  | .currencies => Catalogs.currencies
  | .settings => Catalogs.settings

/-- The controllers with create, update and delete routes. -/
inductive Controller where
  | regions
  | cities
  | currencies
  deriving DecidableEq, Repr

def Controller.entity : Controller → Catalog
  | .regions => .regions
  | .cities => .cities
  | .currencies => .currencies

/-- `RegionDto`. -/
structure RegionDto where
  name : String
  deriving DecidableEq, Repr

/-- `CityDto`. -/
structure CityDto extends RegionDto where
  regionId : Nat
  deriving DecidableEq, Repr

/-- `CurrencyDto`. -/
structure CurrencyDto where
  name : String
  symbol : String
  deriving DecidableEq, Repr

/-- The bodies of the create and update routes; the validation has removed all
other properties. -/
inductive CatalogBody where
  | region (body : RegionDto)
  | city (body : CityDto)
  | currency (body : CurrencyDto)
  deriving DecidableEq, Repr

def CatalogBody.controller : CatalogBody → Controller
  | .region _ => .regions
  | .city _ => .cities
  | .currency _ => .currencies

def CatalogBody.values : CatalogBody → Values
  | .region body => [("name", some (.text body.name))]
  | .city body =>
      [("name", some (.text body.name)),
        ("region_id", some (.integer body.regionId))]
  | .currency body =>
      [("name", some (.text body.name)), ("symbol", some (.text body.symbol))]

/-- `SettingDto`. -/
structure SettingDto where
  property : String
  value : String
  description : String
  deriving DecidableEq, Repr

/-- What `SettingsService.update` passes on. -/
def SettingDto.values (body : SettingDto) : Values :=
  [("value", some (.text body.value)),
    ("description", some (.text body.description))]

/-- `SettingsService.update`. -/
def updateSetting (id : Nat) (body : SettingDto) (actor : Nat) :
    CatalogTx CatalogRow :=
  AdminStore.save settings body.values actor (some id)

/-- The write routes, with the account that sends the request. -/
inductive CatalogCall where
  | save (body : CatalogBody) (actor : Nat) (id : Option Nat)
  | remove (controller : Controller) (id actor : Nat)
  | setting (id : Nat) (body : SettingDto) (actor : Nat)
  deriving DecidableEq

inductive CatalogReply where
  | row (row : CatalogRow)
  | none
  deriving DecidableEq

def CatalogCall.program : CatalogCall → CatalogTx CatalogReply
  | .save body actor id => do
      let row ← AdminStore.save body.controller.entity.resource body.values
        actor id
      pure (.row row)
  | .remove controller id actor => do
      AdminStore.remove controller.entity.resource id actor
      pure .none
  | .setting id body actor => do
      let row ← updateSetting id body actor
      pure (.row row)

/-- The requests that `admits` lets through, any number of them at a time. -/
def system (admits : CatalogCall → Bool) :
    System CatalogDb CatalogWrites CatalogLock CatalogDraw Failure CatalogCall
      CatalogReply where
  program := CatalogCall.program
  mayStart _ call := admits call
  mayDraw _ _ := true

end Catalogs

end SaasFoundation
