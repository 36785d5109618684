import SaasFoundation.Admin.Catalogs
import SaasFoundation.Transaction.Journal
import SaasFoundation.Transaction.Sequential
import SaasFoundation.Utils.Results

/-!
# Runs of the catalog controllers

A save stores one row of its own table, assigned from the allowed columns of a
body, and records it.  Settings cannot be renamed, added or removed.
-/

namespace SaasFoundation

open Relational Transaction

namespace Catalogs

variable {α : Type} {entity : Catalog} {values : Values} {actor id : Nat}
  {owned : List (CatalogDraw × Nat)} {writes : CatalogWrites}

open AdminStore (changes)

theorem Column.store_eq {column : Column} {cell stored : Cell}
    (ran : column.store cell = .ok stored) : stored = column.cut cell := by
  unfold Column.store at ran
  split at ran
  · split at ran
    · cases ran
    · split at ran
      · exact (Except.ok.inj ran).symm
      · cases ran
  · obtain ⟨_, _, kept⟩ := Except.bind_eq_ok_iff.mp ran
    exact (Except.ok.inj kept).symm
  · cases ran

/-- What is stored in the columns: the change, up to the limit of its column,
else what is there already. -/
def Assigns (changes : List (String × Cell)) (columns : List Column)
    (present : Column → Option Cell) (cells : List (String × Cell)) : Prop :=
  ∀ column ∈ columns, cells.lookup column.name =
    ((changes.lookup column.name).map column.cut).or (present column)

theorem Assigns.cons {changes cells : List (String × Cell)} {column : Column}
    {columns : List Column} {present : Column → Option Cell}
    {kept : Option Cell}
    (assigned : kept =
      ((changes.lookup column.name).map column.cut).or (present column))
    (absent : cells.lookup column.name = none)
    (rest : Assigns changes columns present cells)
    (apart : ∀ other ∈ columns, other.name ≠ column.name) :
    Assigns changes (column :: columns) present
      ((kept.map fun cell => (column.name, cell)).toList ++ cells) := by
  intro other listed
  rcases List.mem_cons.mp listed with rfl | later
  · rw [← assigned]
    cases kept with
    | none => exact absent
    | some cell => exact List.lookup_cons_self
  · rw [← rest other later]
    cases kept with
    | none => rfl
    | some cell =>
        simp only [Option.map_some, Option.toList_some, List.singleton_append,
          List.lookup_cons, beq_false_of_ne (apart other later)]

section Cells

variable {changes cells : List (String × Cell)}
  {present : Column → Except Failure (Option Cell)} {column : Column}
  {columns : List Column}

theorem rowCells_cons
    (ran : rowCells changes present (column :: columns) = .ok cells) :
    ∃ rest kept, rowCells changes present columns = .ok rest ∧
      cells = (kept.map fun cell => (column.name, cell)).toList ++ rest ∧
      ((∃ cell, changes.lookup column.name = some cell ∧
          kept = some (column.cut cell)) ∨
        changes.lookup column.name = none ∧ present column = .ok kept) := by
  unfold rowCells at ran
  obtain ⟨rest, others, ran⟩ := Except.bind_eq_ok_iff.mp ran
  obtain ⟨kept, here, ran⟩ := Except.bind_eq_ok_iff.mp ran
  refine ⟨rest, kept, others, (Except.ok.inj ran).symm, ?_⟩
  unfold columnCell at here
  cases given : changes.lookup column.name with
  | none =>
      rw [given] at here
      exact .inr ⟨rfl, here⟩
  | some cell =>
      rw [given] at here
      obtain ⟨stored, passed, rfl⟩ := Except.map_eq_ok_iff.mp here
      exact .inl ⟨cell, rfl, congrArg some (Column.store_eq passed)⟩

theorem lookup_rowCells_of_absent {name : String}
    (ran : rowCells changes present columns = .ok cells)
    (absent : ∀ column ∈ columns, column.name ≠ name) :
    cells.lookup name = none := by
  induction columns generalizing cells with
  | nil =>
      obtain rfl := Except.ok.inj ran
      rfl
  | cons column columns ih =>
      obtain ⟨rest, kept, others, rfl, -⟩ := rowCells_cons ran
      rw [List.forall_mem_cons] at absent
      have later := ih others absent.2
      cases kept with
      | none => exact later
      | some cell =>
          simp only [Option.map_some, Option.toList_some,
            List.singleton_append, List.lookup_cons,
            beq_false_of_ne absent.1.symm]
          exact later

theorem assigns_rowCells {found : Column → Option Cell}
    (distinct : (columns.map Column.name).Nodup)
    (reads : ∀ column kept, present column = .ok kept → kept = found column)
    (ran : rowCells changes present columns = .ok cells) :
    Assigns changes columns found cells := by
  induction columns generalizing cells with
  | nil => exact fun _ none => absurd none List.not_mem_nil
  | cons column columns ih =>
      rw [List.map_cons, List.nodup_cons] at distinct
      have apart (other : Column) (listed : other ∈ columns) :
          other.name ≠ column.name :=
        fun same => distinct.1 (List.mem_map.mpr ⟨other, listed, same⟩)
      obtain ⟨rest, kept, others, rfl, assigned⟩ := rowCells_cons ran
      refine .cons ?_ (lookup_rowCells_of_absent others apart)
        (ih distinct.2 others) apart
      rcases assigned with ⟨cell, given, rfl⟩ | ⟨nothing, there⟩
      · rw [given]
        rfl
      · rw [nothing]
        exact reads column kept there

end Cells

theorem assigns_newCells {changes cells : List (String × Cell)}
    {columns : List Column} (distinct : (columns.map Column.name).Nodup)
    (ran : newCells changes columns = .ok cells) :
    Assigns changes columns Column.default cells := by
  refine assigns_rowCells distinct (fun column kept there => ?_) ran
  cases given : column.default with
  | none => simp [given] at there
  | some cell =>
      simp only [given] at there
      exact (Except.ok.inj there).symm

theorem assigns_setCells {changes cells : List (String × Cell)}
    {row : CatalogRow} {columns : List Column}
    (distinct : (columns.map Column.name).Nodup)
    (ran : setCells changes row columns = .ok cells) :
    Assigns changes columns (fun column => row.cell column.name) cells :=
  assigns_rowCells distinct (fun _ _ there => (Except.ok.inj there).symm) ran

theorem Catalog.distinct (entity : Catalog) :
    (entity.schema.map Column.name).Nodup := by
  cases entity <;> decide

variable {given : List (String × Cell)} {db : CatalogDb}

theorem insertEffect_eq_ok {value : Option CatalogRow}
    {written : CatalogWrites}
    (ran : insertEffect entity id given db = .ok (value, written)) :
    ∃ row : CatalogRow, row.id = id ∧
      Assigns given entity.schema Column.default row.cells ∧
      value = some row ∧ written = .change entity [.put row] := by
  unfold insertEffect at ran
  obtain ⟨cells, prepared, ran⟩ := Except.bind_eq_ok_iff.mp ran
  dsimp only at ran
  split at ran
  · cases ran
  · obtain ⟨_, _, ran⟩ := Except.bind_eq_ok_iff.mp ran
    obtain ⟨rfl, rfl⟩ := Prod.mk.inj (Except.ok.inj ran)
    exact ⟨_, rfl, assigns_newCells entity.distinct prepared, rfl, rfl⟩

theorem updateEffect_eq_ok {value : Option CatalogRow}
    {written : CatalogWrites}
    (ran : updateEffect entity id given db = .ok (value, written)) :
    value = none ∧ written = ∅ ∨
      ∃ old ∈ db.tables entity, ∃ row : CatalogRow, old.id = id ∧
        row.id = id ∧
        Assigns given entity.schema (fun column => old.cell column.name)
          row.cells ∧
        value = some row ∧ written = .change entity [.put row] := by
  unfold updateEffect at ran
  obtain ⟨_, _, ran⟩ := Except.bind_eq_ok_iff.mp ran
  cases stored : (db.tables entity).find id with
  | none =>
      simp only [stored] at ran
      obtain ⟨rfl, rfl⟩ := Prod.mk.inj (Except.ok.inj ran)
      exact .inl ⟨rfl, rfl⟩
  | some old =>
      obtain ⟨member, same⟩ := Table.find_eq_some.mp stored
      simp only [stored] at ran
      obtain ⟨cells, prepared, ran⟩ := Except.bind_eq_ok_iff.mp ran
      obtain ⟨_, _, ran⟩ := Except.bind_eq_ok_iff.mp ran
      obtain ⟨rfl, rfl⟩ := Prod.mk.inj (Except.ok.inj ran)
      exact .inr ⟨old, member, _, same, rfl,
        assigns_setCells entity.distinct prepared, rfl, rfl⟩

theorem deleteEffect_eq_ok {value : Nat} {written : CatalogWrites}
    (ran : deleteEffect entity id db = .ok (value, written)) :
    value = 0 ∧ written = ∅ ∨
      value = 1 ∧ written = .change entity [.drop id] := by
  unfold deleteEffect at ran
  obtain ⟨_, _, ran⟩ := Except.bind_eq_ok_iff.mp ran
  split at ran
  · obtain ⟨rfl, rfl⟩ := Prod.mk.inj (Except.ok.inj ran)
    exact .inl ⟨rfl, rfl⟩
  · split at ran
    · cases ran
    · obtain ⟨rfl, rfl⟩ := Prod.mk.inj (Except.ok.inj ran)
      exact .inr ⟨rfl, rfl⟩

/-- The audit table; its identifiers come from a sequence. -/
def activityJournal :
    Journal CatalogDb CatalogWrites CatalogDraw ActivityRow where
  table := CatalogDb.activities
  changes := CatalogWrites.activities
  sequence := .activityId
  table_apply _ _ := rfl

/-- One row of one table is changed, and one audit row tells of it. -/
structure Recorded (entity : Catalog) (change : Change CatalogRow Nat)
    (actor : Nat) (event uri : String) (writes : CatalogWrites) : Prop where
  tables : ∀ other,
    writes.tables other = if other = entity then [change] else []
  audit : ∃ id now, writes.activities =
    [.put { id, operatorId := some actor, event, uri, createdAt := now }]

/-- What a committed save leaves: a row assigned from the allowed entries, and
from the defaults or from a row of before. -/
def SaveRecords (entity : Catalog) (values : Values) (actor : Nat)
    (writes : CatalogWrites) : Option Nat → Prop
  | none => ∃ row : CatalogRow,
      Assigns (changes entity.resource values) entity.schema Column.default
        row.cells ∧
      Recorded entity (.put row) actor
        (entity.resource.eventPrefix ++ ".created") (toString row.id) writes
  | some id => ∃ old row : CatalogRow, row.id = id ∧ old.id = id ∧
      Assigns (changes entity.resource values) entity.schema
        (fun column => old.cell column.name) row.cells ∧
      Recorded entity (.put row) actor
        (entity.resource.eventPrefix ++ ".updated") (toString id) writes

def CatalogCall.Records (writes : CatalogWrites) : CatalogCall → Prop
  | .save body actor id =>
      SaveRecords body.controller.entity body.values actor writes id
  | .remove controller id actor =>
      Recorded controller.entity (.drop id) actor
        (controller.entity.resource.eventPrefix ++ ".deleted") (toString id)
        writes
  | .setting id body actor =>
      SaveRecords .settings body.values actor writes (some id)

/-- What a commit must publish: the records asked for, audit rows under drawn
identifiers. -/
def Publishing (records : CatalogWrites → Prop)
    (owned : List (CatalogDraw × Nat)) (writes : CatalogWrites) : Prop :=
  records writes ∧ activityJournal.Appends owned writes

theorem publishes_execute
    {legal : List (CatalogDraw × Nat) → CatalogWrites → Prop}
    {post : α → List (CatalogDraw × Nat) → CatalogWrites → Prop}
    {locks : CatalogDb → List (CatalogLock × LockMode)}
    {effect : Nat → CatalogDb → Except Failure (α × CatalogWrites)}
    (step : ∀ now db value written, effect now db = .ok (value, written) →
      post value owned (writes ++ written)) :
    (CatalogTx.execute locks effect).Publishes legal post owned writes :=
  Program.publishes_run step

/-- The change of one row, then the audit row for it. -/
theorem publishes_audit
    {legal : List (CatalogDraw × Nat) → CatalogWrites → Prop}
    {post : Unit → List (CatalogDraw × Nat) → CatalogWrites → Prop}
    {change : Change CatalogRow Nat} {event uri : String}
    (pending : writes = .change entity [change])
    (step : ∀ later written, Recorded entity change actor event uri written →
      activityJournal.Appends later written → post () later written) :
    (AdminMutationService.audit actor event uri : CatalogTx Unit).Publishes
      legal post owned writes := by
  apply AdminMutationService.publishes_audit
  intro id now
  subst pending
  apply step
  · refine ⟨fun other => ?_, id, now, rfl⟩
    simp [CatalogWrites.change, Audited.record]
  · exact .row List.mem_cons_self rfl

theorem insert_eq (entity : Catalog) :
    entity.resource.insert given =
      (Program.draw (.rowId entity) >>= fun id => insertRow entity id given) := by
  cases entity <;> rfl

theorem update_eq (entity : Catalog) :
    entity.resource.update id given = updateRow entity id given := by
  cases entity <;> rfl

theorem delete_eq (entity : Catalog) :
    entity.resource.delete id = deleteRow entity id := by
  cases entity <;> rfl

/-- A row that a save has stored and not recorded yet. -/
def Stored (entity : Catalog) (given : List (String × Cell))
    (known : Option Nat) (row : CatalogRow) (_ : List (CatalogDraw × Nat))
    (writes : CatalogWrites) : Prop :=
  writes = .change entity [.put row] ∧
    match known with
    | none => Assigns given entity.schema Column.default row.cells
    | some id => row.id = id ∧ ∃ old : CatalogRow, old.id = id ∧
        Assigns given entity.schema (fun column => old.cell column.name)
          row.cells

theorem publishes_save (entity : Catalog) (known : Option Nat) :
    (AdminStore.save entity.resource values actor known).Publishes
      (Publishing fun writes => SaveRecords entity values actor writes known)
      (fun _ _ _ => True) owned ∅ := by
  apply AdminStore.publishes_save
    (Stored entity (changes entity.resource values) known)
  · rintro rfl
    rw [insert_eq, Program.publishes_bind, Program.publishes_draw]
    intro id
    apply publishes_execute
    intro now db value written ran
    obtain ⟨row, same, assigns, rfl, rfl⟩ := insertEffect_eq_ok ran
    rintro found ⟨⟩
    exact ⟨rfl, assigns⟩
  · rintro id rfl
    rw [update_eq]
    apply publishes_execute
    intro now db value written ran
    rcases updateEffect_eq_ok ran with
      ⟨rfl, _⟩ | ⟨old, _, row, sameOld, same, assigns, rfl, rfl⟩
    · exact fun found absent => absurd absent (Option.not_mem_none found)
    · rintro found ⟨⟩
      exact ⟨rfl, same, old, sameOld, assigns⟩
  · intro row later written stored
    apply publishes_audit stored.1
    intro last final recorded appends
    refine ⟨?_, appends⟩
    cases known with
    | none => exact ⟨row, stored.2, recorded⟩
    | some id =>
        obtain ⟨same, old, sameOld, assigns⟩ := stored.2
        exact ⟨old, row, same, sameOld, assigns, same ▸ recorded⟩

theorem publishes_remove :
    (AdminStore.remove entity.resource id actor).Publishes
      (Publishing (Recorded entity (.drop id) actor
        (entity.resource.eventPrefix ++ ".deleted") (toString id)))
      (fun _ _ _ => True) owned ∅ := by
  apply AdminStore.publishes_remove
    fun _ writes => writes = .change entity [.drop id]
  · rw [delete_eq]
    apply publishes_execute
    intro now db value written ran
    rcases deleteEffect_eq_ok ran with ⟨rfl, _⟩ | ⟨rfl, rfl⟩
    · exact fun some => absurd rfl some
    · exact fun _ => rfl
  · intro later written dropped
    apply publishes_audit dropped
    exact fun _ _ recorded appends => ⟨recorded, appends⟩

theorem CatalogCall.publishes (call : CatalogCall) :
    call.program.Publishes (Publishing fun writes => call.Records writes)
      (fun _ _ _ => True) owned ∅ := by
  cases call with
  | save body actor id =>
      exact (publishes_save _ id).bind fun _ _ _ _ => trivial
  | remove controller id actor =>
      exact publishes_remove.bind fun _ _ _ _ => trivial
  | setting id body actor =>
      have saves : (updateSetting id body actor).Publishes
          (Publishing fun writes =>
            (CatalogCall.setting id body actor).Records writes)
          (fun _ _ _ => True) owned ∅ :=
        publishes_save .settings (some id)
      exact saves.bind fun _ _ _ _ => trivial

/-- What identifies a setting. -/
def identity (row : CatalogRow) : Nat × Option Cell :=
  (row.id, row.cell "property")

/-- The settings there were at the start, under their names. -/
def Named (initial : List (Nat × Option Cell)) (db : CatalogDb) : Prop :=
  (db.tables .settings).rows.map identity = initial

/-- Settings are stored under their names only. -/
def KeepsNames (initial : List (Nat × Option Cell))
    (writes : CatalogWrites) : Prop :=
  ∀ change ∈ writes.tables .settings,
    ∃ row, change = .put row ∧ identity row ∈ initial

theorem named_apply {initial : List (Nat × Option Cell)}
    {changes : List (Change CatalogRow Nat)} {table : Table CatalogRow}
    (keeps : ∀ change ∈ changes,
      ∃ row, change = .put row ∧ identity row ∈ initial)
    (named : table.rows.map identity = initial) :
    (table.applyAll changes).rows.map identity = initial := by
  induction changes generalizing table with
  | nil => exact named
  | cons change changes ih =>
      rw [List.forall_mem_cons] at keeps
      obtain ⟨⟨row, rfl, known⟩, later⟩ := keeps
      rw [Table.applyAll_cons]
      rw [← named] at known
      obtain ⟨old, member, same⟩ := List.mem_map.mp known
      apply ih later
      calc (table.put row).rows.map identity
          = table.rows.map identity :=
            Table.map_rows_put member (congrArg Prod.fst same) same.symm
        _ = initial := named

theorem preserving_names (initial : List (Nat × Option Cell)) :
    Preserving (Named initial) (KeepsNames initial) where
  nothing := fun _ none => absurd none List.not_mem_nil
  append first second left right change member := by
    rcases List.mem_append.mp member with early | late
    · exact left change early
    · exact right change late
  apply writes db named keeps := named_apply keeps named

/-- The writes of a request that leaves settings alone. -/
theorem keepsNames_of_other {initial : List (Nat × Option Cell)}
    (other : writes.tables .settings = []) : KeepsNames initial writes := by
  intro change member
  rw [other] at member
  exact absurd member List.not_mem_nil

/-- A setting is stored under the name it was read with. -/
theorem keepsNames_update {initial : List (Nat × Option Cell)}
    {old row : CatalogRow} (named : Named initial db)
    (member : old ∈ db.tables .settings) (sameOld : old.id = id)
    (same : row.id = id)
    (assigns : Assigns (changes settings values) Catalog.settings.schema
      (fun column => old.cell column.name) row.cells) :
    KeepsNames initial (.change .settings [.put row]) := by
  intro change listed
  obtain rfl := List.mem_singleton.mp listed
  refine ⟨row, rfl, ?_⟩
  have unassigned : (changes settings values).lookup "property" = none :=
    AdminStore.lookup_changes_of_forbidden (by decide)
  have property : row.cell "property" = old.cell "property" := by
    have assigned := assigns ⟨"property", .varchar 100, none⟩
      List.mem_cons_self
    rw [unassigned] at assigned
    exact assigned
  have identical : identity row = identity old :=
    Prod.ext (same.trans sameOld.symm) property
  rw [identical, ← named]
  exact List.mem_map_of_mem member

/-- Every statement keeps the names of the settings. -/
abbrev Naming (initial : List (Nat × Option Cell)) (program : CatalogTx α) :
    Prop :=
  program.Only (Named initial) (KeepsNames initial)

variable {initial : List (Nat × Option Cell)}

theorem naming_execute {locks : CatalogDb → List (CatalogLock × LockMode)}
    {effect : Nat → CatalogDb → Except Failure (α × CatalogWrites)}
    (step : ∀ now db value written, Named initial db →
      effect now db = .ok (value, written) → KeepsNames initial written) :
    Naming initial (CatalogTx.execute locks effect) :=
  Program.Only.run step

theorem keepsNames_change {changes : List (Change CatalogRow Nat)}
    (other : entity ≠ .settings) :
    KeepsNames initial (.change entity changes) :=
  keepsNames_of_other (if_neg other.symm)

theorem naming_audit {event uri : String} :
    Naming initial
      (AdminMutationService.audit actor event uri : CatalogTx Unit) := by
  apply Program.Only.bind Program.Only.draw
  intro id
  apply Program.Only.run
  intro now db value written _ ran
  dsimp only at ran
  split at ran
  · cases ran
  · split at ran
    · cases ran
    · obtain ⟨_, rfl⟩ := Prod.mk.inj (Except.ok.inj ran)
      exact keepsNames_of_other rfl

theorem naming_mutate {work : CatalogTx α} (naming : Naming initial work) :
    Naming initial (AdminMutationService.mutate work) := by
  apply Program.Only.mapError
  exact Program.Only.transaction naming

theorem naming_answer {known : Option Nat} (found : Option CatalogRow) :
    Naming initial
      (AdminStore.answer entity.resource actor known found) := by
  cases found with
  | none => trivial
  | some row => exact naming_audit.bind fun _ => trivial

/-- A save whose statement keeps the names does. -/
theorem naming_save (entity : Catalog) (known : Option Nat)
    (inserts : known = none → ∀ id, Naming initial
      (insertRow entity id (changes entity.resource values)))
    (updates : ∀ id, known = some id → Naming initial
      (updateRow entity id (changes entity.resource values))) :
    Naming initial (AdminStore.save entity.resource values actor known) := by
  unfold AdminStore.save
  dsimp only
  split
  · trivial
  apply naming_mutate
  cases known with
  | none =>
      dsimp only
      rw [insert_eq]
      apply Program.Only.bind
      · exact Program.Only.draw.bind fun id => inserts rfl id
      · exact naming_answer
  | some id =>
      dsimp only
      rw [update_eq]
      exact (updates id rfl).bind naming_answer

theorem Controller.not_settings (controller : Controller) :
    controller.entity ≠ .settings := by
  cases controller <;> decide

theorem CatalogCall.naming (call : CatalogCall) :
    Naming initial call.program := by
  cases call with
  | save body actor id =>
      have other := body.controller.not_settings
      have inserts (id : Nat) : Naming initial
          (insertRow body.controller.entity id
            (changes body.controller.entity.resource body.values)) := by
        apply naming_execute
        intro now db value written _ ran
        obtain ⟨row, _, _, _, rfl⟩ := insertEffect_eq_ok ran
        exact keepsNames_change other
      have updates (id : Nat) : Naming initial
          (updateRow body.controller.entity id
            (changes body.controller.entity.resource body.values)) := by
        apply naming_execute
        intro now db value written _ ran
        rcases updateEffect_eq_ok ran with
          ⟨_, rfl⟩ | ⟨_, _, row, _, _, _, _, rfl⟩
        · exact keepsNames_of_other rfl
        · exact keepsNames_change other
      exact (naming_save _ id (fun _ => inserts) fun known _ =>
        updates known).bind fun _ => trivial
  | remove controller id actor =>
      have removes : Naming initial
          (AdminStore.remove controller.entity.resource id actor) := by
        apply naming_mutate
        rw [delete_eq]
        apply Program.Only.bind
        · apply naming_execute
          intro now db value written _ ran
          rcases deleteEffect_eq_ok ran with ⟨_, rfl⟩ | ⟨_, rfl⟩
          · exact keepsNames_of_other rfl
          · exact keepsNames_change controller.not_settings
        · intro affected
          split
          · trivial
          · exact naming_audit
      exact removes.bind fun _ => trivial
  | setting id body actor =>
      have updates (known : Nat) : Naming initial
          (updateRow .settings known (changes settings body.values)) := by
        apply naming_execute
        intro now db value written named ran
        rcases updateEffect_eq_ok ran with
          ⟨_, rfl⟩ | ⟨old, member, row, sameOld, same, assigns, _, rfl⟩
        · exact keepsNames_of_other rfl
        · exact keepsNames_update named member sameOld same assigns
      have saves : Naming initial (updateSetting id body actor) := by
        apply naming_save .settings
        · exact fun known => absurd known (by simp)
        · exact fun known _ => updates known
      exact saves.bind fun _ => trivial

/-- The driver sends the number without an exponent. -/
def Plain (value : Nat) : Prop := value < 10 ^ 21

/-- A text without a zero character that exceeds the limit of its column at
most by blanks. -/
def Fits (limit : Nat) (value : String) : Prop :=
  '\x00' ∉ value.toList ∧ ∀ char ∈ value.toList.drop limit, char = ' '

/-- The texts of the body fit their columns. -/
def CatalogBody.Fitting : CatalogBody → Prop
  | .region body => Fits 100 body.name
  | .city body => Fits 100 body.name ∧ Plain body.regionId
  | .currency body => Fits 100 body.name ∧ Fits 12 body.symbol

/-- The parameters of the request fit. -/
def CatalogCall.Fitting : CatalogCall → Prop
  | .save body _ id => body.Fitting ∧ ∀ known ∈ id, Plain known
  | .remove _ id _ => Plain id
  | .setting id body _ =>
      Plain id ∧ Fits 2000 body.value ∧ Fits 500 body.description

/-- The value of a column fits it. -/
def Column.Fits (column : Column) (cell : Cell) : Prop :=
  match column.kind, cell with
  | .varchar limit, .text value => Catalogs.Fits limit value
  | .integer, .integer value => Plain value
  | _, _ => False

/-- What `mutate` translates. -/
def Translated (failure : Failure) : Prop :=
  failure = .notFound ∨ ∃ code violated, failure = .query code violated ∧
    (code = .uniqueViolation ∨ code = .foreignKeyViolation ∨
      code = .numericValueOutOfRange)

/-- The client gets one of these statuses. -/
def Answered (failure : Failure) : Prop :=
  failure.status = 400 ∨ failure.status = 404 ∨ failure.status = 409

theorem answered_rethrow {failure : Failure} (translated : Translated failure) :
    Answered (AdminMutationService.rethrow failure) := by
  rcases translated with rfl | ⟨code, violated, rfl, rfl | rfl | rfl⟩
  · exact .inr (.inl rfl)
  · exact .inr (.inr rfl)
  · exact .inr (.inr rfl)
  · exact .inl rfl

/-- The failure of one of these codes. -/
theorem translated_query {code : SqlState} {violated : Option Constraint}
    (listed : code = .uniqueViolation ∨ code = .foreignKeyViolation ∨
      code = .numericValueOutOfRange) : Translated (.query code violated) :=
  .inr ⟨code, violated, rfl, listed⟩

theorem checkInteger_error {value : Nat} {failure : Failure}
    (plain : Plain value) (ran : checkInteger value = .error failure) :
    Translated failure := by
  unfold checkInteger at ran
  split at ran
  · cases ran
  · rw [if_pos (show value < 10 ^ 21 from plain)] at ran
    obtain rfl := Except.error.inj ran
    exact translated_query (.inr (.inr rfl))

theorem Column.Fits.store_error {column : Column} {cell : Cell}
    {failure : Failure} (fits : column.Fits cell)
    (ran : column.store cell = .error failure) : Translated failure := by
  obtain ⟨name, kind, default⟩ := column
  cases kind with
  | varchar limit =>
      cases cell with
      | text value =>
          have blanks : (value.toList.drop limit).all (· = ' ') = true := by
            simpa using fits.2
          simp [Column.store, fits.1, blanks] at ran
      | integer value => exact fits.elim
  | integer =>
      cases cell with
      | text value => exact fits.elim
      | integer value =>
          rcases Except.bind_eq_error_iff.mp ran with failed | ⟨_, _, kept⟩
          · exact checkInteger_error fits failed
          · cases kept

theorem rowCells_error {present : Column → Except Failure (Option Cell)}
    {columns : List Column} {failure : Failure}
    (complete : ∀ column ∈ columns, given.lookup column.name = none →
      ∃ kept, present column = .ok kept)
    (fits : ∀ column ∈ columns, ∀ cell,
      given.lookup column.name = some cell → column.Fits cell)
    (ran : rowCells given present columns = .error failure) :
    Translated failure := by
  induction columns with
  | nil => cases ran
  | cons column columns ih =>
      rw [List.forall_mem_cons] at complete fits
      unfold rowCells at ran
      rcases Except.bind_eq_error_iff.mp ran with others | ⟨rest, _, ran⟩
      · exact ih complete.2 fits.2 others
      rcases Except.bind_eq_error_iff.mp ran with here | ⟨_, _, kept⟩
      · unfold columnCell at here
        cases change : given.lookup column.name with
        | none =>
            obtain ⟨kept, there⟩ := complete.1 change
            simp only [change, there] at here
            cases here
        | some cell =>
            simp only [change] at here
            exact (fits.1 cell change).store_error
              (Except.map_eq_error_iff.mp here)
      · cases kept

theorem checkRow_error {row : CatalogRow} {failure : Failure}
    (ran : checkRow entity row db = .error failure) : Translated failure := by
  unfold checkRow at ran
  split at ran
  · obtain rfl := Except.error.inj ran
    exact translated_query (.inl rfl)
  · split at ran
    · obtain rfl := Except.error.inj ran
      exact translated_query (.inr (.inl rfl))
    · cases ran

theorem insertEffect_error {failure : Failure}
    (complete : ∀ column ∈ entity.schema, (given.lookup column.name).isSome)
    (fits : ∀ column ∈ entity.schema, ∀ cell,
      given.lookup column.name = some cell → column.Fits cell)
    (ran : insertEffect entity id given db = .error failure) :
    Translated failure := by
  unfold insertEffect at ran
  rcases Except.bind_eq_error_iff.mp ran with prepared | ⟨cells, _, ran⟩
  · refine rowCells_error (fun column listed absent => ?_) fits prepared
    exact absurd (complete column listed) (by simp [absent])
  dsimp only at ran
  split at ran
  · obtain rfl := Except.error.inj ran
    exact translated_query (.inl rfl)
  · rcases Except.bind_eq_error_iff.mp ran with checked | ⟨_, _, kept⟩
    · exact checkRow_error checked
    · cases kept

theorem updateEffect_error {failure : Failure} (plain : Plain id)
    (fits : ∀ column ∈ entity.schema, ∀ cell,
      given.lookup column.name = some cell → column.Fits cell)
    (ran : updateEffect entity id given db = .error failure) :
    Translated failure := by
  unfold updateEffect at ran
  rcases Except.bind_eq_error_iff.mp ran with failed | ⟨_, _, ran⟩
  · exact checkInteger_error plain failed
  cases stored : (db.tables entity).find id with
  | none => simp [stored] at ran
  | some old =>
      simp only [stored] at ran
      rcases Except.bind_eq_error_iff.mp ran with prepared | ⟨cells, _, ran⟩
      · exact rowCells_error (fun _ _ _ => ⟨_, rfl⟩) fits prepared
      · rcases Except.bind_eq_error_iff.mp ran with checked | ⟨_, _, kept⟩
        · exact checkRow_error checked
        · cases kept

theorem deleteEffect_error {failure : Failure} (plain : Plain id)
    (ran : deleteEffect entity id db = .error failure) :
    Translated failure := by
  unfold deleteEffect at ran
  rcases Except.bind_eq_error_iff.mp ran with failed | ⟨_, _, ran⟩
  · exact checkInteger_error plain failed
  split at ran
  · cases ran
  · split at ran
    · obtain rfl := Except.error.inj ran
      exact translated_query (.inr (.inl rfl))
    · cases ran

theorem failsWith_audit {event uri : String} :
    (AdminMutationService.audit actor event uri : CatalogTx Unit).FailsWith
      Translated := by
  intro id
  apply Program.FailsWith.run
  intro now db failure ran
  dsimp only at ran
  split at ran
  · obtain rfl := Except.error.inj ran
    exact translated_query (.inl rfl)
  · split at ran
    · obtain rfl := Except.error.inj ran
      exact translated_query (.inr (.inl rfl))
    · cases ran

theorem failsWith_mutate {work : CatalogTx α}
    (fails : work.FailsWith Translated) :
    (AdminMutationService.mutate work).FailsWith Answered :=
  fails.transaction.mapError fun _ => answered_rethrow

theorem failsWith_answer {known : Option Nat} (found : Option CatalogRow) :
    (AdminStore.answer entity.resource actor known found).FailsWith
      Translated := by
  cases found with
  | none => exact .inl rfl
  | some row => exact failsWith_audit.bind fun _ => trivial

/-- A save of values that fit, complete when a row is created. -/
theorem failsWith_save (entity : Catalog) {known : Option Nat}
    (complete : known = none → ∀ column ∈ entity.schema,
      ((changes entity.resource values).lookup column.name).isSome)
    (fits : ∀ column ∈ entity.schema, ∀ cell,
      (changes entity.resource values).lookup column.name = some cell →
        column.Fits cell)
    (plain : ∀ id ∈ known, Plain id) :
    (AdminStore.save entity.resource values actor known).FailsWith
      Answered := by
  unfold AdminStore.save
  dsimp only
  split
  · exact .inl rfl
  apply failsWith_mutate
  cases known with
  | none =>
      have draws : (Program.draw (.rowId entity) : CatalogTx Nat).FailsWith
          Translated :=
        fun _ => trivial
      dsimp only
      rw [insert_eq]
      apply Program.FailsWith.bind
      · apply draws.bind
        intro id
        apply Program.FailsWith.run
        intro now db failure ran
        exact insertEffect_error (complete rfl) fits ran
      · exact failsWith_answer
  | some id =>
      dsimp only
      rw [update_eq]
      apply Program.FailsWith.bind
      · apply Program.FailsWith.run
        intro now db failure ran
        exact updateEffect_error (plain id rfl) fits ran
      · exact failsWith_answer

theorem failsWith_remove (plain : Plain id) :
    (AdminStore.remove entity.resource id actor).FailsWith Answered := by
  apply failsWith_mutate
  rw [delete_eq]
  apply Program.FailsWith.bind
  · apply Program.FailsWith.run
    intro now db failure ran
    exact deleteEffect_error plain ran
  · intro affected
    split
    · exact .inl rfl
    · exact failsWith_audit

/-- Every column of its table is assigned from a body that fits. -/
theorem CatalogBody.assigned {body : CatalogBody} (fitting : body.Fitting) :
    ∀ column ∈ body.controller.entity.schema, ∃ cell,
      (changes body.controller.entity.resource body.values).lookup
          column.name = some cell ∧ column.Fits cell := by
  intro column listed
  cases body with
  | region body =>
      obtain rfl := List.mem_singleton.mp listed
      exact ⟨_, rfl, fitting⟩
  | city body =>
      obtain rfl | later := List.mem_cons.mp listed
      · exact ⟨_, rfl, fitting.1⟩
      · obtain rfl := List.mem_singleton.mp later
        exact ⟨_, rfl, fitting.2⟩
  | currency body =>
      obtain rfl | later := List.mem_cons.mp listed
      · exact ⟨_, rfl, fitting.1⟩
      · obtain rfl := List.mem_singleton.mp later
        exact ⟨_, rfl, fitting.2⟩

theorem CatalogCall.failsWith {call : CatalogCall} (fitting : call.Fitting) :
    call.program.FailsWith Answered := by
  cases call with
  | save body actor id =>
      have assigned := CatalogBody.assigned fitting.1
      apply Program.FailsWith.bind
      · apply failsWith_save
        · intro _ column listed
          obtain ⟨cell, given, _⟩ := assigned column listed
          rw [given]
          rfl
        · intro column listed cell given
          obtain ⟨other, same, fits⟩ := assigned column listed
          obtain rfl := Option.some.inj (same.symm.trans given)
          exact fits
        · exact fitting.2
      · exact fun _ => trivial
  | remove controller id actor =>
      exact (failsWith_remove fitting).bind fun _ => trivial
  | setting id body actor =>
      obtain ⟨plain, value, description⟩ := fitting
      have fits : ∀ column ∈ Catalog.settings.schema, ∀ cell,
          (changes settings body.values).lookup column.name = some cell →
            column.Fits cell := by
        intro column listed cell given
        simp only [Catalog.schema, List.mem_cons, List.not_mem_nil, or_false]
          at listed
        rcases listed with rfl | rfl | rfl
        · cases given
        · obtain rfl := Option.some.inj given
          exact value
        · obtain rfl := Option.some.inj given
          exact description
      have saves : (updateSetting id body actor).FailsWith Answered := by
        apply failsWith_save .settings
        · exact fun absent => absurd absent (by simp)
        · exact fits
        · rintro known ⟨⟩
          exact plain
      exact saves.bind fun _ => trivial

theorem CatalogCall.atomic (call : CatalogCall) : call.program.Atomic := by
  have save (entity : Catalog) (values : Values) (actor : Nat)
      (id : Option Nat) :
      (AdminStore.save entity.resource values actor id).Atomic := by
    apply AdminStore.atomic_save
    · rw [insert_eq]
      exact (Program.Inside.draw _).bind fun _ => .run _
    · intro known
      rw [update_eq]
      exact .run _
  cases call with
  | save body actor id => exact (save _ _ actor id).map _
  | remove controller id actor =>
      apply Program.Atomic.map
      apply AdminStore.atomic_remove
      rw [delete_eq]
      exact .run _
  | setting id body actor => exact (save .settings _ actor (some id)).map _

abbrev CatalogWorld :=
  World CatalogDb CatalogWrites CatalogDraw CatalogCall
abbrev CatalogConfig :=
  Config CatalogDb CatalogWrites CatalogLock CatalogDraw Failure CatalogCall
    CatalogReply

/-- The audit rows of a commit. -/
def auditRows (commit : Commit CatalogDb CatalogWrites CatalogCall) :
    List ActivityRow :=
  storedRows commit.writes.activities

/-- In every reachable state the settings are those of the start under their
names, and the audit table is that of the start followed by the rows of the
committed requests.  Each of these changed what it records, once; a request
that answered is one of them, one that failed is not, and for a body that fits
its failure is translated. -/
theorem catalogs_of_reachable {admits : CatalogCall → Bool}
    {world : CatalogWorld} {config : CatalogConfig}
    (unlogged : world.commits = [])
    (drawn : ∀ row ∈ world.db.activities,
      (CatalogDraw.activityId, row.id) ∈ world.drawn)
    (reachable : (system admits).Reachable (.idle world) config) :
    (config.world.db.tables .settings).rows.map identity =
        (world.db.tables .settings).rows.map identity ∧
      config.world.db.activities.rows = world.db.activities.rows ++
        config.world.commits.reverse.flatMap auditRows ∧
      (∀ commit ∈ config.world.commits,
        commit.request.Records commit.writes) ∧
      (config.world.commits.Pairwise fun later earlier =>
        earlier.tid ≠ later.tid) ∧
      ∀ thread ∈ config.threads,
        (∀ failure, thread.program = .fail failure →
          (thread.context.request.Fitting → Answered failure) ∧
            ∀ commit ∈ config.world.commits,
              commit.tid ≠ thread.context.tid) ∧
        ∀ reply, thread.program = .done reply →
          ∃ commit ∈ config.world.commits,
            commit.tid = thread.context.tid ∧
              commit.request = thread.context.request := by
  have kept : activityJournal.Kept (fun call writes => call.Records writes)
      world.db.activities.rows config.world := by
    apply Journal.kept_of_reachable ?_ unlogged drawn reachable
    exact fun _ call _ => call.publishes
  have atomic (call : CatalogCall) (_ : True) : call.program.Atomic :=
    call.atomic
  have fails (db : CatalogDb) (call : CatalogCall)
      (_ : (system admits).mayStart db call = true) :
      call.program.FailsWith fun failure => call.Fitting → Answered failure := by
    by_cases fitting : call.Fitting
    · have answered := CatalogCall.failsWith fitting
      simpa [fitting] using answered
    · have anything := Program.failsWith_any call.program
      simpa [fitting] using anything
  refine ⟨?_, kept.rows, kept.legal, ?_, ?_⟩
  · apply reachable.preserved (preserving_names _) ?_ rfl
    exact fun _ call _ => call.naming
  · exact (reachable.once unlogged atomic).imp fun apart => apart trivial
  · intro thread member
    have one := reachable.atomic unlogged atomic member trivial
    refine ⟨fun failure failed => ⟨?_, one.1 failure failed⟩, one.2⟩
    exact reachable.failed fails thread member failure failed

namespace Sample

def setting : CatalogRow :=
  ⟨1, [("property", .text "company_name"), ("value", .text "Enterprise"),
    ("description", .text "Public company display name")]⟩

/-- One setting, and the administrator. -/
def world : CatalogWorld where
  db :=
    { tables := fun entity =>
        if entity = .settings then (∅ : Table CatalogRow).put setting else ∅
      credits := [], accounts := [1], activities := ∅ }
  clock := 5
  commits := []
  drawn := []
  nextTid := 0

/-- A setting is sent under another name, then a new region. -/
def schedule : List (Choice CatalogCall) :=
  .arrive (.setting 1 ⟨"renamed", "Foundation", "Display name"⟩ 1) ::
    List.replicate 6 (.advance 0 7) ++
  .arrive (.save (.region ⟨"North"⟩) 1 none) ::
    List.replicate 6 (.advance 0 8)

def config : CatalogConfig :=
  (system fun _ => true).after schedule (.idle world)

end Sample

/-- The setting keeps its name. -/
theorem catalogs_of_reachable_renamed :
    (Sample.config.world.db.tables .settings).rows.map identity =
        [(1, some (.text "company_name"))] ∧
      (Sample.config.world.db.tables .regions).rows =
        [⟨8, [("name", .text "North")]⟩] ∧
      Sample.config.world.db.activities.rows.map
          (fun row => (row.event, row.uri)) =
        [("app_settings.updated", "1"), ("regions.created", "8")] := by
  have kept := catalogs_of_reachable rfl
    (fun _ member => absurd member (Table.not_mem_empty _))
    (System.reachable_after (system fun _ => true) Sample.schedule
      (.idle Sample.world))
  exact ⟨kept.1, by decide +kernel, by decide +kernel⟩

end Catalogs

end SaasFoundation
