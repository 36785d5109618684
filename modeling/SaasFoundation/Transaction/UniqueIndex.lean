import SaasFoundation.Relational.Table
import SaasFoundation.Transaction.Triple

/-!
# Unique indexes kept by locks

A table has rows under keys drawn from a sequence and a unique index over some
of their values.  A statement that stores a row holds the lock of the row, or
has drawn its key, and holds the lock of the index entry unless the row had the
entry before.  Then no two rows ever share an entry, although the check of the
index and the commit are separate steps.  `Valid` is a condition on states that
every write of the requests preserves by itself.
-/

namespace Transaction

open Relational

/-- A table with a unique index, in the state of a store. -/
structure Index (σ ω ℓ δ ϑ χ : Type) [WriteSet ω σ] [Keyed ϑ Nat] where
  table : σ → Table ϑ
  changes : ω → List (Change ϑ Nat)
  entry : ϑ → Option χ
  rowLock : Nat → ℓ
  entryLock : χ → ℓ
  sequence : δ
  Valid : σ → Prop
  Allowed : ω → Prop
  table_apply : ∀ writes state,
    table (WriteSet.apply writes state) =
      (table state).applyAll (changes writes)
  changes_empty : changes ∅ = []
  changes_append : ∀ first second,
    changes (first ++ second) = changes first ++ changes second
  valid_apply : ∀ writes state, Valid state → Allowed writes →
    Valid (WriteSet.apply writes state)
  allowed_empty : Allowed ∅
  allowed_append : ∀ first second, Allowed first → Allowed second →
    Allowed (first ++ second)

namespace Index

variable {σ ω ℓ δ ε ρ τ ϑ χ : Type} [WriteSet ω σ] [Keyed ϑ Nat]

section

variable (index : Index σ ω ℓ δ ϑ χ)

/-- No two rows share an entry. -/
def Unique (table : Table ϑ) : Prop :=
  ∀ left ∈ table, ∀ right ∈ table, ∀ entry,
    index.entry left = some entry → index.entry right = some entry →
    left = right

structure Sound (state : σ) : Prop where
  unique : index.Unique (index.table state)
  valid : index.Valid state

/-- What the holder of a lock or of a drawn key relies on. -/
def Keeps (hold : Hold ℓ δ) (before after : Table ϑ) : Prop :=
  match hold with
  | .lock resource .update =>
      (∀ row ∈ before, resource = index.rowLock (key row) → row ∈ after) ∧
        ∀ entry, resource = index.entryLock entry → ∀ row ∈ after,
          index.entry row = some entry →
          ∃ old ∈ before, key old = key row ∧ index.entry old = some entry
  | .value source drawn => source = index.sequence →
      (∀ row ∈ before, key row ≠ drawn) → ∀ row ∈ after, key row ≠ drawn
  | _ => True

/-- The lock of the row's entry is held. -/
def Claims (context : Context ω ℓ δ ρ) (row : ϑ) : Prop :=
  ∀ entry, index.entry row = some entry →
    (index.entryLock entry, LockMode.update) ∈ context.locks

/-- A pending row and what entitles the request to store it. -/
inductive Entitled (context : Context ω ℓ δ ρ) (table : Table ϑ) :
    Change ϑ Nat → Prop where
  | update (row old : ϑ) (stored : old ∈ table) (same : key row = key old)
      (locked : (index.rowLock (key old), LockMode.update) ∈ context.locks)
      (claims : index.entry row = index.entry old ∨ index.Claims context row) :
      Entitled context table (.put row)
  | insert (row : ϑ) (absent : ∀ old ∈ table, key old ≠ key row)
      (owned : (index.sequence, key row) ∈ context.owned)
      (claims : index.Claims context row) : Entitled context table (.put row)

/-- The committed state is sound, and would be if the request committed now. -/
structure Ready (context : Context ω ℓ δ ρ) (world : World σ ω δ ρ) : Prop where
  sound : index.Sound world.db
  unique : index.Unique (index.table (world.view context))
  entitled : ∀ change ∈ index.changes context.writes,
    index.Entitled context (index.table world.db) change
  allowed : index.Allowed context.writes

theorem Keeps.trans {index : Index σ ω ℓ δ ϑ χ} {hold : Hold ℓ δ}
    {first second third : Table ϑ} (left : index.Keeps hold first second)
    (right : index.Keeps hold second third) :
    index.Keeps hold first third := by
  cases hold with
  | always => trivial
  | value source drawn =>
      exact fun same fresh => right same (left same fresh)
  | lock resource mode =>
      cases mode with
      | share => trivial
      | update =>
          refine ⟨fun row member same =>
            right.1 row (left.1 row member same) same, ?_⟩
          intro entry same row member has
          obtain ⟨middle, middleMember, middleKey, middleHas⟩ :=
            right.2 entry same row member has
          obtain ⟨old, oldMember, oldKey, oldHas⟩ :=
            left.2 entry same middle middleMember middleHas
          exact ⟨old, oldMember, oldKey.trans middleKey, oldHas⟩

theorem Keeps.refl (hold : Hold ℓ δ) (table : Table ϑ) :
    index.Keeps hold table table := by
  cases hold with
  | always => trivial
  | value source drawn => exact fun _ fresh => fresh
  | lock resource mode =>
      cases mode with
      | share => trivial
      | update =>
          exact ⟨fun _ member _ => member,
            fun _ _ row member has => ⟨row, member, rfl, has⟩⟩

/-- The discipline of the index; nothing is said of answers. -/
def discipline : Discipline σ ω ℓ δ ε ρ τ where
  Inv world := index.Sound world.db
  Keeps hold before after :=
    index.Keeps hold (index.table before.db) (index.table after.db)
  Returns _ _ _ := True
  Fails _ _ _ := True
  keeps_trans := Keeps.trans
  inv_silent silent sound := silent.db ▸ sound
  keeps_silent silent _ := by
    rw [silent.db]
    exact Keeps.refl index _ _
  returns_stable _ _ _ _ := trivial
  fails_stable _ _ _ _ := trivial

end

variable {index : Index σ ω ℓ δ ϑ χ} {context : Context ω ℓ δ ρ}
  {world now : World σ ω δ ρ}

/-- More locks and more drawn keys entitle to no less. -/
theorem Entitled.grows {later : Context ω ℓ δ ρ} {table : Table ϑ}
    {change : Change ϑ Nat} (entitled : index.Entitled context table change)
    (grows : context.Grows later) : index.Entitled later table change := by
  have claims {row : ϑ} (claims : index.Claims context row) :
      index.Claims later row :=
    fun entry has => grows.locks _ (claims entry has)
  cases entitled with
  | update row old stored same locked entry =>
      exact .update row old stored same (grows.locks _ locked)
        (entry.imp id claims)
  | insert row absent owned entry =>
      exact .insert row absent (grows.owned _ owned) (claims entry)

theorem table_view : index.table (world.view context) =
    (index.table world.db).applyAll (index.changes context.writes) :=
  index.table_apply _ _

theorem Entitled.stable
    (rely : (index.discipline : Discipline σ ω ℓ δ ε ρ τ).Rely context world
      now) {change : Change ϑ Nat}
    (entitled : index.Entitled context (index.table world.db) change) :
    index.Entitled context (index.table now.db) change := by
  cases entitled with
  | update row old stored same locked claims =>
      have kept := rely.lock locked
      exact .update row old (kept.1 old stored rfl) same locked claims
  | insert row absent owned claims =>
      have kept := rely.value owned
      exact .insert row (kept rfl absent) owned claims

/-- A pending row stands in the view, whatever is committed below it. -/
theorem mem_applyAll_pending {changes : List (Change ϑ Nat)}
    {first second : Table ϑ} {row : ϑ} (touched : ∃ change ∈ changes,
      change.target = key row) (member : row ∈ Table.applyAll changes first) :
    row ∈ Table.applyAll changes second := by
  induction changes generalizing first second with
  | nil => simp at touched
  | cons change changes ih =>
      rw [Table.applyAll_cons] at member ⊢
      by_cases later : ∃ other ∈ changes, other.target = key row
      · exact ih later member
      · push Not at later
        rw [Table.mem_applyAll_of_untouched later] at member ⊢
        have here : change.target = key row := by
          obtain ⟨other, listed, target⟩ := touched
          rcases List.mem_cons.mp listed with rfl | listed
          · exact target
          · exact absurd target (later other listed)
        cases change with
        | put new =>
            rcases Table.mem_put.mp member with rfl | ⟨_, apart⟩
            · exact Table.mem_put.mpr (.inl rfl)
            · exact absurd here.symm apart
        | drop unwanted =>
            exact absurd here.symm (Table.mem_drop.mp member).2

/-- A row of the view is pending, and then was in the view before, or it is
committed and not about to change. -/
theorem mem_view_now (world : World σ ω δ ρ) {row : ϑ}
    (member : row ∈ index.table (now.view context)) :
    row ∈ index.table (world.view context) ∧
        .put row ∈ index.changes context.writes ∨
      row ∈ index.table now.db ∧
        ∀ change ∈ index.changes context.writes, change.target ≠ key row := by
  rw [table_view] at member ⊢
  by_cases touched : ∃ change ∈ index.changes context.writes,
      change.target = key row
  · left
    refine ⟨mem_applyAll_pending touched member, ?_⟩
    rcases Table.mem_of_mem_applyAll member with put | ⟨_, untouched⟩
    · exact put
    · obtain ⟨change, listed, target⟩ := touched
      exact absurd target (untouched change listed)
  · push Not at touched
    exact .inr ⟨(Table.mem_applyAll_of_untouched touched).mp member, touched⟩

section Stability

variable
  (rely : (index.discipline : Discipline σ ω ℓ δ ε ρ τ).Rely context world now)

include rely

/-- A pending row and a committed one that will stay share no entry. -/
theorem Ready.apart (ready : index.Ready context world) {left right : ϑ}
    (leftMember : left ∈ index.table (world.view context))
    (put : .put left ∈ index.changes context.writes)
    (rightMember : right ∈ index.table now.db)
    (untouched : ∀ change ∈ index.changes context.writes,
      change.target ≠ key right) {entry : χ}
    (leftHas : index.entry left = some entry)
    (rightHas : index.entry right = some entry) : False := by
  have keyApart : key left ≠ key right := untouched _ put
  -- With the entry locked, nobody else can have taken it.
  have claimed : index.Claims context left → False := by
    intro claims
    have kept := rely.lock (claims entry leftHas)
    obtain ⟨old, oldMember, oldKey, oldHas⟩ :=
      kept.2 entry rfl right rightMember rightHas
    have stays : old ∈ index.table (world.view context) := by
      rw [table_view]
      exact Table.mem_of_untouched oldMember fun change listed =>
        oldKey ▸ untouched change listed
    have rows := ready.unique left leftMember old stays entry leftHas oldHas
    exact keyApart (rows ▸ oldKey)
  cases ready.entitled _ put with
  | update _ old stored same locked claims =>
      rcases claims with unchanged | claims
      · -- The row had the entry before, and is still committed with it.
        have kept := (rely.lock locked).1 old stored rfl
        have rows := rely.inv.unique old kept right rightMember entry
          (unchanged ▸ leftHas) rightHas
        exact keyApart (same.trans (rows ▸ rfl))
      · exact claimed claims
  | insert _ absent owned claims => exact claimed claims

theorem Ready.stable (ready : index.Ready context world) :
    index.Ready context now := by
  have inv : index.Sound now.db := rely.inv
  refine ⟨inv, ?_, fun change listed =>
    (ready.entitled change listed).stable rely, ready.allowed⟩
  intro left leftMember right rightMember entry leftHas rightHas
  rcases mem_view_now world leftMember with
      ⟨leftBefore, leftPut⟩ | ⟨leftNow, leftUntouched⟩ <;>
    rcases mem_view_now world rightMember with
      ⟨rightBefore, rightPut⟩ | ⟨rightNow, rightUntouched⟩
  · exact ready.unique left leftBefore right rightBefore entry leftHas rightHas
  · exact (ready.apart rely leftBefore leftPut rightNow rightUntouched
      leftHas rightHas).elim
  · exact (ready.apart rely rightBefore rightPut leftNow leftUntouched
      rightHas leftHas).elim
  · exact inv.unique left leftNow right rightNow entry leftHas rightHas

end Stability

/-- Whatever the others do, the request can still commit. -/
theorem settled_ready :
    (index.discipline : Discipline σ ω ℓ δ ε ρ τ).Settled index.Ready where
  rely ready relied := ready.stable relied
  draw ready :=
    { sound := ready.sound
      unique := ready.unique
      entitled := fun change listed =>
        (ready.entitled change listed).grows ((Context.Grows.refl _).own _ _)
      allowed := ready.allowed }

theorem ready_clean (sound : index.Sound world.db)
    (clean : context.writes = ∅) : index.Ready context world where
  sound := sound
  unique := by
    rw [World.view, clean, WriteSet.apply_empty]
    exact sound.unique
  entitled change listed := by
    rw [clean, index.changes_empty] at listed
    exact absurd listed List.not_mem_nil
  allowed := clean ▸ index.allowed_empty

theorem Ready.valid (ready : index.Ready context world) :
    index.Valid (world.view context) :=
  index.valid_apply _ _ ready.sound.valid ready.allowed

theorem ready_open (clock : Nat) (ready : index.Ready context world) :
    index.Ready { context with now := clock } world :=
  { sound := ready.sound
    unique := ready.unique
    entitled := fun change listed =>
      (ready.entitled change listed).grows
        ⟨fun _ member => member, fun _ member => member⟩
    allowed := ready.allowed }

/-- Somebody else may hold this lock. -/
theorem not_held {resource : ℓ}
    (leaves : context.Leaves (.lock resource .update)) :
    (resource, LockMode.update) ∉ context.locks := by
  intro held
  have free := leaves _ held rfl
  simp at free

theorem Ready.keeps (ready : index.Ready context world) {hold : Hold ℓ δ}
    (leaves : context.Leaves hold) :
    index.Keeps hold (index.table world.db)
      (index.table (world.commit context).db) := by
  have after : index.table (world.commit context).db =
      (index.table world.db).applyAll (index.changes context.writes) :=
    index.table_apply _ _
  rw [after]
  cases hold with
  | always => trivial
  | value source drawn =>
      intro isSequence fresh row member
      rcases Table.mem_of_mem_applyAll member with put | ⟨old, _⟩
      · cases ready.entitled _ put with
        | update _ old stored same => exact same ▸ fresh old stored
        | insert _ _ owned =>
            intro same
            exact leaves (isSequence ▸ same ▸ owned)
      · exact fresh row old
  | lock resource mode =>
      cases mode with
      | share => trivial
      | update =>
          have free := not_held leaves
          refine ⟨?_, ?_⟩
          · rintro row member rfl
            apply Table.mem_of_untouched member
            intro change listed target
            cases ready.entitled change listed with
            | update new old stored same locked =>
                exact free ((same.symm.trans target) ▸ locked)
            | insert new absent => exact absent row member target.symm
          · rintro entry rfl row member has
            rcases Table.mem_of_mem_applyAll member with put | ⟨old, _⟩
            · cases ready.entitled _ put with
              | update _ old stored same locked claims =>
                  rcases claims with unchanged | claims
                  · exact ⟨old, stored, same.symm, unchanged ▸ has⟩
                  · exact absurd (claims entry has) free
              | insert _ _ _ claims => exact absurd (claims entry has) free
            · exact ⟨row, old, rfl, has⟩

/-- A request that is ready may commit. -/
theorem Ready.commit (ready : index.Ready context world) :
    (index.discipline : Discipline σ ω ℓ δ ε ρ τ).Guarantee context world
        (world.commit context) ∧
      index.Ready context.release (world.commit context) := by
  have sound : index.Sound (world.commit context).db :=
    ⟨ready.unique, ready.valid⟩
  exact ⟨⟨sound, fun hold leaves => ready.keeps leaves⟩,
    ready_clean sound rfl⟩

/-- Writes to other tables. -/
def Spares (index : Index σ ω ℓ δ ϑ χ) (writes : ω) : Prop :=
  index.changes writes = [] ∧ index.Allowed writes

theorem Ready.spare (ready : index.Ready context world)
    (locks : List (ℓ × LockMode)) {writes : ω} (spares : index.Spares writes) :
    index.Ready (context.extend locks writes) world := by
  obtain ⟨nothing, allowed⟩ := spares
  have changes : index.changes (context.extend locks writes).writes =
      index.changes context.writes := by
    change index.changes (context.writes ++ writes) = _
    rw [index.changes_append, nothing, List.append_nil]
  refine ⟨ready.sound, ?_, ?_,
    index.allowed_append _ _ ready.allowed allowed⟩
  · rw [table_view, changes, ← table_view]
    exact ready.unique
  · intro change listed
    rw [changes] at listed
    exact (ready.entitled change listed).grows
      ((Context.Grows.refl _).extend _ _)

/-- A row that can be stored in the view: nobody else has its entry. -/
def Fits (index : Index σ ω ℓ δ ϑ χ) (table : Table ϑ) (row : ϑ) : Prop :=
  ∀ other ∈ table, key other ≠ key row → ∀ entry,
    index.entry row = some entry → index.entry other ≠ some entry

/-- Store one row. -/
theorem Ready.put (ready : index.Ready context world)
    (locks : List (ℓ × LockMode)) {writes : ω} {row : ϑ}
    (writing : index.changes writes = [.put row])
    (allowed : index.Allowed writes)
    (fits : index.Fits (index.table (world.view context)) row)
    (entitled : index.Entitled (context.extend locks writes)
      (index.table world.db) (.put row)) :
    index.Ready (context.extend locks writes) world := by
  have changes : index.changes (context.extend locks writes).writes =
      index.changes context.writes ++ [.put row] := by
    change index.changes (context.writes ++ writes) = _
    rw [index.changes_append, writing]
  refine ⟨ready.sound, ?_, ?_,
    index.allowed_append _ _ ready.allowed allowed⟩
  · rw [table_view, changes, Table.applyAll_append, Table.applyAll_put,
      ← table_view]
    intro left leftMember right rightMember entry leftHas rightHas
    rcases Table.mem_put.mp leftMember with rfl | ⟨leftOld, leftApart⟩ <;>
      rcases Table.mem_put.mp rightMember with rfl | ⟨rightOld, rightApart⟩
    · rfl
    · exact absurd rightHas (fits right rightOld rightApart entry leftHas)
    · exact absurd leftHas (fits left leftOld leftApart entry rightHas)
    · exact ready.unique left leftOld right rightOld entry leftHas rightHas
  · intro change listed
    rw [changes, List.mem_append, List.mem_singleton] at listed
    rcases listed with before | rfl
    · exact (ready.entitled change before).grows
        ((Context.Grows.refl _).extend _ _)
    · exact entitled

/-- Store a new version of a locked row of the view. -/
theorem Ready.update (ready : index.Ready context world)
    (locks : List (ℓ × LockMode)) {writes : ω} {row old : ϑ}
    (writing : index.changes writes = [.put row])
    (allowed : index.Allowed writes)
    (stored : old ∈ index.table (world.view context)) (same : key row = key old)
    (locked : (index.rowLock (key old), LockMode.update) ∈ context.locks)
    (claims : index.entry row = index.entry old ∨
      index.Claims (context.extend locks writes) row ∧
        index.Fits (index.table (world.view context)) row) :
    index.Ready (context.extend locks writes) world := by
  have grows : context.Grows (context.extend locks writes) :=
    (Context.Grows.refl _).extend _ _
  have fits : index.Fits (index.table (world.view context)) row := by
    rcases claims with unchanged | ⟨_, fits⟩
    · intro other member apart entry has hit
      have rows := ready.unique other member old stored entry hit
        (unchanged ▸ has)
      exact apart (rows ▸ same.symm)
    · exact fits
  apply ready.put locks writing allowed fits
  rw [table_view] at stored
  rcases Table.mem_of_mem_applyAll stored with pending | ⟨committed, _⟩
  · -- The row replaced is a pending one itself.
    cases (ready.entitled _ pending).grows grows with
    | update _ first firstStored firstSame firstLocked firstClaims =>
        refine .update row first firstStored (same.trans firstSame) firstLocked
          ?_
        rcases claims with unchanged | ⟨claims, _⟩
        · rcases firstClaims with kept | firstClaims
          · exact .inl (unchanged.trans kept)
          · exact .inr fun entry has => firstClaims entry (unchanged ▸ has)
        · exact .inr claims
    | insert _ absent owned firstClaims =>
        refine .insert row (same ▸ absent) (same ▸ owned) ?_
        rcases claims with unchanged | ⟨claims, _⟩
        · exact fun entry has => firstClaims entry (unchanged ▸ has)
        · exact claims
  · exact .update row old committed same (grows.locks _ locked)
      (claims.imp id And.left)

/-- Store a row under a key of one's own. -/
theorem Ready.insert (ready : index.Ready context world)
    (locks : List (ℓ × LockMode)) {writes : ω} {row : ϑ}
    (writing : index.changes writes = [.put row])
    (allowed : index.Allowed writes)
    (absent : ∀ old ∈ index.table (world.view context), key old ≠ key row)
    (owned : (index.sequence, key row) ∈ context.owned)
    (claims : index.Claims (context.extend locks writes) row)
    (fits : index.Fits (index.table (world.view context)) row) :
    index.Ready (context.extend locks writes) world := by
  refine ready.put locks writing allowed fits (.insert row ?_ owned claims)
  -- A committed row with the key would be in the view, or replaced there.
  intro old member same
  have puts : ∀ change ∈ index.changes context.writes,
      ∃ row, change = .put row := by
    intro change listed
    cases ready.entitled change listed with
    | update row => exact ⟨row, rfl⟩
    | insert row => exact ⟨row, rfl⟩
  rw [table_view] at absent
  rcases Table.mem_or_replaced puts member with
    stays | ⟨later, _, laterKey, laterMember⟩
  · exact absent old stays same
  · exact absent later laterMember (laterKey.trans same)

/-- The row stands in the view, and its lock is held. -/
structure Holding (index : Index σ ω ℓ δ ϑ χ) (row : ϑ)
    (context : Context ω ℓ δ ρ) (world : World σ ω δ ρ) : Prop where
  ready : index.Ready context world
  stored : row ∈ index.table (world.view context)
  locked : (index.rowLock (key row), LockMode.update) ∈ context.locks

theorem settled_holding {row : ϑ} :
    (index.discipline : Discipline σ ω ℓ δ ε ρ τ).Settled
      (index.Holding row) where
  rely {context world now} holding relied := by
    refine ⟨holding.ready.stable relied, ?_, holding.locked⟩
    have stored := holding.stored
    rw [table_view] at stored ⊢
    by_cases touched : ∃ change ∈ index.changes context.writes,
        change.target = key row
    · exact mem_applyAll_pending touched stored
    · push Not at touched
      rw [Table.mem_applyAll_of_untouched touched] at stored ⊢
      exact (relied.lock holding.locked).1 row stored rfl
  draw holding :=
    ⟨settled_ready.draw (ε := ε) (τ := τ) holding.ready, holding.stored,
      holding.locked⟩

theorem Holding.spare {row : ϑ} (holding : index.Holding row context world)
    (locks : List (ℓ × LockMode)) {writes : ω} (spares : index.Spares writes) :
    index.Holding row (context.extend locks writes) world := by
  refine ⟨holding.ready.spare locks spares, ?_,
    List.mem_append_right _ holding.locked⟩
  have changes : index.changes (context.extend locks writes).writes =
      index.changes context.writes := by
    change index.changes (context.writes ++ writes) = _
    rw [index.changes_append, spares.1, List.append_nil]
  rw [table_view, changes, ← table_view]
  exact holding.stored

/-- The key is the request's own. -/
def Owning (index : Index σ ω ℓ δ ϑ χ) (value : Nat) (context : Context ω ℓ δ ρ)
    (world : World σ ω δ ρ) : Prop :=
  index.Ready context world ∧ (index.sequence, value) ∈ context.owned

theorem settled_owning {value : Nat} :
    (index.discipline : Discipline σ ω ℓ δ ε ρ τ).Settled
      (index.Owning value) where
  rely owning relied := ⟨owning.1.stable relied, owning.2⟩
  draw owning :=
    ⟨settled_ready.draw (ε := ε) (τ := τ) owning.1, .tail _ owning.2⟩

section Requests

variable {α β : Type} (mayDraw : δ → Nat → Bool) (ρ τ : Type)

/-- The program leaves the index alone, or stores rows as asked. -/
def Respects (index : Index σ ω ℓ δ ϑ χ) (program : Program σ ω ℓ δ ε α)
    (result : α → Prop) : Prop :=
  (index.discipline : Discipline σ ω ℓ δ ε ρ τ).Triple mayDraw index.Ready
    program fun value context world => index.Ready context world ∧ result value

variable {mayDraw ρ τ} {result : α → Prop} {last : β → Prop}
  {program : Program σ ω ℓ δ ε α}

namespace Respects

theorem fail {error : ε} : index.Respects mayDraw ρ τ
    (.fail error : Program σ ω ℓ δ ε α) result :=
  Discipline.Triple.fail

theorem bind {rest : α → Program σ ω ℓ δ ε β}
    (first : index.Respects mayDraw ρ τ program result)
    (next : ∀ value, result value →
      index.Respects mayDraw ρ τ (rest value) last) :
    index.Respects mayDraw ρ τ (program >>= rest) last :=
  Discipline.Triple.bind first fun value =>
    Discipline.Triple.assuming (next value)

theorem mapError (respects : index.Respects mayDraw ρ τ program result)
    (rethrow : ε → ε) :
    index.Respects mayDraw ρ τ (program.mapError rethrow) result :=
  Discipline.Triple.mapError respects rethrow

/-- A program that writes other tables only. -/
theorem ofWrites (writes : program.Writes index.Valid index.Spares result) :
    index.Respects mayDraw ρ τ program result :=
  Discipline.Triple.ofWrites writes settled_ready Ready.valid
    fun locks _ ready spares => ready.spare locks spares

theorem transaction (respects : index.Respects mayDraw ρ τ program result) :
    index.Respects mayDraw ρ τ (.transaction program) result := by
  apply Discipline.Triple.transaction settled_ready
    (fun _ _ clock ready => ready_open clock ready) respects
  · exact fun value => settled_ready.assuming
  · rintro value context world ⟨ready, holds⟩
    obtain ⟨guarantee, released⟩ := ready.commit (ε := ε) (τ := τ)
    exact ⟨guarantee, released, holds⟩

end Respects

/-- Writes to other tables leave a locked row where it is. -/
theorem holding_ofWrites {row : ϑ}
    (writes : program.Writes index.Valid index.Spares result) :
    (index.discipline : Discipline σ ω ℓ δ ε ρ τ).Triple mayDraw
      (index.Holding row) program
      fun value context world => index.Holding row context world ∧ result value :=
  Discipline.Triple.ofWrites writes settled_holding
    (fun holding => holding.ready.valid)
    fun locks _ holding spares => holding.spare locks spares

/-- A key drawn from the sequence of the table is the request's own. -/
theorem owning_draw :
    (index.discipline : Discipline σ ω ℓ δ ε ρ τ).Triple mayDraw index.Ready
      (.draw index.sequence : Program σ ω ℓ δ ε Nat) index.Owning :=
  Discipline.Triple.draw settled_ready fun _ _ _ ready _ _ =>
    ⟨settled_ready.draw (ε := ε) (τ := τ) ready, .head _⟩

/-- When all requests respect the index, it is never violated. -/
theorem sound_of_reachable [DecidableEq ℓ] [DecidableEq δ]
    {system : System σ ω ℓ δ ε ρ τ}
    (respects : ∀ state request, system.mayStart state request = true →
      ∃ result, index.Respects system.mayDraw ρ τ (system.program request)
        result)
    {initial : World σ ω δ ρ} (sound : index.Sound initial.db)
    {config : Config σ ω ℓ δ ε ρ τ}
    (reachable : system.Reachable (.idle initial) config) :
    index.Sound config.world.db := by
  have verifies : (index.discipline :
      Discipline σ ω ℓ δ ε ρ τ).Verifies system := by
    intro request world tid now inv starts
    obtain ⟨result, triple⟩ := respects world.db request starts
    refine Discipline.wp_mono (triple _ _ (ready_clean inv rfl)) ?_
      fun _ _ _ failed => failed
    exact fun _ _ _ _ => trivial
  exact (Discipline.holds_of_reachable verifies sound reachable).inv

end Requests

end Index

end Transaction
